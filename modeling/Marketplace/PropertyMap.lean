import Mathlib.Data.List.Nodup
import Mathlib.Data.List.Sort

/-! Objects of ECMAScript as maps: own properties in the order they were created, and what an
assignment to one of them does. -/

structure PropertyMap (V : Type) where
  entries : List (List Char × V)
  distinct : (entries.map Prod.fst).Nodup

namespace PropertyMap
variable {V : Type}

abbrev Name := List Char

def names (o : PropertyMap V) : List Name := o.entries.map Prod.fst

def read? (o : PropertyMap V) (name : Name) : Option V := o.entries.lookup name

def empty : PropertyMap V := ⟨[], .nil⟩

/-- A property of the object itself, whatever it inherits. -/
def define (o : PropertyMap V) (name : Name) (value : V) : PropertyMap V :=
  if taken : name ∈ o.names then {
    entries := o.entries.map fun e => (e.1, if e.1 = name then value else e.2)
    distinct := by
      rw [List.map_map]
      exact o.distinct }
  else {
    entries := o.entries ++ [(name, value)]
    distinct := by
      rw [List.map_append]
      exact o.distinct.append (List.nodup_singleton name) (List.disjoint_singleton.mpr taken) }

/-- The name under which every ordinary object inherits the setter of its prototype. -/
def protoName : Name := ['_', '_', 'p', 'r', 'o', 't', 'o', '_', '_']

/-- `o[name] = value` for an ordinary object and a value that is no object: the setter of the
prototype ignores such a value. -/
def assign (o : PropertyMap V) (name : Name) (value : V) : PropertyMap V :=
  if name = protoName then o else o.define name value

/-- A decimal below `2 ^ 32 - 1` with no zero in front. -/
def arrayIndex? (name : Name) : Option Nat :=
  let n := name.foldl (fun n c => 10 * n + (c.toNat - 48)) 0
  if name ≠ [] ∧ name.all Char.isDigit ∧ (name.head? = some '0' → name = ['0']) ∧ n < 4294967295 then some n else none

/-- `Object.keys`: the array indices in their order, then the other names in that of their creation. -/
def keys (o : PropertyMap V) : List Name :=
  (o.names.filter fun name => (arrayIndex? name).isSome).insertionSort (fun a b => (arrayIndex? a).getD 0 ≤ (arrayIndex? b).getD 0) ++
    o.names.filter fun name => !(arrayIndex? name).isSome

/-- `Object.fromEntries` -/
def fromEntries (pairs : List (Name × V)) : PropertyMap V := pairs.foldl (fun o p => o.define p.1 p.2) empty

/-- A loop that assigns a value to each name in turn, starting with `{}`. -/
def assignAll (names : List Name) (value : Name → V) : PropertyMap V :=
  names.foldl (fun o name => o.assign name (value name)) empty

theorem ext_entries {a b : PropertyMap V} (same : a.entries = b.entries) : a = b := by
  cases a
  cases b
  cases same
  rfl

instance [DecidableEq V] : DecidableEq (PropertyMap V) := fun a b =>
  decidable_of_iff (a.entries = b.entries) ⟨ext_entries, fun same => same ▸ rfl⟩

theorem read?_eq_some (o : PropertyMap V) {name : Name} {value : V} :
    o.read? name = some value ↔ (name, value) ∈ o.entries := by
  have distinct := o.distinct
  unfold read?
  generalize o.entries = entries at distinct
  induction entries with
  | nil => simp
  | cons e entries ih =>
    obtain ⟨first, held⟩ := e
    rw [List.map_cons, List.nodup_cons] at distinct
    rw [List.lookup_cons, List.mem_cons]
    rcases eq_or_ne name first with rfl | other
    · rw [beq_self_eq_true]
      constructor
      · rintro ⟨⟩
        exact .inl rfl
      · rintro (same | later)
        · exact congrArg some (Prod.mk.inj same).2.symm
        · exact absurd (List.mem_map_of_mem later) distinct.1
    · rw [beq_false_of_ne other]
      refine (ih distinct.2).trans ⟨.inr, ?_⟩
      rintro (same | later)
      · exact absurd (Prod.mk.inj same).1 other
      · exact later

theorem keys_perm (o : PropertyMap V) : o.keys.Perm o.names := by
  unfold keys
  refine ((List.perm_insertionSort _ _).append_right _).trans ?_
  exact List.filter_append_perm _ _

theorem define_fresh (o : PropertyMap V) {name : Name} (fresh : name ∉ o.names) (value : V) :
    (o.define name value).entries = o.entries ++ [(name, value)] := by
  unfold define
  rw [dif_neg fresh]

theorem mem_entries_assign (o : PropertyMap V) {name : Name} {value : V} {e : Name × V}
    (there : e ∈ (o.assign name value).entries) : e.2 = value ∨ e ∈ o.entries := by
  unfold assign at there
  split at there
  · exact .inr there
  · unfold define at there
    split at there
    · obtain ⟨old, member, rfl⟩ := List.mem_map.mp there
      dsimp only
      split
      · exact .inl rfl
      · exact .inr member
    · rcases List.mem_append.mp there with early | late
      · exact .inr early
      · rw [List.mem_singleton.mp late]
        exact .inl rfl

theorem fromEntries_entries {pairs : List (Name × V)} (distinct : (pairs.map Prod.fst).Nodup) :
    (fromEntries pairs).entries = pairs := by
  have grown : ∀ (pairs : List (Name × V)) (o : PropertyMap V), ((o.entries ++ pairs).map Prod.fst).Nodup →
      (pairs.foldl (fun o p => o.define p.1 p.2) o).entries = o.entries ++ pairs := by
    intro pairs
    induction pairs with
    | nil => intro o _; exact (List.append_nil _).symm
    | cons p pairs ih =>
      intro o distinct
      have fresh : p.1 ∉ o.names := by
        intro mem
        rw [List.map_append, List.map_cons] at distinct
        exact (List.nodup_append.mp distinct).2.2 _ mem _ List.mem_cons_self rfl
      have one := define_fresh o fresh p.2
      rw [List.foldl_cons, ih _ (by rw [one, List.append_assoc]; exact distinct), one, List.append_assoc]
      rfl
  exact grown pairs empty distinct

/-- The loop loses the name of the prototype's setter, and no other. -/
theorem assignAll_entries {names : List Name} (distinct : names.Nodup) (value : Name → V) :
    (assignAll names value).entries = (names.filter (· ≠ protoName)).map fun name => (name, value name) := by
  have grown : ∀ (names : List Name) (o : PropertyMap V), (o.names ++ names).Nodup →
      (names.foldl (fun o name => o.assign name (value name)) o).entries =
        o.entries ++ (names.filter (· ≠ protoName)).map fun name => (name, value name) := by
    intro names
    induction names with
    | nil => intro o _; exact (List.append_nil _).symm
    | cons name names ih =>
      intro o distinct
      rw [List.foldl_cons]
      rcases eq_or_ne name protoName with proto | other
      · have kept : o.assign name (value name) = o := if_pos proto
        rw [kept, List.filter_cons_of_neg (by simpa using proto)]
        exact ih o (distinct.sublist ((List.sublist_cons_self _ _).append_left _))
      · have fresh : name ∉ o.names := fun mem => (List.nodup_append.mp distinct).2.2 _ mem _ List.mem_cons_self rfl
        have added : (o.assign name (value name)).entries = o.entries ++ [(name, value name)] := by
          unfold assign
          rw [if_neg other, define_fresh o fresh]
        have grownNames : (o.assign name (value name)).names = o.names ++ [name] := by
          unfold PropertyMap.names
          rw [added, List.map_append]
          rfl
        rw [ih _ (by rw [grownNames, List.append_assoc]; exact distinct), added, List.append_assoc,
          List.filter_cons_of_pos (by simpa using other)]
        rfl
  exact grown names empty distinct

theorem filter_perm_iff (a b : PropertyMap V) (kept : Name → Bool) :
    (a.entries.filter fun e => kept e.1).Perm (b.entries.filter fun e => kept e.1) ↔
      ∀ name, kept name = true → a.read? name = b.read? name := by
  have nodup (o : PropertyMap V) : (o.entries.filter fun e => kept e.1).Nodup := (List.Nodup.of_map _ o.distinct).filter _
  rw [List.perm_ext_iff_of_nodup (nodup a) (nodup b)]
  constructor
  · intro same name chosen
    ext value
    rw [read?_eq_some, read?_eq_some]
    have one := same (name, value)
    rw [List.mem_filter, List.mem_filter] at one
    exact ⟨fun held => (one.mp ⟨held, chosen⟩).1, fun held => (one.mpr ⟨held, chosen⟩).1⟩
  · rintro same ⟨name, value⟩
    rw [List.mem_filter, List.mem_filter]
    refine and_congr_left fun chosen => ?_
    rw [← read?_eq_some, ← read?_eq_some, same name chosen]

end PropertyMap
