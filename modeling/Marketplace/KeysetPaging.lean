import Mathlib.Data.Finset.Card
import Mathlib.Data.List.Sort

/-!
Pages of a table cut behind a key, newest first, and what a walk over them lists while rows are added anywhere between the
pages.
-/
namespace KeysetPaging
variable {ρ ι : Type} [LinearOrder ι]

/-- The row is behind the cursor. No cursor is in front of every row. -/
def Behind (before : Option ι) (k : ι) : Prop := ∀ b ∈ before, k < b

instance (before : Option ι) (k : ι) : Decidable (Behind before k) :=
  match before with
  | none => .isTrue nofun
  | some b => decidable_of_iff (k < b) (by simp [Behind])

/-- `WHERE before IS NULL OR key < before ORDER BY key DESC LIMIT limit`. -/
def pageBefore (key : ρ → ι) (rows : List ρ) (before : Option ι) (limit : Nat) : List ρ :=
  ((rows.filter fun row => Behind before (key row)).insertionSort fun a b => key b ≤ key a).take limit

section page
variable {key : ρ → ι} {rows : List ρ} {before : Option ι} {limit : Nat}

theorem length_pageBefore : (pageBefore key rows before limit).length ≤ limit := List.length_take_le _ _

theorem mem_of_mem_pageBefore {row : ρ} (member : row ∈ pageBefore key rows before limit) :
    row ∈ rows ∧ Behind before (key row) := by
  have filtered := (List.mem_insertionSort _).mp (List.mem_of_mem_take member)
  rw [List.mem_filter, decide_eq_true_iff] at filtered
  exact filtered

/-- The sort that a page is the beginning of. -/
theorem pageBefore_split (before : Option ι) (limit : Nat) (unique : (rows.map key).Nodup) : ∃ rest,
    (pageBefore key rows before limit ++ rest).Perm (rows.filter fun row => Behind before (key row)) ∧
      ((pageBefore key rows before limit ++ rest).map key).Pairwise (· > ·) ∧
      ((pageBefore key rows before limit).length < limit → rest = []) := by
  let sorted := (rows.filter fun row => Behind before (key row)).insertionSort fun a b => key b ≤ key a
  have perm : sorted.Perm (rows.filter fun row => Behind before (key row)) := List.perm_insertionSort _ _
  have : Std.Total fun a b : ρ => key b ≤ key a := ⟨fun a b => le_total (key b) (key a)⟩
  have : IsTrans ρ fun a b => key b ≤ key a := ⟨fun _ _ _ first second => second.trans first⟩
  have ordered : (sorted.map key).Pairwise (· ≥ ·) := List.pairwise_map.mpr (List.pairwise_insertionSort _ _)
  have distinct : (sorted.map key).Nodup :=
    (perm.map key).nodup_iff.mpr (unique.sublist (List.filter_sublist.map key))
  have whole : pageBefore key rows before limit ++ sorted.drop limit = sorted := List.take_append_drop limit sorted
  refine ⟨sorted.drop limit, ?_, ?_, ?_⟩
  · rw [whole]
    exact perm
  · rw [whole]
    exact (ordered.and distinct).imp fun pair => lt_of_le_of_ne pair.1 (Ne.symm pair.2)
  · intro short
    apply List.drop_eq_nil_of_le
    have length : (sorted.take limit).length < limit := short
    rw [List.length_take] at length
    omega

theorem pageBefore_decreasing (unique : (rows.map key).Nodup) :
    ((pageBefore key rows before limit).map key).Pairwise (· > ·) := by
  obtain ⟨rest, -, decreasing, -⟩ := pageBefore_split before limit unique
  rw [List.map_append, List.pairwise_append] at decreasing
  exact decreasing.1

/-- What a page leaves out is behind its last row. -/
theorem behind_last (unique : (rows.map key).Nodup) {row last : ρ} (member : row ∈ rows) (behind : Behind before (key row))
    (ends : (pageBefore key rows before limit).getLast? = some last) :
    row ∈ pageBefore key rows before limit ∨ key row < key last := by
  obtain ⟨rest, perm, decreasing, -⟩ := pageBefore_split before limit unique
  have among : row ∈ pageBefore key rows before limit ++ rest :=
    perm.mem_iff.mpr (List.mem_filter.mpr ⟨member, decide_eq_true behind⟩)
  rcases List.mem_append.mp among with listed | left
  · exact .inl listed
  · rw [List.map_append, List.pairwise_append] at decreasing
    exact .inr (decreasing.2.2 _ (List.mem_map_of_mem (List.mem_of_getLast? ends)) _ (List.mem_map_of_mem left))

/-- A page that is not full leaves out nothing. -/
theorem mem_of_short (unique : (rows.map key).Nodup) {row : ρ} (member : row ∈ rows) (behind : Behind before (key row))
    (short : (pageBefore key rows before limit).length < limit) : row ∈ pageBefore key rows before limit := by
  obtain ⟨rest, perm, -, none_left⟩ := pageBefore_split before limit unique
  rw [none_left short, List.append_nil] at perm
  exact perm.mem_iff.mpr (List.mem_filter.mpr ⟨member, decide_eq_true behind⟩)

end page

/-- A walk that has listed these keys and will ask for what is behind `before`. -/
structure Progress (start : Set ι) (listed : List ι) (before : Option ι) : Prop where
  decreasing : listed.Pairwise (· > ·)
  passed : ∀ k ∈ listed, ¬Behind before k
  complete : ∀ k ∈ start, k ∈ listed ∨ Behind before k

theorem Progress.start (start : Set ι) : Progress start [] none :=
  ⟨.nil, nofun, fun _ _ => .inr nofun⟩

variable {key : ρ → ι} {rows : List ρ} {before : Option ι} {limit : Nat} {start : Set ι} {listed : List ι}

theorem Progress.decreasing_page (progress : Progress start listed before) (unique : (rows.map key).Nodup) (limit : Nat) :
    (listed ++ (pageBefore key rows before limit).map key).Pairwise (· > ·) := by
  rw [List.pairwise_append]
  refine ⟨progress.decreasing, pageBefore_decreasing unique, ?_⟩
  intro k earlier k' paged
  obtain ⟨row, member, rfl⟩ := List.mem_map.mp paged
  have behind := (mem_of_mem_pageBefore member).2
  by_contra above
  exact progress.passed k earlier fun b among => lt_of_le_of_lt (not_lt.mp above) (behind b among)

/-- The walk goes on behind the last row of a page. -/
theorem Progress.next (progress : Progress start listed before) (unique : (rows.map key).Nodup)
    (there : ∀ k ∈ start, ∃ row ∈ rows, key row = k) (limit : Nat) (last : ρ)
    (ends : (pageBefore key rows before limit).getLast? = some last) :
    Progress start (listed ++ (pageBefore key rows before limit).map key) (some (key last)) := by
  have decreasing := progress.decreasing_page unique limit
  refine ⟨decreasing, ?_, ?_⟩
  · intro k member behind
    have below : k < key last := behind (key last) rfl
    obtain ⟨front, split⟩ := List.getLast?_eq_some_iff.mp ends
    rw [split, List.map_append, ← List.append_assoc, List.pairwise_append] at decreasing
    rw [split, List.map_append, ← List.append_assoc] at member
    rcases List.mem_append.mp member with earlier | final
    · exact lt_asymm below (decreasing.2.2 k earlier (key last) (by simp))
    · simp only [List.map_cons, List.map_nil, List.mem_singleton] at final
      exact lt_irrefl _ (final ▸ below)
  · intro k member
    rcases progress.complete k member with earlier | behind
    · exact .inl (List.mem_append_left _ earlier)
    · obtain ⟨row, inside, rfl⟩ := there k member
      rcases behind_last unique inside behind ends with paged | below
      · exact .inl (List.mem_append_right _ (List.mem_map_of_mem paged))
      · exact .inr fun b among => by rwa [← Option.some.inj among]

/-- The walk is through with a page that is not full. -/
theorem Progress.last (progress : Progress start listed before) (unique : (rows.map key).Nodup)
    (there : ∀ k ∈ start, ∃ row ∈ rows, key row = k) (limit : Nat)
    (short : (pageBefore key rows before limit).length < limit) :
    ∀ k ∈ start, k ∈ listed ++ (pageBefore key rows before limit).map key := by
  intro k member
  rcases progress.complete k member with earlier | behind
  · exact List.mem_append_left _ earlier
  · obtain ⟨row, inside, rfl⟩ := there k member
    exact List.mem_append_right _ (List.mem_map_of_mem (mem_of_short unique inside behind short))

theorem length_le_card {all : Finset ι} (decreasing : listed.Pairwise (· > ·)) (within : ∀ k ∈ listed, k ∈ all) :
    listed.length ≤ all.card := by
  have distinct : listed.Nodup := decreasing.imp fun less => ne_of_gt less
  rw [← List.toFinset_card_of_nodup distinct]
  exact Finset.card_le_card fun k member => within k (List.mem_toFinset.mp member)

end KeysetPaging
