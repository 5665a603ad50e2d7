import Marketplace.ReadCommitted.Wp

/-! The statements an object-relational mapper issues on rows that may be absent. -/
namespace ReadCommitted

abbrev Table {Key : Type} (Row : Key → Type) : Key → Type := fun k => Option (Row k)

/-- A column after a save: the value in memory if it differs from the re-read one, else what stands. -/
def column {γ : Type} [DecidableEq γ] (mem reread current : γ) : γ :=
  if mem = reread then current else mem

@[simp] theorem column_same {γ : Type} [DecidableEq γ] (mem current : γ) :
    column mem mem current = current := if_pos rfl

@[simp] theorem column_reread {γ : Type} [DecidableEq γ] (mem reread : γ) :
    column mem reread reread = mem := by
  unfold column
  split
  · rename_i same; exact same.symm
  · rfl

theorem column_diff {γ : Type} [DecidableEq γ] {mem reread current : γ} (h : mem ≠ reread) :
    column mem reread current = mem := if_neg h

/-- How an entity's columns are written back, one by one. -/
structure Columns (R : Type) where
  write : R → R → R → R
  same : ∀ mem current, write mem mem current = current
  fresh : ∀ mem reread, write mem reread reread = mem

namespace Tx
variable {Key : Type} {Row : Key → Type} {Ev Err α : Type}

/-- `save` of an entity in memory: it re-reads the row, inserts it when it is gone and otherwise
updates the columns that differ. No difference, no statement. `marks` records the re-read row. -/
def saveMarked {k : Key} [DecidableEq (Row k)] (cols : Columns (Row k)) (mem : Row k)
    (marks : Row k → List Ev) : Tx (Table Row) Ev Err Unit := do
  match ← select fun d => d k with
  | none => modify k fun _ => some mem
  | some reread =>
    forM (marks reread) note
    if mem = reread then pure ()
    else modify k (Option.map (cols.write mem reread))

def save {k : Key} [DecidableEq (Row k)] (cols : Columns (Row k)) (mem : Row k) :
    Tx (Table Row) Ev Err Unit :=
  saveMarked cols mem fun _ => []

/-- `UPDATE ... WHERE` on one row: rows that do not match are neither changed nor locked. -/
def updateWhere (k : Key) (p : Row k → Bool) (f : Row k → Row k) : Tx (Table Row) Ev Err Unit := do
  let found ← select fun d => d k
  if found.any p then modify k (Option.map fun r => if p r then f r else r) else pure ()

/-- `DELETE ... WHERE` on one row. -/
def deleteWhere (k : Key) (p : Row k → Bool) : Tx (Table Row) Ev Err Unit := do
  let found ← select fun d => d k
  if found.any p then modify k (Option.filter fun r => !p r) else pure ()

/-- An insert waits for an open insert of the same unique value and fails on a committed one. -/
def insert (k : Key) (row : Row k) (taken : Err) : Tx (Table Row) Ev Err Unit := do
  let found ← selectForUpdate k
  require (found.isNone) taken
  modify k fun _ => some row

theorem within_saveMarked {K : Key → Prop} {L : Ev → Prop} {k : Key} [DecidableEq (Row k)]
    (cols : Columns (Row k)) (mem : Row k) (marks : Row k → List Ev) (h : K k)
    (marked : ∀ r, ∀ e ∈ marks r, L e) :
    (saveMarked cols mem marks : Tx (Table Row) Ev Err Unit).Within K L := by
  refine within_bind (within_select _) fun found => ?_
  cases found with
  | none => exact (within_modify k _).mpr h
  | some reread =>
    refine within_bind (within_forM _ fun e member => (within_note e).mpr (marked reread e member)) fun _ => ?_
    exact within_ite (within_pure ()) ((within_modify k _).mpr h)

theorem within_save {K : Key → Prop} {L : Ev → Prop} {k : Key} [DecidableEq (Row k)]
    (cols : Columns (Row k)) (mem : Row k) (h : K k) :
    (save cols mem : Tx (Table Row) Ev Err Unit).Within K L :=
  within_saveMarked cols mem _ h (by simp)

theorem within_updateWhere {K : Key → Prop} {L : Ev → Prop} (k : Key) (p : Row k → Bool)
    (f : Row k → Row k) (h : K k) : (updateWhere k p f : Tx (Table Row) Ev Err Unit).Within K L :=
  within_bind (within_select _) fun _ => within_ite ((within_modify k _).mpr h) (within_pure ())

theorem within_deleteWhere {K : Key → Prop} {L : Ev → Prop} (k : Key) (p : Row k → Bool) (h : K k) :
    (deleteWhere k p : Tx (Table Row) Ev Err Unit).Within K L :=
  within_bind (within_select _) fun _ => within_ite ((within_modify k _).mpr h) (within_pure ())

theorem within_insert {K : Key → Prop} {L : Ev → Prop} (k : Key) (row : Row k) (taken : Err) (h : K k) :
    (insert k row taken : Tx (Table Row) Ev Err Unit).Within K L :=
  within_bind (within_selectForUpdate k) fun _ =>
    within_bind (within_require _ _) fun _ => (within_modify k _).mpr h

variable [DecidableEq Key] {I : Isolation (Table Row) Ev} {Q : Unit → View (Table Row) Ev → Prop}
  {E : Err → Prop} {v : View (Table Row) Ev} {k : Key}

theorem wp_forM_note (marks : List Ev) (h : Q () { v with log := v.log ++ marks }) :
    (forM marks note : Tx (Table Row) Ev Err Unit).wp I Q E v := by
  induction marks generalizing v with
  | nil => simpa using h
  | cons e marks ih =>
    rw [List.forM_cons, wp_bind, wp_note]
    exact ih (by simpa [View.mark] using h)

/-- What a save does by the row it re-reads. -/
theorem wp_saveMarked [DecidableEq (Row k)] (cols : Columns (Row k)) (mem : Row k)
    (marks : Row k → List Ev)
    (h : ∀ d m, I.Sees v d m →
      match d k with
      | none => Q () ((v.looking m).put k fun _ => some mem)
      | some reread =>
        (mem = reread → Q () { v.looking m with log := v.log ++ marks reread }) ∧
        (mem ≠ reread → Q () (View.put { v.looking m with log := v.log ++ marks reread } k
          (Option.map (cols.write mem reread))))) :
    (saveMarked cols mem marks : Tx (Table Row) Ev Err Unit).wp I Q E v := by
  unfold saveMarked
  rw [wp_bind, wp_select]
  intro d m sees
  have found := h d m sees
  cases read : d k with
  | none => simpa [read] using found
  | some reread =>
    simp only [read] at found
    rw [wp_bind]
    refine wp_forM_note _ ?_
    rw [wp_ite]
    exact ⟨fun same => found.1 same, fun other => found.2 other⟩

theorem wp_save [DecidableEq (Row k)] (cols : Columns (Row k)) (mem : Row k)
    (h : ∀ d m, I.Sees v d m →
      match d k with
      | none => Q () ((v.looking m).put k fun _ => some mem)
      | some reread =>
        (mem = reread → Q () (v.looking m)) ∧
        (mem ≠ reread → Q () ((v.looking m).put k (Option.map (cols.write mem reread))))) :
    (save cols mem : Tx (Table Row) Ev Err Unit).wp I Q E v := by
  refine wp_saveMarked cols mem _ fun d m sees => ?_
  have found := h d m sees
  cases read : d k with
  | none => simpa [read] using found
  | some reread => simpa [read, View.looking] using found

/-- On a row the transaction holds, a save leaves exactly the entity in memory. -/
theorem wp_save_held [DecidableEq (Row k)] {cols : Columns (Row k)} {mem row : Row k}
    (held : v.held k = true) (stands : v.rows k = some row)
    (h : ∀ w, v.Continues (· = k) (fun _ => False) w → w.held k = true → w.rows k = some mem → Q () w) :
    (save cols mem : Tx (Table Row) Ev Err Unit).wp I Q E v := by
  refine wp_save cols mem fun d m sees => ?_
  have reread : d k = some row := (I.held sees held).trans stands
  rw [reread]
  have forward : v.Continues (· = k) (fun _ => False) (v.looking m) := .looking (I.forward sees)
  refine ⟨fun same => h _ forward held (same ▸ stands), fun _ => h _ ?_ (View.put_held_self _ k _) ?_⟩
  · exact forward.trans (.put rfl)
  · rw [View.put_rows_self, View.looking_rows, stands, Option.map_some, cols.fresh]

/-- So does any save of a transaction that runs alone. -/
theorem wp_saveMarked_alone [DecidableEq (Row k)] {cols : Columns (Row k)} {mem row : Row k}
    {marks : Row k → List Ev} {L : Ev → Prop} (stands : v.rows k = some row) (marked : ∀ e ∈ marks row, L e)
    (h : ∀ w, v.Continues (· = k) L w → w.rows k = some mem → Q () w) :
    (saveMarked cols mem marks : Tx (Table Row) Ev Err Unit).wp .serial Q E v := by
  refine wp_saveMarked cols mem marks fun d m sees => ?_
  obtain ⟨rfl, rfl⟩ := sees
  rw [stands]
  have noted : v.Continues (· = k) L { v.looking v.seen with log := v.log ++ marks row } :=
    ⟨fun _ held => held, Nat.le_refl _, fun _ _ => rfl, marks row, rfl, marked⟩
  refine ⟨fun same => h _ noted (same ▸ stands), fun _ => h _ (noted.trans (.put rfl)) ?_⟩
  rw [View.put_rows_self]
  change (v.rows k).map _ = _
  rw [stands, Option.map_some, cols.fresh]

theorem wp_save_alone [DecidableEq (Row k)] {cols : Columns (Row k)} {mem row : Row k}
    (stands : v.rows k = some row)
    (h : ∀ w, v.Continues (· = k) (fun _ => False) w → w.rows k = some mem → Q () w) :
    (save cols mem : Tx (Table Row) Ev Err Unit).wp .serial Q E v :=
  wp_saveMarked_alone stands (by simp) h

theorem wp_updateWhere_alone {p : Row k → Bool} {f : Row k → Row k}
    (h : ∀ w, v.Continues (· = k) (fun _ => False) w → w.rows k = (v.rows k).map (fun r => if p r then f r else r) →
      Q () w) :
    (updateWhere k p f : Tx (Table Row) Ev Err Unit).wp .serial Q E v := by
  unfold updateWhere
  rw [wp_bind, wp_select]
  rintro d m ⟨rfl, rfl⟩
  have looked : v.Continues (· = k) (fun _ => False) (v.looking v.seen) := .looking (Nat.le_refl _)
  rw [wp_ite]
  refine ⟨fun _ => h _ (looked.trans (.put rfl)) (View.put_rows_self _ k _), fun unmatched => h _ looked ?_⟩
  cases found : v.rows k with
  | none => simp [found]
  | some row => simp_all

/-- The row stands, or is the filtered one. -/
theorem wp_deleteWhere {p : Row k → Bool}
    (h : ∀ w, v.Continues (· = k) (fun _ => False) w →
      w.rows k = v.rows k ∨ w.rows k = (v.rows k).filter (fun r => !p r) → Q () w) :
    (deleteWhere k p : Tx (Table Row) Ev Err Unit).wp I Q E v := by
  unfold deleteWhere
  rw [wp_bind, wp_select]
  intro d m sees
  have looked : v.Continues (· = k) (fun _ => False) (v.looking m) := .looking (I.forward sees)
  rw [wp_ite]
  refine ⟨fun _ => ?_, fun _ => h _ looked (Or.inl rfl)⟩
  exact h _ (looked.trans (.put rfl)) (Or.inr (View.put_rows_self _ k _))

theorem wp_insert {row : Row k} {taken : Err} (clash : v.rows k ≠ none → E taken)
    (h : ∀ w, v.Continues (· = k) (fun _ => False) w → w.held k = true → v.rows k = none →
      w.rows k = some row → Q () w) :
    (insert k row taken : Tx (Table Row) Ev Err Unit).wp I Q E v := by
  unfold insert
  rw [wp_bind]
  refine wp_selectForUpdate fun w more _ => ?_
  rw [wp_bind, wp_require]
  refine ⟨fun free => ?_, fun full => clash (by simpa using full)⟩
  rw [wp_modify]
  exact h _ ((more.mono (fun _ no => no.elim) fun _ no => no).trans (.put rfl)) (View.put_held_self _ k _) (by simpa using free) (View.put_rows_self _ k _)

/-- Saving held rows one after the other leaves each at its target, with what each save has checked. -/
theorem wp_saveRows {ι : Type} (key : ι → Key) (one : ι → Tx (Table Row) Ev Err Unit)
    (target : Rows (Table Row)) (checked : ι → Prop) (distinct : ∀ i j, key i = key j → i = j)
    (ids : List ι) (nodup : ids.Nodup) (held : ∀ i ∈ ids, v.held (key i) = true)
    (saves : ∀ i ∈ ids, ∀ (u : View (Table Row) Ev) (Q : Unit → View (Table Row) Ev → Prop),
      u.held (key i) = true → u.rows (key i) = v.rows (key i) →
      (∀ w, u.Continues (· = key i) (fun _ => False) w → w.rows (key i) = target (key i) →
        checked i → Q () w) →
      (one i).wp I Q E u)
    (h : ∀ w, v.Continues (fun k => ∃ i ∈ ids, k = key i) (fun _ => False) w →
      (∀ i ∈ ids, w.rows (key i) = target (key i)) → (∀ i ∈ ids, checked i) → Q () w) :
    (forM ids one).wp I Q E v := by
  have loop := wp_forM (I := I) (E := E) (v := v)
    (fun rest w => rest.Nodup ∧ (∀ i ∈ rest, i ∈ ids) ∧
      v.Continues (fun k => ∃ i ∈ ids, k = key i) (fun _ => False) w ∧
      (∀ i ∈ rest, w.rows (key i) = v.rows (key i)) ∧
      ∀ i ∈ ids, i ∈ rest ∨ (w.rows (key i) = target (key i) ∧ checked i))
    one
    (fun i rest u kept => by
      obtain ⟨unique, inside, upto, waiting, finished⟩ := kept
      obtain ⟨fresh, unique⟩ := List.nodup_cons.mp unique
      have member : i ∈ ids := inside i List.mem_cons_self
      refine saves i member u _ (upto.held _ (held i member)) (waiting i List.mem_cons_self)
        fun w more stored ok => ?_
      have other : ∀ j ∈ rest, key j ≠ key i := fun j later same => fresh (distinct j i same ▸ later)
      refine ⟨unique, fun j later => inside j (List.mem_cons_of_mem i later),
        upto.trans (more.mono (fun k same => ⟨i, member, same⟩) fun _ no => no), fun j later => ?_,
        fun j wanted => ?_⟩
      · rw [more.rows _ (other j later)]
        exact waiting j (List.mem_cons_of_mem i later)
      · by_cases same : key j = key i
        · exact Or.inr (distinct j i same ▸ ⟨stored, ok⟩)
        · rcases finished j wanted with pending | done
          · rcases List.mem_cons.mp pending with eq | later
            · exact absurd (congrArg key eq) same
            · exact Or.inl later
          · exact Or.inr ⟨(more.rows _ same).trans done.1, done.2⟩)
    ids ⟨nodup, fun _ member => member, View.Continues.refl v, fun _ _ => rfl, fun i member => Or.inl member⟩
  refine wp_mono _ loop (fun _ w done => ?_) (fun _ e => e)
  have all : ∀ i ∈ ids, w.rows (key i) = target (key i) ∧ checked i := fun i member => by
    rcases done.2.2.2.2 i member with waiting | stored
    · cases waiting
    · exact stored
  exact h w done.2.2.1 (fun i member => (all i member).1) fun i member => (all i member).2

end Tx
end ReadCommitted
