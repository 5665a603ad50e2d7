import Marketplace.ReadCommitted.Save

/-! A transaction run alone to its end: total correctness, statement by statement. -/
namespace ReadCommitted.Tx
variable {Key : Type} [DecidableEq Key] {Val : Key → Type} {Row : Key → Type} {Ev Err α β ι : Type}

theorem run_bind (t : Tx Val Ev Err α) (f : α → Tx Val Ev Err β) (d : Rows Val) (log : List Ev) :
    (t >>= f).run d log = match t.run d log with
      | .ok (a, rows, noted) => (f a).run rows noted
      | .error e => .error e := by
  change (t.bind f).run d log = _
  induction t generalizing d log with
  | ret a => rfl
  | fail e => rfl
  | read next ih => exact ih d d log
  | lock k next ih => exact ih d log
  | update k g next ih => exact ih _ log
  | emit e next ih => exact ih d _

/-- From `P` the transaction does not fail, and comes to its end in `Q`. -/
def Finishes (P : Rows Val → Prop) (t : Tx Val Ev Err α) (Q : α → Rows Val → Prop) : Prop :=
  ∀ d log, P d → ∃ a after noted, t.run d log = .ok (a, after, noted) ∧ Q a after

variable {P P' : Rows Val → Prop} {Q Q' : α → Rows Val → Prop}

theorem finishes_bind {R : β → Rows Val → Prop} {t : Tx Val Ev Err α} {f : α → Tx Val Ev Err β}
    (first : t.Finishes P Q) (second : ∀ a, (f a).Finishes (Q a) R) : (t >>= f).Finishes P R := by
  intro d log before
  obtain ⟨a, between, noted, ran, holds⟩ := first d log before
  obtain ⟨b, after, more, next, done⟩ := second a between noted holds
  exact ⟨b, after, more, by rw [run_bind, ran]; exact next, done⟩

theorem finishes_mono {t : Tx Val Ev Err α} (h : t.Finishes P Q) (pre : ∀ d, P' d → P d) (post : ∀ a d, Q a d → Q' a d) :
    t.Finishes P' Q' := by
  intro d log before
  obtain ⟨a, after, noted, ran, holds⟩ := h d log (pre d before)
  exact ⟨a, after, noted, ran, post a after holds⟩

theorem finishes_pure (a : α) : (pure a : Tx Val Ev Err α).Finishes P fun _ => P := fun d log holds => ⟨a, d, log, rfl, holds⟩

/-- What is read is read off the rows. -/
theorem finishes_select {f : Rows Val → α} : (select f : Tx Val Ev Err α).Finishes P fun a d => P d ∧ a = f d :=
  fun d log holds => ⟨f d, d, log, rfl, holds, rfl⟩

theorem finishes_lockRow (k : Key) : (lockRow k : Tx Val Ev Err Unit).Finishes P fun _ => P :=
  fun d log holds => ⟨(), d, log, rfl, holds⟩

theorem finishes_selectForUpdate (k : Key) : (selectForUpdate k : Tx Val Ev Err (Val k)).Finishes P fun a d => P d ∧ a = d k :=
  fun d log holds => ⟨d k, d, log, rfl, holds, rfl⟩

theorem finishes_note (e : Ev) : (note e : Tx Val Ev Err Unit).Finishes P fun _ => P :=
  fun d log holds => ⟨(), d, log ++ [e], rfl, holds⟩

theorem finishes_require {p : Prop} [Decidable p] {e : Err} (holds : ∀ d, P d → p) :
    (require p e : Tx Val Ev Err Unit).Finishes P fun _ => P := by
  intro d log before
  rw [require, if_pos (holds d before)]
  exact ⟨(), d, log, rfl, before⟩

theorem finishes_orFail {e : Err} {found : Option α} (some_ : ∀ d, P d → found ≠ none) :
    (orFail e found : Tx Val Ev Err α).Finishes P fun a d => P d ∧ found = some a := by
  intro d log before
  cases found with
  | none => exact absurd rfl (some_ d before)
  | some a => exact ⟨a, d, log, rfl, before, rfl⟩

theorem finishes_given {p : Prop} [Decidable p] {t : Tx Val Ev Err Unit} (body : p → t.Finishes P fun _ => P) :
    (given p t).Finishes P fun _ => P := by
  unfold given
  split
  · rename_i holds
    exact body holds
  · exact finishes_pure ()

theorem finishes_ite {p : Prop} [Decidable p] {t u : Tx Val Ev Err α} (yes : p → t.Finishes P Q) (no : ¬ p → u.Finishes P Q) :
    (if p then t else u).Finishes P Q := by
  split
  · rename_i holds
    exact yes holds
  · rename_i fails
    exact no fails

theorem finishes_forM {f : ι → Tx Val Ev Err Unit} (xs : List ι) (body : ∀ x ∈ xs, (f x).Finishes P fun _ => P) :
    (forM xs f).Finishes P fun _ => P := by
  induction xs with
  | nil => exact finishes_pure ()
  | cons x xs ih =>
    rw [List.forM_cons]
    exact finishes_bind (body x List.mem_cons_self) fun _ => ih fun y member => body y (List.mem_cons_of_mem x member)

/-- A fact that the transaction does not touch is there before and after. -/
theorem finishes_pull {p : Prop} {t : Tx Val Ev Err α} (h : p → t.Finishes P Q) : t.Finishes (fun d => P d ∧ p) Q :=
  fun d log before => h before.2 d log before.1

section
variable {k : Key} {S : Rows (Table Row) → Prop} {T : Unit → Rows (Table Row) → Prop}

theorem run_insert (row : Row k) (taken : Err) (d : Rows (Table Row)) (log : List Ev) :
    (insert k row taken : Tx (Table Row) Ev Err Unit).run d log =
      if d k = none then .ok ((), Function.update d k (some row), log) else .error taken := by
  have looked : (insert k row taken : Tx (Table Row) Ev Err Unit).run d log =
      ((require ((d k).isNone) taken >>= fun _ => modify k fun _ => some row : Tx (Table Row) Ev Err Unit)).run d log := rfl
  rw [looked]
  by_cases free : d k = none
  · rw [if_pos free, free]
    rfl
  · rw [if_neg free, require, if_neg (by simpa using free)]
    rfl

/-- Nothing comes between a save and the row it re-reads. -/
theorem finishes_saveMarked [DecidableEq (Row k)] (cols : Columns (Row k)) (mem : Row k) (marks : Row k → List Ev)
    (written : ∀ d, S d → T () (Function.update d k (some mem))) :
    (saveMarked cols mem marks : Tx (Table Row) Ev Err Unit).Finishes S T := by
  refine finishes_bind finishes_select fun found => ?_
  cases found with
  | none =>
    intro d log before
    exact ⟨(), _, log, rfl, written d before.1⟩
  | some reread =>
    refine finishes_bind (finishes_forM _ fun e _ => finishes_note e) fun _ => finishes_ite (fun same d log before => ?_)
      fun _ d log before => ?_
    · have stands : Function.update d k (some mem) = d := by
        rw [same, before.2]
        exact Function.update_eq_self k d
      exact ⟨(), d, log, rfl, stands ▸ written d before.1⟩
    · have wrote : Option.map (cols.write mem reread) (d k) = some mem := by
        rw [← before.2, Option.map_some, cols.fresh]
      refine ⟨(), _, log, rfl, ?_⟩
      rw [wrote]
      exact written d before.1

theorem finishes_save [DecidableEq (Row k)] (cols : Columns (Row k)) (mem : Row k)
    (written : ∀ d, S d → T () (Function.update d k (some mem))) :
    (save cols mem : Tx (Table Row) Ev Err Unit).Finishes S T := finishes_saveMarked cols mem _ written

theorem finishes_updateWhere {p : Row k → Bool} {f : Row k → Row k}
    (kept : ∀ d, S d → ∀ row, S (Function.update d k row)) :
    (updateWhere k p f : Tx (Table Row) Ev Err Unit).Finishes S fun _ => S := by
  refine finishes_bind finishes_select fun found => finishes_ite (fun _ d log before => ?_) fun _ => ?_
  · exact ⟨(), _, log, rfl, kept d before.1 _⟩
  · exact fun d log before => ⟨(), d, log, rfl, before.1⟩

end
end ReadCommitted.Tx
