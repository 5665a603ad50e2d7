import Marketplace.ReadCommitted.Invariant
import Marketplace.ReadCommitted.Save

/-! Statements that only read, and statements that change several rows. -/
namespace ReadCommitted

section
variable {Key : Type} {Val : Key → Type} {Ev Err : Type} [DecidableEq Key] {guard : Store Val Ev → List Ev → Prop}
  {Inv : Store Val Ev → Prop} {Le : Store Val Ev → Store Val Ev → Prop}

/-- A statement that only reads keeps whatever holds. -/
theorem Tx.keeps_select {α : Type} (f : Rows Val → α) (le_refl : ∀ s, Le s s) :
    (Tx.select f : Tx Val Ev Err α).Keeps guard Inv Le := by
  intro h m valid _ _
  rw [Tx.wp_select]
  intro d n _ _ _
  have same : h.commit ((View.start h.current.rows m).looking n) = h.current := by simp [History.commit]
  rw [same]
  exact ⟨valid h.now (Nat.le_refl _), le_refl _⟩

end

namespace Tx
variable {Key : Type} {Val : Key → Type} {Ev Err : Type} [DecidableEq Key] {I : Isolation Val Ev}
  {E : Err → Prop} {v : View Val Ev} {Q : Unit → View Val Ev → Prop}

/-- Each of the rows is changed once, by what stands in it when its turn comes. -/
theorem wp_modifyRows (f : ∀ k, Val k → Val k) (keys : List Key) (nodup : keys.Nodup)
    (h : ∀ w, w.log = v.log → w.seen = v.seen → (∀ k, w.held k = (decide (k ∈ keys) || v.held k)) →
      (∀ k, w.rows k = if k ∈ keys then f k (v.rows k) else v.rows k) → Q () w) :
    (forM keys fun k => modify k (f k) : Tx Val Ev Err Unit).wp I Q E v := by
  induction keys generalizing v with
  | nil => exact h v rfl rfl (by simp) (by simp)
  | cons k keys ih =>
    obtain ⟨fresh, nodup⟩ := List.nodup_cons.mp nodup
    rw [List.forM_cons, wp_bind, wp_modify]
    refine ih nodup fun w log seen held rows => h w log seen (fun j => ?_) fun j => ?_
    · rw [held j]
      by_cases same : j = k
      · subst same; simp
      · simp [View.put, same]
    · rw [rows j]
      by_cases same : j = k
      · subst same; simp [fresh]
      · simp [same, View.put_rows_other v (f k) same]

section
variable {J : View Val Ev → Prop} {α ι : Type}

theorem maintains_select {f : Rows Val → α} (stable : ∀ v m, J v → J (v.looking m)) :
    (select f : Tx Val Ev Err α).Maintains J := by
  intro I v holds
  rw [wp_select]
  exact fun _ m _ => stable v m holds

theorem maintains_forM {f : ι → Tx Val Ev Err Unit} (xs : List ι) (body : ∀ x, (f x).Maintains J) :
    (forM xs f).Maintains J := by
  induction xs with
  | nil => exact fun _ _ holds => holds
  | cons x xs ih =>
    rw [List.forM_cons]
    exact maintains_bind (body x) fun _ => ih

/-- What a transaction carries from its start is there at its commit. -/
theorem keeps_of_maintains {guard : Store Val Ev → List Ev → Prop} {Inv : Store Val Ev → Prop} {t : Tx Val Ev Err α}
    {J : Store Val Ev → View Val Ev → Prop} (maintains : ∀ s, t.Maintains (J s))
    (start : ∀ s m, Inv s → J s (View.start s.rows m))
    (commit : ∀ s w, Inv s → J s w → guard s w.log → Inv ⟨w.rows, s.journal ++ w.log⟩) :
    t.Keeps guard Inv fun _ _ => True := by
  intro h m sound _ _
  have kept := sound h.now (Nat.le_refl _)
  refine wp_mono _ (maintains h.current _ _ (start h.current m kept)) (fun _ w carried _ admitted => ?_) fun _ e => e
  exact ⟨commit h.current w kept carried admitted, trivial⟩

end

end Tx
end ReadCommitted
