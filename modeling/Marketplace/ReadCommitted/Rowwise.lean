import Marketplace.ReadCommitted.Invariant
import Marketplace.ReadCommitted.Save

/-! Invariants that speak of one row at a time: each update keeps them on its own. -/
namespace ReadCommitted

variable {Key : Type} {Val : Key → Type} {Ev Err α β ι : Type}

namespace Tx

/-- Each update keeps `P` of the row it changes, given that `P` holds of every row read. -/
def Preserves (P : ∀ k, Val k → Prop) : Tx Val Ev Err α → Prop
  | ret _ => True
  | fail _ => True
  | read next => ∀ d, (∀ k, P k (d k)) → (next d).Preserves P
  | lock _ next => next.Preserves P
  | update k f next => (∀ x, P k x → P k (f x)) ∧ next.Preserves P
  | emit _ next => next.Preserves P

section
variable {P : ∀ k, Val k → Prop}

theorem preserves_bind {t : Tx Val Ev Err β} {f : β → Tx Val Ev Err α} (first : t.Preserves P)
    (second : ∀ b, (f b).Preserves P) : (t >>= f).Preserves P := by
  change (t.bind f).Preserves P
  induction t with
  | ret b => exact second b
  | fail e => trivial
  | read next ih => exact fun d sound => ih d (first d sound)
  | lock k next ih => exact ih first
  | update k g next ih => exact ⟨first.1, ih first.2⟩
  | emit e next ih => exact ih first

theorem preserves_select {f : Rows Val → β} {g : β → Tx Val Ev Err α}
    (next : ∀ d, (∀ k, P k (d k)) → (g (f d)).Preserves P) : (select f >>= g).Preserves P := next

theorem preserves_modify {k : Key} {f : Val k → Val k} (keeps : ∀ x, P k x → P k (f x)) :
    (modify k f : Tx Val Ev Err Unit).Preserves P := ⟨keeps, trivial⟩

theorem preserves_require {p : Prop} [Decidable p] {e : Err} : (require p e : Tx Val Ev Err Unit).Preserves P := by
  unfold require
  split
  · trivial
  · trivial

theorem preserves_orFail {e : Err} {o : Option β} : (orFail e o : Tx Val Ev Err β).Preserves P := by
  cases o <;> trivial

theorem preserves_forM {f : ι → Tx Val Ev Err Unit} (xs : List ι) (body : ∀ x, (f x).Preserves P) :
    (forM xs f).Preserves P := by
  induction xs with
  | nil => trivial
  | cons x xs ih => exact preserves_bind (body x) fun _ => ih

/-- A transaction that only changes rows `P` says nothing of. -/
theorem preserves_of_within {K : Key → Prop} {L : Ev → Prop} {t : Tx Val Ev Err α} (h : t.Within K L)
    (free : ∀ k, K k → ∀ x, P k x) : t.Preserves P := by
  induction t with
  | ret a => trivial
  | fail e => trivial
  | read next ih => exact fun d _ => ih d (h d)
  | lock k next ih => exact ih h
  | update k g next ih => exact ⟨fun x _ => free k h.1 (g x), ih h.2⟩
  | emit e next ih => exact ih h.2

variable [DecidableEq Key]

theorem wp_of_preserves {past : Nat → Rows Val} {now : Nat} {t : Tx Val Ev Err α} {v : View Val Ev}
    (h : t.Preserves P) (committed : ∀ j ≤ now, ∀ k, P k (past j k)) (mine : ∀ k, P k (v.rows k)) :
    t.wp (.readCommitted past now) (fun _ w => ∀ k, P k (w.rows k)) (fun _ => True) v := by
  induction t generalizing v with
  | ret a => exact mine
  | fail e => trivial
  | read next ih =>
    intro d m sees
    exact ih d (h d (Isolation.pointwise sees mine committed)) mine
  | lock k next ih => exact ih h mine
  | update k g next ih =>
    refine ih h.2 fun j => ?_
    by_cases same : j = k
    · subst same
      rw [View.put_rows_self]
      exact h.1 _ (mine j)
    · rw [View.put_rows_other v g same]
      exact mine j
  | emit e next ih => exact ih h mine

theorem Preserves.keeps {guard : Store Val Ev → List Ev → Prop} {t : Tx Val Ev Err α} (h : t.Preserves P) :
    t.Keeps guard (fun s => ∀ k, P k (s.rows k)) fun _ _ => True := by
  intro h' m committed _ _
  refine wp_mono _ (wp_of_preserves h committed
    (committed h'.now (Nat.le_refl _))) (fun _ w kept _ _ => ⟨kept, trivial⟩) fun _ _ => trivial

end
end Tx
end ReadCommitted
