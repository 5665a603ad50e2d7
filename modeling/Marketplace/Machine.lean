import Mathlib.Data.List.Basic

/-! Machines that take one move after the other, and what holds wherever they get. -/
namespace Machine
variable {S M : Type}

inductive Reached (act : S → M → S) (can : S → M → Prop) (init : S) : S → Prop
  | start : Reached act can init init
  | move {s : S} (m : M) : Reached act can init s → can s m → Reached act can init (act s m)

def run (act : S → M → S) (s : S) (moves : List M) : S := moves.foldl act s

/-- The moves can be taken one after the other. -/
def CanRun (act : S → M → S) (can : S → M → Prop) : S → List M → Prop
  | _, [] => True
  | s, m :: rest => can s m ∧ CanRun act can (act s m) rest

instance decidableCanRun (act : S → M → S) (can : S → M → Prop) [∀ s m, Decidable (can s m)] :
    ∀ (s : S) (moves : List M), Decidable (CanRun act can s moves)
  | _, [] => .isTrue trivial
  | s, m :: rest =>
    have := decidableCanRun act can (act s m) rest
    inferInstanceAs (Decidable (can s m ∧ CanRun act can (act s m) rest))

variable {act : S → M → S} {can : S → M → Prop} {init s : S}

theorem Reached.run {moves : List M} (reached : Reached act can init s) (allowed : CanRun act can s moves) :
    Reached act can init (run act s moves) := by
  induction moves generalizing s with
  | nil => exact reached
  | cons m rest ih => exact ih (reached.move m allowed.1) allowed.2

theorem canRun_of_forall {moves : List M} (allowed : ∀ m ∈ moves, ∀ s, can s m) : CanRun act can s moves := by
  induction moves generalizing s with
  | nil => trivial
  | cons m rest ih =>
    exact ⟨allowed m List.mem_cons_self s, ih fun m among => allowed m (List.mem_cons_of_mem _ among)⟩

theorem canRun_free (moves : List M) : CanRun act (fun _ _ => True) s moves :=
  canRun_of_forall fun _ _ _ => trivial

theorem run_append (moves later : List M) : run act s (moves ++ later) = run act (run act s moves) later :=
  List.foldl_append

theorem Reached.invariant {P : S → Prop} (reached : Reached act can init s) (start : P init)
    (step : ∀ s m, P s → can s m → P (act s m)) : P s := by
  induction reached with
  | start => exact start
  | move m _ allowed before => exact step _ m before allowed

/-- A property that each step keeps exactly if it may be taken holds throughout the runs that can be taken and no others. -/
theorem throughout_iff_canRun {I P : S → Prop} (keep : ∀ s m, I s → P s → can s m → I (act s m))
    (step : ∀ s m, I s → P s → (P (act s m) ↔ can s m)) (inv : I s) (holds : P s) (moves : List M) :
    (∀ n, P (run act s (moves.take n))) ↔ CanRun act can s moves := by
  induction moves generalizing s with
  | nil => exact iff_of_true (fun n => by rw [List.take_nil]; exact holds) trivial
  | cons m rest ih =>
    constructor
    · intro throughout
      have next : P (act s m) := throughout 1
      have allowed := (step s m inv holds).mp next
      exact ⟨allowed, (ih (keep s m inv holds allowed) next).mp fun n => throughout (n + 1)⟩
    · rintro ⟨allowed, can⟩ n
      cases n with
      | zero => exact holds
      | succ n => exact (ih (keep s m inv holds allowed) ((step s m inv holds).mpr allowed)).mpr can n

end Machine
