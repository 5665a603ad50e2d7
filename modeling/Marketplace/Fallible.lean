import Mathlib.Tactic.Basic

/-! Programs whose steps may fail: a step is done whole or not at all, and what was done before a failure stays. -/
namespace Fallible
variable {P S α β : Type}

def Attempt (P S α : Type) := S → Except P α × S

namespace Attempt

def bind (x : Attempt P S α) (f : α → Attempt P S β) : Attempt P S β := fun s =>
  match x s with
  | (.ok a, t) => f a t
  | (.error p, t) => (.error p, t)

instance : Monad (Attempt P S) where
  pure a := fun s => (.ok a, s)
  bind := bind

instance : LawfulMonad (Attempt P S) :=
  LawfulMonad.mk' _
    (by
      intro α x
      funext s
      change Attempt.bind x _ s = x s
      unfold bind
      split <;> (rename_i ran; exact ran.symm))
    (fun _ _ => rfl)
    (by
      intro α β γ x f g
      funext s
      change Attempt.bind (Attempt.bind x f) g s = Attempt.bind x (fun a => Attempt.bind (f a) g) s
      unfold bind
      cases x s with
      | mk r t => cases r <;> rfl)

/-- The step at `p`. -/
def step (fails : P → Bool) (p : P) (f : S → S) : Attempt P S Unit := fun s =>
  if fails p then (.error p, s) else (.ok (), f s)

/-- What cannot fail. -/
def always (f : S → S) : Attempt P S Unit := fun s => (.ok (), f s)

def look (f : S → α) : Attempt P S α := fun s => (.ok (f s), s)

/-- Whether `x` came to its end. -/
def settle (x : Attempt P S α) : Attempt P S Bool := fun s => (.ok (x s).1.isOk, (x s).2)

/-- `Promise.allSettled`: all are run, whatever comes of each. -/
def allSettled : List (Attempt P S α) → Attempt P S (List Bool)
  | [] => pure []
  | x :: rest => do
    let one ← settle x
    let more ← allSettled rest
    return one :: more

/-- `Promise.all`: all are run, and one failure is enough. -/
def all : List (Attempt P S α) → Attempt P S (List α)
  | [] => pure []
  | x :: rest => fun s =>
    let more := all rest (x s).2
    (do return (← (x s).1) :: (← more.1), more.2)

variable {fails : P → Bool} {p : P} {f : S → S} {s t : S}

theorem bind_run (x : Attempt P S α) (k : α → Attempt P S β) :
    (x >>= k) s = match x s with | (.ok a, t) => k a t | (.error p, t) => (.error p, t) := rfl

theorem step_bind (k : Unit → Attempt P S β) :
    (step fails p f >>= k) s = if fails p then (.error p, s) else k () (f s) := by
  rw [bind_run, step]
  by_cases failed : fails p = true
  · simp [failed]
  · simp [failed]

theorem step_run : step fails p f s = if fails p then (.error p, s) else (.ok (), f s) := rfl

@[simp] theorem always_bind (k : Unit → Attempt P S β) : (always f >>= k) s = k () (f s) := rfl

@[simp] theorem look_bind {g : S → α} (k : α → Attempt P S β) : (look g >>= k) s = k (g s) s := rfl

@[simp] theorem pure_run {a : α} : (pure a : Attempt P S α) s = (.ok a, s) := rfl

section
variable {J : S → Prop}

/-- `J` holds after `x`, however it ends, if it held before. -/
def Keeps (J : S → Prop) (x : Attempt P S α) : Prop := ∀ s, J s → J (x s).2

theorem keeps_bind {x : Attempt P S α} {k : α → Attempt P S β} (first : x.Keeps J) (rest : ∀ a, (k a).Keeps J) :
    (x >>= k).Keeps J := by
  intro s held
  have after := first s held
  rw [bind_run]
  cases ran : x s with
  | mk r t =>
    rw [ran] at after
    cases r with
    | ok a => exact rest a t after
    | error p => exact after

theorem keeps_pure (a : α) : (pure a : Attempt P S α).Keeps J := fun _ held => held

theorem keeps_step (kept : ∀ s, J s → J (f s)) : (step fails p f).Keeps J := by
  intro s held
  unfold step
  split
  · exact held
  · exact kept s held

theorem keeps_always (kept : ∀ s, J s → J (f s)) : (always f : Attempt P S Unit).Keeps J := kept

theorem keeps_settle {x : Attempt P S α} (kept : x.Keeps J) : (settle x).Keeps J := kept

theorem keeps_allSettled (xs : List (Attempt P S α)) (kept : ∀ x ∈ xs, x.Keeps J) : (allSettled xs).Keeps J := by
  induction xs with
  | nil => exact keeps_pure _
  | cons x rest ih =>
    refine keeps_bind (keeps_settle (kept x List.mem_cons_self)) fun _ => ?_
    exact keeps_bind (ih fun y member => kept y (List.mem_cons_of_mem x member)) fun _ => keeps_pure _

end

/-- `x` ends in `Q`, or fails in `E`. -/
def Leads (x : Attempt P S α) (Q : α → S → Prop) (E : S → Prop) (s : S) : Prop :=
  match x s with
  | (.ok a, t) => Q a t
  | (.error _, t) => E t

section
variable {x : Attempt P S α} {k : α → Attempt P S β} {Q : α → S → Prop} {R : β → S → Prop} {E : S → Prop}

theorem leads_bind (first : x.Leads (fun a t => (k a).Leads R E t) E s) : (x >>= k).Leads R E s := by
  unfold Leads at first ⊢
  rw [bind_run]
  cases ran : x s with
  | mk r t =>
    rw [ran] at first
    cases r with
    | ok a => exact first
    | error p => exact first

theorem leads_pure {a : α} (held : Q a s) : (pure a : Attempt P S α).Leads Q E s := held

theorem leads_always {Q : Unit → S → Prop} (held : Q () (f s)) : (always f : Attempt P S Unit).Leads Q E s := held

theorem leads_look {g : S → α} (held : Q (g s) s) : (look g : Attempt P S α).Leads Q E s := held

theorem leads_mono {Q' : α → S → Prop} {E' : S → Prop} (led : x.Leads Q E s) (ended : ∀ a t, Q a t → Q' a t)
    (failed : ∀ t, E t → E' t) : x.Leads Q' E' s := by
  unfold Leads at led ⊢
  cases ran : x s with
  | mk r t =>
    rw [ran] at led
    cases r with
    | ok a => exact ended a t led
    | error p => exact failed t led

/-- What each program keeps and what it leaves of its own, if no later one undoes it. -/
theorem leads_all {J : S → Prop} {R : α → S → Prop} (xs : List (Attempt P S α))
    (each : ∀ x ∈ xs, ∀ s, J s → x.Leads (fun a t => J t ∧ R a t ∧ ∀ b, R b s → R b t) (fun t => J t ∧ ∀ b, R b s → R b t) s)
    (held : J s) :
    (all xs).Leads (fun as t => J t ∧ (∀ a ∈ as, R a t) ∧ ∀ b, R b s → R b t) (fun t => J t ∧ ∀ b, R b s → R b t) s := by
  induction xs generalizing s with
  | nil => exact ⟨held, fun a none => absurd none List.not_mem_nil, fun b => id⟩
  | cons x rest ih =>
    have one := each x List.mem_cons_self s held
    unfold Leads at one ⊢
    dsimp only [all]
    cases ran : x s with
    | mk r t =>
      rw [ran] at one
      cases r with
      | ok a =>
        obtain ⟨kept, own, stable⟩ := one
        have more := ih (fun y member => each y (List.mem_cons_of_mem x member)) kept
        unfold Leads at more
        dsimp only
        cases finished : all rest t with
        | mk rs u =>
          rw [finished] at more
          cases rs with
          | ok as =>
            obtain ⟨kept, others, later⟩ := more
            refine ⟨kept, fun b member => ?_, fun b early => later b (stable b early)⟩
            rcases List.mem_cons.mp member with rfl | member
            · exact later b own
            · exact others b member
          | error p => exact ⟨more.1, fun b early => more.2 b (stable b early)⟩
      | error p =>
        obtain ⟨kept, stable⟩ := one
        have more := ih (fun y member => each y (List.mem_cons_of_mem x member)) kept
        unfold Leads at more
        dsimp only
        cases finished : all rest t with
        | mk rs u =>
          rw [finished] at more
          cases rs with
          | ok as => exact ⟨more.1, fun b early => more.2.2 b (stable b early)⟩
          | error p => exact ⟨more.1, fun b early => more.2 b (stable b early)⟩

end

/-- What is settled is told by what each program comes to, when the state has no part in that. -/
theorem allSettled_results {ι : Type} (x : ι → Attempt P S α) (ends : ι → Bool) (is : List ι)
    (each : ∀ i ∈ is, ∀ s, (x i s).1.isOk = ends i) (s : S) : ∃ t, allSettled (is.map x) s = (.ok (is.map ends), t) := by
  induction is generalizing s with
  | nil => exact ⟨s, rfl⟩
  | cons i rest ih =>
    obtain ⟨t, more⟩ := ih (fun j member => each j (List.mem_cons_of_mem i member)) (x i s).2
    refine ⟨t, ?_⟩
    have ended := each i List.mem_cons_self s
    rw [List.map_cons, List.map_cons, allSettled, bind_run, settle, ended]
    dsimp only
    rw [bind_run, more]
    rfl

/-- Programs that all come to their ends take effect in turn. -/
theorem allSettled_effects {ι : Type} (x : ι → Attempt P S α) (effect : ι → S → S) (is : List ι) (J : S → Prop)
    (each : ∀ i ∈ is, ∀ s, J s → J (effect i s) ∧ (x i s).2 = effect i s) (s : S) (held : J s) :
    (allSettled (is.map x) s).2 = is.foldl (fun t i => effect i t) s := by
  induction is generalizing s with
  | nil => rfl
  | cons i rest ih =>
    obtain ⟨kept, ran⟩ := each i List.mem_cons_self s held
    have more := ih (fun j member => each j (List.mem_cons_of_mem i member)) (effect i s) kept
    rw [List.map_cons, allSettled, bind_run, settle, List.foldl_cons, ← more, ran]
    dsimp only
    rw [bind_run]
    cases allSettled (rest.map x) (effect i s) with
    | mk r t => cases r <;> rfl

end Attempt
end Fallible
