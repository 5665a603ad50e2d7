import Marketplace.ReadCommitted.Guarded

/-! An invariant of the committed store, proved one transaction at a time. -/
namespace ReadCommitted

variable {Key : Type} {Val : Key → Type} {Ev Err Out : Type}

/-- As `GuardedInvariant`, where no row guards another. -/
structure Invariant [DecidableEq Key] (Val : Key → Type) (Ev Err Out : Type)
    (guard : Store Val Ev → List Ev → Prop) (fault : Err) where
  Inv : Store Val Ev → Prop
  Le : Store Val Ev → Store Val Ev → Prop
  Ready : Nat → Store Val Ev → Req Val Ev Err Out → Prop
  le_refl : ∀ s, Le s s
  le_trans : ∀ {s t u}, Le s t → Le t u → Le s u
  ready_le : ∀ {i s t r}, Le s t → Ready i s r → Ready i t r
  aborted : ∀ {i s α} {body : Tx Val Ev Err α} {ok err},
    Ready i s (.tx body ok err) → Ready i s (err fault)
  commits : ∀ {i α} {body : Tx Val Ev Err α} {ok err} {h : History Val Ev} {m : Nat},
    (∀ j ≤ h.now, Inv (h.past j)) → (∀ j k, j ≤ k → k ≤ h.now → Le (h.past j) (h.past k)) → m ≤ h.now →
    Ready i (h.past m) (.tx body ok err) →
    body.wp h.isolation
      (fun a w => (∀ k, w.held k = false → w.rows k = h.current.rows k) → guard h.current w.log →
        Inv (h.commit w) ∧ Le h.current (h.commit w) ∧ Ready i (h.commit w) (ok a))
      (fun e => Ready i h.current (err e)) (View.start h.current.rows m)

namespace Invariant

variable [DecidableEq Key] {guard : Store Val Ev → List Ev → Prop} {fault : Err} (P : Invariant Val Ev Err Out guard fault)

def toGuarded : GuardedInvariant Val Ev Err Out (fun _ _ => False) guard fault where
  Inv := P.Inv
  Le := P.Le
  Step := fun _ _ _ _ => True
  Ready := P.Ready
  le_refl := P.le_refl
  le_trans := P.le_trans
  ready_le := P.ready_le
  aborted := P.aborted
  commits := by
    intro i α body ok err h m valid ordered small ready
    refine Tx.wp_isolation (fun _ _ _ sees => sees.1) ?_
    refine Tx.wp_mono _ (P.commits valid ordered small ready) (fun a w kept free admitted => ?_) fun _ e => e
    obtain ⟨inv, le, next⟩ := kept free admitted
    exact ⟨inv, le, trivial, next, fun _ _ no => no.elim⟩

section
variable {s : Store Val Ev} {r : Nat → Req Val Ev Err Out} {c d : Conf Val Ev Err Out}

theorem run_safe (inv : P.Inv s) (ready : ∀ i, P.Ready i s (r i))
    (run : Moves guard fault (Conf.start s r) c) :
    P.Inv c.store ∧ ∀ i q, c.thread i = .idle q → P.Ready i c.store q :=
  P.toGuarded.run_safe inv ready run

theorem run_le (inv : P.Inv s) (ready : ∀ i, P.Ready i s (r i))
    (run : Moves guard fault (Conf.start s r) c) (later : Moves guard fault c d) :
    P.Le c.store d.store :=
  P.toGuarded.run_le inv ready run later

end
end Invariant

section
variable [DecidableEq Key] (guard : Store Val Ev → List Ev → Prop) (Inv : Store Val Ev → Prop)
  (Le : Store Val Ev → Store Val Ev → Prop)

/-- A transaction that keeps `Inv` and moves along `Le` whenever it is admitted. -/
def Tx.Keeps {α : Type} (body : Tx Val Ev Err α) : Prop :=
  ∀ (h : History Val Ev) (m : Nat), (∀ j ≤ h.now, Inv (h.past j)) →
    (∀ j k, j ≤ k → k ≤ h.now → Le (h.past j) (h.past k)) → m ≤ h.now →
    body.wp h.isolation
      (fun _ w => (∀ k, w.held k = false → w.rows k = h.current.rows k) → guard h.current w.log →
        Inv (h.commit w) ∧ Le h.current (h.commit w))
      (fun _ => True) (View.start h.current.rows m)

variable {guard Inv Le} (le_refl : ∀ s, Le s s) (le_trans : ∀ {s t u}, Le s t → Le t u → Le s u)

/-- Requests whose transactions all keep `Inv`, whatever the threads remember between them. -/
def Invariant.ofKeeps (fault : Err) : Invariant Val Ev Err Out guard fault where
  Inv := Inv
  Le := Le
  Ready _ _ r := r.All fun _ body => body.Keeps guard Inv Le
  le_refl := le_refl
  le_trans := le_trans
  ready_le _ ready := ready
  aborted ready := by cases ready with | tx _ _ failed => exact failed _
  commits valid ordered small ready := by
    cases ready with
    | tx now next failed =>
      refine Tx.wp_mono _ (now _ _ valid ordered small) (fun a w kept free admitted => ?_) fun e _ => failed e
      exact ⟨(kept free admitted).1, (kept free admitted).2, next a⟩

variable {fault : Err} {s : Store Val Ev} {r : Nat → Req Val Ev Err Out} {c d : Conf Val Ev Err Out}
include le_refl le_trans

theorem keeps_safe (inv : Inv s) (keeps : ∀ i, (r i).All fun _ body => body.Keeps guard Inv Le)
    (run : Moves guard fault (Conf.start s r) c) : Inv c.store :=
  ((Invariant.ofKeeps le_refl le_trans fault).run_safe inv keeps run).1

theorem keeps_le (inv : Inv s) (keeps : ∀ i, (r i).All fun _ body => body.Keeps guard Inv Le)
    (run : Moves guard fault (Conf.start s r) c) (later : Moves guard fault c d) : Le c.store d.store :=
  (Invariant.ofKeeps le_refl le_trans fault).run_le inv keeps run later

end

section
variable [DecidableEq Key] (guard : Store Val Ev → List Ev → Prop) (Inv : Store Val Ev → Prop)
  (Le : Store Val Ev → Store Val Ev → Prop) (Step : Store Val Ev → List Ev → Store Val Ev → Prop)

/-- As `Keeps`, where every admitted commit is also a step. -/
def Tx.KeepsStep {α : Type} (body : Tx Val Ev Err α) : Prop :=
  ∀ (h : History Val Ev) (m : Nat), (∀ j ≤ h.now, Inv (h.past j)) →
    (∀ j k, j ≤ k → k ≤ h.now → Le (h.past j) (h.past k)) → m ≤ h.now →
    body.wp h.isolation
      (fun _ w => (∀ k, w.held k = false → w.rows k = h.current.rows k) → guard h.current w.log →
        Inv (h.commit w) ∧ Le h.current (h.commit w) ∧ Step h.current w.log (h.commit w))
      (fun _ => True) (View.start h.current.rows m)

/-- Every admitted commit of the transaction is a step. -/
def Tx.Steps {α : Type} (body : Tx Val Ev Err α) : Prop :=
  ∀ (h : History Val Ev) (m : Nat), m ≤ h.now →
    body.wp h.isolation
      (fun _ w => (∀ k, w.held k = false → w.rows k = h.current.rows k) → guard h.current w.log →
        Step h.current w.log (h.commit w))
      (fun _ => True) (View.start h.current.rows m)

variable {guard Inv Le Step} {fault : Err} {s : Store Val Ev} {r : Nat → Req Val Ev Err Out} {c d : Conf Val Ev Err Out}

/-- The commits of each thread are steps of its own. -/
theorem keeps_step_run {Step : Nat → Store Val Ev → List Ev → Store Val Ev → Prop} (le_refl : ∀ s, Le s s)
    (le_trans : ∀ {s t u}, Le s t → Le t u → Le s u) (inv : Inv s)
    (keeps : ∀ i, (r i).All fun _ body => body.KeepsStep guard Inv Le (Step i))
    (run : Moves guard fault (Conf.start s r) c) {i : Nat} {log : List Ev} (next : c.advance i = some d)
    (committing : c.committing i = some log) (admitted : guard c.store log) : Step i c.store log d.store :=
  let P : GuardedInvariant Val Ev Err Out (fun _ _ => False) guard fault :=
    { Inv := Inv
      Le := Le
      Step := Step
      Ready := fun j _ q => q.All fun _ body => body.KeepsStep guard Inv Le (Step j)
      le_refl := le_refl
      le_trans := le_trans
      ready_le := fun _ ready => ready
      aborted := fun ready => by cases ready with | tx _ _ failed => exact failed _
      commits := by
        intro i α body ok err h m valid ordered small ready
        cases ready with
        | tx now next failed =>
          refine Tx.wp_isolation (fun _ _ _ sees => sees.1) ?_
          refine Tx.wp_mono _ (now h m valid ordered small) (fun a w kept free admitted => ?_) fun e _ => failed e
          obtain ⟨after, le, step⟩ := kept free admitted
          exact ⟨after, le, step, next a, fun _ _ no => no.elim⟩ }
  P.run_step inv keeps run next committing admitted

theorem steps_run (steps : ∀ i, (r i).All fun _ body => body.Steps guard Step)
    (run : Moves guard fault (Conf.start s r) c) {i : Nat} {log : List Ev} (next : c.advance i = some d)
    (committing : c.committing i = some log) (admitted : guard c.store log) : Step c.store log d.store := by
  have keeps : ∀ i, (r i).All fun _ body => body.KeepsStep guard (fun _ => True) (fun _ _ => True) Step := by
    intro i
    refine (steps i).mono fun α body each h m _ _ small => ?_
    refine Tx.wp_mono _ (each h m small) (fun a w kept free admitted => ?_) fun _ e => e
    exact ⟨trivial, trivial, kept free admitted⟩
  exact keeps_step_run (fun _ => trivial) (fun _ _ => trivial) trivial keeps run next committing admitted

end
end ReadCommitted
