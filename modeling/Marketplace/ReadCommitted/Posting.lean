import Marketplace.ReadCommitted.Ledger

/-! Marks that take effect when they are made, whether or not the transaction commits. -/
namespace ReadCommitted

variable {Key : Type} {Val : Key → Type} {Ev Err Out α : Type}

theorem Moves.trans [DecidableEq Key] {guard : Store Val Ev → List Ev → Prop} {fault : Err} {c d e : Conf Val Ev Err Out}
    (first : Moves guard fault c d) (second : Moves guard fault d e) : Moves guard fault c e := by
  induction second with
  | refl => exact first
  | tail _ last ih => exact .tail ih last

/-- The marks of the open transaction. -/
def Thread.log : Thread Val Ev Err Out → List Ev
  | .active _ _ _ _ log => log
  | _ => []

variable (acts : Ev → Prop)

/-- One mark at most takes effect, and marks are all that comes after it. -/
def Tx.Seals : Tx Val Ev Err α → List Ev → Prop
  | .ret _, _ => True
  | .fail _, log => ∀ e ∈ log, ¬ acts e
  | .read next, log => (∀ e ∈ log, ¬ acts e) ∧ ∀ d, (next d).Seals log
  | .lock _ next, log => (∀ e ∈ log, ¬ acts e) ∧ next.Seals log
  | .update _ _ next, log => (∀ e ∈ log, ¬ acts e) ∧ next.Seals log
  | .emit e next, log => (acts e → ∀ x ∈ log, ¬ acts x) ∧ next.Seals (log ++ [e])

def Req.Seals : Req Val Ev Err Out → Prop
  | .done _ => True
  | .tx body ok err => body.Seals acts [] ∧ (∀ a, (ok a).Seals) ∧ ∀ e, (err e).Seals

def Thread.Seals : Thread Val Ev Err Out → Prop
  | .idle r => r.Seals acts
  | .active body ok err _ log => body.Seals acts log ∧ (∀ a, (ok a).Seals acts) ∧ ∀ e, (err e).Seals acts
  | .down => True

variable {acts}

/-- Without marks that take effect so far, the part in front decides about its own marks only. -/
theorem Tx.seals_bind {β : Type} {t : Tx Val Ev Err β} {f : β → Tx Val Ev Err α} {log : List Ev}
    (none_ : ∀ e ∈ log, ¬ acts e) (quiet : t.Within (fun _ => True) fun e => ¬ acts e)
    (rest : ∀ b more, (∀ e ∈ more, ¬ acts e) → (f b).Seals acts more) : (t >>= f).Seals acts log := by
  change (t.bind f).Seals acts log
  induction t generalizing log with
  | ret b => exact rest b log none_
  | fail e => exact none_
  | read next ih => exact ⟨none_, fun d => ih d none_ (quiet d)⟩
  | lock k next ih => exact ⟨none_, ih none_ quiet⟩
  | update k g next ih => exact ⟨none_, ih none_ quiet.2⟩
  | emit e next ih =>
    refine ⟨fun act => absurd act quiet.1, ih (fun x member => ?_) quiet.2⟩
    rcases List.mem_append.mp member with early | last
    · exact none_ x early
    · obtain rfl := List.mem_singleton.mp last
      exact quiet.1

theorem Tx.seals_notes {ι : Type} (xs : List ι) (f : ι → Ev) {log : List Ev}
    (once : (log ++ xs.map f).Pairwise fun x y => ¬ (acts x ∧ acts y)) :
    (forM xs fun x => note (f x) : Tx Val Ev Err Unit).Seals acts log := by
  induction xs generalizing log with
  | nil => trivial
  | cons x xs ih =>
    rw [List.forM_cons]
    refine ⟨fun act y member other => ?_, ?_⟩
    · rw [List.pairwise_append] at once
      exact once.2.2 y member (f x) List.mem_cons_self ⟨other, act⟩
    · exact ih (by simpa using once)

variable {c d : Conf Val Ev Err Out}

theorem Thread.Seals.become (sealed : ∀ i, (c.thread i).Seals acts) {i : Nat} {t : Thread Val Ev Err Out}
    (thread : d.thread = Function.update c.thread i t) (own : t.Seals acts) (j : Nat) : (d.thread j).Seals acts := by
  rw [thread]
  by_cases same : j = i
  · subst same
    rw [Function.update_self]
    exact own
  · rw [Function.update_of_ne same]
    exact sealed j

variable [DecidableEq Key]

theorem seals_advance (sealed : ∀ i, (c.thread i).Seals acts) {i : Nat} (next : c.advance i = some d) (j : Nat) :
    (d.thread j).Seals acts := by
  have own := sealed i
  unfold Conf.advance at next
  split at next
  · cases next
  · cases next
  · next body ok err found =>
    rw [found] at own
    cases next
    refine Thread.Seals.become (i := i) sealed rfl ?_ j
    exact own
  · next a ok err mine log found =>
    rw [found] at own
    cases next
    refine Thread.Seals.become (i := i) sealed rfl ?_ j
    exact own.2.1 a
  · next e ok err mine log found =>
    rw [found] at own
    cases next
    refine Thread.Seals.become (i := i) sealed rfl ?_ j
    exact own.2.2 e
  · next body ok err mine log found =>
    rw [found] at own
    cases next
    refine Thread.Seals.become (i := i) sealed rfl ?_ j
    exact ⟨own.1.2 _, own.2⟩
  · next k body ok err mine log found =>
    rw [found] at own
    have going : ∀ rows, (Thread.active body ok err rows log : Thread Val Ev Err Out).Seals acts := fun _ => ⟨own.1.2, own.2⟩
    split at next
    · cases next
      refine Thread.Seals.become (i := i) sealed rfl ?_ j
      exact going _
    · split at next
      · cases next
        refine Thread.Seals.become (i := i) sealed rfl ?_ j
        exact going _
      · cases next
  · next k f body ok err mine log found =>
    rw [found] at own
    have going : ∀ rows, (Thread.active body ok err rows log : Thread Val Ev Err Out).Seals acts := fun _ => ⟨own.1.2, own.2⟩
    split at next
    · cases next
      refine Thread.Seals.become (i := i) sealed rfl ?_ j
      exact going _
    · split at next
      · cases next
        refine Thread.Seals.become (i := i) sealed rfl ?_ j
        exact going _
      · cases next
  · next e body ok err mine log found =>
    rw [found] at own
    cases next
    refine Thread.Seals.become (i := i) sealed rfl ?_ j
    exact ⟨own.1.2, own.2⟩

theorem seals_move {guard : Store Val Ev → List Ev → Prop} {fault : Err} (sealed : ∀ i, (c.thread i).Seals acts)
    (move : Move guard fault c d) (j : Nat) : (d.thread j).Seals acts := by
  cases move with
  | step i next _ => exact seals_advance sealed next j
  | abort i running =>
    have own := sealed i
    rw [running] at own
    refine Thread.Seals.become (i := i) sealed rfl ?_ j
    exact own.2.2 fault
  | crash i =>
    refine Thread.Seals.become (i := i) sealed rfl ?_ j
    trivial

theorem seals_moves {guard : Store Val Ev → List Ev → Prop} {fault : Err} (sealed : ∀ i, (c.thread i).Seals acts)
    (run : Moves guard fault c d) (j : Nat) : (d.thread j).Seals acts := by
  induction run generalizing j with
  | refl => exact sealed j
  | tail _ last ih => exact seals_move ih last j

/-- How a step moves the marks of its thread. -/
inductive Advanced (c d : Conf Val Ev Err Out) (i : Nat) : Prop
  | goes (store : d.store = c.store) (log : ∃ more, (d.thread i).log = (c.thread i).log ++ more)
  | commits (journal : d.store.journal = c.store.journal ++ (c.thread i).log)
  | fails {α : Type} {e : Err} {ok : α → Req Val Ev Err Out} {err : Err → Req Val Ev Err Out} {mine : Rows Val}
      {log : List Ev} (found : c.thread i = .active (.fail e) ok err mine log) (store : d.store = c.store)

theorem advanced {i : Nat} (next : c.advance i = some d) : Advanced c d i ∧ ∀ j, j ≠ i → d.thread j = c.thread j := by
  unfold Conf.advance at next
  split at next
  · cases next
  · cases next
  · next body ok err found =>
    cases next
    refine ⟨.goes rfl ⟨[], ?_⟩, fun j other => Function.update_of_ne other _ _⟩
    simp [Conf.become, found, Thread.log]
  · next a ok err mine log found =>
    cases next
    refine ⟨.commits ?_, fun j other => Function.update_of_ne other _ _⟩
    simp [Conf.become, Conf.release, found, Thread.log]
  · next e ok err mine log found =>
    cases next
    exact ⟨.fails found rfl, fun j other => Function.update_of_ne other _ _⟩
  · next body ok err mine log found =>
    cases next
    refine ⟨.goes rfl ⟨[], ?_⟩, fun j other => Function.update_of_ne other _ _⟩
    simp [Conf.become, found, Thread.log]
  · next k body ok err mine log found =>
    split at next
    · cases next
      refine ⟨.goes rfl ⟨[], ?_⟩, fun j other => Function.update_of_ne other _ _⟩
      simp [Conf.become, found, Thread.log]
    · split at next
      · cases next
        refine ⟨.goes rfl ⟨[], ?_⟩, fun j other => Function.update_of_ne other _ _⟩
        simp [Conf.become, found, Thread.log]
      · cases next
  · next k f body ok err mine log found =>
    split at next
    · cases next
      refine ⟨.goes rfl ⟨[], ?_⟩, fun j other => Function.update_of_ne other _ _⟩
      simp [Conf.become, found, Thread.log]
    · split at next
      · cases next
        refine ⟨.goes rfl ⟨[], ?_⟩, fun j other => Function.update_of_ne other _ _⟩
        simp [Conf.become, found, Thread.log]
      · cases next
  · next e body ok err mine log found =>
    cases next
    refine ⟨.goes rfl ⟨[e], ?_⟩, fun j other => Function.update_of_ne other _ _⟩
    simp [Conf.become, found, Thread.log]

omit [DecidableEq Key] in
theorem Advanced.journal {i : Nat} (advanced : Advanced c d i) : c.store.journal ⊆ d.store.journal := by
  cases advanced with
  | goes store _ =>
    rw [store]
    exact List.Subset.refl _
  | commits journal =>
    rw [journal]
    exact List.subset_append_left _ _
  | fails _ store =>
    rw [store]
    exact List.Subset.refl _

/-- A mark that has taken effect stays with its transaction until it is committed. -/
theorem acting_advance (sealed : ∀ i, (c.thread i).Seals acts) {i : Nat} (next : c.advance i = some d) {j : Nat} {e : Ev}
    (act : acts e) (member : e ∈ (c.thread j).log) : e ∈ (d.thread j).log ∨ e ∈ d.store.journal := by
  obtain ⟨step, others⟩ := advanced next
  by_cases same : j = i
  · subst same
    cases step with
    | goes store log =>
      obtain ⟨more, grown⟩ := log
      rw [grown]
      exact Or.inl (List.mem_append_left _ member)
    | commits journal =>
      rw [journal]
      exact Or.inr (List.mem_append_right _ member)
    | fails found store =>
      have own := sealed j
      rw [found] at own member
      exact absurd act (own.1 e member)
  · rw [others j same]
    exact Or.inl member

/-- A transaction with a mark that has taken effect can only commit. -/
theorem exists_commit {R : α → List Ev → Prop} {body : Tx Val Ev Err α} {ok : α → Req Val Ev Err Out}
    {err : Err → Req Val Ev Err Out} {mine : Rows Val} {log : List Ev} {i : Nat} {fault : Err}
    (found : c.thread i = .active body ok err mine log) (sealed : body.Seals acts log) (ends : body.Ends R log)
    {e : Ev} (act : acts e) (member : e ∈ log) :
    ∃ d a all, Moves (fun _ _ => True) fault c d ∧ (∀ j, j ≠ i → d.thread j = c.thread j) ∧
      d.store.journal = c.store.journal ++ all ∧ R a all ∧ log ⊆ all := by
  induction body generalizing c log with
  | ret a =>
    let d := ({ c with store := ⟨c.overlay i mine, c.store.journal ++ log⟩ }.release i).become i (.idle (ok a))
    have step : c.advance i = some d := by simp [Conf.advance, found, d]
    refine ⟨d, a, log, .tail (.refl c) (.step i step fun _ _ => trivial), fun j other => ?_, rfl, ends, List.Subset.refl _⟩
    exact Function.update_of_ne other _ _
  | fail e' => exact absurd act (sealed e member)
  | read next ih => exact absurd act (sealed.1 e member)
  | lock k next ih => exact absurd act (sealed.1 e member)
  | update k f next ih => exact absurd act (sealed.1 e member)
  | emit e' next ih =>
    have step : c.advance i = some (c.become i (.active next ok err mine (log ++ [e']))) := by
      simp [Conf.advance, found]
    have now : (c.become i (.active next ok err mine (log ++ [e']))).thread i = .active next ok err mine (log ++ [e']) :=
      Function.update_self ..
    obtain ⟨d, a, all, run, others, journal, made, grown⟩ := ih now sealed.2 ends (List.mem_append_left _ member)
    refine ⟨d, a, all, .head (.step i step fun _ _ => trivial) run, fun j other => ?_, journal, made, ?_⟩
    · exact (others j other).trans (Function.update_of_ne other _ _)
    · exact List.Subset.trans (List.subset_append_left log [e']) grown

end ReadCommitted
