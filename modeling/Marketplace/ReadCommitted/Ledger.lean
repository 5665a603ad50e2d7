import Marketplace.ReadCommitted.System

/-! Which thread each mark of a journal comes from, where every thread commits marks once at most. -/
namespace ReadCommitted

variable {Key : Type} {Val : Key → Type} {Ev Err Out α β : Type}

namespace Tx

/-- Whatever it reads, the transaction ends with an answer and marks in `R`. -/
def Ends (R : α → List Ev → Prop) : Tx Val Ev Err α → List Ev → Prop
  | ret a, log => R a log
  | fail _, _ => True
  | read next, log => ∀ d, (next d).Ends R log
  | lock _ next, log => next.Ends R log
  | update _ _ next, log => next.Ends R log
  | emit e next, log => next.Ends R (log ++ [e])

section
variable {R : α → List Ev → Prop} {log : List Ev}

@[simp] theorem ends_pure (a : α) : (pure a : Tx Val Ev Err α).Ends R log ↔ R a log := Iff.rfl

@[simp] theorem ends_select (f : Rows Val → α) :
    (select f : Tx Val Ev Err α).Ends R log ↔ ∀ d, R (f d) log := Iff.rfl

@[simp] theorem ends_selectForUpdate (k : Key) {R : Val k → List Ev → Prop} :
    (selectForUpdate k : Tx Val Ev Err (Val k)).Ends R log ↔ ∀ d : Rows Val, R (d k) log := Iff.rfl

@[simp] theorem ends_modify (k : Key) (f : Val k → Val k) {R : Unit → List Ev → Prop} :
    (modify k f : Tx Val Ev Err Unit).Ends R log ↔ R () log := Iff.rfl

@[simp] theorem ends_note (e : Ev) {R : Unit → List Ev → Prop} :
    (note e : Tx Val Ev Err Unit).Ends R log ↔ R () (log ++ [e]) := Iff.rfl

@[simp] theorem ends_bind (t : Tx Val Ev Err β) (f : β → Tx Val Ev Err α) :
    (t >>= f).Ends R log ↔ t.Ends (fun b more => (f b).Ends R more) log := by
  change (t.bind f).Ends R log ↔ _
  induction t generalizing log with
  | ret b => rfl
  | fail e => rfl
  | read next ih => exact forall_congr' fun d => ih d
  | lock k next ih => exact ih
  | update k g next ih => exact ih
  | emit e next ih => exact ih

theorem ends_require {p : Prop} [Decidable p] {e : Err} {R : Unit → List Ev → Prop} (h : p → R () log) :
    (require p e : Tx Val Ev Err Unit).Ends R log := by
  unfold require
  split
  · next holds => exact h holds
  · trivial

theorem ends_notes {ι : Type} (xs : List ι) (f : ι → Ev) {R : Unit → List Ev → Prop} (h : R () (log ++ xs.map f)) :
    (forM xs fun x => note (f x) : Tx Val Ev Err Unit).Ends R log := by
  induction xs generalizing log with
  | nil => simpa using h
  | cons x xs ih =>
    rw [List.forM_cons, ends_bind, ends_note]
    refine ih ?_
    simpa using h

theorem Ends.mono {S : α → List Ev → Prop} {t : Tx Val Ev Err α} (ends : t.Ends R log)
    (weaker : ∀ a more, R a more → S a more) : t.Ends S log := by
  induction t generalizing log with
  | ret a => exact weaker a log ends
  | fail e => trivial
  | read next ih => exact fun d => ih d (ends d)
  | lock k next ih => exact ih ends
  | update k g next ih => exact ih ends
  | emit e next ih => exact ih ends

end
end Tx

/-- The request commits marks once at most, and then marks in `M`. -/
def Req.Once : Req Val Ev Err Out → (List Ev → Prop) → Prop
  | .done _, _ => True
  | .tx body ok err, M =>
    body.Ends (fun a log => (log = [] ∧ (ok a).Once M) ∨ (M log ∧ (ok a).Once fun _ => False)) [] ∧ ∀ e, (err e).Once M

def Thread.Once (t : Thread Val Ev Err Out) (M : List Ev → Prop) : Prop :=
  match t with
  | .idle r => r.Once M
  | .active body ok err _ log =>
    body.Ends (fun a log => (log = [] ∧ (ok a).Once M) ∨ (M log ∧ (ok a).Once fun _ => False)) log ∧ ∀ e, (err e).Once M
  | .down => True

section
variable {M N : List Ev → Prop}

theorem Req.Once.mono {r : Req Val Ev Err Out} (once : r.Once M) (weaker : ∀ log, M log → N log) : r.Once N := by
  induction r with
  | done out => trivial
  | tx body ok err ihOk ihErr =>
    refine ⟨once.1.mono fun a log kind => ?_, fun e => ihErr e (once.2 e)⟩
    rcases kind with ⟨none, rest⟩ | ⟨made, rest⟩
    · exact Or.inl ⟨none, ihOk a rest⟩
    · exact Or.inr ⟨weaker log made, rest⟩

theorem Thread.Once.mono {t : Thread Val Ev Err Out} (once : t.Once M) (weaker : ∀ log, M log → N log) : t.Once N := by
  cases t with
  | idle r => exact Req.Once.mono once weaker
  | active body ok err mine log =>
    refine ⟨once.1.mono fun a log kind => ?_, fun e => (once.2 e).mono weaker⟩
    rcases kind with ⟨none, rest⟩ | ⟨made, rest⟩
    · exact Or.inl ⟨none, rest.mono weaker⟩
    · exact Or.inr ⟨weaker log made, rest⟩
  | down => trivial

end

/-- The commits that brought marks, each with its thread, oldest first. -/
structure Ledger (s : Store Val Ev) (M : Nat → List Ev → Prop) (c : Conf Val Ev Err Out) (entries : List (Nat × List Ev)) :
    Prop where
  threads : ∀ i, (c.thread i).Once fun log => i ∉ entries.map Prod.fst ∧ M i log
  nodup : (entries.map Prod.fst).Nodup
  journal : c.store.journal = s.journal ++ entries.flatMap Prod.snd
  made : ∀ x ∈ entries, M x.1 x.2

variable {s : Store Val Ev} {M : Nat → List Ev → Prop} {c d : Conf Val Ev Err Out} {entries : List (Nat × List Ev)}

/-- A thread goes on without a commit. -/
theorem Ledger.become (ledger : Ledger s M c entries) {i : Nat} {t : Thread Val Ev Err Out} (store : d.store = c.store)
    (thread : d.thread = Function.update c.thread i t) (once : t.Once fun log => i ∉ entries.map Prod.fst ∧ M i log) :
    Ledger s M d entries where
  threads j := by
    rw [thread]
    by_cases same : j = i
    · subst same
      rw [Function.update_self]
      exact once
    · rw [Function.update_of_ne same]
      exact ledger.threads j
  nodup := ledger.nodup
  journal := by rw [store, ledger.journal]
  made := ledger.made

/-- A thread commits its marks. -/
theorem Ledger.commit (ledger : Ledger s M c entries) {i : Nat} {log : List Ev} {r : Req Val Ev Err Out} {rows : Rows Val}
    (store : d.store = ⟨rows, c.store.journal ++ log⟩) (thread : d.thread = Function.update c.thread i (.idle r))
    (made : i ∉ entries.map Prod.fst ∧ M i log) (silent : r.Once fun _ => False) :
    Ledger s M d (entries ++ [(i, log)]) where
  threads j := by
    rw [thread]
    by_cases same : j = i
    · subst same
      rw [Function.update_self]
      exact silent.mono fun _ no => no.elim
    · rw [Function.update_of_ne same]
      refine (ledger.threads j).mono fun log kind => ⟨?_, kind.2⟩
      rw [List.map_append, List.mem_append, not_or]
      exact ⟨kind.1, fun last => same (List.mem_singleton.mp last)⟩
  nodup := by
    rw [List.map_append, List.nodup_append]
    refine ⟨ledger.nodup, List.pairwise_singleton _ i, fun j early k last => ?_⟩
    obtain rfl := List.mem_singleton.mp last
    exact fun same => made.1 (same ▸ early)
  journal := by
    rw [store, ledger.journal, List.flatMap_append, List.flatMap_singleton, List.append_assoc]
  made x member := by
    rcases List.mem_append.mp member with early | last
    · exact ledger.made x early
    · obtain rfl := List.mem_singleton.mp last
      exact made.2

variable [DecidableEq Key]

theorem Ledger.advance (ledger : Ledger s M c entries) {i : Nat} (next : c.advance i = some d) :
    ∃ entries', Ledger s M d entries' ∧ ∀ x ∈ entries', x ∈ entries ∨ x.1 = i := by
  have once := ledger.threads i
  have same : ∀ {d : Conf Val Ev Err Out}, Ledger s M d entries → ∃ entries', Ledger s M d entries' ∧ ∀ x ∈ entries', x ∈ entries ∨ x.1 = i :=
    fun kept => ⟨entries, kept, fun _ member => Or.inl member⟩
  unfold Conf.advance at next
  split at next
  · cases next
  · cases next
  · rename_i body ok err found
    rw [found] at once
    cases next
    exact same (ledger.become (i := i) rfl rfl once)
  · -- a commit, with marks or without
    rename_i a ok err mine log found
    rw [found] at once
    cases next
    rcases once.1 with ⟨rfl, rest⟩ | ⟨made, rest⟩
    · have idle : Ledger s M (c.become i (.idle (ok a))) entries := ledger.become rfl rfl rest
      exact same ⟨idle.threads, idle.nodup, (List.append_nil _).trans idle.journal, idle.made⟩
    · refine ⟨_, ledger.commit (i := i) rfl rfl made rest, fun x member => ?_⟩
      rcases List.mem_append.mp member with early | last
      · exact Or.inl early
      · obtain rfl := List.mem_singleton.mp last
        exact Or.inr rfl
  · rename_i e ok err mine log found
    rw [found] at once
    cases next
    exact same (ledger.become (i := i) rfl rfl (once.2 e))
  · rename_i body ok err mine log found
    rw [found] at once
    cases next
    exact same (ledger.become (i := i) rfl rfl ⟨once.1 _, once.2⟩)
  · rename_i k body ok err mine log found
    rw [found] at once
    split at next
    · cases next
      exact same (ledger.become (i := i) rfl rfl once)
    · split at next
      · cases next
        exact same (ledger.become (i := i) rfl rfl once)
      · cases next
  · rename_i k f body ok err mine log found
    rw [found] at once
    split at next
    · cases next
      exact same (ledger.become (i := i) rfl rfl once)
    · split at next
      · cases next
        exact same (ledger.become (i := i) rfl rfl once)
      · cases next
  · rename_i e body ok err mine log found
    rw [found] at once
    cases next
    exact same (ledger.become (i := i) rfl rfl once)

variable {guard : Store Val Ev → List Ev → Prop} {fault : Err}

theorem Ledger.move (ledger : Ledger s M c entries) (move : Move guard fault c d) : ∃ entries', Ledger s M d entries' := by
  cases move with
  | step i next admitted =>
    obtain ⟨entries', grown, _⟩ := ledger.advance next
    exact ⟨entries', grown⟩
  | abort i running =>
    have once := ledger.threads i
    rw [running] at once
    exact ⟨entries, ledger.become (i := i) rfl rfl (once.2 fault)⟩
  | crash i => exact ⟨entries, ledger.become (i := i) rfl rfl trivial⟩

/-- What a surrounding system does to the threads it has begun: nothing, one step, or the end of one. -/
inductive Stirred (fault : Err) (bound : Nat) (c d : Conf Val Ev Err Out) : Prop
  | idle (same : d = c)
  | advanced (i : Nat) (small : i < bound) (next : c.advance i = some d)
  | aborted (i : Nat) {α : Type} {body : Tx Val Ev Err α} {ok : α → Req Val Ev Err Out} {err : Err → Req Val Ev Err Out}
      {mine : Rows Val} {log : List Ev} (running : c.thread i = .active body ok err mine log)
      (same : d = (c.release i).become i (.idle (err fault)))
  | crashed (i : Nat) (same : d = (c.release i).become i .down)

theorem Stirred.moves {bound : Nat} {first : Conf Val Ev Err Out} (stirred : Stirred fault bound c d)
    (run : Moves (fun _ _ => True) fault first c) : Moves (fun _ _ => True) fault first d := by
  cases stirred with
  | idle same =>
    rw [same]
    exact run
  | advanced i _ next => exact .tail run (.step i next fun _ _ => trivial)
  | aborted i running same =>
    rw [same]
    exact .tail run (.abort i running)
  | crashed i same =>
    rw [same]
    exact .tail run (.crash i)

/-- Only threads that have begun commit. -/
theorem Ledger.stirred {bound : Nat} (ledger : Ledger s M c entries) (small : ∀ x ∈ entries, x.1 < bound)
    (stirred : Stirred fault bound c d) : ∃ entries', Ledger s M d entries' ∧ ∀ x ∈ entries', x.1 < bound := by
  cases stirred with
  | idle same => exact ⟨entries, same ▸ ledger, small⟩
  | advanced i early next =>
    obtain ⟨entries', ledger', more⟩ := ledger.advance next
    refine ⟨entries', ledger', fun x member => ?_⟩
    rcases more x member with old | rfl
    · exact small x old
    · exact early
  | aborted i running same =>
    have once := ledger.threads i
    rw [running] at once
    rw [same]
    exact ⟨entries, ledger.become (i := i) rfl rfl (once.2 fault), small⟩
  | crashed i same =>
    rw [same]
    exact ⟨entries, ledger.become (i := i) rfl rfl trivial, small⟩

theorem exists_ledger {r : Nat → Req Val Ev Err Out} (once : ∀ i, (r i).Once (M i))
    (run : Moves guard fault (Conf.start s r) c) : ∃ entries, Ledger s M c entries := by
  induction run with
  | refl =>
    refine ⟨[], fun i => ?_, List.nodup_nil, by simp [Conf.start], by simp⟩
    exact Req.Once.mono (once i) fun log made => ⟨List.not_mem_nil, made⟩
  | tail _ last ih =>
    obtain ⟨entries, ledger⟩ := ih
    exact ledger.move last

end ReadCommitted
