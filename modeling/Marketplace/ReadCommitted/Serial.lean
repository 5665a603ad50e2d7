import Marketplace.ReadCommitted.System

/-! Requests run one after the other, each transaction to its end. -/
namespace ReadCommitted

variable {Key : Type} [DecidableEq Key] {Val : Key → Type} {Ev Err Out : Type}

def Store.commit (s : Store Val Ev) (w : View Val Ev) : Store Val Ev :=
  ⟨w.rows, s.journal ++ w.log⟩

/-- The request run to its end. -/
def Req.run : Req Val Ev Err Out → Store Val Ev → Out × Store Val Ev
  | .done out, s => (out, s)
  | .tx body ok err, s =>
    match body.run s.rows [] with
    | .ok (a, d, log) => (ok a).run ⟨d, s.journal ++ log⟩
    | .error e => (err e).run s

/-- Each commit of the request is admitted. -/
def Req.Obeys (guard : Store Val Ev → List Ev → Prop) : Req Val Ev Err Out → Store Val Ev → Prop
  | .done _, _ => True
  | .tx body ok err, s =>
    match body.run s.rows [] with
    | .ok (a, d, log) => guard s log ∧ (ok a).Obeys guard ⟨d, s.journal ++ log⟩
    | .error e => (err e).Obeys guard s

instance Req.decideObeys (guard : Store Val Ev → List Ev → Prop) [∀ s log, Decidable (guard s log)] :
    ∀ (r : Req Val Ev Err Out) (s : Store Val Ev), Decidable (r.Obeys guard s)
  | .done _, _ => isTrue trivial
  | .tx body ok err, s => by
    unfold Req.Obeys
    exact match body.run s.rows [] with
      | .ok (a, d, log) =>
        have := Req.decideObeys guard (ok a) ⟨d, s.journal ++ log⟩
        inferInstanceAs (Decidable (guard s log ∧ (ok a).Obeys guard ⟨d, s.journal ++ log⟩))
      | .error e => Req.decideObeys guard (err e) s

/-- A request may stop between two of its transactions. -/
inductive Req.Leads (guard : Store Val Ev → List Ev → Prop) :
    Req Val Ev Err Out → Store Val Ev → Store Val Ev → Prop
  | stop (r : Req Val Ev Err Out) (s : Store Val Ev) : Req.Leads guard r s s
  | commit {α : Type} {body : Tx Val Ev Err α} {ok : α → Req Val Ev Err Out}
      {err : Err → Req Val Ev Err Out} {s t : Store Val Ev} {a : α} {d : Rows Val} {log : List Ev}
      (ran : body.run s.rows [] = .ok (a, d, log)) (admitted : guard s log)
      (rest : Req.Leads guard (ok a) ⟨d, s.journal ++ log⟩ t) : Req.Leads guard (.tx body ok err) s t
  | rollback {α : Type} {body : Tx Val Ev Err α} {ok : α → Req Val Ev Err Out}
      {err : Err → Req Val Ev Err Out} {s t : Store Val Ev} {e : Err}
      (ran : body.run s.rows [] = .error e) (rest : Req.Leads guard (err e) s t) :
      Req.Leads guard (.tx body ok err) s t

theorem Req.run_leads {guard : Store Val Ev → List Ev → Prop} (r : Req Val Ev Err Out)
    (s : Store Val Ev) (obeys : r.Obeys guard s) : r.Leads guard s (r.run s).2 := by
  induction r generalizing s with
  | done out => exact .stop _ _
  | tx body ok err ihOk ihErr =>
    simp only [Req.Obeys] at obeys
    simp only [Req.run]
    cases ran : body.run s.rows [] with
    | ok result =>
      obtain ⟨a, d, log⟩ := result
      simp only [ran] at obeys ⊢
      exact .commit ran obeys.1 (ihOk a _ obeys.2)
    | error e =>
      simp only [ran] at obeys ⊢
      exact .rollback ran (ihErr e s obeys)

theorem Req.obeys_any (r : Req Val Ev Err Out) (s : Store Val Ev) : r.Obeys (fun _ _ => True) s := by
  induction r generalizing s with
  | done out => trivial
  | tx body ok err ihOk ihErr =>
    simp only [Req.Obeys]
    cases body.run s.rows [] with
    | ok result => exact ⟨trivial, ihOk _ _⟩
    | error e => exact ihErr e s

/-- The request stopped after at most `n` of its transactions. -/
def Req.stopped : Nat → Req Val Ev Err Out → Store Val Ev → Store Val Ev
  | 0, _, s => s
  | _ + 1, .done _, s => s
  | n + 1, .tx body ok err, s =>
    match body.run s.rows [] with
    | .ok (a, d, log) => (ok a).stopped n ⟨d, s.journal ++ log⟩
    | .error e => (err e).stopped n s

theorem Req.stopped_leads (n : Nat) (r : Req Val Ev Err Out) (s : Store Val Ev) :
    r.Leads (fun _ _ => True) s (r.stopped n s) := by
  induction n generalizing r s with
  | zero => exact .stop r s
  | succ n ih =>
    cases r with
    | done out => exact .stop _ s
    | tx body ok err =>
      simp only [Req.stopped]
      cases ran : body.run s.rows [] with
      | ok result => exact .commit ran trivial (ih _ _)
      | error e => exact .rollback ran (ih _ _)

/-- A request goes on as its first transaction's precondition says. -/
theorem Req.run_tx {α : Type} {body : Tx Val Ev Err α} (ok : α → Req Val Ev Err Out) (err : Err → Req Val Ev Err Out)
    {s : Store Val Ev} {Q : α → View Val Ev → Prop} {E : Err → Prop}
    (spec : body.wp .serial Q E (View.start s.rows 0)) :
    (∃ a w, Q a w ∧ (Req.tx body ok err).run s = (ok a).run (s.commit w)) ∨
      ∃ e, E e ∧ (Req.tx body ok err).run s = (err e).run s := by
  have step := Tx.run_of_wp _ spec
  simp only [Req.run]
  cases ran : body.run s.rows [] with
  | ok result =>
    simp only [View.start_rows, View.start_log, ran] at step
    obtain ⟨w, holds, rows, log⟩ := step
    exact Or.inl ⟨_, w, holds, by rw [Store.commit, rows, log]⟩
  | error e =>
    simp only [View.start_rows, View.start_log, ran] at step
    exact Or.inr ⟨e, step, rfl⟩

theorem Req.run_frame {K : Key → Prop} {L : Ev → Prop} {r : Req Val Ev Err Out}
    (all : r.All fun _ body => body.Within K L) (s : Store Val Ev) {k : Key} (outside : ¬ K k) :
    (r.run s).2.rows k = s.rows k := by
  induction all generalizing s with
  | done out => rfl
  | tx now _ _ ihOk ihErr =>
    have spec := Tx.wp_of_within (I := .serial) (v := View.start s.rows 0) now (fun _ _ more => more) fun _ => trivial
    rcases Req.run_tx _ _ spec with ⟨a, w, more, runs⟩ | ⟨e, _, runs⟩
    · rw [runs, ihOk]
      exact more.rows k outside
    · rw [runs, ihErr]

/-- What may be left of a request after some of its transactions. -/
inductive Req.Rest (r : Req Val Ev Err Out) : Req Val Ev Err Out → Prop
  | whole : Req.Rest r r
  | ok {α : Type} {body : Tx Val Ev Err α} {ok : α → Req Val Ev Err Out} {err : Err → Req Val Ev Err Out}
      (before : Req.Rest r (.tx body ok err)) (a : α) : Req.Rest r (ok a)
  | err {α : Type} {body : Tx Val Ev Err α} {ok : α → Req Val Ev Err Out} {err : Err → Req Val Ev Err Out}
      (before : Req.Rest r (.tx body ok err)) (e : Err) : Req.Rest r (err e)

omit [DecidableEq Key] in
theorem Req.All.rest {T : ∀ α : Type, Tx Val Ev Err α → Prop} {r q : Req Val Ev Err Out} (all : r.All T)
    (rest : r.Rest q) : q.All T := by
  induction rest with
  | whole => exact all
  | ok _ a ih =>
    cases ih with
    | tx _ next _ => exact next a
  | err _ e ih =>
    cases ih with
    | tx _ _ failed => exact failed e

/-- Requests of the kind `ops`, one after the other. -/
inductive Serial (ops : Req Val Ev Err Out → Prop) (guard : Store Val Ev → List Ev → Prop) :
    Store Val Ev → Store Val Ev → Prop
  | refl (s : Store Val Ev) : Serial ops guard s s
  | tail {s t u : Store Val Ev} {r : Req Val Ev Err Out} (run : Serial ops guard s t) (op : ops r)
      (last : r.Leads guard t u) : Serial ops guard s u

theorem Serial.append {ops : Req Val Ev Err Out → Prop} {guard : Store Val Ev → List Ev → Prop}
    {s t u : Store Val Ev} (first : Serial ops guard s t) (second : Serial ops guard t u) :
    Serial ops guard s u := by
  induction second with
  | refl => exact first
  | tail _ op last ih => exact .tail ih op last

/-- The requests of a list run to their ends in turn. -/
def runAll (s : Store Val Ev) : List (Req Val Ev Err Out) → Store Val Ev
  | [] => s
  | r :: rs => runAll (r.run s).2 rs

def ObeysAll (guard : Store Val Ev → List Ev → Prop) (s : Store Val Ev) : List (Req Val Ev Err Out) → Prop
  | [] => True
  | r :: rs => r.Obeys guard s ∧ ObeysAll guard (r.run s).2 rs

instance decideObeysAll (guard : Store Val Ev → List Ev → Prop) [∀ s log, Decidable (guard s log)] :
    ∀ (s : Store Val Ev) (rs : List (Req Val Ev Err Out)), Decidable (ObeysAll guard s rs)
  | _, [] => isTrue trivial
  | s, r :: rs =>
    have := decideObeysAll guard (r.run s).2 rs
    inferInstanceAs (Decidable (r.Obeys guard s ∧ ObeysAll guard (r.run s).2 rs))

theorem runAll_serial {ops : Req Val Ev Err Out → Prop} {guard : Store Val Ev → List Ev → Prop}
    {s : Store Val Ev} {rs : List (Req Val Ev Err Out)} (kinds : ∀ r ∈ rs, ops r)
    (obeys : ObeysAll guard s rs) : Serial ops guard s (runAll s rs) := by
  induction rs generalizing s with
  | nil => exact .refl s
  | cons r rs ih =>
    have first : Serial ops guard s (r.run s).2 :=
      .tail (.refl s) (kinds r (by simp)) (r.run_leads s obeys.1)
    exact first.append (ih (fun q member => kinds q (by simp [member])) obeys.2)

/-- The counterpart of `Invariant` for requests that run one after the other. -/
structure SerialInvariant (ops : Req Val Ev Err Out → Prop)
    (guard : Store Val Ev → List Ev → Prop) where
  Inv : Store Val Ev → Prop
  Le : Store Val Ev → Store Val Ev → Prop
  Ready : Store Val Ev → Req Val Ev Err Out → Prop
  le_refl : ∀ s, Le s s
  le_trans : ∀ {s t u}, Le s t → Le t u → Le s u
  ready : ∀ {s r}, Inv s → ops r → Ready s r
  commits : ∀ {α} {body : Tx Val Ev Err α} {ok err} {s : Store Val Ev}, Inv s →
    Ready s (.tx body ok err) →
    body.wp .serial
      (fun a w => guard s w.log → Inv (s.commit w) ∧ Le s (s.commit w) ∧ Ready (s.commit w) (ok a))
      (fun e => Ready s (err e)) (View.start s.rows 0)

namespace SerialInvariant

variable {ops : Req Val Ev Err Out → Prop} {guard : Store Val Ev → List Ev → Prop}
  (P : SerialInvariant ops guard)

theorem leads_safe {r : Req Val Ev Err Out} {s t : Store Val Ev} (leads : r.Leads guard s t)
    (inv : P.Inv s) (ready : P.Ready s r) : P.Inv t ∧ P.Le s t := by
  induction leads with
  | stop r s => exact ⟨inv, P.le_refl s⟩
  | commit ran admitted rest ih =>
    have step := Tx.run_of_wp _ (P.commits inv ready)
    simp only [View.start_rows, View.start_log, ran] at step
    obtain ⟨w, held, rows, log⟩ := step
    subst rows log
    obtain ⟨after, le, next⟩ := held admitted
    obtain ⟨safe, later⟩ := ih after next
    exact ⟨safe, P.le_trans le later⟩
  | rollback ran rest ih =>
    have step := Tx.run_of_wp _ (P.commits inv ready)
    simp only [View.start_rows, View.start_log, ran] at step
    exact ih inv step

theorem run_safe {s t : Store Val Ev} (run : Serial ops guard s t) (inv : P.Inv s) :
    P.Inv t ∧ P.Le s t := by
  induction run with
  | refl => exact ⟨inv, P.le_refl s⟩
  | tail _ op last ih =>
    obtain ⟨before, le⟩ := ih
    obtain ⟨after, later⟩ := P.leads_safe last before (P.ready before op)
    exact ⟨after, P.le_trans le later⟩

end SerialInvariant
section
variable (guard : Store Val Ev → List Ev → Prop) (Inv : Store Val Ev → Prop)
  (Le : Store Val Ev → Store Val Ev → Prop)

/-- A transaction that, run alone, keeps `Inv` and moves along `Le` whenever it is admitted. -/
def Tx.KeepsAlone {α : Type} (body : Tx Val Ev Err α) : Prop :=
  ∀ s : Store Val Ev, Inv s →
    body.wp .serial (fun _ w => guard s w.log → Inv (s.commit w) ∧ Le s (s.commit w)) (fun _ => True)
      (View.start s.rows 0)

variable {guard Inv Le} {ops : Req Val Ev Err Out → Prop} {s t : Store Val Ev}

theorem alone_safe (le_refl : ∀ s, Le s s) (le_trans : ∀ {s t u}, Le s t → Le t u → Le s u)
    (keeps : ∀ r, ops r → r.All fun _ body => body.KeepsAlone guard Inv Le)
    (run : Serial ops guard s t) (inv : Inv s) : Inv t ∧ Le s t :=
  let P : SerialInvariant ops guard :=
    { Inv := Inv
      Le := Le
      Ready := fun _ r => r.All fun _ body => body.KeepsAlone guard Inv Le
      le_refl := le_refl
      le_trans := le_trans
      ready := fun _ op => keeps _ op
      commits := by
        intro α body ok err s inv ready
        cases ready with
        | tx now next failed =>
          refine Tx.wp_mono _ (now s inv) (fun a w kept admitted => ?_) fun e _ => failed e
          exact ⟨(kept admitted).1, (kept admitted).2, next a⟩ }
  P.run_safe run inv

/-- A request of one transaction stops before it, or after it as its precondition says. -/
theorem single_leads {α : Type} {body : Tx Val Ev Err α} {ok : α → Out} {err : Err → Out}
    {Q : α → View Val Ev → Prop} (spec : body.wp .serial Q (fun _ => True) (View.start s.rows 0))
    (leads : Req.Leads guard (.tx body (fun a => .done (ok a)) fun e => .done (err e)) s t) :
    t = s ∨ ∃ a w, Q a w ∧ t = s.commit w := by
  have step := Tx.run_of_wp _ spec
  cases leads with
  | stop => exact Or.inl rfl
  | commit ran _ rest =>
    simp only [View.start_rows, View.start_log, ran] at step
    obtain ⟨w, holds, rows, log⟩ := step
    cases rest
    exact Or.inr ⟨_, w, holds, by rw [Store.commit, rows, log]⟩
  | rollback _ rest =>
    cases rest
    exact Or.inl rfl

end
end ReadCommitted
