import Marketplace.Chat.Limiter
import Marketplace.Machine
import Mathlib.Data.List.Nodup
import Mathlib.Data.List.Range
import Mathlib.Data.List.Perm.Subperm
import Mathlib.Logic.Function.Basic
import Mathlib.Tactic.Choose

/-! Any number of requests at one `Limiter`. -/
namespace Marketplace.Chat

/-- Where a request stands between `Acquire` or `Reserve` and its releases. -/
inductive Phase where
  | waiting
  | charging (subj : Subject) (now : Nat) (rest : Counting Decision)
  | refusing (subj : Subject) (result : Except CountError Decision)
  | refused (result : Except CountError Decision)
  | admitted (subj : Subject) (decision : Decision)
  | released (decision : Decision)

/-- The flag that the request has to free. -/
def Phase.holds : Phase → Option String
  | charging subj _ _ => some subj.dayKey
  | refusing subj _ => some subj.dayKey
  | admitted subj _ => some subj.dayKey
  | _ => none

def Phase.letThrough : Phase → Bool
  | .admitted _ _ => true
  | .released _ => true
  | _ => false

/-- A question let through by `Acquire`. -/
structure Question where
  request : Nat
  subj : Subject
  now : Nat
deriving DecidableEq

/-- Two charges of one counter led to different counts. -/
def Charge.Apart (a b : Charge) : Prop := a.key = b.key → a.usageDate = b.usageDate → a.used ≠ b.used

instance : Std.Symm Charge.Apart where
  symm _ _ apart key usageDate used := apart key.symm usageDate.symm used.symm

/-- `bot_usage_daily`, the flags in memory, and what has been counted and let through. -/
structure QuotaGate where
  limits : Limits
  counters : String → Nat → Nat := fun _ _ => 0
  inFlight : List String := []
  phase : Nat → Phase := fun _ => .waiting
  charged : List Charge := []
  questions : List Question := []

def maxInt4 : Nat := 2_147_483_647

inductive QuotaGate.Move where
  | acquire (request : Nat) (subj : Subject) (now : Nat)
  | reserve (request : Nat) (subj : Subject)
  | count (request : Nat)
  | fail (request : Nat) (applied : Bool)
  | finish (request : Nat)
  | release (request : Nat)

namespace QuotaGate

def become (s : QuotaGate) (request : Nat) (phase : Phase) : QuotaGate :=
  { s with phase := Function.update s.phase request phase }

def enter (s : QuotaGate) (key : String) : Option QuotaGate :=
  if key ∈ s.inFlight then none else some { s with inFlight := key :: s.inFlight }

def leave (s : QuotaGate) (key : String) : QuotaGate :=
  { s with inFlight := s.inFlight.filter (· ≠ key) }

/-- `IncrementBotUsage`: the count is an int4. -/
def incrementBotUsage (s : QuotaGate) (request : Nat) (key : String) (usageDate : Nat) : Option (QuotaGate × Nat) :=
  let used := s.counters key usageDate + 1
  if used ≤ maxInt4 then
    some ({ s with
      counters := fun k d => if k = key ∧ d = usageDate then used else s.counters k d
      charged := s.charged ++ [⟨request, key, usageDate, used⟩] }, used)
  else none

/-- The request with the rest of its `charge`. -/
def resume (s : QuotaGate) (request : Nat) (subj : Subject) (now : Nat) : Counting Decision → QuotaGate
  | .done decision =>
    if decision.allowed then
      { s with questions := s.questions ++ [(⟨request, subj, now⟩ : Question)] }.become request (.admitted subj decision)
    else s.become request (.refusing subj (.ok decision))
  | rest => s.become request (.charging subj now rest)

def busy (s : QuotaGate) (request : Nat) : QuotaGate :=
  s.become request (.refused (.ok (deny .inFlight inFlightRetryAfter)))

def countFailed (s : QuotaGate) (request : Nat) (subj : Subject) (key : String) : QuotaGate :=
  s.become request (.refusing subj (.error ⟨tierOf key⟩))

def act (s : QuotaGate) : Move → QuotaGate
  | .acquire request subj now =>
    match s.phase request with
    | .waiting =>
      match s.enter subj.dayKey with
      | none => s.busy request
      | some entered => entered.resume request subj now (charge s.limits subj now)
    | _ => s
  | .reserve request subj =>
    match s.phase request with
    | .waiting =>
      match s.enter subj.dayKey with
      | none => s.busy request
      | some entered => entered.become request (.admitted subj { allowed := true, reason := .ok })
    | _ => s
  | .count request =>
    match s.phase request with
    | .charging subj now (.increment key usageDate next) =>
      match s.incrementBotUsage request key usageDate with
      | some (counted, used) => counted.resume request subj now (next used)
      | none => s.countFailed request subj key
    | _ => s
  | .fail request applied =>
    match s.phase request with
    | .charging subj _ (.increment key usageDate _) =>
      match applied, s.incrementBotUsage request key usageDate with
      | true, some (counted, _) => counted.countFailed request subj key
      | _, _ => s.countFailed request subj key
    | _ => s
  | .finish request =>
    match s.phase request with
    | .refusing subj result => (s.leave subj.dayKey).become request (.refused result)
    | _ => s
  | .release request =>
    match s.phase request with
    | .admitted subj decision => (s.leave subj.dayKey).become request (.released decision)
    | _ => s

abbrev Reached (limits : Limits) : QuotaGate → Prop := Machine.Reached act (fun _ _ => True) { limits }

def chargesOf (s : QuotaGate) (request : Nat) : List Charge := s.charged.filter (·.request = request)

def guestQuestions (s : QuotaGate) (ip : String) (date : Nat) : List Question :=
  s.questions.filter fun q => q.subj.isGuest ∧ q.subj.ip = ip ∧ dateOf q.now = date

def userQuestions (s : QuotaGate) (userId : String) (date : Nat) : List Question :=
  s.questions.filter fun q => q.subj.isGuest = false ∧ q.subj.userId = userId ∧ dateOf q.now = date

def hourQuestions (s : QuotaGate) (userId : String) (date hour : Nat) : List Question :=
  (s.userQuestions userId date).filter fun q => hourOf q.now = hour

def dayQuestions (s : QuotaGate) (date : Nat) : List Question :=
  s.questions.filter fun q => dateOf q.now = date

/-- What the quota promises of a state. -/
structure Kept (s : QuotaGate) : Prop where
  guestDaily : ∀ ip date, (s.guestQuestions ip date).length ≤ s.limits.guestDaily
  userHourly : ∀ userId date hour, (s.hourQuestions userId date hour).length ≤ s.limits.userHourly
  userDaily : ∀ userId date, (s.userQuestions userId date).length ≤ s.limits.userDaily
  globalDaily : ∀ date, (s.dayQuestions date).length ≤ s.limits.globalDaily
  spared : ∀ request decision, s.phase request = .refused (.ok decision) →
    Spared decision.reason (s.chargesOf request)
  oneInFlight : ∀ request other key, (s.phase request).holds = some key → (s.phase other).holds = some key →
    request = other
  flags : ∀ key, key ∈ s.inFlight ↔ ∃ request, (s.phase request).holds = some key
  idempotent : ∀ request, (s.act (.release request)).act (.release request) = s.act (.release request)
  ownFlag : ∀ request other key, other ≠ request → (s.phase other).holds = some key →
    key ∈ (s.act (.release request)).inFlight
  failed : ∀ request applied subj now key usageDate next,
    s.phase request = .charging subj now (.increment key usageDate next) →
    (s.act (.fail request applied)).phase request = .refusing subj (.error ⟨tierOf key⟩)
  freed : ∀ request subj result, s.phase request = .refusing subj result →
    (s.act (.finish request)).phase request = .refused result ∧ subj.dayKey ∉ (s.act (.finish request)).inFlight
  asked : ∀ q ∈ s.questions, ∀ result, s.phase q.request ≠ .refused result

/-- What the charges of a request have to do with where it stands. -/
def Stage (limits : Limits) (request : Nat) (charged : List Charge) : Phase → Prop
  | .waiting => charged = []
  | .charging subj now rest => rest.Each request (Decided limits request subj now) charged
  | .refusing _ (.ok decision) => Spared decision.reason charged
  | .refused (.ok decision) => Spared decision.reason charged
  | _ => True

structure Flags (s : QuotaGate) : Prop where
  one : ∀ request other key, (s.phase request).holds = some key → (s.phase other).holds = some key → request = other
  held : ∀ key, key ∈ s.inFlight ↔ ∃ request, (s.phase request).holds = some key

structure Ledger (s : QuotaGate) : Prop where
  counted : ∀ c ∈ s.charged, 1 ≤ c.used ∧ c.used ≤ s.counters c.key c.usageDate
  distinct : s.charged.Pairwise Charge.Apart
  passed : ∀ q ∈ s.questions, Passed s.limits q.request q.subj q.now s.charged
  letThrough : ∀ q ∈ s.questions, (s.phase q.request).letThrough = true
  nodup : (s.questions.map Question.request).Nodup

structure Sound (s : QuotaGate) : Prop where
  flags : Flags s
  ledger : Ledger s
  stage : ∀ request, Stage s.limits request (s.chargesOf request) (s.phase request)

/-- The stages of the others. -/
def Elsewhere (s : QuotaGate) (request : Nat) : Prop :=
  ∀ other, other ≠ request → Stage s.limits other (s.chargesOf other) (s.phase other)

@[simp] theorem become_phase (s : QuotaGate) (request : Nat) (phase : Phase) :
    (s.become request phase).phase request = phase :=
  show Function.update s.phase request phase request = phase from Function.update_self ..

theorem become_other (s : QuotaGate) {request other : Nat} (phase : Phase) (ne : other ≠ request) :
    (s.become request phase).phase other = s.phase other :=
  show Function.update s.phase request phase other = s.phase other from Function.update_of_ne ne ..

theorem Flags.become {s : QuotaGate} {request : Nat} {phase : Phase} (flags : Flags s)
    (same : phase.holds = (s.phase request).holds) : Flags (s.become request phase) := by
  have holds : ∀ other, ((s.become request phase).phase other).holds = (s.phase other).holds := by
    intro other
    by_cases eq : other = request
    · rw [eq, become_phase, same]
    · rw [become_other s phase eq]
  constructor
  · intro first second key
    rw [holds, holds]
    exact flags.one first second key
  · intro key
    simp only [holds]
    exact flags.held key

theorem Flags.enter {s entered : QuotaGate} {request : Nat} {phase : Phase} {key : String} (flags : Flags s)
    (free : (s.phase request).holds = none) (enters : s.enter key = some entered) (takes : phase.holds = some key) :
    Flags (entered.become request phase) := by
  unfold QuotaGate.enter at enters
  split at enters
  · cases enters
  · rename_i absent
    cases enters
    have unheld : ∀ other, (s.phase other).holds ≠ some key := by
      intro other held
      exact absent ((flags.held key).mpr ⟨other, held⟩)
    constructor
    · intro first second k heldFirst heldSecond
      by_cases eqFirst : first = request <;> by_cases eqSecond : second = request
      · rw [eqFirst, eqSecond]
      · rw [eqFirst, become_phase, takes] at heldFirst
        rw [become_other _ phase eqSecond, ← heldFirst] at heldSecond
        exact absurd heldSecond (unheld second)
      · rw [eqSecond, become_phase, takes] at heldSecond
        rw [become_other _ phase eqFirst, ← heldSecond] at heldFirst
        exact absurd heldFirst (unheld first)
      · rw [become_other _ phase eqFirst] at heldFirst
        rw [become_other _ phase eqSecond] at heldSecond
        exact flags.one first second k heldFirst heldSecond
    · intro k
      constructor
      · intro mem
        rcases List.mem_cons.mp mem with rfl | old
        · exact ⟨request, by rw [become_phase]; exact takes⟩
        · obtain ⟨other, held⟩ := (flags.held k).mp old
          have ne : other ≠ request := by
            intro eq
            rw [eq, free] at held
            cases held
          exact ⟨other, by rw [become_other _ phase ne]; exact held⟩
      · rintro ⟨other, held⟩
        by_cases eq : other = request
        · rw [eq, become_phase, takes] at held
          cases held
          exact List.mem_cons_self
        · rw [become_other _ phase eq] at held
          exact List.mem_cons_of_mem _ ((flags.held k).mpr ⟨other, held⟩)

theorem Flags.leave {s : QuotaGate} {request : Nat} {phase : Phase} {key : String} (flags : Flags s)
    (holding : (s.phase request).holds = some key) (drops : phase.holds = none) :
    Flags ((s.leave key).become request phase) := by
  have others : ∀ other k, (((s.leave key).become request phase).phase other).holds = some k →
      other ≠ request ∧ (s.phase other).holds = some k := by
    intro other k held
    by_cases eq : other = request
    · rw [eq, become_phase, drops] at held
      cases held
    · rw [become_other _ phase eq] at held
      exact ⟨eq, held⟩
  constructor
  · intro first second k heldFirst heldSecond
    exact flags.one first second k (others first k heldFirst).2 (others second k heldSecond).2
  · intro k
    constructor
    · intro mem
      obtain ⟨old, ne⟩ := List.mem_filter.mp mem
      obtain ⟨other, held⟩ := (flags.held k).mp old
      have apart : other ≠ request := by
        intro eq
        rw [eq, holding] at held
        cases held
        simp at ne
      exact ⟨other, by rw [become_other _ phase apart]; exact held⟩
    · rintro ⟨other, held⟩
      obtain ⟨apart, held⟩ := others other k held
      apply List.mem_filter.mpr
      refine ⟨(flags.held k).mpr ⟨other, held⟩, ?_⟩
      have ne : k ≠ key := by
        intro eq
        rw [eq] at held
        exact apart (flags.one other request key held holding)
      simpa using ne

theorem Ledger.become {s : QuotaGate} {request : Nat} {phase : Phase} (ledger : Ledger s)
    (through : (s.phase request).letThrough = true → phase.letThrough = true) : Ledger (s.become request phase) where
  counted := ledger.counted
  distinct := ledger.distinct
  passed := ledger.passed
  letThrough := by
    intro q mem
    have before := ledger.letThrough q mem
    by_cases eq : q.request = request
    · rw [eq] at before ⊢
      rw [become_phase]
      exact through before
    · rw [become_other s phase eq]
      exact before
  nodup := ledger.nodup

theorem Elsewhere.become {s : QuotaGate} {request : Nat} {phase : Phase} (elsewhere : Elsewhere s request)
    (stage : Stage s.limits request (s.chargesOf request) phase) (other : Nat) :
    Stage (s.become request phase).limits other ((s.become request phase).chargesOf other)
      ((s.become request phase).phase other) := by
  by_cases eq : other = request
  · rw [eq, become_phase]
    exact stage
  · rw [become_other s phase eq]
    exact elsewhere other eq

theorem incrementBotUsage_some {s counted : QuotaGate} {request usageDate used : Nat} {key : String}
    (increments : s.incrementBotUsage request key usageDate = some (counted, used)) :
    used = s.counters key usageDate + 1 ∧
    counted = { s with
      counters := fun k d => if k = key ∧ d = usageDate then used else s.counters k d
      charged := s.charged ++ [⟨request, key, usageDate, used⟩] } := by
  by_cases fits : s.counters key usageDate + 1 ≤ maxInt4
  · simp only [incrementBotUsage, fits, if_true] at increments
    cases increments
    exact ⟨rfl, rfl⟩
  · simp only [incrementBotUsage, fits, if_false] at increments
    cases increments

theorem Ledger.charge {s counted : QuotaGate} {request usageDate used : Nat} {key : String} (ledger : Ledger s)
    (increments : s.incrementBotUsage request key usageDate = some (counted, used)) : Ledger counted := by
  obtain ⟨rfl, rfl⟩ := incrementBotUsage_some increments
  refine ⟨?_, ?_, ?_, ledger.letThrough, ledger.nodup⟩
  · intro c mem
    rcases List.mem_append.mp mem with old | new
    · obtain ⟨pos, le⟩ := ledger.counted c old
      refine ⟨pos, ?_⟩
      show c.used ≤ if c.key = key ∧ c.usageDate = usageDate then _ else _
      split
      · rename_i same
        rw [same.1, same.2] at le
        omega
      · exact le
    · rw [List.mem_singleton.mp new]
      exact ⟨Nat.succ_pos _, by simp⟩
  · apply List.pairwise_append.mpr
    refine ⟨ledger.distinct, List.pairwise_singleton _ _, ?_⟩
    intro c old new mem sameKey sameDate sameUsed
    rw [List.mem_singleton.mp mem] at sameKey sameDate sameUsed
    have le := (ledger.counted c old).2
    rw [sameKey, sameDate, sameUsed] at le
    exact absurd le (Nat.not_succ_le_self _)
  · intro q mem
    exact (ledger.passed q mem).mono (List.subset_append_left _ _)

theorem chargesOf_charge {s counted : QuotaGate} {request usageDate used : Nat} {key : String}
    (increments : s.incrementBotUsage request key usageDate = some (counted, used)) (other : Nat) :
    counted.chargesOf other =
      s.chargesOf other ++ if other = request then [⟨request, key, usageDate, used⟩] else [] := by
  obtain ⟨_, rfl⟩ := incrementBotUsage_some increments
  show (s.charged ++ [_]).filter _ = _
  rw [List.filter_append]
  by_cases eq : other = request
  · subst eq
    simp [chargesOf]
  · simp [chargesOf, eq, Ne.symm eq]

theorem Ledger.ask {s : QuotaGate} {request now : Nat} {subj : Subject} {decision : Decision} (ledger : Ledger s)
    (fresh : (s.phase request).letThrough = false) (passed : Passed s.limits request subj now s.charged) :
    Ledger ({ s with questions := s.questions ++ [(⟨request, subj, now⟩ : Question)] }.become request
      (.admitted subj decision)) where
  counted := ledger.counted
  distinct := ledger.distinct
  passed := by
    intro q mem
    rcases List.mem_append.mp mem with old | new
    · exact ledger.passed q old
    · rw [List.mem_singleton.mp new]
      exact passed
  letThrough := by
    intro q mem
    by_cases eq : q.request = request
    · rw [eq, become_phase]
      rfl
    · rw [become_other _ _ eq]
      rcases List.mem_append.mp mem with old | new
      · exact ledger.letThrough q old
      · rw [List.mem_singleton.mp new] at eq
        exact absurd rfl eq
  nodup := by
    show ((s.questions ++ [_]).map Question.request).Nodup
    rw [List.map_append, List.nodup_append]
    refine ⟨ledger.nodup, List.nodup_singleton _, ?_⟩
    intro a old b new eq
    obtain ⟨q, mem, rfl⟩ := List.mem_map.mp old
    have through := ledger.letThrough q mem
    rw [eq, List.mem_singleton.mp new, fresh] at through
    cases through

theorem Sound.become {s : QuotaGate} {request : Nat} {phase : Phase} (ledger : Ledger s)
    (elsewhere : Elsewhere s request) (stage : Stage s.limits request (s.chargesOf request) phase)
    (through : (s.phase request).letThrough = true → phase.letThrough = true)
    (flags : Flags (s.become request phase)) : Sound (s.become request phase) where
  flags := flags
  ledger := ledger.become through
  stage := elsewhere.become stage

theorem resume_sound {s : QuotaGate} {request now : Nat} {subj : Subject} {rest : Counting Decision}
    (ledger : Ledger s) (elsewhere : Elsewhere s request)
    (each : rest.Each request (Decided s.limits request subj now) (s.chargesOf request))
    (fresh : (s.phase request).letThrough = false)
    (flags : ∀ phase : Phase, phase.holds = some subj.dayKey → Flags (s.become request phase)) :
    Sound (s.resume request subj now rest) := by
  cases rest with
  | increment key usageDate next =>
    exact Sound.become ledger elsewhere each (fun through => nomatch fresh.symm.trans through) (flags _ rfl)
  | done decision =>
    obtain ⟨passed, spared⟩ := each
    cases allowed : decision.allowed with
    | true =>
      have held := flags (.admitted subj decision) rfl
      have sub : s.chargesOf request ⊆ s.charged := List.filter_subset_self ..
      simp only [resume, allowed, if_true]
      exact {
        flags := ⟨held.one, held.held⟩
        ledger := ledger.ask fresh ((passed allowed).mono sub)
        stage := elsewhere.become trivial }
    | false =>
      simp only [resume, allowed, Bool.false_eq_true, if_false]
      exact Sound.become ledger elsewhere (spared allowed) (fun through => nomatch fresh.symm.trans through)
        (flags _ rfl)

theorem countFailed_sound {s : QuotaGate} {request : Nat} {subj : Subject} (key : String) (ledger : Ledger s)
    (elsewhere : Elsewhere s request) (fresh : (s.phase request).letThrough = false)
    (flags : ∀ phase : Phase, phase.holds = some subj.dayKey → Flags (s.become request phase)) :
    Sound (s.countFailed request subj key) :=
  Sound.become ledger elsewhere trivial (fun through => nomatch fresh.symm.trans through) (flags _ rfl)

theorem Elsewhere.charge {s counted : QuotaGate} {request usageDate used : Nat} {key : String}
    (elsewhere : Elsewhere s request)
    (increments : s.incrementBotUsage request key usageDate = some (counted, used)) : Elsewhere counted request := by
  intro other ne
  rw [chargesOf_charge increments other, if_neg ne, List.append_nil]
  obtain ⟨_, rfl⟩ := incrementBotUsage_some increments
  exact elsewhere other ne

theorem Sound.enter {s entered : QuotaGate} {key : String} (sound : Sound s) (enters : s.enter key = some entered) :
    entered.phase = s.phase ∧ entered.charged = s.charged ∧ entered.limits = s.limits ∧ Ledger entered := by
  unfold QuotaGate.enter at enters
  split at enters
  · cases enters
  · cases enters
    have ledger := sound.ledger
    exact ⟨rfl, rfl, rfl, ledger.counted, ledger.distinct, ledger.passed, ledger.letThrough, ledger.nodup⟩

theorem Sound.waiting {s : QuotaGate} {request : Nat} {subj : Subject} (sound : Sound s)
    (waiting : s.phase request = .waiting) (next : QuotaGate → QuotaGate)
    (entering : ∀ entered, Ledger entered → Elsewhere entered request → entered.limits = s.limits →
      entered.chargesOf request = [] → (entered.phase request).letThrough = false →
      (∀ phase : Phase, phase.holds = some subj.dayKey → Flags (entered.become request phase)) →
      Sound (next entered)) :
    Sound (match s.enter subj.dayKey with
      | none => s.busy request
      | some entered => next entered) := by
  have stage := sound.stage request
  rw [waiting] at stage
  cases enters : s.enter subj.dayKey with
  | none =>
    refine Sound.become sound.ledger (fun other _ => sound.stage other) ⟨nofun, nofun⟩ ?_ (sound.flags.become ?_)
    · rw [waiting]
      nofun
    · rw [waiting]
      rfl
  | some entered =>
    obtain ⟨phase, charged, limits, ledger⟩ := sound.enter enters
    have charges : ∀ other, entered.chargesOf other = s.chargesOf other := by
      intro other
      unfold chargesOf
      rw [charged]
    apply entering entered ledger
    · intro other _
      rw [charges, phase, limits]
      exact sound.stage other
    · exact limits
    · rw [charges]
      exact stage
    · rw [phase, waiting]
      rfl
    · intro phase takes
      exact sound.flags.enter (by rw [waiting]; rfl) enters takes

theorem Sound.leave {s : QuotaGate} {request : Nat} {phase : Phase} {key : String} (sound : Sound s)
    (holding : (s.phase request).holds = some key) (drops : phase.holds = none)
    (stage : Stage s.limits request (s.chargesOf request) phase)
    (through : (s.phase request).letThrough = true → phase.letThrough = true) :
    Sound ((s.leave key).become request phase) := by
  have ledger := sound.ledger
  have left : Ledger (s.leave key) :=
    ⟨ledger.counted, ledger.distinct, ledger.passed, ledger.letThrough, ledger.nodup⟩
  exact Sound.become left (fun other _ => sound.stage other) stage through (sound.flags.leave holding drops)

theorem Sound.act {s : QuotaGate} (sound : Sound s) (m : Move) : Sound (s.act m) := by
  have elsewhere : ∀ request, Elsewhere s request := fun _ other _ => sound.stage other
  cases m with
  | acquire request subj now =>
    unfold QuotaGate.act
    cases stands : s.phase request <;> simp only [stands] <;> try exact sound
    apply sound.waiting stands
    intro entered ledger elsewhere limits uncharged fresh flags
    apply resume_sound ledger elsewhere _ fresh flags
    rw [uncharged, limits]
    exact charge_decides s.limits request subj now
  | reserve request subj =>
    unfold QuotaGate.act
    cases stands : s.phase request <;> simp only [stands] <;> try exact sound
    apply sound.waiting stands
    intro entered ledger elsewhere _ _ _ flags
    exact Sound.become ledger elsewhere trivial (fun _ => rfl) (flags _ rfl)
  | count request =>
    unfold QuotaGate.act
    cases stands : s.phase request <;> simp only [stands] <;> try exact sound
    rename_i subj now rest
    have each := sound.stage request
    rw [stands] at each
    have fresh : (s.phase request).letThrough = false := by rw [stands]; rfl
    have flags : ∀ phase : Phase, phase.holds = some subj.dayKey → Flags (s.become request phase) := by
      intro phase takes
      exact sound.flags.become (by rw [takes, stands]; rfl)
    cases rest with
    | done decision => exact sound
    | increment key usageDate next =>
      cases increments : s.incrementBotUsage request key usageDate with
      | none =>
        simp only [increments]
        exact countFailed_sound key sound.ledger (elsewhere request) fresh flags
      | some result =>
        simp only [increments]
        obtain ⟨counted, used⟩ := result
        have charges := chargesOf_charge increments request
        have ledger := sound.ledger.charge increments
        have others := (elsewhere request).charge increments
        obtain ⟨_, rfl⟩ := incrementBotUsage_some increments
        apply resume_sound ledger others _ fresh
        · intro phase takes
          exact ⟨(flags phase takes).one, (flags phase takes).held⟩
        · rw [charges, if_pos rfl]
          exact each used
  | fail request applied =>
    unfold QuotaGate.act
    cases stands : s.phase request <;> simp only [stands] <;> try exact sound
    rename_i subj now rest
    have fresh : (s.phase request).letThrough = false := by rw [stands]; rfl
    have flags : ∀ phase : Phase, phase.holds = some subj.dayKey → Flags (s.become request phase) := by
      intro phase takes
      exact sound.flags.become (by rw [takes, stands]; rfl)
    cases rest with
    | done decision => exact sound
    | increment key usageDate next =>
      have lost := countFailed_sound key sound.ledger (elsewhere request) fresh flags
      cases applied with
      | false => exact lost
      | true =>
        cases increments : s.incrementBotUsage request key usageDate with
        | none =>
          simp only [increments]
          exact lost
        | some result =>
          simp only [increments]
          obtain ⟨counted, used⟩ := result
          have ledger := sound.ledger.charge increments
          have others := (elsewhere request).charge increments
          obtain ⟨_, rfl⟩ := incrementBotUsage_some increments
          apply countFailed_sound key ledger others fresh
          intro phase takes
          exact ⟨(flags phase takes).one, (flags phase takes).held⟩
  | finish request =>
    unfold QuotaGate.act
    cases stands : s.phase request <;> simp only [stands] <;> try exact sound
    rename_i subj result
    have stage := sound.stage request
    rw [stands] at stage
    apply sound.leave (by rw [stands]; rfl) rfl
    · cases result with
      | error _ => trivial
      | ok decision => exact stage
    · rw [stands]
      nofun
  | release request =>
    unfold QuotaGate.act
    cases stands : s.phase request <;> simp only [stands] <;> try exact sound
    exact sound.leave (by rw [stands]; rfl) rfl trivial (fun _ => rfl)

theorem sound_start (limits : Limits) : Sound { limits } where
  flags := ⟨nofun, fun _ => ⟨nofun, nofun⟩⟩
  ledger := ⟨nofun, .nil, nofun, nofun, .nil⟩
  stage := fun _ => rfl

theorem sound_reached {limits : Limits} {s : QuotaGate} (reached : Reached limits s) : Sound s :=
  reached.invariant (sound_start limits) fun _ m sound _ => sound.act m

/-- Questions that each have a charge on one counter within the limit are no more than the limit:
no two charges led to one count. -/
theorem Ledger.count_le {s : QuotaGate} (ledger : Ledger s) (key : String) (usageDate : Nat)
    {questions : List Question} {limit : Nat} (sub : questions.Sublist s.questions)
    (within : ∀ q ∈ questions, Within s.charged q.request key usageDate limit) : questions.length ≤ limit := by
  have requests : (questions.map Question.request).Nodup := ledger.nodup.sublist (sub.map _)
  have : ∀ q, ∃ used, q ∈ questions → used ≤ limit ∧ ⟨q.request, key, usageDate, used⟩ ∈ s.charged := by
    intro q
    by_cases mem : q ∈ questions
    · obtain ⟨used, le, charged⟩ := within q mem
      exact ⟨used, fun _ => ⟨le, charged⟩⟩
    · exact ⟨0, fun yes => absurd yes mem⟩
  choose used counts using this
  have distinct : (questions.map used).Nodup := by
    apply List.Nodup.map_on _ (List.Nodup.of_map _ requests)
    intro a memA b memB same
    have chargedA := (counts a memA).2
    have chargedB := (counts b memB).2
    apply List.inj_on_of_nodup_map requests memA memB
    by_contra ne
    have apart := ledger.distinct.forall chargedA chargedB (fun eq => ne (Charge.mk.inj eq).1)
    exact apart rfl rfl same
  have bounded : questions.map used ⊆ List.range' 1 limit := by
    intro n mem
    obtain ⟨q, memQ, rfl⟩ := List.mem_map.mp mem
    obtain ⟨le, charged⟩ := counts q memQ
    have pos := (ledger.counted _ charged).1
    exact List.mem_range'_1.mpr ⟨pos, by omega⟩
  have le := (distinct.subperm bounded).length_le
  rwa [List.length_map, List.length_range'] at le

theorem Sound.kept {s : QuotaGate} (sound : Sound s) : Kept s where
  guestDaily ip date := by
    apply sound.ledger.count_le ("ip:" ++ ip) date (List.filter_sublist ..)
    intro q mem
    obtain ⟨asked, own⟩ := List.mem_filter.mp mem
    obtain ⟨guest, rfl, rfl⟩ := of_decide_eq_true own
    have within := (sound.ledger.passed q asked).guestDaily guest
    rwa [Subject.dayKey, if_pos guest] at within
  userHourly userId date hour := by
    apply sound.ledger.count_le ("userhour:" ++ userId ++ ":" ++ twoDigits hour) date
      ((List.filter_sublist ..).trans (List.filter_sublist ..))
    intro q mem
    obtain ⟨mem, hourly⟩ := List.mem_filter.mp mem
    obtain ⟨asked, own⟩ := List.mem_filter.mp mem
    obtain ⟨user, rfl, rfl⟩ := of_decide_eq_true own
    have within := (sound.ledger.passed q asked).userHourly user
    rwa [Subject.hourKey, of_decide_eq_true hourly] at within
  userDaily userId date := by
    apply sound.ledger.count_le ("user:" ++ userId) date (List.filter_sublist ..)
    intro q mem
    obtain ⟨asked, own⟩ := List.mem_filter.mp mem
    obtain ⟨user, rfl, rfl⟩ := of_decide_eq_true own
    have within := (sound.ledger.passed q asked).userDaily user
    rwa [Subject.dayKey, user, if_neg Bool.false_ne_true] at within
  globalDaily date := by
    apply sound.ledger.count_le globalKey date (List.filter_sublist ..)
    intro q mem
    obtain ⟨asked, today⟩ := List.mem_filter.mp mem
    have within := (sound.ledger.passed q asked).globalDaily
    rwa [of_decide_eq_true today] at within
  spared request decision stands := by
    have stage := sound.stage request
    rwa [stands] at stage
  oneInFlight := sound.flags.one
  flags := sound.flags.held
  idempotent request := by
    cases stands : s.phase request <;> simp [QuotaGate.act, stands]
  ownFlag request other key ne holding := by
    have flags := (sound.act (.release request)).flags
    apply (flags.held key).mpr
    refine ⟨other, ?_⟩
    unfold QuotaGate.act
    cases stands : s.phase request <;> simp only [stands] <;> try exact holding
    rw [become_other _ _ ne]
    exact holding
  failed request applied subj now key usageDate next stands := by
    cases applied with
    | false => simp [QuotaGate.act, stands, countFailed]
    | true => cases increments : s.incrementBotUsage request key usageDate <;> simp [QuotaGate.act, stands, countFailed, increments]
  freed request subj result stands := by
    have gone : s.act (.finish request) = (s.leave subj.dayKey).become request (.refused result) := by
      simp [QuotaGate.act, stands]
    rw [gone]
    refine ⟨become_phase _ _ _, ?_⟩
    intro mem
    have ne := of_decide_eq_true (List.mem_filter.mp mem).2
    exact ne rfl
  asked q mem result stands := by
    have through := sound.ledger.letThrough q mem
    rw [stands] at through
    cases through

/-- However any requests overlap, and whichever of their counts fail. -/
theorem quotas_kept {limits : Limits} {s : QuotaGate} (reached : Reached limits s) : Kept s :=
  (sound_reached reached).kept

def oneADay : Limits := ⟨1, 30, 10, 300⟩

def guest : Subject := ⟨"", "10.0.0.1"⟩

/-- A guest who asks again after the only answer of the day. -/
def askedTwice : List Move :=
  [.acquire 0 guest 0, .count 0, .count 0, .release 0, .release 0, .acquire 1 guest 0, .count 1, .finish 1]

theorem second_refused_kept :
    (Machine.run act { limits := oneADay } askedTwice).phase 1 = .refused (.ok (deny .guestDaily (17 * hourLength))) ∧
    Kept (Machine.run act { limits := oneADay } askedTwice) :=
  ⟨by rfl, quotas_kept (Machine.Reached.start.run (Machine.canRun_free askedTwice))⟩

end QuotaGate

end Marketplace.Chat
