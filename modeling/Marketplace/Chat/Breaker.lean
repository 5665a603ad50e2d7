import Marketplace.Machine

/-! `Breaker` of the chat bot: five failures in a row open it, and after sixty seconds one
call probes the provider. -/
namespace Marketplace.Chat

/-- Which of the errors `errors.Is` looks for a failed call wraps. -/
structure CallError where
  rateLimited : Bool := false
  badRequest : Bool := false
  blocked : Bool := false
  timeout : Bool := false
  canceled : Bool := false
deriving DecidableEq

/-- `ErrUpstream`, which no branch asks for. -/
def errUpstream : CallError := {}

inductive BreakerState where
  | closed | opened | halfOpen
deriving DecidableEq

inductive Refusal where
  | circuitOpen
deriving DecidableEq

def breakerThreshold : Nat := 5

/-- In milliseconds. -/
def breakerOpenFor : Nat := 60_000

structure Breaker where
  state : BreakerState := .closed
  failures : Nat := 0
  openUntil : Nat := 0
  probeInFlight : Bool := false
deriving DecidableEq

def Breaker.acquire (b : Breaker) (now : Nat) : Except Refusal Breaker :=
  match b.state with
  | .opened =>
    if now < b.openUntil then .error .circuitOpen
    else .ok { b with state := .halfOpen, probeInFlight := true }
  | .halfOpen =>
    if b.probeInFlight then .error .circuitOpen
    else .ok { b with probeInFlight := true }
  | .closed => .ok b

def Breaker.trip (b : Breaker) (now : Nat) : Breaker :=
  { b with state := .opened, failures := 0, openUntil := now + breakerOpenFor }

def countsAsFailure (err : Option CallError) (delivered : Bool) : Bool :=
  match err with
  | none => false
  | some err =>
    if err.badRequest || err.blocked then false
    else if delivered && err.timeout then false
    else if err.canceled then false
    else true

/-- Whether the failure opens the breaker without five in a row. -/
def Breaker.tripsAtOnce (b : Breaker) (err : Option CallError) : Bool :=
  err.any (·.rateLimited) || b.state == .halfOpen

def Breaker.record (b : Breaker) (err : Option CallError) (delivered : Bool) (now : Nat) : Breaker :=
  let cleared := if b.state = .halfOpen then { b with probeInFlight := false } else b
  if !countsAsFailure err delivered then { cleared with state := .closed, failures := 0 }
  else if b.tripsAtOnce err then cleared.trip now
  else
    let counted := { cleared with failures := cleared.failures + 1 }
    if counted.failures ≥ breakerThreshold then counted.trip now else counted

/-- Whether the result opens the breaker, be it open already. -/
def Breaker.trips (b : Breaker) (err : Option CallError) (delivered : Bool) : Bool :=
  countsAsFailure err delivered && (b.tripsAtOnce err || decide (breakerThreshold ≤ b.failures + 1))

theorem Breaker.acquire_cases {b next : Breaker} {now : Nat} (admitted : b.acquire now = .ok next) :
    (b.state = .closed ∧ next = b) ∨
    (b.state = .opened ∧ b.openUntil ≤ now ∧ next = { b with state := .halfOpen, probeInFlight := true }) ∨
    (b.state = .halfOpen ∧ b.probeInFlight = false ∧ next = { b with probeInFlight := true }) := by
  unfold acquire at admitted
  split at admitted
  · rename_i opened
    split at admitted
    · cases admitted
    · rename_i notYet
      cases admitted
      exact .inr (.inl ⟨opened, Nat.le_of_not_lt notYet, rfl⟩)
  · rename_i half
    split at admitted
    · cases admitted
    · rename_i free
      cases admitted
      exact .inr (.inr ⟨half, by simpa using free, rfl⟩)
  · rename_i closed
    cases admitted
    exact .inl ⟨closed, rfl⟩

/-- A result closes the breaker, opens it, or outside a half-open phase adds to the count. -/
theorem Breaker.record_cases (b : Breaker) (err : Option CallError) (delivered : Bool) (now : Nat) :
    (countsAsFailure err delivered = false ∧ b.trips err delivered = false ∧
      (b.record err delivered now).state = .closed) ∨
    (countsAsFailure err delivered = true ∧ b.trips err delivered = true ∧
      (b.record err delivered now).state = .opened ∧
      (b.record err delivered now).openUntil = now + breakerOpenFor) ∨
    (countsAsFailure err delivered = true ∧ b.trips err delivered = false ∧ b.state ≠ .halfOpen ∧
      (b.record err delivered now).state = b.state ∧
      (b.record err delivered now).openUntil = b.openUntil) := by
  unfold record trips
  cases counts : countsAsFailure err delivered with
  | false => exact .inl ⟨rfl, rfl, rfl⟩
  | true =>
    cases atOnce : b.tripsAtOnce err with
    | true => exact .inr (.inl ⟨rfl, rfl, rfl, rfl⟩)
    | false =>
      have outside : b.state ≠ .halfOpen := by
        intro half
        simp [tripsAtOnce, half] at atOnce
      by_cases enough : breakerThreshold ≤ b.failures + 1
      · exact .inr (.inl ⟨rfl, by simpa using enough, by simp [outside, enough, trip], by simp [outside, enough, trip]⟩)
      · exact .inr (.inr ⟨rfl, by simpa using enough, outside, by simp [outside, enough], by simp [outside, enough]⟩)

/-- A call between `acquire` and `record`, with the half-open phase that admitted it. -/
structure Call where
  probes : Option Nat
deriving DecidableEq

structure Admission where
  time : Nat
  lastOpening : Option Nat
deriving DecidableEq

structure Closing where
  call : Call
  phase : Nat
  err : Option CallError

/-- The requests of the bot around its breaker, and what the claims about it speak of. -/
structure Traffic where
  breaker : Breaker := {}
  clock : Nat := 0
  inFlight : List Call := []
  phase : Nat := 0
  lastOpening : Option Nat := none
  admissions : List Admission := []
  closings : List Closing := []

inductive Traffic.Move where
  | tick (now : Nat)
  | acquire
  | record (call : Call) (err : Option CallError) (delivered : Bool)

namespace Traffic

def Move.Possible (s : Traffic) : Move → Prop
  | .tick now => s.clock ≤ now
  | .acquire => True
  | .record call _ _ => call ∈ s.inFlight

def letThrough (s : Traffic) (next : Breaker) : Traffic :=
  let phase := if s.breaker.state = .opened then s.phase + 1 else s.phase
  let call : Call := ⟨if next.state = .halfOpen then some phase else none⟩
  { s with
    breaker := next
    inFlight := s.inFlight ++ [call]
    phase
    admissions := s.admissions ++ [⟨s.clock, s.lastOpening⟩] }

def finish (s : Traffic) (call : Call) (err : Option CallError) (delivered : Bool) : Traffic :=
  let next := s.breaker.record err delivered s.clock
  let closes := s.breaker.state = .halfOpen ∧ next.state = .closed
  { s with
    breaker := next
    inFlight := s.inFlight.erase call
    lastOpening := if s.breaker.trips err delivered then some s.clock else s.lastOpening
    closings := if closes then s.closings ++ [⟨call, s.phase, err⟩] else s.closings }

def act (s : Traffic) : Move → Traffic
  | .tick now => { s with clock := now }
  | .acquire =>
    match s.breaker.acquire s.clock with
    | .ok next => s.letThrough next
    | .error _ => s
  | .record call err delivered => s.finish call err delivered

instance (s : Traffic) (m : Move) : Decidable (m.Possible s) :=
  match m with
  | .tick now => inferInstanceAs (Decidable (s.clock ≤ now))
  | .acquire => .isTrue trivial
  | .record call _ _ => inferInstanceAs (Decidable (call ∈ s.inFlight))

/-- From the closed breaker, by moves that are possible and as the guard asks. -/
abbrev Reached (guard : Traffic → Move → Prop) : Traffic → Prop :=
  Machine.Reached act (fun s m => m.Possible s ∧ guard s m) {}

def probesInFlight (s : Traffic) : List Call := s.inFlight.filter (·.probes.isSome)

/-- What the breaker is for. -/
structure Protected (s : Traffic) : Prop where
  oneProbe : s.breaker.state = .halfOpen → s.probesInFlight.length ≤ 1
  waits : ∀ admission ∈ s.admissions, ∀ opening, admission.lastOpening = some opening →
    opening + breakerOpenFor ≤ admission.time
  closes : ∀ closing ∈ s.closings, closing.call.probes = some closing.phase ∧ closing.err = none

/-- No result of another call closes the breaker or outlives its phase as a probe. -/
def Orderly (s : Traffic) : Move → Prop
  | .tick _ => True
  | .acquire => s.breaker.state = .opened → s.breaker.openUntil ≤ s.clock → s.probesInFlight = []
  | .record call err delivered => countsAsFailure err delivered = false →
    match s.breaker.state with
    | .closed => True
    | .opened => False
    | .halfOpen => call.probes = some s.phase ∧ err = none

def WaitedSince (opening : Option Nat) (now : Nat) : Prop :=
  ∀ time, opening = some time → time + breakerOpenFor ≤ now

theorem WaitedSince.later {opening : Option Nat} {now later : Nat} (waited : WaitedSince opening now)
    (le : now ≤ later) : WaitedSince opening later :=
  fun time opened => Nat.le_trans (waited time opened) le

structure Sound (s : Traffic) : Prop where
  closed : s.breaker.state = .closed → WaitedSince s.lastOpening s.clock
  opened : s.breaker.state = .opened →
    ∃ time, s.lastOpening = some time ∧ s.breaker.openUntil = time + breakerOpenFor
  halfOpen : s.breaker.state = .halfOpen → WaitedSince s.lastOpening s.clock ∧
    s.breaker.probeInFlight = true ∧ s.probesInFlight = [⟨some s.phase⟩]
  waits : ∀ admission ∈ s.admissions, WaitedSince admission.lastOpening admission.time
  closes : ∀ closing ∈ s.closings, closing.call.probes = some closing.phase ∧ closing.err = none

theorem sound_start : Sound {} where
  closed := nofun
  opened := nofun
  halfOpen := nofun
  waits := nofun
  closes := nofun

theorem Sound.protected {s : Traffic} (sound : Sound s) : Protected s where
  oneProbe half := by
    obtain ⟨_, _, one⟩ := sound.halfOpen half
    rw [one]
    exact Nat.le_refl 1
  waits := sound.waits
  closes := sound.closes

theorem Sound.tick {s : Traffic} {now : Nat} (sound : Sound s) (later : s.clock ≤ now) :
    Sound { s with clock := now } where
  closed closed := (sound.closed closed).later later
  opened := sound.opened
  halfOpen half := by
    obtain ⟨waited, probing, one⟩ := sound.halfOpen half
    exact ⟨waited.later later, probing, one⟩
  waits := sound.waits
  closes := sound.closes

theorem waits_letThrough {s : Traffic} (sound : Sound s) (waited : WaitedSince s.lastOpening s.clock) :
    ∀ admission ∈ s.admissions ++ [⟨s.clock, s.lastOpening⟩],
      WaitedSince admission.lastOpening admission.time := by
  intro admission mem
  rcases List.mem_append.mp mem with old | new
  · exact sound.waits admission old
  · rw [List.mem_singleton.mp new]
    exact waited

theorem Sound.letThrough {s : Traffic} {next : Breaker} (sound : Sound s) (orderly : Orderly s .acquire)
    (admitted : s.breaker.acquire s.clock = .ok next) : Sound (s.letThrough next) := by
  rcases Breaker.acquire_cases admitted with ⟨closed, rfl⟩ | ⟨opened, passed, rfl⟩ | ⟨half, free, _⟩
  · have waited := sound.closed closed
    exact {
      closed := fun _ => waited
      opened := fun opened => sound.opened opened
      halfOpen := fun half => by rw [show (s.letThrough s.breaker).breaker.state = .closed from closed] at half; cases half
      waits := waits_letThrough sound waited
      closes := sound.closes }
  · obtain ⟨time, last, until_⟩ := sound.opened opened
    have waited : WaitedSince s.lastOpening s.clock := by
      intro opening found
      rw [last] at found
      cases found
      rw [← until_]
      exact passed
    have alone : s.probesInFlight = [] := orderly opened passed
    exact {
      closed := nofun
      opened := nofun
      halfOpen := fun _ => ⟨waited, rfl, by
        show (s.inFlight ++ [_]).filter _ = [_]
        rw [List.filter_append, show s.inFlight.filter _ = [] from alone]
        simp [Traffic.letThrough, opened]⟩
      waits := waits_letThrough sound waited
      closes := sound.closes }
  · obtain ⟨_, probing, _⟩ := sound.halfOpen half
    rw [free] at probing
    cases probing

theorem Sound.finish {s : Traffic} {call : Call} {err : Option CallError} {delivered : Bool} (sound : Sound s)
    (orderly : Orderly s (.record call err delivered)) : Sound (s.finish call err delivered) := by
  rcases s.breaker.record_cases err delivered s.clock with ⟨healthy, same, closed⟩ | ⟨_, trips, opened, until_⟩ |
    ⟨_, same, outside, state, until_⟩
  · have last : (s.finish call err delivered).lastOpening = s.lastOpening := by simp [Traffic.finish, same]
    have allowed := orderly healthy
    exact {
      closed := fun _ => by
        rw [last]
        cases before : s.breaker.state with
        | closed => exact sound.closed before
        | opened => simp [before] at allowed
        | halfOpen => exact (sound.halfOpen before).1
      opened := fun opened => nomatch closed.symm.trans opened
      halfOpen := fun half => nomatch closed.symm.trans half
      waits := sound.waits
      closes := by
        intro closing mem
        by_cases half : s.breaker.state = .halfOpen
        · simp only [Traffic.finish, half, closed, and_self, if_true, List.mem_append, List.mem_singleton] at mem
          rw [half] at allowed
          rcases mem with old | rfl
          · exact sound.closes closing old
          · exact allowed
        · simp only [Traffic.finish, half, false_and, if_false] at mem
          exact sound.closes closing mem }
  · have same : (s.finish call err delivered).closings = s.closings := by simp [Traffic.finish, opened]
    exact {
      closed := fun closed => nomatch opened.symm.trans closed
      opened := fun _ => ⟨s.clock, by simp [Traffic.finish, trips], until_⟩
      halfOpen := fun half => nomatch opened.symm.trans half
      waits := sound.waits
      closes := by rw [same]; exact sound.closes }
  · have last : (s.finish call err delivered).lastOpening = s.lastOpening := by simp [Traffic.finish, same]
    have closings : (s.finish call err delivered).closings = s.closings := by simp [Traffic.finish, outside]
    exact {
      closed := fun closed => by rw [last]; exact sound.closed (state.symm.trans closed)
      opened := fun opened => by
        rw [last, show (s.finish call err delivered).breaker.openUntil = s.breaker.openUntil from until_]
        exact sound.opened (state.symm.trans opened)
      halfOpen := fun half => absurd (state.symm.trans half) outside
      waits := sound.waits
      closes := by rw [closings]; exact sound.closes }

theorem Sound.act {s : Traffic} {m : Move} (sound : Sound s) (possible : m.Possible s) (orderly : Orderly s m) :
    Sound (s.act m) := by
  cases m with
  | tick now => exact sound.tick possible
  | acquire =>
    unfold Traffic.act
    cases admitted : s.breaker.acquire s.clock with
    | error _ => simpa only [admitted] using sound
    | ok next => simpa only [admitted] using sound.letThrough orderly admitted
  | record call err delivered => exact sound.finish orderly

theorem sound_reached {s : Traffic} (reached : Reached Orderly s) : Sound s :=
  reached.invariant sound_start fun _ _ sound allowed => sound.act allowed.1 allowed.2

/-- The breaker protects the provider in every run whose results arrive in the phase of their call. -/
theorem breaker_protects {s : Traffic} (reached : Reached Orderly s) : Protected s :=
  (sound_reached reached).protected

instance (s : Traffic) (m : Move) : Decidable (Orderly s m) :=
  match m with
  | .tick _ => .isTrue trivial
  | .acquire => inferInstanceAs (Decidable (_ → _ → s.probesInFlight = []))
  | .record call err delivered =>
    have : Decidable (match s.breaker.state with
      | .closed => True
      | .opened => False
      | .halfOpen => call.probes = some s.phase ∧ err = none) :=
      match s.breaker.state with
      | .closed => .isTrue trivial
      | .opened => .isFalse id
      | .halfOpen => inferInstance
    inferInstanceAs (Decidable (countsAsFailure err delivered = false → _))

def ordinary : Call := ⟨none⟩

def rateLimited : CallError := { rateLimited := true }

/-- Two calls in flight when the first meets the limit, and a probe that finds the provider well. -/
def probedRun : List Move :=
  [.acquire, .acquire, .record ordinary (some rateLimited) false, .record ordinary (some errUpstream) false,
    .tick 60_000, .acquire, .acquire, .record ⟨some 1⟩ none true, .acquire]

theorem probed_protected :
    (Machine.run act {} probedRun).closings.length = 1 ∧ (Machine.run act {} probedRun).admissions.length = 4 ∧ Protected (Machine.run act {} probedRun) :=
  ⟨by decide, by decide, breaker_protects (Machine.Reached.start.run (by decide))⟩

/-- A call that began before the breaker opened succeeds after it. -/
def slowSuccess : List Move :=
  [.acquire, .acquire, .record ordinary (some rateLimited) false, .record ordinary none true, .acquire]

theorem not_breaker_protects :
    ¬ ∀ s : Traffic, Reached (fun _ _ => True) s → Protected s := by
  intro all
  have reached : Reached (fun _ _ => True) (Machine.run act {} slowSuccess) := Machine.Reached.start.run (by decide)
  have early := (all _ reached).waits ⟨0, some 0⟩ (by decide) 0 rfl
  exact absurd early (by decide)

end Traffic

end Marketplace.Chat
