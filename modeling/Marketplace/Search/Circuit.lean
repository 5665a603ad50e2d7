import Marketplace.Machine
import Mathlib.Algebra.Group.Nat.Defs
import Mathlib.Data.Rat.Init
import Mathlib.Tactic.Common

/-! `SearchClient` and `SearchWarmupService`: searches, their answers and pokes, in any order. -/
namespace Marketplace.Search.Circuit

def STALE_AFTER_MS : ℕ := 14 * 60 * 1000
def THROTTLE_MS : ℕ := 10 * 60 * 1000
def FAILED_COOLDOWN_MS : ℕ := 10 * 60 * 1000
def FAILED_COOLDOWN_MAX_MS : ℕ := 60 * 60 * 1000
def RETRY_DELAYS_MS : List ℕ := [15000, 30000, 45000]

inductive Switch where
  | closed | opened
deriving DecidableEq

structure SearchClient where
  circuit : Switch
  lastReachableAt : ℕ
deriving DecidableEq

structure SearchWarmupService where
  isPoking : Bool
  nextAllowedAt : ℕ
  consecutiveFailedChains : ℕ
deriving DecidableEq

structure SearchCandidate where
  productId : String
  rank : ℚ
deriving DecidableEq

inductive Response where
  | items (found : List SearchCandidate)
  | badShape
  /-- A status that is not 2xx. -/
  | http (status : ℕ)
  | timeout
  | network
deriving DecidableEq

inductive Metric where
  | searchRequests (outcome : String)
  | searchFallback (reason : String)
deriving DecidableEq

/-- A chain of pokes: waiting for an answer to an attempt, for the next one, or for its `finally`. -/
inductive Phase where
  | poking (attempt : ℕ)
  | sleeping (attempt : ℕ) (wakeAt : ℕ)
  | ended
deriving DecidableEq

/-- The last five fields are records: how many moves there were, which of them was the last to trip the circuit, how
many searches went out and how many chains were started, and how the ended ones ended, the last first. -/
structure State where
  client : SearchClient
  warmup : SearchWarmupService
  /-- The searches that wait for their answer, each with the move it started at. -/
  inFlight : List ℕ
  chains : List Phase
  metrics : List Metric
  returned : List (Option (List SearchCandidate))
  moves : ℕ
  lastTripped : ℕ
  fetches : ℕ
  started : ℕ
  finished : List (ℕ × Bool)

def initial : State := ⟨⟨.opened, 0⟩, ⟨false, 0, 0⟩, [], [], [], [], 0, 0, 0, 0, []⟩

inductive Move where
  | search (now : ℕ)
  /-- The `i`-th of the searches in flight is answered. -/
  | respond (i : ℕ) (response : Response) (now : ℕ)
  | warm (now : ℕ)
  /-- The poke of the `i`-th chain ends, with a 2xx or not. -/
  | poked (i : ℕ) (ok : Bool) (now : ℕ)
  | woken (i : ℕ) (now : ℕ)
  | settled (i : ℕ)
deriving DecidableEq

def SearchClient.markReachable (c : SearchClient) (now : ℕ) : SearchClient := { c with circuit := .closed, lastReachableAt := now }

def SearchClient.trip (c : SearchClient) : SearchClient := { c with circuit := .opened }

def SearchClient.admits (c : SearchClient) (now : ℕ) : Bool × SearchClient :=
  if c.circuit = .opened then (false, c)
  else if now - c.lastReachableAt ≥ STALE_AFTER_MS then (false, { c with circuit := .opened })
  else (true, c)

def State.recordFallback (s : State) (reason : String) : State :=
  { s with metrics := s.metrics ++ [.searchRequests "fallback", .searchFallback reason] }

def State.give (s : State) (answer : Option (List SearchCandidate)) : State := { s with returned := s.returned ++ [answer] }

def State.trip (s : State) : State := { s with client := s.client.trip, lastTripped := s.moves }

def State.markReachable (s : State) (now : ℕ) : State := { s with client := s.client.markReachable now }

def httpReason (status : ℕ) : String :=
  if status ≥ 500 then "http_5xx" else if status = 429 then "http_429" else "http_4xx"

/-- What follows the answer in `fetchCandidates`. -/
def State.answered (s : State) (response : Response) (now : ℕ) : State :=
  match response with
  | .items found =>
    let s : State := { s with metrics := s.metrics ++ [.searchRequests (if found.length > 0 then "served" else "empty")] }
    (s.markReachable now).give (some found)
  | .badShape => ((s.recordFallback "bad_shape").markReachable now).give none
  | .http status =>
    let s := s.recordFallback (httpReason status)
    (if status ≥ 500 ∨ status = 429 then s.trip else s.markReachable now).give none
  | .timeout => (s.recordFallback "timeout").trip.give none
  | .network => (s.recordFallback "network").trip.give none

def State.search (s : State) (configured : Bool) (now : ℕ) : State :=
  if configured then
    let (admitted, client) := s.client.admits now
    if admitted then { s with client, inFlight := s.inFlight ++ [s.moves], fetches := s.fetches + 1 }
    else (State.recordFallback { s with client } "circuit_open").give none
  else s.give none

def State.warm (s : State) (configured : Bool) (now : ℕ) : State :=
  if ¬ configured ∨ s.warmup.isPoking then s
  else if now < s.warmup.nextAllowedAt then s
  else { s with
    warmup := { s.warmup with isPoking := true }, chains := s.chains ++ [.poking 1], started := s.started + 1 }

def cooldown (failedChains : ℕ) : ℕ := min (FAILED_COOLDOWN_MS * 2 ^ (failedChains - 1)) FAILED_COOLDOWN_MAX_MS

/-- The end of an attempt in `pokeOnce` and `runPokeChain`. -/
def State.poked (s : State) (i attempt : ℕ) (ok : Bool) (now : ℕ) : State :=
  if ok then
    { s.markReachable now with
      warmup := { s.warmup with consecutiveFailedChains := 0, nextAllowedAt := now + THROTTLE_MS }
      chains := s.chains.set i .ended
      finished := (now, true) :: s.finished }
  else
    match RETRY_DELAYS_MS[attempt - 1]? with
    | some delayMs => { s with chains := s.chains.set i (.sleeping attempt (now + delayMs)) }
    | none =>
      let failed := s.warmup.consecutiveFailedChains + 1
      { s with
        warmup := { s.warmup with consecutiveFailedChains := failed, nextAllowedAt := now + cooldown failed }
        chains := s.chains.set i .ended
        finished := (now, false) :: s.finished }

def effect (configured : Bool) (s : State) : Move → State
  | .search now => s.search configured now
  | .respond i response now =>
    if i < s.inFlight.length then { s with inFlight := s.inFlight.eraseIdx i }.answered response now else s
  | .warm now => s.warm configured now
  | .poked i ok now =>
    match s.chains[i]? with
    | some (.poking attempt) => s.poked i attempt ok now
    | _ => s
  | .woken i now =>
    match s.chains[i]? with
    | some (.sleeping attempt wakeAt) => if wakeAt ≤ now then { s with chains := s.chains.set i (.poking (attempt + 1)) } else s
    | _ => s
  | .settled i =>
    match s.chains[i]? with
    | some .ended => { s with warmup := { s.warmup with isPoking := false }, chains := s.chains.eraseIdx i }
    | _ => s

def act (configured : Bool) (s : State) (m : Move) : State :=
  let s := effect configured s m
  { s with moves := s.moves + 1 }

abbrev after (configured : Bool) (moves : List Move) : State := Machine.run (act configured) initial moves

def Response.Reachable : Response → Prop
  | .items _ => True
  | .badShape => True
  | .http status => status < 500 ∧ status ≠ 429
  | .timeout => False
  | .network => False

/-- The chains that have failed since the last that did not. -/
def failedInARow (finished : List (ℕ × Bool)) : ℕ := (finished.takeWhile fun chain => !chain.2).length

/-- One step of a run: no search goes out into the cold, only an answer of the service closes the circuit, and it does. -/
structure Guarded (s : State) (m : Move) (t : State) : Prop where
  warm : t.fetches ≠ s.fetches → s.client.circuit = .closed ∧ ∃ now, m = .search now ∧ now - s.client.lastReachableAt < STALE_AFTER_MS
  closed : s.client.circuit = .opened → t.client.circuit = .closed →
    (∃ i response now, m = .respond i response now ∧ response.Reachable) ∨ ∃ i now, m = .poked i true now
  reachable : ∀ i response now, m = .respond i response now → i < s.inFlight.length → response.Reachable →
    t.client.circuit = .closed

/-- The warm-up's fields say what the records say. -/
structure Tallied (s : State) : Prop where
  chains : s.chains.length = if s.warmup.isPoking then 1 else 0
  failures : s.warmup.consecutiveFailedChains = failedInARow s.finished
  allowed : ∀ failedAt, s.finished.head? = some (failedAt, false) →
    s.warmup.nextAllowedAt = failedAt + cooldown (failedInARow s.finished)

variable {configured : Bool} {s : State} {m : Move} {now : ℕ}

theorem answered_client (s : State) (now : ℕ) (response : Response) : (s.answered response now).client = s.client.trip ∨
    response.Reachable ∧ (s.answered response now).client = s.client.markReachable now := by
  cases response with
  | items found => exact Or.inr ⟨trivial, rfl⟩
  | badShape => exact Or.inr ⟨trivial, rfl⟩
  | timeout => exact Or.inl rfl
  | network => exact Or.inl rfl
  | http status =>
    unfold State.answered
    dsimp only
    split
    · exact Or.inl rfl
    · rename_i spared
      obtain ⟨low, other⟩ := not_or.mp spared
      exact Or.inr ⟨⟨Nat.lt_of_not_le low, other⟩, rfl⟩

/-- An answer leaves the warm-up and the records of the network alone. -/
theorem answered_rest (s : State) (now : ℕ) (response : Response) : (s.answered response now).fetches = s.fetches ∧
    (s.answered response now).warmup = s.warmup ∧ (s.answered response now).chains = s.chains ∧
    (s.answered response now).started = s.started ∧ (s.answered response now).finished = s.finished := by
  cases response with
  | http status =>
    unfold State.answered
    dsimp only
    split
    · exact ⟨rfl, rfl, rfl, rfl, rfl⟩
    · exact ⟨rfl, rfl, rfl, rfl, rfl⟩
  | _ => exact ⟨rfl, rfl, rfl, rfl, rfl⟩

theorem answered_reachable {response : Response} (reachable : response.Reachable) :
    (s.answered response now).client = s.client.markReachable now := by
  cases response with
  | items found => rfl
  | badShape => rfl
  | http status =>
    unfold State.answered
    dsimp only
    rw [if_neg (not_or.mpr ⟨Nat.not_le.mpr reachable.1, reachable.2⟩)]
    rfl
  | timeout => exact reachable.elim
  | network => exact reachable.elim

/-- A search goes out through a closed circuit on fresh evidence, and closes none. -/
theorem search_cases (s : State) (configured : Bool) (now : ℕ) :
    ((s.search configured now).client.circuit = .opened ∨ (s.search configured now).client = s.client) ∧
    ((s.search configured now).fetches = s.fetches ∨
      s.client.circuit = .closed ∧ now - s.client.lastReachableAt < STALE_AFTER_MS) := by
  unfold State.search SearchClient.admits
  by_cases ready : configured = true
  · rw [if_pos ready]
    by_cases cold : s.client.circuit = .opened
    · rw [if_pos cold]
      exact ⟨Or.inl cold, Or.inl rfl⟩
    by_cases stale : now - s.client.lastReachableAt ≥ STALE_AFTER_MS
    · rw [if_neg cold, if_pos stale]
      exact ⟨Or.inl rfl, Or.inl rfl⟩
    · rw [if_neg cold, if_neg stale]
      refine ⟨Or.inr rfl, Or.inr ⟨?_, Nat.lt_of_not_le stale⟩⟩
      cases circuit : s.client.circuit with
      | closed => rfl
      | opened => exact absurd circuit cold
  · rw [if_neg ready]
    exact ⟨Or.inr rfl, Or.inl rfl⟩

theorem poked_cases (s : State) (i attempt : ℕ) (ok : Bool) (now : ℕ) :
    (ok = true ∧ (s.poked i attempt ok now).client = s.client.markReachable now ∨
      ok = false ∧ (s.poked i attempt ok now).client = s.client) ∧
    (s.poked i attempt ok now).fetches = s.fetches ∧ (s.poked i attempt ok now).started = s.started := by
  cases ok with
  | true => exact ⟨Or.inl ⟨rfl, rfl⟩, rfl, rfl⟩
  | false =>
    unfold State.poked
    rw [if_neg Bool.false_ne_true]
    cases RETRY_DELAYS_MS[attempt - 1]? with
    | some delay => exact ⟨Or.inr ⟨rfl, rfl⟩, rfl, rfl⟩
    | none => exact ⟨Or.inr ⟨rfl, rfl⟩, rfl, rfl⟩

theorem warm_cases (s : State) (configured : Bool) (now : ℕ) : s.warm configured now = s ∨
    s.warmup.isPoking = false ∧ s.warmup.nextAllowedAt ≤ now ∧ s.warm configured now =
      { s with warmup := { s.warmup with isPoking := true }, chains := s.chains ++ [.poking 1], started := s.started + 1 } := by
  unfold State.warm
  split
  · exact Or.inl rfl
  · rename_i idle
    split
    · exact Or.inl rfl
    · rename_i open_
      exact Or.inr ⟨by simpa using (not_or.mp idle).2, Nat.le_of_not_lt open_, rfl⟩

theorem effect_poked (configured : Bool) (s : State) (i : ℕ) (ok : Bool) (now : ℕ) : effect configured s (.poked i ok now) = s ∨
    ∃ attempt, s.chains[i]? = some (.poking attempt) ∧ effect configured s (.poked i ok now) = s.poked i attempt ok now := by
  unfold effect
  dsimp only
  split
  · rename_i attempt chain
    exact Or.inr ⟨attempt, chain, rfl⟩
  · exact Or.inl rfl

theorem effect_woken (configured : Bool) (s : State) (i now : ℕ) : effect configured s (.woken i now) = s ∨
    ∃ attempt, effect configured s (.woken i now) = { s with chains := s.chains.set i (.poking (attempt + 1)) } := by
  unfold effect
  dsimp only
  split
  · split
    · exact Or.inr ⟨_, rfl⟩
    · exact Or.inl rfl
  · exact Or.inl rfl

theorem effect_settled (configured : Bool) (s : State) (i : ℕ) : effect configured s (.settled i) = s ∨
    s.chains[i]? = some .ended ∧ effect configured s (.settled i) =
      { s with warmup := { s.warmup with isPoking := false }, chains := s.chains.eraseIdx i } := by
  unfold effect
  dsimp only
  split
  · rename_i chain
    exact Or.inr ⟨chain, rfl⟩
  · exact Or.inl rfl

theorem effect_respond (configured : Bool) (s : State) (i : ℕ) (response : Response) (now : ℕ) :
    i < s.inFlight.length ∧ effect configured s (.respond i response now) =
        { s with inFlight := s.inFlight.eraseIdx i }.answered response now ∨
      ¬ i < s.inFlight.length ∧ effect configured s (.respond i response now) = s := by
  by_cases pending : i < s.inFlight.length
  · exact Or.inl ⟨pending, if_pos pending⟩
  · exact Or.inr ⟨pending, if_neg pending⟩

theorem Guarded.quiet {t : State} (client : t.client = s.client) (fetches : t.fetches = s.fetches)
    (other : ∀ i response now, m ≠ .respond i response now) : Guarded s m t := by
  refine ⟨fun changed => absurd fetches changed, fun opened closed => ?_, fun i response now same => absurd same (other i response now)⟩
  rw [client, opened] at closed
  cases closed

/-- Every move is guarded, in whatever state it comes. -/
theorem guarded (configured : Bool) (s : State) (m : Move) : Guarded s m (effect configured s m) := by
  cases m with
  | search now =>
    obtain ⟨client, fetches⟩ := search_cases s configured now
    refine ⟨fun changed => ?_, fun opened closed => ?_, fun i response now same => nomatch same⟩
    · rcases fetches with same | ⟨circuit, fresh⟩
      · exact absurd same changed
      · exact ⟨circuit, now, rfl, fresh⟩
    · change (s.search configured now).client.circuit = .closed at closed
      rcases client with still | same
      · rw [still] at closed
        cases closed
      · rw [same, opened] at closed
        cases closed
  | respond i response now =>
    rcases effect_respond configured s i response now with ⟨pending, stepped⟩ | ⟨absent, stepped⟩
    · rw [stepped]
      refine ⟨fun changed => absurd (answered_rest _ _ response).1 changed, fun opened closed => ?_, fun j other later same _ reachable => ?_⟩
      · rcases answered_client { s with inFlight := s.inFlight.eraseIdx i } now response with tripped | ⟨reachable, _⟩
        · rw [tripped] at closed
          cases closed
        · exact Or.inl ⟨i, response, now, rfl, reachable⟩
      · cases same
        rw [answered_reachable reachable]
        rfl
    · rw [stepped]
      refine ⟨fun changed => absurd rfl changed, fun opened closed => ?_, fun j other later same waiting => ?_⟩
      · rw [opened] at closed
        cases closed
      · cases same
        exact absurd waiting absent
  | warm now =>
    change Guarded s (.warm now) (s.warm configured now)
    rcases warm_cases s configured now with same | ⟨_, _, started⟩
    · rw [same]
      exact .quiet rfl rfl nofun
    · rw [started]
      exact .quiet rfl rfl nofun
  | poked i ok now =>
    rcases effect_poked configured s i ok now with same | ⟨attempt, _, stepped⟩
    · rw [same]
      exact .quiet rfl rfl nofun
    · rw [stepped]
      obtain ⟨client, fetches, _⟩ := poked_cases s i attempt ok now
      rcases client with ⟨rfl, _⟩ | ⟨_, same⟩
      · exact ⟨fun changed => absurd fetches changed, fun _ _ => Or.inr ⟨i, now, rfl⟩, fun i response now same => nomatch same⟩
      · exact .quiet same fetches nofun
  | woken i now =>
    rcases effect_woken configured s i now with same | ⟨attempt, stepped⟩
    · rw [same]
      exact .quiet rfl rfl nofun
    · rw [stepped]
      exact .quiet rfl rfl nofun
  | settled i =>
    rcases effect_settled configured s i with same | ⟨_, stepped⟩
    · rw [same]
      exact .quiet rfl rfl nofun
    · rw [stepped]
      exact .quiet rfl rfl nofun

theorem failedInARow_failed (now : ℕ) (finished : List (ℕ × Bool)) :
    failedInARow ((now, false) :: finished) = failedInARow finished + 1 := by
  simp [failedInARow]

theorem Tallied.kept (tallied : Tallied s) {t : State} (warmup : t.warmup = s.warmup) (chains : t.chains.length = s.chains.length)
    (finished : t.finished = s.finished) : Tallied t := by
  refine ⟨?_, ?_, fun failedAt last => ?_⟩
  · rw [chains, warmup]
    exact tallied.chains
  · rw [warmup, finished]
    exact tallied.failures
  · rw [warmup, finished]
    exact tallied.allowed failedAt (finished ▸ last)

theorem Tallied.poked (tallied : Tallied s) (i attempt : ℕ) (ok : Bool) (now : ℕ) : Tallied (s.poked i attempt ok now) := by
  cases ok with
  | true =>
    refine ⟨?_, rfl, fun failedAt last => ?_⟩
    · exact (List.length_set ..).trans tallied.chains
    · cases last
  | false =>
    unfold State.poked
    rw [if_neg Bool.false_ne_true]
    cases RETRY_DELAYS_MS[attempt - 1]? with
    | some delay => exact tallied.kept rfl (List.length_set ..) rfl
    | none =>
      refine ⟨(List.length_set ..).trans tallied.chains, ?_, fun failedAt last => ?_⟩
      · change s.warmup.consecutiveFailedChains + 1 = _
        rw [failedInARow_failed, tallied.failures]
      · cases last
        change now + cooldown (s.warmup.consecutiveFailedChains + 1) = _
        rw [failedInARow_failed, tallied.failures]

end Marketplace.Search.Circuit
