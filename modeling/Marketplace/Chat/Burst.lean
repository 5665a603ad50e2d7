import Marketplace.Chat.Limiter
import Marketplace.TokenBucket

/-! The ceiling on how fast a subject may ask. -/
namespace Marketplace.Chat.Burst
open TokenBucket

def burstSweepEvery : ℕ := 256

inductive Reason where
  | ok | burst
deriving DecidableEq

/-- Times are in nanoseconds. -/
structure Decision where
  allowed : Bool
  reason : Reason
  retryAfter : ℕ
deriving DecidableEq

def deny (reason : Reason) (retryAfter : ℕ) : Decision := ⟨false, reason, retryAfter⟩

/-- `Burst` without its rate; `calls` are those since the last sweep. -/
structure Limiter where
  buckets : String → Option Bucket
  calls : ℕ

def newBurst : Limiter := ⟨fun _ => none, 0⟩

section
variable (rate : Rate)

def maybeSweepLocked (b : Limiter) (now : ℕ) : Limiter :=
  let calls := b.calls + 1
  if calls < burstSweepEvery then { b with calls }
  else
    { buckets := fun key => (b.buckets key).filter fun bucket => ¬ rate.idleTTL < now - bucket.lastSeen
      calls := 0 }

/-- What `Allow` does after the sweep. -/
def spend (b : Limiter) (subj : Subject) (now : ℕ) : Decision × Limiter :=
  let key := subj.dayKey
  let tokens := rate.level (b.buckets key) now
  if tokens < 1 then
    let missing := 1 - tokens
    (deny .burst ⌊missing * rate.refill⌋.toNat, { b with buckets := Function.update b.buckets key (some ⟨tokens, now⟩) })
  else
    (⟨true, .ok, 0⟩, { b with buckets := Function.update b.buckets key (some ⟨tokens - 1, now⟩) })

def allow (b : Limiter) (subj : Subject) (now : ℕ) : Decision × Limiter := spend rate (maybeSweepLocked rate b now) subj now

end

abbrev Call := Subject × ℕ

section
variable (step : Limiter → Subject → ℕ → Decision × Limiter)

/-- The answers to calls in lock order. -/
def answers : Limiter → List Call → List Decision
  | _, [] => []
  | b, (subj, now) :: rest => (step b subj now).1 :: answers (step b subj now).2 rest

def after : Limiter → List Call → Limiter
  | b, [] => b
  | b, (subj, now) :: rest => after (step b subj now).2 rest

/-- How many calls under the key are allowed in the window. -/
def admitted (b : Limiter) (calls : List Call) (key : String) (first last : ℕ) : ℕ :=
  (calls.zip (answers step b calls)).countP fun x =>
    x.1.1.dayKey = key ∧ first ≤ x.1.2 ∧ x.1.2 ≤ last ∧ x.2.allowed = true

end

/-- The clock readings, from this one on, never go back. -/
def Forward (clock : ℕ) (calls : List Call) : Prop := (calls.map (·.2)).Pairwise (· ≤ ·) ∧ ∀ call ∈ calls, clock ≤ call.2

theorem Forward.tail {clock : ℕ} {call : Call} {rest : List Call} (forward : Forward clock (call :: rest)) :
    Forward call.2 rest := by
  obtain ⟨ordered, _⟩ := forward
  rw [List.map_cons, List.pairwise_cons] at ordered
  exact ⟨ordered.2, fun other member => ordered.1 _ (List.mem_map_of_mem member)⟩

variable {rate : Rate} {clock now : ℕ} {b u : Limiter} {subj : Subject}

def Sound (rate : Rate) (clock : ℕ) (b : Limiter) : Prop := ∀ key, ∀ bucket ∈ b.buckets key, rate.Sound clock bucket

/-- From the clock on, nobody can tell the two limiters apart. -/
def Agree (rate : Rate) (clock : ℕ) (b u : Limiter) : Prop :=
  ∀ key later, clock ≤ later → rate.level (b.buckets key) later = rate.level (u.buckets key) later

theorem sound_new (rate : Rate) (clock : ℕ) : Sound rate clock newBurst := fun _ _ member => nomatch member

theorem Sound.later {later : ℕ} (sound : Sound rate clock b) (le : clock ≤ later) : Sound rate later b :=
  fun key bucket member => (sound key bucket member).mono le

theorem sweep_cases (rate : Rate) (b : Limiter) (now : ℕ) (key : String) :
    (maybeSweepLocked rate b now).buckets key = b.buckets key ∨
      (maybeSweepLocked rate b now).buckets key = none ∧
        ∃ bucket ∈ b.buckets key, rate.idleTTL < now - bucket.lastSeen := by
  unfold maybeSweepLocked
  dsimp only
  split
  · exact Or.inl rfl
  · dsimp only
    cases b.buckets key with
    | none => exact Or.inl rfl
    | some bucket =>
      by_cases idle : rate.idleTTL < now - bucket.lastSeen
      · exact Or.inr ⟨by simp [Option.filter, idle], bucket, rfl, idle⟩
      · exact Or.inl (by simp [Option.filter, idle])

theorem sound_sweep (sound : Sound rate clock b) : Sound rate clock (maybeSweepLocked rate b now) := by
  intro key bucket member
  rcases sweep_cases rate b now key with same | ⟨gone, _⟩
  · exact sound key bucket (same ▸ member)
  · rw [gone] at member
    cases member

/-- Only buckets that are full again are swept. -/
theorem sweep_agree (now : ℕ) (sound : Sound rate clock b) : Agree rate now (maybeSweepLocked rate b now) b := by
  intro key later le
  rcases sweep_cases rate b now key with same | ⟨gone, bucket, found, idle⟩
  · rw [same]
  · rw [gone, Option.mem_def.mp found]
    exact (level_idle (sound key bucket found) idle le).symm

theorem spend_denied (short : rate.level (b.buckets subj.dayKey) now < 1) :
    spend rate b subj now = (deny .burst ⌊(1 - rate.level (b.buckets subj.dayKey) now) * rate.refill⌋.toNat,
      { b with buckets := Function.update b.buckets subj.dayKey (some ⟨rate.level (b.buckets subj.dayKey) now, now⟩) }) :=
  if_pos short

theorem spend_allowed (enough : ¬ rate.level (b.buckets subj.dayKey) now < 1) :
    spend rate b subj now = (⟨true, .ok, 0⟩,
      { b with buckets := Function.update b.buckets subj.dayKey (some ⟨rate.level (b.buckets subj.dayKey) now - 1, now⟩) }) :=
  if_neg enough

theorem spend_bucket (rate : Rate) (b : Limiter) (subj : Subject) (now : ℕ) :
    (spend rate b subj now).2.buckets = Function.update b.buckets subj.dayKey
      (some ⟨rate.level (b.buckets subj.dayKey) now - ((spend rate b subj now).1.allowed.toNat : ℕ), now⟩) := by
  by_cases short : rate.level (b.buckets subj.dayKey) now < 1
  · rw [spend_denied short]
    simp [deny]
  · rw [spend_allowed short]
    simp

theorem spend_within (full : 0 ≤ rate.level (b.buckets subj.dayKey) now) :
    ((spend rate b subj now).1.allowed.toNat : ℚ) ≤ rate.level (b.buckets subj.dayKey) now := by
  by_cases short : rate.level (b.buckets subj.dayKey) now < 1
  · rw [spend_denied short]
    simpa [deny] using full
  · rw [spend_allowed short]
    simpa using short

theorem sound_spend (sound : Sound rate clock b) (le : clock ≤ now) : Sound rate now (spend rate b subj now).2 := by
  have seen := sound.later le
  intro key bucket member
  rw [spend_bucket] at member
  by_cases own : key = subj.dayKey
  · subst own
    rw [Function.update_self] at member
    cases member
    exact sound_drawn (sound _) (spend_within (level_nonneg (seen _)))
  · rw [Function.update_of_ne own] at member
    exact seen key bucket member

theorem spend_other {key : String} (other : key ≠ subj.dayKey) :
    (spend rate b subj now).2.buckets key = b.buckets key := by
  rw [spend_bucket, Function.update_of_ne other]

/-- Limiters that agree answer alike, and still agree. -/
theorem spend_agree (subj : Subject) (agree : Agree rate now b u) :
    (spend rate b subj now).1 = (spend rate u subj now).1 ∧
      Agree rate now (spend rate b subj now).2 (spend rate u subj now).2 := by
  have same := agree subj.dayKey now (Nat.le_refl now)
  have agreed : ∀ drawn : ℚ, Agree rate now
      { b with buckets := Function.update b.buckets subj.dayKey (some ⟨drawn, now⟩) }
      { u with buckets := Function.update u.buckets subj.dayKey (some ⟨drawn, now⟩) } := by
    intro drawn key later le
    by_cases own : key = subj.dayKey
    · simp only [own, Function.update_self]
    · simp only [Function.update_of_ne own]
      exact agree key later le
  by_cases short : rate.level (b.buckets subj.dayKey) now < 1
  · rw [spend_denied short, spend_denied (same ▸ short), ← same]
    exact ⟨rfl, agreed _⟩
  · rw [spend_allowed short, spend_allowed (same ▸ short), ← same]
    exact ⟨rfl, agreed _⟩

theorem Agree.trans {v : Limiter} (first : Agree rate clock b u) (second : Agree rate clock u v) : Agree rate clock b v :=
  fun key later le => (first key later le).trans (second key later le)

theorem Agree.later {later : ℕ} (agree : Agree rate clock b u) (le : clock ≤ later) : Agree rate later b u :=
  fun key after_ le' => agree key after_ (Nat.le_trans le le')

theorem sound_allow (subj : Subject) (sound : Sound rate clock b) (le : clock ≤ now) : Sound rate now (allow rate b subj now).2 :=
  sound_spend (sound_sweep sound) le

theorem allow_agree (subj : Subject) (now : ℕ) (sound : Sound rate clock b) :
    (allow rate b subj now).1 = (spend rate b subj now).1 ∧
      Agree rate now (allow rate b subj now).2 (spend rate b subj now).2 :=
  spend_agree subj (sweep_agree now sound)

/-- Nobody notices the sweep. -/
theorem answers_unswept (calls : List Call) (sound : Sound rate clock b) (agree : Agree rate clock b u)
    (forward : Forward clock calls) : answers (allow rate) b calls = answers (spend rate) u calls := by
  induction calls generalizing b u clock with
  | nil => rfl
  | cons call rest ih =>
    obtain ⟨subj, now⟩ := call
    have le : clock ≤ now := forward.2 _ List.mem_cons_self
    obtain ⟨swept, next⟩ := allow_agree subj now sound
    obtain ⟨same, still⟩ := spend_agree subj (agree.later le)
    unfold answers
    rw [swept, same, ih (sound_allow subj sound le) (next.trans still) forward.tail]

theorem allow_other (subj : Subject) {key : String} {later : ℕ} (sound : Sound rate clock b) (other : key ≠ subj.dayKey) (le : now ≤ later) :
    rate.level ((allow rate b subj now).2.buckets key) later = rate.level (b.buckets key) later := by
  have kept : (allow rate b subj now).2.buckets key = (maybeSweepLocked rate b now).buckets key := spend_other other
  rw [kept]
  exact sweep_agree now sound key later le

theorem allow_own (subj : Subject) (now : ℕ) (sound : Sound rate clock b) :
    (allow rate b subj now).2.buckets subj.dayKey =
      some ⟨rate.level (b.buckets subj.dayKey) now - ((allow rate b subj now).1.allowed.toNat : ℕ), now⟩ := by
  have swept := sweep_agree now sound subj.dayKey now (Nat.le_refl now)
  unfold allow
  rw [spend_bucket, Function.update_self, swept]

theorem allow_level_le {key : String} {later : ℕ} (sound : Sound rate clock b) (le : now ≤ later) :
    rate.level ((allow rate b subj now).2.buckets key) later ≤ rate.level (b.buckets key) later := by
  by_cases own : key = subj.dayKey
  · subst own
    rw [allow_own subj now sound]
    exact level_drawn_le le
  · exact le_of_eq (allow_other subj sound own le)

theorem allow_level (subj : Subject) (key : String) (sound : Sound rate clock b) (le : clock ≤ now) :
    rate.level ((allow rate b subj now).2.buckets key) now +
        (if subj.dayKey = key ∧ (allow rate b subj now).1.allowed = true then 1 else 0) ≤ rate.level (b.buckets key) now := by
  by_cases own : subj.dayKey = key
  · subst own
    have bounded := ((sound_allow subj sound le) subj.dayKey _ (allow_own subj now sound)).bounded
    rw [allow_own subj now sound, level_seen bounded]
    cases (allow rate b subj now).1.allowed <;> simp
  · rw [if_neg fun both => own both.1, add_zero]
    exact allow_level_le sound (Nat.le_refl now)

theorem admitted_cons (step : Limiter → Subject → ℕ → Decision × Limiter) (b : Limiter) (subj : Subject) (now : ℕ)
    (rest : List Call) (key : String) (first last : ℕ) :
    admitted step b ((subj, now) :: rest) key first last = admitted step (step b subj now).2 rest key first last +
      if subj.dayKey = key ∧ first ≤ now ∧ now ≤ last ∧ (step b subj now).1.allowed = true then 1 else 0 := by
  simp [admitted, answers, List.countP_cons]

theorem admitted_over {calls : List Call} {key : String} {first last : ℕ} (forward : Forward clock calls) (past : last < clock) :
    admitted (allow rate) b calls key first last = 0 := by
  induction calls generalizing b clock with
  | nil => rfl
  | cons call rest ih =>
    obtain ⟨subj, now⟩ := call
    have le : clock ≤ now := forward.2 _ List.mem_cons_self
    have late : last < now := Nat.lt_of_lt_of_le past le
    rw [admitted_cons, ih forward.tail late, if_neg fun counted => Nat.not_le.mpr late counted.2.2.1]

/-- A window admits what its first moment holds and what flows in until its last. -/
theorem admitted_le {calls : List Call} (key : String) {first last : ℕ} (sound : Sound rate clock b)
    (forward : Forward clock calls) (within : max clock first ≤ last) :
    (admitted (allow rate) b calls key first last : ℚ) ≤
      rate.level (b.buckets key) (max clock first) + ((last : ℚ) - (max clock first : ℕ)) / rate.refill := by
  have seen : ∀ bucket ∈ b.buckets key, rate.Sound (max clock first) bucket := sound.later (Nat.le_max_left clock first) key
  have earned := earned_nonneg rate within
  induction calls generalizing b clock with
  | nil => exact add_nonneg (level_nonneg seen) earned
  | cons call rest ih =>
    obtain ⟨subj, now⟩ := call
    have le : clock ≤ now := forward.2 _ List.mem_cons_self
    have next := sound_allow subj sound le
    rw [admitted_cons]
    by_cases early : now < first
    · -- Before the window, the level of its first moment can only fall.
      rw [if_neg fun counted => Nat.not_le.mpr early counted.2.1, Nat.add_zero]
      have start : max clock first = first := Nat.max_eq_right (by omega)
      have start' : max now first = first := Nat.max_eq_right (by omega)
      have rest_le := ih next forward.tail (by omega) (next.later (Nat.le_max_left now first) key) (start'.symm ▸ start ▸ earned)
      rw [start'] at rest_le
      rw [start]
      exact le_trans rest_le (add_le_add_left (allow_level_le sound (by omega)) _)
    by_cases late : last < now
    · rw [admitted_over forward.tail late, if_neg fun counted => Nat.not_le.mpr late counted.2.2.1]
      exact_mod_cast add_nonneg (level_nonneg seen) earned
    · have start' : max now first = now := Nat.max_eq_left (by omega)
      have from_start : max clock first ≤ now := by omega
      have earned' := earned_nonneg rate (Nat.le_of_not_lt late)
      have rest_le := ih next forward.tail (by omega) (next.later (Nat.le_max_left now first) key) (start'.symm ▸ earned')
      rw [start'] at rest_le
      have drawn := allow_level subj key sound le
      have flowed := level_le_add rate (b.buckets key) from_start
      have counted : ((if subj.dayKey = key ∧ first ≤ now ∧ now ≤ last ∧ (allow rate b subj now).1.allowed = true then 1 else 0 : ℕ) : ℚ) =
          if subj.dayKey = key ∧ (allow rate b subj now).1.allowed = true then 1 else 0 := by
        simp [Nat.le_of_not_lt early, Nat.le_of_not_lt late]
      rw [Nat.cast_add, counted]
      have split : ((last : ℚ) - (max clock first : ℕ)) / rate.refill =
          ((now : ℚ) - (max clock first : ℕ)) / rate.refill + ((last : ℚ) - now) / rate.refill := by ring
      rw [split]
      linarith

theorem after_append (step : Limiter → Subject → ℕ → Decision × Limiter) (b : Limiter) (calls rest : List Call) :
    after step b (calls ++ rest) = after step (after step b calls) rest := by
  induction calls generalizing b with
  | nil => rfl
  | cons call _ ih => exact ih (step b call.1 call.2).2

theorem sound_after {calls : List Call} (sound : Sound rate clock b) (forward : Forward clock calls) (le : clock ≤ now)
    (by_then : ∀ call ∈ calls, call.2 ≤ now) : Sound rate now (after (allow rate) b calls) := by
  induction calls generalizing b clock with
  | nil => exact sound.later le
  | cons call rest ih =>
    have seen : clock ≤ call.2 := forward.2 _ List.mem_cons_self
    rw [List.forall_mem_cons] at by_then
    exact ih (sound_allow call.1 sound seen) forward.tail by_then.1 by_then.2

theorem level_after_others {calls : List Call} {key : String} (sound : Sound rate clock b) (forward : Forward clock calls)
    (by_then : ∀ call ∈ calls, call.2 ≤ now) (others : ∀ call ∈ calls, call.1.dayKey ≠ key) :
    rate.level ((after (allow rate) b calls).buckets key) now = rate.level (b.buckets key) now := by
  induction calls generalizing b clock with
  | nil => rfl
  | cons call rest ih =>
    have seen : clock ≤ call.2 := forward.2 _ List.mem_cons_self
    rw [List.forall_mem_cons] at by_then others
    have kept := ih (sound_allow call.1 sound seen) forward.tail by_then.2 others.2
    have first := allow_other call.1 sound others.1.symm by_then.1
    exact kept.trans first

/-- A call is denied below one token, and told how long that takes to fill. -/
theorem allow_denied {r : ℕ} (sound : Sound rate clock b) (denied : (allow rate b subj now).1 = deny .burst r) :
    rate.level (b.buckets subj.dayKey) now < 1 ∧ r = ⌊(1 - rate.level (b.buckets subj.dayKey) now) * rate.refill⌋.toNat := by
  rw [(allow_agree subj now sound).1] at denied
  by_cases short : rate.level (b.buckets subj.dayKey) now < 1
  · rw [spend_denied short] at denied
    injection denied with _ _ wait
    exact ⟨short, wait.symm⟩
  · rw [spend_allowed short] at denied
    cases congrArg Decision.allowed denied

theorem allow_enough (sound : Sound rate clock b) (enough : 1 ≤ rate.level (b.buckets subj.dayKey) now) :
    (allow rate b subj now).1.allowed = true := by
  rw [(allow_agree subj now sound).1, spend_allowed (not_lt.mpr enough)]

theorem Forward.split {calls rest : List Call} (forward : Forward clock (calls ++ rest)) :
    Forward clock calls ∧ Forward clock rest ∧ ∀ call ∈ calls, ∀ next ∈ rest, call.2 ≤ next.2 := by
  obtain ⟨ordered, seen⟩ := forward
  rw [List.map_append, List.pairwise_append] at ordered
  rw [List.forall_mem_append] at seen
  exact ⟨⟨ordered.1, seen.1⟩, ⟨ordered.2.1, seen.2⟩, fun call first next second =>
    ordered.2.2 _ (List.mem_map_of_mem first) _ (List.mem_map_of_mem second)⟩

/-- Who comes back when told to is let in. -/
theorem allowed_after_wait {between rest : List Call} {subj' : Subject} {r : ℕ} (sound : Sound rate now b)
    (forward : Forward now (between ++ (subj', now + r) :: rest)) (denied : (allow rate b subj now).1 = deny .burst r)
    (same : subj'.dayKey = subj.dayKey) (others : ∀ call ∈ between, call.1.dayKey ≠ subj.dayKey) :
    (allow rate (after (allow rate) (allow rate b subj now).2 between) subj' (now + r)).1.allowed = true := by
  obtain ⟨short, wait⟩ := allow_denied sound denied
  obtain ⟨between_forward, _, order⟩ := forward.split
  have by_then : ∀ call ∈ between, call.2 ≤ now + r := fun call member => order call member _ List.mem_cons_self
  have next := sound_allow subj sound (Nat.le_refl now)
  refine allow_enough (sound_after next between_forward (Nat.le_add_right now r) by_then) ?_
  have own := allow_own subj now sound
  rw [denied] at own
  rw [same, level_after_others next between_forward by_then others, own]
  simpa [deny, ← wait] using level_after_wait (sound subj.dayKey) short

/-- The ceiling holds in every window, the sweep is invisible, and a denied subject is told the truth. -/
theorem ceiling (rate : Rate) (calls : List Call) (ordered : (calls.map (·.2)).Pairwise (· ≤ ·)) :
    (∀ key first last, first ≤ last → (admitted (allow rate) newBurst calls key first last : ℚ) ≤
      rate.capacity + ((last : ℚ) - first) / rate.refill) ∧
    answers (allow rate) newBurst calls = answers (spend rate) newBurst calls ∧
    ∀ before between rest subj subj' now r, calls = before ++ (subj, now) :: (between ++ (subj', now + r) :: rest) →
      (allow rate (after (allow rate) newBurst before) subj now).1 = deny .burst r → subj'.dayKey = subj.dayKey →
      (∀ call ∈ between, call.1.dayKey ≠ subj.dayKey) →
      (allow rate (after (allow rate) newBurst (before ++ (subj, now) :: between)) subj' (now + r)).1.allowed = true := by
  have forward : Forward 0 calls := ⟨ordered, fun call _ => Nat.zero_le call.2⟩
  refine ⟨?window, answers_unswept calls (sound_new rate 0) (fun _ _ _ => rfl) forward, ?wait⟩
  case window =>
    intro key first last within
    have start : max 0 first = first := Nat.zero_max first
    have bound := admitted_le key (sound_new rate 0) forward (start.symm ▸ within)
    rw [start] at bound
    exact bound
  case wait =>
    rintro before between rest subj subj' now r rfl denied same others
    obtain ⟨before_forward, own_forward, order⟩ := forward.split
    have by_now : ∀ call ∈ before, call.2 ≤ now := fun call member => order call member _ List.mem_cons_self
    have sound := sound_after (sound_new rate 0) before_forward (Nat.zero_le now) by_now
    rw [after_append]
    exact allowed_after_wait sound own_forward.tail denied same others

/-- One call every six seconds: the second comes after two, and is let in another four later. -/
theorem ceiling_of_one :
    let rate : Rate := ⟨1, 6, by decide, by decide⟩
    let ann : Subject := ⟨"ann", "10.0.0.1"⟩
    let guest : Subject := ⟨"", "10.0.0.2"⟩
    let calls : List Call := [(ann, 0), (ann, 2), (guest, 3), (ann, 6)]
    (admitted (allow rate) newBurst calls ann.dayKey 0 6 : ℚ) ≤ 1 + (6 - 0) / 6 ∧
      (allow rate (after (allow rate) newBurst [(ann, 0)]) ann 2).1 = deny .burst 4 ∧
      (allow rate (after (allow rate) newBurst [(ann, 0), (ann, 2), (guest, 3)]) ann 6).1.allowed = true := by
  intro rate ann guest calls
  have denied : (allow rate (after (allow rate) newBurst [(ann, 0)]) ann 2).1 = deny .burst 4 := by decide +kernel
  obtain ⟨window, _, wait⟩ := ceiling rate calls (by decide)
  refine ⟨?_, denied, wait [(ann, 0)] [(guest, 3)] [] ann ann 2 4 rfl denied rfl (by decide)⟩
  exact_mod_cast window ann.dayKey 0 6 (by decide)

end Marketplace.Chat.Burst
