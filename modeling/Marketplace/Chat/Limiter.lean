import Mathlib.Data.List.Basic

/-! The quota of the bot: who may ask, how often a day and an hour, and one question at a time. -/
namespace Marketplace.Chat

/-- Whose quota a question uses. A guest has no user id and counts by address. -/
structure Subject where
  userId : String
  ip : String
deriving DecidableEq

def Subject.isGuest (subj : Subject) : Bool := subj.userId == ""

def Subject.dayKey (subj : Subject) : String :=
  if subj.isGuest then "ip:" ++ subj.ip else "user:" ++ subj.userId

def globalKey : String := "global"

/-- Times are in milliseconds, and days and hours those of Vietnam, seven hours ahead of UTC. -/
def hourLength : Nat := 3_600_000
def dayLength : Nat := 24 * hourLength
def ict (now : Nat) : Nat := now + 7 * hourLength
def dateOf (now : Nat) : Nat := ict now / dayLength
def hourOf (now : Nat) : Nat := ict now % dayLength / hourLength
def untilNextDay (now : Nat) : Nat := dayLength - ict now % dayLength
def untilNextHour (now : Nat) : Nat := hourLength - ict now % hourLength

def twoDigits (n : Nat) : String := if n < 10 then "0" ++ toString n else toString n

def Subject.hourKey (subj : Subject) (now : Nat) : String :=
  "userhour:" ++ subj.userId ++ ":" ++ twoDigits (hourOf now)

def tierOf (key : String) : String :=
  if key = globalKey then "global"
  else if "ip:".toList.isPrefixOf key.toList then "guest_daily"
  else if "userhour:".toList.isPrefixOf key.toList then "user_hourly"
  else "user_daily"

/-- The configuration refuses limits that are not positive. -/
structure Limits where
  guestDaily : Nat
  userDaily : Nat
  userHourly : Nat
  globalDaily : Nat

inductive Reason where
  | ok | inFlight | guestDaily | userHourly | userDaily | globalDaily
deriving DecidableEq

/-- The tiers of one subject. -/
def Reason.isIndividual (reason : Reason) : Bool :=
  reason == .guestDaily || reason == .userHourly || reason == .userDaily

structure Decision where
  allowed : Bool
  reason : Reason
  remaining : Nat := 0
  retryAfter : Nat := 0
deriving DecidableEq

def inFlightRetryAfter : Nat := 3000

def deny (reason : Reason) (retryAfter : Nat) : Decision := { allowed := false, reason, retryAfter }

structure CountError where
  tier : String
deriving DecidableEq

/-- Code that waits for its counters: each answer is the count after the increment. -/
inductive Counting (α : Type) where
  | done (a : α)
  | increment (key : String) (usageDate : Nat) (next : Nat → Counting α)

namespace Counting

variable {α β : Type}

def bind : Counting α → (α → Counting β) → Counting β
  | done a, k => k a
  | increment key usageDate next, k => increment key usageDate fun used => (next used).bind k

instance : Monad Counting where
  pure := done
  bind := bind

end Counting

def increment (key : String) (usageDate : Nat) : Counting Nat := .increment key usageDate .done

/-- The last tier of `charge`. -/
def chargeGlobal (limits : Limits) (now remaining : Nat) : Counting Decision := do
  let usedGlobal ← increment globalKey (dateOf now)
  if usedGlobal > limits.globalDaily then
    return deny .globalDaily (untilNextDay now)
  return { allowed := true, reason := .ok, remaining }

/-- Own tiers before the global one, and of these the hour before the day. -/
def charge (limits : Limits) (subj : Subject) (now : Nat) : Counting Decision :=
  let usageDate := dateOf now
  if subj.isGuest then do
    let usedDay ← increment subj.dayKey usageDate
    if usedDay > limits.guestDaily then
      return deny .guestDaily (untilNextDay now)
    chargeGlobal limits now (limits.guestDaily - usedDay)
  else do
    let usedHour ← increment (subj.hourKey now) usageDate
    if usedHour > limits.userHourly then
      return deny .userHourly (untilNextHour now)
    let usedDay ← increment subj.dayKey usageDate
    if usedDay > limits.userDaily then
      return deny .userDaily (untilNextDay now)
    chargeGlobal limits now (min (limits.userHourly - usedHour) (limits.userDaily - usedDay))

/-- An increment of a counter by a request, with the count it led to. -/
structure Charge where
  request : Nat
  key : String
  usageDate : Nat
  used : Nat
deriving DecidableEq

/-- What holds of each decision and the charges it is made on. -/
def Counting.Each (request : Nat) (post : List Charge → Decision → Prop) :
    List Charge → Counting Decision → Prop
  | drawn, .done d => post drawn d
  | drawn, .increment key usageDate next =>
    ∀ used, Each request post (drawn ++ [⟨request, key, usageDate, used⟩]) (next used)

/-- A charge within its limit. -/
def Within (charged : List Charge) (request : Nat) (key : String) (usageDate limit : Nat) : Prop :=
  ∃ used ≤ limit, ⟨request, key, usageDate, used⟩ ∈ charged

structure Passed (limits : Limits) (request : Nat) (subj : Subject) (now : Nat) (charged : List Charge) : Prop where
  guestDaily : subj.isGuest = true → Within charged request subj.dayKey (dateOf now) limits.guestDaily
  userHourly : subj.isGuest = false → Within charged request (subj.hourKey now) (dateOf now) limits.userHourly
  userDaily : subj.isGuest = false → Within charged request subj.dayKey (dateOf now) limits.userDaily
  globalDaily : Within charged request globalKey (dateOf now) limits.globalDaily

/-- What a request denied for this reason has not charged. -/
structure Spared (reason : Reason) (charged : List Charge) : Prop where
  global : reason.isIndividual = true → ∀ charge ∈ charged, charge.key ≠ globalKey
  day : reason = .userHourly → ∀ charge ∈ charged, ∀ subj : Subject, charge.key ≠ subj.dayKey

structure Decided (limits : Limits) (request : Nat) (subj : Subject) (now : Nat) (charged : List Charge)
    (d : Decision) : Prop where
  passed : d.allowed = true → Passed limits request subj now charged
  spared : d.allowed = false → Spared d.reason charged

theorem dayKey_not_global (subj : Subject) : subj.dayKey ≠ globalKey := by
  unfold Subject.dayKey globalKey
  intro same
  have same := congrArg String.toList same
  split at same <;> simp at same

theorem hourKey_not_global (subj : Subject) (now : Nat) : subj.hourKey now ≠ globalKey := by
  unfold Subject.hourKey globalKey
  intro same
  have same := congrArg String.toList same
  simp at same

theorem hourKey_not_dayKey (subj other : Subject) (now : Nat) : subj.hourKey now ≠ other.dayKey := by
  unfold Subject.hourKey Subject.dayKey
  intro same
  have same := congrArg String.toList same
  split at same <;> simp at same

theorem Within.mono {charged more : List Charge} {request usageDate limit : Nat} {key : String}
    (within : Within charged request key usageDate limit) (sub : charged ⊆ more) :
    Within more request key usageDate limit := by
  obtain ⟨used, le, mem⟩ := within
  exact ⟨used, le, sub mem⟩

theorem Within.last (charged : List Charge) (request : Nat) (key : String) (usageDate : Nat) {used limit : Nat}
    (le : used ≤ limit) : Within (charged ++ [⟨request, key, usageDate, used⟩]) request key usageDate limit :=
  ⟨used, le, List.mem_append_right charged (List.mem_singleton.mpr rfl)⟩

theorem Passed.mono {limits : Limits} {request now : Nat} {subj : Subject} {charged more : List Charge}
    (passed : Passed limits request subj now charged) (sub : charged ⊆ more) : Passed limits request subj now more where
  guestDaily guest := (passed.guestDaily guest).mono sub
  userHourly user := (passed.userHourly user).mono sub
  userDaily user := (passed.userDaily user).mono sub
  globalDaily := passed.globalDaily.mono sub

theorem chargeGlobal_decides {limits : Limits} {request now : Nat} {subj : Subject} {charged : List Charge}
    (remaining : Nat) (guestDaily : subj.isGuest = true →
      Within charged request subj.dayKey (dateOf now) limits.guestDaily)
    (userHourly : subj.isGuest = false → Within charged request (subj.hourKey now) (dateOf now) limits.userHourly)
    (userDaily : subj.isGuest = false → Within charged request subj.dayKey (dateOf now) limits.userDaily) :
    (chargeGlobal limits now remaining).Each request (Decided limits request subj now) charged := by
  intro used
  by_cases exceeded : used > limits.globalDaily
  · show Counting.Each _ _ _ (if used > limits.globalDaily then _ else _)
    rw [if_pos exceeded]
    exact ⟨nofun, fun _ => ⟨nofun, nofun⟩⟩
  · show Counting.Each _ _ _ (if used > limits.globalDaily then _ else _)
    rw [if_neg exceeded]
    exact ⟨fun _ => {
      guestDaily := fun guest => (guestDaily guest).mono (List.subset_append_left charged _)
      userHourly := fun user => (userHourly user).mono (List.subset_append_left charged _)
      userDaily := fun user => (userDaily user).mono (List.subset_append_left charged _)
      globalDaily := Within.last charged request globalKey (dateOf now) (Nat.le_of_not_lt exceeded) }, nofun⟩

/-- `charge` allows within every tier, and a tier that denies leaves those after it alone. -/
theorem charge_decides (limits : Limits) (request : Nat) (subj : Subject) (now : Nat) :
    (charge limits subj now).Each request (Decided limits request subj now) [] := by
  unfold charge
  cases guest : subj.isGuest with
  | true =>
    intro used
    show Counting.Each _ _ _ (if used > limits.guestDaily then _ else _)
    by_cases exceeded : used > limits.guestDaily
    · rw [if_pos exceeded]
      refine ⟨nofun, fun _ => ⟨fun _ charge mem => ?_, nofun⟩⟩
      rw [List.mem_singleton.mp mem]
      exact dayKey_not_global subj
    · rw [if_neg exceeded]
      apply chargeGlobal_decides
      · intro _
        exact Within.last [] request subj.dayKey (dateOf now) (Nat.le_of_not_lt exceeded)
      · intro user
        cases guest.symm.trans user
      · intro user
        cases guest.symm.trans user
  | false =>
    intro usedHour
    show Counting.Each _ _ _ (if usedHour > limits.userHourly then _ else _)
    by_cases overHour : usedHour > limits.userHourly
    · rw [if_pos overHour]
      refine ⟨nofun, fun _ => ⟨fun _ charge mem => ?_, fun _ charge mem other => ?_⟩⟩
      · rw [List.mem_singleton.mp mem]
        exact hourKey_not_global subj now
      · rw [List.mem_singleton.mp mem]
        exact hourKey_not_dayKey subj other now
    · rw [if_neg overHour]
      have hour := Within.last [] request (subj.hourKey now) (dateOf now) (Nat.le_of_not_lt overHour)
      intro usedDay
      show Counting.Each _ _ _ (if usedDay > limits.userDaily then _ else _)
      by_cases overDay : usedDay > limits.userDaily
      · rw [if_pos overDay]
        refine ⟨nofun, fun _ => ⟨fun _ charge mem => ?_, nofun⟩⟩
        rcases List.mem_append.mp mem with first | second
        · rw [List.mem_singleton.mp first]
          exact hourKey_not_global subj now
        · rw [List.mem_singleton.mp second]
          exact dayKey_not_global subj
      · rw [if_neg overDay]
        apply chargeGlobal_decides
        · intro user
          cases guest.symm.trans user
        · intro _
          exact hour.mono (List.subset_append_left _ _)
        · intro _
          exact Within.last _ request subj.dayKey (dateOf now) (Nat.le_of_not_lt overDay)

end Marketplace.Chat
