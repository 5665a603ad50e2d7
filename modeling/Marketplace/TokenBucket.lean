import Mathlib.Algebra.Order.Field.Basic
import Mathlib.Data.Rat.Floor
import Mathlib.Tactic.Linarith
import Mathlib.Tactic.Ring

/-! Buckets that fill with time and are drawn from, at integer clock readings. -/
namespace TokenBucket

/-- One token every `refill` of the clock, up to `capacity`. -/
structure Rate where
  capacity : ℕ
  refill : ℕ
  capacity_pos : 0 < capacity
  refill_pos : 0 < refill

structure Bucket where
  tokens : ℚ
  lastSeen : ℕ
deriving DecidableEq

variable (rate : Rate)

/-- The tokens at a later time. A bucket that is not there is a full one. -/
def Rate.level : Option Bucket → ℕ → ℚ
  | none, _ => rate.capacity
  | some bucket, now => min (rate.capacity : ℚ) (bucket.tokens + ((now : ℚ) - bucket.lastSeen) / rate.refill)

def Rate.idleTTL : ℕ := rate.refill * rate.capacity

/-- A bucket seen by then; its tokens are a whole number of clock ticks of refill. -/
structure Rate.Sound (clock : ℕ) (bucket : Bucket) : Prop where
  nonneg : 0 ≤ bucket.tokens
  bounded : bucket.tokens ≤ rate.capacity
  seen : bucket.lastSeen ≤ clock
  whole : ∃ n : ℤ, bucket.tokens * rate.refill = n

variable {rate} {clock now later : ℕ} {bucket : Option Bucket}

theorem Rate.refill_cast_pos : (0 : ℚ) < rate.refill := Nat.cast_pos.mpr rate.refill_pos

theorem Rate.Sound.mono {b : Bucket} (sound : rate.Sound clock b) (le : clock ≤ later) : rate.Sound later b :=
  ⟨sound.nonneg, sound.bounded, Nat.le_trans sound.seen le, sound.whole⟩

theorem level_le_capacity (rate : Rate) (bucket : Option Bucket) (now : ℕ) : rate.level bucket now ≤ rate.capacity := by
  cases bucket with
  | none => exact le_refl _
  | some b => exact min_le_left _ _

theorem earned_nonneg (rate : Rate) (le : now ≤ later) : 0 ≤ ((later : ℚ) - now) / rate.refill := by
  have after : (now : ℚ) ≤ later := Nat.cast_le.mpr le
  exact div_nonneg (by linarith) (le_of_lt Rate.refill_cast_pos)

theorem level_nonneg (sound : ∀ b ∈ bucket, rate.Sound now b) : 0 ≤ rate.level bucket now := by
  cases bucket with
  | none => exact Nat.cast_nonneg _
  | some b =>
    have held := sound b rfl
    have earned := earned_nonneg rate held.seen
    exact le_min (Nat.cast_nonneg _) (add_nonneg held.nonneg earned)

/-- Looking at a bucket in between changes nothing. -/
theorem level_step (le : now ≤ later) :
    min (rate.capacity : ℚ) (rate.level bucket now + ((later : ℚ) - now) / rate.refill) = rate.level bucket later := by
  have earned := earned_nonneg rate le
  cases bucket with
  | none => exact min_eq_left (le_add_of_nonneg_right earned)
  | some b =>
    have whole : b.tokens + ((now : ℚ) - b.lastSeen) / rate.refill + ((later : ℚ) - now) / rate.refill =
        b.tokens + ((later : ℚ) - b.lastSeen) / rate.refill := by ring
    unfold Rate.level
    rw [← min_add_add_right, whole, ← min_assoc, min_eq_left (le_add_of_nonneg_right earned)]

theorem level_le_add (rate : Rate) (bucket : Option Bucket) (le : now ≤ later) :
    rate.level bucket later ≤ rate.level bucket now + ((later : ℚ) - now) / rate.refill := by
  rw [← level_step le]
  exact min_le_right _ _

/-- A bucket that has slept longer than its filling takes is full. -/
theorem level_idle {b : Bucket} (sound : rate.Sound clock b) (idle : rate.idleTTL < now - b.lastSeen) (le : now ≤ later) :
    rate.level (some b) later = rate.capacity := by
  refine min_eq_left ?_
  have slept : rate.idleTTL + b.lastSeen ≤ later := by omega
  have cast : (rate.refill : ℚ) * rate.capacity + b.lastSeen ≤ later := by exact_mod_cast slept
  have earned : (rate.capacity : ℚ) ≤ ((later : ℚ) - b.lastSeen) / rate.refill := by
    rw [le_div_iff₀ Rate.refill_cast_pos]
    linarith
  linarith [sound.nonneg]

theorem level_whole (now : ℕ) (sound : ∀ b ∈ bucket, rate.Sound clock b) :
    ∃ n : ℤ, rate.level bucket now * rate.refill = n := by
  cases bucket with
  | none => exact ⟨rate.capacity * rate.refill, by simp [Rate.level]⟩
  | some b =>
    obtain ⟨n, whole⟩ := (sound b rfl).whole
    change ∃ n : ℤ, min (rate.capacity : ℚ) (b.tokens + ((now : ℚ) - b.lastSeen) / rate.refill) * rate.refill = n
    rcases min_choice (rate.capacity : ℚ) (b.tokens + ((now : ℚ) - b.lastSeen) / rate.refill) with full | partial_
    · exact ⟨rate.capacity * rate.refill, by rw [full]; push_cast; rfl⟩
    · refine ⟨n + (now - b.lastSeen), ?_⟩
      rw [partial_, add_mul, whole, div_mul_cancel₀ _ (ne_of_gt Rate.refill_cast_pos)]
      push_cast
      rfl

theorem sound_drawn {spent : ℕ} (sound : ∀ b ∈ bucket, rate.Sound clock b) (enough : (spent : ℚ) ≤ rate.level bucket now) :
    rate.Sound now ⟨rate.level bucket now - spent, now⟩ := by
  obtain ⟨n, whole⟩ := level_whole now sound
  refine ⟨by simpa using enough, ?_, le_refl now, n - spent * rate.refill, ?_⟩
  · have below := level_le_capacity rate bucket now
    have drawn : (0 : ℚ) ≤ spent := Nat.cast_nonneg _
    change rate.level bucket now - spent ≤ rate.capacity
    linarith
  · change (rate.level bucket now - spent) * rate.refill = _
    rw [sub_mul, whole]
    push_cast
    rfl

theorem level_seen {tokens : ℚ} (bounded : tokens ≤ rate.capacity) : rate.level (some ⟨tokens, now⟩) now = tokens := by
  simp [Rate.level, bounded]

/-- Drawing lowers the level for good. -/
theorem level_drawn_le {spent : ℕ} (le : now ≤ later) :
    rate.level (some ⟨rate.level bucket now - spent, now⟩) later ≤ rate.level bucket later := by
  have drawn : (0 : ℚ) ≤ spent := Nat.cast_nonneg _
  have less : rate.level bucket now - spent + ((later : ℚ) - now) / rate.refill ≤
      rate.level bucket now + ((later : ℚ) - now) / rate.refill := by linarith
  calc
    rate.level (some ⟨rate.level bucket now - spent, now⟩) later
        = min (rate.capacity : ℚ) (rate.level bucket now - spent + ((later : ℚ) - now) / rate.refill) := rfl
    _ ≤ min (rate.capacity : ℚ) (rate.level bucket now + ((later : ℚ) - now) / rate.refill) := min_le_min_left _ less
    _ = rate.level bucket later := level_step le

theorem level_after_wait (sound : ∀ b ∈ bucket, rate.Sound clock b) (short : rate.level bucket now < 1) :
    1 ≤ rate.level (some ⟨rate.level bucket now, now⟩) (now + ⌊(1 - rate.level bucket now) * rate.refill⌋.toNat) := by
  obtain ⟨n, whole⟩ := level_whole now sound
  have ticks : (1 - rate.level bucket now) * rate.refill = ((rate.refill - n : ℤ) : ℚ) := by
    rw [sub_mul, one_mul, whole]
    push_cast
    rfl
  have positive : (0 : ℚ) < (1 - rate.level bucket now) * rate.refill :=
    mul_pos (by linarith) Rate.refill_cast_pos
  have waited : ((⌊(1 - rate.level bucket now) * rate.refill⌋.toNat : ℕ) : ℚ) = (1 - rate.level bucket now) * rate.refill := by
    rw [ticks] at positive ⊢
    rw [Int.floor_intCast]
    have nonneg : (0 : ℤ) ≤ rate.refill - n := by exact_mod_cast le_of_lt positive
    rw [← Int.cast_natCast, Int.toNat_of_nonneg nonneg]
  have one : (1 : ℚ) ≤ rate.capacity := by exact_mod_cast rate.capacity_pos
  refine le_min one ?_
  dsimp only
  rw [Nat.cast_add, waited, add_sub_cancel_left, mul_div_cancel_right₀ _ (ne_of_gt Rate.refill_cast_pos)]
  linarith

end TokenBucket
