import Mathlib.Data.Rat.Floor
import Marketplace.Machine
import Marketplace.Schema

/-! `PromotionsService`: the coupons that admins and sellers create and change. -/
namespace Marketplace.Coupons

def CODE_MIN_LENGTH : Nat := 3
def CODE_MAX_LENGTH : Nat := 20

/-- A number that `Min(0)` lets through. -/
structure Amount where
  value : ℚ
  nonneg : 0 ≤ value
deriving DecidableEq

/-- A text that `IsDateString` lets through, as `new Date` reads it; of some it makes an invalid date. -/
structure DateText where
  instant : Option Time
deriving DecidableEq

def isCode (text : String) : Bool :=
  CODE_MIN_LENGTH ≤ text.length ∧ text.length ≤ CODE_MAX_LENGTH ∧ text.toList.all fun c => c.isUpper || c.isDigit

abbrev Code := { text : String // isCode text = true }

inductive Patched (α : Type) where
  | absent
  | null
  | value (a : α)
deriving DecidableEq

def Patched.given {α : Type} : Patched α → Option α
  | .value a => some a
  | _ => none

structure CreateCouponDto where
  code : Code
  discountType : DiscountType
  discountValue : Amount
  minOrderValue : Option Amount
  maxDiscountValue : Option Amount
  startDate : Option DateText
  endDate : Option DateText
  usageLimit : Option { n : Nat // 1 ≤ n }

structure UpdateCouponDto where
  code : Patched Code
  discountType : Patched DiscountType
  discountValue : Patched Amount
  minOrderValue : Patched Amount
  maxDiscountValue : Patched Amount
  startDate : Patched DateText
  endDate : Patched DateText
  usageLimit : Patched { n : Nat // 1 ≤ n }

def isPercentage (discountType : Option DiscountType) : Bool := discountType = some .percentage

def outOfPercent (value : Amount) : Bool := value.value ≤ 0 ∨ 100 < value.value

/-- A comparison with an invalid date is false. -/
def isAfter (start finish : DateText) : Bool :=
  start.instant.any fun s => finish.instant.any fun e => e < s

def validateCouponPayload (discountType : Option DiscountType) (discountValue : Option Amount)
    (startDate endDate : Option DateText) : Except Err Unit :=
  if isPercentage discountType ∧ discountValue.any outOfPercent then
    .error (.badRequest "Giảm theo % phải trong khoảng 1–100")
  else if startDate.any fun start => endDate.any (isAfter start) then
    .error (.badRequest "start_date phải trước end_date")
  else .ok ()

/-- `decimal(12,2)` rounds half up and has ten digits before the point. -/
def Amount.column (amount : Amount) : Except Err Money :=
  let hundredths := ⌊amount.value * 100 + 1 / 2⌋
  if hundredths < 10 ^ 12 then .ok hundredths else .error .database

def DateText.column (date : DateText) : Except Err Time :=
  match date.instant with
  | some t => .ok t
  | none => .error .database

def limitColumn (limit : { n : Nat // 1 ≤ n }) : Except Err Nat :=
  if limit.val < 2 ^ 31 then .ok limit.val else .error .database

def optional {α β : Type} (column : α → Except Err β) : Option α → Except Err (Option β)
  | none => .ok none
  | some a => (column a).map some

/-- What a save writes of a field of a patch. -/
def Patched.over {α β : Type} (old : Option β) (column : α → Except Err β) : Patched α → Except Err (Option β)
  | .absent => .ok old
  | .null => .ok none
  | .value a => (column a).map some

abbrev CouponTable := List (Id × Coupon)

def CreateCouponDto.coupon (dto : CreateCouponDto) (type : CouponType) (shop : Option Id) : Except Err Coupon := do
  let discountValue ← dto.discountValue.column
  let minOrderValue ← optional Amount.column dto.minOrderValue
  let maxDiscountValue ← optional Amount.column dto.maxDiscountValue
  let startDate ← optional DateText.column dto.startDate
  let endDate ← optional DateText.column dto.endDate
  let usageLimit ← optional limitColumn dto.usageLimit
  return {
    code := dto.code.val
    type
    shop
    discountType := some dto.discountType
    discountValue := some discountValue
    minOrderValue
    maxDiscountValue
    startDate
    endDate
    usageLimit
    usedCount := 0 }

def createCoupon (type : CouponType) (shop : Option Id) (dto : CreateCouponDto) (newId : Id) (rows : CouponTable) :
    Except Err CouponTable :=
  let code := dto.code.val
  if rows.any fun row => row.2.code = code then .error (.conflict s!"Mã \"{code}\" đã tồn tại")
  else do
    let coupon ← dto.coupon type shop
    if rows.any fun row => row.1 = newId then .error (.uniqueViolation "coupon.id")
    else return rows ++ [(newId, coupon)]

def createGlobalCoupon (dto : CreateCouponDto) (newId : Id) (rows : CouponTable) : Except Err CouponTable := do
  validateCouponPayload (some dto.discountType) (some dto.discountValue) dto.startDate dto.endDate
  createCoupon .global none dto newId rows

/-- `found` is what `findOneByUserId` answers of the seller. -/
def getShopBySeller (found : Option Id) : Except Err Id :=
  match found with
  | some shop => .ok shop
  | none => .error (.forbidden "Tài khoản chưa có shop")

def createShopCoupon (found : Option Id) (dto : CreateCouponDto) (newId : Id) (rows : CouponTable) : Except Err CouponTable := do
  validateCouponPayload (some dto.discountType) (some dto.discountValue) dto.startDate dto.endDate
  let shop ← getShopBySeller found
  createCoupon .shop (some shop) dto newId rows

/-- Who asks: an admin, or a seller with what `findOneByUserId` answers. -/
inductive Caller where
  | admin
  | seller (found : Option Id)
deriving DecidableEq

def getOwnedCoupon (couponId : Id) (caller : Caller) (rows : CouponTable) : Except Err Coupon :=
  match rows.find? fun row => row.1 = couponId with
  | none => .error (.notFound "Không tìm thấy coupon")
  | some (_, coupon) =>
    match caller with
    | .admin => .ok coupon
    | .seller found => do
      let shop ← getShopBySeller found
      if coupon.type ≠ .shop ∨ coupon.shop ≠ some shop then .error (.forbidden "Coupon không thuộc shop của bạn")
      else .ok coupon

/-- The code of a coupon stays. -/
def UpdateCouponDto.assign (dto : UpdateCouponDto) (coupon : Coupon) : Except Err Coupon := do
  let discountType ← dto.discountType.over coupon.discountType .ok
  let discountValue ← dto.discountValue.over coupon.discountValue Amount.column
  let minOrderValue ← dto.minOrderValue.over coupon.minOrderValue Amount.column
  let maxDiscountValue ← dto.maxDiscountValue.over coupon.maxDiscountValue Amount.column
  let startDate ← dto.startDate.over coupon.startDate DateText.column
  let endDate ← dto.endDate.over coupon.endDate DateText.column
  let usageLimit ← dto.usageLimit.over coupon.usageLimit limitColumn
  return { coupon with discountType, discountValue, minOrderValue, maxDiscountValue, startDate, endDate, usageLimit }

def saveCoupon (couponId : Id) (coupon : Coupon) (rows : CouponTable) : CouponTable :=
  rows.map fun row => if row.1 = couponId then (couponId, coupon) else row

def updateCoupon (couponId : Id) (dto : UpdateCouponDto) (caller : Caller) (rows : CouponTable) : Except Err CouponTable := do
  validateCouponPayload dto.discountType.given dto.discountValue.given dto.startDate.given dto.endDate.given
  let coupon ← getOwnedCoupon couponId caller rows
  let saved ← dto.assign coupon
  return saveCoupon couponId saved rows

def deleteCoupon (couponId : Id) (caller : Caller) (rows : CouponTable) : Except Err CouponTable := do
  let _ ← getOwnedCoupon couponId caller rows
  return rows.filter fun row => row.1 ≠ couponId

inductive Command where
  | createGlobal (dto : CreateCouponDto) (newId : Id)
  | createShop (found : Option Id) (dto : CreateCouponDto) (newId : Id)
  | update (couponId : Id) (dto : UpdateCouponDto) (caller : Caller)
  | delete (couponId : Id) (caller : Caller)

def Command.run (rows : CouponTable) : Command → Except Err CouponTable
  | createGlobal dto newId => createGlobalCoupon dto newId rows
  | createShop found dto newId => createShopCoupon found dto newId rows
  | update couponId dto caller => updateCoupon couponId dto caller rows
  | delete couponId caller => deleteCoupon couponId caller rows

/-- A command that is refused changes nothing. -/
def act (rows : CouponTable) (command : Command) : CouponTable :=
  match command.run rows with
  | .ok after => after
  | .error _ => rows

/-- In hundredths of a percent. -/
def IsPercent (value : Money) : Prop := 0 < value ∧ value ≤ 100 * 100

instance (value : Money) : Decidable (IsPercent value) := inferInstanceAs (Decidable (_ ∧ _))

/-- A percentage is above 0 and at most 100, and the start is not after the end. -/
structure WellFormed (coupon : Coupon) : Prop where
  percent : isPercentage coupon.discountType = true → coupon.discountValue.any (IsPercent ·) = true
  period : ∀ start ∈ coupon.startDate, ∀ finish ∈ coupon.endDate, start ≤ finish

def AllWellFormed (rows : CouponTable) : Prop := ∀ row ∈ rows, WellFormed row.2

/-- The rounded amount is a percentage. -/
def Amount.RoundsToPercent (amount : Amount) : Prop := 1 / 200 ≤ amount.value ∧ amount.value < 100 + 1 / 200

instance (amount : Amount) : Decidable amount.RoundsToPercent := inferInstanceAs (Decidable (_ ∧ _))

def UpdateCouponDto.leavesPercentage (dto : UpdateCouponDto) (coupon : Coupon) : Bool :=
  match dto.discountType with
  | .absent => isPercentage coupon.discountType
  | .null => false
  | .value discountType => isPercentage (some discountType)

/-- A patch of a percentage brings a value that rounds to one, or leaves one that is one. -/
def UpdateCouponDto.ValueFits (dto : UpdateCouponDto) (coupon : Coupon) : Prop :=
  match dto.discountValue with
  | .absent => coupon.discountValue.any (IsPercent ·) = true
  | .null => False
  | .value amount => amount.RoundsToPercent

instance (dto : UpdateCouponDto) (coupon : Coupon) : Decidable (dto.ValueFits coupon) := by
  unfold UpdateCouponDto.ValueFits
  split <;> infer_instance

/-- A patch that brings one of the dates fits the other as it stands. -/
def UpdateCouponDto.PeriodFits (dto : UpdateCouponDto) (coupon : Coupon) : Prop :=
  match dto.startDate, dto.endDate with
  | .value start, .absent => ∀ s ∈ start.instant, ∀ e ∈ coupon.endDate, s ≤ e
  | .absent, .value finish => ∀ s ∈ coupon.startDate, ∀ e ∈ finish.instant, s ≤ e
  | _, _ => True

instance (dto : UpdateCouponDto) (coupon : Coupon) : Decidable (dto.PeriodFits coupon) := by
  unfold UpdateCouponDto.PeriodFits
  split <;> infer_instance

def Command.FitsStored (rows : CouponTable) : Command → Prop
  | createGlobal dto _ | createShop _ dto _ => dto.discountType = .percentage → 1 / 200 ≤ dto.discountValue.value
  | update couponId dto _ => ∀ row ∈ rows.find? fun row => row.1 = couponId,
      (dto.leavesPercentage row.2 = true → dto.ValueFits row.2) ∧ dto.PeriodFits row.2
  | delete _ _ => True

instance (rows : CouponTable) (command : Command) : Decidable (command.FitsStored rows) := by
  unfold Command.FitsStored
  split <;> infer_instance

def Fits (rows : CouponTable) (command : Command) : Prop := (command.run rows).isOk = true → command.FitsStored rows

instance (rows : CouponTable) (command : Command) : Decidable (Fits rows command) :=
  inferInstanceAs (Decidable (_ → _))

theorem bind_ok {α β : Type} {x : Except Err α} {f : α → Except Err β} {b : β} :
    (x >>= f) = .ok b ↔ ∃ a, x = .ok a ∧ f a = .ok b := by
  cases x <;> simp [bind, Except.bind]

theorem validateCouponPayload_ok {discountType : Option DiscountType} {discountValue : Option Amount}
    {startDate endDate : Option DateText} :
    validateCouponPayload discountType discountValue startDate endDate = .ok () ↔
      (isPercentage discountType = true → ∀ amount ∈ discountValue, 0 < amount.value ∧ amount.value ≤ 100) ∧
        ∀ start ∈ startDate, ∀ finish ∈ endDate, ∀ s ∈ start.instant, ∀ e ∈ finish.instant, s ≤ e := by
  have inside : discountValue.any outOfPercent = false ↔ ∀ amount ∈ discountValue, 0 < amount.value ∧ amount.value ≤ 100 := by
    cases discountValue <;> simp [outOfPercent]
  have ordered : (startDate.any fun start => endDate.any (isAfter start)) = false ↔
      ∀ start ∈ startDate, ∀ finish ∈ endDate, ∀ s ∈ start.instant, ∀ e ∈ finish.instant, s ≤ e := by
    cases startDate with
    | none => simp
    | some start =>
      cases endDate with
      | none => simp
      | some finish =>
        cases begins : start.instant <;> cases ends : finish.instant <;> simp [isAfter, begins, ends]
  unfold validateCouponPayload
  rw [← inside, ← ordered]
  split
  · rename_i refused
    simp [refused.1, refused.2]
  · rename_i allowed
    split
    · rename_i reversed
      simp [reversed]
    · rename_i notReversed
      simp only [not_and, Bool.not_eq_true] at allowed notReversed
      exact iff_of_true rfl ⟨allowed, notReversed⟩

theorem Amount.column_percent {amount : Amount} {m : Money} (stored : amount.column = .ok m) :
    IsPercent m ↔ amount.RoundsToPercent := by
  unfold Amount.column at stored
  dsimp only at stored
  split at stored
  · cases stored
    unfold IsPercent Amount.RoundsToPercent
    have positive : 0 < ⌊amount.value * 100 + 1 / 2⌋ ↔ 1 / 200 ≤ amount.value := by
      rw [Int.lt_iff_add_one_le, Int.le_floor]
      constructor <;> intro h <;> norm_num at h ⊢ <;> linarith
    have bounded : ⌊amount.value * 100 + 1 / 2⌋ ≤ 100 * 100 ↔ amount.value < 100 + 1 / 200 := by
      rw [← Int.lt_add_one_iff, Int.floor_lt]
      constructor <;> intro h <;> norm_num at h ⊢ <;> linarith
    rw [positive, bounded]
  · cases stored

theorem optional_date {date : Option DateText} {stored : Option Time} (written : optional DateText.column date = .ok stored) :
    stored = date.bind (·.instant) := by
  cases date with
  | none => cases written; rfl
  | some date =>
    cases read : date.instant <;> simp_all [optional, DateText.column, Except.map]

theorem coupon_ok {dto : CreateCouponDto} {type : CouponType} {shop : Option Id} {coupon : Coupon}
    (created : dto.coupon type shop = .ok coupon) :
    coupon.discountType = some dto.discountType ∧ (∃ m, dto.discountValue.column = .ok m ∧ coupon.discountValue = some m) ∧
      coupon.startDate = dto.startDate.bind (·.instant) ∧ coupon.endDate = dto.endDate.bind (·.instant) := by
  unfold CreateCouponDto.coupon at created
  obtain ⟨discountValue, value, created⟩ := bind_ok.mp created
  obtain ⟨_, _, created⟩ := bind_ok.mp created
  obtain ⟨_, _, created⟩ := bind_ok.mp created
  obtain ⟨startDate, start, created⟩ := bind_ok.mp created
  obtain ⟨endDate, finish, created⟩ := bind_ok.mp created
  obtain ⟨_, _, created⟩ := bind_ok.mp created
  cases created
  exact ⟨rfl, ⟨discountValue, value, rfl⟩, optional_date start, optional_date finish⟩

theorem wellFormed_coupon {dto : CreateCouponDto} {type : CouponType} {shop : Option Id} {coupon : Coupon}
    (valid : validateCouponPayload (some dto.discountType) (some dto.discountValue) dto.startDate dto.endDate = .ok ())
    (created : dto.coupon type shop = .ok coupon) :
    WellFormed coupon ↔ (dto.discountType = .percentage → 1 / 200 ≤ dto.discountValue.value) := by
  obtain ⟨percent, period⟩ := validateCouponPayload_ok.mp valid
  obtain ⟨sameType, ⟨m, value, sameValue⟩, start, finish⟩ := coupon_ok created
  have ordered : ∀ s ∈ coupon.startDate, ∀ e ∈ coupon.endDate, s ≤ e := by
    intro s begins e ends
    rw [start] at begins
    rw [finish] at ends
    obtain ⟨first, given, begins⟩ := Option.bind_eq_some_iff.mp begins
    obtain ⟨last, given', ends⟩ := Option.bind_eq_some_iff.mp ends
    exact period first given last given' s begins e ends
  have rounds : isPercentage coupon.discountType = true →
      (coupon.discountValue.any (IsPercent ·) = true ↔ 1 / 200 ≤ dto.discountValue.value) := by
    intro percentage
    have small := (percent (sameType ▸ percentage) _ rfl).2
    rw [sameValue, Option.any_some, decide_eq_true_iff, Amount.column_percent value]
    exact and_iff_left (by linarith)
  have kind : isPercentage coupon.discountType = true ↔ dto.discountType = .percentage := by
    simp [sameType, isPercentage]
  rw [← kind]
  exact ⟨fun formed percentage => (rounds percentage).mp (formed.percent percentage),
    fun fits => ⟨fun percentage => (rounds percentage).mpr (fits percentage), ordered⟩⟩

theorem assign_ok {dto : UpdateCouponDto} {coupon saved : Coupon} (assigned : dto.assign coupon = .ok saved) :
    dto.discountType.over coupon.discountType .ok = .ok saved.discountType ∧
      dto.discountValue.over coupon.discountValue Amount.column = .ok saved.discountValue ∧
      dto.startDate.over coupon.startDate DateText.column = .ok saved.startDate ∧
      dto.endDate.over coupon.endDate DateText.column = .ok saved.endDate := by
  unfold UpdateCouponDto.assign at assigned
  obtain ⟨_, discountType, assigned⟩ := bind_ok.mp assigned
  obtain ⟨_, discountValue, assigned⟩ := bind_ok.mp assigned
  obtain ⟨_, _, assigned⟩ := bind_ok.mp assigned
  obtain ⟨_, _, assigned⟩ := bind_ok.mp assigned
  obtain ⟨_, startDate, assigned⟩ := bind_ok.mp assigned
  obtain ⟨_, endDate, assigned⟩ := bind_ok.mp assigned
  obtain ⟨_, _, assigned⟩ := bind_ok.mp assigned
  cases assigned
  exact ⟨discountType, discountValue, startDate, endDate⟩

theorem over_value {α β : Type} {old stored : Option β} {column : α → Except Err β} {a : α}
    (written : (Patched.value a).over old column = .ok stored) : ∃ b, column a = .ok b ∧ stored = some b := by
  cases found : column a with
  | error e => simp [Patched.over, found, Except.map] at written
  | ok b =>
    simp only [Patched.over, found, Except.map] at written
    cases written
    exact ⟨b, rfl, rfl⟩

theorem over_date {old stored : Option Time} {date : DateText}
    (written : (Patched.value date).over old DateText.column = .ok stored) : stored = date.instant := by
  obtain ⟨t, column, rfl⟩ := over_value written
  unfold DateText.column at column
  split at column
  · rename_i found
    cases column
    exact found.symm
  · cases column

section
variable {dto : UpdateCouponDto} {coupon saved : Coupon}

theorem leavesPercentage_eq (assigned : dto.assign coupon = .ok saved) :
    dto.leavesPercentage coupon = isPercentage saved.discountType := by
  have written := (assign_ok assigned).1
  unfold UpdateCouponDto.leavesPercentage
  cases patch : dto.discountType with
  | absent | null =>
    rw [patch] at written
    injection written with stored
    simp [← stored, isPercentage]
  | value discountType =>
    rw [patch] at written
    obtain ⟨_, same, stored⟩ := over_value written
    cases same
    rw [stored]

theorem valueFits_iff (assigned : dto.assign coupon = .ok saved) :
    saved.discountValue.any (IsPercent ·) = true ↔ dto.ValueFits coupon := by
  have written := (assign_ok assigned).2.1
  unfold UpdateCouponDto.ValueFits
  cases patch : dto.discountValue with
  | absent =>
    rw [patch] at written
    injection written with stored
    rw [← stored]
  | null =>
    rw [patch] at written
    injection written with stored
    simp [← stored]
  | value amount =>
    rw [patch] at written
    obtain ⟨m, column, stored⟩ := over_value written
    simpa [stored] using Amount.column_percent column

theorem periodFits_iff (valid : ∀ start ∈ dto.startDate.given, ∀ finish ∈ dto.endDate.given,
      ∀ s ∈ start.instant, ∀ e ∈ finish.instant, s ≤ e) (formed : WellFormed coupon) (assigned : dto.assign coupon = .ok saved) :
    (∀ s ∈ saved.startDate, ∀ e ∈ saved.endDate, s ≤ e) ↔ dto.PeriodFits coupon := by
  obtain ⟨_, _, startDate, endDate⟩ := assign_ok assigned
  unfold UpdateCouponDto.PeriodFits
  cases start : dto.startDate with
  | absent =>
    rw [start] at startDate
    injection startDate with startDate
    cases finish : dto.endDate with
    | absent =>
      rw [finish] at endDate
      injection endDate with endDate
      rw [← startDate, ← endDate]
      exact iff_of_true formed.period trivial
    | null =>
      rw [finish] at endDate
      injection endDate with endDate
      simp [← endDate]
    | value last =>
      rw [finish] at endDate
      rw [← startDate, over_date endDate]
  | null =>
    rw [start] at startDate
    injection startDate with startDate
    simp [← startDate]
  | value first =>
    rw [start] at startDate
    cases finish : dto.endDate with
    | absent =>
      rw [finish] at endDate
      injection endDate with endDate
      rw [over_date startDate, ← endDate]
    | null =>
      rw [finish] at endDate
      injection endDate with endDate
      simp [← endDate]
    | value last =>
      rw [finish] at endDate
      rw [over_date startDate, over_date endDate]
      rw [start, finish] at valid
      exact iff_of_true (valid first rfl last rfl) trivial

theorem wellFormed_assign
    (valid : validateCouponPayload dto.discountType.given dto.discountValue.given dto.startDate.given dto.endDate.given = .ok ())
    (formed : WellFormed coupon) (assigned : dto.assign coupon = .ok saved) :
    WellFormed saved ↔ (dto.leavesPercentage coupon = true → dto.ValueFits coupon) ∧ dto.PeriodFits coupon := by
  have period := (validateCouponPayload_ok.mp valid).2
  rw [leavesPercentage_eq assigned, ← valueFits_iff assigned, ← periodFits_iff period formed assigned]
  exact ⟨fun kept => ⟨kept.percent, kept.period⟩, fun kept => ⟨kept.1, kept.2⟩⟩

end

theorem createCoupon_ok {type : CouponType} {shop : Option Id} {dto : CreateCouponDto} {newId : Id} {rows after : CouponTable}
    (created : createCoupon type shop dto newId rows = .ok after) :
    ∃ coupon, dto.coupon type shop = .ok coupon ∧ after = rows ++ [(newId, coupon)] := by
  unfold createCoupon at created
  dsimp only at created
  split at created
  · cases created
  · obtain ⟨coupon, stored, created⟩ := bind_ok.mp created
    split at created
    · cases created
    · cases created
      exact ⟨coupon, stored, rfl⟩

theorem allWellFormed_created {type : CouponType} {shop : Option Id} {dto : CreateCouponDto} {newId : Id}
    {rows after : CouponTable} (formed : AllWellFormed rows)
    (valid : validateCouponPayload (some dto.discountType) (some dto.discountValue) dto.startDate dto.endDate = .ok ())
    (created : createCoupon type shop dto newId rows = .ok after) :
    AllWellFormed after ↔ (dto.discountType = .percentage → 1 / 200 ≤ dto.discountValue.value) := by
  obtain ⟨coupon, stored, rfl⟩ := createCoupon_ok created
  rw [← wellFormed_coupon valid stored]
  constructor
  · exact fun all => all (newId, coupon) (by simp)
  · intro new row member
    rcases List.mem_append.mp member with old | added
    · exact formed row old
    · rw [List.mem_singleton.mp added]
      exact new

theorem getOwnedCoupon_ok {couponId : Id} {caller : Caller} {rows : CouponTable} {coupon : Coupon}
    (owned : getOwnedCoupon couponId caller rows = .ok coupon) :
    ∃ row ∈ rows.find? fun row => row.1 = couponId, row.2 = coupon := by
  unfold getOwnedCoupon at owned
  split at owned
  · cases owned
  · rename_i id stored found
    refine ⟨_, found, ?_⟩
    split at owned
    · exact Except.ok.inj owned
    · obtain ⟨shop, _, owned⟩ := bind_ok.mp owned
      split at owned
      · cases owned
      · exact Except.ok.inj owned

theorem allWellFormed_saved {couponId : Id} {saved : Coupon} {rows : CouponTable} {row : Id × Coupon}
    (formed : AllWellFormed rows) (found : (rows.find? fun row => row.1 = couponId) = some row) :
    AllWellFormed (saveCoupon couponId saved rows) ↔ WellFormed saved := by
  have named : row.1 = couponId := by simpa using List.find?_some found
  constructor
  · intro all
    exact all (couponId, saved) (List.mem_map.mpr ⟨row, List.mem_of_find?_eq_some found, if_pos named⟩)
  · intro new after member
    obtain ⟨before, stored, rfl⟩ := List.mem_map.mp member
    split
    · exact new
    · exact formed before stored

theorem allWellFormed_run {rows after : CouponTable} {command : Command} (formed : AllWellFormed rows)
    (accepted : command.run rows = .ok after) : AllWellFormed after ↔ command.FitsStored rows := by
  cases command with
  | createGlobal dto newId =>
    obtain ⟨_, valid, created⟩ := bind_ok.mp accepted
    exact allWellFormed_created formed valid created
  | createShop found dto newId =>
    obtain ⟨_, valid, created⟩ := bind_ok.mp accepted
    obtain ⟨shop, _, created⟩ := bind_ok.mp created
    exact allWellFormed_created formed valid created
  | update couponId dto caller =>
    obtain ⟨_, valid, updated⟩ := bind_ok.mp accepted
    obtain ⟨coupon, owned, updated⟩ := bind_ok.mp updated
    obtain ⟨saved, assigned, updated⟩ := bind_ok.mp updated
    cases updated
    obtain ⟨row, found, rfl⟩ := getOwnedCoupon_ok owned
    have stored := formed row (List.mem_of_find?_eq_some found)
    rw [allWellFormed_saved formed found, wellFormed_assign valid stored assigned]
    constructor
    · intro fits other same
      obtain rfl := Option.mem_unique found same
      exact fits
    · exact fun fits => fits row found
  | delete couponId caller =>
    obtain ⟨_, _, deleted⟩ := bind_ok.mp accepted
    cases deleted
    exact iff_of_true (fun row member => formed row (List.mem_filter.mp member).1) trivial

theorem allWellFormed_act {rows : CouponTable} {command : Command} (formed : AllWellFormed rows) :
    AllWellFormed (act rows command) ↔ Fits rows command := by
  unfold act Fits
  split
  · rename_i after accepted
    rw [allWellFormed_run formed accepted, accepted]
    exact ⟨fun fits _ => fits, fun fits => fits rfl⟩
  · rename_i e refused
    rw [refused]
    exact iff_of_true formed fun accepted => by cases accepted

/-- From coupons that are well formed, all stay so throughout exactly if each command that is accepted fits the coupons as
they stand when it comes. -/
theorem coupons_well_formed {rows : CouponTable} (commands : List Command) (formed : AllWellFormed rows) :
    (∀ n, AllWellFormed (Machine.run act rows (commands.take n))) ↔ Machine.CanRun act Fits rows commands :=
  Machine.throughout_iff_canRun (I := fun _ => True) (fun _ _ _ _ _ => trivial) (fun _ _ _ formed => allWellFormed_act formed)
    trivial formed commands

def percentOff (value : ℚ) (nonneg : 0 ≤ value) : CreateCouponDto where
  code := ⟨"SALE10", by decide⟩
  discountType := .percentage
  discountValue := ⟨value, nonneg⟩
  minOrderValue := none
  maxDiscountValue := none
  startDate := some ⟨some 10⟩
  endDate := none
  usageLimit := none

def unchanged : UpdateCouponDto where
  code := .absent
  discountType := .absent
  discountValue := .absent
  minOrderValue := .absent
  maxDiscountValue := .absent
  startDate := .absent
  endDate := .absent
  usageLimit := .absent

def revalued (value : ℚ) (nonneg : 0 ≤ value) : UpdateCouponDto := { unchanged with discountValue := .value ⟨value, nonneg⟩ }

/-- A coupon of 10 % is made one of 20 %, and ends after it starts. -/
def sale : List Command :=
  [.createGlobal (percentOff 10 (by decide)) 1, .update 1 (revalued 20 (by decide)) .admin,
    .update 1 { unchanged with endDate := .value ⟨some 30⟩ } .admin]

theorem sale_well_formed : AllWellFormed (Machine.run act [] sale) :=
  (coupons_well_formed sale (List.forall_mem_nil _)).mpr (by decide +kernel) 3

/-- Its value is set to 500 alone. -/
def overSale : List Command := [.createGlobal (percentOff 10 (by decide)) 1, .update 1 (revalued 500 (by decide)) .admin]

theorem not_coupons_well_formed :
    ¬ ∀ (rows : CouponTable) (commands : List Command), AllWellFormed rows → AllWellFormed (Machine.run act rows commands) := by
  intro claimed
  have stored : ∃ row ∈ Machine.run act [] overSale,
      isPercentage row.2.discountType = true ∧ row.2.discountValue = some 50000 := by decide +kernel
  obtain ⟨row, member, percentage, value⟩ := stored
  have percent := (claimed [] overSale (List.forall_mem_nil _) row member).percent percentage
  rw [value] at percent
  exact absurd percent (by decide)

end Marketplace.Coupons
