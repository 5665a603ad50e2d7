import Marketplace.Schema

/-! `PromotionsService`: coupons, their use counts and the wallets. -/
namespace Marketplace
open ReadCommitted ReadCommitted.Tx

def couponColumns : Columns Coupon where
  write mem r c :=
    { code := column mem.code r.code c.code
      type := column mem.type r.type c.type
      shop := column mem.shop r.shop c.shop
      discountType := column mem.discountType r.discountType c.discountType
      discountValue := column mem.discountValue r.discountValue c.discountValue
      minOrderValue := column mem.minOrderValue r.minOrderValue c.minOrderValue
      maxDiscountValue := column mem.maxDiscountValue r.maxDiscountValue c.maxDiscountValue
      startDate := column mem.startDate r.startDate c.startDate
      endDate := column mem.endDate r.endDate c.endDate
      usageLimit := column mem.usageLimit r.usageLimit c.usageLimit
      usedCount := column mem.usedCount r.usedCount c.usedCount }
  same := by intro mem c; simp
  fresh := by intro mem r; simp

/-- `Math.round(value * 100) / 100` on an amount in ten-thousandths of a hundredth. -/
def round2 (scaled : Int) : Money := (scaled + 5000) / 10000

/-- `discount_value` of a percentage is in hundredths of a percent. -/
def computeCouponDiscount (coupon : Coupon) (baseAmount : Money) : Money :=
  let discountValue := coupon.discountValue.getD 0
  let discount :=
    match coupon.discountType with
    | some .percentage => baseAmount * discountValue
    | some .fixedAmount => discountValue * 10000
    | none => 0
  let capped :=
    match coupon.maxDiscountValue with
    | some maxCap => min (min discount (maxCap * 10000)) (baseAmount * 10000)
    | none => min discount (baseAmount * 10000)
  round2 (max 0 capped)

/-- A discount is at most what it is taken from. -/
theorem computeCouponDiscount_le (coupon : Coupon) {baseAmount : Money} (nonneg : 0 ≤ baseAmount) :
    computeCouponDiscount coupon baseAmount ≤ baseAmount := by
  have rounded : ∀ capped : Int, capped ≤ baseAmount * 10000 → round2 (max 0 capped) ≤ baseAmount := by
    intro capped le
    change (max 0 capped + 5000) / 10000 ≤ baseAmount
    have base : (0 : Int) ≤ baseAmount := nonneg
    omega
  unfold computeCouponDiscount
  dsimp only
  split
  · exact rounded _ (Int.min_le_right _ _)
  · exact rounded _ (Int.min_le_right _ _)

/-- A JavaScript number with at most two decimals, as a template literal shows it. -/
def showNumber (m : Money) : String :=
  let whole := toString (m / 100)
  let cents := m % 100
  if cents = 0 then whole
  else if cents % 10 = 0 then whole ++ "." ++ toString (cents / 10)
  else if cents < 10 then whole ++ ".0" ++ toString cents
  else whole ++ "." ++ toString cents

/-- The coupon under a lock, once every condition of its use holds. -/
def lockAndValidateCoupon (code : Option String) (expectedType : CouponType) (shopId : Option Id)
    (subtotal : Money) (now : Time) : Action (Option (Id × Coupon)) :=
  match code with
  | none => pure none
  | some code => do
    if isBlank code then return none
    let notFound : Err := .badRequest s!"Mã giảm giá \"{code}\" không tồn tại"
    let found ← select fun d => d (.couponByCode code)
    let id ← orFail notFound found
    let row ← selectForUpdate (Key.coupon id)
    let coupon ← orFail notFound row
    require (coupon.type = expectedType)
      (.badRequest s!"Mã \"{code}\" không thuộc loại được phép áp dụng tại vị trí này")
    require (expectedType = .shop → coupon.shop.isSome ∧ coupon.shop = shopId)
      (.badRequest s!"Mã \"{code}\" không thuộc về shop này")
    require (∀ start ∈ coupon.startDate, start ≤ now)
      (.badRequest s!"Mã \"{code}\" chưa đến thời gian áp dụng")
    require (∀ stop ∈ coupon.endDate, now ≤ stop) (.badRequest s!"Mã \"{code}\" đã hết hạn")
    require (∀ limit ∈ coupon.usageLimit, coupon.usedCount < limit)
      (.badRequest s!"Mã \"{code}\" đã hết lượt sử dụng")
    let minValue := showNumber (coupon.minOrderValue.getD 0)
    require (∀ least ∈ coupon.minOrderValue, least ≤ subtotal)
      (.badRequest s!"Đơn chưa đạt giá trị tối thiểu {minValue} để áp dụng mã \"{code}\"")
    return some (id, coupon)

def consumeCoupon (id : Id) (coupon : Coupon) : Action Unit :=
  save (k := Key.coupon id) couponColumns { coupon with usedCount := coupon.usedCount + 1 }

/-- `Math.max(0, used_count - 1)`. -/
def releaseCoupon (id : Id) : Action Unit := do
  match ← selectForUpdate (Key.coupon id) with
  | none => pure ()
  | some coupon => save (k := Key.coupon id) couponColumns { coupon with usedCount := coupon.usedCount - 1 }

def markWalletUsed (user coupon : Id) (now : Time) : Action Unit :=
  updateWhere (.userCoupon user coupon) (fun uc => !uc.isUsed) fun _ => ⟨true, some now⟩

def markWalletUnused (user coupon : Id) : Action Unit :=
  updateWhere (.userCoupon user coupon) (fun _ => true) fun _ => ⟨false, none⟩

/-- `UpdateCouponDto`: a field is absent, null or a value. `code` is dropped by the service. -/
structure UpdateCouponDto where
  discountType : Option (Option DiscountType)
  discountValue : Option (Option Money)
  minOrderValue : Option (Option Money)
  maxDiscountValue : Option (Option Money)
  startDate : Option (Option Time)
  endDate : Option (Option Time)
  usageLimit : Option (Option Nat)

def validateCouponPayload (dto : UpdateCouponDto) : Action Unit := do
  require (dto.discountType = some (some .percentage) →
      ∀ value ∈ dto.discountValue.join, 0 < value ∧ value ≤ 10000)
    (.badRequest "Giảm theo % phải trong khoảng 1–100")
  require (∀ start ∈ dto.startDate.join, ∀ stop ∈ dto.endDate.join, start ≤ stop)
    (.badRequest "start_date phải trước end_date")

/-- `Object.assign(coupon, rest)`. -/
def UpdateCouponDto.assign (dto : UpdateCouponDto) (coupon : Coupon) : Coupon :=
  { coupon with
    discountType := dto.discountType.getD coupon.discountType
    discountValue := dto.discountValue.getD coupon.discountValue
    minOrderValue := dto.minOrderValue.getD coupon.minOrderValue
    maxDiscountValue := dto.maxDiscountValue.getD coupon.maxDiscountValue
    startDate := dto.startDate.getD coupon.startDate
    endDate := dto.endDate.getD coupon.endDate
    usageLimit := dto.usageLimit.getD coupon.usageLimit }

/-- The coupon, once it belongs to the seller's shop; an admin (`none`) may touch any. -/
def getOwnedCoupon (couponId : Id) (sellerId : Option Id) : Action Coupon := do
  let found ← select fun d => d (.coupon couponId)
  let coupon ← orFail (.notFound "Không tìm thấy coupon") found
  match sellerId with
  | none => pure ()
  | some seller =>
    let shop ← select fun d => (listed (d (.shopsOf seller))).head?
    let shopId ← orFail (.forbidden "Tài khoản chưa có shop") shop
    require (coupon.type = .shop ∧ coupon.shop = some shopId)
      (.forbidden "Coupon không thuộc shop của bạn")
  return coupon

/-- What a save of a loaded coupon writes, for the specification. -/
def couponMarks (id : Id) (mem reread : Coupon) : List Mark :=
  .couponSaved id mem.usedCount reread.usedCount ::
    if mem.usageLimit = reread.usageLimit then [] else [.usageLimitSet id mem.usageLimit]

/-- Loaded, changed in memory and saved whole, with no lock in between. -/
def updateCoupon (couponId : Id) (dto : UpdateCouponDto) (sellerId : Option Id) : Action Unit := do
  validateCouponPayload dto
  let coupon ← getOwnedCoupon couponId sellerId
  let mem := dto.assign coupon
  saveMarked (k := Key.coupon couponId) couponColumns mem (couponMarks couponId mem)

/-- The foreign keys to the coupon are set null: an id without a row is read as null everywhere. -/
def deleteCoupon (couponId : Id) (sellerId : Option Id) : Action Unit := do
  let coupon ← getOwnedCoupon couponId sellerId
  modify (.coupon couponId) fun _ => none
  modify (.couponByCode coupon.code) fun _ => none

/-- A coupon reference as a relation loads it. -/
def couponOf (d : Db) (id : Option Id) : Option (Id × Coupon) :=
  id.bind fun id => (d (.coupon id)).map fun coupon => (id, coupon)

/-- The effect of a release. -/
def releasedCoupon (id : Id) (d : Db) : Db :=
  Function.update d (.coupon id)
    ((d (.coupon id)).map fun coupon => { coupon with usedCount := coupon.usedCount - 1 })

/-- What `lockAndValidateCoupon` asks of a coupon. -/
structure CouponApplies (coupon : Coupon) (expectedType : CouponType) (shopId : Option Id) (subtotal : Money)
    (now : Time) : Prop where
  type : coupon.type = expectedType
  shop : expectedType = .shop → coupon.shop.isSome ∧ coupon.shop = shopId
  started : ∀ start ∈ coupon.startDate, start ≤ now
  running : ∀ stop ∈ coupon.endDate, now ≤ stop
  left : ∀ limit ∈ coupon.usageLimit, coupon.usedCount < limit
  reached : ∀ least ∈ coupon.minOrderValue, least ≤ subtotal

section
variable {I : Isolation (Table Row) Mark} {E : Err → Prop} {v : View (Table Row) Mark}

theorem wp_lockAndValidateCoupon {code : Option String} {expectedType : CouponType} {shopId : Option Id}
    {subtotal : Money} {now : Time} {Q : Option (Id × Coupon) → View (Table Row) Mark → Prop}
    (blank : (∀ c ∈ code, isBlank c) → Q none v)
    (refused : ∀ c d m message, code = some c → isBlank c = false → I.Sees v d m →
      (∀ id coupon, d (.couponByCode c) = some id → v.rows (.coupon id) = some coupon →
        ¬ CouponApplies coupon expectedType shopId subtotal now) → E (.badRequest message))
    (granted : ∀ c d m id coupon w, code = some c → isBlank c = false → I.Sees v d m →
      d (.couponByCode c) = some id → v.rows (.coupon id) = some coupon →
      CouponApplies coupon expectedType shopId subtotal now →
      v.Continues (fun _ => False) (fun _ => False) w → w.held (.coupon id) = true → Q (some (id, coupon)) w) :
    (lockAndValidateCoupon code expectedType shopId subtotal now).wp I Q E v := by
  cases code with
  | none => exact blank (by simp)
  | some c =>
    unfold lockAndValidateCoupon
    rw [wp_ite]
    refine ⟨fun empty => blank (by simpa using empty), fun full => ?_⟩
    have given : isBlank c = false := by simpa using full
    rw [wp_bind, wp_select]
    intro d m sees
    rw [wp_bind, wp_orFail]
    refine ⟨fun id indexed => ?_, fun missing => ?_⟩
    · rw [wp_bind]
      refine wp_selectForUpdate fun w more held => ?_
      rw [wp_bind, wp_orFail]
      refine ⟨fun coupon stands => ?_, fun missing => ?_⟩
      · have only : ¬ CouponApplies coupon expectedType shopId subtotal now → ∀ message, E (.badRequest message) := by
          intro unfit message
          refine refused c d m message rfl given sees fun id' coupon' indexed' stands' => ?_
          obtain rfl := Option.some.inj (indexed.symm.trans indexed')
          obtain rfl := Option.some.inj (stands.symm.trans stands')
          exact unfit
        simp only [wp_bind, wp_require, wp_pure]
        refine ⟨fun type => ⟨fun shop => ⟨fun started => ⟨fun running => ⟨fun left => ⟨fun reached => ?_, ?_⟩, ?_⟩, ?_⟩, ?_⟩, ?_⟩, ?_⟩
        · exact granted c d m id coupon w rfl given sees indexed stands ⟨type, shop, started, running, left, reached⟩
            ((View.Continues.looking (I.forward sees)).trans more) held
        · exact fun short => only (fun fits => short fits.reached) _
        · exact fun spent => only (fun fits => spent fits.left) _
        · exact fun ended => only (fun fits => ended fits.running) _
        · exact fun early => only (fun fits => early fits.started) _
        · exact fun other => only (fun fits => other fits.shop) _
        · exact fun other => only (fun fits => other fits.type) _
      · refine refused c d m _ rfl given sees fun id' coupon' indexed' stands' => ?_
        obtain rfl := Option.some.inj (indexed.symm.trans indexed')
        cases missing.symm.trans stands'
    · refine refused c d m _ rfl given sees fun id' coupon' indexed' _ => ?_
      cases missing.symm.trans indexed'

theorem wp_releaseCoupon {id : Id} {Q : Unit → View (Table Row) Mark → Prop}
    (h : ∀ w, v.Continues (· = .coupon id) (fun _ => False) w → w.rows = releasedCoupon id v.rows →
      Q () w) : (releaseCoupon id).wp I Q E v := by
  have settled : ∀ w, v.Continues (· = Key.coupon id) (fun _ => False) w →
      w.rows (.coupon id) = releasedCoupon id v.rows (.coupon id) → w.rows = releasedCoupon id v.rows := by
    intro w more own
    funext k
    by_cases same : k = .coupon id
    · exact same ▸ own
    · rw [more.rows k same]
      simp [releasedCoupon, same]
  unfold releaseCoupon
  rw [wp_bind]
  refine wp_selectForUpdate fun w₁ first held => ?_
  have upto : v.Continues (· = Key.coupon id) (fun _ => False) w₁ :=
    first.mono (fun _ no => no.elim) fun _ no => no
  have same : w₁.rows (.coupon id) = v.rows (.coupon id) := first.rows _ fun no => no
  cases found : v.rows (.coupon id) with
  | none => exact h _ upto (settled _ upto (by simp [releasedCoupon, same, found]))
  | some coupon =>
    refine wp_save_held (k := Key.coupon id) held (same.trans found) fun w more _ stored => ?_
    exact h w (upto.trans more) (settled w (upto.trans more) (by simp [releasedCoupon, found, stored]))

/-- A mark of the save of a coupon. -/
def CouponSaveMark (id : Id) : Mark → Prop
  | .couponSaved coupon _ _ => coupon = id
  | .usageLimitSet coupon _ => coupon = id
  | _ => False

theorem within_getOwnedCoupon {K : Key → Prop} {L : Mark → Prop} (id : Id) (sellerId : Option Id) :
    (getOwnedCoupon id sellerId).Within K L := by
  refine within_bind (within_select _) fun found => within_bind (within_orFail _ _) fun coupon => ?_
  cases sellerId with
  | none => exact within_pure _
  | some seller =>
    refine within_bind (within_select _) fun shop => within_bind (within_orFail _ _) fun _ => ?_
    exact within_bind (within_require _ _) fun _ => within_pure _

theorem couponMarks_saved {id : Id} {mem reread : Coupon} {e : Mark} (member : e ∈ couponMarks id mem reread) :
    CouponSaveMark id e := by
  unfold couponMarks at member
  rcases List.mem_cons.mp member with rfl | last
  · rfl
  · split at last
    · cases last
    · obtain rfl := List.mem_singleton.mp last
      rfl

theorem within_updateCoupon (id : Id) (dto : UpdateCouponDto) (sellerId : Option Id) :
    (updateCoupon id dto sellerId).Within (· = .coupon id) (CouponSaveMark id) := by
  refine within_bind (within_bind (within_require _ _) fun _ => within_require _ _) fun _ => ?_
  refine within_bind (within_getOwnedCoupon id sellerId) fun coupon => ?_
  exact within_saveMarked _ _ _ rfl fun _ _ member => couponMarks_saved member

theorem within_deleteCoupon (id : Id) (sellerId : Option Id) :
    (deleteCoupon id sellerId).Within (fun k => k = .coupon id ∨ ∃ code, k = .couponByCode code) NoMark := by
  refine within_bind (within_getOwnedCoupon id sellerId) fun coupon => ?_
  exact within_bind ((within_modify _ _).mpr (Or.inl rfl)) fun _ => (within_modify _ _).mpr (Or.inr ⟨_, rfl⟩)

end
end Marketplace
