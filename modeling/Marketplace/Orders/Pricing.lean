import Marketplace.Carts
import Marketplace.Promotions
import Mathlib.Data.List.Dedup
import Mathlib.Data.Rat.Floor

/-! Amounts of an order: shop groups, shipping, the totals and the derived master status. -/
namespace Marketplace
open ReadCommitted ReadCommitted.Tx

def FREE_SHIPPING_THRESHOLD : Money := 50000000
def FALLBACK_FEE : Money := 3000000

/-- Road distance in kilometres between two valid coordinates: the Haversine formula on doubles. -/
abbrev Distance := Degrees × Degrees → Degrees × Degrees → Rat

def isValidCoordinate (c : Degrees × Degrees) : Bool :=
  -90000000 ≤ c.1 ∧ c.1 ≤ 90000000 ∧ -180000000 ≤ c.2 ∧ c.2 ≤ 180000000

/-- 15000 for the first 2 km, 3000 per further km, at most 150000, rounded to thousands. -/
def feeByDistance (km : Rat) : Money :=
  let fee := min (if km ≤ 2 then 15000 else 15000 + (km - 2) * 3000) 150000
  ⌊fee / 1000 + 1 / 2⌋ * 100000

def coordinate (lat lng : Option Degrees) : Option (Degrees × Degrees) := do
  let c := (← lat, ← lng)
  if isValidCoordinate c then some c else none

def calculateShippingFee (distance : Distance) (shop : Shop) (lat lng : Option Degrees) (subtotal : Money) :
    Money :=
  if FREE_SHIPPING_THRESHOLD ≤ subtotal then 0
  else if shop.isCoordinatesVerified = false then FALLBACK_FEE
  else
    match coordinate shop.lat shop.lng, coordinate lat lng with
    | some source, some target => feeByDistance (distance source target)
    | _, _ => FALLBACK_FEE

/-- The distinct elements, each at its first place. -/
def firstOccurrences (ids : List Id) : List Id := ids.reverse.dedup.reverse

theorem nodup_firstOccurrences (ids : List Id) : (firstOccurrences ids).Nodup :=
  List.nodup_reverse.mpr (List.nodup_dedup _)

structure ShopGroup where
  shopId : Id
  shop : Shop
  items : List CartLine

def groupItemsByShop (items : List CartLine) : List ShopGroup :=
  (firstOccurrences (items.map (·.product.shop))).filterMap fun s =>
    let mine := items.filter fun it => it.product.shop = s
    mine.head?.map fun first => ⟨s, first.shop, mine⟩

def unitPrice (it : CartLine) : Money :=
  it.product.price + (it.variant.map (·.2.additionalPrice)).getD 0

def computeShopSubtotal (items : List CartLine) : Money :=
  (items.map fun it => unitPrice it * it.quantity).sum

structure SubOrderPlan where
  shopId : Id
  shop : Shop
  items : List CartLine
  shopSubtotal : Money
  shopDiscount : Money
  shopCoupon : Option (Id × Coupon)
  shippingFee : Money
  shopTotal : Money

/-- The discount of a coupon that may be absent. -/
def discountOf (coupon : Option (Id × Coupon)) (baseAmount : Money) : Money :=
  match coupon with
  | some (_, c) => computeCouponDiscount c baseAmount
  | none => 0

theorem discountOf_le (coupon : Option (Id × Coupon)) {baseAmount : Money} (nonneg : 0 ≤ baseAmount) :
    discountOf coupon baseAmount ≤ baseAmount := by
  cases coupon with
  | none => exact nonneg
  | some c => exact computeCouponDiscount_le c.2 nonneg

def OrderStatus.text : OrderStatus → String
  | .pending => "pending"
  | .processing => "processing"
  | .shipping => "shipping"
  | .delivered => "delivered"
  | .cancelled => "cancelled"
  | .returned => "returned"

/-- The axis of progress; cancelled and returned are off it. -/
def progress : OrderStatus → Option Nat
  | .pending => some 0
  | .processing => some 1
  | .shipping => some 2
  | .delivered => some 3
  | .cancelled => none
  | .returned => none

def STATUS_PROGRESSION : List OrderStatus := [.pending, .processing, .shipping, .delivered]

/-- The least advanced of the sub-orders that are not cancelled. -/
def deriveMasterStatus (statuses : List OrderStatus) : OrderStatus :=
  match statuses.filter (· ≠ .cancelled) with
  | [] => .cancelled
  | first :: rest =>
    match ((first :: rest).filterMap progress).min? with
    | none => first
    | some rank => STATUS_PROGRESSION.getD rank first

/-- The transitions a seller may make. -/
def SUB_ORDER_STATE_MACHINE : OrderStatus → List OrderStatus
  | .pending => [.processing, .cancelled]
  | .processing => [.shipping, .cancelled]
  | .shipping => [.delivered]
  | .delivered => []
  | .cancelled => []
  | .returned => []

end Marketplace
