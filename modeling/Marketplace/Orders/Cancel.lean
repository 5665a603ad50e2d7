import Marketplace.Orders.Pricing
import Marketplace.Payments
import Marketplace.ReadCommitted.System
import Marketplace.Stock

/-! Sub-orders leaving their state: cancellation, the seller's transitions and expiry. -/
namespace Marketplace
open ReadCommitted ReadCommitted.Tx

def orderColumns : Columns Order where
  write mem r c :=
    { customer := column mem.customer r.customer c.customer
      globalCoupon := column mem.globalCoupon r.globalCoupon c.globalCoupon
      totalAmount := column mem.totalAmount r.totalAmount c.totalAmount
      globalDiscountAmount := column mem.globalDiscountAmount r.globalDiscountAmount c.globalDiscountAmount
      globalCouponCode := column mem.globalCouponCode r.globalCouponCode c.globalCouponCode
      shippingAddress := column mem.shippingAddress r.shippingAddress c.shippingAddress
      status := column mem.status r.status c.status
      idempotencyKey := column mem.idempotencyKey r.idempotencyKey c.idempotencyKey
      orderNumber := column mem.orderNumber r.orderNumber c.orderNumber
      createdAt := column mem.createdAt r.createdAt c.createdAt }
  same := by intro mem c; simp
  fresh := by intro mem r; simp

def subOrderColumns : Columns SubOrder where
  write mem r c :=
    { shop := column mem.shop r.shop c.shop
      order := column mem.order r.order c.order
      shopCoupon := column mem.shopCoupon r.shopCoupon c.shopCoupon
      subTotal := column mem.subTotal r.subTotal c.subTotal
      shippingFee := column mem.shippingFee r.shippingFee c.shippingFee
      shopDiscountAmount := column mem.shopDiscountAmount r.shopDiscountAmount c.shopDiscountAmount
      shopCouponCode := column mem.shopCouponCode r.shopCouponCode c.shopCouponCode
      totalAmount := column mem.totalAmount r.totalAmount c.totalAmount
      status := column mem.status r.status c.status
      deliveredAt := column mem.deliveredAt r.deliveredAt c.deliveredAt }
  same := by intro mem c; simp
  fresh := by intro mem r; simp

/-- The items of a sub-order; a deleted product or variant is read as null. -/
def loadItems (d : Db) (subOrder : Id) : List OrderItem :=
  (listed (d (.itemsOf subOrder))).filterMap fun id => (d (.orderItem id)).map fun item =>
    { item with
      product := item.product.filter fun p => (d (.product p)).isSome
      variant := item.variant.filter fun x => (d (.variant x)).isSome }

/-- A sub-order with the relations its cancellation needs. -/
structure LoadedSubOrder where
  id : Id
  row : SubOrder
  order : Option Order
  shop : Option Shop
  shopCoupon : Option (Id × Coupon)
  items : List OrderItem

def loadSubOrder (d : Db) (id : Id) : Option LoadedSubOrder :=
  (d (.subOrder id)).map fun row =>
    ⟨id, row, d (.order row.order), row.shop.bind fun s => d (.shop s), couponOf d row.shopCoupon,
      loadItems d id⟩

/-- The lines to put back, one for each item whose product still exists. -/
def restockTargets (items : List OrderItem) : List StockLine :=
  items.filterMap fun it => it.product.map fun p => ⟨p, it.variant, it.quantity⟩

/-- Gives a redemption back, in the count and in the wallet of a customer that still exists. -/
def refundCoupon (coupon : Id) (source : Redemption) (customer : Option Id) : Action Unit := do
  releaseCoupon coupon
  note (.couponReleased coupon source)
  match customer with
  | none => pure ()
  | some user => markWalletUnused user coupon

def restockAndRefundSubOrder (subOrder : LoadedSubOrder) : Action Unit := do
  let targets := restockTargets subOrder.items
  given (targets ≠ []) (lockAndRestock targets)
  note (.restocked subOrder.id targets)
  match subOrder.shopCoupon with
  | none => pure ()
  | some (coupon, _) =>
    refundCoupon coupon (.subOrder subOrder.id) (subOrder.order.bind (·.customer))

/-- The sub-orders of an order. -/
def subOrdersOf (d : Db) (order : Id) : List (Id × SubOrder) :=
  (listed (d (.subOrdersOf order))).filterMap fun s => (d (.subOrder s)).map fun row => (s, row)

/-- What an active sub-order adds to the total, its discount taken from the coupon as it stands. -/
def activeShopTotal (d : Db) (s : SubOrder) : Money :=
  s.subTotal - discountOf (couponOf d s.shopCoupon) s.subTotal + s.shippingFee

/-- The siblings loaded for a recompute. -/
structure Siblings where
  statuses : List OrderStatus
  remainingShopSubtotals : Money
  sumActiveShopTotals : Money
  anyActive : Bool

def loadSiblings (d : Db) (order : Id) : Siblings :=
  let siblings := (subOrdersOf d order).map (·.2)
  let active := siblings.filter fun s => s.status ≠ .cancelled
  ⟨siblings.map (·.status), (active.map (·.subTotal)).sum, (active.map (activeShopTotal d)).sum, !active.isEmpty⟩

/-- The global coupon falls away below its minimum, or when nothing is left to apply it to. -/
def globalCouponFails (coupon : Coupon) (siblings : Siblings) : Bool :=
  coupon.minOrderValue.any (siblings.remainingShopSubtotals < ·) || !siblings.anyActive

/-- The global coupon that still applies. -/
def keptCoupon (globalCoupon : Option (Id × Coupon)) (siblings : Siblings) : Option (Id × Coupon) :=
  globalCoupon.filter fun c => !globalCouponFails c.2 siblings

/-- Gives back a global coupon that no longer applies. -/
def releaseFailedCoupon (order : Id) (customer : Option Id) (globalCoupon : Option (Id × Coupon))
    (siblings : Siblings) : Action Unit :=
  match globalCoupon with
  | none => pure ()
  | some (id, coupon) =>
    if globalCouponFails coupon siblings then refundCoupon id (.order order) customer else pure ()

def recomputedTotal (globalCoupon : Option (Id × Coupon)) (siblings : Siblings) : Money :=
  max 0 (siblings.sumActiveShopTotals -
    discountOf (keptCoupon globalCoupon siblings) siblings.remainingShopSubtotals)

def recomputedOrder (order : Order) (globalCoupon : Option (Id × Coupon)) (siblings : Siblings) : Order :=
  let kept := keptCoupon globalCoupon siblings
  { order with
    globalCoupon := kept.map (·.1)
    totalAmount := recomputedTotal globalCoupon siblings
    status := deriveMasterStatus siblings.statuses
    globalDiscountAmount := kept.map fun c => computeCouponDiscount c.2 siblings.remainingShopSubtotals
    globalCouponCode := kept.map (·.2.code) }

/-- The single writer of the master's total and status, under the master's lock. -/
def recomputeOrder (orderId : Id) : Action (OrderStatus × Money) := do
  let lockedOrder ← selectForUpdate (Key.order orderId)
  let _ ← orFail (.notFound "Không tìm thấy đơn hàng Master") lockedOrder
  let found ← select fun d => (d (.order orderId)).map fun order => (order, couponOf d order.globalCoupon)
  let (order, globalCoupon) ← orFail (.notFound "Không tìm thấy đơn hàng Master") found
  let siblings ← select fun d => loadSiblings d orderId
  releaseFailedCoupon orderId order.customer globalCoupon siblings
  save (k := Key.order orderId) orderColumns (recomputedOrder order globalCoupon siblings)
  return (deriveMasterStatus siblings.statuses, recomputedTotal globalCoupon siblings)

def recomputeMasterAfterSubOrderChange (orderId : Id) (now : Time) : Action (OrderStatus × Money) := do
  let (status, total) ← recomputeOrder orderId
  updateAmountForOrder orderId total
  given (status = .delivered) (markCodCompleted orderId now)
  return (status, total)

/-- `getSellerIdsByShopIds` of one shop. -/
def sellerOfShop (shop : Option Id) : Action (Option Id) :=
  select fun d => (shop.bind fun s => d (.shop s)).map (·.seller)

structure SubOrderAnswer where
  orderId : Id
  subOrderId : Id
  subOrderStatus : OrderStatus
  orderStatus : OrderStatus
  orderTotalAmount : Money
deriving DecidableEq

def cancelSubOrder (userId subOrderId : Id) (now : Time) : Action SubOrderAnswer := do
  let notFound : Err := .notFound "Không tìm thấy đơn hàng con"
  let lockedRow ← selectForUpdate (Key.subOrder subOrderId)
  let _ ← orFail notFound lockedRow
  let found ← select fun d => loadSubOrder d subOrderId
  let subOrder ← orFail notFound found
  let order ← orFail notFound subOrder.order
  require (order.customer = some userId) notFound
  note (.subOrderLoaded subOrderId subOrder.row.status)
  require (subOrder.row.status = .pending) (.badRequest "Đơn hàng đang được shop xử lý, không thể tự hủy")
  restockAndRefundSubOrder subOrder
  save (k := Key.subOrder subOrderId) subOrderColumns { subOrder.row with status := .cancelled }
  let (status, total) ← recomputeMasterAfterSubOrderChange subOrder.row.order now
  let seller ← sellerOfShop subOrder.row.shop
  note (.outbox (.orderCancelled subOrder.row.order order.orderNumber subOrderId userId
    (subOrder.shop.bind fun _ => subOrder.row.shop) seller))
  return ⟨subOrder.row.order, subOrderId, .cancelled, status, total⟩

/-- A VNPay order that is not paid is out of the seller's reach. -/
def isVnpayUnpaid (payment : Option Payment) : Bool :=
  payment.any fun p => p.method = .vnpay ∧ p.status ≠ .completed

/-- The master follows, and the customer, which the outbox payload requires, is told. -/
def reportStatus (subOrder : LoadedSubOrder) (order : Order) (newStatus : OrderStatus) (now : Time) :
    Action SubOrderAnswer := do
  let (status, total) ← recomputeMasterAfterSubOrderChange subOrder.row.order now
  let customer ← orFail .database order.customer
  note (.outbox (.orderStatusUpdated subOrder.row.order order.orderNumber subOrder.id customer
    subOrder.row.shop newStatus))
  return ⟨subOrder.row.order, subOrder.id, newStatus, status, total⟩

def updateSubOrderStatus (sellerId subOrderId : Id) (newStatus : OrderStatus) (now : Time) :
    Action SubOrderAnswer := do
  let notFound : Err := .notFound "Không tìm thấy đơn hàng con"
  let lockedRow ← selectForUpdate (Key.subOrder subOrderId)
  let _ ← orFail notFound lockedRow
  let found ← select fun d => (loadSubOrder d subOrderId).map fun s => (s, d (.payment s.row.order))
  let (subOrder, payment) ← orFail notFound found
  let order ← orFail notFound subOrder.order
  require (subOrder.shop.map (·.seller) = some sellerId) notFound
  require (isVnpayUnpaid payment = false)
    (.badRequest "Đơn hàng chưa được thanh toán, không thể cập nhật trạng thái")
  note (.subOrderLoaded subOrderId subOrder.row.status)
  if subOrder.row.status = newStatus then
    -- a retried request: a snapshot of the master, nothing is changed twice
    let current ← select fun d => d (.order subOrder.row.order)
    return ⟨subOrder.row.order, subOrderId, subOrder.row.status, (current.getD order).status,
      (current.map (·.totalAmount)).getD 0⟩
  else
    let source := subOrder.row.status.text
    let target := newStatus.text
    require (newStatus ∈ SUB_ORDER_STATE_MACHINE subOrder.row.status)
      (.badRequest s!"Không thể chuyển trạng thái từ \"{source}\" sang \"{target}\"")
    given (newStatus = .cancelled) (restockAndRefundSubOrder subOrder)
    save (k := Key.subOrder subOrderId) subOrderColumns
      { subOrder.row with
        status := newStatus
        deliveredAt := if newStatus = .delivered then some now else subOrder.row.deliveredAt }
    reportStatus subOrder order newStatus now

def isWithinPaymentWindow (info : ExpiryInfo) : Bool :=
  info.latestAttemptAgeMs.getD info.orderAgeMs < VNPAY_SOFT_WINDOW_MS ∧
    info.orderAgeMs < VNPAY_HARD_WINDOW_MS

/-- The pending sub-orders of an order, read without a lock. -/
def pendingSubOrders (d : Db) (order : Id) : List LoadedSubOrder :=
  (listed (d (.subOrdersOf order))).filterMap fun s =>
    (loadSubOrder d s).filter fun loaded => loaded.row.status = .pending

def expireSubOrder (subOrder : LoadedSubOrder) : Action Unit := do
  restockAndRefundSubOrder subOrder
  save (k := Key.subOrder subOrder.id) subOrderColumns { subOrder.row with status := .cancelled }

def expirePending (orderId : Id) (now : Time) : Action Bool := do
  let pending ← select fun d => pendingSubOrders d orderId
  forM pending fun subOrder => note (.subOrderLoaded subOrder.id subOrder.row.status)
  forM pending expireSubOrder
  let _ ← recomputeMasterAfterSubOrderChange orderId now
  markVnpayExpired orderId
  note (.expired orderId)
  return true

/-- Returns whether the order expired. -/
def expireUnpaidVnpayOrder (orderId : Id) (now : Time) : Action Bool := do
  match ← getVnpayExpiryInfo orderId now with
  | none => return false
  | some expiryInfo =>
    let order ← select fun d => d (.order orderId)
    if order.all fun ord => ord.status = .cancelled then return false
    else if isWithinPaymentWindow expiryInfo then return false
    else expirePending orderId now

/-- How a request ends for its client. -/
inductive Answer where
  | failed (e : Err)
  | response (r : CheckoutResponse)
  | subOrder (r : SubOrderAnswer)
  | ipn (r : IpnAnswer)
  | paymentUrl (txnRef : String) (amount : Money) (expireAt : Time)
  | expired (yes : Bool)
  | returned (r : ReturnRequestResponse)
  | returnCancelled (id : Id) (status : ReturnStatus)
  | done
deriving DecidableEq

abbrev Request := Req (Table Row) Mark Err Answer

/-- A request of one transaction. -/
def single {α : Type} (body : Action α) (answer : α → Answer) : Request :=
  .tx body (fun a => .done (answer a)) fun e => .done (.failed e)

inductive Cancellation where
  | byCustomer (userId subOrderId : Id) (now : Time)
  | bySeller (sellerId subOrderId : Id) (newStatus : OrderStatus) (now : Time)
  | byExpiry (orderId : Id) (now : Time)

def Cancellation.request : Cancellation → Request
  | .byCustomer user sub now => single (cancelSubOrder user sub now) .subOrder
  | .bySeller seller sub new now => single (updateSubOrderStatus seller sub new now) .subOrder
  | .byExpiry order now => single (expireUnpaidVnpayOrder order now) .expired

end Marketplace
