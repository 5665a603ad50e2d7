import Marketplace.Orders.Cancel

/-! Checkout in its three phases around the idempotency key, its recovery and the cleanup. -/
namespace Marketplace
open ReadCommitted ReadCommitted.Tx

def UQ_ORDER_IDEMPOTENCY_KEY : String := "UQ_84cba07199e5bb9fbc3261d50d7"

structure CreateOrderDto where
  addressId : Id
  paymentMethod : PaymentMethod
  globalCouponCode : Option String
  shopCoupons : List (Id × String)

/-- A checkout call: what the client sends, the clock, and the ids and the order number that its
run draws. -/
structure CheckoutCall where
  userId : Id
  dto : CreateOrderDto
  idempotencyKey : String
  now : Time
  orderId : Id
  orderNumber : String
  subOrderId : Nat → Id
  orderItemId : Nat → Nat → Id

def findOwnedAddressOrFail (userId addressId : Id) : Action Address := do
  let found ← select fun d => (d (.address addressId)).filter fun address => address.user = userId
  orFail (.notFound "Không tìm thấy địa chỉ giao hàng") found

/-- How many of the shops the user owns. -/
def ownedShopCount (d : Db) (userId : Id) (shopIds : List Id) : Nat :=
  (shopIds.filter fun s => (d (.shop s)).any fun shop => shop.seller = userId).length

def stockLine (it : CartLine) : StockLine := ⟨it.productId, it.variant.map (·.1), it.quantity⟩

/-- The cart as it may be ordered, and its stock taken. -/
def takeCart (userId : Id) : Action (List CartLine) := do
  let (valid, unavailable) ← getActiveCartItemsForCheckout userId
  require (unavailable = []) (.unavailable "Một số sản phẩm trong giỏ hàng không còn khả dụng" unavailable)
  require (valid ≠ []) (.badRequest "Giỏ hàng trống, không thể đặt hàng")
  let owned ← select fun d => ownedShopCount d userId (firstOccurrences (valid.map (·.product.shop)))
  require (owned = 0) (.badRequest "Bạn không thể mua sản phẩm của shop mình")
  lockAndDeductStockForCheckout (valid.map stockLine)
  note (.stockTaken userId (valid.map stockLine))
  return valid

/-- A later entry for the same shop replaces the earlier one. -/
def shopCouponCode (dto : CreateOrderDto) (shopId : Id) : Option String :=
  dto.shopCoupons.reverse.lookup shopId

def planSubOrder (distance : Distance) (call : CheckoutCall) (address : Address) (group : ShopGroup) :
    Action SubOrderPlan := do
  let shopSubtotal := computeShopSubtotal group.items
  let shopCoupon ←
    lockAndValidateCoupon (shopCouponCode call.dto group.shopId) .shop (some group.shopId) shopSubtotal call.now
  let shopDiscount := discountOf shopCoupon shopSubtotal
  let shippingFee := calculateShippingFee distance group.shop address.lat address.lng shopSubtotal
  return ⟨group.shopId, group.shop, group.items, shopSubtotal, shopDiscount, shopCoupon, shippingFee,
    shopSubtotal - shopDiscount + shippingFee⟩

def totalShopSubtotals (plans : List SubOrderPlan) : Money := (plans.map (·.shopSubtotal)).sum

def sumShopTotals (plans : List SubOrderPlan) : Money := (plans.map (·.shopTotal)).sum

def snapshotAddress (address : Address) : ShippingAddressSnapshot :=
  ⟨address.recipientName, address.phone, address.addressLine, address.lat, address.lng⟩

/-- What is ordered and at which price. -/
structure Quote where
  plans : List SubOrderPlan
  globalCoupon : Option (Id × Coupon)
  globalDiscount : Money
  grandTotal : Money

def quoteOrder (distance : Distance) (call : CheckoutCall) (address : Address) (items : List CartLine) :
    Action Quote := do
  let plans ← (groupItemsByShop items).mapM (planSubOrder distance call address)
  let subtotals := totalShopSubtotals plans
  let globalCoupon ← lockAndValidateCoupon call.dto.globalCouponCode .global none subtotals call.now
  let globalDiscount := discountOf globalCoupon subtotals
  return ⟨plans, globalCoupon, globalDiscount, max 0 (sumShopTotals plans - globalDiscount)⟩

/-- The row checkout inserts. -/
def newOrder (call : CheckoutCall) (address : Address) (quote : Quote) : Order where
  customer := some call.userId
  globalCoupon := quote.globalCoupon.map (·.1)
  totalAmount := quote.grandTotal
  globalDiscountAmount := some quote.globalDiscount
  globalCouponCode := quote.globalCoupon.map (·.2.code)
  shippingAddress := snapshotAddress address
  status := .pending
  idempotencyKey := some call.idempotencyKey
  orderNumber := call.orderNumber
  createdAt := call.now

/-- A clash of the key goes up to the caller. A clash of the order number leaves the transaction
aborted, so that the next attempt of the loop fails on any number. -/
def createOrderWithRetry (call : CheckoutCall) (order : Order) : Action Unit := do
  insert (.order call.orderId) order .database
  insert (.orderByKey call.idempotencyKey) call.orderId (.uniqueViolation UQ_ORDER_IDEMPOTENCY_KEY)
  insert (.orderByNumber order.orderNumber) call.orderId .database

def newSubOrder (orderId : Id) (plan : SubOrderPlan) : SubOrder where
  shop := some plan.shopId
  order := orderId
  shopCoupon := plan.shopCoupon.map (·.1)
  subTotal := plan.shopSubtotal
  shippingFee := plan.shippingFee
  shopDiscountAmount := plan.shopDiscount
  shopCouponCode := plan.shopCoupon.map (·.2.code)
  totalAmount := plan.shopTotal
  status := .pending
  deliveredAt := none

def newOrderItem (subOrderId : Id) (it : CartLine) : OrderItem where
  variant := it.variant.map (·.1)
  subOrder := subOrderId
  product := some it.productId
  quantity := it.quantity
  priceAtPurchase := unitPrice it
  productName := it.product.name
  variantName := it.variant.bind (·.2.name)
  productThumbnail := it.product.thumbnailUrl
  variantAttributes := it.variant.map (·.2.attributes)

def insertOrderItem (id : Id) (item : OrderItem) : Action Unit := do
  insert (.orderItem id) item .database
  modify (.itemsOf item.subOrder) fun ids => some (listed ids ++ [id])

def insertSubOrder (id : Id) (row : SubOrder) : Action Unit := do
  insert (.subOrder id) row .database
  modify (.subOrdersOf row.order) fun ids => some (listed ids ++ [id])

def insertPlan (call : CheckoutCall) (plan : SubOrderPlan × Nat) : Action Unit := do
  let subOrderId := call.subOrderId plan.2
  insertSubOrder subOrderId (newSubOrder call.orderId plan.1)
  forM plan.1.items.zipIdx fun it =>
    insertOrderItem (call.orderItemId plan.2 it.2) (newOrderItem subOrderId it.1)

def redeem (call : CheckoutCall) (coupon : Option (Id × Coupon)) (source : Redemption) : Action Unit :=
  match coupon with
  | none => pure ()
  | some (id, row) => do
    consumeCoupon id row
    note (.couponRedeemed id source)
    markWalletUsed call.userId id call.now

def responseItem (it : CartLine) : CheckoutResponseItem :=
  ⟨some it.productId, it.product.name, it.variant.map (·.1), it.variant.bind (·.2.name), it.quantity,
    unitPrice it⟩

/-- A discount of zero is falsy in memory and shown as null. -/
def shownDiscount (discount : Option Money) : Option Money := discount.filter (· ≠ 0)

def buildCheckoutResponse (call : CheckoutCall) (address : Address) (quote : Quote) : CheckoutResponse where
  orderId := call.orderId
  orderNumber := call.orderNumber
  totalAmount := quote.grandTotal
  globalDiscountAmount := shownDiscount (some quote.globalDiscount)
  globalCouponCode := quote.globalCoupon.map (·.2.code)
  paymentMethod := call.dto.paymentMethod
  shippingAddress := snapshotAddress address
  subOrders := quote.plans.zipIdx.map fun plan =>
    ⟨call.subOrderId plan.2, some plan.1.shopId, plan.1.shop.name, plan.1.shopSubtotal, plan.1.shippingFee,
      plan.1.shopDiscount, plan.1.shopCoupon.map (·.2.code), plan.1.shopTotal, plan.1.items.map responseItem⟩
  createdAt := call.now

/-- Coupons, cart and outbox. -/
def settleOrder (call : CheckoutCall) (quote : Quote) : Action Unit := do
  redeem call quote.globalCoupon (.order call.orderId)
  forM quote.plans.zipIdx fun plan => redeem call plan.1.shopCoupon (.subOrder (call.subOrderId plan.2))
  clearActiveCart call.userId
  let shops ← select fun d => quote.plans.zipIdx.map fun plan =>
    (plan.1.shopId, (d (.shop plan.1.shopId)).map (·.seller), call.subOrderId plan.2)
  note (.outbox (.orderCreated call.orderId call.orderNumber shops call.userId quote.grandTotal))

/-- The writes after the order row. -/
def placeOrder (call : CheckoutCall) (quote : Quote) : Action Unit := do
  note (.orderPlaced call.orderId quote.globalCoupon)
  forM quote.plans.zipIdx (insertPlan call)
  createPendingForOrder call.orderId quote.grandTotal call.dto.paymentMethod
  settleOrder call quote

/-- Everything before the order row is inserted. -/
def prepareOrder (distance : Distance) (call : CheckoutCall) (address : Address) : Action Quote := do
  let items ← takeCart call.userId
  quoteOrder distance call address items

def runCheckoutTransaction (distance : Distance) (call : CheckoutCall) (address : Address) :
    Action CheckoutResponse := do
  let quote ← prepareOrder distance call address
  createOrderWithRetry call (newOrder call address quote)
  placeOrder call quote
  return buildCheckoutResponse call address quote

/-- A sub-order as the rebuilt response shows it. -/
def responseSubOrder (d : Db) (s : Id × SubOrder) : CheckoutResponseSubOrder where
  subOrderId := s.1
  shopId := s.2.shop.filter fun id => (d (.shop id)).isSome
  shopName := ((s.2.shop.bind fun id => d (.shop id)).map (·.name)).getD ""
  subTotal := s.2.subTotal
  shippingFee := s.2.shippingFee
  shopDiscountAmount := s.2.shopDiscountAmount
  shopCouponCode := s.2.shopCouponCode
  totalAmount := s.2.totalAmount
  items := (loadItems d s.1).map fun it =>
    ⟨it.product, it.productName, it.variant, it.variantName, it.quantity, it.priceAtPurchase⟩

/-- The snapshot as the rebuilt response shows it. -/
def shownAddress (address : ShippingAddressSnapshot) : ShippingAddressSnapshot :=
  ⟨some (address.recipientName.getD ""), some (address.phone.getD ""), some (address.addressLine.getD ""), address.lat,
    address.lng⟩

/-- A stored discount is the text of a decimal: that of zero, `"0.00"`, is truthy and shown as 0. -/
def buildCheckoutResponseFromOrder (d : Db) (id : Id) (order : Order) : CheckoutResponse where
  orderId := id
  orderNumber := order.orderNumber
  totalAmount := order.totalAmount
  globalDiscountAmount := order.globalDiscountAmount
  globalCouponCode := order.globalCouponCode
  paymentMethod := ((d (.payment id)).map (·.method)).getD .cod
  shippingAddress := shownAddress order.shippingAddress
  subOrders := (subOrdersOf d id).map (responseSubOrder d)
  createdAt := order.createdAt

/-- The response of the order that holds the key, whoever placed it. -/
def existingResponse (d : Db) (idempotencyKey : String) : Option CheckoutResponse := do
  let id ← d (.orderByKey idempotencyKey)
  let order ← d (.order id)
  some (buildCheckoutResponseFromOrder d id order)

def recoverResponseFromExistingOrder (userId : Id) (idempotencyKey : String) : Action CheckoutResponse := do
  note (.recovering userId idempotencyKey)
  let found ← select fun d => existingResponse d idempotencyKey
  orFail (.internal "Phát hiện idempotency_key xung đột nhưng không tìm thấy đơn hàng cũ tương ứng") found

def insertClaim (call : CheckoutCall) : Action Unit :=
  insert (.idempotency call.idempotencyKey) ⟨call.userId, .pending, none, none, call.now⟩
    (.uniqueViolation "PK_idempotency_keys")

/-- The answer to a request whose key is already there. -/
def replayClaim (call : CheckoutCall) : Action CheckoutResponse := do
  let found ← select fun d => d (.idempotency call.idempotencyKey)
  let existing ← orFail
    (.conflict "Idempotency-Key đang trong trạng thái chuyển tiếp, vui lòng gửi lại yêu cầu") found
  require (existing.userId = call.userId) (.forbidden "Idempotency-Key không thuộc về tài khoản của bạn")
  require (existing.status ≠ .pending)
    (.conflict "Một yêu cầu cùng Idempotency-Key đang được xử lý. Vui lòng thử lại sau ít phút")
  orFail
    (.internal "Idempotency-Key đã hoàn tất nhưng không tìm thấy response cache. Vui lòng dùng key mới")
    existing.responseBody

def completedClaim (response : CheckoutResponse) (row : Idempotency) : Idempotency :=
  { row with status := .completed, responseCode := some 201, responseBody := some response }

/-- `UPDATE ... WHERE key`: any row of the key is completed, without a look at its owner. -/
def markKeyCompleted (call : CheckoutCall) (response : CheckoutResponse) : Action Unit := do
  let found ← select fun d => d (.idempotency call.idempotencyKey)
  match found with
  | none => pure ()
  | some _ =>
    note (.caching call.userId call.idempotencyKey)
    modify (.idempotency call.idempotencyKey) (Option.map (completedClaim response))

def deletePendingKeyForRetry (idempotencyKey : String) : Action Unit :=
  deleteWhere (.idempotency idempotencyKey) fun row => row.status = .pending

def normalizeError : Err → Err
  | .uniqueViolation _ => .internal "Đã xảy ra lỗi trong quá trình đặt hàng"
  | .checkViolation => .internal "Đã xảy ra lỗi trong quá trình đặt hàng"
  | .database => .internal "Đã xảy ra lỗi trong quá trình đặt hàng"
  | e => e

/-- Phase 3, best effort. -/
def cacheResponse (call : CheckoutCall) (response : CheckoutResponse) : Request :=
  .tx (markKeyCompleted call response) (fun _ => .done (.response response))
    fun _ => .done (.response response)

def failCheckout (call : CheckoutCall) (e : Err) : Request :=
  .tx (deletePendingKeyForRetry call.idempotencyKey) (fun _ => .done (.failed (normalizeError e)))
    fun _ => .done (.failed (normalizeError e))

def recoverOrder (call : CheckoutCall) : Request :=
  .tx (recoverResponseFromExistingOrder call.userId call.idempotencyKey) (cacheResponse call) (failCheckout call)

/-- Phase 2. -/
def businessPhase (distance : Distance) (call : CheckoutCall) : Request :=
  .tx (findOwnedAddressOrFail call.userId call.dto.addressId)
    (fun address =>
      .tx (runCheckoutTransaction distance call address) (cacheResponse call) fun e =>
        if e = .uniqueViolation UQ_ORDER_IDEMPOTENCY_KEY then recoverOrder call else failCheckout call e)
    (failCheckout call)

def isPgUniqueViolation : Err → Bool
  | .uniqueViolation _ => true
  | _ => false

def checkout (distance : Distance) (call : CheckoutCall) : Request :=
  .tx (insertClaim call) (fun _ => businessPhase distance call) fun e =>
    if isPgUniqueViolation e then single (replayClaim call) .response
    else .done (.failed (.internal "Không thể khởi tạo Idempotency-Key"))

/-- What places, cancels or reprices orders. -/
inductive OrderCall where
  | checkout (call : CheckoutCall)
  | cancellation (call : Cancellation)
  | updateCoupon (couponId : Id) (dto : UpdateCouponDto) (sellerId : Option Id)
  | deleteCoupon (couponId : Id) (sellerId : Option Id)

def OrderCall.request (distance : Distance) : OrderCall → Request
  | .checkout call => Marketplace.checkout distance call
  | .cancellation call => call.request
  | .updateCoupon id dto seller => single (Marketplace.updateCoupon id dto seller) fun _ => .done
  | .deleteCoupon id seller => single (Marketplace.deleteCoupon id seller) fun _ => .done

def COMPLETED_TTL_MS : Nat := 24 * 60 * 60 * 1000
def PENDING_STALE_MS : Nat := 5 * 60 * 1000

def isStale (now : Time) (row : Idempotency) : Bool :=
  match row.status with
  | .completed => row.createdAt + COMPLETED_TTL_MS < now
  | .pending => row.createdAt + PENDING_STALE_MS < now

/-- `IdempotencyCleanupCron`, over the keys of the table. -/
def handleCleanup (keys : List String) (now : Time) : Request :=
  single (forM keys fun key => deleteWhere (.idempotency key) (isStale now)) fun _ => .done

end Marketplace
