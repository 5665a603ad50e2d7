import Marketplace.ReadCommitted.Save

/-! Tables of the shop: enumerations, rows, keys, errors and the marks transactions leave. -/
namespace Marketplace
open ReadCommitted

abbrev Id := Nat
/-- Milliseconds. -/
abbrev Time := Nat
/-- `decimal(12,2)`, in hundredths. -/
abbrev Money := Int
/-- `decimal(10,6)`, in millionths of a degree. -/
abbrev Degrees := Int

/-- The text of a uuid. The database takes each of its spellings, and answers with the spelling `0`. -/
structure UuidText where
  id : Id
  spelling : Nat
deriving DecidableEq

inductive AccountStatus where
  | pendingVerification | pendingApproval | newSeller | active | suspended | banned | rejected
deriving DecidableEq

inductive OrderStatus where
  | pending | processing | shipping | delivered | cancelled | returned
deriving DecidableEq

inductive PaymentMethod where
  | cod | vnpay
deriving DecidableEq

inductive PaymentStatus where
  | pending | completed | failed | refunded
deriving DecidableEq

inductive CouponType where
  | global | shop
deriving DecidableEq

inductive DiscountType where
  | percentage | fixedAmount
deriving DecidableEq

inductive ProductStatus where
  | active | deleted | suspended
deriving DecidableEq

inductive IdempotencyStatus where
  | pending | completed
deriving DecidableEq

inductive ReturnStatus where
  | requested | approved | rejected | received | cancelled
deriving DecidableEq

inductive ReturnReason where
  | damaged | wrongItem | notAsDescribed | missingParts | changedMind | other
deriving DecidableEq

inductive PayoutStatus where
  | pending | processing | completed | failed | rejected
deriving DecidableEq

inductive CartItemUnavailableReason where
  | productHidden | productDeleted | productSuspended | shopInactive
deriving DecidableEq

structure BankAccountInfo where
  bankName : String
  accountNumber : String
  accountHolder : String
deriving DecidableEq

structure Shop where
  seller : Id
  name : String
  lat : Option Degrees
  lng : Option Degrees
  isCoordinatesVerified : Bool
  status : AccountStatus
  bankAccountInfo : Option BankAccountInfo := none
deriving DecidableEq

structure Address where
  user : Id
  addressLine : Option String
  lat : Option Degrees
  lng : Option Degrees
  recipientName : Option String
  phone : Option String
deriving DecidableEq

structure Product where
  shop : Id
  name : String
  price : Money
  thumbnailUrl : Option String
  stockQuantity : Int
  hasVariants : Bool
  isHidden : Bool
  status : ProductStatus
deriving DecidableEq

structure ProductVariant where
  product : Id
  name : Option String
  attributes : List (String × String)
  additionalPrice : Money
  stockQuantity : Int
deriving DecidableEq

structure CartItem where
  user : Id
  variant : Option Id
  product : Id
  quantity : Nat
  addedAt : Time
deriving DecidableEq

structure Coupon where
  code : String
  type : CouponType
  shop : Option Id
  discountType : Option DiscountType
  discountValue : Option Money
  minOrderValue : Option Money
  maxDiscountValue : Option Money
  startDate : Option Time
  endDate : Option Time
  usageLimit : Option Nat
  usedCount : Nat
deriving DecidableEq

structure UserCoupon where
  isUsed : Bool
  usedAt : Option Time
deriving DecidableEq

structure ShippingAddressSnapshot where
  recipientName : Option String
  phone : Option String
  addressLine : Option String
  lat : Option Degrees
  lng : Option Degrees
deriving DecidableEq

structure Order where
  customer : Option Id
  globalCoupon : Option Id
  totalAmount : Money
  globalDiscountAmount : Option Money
  globalCouponCode : Option String
  shippingAddress : ShippingAddressSnapshot
  status : OrderStatus
  idempotencyKey : Option String
  orderNumber : String
  createdAt : Time
deriving DecidableEq

structure SubOrder where
  shop : Option Id
  order : Id
  shopCoupon : Option Id
  subTotal : Money
  shippingFee : Money
  shopDiscountAmount : Money
  shopCouponCode : Option String
  totalAmount : Money
  status : OrderStatus
  deliveredAt : Option Time
deriving DecidableEq

structure OrderItem where
  variant : Option Id
  subOrder : Id
  product : Option Id
  quantity : Nat
  priceAtPurchase : Money
  productName : String
  variantName : Option String
  productThumbnail : Option String
  variantAttributes : Option (List (String × String))
deriving DecidableEq

structure Payment where
  method : PaymentMethod
  status : PaymentStatus
  amount : Money
  vnpTxnRef : Option String
  vnpTransactionNo : Option String
  vnpResponseCode : Option String
  paidAt : Option Time
  raw : Option (List (String × String))
deriving DecidableEq

structure PaymentAttempt where
  payment : Id
  amount : Money
  status : PaymentStatus
  vnpTransactionNo : Option String
  vnpResponseCode : Option String
  ipnReceivedAt : Option Time
  raw : Option (List (String × String))
  createdAt : Time
deriving DecidableEq

structure Payout where
  shop : Option Id
  amount : Money
  commissionFee : Money
  status : PayoutStatus
  rejectReason : Option String
  bankInfoSnapshot : BankAccountInfo
  resolvedBy : Option Id
  resolvedAt : Option Time
deriving DecidableEq

structure CheckoutResponseItem where
  productId : Option Id
  productName : String
  variantId : Option Id
  variantName : Option String
  quantity : Nat
  priceAtPurchase : Money
deriving DecidableEq

structure CheckoutResponseSubOrder where
  subOrderId : Id
  shopId : Option Id
  shopName : String
  subTotal : Money
  shippingFee : Money
  shopDiscountAmount : Money
  shopCouponCode : Option String
  totalAmount : Money
  items : List CheckoutResponseItem
deriving DecidableEq

structure CheckoutResponse where
  orderId : Id
  orderNumber : String
  totalAmount : Money
  globalDiscountAmount : Option Money
  globalCouponCode : Option String
  paymentMethod : PaymentMethod
  shippingAddress : ShippingAddressSnapshot
  subOrders : List CheckoutResponseSubOrder
  createdAt : Time
deriving DecidableEq

structure Idempotency where
  userId : Id
  status : IdempotencyStatus
  responseCode : Option Nat
  responseBody : Option CheckoutResponse
  createdAt : Time
deriving DecidableEq

structure ReturnRequest where
  subOrder : Id
  customer : Id
  shop : Option Id
  status : ReturnStatus
  reason : ReturnReason
  customerNote : Option String
  refundTotal : Money
  sellerNote : Option String
  resolvedAt : Option Time
  createdAt : Time
deriving DecidableEq

structure ReturnItem where
  request : Id
  orderItem : Id
  quantity : Nat
  refundAmount : Money
deriving DecidableEq

structure ReturnItemResponse where
  id : Id
  orderItemId : Id
  productName : String
  variantName : Option String
  quantity : Nat
  refundAmount : Money
deriving DecidableEq

structure ReturnRequestResponse where
  id : Id
  subOrderId : Id
  status : ReturnStatus
  reason : ReturnReason
  customerNote : Option String
  sellerNote : Option String
  resolvedAt : Option Time
  refundTotal : Money
  items : List ReturnItemResponse
  createdAt : Time
deriving DecidableEq

/-- A row by its primary or unique key, or the list of the rows inserted under a foreign key.
`order_id` is unique in the payments, so a payment goes by its order. -/
inductive Key where
  | shop (id : Id)
  | shopsOf (seller : Id)
  | address (id : Id)
  | product (id : Id)
  | variant (id : Id)
  | variantsOf (product : Id)
  | cartItem (id : Id)
  | cartOf (user : Id)
  | coupon (id : Id)
  | couponByCode (code : String)
  | userCoupon (user coupon : Id)
  | order (id : Id)
  | orderByKey (idempotencyKey : String)
  | orderByNumber (orderNumber : String)
  | subOrder (id : Id)
  | subOrdersOf (order : Id)
  | orderItem (id : Id)
  | itemsOf (subOrder : Id)
  | payment (order : Id)
  | attempt (vnpTxnRef : String)
  | attemptsOf (payment : Id)
  | idempotency (key : String)
  | returnRequest (id : Id)
  | returnsOf (subOrder : Id)
  | returnItem (id : Id)
  | returnItemsOf (request : Id)
  | returnItemsFor (orderItem : Id)
  | payout (id : Id)
  | payoutsOf (shop : Id)
deriving DecidableEq

@[reducible] def Row : Key → Type
  | .shop _ => Shop
  | .shopsOf _ => List Id
  | .address _ => Address
  | .product _ => Product
  | .variant _ => ProductVariant
  | .variantsOf _ => List Id
  | .cartItem _ => CartItem
  | .cartOf _ => List Id
  | .coupon _ => Coupon
  | .couponByCode _ => Id
  | .userCoupon _ _ => UserCoupon
  | .order _ => Order
  | .orderByKey _ => Id
  | .orderByNumber _ => Id
  | .subOrder _ => SubOrder
  | .subOrdersOf _ => List Id
  | .orderItem _ => OrderItem
  | .itemsOf _ => List Id
  | .payment _ => Payment
  | .attempt _ => PaymentAttempt
  | .attemptsOf _ => List String
  | .idempotency _ => Idempotency
  | .returnRequest _ => ReturnRequest
  | .returnsOf _ => List Id
  | .returnItem _ => ReturnItem
  | .returnItemsOf _ => List Id
  | .returnItemsFor _ => List Id
  | .payout _ => Payout
  | .payoutsOf _ => List Id

structure UnavailableItem where
  cartItemId : Id
  productId : Option Id
  productName : Option String
  reason : CartItemUnavailableReason
deriving DecidableEq

structure Insufficient where
  productId : Id
  productName : Option String
  variantId : Option Id
  variantName : Option String
  requested : Int
  available : Int
deriving DecidableEq

inductive Err where
  | badRequest (message : String)
  | unavailable (message : String) (items : List UnavailableItem)
  | insufficient (message : String) (items : List Insufficient)
  | forbidden (message : String)
  | notFound (message : String)
  | conflict (message : String)
  | internal (message : String)
  | serviceUnavailable (message : String)
  /-- SQLSTATE 23505, with the constraint. -/
  | uniqueViolation (constraint : String)
  /-- SQLSTATE 23514. -/
  | checkViolation
  /-- Any other failure of the database: a deadlock, an aborted transaction, a lost connection. -/
  | database
deriving DecidableEq

/-- An item to take from stock or to put back. -/
structure StockLine where
  product : Id
  variant : Option Id
  quantity : Nat
deriving DecidableEq

/-- What a coupon was redeemed for. -/
inductive Redemption where
  | subOrder (id : Id)
  | order (id : Id)
deriving DecidableEq

inductive OutboxEvent where
  | orderCreated (order : Id) (orderNumber : String) (shops : List (Id × Option Id × Id)) (user : Id)
      (totalAmount : Money)
  | orderCancelled (order : Id) (orderNumber : String) (subOrder user : Id) (shop seller : Option Id)
  | orderStatusUpdated (order : Id) (orderNumber : String) (subOrder : Id) (user shop : Option Id)
      (newStatus : OrderStatus)
  | returnRequested (request subOrder : Id) (orderNumber : String) (shop seller : Option Id) (customer : Id)
  | returnStatusChanged (request subOrder : Id) (orderNumber : String) (customer : Id) (newStatus : ReturnStatus)
      (sellerNote : Option String)
  | payoutCreated (payout : Id) (amount : Money) (shop : Id) (shopName : String)
  | payoutStatusChanged (payout seller : Id) (shopName : String) (amount : Money) (status : PayoutStatus)
      (reason : Option String)
deriving DecidableEq

/-- `outbox` is the outbox table. The others only record, for the specification, what a
transaction read and wrote. -/
inductive Mark where
  | outbox (event : OutboxEvent)
  | subOrderLoaded (id : Id) (status : OrderStatus)
  | restocked (subOrder : Id) (lines : List StockLine)
  | returnRestocked (request : Id) (lines : List StockLine)
  | stockTaken (user : Id) (lines : List StockLine)
  | orderPlaced (order : Id) (globalCoupon : Option (Id × Coupon))
  | couponRedeemed (coupon : Id) (source : Redemption)
  | couponReleased (coupon : Id) (source : Redemption)
  | couponSaved (coupon : Id) (loaded reread : Nat)
  | usageLimitSet (coupon : Id) (limit : Option Nat)
  | paymentSaved (order : Id) (loaded reread : PaymentStatus)
  | unpaidLoaded (order : Id) (status : PaymentStatus)
  | expired (order : Id)
  | payoutLoaded (payout : Id) (status : PayoutStatus)
  | recovering (user : Id) (idempotencyKey : String)
  | caching (user : Id) (idempotencyKey : String)
deriving DecidableEq

abbrev NoMark : Mark → Prop := fun _ => False

abbrev Db := Rows (Table Row)
abbrev Action := Tx (Table Row) Mark Err

/-- The ids under an index key; an absent list is empty. -/
def listed {α : Type} : Option (List α) → List α := fun ids => ids.getD []

/-- `text.trim() === ''`. -/
def isBlank (text : String) : Bool :=
  text.toList.all fun c => c.isWhitespace || c.toNat ∈
    [0x0B, 0x0C, 0xA0, 0x1680, 0x2000, 0x2001, 0x2002, 0x2003, 0x2004, 0x2005, 0x2006, 0x2007, 0x2008,
      0x2009, 0x200A, 0x2028, 0x2029, 0x202F, 0x205F, 0x3000, 0xFEFF]

end Marketplace
