import Marketplace.Schema

/-! `NotificationConsumerService`: what each event of the shop writes and mails. -/
namespace Marketplace.Notifications

inductive NotificationType where
  | orderCreated | orderStatusChanged | reviewCreated | reviewReplied | payoutCreated | payoutStatusChanged
  | shopRegistered | returnRequested | returnStatusChanged | productModerated
deriving DecidableEq

inductive ProductModerationAction where
  | takenDown | restored
deriving DecidableEq

inductive NotificationData where
  | orderPlaced (orderId : Id) (orderNumber : String) (amount : Money)
  | orderNewSeller (orderId : Id) (orderNumber : String) (subOrderId : Option Id)
  | suborderCancelledCustomer (orderId : Id) (orderNumber : String)
  | suborderCancelledSeller (orderId : Id) (orderNumber : String) (subOrderId : Id)
  | suborderStatusChanged (orderId : Id) (orderNumber : String) (status : OrderStatus)
  | reviewNewSeller (productId : Id) (productName : String)
  | reviewReplied (productId : Id) (productName : String)
  | payoutCreated (payoutId : Id) (amount : Money) (shopName : String)
  | payoutStatusChanged (payoutId : Id) (amount : Money) (status : PayoutStatus) (rejectReason : Option String)
  | shopRegistered (shopId : Id) (shopName : String)
  | returnRequestedSeller (returnId subOrderId : Id) (orderNumber : String)
  | returnStatusCustomer (returnId subOrderId : Id) (orderNumber : String) (status : ReturnStatus)
      (sellerNote : Option String)
  | productModerated (productId : Id) (productName : String) (action : ProductModerationAction) (reason : Option String)
deriving DecidableEq

structure CreateNotificationDto where
  userId : Id
  type : NotificationType
  title : String
  content : String
  data : NotificationData
deriving DecidableEq

inductive Mail where
  | payoutStatus (email username shopName : Option String) (amount : Money) (status : PayoutStatus) (reason : Option String)
  | productModerated (email username productName : String) (productId : Id) (reason : Option String)
deriving DecidableEq

/-- A row of `notification`, one of `notification_outbox`, or a mail handed to the mailer. -/
inductive Written where
  | notification (row : CreateNotificationDto)
  | outbox (payload : CreateNotificationDto)
  | mail (m : Mail)
deriving DecidableEq

/-- A payload without what it needs, or a field that is used unchecked and missing. -/
inductive HandlerError where
  | poisonPayload | typeError
deriving DecidableEq

structure ShopRef where
  shopId : Id
  sellerId : Option Id
  subOrderId : Option Id
deriving DecidableEq

/-! Payloads. A field is absent where the JSON lacks it or has null. -/

structure OrderCreatedPayload where
  orderId : Option Id
  orderNumber : Option String
  shops : Option (List ShopRef)
  userId : Option Id
  totalAmount : Option Money
deriving DecidableEq

structure OrderCancelledPayload where
  orderId : Option Id
  orderNumber : Option String
  subOrderId : Option Id
  userId : Option Id
  shopId : Option Id
  sellerId : Option Id
deriving DecidableEq

structure OrderStatusUpdatedPayload where
  orderId : Option Id
  orderNumber : Option String
  subOrderId : Option Id
  userId : Option Id
  newStatus : Option OrderStatus
deriving DecidableEq

structure ReviewCreatedPayload where
  reviewId : Option Id
  productId : Option Id
  productName : Option String
  shopId : Option Id
  sellerId : Option Id
  rating : Option Nat
deriving DecidableEq

structure ReviewRepliedPayload where
  reviewId : Option Id
  productId : Option Id
  productName : Option String
  customerId : Option Id
deriving DecidableEq

structure PayoutCreatedPayload where
  payoutId : Option Id
  amount : Option Money
  shopId : Option Id
  shopName : Option String
  adminIds : Option (List Id)
deriving DecidableEq

structure PayoutStatusChangedPayload where
  payoutId : Option Id
  sellerId : Option Id
  sellerEmail : Option String
  sellerName : Option String
  shopName : Option String
  amount : Option Money
  status : Option PayoutStatus
  reason : Option String
deriving DecidableEq

structure ShopRegisteredPayload where
  shopId : Option Id
  shopName : Option String
  isReapply : Bool
  adminIds : Option (List Id)
deriving DecidableEq

structure ReturnRequestedPayload where
  returnId : Option Id
  subOrderId : Option Id
  orderNumber : Option String
  shopId : Option Id
  sellerId : Option Id
deriving DecidableEq

structure ReturnStatusChangedPayload where
  returnId : Option Id
  subOrderId : Option Id
  orderNumber : Option String
  customerId : Option Id
  status : Option ReturnStatus
  sellerNote : Option String
deriving DecidableEq

structure ProductModeratedPayload where
  productId : Option Id
  productName : Option String
  shopId : Option Id
  sellerId : Option Id
  sellerEmail : Option String
  sellerName : Option String
  action : Option ProductModerationAction
  reason : Option String
deriving DecidableEq

inductive Event where
  | orderCreated (payload : OrderCreatedPayload)
  | orderCancelled (payload : OrderCancelledPayload)
  | orderStatusUpdated (payload : OrderStatusUpdatedPayload)
  | reviewCreated (payload : ReviewCreatedPayload)
  | reviewReplied (payload : ReviewRepliedPayload)
  | payoutCreated (payload : PayoutCreatedPayload)
  | payoutStatusChanged (payload : PayoutStatusChangedPayload)
  | shopRegistered (payload : ShopRegisteredPayload)
  | returnRequested (payload : ReturnRequestedPayload)
  | returnStatusChanged (payload : ReturnStatusChangedPayload)
  | productModerated (payload : ProductModeratedPayload)
  | other (eventType : String)
deriving DecidableEq

/-- `NotificationService.create`. -/
def create (dto : CreateNotificationDto) : List Written := [.notification dto, .outbox dto]

def createForUsers (userIds : List Id) (dto : Id → CreateNotificationDto) : List Written :=
  userIds.map (fun user => .notification (dto user)) ++ userIds.map fun user => .outbox (dto user)

abbrev Handled := Except HandlerError (List Written)

def required {α : Type} : Option α → Except HandlerError α
  | some a => .ok a
  | none => .error .poisonPayload

def requiredText (text : Option String) : Except HandlerError String := required (text.filter (· ≠ ""))

def unchecked {α : Type} : Option α → Except HandlerError α
  | some a => .ok a
  | none => .error .typeError

def statusText : OrderStatus → String
  | .pending => "pending"
  | .processing => "processing"
  | .shipping => "shipping"
  | .delivered => "delivered"
  | .cancelled => "cancelled"
  | .returned => "returned"

section
variable (toLocaleString : Money → String)

def handleOrderCreated (payload : OrderCreatedPayload) : Handled := do
  let orderId ← required payload.orderId
  let orderNumber ← requiredText payload.orderNumber
  let shops ← required payload.shops
  let userId ← required payload.userId
  let totalAmount ← unchecked payload.totalAmount
  let total := toLocaleString totalAmount
  let customer : CreateNotificationDto :=
    { userId
      type := .orderCreated
      title := "Đặt hàng thành công"
      content := s!"Đơn hàng {orderNumber} đã được đặt thành công. Tổng giá trị: {total}đ"
      data := .orderPlaced orderId orderNumber totalAmount }
  return create customer ++ shops.flatMap fun shop =>
    match shop.sellerId with
    | none => []
    | some sellerId => create
        { userId := sellerId
          type := .orderCreated
          title := "Đơn hàng mới"
          content := s!"Bạn vừa nhận được đơn hàng mới {orderNumber}."
          data := .orderNewSeller orderId orderNumber shop.subOrderId }

def handlePayoutCreated (payload : PayoutCreatedPayload) : Handled := do
  let payoutId ← required payload.payoutId
  let _ ← required payload.shopId
  let shopName ← requiredText payload.shopName
  let amount ← required payload.amount
  let adminIds ← required payload.adminIds
  let amountText := toLocaleString amount
  return createForUsers adminIds fun admin =>
    { userId := admin
      type := .payoutCreated
      title := "Yêu cầu rút tiền mới"
      content := s!"Cửa hàng {shopName} vừa gửi yêu cầu rút {amountText}đ."
      data := .payoutCreated payoutId amount shopName }

def handlePayoutStatusChanged (payload : PayoutStatusChangedPayload) : Handled := do
  let payoutId ← required payload.payoutId
  let sellerId ← required payload.sellerId
  let status ← required payload.status
  let amount ← unchecked payload.amount
  let amountText := toLocaleString amount
  let reason := payload.reason.getD "null"
  let dto : CreateNotificationDto :=
    { userId := sellerId
      type := .payoutStatusChanged
      title := if status = .completed then "Yêu cầu rút tiền thành công" else "Yêu cầu rút tiền bị từ chối"
      content := if status = .completed then
          s!"Yêu cầu rút tiền trị giá {amountText}đ đã được phê duyệt thành công."
        else s!"Yêu cầu rút tiền trị giá {amountText}đ đã bị từ chối. Lý do: {reason}"
      data := .payoutStatusChanged payoutId amount status payload.reason }
  -- the mail is not awaited
  return create dto ++
    [.mail (.payoutStatus payload.sellerEmail payload.sellerName payload.shopName amount status payload.reason)]

end

def handleOrderCancelled (payload : OrderCancelledPayload) : Handled := do
  let orderId ← required payload.orderId
  let orderNumber ← requiredText payload.orderNumber
  let subOrderId ← required payload.subOrderId
  let userId ← required payload.userId
  let _ ← required payload.shopId
  let customer : CreateNotificationDto :=
    { userId
      type := .orderStatusChanged
      title := "Đã hủy đơn hàng con"
      content := s!"Một shop trong đơn {orderNumber} đã được hủy theo yêu cầu của bạn."
      data := .suborderCancelledCustomer orderId orderNumber }
  match payload.sellerId with
  | none => return create customer
  | some sellerId =>
    let seller : CreateNotificationDto :=
      { userId := sellerId
        type := .orderStatusChanged
        title := "Đơn hàng bị hủy"
        content := s!"Khách đã hủy 1 đơn hàng con thuộc đơn {orderNumber}."
        data := .suborderCancelledSeller orderId orderNumber subOrderId }
    return create customer ++ create seller

def handleOrderStatusUpdated (payload : OrderStatusUpdatedPayload) : Handled := do
  let orderId ← required payload.orderId
  let orderNumber ← requiredText payload.orderNumber
  let _ ← required payload.subOrderId
  let userId ← required payload.userId
  let newStatus ← required payload.newStatus
  let text := statusText newStatus
  return create {
    userId
    type := .orderStatusChanged
    title := "Cập nhật đơn hàng"
    content := s!"Một shop trong đơn {orderNumber} đã chuyển sang trạng thái \"{text}\"."
    data := .suborderStatusChanged orderId orderNumber newStatus }

def handleReviewCreated (payload : ReviewCreatedPayload) : Handled := do
  let _ ← required payload.reviewId
  let productId ← required payload.productId
  let productName ← requiredText payload.productName
  let _ ← required payload.shopId
  let rating := (payload.rating.map toString).getD "undefined"
  match payload.sellerId with
  | none => return []
  | some sellerId =>
    return create {
      userId := sellerId
      type := .reviewCreated
      title := "Đánh giá mới"
      content := s!"Sản phẩm \"{productName}\" vừa nhận đánh giá {rating}★."
      data := .reviewNewSeller productId productName }

def handleReviewReplied (payload : ReviewRepliedPayload) : Handled := do
  let _ ← required payload.reviewId
  let productId ← required payload.productId
  let productName ← requiredText payload.productName
  let customerId ← required payload.customerId
  return create {
    userId := customerId
    type := .reviewReplied
    title := "Shop đã phản hồi đánh giá"
    content := s!"Shop đã phản hồi đánh giá của bạn cho \"{productName}\"."
    data := .reviewReplied productId productName }

def handleShopRegistered (payload : ShopRegisteredPayload) : Handled := do
  let shopId ← required payload.shopId
  let shopName ← requiredText payload.shopName
  let adminIds ← required payload.adminIds
  return createForUsers adminIds fun admin =>
    { userId := admin
      type := .shopRegistered
      title := if payload.isReapply then "Shop nộp lại hồ sơ" else "Shop mới chờ duyệt"
      content := if payload.isReapply then s!"Cửa hàng \"{shopName}\" vừa nộp lại hồ sơ, đang chờ duyệt."
        else s!"Cửa hàng \"{shopName}\" vừa đăng ký, đang chờ duyệt."
      data := .shopRegistered shopId shopName }

def handleReturnRequested (payload : ReturnRequestedPayload) : Handled := do
  let returnId ← required payload.returnId
  let subOrderId ← required payload.subOrderId
  let orderNumber ← requiredText payload.orderNumber
  let _ ← required payload.shopId
  match payload.sellerId with
  | none => return []
  | some sellerId =>
    return create {
      userId := sellerId
      type := .returnRequested
      title := "Yêu cầu trả hàng mới"
      content := s!"Khách vừa gửi yêu cầu trả hàng cho đơn {orderNumber}."
      data := .returnRequestedSeller returnId subOrderId orderNumber }

/-- The text after a reason, when there is one. -/
def reasonText (reason : Option String) : String :=
  match reason.filter (· ≠ "") with
  | some text => s!" Lý do: {text}"
  | none => ""

def handleReturnStatusChanged (payload : ReturnStatusChangedPayload) : Handled := do
  let returnId ← required payload.returnId
  let subOrderId ← required payload.subOrderId
  let orderNumber ← requiredText payload.orderNumber
  let customerId ← required payload.customerId
  let status ← required payload.status
  let note := reasonText payload.sellerNote
  let (title, content) ← match status with
    | .approved => pure ("Yêu cầu trả hàng được duyệt",
        s!"Shop đã duyệt yêu cầu trả hàng đơn {orderNumber}. Vui lòng gửi hàng về.")
    | .rejected => pure ("Yêu cầu trả hàng bị từ chối", s!"Shop đã từ chối yêu cầu trả hàng đơn {orderNumber}.{note}")
    | .received => pure ("Đã nhận hàng trả", s!"Shop đã nhận hàng trả của đơn {orderNumber}. Yêu cầu hoàn tất.")
    | .requested => throw .poisonPayload
    | .cancelled => throw .poisonPayload
  return create {
    userId := customerId
    type := .returnStatusChanged
    title
    content
    data := .returnStatusCustomer returnId subOrderId orderNumber status payload.sellerNote }

def handleProductModerated (payload : ProductModeratedPayload) : Handled := do
  let productId ← required payload.productId
  let productName ← requiredText payload.productName
  let _ ← required payload.shopId
  let action ← required payload.action
  let note := reasonText payload.reason
  match payload.sellerId with
  | none => return []
  | some sellerId =>
    let dto : CreateNotificationDto :=
      { userId := sellerId
        type := .productModerated
        title := if action = .takenDown then "Sản phẩm bị gỡ" else "Sản phẩm được khôi phục"
        content := if action = .takenDown then s!"Sản phẩm \"{productName}\" đã bị gỡ do vi phạm.{note}"
          else s!"Sản phẩm \"{productName}\" đã được khôi phục và bán trở lại."
        data := .productModerated productId productName action payload.reason }
    -- the mail is not awaited either
    match payload.sellerEmail.filter fun email => email ≠ "" ∧ action = .takenDown with
    | none => return create dto
    | some email => return create dto ++
        [.mail (.productModerated email (payload.sellerName.getD "") productName productId payload.reason)]

def dispatch (toLocaleString : Money → String) : Event → Handled
  | .orderCreated payload => handleOrderCreated toLocaleString payload
  | .orderCancelled payload => handleOrderCancelled payload
  | .orderStatusUpdated payload => handleOrderStatusUpdated payload
  | .reviewCreated payload => handleReviewCreated payload
  | .reviewReplied payload => handleReviewReplied payload
  | .payoutCreated payload => handlePayoutCreated toLocaleString payload
  | .payoutStatusChanged payload => handlePayoutStatusChanged toLocaleString payload
  | .shopRegistered payload => handleShopRegistered payload
  | .returnRequested payload => handleReturnRequested payload
  | .returnStatusChanged payload => handleReturnStatusChanged payload
  | .productModerated payload => handleProductModerated payload
  | .other _ => throw .poisonPayload

end Marketplace.Notifications
