import Marketplace.Orders.Cancel

/-! `ReturnsService`: a delivered sub-order going back, item by item. -/
namespace Marketplace
open ReadCommitted ReadCommitted.Tx

def RETURN_WINDOW_DAYS : Nat := 14

def ACTIVE_RETURN_STATUSES : List ReturnStatus := [.requested, .approved]

/-- The transitions of the seller. -/
def RETURN_STATE_MACHINE : ReturnStatus → List ReturnStatus
  | .requested => [.approved, .rejected]
  | .approved => [.received, .rejected]
  | .rejected => []
  | .received => []
  | .cancelled => []

def ReturnStatus.text : ReturnStatus → String
  | .requested => "requested"
  | .approved => "approved"
  | .rejected => "rejected"
  | .received => "received"
  | .cancelled => "cancelled"

def returnRequestColumns : Columns ReturnRequest where
  write mem r c :=
    { subOrder := column mem.subOrder r.subOrder c.subOrder
      customer := column mem.customer r.customer c.customer
      shop := column mem.shop r.shop c.shop
      status := column mem.status r.status c.status
      reason := column mem.reason r.reason c.reason
      customerNote := column mem.customerNote r.customerNote c.customerNote
      refundTotal := column mem.refundTotal r.refundTotal c.refundTotal
      sellerNote := column mem.sellerNote r.sellerNote c.sellerNote
      resolvedAt := column mem.resolvedAt r.resolvedAt c.resolvedAt
      createdAt := column mem.createdAt r.createdAt c.createdAt }
  same := by intro mem c; simp
  fresh := by intro mem r; simp

structure ReturnItemInputDto where
  orderItemId : Id
  quantity : Nat
deriving DecidableEq

structure CreateReturnRequestDto where
  subOrderId : Id
  reason : ReturnReason
  customerNote : String
  items : List ReturnItemInputDto

/-- A call of `createReturn`, with the clock and the ids its run draws. -/
structure ReturnCall where
  userId : Id
  dto : CreateReturnRequestDto
  now : Time
  returnId : Id
  returnItemId : Nat → Id

/-- A sub-order with the relations a return needs. -/
structure SubOrderForReturn where
  row : SubOrder
  order : Option Order
  siblings : List SubOrder
  shop : Option Id
  items : List (Id × OrderItem)

def itemsOfSubOrder (d : Db) (subOrder : Id) : List (Id × OrderItem) :=
  (listed (d (.itemsOf subOrder))).filterMap fun id => (d (.orderItem id)).map fun item => (id, item)

def lockAndLoadSubOrderForReturn (subOrderId : Id) : Action (Option SubOrderForReturn) := do
  match ← selectForUpdate (Key.subOrder subOrderId) with
  | none => return none
  | some _ =>
    select fun d => (d (.subOrder subOrderId)).map fun row =>
      ⟨row, d (.order row.order), (subOrdersOf d row.order).map (·.2),
        row.shop.filter fun s => (d (.shop s)).isSome, itemsOfSubOrder d subOrderId⟩

/-- The requests of a sub-order. -/
def returnsOfSubOrder (d : Db) (subOrder : Id) : List (Id × ReturnRequest) :=
  (listed (d (.returnsOf subOrder))).filterMap fun r => (d (.returnRequest r)).map fun row => (r, row)

def activeReturns (d : Db) (subOrder : Id) : List (Id × ReturnRequest) :=
  (returnsOfSubOrder d subOrder).filter fun r => r.2.status ∈ ACTIVE_RETURN_STATUSES

/-- The items of all requests that name an order item, each with the status of its request. -/
def returnItemsFor (d : Db) (orderItem : Id) : List (ReturnItem × ReturnStatus) :=
  (listed (d (.returnItemsFor orderItem))).filterMap fun x => do
    let item ← d (.returnItem x)
    let request ← d (.returnRequest item.request)
    some (item, request.status)

def quantityIn (statuses : List ReturnStatus) (items : List (ReturnItem × ReturnStatus)) : Nat :=
  ((items.filter fun ri => ri.2 ∈ statuses).map (·.1.quantity)).sum

/-- How many of an order item have come back. -/
def receivedQuantity (d : Db) (orderItem : Id) : Nat := quantityIn [.received] (returnItemsFor d orderItem)

/-- `subTotal - shopDiscount`, at least zero. -/
def goodsOf (s : SubOrder) : Money := max (s.subTotal - s.shopDiscountAmount) 0

/-- The goods of a sub-order less its share of the global discount, in hundredths. -/
def refundableBase (loaded : SubOrderForReturn) (order : Order) : Rat :=
  let subOrderGoods : Rat := goodsOf loaded.row
  let globalDiscount : Rat := order.globalDiscountAmount.getD 0
  let orderGoods : Rat := (loaded.siblings.map goodsOf).sum
  let globalShare := if 0 < orderGoods then globalDiscount * (subOrderGoods / orderGoods) else 0
  max (subOrderGoods - globalShare) 0

/-- `Math.round(value * 100) / 100`, in hundredths. -/
def roundMoney (value : Rat) : Money := ⌊value + 1 / 2⌋

/-- The part of the base that falls to `quantity` pieces of a line. -/
def refundAmount (unitPrice : Money) (quantity : Nat) (subTotal : Money) (base : Rat) : Money :=
  roundMoney (((unitPrice * quantity : Int) : Rat) / subTotal * base)

/-- A line that passed its checks. -/
structure ReturnLine where
  orderItem : Id
  quantity : Nat
  refund : Money
deriving DecidableEq

/-- The lines asked for, each once, of this sub-order and no more than has not come back. -/
def returnLines (loaded : SubOrderForReturn) (base : Rat) :
    List ReturnItemInputDto → List Id → Action (List ReturnLine)
  | [], _ => pure []
  | line :: rest, seen => do
    require (line.orderItemId ∉ seen) (.badRequest "Sản phẩm bị lặp trong yêu cầu trả")
    let orderItem ← orFail (.badRequest "Sản phẩm không thuộc đơn hàng con này")
      (loaded.items.lookup line.orderItemId)
    let returned ← select fun d => receivedQuantity d line.orderItemId
    let available : Int := orderItem.quantity - returned
    let productName := orderItem.productName
    require ((line.quantity : Int) ≤ available)
      (.badRequest s!"Vượt số lượng có thể trả cho \"{productName}\" (còn {available})")
    let refund := refundAmount orderItem.priceAtPurchase line.quantity loaded.row.subTotal base
    let others ← returnLines loaded base rest (line.orderItemId :: seen)
    return ⟨line.orderItemId, line.quantity, refund⟩ :: others

def insertReturnItem (request id : Id) (line : ReturnLine) : Action Unit := do
  insert (.returnItem id) ⟨request, line.orderItem, line.quantity, line.refund⟩ .database
  modify (.returnItemsOf request) fun ids => some (listed ids ++ [id])
  modify (.returnItemsFor line.orderItem) fun ids => some (listed ids ++ [id])

/-- The request row goes in before its items (`cascade`). -/
def insertReturn (call : ReturnCall) (shop : Option Id) (lines : List ReturnLine) : Action Unit := do
  insert (.returnRequest call.returnId)
    { subOrder := call.dto.subOrderId, customer := call.userId, shop, status := .requested,
      reason := call.dto.reason, customerNote := some call.dto.customerNote,
      refundTotal := (lines.map (·.refund)).sum, sellerNote := none, resolvedAt := none,
      createdAt := call.now } .database
  modify (.returnsOf call.dto.subOrderId) fun ids => some (listed ids ++ [call.returnId])
  forM lines.zipIdx fun line => insertReturnItem call.returnId (call.returnItemId line.2) line.1

/-- Whether the sub-order may go back now, and its order. -/
def checkReturnable (call : ReturnCall) (loaded : SubOrderForReturn) : Action Order := do
  let notFound : Err := .notFound "Không tìm thấy đơn hàng con"
  let order ← orFail notFound loaded.order
  require (order.customer = some call.userId) notFound
  require (loaded.row.status = .delivered) (.badRequest "Chỉ có thể trả hàng cho đơn đã giao thành công")
  let deliveredAt ← orFail (.badRequest "Không xác định được ngày giao — không đủ điều kiện trả hàng")
    loaded.row.deliveredAt
  let windowMs := RETURN_WINDOW_DAYS * 24 * 60 * 60 * 1000
  require (call.now ≤ deliveredAt + windowMs)
    (.badRequest s!"Đã quá hạn trả hàng ({RETURN_WINDOW_DAYS} ngày kể từ khi giao)")
  return order

def createReturn (call : ReturnCall) : Action Unit := do
  let found ← lockAndLoadSubOrderForReturn call.dto.subOrderId
  let loaded ← orFail (.notFound "Không tìm thấy đơn hàng con") found
  let order ← checkReturnable call loaded
  let activeCount ← select fun d => (activeReturns d call.dto.subOrderId).length
  require (activeCount = 0) (.conflict "Đơn này đang có một yêu cầu trả hàng chờ xử lý")
  require (0 < loaded.row.subTotal) (.badRequest "Đơn hàng không hợp lệ để tính hoàn tiền")
  let lines ← returnLines loaded (refundableBase loaded order) call.dto.items []
  insertReturn call loaded.shop lines
  let seller ← sellerOfShop loaded.shop
  note (.outbox (.returnRequested call.returnId call.dto.subOrderId order.orderNumber loaded.shop seller call.userId))

def saveReturnRequest (id : Id) (row : ReturnRequest) : Action Unit :=
  save (k := Key.returnRequest id) returnRequestColumns row

def returnNotFound : Err := .notFound "Không tìm thấy yêu cầu trả hàng"

def cancelReturn (userId returnId : Id) (now : Time) : Action Unit := do
  let locked ← selectForUpdate (Key.returnRequest returnId)
  let _ ← orFail returnNotFound locked
  let found ← select fun d => d (.returnRequest returnId)
  let request ← orFail returnNotFound found
  require (request.customer = userId) returnNotFound
  require (request.status = .requested) (.badRequest "Chỉ có thể hủy yêu cầu khi đang chờ shop duyệt")
  saveReturnRequest returnId { request with status := .cancelled, resolvedAt := some now }

def assertTransition (source target : ReturnStatus) : Action Unit := do
  let sourceText := source.text
  let targetText := target.text
  require (target ∈ RETURN_STATE_MACHINE source)
    (.badRequest s!"Không thể chuyển yêu cầu trả từ \"{sourceText}\" sang \"{targetText}\"")

/-- A request as its seller loads it, with the order number of its order. -/
structure LoadedReturn where
  row : ReturnRequest
  orderNumber : String
  items : List ReturnItem
  lines : List StockLine

/-- What an item puts back: nothing once its product is gone. -/
def restockLine (d : Db) (item : ReturnItem) : Option StockLine := do
  let orderItem ← d (.orderItem item.orderItem)
  let product ← orderItem.product.filter fun p => (d (.product p)).isSome
  some ⟨product, orderItem.variant.filter fun x => (d (.variant x)).isSome, item.quantity⟩

def itemsOfReturn (d : Db) (request : Id) : List ReturnItem :=
  (listed (d (.returnItemsOf request))).filterMap fun x => d (.returnItem x)

def loadReturn (d : Db) (sellerId returnId : Id) : Option LoadedReturn := do
  let row ← d (.returnRequest returnId)
  let shop ← row.shop.bind fun s => d (.shop s)
  if shop.seller ≠ sellerId then none
  let subOrder ← d (.subOrder row.subOrder)
  let order ← d (.order subOrder.order)
  some ⟨row, order.orderNumber, itemsOfReturn d returnId, (itemsOfReturn d returnId).filterMap (restockLine d)⟩

/-- The request under a lock, if its shop is the seller's. -/
def lockReturnForSeller (sellerId returnId : Id) : Action LoadedReturn := do
  let locked ← selectForUpdate (Key.returnRequest returnId)
  let _ ← orFail returnNotFound locked
  let found ← select fun d => loadReturn d sellerId returnId
  orFail returnNotFound found

def emitReturnStatusChanged (returnId : Id) (request : LoadedReturn) (newStatus : ReturnStatus)
    (sellerNote : Option String) : Action Unit :=
  note (.outbox (.returnStatusChanged returnId request.row.subOrder request.orderNumber request.row.customer newStatus
    sellerNote))

/-- Approves or, with a note, rejects. -/
def sellerResolve (sellerId returnId : Id) (newStatus : ReturnStatus) (sellerNote : Option String) (now : Time) :
    Action Unit := do
  let request ← lockReturnForSeller sellerId returnId
  assertTransition request.row.status newStatus
  saveReturnRequest returnId
    (if newStatus = .rejected then
      { request.row with status := newStatus, sellerNote, resolvedAt := some now }
    else { request.row with status := newStatus })
  emitReturnStatusChanged returnId request newStatus sellerNote

/-- How many of each item of a sub-order have come back. -/
def sumReceivedByOrderItem (d : Db) (subOrder orderItem : Id) : Nat :=
  (((returnsOfSubOrder d subOrder).filter fun r => r.2.status = .received).flatMap fun r =>
    ((itemsOfReturn d r.1).filter fun ri => ri.orderItem = orderItem).map (·.quantity)).sum

def markSubOrderReturnedIfComplete (subOrder : Id) (received : Id → Nat) : Action Unit := do
  let items ← select fun d => itemsOfSubOrder d subOrder
  given (items ≠ [] ∧ ∀ it ∈ items, it.2.quantity ≤ received it.1)
    (updateWhere (.subOrder subOrder) (fun _ => true) fun s => { s with status := .returned })

def receiveReturn (sellerId returnId : Id) (now : Time) : Action Unit := do
  let request ← lockReturnForSeller sellerId returnId
  assertTransition request.row.status .received
  given (request.lines ≠ []) (lockAndRestock request.lines)
  note (.returnRestocked returnId request.lines)
  saveReturnRequest returnId { request.row with status := .received, resolvedAt := some now }
  let receivedByItem ← select fun d => sumReceivedByOrderItem d request.row.subOrder
  markSubOrderReturnedIfComplete request.row.subOrder receivedByItem
  emitReturnStatusChanged returnId request .received none

def toResponse (d : Db) (id : Id) (row : ReturnRequest) : ReturnRequestResponse where
  id := id
  subOrderId := row.subOrder
  status := row.status
  reason := row.reason
  customerNote := row.customerNote
  sellerNote := row.sellerNote
  resolvedAt := row.resolvedAt
  refundTotal := row.refundTotal
  items := (listed (d (.returnItemsOf id))).filterMap fun x => do
    let item ← d (.returnItem x)
    let orderItem ← d (.orderItem item.orderItem)
    some ⟨x, item.orderItem, orderItem.productName, orderItem.variantName, item.quantity, item.refundAmount⟩
  createdAt := row.createdAt

def getReturnDetail (userId returnId : Id) : Action ReturnRequestResponse := do
  let found ← select fun d => ((d (.returnRequest returnId)).filter fun row => row.customer = userId).map
    (toResponse d returnId)
  orFail returnNotFound found

def getSellerReturnDetail (sellerId returnId : Id) : Action ReturnRequestResponse := do
  let found ← select fun d =>
    ((d (.returnRequest returnId)).filter fun row =>
      (row.shop.bind fun s => d (.shop s)).map (·.seller) = some sellerId).map (toResponse d returnId)
  orFail returnNotFound found

/-- The transaction of a call, then the request as the answer shows it. -/
def thenDetail (body : Action Unit) (detail : Action ReturnRequestResponse) : Request :=
  .tx body (fun _ => single detail .returned) fun e => .done (.failed e)

inductive ReturnOperation where
  | create (call : ReturnCall)
  | cancel (userId returnId : Id) (now : Time)
  | approve (sellerId returnId : Id) (now : Time)
  | reject (sellerId returnId : Id) (sellerNote : String) (now : Time)
  | receive (sellerId returnId : Id) (now : Time)

def ReturnOperation.request : ReturnOperation → Request
  | .create call => thenDetail (createReturn call) (getReturnDetail call.userId call.returnId)
  | .cancel user id now => single (cancelReturn user id now) fun _ => .returnCancelled id .cancelled
  | .approve seller id now =>
    thenDetail (sellerResolve seller id .approved none now) (getSellerReturnDetail seller id)
  | .reject seller id sellerNote now =>
    thenDetail (sellerResolve seller id .rejected (some sellerNote) now) (getSellerReturnDetail seller id)
  | .receive seller id now => thenDetail (receiveReturn seller id now) (getSellerReturnDetail seller id)

end Marketplace
