import Marketplace.Orders.Cancel

/-! `PayoutsService`: what a shop has earned, its requests to be paid and their resolution. -/
namespace Marketplace
open ReadCommitted ReadCommitted.Tx

def PAYOUT_STATE_MACHINE : PayoutStatus → List PayoutStatus
  | .pending => [.completed, .rejected]
  | .processing => [.completed, .rejected]
  | .completed => []
  | .rejected => []
  | .failed => []

def payoutColumns : Columns Payout where
  write mem r c :=
    { shop := column mem.shop r.shop c.shop
      amount := column mem.amount r.amount c.amount
      commissionFee := column mem.commissionFee r.commissionFee c.commissionFee
      status := column mem.status r.status c.status
      rejectReason := column mem.rejectReason r.rejectReason c.rejectReason
      bankInfoSnapshot := column mem.bankInfoSnapshot r.bankInfoSnapshot c.bankInfoSnapshot
      resolvedBy := column mem.resolvedBy r.resolvedBy c.resolvedBy
      resolvedAt := column mem.resolvedAt r.resolvedAt c.resolvedAt }
  same := by intro mem c; simp
  fresh := by intro mem r; simp

def assertPayoutTransition (source target : PayoutStatus) : Action Unit :=
  require (target ∈ PAYOUT_STATE_MACHINE source) (.badRequest "Yêu cầu rút tiền đã được xử lý từ trước.")

/-- A payout read without a lock, with its shop. -/
def loadPayout (d : Db) (payoutId : Id) : Option (Payout × Option Shop) :=
  (d (.payout payoutId)).map fun payout => (payout, payout.shop.bind fun s => d (.shop s))

/-- Loads, checks the transition, saves and tells the seller. `resolve` sets the columns. -/
def resolvePayout (payoutId : Id) (newStatus : PayoutStatus) (reason : Option String) (resolve : Payout → Payout) :
    Action Payout := do
  let found ← select fun d => loadPayout d payoutId
  let (payout, loadedShop) ← orFail (.notFound "Không tìm thấy yêu cầu rút tiền.") found
  note (.payoutLoaded payoutId payout.status)
  assertPayoutTransition payout.status newStatus
  save (k := Key.payout payoutId) payoutColumns (resolve payout)
  -- the payload reads the shop, which `SET NULL` may have taken
  let shop ← orFail .database loadedShop
  note (.outbox (.payoutStatusChanged payoutId shop.seller shop.name payout.amount newStatus reason))
  return resolve payout

def approvePayout (payoutId adminId : Id) (now : Time) : Action Payout :=
  resolvePayout payoutId .completed none fun payout =>
    { payout with status := .completed, resolvedBy := some adminId, resolvedAt := some now }

def rejectPayout (payoutId : Id) (reason : String) (adminId : Id) (now : Time) : Action Payout :=
  resolvePayout payoutId .rejected (some reason) fun payout =>
    { payout with
      status := .rejected, rejectReason := some reason, resolvedBy := some adminId, resolvedAt := some now }

inductive PayoutResolution where
  | approve (payoutId adminId : Id) (now : Time)
  | reject (payoutId : Id) (reason : String) (adminId : Id) (now : Time)

def PayoutResolution.request : PayoutResolution → Request
  | .approve payout admin now => single (approvePayout payout admin now) fun _ => .done
  | .reject payout reason admin now => single (rejectPayout payout reason admin now) fun _ => .done

/-- `buildVnpayPaidFilter`: no payment, another method, or paid. -/
def vnpayPaid (payment : Option Payment) : Bool := payment.all fun p => p.method ≠ .vnpay ∨ p.status = .completed

/-- What a delivered sub-order earned its shop, shipping apart. -/
def SubOrder.earned (s : SubOrder) : Money := s.subTotal - s.shopDiscountAmount

/-- The sum over the sub-orders of a shop among the ids of the table. -/
def getShopDeliveredRevenue (table : List Id) (shop : Id) (d : Db) : Money :=
  ((table.filterMap fun s => d (.subOrder s)).filter fun s =>
    s.shop = some shop ∧ s.status = .delivered ∧ vnpayPaid (d (.payment s.order))).map (·.earned) |>.sum

def payoutsOfShop (d : Db) (shop : Id) : List Payout :=
  (listed (d (.payoutsOf shop))).filterMap fun p => d (.payout p)

def payoutSum (statuses : List PayoutStatus) (shop : Id) (d : Db) : Money :=
  (((payoutsOfShop d shop).filter fun p => p.status ∈ statuses).map (·.amount)).sum

/-- `round2(gross * COMMISSION_RATE)` at a rate of 5 per cent. -/
def commissionOf (gross : Money) : Money := (gross * 5 + 50) / 100

structure BalanceResponse where
  grossRevenue : Money
  commissionAmount : Money
  totalRevenue : Money
  totalPayouted : Money
  availableBalance : Money
  pendingPayout : Money
deriving DecidableEq

def calculateShopBalance (table : List Id) (shop : Id) : Action BalanceResponse := do
  let gross ← select (getShopDeliveredRevenue table shop)
  let commission := commissionOf gross
  let totalRevenue := gross - commission
  let payouted ← select (payoutSum [.completed] shop)
  let pending ← select (payoutSum [.pending, .processing] shop)
  return ⟨gross, commission, totalRevenue, payouted, max 0 (totalRevenue - payouted - pending), pending⟩

/-- Digits in groups of three. -/
def groupThousands (digits : List Char) : List Char :=
  match digits with
  | a :: b :: c :: d :: rest => a :: b :: c :: '.' :: groupThousands (d :: rest)
  | short => short

/-- `toLocaleString('vi-VN')` of an amount that is not negative. -/
def showVietnamese (m : Money) : String :=
  let whole := String.ofList (groupThousands (toString (m / 100)).toList.reverse).reverse
  let cents := m % 100
  if cents = 0 then whole
  else if cents % 10 = 0 then whole ++ "," ++ toString (cents / 10)
  else if cents < 10 then whole ++ ",0" ++ toString cents
  else whole ++ "," ++ toString cents

def findOneByUserId (sellerId : Id) : Action Id := do
  let found ← select fun d => (listed (d (.shopsOf sellerId))).find? fun s => (d (.shop s)).isSome
  orFail (.notFound "Không tìm thấy gian hàng của bạn") found

def requestPayout (table : List Id) (shopId payoutId : Id) (amount : Money) : Action Payout := do
  let locked ← selectForUpdate (Key.shop shopId)
  let shop ← orFail (.notFound "Không tìm thấy cửa hàng của bạn.") locked
  let bankInfo ← orFail (.badRequest "Vui lòng cập nhật thông tin tài khoản ngân hàng trước khi rút tiền.")
    shop.bankAccountInfo
  let pendingPayoutCount ← select fun d =>
    ((payoutsOfShop d shopId).filter fun p => p.status ∈ [PayoutStatus.pending, .processing]).length
  require (pendingPayoutCount = 0)
    (.badRequest "Bạn đang có một yêu cầu rút tiền đang được xử lý. Vui lòng chờ lệnh cũ hoàn thành.")
  let balance ← calculateShopBalance table shopId
  let balanceText := showVietnamese balance.availableBalance
  require (amount ≤ balance.availableBalance)
    (.badRequest s!"Số dư khả dụng không đủ. Số dư hiện tại của bạn là: {balanceText}đ")
  let payout : Payout :=
    { shop := some shopId, amount, commissionFee := 0, status := .pending, rejectReason := none,
      bankInfoSnapshot := bankInfo, resolvedBy := none, resolvedAt := none }
  insert (.payout payoutId) payout .database
  modify (.payoutsOf shopId) fun ids => some (listed ids ++ [payoutId])
  note (.outbox (.payoutCreated payoutId amount shopId shop.name))
  return payout

/-- A seller's call: the shop is looked up first. -/
def payoutRequest (table : List Id) (sellerId payoutId : Id) (amount : Money) : Request :=
  .tx (findOneByUserId sellerId) (fun shopId => single (requestPayout table shopId payoutId amount) fun _ => .done)
    fun e => .done (.failed e)

end Marketplace
