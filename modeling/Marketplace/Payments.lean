import Marketplace.Schema

/-! `PaymentsService`: the payment of an order and the attempts to pay it through VNPay. -/
namespace Marketplace
open ReadCommitted ReadCommitted.Tx

def VNPAY_SOFT_WINDOW_MS : Int := 15 * 60 * 1000
def VNPAY_HARD_WINDOW_MS : Int := 30 * 60 * 1000
def VNPAY_MIN_PAYABLE_MS : Int := 3 * 60 * 1000

def paymentColumns : Columns Payment where
  write mem r c :=
    { method := column mem.method r.method c.method
      status := column mem.status r.status c.status
      amount := column mem.amount r.amount c.amount
      vnpTxnRef := column mem.vnpTxnRef r.vnpTxnRef c.vnpTxnRef
      vnpTransactionNo := column mem.vnpTransactionNo r.vnpTransactionNo c.vnpTransactionNo
      vnpResponseCode := column mem.vnpResponseCode r.vnpResponseCode c.vnpResponseCode
      paidAt := column mem.paidAt r.paidAt c.paidAt
      raw := column mem.raw r.raw c.raw }
  same := by intro mem c; simp
  fresh := by intro mem r; simp

def attemptColumns : Columns PaymentAttempt where
  write mem r c :=
    { payment := column mem.payment r.payment c.payment
      amount := column mem.amount r.amount c.amount
      status := column mem.status r.status c.status
      vnpTransactionNo := column mem.vnpTransactionNo r.vnpTransactionNo c.vnpTransactionNo
      vnpResponseCode := column mem.vnpResponseCode r.vnpResponseCode c.vnpResponseCode
      ipnReceivedAt := column mem.ipnReceivedAt r.ipnReceivedAt c.ipnReceivedAt
      raw := column mem.raw r.raw c.raw
      createdAt := column mem.createdAt r.createdAt c.createdAt }
  same := by intro mem c; simp
  fresh := by intro mem r; simp

def createPendingForOrder (order : Id) (amount : Money) (method : PaymentMethod) : Action Unit :=
  insert (.payment order) ⟨method, .pending, amount, none, none, none, none, none⟩
    (.uniqueViolation "payment.order_id")

/-- Saves a payment that was loaded without a lock. -/
def savePayment (order : Id) (loaded mem : Payment) : Action Unit :=
  saveMarked (k := Key.payment order) paymentColumns mem
    fun reread => [.paymentSaved order loaded.status reread.status]

def updateAmountForOrder (order : Id) (amount : Money) : Action Unit := do
  match ← select fun d => d (.payment order) with
  | none => pure ()
  | some payment => savePayment order payment { payment with amount }

structure ExpiryInfo where
  orderAgeMs : Int
  latestAttemptAgeMs : Option Int
deriving DecidableEq

/-- The payment of a VNPay order that is neither completed nor refunded, with the ages of the order
and of its newest attempt. -/
def expiryInfo (order : Id) (now : Time) (d : Db) : Option (ExpiryInfo × PaymentStatus) := do
  let payment ← d (.payment order)
  let ord ← d (.order order)
  if payment.method ≠ .vnpay ∨ payment.status = .completed ∨ payment.status = .refunded then none
  let attempts := (listed (d (.attemptsOf order))).filterMap fun ref => d (.attempt ref)
  let ages := attempts.map fun attempt => (now : Int) - attempt.createdAt
  some (⟨(now : Int) - ord.createdAt, ages.min?⟩, payment.status)

def getVnpayExpiryInfo (order : Id) (now : Time) : Action (Option ExpiryInfo) := do
  match ← select (expiryInfo order now) with
  | none => pure none
  | some (info, status) =>
    note (.unpaidLoaded order status)
    return some info

def markVnpayExpired (order : Id) : Action Unit := do
  match ← select fun d => d (.payment order) with
  | none => pure ()
  | some payment => savePayment order payment { payment with status := .failed }

def markCodCompleted (order : Id) (paidAt : Time) : Action Unit := do
  match ← select fun d => d (.payment order) with
  | none => pure ()
  | some payment =>
    if payment.method ≠ .cod ∨ payment.status ≠ .pending then pure ()
    else savePayment order payment { payment with status := .completed, paidAt := some paidAt }

/-- The checks before the transaction, on a snapshot; the order number goes into the reference. -/
def paymentUrlOrderNumber (enabled : Bool) (order user : Id) : Action String := do
  require (enabled = true) (.serviceUnavailable "VNPAY chưa được cấu hình")
  let found ← select fun d => (d (.payment order)).bind fun payment =>
    (d (.order order)).map fun ord => (payment, ord)
  let (payment, ord) ← orFail (.notFound "Không tìm thấy đơn hàng") found
  require (ord.customer = some user) (.notFound "Không tìm thấy đơn hàng")
  require (payment.method = .vnpay) (.badRequest "Đơn hàng này không thanh toán bằng VNPAY")
  require (ord.status ≠ .cancelled) (.badRequest "Đơn hàng đã bị hủy, không thể thanh toán")
  return ord.orderNumber

/-- A new attempt becomes the newest one, and the payment goes back to pending on it. -/
def addAttempt (order : Id) (orderNumber : String) (now timestamp : Time) :
    Action (String × Money × Time) := do
  let locked ← selectForUpdate (Key.payment order)
  let lockedPayment ← orFail (.notFound "Không tìm thấy đơn hàng") locked
  require (lockedPayment.status ≠ .completed) (.badRequest "Đơn hàng đã được thanh toán thành công")
  require (lockedPayment.status ≠ .refunded) (.badRequest "Đơn hàng đã được hoàn tiền")
  let amount := lockedPayment.amount
  require (0 < amount) (.badRequest "Số tiền thanh toán không hợp lệ")
  let found ← getVnpayExpiryInfo order now
  let expiryInfo ← orFail (.notFound "Không tìm thấy đơn hàng") found
  let remainingMs := VNPAY_HARD_WINDOW_MS - expiryInfo.orderAgeMs
  require (VNPAY_MIN_PAYABLE_MS ≤ remainingMs)
    (.badRequest "Đơn hàng sắp hết hạn giữ hàng. Vui lòng đặt đơn mới.")
  let txnRef := orderNumber ++ "-" ++ toString timestamp
  let payableMs := min VNPAY_SOFT_WINDOW_MS remainingMs
  insert (.attempt txnRef) ⟨order, amount, .pending, none, none, none, none, now⟩
    (.uniqueViolation "UQ_payment_attempt_vnp_txn_ref")
  modify (.attemptsOf order) fun refs => some (listed refs ++ [txnRef])
  save (k := Key.payment order) paymentColumns
    { lockedPayment with
      status := .pending, vnpTxnRef := some txnRef, vnpTransactionNo := none, vnpResponseCode := none,
      raw := none }
  return (txnRef, amount, timestamp + payableMs.toNat)

abbrev VnpayQuery := List (String × String)

structure IpnAnswer where
  rspCode : String
  message : String
deriving DecidableEq

/-- Returns whether the attempt was paid although the payment is already completed. -/
def syncPaymentFromAttempt (txnRef : String) (attempt : PaymentAttempt) (now : Time) : Action Bool := do
  match ← selectForUpdate (Key.payment attempt.payment) with
  | none => return false
  | some payment =>
    if attempt.status ≠ .completed then
      if payment.vnpTxnRef = some txnRef ∧ payment.status = .pending then
        save (k := Key.payment attempt.payment) paymentColumns
          { payment with
            status := .failed, vnpTransactionNo := attempt.vnpTransactionNo,
            vnpResponseCode := attempt.vnpResponseCode, raw := attempt.raw }
        return false
      else return false
    else if payment.status = .completed then return true
    else
      save (k := Key.payment attempt.payment) paymentColumns
        { payment with
          status := .completed, paidAt := some (attempt.ipnReceivedAt.getD now), vnpTxnRef := some txnRef,
          vnpTransactionNo := attempt.vnpTransactionNo, vnpResponseCode := attempt.vnpResponseCode,
          raw := attempt.raw }
      return false

/-- `Number(...)` of a string of digits, as VNPay sends amounts. -/
def digitsValue (s : String) : Option Int :=
  if s.toList ≠ [] ∧ s.toList.all Char.isDigit then
    some (s.toList.foldl (fun n c => n * 10 + (c.toNat - '0'.toNat : Int)) 0)
  else none

/-- An absent reference puts no condition on the query, which then finds some row `anyRef`. -/
def ipnTxnRef (query : VnpayQuery) (anyRef : String) : String := (query.lookup "vnp_TxnRef").getD anyRef

/-- The attempt of the reference, marked by the response code and copied to its payment. -/
def recordIpn (query : VnpayQuery) (anyRef : String) (now : Time) : Action IpnAnswer := do
  let txnRef := ipnTxnRef query anyRef
  let responseCode := query.lookup "vnp_ResponseCode"
  match ← selectForUpdate (Key.attempt txnRef) with
  | none => return ⟨"01", "Order not found"⟩
  | some found =>
    if (query.lookup "vnp_Amount").bind digitsValue ≠ some found.amount then
      return ⟨"04", "Invalid amount"⟩
    else if found.status ≠ .pending then return ⟨"02", "Order already confirmed"⟩
    else
      let attempt : PaymentAttempt :=
        { found with
          status := if responseCode = some "00" then .completed else .failed
          vnpTransactionNo := query.lookup "vnp_TransactionNo"
          vnpResponseCode := responseCode
          ipnReceivedAt := some now
          raw := some query }
      save (k := Key.attempt txnRef) attemptColumns attempt
      let isDuplicatePaid ← syncPaymentFromAttempt txnRef attempt now
      return if isDuplicatePaid then ⟨"02", "Order already confirmed"⟩ else ⟨"00", "Confirm Success"⟩

def handleVnpayIpn (verifySignature : VnpayQuery → Bool) (query : VnpayQuery) (anyRef : String)
    (now : Time) : Action IpnAnswer :=
  if verifySignature query then recordIpn query anyRef now
  else return ⟨"97", "Invalid signature"⟩

def isPaid (row : Option Payment) : Bool := row.any fun p => p.status = .completed

theorem isPaid_some {row : Option Payment} (paid : isPaid row) : ∃ p, row = some p ∧ p.status = .completed := by
  cases row with
  | none => cases paid
  | some p => exact ⟨p, rfl, by simpa [isPaid] using paid⟩

theorem isPaid_of_status {p : Payment} (completed : p.status = .completed) : isPaid (some p) := by
  simp [isPaid, completed]

/-- The row an attempt has after its callback. -/
def recordedAttempt (query : VnpayQuery) (found : PaymentAttempt) (now : Time) : PaymentAttempt :=
  { found with
    status := if query.lookup "vnp_ResponseCode" = some "00" then .completed else .failed
    vnpTransactionNo := query.lookup "vnp_TransactionNo"
    vnpResponseCode := query.lookup "vnp_ResponseCode"
    ipnReceivedAt := some now
    raw := some query }

/-- The row a payment has after the callback of one of its attempts. -/
def syncedPayment (txnRef : String) (attempt : PaymentAttempt) (now : Time) (payment : Payment) : Payment :=
  if attempt.status ≠ .completed then
    if payment.vnpTxnRef = some txnRef ∧ payment.status = .pending then
      { payment with
        status := .failed, vnpTransactionNo := attempt.vnpTransactionNo,
        vnpResponseCode := attempt.vnpResponseCode, raw := attempt.raw }
    else payment
  else if payment.status = .completed then payment
  else
    { payment with
      status := .completed, paidAt := some (attempt.ipnReceivedAt.getD now), vnpTxnRef := some txnRef,
      vnpTransactionNo := attempt.vnpTransactionNo, vnpResponseCode := attempt.vnpResponseCode,
      raw := attempt.raw }

/-- The payment is completed by the attempt, fails with it, or stands as it was. -/
theorem syncedPayment_cases (txnRef : String) (attempt : PaymentAttempt) (now : Time) (p : Payment) :
    (attempt.status = .completed ∧ (syncedPayment txnRef attempt now p).status = .completed ∧
      (syncedPayment txnRef attempt now p).vnpTxnRef = some txnRef) ∨
    (attempt.status ≠ .completed ∧ p.vnpTxnRef = some txnRef ∧ p.status = .pending ∧
      (syncedPayment txnRef attempt now p).status = .failed) ∨
    (syncedPayment txnRef attempt now p = p ∧ (attempt.status = .completed → p.status = .completed) ∧
      (attempt.status ≠ .completed → ¬ (p.vnpTxnRef = some txnRef ∧ p.status = .pending))) := by
  unfold syncedPayment
  by_cases success : attempt.status = .completed
  · rw [if_neg (not_not.mpr success)]
    by_cases paid : p.status = .completed
    · rw [if_pos paid]
      exact Or.inr (Or.inr ⟨rfl, fun _ => paid, fun failed => absurd success failed⟩)
    · rw [if_neg paid]
      exact Or.inl ⟨success, rfl, rfl⟩
  · rw [if_pos success]
    by_cases newest : p.vnpTxnRef = some txnRef ∧ p.status = .pending
    · rw [if_pos newest]
      exact Or.inr (Or.inl ⟨success, newest.1, newest.2, rfl⟩)
    · rw [if_neg newest]
      exact Or.inr (Or.inr ⟨rfl, fun no => absurd no success, fun _ => newest⟩)

section
variable {I : Isolation (Table Row) Mark} {E : Err → Prop} {v : View (Table Row) Mark}

theorem wp_syncPaymentFromAttempt {txnRef : String} {attempt : PaymentAttempt} {now : Time}
    {Q : Bool → View (Table Row) Mark → Prop}
    (h : ∀ a w, v.Continues (· = .payment attempt.payment) (fun _ => False) w →
      w.rows (.payment attempt.payment) =
        (v.rows (.payment attempt.payment)).map (syncedPayment txnRef attempt now) → Q a w) :
    (syncPaymentFromAttempt txnRef attempt now).wp I Q E v := by
  unfold syncPaymentFromAttempt
  rw [wp_bind]
  refine wp_selectForUpdate fun w first held => ?_
  have idle : v.Continues (· = .payment attempt.payment) (fun _ => False) w := first.idle
  have same : w.rows (.payment attempt.payment) = v.rows (.payment attempt.payment) := first.rows _ fun no => no
  cases found : v.rows (.payment attempt.payment) with
  | none => exact h _ w idle (by rw [same, found]; rfl)
  | some payment =>
    have stands : w.rows (.payment attempt.payment) = some payment := same.trans found
    have unchanged : ∀ a, syncedPayment txnRef attempt now payment = payment → Q a w := fun a eq =>
      h a w idle (by rw [stands, found, Option.map_some, eq])
    have saved : ∀ mem, syncedPayment txnRef attempt now payment = mem →
        (save (k := Key.payment attempt.payment) paymentColumns mem : Action Unit).wp I
          (fun _ w => (pure false : Action Bool).wp I Q E w) E w := fun mem eq => by
      refine wp_save_held (k := Key.payment attempt.payment) held stands fun u more _ stored => ?_
      exact h _ u (idle.trans more) (by rw [stored, found, Option.map_some, eq])
    dsimp only
    rw [wp_ite]
    refine ⟨fun failed => ?_, fun success => ?_⟩
    · rw [wp_ite]
      refine ⟨fun newest => ?_, fun older => ?_⟩
      · rw [wp_bind]
        exact saved _ (by rw [syncedPayment, if_pos failed, if_pos newest])
      · exact unchanged _ (by rw [syncedPayment, if_pos failed, if_neg older])
    · rw [wp_ite]
      refine ⟨fun paid => ?_, fun unpaid => ?_⟩
      · exact unchanged _ (by rw [syncedPayment, if_neg success, if_pos paid])
      · rw [wp_bind]
        exact saved _ (by rw [syncedPayment, if_neg success, if_neg unpaid])

/-- A callback changes nothing, or settles one pending attempt and its payment. -/
theorem wp_recordIpn {query : VnpayQuery} {anyRef : String} {now : Time} {Q : IpnAnswer → View (Table Row) Mark → Prop}
    (ignored : ∀ a w, v.Continues (fun _ => False) (fun _ => False) w → Q a w)
    (settled : ∀ a w ref found, ref = ipnTxnRef query anyRef → v.rows (.attempt ref) = some found →
      found.status = .pending →
      v.Continues (fun k => k = .attempt ref ∨ k = .payment found.payment) (fun _ => False) w →
      w.rows (.attempt ref) = some (recordedAttempt query found now) →
      w.rows (.payment found.payment) =
        (v.rows (.payment found.payment)).map (syncedPayment ref (recordedAttempt query found now) now) → Q a w) :
    (recordIpn query anyRef now).wp I Q E v := by
  unfold recordIpn
  dsimp only
  rw [wp_bind]
  refine wp_selectForUpdate fun w first held => ?_
  cases found : v.rows (.attempt (ipnTxnRef query anyRef)) with
  | none => exact ignored _ w first
  | some attempt =>
    dsimp only
    rw [wp_ite]
    refine ⟨fun _ => ignored _ w first, fun _ => ?_⟩
    rw [wp_ite]
    refine ⟨fun _ => ignored _ w first, fun pending => ?_⟩
    rw [wp_bind]
    refine wp_save_held (k := Key.attempt _) held ((first.rows _ fun no => no).trans found) fun w₂ second _ stored => ?_
    rw [wp_bind]
    refine wp_syncPaymentFromAttempt fun a w₃ third synced => ?_
    refine settled _ w₃ _ attempt rfl found (by simpa using pending) ?_ ?_ ?_
    · exact (first.idle.trans (second.mono (fun _ => Or.inl) fun _ no => no)).trans
        (third.mono (fun _ => Or.inr) fun _ no => no)
    · rw [third.rows _ (by simp)]
      exact stored
    · refine synced.trans ?_
      rw [second.rows _ (by simp), first.rows _ fun no => no]
      rfl

/-- The rows a new attempt changes. -/
def AttemptKey (order : Id) (txnRef : String) (k : Key) : Prop :=
  k = .attempt txnRef ∨ k = .attemptsOf order ∨ k = .payment order

/-- A new attempt: the payment was neither completed nor refunded and goes back to pending. -/
theorem wp_addAttempt {order : Id} {orderNumber : String} {now timestamp : Time}
    {Q : String × Money × Time → View (Table Row) Mark → Prop} (noErr : ∀ e, E e)
    (h : ∀ a w locked txnRef mem, v.rows (.payment order) = some locked → locked.status ≠ .completed →
      locked.status ≠ .refunded → v.rows (.attempt txnRef) = none →
      v.Continues (AttemptKey order txnRef) (fun e => ∃ status, e = .unpaidLoaded order status) w →
      w.rows (.attempt txnRef) = some ⟨order, locked.amount, .pending, none, none, none, none, now⟩ →
      w.rows (.attemptsOf order) = some (listed (v.rows (.attemptsOf order)) ++ [txnRef]) →
      mem = { locked with
        status := .pending, vnpTxnRef := some txnRef, vnpTransactionNo := none, vnpResponseCode := none,
        raw := none } →
      w.rows (.payment order) = some mem → Q a w) :
    (addAttempt order orderNumber now timestamp).wp I Q E v := by
  unfold addAttempt
  simp only [wp_bind]
  refine wp_selectForUpdate fun w first held => ?_
  rw [wp_orFail]
  refine ⟨fun locked found => ?_, fun _ => noErr _⟩
  rw [wp_require]
  refine ⟨fun open_ => ?_, fun _ => noErr _⟩
  rw [wp_require]
  refine ⟨fun kept => ?_, fun _ => noErr _⟩
  rw [wp_require]
  refine ⟨fun _ => ?_, fun _ => noErr _⟩
  have within : (getVnpayExpiryInfo order now).Within (fun _ => False)
      (fun e => ∃ status, e = .unpaidLoaded order status) := by
    refine within_bind (within_select _) fun info => ?_
    cases info with
    | none => exact within_pure _
    | some pair => exact within_bind ((within_note _).mpr ⟨_, rfl⟩) fun _ => within_pure _
  refine wp_of_within within (fun info w₂ second => ?_) noErr
  rw [wp_orFail]
  refine ⟨fun expiry _ => ?_, fun _ => noErr _⟩
  rw [wp_require]
  refine ⟨fun _ => ?_, fun _ => noErr _⟩
  refine wp_insert (fun _ => noErr _) fun w₃ third _ free inserted => ?_
  rw [wp_modify]
  have before : ∀ k, w₂.rows k = v.rows k := fun k =>
    (second.rows k fun no => no).trans (first.rows k fun no => no)
  have stands : (w₃.put (.attemptsOf order) fun refs => some (listed refs ++ [orderNumber ++ "-" ++ toString timestamp])).rows
      (.payment order) = some locked := by
    rw [View.put_rows_other _ _ (by simp), third.rows _ (by simp), before]
    exact found
  refine wp_save_held (k := Key.payment order) (View.put_held _ _ _ _ (third.held _ (second.held _ held))) stands
    fun w₄ fourth _ stored => ?_
  rw [wp_pure]
  have opened : v.Continues (AttemptKey order (orderNumber ++ "-" ++ toString timestamp))
      (fun e => ∃ status, e = .unpaidLoaded order status) w₃ :=
    (first.idle.trans (second.mono (fun _ no => no.elim) fun _ mark => mark)).trans
      (third.mono (fun _ same => Or.inl same) fun _ no => no.elim)
  have upto : v.Continues (AttemptKey order (orderNumber ++ "-" ++ toString timestamp))
      (fun e => ∃ status, e = .unpaidLoaded order status) w₄ :=
    (opened.trans (.put (Or.inr (Or.inl rfl)))).trans
      (fourth.mono (fun _ same => Or.inr (Or.inr same)) fun _ no => no.elim)
  refine h _ w₄ locked _ _ found open_ kept ((before _).symm.trans free) upto ?_ ?_ rfl stored
  · rw [fourth.rows _ (by simp), View.put_rows_other _ _ (by simp)]
    exact inserted
  · rw [fourth.rows _ (by simp), View.put_rows_self, third.rows _ (by simp), before]

end
end Marketplace
