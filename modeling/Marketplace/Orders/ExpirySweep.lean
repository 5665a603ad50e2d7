import Marketplace.Orders.Cancel
import Marketplace.ReadCommitted.Alone

/-! The sweep behind the delayed jobs: which unpaid orders it selects, and which an expiry would take. -/
namespace Marketplace.ExpirySweep
open ReadCommitted ReadCommitted.Tx

/-- The rows of `findExpiredVnpayOrderIds`, before its limit. -/
structure Selectable (hardWindowMs : Int) (d : Db) (now : Time) (id : Id) : Prop where
  payment : ∃ payment, d (.payment id) = some payment ∧ payment.method = .vnpay ∧ payment.status = .pending
  order : ∃ order, d (.order id) = some order ∧ order.status = .pending ∧
    (order.createdAt : Int) < now - hardWindowMs / 1000 * 1000

/-- What the query may answer: no order is asked for, so the limit may keep any of the rows. -/
structure FindExpiredVnpayOrderIds (hardWindowMs : Int) (limit : ℕ) (d : Db) (now : Time) (ids : List Id) : Prop where
  distinct : ids.Nodup
  selectable : ∀ id ∈ ids, Selectable hardWindowMs d now id
  limited : ids.length ≤ limit
  whole : ids.length < limit → ∀ id, Selectable hardWindowMs d now id → id ∈ ids

def PastHardWindow (d : Db) (now : Time) (id : Id) : Prop :=
  ∃ order, d (.order id) = some order ∧ VNPAY_HARD_WINDOW_MS ≤ (now : Int) - order.createdAt

def WouldExpire (d : Db) (now : Time) (id : Id) : Prop :=
  ∃ after marks, (expireUnpaidVnpayOrder id now).run d [] = .ok (true, after, marks)

/-- Whatever rows the limit keeps, the sweep goes over every order that an expiry would take. -/
def Recovers (d : Db) (now : Time) (limit : ℕ) : Prop :=
  ∀ ids, FindExpiredVnpayOrderIds VNPAY_HARD_WINDOW_MS limit d now ids →
    ∀ id, PastHardWindow d now id → WouldExpire d now id → id ∈ ids

/-- The `CHECK (stock_quantity >= 0)` of the two tables. -/
structure StockHeld (d : Db) : Prop where
  products : ∀ p, ∀ row ∈ d (.product p), 0 ≤ row.stockQuantity
  variants : ∀ x, ∀ row ∈ d (.variant x), 0 ≤ row.stockQuantity

/-- An expiry finds its order on the way, and the stock it adds to is not negative. -/
structure Ready (id : Id) (d : Db) : Prop where
  order : d (.order id) ≠ none
  stock : StockHeld d

variable {id : Id} {d : Db} {now : Time}

theorem Ready.changed (ready : Ready id d) {e : Db} (order : e (.order id) ≠ none)
    (products : ∀ p, e (.product p) = d (.product p) ∨ ∀ row ∈ e (.product p), 0 ≤ row.stockQuantity)
    (variants : ∀ x, e (.variant x) = d (.variant x) ∨ ∀ row ∈ e (.variant x), 0 ≤ row.stockQuantity) : Ready id e := by
  refine ⟨order, fun p row found => ?_, fun x row found => ?_⟩
  · rcases products p with same | held
    · exact ready.stock.products p row (same ▸ found)
    · exact held row found
  · rcases variants x with same | held
    · exact ready.stock.variants x row (same ▸ found)
    · exact held row found

theorem Ready.beside (ready : Ready id d) {k : Key} (row : Option (Row k)) (other : k ≠ .order id) (shelf : ¬ StockKey k) :
    Ready id (Function.update d k row) := by
  have product (p : Id) : Key.product p ≠ k := by rintro rfl; exact shelf trivial
  have variant (x : Id) : Key.variant x ≠ k := by rintro rfl; exact shelf trivial
  refine ready.changed ?_ (fun p => Or.inl (Function.update_of_ne (product p) _ _)) fun x =>
    Or.inl (Function.update_of_ne (variant x) _ _)
  rw [Function.update_of_ne other.symm]
  exact ready.order

theorem Ready.saved (ready : Ready id d) (order : Order) : Ready id (Function.update d (.order id) (some order)) :=
  ready.changed (by simp) (fun p => Or.inl (by simp)) fun x => Or.inl (by simp)

theorem Ready.product (ready : Ready id d) {p : Id} {mem : Product} (held : 0 ≤ mem.stockQuantity) :
    Ready id (Function.update d (.product p) (some mem)) := by
  refine ready.changed (by simpa using ready.order) (fun q => ?_) fun x => Or.inl (by simp)
  by_cases same : q = p
  · subst same
    exact Or.inr (by simpa using held)
  · exact Or.inl (Function.update_of_ne (by simpa using same) _ _)

theorem Ready.variant (ready : Ready id d) {x : Id} {mem : ProductVariant} (held : 0 ≤ mem.stockQuantity) :
    Ready id (Function.update d (.variant x) (some mem)) := by
  refine ready.changed (by simpa using ready.order) (fun q => Or.inl (by simp)) fun y => ?_
  by_cases same : y = x
  · subst same
    exact Or.inr (by simpa using held)
  · exact Or.inl (Function.update_of_ne (by simpa using same) _ _)

theorem finishes_saveProduct {p : Id} {mem : Product} (held : 0 ≤ mem.stockQuantity) :
    (saveProduct p mem).Finishes (Ready id) fun _ => Ready id := by
  unfold saveProduct
  refine finishes_bind (Q := fun _ d => Ready id d ∧ d (.product p) = some mem)
    (finishes_save _ _ fun d ready => ⟨ready.product held, Function.update_self _ _ _⟩) fun _ => ?_
  refine finishes_bind finishes_select fun stored => ?_
  refine finishes_mono (finishes_require fun d read => ?_) (fun _ read => read) fun _ d read => read.1.1
  rw [read.2, read.1.2]
  simpa using held

theorem finishes_saveVariant {x : Id} {mem : ProductVariant} (held : 0 ≤ mem.stockQuantity) :
    (saveVariant x mem).Finishes (Ready id) fun _ => Ready id := by
  unfold saveVariant
  refine finishes_bind (Q := fun _ d => Ready id d ∧ d (.variant x) = some mem)
    (finishes_save _ _ fun d ready => ⟨ready.variant held, Function.update_self _ _ _⟩) fun _ => ?_
  refine finishes_bind finishes_select fun stored => ?_
  refine finishes_mono (finishes_require fun d read => ?_) (fun _ read => read) fun _ d read => read.1.1
  rw [read.2, read.1.2]
  simpa using held

def Loaded (locked : LockedStock) : Prop :=
  (∀ p, ∀ row ∈ locked.product p, 0 ≤ row.stockQuantity) ∧ ∀ x, ∀ row ∈ locked.variant x, 0 ≤ row.stockQuantity

theorem finishes_lockStock (items : List StockLine) :
    (lockStock items).Finishes (Ready id) fun locked d => Ready id d ∧ Loaded locked := by
  unfold lockStock
  refine finishes_bind (finishes_forM _ fun p _ => finishes_lockRow _) fun _ => ?_
  refine finishes_bind finishes_select fun products => ?_
  refine finishes_bind (finishes_forM _ fun x _ => finishes_lockRow _) fun _ => ?_
  refine finishes_bind finishes_select fun variants => ?_
  rintro d log ⟨⟨ready, rfl⟩, rfl⟩
  refine ⟨_, d, log, rfl, ready, fun p row found => ?_, fun x row found => ?_⟩
  · dsimp only at found
    split at found
    · exact ready.stock.products p row found
    · cases found
  · dsimp only at found
    split at found
    · exact ready.stock.variants x row found
    · cases found

theorem Loaded.add {locked : LockedStock} (loaded : Loaded locked) (items : List StockLine) : Loaded (locked.add items 1) := by
  refine ⟨fun p row found => ?_, fun x row found => ?_⟩
  · obtain ⟨before, stood, rfl⟩ := Option.map_eq_some_iff.mp found
    have held := loaded.1 p before stood
    dsimp only
    omega
  · obtain ⟨before, stood, rfl⟩ := Option.map_eq_some_iff.mp found
    have held := loaded.2 x before stood
    dsimp only
    omega

theorem finishes_lockAndRestock (items : List StockLine) : (lockAndRestock items).Finishes (Ready id) fun _ => Ready id := by
  refine finishes_bind (finishes_lockStock items) fun locked => finishes_pull fun loaded => ?_
  have more := loaded.add items
  refine finishes_bind (finishes_forM _ fun x _ => ?_) fun _ => finishes_forM _ fun p _ => ?_
  · cases found : (locked.add items 1).variant x with
    | none => exact finishes_pure ()
    | some row => exact finishes_saveVariant (more.2 x row found)
  · cases found : (locked.add items 1).product p with
    | none => exact finishes_pure ()
    | some row => exact finishes_saveProduct (more.1 p row found)

theorem finishes_refundCoupon (coupon : Id) (source : Redemption) (customer : Option Id) :
    (refundCoupon coupon source customer).Finishes (Ready id) fun _ => Ready id := by
  unfold refundCoupon
  refine finishes_bind (Q := fun _ => Ready id) ?_ fun _ => finishes_bind (finishes_note _) fun _ => ?_
  · refine finishes_bind (finishes_selectForUpdate _) fun found => ?_
    cases found with
    | none => exact fun d log before => ⟨(), d, log, rfl, before.1⟩
    | some row => exact finishes_save _ _ fun d before => before.1.beside _ (by simp) (by simp [StockKey])
  · cases customer with
    | none => exact finishes_pure ()
    | some user => exact finishes_updateWhere fun d ready row => ready.beside row (by simp) (by simp [StockKey])

theorem finishes_expireSubOrder (subOrder : LoadedSubOrder) :
    (expireSubOrder subOrder).Finishes (Ready id) fun _ => Ready id := by
  unfold expireSubOrder restockAndRefundSubOrder
  refine finishes_bind (Q := fun _ => Ready id) ?_ fun _ =>
    finishes_save _ _ fun d ready => ready.beside _ (by simp) (by simp [StockKey])
  refine finishes_bind (finishes_given fun _ => finishes_lockAndRestock _) fun _ => finishes_bind (finishes_note _) fun _ => ?_
  cases subOrder.shopCoupon with
  | none => exact finishes_pure ()
  | some coupon => exact finishes_refundCoupon _ _ _

theorem finishes_savePayment (loaded mem : Payment) : (savePayment id loaded mem).Finishes (Ready id) fun _ => Ready id :=
  finishes_saveMarked _ _ _ fun d ready => ready.beside _ (by simp) (by simp [StockKey])

theorem finishes_recomputeOrder : (recomputeOrder id).Finishes (Ready id) fun _ => Ready id := by
  unfold recomputeOrder
  refine finishes_bind (finishes_selectForUpdate _) fun locked => ?_
  refine finishes_bind (finishes_orFail (P := fun d => Ready id d ∧ locked = d (.order id)) fun d read => ?_) fun _ => ?_
  · rw [read.2]
    exact read.1.order
  refine finishes_bind finishes_select fun found => ?_
  refine finishes_bind (finishes_orFail fun d read => ?_) fun loaded => ?_
  · obtain ⟨⟨⟨ready, _⟩, _⟩, same⟩ := read
    rw [same]
    simpa using ready.order
  obtain ⟨order, globalCoupon⟩ := loaded
  refine finishes_bind finishes_select fun siblings => ?_
  refine finishes_bind (Q := fun _ => Ready id) ?_ fun _ => finishes_bind (finishes_save _ _ fun d ready => ready.saved _) fun _ => finishes_pure _
  refine finishes_mono (P := Ready id) ?_ (fun d read => read.1.1.1.1.1) fun _ _ ready => ready
  cases globalCoupon with
  | none => exact finishes_pure ()
  | some coupon => exact finishes_ite (fun _ => finishes_refundCoupon _ _ _) fun _ => finishes_pure ()

theorem finishes_recomputeMaster : (recomputeMasterAfterSubOrderChange id now).Finishes (Ready id) fun _ => Ready id := by
  unfold recomputeMasterAfterSubOrderChange
  refine finishes_bind finishes_recomputeOrder fun settled => ?_
  refine finishes_bind (Q := fun _ => Ready id) ?_ fun _ =>
    finishes_bind (finishes_given fun _ => ?_) fun _ => finishes_pure _
  · refine finishes_bind finishes_select fun found => finishes_mono (P := Ready id) ?_ (fun d read => read.1) fun _ _ ready => ready
    cases found with
    | none => exact finishes_pure ()
    | some payment => exact finishes_savePayment _ _
  · refine finishes_bind finishes_select fun found => finishes_mono (P := Ready id) ?_ (fun d read => read.1) fun _ _ ready => ready
    cases found with
    | none => exact finishes_pure ()
    | some payment => exact finishes_ite (fun _ => finishes_pure ()) fun _ => finishes_savePayment _ _

theorem finishes_expirePending (id : Id) (now : Time) :
    (expirePending id now).Finishes (Ready id) fun expired _ => expired = true := by
  unfold expirePending
  refine finishes_bind finishes_select fun pending => finishes_mono (P := Ready id) ?_ (fun d read => read.1) fun _ _ done => done
  refine finishes_bind (finishes_forM _ fun s _ => finishes_note _) fun _ => ?_
  refine finishes_bind (finishes_forM _ fun s _ => finishes_expireSubOrder s) fun _ => ?_
  refine finishes_bind finishes_recomputeMaster fun _ => ?_
  refine finishes_bind (Q := fun _ => Ready id) ?_ fun _ => finishes_bind (finishes_note _) fun _ d log _ => ⟨true, d, log, rfl, rfl⟩
  refine finishes_bind finishes_select fun found => finishes_mono (P := Ready id) ?_ (fun d read => read.1) fun _ _ ready => ready
  cases found with
  | none => exact finishes_pure ()
  | some payment => exact finishes_savePayment _ _

/-- A VNPay order past the hard window that is neither paid, refunded nor cancelled. -/
structure Overdue (d : Db) (now : Time) (id : Id) : Prop where
  payment : ∃ payment, d (.payment id) = some payment ∧ payment.method = .vnpay ∧
    payment.status ≠ .completed ∧ payment.status ≠ .refunded
  order : ∃ order, d (.order id) = some order ∧ order.status ≠ .cancelled ∧
    VNPAY_HARD_WINDOW_MS ≤ (now : Int) - order.createdAt

theorem expire_run (id : Id) (now : Time) (d : Db) : (expireUnpaidVnpayOrder id now).run d [] =
    match expiryInfo id now d with
    | none => .ok (false, d, [])
    | some (info, status) =>
      if (d (.order id)).all fun ord => ord.status = .cancelled then .ok (false, d, [.unpaidLoaded id status])
      else if isWithinPaymentWindow info then .ok (false, d, [.unpaidLoaded id status])
      else (expirePending id now).run d [.unpaidLoaded id status] := by
  have looked : (getVnpayExpiryInfo id now).run d [] =
      match expiryInfo id now d with
      | none => .ok (none, d, [])
      | some (info, status) => .ok (some info, d, [.unpaidLoaded id status]) := by
    change (match expiryInfo id now d with
      | none => pure none
      | some (info, status) => do note (.unpaidLoaded id status); return some info : Action (Option ExpiryInfo)).run d [] = _
    cases expiryInfo id now d with
    | none => rfl
    | some pair => rfl
  unfold expireUnpaidVnpayOrder
  rw [run_bind, looked]
  cases expiryInfo id now d with
  | none => rfl
  | some pair =>
    obtain ⟨info, status⟩ := pair
    change (if (d (.order id)).all fun ord => ord.status = .cancelled then pure false
      else if isWithinPaymentWindow info then pure false else expirePending id now : Action Bool).run d [.unpaidLoaded id status] = _
    dsimp only
    by_cases gone : ((d (.order id)).all fun ord => ord.status = .cancelled) = true
    · rw [if_pos gone, if_pos gone]
      rfl
    · rw [if_neg gone, if_neg gone]
      by_cases within : isWithinPaymentWindow info = true
      · rw [if_pos within, if_pos within]
        rfl
      · rw [if_neg within, if_neg within]

theorem expiryInfo_some {info : ExpiryInfo} {status : PaymentStatus} (found : expiryInfo id now d = some (info, status)) :
    ∃ payment, d (.payment id) = some payment ∧ payment.method = .vnpay ∧ payment.status ≠ .completed ∧ payment.status ≠ .refunded := by
  unfold expiryInfo at found
  obtain ⟨payment, paid, found⟩ := Option.bind_eq_some_iff.mp found
  obtain ⟨order, _, found⟩ := Option.bind_eq_some_iff.mp found
  split at found
  · cases found
  · rename_i open_
    obtain ⟨method, completed, refunded⟩ := by simpa only [not_or, not_not] using open_
    exact ⟨payment, paid, method, completed, refunded⟩

theorem expiryInfo_of {payment : Payment} {order : Order} (now : Time) (paid : d (.payment id) = some payment)
    (placed : d (.order id) = some order)
    (method : payment.method = .vnpay) (completed : payment.status ≠ .completed) (refunded : payment.status ≠ .refunded) :
    ∃ attempt, expiryInfo id now d = some (⟨(now : Int) - order.createdAt, attempt⟩, payment.status) := by
  unfold expiryInfo
  rw [paid, placed]
  simp only [Option.bind_eq_bind, Option.bind_some, method, completed, refunded, ne_eq, not_true_eq_false, or_self, if_false]
  exact ⟨_, rfl⟩

/-- An expiry takes exactly the overdue orders among those past the hard window. -/
theorem overdue_iff (stock : StockHeld d) : Overdue d now id ↔ PastHardWindow d now id ∧ WouldExpire d now id := by
  constructor
  · rintro ⟨⟨payment, paid, method, completed, refunded⟩, order, placed, standing, past⟩
    obtain ⟨attempt, info⟩ := expiryInfo_of now paid placed method completed refunded
    refine ⟨⟨order, placed, past⟩, ?_⟩
    have ready : Ready id d := ⟨by rw [placed]; exact Option.some_ne_none order, stock⟩
    obtain ⟨expired, after, marks, ran, rfl⟩ := finishes_expirePending id now d [.unpaidLoaded id payment.status] ready
    have late : isWithinPaymentWindow ⟨(now : Int) - order.createdAt, attempt⟩ = false := by
      simp [isWithinPaymentWindow, past]
    refine ⟨after, marks, ?_⟩
    rw [expire_run, info]
    simpa [placed, standing, late] using ran
  · rintro ⟨⟨order, placed, past⟩, after, marks, ran⟩
    rw [expire_run] at ran
    cases found : expiryInfo id now d with
    | none =>
      rw [found] at ran
      cases ran
    | some pair =>
      obtain ⟨info, status⟩ := pair
      refine ⟨expiryInfo_some found, order, placed, fun cancelled => ?_, past⟩
      rw [found] at ran
      dsimp only at ran
      rw [if_pos (by simp [placed, cancelled])] at ran
      cases ran

theorem selects_all {hardWindowMs : Int} {limit : ℕ} {ids : List Id} (found : FindExpiredVnpayOrderIds hardWindowMs limit d now ids)
    (room : ∀ all : List Id, all.Nodup → (∀ id ∈ all, Selectable hardWindowMs d now id) → all.length ≤ limit)
    (row : Selectable hardWindowMs d now id) : id ∈ ids := by
  by_contra missed
  have full : ¬ ids.length < limit := fun short => missed (found.whole short id row)
  have more := room (id :: ids) (List.nodup_cons.mpr ⟨missed, found.distinct⟩)
    (List.forall_mem_cons.mpr ⟨row, found.selectable⟩)
  rw [List.length_cons] at more
  omega

/-- More rows than the limit has room for, and any one of them may be left out. -/
theorem selects_others {hardWindowMs : Int} {limit : ℕ} {all : List Id} (distinct : all.Nodup)
    (rows : ∀ id ∈ all, Selectable hardWindowMs d now id) (beyond : limit < all.length) (id : Id) :
    ∃ ids, FindExpiredVnpayOrderIds hardWindowMs limit d now ids ∧ id ∉ ids := by
  have others : limit ≤ (all.erase id).length := by
    have le := List.le_length_erase (a := id) (l := all)
    omega
  have length : ((all.erase id).take limit).length = limit := by
    rw [List.length_take, Nat.min_eq_left others]
  refine ⟨(all.erase id).take limit, ⟨(distinct.erase id).take, fun other member => ?_, Nat.le_of_eq length, fun short => ?_⟩, fun member => ?_⟩
  · exact rows other (List.mem_of_mem_erase (List.mem_of_mem_take member))
  · exact absurd length (Nat.ne_of_lt short)
  · exact distinct.not_mem_erase (List.mem_of_mem_take member)

theorem selects_some (hardWindowMs : Int) (limit : ℕ) (d : Db) (now : Time) :
    ∃ ids, FindExpiredVnpayOrderIds hardWindowMs limit d now ids := by
  let Rows := fun n : ℕ => ∃ ids : List Id, ids.Nodup ∧ (∀ id ∈ ids, Selectable hardWindowMs d now id) ∧ ids.length = n
  classical
  have none_ : Rows 0 := ⟨[], List.nodup_nil, List.forall_mem_nil _, rfl⟩
  obtain ⟨ids, distinct, rows, length⟩ := Nat.findGreatest_spec (P := Rows) (Nat.zero_le limit) none_
  refine ⟨ids, distinct, rows, length ▸ Nat.findGreatest_le limit, fun short id row => ?_⟩
  by_contra missed
  have longer : Rows (ids.length + 1) :=
    ⟨id :: ids, List.nodup_cons.mpr ⟨missed, distinct⟩, List.forall_mem_cons.mpr ⟨row, rows⟩, rfl⟩
  have le := Nat.le_findGreatest short longer
  omega

/-- The rows that the query is after fit its limit, and every overdue order is one of them: its payment and the order itself are
pending, and it is not just turning thirty minutes old. -/
structure Covered (d : Db) (now : Time) (limit : ℕ) : Prop where
  pending : ∀ id, Overdue d now id →
    (∃ payment, d (.payment id) = some payment ∧ payment.status = .pending) ∧
    ∃ order, d (.order id) = some order ∧ order.status = .pending ∧ (now : Int) - order.createdAt ≠ VNPAY_HARD_WINDOW_MS
  limited : ∀ all : List Id, all.Nodup → (∀ id ∈ all, Selectable VNPAY_HARD_WINDOW_MS d now id) → all.length ≤ limit

theorem Selectable.overdue (row : Selectable VNPAY_HARD_WINDOW_MS d now id) : Overdue d now id := by
  obtain ⟨⟨payment, paid, method, pending⟩, order, placed, open_, early⟩ := row
  refine ⟨⟨payment, paid, method, by simp [pending], by simp [pending]⟩, order, placed, by simp [open_], ?_⟩
  unfold VNPAY_HARD_WINDOW_MS at early ⊢
  omega

theorem Overdue.selectable (overdue : Overdue d now id)
    (paid : ∃ payment, d (.payment id) = some payment ∧ payment.status = .pending)
    (placed : ∃ order, d (.order id) = some order ∧ order.status = .pending ∧ (now : Int) - order.createdAt ≠ VNPAY_HARD_WINDOW_MS) :
    Selectable VNPAY_HARD_WINDOW_MS d now id := by
  obtain ⟨⟨payment, found, method, _⟩, order, stands, _, past⟩ := overdue
  obtain ⟨payment', found', pending⟩ := paid
  obtain ⟨order', stands', open_, other⟩ := placed
  cases found.symm.trans found'
  cases stands.symm.trans stands'
  refine ⟨⟨payment, found, method, pending⟩, order, stands, open_, ?_⟩
  unfold VNPAY_HARD_WINDOW_MS at past other ⊢
  omega

/-- The sweep recovers every order exactly if it covers the overdue ones. -/
theorem sweep_recovers_iff (stock : StockHeld d) (limit : ℕ) : Recovers d now limit ↔ Covered d now limit := by
  constructor
  · intro recovers
    have selected : ∀ ids, FindExpiredVnpayOrderIds VNPAY_HARD_WINDOW_MS limit d now ids → ∀ id, Overdue d now id → id ∈ ids := by
      intro ids found id overdue
      obtain ⟨past, expires⟩ := (overdue_iff stock).mp overdue
      exact recovers ids found id past expires
    have limited : ∀ all : List Id, all.Nodup → (∀ id ∈ all, Selectable VNPAY_HARD_WINDOW_MS d now id) → all.length ≤ limit := by
      intro all distinct rows
      by_contra beyond
      have more : limit < all.length := Nat.lt_of_not_le beyond
      obtain ⟨id, member⟩ := List.exists_mem_of_length_pos (Nat.zero_lt_of_lt more)
      obtain ⟨ids, found, missed⟩ := selects_others distinct rows more id
      exact missed (selected ids found id (rows id member).overdue)
    refine ⟨fun id overdue => ?_, limited⟩
    obtain ⟨ids, found⟩ := selects_some VNPAY_HARD_WINDOW_MS limit d now
    obtain ⟨⟨payment, paid, _, pending⟩, order, placed, open_, early⟩ := found.selectable id (selected ids found id overdue)
    refine ⟨⟨payment, paid, pending⟩, order, placed, open_, ?_⟩
    unfold VNPAY_HARD_WINDOW_MS at early ⊢
    omega
  · rintro ⟨pending, limited⟩ ids found id past expires
    have overdue := (overdue_iff stock).mpr ⟨past, expires⟩
    obtain ⟨paid, placed⟩ := pending id overdue
    exact selects_all found limited (overdue.selectable paid placed)

/-- A pending order placed at time zero, its payment in the given state. -/
def held (status : PaymentStatus) : Db := Function.update
  (Function.update (fun _ => none) (.order 0)
    (some (⟨some 7, none, 100, none, none, ⟨none, none, none, none, none⟩, .pending, none, "#ORD-19700101-AAAAAA", 0⟩ : Order)))
  (.payment 0) (some (⟨.vnpay, status, 100, none, none, none, none, none⟩ : Payment))

theorem held_stock (status : PaymentStatus) : StockHeld (held status) := by
  constructor
  · intro p row found
    simp [held] at found
  · intro x row found
    simp [held] at found

theorem held_payment {status : PaymentStatus} {payment : Payment} (found : held status (.payment id) = some payment) :
    id = 0 ∧ payment.status = status := by
  by_cases own : id = 0
  · subst own
    rw [held, Function.update_self] at found
    cases found
    exact ⟨rfl, rfl⟩
  · rw [held, Function.update_of_ne (by simpa using own), Function.update_of_ne (by simp)] at found
    cases found

theorem held_recovered : Recovers (held .pending) 1860000 20 := by
  refine (sweep_recovers_iff (held_stock .pending) 20).mpr ⟨fun id overdue => ?_, fun all distinct rows => ?_⟩
  · obtain ⟨⟨payment, paid, _⟩, order, placed, _⟩ := overdue
    obtain ⟨rfl, pending⟩ := held_payment paid
    refine ⟨⟨payment, paid, pending⟩, _, rfl, rfl, by decide⟩
  · have one : all ⊆ [0] := fun id member => by
      obtain ⟨payment, paid, _⟩ := (rows id member).payment
      simp [(held_payment paid).1]
    have le := (List.subperm_of_subset distinct one).length_le
    exact Nat.le_trans le (by decide)

/-- A failed attempt takes the order out of the sweep's sight, though not out of its stock. -/
theorem not_held_recovered : ¬ Recovers (held .failed) 1860000 20 := by
  intro recovers
  have overdue : Overdue (held .failed) 1860000 0 :=
    ⟨⟨_, rfl, rfl, by decide, by decide⟩, _, rfl, by decide, by decide⟩
  obtain ⟨past, expires⟩ := (overdue_iff (held_stock .failed)).mp overdue
  have nothing : FindExpiredVnpayOrderIds VNPAY_HARD_WINDOW_MS 20 (held .failed) 1860000 [] := by
    refine ⟨List.nodup_nil, List.forall_mem_nil _, Nat.zero_le 20, fun _ id row => ?_⟩
    obtain ⟨payment, paid, _, pending⟩ := row.payment
    cases (held_payment paid).2.symm.trans pending
  cases recovers [] nothing 0 past expires

end Marketplace.ExpirySweep
