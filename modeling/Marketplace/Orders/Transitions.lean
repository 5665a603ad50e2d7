import Marketplace.Orders.Journal
import Marketplace.Orders.Placement
import Marketplace.ReadCommitted.Serial

/-! What each transaction of the orders does when nothing else commits beside it. -/
namespace Marketplace
open ReadCommitted ReadCommitted.Tx

/-- The sub-orders of an order that are not cancelled. -/
def activeSubOrders (d : Db) (o : Id) : List (Id × SubOrder) :=
  (subOrdersOf d o).filter fun s => s.2.status ≠ .cancelled

def totalOf (subs : List (Id × SubOrder)) : Money := (subs.map (·.2.totalAmount)).sum

def subtotalOf (subs : List (Id × SubOrder)) : Money := (subs.map (·.2.subTotal)).sum

/-- The columns of a coupon a discount depends on. -/
def Coupon.terms (c : Coupon) : Option DiscountType × Option Money × Option Money × Option Money :=
  (c.discountType, c.discountValue, c.minOrderValue, c.maxDiscountValue)

def Mark.placement (o : Id) : Mark → Option (Option (Id × Coupon))
  | .orderPlaced order coupon => if order = o then some coupon else none
  | _ => none

/-- The global coupon of an order as it was when the order was placed. -/
def placedCoupon (journal : List Mark) (o : Id) : Option (Option (Id × Coupon)) :=
  journal.findSome? (Mark.placement o)

/-- The order whose total a committed cancellation or transition recomputes, and the sub-orders it
cancels. -/
def Mark.recomputes : Mark → Option (Id × (Id × SubOrder → Bool))
  | .outbox (.orderCancelled o _ sub _ _ _) => some (o, fun s => s.1 = sub)
  | .outbox (.orderStatusUpdated o _ sub _ _ new) => some (o, fun s => new = .cancelled ∧ s.1 = sub)
  | .expired o => some (o, fun s => s.2.status = .pending)
  | _ => none

def staying (d : Db) (o : Id) (leaves : Id × SubOrder → Bool) : List (Id × SubOrder) :=
  (activeSubOrders d o).filter fun s => !leaves s

/-- The rows an order's price stands in. -/
def BillKey : Key → Prop
  | .order _ => True
  | .subOrder _ => True
  | .subOrdersOf _ => True
  | .payment _ => True
  | _ => False

/-- The rows of the orders, their items, payments and returns. -/
def LedgerKey : Key → Prop
  | .order _ => True
  | .subOrder _ => True
  | .subOrdersOf _ => True
  | .orderItem _ => True
  | .itemsOf _ => True
  | .payment _ => True
  | .returnRequest _ => True
  | .returnsOf _ => True
  | .returnItem _ => True
  | .returnItemsOf _ => True
  | .returnItemsFor _ => True
  | _ => False

theorem BillKey.ledger {k : Key} (bill : BillKey k) : LedgerKey k := by
  cases k <;> first | exact bill.elim | trivial

theorem LedgerKey.apart {k : Key} (ledger : LedgerKey k) : ¬ (CouponKey k ∨ WalletKey k ∨ StockKey k) := by
  cases k <;> first | exact ledger.elim | exact fun other => other.elim id fun rest => rest.elim id id

def Mark.Unplaced (e : Mark) : Prop := ∀ o, e.placement o = none

def NoOrders (d : Db) : Prop := ∀ o, d (.order o) = none ∧ listed (d (.subOrdersOf o)) = []

/-- Every sub-order filed under an order names it. -/
structure Ordered (d : Db) : Prop where
  listed : ∀ o, ∀ x ∈ listed (d (.subOrdersOf o)), ∃ row, d (.subOrder x) = some row ∧ row.order = o
  fresh : ∀ o, d (.order o) = none → Marketplace.listed (d (.subOrdersOf o)) = []

theorem placedCoupon_append {journal marks : List Mark} {o : Id} (silent : ∀ e ∈ marks, e.placement o = none) :
    placedCoupon (journal ++ marks) o = placedCoupon journal o := by
  rw [placedCoupon, List.findSome?_append, List.findSome?_eq_none_iff.mpr silent, Option.or_none, placedCoupon]

theorem placedCoupon_unplaced {journal marks : List Mark} (silent : ∀ e ∈ marks, e.Unplaced) (o : Id) :
    placedCoupon (journal ++ marks) o = placedCoupon journal o :=
  placedCoupon_append fun e member => silent e member o

theorem subOrdersOf_congr {d e : Db} {o : Id} (list : e (.subOrdersOf o) = d (.subOrdersOf o))
    (rows : ∀ x ∈ listed (d (.subOrdersOf o)), e (.subOrder x) = d (.subOrder x)) :
    subOrdersOf e o = subOrdersOf d o := by
  unfold subOrdersOf
  rw [list]
  exact List.filterMap_congr fun x member => by rw [rows x member]

theorem mem_subOrdersOf {d : Db} {o : Id} {s : Id × SubOrder} (member : s ∈ subOrdersOf d o) :
    s.1 ∈ listed (d (.subOrdersOf o)) ∧ d (.subOrder s.1) = some s.2 := by
  obtain ⟨x, inside, found⟩ := List.mem_filterMap.mp member
  obtain ⟨row, stands, rfl⟩ := Option.map_eq_some_iff.mp found
  exact ⟨inside, stands⟩

theorem mem_active {d : Db} {o : Id} {s : Id × SubOrder} (member : s ∈ activeSubOrders d o) :
    s ∈ subOrdersOf d o ∧ s.2.status ≠ .cancelled := by
  obtain ⟨inside, active⟩ := List.mem_filter.mp member
  exact ⟨inside, by simpa using active⟩

theorem loadSiblings_eq (d : Db) (o : Id) : loadSiblings d o =
    ⟨(subOrdersOf d o).map (·.2.status), subtotalOf (activeSubOrders d o),
      ((activeSubOrders d o).map fun s => activeShopTotal d s.2).sum, !(activeSubOrders d o).isEmpty⟩ := by
  have active : ((subOrdersOf d o).map (·.2)).filter (fun s => s.status ≠ .cancelled) =
      (activeSubOrders d o).map (·.2) := by
    rw [List.filter_map]
    rfl
  simp only [loadSiblings, active, List.map_map, List.isEmpty_map]
  rfl

/-- A step of the sub-orders' state machine. -/
structure SubOrder.Advances (row : SubOrder) (status : OrderStatus) (deliveredAt : Option Time) : Prop where
  allowed : status ∈ SUB_ORDER_STATE_MACHINE row.status
  dated : deliveredAt.isSome ↔ status = .delivered ∨ row.deliveredAt.isSome

theorem SubOrder.Advances.active {row : SubOrder} {status : OrderStatus} {deliveredAt : Option Time}
    (advances : row.Advances status deliveredAt) : row.status ≠ .cancelled := by
  intro cancelled
  have allowed := advances.allowed
  rw [cancelled] at allowed
  cases allowed

/-- A sub-order before and after the steps of a transaction on its order. -/
def Moved (o : Id) (before after : Option SubOrder) : Prop :=
  after = before ∨ ∃ row status deliveredAt, before = some row ∧ row.order = o ∧ row.Advances status deliveredAt ∧
    after = some { row with status, deliveredAt }

/-- So far a transaction has only moved sub-orders of one order, restocked and given coupons back. -/
structure Moving (s : Store (Table Row) Mark) (o : Id) (v : View (Table Row) Mark) : Prop where
  moved : ∀ x, Moved o (s.rows (.subOrder x)) (v.rows (.subOrder x))
  same : ∀ k, LedgerKey k → (∀ x, k ≠ .subOrder x) → v.rows k = s.rows k
  terms : ∀ c, (v.rows (.coupon c)).map Coupon.terms = (s.rows (.coupon c)).map Coupon.terms
  silent : ∀ e ∈ v.log, e.Unplaced

/-- A sub-order of a list as the rows have it now. -/
def shift (d : Db) (p : Id × SubOrder) : Id × SubOrder := (p.1, (d (.subOrder p.1)).getD p.2)

theorem shift_of {d : Db} {x : Id} {row : SubOrder} {p : Id × SubOrder} (own : p.1 = x)
    (stands : d (.subOrder x) = some row) : (shift d p).2 = row := by
  subst own
  simp [shift, stands]

section
variable {s : Store (Table Row) Mark} {o : Id} {v w : View (Table Row) Mark}

theorem Moving.start {m : Nat} : Moving s o (View.start s.rows m) :=
  ⟨fun _ => Or.inl rfl, fun _ _ _ => rfl, fun _ => rfl, fun _ no => nomatch no⟩

/-- Steps beside the orders and the coupons. -/
theorem Moving.along (moving : Moving s o v)
    (more : v.Continues (fun k => ¬ LedgerKey k ∧ ¬ CouponKey k) Mark.Unplaced w) : Moving s o w := by
  obtain ⟨marks, log, silent⟩ := more.log
  have kept : ∀ k, LedgerKey k ∨ CouponKey k → w.rows k = v.rows k := fun k kind =>
    more.rows k fun outside => kind.elim outside.1 outside.2
  refine ⟨fun x => ?_, fun k ledger other => ?_, fun c => ?_, fun e member => ?_⟩
  · rw [kept (.subOrder x) (Or.inl trivial)]
    exact moving.moved x
  · rw [kept k (Or.inl ledger)]
    exact moving.same k ledger other
  · rw [kept (.coupon c) (Or.inr trivial)]
    exact moving.terms c
  · rw [log] at member
    exact (List.mem_append.mp member).elim (moving.silent e) (silent e)

theorem Moving.idle (moving : Moving s o v) (more : v.Continues (fun _ => False) NoMark w) : Moving s o w :=
  moving.along more.idle

theorem Moving.subOrders (moving : Moving s o v) (i : Id) :
    subOrdersOf v.rows i = (subOrdersOf s.rows i).map (shift v.rows) := by
  unfold subOrdersOf
  rw [moving.same (.subOrdersOf i) trivial (fun _ => nofun), List.map_filterMap]
  refine List.filterMap_congr fun x _ => ?_
  rcases moving.moved x with same | ⟨row, status, at_, before, _, _, after⟩
  · rw [same]
    cases found : s.rows (.subOrder x) with
    | none => rfl
    | some row => simp [shift, same, found]
  · simp [shift, before, after]

/-- A filed sub-order is as it was, or made one step. -/
theorem Moving.advanced (moving : Moving s o v) {i : Id} {p : Id × SubOrder} (member : p ∈ subOrdersOf s.rows i) :
    (shift v.rows p).2 = p.2 ∨
      ∃ status deliveredAt, p.2.Advances status deliveredAt ∧ (shift v.rows p).2 = { p.2 with status, deliveredAt } := by
  have stands := (mem_subOrdersOf member).2
  rcases moving.moved p.1 with same | ⟨row, status, deliveredAt, before, _, advances, after⟩
  · left
    simp [shift, same, stands]
  · right
    obtain rfl := Option.some.inj (before.symm.trans stands)
    exact ⟨status, deliveredAt, advances, by simp [shift, after]⟩

theorem Moving.kept (moving : Moving s o v) {i : Id} {p : Id × SubOrder} (member : p ∈ subOrdersOf s.rows i) :
    ∃ status deliveredAt, (shift v.rows p).2 = { p.2 with status, deliveredAt } ∧
      (p.2.status = .cancelled → status = .cancelled) := by
  rcases moving.advanced member with same | ⟨status, deliveredAt, advances, same⟩
  · exact ⟨p.2.status, p.2.deliveredAt, same, id⟩
  · exact ⟨status, deliveredAt, same, fun cancelled => absurd cancelled advances.active⟩

theorem Moving.subtotal (moving : Moving s o v) {i : Id} {l : List (Id × SubOrder)} (inside : l ⊆ subOrdersOf s.rows i) :
    subtotalOf (l.map (shift v.rows)) = subtotalOf l := by
  simp only [subtotalOf, List.map_map]
  refine congrArg List.sum (List.map_congr_left fun p member => ?_)
  obtain ⟨_, _, same, _⟩ := moving.kept (inside member)
  simp [same]

/-- What is active now was active before. -/
theorem Moving.active (moving : Moving s o v) (i : Id) :
    (activeSubOrders v.rows i).Sublist ((activeSubOrders s.rows i).map (shift v.rows)) := by
  unfold activeSubOrders
  rw [moving.subOrders i, List.filter_map]
  refine List.Sublist.map _ ?_
  have weaker : ∀ p ∈ subOrdersOf s.rows i, (shift v.rows p).2.status ≠ .cancelled → p.2.status ≠ .cancelled := by
    intro p member still before
    obtain ⟨status, _, same, stays⟩ := moving.kept member
    rw [same] at still
    exact still (stays before)
  generalize subOrdersOf s.rows i = l at weaker ⊢
  induction l with
  | nil => exact .slnil
  | cons p rest ih =>
    have later := ih fun q member => weaker q (List.mem_cons_of_mem p member)
    by_cases still : (shift v.rows p).2.status = .cancelled
    · by_cases before : p.2.status = .cancelled
      · simpa [still, before] using later
      · simpa [still, before] using later.cons p
    · simpa [still, weaker p List.mem_cons_self still] using later.cons_cons p

/-- Orders whose sub-orders the transaction does not move. -/
theorem Moving.other (moving : Moving s o v) (ordered : Ordered s.rows) {i : Id} (other : i ≠ o) :
    subOrdersOf v.rows i = subOrdersOf s.rows i := by
  refine subOrdersOf_congr (moving.same (.subOrdersOf i) trivial fun _ => nofun) fun x member => ?_
  obtain ⟨row, stands, owner⟩ := ordered.listed i x member
  rcases moving.moved x with same | ⟨row', _, _, before, owner', _, _⟩
  · exact same
  · obtain rfl := Option.some.inj (before.symm.trans stands)
    exact absurd (owner.symm.trans owner') other

/-- What the transaction has not touched. -/
theorem shift_same {d : Db} {q : Id × SubOrder} (active : q ∈ activeSubOrders s.rows o)
    (same : d (.subOrder q.1) = s.rows (.subOrder q.1)) : (shift d q).2 = q.2 :=
  shift_of rfl (same.trans (mem_subOrdersOf (mem_active active).1).2)

/-- The sub-orders that stay are among those the coupons stand for. -/
theorem Moving.stays {stay : List (Id × SubOrder)} {leaves : Id × SubOrder → Bool} (moving : Moving s o v)
    (same : stay = staying s.rows o leaves)
    (left : ∀ q ∈ activeSubOrders s.rows o, leaves q ↔ (shift v.rows q).2.status = .cancelled) :
    ∀ p ∈ activeSubOrders v.rows o, ∃ q ∈ stay, p = shift v.rows q := by
  intro p member
  obtain ⟨q, active, rfl⟩ := List.mem_map.mp ((moving.active o).subset member)
  refine ⟨q, ?_, rfl⟩
  rw [same]
  refine List.mem_filter.mpr ⟨active, ?_⟩
  have still := (mem_active member).2
  cases leave : leaves q with
  | false => rfl
  | true => exact absurd ((left q active).mp leave) still

/-- A payment after a recompute: billed anew, and collected with the delivery. -/
structure Payment.Charged (status : OrderStatus) (total : Money) (before after : Payment) : Prop where
  amount : after.amount = total
  method : after.method = before.method
  collected : before.method = .cod →
    after.status = if status = .delivered ∧ before.status = .pending then .completed else before.status

/-- What a recompute does to the rows of the orders. -/
structure Recomputed (o : Id) (order : Order) (d e : Db) : Prop where
  written : e (.order o) = some (recomputedOrder order (couponOf d order.globalCoupon) (loadSiblings d o))
  charged : ∀ payment, d (.payment o) = some payment → ∃ after, e (.payment o) = some after ∧
    payment.Charged (deriveMasterStatus (loadSiblings d o).statuses)
      (recomputedTotal (couponOf d order.globalCoupon) (loadSiblings d o)) after
  rest : ∀ k, LedgerKey k → k ≠ .order o → k ≠ .payment o → e k = d k

theorem Recomputed.subOrders {order : Order} {d e : Db} (done : Recomputed o order d e) (i : Id) :
    subOrdersOf e i = subOrdersOf d i :=
  subOrdersOf_congr (done.rest (.subOrdersOf i) trivial nofun nofun) fun x _ => done.rest (.subOrder x) trivial nofun nofun

omit s o v w in
theorem refundMarks_unplaced {loaded : LoadedSubOrder} {e : Mark} (member : e ∈ refundMarks loaded) : e.Unplaced := by
  unfold refundMarks at member
  intro i
  cases found : loaded.shopCoupon with
  | none =>
    obtain rfl : e = _ := by simpa [found] using member
    rfl
  | some pair =>
    rcases (by simpa [found] using member : e = _ ∨ e = _) with rfl | rfl <;> rfl

omit s o v w in
theorem masterMarks_unplaced {o : Id} {coupon : Option (Id × Coupon)} {siblings : Siblings} {e : Mark}
    (member : e ∈ masterMarks o coupon siblings) : e.Unplaced := by
  obtain ⟨_, _, rfl⟩ := masterMarks_released member
  exact fun _ => rfl

theorem Moving.wp_refund {loaded : LoadedSubOrder} {Q : Unit → View (Table Row) Mark → Prop} (moving : Moving s o v)
    (next : ∀ w, Moving s o w → (∀ x, w.rows (.subOrder x) = v.rows (.subOrder x)) → Q () w) :
    (restockAndRefundSubOrder loaded).wp .serial Q (fun _ => True) v := by
  refine wp_restockAndRefundSubOrder (fun _ => trivial) fun w more rows log => ?_
  have stands : ∀ x, w.rows (.subOrder x) = v.rows (.subOrder x) := fun x =>
    more.rows _ (by simp [RefundKey, StockKey, CouponKey, WalletKey])
  refine next w ⟨fun x => ?_, fun k ledger other => ?_, fun c => ?_, fun e member => ?_⟩ stands
  · rw [stands]
    exact moving.moved x
  · rw [more.rows k fun refund => ledger.apart (refund.elim (fun stock => Or.inr (Or.inr stock)) fun rest =>
      rest.imp id Or.inl)]
    exact moving.same k ledger other
  · rw [rows (.coupon c) (fun no => no), refunded_coupon, ← moving.terms c, timesReleased, Option.map_map]
    rfl
  · rw [log] at member
    exact (List.mem_append.mp member).elim (moving.silent e) refundMarks_unplaced

theorem Moving.wp_save {x : Id} {row : SubOrder} {status : OrderStatus} {deliveredAt : Option Time}
    {Q : Unit → View (Table Row) Mark → Prop} (moving : Moving s o v) (stands : s.rows (.subOrder x) = some row)
    (owner : row.order = o) (advances : row.Advances status deliveredAt)
    (next : ∀ w, Moving s o w → v.Continues (· = .subOrder x) NoMark w →
      w.rows (.subOrder x) = some { row with status, deliveredAt } → Q () w) :
    (save (k := Key.subOrder x) subOrderColumns { row with status, deliveredAt } : Action Unit).wp .serial Q
      (fun _ => True) v := by
  obtain ⟨current, now⟩ : ∃ current, v.rows (.subOrder x) = some current := by
    rcases moving.moved x with same | ⟨_, _, _, _, _, _, after⟩
    · exact ⟨row, same.trans stands⟩
    · exact ⟨_, after⟩
  refine wp_save_alone now fun w more stored => next w ⟨fun y => ?_, fun k ledger other => ?_, fun c => ?_, ?_⟩ more stored
  · by_cases same : y = x
    · subst same
      exact Or.inr ⟨row, status, deliveredAt, stands, owner, advances, stored⟩
    · rw [more.rows _ (by simpa using same)]
      exact moving.moved y
  · rw [more.rows k (other x)]
    exact moving.same k ledger other
  · rw [more.rows (.coupon c) nofun]
    exact moving.terms c
  · rw [more.log_same]
    exact moving.silent

theorem wp_savePayment_alone {loaded mem row : Payment} {Q : Unit → View (Table Row) Mark → Prop} {E : Err → Prop}
    (stands : v.rows (.payment o) = some row)
    (next : ∀ w, v.Continues (· = .payment o) Mark.Unplaced w → w.rows (.payment o) = some mem → Q () w) :
    (savePayment o loaded mem).wp .serial Q E v :=
  wp_saveMarked_alone stands (fun e member => by obtain rfl := List.mem_singleton.mp member; exact fun _ => rfl) next

/-- A step that writes the payment only, by `f`. -/
structure Charges (o : Id) (f : Payment → Payment) (v w : View (Table Row) Mark) : Prop where
  more : v.Continues (· = .payment o) Mark.Unplaced w
  paid : w.rows (.payment o) = (v.rows (.payment o)).map f

theorem Charges.trans {f g : Payment → Payment} {u : View (Table Row) Mark} (first : Charges o f u v)
    (second : Charges o g v w) : Charges o (g ∘ f) u w := by
  refine ⟨first.more.trans second.more, ?_⟩
  rw [second.paid, first.paid, Option.map_map]

/-- A step that saves the payment it read. -/
theorem wp_charge {f : Payment → Payment} {t : Payment → Action Unit} {E : Err → Prop}
    (saves : ∀ payment, v.rows (.payment o) = some payment →
      (t payment).wp .serial (fun _ => Charges o f (v.looking v.seen)) E (v.looking v.seen)) :
    (do
      match ← select fun d : Db => d (.payment o) with
      | none => pure ()
      | some payment => t payment : Action Unit).wp .serial (fun _ => Charges o f v) E v := by
  rw [wp_bind, wp_select]
  rintro d m ⟨rfl, rfl⟩
  have looked : v.Continues (· = .payment o) Mark.Unplaced (v.looking v.seen) := .looking (Nat.le_refl _)
  cases found : v.rows (.payment o) with
  | none => exact ⟨looked, by simp [found]⟩
  | some payment =>
    refine wp_mono _ (saves payment found) (fun _ w charged => ?_) fun _ e => e
    exact ⟨looked.trans charged.more, charged.paid⟩

theorem savePayment_alone {loaded mem : Payment} {f : Payment → Payment} {E : Err → Prop}
    (stands : v.rows (.payment o) = some loaded) (same : mem = f loaded) :
    (savePayment o loaded mem).wp .serial (fun _ => Charges o f v) E v := by
  refine wp_savePayment_alone stands fun w more stored => ⟨more, ?_⟩
  rw [stored, stands, same, Option.map_some]

theorem updateAmountForOrder_alone {amount : Money} {E : Err → Prop} :
    (updateAmountForOrder o amount).wp .serial (fun _ => Charges o (fun p => { p with amount }) v) E v :=
  wp_charge fun _ found => savePayment_alone found rfl

def collectedPayment (paidAt : Time) (payment : Payment) : Payment :=
  if payment.method ≠ .cod ∨ payment.status ≠ .pending then payment
  else { payment with status := .completed, paidAt := some paidAt }

theorem markCodCompleted_alone {paidAt : Time} {E : Err → Prop} :
    (markCodCompleted o paidAt).wp .serial (fun _ => Charges o (collectedPayment paidAt) v) E v := by
  refine wp_charge fun payment found => ?_
  rw [wp_ite]
  refine ⟨fun apart => ⟨.refl _, ?_⟩, fun due => savePayment_alone found (if_neg due).symm⟩
  change v.rows (.payment o) = (v.rows (.payment o)).map _
  rw [found, Option.map_some, collectedPayment, if_pos apart]

theorem markVnpayExpired_alone {E : Err → Prop} :
    (markVnpayExpired o).wp .serial (fun _ => Charges o (fun p => { p with status := .failed }) v) E v :=
  wp_charge fun _ found => savePayment_alone found rfl

theorem glimpse_alone {d : Db} (glimpse : Glimpse .serial v d) : d = v.rows := by
  obtain ⟨u, m, more, rfl, _⟩ := glimpse
  exact more.rows_same

theorem collectedPayment_charged (status : OrderStatus) (total : Money) (now : Time) (payment : Payment) :
    payment.Charged status total
      (if status = .delivered then collectedPayment now { payment with amount := total }
        else { payment with amount := total }) := by
  by_cases delivered : status = .delivered
  · simp only [delivered, if_true, collectedPayment]
    split
    · rename_i apart
      refine ⟨rfl, rfl, fun cod => ?_⟩
      have other : payment.status ≠ .pending := apart.resolve_left (fun no => no cod)
      simp [other]
    · rename_i due
      obtain ⟨_, pending⟩ := not_or.mp due
      exact ⟨rfl, rfl, fun _ => by simp [not_not.mp pending]⟩
  · rw [if_neg delivered]
    exact ⟨rfl, rfl, fun _ => by simp [delivered]⟩

/-- The recompute of a transaction that runs alone. -/
theorem wp_recompute_alone {now : Time} {Q : OrderStatus × Money → View (Table Row) Mark → Prop}
    (h : ∀ order a w, v.rows (.order o) = some order → Recomputed o order v.rows w.rows →
      v.Continues (fun k => MasterKey o k ∨ k = .payment o) Mark.Unplaced w → Q a w) :
    (recomputeMasterAfterSubOrderChange o now).wp .serial Q (fun _ => True) v := by
  unfold recomputeMasterAfterSubOrderChange
  rw [wp_bind]
  refine wp_recomputeOrder (fun _ => trivial) fun order d₁ d₂ u stands seen₁ seen₂ first _ rows log => ?_
  obtain rfl := glimpse_alone seen₁
  obtain rfl := glimpse_alone seen₂
  have written := rows (.order o) (fun no => no)
  simp only [recomputed, Function.update_self] at written
  have upto : v.Continues (fun k => MasterKey o k ∨ k = .payment o) Mark.Unplaced u :=
    first.mono (fun _ => Or.inl) fun e member => masterMarks_unplaced member
  have same : u.rows (.payment o) = v.rows (.payment o) := first.rows _ (by simp [MasterKey, CouponKey, WalletKey])
  have last : ∀ f w, Charges o f u w → (∀ payment : Payment, payment.Charged (deriveMasterStatus (loadSiblings v.rows o).statuses)
      (recomputedTotal (couponOf v.rows order.globalCoupon) (loadSiblings v.rows o)) (f payment)) →
      Recomputed o order v.rows w.rows ∧ v.Continues (fun k => MasterKey o k ∨ k = .payment o) Mark.Unplaced w := by
    intro f w charged owed
    have all := upto.trans (charged.more.mono (fun _ => Or.inr) fun _ silent => silent)
    refine ⟨⟨?_, fun payment before => ⟨f payment, ?_, owed payment⟩, fun k ledger other unpaid => ?_⟩, all⟩
    · rw [charged.more.rows (.order o) (by rintro ⟨⟩)]
      exact written
    · rw [charged.paid, same, before, Option.map_some]
    · refine all.rows k ?_
      rintro ((same | coupon | wallet) | same)
      · exact other same
      · exact ledger.apart (Or.inl coupon)
      · exact ledger.apart (Or.inr (Or.inl wallet))
      · exact unpaid same
  dsimp only
  rw [wp_bind]
  refine wp_mono _ updateAmountForOrder_alone (fun _ w charged => ?_) fun _ e => e
  rw [wp_bind, wp_given]
  refine ⟨fun delivered => wp_mono _ markCodCompleted_alone (fun _ w' collected => ?_) fun _ e => e, fun waiting => ?_⟩
  · obtain ⟨done, more⟩ := last _ w' (charged.trans collected) fun payment => by
      have owed := collectedPayment_charged (deriveMasterStatus (loadSiblings v.rows o).statuses)
        (recomputedTotal (couponOf v.rows order.globalCoupon) (loadSiblings v.rows o)) now payment
      rwa [if_pos delivered] at owed
    exact h order _ w' stands done more
  · obtain ⟨done, more⟩ := last _ w charged fun payment => by
      have owed := collectedPayment_charged (deriveMasterStatus (loadSiblings v.rows o).statuses)
        (recomputedTotal (couponOf v.rows order.globalCoupon) (loadSiblings v.rows o)) now payment
      rwa [if_neg waiting] at owed
    exact h order _ w stands done more

/-- The recompute after the moves of a transaction, up to the mark that reports it. -/
theorem Moving.wp_recompute {now : Time} {Q : OrderStatus × Money → View (Table Row) Mark → Prop}
    (moving : Moving s o v)
    (next : ∀ order a w, s.rows (.order o) = some order → Recomputed o order v.rows w.rows →
      (∀ e ∈ w.log, e.Unplaced) → Q a w) :
    (recomputeMasterAfterSubOrderChange o now).wp .serial Q (fun _ => True) v := by
  refine wp_recompute_alone fun order a w stands done more => ?_
  rw [moving.same (.order o) trivial fun _ => nofun] at stands
  obtain ⟨marks, log, silent⟩ := more.log
  refine next order a w stands done fun e member => ?_
  rw [log] at member
  exact (List.mem_append.mp member).elim (moving.silent e) (silent e)

end

/-- What a transaction of the orders did, from the state it met. -/
inductive OrderEffect (s : Store (Table Row) Mark) (w : View (Table Row) Mark) : Prop
  | aside (kept : ∀ k, LedgerKey k → w.rows k = s.rows k) (silent : ∀ e ∈ w.log, e.Unplaced)
  | moved {o : Id} {order : Order} {leaves : Id × SubOrder → Bool} {v : View (Table Row) Mark} {marks : List Mark} {e : Mark}
      (moving : Moving s o v) (stands : s.rows (.order o) = some order) (done : Recomputed o order v.rows w.rows)
      (log : w.log = marks ++ [e]) (silent : ∀ e ∈ marks, e.Unplaced) (about : e.recomputes = some (o, leaves))
      (left : ∀ q ∈ activeSubOrders s.rows o, leaves q ↔ (shift v.rows q).2.status = .cancelled)
  | placed {distance : Distance} {call : CheckoutCall} {address : Address} {items : List CartLine} {quote : Quote}
      (placed : Placed distance call address items quote (View.start s.rows 0) w)

abbrev Effects {α : Type} (body : Action α) : Prop :=
  ∀ s : Store (Table Row) Mark, Ordered s.rows →
    body.wp .serial (fun _ w => OrderEffect s w) (fun _ => True) (View.start s.rows 0)

theorem aside_of_continues {s : Store (Table Row) Mark} {w : View (Table Row) Mark} {m : Nat}
    (more : (View.start s.rows m).Continues (fun k => ¬ LedgerKey k) Mark.Unplaced w) : OrderEffect s w := by
  obtain ⟨marks, log, silent⟩ := more.log
  refine .aside (fun k ledger => more.rows k fun outside => outside ledger) fun e member => ?_
  rw [log] at member
  exact silent e member

theorem effects_of_within {α : Type} {body : Action α} (within : body.Within (fun k => ¬ LedgerKey k) Mark.Unplaced) :
    Effects body :=
  fun _ _ => wp_of_within within (fun _ _ more => aside_of_continues more) fun _ => trivial

theorem cancelSubOrder_effects (userId subOrderId : Id) (now : Time) : Effects (cancelSubOrder userId subOrderId now) := by
  intro s _
  unfold cancelSubOrder
  simp only [wp_bind]
  refine wp_selectForUpdate fun w₁ first _ => ?_
  rw [wp_orFail]
  refine ⟨fun _ _ => ?_, fun _ => trivial⟩
  rw [wp_select]
  rintro d m ⟨rfl, rfl⟩
  rw [wp_orFail]
  refine ⟨fun loaded read => ?_, fun _ => trivial⟩
  obtain ⟨_, stands, _⟩ := loadSubOrder_some read
  rw [wp_orFail]
  refine ⟨fun order _ => ?_, fun _ => trivial⟩
  rw [wp_require]
  refine ⟨fun _ => ?_, fun _ => trivial⟩
  rw [wp_note, wp_require]
  refine ⟨fun pending => ?_, fun _ => trivial⟩
  have read : s.rows (.subOrder subOrderId) = some loaded.row := (first.rows _ fun no => no).symm.trans stands
  have advances : loaded.row.Advances .cancelled loaded.row.deliveredAt := by
    refine ⟨?_, by simp⟩
    rw [pending]
    simp [SUB_ORDER_STATE_MACHINE]
  have looked : Moving s loaded.row.order (w₁.looking w₁.seen) :=
    ((Moving.start (m := 0)).idle first).idle (.looking (Nat.le_refl _))
  refine (looked.along (.mark fun _ => rfl)).wp_refund fun w₂ refunded same₂ => ?_
  refine refunded.wp_save read rfl advances fun w₃ moved more cancelled => ?_
  have others : ∀ x, x ≠ subOrderId → w₃.rows (.subOrder x) = s.rows (.subOrder x) := by
    intro x other
    rw [more.rows (.subOrder x) (by simpa using other), same₂ x]
    exact first.rows (.subOrder x) id
  refine moved.wp_recompute fun order' a w₄ there done silent => ?_
  rw [sellerOfShop, wp_select]
  rintro d m ⟨rfl, rfl⟩
  rw [wp_note, wp_pure]
  refine .moved moved there done rfl silent rfl fun q active => ?_
  rw [decide_eq_true_eq]
  constructor
  · intro own
    rw [shift_of own cancelled]
  · intro gone
    by_contra other
    rw [shift_same active (others q.1 other)] at gone
    exact (mem_active active).2 gone

theorem reportStatus_effects {s : Store (Table Row) Mark} {v : View (Table Row) Mark} {loaded : LoadedSubOrder}
    {order : Order} {newStatus : OrderStatus} {now : Time} {row : SubOrder} (moved : Moving s loaded.row.order v)
    (stands : v.rows (.subOrder loaded.id) = some row) (status : row.status = newStatus)
    (others : ∀ x, x ≠ loaded.id → v.rows (.subOrder x) = s.rows (.subOrder x)) :
    (reportStatus loaded order newStatus now).wp .serial (fun _ w => OrderEffect s w) (fun _ => True) v := by
  unfold reportStatus
  simp only [wp_bind]
  refine moved.wp_recompute fun order' a w there done silent => ?_
  rw [wp_orFail]
  refine ⟨fun customer _ => ?_, fun _ => trivial⟩
  rw [wp_note, wp_pure]
  refine .moved moved there done rfl silent rfl fun q active => ?_
  rw [decide_eq_true_eq]
  constructor
  · rintro ⟨cancels, own⟩
    rw [shift_of own stands, status, cancels]
  · intro gone
    by_cases own : q.1 = loaded.id
    · rw [shift_of own stands, status] at gone
      exact ⟨gone, own⟩
    · rw [shift_same active (others q.1 own)] at gone
      exact absurd gone (mem_active active).2

theorem updateSubOrderStatus_effects (sellerId subOrderId : Id) (newStatus : OrderStatus) (now : Time) :
    Effects (updateSubOrderStatus sellerId subOrderId newStatus now) := by
  intro s _
  unfold updateSubOrderStatus
  simp only [wp_bind]
  refine wp_selectForUpdate fun w₁ first _ => ?_
  rw [wp_orFail]
  refine ⟨fun _ _ => ?_, fun _ => trivial⟩
  rw [wp_select]
  rintro d m ⟨rfl, rfl⟩
  rw [wp_orFail]
  refine ⟨fun pair found => ?_, fun _ => trivial⟩
  obtain ⟨loaded, read, rfl⟩ := Option.map_eq_some_iff.mp found
  obtain ⟨same, stands, _⟩ := loadSubOrder_some read
  rw [wp_orFail]
  refine ⟨fun order _ => ?_, fun _ => trivial⟩
  rw [wp_require]
  refine ⟨fun _ => ?_, fun _ => trivial⟩
  rw [wp_require]
  refine ⟨fun _ => ?_, fun _ => trivial⟩
  rw [wp_note]
  have noted : (View.start s.rows 0).Continues (fun _ => False) Mark.Unplaced
      ((w₁.looking w₁.seen).mark (.subOrderLoaded subOrderId loaded.row.status)) :=
    (first.idle.trans (.looking (Nat.le_refl _))).trans (.mark fun _ => rfl)
  rw [wp_ite]
  refine ⟨fun _ => ?_, fun _ => ?_⟩
  · rw [wp_bind, wp_select]
    rintro d m ⟨rfl, rfl⟩
    rw [wp_pure]
    exact aside_of_continues ((noted.trans (.looking (Nat.le_refl _))).mono (fun _ no => no.elim) fun _ silent => silent)
  simp only [wp_bind]
  rw [wp_require]
  refine ⟨fun allowed => ?_, fun _ => trivial⟩
  have read : s.rows (.subOrder subOrderId) = some loaded.row := (first.rows _ fun no => no).symm.trans stands
  have advances : loaded.row.Advances newStatus (if newStatus = .delivered then some now else loaded.row.deliveredAt) := by
    refine ⟨allowed, ?_⟩
    by_cases delivered : newStatus = .delivered <;> simp [delivered]
  have begun : Moving s loaded.row.order ((w₁.looking w₁.seen).mark (.subOrderLoaded subOrderId loaded.row.status)) :=
    (Moving.start (m := 0)).along (noted.mono (fun _ no => no.elim) fun _ silent => silent)
  have save : ∀ w, Moving s loaded.row.order w → (∀ x, w.rows (.subOrder x) = s.rows (.subOrder x)) →
      (Tx.save (k := Key.subOrder subOrderId) subOrderColumns
      { loaded.row with
        status := newStatus
        deliveredAt := if newStatus = .delivered then some now else loaded.row.deliveredAt } : Action Unit).wp .serial
      (fun _ w => (reportStatus loaded order newStatus now).wp .serial (fun _ w => OrderEffect s w) (fun _ => True) w)
      (fun _ => True) w := by
    intro w moving unmoved
    refine moving.wp_save read rfl advances fun w' moved more stored => ?_
    refine reportStatus_effects moved (same ▸ stored) rfl fun x other => ?_
    rw [more.rows (.subOrder x) (by simpa [same] using other)]
    exact unmoved x
  have untouched : ∀ x, ((w₁.looking w₁.seen).mark (.subOrderLoaded subOrderId loaded.row.status)).rows (.subOrder x) =
      s.rows (.subOrder x) := fun x => noted.rows (.subOrder x) id
  rw [wp_given]
  refine ⟨fun _ => begun.wp_refund fun w refunded still => ?_, fun _ => save _ begun untouched⟩
  exact save w refunded fun x => (still x).trans (untouched x)

/-- An expiry that has cancelled its pending sub-orders but for those to come. -/
structure Clearing (s : Store (Table Row) Mark) (o : Id) (rest : List LoadedSubOrder) (v : View (Table Row) Mark) :
    Prop where
  moving : Moving s o v
  inside : rest ⊆ pendingSubOrders s.rows o
  done : ∀ loaded ∈ pendingSubOrders s.rows o, loaded ∈ rest ∨
    ∃ row, v.rows (.subOrder loaded.id) = some row ∧ row.status = .cancelled
  others : ∀ x row, s.rows (.subOrder x) = some row → row.status ≠ .pending → v.rows (.subOrder x) = some row

section
variable {s : Store (Table Row) Mark} {o : Id} {v w : View (Table Row) Mark}

theorem pendingSubOrders_row (ordered : Ordered s.rows) {loaded : LoadedSubOrder}
    (member : loaded ∈ pendingSubOrders s.rows o) : s.rows (.subOrder loaded.id) = some loaded.row ∧
      loaded.row.order = o ∧ loaded.row.status = .pending := by
  obtain ⟨read, pending⟩ := pendingSubOrders_mem member
  obtain ⟨x, inside, found⟩ := List.mem_filterMap.mp member
  obtain ⟨same, stands, _⟩ := loadSubOrder_some (Option.filter_eq_some_iff.mp found).1
  obtain ⟨row, listed, owner⟩ := ordered.listed o x inside
  obtain rfl := Option.some.inj (listed.symm.trans stands)
  exact ⟨same ▸ stands, owner, pending⟩

theorem wp_clear {loaded : LoadedSubOrder} {rest : List LoadedSubOrder} (ordered : Ordered s.rows)
    (clearing : Clearing s o (loaded :: rest) v) :
    (expireSubOrder loaded).wp .serial (fun _ => Clearing s o rest) (fun _ => True) v := by
  obtain ⟨stands, owner, pending⟩ := pendingSubOrders_row ordered (clearing.inside List.mem_cons_self)
  have advances : loaded.row.Advances .cancelled loaded.row.deliveredAt := by
    refine ⟨?_, by simp⟩
    rw [pending]
    simp [SUB_ORDER_STATE_MACHINE]
  unfold expireSubOrder
  rw [wp_bind]
  refine clearing.moving.wp_refund fun w₁ refunded same => ?_
  refine refunded.wp_save stands owner advances fun w₂ moved more stored => ?_
  refine ⟨moved, fun _ later => clearing.inside (List.mem_cons_of_mem loaded later), fun other member => ?_,
    fun x row there started => ?_⟩
  · by_cases own : other.id = loaded.id
    · exact Or.inr ⟨_, own ▸ stored, rfl⟩
    · rcases clearing.done other member with waiting | ⟨row, gone, cancelled⟩
      · rcases List.mem_cons.mp waiting with rfl | later
        · exact absurd rfl own
        · exact Or.inl later
      · refine Or.inr ⟨row, ?_, cancelled⟩
        rw [more.rows _ (by simpa using own), same]
        exact gone
  · have other : x ≠ loaded.id := by
      rintro rfl
      obtain rfl := Option.some.inj (there.symm.trans stands)
      exact started pending
    rw [more.rows (.subOrder x) (by simpa using other), same]
    exact clearing.others x row there started

/-- The expiry of an unpaid VNPay order cancels its pending sub-orders. -/
theorem expirePending_effects {orderId : Id} {now : Time} (ordered : Ordered s.rows)
    (unpaid : ∀ payment, s.rows (.payment orderId) = some payment → payment.method = .vnpay)
    (more : (View.start s.rows 0).Continues (fun _ => False) Mark.Unplaced v) :
    (expirePending orderId now).wp .serial (fun _ w => OrderEffect s w) (fun _ => True) v := by
  unfold expirePending
  simp only [wp_bind]
  rw [wp_select]
  rintro d m ⟨rfl, rfl⟩
  rw [more.rows_same, View.start_rows]
  refine wp_of_within (K := fun _ => False) (L := Mark.Unplaced) ?_ (fun _ w₁ noted => ?_) fun _ => trivial
  · exact within_forM _ fun loaded _ => (within_note _).mpr fun _ => rfl
  have upto := (more.trans (.looking (Nat.le_refl _))).trans noted
  have begun : Clearing s orderId (pendingSubOrders s.rows orderId) w₁ := by
    refine ⟨(Moving.start (m := 0)).along (upto.mono (fun _ no => no.elim) fun _ silent => silent),
      List.Subset.refl _, fun _ member => Or.inl member, fun x row there _ => ?_⟩
    exact (upto.rows (.subOrder x) id).trans there
  refine wp_mono _ (wp_forM (Clearing s orderId) expireSubOrder (fun loaded rest w clearing => wp_clear ordered clearing)
    _ begun) (fun _ w₂ cleared => ?_) fun _ e => e
  refine cleared.moving.wp_recompute fun order a w₃ stands done silent => ?_
  refine wp_mono _ markVnpayExpired_alone (fun _ w₄ failed => ?_) fun _ e => e
  rw [wp_note, wp_pure]
  have still : Recomputed orderId order w₂.rows w₄.rows := by
    refine ⟨?_, fun payment before => ?_, fun k ledger other paid => ?_⟩
    · rw [failed.more.rows (.order orderId) (by rintro ⟨⟩)]
      exact done.written
    · obtain ⟨after, now, charged⟩ := done.charged payment before
      refine ⟨{ after with status := .failed }, ?_, charged.amount, charged.method, fun cod => ?_⟩
      · rw [failed.paid, now, Option.map_some]
      · rw [cleared.moving.same (.payment orderId) trivial fun _ => by rintro ⟨⟩] at before
        cases cod.symm.trans (unpaid payment before)
    · rw [failed.more.rows k paid]
      exact done.rest k ledger other paid
  have quiet : ∀ e ∈ w₄.log, e.Unplaced := by
    obtain ⟨marks, log, unplaced⟩ := failed.more.log
    intro e member
    rw [log] at member
    exact (List.mem_append.mp member).elim (silent e) (unplaced e)
  refine .moved cleared.moving stands still rfl quiet rfl fun q active => ?_
  obtain ⟨inside, there⟩ := mem_subOrdersOf (mem_active active).1
  rw [decide_eq_true_eq]
  constructor
  · intro pending
    obtain ⟨loaded, read, row⟩ : ∃ loaded, loadSubOrder s.rows q.1 = some loaded ∧ loaded.row = q.2 :=
      ⟨_, by rw [loadSubOrder, there]; rfl, rfl⟩
    have member : loaded ∈ pendingSubOrders s.rows orderId := by
      refine List.mem_filterMap.mpr ⟨q.1, inside, Option.filter_eq_some_iff.mpr ⟨read, ?_⟩⟩
      simpa [row] using pending
    rcases cleared.done loaded member with waiting | ⟨after, gone, cancelled⟩
    · cases waiting
    · rw [shift_of (loadSubOrder_some read).1.symm gone, cancelled]
  · intro gone
    by_contra started
    rw [shift_of rfl (cleared.others q.1 q.2 there started)] at gone
    exact (mem_active active).2 gone

theorem expireUnpaidVnpayOrder_effects (orderId : Id) (now : Time) : Effects (expireUnpaidVnpayOrder orderId now) := by
  intro s ordered
  unfold expireUnpaidVnpayOrder getVnpayExpiryInfo
  simp only [wp_bind]
  rw [wp_select]
  rintro d m ⟨rfl, rfl⟩
  have aside : ∀ w, (View.start s.rows 0).Continues (fun _ => False) Mark.Unplaced w → OrderEffect s w := fun w more =>
    aside_of_continues (more.mono (fun _ no => no.elim) fun _ silent => silent)
  cases found : expiryInfo orderId now (View.start s.rows 0 : View (Table Row) Mark).rows with
  | none => exact aside _ (.looking (Nat.le_refl _))
  | some pair =>
    obtain ⟨info, status⟩ := pair
    have unpaid : ∀ payment, s.rows (.payment orderId) = some payment → payment.method = .vnpay := by
      intro payment there
      rw [View.start_rows] at found
      by_contra other
      simp [expiryInfo, there, other] at found
    dsimp only
    rw [wp_bind, wp_note, wp_pure]
    dsimp only
    rw [wp_bind, wp_select]
    rintro d m ⟨rfl, rfl⟩
    have looked : (View.start s.rows 0).Continues (fun _ => False) Mark.Unplaced
        ((((View.start s.rows 0).looking (View.start s.rows 0 : View (Table Row) Mark).seen).mark (.unpaidLoaded orderId status)).looking _) :=
      .trans (.trans (.looking (Nat.le_refl _)) (.mark fun _ => rfl)) (.looking (Nat.le_refl _))
    rw [wp_ite]
    refine ⟨fun _ => aside _ looked, fun _ => ?_⟩
    rw [wp_ite]
    exact ⟨fun _ => aside _ looked, fun _ => expirePending_effects ordered unpaid looked⟩

end

theorem runCheckoutTransaction_effects (distance : Distance) (call : CheckoutCall) (address : Address) :
    Effects (runCheckoutTransaction distance call address) := by
  intro s _
  refine wp_mono _ (wp_runCheckoutTransaction distance call address) (fun _ w done => ?_) fun _ e => e
  obtain ⟨_, _, quote, _, placed⟩ := done
  exact .placed placed

theorem cancellation_effects (call : Cancellation) : call.request.All fun _ body => Effects body := by
  cases call with
  | byCustomer user sub now => exact .tx (cancelSubOrder_effects user sub now) (fun _ => .done _) fun _ => .done _
  | bySeller seller sub new now =>
    exact .tx (updateSubOrderStatus_effects seller sub new now) (fun _ => .done _) fun _ => .done _
  | byExpiry order now => exact .tx (expireUnpaidVnpayOrder_effects order now) (fun _ => .done _) fun _ => .done _

theorem orderCall_effects (distance : Distance) (call : OrderCall) :
    (call.request distance).All fun _ body => Effects body := by
  cases call with
  | cancellation call => exact cancellation_effects call
  | checkout call =>
    refine checkout_all distance call (fun _ body within => effects_of_within (within_mono ?_ ?_ within))
      (runCheckoutTransaction_effects distance call)
    · rintro k ⟨key, rfl⟩ ledger
      exact ledger
    · intro e kind
      cases e <;> first | exact fun _ => rfl | exact kind.elim
  | updateCoupon id dto seller =>
    refine .tx (effects_of_within (within_mono ?_ ?_ (within_updateCoupon id dto seller))) (fun _ => .done _)
      fun _ => .done _
    · rintro k rfl ledger
      exact ledger
    · intro e kind
      cases e <;> first | exact fun _ => rfl | exact kind.elim
  | deleteCoupon id seller =>
    refine .tx (effects_of_within (within_mono ?_ (fun _ no => no.elim) (within_deleteCoupon id seller)))
      (fun _ => .done _) fun _ => .done _
    rintro k (rfl | ⟨code, rfl⟩) ledger
    · exact ledger
    · exact ledger

section
variable {distance : Distance} {call : CheckoutCall} {address : Address} {items : List CartLine} {quote : Quote}
  {v w : View (Table Row) Mark}

theorem Placed.rest (placed : Placed distance call address items quote v w) {k : Key} (ledger : LedgerKey k)
    (own : k ≠ .order call.orderId) (unpaid : k ≠ .payment call.orderId) (notList : k ≠ .subOrdersOf call.orderId)
    (notSub : ∀ x, k ≠ .subOrder x) (notItem : ¬ ItemKey k) : w.rows k = v.rows k := by
  obtain ⟨u, t, before, stored, _, after⟩ := placed.stored
  rw [after k (by cases k <;> first | exact ledger.elim | exact id) unpaid, stored.frame k notList notSub notItem]
  apply before k fun stock => ledger.apart (Or.inr (Or.inr stock))
  rintro (rfl | rfl | rfl)
  · exact own rfl
  · exact ledger
  · exact ledger

theorem Placed.kept (placed : Placed distance call address items quote v w) {x : Id} {row : SubOrder}
    (stands : v.rows (.subOrder x) = some row) : w.rows (.subOrder x) = some row := by
  obtain ⟨u, t, before, stored, _, after⟩ := placed.stored
  have there : u.rows (.subOrder x) = some row := (before (.subOrder x) id (by simp [OrderKey])).trans stands
  rw [after (.subOrder x) id (by rintro ⟨⟩), stored.kept (.subOrder x) (fun _ => by rintro ⟨⟩) (by rintro ⟨⟩) (by rw [there]; rintro ⟨⟩), there]

theorem Placed.subOrders (placed : Placed distance call address items quote v w)
    (fresh : listed (v.rows (.subOrdersOf call.orderId)) = []) :
    subOrdersOf w.rows call.orderId =
      quote.plans.zipIdx.map fun plan => (call.subOrderId plan.2, newSubOrder call.orderId plan.1) := by
  obtain ⟨u, t, before, stored, _, after⟩ := placed.stored
  have same : subOrdersOf w.rows call.orderId = subOrdersOf t.rows call.orderId :=
    subOrdersOf_congr (after (.subOrdersOf call.orderId) id nofun) fun x _ => after (.subOrder x) id nofun
  obtain ⟨early, none_, subs⟩ := stored.subOrdersOf
  rw [before (.subOrdersOf call.orderId) id (by simp [OrderKey])] at none_
  rw [same, subs, none_ fresh, List.nil_append]

theorem Placed.filed (placed : Placed distance call address items quote v w)
    (fresh : listed (v.rows (.subOrdersOf call.orderId)) = []) {x : Id}
    (member : x ∈ listed (w.rows (.subOrdersOf call.orderId))) : ∃ plan ∈ quote.plans.zipIdx,
      x = call.subOrderId plan.2 ∧ w.rows (.subOrder x) = some (newSubOrder call.orderId plan.1) := by
  obtain ⟨u, t, before, stored, _, after⟩ := placed.stored
  rw [after (.subOrdersOf call.orderId) id (by rintro ⟨⟩), stored.list,
    before (.subOrdersOf call.orderId) id (by simp [OrderKey]), fresh, List.nil_append] at member
  obtain ⟨plan, inside, rfl⟩ := List.mem_map.mp member
  exact ⟨plan, inside, rfl, (after (.subOrder _) id (by rintro ⟨⟩)).trans (stored.rows plan inside)⟩

theorem Placed.other (placed : Placed distance call address items quote v w) (ordered : Ordered v.rows) {i : Id}
    (other : i ≠ call.orderId) : subOrdersOf w.rows i = subOrdersOf v.rows i := by
  have list : w.rows (.subOrdersOf i) = v.rows (.subOrdersOf i) :=
    placed.rest (k := .subOrdersOf i) trivial nofun nofun (by simpa using other) (fun _ => nofun) id
  refine subOrdersOf_congr list fun x member => ?_
  obtain ⟨row, stands, _⟩ := ordered.listed i x member
  rw [placed.kept stands, stands]

theorem Placed.ordered (placed : Placed distance call address items quote v w) (ordered : Ordered v.rows) :
    Ordered w.rows := by
  have fresh := ordered.fresh _ placed.free
  have list : ∀ i, i ≠ call.orderId → w.rows (.subOrdersOf i) = v.rows (.subOrdersOf i) := fun i other =>
    placed.rest (k := .subOrdersOf i) trivial nofun nofun (by simpa using other) (fun _ => nofun) id
  refine ⟨fun i x member => ?_, fun i missing => ?_⟩
  · by_cases own : i = call.orderId
    · subst own
      obtain ⟨plan, _, _, stands⟩ := placed.filed fresh member
      exact ⟨_, stands, rfl⟩
    · rw [list i own] at member
      obtain ⟨row, stands, owner⟩ := ordered.listed i x member
      exact ⟨row, placed.kept stands, owner⟩
  · have other : i ≠ call.orderId := by
      rintro rfl
      rw [placed.order] at missing
      cases missing
    rw [placed.rest (k := .order i) trivial (by simpa using other) nofun nofun (fun _ => nofun) id] at missing
    rw [list i other]
    exact ordered.fresh i missing

end

section
variable {s : Store (Table Row) Mark} {o : Id} {order : Order} {v w : View (Table Row) Mark}

/-- A recompute after the moves of a transaction leaves the other orders alone. -/
theorem Moving.others (moving : Moving s o v) (done : Recomputed o order v.rows w.rows) (ordered : Ordered s.rows) {i : Id}
    (other : i ≠ o) : subOrdersOf w.rows i = subOrdersOf s.rows i :=
  (done.subOrders i).trans (moving.other ordered other)

theorem Moving.rest (moving : Moving s o v) (done : Recomputed o order v.rows w.rows) {k : Key} (ledger : LedgerKey k)
    (notSub : ∀ x, k ≠ .subOrder x) (own : k ≠ .order o) (unpaid : k ≠ .payment o) : w.rows k = s.rows k :=
  (done.rest k ledger own unpaid).trans (moving.same k ledger notSub)

theorem Moving.ordered (moving : Moving s o v) (done : Recomputed o order v.rows w.rows) (ordered : Ordered s.rows) :
    Ordered w.rows := by
  refine ⟨fun i x member => ?_, fun i missing => ?_⟩
  · rw [moving.rest done (k := .subOrdersOf i) trivial (fun _ => nofun) nofun nofun] at member
    rw [done.rest (.subOrder x) trivial nofun nofun]
    obtain ⟨row, stands, owner⟩ := ordered.listed i x member
    rcases moving.moved x with same | ⟨row', status, at_, before, _, _, after⟩
    · exact ⟨row, same.trans stands, owner⟩
    · obtain rfl := Option.some.inj (before.symm.trans stands)
      exact ⟨_, after, owner⟩
  · have other : i ≠ o := by
      rintro rfl
      rw [done.written] at missing
      cases missing
    rw [moving.rest done (k := .order i) trivial (fun _ => nofun) (by simpa using other) nofun] at missing
    rw [moving.rest done (k := .subOrdersOf i) trivial (fun _ => nofun) nofun nofun]
    exact ordered.fresh i missing

theorem Ordered.congr {d e : Db} (ordered : Ordered d) (kept : ∀ k, BillKey k → e k = d k) : Ordered e := by
  refine ⟨fun i x member => ?_, fun i missing => ?_⟩
  · rw [kept (.subOrdersOf i) trivial] at member
    rw [kept (.subOrder x) trivial]
    exact ordered.listed i x member
  · rw [kept (.order i) trivial] at missing
    rw [kept (.subOrdersOf i) trivial]
    exact ordered.fresh i missing

theorem NoOrders.ordered {d : Db} (none_ : NoOrders d) : Ordered d := by
  refine ⟨fun i x member => ?_, fun i _ => (none_ i).2⟩
  rw [(none_ i).2] at member
  cases member

end

end Marketplace
