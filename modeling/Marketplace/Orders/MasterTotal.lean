import Marketplace.Orders.Transitions

/-! The total of an order against its sub-orders, its payment and the coupon it was placed with. -/
namespace Marketplace
open ReadCommitted ReadCommitted.Tx

/-- The coupon did not apply to the sub-orders that were left at some time: to those active now and
perhaps more. -/
def Dropped (d : Db) (o : Id) (coupon : Coupon) : Prop :=
  ∃ left, (activeSubOrders d o).Sublist left ∧ left.Sublist (subOrdersOf d o) ∧
    (left = [] ∨ ∃ least ∈ coupon.minOrderValue, subtotalOf left < least)

/-- A discount that the coupon of the placement gives on the active sub-orders, or none for a coupon
that was dropped. -/
def DiscountFrom (d : Db) (o : Id) (placed : Option (Id × Coupon)) : Option Money → Prop
  | some amount => amount = discountOf placed (subtotalOf (activeSubOrders d o)) ∧
      ∀ c ∈ placed, ∀ least ∈ c.2.minOrderValue, least ≤ subtotalOf (activeSubOrders d o)
  | none => ∀ c ∈ placed, Dropped d o c.2

structure Priced (d : Db) (o : Id) (order : Order) (placed : Option (Id × Coupon)) (payment : Payment) : Prop where
  total : order.totalAmount = max 0 (totalOf (activeSubOrders d o) - order.globalDiscountAmount.getD 0)
  charged : payment.status ≠ .completed → payment.amount = order.totalAmount
  discount : DiscountFrom d o placed order.globalDiscountAmount

/-- The shop coupons of the sub-orders that stay still give the stored discounts, and the global
coupon still has the terms it was placed with. -/
def CouponsStand (s : Store (Table Row) Mark) (o : Id) (stay : List (Id × SubOrder)) : Prop :=
  (∀ sub ∈ stay, discountOf (couponOf s.rows sub.2.shopCoupon) sub.2.subTotal = sub.2.shopDiscountAmount) ∧
    (stay ≠ [] → ∀ order ∈ s.rows (.order o), order.globalCoupon ≠ none → ∀ placed ∈ placedCoupon s.journal o,
      (couponOf s.rows order.globalCoupon).map (·.2.terms) = placed.map (·.2.terms))

def TermsStand (s : Store (Table Row) Mark) (log : List Mark) : Prop :=
  ∀ e ∈ log, ∀ r ∈ e.recomputes, CouponsStand s r.1 (staying s.rows r.1 r.2)

instance (s : Store (Table Row) Mark) (o : Id) (stay : List (Id × SubOrder)) : Decidable (CouponsStand s o stay) :=
  inferInstanceAs (Decidable (_ ∧ _))

instance (s : Store (Table Row) Mark) (log : List Mark) : Decidable (TermsStand s log) :=
  inferInstanceAs (Decidable (∀ e ∈ log, ∀ r ∈ e.recomputes, CouponsStand s r.1 (staying s.rows r.1 r.2)))

/-- A call, whole or from any of its transactions on, or any other request that writes no price. -/
def MasterRequest (distance : Distance) (r : Request) : Prop :=
  (∃ call : OrderCall, (call.request distance).Rest r) ∨
    r.All fun _ body => body.Within (fun k => ¬ BillKey k) Mark.Unplaced

/-- What the columns of a sub-order add up to. -/
def SubOrder.Summed (s : SubOrder) : Prop := s.totalAmount = s.subTotal - s.shopDiscountAmount + s.shippingFee

structure Billed (d : Db) (journal : List Mark) : Prop where
  listed : ∀ o, ∀ x ∈ listed (d (.subOrdersOf o)), ∃ row, d (.subOrder x) = some row ∧ row.order = o ∧ row.Summed
  fresh : ∀ o, d (.order o) = none → Marketplace.listed (d (.subOrdersOf o)) = [] ∧ placedCoupon journal o = none
  priced : ∀ o order, d (.order o) = some order → ∃ placed payment, placedCoupon journal o = some placed ∧
    d (.payment o) = some payment ∧ Priced d o order placed payment ∧
      (order.globalCoupon = none → ∀ c ∈ placed, Dropped d o c.2)

theorem Billed.ordered {d : Db} {journal : List Mark} (billed : Billed d journal) : Ordered d := by
  refine ⟨fun o x member => ?_, fun o missing => (billed.fresh o missing).1⟩
  obtain ⟨row, stands, owner, _⟩ := billed.listed o x member
  exact ⟨row, stands, owner⟩

theorem computeCouponDiscount_terms {a b : Coupon} (same : a.terms = b.terms) (base : Money) :
    computeCouponDiscount a base = computeCouponDiscount b base := by
  simp only [Coupon.terms, Prod.mk.injEq] at same
  simp only [computeCouponDiscount, same]

theorem discountOf_terms {a b : Option (Id × Coupon)} (same : a.map (·.2.terms) = b.map (·.2.terms)) (base : Money) :
    discountOf a base = discountOf b base := by
  cases a <;> cases b <;> simp only [Option.map_some, Option.map_none, reduceCtorEq, Option.some.injEq] at same
  · rfl
  · exact computeCouponDiscount_terms same base

theorem globalCouponFails_terms {a b : Coupon} (same : a.terms = b.terms) (siblings : Siblings) :
    globalCouponFails a siblings = globalCouponFails b siblings := by
  simp only [Coupon.terms, Prod.mk.injEq] at same
  simp only [globalCouponFails, same]

section
variable {s : Store (Table Row) Mark} {o : Id} {v w : View (Table Row) Mark}

theorem Moving.dropped (moving : Moving s o v) {i : Id} {coupon : Coupon} (dropped : Dropped s.rows i coupon) :
    Dropped v.rows i coupon := by
  obtain ⟨left, active, inside, missed⟩ := dropped
  refine ⟨left.map (shift v.rows), (moving.active i).trans (active.map _), ?_, ?_⟩
  · rw [moving.subOrders i]
    exact inside.map _
  · rw [moving.subtotal inside.subset]
    exact missed.imp_left fun empty => by rw [empty, List.map_nil]

theorem Moving.coupon (moving : Moving s o v) (id : Option Id) :
    (couponOf v.rows id).map (·.2.terms) = (couponOf s.rows id).map (·.2.terms) := by
  cases id with
  | none => rfl
  | some c =>
    have same := moving.terms c
    simp only [couponOf, Option.bind_some, Option.map_map] at same ⊢
    exact same

theorem Priced.congr {d e : Db} {i : Id} {order : Order} {placed : Option (Id × Coupon)} {payment : Payment}
    (same : subOrdersOf e i = subOrdersOf d i) (priced : Priced d i order placed payment) :
    Priced e i order placed payment := by
  have active : activeSubOrders e i = activeSubOrders d i := by rw [activeSubOrders, same, activeSubOrders]
  obtain ⟨total, charged, discount⟩ := priced
  refine ⟨active ▸ total, charged, ?_⟩
  unfold DiscountFrom Dropped at discount ⊢
  rw [active, same]
  exact discount

theorem Dropped.congr {d e : Db} {i : Id} {coupon : Coupon} (same : subOrdersOf e i = subOrdersOf d i)
    (dropped : Dropped d i coupon) : Dropped e i coupon := by
  have active : activeSubOrders e i = activeSubOrders d i := by rw [activeSubOrders, same, activeSubOrders]
  unfold Dropped at dropped ⊢
  rwa [active, same]

/-- The live totals of the active sub-orders are the stored ones. -/
theorem Moving.sum {stay : List (Id × SubOrder)} (moving : Moving s o v) (billed : Billed s.rows s.journal)
    (stand : CouponsStand s o stay) (inside : stay ⊆ subOrdersOf s.rows o)
    (stays : ∀ p ∈ activeSubOrders v.rows o, ∃ q ∈ stay, p = shift v.rows q) :
    ((activeSubOrders v.rows o).map fun p => activeShopTotal v.rows p.2).sum = totalOf (activeSubOrders v.rows o) := by
  unfold totalOf
  refine congrArg List.sum (List.map_congr_left fun p member => ?_)
  obtain ⟨q, staying, rfl⟩ := stays p member
  obtain ⟨_, _, same, _⟩ := moving.kept (inside staying)
  obtain ⟨listed, stands⟩ := mem_subOrdersOf (inside staying)
  obtain ⟨row, found, _, summed⟩ := billed.listed o q.1 listed
  obtain rfl := Option.some.inj (found.symm.trans stands)
  have discount := stand.1 q staying
  rw [← discountOf_terms (moving.coupon q.2.shopCoupon)] at discount
  simp only [same, activeShopTotal, discount]
  exact summed.symm

/-- A coupon that the recompute does not keep was dropped by its terms of the placement. -/
theorem Moving.not_kept {stay : List (Id × SubOrder)} {order : Order} {placed : Option (Id × Coupon)}
    (moving : Moving s o v) (stand : CouponsStand s o stay) (orderStands : s.rows (.order o) = some order)
    (found : placedCoupon s.journal o = some placed)
    (stays : ∀ p ∈ activeSubOrders v.rows o, ∃ q ∈ stay, p = shift v.rows q)
    (detached : order.globalCoupon = none → ∀ c ∈ placed, Dropped s.rows o c.2)
    (none_ : keptCoupon (couponOf v.rows order.globalCoupon) (loadSiblings v.rows o) = none) :
    ∀ c ∈ placed, Dropped v.rows o c.2 := by
  intro c same
  obtain rfl := Option.mem_def.mp same
  cases active : activeSubOrders v.rows o with
  | nil => exact ⟨[], by rw [active], List.nil_sublist _, Or.inl rfl⟩
  | cons p rest =>
    obtain ⟨q, staying, _⟩ := stays p (by rw [active]; exact List.mem_cons_self)
    by_cases attached : order.globalCoupon = none
    · exact moving.dropped (detached attached c rfl)
    have terms := stand.2 (List.ne_nil_of_mem staying) order orderStands attached _ found
    rw [← moving.coupon] at terms
    cases live : couponOf v.rows order.globalCoupon with
    | none => rw [live] at terms; cases terms
    | some c' =>
      rw [live] at terms none_
      have equal : c'.2.terms = c.2.terms := Option.some.inj terms
      have fails : globalCouponFails c'.2 (loadSiblings v.rows o) = true := by simpa [keptCoupon] using none_
      rw [globalCouponFails_terms equal, loadSiblings_eq, globalCouponFails] at fails
      refine ⟨activeSubOrders v.rows o, .refl _, List.filter_sublist, Or.inr ?_⟩
      simp only [active, List.isEmpty_cons, Bool.not_false, Bool.not_true, Bool.or_false, Option.any_eq_true,
        decide_eq_true_eq] at fails
      rw [active]
      exact fails

theorem Moving.discount {stay : List (Id × SubOrder)} {order : Order} {placed : Option (Id × Coupon)}
    (moving : Moving s o v) (stand : CouponsStand s o stay) (orderStands : s.rows (.order o) = some order)
    (found : placedCoupon s.journal o = some placed)
    (stays : ∀ p ∈ activeSubOrders v.rows o, ∃ q ∈ stay, p = shift v.rows q)
    (detached : order.globalCoupon = none → ∀ c ∈ placed, Dropped s.rows o c.2) :
    DiscountFrom v.rows o placed
      (recomputedOrder order (couponOf v.rows order.globalCoupon) (loadSiblings v.rows o)).globalDiscountAmount := by
  cases kept : keptCoupon (couponOf v.rows order.globalCoupon) (loadSiblings v.rows o) with
  | none =>
    simp only [recomputedOrder, kept, Option.map_none]
    exact moving.not_kept stand orderStands found stays detached kept
  | some c =>
    obtain ⟨live, applies⟩ := Option.filter_eq_some_iff.mp kept
    have attached : order.globalCoupon ≠ none := by
      intro gone
      rw [gone] at live
      cases live
    rw [loadSiblings_eq, globalCouponFails] at applies
    simp only [Bool.not_eq_true', Bool.or_eq_false_iff, Bool.not_eq_false', List.isEmpty_eq_false_iff] at applies
    obtain ⟨reached, some_⟩ := applies
    obtain ⟨p, rest, active⟩ := List.exists_cons_of_ne_nil (by simpa using some_)
    obtain ⟨q, staying, _⟩ := stays p (by rw [active]; exact List.mem_cons_self)
    have terms := stand.2 (List.ne_nil_of_mem staying) order orderStands attached _ found
    rw [← moving.coupon, live] at terms
    have given := discountOf_terms (a := some c) terms (subtotalOf (activeSubOrders v.rows o))
    simp only [recomputedOrder, kept, Option.map_some]
    rw [loadSiblings_eq]
    refine ⟨given, fun c' same least low => ?_⟩
    obtain rfl := Option.mem_def.mp same
    have equal : c.2.terms = c'.2.terms := Option.some.inj terms
    simp only [Coupon.terms, Prod.mk.injEq] at equal
    rw [equal.2.2.1, Option.mem_def.mp low] at reached
    simpa using reached

/-- The recompute prices the order it is about and leaves the others as they were. -/
theorem Billed.recompute {stay : List (Id × SubOrder)} {leaves : Id × SubOrder → Bool} {order : Order}
    (billed : Billed s.rows s.journal) (moving : Moving s o v) (orderStands : s.rows (.order o) = some order)
    (done : Recomputed o order v.rows w.rows) {marks : List Mark} (silent : ∀ e ∈ marks, e.Unplaced) (same : stay = staying s.rows o leaves)
    (left : ∀ q ∈ activeSubOrders s.rows o, leaves q ↔ (shift v.rows q).2.status = .cancelled)
    (stand : CouponsStand s o stay) : Billed w.rows (s.journal ++ marks) := by
  have stays := moving.stays same left
  have inside : stay ⊆ subOrdersOf s.rows o := fun q member =>
    (mem_active (List.mem_filter.mp (same ▸ member)).1).1
  refine ⟨fun i x member => ?_, fun i missing => ?_, fun i row stands => ?_⟩
  · rw [done.rest (.subOrdersOf i) trivial nofun nofun, moving.same (.subOrdersOf i) trivial fun _ => nofun] at member
    rw [done.rest (.subOrder x) trivial nofun nofun]
    obtain ⟨row, stands, owner, summed⟩ := billed.listed i x member
    rcases moving.moved x with kept | ⟨row', status, at_, before, _, _, after⟩
    · exact ⟨row, kept.trans stands, owner, summed⟩
    · obtain rfl := Option.some.inj (before.symm.trans stands)
      exact ⟨_, after, owner, summed⟩
  · have other : i ≠ o := by
      rintro rfl
      rw [done.written] at missing
      cases missing
    rw [done.rest (.order i) trivial (by simpa using other) nofun, moving.same (.order i) trivial fun _ => nofun] at missing
    rw [done.rest (.subOrdersOf i) trivial nofun nofun, moving.same (.subOrdersOf i) trivial fun _ => nofun,
      placedCoupon_unplaced silent]
    exact billed.fresh i missing
  · rw [placedCoupon_unplaced silent]
    by_cases own : i = o
    · subst own
      obtain ⟨placed, payment, found, paid, _, detached⟩ := billed.priced i order orderStands
      rw [← moving.same (.payment i) trivial fun _ => nofun] at paid
      obtain ⟨after, charged, owed⟩ := done.charged payment paid
      rw [done.written] at stands
      obtain rfl := Option.some.inj stands
      have shown := done.subOrders i
      have sum := moving.sum billed stand inside stays
      have discount := moving.discount stand orderStands found stays detached
      refine ⟨placed, after, found, charged, Priced.congr shown ⟨?_, fun _ => owed.amount, discount⟩, fun gone c member => ?_⟩
      · have shopTotals : (loadSiblings v.rows i).sumActiveShopTotals = totalOf (activeSubOrders v.rows i) := by
          rw [loadSiblings_eq]
          exact sum
        simp only [recomputedOrder, recomputedTotal, shopTotals]
        cases keptCoupon (couponOf v.rows order.globalCoupon) _ <;> rfl
      · refine Dropped.congr shown (moving.not_kept stand orderStands found stays detached ?_ c member)
        exact Option.map_eq_none_iff.mp gone
    · have shown : subOrdersOf w.rows i = subOrdersOf s.rows i := moving.others done billed.ordered own
      rw [done.rest (.order i) trivial (by simpa using own) nofun, moving.same (.order i) trivial fun _ => nofun] at stands
      obtain ⟨placed, payment, found, paid, priced, detached⟩ := billed.priced i row stands
      refine ⟨placed, payment, found, ?_, priced.congr shown, fun gone c member => (detached gone c member).congr shown⟩
      rw [done.rest (.payment i) trivial nofun (by simpa using own), moving.same (.payment i) trivial fun _ => nofun]
      exact paid

/-- A commit that reports its recompute, when its coupons stand. -/
theorem Billed.commit {leaves : Id × SubOrder → Bool} {order : Order} {marks : List Mark} {e : Mark}
    (billed : Billed s.rows s.journal) (moving : Moving s o v) (stands : s.rows (.order o) = some order)
    (done : Recomputed o order v.rows w.rows) (silent : ∀ e ∈ marks, e.Unplaced)
    (about : e.recomputes = some (o, leaves))
    (left : ∀ q ∈ activeSubOrders s.rows o, leaves q ↔ (shift v.rows q).2.status = .cancelled)
    (admitted : TermsStand s (marks ++ [e])) : Billed w.rows (s.journal ++ (marks ++ [e])) := by
  refine billed.recompute moving stands done (fun e' member => ?_) rfl left
    (admitted e (List.mem_append_right _ List.mem_cons_self) _ about)
  rcases List.mem_append.mp member with early | last
  · exact silent e' early
  · obtain rfl := List.mem_singleton.mp last
    cases e' <;> first | exact fun _ => rfl | cases about

/-- Steps that leave the prices alone. -/
theorem Billed.aside {marks : List Mark} (billed : Billed s.rows s.journal) (kept : ∀ k, BillKey k → w.rows k = s.rows k)
    (silent : ∀ e ∈ marks, e.Unplaced) : Billed w.rows (s.journal ++ marks) := by
  have shown : ∀ i, subOrdersOf w.rows i = subOrdersOf s.rows i := fun i =>
    subOrdersOf_congr (kept (.subOrdersOf i) trivial) fun x _ => kept (.subOrder x) trivial
  refine ⟨fun i x member => ?_, fun i missing => ?_, fun i order stands => ?_⟩
  · rw [kept (.subOrdersOf i) trivial] at member
    rw [kept (.subOrder x) trivial]
    exact billed.listed i x member
  · rw [kept (.order i) trivial] at missing
    rw [kept (.subOrdersOf i) trivial, placedCoupon_unplaced silent]
    exact billed.fresh i missing
  · rw [kept (.order i) trivial] at stands
    obtain ⟨placed, payment, found, paid, priced, detached⟩ := billed.priced i order stands
    rw [placedCoupon_unplaced silent, kept (.payment i) trivial]
    exact ⟨placed, payment, found, paid, priced.congr (shown i), fun gone c member => (detached gone c member).congr (shown i)⟩

theorem totalOf_plans (plans : List SubOrderPlan) (id : Nat → Id) (o : Id) :
    totalOf (plans.zipIdx.map fun plan => (id plan.2, newSubOrder o plan.1)) = sumShopTotals plans := by
  simp only [totalOf, List.map_map, sumShopTotals]
  rw [← List.zipIdx_map_fst 0 plans, List.map_map, List.zipIdx_map_fst]
  rfl

theorem subtotalOf_plans (plans : List SubOrderPlan) (id : Nat → Id) (o : Id) :
    subtotalOf (plans.zipIdx.map fun plan => (id plan.2, newSubOrder o plan.1)) = totalShopSubtotals plans := by
  simp only [subtotalOf, List.map_map, totalShopSubtotals]
  rw [← List.zipIdx_map_fst 0 plans, List.map_map, List.zipIdx_map_fst]
  rfl

/-- A placed order is priced by its quote, and the others stay as they were. -/
theorem Billed.place {distance : Distance} {call : CheckoutCall} {address : Address} {items : List CartLine} {quote : Quote}
    (billed : Billed s.rows s.journal) (placed : Placed distance call address items quote (View.start s.rows 0) w) :
    Billed w.rows (s.journal ++ w.log) := by
  obtain ⟨fresh, unplaced⟩ := billed.fresh call.orderId placed.free
  obtain ⟨marks, settled, log⟩ := placed.log
  rw [View.start_log, List.nil_append] at log
  have silent : ∀ e ∈ marks, e.Unplaced := fun e member => by
    have kind := settled e member
    cases e <;> first | exact fun _ => rfl | exact kind.elim
  have elsewhere : ∀ i, i ≠ call.orderId → placedCoupon (s.journal ++ w.log) i = placedCoupon s.journal i := by
    intro i other
    rw [log]
    refine placedCoupon_append fun m member => ?_
    rcases List.mem_cons.mp member with rfl | later
    · rfl
    · rcases List.mem_cons.mp later with rfl | late
      · exact if_neg (Ne.symm other)
      · exact silent m late i
  have kept : ∀ k, BillKey k → k ≠ .order call.orderId → k ≠ .payment call.orderId → k ≠ .subOrdersOf call.orderId →
      (∀ x, k ≠ .subOrder x) → w.rows k = s.rows k := fun k bill own unpaid notList notSub =>
    placed.rest bill.ledger own unpaid notList notSub (by cases k <;> first | exact bill.elim | exact id)
  refine ⟨fun i x member => ?_, fun i missing => ?_, fun i order stands => ?_⟩
  · by_cases own : i = call.orderId
    · subst own
      obtain ⟨plan, inside, rfl, stands⟩ := placed.filed fresh member
      obtain ⟨_, _, fits⟩ := placed.quoted.for_plan (List.fst_mem_of_mem_zipIdx inside)
      exact ⟨_, stands, rfl, fits.total⟩
    · rw [kept (.subOrdersOf i) trivial (by rintro ⟨⟩) (by rintro ⟨⟩) (by simpa using own) fun _ => by rintro ⟨⟩] at member
      obtain ⟨row, stands, owner, summed⟩ := billed.listed i x member
      exact ⟨row, placed.kept stands, owner, summed⟩
  · have other : i ≠ call.orderId := by
      rintro rfl
      rw [placed.order] at missing
      cases missing
    rw [kept (.order i) trivial (by simpa using other) (by rintro ⟨⟩) (by rintro ⟨⟩) fun _ => by rintro ⟨⟩] at missing
    rw [kept (.subOrdersOf i) trivial (by rintro ⟨⟩) (by rintro ⟨⟩) (by simpa using other) fun _ => by rintro ⟨⟩, elsewhere i other]
    exact billed.fresh i missing
  · by_cases own : i = call.orderId
    · subst own
      obtain rfl := Option.some.inj (placed.order.symm.trans stands)
      have subs := placed.subOrders fresh
      have active : activeSubOrders w.rows call.orderId = subOrdersOf w.rows call.orderId := by
        rw [activeSubOrders, subs]
        exact List.filter_eq_self.mpr fun p member => by
          obtain ⟨plan, _, rfl⟩ := List.mem_map.mp member
          rfl
      refine ⟨quote.globalCoupon, _, ?_, placed.payment, ⟨?_, fun _ => rfl, ?_⟩, fun none_ c member => ?_⟩
      · rw [log, placedCoupon, List.findSome?_append, show s.journal.findSome? _ = none from unplaced, Option.none_or]
        rw [List.findSome?_cons, List.findSome?_cons]
        simp [Mark.placement]
      · rw [active, subs, totalOf_plans]
        exact placed.quoted.total
      · change _ = discountOf _ _ ∧ _
        rw [active, subs, subtotalOf_plans]
        exact ⟨placed.quoted.discount, placed.quoted.reached⟩
      · have empty : quote.globalCoupon = none := Option.map_eq_none_iff.mp none_
        cases empty.symm.trans member
    · rw [kept (.order i) trivial (by simpa using own) (by rintro ⟨⟩) (by rintro ⟨⟩) fun _ => by rintro ⟨⟩] at stands
      obtain ⟨coupon, payment, found, charged, priced, detached⟩ := billed.priced i order stands
      have same := placed.other billed.ordered own
      refine ⟨coupon, payment, (elsewhere i own).trans found, ?_, priced.congr same,
        fun gone c member => (detached gone c member).congr same⟩
      rw [kept (.payment i) trivial (by rintro ⟨⟩) (by simpa using own) (by rintro ⟨⟩) fun _ => by rintro ⟨⟩]
      exact charged

/-- The prices after a transaction whose coupons stand. -/
theorem OrderEffect.billed (effect : OrderEffect s w) (billed : Billed s.rows s.journal)
    (admitted : TermsStand s w.log) : Billed w.rows (s.journal ++ w.log) := by
  cases effect with
  | aside kept silent => exact billed.aside (fun k bill => kept k bill.ledger) silent
  | moved moving stands done log silent about left =>
    rw [log] at admitted ⊢
    exact billed.commit moving stands done silent about left admitted
  | placed placed => exact billed.place placed

end

/-- A transaction that keeps the prices when its coupons stand. -/
abbrev Bills {α : Type} (body : Action α) : Prop :=
  body.KeepsAlone TermsStand (fun s => Billed s.rows s.journal) fun _ _ => True

theorem bills_of_effects {α : Type} {body : Action α} (effects : Effects body) : Bills body :=
  fun s billed => wp_mono _ (effects s billed.ordered) (fun _ _ effect admitted => ⟨effect.billed billed admitted, trivial⟩)
    fun _ e => e

theorem bills_of_within {α : Type} {body : Action α} (within : body.Within (fun k => ¬ BillKey k) Mark.Unplaced) :
    Bills body := by
  intro s billed
  refine wp_of_within within (fun _ w more _ => ⟨?_, trivial⟩) fun _ => trivial
  obtain ⟨marks, log, silent⟩ := more.log
  rw [View.start_log, List.nil_append] at log
  exact billed.aside (fun k bill => more.rows k fun outside => outside bill) fun e member => silent e (log ▸ member)

theorem masterRequest_bills {distance : Distance} {r : Request} (op : MasterRequest distance r) :
    r.All fun _ body => Bills body := by
  rcases op with ⟨call, rest⟩ | elsewhere
  · exact ((orderCall_effects distance call).rest rest).mono fun _ _ effects => bills_of_effects effects
  · exact elsewhere.mono fun _ _ within => bills_of_within within

theorem NoOrders.billed {d : Db} (none_ : NoOrders d) : Billed d [] := by
  refine ⟨fun o x member => ?_, fun o _ => ⟨(none_ o).2, rfl⟩, fun o order stands => ?_⟩
  · rw [(none_ o).2] at member
    cases member
  · cases (none_ o).1.symm.trans stands

/-- In every run whose recomputes find their coupons as they were, each order is priced by its
sub-orders and by the coupon it was placed with. -/
theorem orders_priced {distance : Distance} {d₀ : Db} {s : Store (Table Row) Mark} {o : Id} {order : Order}
    (none_ : NoOrders d₀) (run : Serial (MasterRequest distance) TermsStand ⟨d₀, []⟩ s)
    (stands : s.rows (.order o) = some order) :
    ∃ placed payment, placedCoupon s.journal o = some placed ∧ s.rows (.payment o) = some payment ∧
      Priced s.rows o order placed payment := by
  have kept := alone_safe (fun _ => trivial) (fun _ _ => trivial) (fun _ op => masterRequest_bills op) run none_.billed
  obtain ⟨placed, payment, found, paid, priced, _⟩ := kept.1.priced o order stands
  exact ⟨placed, payment, found, paid, priced⟩

/-- One product of each of two shops in the cart of customer 3, a coupon of shop 8 and a global one. -/
def twoShops : Db
  | .shop 7 => some ⟨70, "", none, none, false, .active, none⟩
  | .shop 8 => some ⟨80, "", none, none, false, .active, none⟩
  | .shopsOf 80 => some [8]
  | .product 5 => some ⟨7, "", 100000, none, 10, false, false, .active⟩
  | .product 6 => some ⟨8, "", 200000, none, 10, false, false, .active⟩
  | .address 30 => some ⟨3, "", none, none, "", ""⟩
  | .cartOf 3 => some [300, 301]
  | .cartItem 300 => some ⟨3, none, 5, 1, 0⟩
  | .cartItem 301 => some ⟨3, none, 6, 1, 0⟩
  | .couponByCode "SHOP8" => some 20
  | .coupon 20 => some ⟨"SHOP8", .shop, some 8, some .percentage, some 1000, none, none, none, none, none, 0⟩
  | .couponByCode "ALL" => some 21
  | .coupon 21 => some ⟨"ALL", .global, none, some .percentage, some 2000, some 150000, none, none, none, none, 0⟩
  | _ => none

theorem twoShops_noOrders : NoOrders twoShops := fun _ => ⟨rfl, rfl⟩

def bothShops : CheckoutCall where
  userId := 3
  dto := ⟨30, .cod, some "ALL", [(8, "SHOP8")]⟩
  idempotencyKey := "7b0e4a52-51c5-4a53-9a0e-2f6f8f1d9c11"
  now := 1000
  orderId := 1
  orderNumber := "ORD-1"
  subOrderId n := 10 + n
  orderItemId n m := 100 + 10 * n + m

def noChange : UpdateCouponDto := ⟨none, none, none, none, none, none, none⟩

/-- The order is placed, the seller of shop 8 edits the coupon, the customer cancels at shop 7. -/
def editedBetween (dto : UpdateCouponDto) : List Request :=
  [OrderCall.checkout bothShops, .updateCoupon 20 dto (some 80), .cancellation (.byCustomer 3 10 2000)].map
    (·.request fun _ _ => 1)

theorem editedBetween_serial (dto : UpdateCouponDto) (guard : Store (Table Row) Mark → List Mark → Prop)
    (obeys : ObeysAll guard ⟨twoShops, []⟩ (editedBetween dto)) :
    Serial (MasterRequest fun _ _ => 1) guard ⟨twoShops, []⟩ (runAll ⟨twoShops, []⟩ (editedBetween dto)) := by
  refine runAll_serial (fun r member => ?_) obeys
  obtain ⟨call, _, rfl⟩ := List.mem_map.mp member
  exact Or.inl ⟨call, .whole⟩

def dated : UpdateCouponDto := { noChange with endDate := some (some 5000) }

def halved : UpdateCouponDto := { noChange with discountValue := some (some 5000) }

set_option maxRecDepth 4000 in
/-- An edit of the end date leaves the terms alone. -/
theorem dated_priced : ∃ s order placed payment,
    Serial (MasterRequest fun _ _ => 1) TermsStand ⟨twoShops, []⟩ s ∧ s.rows (.order 1) = some order ∧
      order.globalDiscountAmount = some 40000 ∧ placedCoupon s.journal 1 = some placed ∧
      s.rows (.payment 1) = some payment ∧ Priced s.rows 1 order placed payment := by
  have run := editedBetween_serial dated TermsStand (by decide +kernel)
  have discounted : ((runAll ⟨twoShops, []⟩ (editedBetween dated)).rows (.order 1)).any
      (·.globalDiscountAmount = some 40000) := by decide +kernel
  obtain ⟨order, stands, discount⟩ := (Option.any_eq_true _ _).mp discounted
  obtain ⟨placed, payment, found, paid, priced⟩ := orders_priced twoShops_noOrders run stands
  exact ⟨_, order, placed, payment, run, stands, by simpa using discount, found, paid, priced⟩

set_option maxRecDepth 4000 in
/-- Shop 8 raises its discount to a half: the total follows it, the stored sub-order does not. -/
theorem not_orders_priced : ¬ ∀ (distance : Distance) (d₀ : Db) (s : Store (Table Row) Mark) (o : Id) (order : Order),
    NoOrders d₀ → Serial (MasterRequest distance) (fun _ _ => True) ⟨d₀, []⟩ s → s.rows (.order o) = some order →
    ∃ placed payment, placedCoupon s.journal o = some placed ∧ s.rows (.payment o) = some payment ∧
      Priced s.rows o order placed payment := by
  intro claimed
  have run := editedBetween_serial halved (fun _ _ => True) (by decide +kernel)
  have low : ((runAll ⟨twoShops, []⟩ (editedBetween halved)).rows (.order 1)).any fun order => order.totalAmount <
      totalOf (activeSubOrders (runAll ⟨twoShops, []⟩ (editedBetween halved)).rows 1) -
        order.globalDiscountAmount.getD 0 := by decide +kernel
  obtain ⟨order, stands, less⟩ := (Option.any_eq_true _ _).mp low
  obtain ⟨placed, payment, _, _, priced⟩ := claimed _ twoShops _ 1 order twoShops_noOrders run stands
  have lower := of_decide_eq_true less
  rw [priced.total] at lower
  exact absurd (le_max_right 0 _) (not_le.mpr lower)

end Marketplace
