import Marketplace.Orders.Cancel

/-! What the shared steps of a cancellation do to the rows, under any isolation. -/
namespace Marketplace
open ReadCommitted ReadCommitted.Tx

def WalletKey : Key → Prop
  | .userCoupon _ _ => True
  | _ => False

def CouponKey : Key → Prop
  | .coupon _ => True
  | _ => False

def PaymentKey : Key → Prop
  | .payment _ => True
  | _ => False

/-- A snapshot one of the next statements may read, while the rows stand as they do. -/
def Glimpse (I : Isolation (Table Row) Mark) (v : View (Table Row) Mark) (d : Db) : Prop :=
  ∃ u m, v.Continues (fun _ => False) NoMark u ∧ I.Sees u d m

/-- A sub-order without the columns that change after checkout. -/
def SubOrder.placed (s : SubOrder) : SubOrder := { s with status := .pending, deliveredAt := none }

/-- The rows after a refund, the wallet apart. -/
def refunded (s : LoadedSubOrder) (d : Db) : Db :=
  match s.shopCoupon with
  | none => addStock (restockTargets s.items) 1 d
  | some (coupon, _) => releasedCoupon coupon (addStock (restockTargets s.items) 1 d)

def refundMarks (s : LoadedSubOrder) : List Mark :=
  .restocked s.id (restockTargets s.items) ::
    match s.shopCoupon with
    | none => []
    | some (coupon, _) => [.couponReleased coupon (.subOrder s.id)]

/-- The rows after a recompute, the wallet and the payment apart. -/
def recomputed (o : Id) (order : Order) (coupon : Option (Id × Coupon)) (siblings : Siblings) (d : Db) : Db :=
  Function.update
    (match coupon with
      | some (id, row) => if globalCouponFails row siblings then releasedCoupon id d else d
      | none => d)
    (.order o) (some (recomputedOrder order coupon siblings))

def masterMarks (o : Id) (coupon : Option (Id × Coupon)) (siblings : Siblings) : List Mark :=
  match coupon with
  | some (id, row) => if globalCouponFails row siblings then [.couponReleased id (.order o)] else []
  | none => []

theorem loadSubOrder_some {d : Db} {id : Id} {loaded : LoadedSubOrder} (read : loadSubOrder d id = some loaded) :
    loaded.id = id ∧ d (.subOrder id) = some loaded.row ∧ loaded.items = loadItems d id := by
  obtain ⟨row, found, rfl⟩ := Option.map_eq_some_iff.mp read
  exact ⟨rfl, found, rfl⟩

theorem pendingSubOrders_mem {d : Db} {o : Id} {loaded : LoadedSubOrder} (member : loaded ∈ pendingSubOrders d o) :
    loadSubOrder d loaded.id = some loaded ∧ loaded.row.status = .pending := by
  obtain ⟨sub, _, found⟩ := List.mem_filterMap.mp member
  obtain ⟨read, pending⟩ := Option.filter_eq_some_iff.mp found
  rw [(loadSubOrder_some read).1]
  exact ⟨read, by simpa using pending⟩

theorem masterMarks_released {o : Id} {coupon : Option (Id × Coupon)} {siblings : Siblings} {e : Mark}
    (member : e ∈ masterMarks o coupon siblings) : ∃ c source, e = .couponReleased c source := by
  cases coupon with
  | none => cases member
  | some c =>
    by_cases fails : globalCouponFails c.2 siblings
    · simp only [masterMarks, fails, if_true, List.mem_singleton] at member
      exact ⟨_, _, member⟩
    · simp [masterMarks, fails] at member

theorem addStock_nil (sign : Int) (d : Db) : addStock [] sign d = d := by
  funext k
  cases k with
  | product p => exact addStock_product (by simp [sortedProductIds])
  | variant x => exact addStock_variant (by simp [sortedVariantIds])
  | _ => rfl

/-- The rows a refund may change. -/
def RefundKey (k : Key) : Prop := StockKey k ∨ CouponKey k ∨ WalletKey k

section
variable {I : Isolation (Table Row) Mark} {E : Err → Prop} {v : View (Table Row) Mark}

theorem wp_restock {targets : List StockLine} {Q : Unit → View (Table Row) Mark → Prop}
    (noErr : ∀ e, E e)
    (h : ∀ w, v.Continues StockKey NoMark w → w.rows = addStock targets 1 v.rows → Q () w) :
    (given (targets ≠ []) (lockAndRestock targets)).wp I Q E v := by
  rw [wp_given]
  refine ⟨fun _ => wp_lockAndRestock (fun _ => noErr _) fun w more rows _ => h w more rows, fun empty => ?_⟩
  have none : targets = [] := by simpa using empty
  exact h v (.refl v) (by rw [none, addStock_nil])

theorem wp_markWalletUnused {user coupon : Id} {Q : Unit → View (Table Row) Mark → Prop}
    (noErr : ∀ e, E e) (h : ∀ w, v.Continues WalletKey NoMark w → Q () w) :
    (markWalletUnused user coupon).wp I Q E v :=
  wp_of_within (within_updateWhere _ _ _ trivial) (fun _ w more => h w more) noErr

theorem wp_refundCoupon {coupon : Id} {source : Redemption} {customer : Option Id}
    {Q : Unit → View (Table Row) Mark → Prop} (noErr : ∀ e, E e)
    (h : ∀ w, v.Continues (fun k => CouponKey k ∨ WalletKey k) (· = .couponReleased coupon source) w →
      (∀ k, ¬ WalletKey k → w.rows k = releasedCoupon coupon v.rows k) →
      w.log = v.log ++ [.couponReleased coupon source] → Q () w) :
    (refundCoupon coupon source customer).wp I Q E v := by
  unfold refundCoupon
  rw [wp_bind]
  refine wp_releaseCoupon fun w₁ first rows => ?_
  rw [wp_bind, wp_note]
  have upto : v.Continues (fun k => CouponKey k ∨ WalletKey k) (· = .couponReleased coupon source)
      (w₁.mark (.couponReleased coupon source)) := by
    refine (first.mono (fun k same => ?_) fun _ no => no.elim).trans (.mark rfl)
    subst same
    exact Or.inl trivial
  cases customer with
  | none => exact h _ upto (fun k _ => congrFun rows k) (by simp [first.log_same])
  | some user =>
    refine wp_markWalletUnused noErr fun w₂ second => ?_
    refine h w₂ (upto.trans (second.mono (fun _ wallet => Or.inr wallet) fun _ no => no.elim))
      (fun k notWallet => ?_) (by simp [second.log_same, first.log_same])
    rw [second.rows k notWallet]
    exact congrFun rows k

theorem wp_restockAndRefundSubOrder {s : LoadedSubOrder} {Q : Unit → View (Table Row) Mark → Prop}
    (noErr : ∀ e, E e)
    (h : ∀ w, v.Continues RefundKey (· ∈ refundMarks s) w →
      (∀ k, ¬ WalletKey k → w.rows k = refunded s v.rows k) → w.log = v.log ++ refundMarks s → Q () w) :
    (restockAndRefundSubOrder s).wp I Q E v := by
  unfold restockAndRefundSubOrder
  rw [wp_bind]
  refine wp_restock noErr fun w₁ first rows => ?_
  rw [wp_bind, wp_note]
  have upto : v.Continues RefundKey (· ∈ refundMarks s) (w₁.mark (.restocked s.id (restockTargets s.items))) :=
    (first.mono (fun k stock => Or.inl stock) fun _ no => no.elim).trans (.mark (by simp [refundMarks]))
  cases found : s.shopCoupon with
  | none =>
    refine h _ upto (fun k _ => ?_) ?_
    · simp [refunded, found, rows]
    · simp [refundMarks, found, first.log_same]
  | some pair =>
    obtain ⟨coupon, row⟩ := pair
    refine wp_refundCoupon noErr fun w₂ second rows₂ log => ?_
    refine h w₂ (upto.trans (second.mono (fun k other => Or.inr other) fun e same => ?_))
      (fun k notWallet => ?_) ?_
    · simp [refundMarks, found, same]
    · rw [rows₂ k notWallet]
      simp only [refunded, found, View.mark_rows, rows]
    · simp [log, refundMarks, found, first.log_same]

/-- The rows a recompute of the master may change, its payment apart. -/
def MasterKey (o : Id) (k : Key) : Prop := k = .order o ∨ CouponKey k ∨ WalletKey k

theorem wp_releaseFailedCoupon {o : Id} {customer : Option Id} {coupon : Option (Id × Coupon)}
    {siblings : Siblings} {Q : Unit → View (Table Row) Mark → Prop} (noErr : ∀ e, E e)
    (h : ∀ w, v.Continues (MasterKey o) (· ∈ masterMarks o coupon siblings) w →
      w.rows (.order o) = v.rows (.order o) →
      (∀ k, ¬ WalletKey k → k ≠ .order o → ∀ order,
        w.rows k = recomputed o order coupon siblings v.rows k) →
      w.log = v.log ++ masterMarks o coupon siblings → Q () w) :
    (releaseFailedCoupon o customer coupon siblings).wp I Q E v := by
  unfold releaseFailedCoupon
  cases coupon with
  | none =>
    exact h v (.refl v) rfl (fun k _ other order => by simp [recomputed, other]) (by simp [masterMarks])
  | some pair =>
    obtain ⟨id, row⟩ := pair
    rw [wp_ite]
    refine ⟨fun fails => ?_, fun applies => ?_⟩
    · refine wp_refundCoupon noErr fun w more rows log => ?_
      refine h w (more.mono (fun k other => Or.inr other) fun e same => ?_) ?_ (fun k notWallet other order => ?_) ?_
      · simp [masterMarks, fails, same]
      · exact more.rows _ (by simp [CouponKey, WalletKey])
      · rw [rows k notWallet]
        simp [recomputed, fails, other]
      · simp [log, masterMarks, fails]
    · exact h v (.refl v) rfl (fun k _ other order => by simp [recomputed, applies, other])
        (by simp [masterMarks, applies])

theorem wp_recomputeOrder {o : Id} {Q : OrderStatus × Money → View (Table Row) Mark → Prop}
    (noErr : ∀ e, E e)
    (h : ∀ order d₁ d₂ w, v.rows (.order o) = some order → Glimpse I v d₁ → Glimpse I v d₂ →
      v.Continues (MasterKey o)
        (· ∈ masterMarks o (couponOf d₁ order.globalCoupon) (loadSiblings d₂ o)) w →
      w.held (.order o) = true →
      (∀ k, ¬ WalletKey k →
        w.rows k = recomputed o order (couponOf d₁ order.globalCoupon) (loadSiblings d₂ o) v.rows k) →
      w.log = v.log ++ masterMarks o (couponOf d₁ order.globalCoupon) (loadSiblings d₂ o) →
      Q (deriveMasterStatus (loadSiblings d₂ o).statuses,
        recomputedTotal (couponOf d₁ order.globalCoupon) (loadSiblings d₂ o)) w) :
    (recomputeOrder o).wp I Q E v := by
  unfold recomputeOrder
  rw [wp_bind]
  refine wp_selectForUpdate fun w₁ first held => ?_
  rw [wp_bind, wp_orFail]
  refine ⟨fun order found => ?_, fun _ => noErr _⟩
  rw [wp_bind, wp_select]
  intro d₁ m₁ sees₁
  have own : d₁ (.order o) = some order :=
    (I.held sees₁ held).trans ((first.rows _ fun no => no).trans found)
  rw [wp_bind, wp_orFail, own]
  refine ⟨fun loaded same => ?_, fun no => by simp at no⟩
  obtain rfl : (order, couponOf d₁ order.globalCoupon) = loaded := by simpa using same
  rw [wp_bind, wp_select]
  intro d₂ m₂ sees₂
  have glimpsed : v.Continues (fun _ => False) NoMark (w₁.looking m₁) :=
    first.trans (.looking (I.forward sees₁))
  have upto : v.Continues (fun _ => False) NoMark ((w₁.looking m₁).looking m₂) :=
    glimpsed.trans (.looking (I.forward sees₂))
  rw [wp_bind]
  refine wp_releaseFailedCoupon noErr fun w₂ second kept rows log => ?_
  rw [wp_bind]
  have stands : w₂.rows (.order o) = some order := by
    rw [kept]
    exact (upto.rows _ fun no => no).trans found
  refine wp_save_held (k := Key.order o) (second.held _ held) stands fun w₃ third held₃ stored => ?_
  rw [wp_pure]
  refine h order d₁ d₂ w₃ found ⟨w₁, m₁, first, sees₁⟩ ⟨w₁.looking m₁, m₂, glimpsed, sees₂⟩
    ((upto.idle.trans second).trans (third.mono (fun k same => Or.inl same) fun _ no => no.elim)) held₃
    (fun k notWallet => ?_) ?_
  · by_cases same : k = .order o
    · subst same
      simp [recomputed, stored]
    · rw [third.rows k same, rows k notWallet same order]
      simp only [View.looking_rows, first.rows_same]
  · rw [third.log_same, log]
    simp [first.log_same]

/-- A mark of a save of the payment. -/
def PaymentMark (o : Id) (e : Mark) : Prop := ∃ loaded reread, e = .paymentSaved o loaded reread

theorem within_savePayment (o : Id) (loaded mem : Payment) :
    (savePayment o loaded mem).Within (· = .payment o) (PaymentMark o) := by
  unfold savePayment
  refine within_saveMarked _ _ _ rfl fun reread e member => ?_
  exact ⟨loaded.status, reread.status, by simpa using member⟩

theorem within_updateAmountForOrder (o : Id) (amount : Money) :
    (updateAmountForOrder o amount).Within (· = .payment o) (PaymentMark o) := by
  refine within_bind (within_select _) fun found => ?_
  cases found with
  | none => exact within_pure ()
  | some payment => exact within_savePayment o _ _

theorem within_markCodCompleted (o : Id) (now : Time) :
    (markCodCompleted o now).Within (· = .payment o) (PaymentMark o) := by
  refine within_bind (within_select _) fun found => ?_
  cases found with
  | none => exact within_pure ()
  | some payment => exact within_ite (within_pure ()) (within_savePayment o _ _)

theorem within_markVnpayExpired (o : Id) :
    (markVnpayExpired o).Within (· = .payment o) (PaymentMark o) := by
  refine within_bind (within_select _) fun found => ?_
  cases found with
  | none => exact within_pure ()
  | some payment => exact within_savePayment o _ _

/-- The master and its payment after a recompute, the payment's row left open. -/
theorem wp_recomputeMaster {o : Id} {now : Time} {Q : OrderStatus × Money → View (Table Row) Mark → Prop}
    (noErr : ∀ e, E e)
    (h : ∀ order d₁ d₂ a w marks, v.rows (.order o) = some order → Glimpse I v d₁ → Glimpse I v d₂ →
      (∀ k, v.held k = true → w.held k = true) →
      (∀ k, ¬ WalletKey k → k ≠ .payment o →
        w.rows k = recomputed o order (couponOf d₁ order.globalCoupon) (loadSiblings d₂ o) v.rows k) →
      w.log = v.log ++ masterMarks o (couponOf d₁ order.globalCoupon) (loadSiblings d₂ o) ++ marks →
      (∀ e ∈ marks, PaymentMark o e) → Q a w) :
    (recomputeMasterAfterSubOrderChange o now).wp I Q E v := by
  unfold recomputeMasterAfterSubOrderChange
  rw [wp_bind]
  refine wp_recomputeOrder noErr fun order d₁ d₂ w stands seen₁ seen₂ upto _ rows log => ?_
  dsimp only
  have paid : (do
      updateAmountForOrder o (recomputedTotal (couponOf d₁ order.globalCoupon) (loadSiblings d₂ o))
      given (deriveMasterStatus (loadSiblings d₂ o).statuses = .delivered) (markCodCompleted o now)
      return (deriveMasterStatus (loadSiblings d₂ o).statuses,
        recomputedTotal (couponOf d₁ order.globalCoupon) (loadSiblings d₂ o)) : Action (OrderStatus × Money)).Within
      (· = .payment o) (PaymentMark o) :=
    within_bind (within_updateAmountForOrder o _) fun _ =>
      within_bind (within_given fun _ => within_markCodCompleted o now) fun _ => within_pure _
  refine wp_of_within paid (fun a u more => ?_) noErr
  obtain ⟨marks, same, marked⟩ := more.log
  refine h order d₁ d₂ a u marks stands seen₁ seen₂ (fun k held => more.held k (upto.held k held))
    (fun k notWallet other => ?_) (by rw [same, log]) marked
  rw [more.rows k other]
  exact rows k notWallet

end
end Marketplace
