import Marketplace.Orders.Checkout

/-! The rows and marks each part of checkout may touch. -/
namespace Marketplace
open ReadCommitted ReadCommitted.Tx

theorem within_saveProduct (id : Id) (mem : Product) : (saveProduct id mem).Within StockKey NoMark := by
  refine within_bind (within_save _ _ ?_) fun _ => within_bind (within_select _) fun _ => within_require _ _
  exact trivial

theorem within_saveVariant (id : Id) (mem : ProductVariant) : (saveVariant id mem).Within StockKey NoMark := by
  refine within_bind (within_save _ _ ?_) fun _ => within_bind (within_select _) fun _ => within_require _ _
  exact trivial

theorem within_lockStock (items : List StockLine) : (lockStock items).Within StockKey NoMark := by
  refine within_bind (within_forM _ fun p _ => within_lockRow _) fun _ => within_bind (within_select _) fun _ => ?_
  refine within_bind (within_forM _ fun x _ => within_lockRow _) fun _ => within_bind (within_select _) fun _ => ?_
  exact within_pure _

theorem within_saveStock (items : List StockLine) (locked : LockedStock) :
    (saveStock items locked).Within StockKey NoMark := by
  refine within_bind (within_forM _ fun x _ => ?_) fun _ => within_forM _ fun p _ => ?_
  · cases locked.variant x with
    | none => exact within_pure ()
    | some row => exact within_saveVariant x row
  · cases locked.product p with
    | none => exact within_pure ()
    | some row => exact within_saveProduct p row

theorem within_lockAndDeductStockForCheckout (items : List StockLine) :
    (lockAndDeductStockForCheckout items).Within StockKey NoMark :=
  within_bind (within_lockStock items) fun _ => within_bind (within_require _ _) fun _ => within_saveStock items _

/-- A mark of the lines taken for a user. -/
def TakenMark (user : Id) (e : Mark) : Prop := ∃ lines, e = .stockTaken user lines

theorem within_takeCart (userId : Id) : (takeCart userId).Within StockKey (TakenMark userId) := by
  refine within_bind (within_bind (within_select _) fun _ => within_pure _) fun pair => ?_
  refine within_bind (within_require _ _) fun _ => within_bind (within_require _ _) fun _ => ?_
  refine within_bind (within_select _) fun _ => within_bind (within_require _ _) fun _ => ?_
  refine within_bind ?_ fun _ => within_bind ((within_note _).mpr ⟨_, rfl⟩) fun _ => within_pure _
  exact within_mono (fun _ stock => stock) (fun _ no => no.elim) (within_lockAndDeductStockForCheckout _)

/-- Validation locks a coupon and writes nothing. -/
theorem within_lockAndValidateCoupon {K : Key → Prop} (code : Option String) (expected : CouponType)
    (shop : Option Id) (subtotal : Money) (now : Time) :
    (lockAndValidateCoupon code expected shop subtotal now).Within K NoMark := by
  cases code with
  | none => exact within_pure none
  | some code =>
    unfold lockAndValidateCoupon
    refine within_ite (within_pure none) ?_
    refine within_bind (within_select _) fun found => within_bind (within_orFail _ _) fun id => ?_
    refine within_bind (within_selectForUpdate _) fun row => within_bind (within_orFail _ _) fun coupon => ?_
    refine within_bind (within_require _ _) fun _ => within_bind (within_require _ _) fun _ => ?_
    refine within_bind (within_require _ _) fun _ => within_bind (within_require _ _) fun _ => ?_
    exact within_bind (within_require _ _) fun _ => within_bind (within_require _ _) fun _ => within_pure _

theorem within_quoteOrder {K : Key → Prop} (distance : Distance) (call : CheckoutCall) (address : Address)
    (items : List CartLine) : (quoteOrder distance call address items).Within K NoMark := by
  refine within_bind (within_mapM _ fun group _ => ?_) fun plans => ?_
  · exact within_bind (within_lockAndValidateCoupon ..) fun _ => within_pure _
  · exact within_bind (within_lockAndValidateCoupon ..) fun _ => within_pure _

theorem within_prepareOrder (distance : Distance) (call : CheckoutCall) (address : Address) :
    (prepareOrder distance call address).Within StockKey (TakenMark call.userId) :=
  within_bind (within_takeCart _) fun items =>
    within_mono (fun _ stock => stock) (fun _ no => no.elim) (within_quoteOrder distance call address items)

def ItemKey : Key → Prop
  | .orderItem _ => True
  | .itemsOf _ => True
  | _ => False

/-- The rows and marks of the redemptions and of the emptied cart. -/
def SettledKey : Key → Prop
  | .coupon _ => True
  | .userCoupon _ _ => True
  | .cartItem _ => True
  | .cartOf _ => True
  | _ => False

def SettledMark : Mark → Prop
  | .couponRedeemed _ _ => True
  | .outbox _ => True
  | _ => False

theorem within_redeem (call : CheckoutCall) (coupon : Option (Id × Coupon)) (source : Redemption) :
    (redeem call coupon source).Within SettledKey SettledMark := by
  cases coupon with
  | none => exact within_pure ()
  | some c =>
    refine within_bind ?_ fun _ => within_bind ((within_note _).mpr trivial) fun _ => ?_
    · exact within_save _ _ trivial
    · exact within_updateWhere _ _ _ trivial

theorem within_clearActiveCart (user : Id) : (clearActiveCart user).Within SettledKey SettledMark := by
  refine within_bind (within_select _) fun ids => within_bind ?_ fun _ => (within_modify _ _).mpr trivial
  exact within_forM _ fun id _ => (within_modify _ _).mpr trivial

theorem within_settleOrder (call : CheckoutCall) (quote : Quote) :
    (settleOrder call quote).Within SettledKey SettledMark := by
  refine within_bind (within_redeem call _ _) fun _ => ?_
  refine within_bind (within_forM _ fun plan _ => within_redeem call _ _) fun _ => ?_
  refine within_bind (within_clearActiveCart _) fun _ => within_bind (within_select _) fun _ => ?_
  exact (within_note _).mpr trivial

/-- The rows written after the order's own. -/
def PlacedKey : Key → Prop
  | .subOrder _ => True
  | .subOrdersOf _ => True
  | .orderItem _ => True
  | .itemsOf _ => True
  | .payment _ => True
  | .coupon _ => True
  | .userCoupon _ _ => True
  | .cartItem _ => True
  | .cartOf _ => True
  | _ => False

def PlacedMark : Mark → Prop
  | .couponRedeemed _ _ => True
  | .orderPlaced _ _ => True
  | .outbox _ => True
  | _ => False

/-- The rows of the sub-orders and their items. -/
def PlanKey : Key → Prop
  | .subOrder _ => True
  | .subOrdersOf _ => True
  | .orderItem _ => True
  | .itemsOf _ => True
  | _ => False

theorem PlacedKey.of {k : Key} (kind : PlanKey k ∨ SettledKey k) : PlacedKey k := by
  cases k <;> first | trivial | exact kind.elim id id

theorem PlacedMark.of {e : Mark} (kind : SettledMark e) : PlacedMark e := by
  cases e <;> trivial

theorem within_insertPlan (call : CheckoutCall) (plan : SubOrderPlan × Nat) :
    (insertPlan call plan).Within PlanKey NoMark := by
  refine within_bind (within_bind (within_insert _ _ _ trivial) fun _ => (within_modify _ _).mpr trivial) fun _ => ?_
  exact within_forM _ fun _ _ => within_bind (within_insert _ _ _ trivial) fun _ => (within_modify _ _).mpr trivial

theorem within_placeOrder (call : CheckoutCall) (quote : Quote) :
    (placeOrder call quote).Within PlacedKey PlacedMark := by
  refine within_bind ((within_note _).mpr trivial) fun _ => ?_
  refine within_bind (within_forM _ fun plan _ => ?_) fun _ => within_bind (within_insert _ _ _ trivial) fun _ => ?_
  · exact within_mono (fun _ own => .of (Or.inl own)) (fun _ no => no.elim) (within_insertPlan call plan)
  exact within_mono (fun _ settled => .of (Or.inr settled)) (fun _ mark => .of mark) (within_settleOrder call quote)

/-- A mark of the recovery or the recording of a response. -/
def KeyMark : Mark → Prop
  | .recovering _ _ => True
  | .caching _ _ => True
  | _ => False

def KeyKey (k : Key) : Prop := ∃ key, k = .idempotency key

theorem within_markKeyCompleted (call : CheckoutCall) (response : CheckoutResponse) :
    (markKeyCompleted call response).Within KeyKey KeyMark := by
  refine within_bind (within_select _) fun found => ?_
  cases found with
  | none => exact within_pure ()
  | some row => exact within_bind ((within_note _).mpr trivial) fun _ => (within_modify _ _).mpr ⟨_, rfl⟩

section
variable {T : ∀ α : Type, Action α → Prop} {call : CheckoutCall}

theorem cacheResponse_all (within : ∀ α (body : Action α), body.Within KeyKey KeyMark → T α body)
    (response : CheckoutResponse) : (cacheResponse call response).All T :=
  .tx (within _ _ (within_markKeyCompleted call response)) (fun _ => .done _) fun _ => .done _

theorem failCheckout_all (within : ∀ α (body : Action α), body.Within KeyKey KeyMark → T α body) (e : Err) :
    (failCheckout call e).All T :=
  .tx (within _ _ (within_deleteWhere _ _ ⟨_, rfl⟩)) (fun _ => .done _) fun _ => .done _

theorem afterClash_all (within : ∀ α (body : Action α), body.Within KeyKey KeyMark → T α body) (e : Err) :
    Req.All T (if e = .uniqueViolation UQ_ORDER_IDEMPOTENCY_KEY then recoverOrder call else failCheckout call e) := by
  split
  · apply Req.All.tx (within _ _ _) (cacheResponse_all within) (failCheckout_all within)
    exact within_bind ((within_note _).mpr trivial) fun _ => within_bind (within_select _) fun _ => within_orFail _ _
  · exact failCheckout_all within e

theorem afterClaim_all (within : ∀ α (body : Action α), body.Within KeyKey KeyMark → T α body) (e : Err) :
    Req.All T (if isPgUniqueViolation e then single (replayClaim call) .response
      else .done (.failed (.internal "Không thể khởi tạo Idempotency-Key"))) := by
  split
  · refine .tx (within _ _ ?_) (fun _ => .done _) fun _ => .done _
    refine within_bind (within_select _) fun _ => within_bind (within_orFail _ _) fun _ => ?_
    exact within_bind (within_require _ _) fun _ => within_bind (within_require _ _) fun _ => within_orFail _ _
  · exact .done _

/-- Every transaction of a checkout but the one that places the order writes the idempotency row only. -/
theorem checkout_all (distance : Distance) (call : CheckoutCall)
    (within : ∀ α (body : Action α), body.Within KeyKey KeyMark → T α body)
    (places : ∀ address, T CheckoutResponse (runCheckoutTransaction distance call address)) :
    (checkout distance call).All T := by
  refine .tx (within _ _ (within_insert _ _ _ ⟨_, rfl⟩)) (fun _ => ?_) (afterClaim_all within)
  refine .tx (within _ _ (within_bind (within_select _) fun _ => within_orFail _ _)) (fun address => ?_)
    (failCheckout_all within)
  exact .tx (places address) (cacheResponse_all within) (afterClash_all within)

end

section
variable {I : Isolation (Table Row) Mark} {E : Err → Prop} {v : View (Table Row) Mark}

def OrderKey (call : CheckoutCall) (k : Key) : Prop :=
  k = .order call.orderId ∨ k = .orderByKey call.idempotencyKey ∨ k = .orderByNumber call.orderNumber

/-- The order's rows go in together, under an id and a key that were free. -/
theorem wp_createOrderWithRetry {call : CheckoutCall} {order : Order} {Q : Unit → View (Table Row) Mark → Prop}
    (number : order.orderNumber = call.orderNumber) (taken : v.rows (.order call.orderId) ≠ none → E .database)
    (clash : v.rows (.order call.orderId) = none → v.rows (.orderByKey call.idempotencyKey) ≠ none →
      E (.uniqueViolation UQ_ORDER_IDEMPOTENCY_KEY))
    (numbered : v.rows (.orderByKey call.idempotencyKey) = none → E .database)
    (h : ∀ w, v.Continues (OrderKey call) NoMark w → v.rows (.order call.orderId) = none →
      v.rows (.orderByKey call.idempotencyKey) = none → w.rows (.order call.orderId) = some order →
      w.rows (.orderByKey call.idempotencyKey) = some call.orderId → Q () w) :
    (createOrderWithRetry call order).wp I Q E v := by
  unfold createOrderWithRetry
  rw [wp_bind]
  refine wp_insert taken fun w₁ first _ freeId inserted => ?_
  have sameKey : w₁.rows (.orderByKey call.idempotencyKey) = v.rows (.orderByKey call.idempotencyKey) :=
    first.rows _ (by simp)
  rw [wp_bind]
  refine wp_insert (fun full => clash freeId (sameKey ▸ full)) fun w₂ second _ freeKey keyed => ?_
  rw [number]
  refine wp_insert (fun _ => numbered (sameKey ▸ freeKey)) fun w₃ third _ _ _ => ?_
  refine h w₃ (((first.mono (fun _ => Or.inl) fun _ no => no).trans (second.mono (fun _ same => Or.inr (Or.inl same))
    fun _ no => no)).trans (third.mono (fun _ same => Or.inr (Or.inr same)) fun _ no => no)) freeId ?_ ?_ ?_
  · exact sameKey ▸ freeKey
  · rw [third.rows _ (by simp), second.rows _ (by simp), inserted]
  · rw [third.rows _ (by simp), keyed]

theorem wp_markKeyCompleted {call : CheckoutCall} {response : CheckoutResponse}
    {Q : Unit → View (Table Row) Mark → Prop} (absent : ∀ w, v.Continues (fun _ => False) NoMark w → Q () w)
    (written : ∀ w, v.Continues (· = .idempotency call.idempotencyKey)
        (· = .caching call.userId call.idempotencyKey) w →
      .caching call.userId call.idempotencyKey ∈ w.log →
      w.rows (.idempotency call.idempotencyKey) =
        (v.rows (.idempotency call.idempotencyKey)).map (completedClaim response) → Q () w) :
    (markKeyCompleted call response).wp I Q E v := by
  unfold markKeyCompleted
  rw [wp_bind, wp_select]
  intro d m sees
  cases d (.idempotency call.idempotencyKey) with
  | none => exact absent _ (.looking (I.forward sees))
  | some row =>
    dsimp only
    rw [wp_bind, wp_note, wp_modify]
    refine written _ ?_ (List.mem_append_right _ List.mem_cons_self) (View.put_rows_self _ _ _)
    refine .trans (.trans (.looking (I.forward sees)) (.mark ?_)) (.put ?_)
    · rfl
    · rfl

end
end Marketplace
