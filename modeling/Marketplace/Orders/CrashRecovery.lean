import Marketplace.Orders.Idempotency
import Marketplace.ReadCommitted.Serial

/-! A checkout repeated after its order committed and its idempotency row is gone. -/
namespace Marketplace
open ReadCommitted ReadCommitted.Tx

/-- The database without its idempotency rows. -/
def shopSide (d : Db) : Db
  | .idempotency _ => none
  | k => d k

theorem shopSide_congr {d e : Db} (same : ∀ k, (∀ key, k ≠ .idempotency key) → e k = d k) : shopSide e = shopSide d := by
  funext k
  cases k with
  | idempotency key => rfl
  | _ => exact same _ fun _ => nofun

/-- The cart may be ordered as it is. -/
structure CartReady (user : Id) (d : Db) : Prop where
  available : unavailableItems (loadCart d user) = []
  filled : validItems (loadCart d user) ≠ []
  foreign : ownedShopCount d user (firstOccurrences ((validItems (loadCart d user)).map (·.product.shop))) = 0
  served : ((validItems (loadCart d user)).map stockLine).filterMap
    (insufficientLine ((validItems (loadCart d user)).map stockLine)
      (loadedStock ((validItems (loadCart d user)).map stockLine) d)) = []
  checked : StockChecked ((validItems (loadCart d user)).map stockLine)
    (addStock ((validItems (loadCart d user)).map stockLine) (-1) d)

/-- Every code the call names is absent, blank or of a coupon that applies. -/
def CouponUsable (d : Db) (code : Option String) (expectedType : CouponType) (shopId : Option Id) (subtotal : Money)
    (now : Time) : Prop :=
  ∀ c ∈ code, isBlank c = false →
    ∃ id coupon, d (.couponByCode c) = some id ∧ d (.coupon id) = some coupon ∧
      CouponApplies coupon expectedType shopId subtotal now

structure CouponsUsable (call : CheckoutCall) (items : List CartLine) (d : Db) : Prop where
  shops : ∀ group ∈ groupItemsByShop items, CouponUsable d (shopCouponCode call.dto group.shopId) .shop
    (some group.shopId) (computeShopSubtotal group.items) call.now
  global : CouponUsable d call.dto.globalCouponCode .global none
    ((groupItemsByShop items).map fun group => computeShopSubtotal group.items).sum call.now

/-- The call would pass every check of a checkout up to the unique index on its key. -/
structure Repeatable (call : CheckoutCall) (d : Db) : Prop where
  address : ∃ address, d (.address call.dto.addressId) = some address ∧ address.user = call.userId
  cart : CartReady call.userId d
  coupons : CouponsUsable call (validItems (loadCart d call.userId)) d
  id : d (.order call.orderId) = none

/-- No check reads an idempotency row. -/
theorem repeatable_shopSide (call : CheckoutCall) (d : Db) : Repeatable call (shopSide d) ↔ Repeatable call d :=
  ⟨fun h => ⟨h.address, ⟨h.cart.available, h.cart.filled, h.cart.foreign, h.cart.served, h.cart.checked⟩,
      ⟨h.coupons.shops, h.coupons.global⟩, h.id⟩,
    fun h => ⟨h.address, ⟨h.cart.available, h.cart.filled, h.cart.foreign, h.cart.served, h.cart.checked⟩,
      ⟨h.coupons.shops, h.coupons.global⟩, h.id⟩⟩

theorem response_shopSide (d : Db) (id : Id) (order : Order) :
    buildCheckoutResponseFromOrder (shopSide d) id order = buildCheckoutResponseFromOrder d id order := rfl

section
variable {call : CheckoutCall} {user : Id} {v : View (Table Row) Mark}

/-- The clash on the key of an order. -/
abbrev keyTaken : Err := .uniqueViolation UQ_ORDER_IDEMPOTENCY_KEY

theorem takeCart_spec : (takeCart user).wp .serial
    (fun items w => CartReady user v.rows ∧ items = validItems (loadCart v.rows user) ∧
      v.Continues StockKey (TakenMark user) w)
    (fun e => ¬ CartReady user v.rows ∧ e ≠ keyTaken) v := by
  unfold takeCart getActiveCartItemsForCheckout
  simp only [wp_bind]
  rw [wp_select]
  rintro d m ⟨rfl, rfl⟩
  rw [wp_pure, wp_require]
  refine ⟨fun available => ?_, fun blocked => ⟨fun ready => blocked ready.available, nofun⟩⟩
  rw [wp_require]
  refine ⟨fun filled => ?_, fun empty => ⟨fun ready => empty ready.filled, nofun⟩⟩
  rw [wp_select]
  rintro d m ⟨rfl, rfl⟩
  rw [wp_require]
  refine ⟨fun foreign => ?_, fun own => ⟨fun ready => own ready.foreign, nofun⟩⟩
  refine wp_lockAndDeductStockForCheckout (fun negative => ⟨fun ready => negative ready.checked, nofun⟩)
    (fun list same short => ⟨fun ready => short (same.trans ready.served), nofun⟩) fun w more rows served checked => ?_
  rw [wp_note, wp_pure]
  refine ⟨⟨available, filled, foreign, served, rows ▸ checked⟩, rfl, .trans (more.mono (fun _ stock => stock) ?_) (.mark ⟨_, rfl⟩)⟩
  exact fun _ no => no.elim

theorem lockAndValidateCoupon_spec {code : Option String} {expectedType : CouponType} {shopId : Option Id}
    {subtotal : Money} {now : Time} : (lockAndValidateCoupon code expectedType shopId subtotal now).wp .serial
    (fun _ w => CouponUsable v.rows code expectedType shopId subtotal now ∧ w.rows = v.rows)
    (fun e => ¬ CouponUsable v.rows code expectedType shopId subtotal now ∧ e ≠ keyTaken) v := by
  refine wp_lockAndValidateCoupon (fun blank => ⟨fun c member full => ?_, rfl⟩) ?_ ?_
  · simp [blank c member] at full
  · rintro c d m message rfl full ⟨rfl, rfl⟩ unfit
    refine ⟨fun usable => ?_, nofun⟩
    obtain ⟨id, coupon, indexed, stands, fits⟩ := usable c rfl full
    exact unfit id coupon indexed stands fits
  · rintro c d m id coupon w rfl full ⟨rfl, rfl⟩ indexed stands fits more _
    refine ⟨fun c' same _ => ?_, more.rows_same⟩
    obtain rfl := Option.some.inj same
    exact ⟨id, coupon, indexed, stands, fits⟩

theorem planSubOrder_spec {distance : Distance} {address : Address} {group : ShopGroup} :
    (planSubOrder distance call address group).wp .serial
      (fun plan w => CouponUsable v.rows (shopCouponCode call.dto group.shopId) .shop (some group.shopId)
          (computeShopSubtotal group.items) call.now ∧
        plan.shopSubtotal = computeShopSubtotal group.items ∧ w.rows = v.rows)
      (fun e => ¬ CouponUsable v.rows (shopCouponCode call.dto group.shopId) .shop (some group.shopId)
          (computeShopSubtotal group.items) call.now ∧ e ≠ keyTaken) v := by
  unfold planSubOrder
  rw [wp_bind]
  refine wp_mono _ lockAndValidateCoupon_spec (fun found w kept => ?_) fun _ e => e
  rw [wp_pure]
  exact ⟨kept.1, rfl, kept.2⟩

theorem quoteOrder_spec {distance : Distance} {address : Address} {items : List CartLine} :
    (quoteOrder distance call address items).wp .serial
      (fun _ w => CouponsUsable call items v.rows ∧ w.rows = v.rows)
      (fun e => ¬ CouponsUsable call items v.rows ∧ e ≠ keyTaken) v := by
  unfold quoteOrder
  rw [wp_bind]
  have loop := wp_mapM (I := .serial) (E := fun e => ¬ CouponsUsable call items v.rows ∧ e ≠ keyTaken) (v := v)
    (fun rest (plans : List SubOrderPlan) w => w.rows = v.rows ∧ (∀ group ∈ rest, group ∈ groupItemsByShop items) ∧
      (∀ group ∈ groupItemsByShop items, group ∈ rest ∨
        CouponUsable v.rows (shopCouponCode call.dto group.shopId) .shop (some group.shopId)
          (computeShopSubtotal group.items) call.now) ∧
      plans.map (·.shopSubtotal) ++ rest.map (fun group => computeShopSubtotal group.items) =
        (groupItemsByShop items).map fun group => computeShopSubtotal group.items)
    (planSubOrder distance call address)
    (fun group rest plans w kept => by
      obtain ⟨same, inside, seen, subtotals⟩ := kept
      refine wp_mono _ planSubOrder_spec (fun plan u planned => ?_) fun e failed => ⟨fun usable => ?_, failed.2⟩
      · obtain ⟨usable, subtotal, rows⟩ := planned
        refine ⟨rows.trans same, fun g member => inside g (List.mem_cons_of_mem _ member), fun g member => ?_, ?_⟩
        · rcases seen g member with waiting | done
          · rcases List.mem_cons.mp waiting with rfl | later
            · exact Or.inr (same ▸ usable)
            · exact Or.inl later
          · exact Or.inr done
        · simpa [subtotal] using subtotals
      · exact failed.1 (same ▸ usable.shops group (inside group List.mem_cons_self)))
    (groupItemsByShop items) [] ⟨rfl, fun _ member => member, fun _ member => Or.inl member, rfl⟩
  refine wp_mono _ loop (fun plans w kept => ?_) fun _ e => e
  obtain ⟨same, _, seen, subtotals⟩ := kept
  simp only [List.nil_append, List.map_nil, List.append_nil] at subtotals
  have shops : ∀ group ∈ groupItemsByShop items,
      CouponUsable v.rows (shopCouponCode call.dto group.shopId) .shop (some group.shopId)
        (computeShopSubtotal group.items) call.now := by
    intro group member
    rcases seen group member with waiting | usable
    · cases waiting
    · exact usable
  rw [wp_bind]
  refine wp_mono _ lockAndValidateCoupon_spec (fun found u kept => ?_) fun e failed => ⟨fun usable => ?_, failed.2⟩
  · obtain ⟨usable, rows⟩ := kept
    rw [wp_pure]
    refine ⟨⟨shops, ?_⟩, rows.trans same⟩
    rw [← subtotals]
    exact same ▸ usable
  · refine failed.1 ?_
    rw [same, totalShopSubtotals, subtotals]
    exact usable.global

end

theorem CouponsUsable.congr {call : CheckoutCall} {items : List CartLine} {d e : Db}
    (same : ∀ k, ¬ StockKey k → e k = d k) (usable : CouponsUsable call items d) : CouponsUsable call items e := by
  have one : ∀ {code type shop subtotal}, CouponUsable d code type shop subtotal call.now →
      CouponUsable e code type shop subtotal call.now := by
    intro code type shop subtotal usable c member full
    obtain ⟨id, coupon, indexed, stands, fits⟩ := usable c member full
    exact ⟨id, coupon, (same (.couponByCode c) nofun).trans indexed, (same (.coupon id) nofun).trans stands, fits⟩
  exact ⟨fun group member => one (usable.shops group member), one usable.global⟩

section
variable {distance : Distance} {call : CheckoutCall} {address : Address} {d : Db}

/-- With its key taken the transaction fails, and fails on the key exactly when nothing stops it before. -/
theorem runCheckoutTransaction_taken (found : d (.address call.dto.addressId) = some address)
    (mine : address.user = call.userId) (taken : d (.orderByKey call.idempotencyKey) ≠ none) :
    (runCheckoutTransaction distance call address).wp .serial (fun _ _ => False)
      (fun e => e = keyTaken ↔ Repeatable call d) (View.start d 0) := by
  unfold runCheckoutTransaction prepareOrder
  simp only [wp_bind]
  refine wp_mono _ takeCart_spec (fun items w kept => ?_) fun e failed =>
    ⟨fun clash => absurd clash failed.2, fun repeatable => absurd repeatable.cart failed.1⟩
  obtain ⟨ready, rfl, first⟩ := kept
  have same : ∀ k, ¬ StockKey k → w.rows k = d k := first.rows
  refine wp_mono _ quoteOrder_spec (fun quote u kept => ?_) fun e failed =>
    ⟨fun clash => absurd clash failed.2, fun repeatable => absurd (repeatable.coupons.congr same) failed.1⟩
  obtain ⟨usable, rows⟩ := kept
  have key : u.rows (.orderByKey call.idempotencyKey) = d (.orderByKey call.idempotencyKey) := by
    rw [rows]; exact same (.orderByKey call.idempotencyKey) (by rintro ⟨⟩)
  have id : u.rows (.order call.orderId) = d (.order call.orderId) := by
    rw [rows]; exact same (.order call.orderId) (by rintro ⟨⟩)
  refine wp_createOrderWithRetry rfl (fun used => ⟨(by rintro ⟨⟩), fun repeatable => ?_⟩) (fun free _ => ⟨fun _ => ?_, fun _ => rfl⟩)
    (fun open_ => absurd (key.symm.trans open_) taken) fun _ _ _ open_ => absurd (key.symm.trans open_) taken
  · exact absurd (id.trans repeatable.id) used
  · exact ⟨⟨address, found, mine⟩, ready, usable.congr fun k out => (same k out).symm, id.symm.trans free⟩

end

section
variable {distance : Distance} {call : CheckoutCall} {s : Store (Table Row) Mark}

/-- The request ends with an answer in `P` and changes nothing but idempotency rows. -/
def Ends (r : Request) (s : Store (Table Row) Mark) (P : Answer → Prop) : Prop :=
  P (r.run s).1 ∧ shopSide (r.run s).2.rows = shopSide s.rows

variable {P : Answer → Prop}

theorem ends_tx {α : Type} {body : Action α} {ok : α → Request} {err : Err → Request}
    (spec : body.wp .serial (fun a w => shopSide w.rows = shopSide s.rows ∧
        ∀ t : Store (Table Row) Mark, t.rows = w.rows → Ends (ok a) t P)
      (fun e => Ends (err e) s P) (View.start s.rows 0)) : Ends (.tx body ok err) s P := by
  unfold Ends
  rcases Req.run_tx ok err spec with ⟨a, w, ⟨kept, next⟩, runs⟩ | ⟨e, next, runs⟩
  · obtain ⟨holds, same⟩ := next (s.commit w) rfl
    rw [runs]
    exact ⟨holds, same.trans kept⟩
  · rw [runs]
    exact next

theorem shopSide_continues {L : Mark → Prop} {key : String} {w : View (Table Row) Mark}
    (more : (View.start s.rows 0).Continues (· = .idempotency key) L w) : shopSide w.rows = shopSide s.rows :=
  shopSide_congr fun k other => more.rows k (other key)

theorem done_ends {answer : Answer} (holds : P answer) : Ends (.done answer) s P := ⟨holds, rfl⟩

theorem fail_ends {e : Err} (holds : P (.failed (normalizeError e))) : Ends (failCheckout call e) s P := by
  refine ends_tx (wp_mono _ (Q := fun _ w => shopSide w.rows = shopSide s.rows) (E := fun _ => True) ?_
    (fun _ w kept => ⟨kept, fun t _ => done_ends holds⟩) fun _ _ => done_ends holds)
  exact wp_deleteWhere fun w more _ => shopSide_continues more

theorem cache_ends {response : CheckoutResponse} (holds : P (.response response)) :
    Ends (cacheResponse call response) s P := by
  refine ends_tx (wp_mono _ (Q := fun _ w => shopSide w.rows = shopSide s.rows) (E := fun _ => True) ?_
    (fun _ w kept => ⟨kept, fun t _ => done_ends holds⟩) fun _ _ => done_ends holds)
  refine wp_markKeyCompleted (fun w more => ?_) fun w more _ _ => shopSide_continues more
  rw [more.rows_same]
  rfl

theorem recover_ends (response : CheckoutResponse)
    (found : existingResponse s.rows call.idempotencyKey = some response) (holds : P (.response response)) :
    Ends (recoverOrder call) s P := by
  refine ends_tx ?_
  unfold recoverResponseFromExistingOrder
  simp only [wp_bind]
  rw [wp_note, wp_select]
  rintro d m ⟨rfl, rfl⟩
  rw [View.mark_rows, View.start_rows, found]
  exact ⟨rfl, fun t _ => cache_ends holds⟩

/-- An order of the user stands under the key, and the key's idempotency row is gone. -/
structure Abandoned (call : CheckoutCall) (d : Db) (id : Id) (order : Order) : Prop where
  keyed : d (.orderByKey call.idempotencyKey) = some id
  stands : d (.order id) = some order
  customer : order.customer = some call.userId
  gone : d (.idempotency call.idempotencyKey) = none

theorem business_ends {id : Id} {order : Order} (keyed : s.rows (.orderByKey call.idempotencyKey) = some id)
    (stands : s.rows (.order id) = some order) : Ends (businessPhase distance call) s fun answer =>
      answer = .response (buildCheckoutResponseFromOrder s.rows id order) ↔ Repeatable call s.rows := by
  refine ends_tx ?_
  unfold findOwnedAddressOrFail
  rw [wp_bind, wp_select]
  rintro d m ⟨rfl, rfl⟩
  rw [wp_orFail]
  refine ⟨fun address owned => ⟨rfl, fun t same => ?_⟩, fun missing => fail_ends ⟨nofun, fun repeatable => ?_⟩⟩
  · obtain ⟨found, mine⟩ := Option.filter_eq_some_iff.mp owned
    refine ends_tx (wp_mono _ (runCheckoutTransaction_taken (d := t.rows) ?_ (by simpa using mine) ?_)
      (fun _ _ no => no.elim) fun e clash => ?_)
    · rw [same]; exact found
    · rw [same, View.looking_rows, View.start_rows, keyed]; simp
    have rows : t.rows = s.rows := same
    rw [rows] at clash
    split
    · rename_i taken
      refine recover_ends (buildCheckoutResponseFromOrder s.rows id order) ?_ ⟨fun _ => clash.mp taken, fun _ => rfl⟩
      rw [existingResponse, rows, keyed]
      simp [stands]
    · rename_i other
      exact fail_ends ⟨nofun, fun repeatable => absurd (clash.mpr repeatable) other⟩
  · obtain ⟨address, found, mine⟩ := repeatable.address
    rw [View.start_rows, found] at missing
    simp [mine] at missing

/-- The repeated call is answered with the order and changes nothing but idempotency rows. -/
def Recovers (distance : Distance) (call : CheckoutCall) (s : Store (Table Row) Mark) (id : Id) (order : Order) : Prop :=
  Ends (checkout distance call) s (· = .response (buildCheckoutResponseFromOrder s.rows id order))

/-- A repeated call is recovered exactly when it passes every check before the unique index. -/
theorem recovers_iff {id : Id} {order : Order} (abandoned : Abandoned call s.rows id order) :
    Recovers distance call s id order ↔ Repeatable call s.rows := by
  have ends : Ends (checkout distance call) s fun answer =>
      answer = .response (buildCheckoutResponseFromOrder s.rows id order) ↔ Repeatable call s.rows := by
    refine ends_tx ?_
    unfold insertClaim
    refine wp_insert (fun full => absurd abandoned.gone full) fun w more _ _ _ => ?_
    have same : shopSide w.rows = shopSide s.rows := shopSide_continues more
    refine ⟨same, fun t rows => ?_⟩
    have keyed : t.rows (.orderByKey call.idempotencyKey) = some id := by
      rw [rows, more.rows _ (by simp)]; exact abandoned.keyed
    have stands : t.rows (.order id) = some order := by
      rw [rows, more.rows _ (by simp)]; exact abandoned.stands
    have next : Ends (businessPhase distance call) t _ := business_ends keyed stands
    rwa [← response_shopSide, ← repeatable_shopSide, rows, same, response_shopSide, repeatable_shopSide] at next
  exact ⟨fun recovers => ends.1.mp recovers.1, fun repeatable => ⟨ends.1.mpr repeatable, ends.2⟩⟩

end

def KeyRequest (distance : Distance) (r : Request) : Prop :=
  (∃ call, r = checkout distance call) ∨ ∃ keys now, r = handleCleanup keys now

/-- The server stops once the order of customer 3 has committed; the cleanup deletes the pending row. -/
def crashed : Store (Table Row) Mark :=
  ((handleCleanup [sharedKey] 400000).run ((checkout flat (orderBy 3 30 1 1000)).stopped 3 ⟨market, []⟩)).2

/-- Customer 3 has put product 5 into the cart again. -/
def refilled : Store (Table Row) Mark :=
  ((single (addItem 3 ⟨5, none, 1⟩ 301 450000) fun _ => .done).run crashed).2

theorem crashed_reached : Serial (KeyRequest flat) (fun _ _ => True) ⟨market, []⟩ crashed := by
  have placed := Req.stopped_leads 3 (checkout flat (orderBy 3 30 1 1000)) ⟨market, []⟩
  have cleaned := (handleCleanup [sharedKey] 400000).run_leads _ (Req.obeys_any _
    ((checkout flat (orderBy 3 30 1 1000)).stopped 3 ⟨market, []⟩))
  exact .tail (.tail (.refl _) (Or.inl ⟨_, rfl⟩) placed) (Or.inr ⟨_, _, rfl⟩) cleaned

theorem abandoned_of {call : CheckoutCall} {d : Db} {id : Id} (keyed : d (.orderByKey call.idempotencyKey) = some id)
    (owned : (d (.order id)).any (·.customer = some call.userId)) (gone : d (.idempotency call.idempotencyKey) = none) :
    ∃ order, Abandoned call d id order := by
  obtain ⟨order, stands, mine⟩ := (Option.any_eq_true _ _).mp owned
  exact ⟨order, keyed, stands, by simpa using mine, gone⟩

set_option maxRecDepth 4000 in
/-- With the cart filled again, the repeated call finds its order. -/
theorem refilled_recovers : ∃ order, Recovers flat (orderBy 3 30 2 500000) refilled 1 order := by
  obtain ⟨order, abandoned⟩ : ∃ order, Abandoned (orderBy 3 30 2 500000) refilled.rows 1 order := abandoned_of
    (by decide +kernel) (by decide +kernel) (by decide +kernel)
  have address : ∃ address, refilled.rows (.address 30) = some address ∧ address.user = 3 := by
    have found : (refilled.rows (.address 30)).any (·.user = 3) := by decide +kernel
    obtain ⟨address, stands, mine⟩ := (Option.any_eq_true _ _).mp found
    exact ⟨address, stands, by simpa using mine⟩
  have cart : CartReady 3 refilled.rows :=
    ⟨by decide +kernel, by decide +kernel, by decide +kernel, by decide +kernel, by decide +kernel, by decide +kernel⟩
  have coupons : ∀ items d, CouponsUsable (orderBy 3 30 2 500000) items d := by
    intro items d
    constructor
    · intro group _ c named
      cases named
    · intro c named
      cases named
  exact ⟨order, (recovers_iff abandoned).mpr ⟨address, cart, coupons _ _, by decide +kernel⟩⟩

set_option maxRecDepth 4000 in
/-- The first call has emptied the cart: the repeated call fails on it. -/
theorem not_recovers : ¬ ∀ (distance : Distance) (call : CheckoutCall) (d₀ : Db) (s : Store (Table Row) Mark) (id : Id)
    (order : Order), Keyed d₀ → Serial (KeyRequest distance) (fun _ _ => True) ⟨d₀, []⟩ s →
    Abandoned call s.rows id order → Recovers distance call s id order := by
  intro claimed
  obtain ⟨order, abandoned⟩ : ∃ order, Abandoned (orderBy 3 30 2 500000) crashed.rows 1 order := abandoned_of
    (by decide +kernel) (by decide +kernel) (by decide +kernel)
  have recovers := claimed flat _ market crashed 1 order market_keyed crashed_reached abandoned
  have failed : ((checkout flat (orderBy 3 30 2 500000)).run crashed).1 =
      .failed (.badRequest "Giỏ hàng trống, không thể đặt hàng") := by decide +kernel
  cases failed.symm.trans recovers.1

end Marketplace
