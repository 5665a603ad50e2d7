import Marketplace.Orders.Preview

/-! The response of a fresh checkout against the one rebuilt from the rows it stored. -/
namespace Marketplace
open ReadCommitted ReadCommitted.Tx

structure SameSubOrder (a b : CheckoutResponseSubOrder) : Prop where
  fields : { a with items := [] } = { b with items := [] }
  items : a.items.Perm b.items

/-- Equal field by field, the sub-orders and their items in any order. -/
structure SameResponse (a b : CheckoutResponse) : Prop where
  fields : { a with subOrders := [] } = { b with subOrders := [] }
  subOrders : ∃ l, l.Perm b.subOrders ∧ List.Forall₂ SameSubOrder a.subOrders l

theorem SameSubOrder.refl (a : CheckoutResponseSubOrder) : SameSubOrder a a := ⟨rfl, List.Perm.refl _⟩

/-- The call's global code names a coupon that takes something off its cart. -/
def Discounted (call : CheckoutCall) (d : Db) : Prop :=
  ∃ coupon, namedCoupon d call.dto.globalCouponCode = some coupon ∧ computeCouponDiscount coupon.2
    ((groupItemsByShop (validItems (loadCart d call.userId))).map fun group => computeShopSubtotal group.items).sum ≠ 0

/-- The delivery address has its text fields, which the columns let be null. -/
def Addressed (call : CheckoutCall) (d : Db) : Prop :=
  ∃ address, d (.address call.dto.addressId) = some address ∧ address.recipientName ≠ none ∧ address.phone ≠ none ∧
    address.addressLine ≠ none

theorem totalShopSubtotals_quoteOf (distance : Distance) (call : CheckoutCall) (address : Address) (d : Db)
    (items : List CartLine) : totalShopSubtotals (quoteOf distance call address d items).plans =
      ((groupItemsByShop items).map fun group => computeShopSubtotal group.items).sum := by
  rw [totalShopSubtotals, quoteOf, List.map_map]
  rfl

theorem discounted_iff (distance : Distance) (call : CheckoutCall) (address : Address) (d : Db) : Discounted call d ↔
    (quoteOf distance call address d (validItems (loadCart d call.userId))).globalDiscount ≠ 0 := by
  have discount : (quoteOf distance call address d (validItems (loadCart d call.userId))).globalDiscount =
      discountOf (namedCoupon d call.dto.globalCouponCode) (totalShopSubtotals
        (quoteOf distance call address d (validItems (loadCart d call.userId))).plans) := rfl
  rw [discount, totalShopSubtotals_quoteOf, Discounted]
  cases namedCoupon d call.dto.globalCouponCode with
  | none => simp [discountOf]
  | some coupon => simp [discountOf]

theorem shownDiscount_some {x : Money} : shownDiscount (some x) = some x ↔ x ≠ 0 := by
  simp [shownDiscount, Option.filter_eq_some_iff]

theorem shownAddress_eq {address : ShippingAddressSnapshot} : shownAddress address = address ↔
    address.recipientName ≠ none ∧ address.phone ≠ none ∧ address.addressLine ≠ none := by
  obtain ⟨name, phone, line, lat, lng⟩ := address
  cases name <;> cases phone <;> cases line <;> simp [shownAddress]

/-- A group shows the shop of its lines. -/
theorem group_shop {d : Db} {user : Id} {group : ShopGroup} (member : group ∈ groupItemsByShop (validItems (loadCart d user))) :
    d (.shop group.shopId) = some group.shop ∧ ∀ it ∈ group.items, it ∈ validItems (loadCart d user) := by
  obtain ⟨s, _, grouped⟩ := List.mem_filterMap.mp member
  obtain ⟨first, head, rfl⟩ := Option.map_eq_some_iff.mp grouped
  have mine : first ∈ (validItems (loadCart d user)).filter fun it => it.product.shop = s := List.mem_of_mem_head? head
  obtain ⟨inside, own⟩ := List.mem_filter.mp mine
  have owner : first.product.shop = s := by simpa using own
  refine ⟨?_, fun it inside => (List.mem_filter.mp inside).1⟩
  rw [← owner]
  exact (mem_validItems inside).2.1

theorem addStock_isSome {items : List StockLine} {sign : Int} {d : Db} :
    (∀ p, (addStock items sign d (.product p)).isSome = (d (.product p)).isSome) ∧
      ∀ w, (addStock items sign d (.variant w)).isSome = (d (.variant w)).isSome :=
  ⟨fun _ => Option.isSome_map .., fun _ => Option.isSome_map ..⟩

section
variable {distance : Distance} {call : CheckoutCall} {address : Address} {quote : Quote} {v w : View (Table Row) Mark}
  {d : Db}

theorem Placed.shopRow {items : List CartLine} (placed : Placed distance call address items quote v w) (s : Id) :
    w.rows (.shop s) = v.rows (.shop s) := by
  obtain ⟨u, t, before, stored, _, after⟩ := placed.stored
  rw [after (.shop s) id nofun, stored.frame (.shop s) nofun (fun _ => nofun) id]
  exact before (.shop s) id (by simp [OrderKey])

/-- A stored line is shown as it was bought: its product and variant still stand. -/
theorem Placed.shownItem (placed : Placed distance call address (validItems (loadCart d call.userId)) quote v w)
    (same : ∀ k, ¬ KeyKey k → v.rows k = d k) {it : CartLine} (bought : it ∈ validItems (loadCart d call.userId)) (s : Id) :
    (newOrderItem s it).product.filter (fun p => (w.rows (.product p)).isSome) = some it.productId ∧
      (newOrderItem s it).variant.filter (fun x => (w.rows (.variant x)).isSome) = it.variant.map (·.1) := by
  obtain ⟨product, _, variant⟩ := mem_validItems bought
  have products : ∀ p, (w.rows (.product p)).isSome = (d (.product p)).isSome := by
    intro p
    rw [placed.taken (.product p) trivial, addStock_isSome.1, same (.product p) fun ⟨_, no⟩ => nomatch no]
  have variants : ∀ x, (w.rows (.variant x)).isSome = (d (.variant x)).isSome := by
    intro x
    rw [placed.taken (.variant x) trivial, addStock_isSome.2, same (.variant x) fun ⟨_, no⟩ => nomatch no]
  refine ⟨?_, ?_⟩
  · change Option.filter _ (some it.productId) = _
    simp [products, product]
  · change (it.variant.map (·.1)).filter _ = _
    cases chosen : it.variant with
    | none => rfl
    | some pair => simp [variants, variant pair.1 pair.2 chosen]

theorem Placed.rebuiltSubOrder
    (placed : Placed distance call address (validItems (loadCart d call.userId))
      (quoteOf distance call address d (validItems (loadCart d call.userId))) v w)
    (same : ∀ k, ¬ KeyKey k → v.rows k = d k) (referenced : Referenced v.rows) {plan : SubOrderPlan × Nat}
    (member : plan ∈ (quoteOf distance call address d (validItems (loadCart d call.userId))).plans.zipIdx) :
    responseSubOrder w.rows (call.subOrderId plan.2, newSubOrder call.orderId plan.1) =
      ⟨call.subOrderId plan.2, some plan.1.shopId, plan.1.shop.name, plan.1.shopSubtotal, plan.1.shippingFee,
        plan.1.shopDiscount, plan.1.shopCoupon.map (·.2.code), plan.1.shopTotal, plan.1.items.map responseItem⟩ := by
  have items := placed.boughtItems referenced.subOrders member
  have planned := List.fst_mem_of_mem_zipIdx member
  obtain ⟨group, grouped, planOf⟩ := List.mem_map.mp planned
  obtain ⟨shop, inside⟩ := group_shop grouped
  have shopId : plan.1.shopId = group.shopId := by rw [← planOf]; rfl
  have shopRow : plan.1.shop = group.shop := by rw [← planOf]; rfl
  have lines : plan.1.items = group.items := by rw [← planOf]; rfl
  have stands : w.rows (.shop plan.1.shopId) = some plan.1.shop := by
    rw [placed.shopRow, same (.shop plan.1.shopId) (fun ⟨_, no⟩ => nomatch no), shopId, shopRow, shop]
  have shown : (loadItems w.rows (call.subOrderId plan.2)).map (fun it =>
      (⟨it.product, it.productName, it.variant, it.variantName, it.quantity, it.priceAtPurchase⟩ :
        CheckoutResponseItem)) = plan.1.items.map responseItem := by
    have loaded : loadItems w.rows (call.subOrderId plan.2) =
        (orderItems w.rows (call.subOrderId plan.2)).map fun item =>
          { item with
            product := item.product.filter fun p => (w.rows (.product p)).isSome
            variant := item.variant.filter fun x => (w.rows (.variant x)).isSome } := by
      rw [loadItems, orderItems, List.map_filterMap]
    rw [loaded, items, List.map_map, List.map_map]
    refine List.map_congr_left fun it member => ?_
    obtain ⟨product, variant⟩ := placed.shownItem same (inside it (lines ▸ member)) (call.subOrderId plan.2)
    simp only [Function.comp_apply, product, variant]
    rfl
  have name : ((some plan.1.shopId).filter fun id => (w.rows (.shop id)).isSome) = some plan.1.shopId := by
    simp [stands]
  simp only [responseSubOrder, newSubOrder, Option.bind_some, stands, Option.map_some, Option.getD_some, name]
  rw [shown]

/-- Rebuilt on the spot, only the global discount and the address can differ. -/
theorem Placed.rebuilt
    (placed : Placed distance call address (validItems (loadCart d call.userId))
      (quoteOf distance call address d (validItems (loadCart d call.userId))) v w)
    (same : ∀ k, ¬ KeyKey k → v.rows k = d k) (referenced : Referenced v.rows) :
    buildCheckoutResponseFromOrder w.rows call.orderId
        (newOrder call address (quoteOf distance call address d (validItems (loadCart d call.userId)))) =
      { buildCheckoutResponse call address (quoteOf distance call address d (validItems (loadCart d call.userId))) with
        globalDiscountAmount := some (quoteOf distance call address d (validItems (loadCart d call.userId))).globalDiscount
        shippingAddress := shownAddress (snapshotAddress address) } := by
  have subs : (subOrdersOf w.rows call.orderId).map (responseSubOrder w.rows) =
      (buildCheckoutResponse call address
        (quoteOf distance call address d (validItems (loadCart d call.userId)))).subOrders := by
    rw [placed.subOrders (referenced.orders _ placed.free), List.map_map]
    exact List.map_congr_left fun plan member => placed.rebuiltSubOrder same referenced member
  simp only [buildCheckoutResponseFromOrder, subs, placed.payment]
  rfl

end

theorem rebuilt_shopSide (d : Db) (id : Id) (order : Order) :
    buildCheckoutResponseFromOrder (shopSide d) id order = buildCheckoutResponseFromOrder d id order := rfl

/-- A checkout's response is the one its rows give back exactly when the cart has a discount and the address its fields. -/
theorem rebuilt_same {distance : Distance} {call : CheckoutCall} {s : Store (Table Row) Mark} {response : CheckoutResponse}
    {order : Order} (referenced : Referenced s.rows) (free : s.rows (.order call.orderId) = none)
    (answered : ((checkout distance call).run s).1 = .response response)
    (stands : ((checkout distance call).run s).2.rows (.order call.orderId) = some order) :
    SameResponse response (buildCheckoutResponseFromOrder ((checkout distance call).run s).2.rows call.orderId order) ↔
      Discounted call s.rows ∧ Addressed call s.rows := by
  obtain ⟨address, v, w, found, before, placed, _, after, fresh⟩ := checkout_places free stands
  have built := fresh.symm.trans answered
  injection built with built
  subst built
  have side : shopSide ((checkout distance call).run s).2.rows = shopSide w.rows :=
    shopSide_congr fun k other => after k fun ⟨key, same⟩ => other key same
  rw [after (.order call.orderId) (fun ⟨_, no⟩ => nomatch no), placed.order] at stands
  obtain rfl := Option.some.inj stands
  rw [← rebuilt_shopSide, side, rebuilt_shopSide, placed.rebuilt before (referenced.beside before)]
  have addressed : Addressed call s.rows ↔ shownAddress (snapshotAddress address) = snapshotAddress address := by
    rw [shownAddress_eq, Addressed]
    constructor
    · rintro ⟨row, there, full⟩
      obtain rfl := Option.some.inj (found.symm.trans there)
      exact full
    · exact fun full => ⟨address, found, full⟩
  rw [discounted_iff distance call address, addressed]
  constructor
  · intro same
    have fields := same.fields
    simp only [CheckoutResponse.mk.injEq] at fields
    obtain ⟨_, _, _, discount, _, _, shown, _⟩ := fields
    exact ⟨shownDiscount_some.mp discount, shown.symm⟩
  · rintro ⟨discounted, shown⟩
    have discount : shownDiscount (some (quoteOf distance call address s.rows
        (validItems (loadCart s.rows call.userId))).globalDiscount) = _ := shownDiscount_some.mpr discounted
    refine ⟨?_, _, List.Perm.refl _, List.forall₂_same.mpr fun a _ => .refl a⟩
    simp only [buildCheckoutResponse, discount, shown]

/-- A checkout without coupons. -/
def fullPrice : CheckoutCall := { bothShops with dto := ⟨30, .cod, none, []⟩ }

theorem answered_of {call : CheckoutCall} {s : Store (Table Row) Mark}
    (stands : (((checkout (fun _ _ => 1) call).run s).2.rows (.order call.orderId)).isSome)
    (free : s.rows (.order call.orderId) = none) : ∃ response order,
      ((checkout (fun _ _ => 1) call).run s).1 = .response response ∧
        ((checkout (fun _ _ => 1) call).run s).2.rows (.order call.orderId) = some order ∧
        response.globalDiscountAmount = shownDiscount order.globalDiscountAmount := by
  obtain ⟨order, stored⟩ := Option.isSome_iff_exists.mp stands
  obtain ⟨address, v, w, _, _, placed, _, after, answered⟩ := checkout_places free stored
  have row := after (.order call.orderId) fun ⟨_, no⟩ => nomatch no
  rw [stored, placed.order] at row
  obtain rfl := Option.some.inj row
  exact ⟨_, _, answered, stored, rfl⟩

set_option maxRecDepth 4000 in
/-- With the global coupon both responses are the same. -/
theorem bothShops_rebuilt : ∃ response order,
    ((checkout (fun _ _ => 1) bothShops).run ⟨twoShops, []⟩).1 = .response response ∧
      SameResponse response
        (buildCheckoutResponseFromOrder ((checkout (fun _ _ => 1) bothShops).run ⟨twoShops, []⟩).2.rows 1 order) := by
  obtain ⟨response, order, answered, stands, _⟩ : ∃ response order, _ ∧ _ ∧ _ :=
    answered_of (by decide +kernel : (((checkout _ bothShops).run ⟨twoShops, []⟩).2.rows (.order 1)).isSome) rfl
  have discounted : Discounted bothShops twoShops := ⟨_, rfl, by decide +kernel⟩
  exact ⟨response, order, answered, (rebuilt_same ⟨fun _ _ => rfl, fun _ _ => rfl⟩ rfl answered stands).mpr
    ⟨discounted, _, rfl, nofun, nofun, nofun⟩⟩

set_option maxRecDepth 4000 in
/-- Without a coupon the fresh response says null and the rebuilt one says 0. -/
theorem not_rebuilt_same : ¬ ∀ (distance : Distance) (call : CheckoutCall) (s : Store (Table Row) Mark)
    (response : CheckoutResponse) (order : Order), Referenced s.rows → s.rows (.order call.orderId) = none →
    ((checkout distance call).run s).1 = .response response →
    ((checkout distance call).run s).2.rows (.order call.orderId) = some order →
    SameResponse response
      (buildCheckoutResponseFromOrder ((checkout distance call).run s).2.rows call.orderId order) := by
  intro claimed
  obtain ⟨response, order, answered, stands, shown⟩ : ∃ response order, _ ∧ _ ∧ _ :=
    answered_of (by decide +kernel : (((checkout _ fullPrice).run ⟨twoShops, []⟩).2.rows (.order 1)).isSome) rfl
  have same := claimed _ fullPrice ⟨twoShops, []⟩ response order ⟨fun _ _ => rfl, fun _ _ => rfl⟩ rfl answered stands
  have kept : (((checkout (fun _ _ => 1) fullPrice).run ⟨twoShops, []⟩).2.rows (.order 1)).map (·.globalDiscountAmount) =
      some (some 0) := by decide +kernel
  have zero : order.globalDiscountAmount = some 0 := by
    rw [show ((checkout (fun _ _ => 1) fullPrice).run ⟨twoShops, []⟩).2.rows (.order 1) = some order from stands] at kept
    exact Option.some.inj kept
  have fields := same.fields
  simp only [CheckoutResponse.mk.injEq] at fields
  have equal : response.globalDiscountAmount = order.globalDiscountAmount := fields.2.2.2.1
  rw [shown, zero] at equal
  cases equal

end Marketplace
