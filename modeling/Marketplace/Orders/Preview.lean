import Marketplace.Orders.CrashRecovery
import Marketplace.Orders.MasterTotal

/-! The preview of a checkout, the checkout from the same state and the recompute of what it stored. -/
namespace Marketplace
open ReadCommitted ReadCommitted.Tx

def FREESHIP_UPSELL_WINDOW : Money := 10000000
def LOW_STOCK_THRESHOLD : Int := 5

structure CheckoutPreviewDto where
  addressId : Id
  globalCouponCode : Option String
  shopCoupons : List (Id × String)

structure PreviewCall where
  userId : Id
  dto : CheckoutPreviewDto
  now : Time

structure PreviewItem where
  productId : Id
  variantId : Option Id
  productName : String
  variantName : Option String
  productThumbnail : Option String
  price : Money
  quantity : Nat
  stockWarning : Option String
deriving DecidableEq

structure PreviewShop where
  shopId : Id
  shopName : String
  items : List PreviewItem
  shippingFee : Money
  shopSubtotal : Money
  freeshipUpsellNeeded : Option Money
deriving DecidableEq

structure CheckoutPreviewResponse where
  shops : List PreviewShop
  totalShippingFee : Money
  totalDiscount : Money
  totalAmount : Money
deriving DecidableEq

/-- The stock of the variant, or of a product without one. -/
def deriveStockWarning (it : CartLine) : Option String :=
  let stock := (it.variant.map (·.2.stockQuantity)).getD it.product.stockQuantity
  if stock ≤ 0 then some "Hết hàng"
  else if stock ≤ LOW_STOCK_THRESHOLD then some s!"Chỉ còn {stock} sản phẩm"
  else none

def computeFreeshipUpsell (shopSubtotal : Money) : Option Money :=
  if FREE_SHIPPING_THRESHOLD ≤ shopSubtotal then none
  else
    let needed := FREE_SHIPPING_THRESHOLD - shopSubtotal
    if needed ≤ FREESHIP_UPSELL_WINDOW then some needed else none

def previewItem (it : CartLine) : PreviewItem :=
  ⟨it.productId, it.variant.map (·.1), it.product.name, it.variant.bind (·.2.name), it.product.thumbnailUrl,
    unitPrice it, it.quantity, deriveStockWarning it⟩

/-- What the loop over the shops adds up. -/
structure PreviewTotals where
  shops : List PreviewShop
  totalShippingFee : Money
  totalDiscount : Money
  totalShopTotals : Money
  totalShopSubtotals : Money

def previewShops (distance : Distance) (call : PreviewCall) (address : Address) :
    List ShopGroup → PreviewTotals → Action PreviewTotals
  | [], totals => pure totals
  | group :: rest, totals => do
    let shopSubtotal := computeShopSubtotal group.items
    let shopCoupon ← lockAndValidateCoupon (call.dto.shopCoupons.reverse.lookup group.shopId) .shop
      (some group.shopId) shopSubtotal call.now
    let shopDiscount := discountOf shopCoupon shopSubtotal
    let shippingFee := calculateShippingFee distance group.shop address.lat address.lng shopSubtotal
    previewShops distance call address rest
      { shops := totals.shops ++ [⟨group.shopId, group.shop.name, group.items.map previewItem, shippingFee,
          shopSubtotal, computeFreeshipUpsell shopSubtotal⟩]
        totalShippingFee := totals.totalShippingFee + shippingFee
        totalDiscount := totals.totalDiscount + shopDiscount
        totalShopTotals := totals.totalShopTotals + (shopSubtotal - shopDiscount + shippingFee)
        totalShopSubtotals := totals.totalShopSubtotals + shopSubtotal }

def previewOrder (distance : Distance) (call : PreviewCall) (address : Address) : Action CheckoutPreviewResponse := do
  let (valid, unavailable) ← getActiveCartItemsForCheckout call.userId
  require (unavailable = []) (.unavailable "Một số sản phẩm trong giỏ hàng không còn khả dụng" unavailable)
  require (valid ≠ []) (.badRequest "Giỏ hàng trống, không thể xem trước")
  let totals ← previewShops distance call address (groupItemsByShop valid) ⟨[], 0, 0, 0, 0⟩
  let globalCoupon ←
    lockAndValidateCoupon call.dto.globalCouponCode .global none totals.totalShopSubtotals call.now
  let globalDiscount := discountOf globalCoupon totals.totalShopSubtotals
  return ⟨totals.shops, totals.totalShippingFee, totals.totalDiscount + globalDiscount,
    max 0 (totals.totalShopTotals - globalDiscount)⟩

/-- The second transaction only locks: its rollback is a commit of nothing. -/
def checkoutPreview (distance : Distance) (call : PreviewCall) :
    Req (Table Row) Mark Err (Except Err CheckoutPreviewResponse) :=
  .tx (findOwnedAddressOrFail call.userId call.dto.addressId)
    (fun address => .tx (previewOrder distance call address) (fun shown => .done (.ok shown)) fun e => .done (.error e))
    fun e => .done (.error e)

/-- The preview of a checkout, which needs no payment method. -/
def CheckoutCall.preview (call : CheckoutCall) (now : Time) : PreviewCall where
  userId := call.userId
  dto := ⟨call.dto.addressId, call.dto.globalCouponCode, call.dto.shopCoupons⟩
  now := now

/-- The coupon a code names. -/
def namedCoupon (d : Db) (code : Option String) : Option (Id × Coupon) := do
  let c ← code
  if isBlank c then none
  let id ← d (.couponByCode c)
  let coupon ← d (.coupon id)
  some (id, coupon)

section
variable (distance : Distance) (call : CheckoutCall) (address : Address) (d : Db)

def planOf (group : ShopGroup) : SubOrderPlan :=
  let shopSubtotal := computeShopSubtotal group.items
  let shopCoupon := namedCoupon d (shopCouponCode call.dto group.shopId)
  let shopDiscount := discountOf shopCoupon shopSubtotal
  let shippingFee := calculateShippingFee distance group.shop address.lat address.lng shopSubtotal
  ⟨group.shopId, group.shop, group.items, shopSubtotal, shopDiscount, shopCoupon, shippingFee,
    shopSubtotal - shopDiscount + shippingFee⟩

/-- The price of the lines by the coupons of one state. -/
def quoteOf (items : List CartLine) : Quote :=
  let plans := (groupItemsByShop items).map (planOf distance call address d)
  let globalCoupon := namedCoupon d call.dto.globalCouponCode
  let globalDiscount := discountOf globalCoupon (totalShopSubtotals plans)
  ⟨plans, globalCoupon, globalDiscount, max 0 (sumShopTotals plans - globalDiscount)⟩

def shownShop (plan : SubOrderPlan) : PreviewShop :=
  ⟨plan.shopId, plan.shop.name, plan.items.map previewItem, plan.shippingFee, plan.shopSubtotal,
    computeFreeshipUpsell plan.shopSubtotal⟩

/-- A quote as the preview shows it. -/
def shownQuote (quote : Quote) : CheckoutPreviewResponse :=
  ⟨quote.plans.map shownShop, (quote.plans.map (·.shippingFee)).sum,
    (quote.plans.map (·.shopDiscount)).sum + quote.globalDiscount, quote.grandTotal⟩

end

theorem namedCoupon_stands {d : Db} {code : Option String} {id : Id} {coupon : Coupon}
    (named : namedCoupon d code = some (id, coupon)) : d (.coupon id) = some coupon := by
  obtain ⟨c, _, rest⟩ := Option.bind_eq_some_iff.mp named
  by_cases blank : isBlank c
  · simp [blank] at rest
  · obtain ⟨id', _, coupons⟩ := Option.bind_eq_some_iff.mp (by simpa [blank] using rest)
    obtain ⟨coupon', stands, same⟩ := Option.bind_eq_some_iff.mp coupons
    cases same
    exact stands

theorem namedCoupon_congr {d e : Db} (same : ∀ k, ¬ StockKey k → e k = d k) (code : Option String) :
    namedCoupon e code = namedCoupon d code := by
  have byCode : ∀ c, e (.couponByCode c) = d (.couponByCode c) := fun c => same (.couponByCode c) id
  have byId : ∀ i, e (.coupon i) = d (.coupon i) := fun i => same (.coupon i) id
  simp only [namedCoupon, byCode, byId]

theorem quoteOf_congr {distance : Distance} {call : CheckoutCall} {address : Address} {d e : Db}
    (same : ∀ k, ¬ StockKey k → e k = d k) (items : List CartLine) :
    quoteOf distance call address e items = quoteOf distance call address d items := by
  have plans : planOf distance call address e = planOf distance call address d := by
    funext group
    rw [planOf, namedCoupon_congr same, planOf]
  rw [quoteOf, plans, namedCoupon_congr same, quoteOf]

theorem quoteOf_shopSide (distance : Distance) (call : CheckoutCall) (address : Address) (d : Db) (items : List CartLine) :
    quoteOf distance call address (shopSide d) items = quoteOf distance call address d items := rfl

theorem loadCart_shopSide (d : Db) (user : Id) : loadCart (shopSide d) user = loadCart d user := rfl

section
variable {distance : Distance} {call : CheckoutCall} {address : Address} {v : View (Table Row) Mark}

/-- A transaction that runs alone finds the coupon its code names. -/
theorem lockAndValidateCoupon_named {code : Option String} {expectedType : CouponType} {shopId : Option Id}
    {subtotal : Money} {now : Time} : (lockAndValidateCoupon code expectedType shopId subtotal now).wp .serial
      (fun found w => found = namedCoupon v.rows code ∧ w.rows = v.rows) (fun _ => True) v := by
  apply wp_lockAndValidateCoupon
  · intro blank
    refine ⟨?_, rfl⟩
    cases code with
    | none => rfl
    | some c => simp [namedCoupon, blank c rfl]
  · intros
    trivial
  · rintro c d m id coupon w rfl full ⟨rfl, rfl⟩ indexed stands _ more _
    exact ⟨by simp [namedCoupon, full, indexed, stands], more.rows_same⟩

theorem quoteOrder_quotes {items : List CartLine} : (quoteOrder distance call address items).wp .serial
    (fun quote w => quote = quoteOf distance call address v.rows items ∧ w.rows = v.rows) (fun _ => True) v := by
  unfold quoteOrder
  rw [wp_bind]
  have loop := wp_mapM (I := .serial) (E := fun _ => True) (v := v)
    (fun rest plans w => w.rows = v.rows ∧ plans ++ rest.map (planOf distance call address v.rows) =
      (groupItemsByShop items).map (planOf distance call address v.rows))
    (planSubOrder distance call address)
    (fun group rest plans w kept => by
      obtain ⟨same, split⟩ := kept
      unfold planSubOrder
      rw [wp_bind]
      refine wp_mono _ lockAndValidateCoupon_named (fun found u chosen => ?_) fun _ e => e
      obtain ⟨rfl, rows⟩ := chosen
      rw [wp_pure]
      refine ⟨rows.trans same, ?_⟩
      rw [same, ← split, List.map_cons, List.append_assoc]
      rfl)
    (groupItemsByShop items) [] ⟨rfl, rfl⟩
  refine wp_mono _ loop (fun plans w kept => ?_) fun _ e => e
  obtain ⟨same, split⟩ := kept
  rw [List.map_nil, List.append_nil] at split
  subst split
  rw [wp_bind]
  refine wp_mono _ lockAndValidateCoupon_named (fun found u chosen => ?_) fun _ e => e
  obtain ⟨rfl, rows⟩ := chosen
  rw [wp_pure, same]
  exact ⟨rfl, rows.trans same⟩

theorem findOwnedAddress_finds {user addressId : Id} : (findOwnedAddressOrFail user addressId).wp .serial
    (fun address w => v.rows (.address addressId) = some address ∧ w.rows = v.rows) (fun _ => True) v := by
  unfold findOwnedAddressOrFail
  rw [wp_bind, wp_select]
  rintro d m ⟨rfl, rfl⟩
  rw [wp_orFail]
  exact ⟨fun address owned => ⟨(Option.filter_eq_some_iff.mp owned).1, rfl⟩, fun _ => trivial⟩

/-- The running totals are those of the plans. -/
theorem previewShops_shows {now : Time} (groups : List ShopGroup) (totals : PreviewTotals) :
    (previewShops distance (call.preview now) address groups totals).wp .serial
      (fun shown w => w.rows = v.rows ∧ shown =
        ⟨totals.shops ++ (groups.map (planOf distance call address v.rows)).map shownShop,
          totals.totalShippingFee + ((groups.map (planOf distance call address v.rows)).map (·.shippingFee)).sum,
          totals.totalDiscount + ((groups.map (planOf distance call address v.rows)).map (·.shopDiscount)).sum,
          totals.totalShopTotals + sumShopTotals (groups.map (planOf distance call address v.rows)),
          totals.totalShopSubtotals + totalShopSubtotals (groups.map (planOf distance call address v.rows))⟩)
      (fun _ => True) v := by
  induction groups generalizing v totals with
  | nil =>
    rw [previewShops, wp_pure]
    simp [sumShopTotals, totalShopSubtotals]
  | cons group rest ih =>
    rw [previewShops, wp_bind]
    refine wp_mono _ lockAndValidateCoupon_named (fun found u chosen => ?_) fun _ e => e
    obtain ⟨rfl, rows⟩ := chosen
    refine wp_mono _ (ih _) (fun shown w last => ?_) fun _ e => e
    obtain ⟨same, rfl⟩ := last
    refine ⟨same.trans rows, ?_⟩
    rw [rows]
    simp only [sumShopTotals, totalShopSubtotals, List.map_cons, List.sum_cons]
    congr 1
    · exact List.append_assoc ..
    · exact add_assoc ..
    · exact add_assoc ..
    · exact add_assoc ..
    · exact add_assoc ..

theorem previewOrder_shows {now : Time} : (previewOrder distance (call.preview now) address).wp .serial
    (fun shown w => w.rows = v.rows ∧
      shown = shownQuote (quoteOf distance call address v.rows (validItems (loadCart v.rows call.userId))))
    (fun _ => True) v := by
  unfold previewOrder getActiveCartItemsForCheckout
  simp only [wp_bind]
  rw [wp_select]
  rintro d m ⟨rfl, rfl⟩
  rw [wp_pure, wp_require]
  refine ⟨fun _ => ?_, fun _ => trivial⟩
  rw [wp_require]
  refine ⟨fun _ => ?_, fun _ => trivial⟩
  refine wp_mono _ (previewShops_shows _ _) (fun totals u looped => ?_) fun _ e => e
  obtain ⟨same, rfl⟩ := looped
  refine wp_mono _ lockAndValidateCoupon_named (fun found w chosen => ?_) fun _ e => e
  obtain ⟨rfl, rows⟩ := chosen
  rw [wp_pure, same]
  refine ⟨rows.trans same, ?_⟩
  simp only [View.looking_rows, zero_add, List.nil_append]
  rfl

end

theorem checkoutPreview_shows {distance : Distance} {call : CheckoutCall} {now : Time} {s : Store (Table Row) Mark}
    {shown : CheckoutPreviewResponse} (previewed : ((checkoutPreview distance (call.preview now)).run s).1 = .ok shown) :
    ∃ address, s.rows (.address call.dto.addressId) = some address ∧
      shown = shownQuote (quoteOf distance call address s.rows (validItems (loadCart s.rows call.userId))) := by
  unfold checkoutPreview at previewed
  rcases Req.run_tx _ _ (findOwnedAddress_finds (v := View.start s.rows 0)) with ⟨address, w, ⟨found, same⟩, runs⟩ | ⟨e, _, runs⟩
  · rw [runs] at previewed
    rcases Req.run_tx _ _ (previewOrder_shows (v := View.start (s.commit w).rows 0)) with ⟨p, u, ⟨_, shows⟩, runs⟩ | ⟨e, _, runs⟩
    · rw [runs] at previewed
      cases previewed
      have rows : (s.commit w).rows = s.rows := same
      rw [View.start_rows, rows] at shows
      exact ⟨address, found, shows⟩
    · rw [runs] at previewed
      cases previewed
  · rw [runs] at previewed
    cases previewed

/-- The terms of every coupon are what they were. -/
def TermsKept (d e : Db) : Prop := ∀ c, (e (.coupon c)).map (·.terms) = (d (.coupon c)).map (·.terms)

section
variable {distance : Distance} {call : CheckoutCall} {address : Address} {v w : View (Table Row) Mark}

theorem redeem_terms {d : Db} {coupon : Option (Id × Coupon)} {source : Redemption}
    (stands : ∀ c ∈ coupon, (d (.coupon c.1)).map (·.terms) = some c.2.terms) (kept : TermsKept d v.rows) :
    (redeem call coupon source).wp .serial (fun _ w => TermsKept d w.rows) (fun _ => True) v := by
  cases coupon with
  | none => exact kept
  | some c =>
    obtain ⟨id, row⟩ := c
    have named := (kept id).trans (stands _ rfl)
    obtain ⟨before, there, same⟩ := Option.map_eq_some_iff.mp named
    unfold redeem consumeCoupon
    rw [wp_bind]
    refine wp_save_alone (k := Key.coupon id) there fun u more saved => ?_
    rw [wp_bind, wp_note]
    refine wp_of_within (within_updateWhere (K := fun k => k = .userCoupon call.userId id) (L := NoMark) _ _ _ rfl)
      (fun _ w last c => ?_) fun _ => trivial
    rw [last.rows (.coupon c) nofun, View.mark_rows]
    by_cases own : c = id
    · subst own
      rw [saved, Option.map_some, stands _ rfl]
      rfl
    · rw [more.rows (.coupon c) (by simpa using own)]
      exact kept c

theorem settleOrder_terms {d : Db} {quote : Quote}
    (shops : ∀ plan ∈ quote.plans, ∀ c ∈ plan.shopCoupon, (d (.coupon c.1)).map (·.terms) = some c.2.terms)
    (global : ∀ c ∈ quote.globalCoupon, (d (.coupon c.1)).map (·.terms) = some c.2.terms) (kept : TermsKept d v.rows) :
    (settleOrder call quote).wp .serial (fun _ w => TermsKept d w.rows) (fun _ => True) v := by
  unfold settleOrder
  rw [wp_bind]
  refine wp_mono _ (redeem_terms global kept) (fun _ u redeemed => ?_) fun _ e => e
  rw [wp_bind]
  have loop := wp_forM (I := .serial) (E := fun _ => True) (v := u)
    (fun rest (w : View (Table Row) Mark) => rest ⊆ quote.plans.zipIdx ∧ TermsKept d w.rows)
    (fun plan => redeem call plan.1.shopCoupon (.subOrder (call.subOrderId plan.2)))
    (fun plan rest w held => by
      obtain ⟨inside, kept⟩ := held
      have member := List.fst_mem_of_mem_zipIdx (inside List.mem_cons_self)
      refine wp_mono _ (redeem_terms (shops plan.1 member) kept) (fun _ w' next => ⟨?_, next⟩) fun _ e => e
      exact fun p later => inside (List.mem_cons_of_mem _ later))
    quote.plans.zipIdx ⟨List.Subset.refl _, redeemed⟩
  refine wp_mono _ loop (fun _ w held => ?_) fun _ e => e
  have rest : (do
      clearActiveCart call.userId
      let shops ← select fun d => quote.plans.zipIdx.map fun plan =>
        (plan.1.shopId, (d (.shop plan.1.shopId)).map (·.seller), call.subOrderId plan.2)
      note (.outbox (.orderCreated call.orderId call.orderNumber shops call.userId quote.grandTotal)) :
        Action Unit).Within (fun k => ∀ c, k ≠ .coupon c) fun _ => True := by
    refine within_bind (within_bind (within_select _) fun ids => within_bind ?_ fun _ => ?_) fun _ => ?_
    · exact within_forM _ fun id _ => (within_modify _ _).mpr fun _ => nofun
    · exact (within_modify _ _).mpr fun _ => nofun
    · exact within_bind (within_select _) fun _ => (within_note _).mpr trivial
  refine wp_of_within rest (fun _ u more c => ?_) fun _ => trivial
  rw [more.rows (.coupon c) fun no => no c rfl]
  exact held.2 c

/-- The order is priced by the coupons as they stood, and redeeming them changes no terms. -/
theorem runCheckoutTransaction_quotes : (runCheckoutTransaction distance call address).wp .serial
    (fun _ w => TermsKept v.rows w.rows ∧ Placed distance call address (validItems (loadCart v.rows call.userId))
      (quoteOf distance call address v.rows (validItems (loadCart v.rows call.userId))) v w) (fun _ => True) v := by
  have quoting : ∀ items (u : View (Table Row) Mark), v.Continues StockKey (TakenMark call.userId) u →
      (quoteOrder distance call address items).wp .serial
        (fun quote w => quote = quoteOf distance call address v.rows items ∧
          ∀ c, w.rows (.coupon c) = v.rows (.coupon c)) (fun _ => True) u := by
    intro items u more
    refine wp_mono _ quoteOrder_quotes (fun quote w quoted => ?_) fun _ e => e
    rw [quoted.2, quoted.1, quoteOf_congr more.rows]
    exact ⟨rfl, fun c => more.rows (.coupon c) id⟩
  have settling : ∀ (items : List CartLine) (quote : Quote) (u : View (Table Row) Mark),
      (quote = quoteOf distance call address v.rows items ∧ ∀ c, u.rows (.coupon c) = v.rows (.coupon c)) →
      (settleOrder call quote).wp .serial
        (fun _ w => quote = quoteOf distance call address v.rows items ∧ TermsKept v.rows w.rows) (fun _ => True) u := by
    rintro items quote u ⟨rfl, coupons⟩
    have stands : ∀ code, ∀ c ∈ namedCoupon v.rows code, (v.rows (.coupon c.1)).map (·.terms) = some c.2.terms := by
      intro code c named
      rw [namedCoupon_stands named]
      rfl
    have begun : TermsKept v.rows u.rows := fun c => congrArg _ (coupons c)
    refine wp_mono _ (settleOrder_terms (fun plan member => ?_) (stands _) begun) (fun _ w kept => ⟨rfl, kept⟩) fun _ e => e
    obtain ⟨group, _, rfl⟩ := List.mem_map.mp member
    exact stands _
  refine wp_mono _ (wp_runCheckoutTransaction_with distance call address quoting (fun items quote u w quoted more => ?_)
    settling) (fun _ w found => ?_) fun _ e => e
  · refine ⟨quoted.1, fun c => (more.rows (.coupon c) ?_).trans (quoted.2 c)⟩
    simp [FiledKey, OrderKey, PlanKey]
  · obtain ⟨d, m, quote, ⟨rfl, rfl⟩, ⟨rfl, terms⟩, placed⟩ := found
    exact ⟨terms, placed⟩

theorem runCheckoutTransaction_answers : (runCheckoutTransaction distance call address).wp .serial
    (fun response _ => response = buildCheckoutResponse call address
      (quoteOf distance call address v.rows (validItems (loadCart v.rows call.userId)))) (fun _ => True) v := by
  unfold runCheckoutTransaction prepareOrder
  simp only [wp_bind]
  refine wp_takeCart (fun _ => trivial) fun d m items u sees cart _ first _ _ => ?_
  obtain ⟨rfl, rfl⟩ := sees
  subst cart
  refine wp_mono _ quoteOrder_quotes (fun quote w quoted => ?_) fun _ e => e
  rw [quoted.1, quoteOf_congr first.rows]
  refine wp_createOrderWithRetry rfl (fun _ => trivial) (fun _ _ => trivial) (fun _ => trivial) fun w' _ _ _ _ _ => ?_
  exact wp_of_within (within_any _) (fun _ _ _ => rfl) fun _ => trivial

end

theorem cacheResponse_answer (call : CheckoutCall) (response : CheckoutResponse) (s : Store (Table Row) Mark) :
    ((cacheResponse call response).run s).1 = .response response := by
  simp only [cacheResponse, Req.run]
  split <;> rfl

/-- An order that a checkout stored was priced from the state the checkout began in, and is answered so. -/
theorem checkout_places {distance : Distance} {call : CheckoutCall} {s : Store (Table Row) Mark} {order : Order}
    (free : s.rows (.order call.orderId) = none)
    (stands : ((checkout distance call).run s).2.rows (.order call.orderId) = some order) :
    ∃ address v w, s.rows (.address call.dto.addressId) = some address ∧ (∀ k, ¬ KeyKey k → v.rows k = s.rows k) ∧
      Placed distance call address (validItems (loadCart s.rows call.userId))
        (quoteOf distance call address s.rows (validItems (loadCart s.rows call.userId))) v w ∧
      TermsKept s.rows w.rows ∧ (∀ k, ¬ KeyKey k → ((checkout distance call).run s).2.rows k = w.rows k) ∧
      ((checkout distance call).run s).1 = .response (buildCheckoutResponse call address
        (quoteOf distance call address s.rows (validItems (loadCart s.rows call.userId)))) := by
  have apart : ¬ KeyKey (.order call.orderId) := fun ⟨_, same⟩ => nomatch same
  have within : ∀ (α : Type) (body : Action α), body.Within KeyKey KeyMark → body.Within KeyKey KeyMark :=
    fun _ _ h => h
  unfold checkout at stands ⊢
  have claims : (insertClaim call).Within KeyKey KeyMark := within_insert _ _ _ ⟨_, rfl⟩
  rcases Req.run_tx _ _ (wp_of_within (I := .serial) (v := View.start s.rows 0) claims (fun _ _ more => more)
    fun _ => trivial) with ⟨_, w₁, first, runs⟩ | ⟨e, _, runs⟩
  swap
  · rw [runs, Req.run_frame (afterClaim_all within e) _ apart] at stands
    cases free.symm.trans stands
  rw [runs] at stands ⊢
  unfold businessPhase at stands ⊢
  rcases Req.run_tx _ _ (findOwnedAddress_finds (v := View.start (s.commit w₁).rows 0)) with
    ⟨address, w₂, ⟨found, same⟩, runs⟩ | ⟨e, _, runs⟩
  swap
  · rw [runs, Req.run_frame (failCheckout_all within e) _ apart] at stands
    cases free.symm.trans ((first.rows _ apart).symm.trans stands)
  rw [runs] at stands ⊢
  let t := (s.commit w₁).commit w₂
  have rows : ∀ k, ¬ KeyKey k → t.rows k = s.rows k := fun k other => (congrFun same k).trans (first.rows k other)
  have side : shopSide t.rows = shopSide s.rows := shopSide_congr fun k other => rows k fun ⟨key, same⟩ => other key same
  have spec : (runCheckoutTransaction distance call address).wp .serial _ (fun _ => True ∧ True) (View.start t.rows 0) :=
    wp_and _ runCheckoutTransaction_quotes runCheckoutTransaction_answers
  rcases Req.run_tx _ _ spec with ⟨response, w, ⟨⟨terms, placed⟩, answered⟩, runs⟩ | ⟨e, _, runs⟩
  swap
  · rw [runs, Req.run_frame (afterClash_all within e) _ apart] at stands
    cases free.symm.trans ((rows _ apart).symm.trans stands)
  have cart : loadCart t.rows call.userId = loadCart s.rows call.userId := by
    rw [← loadCart_shopSide, side, loadCart_shopSide]
  rw [View.start_rows, cart, ← quoteOf_shopSide, side, quoteOf_shopSide] at placed answered
  refine ⟨address, View.start t.rows 0, w, (first.rows (.address call.dto.addressId) ?_).symm.trans found, rows, placed,
    fun c => (terms c).trans ?_, fun k other => ?_, ?_⟩
  · rintro ⟨_, same⟩
    cases same
  · exact congrArg (Option.map _) (rows (.coupon c) fun ⟨_, same⟩ => nomatch same)
  · rw [runs]
    exact Req.run_frame (cacheResponse_all within response) _ other
  · rw [runs, cacheResponse_answer, answered]

/-- A stored sub-order with its items, against a shop of the preview. -/
structure StoredFor (d : Db) (shop : PreviewShop) (sub : Id × SubOrder) : Prop where
  owner : sub.2.shop = some shop.shopId
  subTotal : sub.2.subTotal = shop.shopSubtotal
  fee : sub.2.shippingFee = shop.shippingFee
  total : sub.2.totalAmount = sub.2.subTotal - sub.2.shopDiscountAmount + sub.2.shippingFee
  items : (orderItems d sub.1).map (fun it => (it.product, it.variant, it.quantity, it.priceAtPurchase)) =
    shop.items.map fun it => (some it.productId, it.variantId, it.quantity, it.price)
  sum : sub.2.subTotal = ((orderItems d sub.1).map fun it => (it.priceAtPurchase * it.quantity : Money)).sum

/-- A stored order against a preview. -/
structure StoredAs (d : Db) (o : Id) (order : Order) (shown : CheckoutPreviewResponse) : Prop where
  total : order.totalAmount = shown.totalAmount
  shops : List.Forall₂ (StoredFor d) shown.shops (subOrdersOf d o)
  fees : shown.totalShippingFee = ((subOrdersOf d o).map (·.2.shippingFee)).sum
  discounts : shown.totalDiscount =
    ((subOrdersOf d o).map (·.2.shopDiscountAmount)).sum + order.globalDiscountAmount.getD 0

/-- The order still has its sub-orders and its coupon, nothing is cancelled, and every coupon has its terms. -/
structure Untouched (o : Id) (d e : Db) : Prop where
  order : (e (.order o)).map (·.globalCoupon) = (d (.order o)).map (·.globalCoupon)
  subOrders : (subOrdersOf e o).map (·.2.placed) = (subOrdersOf d o).map (·.2.placed)
  active : ∀ p ∈ subOrdersOf e o, p.2.status ≠ .cancelled
  terms : TermsKept d e

/-- Ids without a row have nothing filed under them. -/
structure Referenced (d : Db) : Prop where
  orders : ∀ o, d (.order o) = none → listed (d (.subOrdersOf o)) = []
  subOrders : ∀ x, d (.subOrder x) = none → listed (d (.itemsOf x)) = []

theorem Referenced.beside {d e : Db} (referenced : Referenced d) (same : ∀ k, ¬ KeyKey k → e k = d k) : Referenced e := by
  have apart : ∀ k, (∀ key, k ≠ .idempotency key) → e k = d k := fun k other => same k fun ⟨key, eq⟩ => other key eq
  refine ⟨fun o missing => ?_, fun x missing => ?_⟩
  · rw [apart (.subOrdersOf o) fun _ => nofun]
    exact referenced.orders o ((apart (.order o) fun _ => nofun).symm.trans missing)
  · rw [apart (.itemsOf x) fun _ => nofun]
    exact referenced.subOrders x ((apart (.subOrder x) fun _ => nofun).symm.trans missing)

theorem couponOf_named {d e : Db} (kept : TermsKept d e) (code : Option String) :
    (couponOf e ((namedCoupon d code).map (·.1))).map (·.2.terms) = (namedCoupon d code).map (·.2.terms) := by
  cases named : namedCoupon d code with
  | none => rfl
  | some c =>
    have terms := kept c.1
    rw [namedCoupon_stands named] at terms
    simpa [couponOf, Option.map_map] using terms

section
variable {distance : Distance} {call : CheckoutCall} {address : Address} {items : List CartLine} {quote : Quote}
  {v w : View (Table Row) Mark} {d : Db}

/-- The items stored under a plan's sub-order. -/
theorem Placed.boughtItems (placed : Placed distance call address items quote v w)
    (referenced : ∀ x, v.rows (.subOrder x) = none → listed (v.rows (.itemsOf x)) = []) {plan : SubOrderPlan × Nat}
    (member : plan ∈ quote.plans.zipIdx) :
    orderItems w.rows (call.subOrderId plan.2) = plan.1.items.map (newOrderItem (call.subOrderId plan.2)) := by
  obtain ⟨u, t, before, stored, _, after⟩ := placed.stored
  have same : orderItems w.rows (call.subOrderId plan.2) =
      orderItems t.rows (call.subOrderId plan.2) := by
    have list := after (.itemsOf (call.subOrderId plan.2)) id nofun
    unfold orderItems
    rw [list]
    exact List.filterMap_congr fun i _ => after (.orderItem i) id nofun
  obtain ⟨early, none_, bought⟩ := stored.orderItems member
  have unlisted : listed (u.rows (.itemsOf (call.subOrderId plan.2))) = [] := by
    rw [before (.itemsOf (call.subOrderId plan.2)) id (by simp [OrderKey])]
    apply referenced
    rw [← before (.subOrder (call.subOrderId plan.2)) id (by simp [OrderKey])]
    exact stored.fresh plan member
  rw [same, bought, none_ unlisted, List.nil_append]

theorem Placed.storedFor (placed : Placed distance call address items (quoteOf distance call address d items) v w)
    (referenced : ∀ x, v.rows (.subOrder x) = none → listed (v.rows (.itemsOf x)) = []) {plan : SubOrderPlan × Nat}
    (member : plan ∈ (quoteOf distance call address d items).plans.zipIdx) :
    StoredFor w.rows (shownShop plan.1) (call.subOrderId plan.2, newSubOrder call.orderId plan.1) := by
  obtain ⟨group, _, fits⟩ := placed.quoted.for_plan (List.fst_mem_of_mem_zipIdx member)
  have kept := placed.boughtItems referenced member
  refine ⟨rfl, rfl, rfl, fits.total, ?_, ?_⟩
  · rw [kept]
    simp only [shownShop, List.map_map]
    rfl
  · rw [kept, List.map_map]
    exact fits.subtotal.trans (by rw [computeShopSubtotal, fits.items]; rfl)

theorem sum_zipIdx_map {α : Type} (f : α → Money) (plans : List α) :
    (plans.zipIdx.map fun plan => f plan.1).sum = (plans.map f).sum := by
  rw [← List.zipIdx_map_fst 0 plans, List.map_map, List.zipIdx_map_fst]
  rfl

theorem Placed.storedAs (placed : Placed distance call address items (quoteOf distance call address d items) v w)
    (referenced : Referenced v.rows) : StoredAs w.rows call.orderId
      (newOrder call address (quoteOf distance call address d items)) (shownQuote (quoteOf distance call address d items)) := by
  have subs := placed.subOrders (referenced.orders _ placed.free)
  refine ⟨rfl, ?_, ?_, ?_⟩
  · rw [subs]
    have plans : (shownQuote (quoteOf distance call address d items)).shops =
        (quoteOf distance call address d items).plans.zipIdx.map fun plan => shownShop plan.1 := by
      change List.map shownShop _ = _
      conv_lhs => rw [← List.zipIdx_map_fst 0 (quoteOf distance call address d items).plans]
      rw [List.map_map]
      rfl
    rw [plans, List.forall₂_map_left_iff, List.forall₂_map_right_iff, List.forall₂_same]
    exact fun plan member => placed.storedFor referenced.subOrders member
  · rw [subs, List.map_map]
    exact (sum_zipIdx_map SubOrderPlan.shippingFee _).symm
  · rw [subs, List.map_map]
    exact congrArg (· + _) (sum_zipIdx_map SubOrderPlan.shopDiscount _).symm

/-- What the untouched sub-orders add up to is what the plans did. -/
theorem Placed.sum_untouched {e : Db} (placed : Placed distance call address items quote v w)
    (fresh : listed (v.rows (.subOrdersOf call.orderId)) = []) (untouched : Untouched call.orderId w.rows e)
    (f : SubOrder → Money) (same : ∀ s : SubOrder, f s.placed = f s) :
    ((activeSubOrders e call.orderId).map fun p => f p.2).sum =
      (quote.plans.map fun plan => f (newSubOrder call.orderId plan)).sum := by
  have all : activeSubOrders e call.orderId = subOrdersOf e call.orderId :=
    List.filter_eq_self.mpr fun p member => by simpa using untouched.active p member
  have through : ∀ d : Db, ((subOrdersOf d call.orderId).map fun p => f p.2).sum =
      (((subOrdersOf d call.orderId).map (·.2.placed)).map f).sum := by
    intro d
    rw [List.map_map]
    exact congrArg List.sum (List.map_congr_left fun p _ => (same p.2).symm)
  rw [all, through, untouched.subOrders, ← through, placed.subOrders fresh, List.map_map]
  exact sum_zipIdx_map (fun plan => f (newSubOrder call.orderId plan)) quote.plans

theorem recomputedTotal_untouched {e : Db}
    (placed : Placed distance call address items (quoteOf distance call address d items) v w) (terms : TermsKept d w.rows)
    (fresh : listed (v.rows (.subOrdersOf call.orderId)) = []) (untouched : Untouched call.orderId w.rows e) :
    (∀ c ∈ couponOf e (quoteOf distance call address d items |>.globalCoupon.map (·.1)),
        globalCouponFails c.2 (loadSiblings e call.orderId) = false) ∧
      recomputedTotal (couponOf e (quoteOf distance call address d items |>.globalCoupon.map (·.1)))
        (loadSiblings e call.orderId) = (quoteOf distance call address d items).grandTotal := by
  have kept : TermsKept d e := fun c => (untouched.terms c).trans (terms c)
  generalize chosen : quoteOf distance call address d items = quote at placed ⊢
  have global : (couponOf e (quote.globalCoupon.map (·.1))).map (·.2.terms) = quote.globalCoupon.map (·.2.terms) := by
    rw [← chosen]
    exact couponOf_named kept _
  have subtotals : subtotalOf (activeSubOrders e call.orderId) = totalShopSubtotals quote.plans :=
    placed.sum_untouched fresh untouched (·.subTotal) fun _ => rfl
  have shopTotals : ((activeSubOrders e call.orderId).map fun p => activeShopTotal e p.2).sum =
      sumShopTotals quote.plans := by
    rw [placed.sum_untouched fresh untouched (activeShopTotal e) fun _ => rfl, sumShopTotals]
    refine congrArg List.sum (List.map_congr_left fun plan member => ?_)
    obtain ⟨group, _, fits⟩ := placed.quoted.for_plan member
    rw [← chosen] at member
    obtain ⟨group', _, rfl⟩ := List.mem_map.mp member
    rw [fits.total, fits.discount]
    have same := couponOf_named kept (shopCouponCode call.dto group'.shopId)
    exact congrArg₂ _ (congrArg₂ _ rfl (discountOf_terms same _)) rfl
  have filled : activeSubOrders e call.orderId ≠ [] := by
    intro empty
    have count := placed.sum_untouched fresh untouched (fun _ => 1) fun _ => rfl
    rw [empty, List.map_nil, List.sum_nil, List.map_const', List.sum_replicate, nsmul_one] at count
    have none_ : quote.plans.length = 0 := by exact_mod_cast count.symm
    exact placed.quoted.nonempty placed.bought (List.length_eq_zero_iff.mp none_)
  have applies : ∀ c ∈ couponOf e (quote.globalCoupon.map (·.1)),
      globalCouponFails c.2 (loadSiblings e call.orderId) = false := by
    intro c live
    rw [Option.mem_def.mp live] at global
    obtain ⟨c', there, same⟩ := Option.map_eq_some_iff.mp global.symm
    rw [← globalCouponFails_terms same, loadSiblings_eq, globalCouponFails, subtotals]
    simp only [Bool.or_eq_false_iff, Bool.not_not, List.isEmpty_eq_false_iff, filled, ne_eq, not_false_eq_true, and_true]
    have reached := placed.quoted.reached c' there
    cases least : c'.2.minOrderValue with
    | none => rfl
    | some m => simpa using reached m least
  refine ⟨applies, ?_⟩
  have whole : keptCoupon (couponOf e (quote.globalCoupon.map (·.1))) (loadSiblings e call.orderId) =
      couponOf e (quote.globalCoupon.map (·.1)) := by
    unfold keptCoupon
    cases live : couponOf e (quote.globalCoupon.map (·.1)) with
    | none => rfl
    | some c => simp [Option.filter, applies c live]
  rw [recomputedTotal, whole, loadSiblings_eq]
  dsimp only
  rw [shopTotals, subtotals, discountOf_terms global, ← placed.quoted.discount, ← placed.quoted.total]

/-- The recompute of an order whose coupon still applies. -/
theorem recomputeOrder_kept {o : Id} {order : Order} (stands : v.rows (.order o) = some order)
    (applies : ∀ c ∈ couponOf v.rows order.globalCoupon, globalCouponFails c.2 (loadSiblings v.rows o) = false) :
    (recomputeOrder o).wp .serial
      (fun a w => a.2 = recomputedTotal (couponOf v.rows order.globalCoupon) (loadSiblings v.rows o) ∧
        w.rows (.order o) = some (recomputedOrder order (couponOf v.rows order.globalCoupon) (loadSiblings v.rows o)))
      (fun _ => False) v := by
  unfold recomputeOrder
  rw [wp_bind]
  refine wp_selectForUpdate fun u more _ => ?_
  have same : u.rows = v.rows := more.rows_same
  rw [wp_bind, wp_orFail]
  refine ⟨fun _ _ => ?_, fun missing => nomatch stands.symm.trans missing⟩
  rw [wp_bind, wp_select]
  rintro d m ⟨rfl, rfl⟩
  rw [wp_bind, wp_orFail, same, stands]
  refine ⟨fun pair found => ?_, nofun⟩
  cases found
  dsimp only
  rw [wp_bind, wp_select]
  rintro d m ⟨rfl, rfl⟩
  rw [wp_bind]
  have quiet : releaseFailedCoupon o order.customer (couponOf v.rows order.globalCoupon) (loadSiblings v.rows o) =
      pure () := by
    cases live : couponOf v.rows order.globalCoupon with
    | none => rfl
    | some c => simp [releaseFailedCoupon, applies c live]
  simp only [View.looking_rows, same, quiet]
  rw [wp_pure, wp_bind]
  refine wp_save_alone (k := Key.order o) (by simpa [same] using stands) fun w _ saved => ?_
  rw [wp_pure]
  exact ⟨rfl, saved⟩

end

theorem storedAs_shopSide {d : Db} {o : Id} {order : Order} {shown : CheckoutPreviewResponse} :
    StoredAs (shopSide d) o order shown ↔ StoredAs d o order shown := by
  constructor
  · intro h
    exact ⟨h.total, h.shops.imp fun _ _ f => ⟨f.owner, f.subTotal, f.fee, f.total, f.items, f.sum⟩, h.fees, h.discounts⟩
  · intro h
    exact ⟨h.total, h.shops.imp fun _ _ f => ⟨f.owner, f.subTotal, f.fee, f.total, f.items, f.sum⟩, h.fees, h.discounts⟩

theorem untouched_shopSide {o : Id} {d e : Db} : Untouched o (shopSide d) e ↔ Untouched o d e :=
  ⟨fun h => ⟨h.order, h.subOrders, h.active, h.terms⟩, fun h => ⟨h.order, h.subOrders, h.active, h.terms⟩⟩

/-- A checkout stores what its preview showed, and a recompute of the untouched order finds the same total. -/
theorem preview_stored {distance : Distance} {call : CheckoutCall} {now : Time} {s : Store (Table Row) Mark}
    {shown : CheckoutPreviewResponse} {order : Order} (referenced : Referenced s.rows)
    (previewed : ((checkoutPreview distance (call.preview now)).run s).1 = .ok shown)
    (free : s.rows (.order call.orderId) = none)
    (stands : ((checkout distance call).run s).2.rows (.order call.orderId) = some order) :
    StoredAs ((checkout distance call).run s).2.rows call.orderId order shown ∧
      ∀ e : Db, Untouched call.orderId ((checkout distance call).run s).2.rows e →
        ∃ status d log after, (recomputeOrder call.orderId).run e [] = .ok ((status, order.totalAmount), d, log) ∧
          d (.order call.orderId) = some after ∧ after.totalAmount = order.totalAmount := by
  obtain ⟨address, found, rfl⟩ := checkoutPreview_shows previewed
  obtain ⟨address', v, w, found', before, placed, terms, after, _⟩ := checkout_places free stands
  obtain rfl := Option.some.inj (found.symm.trans found')
  have apart : ∀ k, (∀ key, k ≠ .idempotency key) → ¬ KeyKey k := fun k other ⟨key, same⟩ => other key same
  have side : shopSide ((checkout distance call).run s).2.rows = shopSide w.rows :=
    shopSide_congr fun k other => after k (apart k other)
  have filed : Referenced v.rows := referenced.beside before
  rw [after (.order call.orderId) (apart (.order call.orderId) fun _ => nofun), placed.order] at stands
  obtain rfl := Option.some.inj stands
  refine ⟨?_, fun e untouched => ?_⟩
  · rw [← storedAs_shopSide, side, storedAs_shopSide]
    exact placed.storedAs filed
  rw [← untouched_shopSide, side, untouched_shopSide] at untouched
  obtain ⟨applies, total⟩ := recomputedTotal_untouched placed terms (filed.orders _ placed.free) untouched
  have attached := untouched.order
  rw [placed.order] at attached
  obtain ⟨row, there, same⟩ := Option.map_eq_some_iff.mp attached
  have coupon : row.globalCoupon = (quoteOf distance call address s.rows
      (validItems (loadCart s.rows call.userId))).globalCoupon.map (·.1) := same
  rw [← coupon] at applies total
  have runs := Tx.run_of_wp _ (recomputeOrder_kept (v := View.start e 0) there applies)
  cases ran : (recomputeOrder call.orderId).run e [] with
  | error e => simp only [View.start_rows, View.start_log, ran] at runs
  | ok result =>
    obtain ⟨⟨status, amount⟩, d, log⟩ := result
    simp only [View.start_rows, View.start_log, ran] at runs
    obtain ⟨u, ⟨rfl, written⟩, rfl, rfl⟩ := runs
    rw [total]
    exact ⟨status, _, _, _, rfl, written, total⟩

set_option maxRecDepth 4000 in
/-- Two shops, a shop coupon and a global coupon: 62200.00 in the preview, in the order and in the recompute. -/
theorem bothShops_stored : ∃ shown order status d log,
    ((checkoutPreview (fun _ _ => 1) (bothShops.preview 900)).run ⟨twoShops, []⟩).1 = .ok shown ∧
      shown.totalAmount = 6220000 ∧
      StoredAs ((checkout (fun _ _ => 1) bothShops).run ⟨twoShops, []⟩).2.rows 1 order shown ∧
      (recomputeOrder 1).run ((checkout (fun _ _ => 1) bothShops).run ⟨twoShops, []⟩).2.rows [] =
        .ok ((status, order.totalAmount), d, log) := by
  have shows : (((checkoutPreview (fun _ _ => 1) (bothShops.preview 900)).run ⟨twoShops, []⟩).1.toOption).any
      (·.totalAmount = 6220000) := by decide +kernel
  have stored : (((checkout (fun _ _ => 1) bothShops).run ⟨twoShops, []⟩).2.rows (.order 1)).isSome := by
    decide +kernel
  have active : ∀ p ∈ subOrdersOf ((checkout (fun _ _ => 1) bothShops).run ⟨twoShops, []⟩).2.rows 1,
      p.2.status ≠ .cancelled := by decide +kernel
  obtain ⟨shown, previewed, total⟩ := (Option.any_eq_true _ _).mp shows
  obtain ⟨order, stands⟩ := Option.isSome_iff_exists.mp stored
  have ok : ((checkoutPreview (fun _ _ => 1) (bothShops.preview 900)).run ⟨twoShops, []⟩).1 = .ok shown := by
    cases answer : ((checkoutPreview (fun _ _ => 1) (bothShops.preview 900)).run ⟨twoShops, []⟩).1 with
    | error e =>
      rw [answer] at previewed
      cases previewed
    | ok p =>
      rw [answer] at previewed
      exact congrArg _ (Option.some.inj previewed)
  obtain ⟨same, recomputes⟩ := preview_stored ⟨fun _ _ => rfl, fun _ _ => rfl⟩ ok rfl stands
  obtain ⟨status, d, log, _, runs, _⟩ := recomputes _ ⟨rfl, rfl, active, fun _ => rfl⟩
  exact ⟨shown, order, status, d, log, ok, by simpa using total, same, runs⟩

end Marketplace
