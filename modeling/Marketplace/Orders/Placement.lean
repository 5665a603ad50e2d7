import Marketplace.Orders.CheckoutFrame
import Mathlib.Data.List.Perm.Subperm

/-! The sub-orders and items a checkout stores, under any isolation. -/
namespace Marketplace
open ReadCommitted ReadCommitted.Tx

def orderItems (d : Db) (subOrder : Id) : List OrderItem :=
  (listed (d (.itemsOf subOrder))).filterMap fun i => d (.orderItem i)

def OrderItem.line (it : OrderItem) : Option StockLine := it.product.map fun p => ⟨p, it.variant, it.quantity⟩

/-- What an order holds. -/
def orderedLines (d : Db) (order : Id) : List StockLine :=
  (subOrdersOf d order).flatMap fun s => (orderItems d s.1).filterMap (·.line)

theorem flatMap_filter_perm {κ α : Type} [DecidableEq κ] (key : α → κ) (items : List α) {keys : List κ}
    (unique : keys.Nodup) :
    (keys.flatMap fun k => items.filter fun it => key it = k).Perm (items.filter fun it => key it ∈ keys) := by
  induction keys with
  | nil => simp
  | cons k rest ih =>
    obtain ⟨fresh, unique⟩ := List.nodup_cons.mp unique
    rw [List.flatMap_cons]
    apply ((ih unique).append_left _).trans
    have first : (items.filter fun it => key it = k) =
        (items.filter fun it => key it ∈ k :: rest).filter fun it => key it = k := by
      rw [List.filter_filter]
      apply List.filter_congr
      intro it _
      by_cases same : key it = k <;> simp [same]
    have others : (items.filter fun it => key it ∈ rest) =
        (items.filter fun it => key it ∈ k :: rest).filter fun it => !decide (key it = k) := by
      rw [List.filter_filter]
      apply List.filter_congr
      intro it _
      by_cases same : key it = k
      · simp [same, fresh]
      · simp [same]
    rw [first, others]
    exact List.filter_append_perm _ _

theorem mem_firstOccurrences {ids : List Id} {s : Id} : s ∈ firstOccurrences ids ↔ s ∈ ids := by
  simp [firstOccurrences]

/-- The groups hold every line once. -/
theorem groupItemsByShop_perm (items : List CartLine) : ((groupItemsByShop items).flatMap (·.items)).Perm items := by
  have groups : ∀ shops : List Id,
      ((shops.filterMap fun s => (items.filter fun it => it.product.shop = s).head?.map fun first =>
        (⟨s, first.shop, items.filter fun it => it.product.shop = s⟩ : ShopGroup)).flatMap (·.items)) =
      shops.flatMap fun s => items.filter fun it => it.product.shop = s := by
    intro shops
    induction shops with
    | nil => rfl
    | cons s rest ih =>
      rw [List.filterMap_cons, List.flatMap_cons, ← ih]
      cases mine : items.filter fun it => it.product.shop = s with
      | nil => simp
      | cons first more => simp
  have all : (items.filter fun it => it.product.shop ∈ firstOccurrences (items.map (·.product.shop))) = items := by
    apply List.filter_eq_self.mpr
    intro it member
    exact decide_eq_true (mem_firstOccurrences.mpr (List.mem_map_of_mem member))
  have split := flatMap_filter_perm (·.product.shop) items (nodup_firstOccurrences (items.map (·.product.shop)))
  rw [all] at split
  rw [groupItemsByShop, groups]
  exact split

/-- A plan for a group. -/
structure SubOrderPlan.For (distance : Distance) (address : Address) (group : ShopGroup) (plan : SubOrderPlan) :
    Prop where
  shopId : plan.shopId = group.shopId
  shop : plan.shop = group.shop
  items : plan.items = group.items
  subtotal : plan.shopSubtotal = computeShopSubtotal group.items
  discount : plan.shopDiscount = discountOf plan.shopCoupon plan.shopSubtotal
  fee : plan.shippingFee = calculateShippingFee distance group.shop address.lat address.lng plan.shopSubtotal
  total : plan.shopTotal = plan.shopSubtotal - plan.shopDiscount + plan.shippingFee

/-- A quote for the lines of a cart. -/
structure Quoted (distance : Distance) (address : Address) (items : List CartLine) (quote : Quote) : Prop where
  plans : List.Forall₂ (SubOrderPlan.For distance address) (groupItemsByShop items) quote.plans
  discount : quote.globalDiscount = discountOf quote.globalCoupon (totalShopSubtotals quote.plans)
  reached : ∀ c ∈ quote.globalCoupon, ∀ least ∈ c.2.minOrderValue, least ≤ totalShopSubtotals quote.plans
  total : quote.grandTotal = max 0 (sumShopTotals quote.plans - quote.globalDiscount)

theorem plans_items {distance : Distance} {address : Address} {groups : List ShopGroup} {plans : List SubOrderPlan}
    (planned : List.Forall₂ (SubOrderPlan.For distance address) groups plans) :
    plans.flatMap (·.items) = groups.flatMap (·.items) := by
  induction planned with
  | nil => rfl
  | cons fits _ ih => rw [List.flatMap_cons, List.flatMap_cons, fits.items, ih]

theorem Quoted.for_plan {distance : Distance} {address : Address} {items : List CartLine} {quote : Quote}
    (quoted : Quoted distance address items quote) {plan : SubOrderPlan} (member : plan ∈ quote.plans) :
    ∃ group ∈ groupItemsByShop items, plan.For distance address group := by
  have planned := quoted.plans
  generalize groupItemsByShop items = groups, quote.plans = plans at planned member
  induction planned with
  | nil => cases member
  | cons fits _ ih =>
    rcases List.mem_cons.mp member with rfl | later
    · exact ⟨_, List.mem_cons_self, fits⟩
    · obtain ⟨group, inside, found⟩ := ih later
      exact ⟨group, List.mem_cons_of_mem _ inside, found⟩

theorem Quoted.nonempty {distance : Distance} {address : Address} {items : List CartLine} {quote : Quote}
    (quoted : Quoted distance address items quote) (some_ : items ≠ []) : quote.plans ≠ [] := by
  intro empty
  have planned := quoted.plans
  rw [empty, List.forall₂_nil_right_iff] at planned
  have lines := groupItemsByShop_perm items
  rw [planned] at lines
  exact some_ (List.nil_perm.mp lines)

section
variable {I : Isolation (Table Row) Mark} {E : Err → Prop} {v : View (Table Row) Mark} {distance : Distance}
  {call : CheckoutCall} {address : Address}

theorem wp_planSubOrder {group : ShopGroup} (noErr : ∀ e, E e) :
    (planSubOrder distance call address group).wp I (fun plan _ => plan.For distance address group) E v := by
  unfold planSubOrder
  rw [wp_bind]
  exact wp_of_within (within_lockAndValidateCoupon (K := fun _ => True) ..) (fun _ _ _ => ⟨rfl, rfl, rfl, rfl, rfl, rfl, rfl⟩) noErr

theorem wp_quoteOrder {items : List CartLine} (noErr : ∀ e, E e) :
    (quoteOrder distance call address items).wp I (fun quote _ => Quoted distance address items quote) E v := by
  unfold quoteOrder
  rw [wp_bind]
  have loop := wp_mapM (I := I) (E := E) (v := v)
    (fun rest plans _ => ∃ done, done ++ rest = groupItemsByShop items ∧
      List.Forall₂ (SubOrderPlan.For distance address) done plans)
    (planSubOrder distance call address)
    (fun group rest plans w kept => by
      obtain ⟨done, split, planned⟩ := kept
      refine wp_mono _ (wp_planSubOrder noErr) (fun plan _ fits => ⟨done ++ [group], ?_, ?_⟩) fun _ e => e
      · rw [List.append_assoc]
        exact split
      · exact List.rel_append planned (.cons fits .nil))
    (groupItemsByShop items) [] ⟨[], rfl, .nil⟩
  refine wp_mono _ loop (fun plans w kept => ?_) fun _ e => e
  obtain ⟨done, split, planned⟩ := kept
  rw [List.append_nil] at split
  rw [split] at planned
  rw [wp_bind]
  refine wp_lockAndValidateCoupon (fun _ => ?_) (fun _ _ _ _ _ _ _ _ => noErr _)
    fun c d m id coupon w' _ _ _ _ _ fits _ _ => ?_
  · rw [wp_pure]
    exact ⟨planned, rfl, (fun _ no => nomatch no), rfl⟩
  · rw [wp_pure]
    refine ⟨planned, rfl, fun c same least low => ?_, rfl⟩
    obtain rfl := Option.some.inj same
    exact fits.reached least low

/-- The items of a plan that are in by now. -/
structure Itemed (call : CheckoutCall) (plan : SubOrderPlan × Nat) (u : View (Table Row) Mark)
    (done : List (CartLine × Nat)) (v : View (Table Row) Mark) : Prop where
  list : listed (v.rows (.itemsOf (call.subOrderId plan.2))) =
    listed (u.rows (.itemsOf (call.subOrderId plan.2))) ++ done.map fun it => call.orderItemId plan.2 it.2
  rows : ∀ it ∈ done, v.rows (.orderItem (call.orderItemId plan.2 it.2)) =
    some (newOrderItem (call.subOrderId plan.2) it.1)
  kept : ∀ x row, u.rows (.orderItem x) = some row → v.rows (.orderItem x) = some row
  rest : ∀ k, k ≠ .itemsOf (call.subOrderId plan.2) → (∀ x, k ≠ .orderItem x) → v.rows k = u.rows k
  log : v.log = u.log

theorem Itemed.wp_next {plan : SubOrderPlan × Nat} {u : View (Table Row) Mark} {done : List (CartLine × Nat)}
    (itemed : Itemed call plan u done v) (noErr : ∀ e, E e) (it : CartLine × Nat) :
    (insertOrderItem (call.orderItemId plan.2 it.2) (newOrderItem (call.subOrderId plan.2) it.1)).wp I
      (fun _ => Itemed call plan u (done ++ [it])) E v := by
  unfold insertOrderItem
  rw [wp_bind]
  refine wp_insert (fun _ => noErr _) fun w first _ free stored => ?_
  rw [wp_modify]
  have other : ∀ k, k ≠ .itemsOf (call.subOrderId plan.2) → k ≠ .orderItem (call.orderItemId plan.2 it.2) →
      (w.put (.itemsOf (newOrderItem (call.subOrderId plan.2) it.1).subOrder) fun ids =>
        some (listed ids ++ [call.orderItemId plan.2 it.2])).rows k = v.rows k := fun k notList notItem =>
    (View.put_rows_other _ _ notList).trans (first.rows k notItem)
  have stands : ∀ x row, v.rows (.orderItem x) = some row →
      (w.put (.itemsOf (newOrderItem (call.subOrderId plan.2) it.1).subOrder) fun ids =>
        some (listed ids ++ [call.orderItemId plan.2 it.2])).rows (.orderItem x) = some row := by
    intro x row there
    have different : Key.orderItem x ≠ .orderItem (call.orderItemId plan.2 it.2) := by
      intro same
      rw [← same, there] at free
      cases free
    rw [other (.orderItem x) nofun different, there]
  refine ⟨?_, fun p member => ?_, fun x row there => stands x row (itemed.kept x row there),
    fun k notList notItem => (other k notList (notItem _)).trans (itemed.rest k notList notItem),
    first.log_same.trans itemed.log⟩
  · rw [List.map_append, ← List.append_assoc, ← itemed.list]
    have before : w.rows (.itemsOf (call.subOrderId plan.2)) = v.rows (.itemsOf (call.subOrderId plan.2)) :=
      first.rows (.itemsOf _) nofun
    rw [← before]
    exact congrArg (listed (α := Id)) (View.put_rows_self w (.itemsOf (call.subOrderId plan.2)) _)
  · rcases List.mem_append.mp member with early | last
    · exact stands _ _ (itemed.rows p early)
    · obtain rfl := List.mem_singleton.mp last
      exact (View.put_rows_other w _ (by simp)).trans stored

/-- The plans that are in by now, with their items. -/
structure Stored (call : CheckoutCall) (u : View (Table Row) Mark) (done : List (SubOrderPlan × Nat))
    (v : View (Table Row) Mark) : Prop where
  list : listed (v.rows (.subOrdersOf call.orderId)) =
    listed (u.rows (.subOrdersOf call.orderId)) ++ done.map fun plan => call.subOrderId plan.2
  rows : ∀ plan ∈ done, v.rows (.subOrder (call.subOrderId plan.2)) = some (newSubOrder call.orderId plan.1)
  fresh : ∀ plan ∈ done, u.rows (.subOrder (call.subOrderId plan.2)) = none
  distinct : (done.map fun plan => call.subOrderId plan.2).Nodup
  items : ∀ plan ∈ done, listed (v.rows (.itemsOf (call.subOrderId plan.2))) =
    listed (u.rows (.itemsOf (call.subOrderId plan.2))) ++ plan.1.items.zipIdx.map fun it => call.orderItemId plan.2 it.2
  bought : ∀ plan ∈ done, ∀ it ∈ plan.1.items.zipIdx, v.rows (.orderItem (call.orderItemId plan.2 it.2)) =
    some (newOrderItem (call.subOrderId plan.2) it.1)
  kept : ∀ k, (∀ x, k ≠ .itemsOf x) → k ≠ .subOrdersOf call.orderId → u.rows k ≠ none → v.rows k = u.rows k
  lists : ∀ s, (∀ plan ∈ done, s ≠ call.subOrderId plan.2) → v.rows (.itemsOf s) = u.rows (.itemsOf s)
  frame : ∀ k, k ≠ .subOrdersOf call.orderId → (∀ x, k ≠ .subOrder x) → ¬ ItemKey k → v.rows k = u.rows k
  others : ∀ x, (∀ plan ∈ done, x ≠ call.subOrderId plan.2) → v.rows (.subOrder x) = u.rows (.subOrder x)
  log : v.log = u.log

theorem Stored.start : Stored call v [] v :=
  ⟨by simp, fun _ no => (nomatch no), fun _ no => (nomatch no), .nil, fun _ no => (nomatch no), fun _ no => (nomatch no),
    fun _ _ _ _ => rfl, fun _ _ => rfl, fun _ _ _ _ => rfl, fun _ _ => rfl, rfl⟩

/-- What `insertPlan` does: the sub-order is new and listed, and its items are listed under it. -/
structure PlanInserted (call : CheckoutCall) (plan : SubOrderPlan × Nat) (v w : View (Table Row) Mark) : Prop where
  free : v.rows (.subOrder (call.subOrderId plan.2)) = none
  row : w.rows (.subOrder (call.subOrderId plan.2)) = some (newSubOrder call.orderId plan.1)
  list : listed (w.rows (.subOrdersOf call.orderId)) =
    listed (v.rows (.subOrdersOf call.orderId)) ++ [call.subOrderId plan.2]
  items : listed (w.rows (.itemsOf (call.subOrderId plan.2))) =
    listed (v.rows (.itemsOf (call.subOrderId plan.2))) ++ plan.1.items.zipIdx.map fun it => call.orderItemId plan.2 it.2
  bought : ∀ it ∈ plan.1.items.zipIdx,
    w.rows (.orderItem (call.orderItemId plan.2 it.2)) = some (newOrderItem (call.subOrderId plan.2) it.1)
  kept : ∀ k, (∀ x, k ≠ .itemsOf x) → k ≠ .subOrdersOf call.orderId → v.rows k ≠ none → w.rows k = v.rows k
  lists : ∀ s, s ≠ call.subOrderId plan.2 → w.rows (.itemsOf s) = v.rows (.itemsOf s)
  frame : ∀ k, k ≠ .subOrdersOf call.orderId → k ≠ .subOrder (call.subOrderId plan.2) → ¬ ItemKey k → w.rows k = v.rows k
  log : w.log = v.log

theorem wp_insertPlan (noErr : ∀ e, E e) (plan : SubOrderPlan × Nat) :
    (insertPlan call plan).wp I (fun _ => PlanInserted call plan v) E v := by
  unfold insertPlan insertSubOrder
  simp only [wp_bind]
  refine wp_insert (fun _ => noErr _) fun w₁ first _ free inserted => ?_
  rw [wp_modify]
  have begun : Itemed call plan (w₁.put (.subOrdersOf (newSubOrder call.orderId plan.1).order) fun ids =>
      some (listed ids ++ [call.subOrderId plan.2])) [] _ :=
    ⟨by simp, fun _ => by rintro ⟨⟩, fun _ _ there => there, fun _ _ _ => rfl, rfl⟩
  have loop := wp_forM (I := I) (E := E) (fun rest w => ∃ done, done ++ rest = plan.1.items.zipIdx ∧
      Itemed call plan (w₁.put (.subOrdersOf (newSubOrder call.orderId plan.1).order) fun ids =>
        some (listed ids ++ [call.subOrderId plan.2])) done w)
    (fun it => insertOrderItem (call.orderItemId plan.2 it.2) (newOrderItem (call.subOrderId plan.2) it.1))
    (fun it rest w kept => by
      obtain ⟨done, split, itemed⟩ := kept
      refine wp_mono _ (itemed.wp_next noErr it) (fun _ w' next => ⟨done ++ [it], ?_, next⟩) fun _ e => e
      rw [List.append_assoc]
      exact split) plan.1.items.zipIdx ⟨[], rfl, begun⟩
  refine wp_mono _ loop (fun _ w all => ?_) fun _ e => e
  obtain ⟨items, split, itemed⟩ := all
  obtain rfl : items = plan.1.items.zipIdx := by simpa using split
  -- the rows before this plan's items
  have before : ∀ k, k ≠ .subOrdersOf call.orderId → k ≠ .subOrder (call.subOrderId plan.2) →
      (w₁.put (.subOrdersOf (newSubOrder call.orderId plan.1).order) fun ids =>
        some (listed ids ++ [call.subOrderId plan.2])).rows k = v.rows k := fun k notList notSub =>
    (View.put_rows_other _ _ notList).trans (first.rows k notSub)
  constructor
  case free => exact free
  case row =>
    rw [itemed.rest (.subOrder (call.subOrderId plan.2)) (by rintro ⟨⟩) fun _ => by rintro ⟨⟩]
    exact (View.put_rows_other w₁ _ (by simp)).trans inserted
  case list =>
    rw [itemed.rest (.subOrdersOf call.orderId) (by rintro ⟨⟩) fun _ => by rintro ⟨⟩]
    have same : w₁.rows (.subOrdersOf call.orderId) = v.rows (.subOrdersOf call.orderId) :=
      first.rows (.subOrdersOf call.orderId) (by rintro ⟨⟩)
    rw [← same]
    exact congrArg (listed (α := Id)) (View.put_rows_self w₁ (.subOrdersOf call.orderId) _)
  case items => rw [itemed.list, before (.itemsOf (call.subOrderId plan.2)) (by rintro ⟨⟩) (by rintro ⟨⟩)]
  case bought => exact itemed.rows
  case kept =>
    intro k notItems notList there
    have notSub : k ≠ .subOrder (call.subOrderId plan.2) := by
      rintro rfl
      exact there free
    have same := before k notList notSub
    by_cases item : ∃ x, k = .orderItem x
    · obtain ⟨x, rfl⟩ := item
      obtain ⟨row, found⟩ := Option.ne_none_iff_exists'.mp there
      rw [found] at same ⊢
      exact itemed.kept x row same
    · rw [itemed.rest k (notItems _) (fun x no => item ⟨x, no⟩), same]
  case lists =>
    intro s different
    exact (itemed.rest (.itemsOf s) (by simpa using different) fun _ => by rintro ⟨⟩).trans (before (.itemsOf s) (by rintro ⟨⟩) (by rintro ⟨⟩))
  case frame =>
    intro k notList notSub notItem
    rw [itemed.rest k (fun eq => notItem (eq ▸ trivial)) (fun x eq => notItem (eq ▸ trivial)), before k notList notSub]
  case log => exact itemed.log.trans first.log_same

theorem Stored.next {u w : View (Table Row) Mark} {done : List (SubOrderPlan × Nat)} {plan : SubOrderPlan × Nat}
    (stored : Stored call u done v) (inserted : PlanInserted call plan v w) : Stored call u (done ++ [plan]) w := by
  have other : ∀ p ∈ done, call.subOrderId p.2 ≠ call.subOrderId plan.2 := by
    intro p member same
    have there := stored.rows p member
    rw [same, inserted.free] at there
    cases there
  constructor
  case list => rw [inserted.list, List.map_append, ← List.append_assoc, stored.list, List.map_singleton]
  case rows =>
    intro p member
    rcases List.mem_append.mp member with early | last
    · have there := stored.rows p early
      rw [inserted.kept (.subOrder (call.subOrderId p.2)) (fun _ => nofun) nofun (by rw [there]; nofun), there]
    · obtain rfl := List.mem_singleton.mp last
      exact inserted.row
  case fresh =>
    intro p member
    rcases List.mem_append.mp member with early | last
    · exact stored.fresh p early
    · obtain rfl := List.mem_singleton.mp last
      by_contra there
      have same := stored.kept (.subOrder (call.subOrderId p.2)) (fun _ => nofun) nofun there
      exact there (same.symm.trans inserted.free)
  case distinct =>
    rw [List.map_append, List.nodup_append]
    refine ⟨stored.distinct, List.nodup_singleton _, fun x early y last same => ?_⟩
    obtain ⟨p, member, rfl⟩ := List.mem_map.mp early
    exact other p member (same.trans (List.mem_singleton.mp last))
  case items =>
    intro p member
    rcases List.mem_append.mp member with early | last
    · rw [inserted.lists _ (other p early)]
      exact stored.items p early
    · obtain rfl := List.mem_singleton.mp last
      rw [inserted.items, stored.lists _ fun q early same => other q early same.symm]
  case bought =>
    intro p member it inside
    rcases List.mem_append.mp member with early | last
    · have there := stored.bought p early it inside
      rw [inserted.kept (.orderItem (call.orderItemId p.2 it.2)) (fun _ => nofun) nofun (by rw [there]; nofun), there]
    · obtain rfl := List.mem_singleton.mp last
      exact inserted.bought it inside
  case kept =>
    intro k notItems notList there
    have same := stored.kept k notItems notList there
    rw [inserted.kept k notItems notList (by rw [same]; exact there), same]
  case lists =>
    intro s different
    rw [inserted.lists s (different plan (List.mem_append_right _ List.mem_cons_self))]
    exact stored.lists s fun p member => different p (List.mem_append_left _ member)
  case frame =>
    intro k notList notSub notItem
    rw [inserted.frame k notList (notSub _) notItem]
    exact stored.frame k notList notSub notItem
  case others =>
    intro x different
    have own : x ≠ call.subOrderId plan.2 := different plan (List.mem_append_right _ List.mem_cons_self)
    rw [inserted.frame (.subOrder x) nofun (by simpa using own) nofun]
    exact stored.others x fun p member => different p (List.mem_append_left _ member)
  case log => exact inserted.log.trans stored.log

theorem wp_insertPlans (noErr : ∀ e, E e) (plans : List SubOrderPlan) :
    (forM plans.zipIdx (insertPlan call)).wp I (fun _ => Stored call v plans.zipIdx) E v := by
  have loop := wp_forM (I := I) (E := E) (fun rest w => ∃ done, done ++ rest = plans.zipIdx ∧ Stored call v done w)
    (insertPlan call)
    (fun plan rest w kept => by
      obtain ⟨done, split, stored⟩ := kept
      refine wp_mono _ (wp_insertPlan noErr plan) (fun _ w' inserted => ⟨done ++ [plan], ?_, stored.next inserted⟩) fun _ e => e
      rw [List.append_assoc]
      exact split) plans.zipIdx ⟨[], rfl, .start⟩
  refine wp_mono _ loop (fun _ w all => ?_) fun _ e => e
  obtain ⟨done, split, stored⟩ := all
  obtain rfl : done = plans.zipIdx := by simpa using split
  exact stored

/-- The items of a stored plan come after what its list held before. -/
theorem Stored.orderItems {u : View (Table Row) Mark} {done : List (SubOrderPlan × Nat)} (stored : Stored call u done v)
    {plan : SubOrderPlan × Nat} (member : plan ∈ done) :
    ∃ before, (listed (u.rows (.itemsOf (call.subOrderId plan.2))) = [] → before = []) ∧
      Marketplace.orderItems v.rows (call.subOrderId plan.2) =
        before ++ plan.1.items.map (newOrderItem (call.subOrderId plan.2)) := by
  refine ⟨(listed (u.rows (.itemsOf (call.subOrderId plan.2)))).filterMap fun i => v.rows (.orderItem i), ?_, ?_⟩
  · intro empty
    rw [empty]
    rfl
  · rw [Marketplace.orderItems, stored.items plan member, List.filterMap_append, List.filterMap_map]
    congr 1
    have bought := stored.bought plan member
    rw [← List.zipIdx_map_fst 0 plan.1.items, List.map_map, List.zipIdx_map_fst]
    apply List.filterMap_eq_map_iff_forall_eq_some.mpr
    intro it inside
    exact bought it inside

theorem Stored.subOrdersOf {u : View (Table Row) Mark} {done : List (SubOrderPlan × Nat)} (stored : Stored call u done v) :
    ∃ before, (listed (u.rows (.subOrdersOf call.orderId)) = [] → before = []) ∧
      Marketplace.subOrdersOf v.rows call.orderId =
        before ++ done.map fun plan => (call.subOrderId plan.2, newSubOrder call.orderId plan.1) := by
  refine ⟨(listed (u.rows (.subOrdersOf call.orderId))).filterMap fun s => (v.rows (.subOrder s)).map fun row => (s, row),
    ?_, ?_⟩
  · intro empty
    rw [empty]
    rfl
  · rw [Marketplace.subOrdersOf, stored.list, List.filterMap_append, List.filterMap_map]
    congr 1
    apply List.filterMap_eq_map_iff_forall_eq_some.mpr
    intro plan member
    rw [Function.comp_apply, stored.rows plan member, Option.map_some]

/-- Every line of the plans is in the order. -/
theorem Stored.lines {u : View (Table Row) Mark} {plans : List SubOrderPlan} (stored : Stored call u plans.zipIdx v) :
    ((plans.flatMap (·.items)).map stockLine).Sublist (orderedLines v.rows call.orderId) := by
  obtain ⟨before, _, subs⟩ := stored.subOrdersOf
  rw [orderedLines, subs, List.flatMap_append, List.flatMap_map]
  apply List.Sublist.trans _ (List.sublist_append_right _ _)
  have plansOf : plans = plans.zipIdx.map (·.1) := (List.zipIdx_map_fst 0 plans).symm
  have inside : ∀ done : List (SubOrderPlan × Nat), done ⊆ plans.zipIdx →
      (((done.map (·.1)).flatMap (·.items)).map stockLine).Sublist
        (done.flatMap fun plan => (Marketplace.orderItems v.rows (call.subOrderId plan.2)).filterMap (·.line)) := by
    intro done
    induction done with
    | nil => intro _; exact .refl _
    | cons plan rest ih =>
      intro within
      obtain ⟨items, _, same⟩ := stored.orderItems (within List.mem_cons_self)
      rw [List.map_cons, List.flatMap_cons, List.flatMap_cons, List.map_append, same, List.filterMap_append]
      apply List.Sublist.append _ (ih fun p member => within (List.mem_cons_of_mem plan member))
      apply List.Sublist.trans _ (List.sublist_append_right _ _)
      have lines : (plan.1.items.map (newOrderItem (call.subOrderId plan.2))).filterMap (·.line) =
          plan.1.items.map stockLine := by
        rw [List.filterMap_map]
        exact List.filterMap_eq_map_iff_forall_eq_some.mpr fun it _ => rfl
      rw [lines]
  have all := inside plans.zipIdx (List.Subset.refl _)
  rw [← plansOf] at all
  exact all

end

/-- The cart's lines are taken as they were read. -/
theorem wp_takeCart {I : Isolation (Table Row) Mark} {E : Err → Prop} {v : View (Table Row) Mark} {user : Id}
    {Q : List CartLine → View (Table Row) Mark → Prop} (noErr : ∀ e, E e)
    (h : ∀ d m items w, I.Sees v d m → items = validItems (loadCart d user) → items ≠ [] →
      v.Continues StockKey (TakenMark user) w → w.rows = addStock (items.map stockLine) (-1) v.rows →
      w.log = v.log ++ [.stockTaken user (items.map stockLine)] → Q items w) : (takeCart user).wp I Q E v := by
  unfold takeCart getActiveCartItemsForCheckout
  simp only [wp_bind]
  rw [wp_select]
  intro d m sees
  rw [wp_pure, wp_require]
  refine ⟨fun _ => ?_, fun _ => noErr _⟩
  rw [wp_require]
  refine ⟨fun some_ => ?_, fun _ => noErr _⟩
  rw [wp_select]
  intro d₁ m₁ sees₁
  rw [wp_require]
  refine ⟨fun _ => ?_, fun _ => noErr _⟩
  have looked : v.Continues StockKey (TakenMark user) ((v.looking m).looking m₁) :=
    .trans (.looking (I.forward sees)) (.looking (I.forward sees₁))
  apply wp_lockAndDeductStockForCheckout (fun _ => noErr _) (fun _ _ _ => noErr _)
  intro w more rows _ _
  rw [wp_note, wp_pure]
  refine h d m _ _ sees rfl some_ ?_ rows ?_
  · exact (looked.trans (more.mono (fun _ stock => stock) fun _ no => no.elim)).trans (.mark ⟨_, rfl⟩)
  · rw [View.mark_log, more.log_same]
    rfl

/-- What the order transaction of a checkout stores. -/
structure Placed (distance : Distance) (call : CheckoutCall) (address : Address) (items : List CartLine) (quote : Quote)
    (v w : View (Table Row) Mark) : Prop where
  bought : items ≠ []
  quoted : Quoted distance address items quote
  free : v.rows (.order call.orderId) = none
  order : w.rows (.order call.orderId) = some (newOrder call address quote)
  payment : w.rows (.payment call.orderId) =
    some ⟨call.dto.paymentMethod, .pending, quote.grandTotal, none, none, none, none, none⟩
  taken : ∀ k, StockKey k → w.rows k = addStock (items.map stockLine) (-1) v.rows k
  stored : ∃ u t, (∀ k, ¬ StockKey k → ¬ OrderKey call k → u.rows k = v.rows k) ∧ Stored call u quote.plans.zipIdx t ∧
    t.rows (.order call.orderId) = some (newOrder call address quote) ∧
    ∀ k, ¬ SettledKey k → k ≠ .payment call.orderId → w.rows k = t.rows k
  log : ∃ marks, (∀ e ∈ marks, SettledMark e) ∧ w.log = v.log ++
    .stockTaken call.userId (items.map stockLine) :: .orderPlaced call.orderId quote.globalCoupon :: marks

/-- The rows between the quote and its settlement. -/
def FiledKey (call : CheckoutCall) (k : Key) : Prop := OrderKey call k ∨ PlanKey k ∨ k = .payment call.orderId

def FiledMark (call : CheckoutCall) (e : Mark) : Prop := ∃ coupon, e = .orderPlaced call.orderId coupon

/-- What the quote promises (`R`) reaches the settlement, and what that makes of it (`S`) is of the order stored. -/
theorem wp_runCheckoutTransaction_with {I : Isolation (Table Row) Mark} {v : View (Table Row) Mark}
    {R S : List CartLine → Quote → View (Table Row) Mark → Prop} (distance : Distance) (call : CheckoutCall)
    (address : Address)
    (quoting : ∀ items u, v.Continues StockKey (TakenMark call.userId) u →
      (quoteOrder distance call address items).wp I (R items) (fun _ => True) u)
    (carried : ∀ items quote u w, R items quote u → u.Continues (FiledKey call) (FiledMark call) w → R items quote w)
    (settling : ∀ items quote u, R items quote u →
      (settleOrder call quote).wp I (fun _ => S items quote) (fun _ => True) u) :
    (runCheckoutTransaction distance call address).wp I
      (fun _ w => ∃ d m quote, I.Sees v d m ∧ S (validItems (loadCart d call.userId)) quote w ∧
        Placed distance call address (validItems (loadCart d call.userId)) quote v w) (fun _ => True) v := by
  unfold runCheckoutTransaction prepareOrder
  simp only [wp_bind]
  refine wp_takeCart (fun _ => trivial) fun d m items w₁ sees cart some_ first taken log₁ => ?_
  subst cart
  have kept : (quoteOrder distance call address (validItems (loadCart d call.userId))).wp I
      (fun _ w => w₁.Continues (fun _ => False) NoMark w) (fun _ => True) w₁ :=
    wp_of_within (within_quoteOrder distance call address _) (fun _ _ more => more) fun _ => trivial
  refine wp_mono _ (wp_and _ (quoting _ w₁ first) (wp_and _ kept (wp_quoteOrder fun _ => trivial)))
    (fun quote w₂ all => ?_) fun _ _ => trivial
  obtain ⟨chosen, second, quoted⟩ := all
  refine wp_createOrderWithRetry rfl (fun _ => trivial) (fun _ _ => trivial) (fun _ => trivial)
    fun w₃ third free _ created _ => ?_
  have beside : ∀ k, ¬ StockKey k → w₂.rows k = v.rows k := fun k other =>
    (second.rows k id).trans (first.rows k other)
  rw [beside (.order call.orderId) id] at free
  unfold placeOrder
  simp only [wp_bind]
  rw [wp_note]
  have inserts : (forM quote.plans.zipIdx (insertPlan call)).Within PlanKey NoMark :=
    within_forM _ fun plan _ => within_insertPlan call plan
  refine wp_mono _ (wp_and _ (wp_of_within inserts (fun _ _ more => more) fun _ => trivial)
    (wp_insertPlans (fun _ => trivial) quote.plans)) (fun _ w₄ both => ?_) fun _ _ => trivial
  obtain ⟨fourth, stored⟩ := both
  apply wp_insert (fun _ => trivial)
  intro w₅ fifth _ _ paid
  have filed : w₂.Continues (FiledKey call) (FiledMark call) w₅ :=
    (((third.mono (fun _ => Or.inl) fun _ no => no.elim).trans (.mark ⟨_, rfl⟩)).trans
      (fourth.mono (fun _ own => Or.inr (Or.inl own)) fun _ no => no.elim)).trans
      (fifth.mono (fun _ own => Or.inr (Or.inr own)) fun _ no => no.elim)
  refine wp_mono _ (wp_and _ (settling _ quote w₅ (carried _ quote w₂ w₅ chosen filed))
    (wp_of_within (within_settleOrder call quote) (fun _ _ more => more) fun _ => trivial)) (fun _ w₆ both => ?_)
    fun _ _ => trivial
  obtain ⟨ends, sixth⟩ := both
  rw [wp_pure]
  obtain ⟨marks, log₆, settled⟩ := sixth.log
  have after : ∀ k, ¬ SettledKey k → k ≠ .payment call.orderId → w₆.rows k = w₄.rows k := fun k aside unpaid =>
    (sixth.rows k aside).trans (fifth.rows k unpaid)
  have ordered : w₄.rows (.order call.orderId) = some (newOrder call address quote) :=
    (stored.frame (.order call.orderId) (by rintro ⟨⟩) (fun _ => by rintro ⟨⟩) id).trans created
  have notStock : ∀ k, StockKey k → ¬ SettledKey k ∧ k ≠ .payment call.orderId ∧ ¬ ItemKey k ∧
      k ≠ .subOrdersOf call.orderId ∧ (∀ x, k ≠ .subOrder x) ∧ ¬ OrderKey call k := by
    intro k kind
    cases k <;> first | exact kind.elim | simp [SettledKey, ItemKey, OrderKey]
  refine ⟨d, m, quote, sees, ends, some_, quoted, free, (after (.order call.orderId) id (by rintro ⟨⟩)).trans ordered,
    (sixth.rows (.payment call.orderId) id).trans paid, fun k stock => ?_,
    ⟨_, w₄, fun k stock other => ?_, stored, ordered, after⟩, marks, settled, ?_⟩
  · obtain ⟨aside, unpaid, notItem, notList, notSub, notOrder⟩ := notStock k stock
    rw [after k aside unpaid, stored.frame k notList notSub notItem, View.mark_rows, third.rows k notOrder,
      second.rows k id, taken]
  · exact (third.rows k other).trans (beside k stock)
  · rw [log₆, fifth.log_same, stored.log, View.mark_log, third.log_same, second.log_same, log₁]
    simp

theorem wp_runCheckoutTransaction {I : Isolation (Table Row) Mark} {v : View (Table Row) Mark} (distance : Distance)
    (call : CheckoutCall) (address : Address) :
    (runCheckoutTransaction distance call address).wp I
      (fun _ w => ∃ d m quote, I.Sees v d m ∧
        Placed distance call address (validItems (loadCart d call.userId)) quote v w) (fun _ => True) v := by
  have all := wp_runCheckoutTransaction_with (I := I) (v := v) (R := fun _ _ _ => True) (S := fun _ _ _ => True)
    distance call address (fun items u _ => wp_mono _ (wp_quoteOrder fun _ => trivial) (fun _ _ _ => trivial) fun _ _ => trivial)
    (fun _ _ _ _ _ _ => trivial) fun _ quote u _ =>
      wp_of_within (within_settleOrder call quote) (fun _ _ _ => trivial) fun _ => trivial
  refine wp_mono _ all (fun _ w found => ?_) fun _ e => e
  obtain ⟨d, m, quote, sees, _, placed⟩ := found
  exact ⟨d, m, quote, sees, placed⟩

end Marketplace
