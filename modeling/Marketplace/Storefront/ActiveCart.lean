import Marketplace.Carts
import Marketplace.Machine
import Mathlib.Algebra.BigOperators.Group.List.Basic
import Mathlib.Algebra.Ring.Int.Defs

/-!
The cart of `CartsService.getCart` and the copy that `useActiveCart` keeps of it, which a change of quantity or a removal
adjusts before the server has answered.
-/
namespace Marketplace.Storefront.ActiveCart

inductive Unavailable where
  | productDeleted | productSuspended | productHidden | shopInactive | outOfStock | insufficientStock
deriving DecidableEq

structure CartItemResponse where
  id : Id
  productId : Id
  variantId : Option Id
  quantity : Int
  unitPrice : Money
  subtotal : Money
  addedAt : Time
  availableStock : Int
  isAvailable : Bool
  reason : Option Unavailable
deriving DecidableEq

structure CartShopGroup where
  shopId : Option Id
  items : List CartItemResponse
  shopSubtotal : Money
deriving DecidableEq

structure CartResponse where
  itemsByShop : List CartShopGroup
  totalItems : Int
  totalQuantity : Int
  totalAmount : Money
deriving DecidableEq

/-! ### The server's cart -/

def unavailable (it : LoadedCartItem) (product : Product) (availableStock : Int) : Option Unavailable :=
  if product.status = .deleted then some .productDeleted
  else if product.status = .suspended then some .productSuspended
  else if product.isHidden then some .productHidden
  else if it.shop.map (·.status) ≠ some .active then some .shopInactive
  else if availableStock ≤ 0 then some .outOfStock
  else if availableStock < it.item.quantity then some .insufficientStock
  else none

def availableStock (it : LoadedCartItem) (product : Product) : Int := (it.variant.map (·.2.stockQuantity)).getD product.stockQuantity

def unitPrice (it : LoadedCartItem) (product : Product) : Money := product.price + (it.variant.map (·.2.additionalPrice)).getD 0

def responseItem (it : LoadedCartItem) (product : Product) : CartItemResponse where
  id := it.id
  productId := it.item.product
  variantId := it.variant.map (·.1)
  quantity := it.item.quantity
  unitPrice := unitPrice it product
  subtotal := it.item.quantity * unitPrice it product
  addedAt := it.item.addedAt
  availableStock := availableStock it product
  isAvailable := (unavailable it product (availableStock it product)).isNone
  reason := unavailable it product (availableStock it product)

/-- What an item adds to the sums: nothing where it is not available. -/
def counted (f : CartItemResponse → Int) (item : CartItemResponse) : Int := if item.isAvailable then f item else 0

/-- The groups stand in the order in which their shops came up. -/
def addToGroup (shopId : Option Id) (item : CartItemResponse) : List CartShopGroup → List CartShopGroup
  | [] => [⟨shopId, [item], counted (·.subtotal) item⟩]
  | group :: rest =>
    if group.shopId = shopId then
      { group with items := group.items ++ [item], shopSubtotal := group.shopSubtotal + counted (·.subtotal) item } :: rest
    else group :: addToGroup shopId item rest

/-- A row more. One without a product is passed over. -/
def groupRow (groups : List CartShopGroup) (it : LoadedCartItem) : List CartShopGroup :=
  match it.product with
  | none => groups
  | some product => addToGroup (it.shop.map fun _ => product.shop) (responseItem it product) groups

def grouped (cartItems : List LoadedCartItem) : List CartShopGroup := cartItems.foldl groupRow []

def total (f : CartItemResponse → Int) (groups : List CartShopGroup) : Int :=
  (groups.map fun group => (group.items.map (counted f)).sum).sum

def getCart (cartItems : List LoadedCartItem) : CartResponse where
  itemsByShop := grouped cartItems
  totalItems := cartItems.length
  totalQuantity := total (·.quantity) (grouped cartItems)
  totalAmount := total (·.subtotal) (grouped cartItems)

/-! ### The cached copy -/

/-- The totals of the quantities and the amounts that an optimistic change adds up. -/
structure Diffs where
  quantity : Int
  amount : Money

def changed (newQty : Int) (item : CartItemResponse) : CartItemResponse :=
  { item with quantity := newQty, subtotal := newQty * item.unitPrice }

def changeItems (cartItemId : Id) (newQty : Int) : List CartItemResponse → Money → Diffs → List CartItemResponse × Money × Diffs
  | [], updatedSubtotal, diffs => ([], updatedSubtotal, diffs)
  | item :: rest, updatedSubtotal, diffs =>
    if item.id = cartItemId then
      let diffQty := newQty - item.quantity
      let (items, after) := changeItems cartItemId newQty rest (updatedSubtotal + diffQty * item.unitPrice)
        ⟨diffs.quantity + diffQty, diffs.amount + diffQty * item.unitPrice⟩
      (changed newQty item :: items, after)
    else
      let (items, after) := changeItems cartItemId newQty rest updatedSubtotal diffs
      (item :: items, after)

def changeGroups (cartItemId : Id) (newQty : Int) : List CartShopGroup → Diffs → List CartShopGroup × Diffs
  | [], diffs => ([], diffs)
  | group :: rest, diffs =>
    let (items, shopSubtotal, diffs) := changeItems cartItemId newQty group.items group.shopSubtotal diffs
    let (groups, diffs) := changeGroups cartItemId newQty rest diffs
    ({ group with items, shopSubtotal } :: groups, diffs)

def changeQuantity (cartItemId : Id) (newQty : Int) (oldCart : CartResponse) : CartResponse :=
  let (itemsByShop, diffs) := changeGroups cartItemId newQty oldCart.itemsByShop ⟨0, 0⟩
  { oldCart with
    itemsByShop
    totalQuantity := oldCart.totalQuantity + diffs.quantity
    totalAmount := oldCart.totalAmount + diffs.amount }

/-- What was removed is kept from one group to the next. -/
def removeFromGroups (cartItemId : Id) : List CartShopGroup → Diffs → List CartShopGroup × Diffs
  | [], removed => ([], removed)
  | group :: rest, removed =>
    let removed := match group.items.find? (·.id = cartItemId) with
      | some currentItem => ⟨currentItem.quantity, currentItem.subtotal⟩
      | none => removed
    let (groups, last) := removeFromGroups cartItemId rest removed
    ({ group with
      items := group.items.filter (·.id ≠ cartItemId)
      shopSubtotal := group.shopSubtotal - removed.amount } :: groups, last)

def remove (cartItemId : Id) (oldCart : CartResponse) : CartResponse :=
  let (groups, removed) := removeFromGroups cartItemId oldCart.itemsByShop ⟨0, 0⟩
  { itemsByShop := groups.filter fun group => group.items.length > 0
    totalQuantity := oldCart.totalQuantity - removed.quantity
    totalItems := oldCart.totalItems - 1
    totalAmount := oldCart.totalAmount - removed.amount }

/-- What waits for `cancelQueries` to return. -/
inductive Optimistic where
  | quantity (cartItemId : Id) (newQty : Int)
  | removal (cartItemId : Id)
deriving DecidableEq

/-- The cached cart, the one that was rendered last, and the calls that have not come to the cache yet. -/
structure State where
  cache : CartResponse
  rendered : CartResponse
  pending : List Optimistic

def initial (cart : CartResponse) : State := ⟨cart, cart, []⟩

def State.cartItemId (s : State) (productId : Id) (variantId : Option Id) : Option Id :=
  ((s.rendered.itemsByShop.flatMap (·.items)).find? fun item => item.productId = productId && item.variantId = variantId).map (·.id)

def State.await (s : State) (change : Optimistic) : State := { s with pending := s.pending ++ [change] }

def State.removeItem (s : State) (productId : Id) (variantId : Option Id) : State :=
  match s.cartItemId productId variantId with
  | none => s
  | some cartItemId => s.await (.removal cartItemId)

def State.updateQuantity (s : State) (productId : Id) (variantId : Option Id) (newQty : Int) : State :=
  if newQty ≤ 0 then s.removeItem productId variantId
  else match s.cartItemId productId variantId with
    | none => s
    | some cartItemId => s.await (.quantity cartItemId newQty)

def Optimistic.apply (oldCart : CartResponse) : Optimistic → CartResponse
  | .quantity cartItemId newQty => changeQuantity cartItemId newQty oldCart
  | .removal cartItemId => remove cartItemId oldCart

inductive Move where
  | updateQuantity (productId : Id) (variantId : Option Id) (newQty : Int)
  | removeItem (productId : Id) (variantId : Option Id)
  | render
  /-- The `i`-th call that waits goes on to the cache. -/
  | cancelled (i : Nat)
deriving DecidableEq

def act (s : State) : Move → State
  | .updateQuantity productId variantId newQty => s.updateQuantity productId variantId newQty
  | .removeItem productId variantId => s.removeItem productId variantId
  | .render => { s with rendered := s.cache }
  | .cancelled i =>
    match s.pending[i]? with
    | none => s
    | some change => { s with cache := change.apply s.cache, pending := s.pending.eraseIdx i }

/-! ### What a cart keeps -/

def allItems (groups : List CartShopGroup) : List CartItemResponse := groups.flatMap (·.items)

/-- The sums are those of the available items. `hidden` is how many rows the server counts that have no product to show. -/
structure Right (hidden : Int) (c : CartResponse) : Prop where
  subtotals : ∀ group ∈ c.itemsByShop, group.shopSubtotal = (group.items.map (counted (·.subtotal))).sum
  quantity : c.totalQuantity = total (·.quantity) c.itemsByShop
  amount : c.totalAmount = (c.itemsByShop.map (·.shopSubtotal)).sum
  items : c.totalItems = (allItems c.itemsByShop).length + hidden

/-- What the server sends and no optimistic change breaks. -/
structure Sound (c : CartResponse) : Prop where
  ids : ((allItems c.itemsByShop).map (·.id)).Nodup
  priced : ∀ item ∈ allItems c.itemsByShop, item.subtotal = item.quantity * item.unitPrice
  positive : ∀ item ∈ allItems c.itemsByShop, 1 ≤ item.quantity
  filled : ∀ group ∈ c.itemsByShop, group.items ≠ []

@[simp] theorem allItems_append (a b : List CartShopGroup) : allItems (a ++ b) = allItems a ++ allItems b := List.flatMap_append

@[simp] theorem allItems_cons (group : CartShopGroup) (rest : List CartShopGroup) :
    allItems (group :: rest) = group.items ++ allItems rest := List.flatMap_cons

theorem counted_available {item : CartItemResponse} (available : item.isAvailable = true) (f : CartItemResponse → Int) :
    counted f item = f item := if_pos available

theorem counted_unavailable {item : CartItemResponse} (unavailable : item.isAvailable ≠ true) (f : CartItemResponse → Int) :
    counted f item = 0 := if_neg unavailable

theorem total_append (f : CartItemResponse → Int) (a b : List CartShopGroup) : total f (a ++ b) = total f a + total f b := by
  rw [total, List.map_append, List.sum_append, total, total]

theorem total_cons (f : CartItemResponse → Int) (group : CartShopGroup) (rest : List CartShopGroup) :
    total f (group :: rest) = (group.items.map (counted f)).sum + total f rest := by
  rw [total, List.map_cons, List.sum_cons, total]

/-! ### The server's cart -/

/-- The rows of a cart: the primary key, and quantities from `MIN_QUANTITY_PER_ITEM` on. -/
structure CartTable where
  cartItems : List LoadedCartItem
  pkey : (cartItems.map (·.id)).Nodup
  positive : ∀ it ∈ cartItems, MIN_QUANTITY_PER_ITEM ≤ it.item.quantity

theorem addToGroup_items (shopId : Option Id) (item : CartItemResponse) (groups : List CartShopGroup) :
    (allItems (addToGroup shopId item groups)).Perm (item :: allItems groups) := by
  induction groups with
  | nil => exact List.Perm.refl _
  | cons group rest ih =>
    rw [addToGroup]
    split
    · simp only [allItems_cons, List.append_assoc, List.singleton_append]
      exact List.perm_middle
    · simp only [allItems_cons]
      exact (ih.append_left group.items).trans List.perm_middle

theorem addToGroup_groups {P : CartShopGroup → Prop} (shopId : Option Id) (item : CartItemResponse)
    (fresh : P ⟨shopId, [item], counted (·.subtotal) item⟩)
    (more : ∀ group, P group → P { group with
      items := group.items ++ [item], shopSubtotal := group.shopSubtotal + counted (·.subtotal) item })
    {groups : List CartShopGroup} (all : ∀ group ∈ groups, P group) : ∀ group ∈ addToGroup shopId item groups, P group := by
  induction groups with
  | nil =>
    intro group member
    rw [List.mem_singleton.mp member]
    exact fresh
  | cons group rest ih =>
    obtain ⟨first, others⟩ := List.forall_mem_cons.mp all
    rw [addToGroup]
    split
    · exact List.forall_mem_cons.mpr ⟨more group first, others⟩
    · exact List.forall_mem_cons.mpr ⟨first, ih others⟩

/-- The rows that have a product, as they are answered. -/
def shown (cartItems : List LoadedCartItem) : List CartItemResponse :=
  cartItems.filterMap fun it => it.product.map (responseItem it)

theorem grouped_items (cartItems : List LoadedCartItem) : (allItems (grouped cartItems)).Perm (shown cartItems) := by
  have folded : ∀ groups, (allItems (cartItems.foldl groupRow groups)).Perm (shown cartItems ++ allItems groups) := by
    induction cartItems with
    | nil => exact fun groups => List.Perm.refl _
    | cons it rest ih =>
      intro groups
      rw [List.foldl_cons]
      refine (ih _).trans ?_
      cases found : it.product with
      | none => simp only [groupRow, shown, found, List.filterMap_cons, Option.map_none, List.Perm.refl]
      | some product =>
        simp only [groupRow, shown, found, List.filterMap_cons, Option.map_some, List.cons_append]
        exact ((addToGroup_items _ _ groups).append_left _).trans List.perm_middle
  have whole := folded []
  rw [show allItems [] = [] from rfl, List.append_nil] at whole
  exact whole

theorem grouped_groups {P : CartShopGroup → Prop}
    (fresh : ∀ shopId item, P ⟨shopId, [item], counted (·.subtotal) item⟩)
    (more : ∀ group item, P group → P { group with
      items := group.items ++ [item], shopSubtotal := group.shopSubtotal + counted (·.subtotal) item })
    (cartItems : List LoadedCartItem) : ∀ group ∈ grouped cartItems, P group := by
  have folded : ∀ groups : List CartShopGroup, (∀ group ∈ groups, P group) →
      ∀ group ∈ cartItems.foldl groupRow groups, P group := by
    induction cartItems with
    | nil => exact fun groups all => all
    | cons it rest ih =>
      intro groups all
      rw [List.foldl_cons]
      apply ih
      unfold groupRow
      split
      · exact all
      · exact addToGroup_groups _ _ (fresh _ _) (fun group => more group _) all
  exact folded [] nofun

theorem length_shown (cartItems : List LoadedCartItem) :
    (shown cartItems).length + cartItems.countP (·.product.isNone) = cartItems.length := by
  induction cartItems with
  | nil => rfl
  | cons it rest ih =>
    cases found : it.product with
    | none =>
      simp only [shown, List.filterMap_cons, found, Option.map_none, List.countP_cons, Option.isNone_none, if_true,
        List.length_cons] at ih ⊢
      omega
    | some product =>
      simp only [shown, List.filterMap_cons, found, Option.map_some, List.countP_cons, Option.isNone_some, List.length_cons,
        Bool.false_eq_true, if_false] at ih ⊢
      omega

theorem getCart_right (cartItems : List LoadedCartItem) :
    Right (cartItems.countP (·.product.isNone) : Nat) (getCart cartItems) := by
  have subtotals := grouped_groups (P := fun group => group.shopSubtotal = (group.items.map (counted (·.subtotal))).sum)
    (fun _ _ => by simp) (fun group item same => by
      rw [List.map_append, List.sum_append, ← same]
      simp) cartItems
  refine ⟨subtotals, rfl, ?_, ?_⟩
  · show total (·.subtotal) (grouped cartItems) = _
    exact congrArg List.sum (List.map_congr_left fun group member => (subtotals group member).symm)
  · have lengths := (grouped_items cartItems).length_eq
    have count := length_shown cartItems
    show (cartItems.length : Int) = (allItems (grouped cartItems)).length + _
    omega

theorem getCart_sound (table : CartTable) : Sound (getCart table.cartItems) := by
  have among : ∀ item ∈ allItems (grouped table.cartItems), ∃ it ∈ table.cartItems, ∃ product, item = responseItem it product := by
    intro item member
    obtain ⟨it, inside, answered⟩ := List.mem_filterMap.mp ((grouped_items _).mem_iff.mp member)
    obtain ⟨product, -, rfl⟩ := Option.map_eq_some_iff.mp answered
    exact ⟨it, inside, product, rfl⟩
  refine ⟨?_, ?_, ?_, ?_⟩
  · refine ((grouped_items table.cartItems).map (·.id)).nodup_iff.mpr ?_
    refine List.pairwise_map.mpr (List.Pairwise.filterMap _ ?_ (List.pairwise_map.mp table.pkey))
    intro a b apart x fromA y fromB
    obtain ⟨_, -, rfl⟩ := Option.map_eq_some_iff.mp fromA
    obtain ⟨_, -, rfl⟩ := Option.map_eq_some_iff.mp fromB
    exact apart
  · intro item member
    obtain ⟨it, -, product, rfl⟩ := among item member
    rfl
  · intro item member
    obtain ⟨it, inside, product, rfl⟩ := among item member
    have positive : 1 ≤ it.item.quantity := table.positive it inside
    show (1 : Int) ≤ it.item.quantity
    omega
  · exact grouped_groups (P := fun group => group.items ≠ []) (fun _ _ => List.cons_ne_nil _ _)
      (fun group item _ => List.concat_ne_nil _ _) table.cartItems

/-! ### The item that a change is about -/

/-- The groups of a cart, taken apart at one item. -/
structure Place where
  before : List CartShopGroup
  shopId : Option Id
  l : List CartItemResponse
  item : CartItemResponse
  r : List CartItemResponse
  shopSubtotal : Money
  after : List CartShopGroup

namespace Place

def groups (p : Place) : List CartShopGroup := p.before ++ ⟨p.shopId, p.l ++ p.item :: p.r, p.shopSubtotal⟩ :: p.after

/-- No other item has the id. -/
structure Alone (p : Place) : Prop where
  before : ∀ other ∈ allItems p.before, other.id ≠ p.item.id
  l : ∀ other ∈ p.l, other.id ≠ p.item.id
  r : ∀ other ∈ p.r, other.id ≠ p.item.id
  after : ∀ other ∈ allItems p.after, other.id ≠ p.item.id

theorem allItems_groups (p : Place) : allItems p.groups = (allItems p.before ++ p.l) ++ p.item :: (p.r ++ allItems p.after) := by
  rw [groups, allItems_append, allItems_cons]
  simp only [List.append_assoc, List.cons_append]

theorem item_mem (p : Place) : p.item ∈ allItems p.groups := by
  rw [allItems_groups]
  simp

end Place

theorem exists_place {groups : List CartShopGroup} (unique : ((allItems groups).map (·.id)).Nodup)
    {item : CartItemResponse} (member : item ∈ allItems groups) : ∃ p : Place, p.groups = groups ∧ p.item = item ∧ p.Alone := by
  obtain ⟨group, among, inside⟩ := List.mem_flatMap.mp member
  obtain ⟨before, after, rfl⟩ := List.append_of_mem among
  obtain ⟨l, r, items⟩ := List.append_of_mem inside
  obtain ⟨shopId, _, shopSubtotal⟩ := group
  subst items
  let p : Place := ⟨before, shopId, l, item, r, shopSubtotal, after⟩
  have whole := p.allItems_groups
  rw [show before ++ ⟨shopId, l ++ item :: r, shopSubtotal⟩ :: after = p.groups from rfl, whole, List.map_append, List.map_cons,
    List.nodup_middle, List.nodup_cons, ← List.map_append] at unique
  have alone : ∀ other ∈ (allItems before ++ l) ++ (r ++ allItems after), other.id ≠ item.id :=
    fun other there same => unique.1 (same ▸ List.mem_map_of_mem there)
  simp only [List.forall_mem_append] at alone
  exact ⟨p, rfl, rfl, alone.1.1, alone.1.2, alone.2.1, alone.2.2⟩

/-! ### A change of quantity -/

theorem changeItems_absent {cartItemId : Id} {items : List CartItemResponse} (absent : ∀ item ∈ items, item.id ≠ cartItemId)
    (newQty : Int) (subtotal : Money) (diffs : Diffs) : changeItems cartItemId newQty items subtotal diffs = (items, subtotal, diffs) := by
  induction items with
  | nil => rfl
  | cons item rest ih =>
    obtain ⟨other, absent⟩ := List.forall_mem_cons.mp absent
    rw [changeItems, if_neg other, ih absent]

theorem changeGroups_absent {cartItemId : Id} {groups : List CartShopGroup} (absent : ∀ item ∈ allItems groups, item.id ≠ cartItemId)
    (newQty : Int) (diffs : Diffs) : changeGroups cartItemId newQty groups diffs = (groups, diffs) := by
  induction groups with
  | nil => rfl
  | cons group rest ih =>
    rw [allItems_cons, List.forall_mem_append] at absent
    rw [changeGroups, changeItems_absent absent.1]
    simp only
    rw [ih absent.2]

theorem changeItems_at {cartItemId : Id} {l r : List CartItemResponse} {item : CartItemResponse} (same : item.id = cartItemId)
    (left : ∀ other ∈ l, other.id ≠ cartItemId) (right : ∀ other ∈ r, other.id ≠ cartItemId) (newQty : Int) (subtotal : Money)
    (diffs : Diffs) : changeItems cartItemId newQty (l ++ item :: r) subtotal diffs =
      (l ++ changed newQty item :: r, subtotal + (newQty - item.quantity) * item.unitPrice,
        ⟨diffs.quantity + (newQty - item.quantity), diffs.amount + (newQty - item.quantity) * item.unitPrice⟩) := by
  induction l with
  | nil => simp only [List.nil_append, changeItems, if_pos same, changeItems_absent right]
  | cons other l ih =>
    obtain ⟨apart, left⟩ := List.forall_mem_cons.mp left
    rw [List.cons_append, changeItems, if_neg apart, ih left]
    rfl

/-- The place with the new quantity. -/
def Place.changed (p : Place) (newQty : Int) : Place :=
  { p with
    item := ActiveCart.changed newQty p.item
    shopSubtotal := p.shopSubtotal + (newQty - p.item.quantity) * p.item.unitPrice }

theorem changeGroups_at {p : Place} (alone : p.Alone) (newQty : Int) :
    changeGroups p.item.id newQty p.groups ⟨0, 0⟩ =
      ((p.changed newQty).groups, ⟨newQty - p.item.quantity, (newQty - p.item.quantity) * p.item.unitPrice⟩) := by
  have before := alone.before
  unfold Place.groups Place.changed
  simp only
  generalize p.before = groups at before
  induction groups with
  | nil =>
    simp only [List.nil_append, changeGroups, changeItems_at rfl alone.l alone.r, changeGroups_absent alone.after, Int.zero_add]
  | cons group rest ih =>
    rw [allItems_cons, List.forall_mem_append] at before
    simp only [List.cons_append, changeGroups, changeItems_absent before.1, ih before.2]

/-- The sums of a cart with one item apart. -/
theorem total_groups (f : CartItemResponse → Int) (p : Place) : total f p.groups =
    total f p.before + ((p.l.map (counted f)).sum + (p.r.map (counted f)).sum) + total f p.after + counted f p.item := by
  rw [Place.groups, total_append, total_cons, List.map_append, List.map_cons, List.sum_append, List.sum_cons]
  omega

theorem subtotals_groups (p : Place) : (∀ group ∈ p.groups, group.shopSubtotal = (group.items.map (counted (·.subtotal))).sum) ↔
    (∀ group ∈ p.before, group.shopSubtotal = (group.items.map (counted (·.subtotal))).sum) ∧
    p.shopSubtotal = (p.l.map (counted (·.subtotal))).sum + (p.r.map (counted (·.subtotal))).sum + counted (·.subtotal) p.item ∧
    ∀ group ∈ p.after, group.shopSubtotal = (group.items.map (counted (·.subtotal))).sum := by
  have own : ((p.l ++ p.item :: p.r).map (counted (·.subtotal))).sum =
      (p.l.map (counted (·.subtotal))).sum + (p.r.map (counted (·.subtotal))).sum + counted (·.subtotal) p.item := by
    rw [List.map_append, List.map_cons, List.sum_append, List.sum_cons]
    omega
  rw [Place.groups, List.forall_mem_append, List.forall_mem_cons, ← own]

theorem amount_groups (p : Place) : (p.groups.map (·.shopSubtotal)).sum =
    (p.before.map (·.shopSubtotal)).sum + p.shopSubtotal + (p.after.map (·.shopSubtotal)).sum := by
  rw [Place.groups, List.map_append, List.map_cons, List.sum_append, List.sum_cons]
  exact (Int.add_assoc _ _ _).symm

theorem right_changeQuantity {hidden : Int} {c : CartResponse} (right : Right hidden c) (sound : Sound c) {p : Place}
    (there : p.groups = c.itemsByShop) (alone : p.Alone) (newQty : Int) :
    Right hidden (changeQuantity p.item.id newQty c) ↔ p.item.isAvailable ∨ newQty = p.item.quantity := by
  have priced : p.item.subtotal = p.item.quantity * p.item.unitPrice := sound.priced _ (there ▸ p.item_mem)
  have step : (newQty - p.item.quantity) * p.item.unitPrice = newQty * p.item.unitPrice - p.item.subtotal := by
    rw [Int.sub_mul, priced]
  obtain ⟨subtotals, quantity, amount, items⟩ := right
  rw [← there] at subtotals quantity amount items
  rw [subtotals_groups] at subtotals
  rw [total_groups] at quantity
  rw [amount_groups] at amount
  rw [p.allItems_groups] at items
  have after : changeQuantity p.item.id newQty c =
      ⟨(p.changed newQty).groups, c.totalItems, c.totalQuantity + (newQty - p.item.quantity),
        c.totalAmount + (newQty - p.item.quantity) * p.item.unitPrice⟩ := by
    rw [changeQuantity, ← there, changeGroups_at alone]
  rw [after]
  constructor
  · intro kept
    have counts := kept.quantity
    rw [total_groups] at counts
    have counts : c.totalQuantity + (newQty - p.item.quantity) =
        total (·.quantity) p.before + ((p.l.map (counted (·.quantity))).sum + (p.r.map (counted (·.quantity))).sum) +
          total (·.quantity) p.after + counted (·.quantity) (changed newQty p.item) := counts
    by_cases available : p.item.isAvailable = true
    · exact .inl available
    · rw [show counted (·.quantity) (changed newQty p.item) = 0 from counted_unavailable (by exact available) _] at counts
      rw [counted_unavailable available] at quantity
      right
      omega
  · intro condition
    have moved : counted (·.subtotal) (changed newQty p.item) =
          counted (·.subtotal) p.item + (newQty - p.item.quantity) * p.item.unitPrice ∧
        counted (·.quantity) (changed newQty p.item) = counted (·.quantity) p.item + (newQty - p.item.quantity) := by
      rcases condition with available | same
      · have still : (changed newQty p.item).isAvailable = true := available
        rw [counted_available still, counted_available still, counted_available available, counted_available available]
        refine ⟨?_, ?_⟩
        · show newQty * p.item.unitPrice = _
          omega
        · show newQty = _
          omega
      · have unchanged : changed newQty p.item = p.item := by
          rw [changed, same, ← priced]
        rw [unchanged, same, Int.sub_self, Int.zero_mul, Int.add_zero, Int.add_zero]
        exact ⟨rfl, rfl⟩
    obtain ⟨amounts, quantities⟩ := moved
    refine ⟨(subtotals_groups _).mpr ⟨subtotals.1, ?_, subtotals.2.2⟩, ?_, ?_, ?_⟩
    · show p.shopSubtotal + (newQty - p.item.quantity) * p.item.unitPrice = _ + counted (·.subtotal) (changed newQty p.item)
      rw [amounts, subtotals.2.1]
      exact Int.add_assoc _ _ _
    · rw [total_groups]
      show c.totalQuantity + (newQty - p.item.quantity) = _ + counted (·.quantity) (changed newQty p.item)
      rw [quantities, quantity]
      exact Int.add_assoc _ _ _
    · rw [amount_groups]
      show c.totalAmount + (newQty - p.item.quantity) * p.item.unitPrice = (p.before.map (·.shopSubtotal)).sum +
        (p.shopSubtotal + (newQty - p.item.quantity) * p.item.unitPrice) + (p.after.map (·.shopSubtotal)).sum
      rw [amount, ← Int.add_assoc, Int.add_right_comm]
    · rw [Place.allItems_groups]
      simpa [Place.changed] using items

/-! ### A removal -/

def reduced (amount : Money) (group : CartShopGroup) : CartShopGroup := { group with shopSubtotal := group.shopSubtotal - amount }

theorem find_absent {cartItemId : Id} {items : List CartItemResponse} (absent : ∀ item ∈ items, item.id ≠ cartItemId) :
    items.find? (·.id = cartItemId) = none :=
  List.find?_eq_none.mpr fun item member same => absent item member (of_decide_eq_true same)

theorem filter_absent {cartItemId : Id} {items : List CartItemResponse} (absent : ∀ item ∈ items, item.id ≠ cartItemId) :
    items.filter (·.id ≠ cartItemId) = items :=
  List.filter_eq_self.mpr fun item member => decide_eq_true (absent item member)

theorem filter_filled {groups : List CartShopGroup} (filled : ∀ group ∈ groups, group.items ≠ []) :
    groups.filter (fun group => group.items.length > 0) = groups :=
  List.filter_eq_self.mpr fun group member => decide_eq_true (List.length_pos_iff.mpr (filled group member))

/-- A group without the item loses what was removed before it. -/
theorem removeFromGroups_absent {cartItemId : Id} {groups : List CartShopGroup}
    (absent : ∀ item ∈ allItems groups, item.id ≠ cartItemId) (removed : Diffs) :
    removeFromGroups cartItemId groups removed = (groups.map (reduced removed.amount), removed) := by
  induction groups with
  | nil => rfl
  | cons group rest ih =>
    rw [allItems_cons, List.forall_mem_append] at absent
    simp only [removeFromGroups, find_absent absent.1, filter_absent absent.1, ih absent.2, List.map_cons, reduced]

theorem filled_reduced {groups : List CartShopGroup} (filled : ∀ group ∈ groups, group.items ≠ []) (amount : Money) :
    ∀ group ∈ groups.map (reduced amount), group.items ≠ [] := by
  intro group member
  obtain ⟨source, inside, rfl⟩ := List.mem_map.mp member
  exact filled source inside

theorem reduced_zero (groups : List CartShopGroup) : groups.map (reduced 0) = groups := by
  have each : reduced 0 = id := funext fun group => by rw [reduced, Int.sub_zero]; rfl
  rw [each, List.map_id]

theorem removeFromGroups_at {p : Place} (alone : p.Alone) : removeFromGroups p.item.id p.groups ⟨0, 0⟩ =
    (p.before ++ ⟨p.shopId, p.l ++ p.r, p.shopSubtotal - p.item.subtotal⟩ :: p.after.map (reduced p.item.subtotal),
      ⟨p.item.quantity, p.item.subtotal⟩) := by
  have before := alone.before
  unfold Place.groups
  generalize p.before = groups at before
  induction groups with
  | nil =>
    have found : (p.l ++ p.item :: p.r).find? (·.id = p.item.id) = some p.item := by
      rw [List.find?_append, find_absent alone.l, Option.none_or]
      exact List.find?_cons_of_pos (decide_eq_true (rfl : p.item.id = p.item.id))
    have items : (p.l ++ p.item :: p.r).filter (·.id ≠ p.item.id) = p.l ++ p.r := by
      rw [List.filter_append, List.filter_cons_of_neg (by simp), filter_absent alone.l, filter_absent alone.r]
    simp only [List.nil_append, removeFromGroups, found, items, removeFromGroups_absent alone.after]
  | cons group rest ih =>
    rw [allItems_cons, List.forall_mem_append] at before
    simp only [List.cons_append, removeFromGroups, find_absent before.1, filter_absent before.1, ih before.2, Int.sub_zero]

/-- The group of the removed item, unless it was the last item there. -/
def Place.left (p : Place) : List CartShopGroup :=
  if p.l ++ p.r = [] then [] else [⟨p.shopId, p.l ++ p.r, p.shopSubtotal - p.item.subtotal⟩]

theorem remove_at {c : CartResponse} (sound : Sound c) {p : Place} (there : p.groups = c.itemsByShop) (alone : p.Alone) :
    remove p.item.id c =
      ⟨p.before ++ (p.left ++ p.after.map (reduced p.item.subtotal)), c.totalItems - 1, c.totalQuantity - p.item.quantity,
        c.totalAmount - p.item.subtotal⟩ := by
  have filled := sound.filled
  rw [← there, Place.groups, List.forall_mem_append, List.forall_mem_cons] at filled
  have before := filter_filled filled.1
  have after := filter_filled (filled_reduced filled.2.2 p.item.subtotal)
  rw [remove, ← there, removeFromGroups_at alone]
  simp only [List.filter_append, List.filter_cons, before, after, Place.left]
  by_cases last : p.l ++ p.r = []
  · simp [last]
  · have some_left : (p.l ++ p.r).length > 0 := List.length_pos_iff.mpr last
    simp only [some_left, decide_true, if_true, last, if_false, List.singleton_append]

theorem left_total (f : CartItemResponse → Int) (p : Place) :
    total f p.left = (p.l.map (counted f)).sum + (p.r.map (counted f)).sum := by
  have both : ((p.l ++ p.r).map (counted f)).sum = (p.l.map (counted f)).sum + (p.r.map (counted f)).sum := by
    rw [List.map_append, List.sum_append]
  unfold Place.left
  split
  · rename_i last
    rw [← both, last]
    rfl
  · rw [total_cons, both]
    exact Int.add_zero _

theorem left_subtotals {p : Place}
    (own : p.shopSubtotal - p.item.subtotal = (p.l.map (counted (·.subtotal))).sum + (p.r.map (counted (·.subtotal))).sum) :
    ∀ group ∈ p.left, group.shopSubtotal = (group.items.map (counted (·.subtotal))).sum := by
  intro group member
  unfold Place.left at member
  split at member
  · cases member
  · rw [List.mem_singleton.mp member, List.map_append, List.sum_append]
    exact own

theorem left_amount {p : Place}
    (own : p.shopSubtotal - p.item.subtotal = (p.l.map (counted (·.subtotal))).sum + (p.r.map (counted (·.subtotal))).sum) :
    (p.left.map (·.shopSubtotal)).sum = p.shopSubtotal - p.item.subtotal := by
  rw [own, ← left_total, total]
  exact congrArg List.sum (List.map_congr_left (left_subtotals own))

theorem left_items (p : Place) : allItems p.left = p.l ++ p.r := by
  unfold Place.left
  split
  · rename_i last
    rw [last]
    rfl
  · rw [allItems_cons]
    exact List.append_nil _

theorem total_reduced (f : CartItemResponse → Int) (amount : Money) (groups : List CartShopGroup) :
    total f (groups.map (reduced amount)) = total f groups := by
  rw [total, List.map_map]
  rfl

theorem allItems_reduced (amount : Money) (groups : List CartShopGroup) : allItems (groups.map (reduced amount)) = allItems groups := by
  rw [allItems, List.flatMap_map]
  rfl

theorem right_remove {hidden : Int} {c : CartResponse} (right : Right hidden c) (sound : Sound c) {p : Place}
    (there : p.groups = c.itemsByShop) (alone : p.Alone) :
    Right hidden (remove p.item.id c) ↔ p.item.isAvailable ∧ (p.item.subtotal = 0 ∨ p.after = []) := by
  have positive : 1 ≤ p.item.quantity := sound.positive _ (there ▸ p.item_mem)
  obtain ⟨subtotals, quantity, amount, items⟩ := right
  rw [← there] at subtotals quantity amount items
  rw [subtotals_groups] at subtotals
  rw [total_groups] at quantity
  rw [amount_groups] at amount
  rw [p.allItems_groups] at items
  rw [remove_at sound there alone]
  constructor
  · intro kept
    have counts := kept.quantity
    rw [total_append, total_append, left_total, total_reduced] at counts
    have counts : c.totalQuantity - p.item.quantity = total (·.quantity) p.before +
        ((p.l.map (counted (·.quantity))).sum + (p.r.map (counted (·.quantity))).sum + total (·.quantity) p.after) := counts
    have available : p.item.isAvailable = true := by
      by_contra unavailable
      rw [counted_unavailable unavailable] at quantity
      omega
    refine ⟨available, ?_⟩
    cases rest : p.after with
    | nil => exact .inr rfl
    | cons group groups =>
      left
      have member : group ∈ p.after := by
        rw [rest]
        exact List.mem_cons_self
      have before := subtotals.2.2 group member
      have after := kept.subtotals (reduced p.item.subtotal group)
        (List.mem_append_right _ (List.mem_append_right _ (List.mem_map_of_mem member)))
      have after : group.shopSubtotal - p.item.subtotal = (group.items.map (counted (·.subtotal))).sum := after
      exact sub_eq_self.mp (after.trans before.symm)
  · rintro ⟨available, apart⟩
    have same : p.after.map (reduced p.item.subtotal) = p.after := by
      rcases apart with free | none_after
      · rw [free, reduced_zero]
      · rw [none_after]
        rfl
    rw [same]
    rw [counted_available available] at quantity subtotals
    obtain ⟨first, own, last⟩ := subtotals
    have own : p.shopSubtotal - p.item.subtotal = (p.l.map (counted (·.subtotal))).sum + (p.r.map (counted (·.subtotal))).sum := by
      rw [own]
      exact Int.add_sub_cancel _ _
    refine ⟨List.forall_mem_append.mpr ⟨first, List.forall_mem_append.mpr ⟨left_subtotals own, last⟩⟩, ?_, ?_, ?_⟩
    · have counts : c.totalQuantity - p.item.quantity = total (·.quantity) p.before +
          ((p.l.map (counted (·.quantity))).sum + (p.r.map (counted (·.quantity))).sum + total (·.quantity) p.after) := by
        omega
      rw [total_append, total_append, left_total]
      exact counts
    · rw [List.map_append, List.sum_append, List.map_append, List.sum_append, left_amount own]
      show c.totalAmount - p.item.subtotal =
        (p.before.map (·.shopSubtotal)).sum + (p.shopSubtotal - p.item.subtotal + (p.after.map (·.shopSubtotal)).sum)
      rw [amount, add_sub_right_comm, add_sub_assoc, add_assoc]
    · rw [allItems_append, allItems_append, left_items]
      show c.totalItems - 1 = _
      simp only [List.length_append, List.length_cons] at items ⊢
      omega

/-! ### An item that is no longer in the cache -/

theorem changeQuantity_absent {cartItemId : Id} {c : CartResponse}
    (absent : ∀ item ∈ allItems c.itemsByShop, item.id ≠ cartItemId) (newQty : Int) : changeQuantity cartItemId newQty c = c := by
  simp only [changeQuantity, changeGroups_absent absent, Int.add_zero]

theorem remove_absent {cartItemId : Id} {c : CartResponse} (sound : Sound c)
    (absent : ∀ item ∈ allItems c.itemsByShop, item.id ≠ cartItemId) :
    remove cartItemId c = { c with totalItems := c.totalItems - 1 } := by
  simp only [remove, removeFromGroups_absent absent, reduced_zero, filter_filled sound.filled, Int.sub_zero]

theorem not_right_remove_absent {hidden : Int} {cartItemId : Id} {c : CartResponse} (right : Right hidden c) (sound : Sound c)
    (absent : ∀ item ∈ allItems c.itemsByShop, item.id ≠ cartItemId) : ¬ Right hidden (remove cartItemId c) := by
  intro kept
  have items : c.totalItems = (allItems c.itemsByShop).length + hidden := right.items
  have fewer := kept.items
  rw [remove_absent sound absent] at fewer
  have fewer : c.totalItems - 1 = (allItems c.itemsByShop).length + hidden := fewer
  omega

/-! ### What the changes keep -/

/-- An item is in the cart at a place of its own, or there is no such item. -/
theorem absent_or_place {c : CartResponse} (sound : Sound c) (cartItemId : Id) :
    (∀ item ∈ allItems c.itemsByShop, item.id ≠ cartItemId) ∨
      ∃ p : Place, p.groups = c.itemsByShop ∧ p.item.id = cartItemId ∧ p.Alone := by
  by_cases present : ∃ item ∈ allItems c.itemsByShop, item.id = cartItemId
  · obtain ⟨item, member, named⟩ := present
    obtain ⟨p, there, rfl, alone⟩ := exists_place sound.ids member
    exact .inr ⟨p, there, named, alone⟩
  · exact .inl fun item member named => present ⟨item, member, named⟩

theorem sound_changeQuantity {c : CartResponse} (sound : Sound c) (cartItemId : Id) {newQty : Int} (positive : 1 ≤ newQty) :
    Sound (changeQuantity cartItemId newQty c) := by
  rcases absent_or_place sound cartItemId with absent | ⟨p, there, rfl, alone⟩
  · rw [changeQuantity_absent absent]
    exact sound
  · obtain ⟨ids, priced, positives, filled⟩ := sound
    rw [← there] at ids priced positives filled
    have after : (changeQuantity p.item.id newQty c).itemsByShop = (p.changed newQty).groups := by
      rw [changeQuantity, ← there, changeGroups_at alone]
    have others : ∀ item ∈ allItems (p.changed newQty).groups, item = changed newQty p.item ∨ item ∈ allItems p.groups := by
      intro item member
      rw [Place.allItems_groups] at member ⊢
      rcases List.mem_append.mp member with early | late
      · exact .inr (List.mem_append_left _ early)
      · rcases List.mem_cons.mp late with own | late
        · exact .inl own
        · exact .inr (List.mem_append_right _ (List.mem_cons_of_mem _ late))
    refine ⟨?_, ?_, ?_, ?_⟩ <;> rw [after]
    · rw [Place.allItems_groups, List.map_append, List.map_cons] at ids ⊢
      exact ids
    · intro item member
      rcases others item member with rfl | before
      · rfl
      · exact priced item before
    · intro item member
      rcases others item member with rfl | before
      · exact positive
      · exact positives item before
    · rw [Place.groups, List.forall_mem_append, List.forall_mem_cons] at filled ⊢
      exact ⟨filled.1, List.append_ne_nil_of_right_ne_nil _ (List.cons_ne_nil _ _), filled.2.2⟩

theorem sound_remove {c : CartResponse} (sound : Sound c) (cartItemId : Id) : Sound (remove cartItemId c) := by
  rcases absent_or_place sound cartItemId with absent | ⟨p, there, rfl, alone⟩
  · rw [remove_absent sound absent]
    exact ⟨sound.ids, sound.priced, sound.positive, sound.filled⟩
  · rw [remove_at sound there alone]
    obtain ⟨ids, priced, positive, filled⟩ := sound
    rw [← there] at ids priced positive filled
    have fewer : (allItems (p.before ++ (p.left ++ p.after.map (reduced p.item.subtotal)))).Sublist (allItems p.groups) := by
      rw [p.allItems_groups, allItems_append, allItems_append, left_items, allItems_reduced, List.append_assoc, List.append_assoc]
      exact (List.Sublist.refl _).append ((List.Sublist.refl _).append (List.sublist_cons_self _ _))
    refine ⟨ids.sublist (fewer.map _), fun item member => priced item (fewer.subset member),
      fun item member => positive item (fewer.subset member), ?_⟩
    rw [Place.groups, List.forall_mem_append, List.forall_mem_cons] at filled
    refine List.forall_mem_append.mpr ⟨filled.1, List.forall_mem_append.mpr ⟨?_, filled_reduced filled.2.2 _⟩⟩
    intro group member
    unfold Place.left at member
    split at member
    · cases member
    · rename_i some_left
      rw [List.mem_singleton.mp member]
      exact some_left

/-! ### Which changes leave the cart right -/

/-- A change is of an available item or to the quantity it has; a removal is of an available item that costs nothing or is in
the last group. -/
def Optimistic.Fits (c : CartResponse) : Optimistic → Prop
  | .quantity cartItemId newQty =>
    ∀ item ∈ allItems c.itemsByShop, item.id = cartItemId → item.isAvailable ∨ newQty = item.quantity
  | .removal cartItemId =>
    ∃ item ∈ allItems c.itemsByShop, item.id = cartItemId ∧ item.isAvailable ∧
      (item.subtotal = 0 ∨ ∀ last ∈ c.itemsByShop.getLast?, item ∈ last.items)

theorem Place.Alone.unique {p : Place} (alone : p.Alone) {other : CartItemResponse} (member : other ∈ allItems p.groups)
    (same : other.id = p.item.id) : other = p.item := by
  rw [p.allItems_groups] at member
  rcases List.mem_append.mp member with early | late
  · rcases List.mem_append.mp early with before | l
    · exact absurd same (alone.before other before)
    · exact absurd same (alone.l other l)
  · rcases List.mem_cons.mp late with own | late
    · exact own
    · rcases List.mem_append.mp late with r | after
      · exact absurd same (alone.r other r)
      · exact absurd same (alone.after other after)

theorem Place.Alone.last_iff {p : Place} (alone : p.Alone) :
    (∀ last ∈ p.groups.getLast?, p.item ∈ last.items) ↔ p.after = [] := by
  rcases List.eq_nil_or_concat' p.after with none_after | ⟨init, last, after⟩
  · refine iff_of_true ?_ none_after
    rw [Place.groups, none_after, List.getLast?_concat]
    rintro _ ⟨⟩
    simp
  · refine iff_of_false (fun among => ?_) (by rw [after]; exact List.concat_ne_nil _ _)
    have ends : p.groups.getLast? = some last := by
      rw [Place.groups, after, ← List.cons_append, ← List.append_assoc, List.getLast?_concat]
    have inside : p.item ∈ allItems p.after := by
      rw [after]
      exact List.mem_flatMap.mpr ⟨last, List.mem_append_right _ List.mem_cons_self, among last ends⟩
    exact alone.after p.item inside rfl

theorem right_apply {hidden : Int} {c : CartResponse} (right : Right hidden c) (sound : Sound c) (change : Optimistic) :
    Right hidden (change.apply c) ↔ change.Fits c := by
  cases change with
  | quantity cartItemId newQty =>
    rcases absent_or_place sound cartItemId with absent | ⟨p, there, rfl, alone⟩
    · refine iff_of_true ?_ fun item member named => absurd named (absent item member)
      show Right hidden (changeQuantity cartItemId newQty c)
      rw [changeQuantity_absent absent]
      exact right
    · refine (right_changeQuantity right sound there alone newQty).trans ⟨fun condition item member named => ?_, fun fits => ?_⟩
      · rw [alone.unique (there ▸ member) named]
        exact condition
      · exact fits p.item (there ▸ p.item_mem) rfl
  | removal cartItemId =>
    rcases absent_or_place sound cartItemId with absent | ⟨p, there, rfl, alone⟩
    · exact iff_of_false (not_right_remove_absent right sound absent) fun ⟨item, member, named, _⟩ => absent item member named
    · refine (right_remove right sound there alone).trans ⟨fun ⟨available, apart⟩ => ?_, fun ⟨item, member, named, fits⟩ => ?_⟩
      · refine ⟨p.item, there ▸ p.item_mem, rfl, available, apart.imp_right fun none_after => ?_⟩
        rw [← there]
        exact alone.last_iff.mpr none_after
      · rw [← there] at member fits
        rw [alone.unique member named] at fits
        exact ⟨fits.1, fits.2.imp_right alone.last_iff.mp⟩

/-! ### Runs -/

structure State.Sound (s : State) : Prop where
  cache : ActiveCart.Sound s.cache
  pending : ∀ change ∈ s.pending, ∀ cartItemId newQty, change = .quantity cartItemId newQty → 1 ≤ newQty

/-- What a call that comes to the cache asks of the cart it finds there. -/
def Fits (s : State) : Move → Prop
  | .cancelled i => ∀ change ∈ s.pending[i]?, change.Fits s.cache
  | _ => True

theorem State.Sound.removeItem {s : State} (sound : s.Sound) (productId : Id) (variantId : Option Id) :
    (s.removeItem productId variantId).Sound := by
  unfold State.removeItem
  split
  · exact sound
  · refine ⟨sound.cache, List.forall_mem_append.mpr ⟨sound.pending, ?_⟩⟩
    intro change member
    rw [List.mem_singleton.mp member]
    nofun

theorem State.Sound.updateQuantity {s : State} (sound : s.Sound) (productId : Id) (variantId : Option Id) (newQty : Int) :
    (s.updateQuantity productId variantId newQty).Sound := by
  unfold State.updateQuantity
  split
  · exact sound.removeItem productId variantId
  · rename_i positive
    split
    · exact sound
    · refine ⟨sound.cache, List.forall_mem_append.mpr ⟨sound.pending, ?_⟩⟩
      intro change member
      rw [List.mem_singleton.mp member]
      rintro _ _ ⟨⟩
      omega

theorem State.Sound.apply {c : CartResponse} (sound : ActiveCart.Sound c) {change : Optimistic}
    (positive : ∀ cartItemId newQty, change = .quantity cartItemId newQty → 1 ≤ newQty) : ActiveCart.Sound (change.apply c) := by
  cases change with
  | quantity cartItemId newQty => exact sound_changeQuantity sound cartItemId (positive cartItemId newQty rfl)
  | removal cartItemId => exact sound_remove sound cartItemId

theorem State.Sound.act {s : State} (sound : s.Sound) (m : Move) : (ActiveCart.act s m).Sound := by
  cases m with
  | updateQuantity productId variantId newQty => exact sound.updateQuantity productId variantId newQty
  | removeItem productId variantId => exact sound.removeItem productId variantId
  | render => exact ⟨sound.cache, sound.pending⟩
  | cancelled i =>
    simp only [ActiveCart.act]
    split
    · exact sound
    · rename_i change waiting
      exact ⟨State.Sound.apply sound.cache (sound.pending change (List.mem_of_getElem? waiting)),
        fun other member => sound.pending other (List.mem_of_mem_eraseIdx member)⟩

theorem cache_removeItem (s : State) (productId : Id) (variantId : Option Id) : (s.removeItem productId variantId).cache = s.cache := by
  unfold State.removeItem
  split <;> rfl

theorem cache_updateQuantity (s : State) (productId : Id) (variantId : Option Id) (newQty : Int) :
    (s.updateQuantity productId variantId newQty).cache = s.cache := by
  unfold State.updateQuantity
  split
  · exact cache_removeItem s productId variantId
  · split <;> rfl

theorem right_act {hidden : Int} {s : State} (sound : s.Sound) (right : Right hidden s.cache) (m : Move) :
    Right hidden (act s m).cache ↔ Fits s m := by
  cases m with
  | updateQuantity productId variantId newQty =>
    refine iff_of_true ?_ trivial
    show Right hidden (s.updateQuantity productId variantId newQty).cache
    rw [cache_updateQuantity]
    exact right
  | removeItem productId variantId =>
    refine iff_of_true ?_ trivial
    show Right hidden (s.removeItem productId variantId).cache
    rw [cache_removeItem]
    exact right
  | render => exact iff_of_true right trivial
  | cancelled i =>
    simp only [act, Fits]
    cases waiting : s.pending[i]? with
    | none => exact iff_of_true right nofun
    | some change =>
      refine (right_apply right sound.cache change).trans ⟨?_, fun fits => fits change rfl⟩
      rintro fits _ ⟨⟩
      exact fits

/-- The cached cart stays right exactly through the runs in which every change fits the cart it comes to. -/
theorem cached_cart_right_iff (table : CartTable) (moves : List Move) :
    (∀ n, Right (table.cartItems.countP (·.product.isNone) : Nat)
        (Machine.run act (initial (getCart table.cartItems)) (moves.take n)).cache) ↔
      Machine.CanRun act Fits (initial (getCart table.cartItems)) moves := by
  have sound : (initial (getCart table.cartItems)).Sound := ⟨getCart_sound table, nofun⟩
  exact Machine.throughout_iff_canRun (I := State.Sound) (P := fun s => Right _ s.cache)
    (fun _ m sound _ _ => sound.act m) (fun _ m sound right => right_act sound right m) sound (getCart_right table.cartItems) moves

def inStock (cartItemId product shop : Id) (price : Money) : LoadedCartItem where
  id := cartItemId
  item := ⟨1, none, product, 1, 0⟩
  product := some ⟨shop, "Shirt", price, none, 10, false, false, .active⟩
  shop := some ⟨2, "Shop", none, none, false, .active, none⟩
  variant := none

def twoShops : CartTable := ⟨[inStock 11 21 31 1000, inStock 12 22 32 500], by decide, by decide⟩

/-- The item of the first shop goes, and its amount comes off the other shop too. -/
def firstRemoved : List Move := [.removeItem 21 none, .cancelled 0]

theorem not_cached_cart_right : ¬ ∀ (table : CartTable) (moves : List Move) (n : Nat),
    Right (table.cartItems.countP (·.product.isNone) : Nat)
      (Machine.run act (initial (getCart table.cartItems)) (moves.take n)).cache := by
  intro claimed
  have right := claimed twoShops firstRemoved 2
  have same := right.subtotals ⟨some 32, [responseItem (inStock 12 22 32 500) ⟨32, "Shirt", 500, none, 10, false, false, .active⟩], -500⟩
    (by decide)
  exact absurd same (by decide)

end Marketplace.Storefront.ActiveCart
