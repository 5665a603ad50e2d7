import Marketplace.Schema
import Mathlib.Data.List.Sort

/-! `CartsService`: filling a cart, and the cart as checkout reads and clears it. -/
namespace Marketplace
open ReadCommitted ReadCommitted.Tx

def MIN_QUANTITY_PER_ITEM : Nat := 1
def MAX_QUANTITY_PER_ITEM : Nat := 99
def MAX_DISTINCT_ITEMS : Nat := 50

def cartItemColumns : Columns CartItem where
  write mem r c :=
    { user := column mem.user r.user c.user
      variant := column mem.variant r.variant c.variant
      product := column mem.product r.product c.product
      quantity := column mem.quantity r.quantity c.quantity
      addedAt := column mem.addedAt r.addedAt c.addedAt }
  same := by intro mem c; simp
  fresh := by intro mem r; simp

/-- The rows of a cart. A row goes with its product and its variant (`ON DELETE CASCADE`). -/
def cartRows (d : Db) (user : Id) : List (Id × CartItem) :=
  (listed (d (.cartOf user))).filterMap fun id => do
    let item ← d (.cartItem id)
    if (d (.product item.product)).isNone then none
    if item.variant.any fun w => (d (.variant w)).isNone then none
    some (id, item)

structure ProductForCart where
  product : Product
  shop : Option Shop
  variants : List (Id × ProductVariant)

def variantsOfProduct (d : Db) (p : Id) : List (Id × ProductVariant) :=
  (listed (d (.variantsOf p))).filterMap fun w => (d (.variant w)).map fun row => (w, row)

def productForCartValidation (d : Db) (p : Id) : Option ProductForCart :=
  (d (.product p)).map fun product => ⟨product, d (.shop product.shop), variantsOfProduct d p⟩

def validateProductPurchasable (p : ProductForCart) : Action Unit := do
  require (p.product.status ≠ .deleted) (.badRequest "Sản phẩm không tồn tại hoặc đã bị xóa")
  require (p.product.status ≠ .suspended) (.badRequest "Sản phẩm đã bị khóa hoặc ngừng bán do vi phạm")
  require (p.product.isHidden = false) (.badRequest "Sản phẩm đã bị ẩn hoặc ngừng bán")
  require (p.shop.map (·.status) = some .active) (.badRequest "Cửa hàng hiện không hoạt động")

/-- The stock an item may draw on; the item names a variant exactly when the product has some. -/
def availableStock (p : ProductForCart) (variantId : Option Id) : Action Int := do
  if p.product.hasVariants then
    let w ← orFail (.badRequest "Sản phẩm này có biến thể, vui lòng chọn một biến thể") variantId
    let variant ← orFail (.notFound "Biến thể không thuộc sản phẩm này") (p.variants.lookup w)
    return variant.stockQuantity
  else
    require (variantId = none) (.badRequest "Sản phẩm này không có biến thể")
    return p.product.stockQuantity

structure CartLineDto where
  productId : Id
  variantId : Option Id
  quantity : Nat

def insertCartItem (id : Id) (item : CartItem) : Action Unit := do
  insert (.cartItem id) item (.uniqueViolation "cart_item.id")
  modify (.cartOf item.user) fun ids => some (listed ids ++ [id])

/-- `save` of a loaded row: one that is gone by then is inserted again. -/
def saveCartItem (id : Id) (item : CartItem) : Action Unit := do
  save (k := Key.cartItem id) cartItemColumns item
  let unlisted ← select fun d => decide ((d (.cartItem id)).isSome ∧ id ∉ listed (d (.cartOf item.user)))
  given (unlisted = true) (modify (.cartOf item.user) fun ids => some (listed ids ++ [id]))

def addItem (user : Id) (dto : CartLineDto) (newId : Id) (now : Time) : Action Unit := do
  let found ← select fun d => productForCartValidation d dto.productId
  let product ← orFail (.notFound "Không tìm thấy sản phẩm") found
  validateProductPurchasable product
  require (product.shop.map (·.seller) ≠ some user) (.badRequest "Bạn không thể mua sản phẩm của shop mình")
  let available ← availableStock product dto.variantId
  require (0 < available) (.badRequest "Sản phẩm hiện đã hết hàng")
  let existing ← select fun d => (cartRows d user).find? fun (_, item) =>
    item.product = dto.productId ∧ item.variant = dto.variantId
  match existing with
  | some (id, item) =>
    let newQty := item.quantity + dto.quantity
    require (newQty ≤ MAX_QUANTITY_PER_ITEM)
      (.badRequest "Tổng số lượng tối đa cho mỗi sản phẩm trong giỏ hàng là 99")
    require ((newQty : Int) ≤ available) (.badRequest s!"Số lượng vượt quá tồn kho còn lại ({available})")
    saveCartItem id { item with quantity := newQty }
  | none =>
    require ((dto.quantity : Int) ≤ available)
      (.badRequest s!"Số lượng vượt quá tồn kho còn lại ({available})")
    let distinctCount ← select fun d => (cartRows d user).length
    require (distinctCount < MAX_DISTINCT_ITEMS)
      (.badRequest "Giỏ hàng của bạn đã đạt giới hạn tối đa 50 sản phẩm khác nhau. Vui lòng thanh toán hoặc xóa bớt để thêm mới.")
    insertCartItem newId ⟨user, dto.variantId, dto.productId, dto.quantity, now⟩

/-- Guest lines of the same product and variant are added up, at the place of the first. -/
def consolidate : List CartLineDto → List CartLineDto
  | [] => []
  | line :: rest =>
    let same := fun other : CartLineDto => other.productId = line.productId ∧ other.variantId = line.variantId
    let more := ((rest.filter fun other => same other).map (·.quantity)).sum
    { line with quantity := line.quantity + more } :: (consolidate rest).filter fun other => ¬ same other

/-- Whether a guest line may enter the cart of `user`. -/
def mergeable (user : Id) (line : CartLineDto) (p : ProductForCart) : Bool :=
  p.product.status ≠ .deleted ∧ p.shop.map (·.seller) ≠ some user ∧
    if p.product.hasVariants then line.variantId.any fun w => (p.variants.lookup w).isSome
    else line.variantId.isNone

def mergeLines (user : Id) (dbCartItems : List (Id × CartItem)) (now : Time) :
    List (CartLineDto × Id) → Nat → Action Unit
  | [], _ => pure ()
  | (line, newId) :: rest, count => do
    let found ← select fun d => productForCartValidation d line.productId
    if found.any (mergeable user line) then
      let existing := dbCartItems.find? fun (_, item) =>
        item.product = line.productId ∧ item.variant = line.variantId
      match existing with
      | some (id, item) =>
        saveCartItem id { item with quantity := min (item.quantity + line.quantity) MAX_QUANTITY_PER_ITEM }
        mergeLines user dbCartItems now rest count
      | none =>
        if MAX_DISTINCT_ITEMS ≤ count then mergeLines user dbCartItems now rest count
        else
          insertCartItem newId
            ⟨user, line.variantId, line.productId, min line.quantity MAX_QUANTITY_PER_ITEM, now⟩
          mergeLines user dbCartItems now rest (count + 1)
    else mergeLines user dbCartItems now rest count

def mergeCart (user : Id) (items : List CartLineDto) (newIds : List Id) (now : Time) : Action Unit := do
  let dbCartItems ← select fun d => cartRows d user
  mergeLines user dbCartItems now ((consolidate items).zip newIds) dbCartItems.length

/-- A cart row with its relations loaded. -/
structure LoadedCartItem where
  id : Id
  item : CartItem
  product : Option Product
  shop : Option Shop
  variant : Option (Id × ProductVariant)

def loadCartItem (d : Db) (row : Id × CartItem) : LoadedCartItem where
  id := row.1
  item := row.2
  product := d (.product row.2.product)
  shop := (d (.product row.2.product)).bind fun product => d (.shop product.shop)
  variant := row.2.variant.bind fun w => (d (.variant w)).map fun variant => (w, variant)

def findOwnedCartItemOrFail (user itemId : Id) : Action LoadedCartItem := do
  let found ← select fun d => ((cartRows d user).lookup itemId).map fun item => loadCartItem d (itemId, item)
  orFail (.notFound "Không tìm thấy sản phẩm trong giỏ hàng") found

def updateItemQuantity (user itemId : Id) (quantity : Nat) : Action Unit := do
  let it ← findOwnedCartItemOrFail user itemId
  let product ← orFail .database it.product
  validateProductPurchasable ⟨product, it.shop, []⟩
  let available := (it.variant.map (·.2.stockQuantity)).getD product.stockQuantity
  require ((quantity : Int) ≤ available) (.badRequest s!"Số lượng vượt quá tồn kho còn lại ({available})")
  saveCartItem itemId { it.item with quantity }

def removeItem (user itemId : Id) : Action Unit := do
  let it ← findOwnedCartItemOrFail user itemId
  modify (.cartItem it.id) fun _ => none
  modify (.cartOf user) fun ids => some ((listed ids).filter (· ≠ itemId))

/-- Why an item cannot be bought, stock apart. -/
def evaluateItemStaticAvailability (it : LoadedCartItem) : Option CartItemUnavailableReason :=
  match it.product with
  | none => some .productDeleted
  | some product =>
    if product.status = .deleted then some .productDeleted
    else if product.status = .suspended then some .productSuspended
    else if product.isHidden then some .productHidden
    else if it.shop.map (·.status) ≠ some .active then some .shopInactive
    else none

/-- An available item, whose product and shop exist. -/
structure CartLine where
  productId : Id
  product : Product
  shop : Shop
  variant : Option (Id × ProductVariant)
  quantity : Nat

def LoadedCartItem.line (it : LoadedCartItem) : Option CartLine := do
  let product ← it.product
  let shop ← it.shop
  some ⟨it.item.product, product, shop, it.variant, it.item.quantity⟩

/-- The cart, newest item first. -/
def loadCart (d : Db) (user : Id) : List LoadedCartItem :=
  ((cartRows d user).map (loadCartItem d)).insertionSort fun a b => b.item.addedAt ≤ a.item.addedAt

def unavailableItems (cart : List LoadedCartItem) : List UnavailableItem :=
  cart.filterMap fun it => (evaluateItemStaticAvailability it).map fun reason =>
    ⟨it.id, it.product.map fun _ => it.item.product, it.product.map (·.name), reason⟩

def validItems (cart : List LoadedCartItem) : List CartLine :=
  (cart.filter fun it => evaluateItemStaticAvailability it = none).filterMap (·.line)

/-- A line shows the rows as they were read. -/
theorem mem_validItems {d : Db} {user : Id} {it : CartLine} (member : it ∈ validItems (loadCart d user)) :
    d (.product it.productId) = some it.product ∧ d (.shop it.product.shop) = some it.shop ∧
      ∀ x row, it.variant = some (x, row) → d (.variant x) = some row := by
  obtain ⟨loaded, inside, line⟩ := List.mem_filterMap.mp member
  have listed := (List.mem_insertionSort _).mp (List.mem_filter.mp inside).1
  obtain ⟨row, _, rfl⟩ := List.mem_map.mp listed
  obtain ⟨product, found, rest⟩ := Option.bind_eq_some_iff.mp line
  obtain ⟨shop, owner, same⟩ := Option.bind_eq_some_iff.mp rest
  obtain rfl := Option.some.inj same
  have stands : d (.product row.2.product) = some product := found
  refine ⟨stands, ?_, fun x variant chosen => ?_⟩
  · simpa [loadCartItem, stands] using owner
  · obtain ⟨y, _, loaded⟩ := Option.bind_eq_some_iff.mp (show row.2.variant.bind _ = some (x, variant) from chosen)
    obtain ⟨found, there, same⟩ := Option.map_eq_some_iff.mp loaded
    cases same
    exact there

def getActiveCartItemsForCheckout (user : Id) : Action (List CartLine × List UnavailableItem) := do
  let cart ← select fun d => loadCart d user
  return (validItems cart, unavailableItems cart)

def clearActiveCart (user : Id) : Action Unit := do
  let ids ← select fun d => (cartRows d user).map (·.1)
  forM ids fun id => modify (.cartItem id) fun _ => none
  modify (.cartOf user) fun left => some ((listed left).filter (· ∉ ids))

end Marketplace
