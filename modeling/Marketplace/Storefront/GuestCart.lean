import Marketplace.Machine
import Mathlib.Data.List.Nodup

/-! `useCartStore`: the cart that a visitor keeps in the browser. -/
namespace Marketplace.Storefront.GuestCart

structure Variant where
  id : String
  name : String
  additionalPrice : Int
  stockQuantity : Int
  images : List String
deriving DecidableEq

/-- What is put into the cart, less its quantity. -/
structure Product where
  productId : String
  variantId : Option String
  name : String
  price : Int
  thumbnailUrl : String
  shopId : String
  shopName : String
  productSlug : String
  variants : List Variant
  basePrice : Int
  hasVariants : Bool
  baseStock : Int
  variantName : Option String
deriving DecidableEq

structure CartItem extends Product where
  quantity : Int
deriving DecidableEq

inductive Toast where
  | success (text : String)
  | warning (text : String)
  | error (text : String)
deriving DecidableEq

/-- The items as an operation leaves them, what it shows, and whether it dispatches `cart-updated`. -/
structure Outcome where
  items : List CartItem
  toasts : List Toast
  cartUpdated : Bool
deriving DecidableEq

def isAt (productId : String) (variantId : Option String) (item : CartItem) : Bool :=
  item.productId = productId && item.variantId = variantId

/-- The variant of an item, where it has one. The empty id is no id. -/
def CartItem.targetVariant (item : CartItem) : Option Variant :=
  (item.variantId.filter (· ≠ "")).bind fun id => item.variants.find? (·.id = id)

def CartItem.maxStock (item : CartItem) : Int :=
  match item.targetVariant with
  | some variant => variant.stockQuantity
  | none => item.baseStock

def setQuantity (items : List CartItem) (productId : String) (variantId : Option String) (quantity : Int) : List CartItem :=
  items.map fun item => if isAt productId variantId item then { item with quantity } else item

def without (items : List CartItem) (productId : String) (variantId : Option String) : List CartItem :=
  items.filter fun item => !isAt productId variantId item

def addedMessage (name : String) : String := s!"Đã thêm {name} vào giỏ hàng!"

def addItem (items : List CartItem) (newItem : Product) (quantity : Option Int) : Outcome :=
  match items.find? (isAt newItem.productId newItem.variantId) with
  | some existingItem =>
    if existingItem.quantity + quantity.getD 1 > existingItem.maxStock then
      ⟨items, [.error "Số lượng trong giỏ hàng đã đạt giới hạn tồn kho!"], false⟩
    else ⟨setQuantity items newItem.productId newItem.variantId (existingItem.quantity + quantity.getD 1),
      [.success (addedMessage newItem.name)], true⟩
  | none => ⟨items ++ [{ newItem with quantity := quantity.getD 1 }], [.success (addedMessage newItem.name)], true⟩

def stockLimitMessage (maxStock : Int) : String := s!"Rất tiếc, sản phẩm này chỉ còn {maxStock} sản phẩm trong kho!"

def updateQuantity (items : List CartItem) (productId : String) (variantId : Option String) (quantity : Int) : Outcome :=
  match items.find? (isAt productId variantId) with
  | none => ⟨items, [], false⟩
  | some targetItem =>
    if quantity > targetItem.maxStock then ⟨items, [.error (stockLimitMessage targetItem.maxStock)], false⟩
    else if quantity ≤ 0 then ⟨without items productId variantId, [], true⟩
    else ⟨setQuantity items productId variantId quantity, [], true⟩

def removeItem (items : List CartItem) (productId : String) (variantId : Option String) : Outcome :=
  ⟨without items productId variantId, [.success "Đã xóa sản phẩm khỏi giỏ hàng!"], true⟩

/-- The object that `find` gave is written to in place. -/
def writeFirst (p : CartItem → Bool) (quantity : Int) : List CartItem → List CartItem
  | [] => []
  | item :: rest => if p item then { item with quantity } :: rest else item :: writeFirst p quantity rest

def CartItem.toVariant (item : CartItem) (variant : Variant) : CartItem :=
  { item with
    variantId := some variant.id
    price := item.basePrice + variant.additionalPrice
    thumbnailUrl := variant.images.head?.getD item.thumbnailUrl }

def mergeLimitMessage (maxStock : Int) : String :=
  s!"Tổng số lượng sau khi gộp vượt quá tồn kho. Đã tự động điều chỉnh về tối đa {maxStock} sản phẩm."

/-- The items once the new variant is found. Price and thumbnail come from the old item that was found first. -/
def changeVariant (items : List CartItem) (productId : String) (oldVariantId : Option String) (oldItem : CartItem)
    (newVariant : Variant) : List CartItem × List Toast :=
  match items.find? (isAt productId (some newVariant.id)) with
  | some existingNewItem =>
    if existingNewItem.quantity + oldItem.quantity > newVariant.stockQuantity then
      (without (writeFirst (isAt productId (some newVariant.id)) newVariant.stockQuantity items) productId oldVariantId,
        [.warning (mergeLimitMessage newVariant.stockQuantity)])
    else
      (without (writeFirst (isAt productId (some newVariant.id)) (existingNewItem.quantity + oldItem.quantity) items) productId
        oldVariantId, [])
  | none =>
    (items.map fun item =>
      if isAt productId oldVariantId item then
        { item with
          variantId := (oldItem.toVariant newVariant).variantId
          price := (oldItem.toVariant newVariant).price
          thumbnailUrl := (oldItem.toVariant newVariant).thumbnailUrl }
      else item, [])

def updateVariant (items : List CartItem) (productId : String) (oldVariantId newVariantId : Option String) : Outcome :=
  match items.find? (isAt productId oldVariantId) with
  | none => ⟨items, [], false⟩
  | some oldItem =>
    match oldItem.variants.find? (some ·.id = newVariantId) with
    | none => ⟨items, [], false⟩
    | some newVariant => ⟨(changeVariant items productId oldVariantId oldItem newVariant).1,
      (changeVariant items productId oldVariantId oldItem newVariant).2 ++
        [.success "Đã cập nhật phiên bản sản phẩm!"], true⟩

inductive Command where
  | addItem (newItem : Product) (quantity : Option Int)
  | updateQuantity (productId : String) (variantId : Option String) (quantity : Int)
  | removeItem (productId : String) (variantId : Option String)
  | updateVariant (productId : String) (oldVariantId newVariantId : Option String)
  | clearCart

def perform (items : List CartItem) : Command → Outcome
  | .addItem newItem quantity => addItem items newItem quantity
  | .updateQuantity productId variantId quantity => updateQuantity items productId variantId quantity
  | .removeItem productId variantId => removeItem items productId variantId
  | .updateVariant productId oldVariantId newVariantId => updateVariant items productId oldVariantId newVariantId
  | .clearCart => ⟨[], [], true⟩

/-- A variant that was asked for, with the items before and after. -/
structure Change where
  productId : String
  oldVariantId : Option String
  newVariantId : Option String
  before : List CartItem
  after : List CartItem
deriving DecidableEq

/-- `changes` only records, for the specification, what `updateVariant` did. -/
structure CartState where
  items : List CartItem
  changes : List Change

def initial : CartState := ⟨[], []⟩

def act (s : CartState) (command : Command) : CartState where
  items := (perform s.items command).items
  changes := match command with
    | .updateVariant productId oldVariantId newVariantId =>
      s.changes ++ [⟨productId, oldVariantId, newVariantId, s.items, (perform s.items command).items⟩]
    | _ => s.changes

/-! ### What a cart keeps -/

def CartItem.pair (item : CartItem) : String × Option String := (item.productId, item.variantId)

def CartItem.InStock (item : CartItem) : Prop := 1 ≤ item.quantity ∧ item.quantity ≤ item.maxStock

structure Orderly (items : List CartItem) : Prop where
  pairs : (items.map CartItem.pair).Nodup
  inStock : ∀ item ∈ items, item.InStock

def quantityAt (items : List CartItem) (productId : String) (variantId : Option String) : Int :=
  match items.find? (isAt productId variantId) with
  | some item => item.quantity
  | none => 0

/-- Nothing is lost but what the new variant has no stock for, and the variant that the item already has changes nothing. -/
def Change.Kept (c : Change) : Prop :=
  match c.before.find? (isAt c.productId c.oldVariantId) with
  | none => c.after = c.before
  | some oldItem =>
    match oldItem.variants.find? (some ·.id = c.newVariantId) with
    | none => c.after = c.before
    | some newVariant =>
      if c.newVariantId = c.oldVariantId then c.after = c.before
      else (∀ productId variantId, (productId, variantId) ≠ (c.productId, c.oldVariantId) →
          (productId, variantId) ≠ (c.productId, c.newVariantId) →
            quantityAt c.after productId variantId = quantityAt c.before productId variantId) ∧
        min (quantityAt c.before c.productId c.newVariantId + oldItem.quantity) newVariant.stockQuantity ≤
          quantityAt c.after c.productId c.newVariantId

/-- What the store promises. -/
def Right (s : CartState) : Prop := Orderly s.items ∧ ∀ c ∈ s.changes, c.Kept

/-! ### Items by their pair -/

theorem isAt_iff {productId : String} {variantId : Option String} {item : CartItem} :
    isAt productId variantId item = true ↔ item.pair = (productId, variantId) := by
  simp [isAt, CartItem.pair]

theorem find_isAt {items : List CartItem} {productId : String} {variantId : Option String} {item : CartItem}
    (found : items.find? (isAt productId variantId) = some item) : item ∈ items ∧ item.pair = (productId, variantId) :=
  ⟨List.mem_of_find?_eq_some found, isAt_iff.mp (List.find?_some found)⟩

theorem find_isAt_none {items : List CartItem} {productId : String} {variantId : Option String}
    (absent : items.find? (isAt productId variantId) = none) : ∀ item ∈ items, item.pair ≠ (productId, variantId) := by
  intro item among at_pair
  exact List.find?_eq_none.mp absent item among (isAt_iff.mpr at_pair)

theorem find_isAt_some {items : List CartItem} (unique : (items.map CartItem.pair).Nodup) {item : CartItem} (among : item ∈ items)
    {productId : String} {variantId : Option String} (at_pair : item.pair = (productId, variantId)) :
    items.find? (isAt productId variantId) = some item := by
  cases found : items.find? (isAt productId variantId) with
  | none => exact absurd at_pair (find_isAt_none found item among)
  | some other =>
    obtain ⟨inside, same⟩ := find_isAt found
    rw [List.inj_on_of_nodup_map unique inside among (same.trans at_pair.symm)]

theorem quantityAt_of_mem {items : List CartItem} (unique : (items.map CartItem.pair).Nodup) {item : CartItem}
    (among : item ∈ items) {productId : String} {variantId : Option String} (at_pair : item.pair = (productId, variantId)) :
    quantityAt items productId variantId = item.quantity := by
  rw [quantityAt, find_isAt_some unique among at_pair]

theorem quantityAt_of_absent {items : List CartItem} {productId : String} {variantId : Option String}
    (absent : ∀ item ∈ items, item.pair ≠ (productId, variantId)) : quantityAt items productId variantId = 0 := by
  have missing : items.find? (isAt productId variantId) = none :=
    List.find?_eq_none.mpr fun item among at_pair => absent item among (isAt_iff.mp at_pair)
  rw [quantityAt, missing]

/-- The item at a pair becomes another, and the others stay. -/
def replaceAt (items : List CartItem) (productId : String) (variantId : Option String) (f : CartItem → CartItem) : List CartItem :=
  items.map fun item => if isAt productId variantId item then f item else item

theorem mem_replaceAt {items : List CartItem} (unique : (items.map CartItem.pair).Nodup) {productId : String}
    {variantId : Option String} {item : CartItem} (found : items.find? (isAt productId variantId) = some item)
    (f : CartItem → CartItem) (other : CartItem) :
    other ∈ replaceAt items productId variantId f ↔ other = f item ∨ (other ∈ items ∧ other.pair ≠ (productId, variantId)) := by
  obtain ⟨among, at_pair⟩ := find_isAt found
  rw [replaceAt, List.mem_map]
  constructor
  · rintro ⟨source, inside, rfl⟩
    split
    · rename_i here
      left
      rw [List.inj_on_of_nodup_map unique inside among ((isAt_iff.mp here).trans at_pair.symm)]
    · rename_i elsewhere
      exact .inr ⟨inside, fun same => elsewhere (isAt_iff.mpr same)⟩
  · rintro (rfl | ⟨inside, apart⟩)
    · exact ⟨item, among, if_pos (isAt_iff.mpr at_pair)⟩
    · exact ⟨other, inside, if_neg fun here => apart (isAt_iff.mp here)⟩

theorem mem_without {items : List CartItem} {productId : String} {variantId : Option String} {item : CartItem} :
    item ∈ without items productId variantId ↔ item ∈ items ∧ item.pair ≠ (productId, variantId) := by
  rw [without, List.mem_filter, Bool.not_eq_true', ← Bool.not_eq_true, isAt_iff]

theorem replaceAt_unique {items : List CartItem} (unique : (items.map CartItem.pair).Nodup) {productId : String}
    {variantId : Option String} {item : CartItem} (found : items.find? (isAt productId variantId) = some item)
    {f : CartItem → CartItem} (free : (f item).pair = (productId, variantId) ∨ ∀ other ∈ items, other.pair ≠ (f item).pair) :
    ((replaceAt items productId variantId f).map CartItem.pair).Nodup := by
  obtain ⟨among, at_pair⟩ := find_isAt found
  have own : ∀ other ∈ items, isAt productId variantId other = true → other = item := by
    intro other inside here
    exact List.inj_on_of_nodup_map unique inside among ((isAt_iff.mp here).trans at_pair.symm)
  have apart : ∀ other ∈ items, isAt productId variantId other ≠ true → other.pair ≠ (f item).pair := by
    intro other inside elsewhere same
    rcases free with kept | unused
    · exact elsewhere (isAt_iff.mpr (same.trans kept))
    · exact unused other inside same
  rw [replaceAt, List.map_map]
  apply List.Nodup.map_on _ unique.of_map
  intro a inside b inside' same
  simp only [Function.comp_apply] at same
  split at same
  · rename_i here
    obtain rfl := own a inside here
    split at same
    · rename_i there
      exact (own b inside' there).symm
    · rename_i elsewhere
      exact absurd same.symm (apart b inside' elsewhere)
  · rename_i elsewhere
    split at same
    · rename_i there
      obtain rfl := own b inside' there
      exact absurd same (apart a inside elsewhere)
    · exact List.inj_on_of_nodup_map unique inside inside' same

theorem writeFirst_eq {items : List CartItem} (unique : (items.map CartItem.pair).Nodup) (productId : String)
    (variantId : Option String) (quantity : Int) :
    writeFirst (isAt productId variantId) quantity items = setQuantity items productId variantId quantity := by
  induction items with
  | nil => rfl
  | cons item rest ih =>
    rw [List.map_cons, List.nodup_cons] at unique
    rw [writeFirst, setQuantity, List.map_cons]
    split
    · rename_i here
      have others : rest.map (fun item => if isAt productId variantId item then { item with quantity } else item) = rest := by
        conv_rhs => rw [← List.map_id rest]
        apply List.map_congr_left
        intro other inside
        apply if_neg
        intro there
        exact unique.1 (((isAt_iff.mp here).trans (isAt_iff.mp there).symm) ▸ List.mem_map_of_mem inside)
      rw [others]
    · rw [ih unique.2, setQuantity]

/-! ### One operation -/

theorem orderly_replaceAt {items : List CartItem} (orderly : Orderly items) {productId : String} {variantId : Option String}
    {item : CartItem} (found : items.find? (isAt productId variantId) = some item) {f : CartItem → CartItem}
    (free : (f item).pair = (productId, variantId) ∨ ∀ other ∈ items, other.pair ≠ (f item).pair) :
    Orderly (replaceAt items productId variantId f) ↔ (f item).InStock := by
  have members := mem_replaceAt orderly.pairs found f
  constructor
  · intro after
    exact after.inStock _ ((members _).mpr (.inl rfl))
  · intro inStock
    refine ⟨replaceAt_unique orderly.pairs found free, ?_⟩
    intro other inside
    rcases (members other).mp inside with rfl | ⟨before, -⟩
    · exact inStock
    · exact orderly.inStock other before

theorem orderly_setQuantity {items : List CartItem} (orderly : Orderly items) {productId : String} {variantId : Option String}
    {item : CartItem} (found : items.find? (isAt productId variantId) = some item) (quantity : Int) :
    Orderly (setQuantity items productId variantId quantity) ↔ 1 ≤ quantity ∧ quantity ≤ item.maxStock :=
  orderly_replaceAt orderly found (f := fun item => { item with quantity }) (.inl (find_isAt found).2)

theorem orderly_without {items : List CartItem} (orderly : Orderly items) (productId : String) (variantId : Option String) :
    Orderly (without items productId variantId) :=
  ⟨orderly.pairs.sublist (List.filter_sublist.map _), fun item inside => orderly.inStock item (mem_without.mp inside).1⟩

theorem orderly_append {items : List CartItem} (orderly : Orderly items) {item : CartItem}
    (absent : ∀ other ∈ items, other.pair ≠ item.pair) : Orderly (items ++ [item]) ↔ item.InStock := by
  constructor
  · exact fun after => after.inStock item (List.mem_append_right _ (List.mem_singleton_self item))
  · intro inStock
    refine ⟨?_, ?_⟩
    · rw [List.map_append, List.nodup_append]
      refine ⟨orderly.pairs, List.nodup_singleton _, ?_⟩
      intro pair inside own last same
      obtain ⟨other, among, rfl⟩ := List.mem_map.mp inside
      rw [List.map_singleton, List.mem_singleton] at last
      exact absent other among (same.trans last)
    · intro other inside
      rcases List.mem_append.mp inside with before | own
      · exact orderly.inStock other before
      · rw [List.mem_singleton.mp own]
        exact inStock

/-- When the next command leaves an orderly cart, with nothing lost. -/
def Fits (items : List CartItem) : Command → Prop
  | .addItem newItem quantity =>
    match items.find? (isAt newItem.productId newItem.variantId) with
    | some existingItem => 1 ≤ existingItem.quantity + quantity.getD 1
    | none => CartItem.InStock { newItem with quantity := quantity.getD 1 }
  | .updateVariant productId oldVariantId newVariantId =>
    match items.find? (isAt productId oldVariantId) with
    | none => True
    | some oldItem =>
      match oldItem.variants.find? (some ·.id = newVariantId) with
      | none => True
      | some newVariant =>
        newVariantId ≠ oldVariantId ∧
          match items.find? (isAt productId (some newVariant.id)) with
          | some existingNewItem => 1 ≤ newVariant.stockQuantity ∧
              min (existingNewItem.quantity + oldItem.quantity) newVariant.stockQuantity ≤ existingNewItem.maxStock
          | none => oldItem.quantity ≤ (oldItem.toVariant newVariant).maxStock
  | _ => True

theorem orderly_addItem {items : List CartItem} (orderly : Orderly items) (newItem : Product) (quantity : Option Int) :
    Orderly (addItem items newItem quantity).items ↔ Fits items (.addItem newItem quantity) := by
  rw [addItem, Fits]
  split
  · rename_i existingItem found
    obtain ⟨low, high⟩ := orderly.inStock existingItem (find_isAt found).1
    split
    · exact iff_of_true orderly (by omega)
    · rw [orderly_setQuantity orderly found]
      omega
  · rename_i absent
    exact orderly_append orderly (find_isAt_none absent)

theorem orderly_updateQuantity {items : List CartItem} (orderly : Orderly items) (productId : String)
    (variantId : Option String) (quantity : Int) : Orderly (updateQuantity items productId variantId quantity).items := by
  rw [updateQuantity]
  split
  · exact orderly
  · rename_i targetItem found
    split
    · exact orderly
    · split
      · exact orderly_without orderly productId variantId
      · refine (orderly_setQuantity orderly found quantity).mpr ?_
        omega

theorem quantityAt_congr {before after : List CartItem} (unique : (before.map CartItem.pair).Nodup)
    (unique' : (after.map CartItem.pair).Nodup) {productId : String} {variantId : Option String}
    (same : ∀ item, item.pair = (productId, variantId) → (item ∈ after ↔ item ∈ before)) :
    quantityAt after productId variantId = quantityAt before productId variantId := by
  cases found : before.find? (isAt productId variantId) with
  | some item =>
    obtain ⟨among, at_pair⟩ := find_isAt found
    rw [quantityAt_of_mem unique among at_pair, quantityAt_of_mem unique' ((same item at_pair).mpr among) at_pair]
  | none =>
    have absent := find_isAt_none found
    rw [quantityAt_of_absent absent, quantityAt_of_absent fun item among at_pair =>
      absent item ((same item at_pair).mp among) at_pair]

section changeVariant
variable {items : List CartItem} {productId : String} {oldVariantId : Option String} {oldItem : CartItem} {newVariant : Variant}

/-- What the merge of two items leaves. -/
theorem changeVariant_merged (orderly : Orderly items) {existingNewItem : CartItem}
    (found : items.find? (isAt productId (some newVariant.id)) = some existingNewItem) :
    (changeVariant items productId oldVariantId oldItem newVariant).1 =
      without (setQuantity items productId (some newVariant.id)
        (min (existingNewItem.quantity + oldItem.quantity) newVariant.stockQuantity)) productId oldVariantId := by
  simp only [changeVariant, found]
  split
  · rename_i above
    rw [writeFirst_eq orderly.pairs, Int.min_eq_right (by omega)]
  · rename_i fits
    rw [writeFirst_eq orderly.pairs, Int.min_eq_left (by omega)]

/-- The variant that the item already has: the merge is with the item itself, which is then taken out. -/
theorem changeVariant_self (orderly : Orderly items) (found : items.find? (isAt productId (some newVariant.id)) = some oldItem) :
    (changeVariant items productId (some newVariant.id) oldItem newVariant).1 ≠ items := by
  obtain ⟨among, at_pair⟩ := find_isAt found
  rw [changeVariant_merged orderly found]
  intro same
  rw [← same] at among
  exact (mem_without.mp among).2 at_pair

theorem mem_merged (orderly : Orderly items) {existingNewItem : CartItem} (other : some newVariant.id ≠ oldVariantId)
    (found : items.find? (isAt productId (some newVariant.id)) = some existingNewItem) {item : CartItem} :
    item ∈ (changeVariant items productId oldVariantId oldItem newVariant).1 ↔
      item = { existingNewItem with
        quantity := min (existingNewItem.quantity + oldItem.quantity) newVariant.stockQuantity } ∨
      (item ∈ items ∧ item.pair ≠ (productId, some newVariant.id) ∧ item.pair ≠ (productId, oldVariantId)) := by
  rw [changeVariant_merged orderly found, mem_without]
  have members := mem_replaceAt orderly.pairs found (fun item => { item with
    quantity := min (existingNewItem.quantity + oldItem.quantity) newVariant.stockQuantity }) item
  rw [replaceAt] at members
  rw [setQuantity, members]
  constructor
  · rintro ⟨rfl | ⟨inside, apart⟩, elsewhere⟩
    · exact .inl rfl
    · exact .inr ⟨inside, apart, elsewhere⟩
  · rintro (rfl | ⟨inside, apart, elsewhere⟩)
    · refine ⟨.inl rfl, fun same => other ?_⟩
      have at_pair : existingNewItem.pair = (productId, oldVariantId) := same
      rw [(find_isAt found).2] at at_pair
      exact (Prod.mk.inj at_pair).2
    · exact ⟨.inr ⟨inside, apart⟩, elsewhere⟩

theorem orderly_merged (orderly : Orderly items) (oldFound : items.find? (isAt productId oldVariantId) = some oldItem)
    {existingNewItem : CartItem} (other : some newVariant.id ≠ oldVariantId)
    (found : items.find? (isAt productId (some newVariant.id)) = some existingNewItem) :
    Orderly (changeVariant items productId oldVariantId oldItem newVariant).1 ↔ 1 ≤ newVariant.stockQuantity ∧
      min (existingNewItem.quantity + oldItem.quantity) newVariant.stockQuantity ≤ existingNewItem.maxStock := by
  obtain ⟨low, -⟩ := orderly.inStock existingNewItem (find_isAt found).1
  obtain ⟨low', -⟩ := orderly.inStock oldItem (find_isAt oldFound).1
  constructor
  · intro after
    obtain ⟨positive, within⟩ := after.inStock _ ((mem_merged orderly other found).mpr (.inl rfl))
    exact ⟨Int.le_trans positive (Int.min_le_right ..), within⟩
  · rintro ⟨stocked, within⟩
    rw [changeVariant_merged orderly found]
    apply orderly_without
    exact (orderly_setQuantity orderly found _).mpr ⟨Int.le_min.mpr ⟨by omega, stocked⟩, within⟩

theorem kept_merged (orderly : Orderly items) (oldFound : items.find? (isAt productId oldVariantId) = some oldItem)
    {existingNewItem : CartItem} (other : some newVariant.id ≠ oldVariantId)
    (found : items.find? (isAt productId (some newVariant.id)) = some existingNewItem)
    (fits : 1 ≤ newVariant.stockQuantity ∧
      min (existingNewItem.quantity + oldItem.quantity) newVariant.stockQuantity ≤ existingNewItem.maxStock) :
    (∀ product variant, (product, variant) ≠ (productId, oldVariantId) → (product, variant) ≠ (productId, some newVariant.id) →
      quantityAt (changeVariant items productId oldVariantId oldItem newVariant).1 product variant =
        quantityAt items product variant) ∧
    min (quantityAt items productId (some newVariant.id) + oldItem.quantity) newVariant.stockQuantity ≤
      quantityAt (changeVariant items productId oldVariantId oldItem newVariant).1 productId (some newVariant.id) := by
  have after := ((orderly_merged orderly oldFound other found).mpr fits).pairs
  obtain ⟨among, at_pair⟩ := find_isAt found
  constructor
  · intro product variant elsewhere apart
    apply quantityAt_congr orderly.pairs after
    intro item here
    rw [mem_merged orderly other found]
    constructor
    · rintro (rfl | ⟨inside, -⟩)
      · exact absurd (here.symm.trans at_pair) apart
      · exact inside
    · exact fun inside => .inr ⟨inside, here ▸ apart, here ▸ elsewhere⟩
  · apply Int.le_of_eq
    rw [quantityAt_of_mem orderly.pairs among at_pair,
      quantityAt_of_mem after ((mem_merged orderly other found).mpr (.inl rfl)) at_pair]

theorem changeVariant_moved (absent : items.find? (isAt productId (some newVariant.id)) = none) :
    (changeVariant items productId oldVariantId oldItem newVariant).1 =
      replaceAt items productId oldVariantId fun item =>
        { item with
          variantId := (oldItem.toVariant newVariant).variantId
          price := (oldItem.toVariant newVariant).price
          thumbnailUrl := (oldItem.toVariant newVariant).thumbnailUrl } := by
  simp only [changeVariant, absent, replaceAt]

theorem mem_moved (orderly : Orderly items) (oldFound : items.find? (isAt productId oldVariantId) = some oldItem)
    (absent : items.find? (isAt productId (some newVariant.id)) = none) {item : CartItem} :
    item ∈ (changeVariant items productId oldVariantId oldItem newVariant).1 ↔
      item = oldItem.toVariant newVariant ∨ (item ∈ items ∧ item.pair ≠ (productId, oldVariantId)) := by
  rw [changeVariant_moved absent, mem_replaceAt orderly.pairs oldFound]
  exact Iff.rfl

theorem pair_toVariant (oldFound : items.find? (isAt productId oldVariantId) = some oldItem) :
    (oldItem.toVariant newVariant).pair = (productId, some newVariant.id) := by
  have product : oldItem.productId = productId := (Prod.mk.inj (find_isAt oldFound).2).1
  rw [← product]
  rfl

theorem orderly_moved (orderly : Orderly items) (oldFound : items.find? (isAt productId oldVariantId) = some oldItem)
    (absent : items.find? (isAt productId (some newVariant.id)) = none) :
    Orderly (changeVariant items productId oldVariantId oldItem newVariant).1 ↔
      oldItem.quantity ≤ (oldItem.toVariant newVariant).maxStock := by
  rw [changeVariant_moved absent, orderly_replaceAt orderly oldFound]
  · exact ⟨And.right, fun within => ⟨(orderly.inStock oldItem (find_isAt oldFound).1).1, within⟩⟩
  · refine .inr fun other among same => find_isAt_none absent other among ?_
    rw [same]
    exact pair_toVariant oldFound

theorem kept_moved (orderly : Orderly items) (oldFound : items.find? (isAt productId oldVariantId) = some oldItem)
    (absent : items.find? (isAt productId (some newVariant.id)) = none)
    (fits : oldItem.quantity ≤ (oldItem.toVariant newVariant).maxStock) :
    (∀ product variant, (product, variant) ≠ (productId, oldVariantId) → (product, variant) ≠ (productId, some newVariant.id) →
      quantityAt (changeVariant items productId oldVariantId oldItem newVariant).1 product variant =
        quantityAt items product variant) ∧
    min (quantityAt items productId (some newVariant.id) + oldItem.quantity) newVariant.stockQuantity ≤
      quantityAt (changeVariant items productId oldVariantId oldItem newVariant).1 productId (some newVariant.id) := by
  have after := ((orderly_moved orderly oldFound absent).mpr fits).pairs
  have at_pair : (oldItem.toVariant newVariant).pair = (productId, some newVariant.id) := pair_toVariant oldFound
  constructor
  · intro product variant elsewhere apart
    apply quantityAt_congr orderly.pairs after
    intro item here
    rw [mem_moved orderly oldFound absent]
    constructor
    · rintro (rfl | ⟨inside, -⟩)
      · exact absurd (here.symm.trans at_pair) apart
      · exact inside
    · exact fun inside => .inr ⟨inside, here ▸ elsewhere⟩
  · rw [quantityAt_of_absent (find_isAt_none absent),
      quantityAt_of_mem after ((mem_moved orderly oldFound absent).mpr (.inl rfl)) at_pair, Int.zero_add]
    exact Int.min_le_left ..

end changeVariant

theorem updateVariant_found {items : List CartItem} {productId : String} {oldVariantId newVariantId : Option String}
    {oldItem : CartItem} {newVariant : Variant} (found : items.find? (isAt productId oldVariantId) = some oldItem)
    (offered : oldItem.variants.find? (some ·.id = newVariantId) = some newVariant) :
    newVariantId = some newVariant.id ∧ (updateVariant items productId oldVariantId newVariantId).items =
      (changeVariant items productId oldVariantId oldItem newVariant).1 := by
  have named := List.find?_some offered
  rw [decide_eq_true_iff] at named
  refine ⟨named.symm, ?_⟩
  simp only [updateVariant, found, offered]

theorem orderly_updateVariant {items : List CartItem} (orderly : Orderly items) (productId : String)
    (oldVariantId newVariantId : Option String) :
    (Orderly (updateVariant items productId oldVariantId newVariantId).items ∧
      Change.Kept ⟨productId, oldVariantId, newVariantId, items,
        (updateVariant items productId oldVariantId newVariantId).items⟩) ↔
      Fits items (.updateVariant productId oldVariantId newVariantId) := by
  cases found : items.find? (isAt productId oldVariantId) with
  | none => simp only [Change.Kept, Fits, updateVariant, found, orderly, and_self]
  | some oldItem =>
    cases offered : oldItem.variants.find? (some ·.id = newVariantId) with
    | none => simp only [Change.Kept, Fits, updateVariant, found, offered, orderly, and_self]
    | some newVariant =>
      obtain ⟨rfl, after⟩ := updateVariant_found found offered
      rw [after]
      simp only [Change.Kept, Fits, found, offered]
      by_cases own : some newVariant.id = oldVariantId
      · subst own
        simp [changeVariant_self orderly found]
      · rw [if_neg own]
        cases other : items.find? (isAt productId (some newVariant.id)) with
        | some existingNewItem =>
          rw [orderly_merged orderly found own other]
          exact ⟨fun both => ⟨own, both.1⟩, fun fits => ⟨fits.2, kept_merged orderly found own other fits.2⟩⟩
        | none =>
          rw [orderly_moved orderly found other]
          exact ⟨fun both => ⟨own, both.1⟩, fun fits => ⟨fits.2, kept_moved orderly found other fits.2⟩⟩

theorem right_act {s : CartState} (right : Right s) (command : Command) : Right (act s command) ↔ Fits s.items command := by
  obtain ⟨orderly, kept⟩ := right
  cases command with
  | addItem newItem quantity =>
    rw [← orderly_addItem orderly]
    exact ⟨And.left, fun after => ⟨after, kept⟩⟩
  | updateQuantity productId variantId quantity =>
    exact iff_of_true ⟨orderly_updateQuantity orderly productId variantId quantity, kept⟩ trivial
  | removeItem productId variantId => exact iff_of_true ⟨orderly_without orderly productId variantId, kept⟩ trivial
  | updateVariant productId oldVariantId newVariantId =>
    rw [← orderly_updateVariant orderly]
    constructor
    · rintro ⟨after, all⟩
      exact ⟨after, all _ (List.mem_append_right _ (List.mem_singleton_self _))⟩
    · rintro ⟨after, last⟩
      refine ⟨after, fun c among => ?_⟩
      rcases List.mem_append.mp among with earlier | own
      · exact kept c earlier
      · rw [List.mem_singleton.mp own]
        exact last
  | clearCart => exact iff_of_true ⟨⟨List.nodup_nil, nofun⟩, kept⟩ trivial

theorem guest_cart_orderly (commands : List Command) :
    (∀ n, Right (Machine.run act initial (commands.take n))) ↔
      Machine.CanRun act (fun s => Fits s.items) initial commands := by
  have nothing : Right initial := ⟨⟨List.nodup_nil, nofun⟩, nofun⟩
  exact Machine.throughout_iff_canRun (I := fun _ => True) (P := Right) (fun _ _ _ _ _ => trivial)
    (fun s command _ right => right_act right command) trivial nothing commands

def large : Variant := ⟨"L", "Large", 0, 5, []⟩

def shirt : Product :=
  ⟨"p1", some "L", "Shirt", 100, "shirt.png", "s1", "Shop", "shirt-i.p1", [large], 100, true, 5, some "Large"⟩

/-- The variant that the shirt already has is chosen again. -/
def chosenAgain : List Command := [.addItem shirt none, .updateVariant "p1" (some "L") (some "L")]

theorem not_guest_cart_orderly : ¬ ∀ (commands : List Command) (n : Nat), Right (Machine.run act initial (commands.take n)) := by
  intro claimed
  have right := claimed chosenAgain 2
  have kept := right.2 ⟨"p1", some "L", some "L", [{ shirt with quantity := 1 }], []⟩ (by decide)
  have same : ([] : List CartItem) = [{ shirt with quantity := 1 }] := kept
  cases same

end Marketplace.Storefront.GuestCart
