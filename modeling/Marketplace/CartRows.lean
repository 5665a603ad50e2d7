import Marketplace.Carts
import Marketplace.ReadCommitted.Loads
import Marketplace.ReadCommitted.Scan

/-! `CartsService` on the rows of the cart table: pairs, quantities and limits under concurrent requests. -/
namespace Marketplace.CartRows
open ReadCommitted ReadCommitted.Tx

structure CartRow where
  user : Option Id
  product : Option Id
  variant : Option Id
  quantity : Nat
  addedAt : Time
deriving DecidableEq

/-- A row that a transaction has added to a cart; left for the specification. -/
structure Added where
  user : Id
  product : Id
  variant : Option Id
deriving DecidableEq

@[reducible] def Row : Id → Type := fun _ => CartRow

abbrev Db := Rows (Table Row)
abbrev Action := Tx (Table Row) Added Err
abbrev Request := Req (Table Row) Added Err (Except Err Unit)

def inCart (user : Id) (row : CartRow) : Bool := row.user = some user

/-- What checks that read no row come to. -/
def outcome {α : Type} (checks : Marketplace.Action α) : Except Err α := (checks.run (fun _ => none) []).map (·.1)

/-- A quantity that the validation lets through. -/
structure Quantity where
  value : Nat
  atLeast : MIN_QUANTITY_PER_ITEM ≤ value
  atMost : value ≤ MAX_QUANTITY_PER_ITEM
deriving DecidableEq

def oneItem : Quantity := ⟨MIN_QUANTITY_PER_ITEM, Nat.le_refl _, by decide⟩

structure AddCartItemDto where
  productId : UuidText
  variantId : Option UuidText
  quantity : Option Quantity
deriving DecidableEq

structure GuestCartItemDto where
  productId : UuidText
  variantId : Option UuidText
  quantity : Quantity
deriving DecidableEq

/-- The product with the variants among which a text can find its own: ids are compared as texts. -/
def ProductForCart.findable (product : ProductForCart) (variantId : Option UuidText) : ProductForCart :=
  if variantId.all (·.spelling = 0) then product else { product with variants := [] }

/-- The checks of `addItem` on the product, and the stock it leaves. -/
def addable (user : Id) (found : Option ProductForCart) (variantId : Option UuidText) : Except Err Int :=
  outcome do
    let product ← orFail (.notFound "Không tìm thấy sản phẩm") found
    validateProductPurchasable product
    require (product.shop.map (·.seller) ≠ some user) (.badRequest "Bạn không thể mua sản phẩm của shop mình")
    let available ← availableStock (ProductForCart.findable product variantId) (variantId.map (·.id))
    require (0 < available) (.badRequest "Sản phẩm hiện đã hết hàng")
    return available

/-- Nothing but the columns of a row is loaded, and not the user. A row that is gone is inserted again as it was loaded. -/
def saveQuantity (id : Id) (loaded : CartRow) (quantity : Nat) (withRelations : Bool) : Action Unit := do
  match ← select fun d => d id with
  | none =>
    insert id ⟨none, if withRelations then loaded.product else none, if withRelations then loaded.variant else none, quantity,
      loaded.addedAt⟩ (.uniqueViolation "cart_item.id")
  | some reread =>
    if quantity = reread.quantity then pure () else modify id (Option.map fun row => { row with quantity })

def insertItem (user product : Id) (variant : Option Id) (quantity : Nat) (newId : Id) (now : Time) : Action Unit := do
  note ⟨user, product, variant⟩
  insert newId ⟨some user, some product, variant, quantity, now⟩ (.uniqueViolation "cart_item.id")

def alone (body : Action Unit) : Request := .tx body (fun _ => .done (.ok ())) fun e => .done (.error e)

-- the ids that the uuid column can hold
variable (space : List Id)

def cartOf (user : Id) (d : Db) : List (Id × CartRow) :=
  (scan space (inCart user) d).filterMap fun id => (d id).map fun row => (id, row)

/-- `found` is what the request reads of the product. -/
def addItem (user : Id) (dto : AddCartItemDto) (found : Option ProductForCart) (newId : Id) (now : Time) : Request :=
  match addable user found dto.variantId with
  | .error e => .done (.error e)
  | .ok available =>
    let quantityToAdd := (dto.quantity.getD oneItem).value
    .tx (select fun d => (cartOf space user d).find? fun (_, row) =>
        row.product = some dto.productId.id ∧ row.variant = dto.variantId.map (·.id))
      (fun
        | some (id, row) =>
          let newQty := row.quantity + quantityToAdd
          if MAX_QUANTITY_PER_ITEM < newQty then
            .done (.error (.badRequest "Tổng số lượng tối đa cho mỗi sản phẩm trong giỏ hàng là 99"))
          else if available < newQty then .done (.error (.badRequest s!"Số lượng vượt quá tồn kho còn lại ({available})"))
          else alone (saveQuantity id row newQty false)
        | none =>
          if available < quantityToAdd then .done (.error (.badRequest s!"Số lượng vượt quá tồn kho còn lại ({available})"))
          else
            .tx (select fun d => (scan space (inCart user) d).length)
              (fun distinctCount =>
                if MAX_DISTINCT_ITEMS ≤ distinctCount then
                  .done (.error (.badRequest "Giỏ hàng của bạn đã đạt giới hạn tối đa 50 sản phẩm khác nhau. Vui lòng thanh toán hoặc xóa bớt để thêm mới."))
                else alone (insertItem user dto.productId.id (dto.variantId.map (·.id)) quantityToAdd newId now))
              fun e => .done (.error e))
      fun e => .done (.error e)

def findOwned (user id : Id) (d : Db) : Option CartRow := (d id).filter (inCart user)

/-- `related` is what the request reads of the product of the row and of its variant. -/
def updateItemQuantity (user id : Id) (quantity : Quantity) (related : CartRow → Option ProductForCart × Option Int) : Request :=
  .tx (select (findOwned user id))
    (fun
      | none => .done (.error (.notFound "Không tìm thấy sản phẩm trong giỏ hàng"))
      | some row =>
        match outcome (do
          let product ← orFail .database (related row).1
          validateProductPurchasable product
          return (related row).2.getD product.product.stockQuantity) with
        | .error e => .done (.error e)
        | .ok available =>
          if available < quantity.value then .done (.error (.badRequest s!"Số lượng vượt quá tồn kho còn lại ({available})"))
          else alone (saveQuantity id row quantity.value true))
    fun e => .done (.error e)

def removeItem (user id : Id) : Request :=
  .tx (select (findOwned user id))
    (fun
      | none => .done (.error (.notFound "Không tìm thấy sản phẩm trong giỏ hàng"))
      | some _ => alone (deleteWhere id fun _ => true))
    fun e => .done (.error e)

/-- An entry of the map, whose quantity grows. -/
structure GuestLine where
  productId : UuidText
  variantId : Option UuidText
  quantity : Nat
  atLeast : MIN_QUANTITY_PER_ITEM ≤ quantity

/-- One entry for the texts of a product and a variant, at the place of the first. -/
def consolidatedGuestItems (items : List GuestCartItemDto) : List GuestLine :=
  items.foldl (fun map item =>
    if map.any fun line => line.productId = item.productId ∧ line.variantId = item.variantId then
      map.map fun line =>
        if line.productId = item.productId ∧ line.variantId = item.variantId then
          { line with quantity := line.quantity + item.quantity.value, atLeast := Nat.le_add_right_of_le line.atLeast }
        else line
    else map ++ [⟨item.productId, item.variantId, item.quantity.value, item.quantity.atLeast⟩]) []

/-- Whether a guest line may enter the cart. -/
def enters (user : Id) (line : GuestLine) (found : Option ProductForCart) : Bool :=
  found.any fun product => mergeable user ⟨line.productId.id, line.variantId.map (·.id), line.quantity⟩
    (ProductForCart.findable product line.variantId)

/-- Texts are compared with the ids that the database has answered. -/
def matchesLine (line : GuestLine) (row : CartRow) : Bool :=
  row.product.map (⟨·, 0⟩) = some line.productId ∧ row.variant.map (⟨·, 0⟩) = line.variantId

/-- The loop of the merge. The entity of a row in memory keeps the quantity that it was saved with. -/
def mergeLines (user : Id) (now : Time) : List (GuestLine × Option ProductForCart × Id) → List (Id × CartRow) → Nat → Action Unit
  | [], _, _ => pure ()
  | (line, found, newId) :: rest, dbCartItems, count =>
    if enters user line found then
      match dbCartItems.find? fun (_, row) => matchesLine line row with
      | some (id, row) => do
        let mergedQty := min (row.quantity + line.quantity) MAX_QUANTITY_PER_ITEM
        saveQuantity id row mergedQty true
        mergeLines user now rest
          (dbCartItems.map fun (other, loaded) => (other, if other = id then { loaded with quantity := mergedQty } else loaded)) count
      | none =>
        if MAX_DISTINCT_ITEMS ≤ count then mergeLines user now rest dbCartItems count
        else do
          insertItem user line.productId.id (line.variantId.map (·.id)) (min line.quantity MAX_QUANTITY_PER_ITEM) newId now
          mergeLines user now rest dbCartItems (count + 1)
    else mergeLines user now rest dbCartItems count

/-- `found` and `newId` are what is read of the product of a line, and the id that its row would have. -/
def mergeCart (user : Id) (items : List GuestCartItemDto) (found : Nat → Option ProductForCart) (newId : Nat → Id)
    (now : Time) : Request :=
  alone do
    let dbCartItems ← select (cartOf space user)
    mergeLines user now ((consolidatedGuestItems items).mapIdx fun i line => (line, found i, newId i)) dbCartItems dbCartItems.length

inductive Asked : Request → Prop
  | addItem (user : Id) (dto : AddCartItemDto) (found : Option ProductForCart) (newId : Id) (now : Time) :
      Asked (addItem space user dto found newId now)
  | updateItemQuantity (user id : Id) (quantity : Quantity) (related : CartRow → Option ProductForCart × Option Int) :
      Asked (updateItemQuantity user id quantity related)
  | removeItem (user id : Id) : Asked (removeItem user id)
  | mergeCart (user : Id) (items : List GuestCartItemDto) (found : Nat → Option ProductForCart) (newId : Nat → Id) (now : Time) :
      Asked (mergeCart space user items found newId now)

def Added.isRow (e : Added) (row : CartRow) : Bool := row.user = some e.user ∧ row.product = some e.product ∧ row.variant = e.variant

/-- The cart still has no row of a pair to be added, and room for all rows that are. -/
def Safe (s : Store (Table Row) Added) (log : List Added) : Prop :=
  log.Nodup ∧ ∀ e ∈ log, scan space e.isRow s.rows = [] ∧
    (scan space (inCart e.user) s.rows).length + log.countP (·.user = e.user) ≤ MAX_DISTINCT_ITEMS

instance (s : Store (Table Row) Added) (log : List Added) : Decidable (Safe space s log) :=
  inferInstanceAs (Decidable (_ ∧ _))

/-- One row for a pair in each cart, quantities in their bounds, and no cart with too many rows. -/
structure WithinLimits (d : Db) : Prop where
  unique : ∀ e : Added, (scan space e.isRow d).length ≤ 1
  quantities : ∀ id row, d id = some row → MIN_QUANTITY_PER_ITEM ≤ row.quantity ∧ row.quantity ≤ MAX_QUANTITY_PER_ITEM
  few : ∀ user, (scan space (inCart user) d).length ≤ MAX_DISTINCT_ITEMS

/-- What the rows added so far have done to the carts of `c`. -/
structure Growing (c : Db) (v : View (Table Row) Added) : Prop where
  pairs : ∀ e, (scan space e.isRow v.rows).length ≤ (scan space e.isRow c).length + v.log.count e
  quantities : ∀ id row, v.rows id = some row → MIN_QUANTITY_PER_ITEM ≤ row.quantity ∧ row.quantity ≤ MAX_QUANTITY_PER_ITEM
  carts : ∀ user, (scan space (inCart user) v.rows).length ≤ (scan space (inCart user) c).length + v.log.countP (·.user = user)

section
variable {space : List Id} {c : Db}

theorem Growing.start (kept : WithinLimits space c) (m : Nat) : Growing space c (View.start c m) :=
  ⟨fun _ => Nat.le_add_right _ _, kept.quantities, fun _ => Nat.le_add_right _ _⟩

theorem Growing.looking {v : View (Table Row) Added} (growing : Growing space c v) (m : Nat) :
    Growing space c (v.looking m) := ⟨growing.pairs, growing.quantities, growing.carts⟩

/-- When the transaction commits, what it has added fits. -/
theorem Growing.commit {s : Store (Table Row) Added} {w : View (Table Row) Added} (kept : WithinLimits space s.rows)
    (growing : Growing space s.rows w) (safe : Safe space s w.log) : WithinLimits space w.rows := by
  obtain ⟨distinct, fits⟩ := safe
  refine ⟨fun e => ?_, growing.quantities, fun user => ?_⟩
  · have pairs := growing.pairs e
    by_cases added : e ∈ w.log
    · rw [(fits e added).1, List.count_eq_one_of_mem distinct added] at pairs
      exact pairs
    · rw [List.count_eq_zero_of_not_mem added] at pairs
      exact Nat.le_trans pairs (kept.unique e)
  · have carts := growing.carts user
    by_cases added : ∃ e ∈ w.log, e.user = user
    · obtain ⟨e, member, rfl⟩ := added
      exact Nat.le_trans carts (fits e member).2
    · have none_ : w.log.countP (·.user = user) = 0 :=
        List.countP_eq_zero.mpr fun e member same => added ⟨e, member, by simpa using same⟩
      rw [none_] at carts
      exact Nat.le_trans carts (kept.few user)

theorem maintains_saveQuantity {id : Id} {loaded : CartRow} {quantity : Nat} {withRelations : Bool}
    (bounds : MIN_QUANTITY_PER_ITEM ≤ quantity ∧ quantity ≤ MAX_QUANTITY_PER_ITEM) :
    (saveQuantity id loaded quantity withRelations).Maintains (Growing space c) := by
  intro I v growing
  unfold saveQuantity
  rw [wp_bind, wp_select]
  intro d m _
  cases d id with
  | none =>
    refine wp_insert (fun _ => trivial) fun w more _ free stored => ?_
    have unowned : ∀ p : CartRow → Bool, (∀ row, row.user = none → p row = false) →
        (scan space p w.rows).length ≤ (scan space p v.rows).length := by
      intro p nobodys
      refine length_scan_le fun k there => ?_
      by_cases same : k = id
      · subst same
        rw [stored] at there
        simp [nobodys] at there
      · rwa [more.rows k same] at there
    have log : w.log = v.log := more.log_same
    refine ⟨fun e => ?_, fun k row there => ?_, fun user => ?_⟩
    · rw [log]
      exact Nat.le_trans (unowned _ fun row nobodys => by simp [Added.isRow, nobodys]) (growing.pairs e)
    · by_cases same : k = id
      · subst same
        obtain rfl := Option.some.inj (stored.symm.trans there)
        exact bounds
      · rw [more.rows k same] at there
        exact growing.quantities k row there
    · rw [log]
      exact Nat.le_trans (unowned _ fun row nobodys => by simp [inCart, nobodys]) (growing.carts user)
  | some reread =>
    simp only
    rw [wp_ite]
    refine ⟨fun _ => growing.looking m, fun _ => ?_⟩
    rw [wp_modify]
    have same : ∀ p : CartRow → Bool, (∀ row q, p { row with quantity := q } = p row) →
        scan space p (View.put (v.looking m) id (Option.map fun row => { row with quantity })).rows = scan space p v.rows := by
      intro p blind
      refine scan_congr fun k _ => ?_
      by_cases named : k = id
      · subst named
        rw [View.put_rows_self, View.looking_rows]
        cases v.rows k with
        | none => rfl
        | some row => simp [blind]
      · rw [View.put_rows_other _ _ named, View.looking_rows]
    refine ⟨fun e => ?_, fun k row there => ?_, fun user => ?_⟩
    · rw [same _ fun _ _ => rfl]
      exact growing.pairs e
    · by_cases named : k = id
      · subst named
        rw [View.put_rows_self] at there
        obtain ⟨before, _, rfl⟩ := Option.map_eq_some_iff.mp there
        exact bounds
      · rw [View.put_rows_other _ _ named] at there
        exact growing.quantities k row there
    · rw [same _ fun _ _ => rfl]
      exact growing.carts user

theorem maintains_insertItem (nodup : space.Nodup) {user product newId : Id} {variant : Option Id} {quantity : Nat} {now : Time}
    (bounds : MIN_QUANTITY_PER_ITEM ≤ quantity ∧ quantity ≤ MAX_QUANTITY_PER_ITEM) :
    (insertItem user product variant quantity newId now).Maintains (Growing space c) := by
  intro I v growing
  unfold insertItem
  rw [wp_bind, wp_note]
  refine wp_insert (fun _ => trivial) fun w more _ free stored => ?_
  have log : w.log = v.log ++ [⟨user, product, variant⟩] := more.log_same
  have unnamed : ∀ k, k ≠ newId → w.rows k = v.rows k := fun k other => more.rows k other
  have more_ : ∀ p : CartRow → Bool, p ⟨some user, some product, variant, quantity, now⟩ = false →
      (scan space p w.rows).length ≤ (scan space p v.rows).length := by
    intro p off
    refine length_scan_le fun k there => ?_
    by_cases same : k = newId
    · subst same
      rw [stored] at there
      simp [off] at there
    · rwa [unnamed k same] at there
  have one : ∀ p : CartRow → Bool, (scan space p w.rows).length ≤ (scan space p v.rows).length + 1 := by
    intro p
    refine length_scan_le_succ (k := newId) nodup fun k there => ?_
    by_cases same : k = newId
    · exact Or.inr same
    · rw [unnamed k same] at there
      exact Or.inl there
  refine ⟨fun e => ?_, fun k row there => ?_, fun u => ?_⟩
  · have before := growing.pairs e
    rw [log, List.count_append]
    by_cases same : e = ⟨user, product, variant⟩
    · subst same
      have after := one (Added.isRow ⟨user, product, variant⟩)
      simp only [List.count_cons_self, List.count_nil]
      omega
    · have after := more_ e.isRow (by
        have other : ¬ (user = e.user ∧ product = e.product ∧ variant = e.variant) := by
          rintro ⟨rfl, rfl, rfl⟩
          exact same rfl
        simpa [Added.isRow] using other)
      omega
  · by_cases same : k = newId
    · subst same
      obtain rfl := Option.some.inj (stored.symm.trans there)
      exact bounds
    · rw [unnamed k same] at there
      exact growing.quantities k row there
  · have before := growing.carts u
    rw [log, List.countP_append]
    by_cases same : user = u
    · subst same
      have after := one (inCart user)
      simp only [List.countP_cons, List.countP_nil, decide_true, if_true]
      omega
    · have after := more_ (inCart u) (by simp [inCart, same])
      omega

theorem maintains_deleteWhere {id : Id} {p : CartRow → Bool} :
    (deleteWhere id p : Action Unit).Maintains (Growing space c) := by
  intro I v growing
  refine wp_deleteWhere fun w more rows => ?_
  have log : w.log = v.log := more.log_same
  have left : ∀ k row, w.rows k = some row → v.rows k = some row := by
    intro k row there
    by_cases same : k = id
    · subst same
      rcases rows with stands | filtered
      · rwa [stands] at there
      · rw [filtered] at there
        exact (Option.filter_eq_some_iff.mp there).1
    · rwa [more.rows k same] at there
  have fewer : ∀ q : CartRow → Bool, (scan space q w.rows).length ≤ (scan space q v.rows).length := by
    intro q
    refine length_scan_le fun k there => ?_
    cases found : w.rows k with
    | none => simp [found] at there
    | some row =>
      rw [left k row found]
      rwa [found] at there
  refine ⟨fun e => ?_, fun k row there => growing.quantities k row (left k row there), fun user => ?_⟩
  · rw [log]
    exact Nat.le_trans (fewer _) (growing.pairs e)
  · rw [log]
    exact Nat.le_trans (fewer _) (growing.carts user)

theorem maintains_mergeLines (nodup : space.Nodup) (user : Id) (now : Time)
    (lines : List (GuestLine × Option ProductForCart × Id)) :
    ∀ (dbCartItems : List (Id × CartRow)) (count : Nat),
      (mergeLines user now lines dbCartItems count).Maintains (Growing space c) := by
  induction lines with
  | nil => exact fun _ _ _ _ growing => growing
  | cons entry rest ih =>
    obtain ⟨line, found, newId⟩ := entry
    have atLeast := line.atLeast
    intro dbCartItems count
    unfold mergeLines
    split
    · split
      · refine maintains_bind (maintains_saveQuantity ⟨?_, Nat.min_le_right _ _⟩) fun _ => ih _ count
        exact Nat.le_min.mpr ⟨Nat.le_trans atLeast (Nat.le_add_left _ _), by decide⟩
      · split
        · exact ih _ count
        · refine maintains_bind (maintains_insertItem nodup ⟨?_, Nat.min_le_right _ _⟩) fun _ => ih _ (count + 1)
          exact Nat.le_min.mpr ⟨atLeast, by decide⟩
    · exact ih _ count

/-- A transaction that adds rows one by one keeps the limits if what it has added fits at its commit. -/
theorem keeps_of_growing {body : Action Unit} (growing : ∀ c, body.Maintains (Growing space c)) :
    body.Keeps (Safe space) (fun s => WithinLimits space s.rows) fun _ _ => True :=
  keeps_of_maintains (J := fun s => Growing space s.rows) (fun s => growing s.rows) (fun _ m kept => .start kept m)
    fun _ _ kept grown safe => grown.commit kept safe

theorem alone_keeps {body : Action Unit} (growing : ∀ c, body.Maintains (Growing space c)) :
    (alone body).All fun _ body => body.Keeps (Safe space) (fun s => WithinLimits space s.rows) fun _ _ => True :=
  .tx (keeps_of_growing growing) (fun _ => .done _) fun _ => .done _

theorem asked_keeps {r : Request} (nodup : space.Nodup) (asked : Asked space r) :
    r.All fun _ body => body.Keeps (Safe space) (fun s => WithinLimits space s.rows) fun _ _ => True := by
  cases asked with
  | addItem user dto found newId now =>
    unfold addItem
    split
    · exact .done _
    · refine .tx (keeps_select _ fun _ => trivial) (fun existing => ?_) fun _ => .done _
      have added := (dto.quantity.getD oneItem).atLeast
      cases existing with
      | some entry =>
        obtain ⟨id, row⟩ := entry
        dsimp only
        split
        · exact .done _
        · rename_i fits
          split
          · exact .done _
          · refine alone_keeps fun c => maintains_saveQuantity ⟨?_, Nat.le_of_not_lt fits⟩
            exact Nat.le_trans added (Nat.le_add_left _ _)
      | none =>
        dsimp only
        split
        · exact .done _
        · refine .tx (keeps_select _ fun _ => trivial) (fun count => ?_) fun _ => .done _
          split
          · exact .done _
          · exact alone_keeps fun c => maintains_insertItem nodup ⟨added, (dto.quantity.getD oneItem).atMost⟩
  | updateItemQuantity user id quantity related =>
    refine .tx (keeps_select _ fun _ => trivial) (fun found => ?_) fun _ => .done _
    cases found with
    | none => exact .done _
    | some row =>
      dsimp only
      split
      · exact .done _
      · split
        · exact .done _
        · exact alone_keeps fun c => maintains_saveQuantity ⟨quantity.atLeast, quantity.atMost⟩
  | removeItem user id =>
    refine .tx (keeps_select _ fun _ => trivial) (fun found => ?_) fun _ => .done _
    cases found with
    | none => exact .done _
    | some row => exact alone_keeps fun c => maintains_deleteWhere
  | mergeCart user items found newId now =>
    exact alone_keeps fun c => maintains_bind (maintains_select fun v m growing => growing.looking m)
      fun dbCartItems => maintains_mergeLines nodup user now _ dbCartItems _

end

/-- A product on sale, without variants. -/
def mug : ProductForCart :=
  ⟨⟨3, "Mug", 90000, none, 10, false, false, .active⟩, some ⟨8, "Market", none, none, true, .active, none⟩, []⟩

def mugs (spelling : Nat) : GuestCartItemDto := ⟨⟨5, spelling⟩, none, oneItem⟩

/-- A user adds a product, and the cart of a guest is merged. -/
def adding : Nat → Request
  | 0 => addItem [1, 2] 7 ⟨⟨5, 0⟩, none, none⟩ (some mug) 1 0
  | _ => mergeCart [1, 2] 7 [mugs 0, mugs 0] (fun _ => some mug) (fun _ => 2) 1

end Marketplace.CartRows
