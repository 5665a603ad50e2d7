import Marketplace.Schema
import Mathlib.Data.List.Dedup
import Mathlib.Data.List.Sort
import Mathlib.Tactic.Ring

/-! `ProductStockService`: taking quantities out of stock and putting them back. -/
namespace Marketplace
open ReadCommitted ReadCommitted.Tx

def productColumns : Columns Product where
  write mem r c :=
    { shop := column mem.shop r.shop c.shop
      name := column mem.name r.name c.name
      price := column mem.price r.price c.price
      thumbnailUrl := column mem.thumbnailUrl r.thumbnailUrl c.thumbnailUrl
      stockQuantity := column mem.stockQuantity r.stockQuantity c.stockQuantity
      hasVariants := column mem.hasVariants r.hasVariants c.hasVariants
      isHidden := column mem.isHidden r.isHidden c.isHidden
      status := column mem.status r.status c.status }
  same := by intro mem c; simp
  fresh := by intro mem r; simp

def variantColumns : Columns ProductVariant where
  write mem r c :=
    { product := column mem.product r.product c.product
      name := column mem.name r.name c.name
      attributes := column mem.attributes r.attributes c.attributes
      additionalPrice := column mem.additionalPrice r.additionalPrice c.additionalPrice
      stockQuantity := column mem.stockQuantity r.stockQuantity c.stockQuantity }
  same := by intro mem c; simp
  fresh := by intro mem r; simp

/-- The `CHECK (stock_quantity >= 0)` of both tables, on the row a save has written. -/
def saveProduct (id : Id) (mem : Product) : Action Unit := do
  save (k := .product id) productColumns mem
  let stored ← select fun d => (d (.product id)).map (·.stockQuantity)
  require (stored.all (0 ≤ ·)) .checkViolation

def saveVariant (id : Id) (mem : ProductVariant) : Action Unit := do
  save (k := .variant id) variantColumns mem
  let stored ← select fun d => (d (.variant id)).map (·.stockQuantity)
  require (stored.all (0 ≤ ·)) .checkViolation

def totalQtyByProductId (items : List StockLine) (p : Id) : Nat :=
  ((items.filter fun it => it.product = p).map (·.quantity)).sum

def totalQtyByVariantId (items : List StockLine) (w : Id) : Nat :=
  ((items.filter fun it => it.variant = some w).map (·.quantity)).sum

def sortedProductIds (items : List StockLine) : List Id :=
  (items.map (·.product)).dedup.insertionSort (· ≤ ·)

def sortedVariantIds (items : List StockLine) : List Id :=
  (items.filterMap (·.variant)).dedup.insertionSort (· ≤ ·)

/-- The rows both operations lock and load, by id. -/
structure LockedStock where
  product : Id → Option Product
  variant : Id → Option ProductVariant

/-- Products ascending, then variants ascending. -/
def lockStock (items : List StockLine) : Action LockedStock := do
  forM (sortedProductIds items) fun p => lockRow (.product p)
  let products ← select fun d p => if p ∈ sortedProductIds items then d (.product p) else none
  forM (sortedVariantIds items) fun w => lockRow (.variant w)
  let variants ← select fun d w => if w ∈ sortedVariantIds items then d (.variant w) else none
  return ⟨products, variants⟩

/-- The loaded rows with `sign` times the requested quantities added. -/
def LockedStock.add (locked : LockedStock) (items : List StockLine) (sign : Int) : LockedStock where
  product p := (locked.product p).map fun row =>
    { row with stockQuantity := row.stockQuantity + sign * totalQtyByProductId items p }
  variant w := (locked.variant w).map fun row =>
    { row with stockQuantity := row.stockQuantity + sign * totalQtyByVariantId items w }

def saveStock (items : List StockLine) (locked : LockedStock) : Action Unit := do
  forM (sortedVariantIds items) fun w =>
    match locked.variant w with
    | some row => saveVariant w row
    | none => pure ()
  forM (sortedProductIds items) fun p =>
    match locked.product p with
    | some row => saveProduct p row
    | none => pure ()

/-- The lines that cannot be served, with what is left. -/
def insufficientLine (items : List StockLine) (locked : LockedStock) (it : StockLine) :
    Option Insufficient :=
  match locked.product it.product with
  | none => some ⟨it.product, none, it.variant, none, it.quantity, 0⟩
  | some product =>
    match it.variant with
    | some w =>
      match locked.variant w with
      | none => some ⟨it.product, some product.name, some w, none, it.quantity, 0⟩
      | some variant =>
        if variant.stockQuantity < totalQtyByVariantId items w then
          some ⟨it.product, some product.name, some w, variant.name, totalQtyByVariantId items w,
            variant.stockQuantity⟩
        else none
    | none =>
      if product.stockQuantity < totalQtyByProductId items it.product then
        some ⟨it.product, some product.name, none, none, totalQtyByProductId items it.product,
          product.stockQuantity⟩
      else none

def lockAndDeductStockForCheckout (items : List StockLine) : Action Unit := do
  let locked ← lockStock items
  let insufficient := items.filterMap (insufficientLine items locked)
  require (insufficient = [])
    (.insufficient "Một số sản phẩm không đủ tồn kho để đặt hàng" insufficient)
  saveStock items (locked.add items (-1))

/-- Rows deleted meanwhile are skipped. -/
def lockAndRestock (items : List StockLine) : Action Unit := do
  let locked ← lockStock items
  saveStock items (locked.add items 1)

/-- What the two operations do to the database. -/
def addStock (items : List StockLine) (sign : Int) (d : Db) : Db
  | .product p => (d (.product p)).map fun row =>
      { row with stockQuantity := row.stockQuantity + sign * totalQtyByProductId items p }
  | .variant w => (d (.variant w)).map fun row =>
      { row with stockQuantity := row.stockQuantity + sign * totalQtyByVariantId items w }
  | k => d k

def StockKey : Key → Prop
  | .product _ => True
  | .variant _ => True
  | _ => False

theorem mem_sortedProductIds {items : List StockLine} {p : Id} :
    p ∈ sortedProductIds items ↔ ∃ it ∈ items, it.product = p := by
  simp [sortedProductIds]

theorem mem_sortedVariantIds {items : List StockLine} {w : Id} :
    w ∈ sortedVariantIds items ↔ ∃ it ∈ items, it.variant = some w := by
  simp [sortedVariantIds]

theorem nodup_sortedProductIds (items : List StockLine) : (sortedProductIds items).Nodup :=
  (List.perm_insertionSort _ _).nodup_iff.mpr (List.nodup_dedup _)

theorem nodup_sortedVariantIds (items : List StockLine) : (sortedVariantIds items).Nodup :=
  (List.perm_insertionSort _ _).nodup_iff.mpr (List.nodup_dedup _)

theorem totalQtyByProductId_absent {items : List StockLine} {p : Id}
    (absent : p ∉ sortedProductIds items) : totalQtyByProductId items p = 0 := by
  have none : items.filter (fun it => it.product = p) = [] := by
    refine List.filter_eq_nil_iff.mpr fun it member same => absent ?_
    exact mem_sortedProductIds.mpr ⟨it, member, by simpa using same⟩
  simp [totalQtyByProductId, none]

theorem totalQtyByVariantId_absent {items : List StockLine} {w : Id}
    (absent : w ∉ sortedVariantIds items) : totalQtyByVariantId items w = 0 := by
  have none : items.filter (fun it => it.variant = some w) = [] := by
    refine List.filter_eq_nil_iff.mpr fun it member same => absent ?_
    exact mem_sortedVariantIds.mpr ⟨it, member, by simpa using same⟩
  simp [totalQtyByVariantId, none]

section
variable {I : Isolation (Table Row) Mark} {E : Err → Prop} {v : View (Table Row) Mark}

theorem wp_lockStock {items : List StockLine} {Q : LockedStock → View (Table Row) Mark → Prop}
    (h : ∀ w, v.Continues (fun _ => False) (fun _ => False) w →
      (∀ p ∈ sortedProductIds items, w.held (.product p) = true) →
      (∀ x ∈ sortedVariantIds items, w.held (.variant x) = true) →
      Q ⟨fun p => if p ∈ sortedProductIds items then v.rows (.product p) else none,
        fun x => if x ∈ sortedVariantIds items then v.rows (.variant x) else none⟩ w) :
    (lockStock items).wp I Q E v := by
  unfold lockStock
  rw [wp_bind]
  refine wp_lockRows _ _ fun w₁ first products => ?_
  rw [wp_bind, wp_select]
  intro d₁ m₁ sees₁
  rw [wp_bind]
  refine wp_lockRows _ _ fun w₂ second variants => ?_
  rw [wp_bind, wp_select]
  intro d₂ m₂ sees₂
  rw [wp_pure]
  have upto : v.Continues (fun _ => False) (fun _ => False) w₂ :=
    (first.trans (View.Continues.looking (I.forward sees₁))).trans second
  have readProducts : (fun p => if p ∈ sortedProductIds items then d₁ (.product p) else none) =
      fun p => if p ∈ sortedProductIds items then v.rows (.product p) else none := by
    funext p
    split
    · rename_i member
      rw [I.held sees₁ (products p member), first.rows _ (fun no => no)]
    · rfl
  have readVariants : (fun x => if x ∈ sortedVariantIds items then d₂ (.variant x) else none) =
      fun x => if x ∈ sortedVariantIds items then v.rows (.variant x) else none := by
    funext x
    split
    · rename_i member
      rw [I.held sees₂ (variants x member), upto.rows _ (fun no => no)]
    · rfl
  rw [readProducts, readVariants]
  exact h _ (upto.trans (View.Continues.looking (I.forward sees₂))) (fun p member => second.held _ (products p member))
    variants

theorem wp_saveProduct {p : Id} {mem row : Product} {Q : Unit → View (Table Row) Mark → Prop}
    (check : mem.stockQuantity < 0 → E .checkViolation) (held : v.held (.product p) = true)
    (stands : v.rows (.product p) = some row)
    (h : ∀ w, v.Continues (· = Key.product p) (fun _ => False) w → w.rows (.product p) = some mem →
      0 ≤ mem.stockQuantity → Q () w) : (saveProduct p mem).wp I Q E v := by
  unfold saveProduct
  rw [wp_bind]
  refine wp_save_held (k := Key.product p) held stands fun w more kept stored => ?_
  rw [wp_bind, wp_select]
  intro d m sees
  have read : d (.product p) = some mem := (I.held sees kept).trans stored
  rw [wp_require, read]
  refine ⟨fun ok => h _ (more.trans (.looking (I.forward sees))) stored ?_, fun negative => check ?_⟩
  · simpa using ok
  · simpa using negative

theorem wp_saveVariant {x : Id} {mem row : ProductVariant} {Q : Unit → View (Table Row) Mark → Prop}
    (check : mem.stockQuantity < 0 → E .checkViolation) (held : v.held (.variant x) = true)
    (stands : v.rows (.variant x) = some row)
    (h : ∀ w, v.Continues (· = Key.variant x) (fun _ => False) w → w.rows (.variant x) = some mem →
      0 ≤ mem.stockQuantity → Q () w) : (saveVariant x mem).wp I Q E v := by
  unfold saveVariant
  rw [wp_bind]
  refine wp_save_held (k := Key.variant x) held stands fun w more kept stored => ?_
  rw [wp_bind, wp_select]
  intro d m sees
  have read : d (.variant x) = some mem := (I.held sees kept).trans stored
  rw [wp_require, read]
  refine ⟨fun ok => h _ (more.trans (.looking (I.forward sees))) stored ?_, fun negative => check ?_⟩
  · simpa using ok
  · simpa using negative

/-- Every row the lines name has passed its check. -/
def StockChecked (items : List StockLine) (d : Db) : Prop :=
  (∀ p ∈ sortedProductIds items, ∀ row ∈ d (.product p), 0 ≤ row.stockQuantity) ∧
  ∀ x ∈ sortedVariantIds items, ∀ row ∈ d (.variant x), 0 ≤ row.stockQuantity

/-- The locked rows as `lockStock` loads them from `d`. -/
def loadedStock (items : List StockLine) (d : Db) : LockedStock where
  product p := if p ∈ sortedProductIds items then d (.product p) else none
  variant x := if x ∈ sortedVariantIds items then d (.variant x) else none

theorem addStock_product {items : List StockLine} {sign : Int} {d : Db} {p : Id}
    (absent : p ∉ sortedProductIds items) : addStock items sign d (.product p) = d (.product p) := by
  cases found : d (.product p) <;> simp [addStock, found, totalQtyByProductId_absent absent]

theorem addStock_variant {items : List StockLine} {sign : Int} {d : Db} {x : Id}
    (absent : x ∉ sortedVariantIds items) : addStock items sign d (.variant x) = d (.variant x) := by
  cases found : d (.variant x) <;> simp [addStock, found, totalQtyByVariantId_absent absent]

theorem wp_saveStock {items : List StockLine} {sign : Int}
    {Q : Unit → View (Table Row) Mark → Prop}
    (check : ¬ StockChecked items (addStock items sign v.rows) → E .checkViolation)
    (products : ∀ p ∈ sortedProductIds items, v.held (.product p) = true)
    (variants : ∀ x ∈ sortedVariantIds items, v.held (.variant x) = true)
    (h : ∀ w, v.Continues StockKey (fun _ => False) w → w.rows = addStock items sign v.rows →
      StockChecked items w.rows → Q () w) :
    (saveStock items ((loadedStock items v.rows).add items sign)).wp I Q E v := by
  unfold saveStock
  rw [wp_bind]
  refine wp_saveRows (fun x => Key.variant x) _ (addStock items sign v.rows)
    (fun x => ∀ row ∈ addStock items sign v.rows (.variant x), 0 ≤ row.stockQuantity)
    (fun _ _ same => by simpa using same) _ (nodup_sortedVariantIds items) variants
    (fun x member u Q held same next => ?_) fun w₁ first stored₁ checked₁ => ?_
  · have loaded : ((loadedStock items v.rows).add items sign).variant x =
        addStock items sign v.rows (.variant x) := by
      simp [LockedStock.add, loadedStock, member, addStock]
    rw [loaded]
    cases found : v.rows (.variant x) with
    | none =>
      have gone : addStock items sign v.rows (.variant x) = none := by simp [addStock, found]
      rw [gone] at next ⊢
      exact next u (.refl u) (same.trans found) (by simp)
    | some row =>
      have there : addStock items sign v.rows (.variant x) = some
        { row with stockQuantity := row.stockQuantity + sign * totalQtyByVariantId items x } := by
        simp [addStock, found]
      rw [there] at next ⊢
      refine wp_saveVariant (fun negative => check fun ok => ?_) held (same.trans found) fun w more stored ok =>
        next w more stored (by simpa using ok)
      exact absurd (ok.2 x member _ there) (not_le.mpr negative)
  have kept : ∀ p, w₁.rows (.product p) = v.rows (.product p) := fun p =>
    first.rows _ (by simp)
  refine wp_saveRows (fun p => Key.product p) _ (addStock items sign v.rows)
    (fun p => ∀ row ∈ addStock items sign v.rows (.product p), 0 ≤ row.stockQuantity)
    (fun _ _ same => by simpa using same) _ (nodup_sortedProductIds items)
    (fun p member => first.held _ (products p member))
    (fun p member u Q held same next => ?_) fun w₂ second stored₂ checked₂ => ?_
  · have loaded : ((loadedStock items v.rows).add items sign).product p =
        addStock items sign v.rows (.product p) := by
      simp [LockedStock.add, loadedStock, member, addStock]
    rw [loaded]
    cases found : v.rows (.product p) with
    | none =>
      have gone : addStock items sign v.rows (.product p) = none := by simp [addStock, found]
      rw [gone] at next ⊢
      exact next u (.refl u) (same.trans ((kept p).trans found)) (by simp)
    | some row =>
      have there : addStock items sign v.rows (.product p) = some
        { row with stockQuantity := row.stockQuantity + sign * totalQtyByProductId items p } := by
        simp [addStock, found]
      rw [there] at next ⊢
      refine wp_saveProduct (fun negative => check fun ok => ?_) held (same.trans ((kept p).trans found))
        fun w more stored ok => next w more stored (by simpa using ok)
      exact absurd (ok.1 p member _ there) (not_le.mpr negative)
  have rows : w₂.rows = addStock items sign v.rows := by
    funext k
    by_cases product : ∃ p ∈ sortedProductIds items, k = .product p
    · obtain ⟨p, member, rfl⟩ := product
      exact stored₂ p member
    rw [second.rows k product]
    by_cases variant : ∃ x ∈ sortedVariantIds items, k = .variant x
    · obtain ⟨x, member, rfl⟩ := variant
      exact stored₁ x member
    rw [first.rows k variant]
    cases k with
    | product p => exact (addStock_product fun member => product ⟨p, member, rfl⟩).symm
    | variant x => exact (addStock_variant fun member => variant ⟨x, member, rfl⟩).symm
    | _ => rfl
  refine h w₂ ((first.mono ?_ fun _ no => no).trans (second.mono ?_ fun _ no => no)) rows
    (rows ▸ ⟨checked₂, checked₁⟩)
  · rintro k ⟨x, _, rfl⟩; trivial
  · rintro k ⟨p, _, rfl⟩; trivial

/-- The effect of a restock: each named row that exists gains its quantities, nothing else changes. -/
theorem wp_lockAndRestock {items : List StockLine} {Q : Unit → View (Table Row) Mark → Prop}
    (check : ¬ StockChecked items (addStock items 1 v.rows) → E .checkViolation)
    (h : ∀ w, v.Continues StockKey (fun _ => False) w → w.rows = addStock items 1 v.rows →
      StockChecked items w.rows → Q () w) : (lockAndRestock items).wp I Q E v := by
  unfold lockAndRestock
  rw [wp_bind]
  refine wp_lockStock fun w₁ first products variants => ?_
  have same : w₁.rows = v.rows := funext fun k => first.rows k fun no => no
  rw [← same]
  refine wp_saveStock (same ▸ check) products variants fun w₂ second rows ok => ?_
  exact h w₂ ((first.mono (fun _ no => no.elim) fun _ no => no).trans second) (same ▸ rows) ok

theorem wp_lockAndDeductStockForCheckout {items : List StockLine}
    {Q : Unit → View (Table Row) Mark → Prop}
    (check : ¬ StockChecked items (addStock items (-1) v.rows) → E .checkViolation)
    (short : ∀ list, list = items.filterMap (insufficientLine items (loadedStock items v.rows)) → list ≠ [] →
      E (.insufficient "Một số sản phẩm không đủ tồn kho để đặt hàng" list))
    (h : ∀ w, v.Continues StockKey (fun _ => False) w → w.rows = addStock items (-1) v.rows →
      items.filterMap (insufficientLine items (loadedStock items v.rows)) = [] →
      StockChecked items w.rows → Q () w) : (lockAndDeductStockForCheckout items).wp I Q E v := by
  unfold lockAndDeductStockForCheckout
  rw [wp_bind]
  refine wp_lockStock fun w₁ first products variants => ?_
  have same : w₁.rows = v.rows := funext fun k => first.rows k fun no => no
  rw [wp_bind, wp_require, ← same]
  refine ⟨fun served => ?_, fun unserved => short _ (by rw [← same]; rfl) unserved⟩
  refine wp_saveStock (same ▸ check) products variants fun w₂ second rows ok => ?_
  exact h w₂ ((first.mono (fun _ no => no.elim) fun _ no => no).trans second) (same ▸ rows)
    (same ▸ served) ok

end
end Marketplace
