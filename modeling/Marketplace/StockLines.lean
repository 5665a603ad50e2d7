import Marketplace.Carts
import Marketplace.ReadCommitted.Serial
import Marketplace.Stock

/-! What a list of checkout lines takes out of stock, and that a restock of the same lines gives it back. -/
namespace Marketplace
open ReadCommitted ReadCommitted.Tx

/-- `DataSource.transaction` around one call: an error rolls back what the call wrote. -/
def stockTransaction (body : Action Unit) : Req (Table Row) Mark Err (Except Err Unit) :=
  .tx body (fun done => .done (.ok done)) fun e => .done (.error e)

/-- The stock of a product with variants is the sum of theirs, and no row is below zero. -/
structure ValidStock (d : Db) : Prop where
  sums : ∀ p product, d (.product p) = some product → product.hasVariants = true →
    product.stockQuantity = ((variantsOfProduct d p).map fun variant => variant.2.stockQuantity).sum
  products : ∀ p product, d (.product p) = some product → 0 ≤ product.stockQuantity
  variants : ∀ w variant, d (.variant w) = some variant → 0 ≤ variant.stockQuantity

/-- Every row the lines name exists and has their total in stock. -/
structure Covered (items : List StockLine) (d : Db) : Prop where
  products : ∀ it ∈ items, ∃ product, d (.product it.product) = some product ∧
    (totalQtyByProductId items it.product : Int) ≤ product.stockQuantity
  variants : ∀ it ∈ items, ∀ w, it.variant = some w → ∃ variant, d (.variant w) = some variant ∧
    (totalQtyByVariantId items w : Int) ≤ variant.stockQuantity

/-- Each product and each variant loses the total of its lines; nothing else changes. -/
structure Deducted (items : List StockLine) (before after : Db) : Prop where
  products : ∀ p, after (.product p) = (before (.product p)).map fun product =>
    { product with stockQuantity := product.stockQuantity - totalQtyByProductId items p }
  variants : ∀ w, after (.variant w) = (before (.variant w)).map fun variant =>
    { variant with stockQuantity := variant.stockQuantity - totalQtyByVariantId items w }
  others : ∀ k, ¬ StockKey k → after k = before k

def NoneNegative (d : Db) : Prop :=
  (∀ p product, d (.product p) = some product → 0 ≤ product.stockQuantity) ∧
    ∀ w variant, d (.variant w) = some variant → 0 ≤ variant.stockQuantity

section
variable {items : List StockLine} {d : Db}

theorem deducted_addStock (items : List StockLine) (d : Db) : Deducted items d (addStock items (-1) d) := by
  refine ⟨fun p => ?_, fun w => ?_, fun k other => ?_⟩
  · cases found : d (.product p) with
    | none => simp [addStock, found]
    | some product => simp [addStock, found, Int.sub_eq_add_neg]
  · cases found : d (.variant w) with
    | none => simp [addStock, found]
    | some variant => simp [addStock, found, Int.sub_eq_add_neg]
  · cases k with
    | product p => exact absurd trivial other
    | variant w => exact absurd trivial other
    | _ => rfl

theorem addStock_back (items : List StockLine) (d : Db) : addStock items 1 (addStock items (-1) d) = d := by
  funext k
  cases k with
  | product p =>
    cases found : d (.product p) with
    | none => simp [addStock, found]
    | some product => simp [addStock, found]
  | variant w =>
    cases found : d (.variant w) with
    | none => simp [addStock, found]
    | some variant => simp [addStock, found]
  | _ => rfl

/-- The lines that cannot be served are those whose rows do not cover the totals. -/
theorem Covered.served (covered : Covered items d) :
    items.filterMap (insufficientLine items (loadedStock items d)) = [] := by
  refine List.filterMap_eq_nil_iff.mpr fun it member => ?_
  obtain ⟨product, stands, enough⟩ := covered.products it member
  have named : it.product ∈ sortedProductIds items := mem_sortedProductIds.mpr ⟨it, member, rfl⟩
  have loaded : (loadedStock items d).product it.product = some product := by simp [loadedStock, named, stands]
  unfold insufficientLine
  rw [loaded]
  cases chosen : it.variant with
  | none =>
    have fits : ¬ product.stockQuantity < totalQtyByProductId items it.product := by omega
    simp [fits]
  | some w =>
    obtain ⟨variant, there, left⟩ := covered.variants it member w chosen
    have listed : w ∈ sortedVariantIds items := mem_sortedVariantIds.mpr ⟨it, member, chosen⟩
    have read : (loadedStock items d).variant w = some variant := by simp [loadedStock, listed, there]
    have fits : ¬ variant.stockQuantity < totalQtyByVariantId items w := by omega
    simp [read, fits]

theorem Covered.checked (covered : Covered items d) : StockChecked items (addStock items (-1) d) := by
  refine ⟨fun p named row stands => ?_, fun w named row stands => ?_⟩
  · obtain ⟨it, member, rfl⟩ := mem_sortedProductIds.mp named
    obtain ⟨product, found, enough⟩ := covered.products it member
    simp only [addStock, found, Option.map_some, Option.mem_some_iff] at stands
    subst stands
    change 0 ≤ product.stockQuantity + -1 * (totalQtyByProductId items it.product : Int)
    omega
  · obtain ⟨it, member, chosen⟩ := mem_sortedVariantIds.mp named
    obtain ⟨variant, found, enough⟩ := covered.variants it member w chosen
    simp only [addStock, found, Option.map_some, Option.mem_some_iff] at stands
    subst stands
    change 0 ≤ variant.stockQuantity + -1 * (totalQtyByVariantId items w : Int)
    omega

/-- Rows the lines name have passed the check, the others are as before. -/
theorem noneNegative_deducted (valid : ValidStock d) (checked : StockChecked items (addStock items (-1) d)) :
    NoneNegative (addStock items (-1) d) := by
  refine ⟨fun p product stands => ?_, fun w variant stands => ?_⟩
  · by_cases named : p ∈ sortedProductIds items
    · exact checked.1 p named product stands
    · rw [addStock_product named] at stands
      exact valid.products p product stands
  · by_cases named : w ∈ sortedVariantIds items
    · exact checked.2 w named variant stands
    · rw [addStock_variant named] at stands
      exact valid.variants w variant stands

theorem checked_of_valid (valid : ValidStock d) : StockChecked items d :=
  ⟨fun p _ product stands => valid.products p product stands, fun w _ variant stands => valid.variants w variant stands⟩

variable {s : Store (Table Row) Mark}

/-- What a call of `lockAndDeductStockForCheckout` leaves. -/
theorem deduct_cases (items : List StockLine) (s : Store (Table Row) Mark) :
    (stockTransaction (lockAndDeductStockForCheckout items)).run s = (.ok (), ⟨addStock items (-1) s.rows, s.journal⟩) ∧
        StockChecked items (addStock items (-1) s.rows) ∨
      ¬ Covered items s.rows ∧
        ∃ e, (stockTransaction (lockAndDeductStockForCheckout items)).run s = (.error e, s) := by
  have spec : (lockAndDeductStockForCheckout items).wp .serial
      (fun _ w => (w.rows = addStock items (-1) s.rows ∧ w.log = []) ∧ StockChecked items w.rows)
      (fun _ => ¬ Covered items s.rows) (View.start s.rows 0) := by
    refine wp_lockAndDeductStockForCheckout (fun negative covered => negative covered.checked)
      (fun list same short covered => short (same.trans covered.served)) fun w more rows _ checked => ?_
    exact ⟨⟨rows, more.log_same⟩, checked⟩
  rcases Req.run_tx _ _ spec with ⟨a, w, ⟨⟨rows, log⟩, checked⟩, ran⟩ | ⟨e, short, ran⟩
  · refine Or.inl ⟨?_, rows ▸ checked⟩
    rw [stockTransaction, ran, Req.run, Store.commit, rows, log, List.append_nil]
  · exact Or.inr ⟨short, e, ran⟩

theorem restock_of_checked (checked : StockChecked items (addStock items 1 s.rows)) :
    (stockTransaction (lockAndRestock items)).run s = (.ok (), ⟨addStock items 1 s.rows, s.journal⟩) := by
  have spec : (lockAndRestock items).wp .serial (fun _ w => w.rows = addStock items 1 s.rows ∧ w.log = [])
      (fun _ => False) (View.start s.rows 0) :=
    wp_lockAndRestock (fun negative => negative checked) fun w more rows _ => ⟨rows, more.log_same⟩
  rcases Req.run_tx _ _ spec with ⟨a, w, ⟨rows, log⟩, ran⟩ | ⟨e, no, _⟩
  · rw [stockTransaction, ran, Req.run, Store.commit, rows, log, List.append_nil]
  · exact no.elim

end

/-- A checkout's lines are taken all or not at all, whenever the stock covers them, and given back in full. -/
theorem lines_taken_and_restored (items : List StockLine) (s : Store (Table Row) Mark) (valid : ValidStock s.rows) :
    ((∃ e, (stockTransaction (lockAndDeductStockForCheckout items)).run s = (.error e, s)) ∨
      ∃ t, (stockTransaction (lockAndDeductStockForCheckout items)).run s = (.ok (), t) ∧
        Deducted items s.rows t.rows ∧ NoneNegative t.rows ∧
        (stockTransaction (lockAndRestock items)).run t = (.ok (), s)) ∧
    (Covered items s.rows → ∃ t, (stockTransaction (lockAndDeductStockForCheckout items)).run s = (.ok (), t)) := by
  rcases deduct_cases items s with ⟨ran, checked⟩ | ⟨short, e, ran⟩
  · have back : (stockTransaction (lockAndRestock items)).run ⟨addStock items (-1) s.rows, s.journal⟩ = (.ok (), s) := by
      have whole : StockChecked items (addStock items 1 (addStock items (-1) s.rows)) := by
        rw [addStock_back]
        exact checked_of_valid valid
      rw [restock_of_checked whole, addStock_back]
    exact ⟨Or.inr ⟨_, ran, deducted_addStock items s.rows, noneNegative_deducted valid checked, back⟩, fun _ => ⟨_, ran⟩⟩
  · exact ⟨Or.inl ⟨e, ran⟩, fun covered => absurd covered short⟩

/-- A shirt in two colours and a mug. -/
def shelfProduct : Id → Option Product
  | 1 => some ⟨1, "Áo", 10000, none, 7, true, false, .active⟩
  | 2 => some ⟨1, "Cốc", 5000, none, 5, false, false, .active⟩
  | _ => none

def shelfVariant : Id → Option ProductVariant
  | 11 => some ⟨1, some "Đỏ", [], 0, 3⟩
  | 12 => some ⟨1, some "Xanh", [], 500, 4⟩
  | _ => none

def shelf : Db
  | .product p => shelfProduct p
  | .variant w => shelfVariant w
  | .variantsOf p => if p = 1 then some [11, 12] else none
  | _ => none

def mixedLines : List StockLine := [⟨1, some 11, 2⟩, ⟨2, none, 5⟩, ⟨1, some 12, 1⟩, ⟨1, none, 2⟩, ⟨1, some 11, 1⟩]

theorem shelf_valid : ValidStock shelf := by
  refine ⟨fun p product stands several => ?_, fun p product stands => ?_, fun w variant stands => ?_⟩
  · change shelfProduct p = some product at stands
    unfold shelfProduct at stands
    split at stands
    · cases stands; decide
    · cases stands; cases several
    · cases stands
  · change shelfProduct p = some product at stands
    unfold shelfProduct at stands
    split at stands <;> cases stands <;> decide
  · change shelfVariant w = some variant at stands
    unfold shelfVariant at stands
    split at stands <;> cases stands <;> decide

theorem shelf_covers : Covered mixedLines shelf := by
  refine ⟨fun it member => ?_, fun it member w chosen => ?_⟩
  · simp only [mixedLines, List.mem_cons, List.not_mem_nil, or_false] at member
    rcases member with rfl | rfl | rfl | rfl | rfl <;> exact ⟨_, rfl, by decide⟩
  · simp only [mixedLines, List.mem_cons, List.not_mem_nil, or_false] at member
    rcases member with rfl | rfl | rfl | rfl | rfl <;> cases chosen <;> exact ⟨_, rfl, by decide⟩

theorem mixed_lines_taken :
    ∃ t, (stockTransaction (lockAndDeductStockForCheckout mixedLines)).run ⟨shelf, []⟩ = (.ok (), t) :=
  (lines_taken_and_restored mixedLines ⟨shelf, []⟩ shelf_valid).2 shelf_covers

end Marketplace
