import Marketplace.Machine
import Marketplace.OffsetPaging
import Marketplace.Search.Store
import Mathlib.Data.PNat.Basic
import Mathlib.Data.String.Basic

/-! `reindexSearchIndex`: the pages it reads while products are created and deleted, and the events it queues. -/
namespace Marketplace.Search.Reindex
open OffsetPaging

/-- The columns of a product that a snapshot carries. -/
structure CatalogProduct where
  id : String
  name : String
  slug : String
  description : Option String
  price : Money
  shopId : Option String
  categoryId : Option String
  thumbnailUrl : Option String
  status : ProductStatus
  isHidden : Bool
  updatedAt : Time
deriving DecidableEq

def statusText : ProductStatus → String
  | .active => "active"
  | .deleted => "deleted"
  | .suspended => "suspended"

/-- `toFixed(2)` of an amount in hundredths. -/
def toFixed2 (amount : Money) : String :=
  let cents := amount.natAbs % 100
  (if amount < 0 then "-" else "") ++ toString (amount.natAbs / 100) ++ "." ++ toString (cents / 10) ++ toString (cents % 10)

def snapshot (product : CatalogProduct) : ProductDoc where
  productId := product.id
  name := product.name
  slug := product.slug
  description := product.description
  price := toFixed2 product.price
  shopId := product.shopId.getD ""
  categoryId := product.categoryId
  thumbnailUrl := product.thumbnailUrl
  status := statusText product.status
  isHidden := product.isHidden
  updatedAt := product.updatedAt

inductive CatalogEvent where
  | productCreated (payload : ProductDoc)
  | productUpdated (payload : ProductDoc)
  | productDeleted (productId : String)
deriving DecidableEq

inductive Writer where
  | seller
  | reindex
deriving DecidableEq

/-- Where the loop stands. A page takes two queries, since it joins relations: the ids, then their rows. -/
inductive Phase where
  | reading (skip queued : Nat)
  | loading (skip queued : Nat) (ids : List String)
  | emitting (skip queued : Nat) (products : List CatalogProduct)
  | done (queued : Nat)
  | failed
deriving DecidableEq

/-- The outbox keeps, for the specification, who wrote an event. -/
structure Catalog where
  products : List CatalogProduct
  outbox : List (Writer × CatalogEvent)
  phase : Phase

inductive Move where
  | create (product : CatalogProduct)
  | remove (id : String)
  /-- The next statement of the loop. -/
  | reindex
  | fail

def ids (products : List CatalogProduct) : List String := products.map (·.id)

/-- `status: Not(DELETED)`. -/
def undeleted (products : List CatalogProduct) : List CatalogProduct := products.filter (·.status ≠ .deleted)

def live (products : List CatalogProduct) : List String := ids (undeleted products)

def create (s : Catalog) (product : CatalogProduct) : Catalog :=
  if product.id ∈ ids s.products then s
  else
    let row := { product with status := .active }
    { s with products := s.products ++ [row], outbox := s.outbox ++ [(.seller, .productCreated (snapshot row))] }

/-- The row stays, marked as deleted. -/
def remove (s : Catalog) (id : String) : Catalog :=
  if id ∈ live s.products then
    { s with
      products := s.products.map fun row => if row.id = id then { row with status := .deleted, thumbnailUrl := none } else row
      outbox := s.outbox ++ [(.seller, .productDeleted id)] }
  else s

def pageRows (products : List CatalogProduct) (wanted : List String) : List CatalogProduct :=
  ((undeleted products).filter (·.id ∈ wanted)).insertionSort fun a b => a.id ≤ b.id

def reindexStep (pageSize : ℕ+) (s : Catalog) : Catalog :=
  match s.phase with
  | .reading skip queued =>
    match page (live s.products) skip pageSize with
    | [] => { s with phase := .done queued }
    | id :: more => { s with phase := .loading skip queued (id :: more) }
  | .loading skip queued wanted =>
    match pageRows s.products wanted with
    | [] => { s with phase := .done queued }
    | row :: more => { s with phase := .emitting skip queued (row :: more) }
  | .emitting skip queued rows =>
    { s with
      outbox := s.outbox ++ rows.map fun row => (.reindex, .productUpdated (snapshot row))
      phase := .reading (skip + pageSize) (queued + rows.length) }
  | .done _ => s
  | .failed => s

def fail (s : Catalog) : Catalog :=
  match s.phase with
  | .done _ => s
  | _ => { s with phase := .failed }

def act (pageSize : ℕ+) (s : Catalog) : Move → Catalog
  | .create product => create s product
  | .remove id => remove s id
  | .reindex => reindexStep pageSize s
  | .fail => fail s

/-- How many places the pages have passed, that of the ids last read included. -/
def Phase.passed (pageSize : ℕ+) : Phase → Nat
  | .reading skip _ => skip
  | .loading skip _ _ => skip + pageSize
  | .emitting skip _ _ => skip + pageSize
  | .done _ => 0
  | .failed => 0

/-- What the current page is still to queue. -/
def Phase.held : Phase → List String
  | .loading _ _ wanted => wanted
  | .emitting _ _ rows => ids rows
  | _ => []

/-- While the rows of a page are loaded, one of them other than `id` stands. -/
def LeavesOne (s : Catalog) (id : String) : Prop :=
  match s.phase with
  | .loading _ _ wanted => ∃ other ∈ wanted, other ≠ id ∧ other ∈ live s.products
  | _ => True

instance (s : Catalog) (id : String) : Decidable (LeavesOne s id) := by
  unfold LeavesOne
  split <;> infer_instance

/-- A product is deleted at a place the pages have not passed, and not the last of a page, or with no product behind
the places they have. -/
def DeletesBehind (pageSize : ℕ+) (s : Catalog) : Move → Prop
  | .remove id => id ∈ live s.products →
    s.phase.passed pageSize ≤ rank (live s.products) id ∧ LeavesOne s id ∨
      (live s.products).length ≤ s.phase.passed pageSize
  | _ => True

instance (pageSize : ℕ+) (s : Catalog) (m : Move) : Decidable (DeletesBehind pageSize s m) := by
  cases m <;> unfold DeletesBehind <;> infer_instance

/-- An upsert of the product is among the events, written by the run. -/
def Upserted (events : List (Writer × CatalogEvent)) (id : String) : Prop :=
  ∃ payload : ProductDoc, (.reindex, .productUpdated payload) ∈ events ∧ payload.productId = id

theorem Upserted.mono {events more : List (Writer × CatalogEvent)} {id : String} (upserted : Upserted events id)
    (grown : events ⊆ more) : Upserted more id := by
  obtain ⟨payload, member, own⟩ := upserted
  exact ⟨payload, grown member, own⟩

def Phase.isDone : Phase → Prop
  | .done _ => True
  | _ => False

def Phase.isLoading : Phase → Prop
  | .loading _ _ _ => True
  | _ => False

/-- Every product that stood when the run began and still does is queued or in the current page. -/
def Full (init s : Catalog) (written : List (Writer × CatalogEvent)) : Prop :=
  ∀ id ∈ live init.products, id ∈ live s.products → Upserted written id ∨ id ∈ s.phase.held

/-- Such a product is queued or in the current page as soon as its place is passed. -/
structure Covering (pageSize : ℕ+) (init s : Catalog) (written : List (Writer × CatalogEvent)) : Prop where
  outbox : s.outbox = init.outbox ++ written
  unique : (ids s.products).Nodup
  kept : ids init.products ⊆ ids s.products
  passed : ∀ id ∈ live init.products, id ∈ live s.products → rank (live s.products) id < s.phase.passed pageSize →
    Upserted written id ∨ id ∈ s.phase.held
  loading : s.phase.isLoading → Full init s written ∨ ∃ id ∈ s.phase.held, id ∈ live s.products
  ended : s.phase.isDone → ∀ id ∈ live init.products, id ∈ live s.products → Upserted written id

theorem live_subset (products : List CatalogProduct) : live products ⊆ ids products :=
  List.map_subset _ (List.filter_subset_self _)

theorem nodup_live {products : List CatalogProduct} (unique : (ids products).Nodup) : (live products).Nodup :=
  unique.sublist (List.filter_sublist.map _)

theorem ids_removed (products : List CatalogProduct) (id : String) : ids (products.map fun row =>
    if row.id = id then { row with status := .deleted, thumbnailUrl := none } else row) = ids products := by
  rw [ids, ids, List.map_map]
  refine List.map_congr_left fun row _ => ?_
  rw [Function.comp_apply]
  split <;> rfl

theorem live_removed (products : List CatalogProduct) (id : String) : live (products.map fun row =>
    if row.id = id then { row with status := .deleted, thumbnailUrl := none } else row) =
      (live products).filter (· ≠ id) := by
  induction products with
  | nil => rfl
  | cons row rest ih =>
    simp only [live, ids, undeleted] at ih
    by_cases own : row.id = id <;> by_cases gone : row.status = .deleted <;> simp_all [live, ids, undeleted]

theorem live_created (products : List CatalogProduct) (row : CatalogProduct) :
    live (products ++ [{ row with status := .active }]) = live products ++ [row.id] := by
  simp [live, ids, undeleted]

theorem mem_pageRows {products : List CatalogProduct} {wanted : List String} {id : String} :
    id ∈ ids (pageRows products wanted) ↔ id ∈ live products ∧ id ∈ wanted := by
  simp only [ids, pageRows, live, List.mem_map, List.mem_insertionSort, List.mem_filter, decide_eq_true_eq]
  constructor
  · rintro ⟨row, ⟨inside, asked⟩, rfl⟩
    exact ⟨⟨row, inside, rfl⟩, asked⟩
  · rintro ⟨⟨row, inside, rfl⟩, asked⟩
    exact ⟨row, ⟨inside, asked⟩, rfl⟩

section
variable {pageSize : ℕ+} {init s : Catalog} {written : List (Writer × CatalogEvent)}

theorem Covering.created (covering : Covering pageSize init s written) (product : CatalogProduct) :
    ∃ more, Covering pageSize init (create s product) more := by
  unfold create
  split
  · exact ⟨written, covering⟩
  · rename_i fresh
    have grown : ∀ id, rank (live s.products) id ≤ rank (live (s.products ++ [{ product with status := .active }])) id := by
      intro id
      rw [live_created]
      exact rank_append _
    have old : ∀ id ∈ live init.products, id ∈ live (s.products ++ [{ product with status := .active }]) →
        id ∈ live s.products := by
      intro id before member
      rw [live_created] at member
      rcases List.mem_append.mp member with early | new
      · exact early
      · rw [List.mem_singleton.mp new] at before
        exact absurd (covering.kept (live_subset _ before)) fresh
    refine ⟨written ++ [(.seller, .productCreated (snapshot { product with status := .active }))], ?_, ?_, ?_, ?_, ?_, ?_⟩
    · rw [← List.append_assoc, ← covering.outbox]
    · rw [ids, List.map_append, List.nodup_append]
      refine ⟨covering.unique, List.nodup_singleton _, fun a early b new same => ?_⟩
      have own : a = product.id := same.trans (List.mem_singleton.mp new)
      exact fresh (own ▸ early)
    · intro id member
      rw [ids, List.map_append]
      exact List.mem_append_left _ (covering.kept member)
    · intro id before still place
      have place := lt_of_le_of_lt (grown id) place
      rcases covering.passed id before (old id before still) place with queued | held
      · exact Or.inl (queued.mono (List.subset_append_left _ _))
      · exact Or.inr held
    · intro loading
      rcases covering.loading loading with full | ⟨id, held, stands⟩
      · refine Or.inl fun id before still => ?_
        rcases full id before (old id before still) with queued | held
        · exact Or.inl (queued.mono (List.subset_append_left _ _))
        · exact Or.inr held
      · refine Or.inr ⟨id, held, ?_⟩
        rw [live_created]
        exact List.mem_append_left _ stands
    · intro done id before still
      exact (covering.ended done id before (old id before still)).mono (List.subset_append_left _ _)

theorem Covering.removed (covering : Covering pageSize init s written) {id : String}
    (behind : DeletesBehind pageSize s (.remove id)) : ∃ more, Covering pageSize init (remove s id) more := by
  unfold remove
  split
  · rename_i stood
    have unique := nodup_live covering.unique
    have more : ∀ x, Upserted written x ∨ x ∈ s.phase.held →
        Upserted (written ++ [(.seller, .productDeleted id)]) x ∨ x ∈ s.phase.held := by
      rintro x (queued | held)
      · exact Or.inl (queued.mono (List.subset_append_left _ _))
      · exact Or.inr held
    have still : ∀ x, x ∈ (live s.products).filter (· ≠ id) → x ∈ live s.products := fun x member =>
      (List.mem_filter.mp member).1
    refine ⟨written ++ [(.seller, .productDeleted id)], ?_, ?_, ?_, ?_, ?_, ?_⟩
    · rw [← List.append_assoc, ← covering.outbox]
    · rw [ids_removed]
      exact covering.unique
    · rw [ids_removed]
      exact covering.kept
    · intro x before left place
      rw [live_removed] at left place
      have places : id ∈ live s.products → s.phase.passed pageSize ≤ rank (live s.products) id ∨
          (live s.products).length ≤ s.phase.passed pageSize := fun inside => (behind inside).imp And.left fun all => all
      exact more x (covering.passed x before (still x left) (rank_lt_of_filter unique (still x left) places place))
    · intro loading
      simp only [Full, live_removed]
      rcases behind stood with ⟨_, leaves⟩ | all
      · rcases covering.loading loading with full | _
        · exact Or.inl fun x before left => more x (full x before (still x left))
        · refine Or.inr ?_
          cases phase : s.phase with
          | loading skip queued wanted =>
            simp only [LeavesOne, phase] at leaves
            obtain ⟨other, asked, different, stands⟩ := leaves
            exact ⟨other, asked, List.mem_filter.mpr ⟨stands, decide_eq_true different⟩⟩
          | _ => simp [phase, Phase.isLoading] at loading
      · refine Or.inl fun x before left => more x ?_
        exact covering.passed x before (still x left) (lt_of_lt_of_le (rank_lt_length (still x left)) all)
    · intro done x before left
      rw [live_removed] at left
      exact (covering.ended done x before (still x left)).mono (List.subset_append_left _ _)
  · exact ⟨written, covering⟩

theorem Covering.reindexed (covering : Covering pageSize init s written) :
    ∃ more, Covering pageSize init (reindexStep pageSize s) more := by
  obtain ⟨outbox, unique, kept, passed, loading, ended⟩ := covering
  unfold reindexStep
  split
  · -- the ids of the next page
    rename_i skip queued phase
    simp only [phase, Phase.passed, Phase.held, List.not_mem_nil, or_false] at passed
    split
    · rename_i empty
      refine ⟨written, outbox, unique, kept, fun id _ _ place => (Nat.not_lt_zero _ place).elim, (by rintro ⟨⟩), fun _ id before still => ?_⟩
      exact passed id before still (rank_lt_of_page_nil pageSize.pos empty still)
    · rename_i first more read
      refine ⟨written, outbox, unique, kept, fun id before still place => ?_, fun _ => Or.inr ⟨first, List.mem_cons_self, ?_⟩, (by rintro ⟨⟩)⟩
      · by_cases earlier : rank (live s.products) id < skip
        · exact Or.inl (passed id before still earlier)
        · refine Or.inr ?_
          change id ∈ first :: more
          rw [← read, mem_page (nodup_live unique)]
          exact ⟨still, not_lt.mp earlier, place⟩
      · exact page_subset (read ▸ List.mem_cons_self)
  · -- their rows
    rename_i skip queued wanted phase
    simp only [phase, Phase.passed, Phase.held, Phase.isLoading, Full, true_implies] at passed loading
    have row : ∀ id, id ∈ live s.products → id ∈ wanted → id ∈ ids (pageRows s.products wanted) := fun id still asked =>
      mem_pageRows.mpr ⟨still, asked⟩
    split
    · rename_i empty
      rw [empty] at row
      refine ⟨written, outbox, unique, kept, fun id _ _ place => (Nat.not_lt_zero _ place).elim, (by rintro ⟨⟩), fun _ id before still => ?_⟩
      rcases loading with full | ⟨other, asked, stands⟩
      · exact (full id before still).resolve_right fun held => absurd (row id still held) List.not_mem_nil
      · exact absurd (row other stands asked) List.not_mem_nil
    · rename_i first more read
      refine ⟨written, outbox, unique, kept, fun id before still place => ?_, (by rintro ⟨⟩), (by rintro ⟨⟩)⟩
      exact (passed id before still place).imp_right fun held => by
        change id ∈ ids (first :: more)
        exact read ▸ row id still held
  · -- their events
    rename_i skip queued rows phase
    simp only [phase, Phase.passed, Phase.held] at passed
    refine ⟨written ++ rows.map fun row => (.reindex, .productUpdated (snapshot row)), ?_, unique, kept, ?_, (by rintro ⟨⟩), (by rintro ⟨⟩)⟩
    · rw [← List.append_assoc, ← outbox]
    · intro id before still place
      refine Or.inl ?_
      rcases passed id before still place with queued | held
      · exact queued.mono (List.subset_append_left _ _)
      · obtain ⟨row, inside, rfl⟩ := List.mem_map.mp held
        exact ⟨snapshot row, List.mem_append_right _ (List.mem_map.mpr ⟨row, inside, rfl⟩), rfl⟩
  · exact ⟨written, outbox, unique, kept, passed, loading, ended⟩
  · exact ⟨written, outbox, unique, kept, passed, loading, ended⟩

theorem Covering.failed (covering : Covering pageSize init s written) : Covering pageSize init (fail s) written := by
  unfold fail
  split
  · exact covering
  · exact ⟨covering.outbox, covering.unique, covering.kept, fun _ _ _ place => (Nat.not_lt_zero _ place).elim, nofun, nofun⟩

end

/-- The loop at its first page. -/
structure Starting (init : Catalog) : Prop where
  unique : (ids init.products).Nodup
  phase : init.phase = .reading 0 0

theorem Starting.covering {pageSize : ℕ+} {init : Catalog} (starting : Starting init) : Covering pageSize init init [] :=
  ⟨by simp, starting.unique, List.Subset.refl _, fun id _ _ place => by simp [starting.phase, Phase.passed] at place,
    by simp [starting.phase, Phase.isLoading], by simp [starting.phase, Phase.isDone]⟩

/-- When the run has ended, each product that stood from its start to its end has an upsert of the run's in the outbox. -/
theorem reindex_complete {pageSize : ℕ+} {init s : Catalog} (starting : Starting init)
    (reached : Machine.Reached (act pageSize) (DeletesBehind pageSize) init s) {queued : Nat} (ended : s.phase = .done queued) :
    ∃ written, s.outbox = init.outbox ++ written ∧
      ∀ id ∈ live init.products, id ∈ live s.products → Upserted written id := by
  have covered : ∃ written, Covering pageSize init s written := by
    refine reached.invariant (P := fun s => ∃ written, Covering pageSize init s written) ⟨[], starting.covering⟩ ?_
    rintro t m ⟨written, covering⟩ allowed
    cases m with
    | create product => exact covering.created product
    | remove id => exact covering.removed allowed
    | reindex => exact covering.reindexed
    | fail => exact ⟨written, covering.failed⟩
  obtain ⟨written, covering⟩ := covered
  exact ⟨written, covering.outbox, covering.ended (by rw [ended]; trivial)⟩

def plain (id : String) : CatalogProduct := ⟨id, "", "", none, 100000, some "7", none, none, .active, false, 0⟩

/-- Two products, and a third after the first page: the deletion comes behind the places passed. -/
def catalog : Catalog := ⟨[plain "a", plain "c"], [], .reading 0 0⟩

def deletionBehind : List Move :=
  [.reindex, .reindex, .reindex, .create (plain "d"), .remove "d", .reindex, .reindex, .reindex, .reindex]

def deletionBefore : List Move := [.reindex, .reindex, .reindex, .remove "a", .reindex]

theorem catalog_starting : Starting catalog := ⟨by decide, rfl⟩

theorem catalog_reindexed : ∃ written, (Machine.run (act 1) catalog deletionBehind).outbox = catalog.outbox ++ written ∧
    ∀ id ∈ live catalog.products, id ∈ live (Machine.run (act 1) catalog deletionBehind).products → Upserted written id :=
  reindex_complete catalog_starting (Machine.Reached.start.run (by decide +kernel))
    (show (Machine.run (act 1) catalog deletionBehind).phase = .done 2 by decide +kernel)

/-- The first product goes after its page: the second one moves into the page read already. -/
theorem not_reindex_complete : ¬ ∀ (pageSize : ℕ+) (init s : Catalog) (queued : Nat), Starting init →
    Machine.Reached (act pageSize) (fun _ _ => True) init s → s.phase = .done queued →
    ∃ written, s.outbox = init.outbox ++ written ∧
      ∀ id ∈ live init.products, id ∈ live s.products → Upserted written id := by
  intro claimed
  obtain ⟨written, outbox, upserted⟩ := claimed 1 catalog (Machine.run (act 1) catalog deletionBefore) 1 catalog_starting
    (Machine.Reached.start.run (Machine.canRun_free _)) (by decide +kernel)
  obtain ⟨payload, member, own⟩ := upserted "c" (by decide) (by decide +kernel)
  rw [show catalog.outbox = [] from rfl, List.nil_append] at outbox
  subst outbox
  have only : ∀ e ∈ (Machine.run (act 1) catalog deletionBefore).outbox, e = (.reindex, .productUpdated (snapshot (plain "a"))) ∨
      e = (.seller, .productDeleted "a") := by decide +kernel
  rcases only _ member with same | same
  · cases same
    simp [snapshot, plain] at own
  · cases same

end Marketplace.Search.Reindex
