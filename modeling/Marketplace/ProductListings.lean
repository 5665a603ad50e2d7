import Marketplace.Schema
import Marketplace.TiedPages
import Mathlib.Algebra.Order.Ring.Unbundled.Rat
import Mathlib.Data.List.Nodup
import Mathlib.Data.String.Basic

/-! The product listings of `ProductsService`, page by page, over a table that does not change. -/
namespace Marketplace.ProductListings
open TiedPages

structure ProductVariant where
  sku : Option String
  additionalPrice : ℚ
deriving DecidableEq

structure ShopRow where
  id : Id
  status : AccountStatus
deriving DecidableEq

structure Product where
  id : Id
  shop : Option ShopRow
  category : Option Id
  name : String
  sku : Option String
  description : Option String
  price : ℚ
  stockQuantity : Nat
  hasVariants : Bool
  isHidden : Bool
  isFeatured : Bool
  status : ProductStatus
  avgRating : ℚ
  createdAt : Time
  variants : List ProductVariant
deriving DecidableEq

/-- The generated column `is_out_of_stock`. -/
def Product.isOutOfStock (product : Product) : Bool := product.stockQuantity = 0

structure Category where
  id : Id
  parent : Option Id

structure Tables where
  products : List Product
  categories : List Category
  primary_key : (products.map Product.id).Nodup

inductive Direction where
  | asc | desc
deriving DecidableEq

/-- The columns that the listings sort by, and the primary key. -/
inductive SortField where
  | id | price | createdAt | name | avgRating | isFeatured | stockQuantity | isOutOfStock
deriving DecidableEq

abbrev OrderBy := List (SortField × Direction)

structure PaginationQueryDto where
  page : Option Nat
  limit : Option Nat
  sort : Option String
  order : Option Direction

structure GetProductsQueryDto extends PaginationQueryDto where
  q : Option String
  categoryId : Option Id
  minPrice : Option ℚ
  maxPrice : Option ℚ
  rating : Option ℚ

structure GetSellerProductsQueryDto extends PaginationQueryDto where
  q : Option String
  isHidden : Option Bool
  stockStatus : Option String

structure AdminProductQueryDto extends PaginationQueryDto where
  q : Option String
  status : Option ProductStatus
  shopId : Option Id

def PaginationQueryDto.atPage (query : PaginationQueryDto) (n : Nat) : PaginationQueryDto := { query with page := some n }

def GetProductsQueryDto.atPage (query : GetProductsQueryDto) (n : Nat) : GetProductsQueryDto :=
  { query with page := some n }

def GetSellerProductsQueryDto.atPage (query : GetSellerProductsQueryDto) (n : Nat) : GetSellerProductsQueryDto :=
  { query with page := some n }

def AdminProductQueryDto.atPage (query : AdminProductQueryDto) (n : Nat) : AdminProductQueryDto :=
  { query with page := some n }

structure Meta where
  page : Nat
  limit : Nat
  totalItems : Nat
  totalPages : Nat

structure PaginatedResponse where
  items : List Product
  info : Meta

structure SearchQueryParams where
  q : String
  minPrice : Option ℚ
  maxPrice : Option ℚ
  shopId : Option Id
  categoryIds : Option (List Id)

/-- What the service runs with: the collation of the names and `ILIKE` of its database, and the
search-service, whose answer to one search (the ids it ranks, or `none` for no answer) does not
change from page to page. -/
structure Site where
  nameLe : String → String → Bool
  nameOrdered : TotalPreorder nameLe
  ilike : String → String → Bool
  isEnabled : Bool
  fetchCandidates : SearchQueryParams → Option (List Id)

variable {site : Site}

def Site.fieldLe (site : Site) : SortField → Product → Product → Bool
  | .id => fun a b => a.id ≤ b.id
  | .price => fun a b => a.price ≤ b.price
  | .createdAt => fun a b => a.createdAt ≤ b.createdAt
  | .name => fun a b => site.nameLe a.name b.name
  | .avgRating => fun a b => a.avgRating ≤ b.avgRating
  | .isFeatured => fun a b => a.isFeatured ≤ b.isFeatured
  | .stockQuantity => fun a b => a.stockQuantity ≤ b.stockQuantity
  | .isOutOfStock => fun a b => a.isOutOfStock ≤ b.isOutOfStock

def Site.keyLe (site : Site) : SortField × Direction → Product → Product → Bool
  | (field, .asc) => site.fieldLe field
  | (field, .desc) => fun a b => site.fieldLe field b a

def Site.orderLe (site : Site) (order : OrderBy) : Product → Product → Bool :=
  order.foldr (fun key next => thenBy (site.keyLe key) next) fun _ _ => true

/-- The database, as it answers during one request. Rows with equal keys come in any order. A
paged query over joined tables is TypeORM's: it selects the distinct ids, sorted by the given keys
and then by the primary key, cuts these, and loads the products that are left. -/
structure Database (site : Site) where
  getMany : OrderBy → List Product → List Product
  getMany_answer : ∀ order rows, IsAnswer (site.orderLe order) rows (getMany order rows)
  getManyAndCount : OrderBy → List Product → (skip take : Nat) → List Product × Nat
  getManyAndCount_page : ∀ order rows skip take, (rows.map Product.id).Nodup →
    ∃ answer, IsAnswer (site.orderLe (order ++ [(.id, .asc)])) rows answer ∧
      (getManyAndCount order rows skip take).1.Perm ((answer.drop skip).take take)
  getManyAndCount_total : ∀ order rows skip take, (rows.map Product.id).Nodup →
    (getManyAndCount order rows skip take).2 = rows.length

namespace PAGINATION_LIMITS

def DEFAULT_PAGE : Nat := 1
def DEFAULT_LIMIT : Nat := 10

end PAGINATION_LIMITS

/-- `value || fallback` -/
def orDefault (value : Option Nat) (fallback : Nat) : Nat :=
  match value with
  | some (n + 1) => n + 1
  | _ => fallback

def PaginationQueryDto.pageNumber (query : PaginationQueryDto) : Nat :=
  orDefault query.page PAGINATION_LIMITS.DEFAULT_PAGE

def PaginationQueryDto.pageSize (query : PaginationQueryDto) : Nat :=
  orDefault query.limit PAGINATION_LIMITS.DEFAULT_LIMIT

/-- `order = 'DESC'` -/
def PaginationQueryDto.direction (query : PaginationQueryDto) : Direction := query.order.getD .desc

def paginate (db : Database site) (order : OrderBy) (rows : List Product) (query : PaginationQueryDto) :
    PaginatedResponse :=
  let page := query.pageNumber
  let limit := query.pageSize
  let skip := (page - 1) * limit
  let found := db.getManyAndCount order rows skip limit
  ⟨found.1, page, limit, found.2, pageCount found.2 limit⟩

/-- The white space that `trim` takes off. -/
def isWhiteSpace (c : Char) : Bool :=
  (9 ≤ c.toNat ∧ c.toNat ≤ 13) ∨ (0x2000 ≤ c.toNat ∧ c.toNat ≤ 0x200A) ∨
    c.toNat ∈ [0x20, 0xA0, 0x1680, 0x2028, 0x2029, 0x202F, 0x205F, 0x3000, 0xFEFF]

def trim (text : String) : String :=
  String.ofList ((text.toList.dropWhile isWhiteSpace).reverse.dropWhile isWhiteSpace).reverse

def normalizePriceRange (min max : Option ℚ) : Option ℚ × Option ℚ :=
  match min, max with
  | some low, some high => if low > high then (max, min) else (min, max)
  | _, _ => (min, max)

def resolveCategoryIds (tables : Tables) (categoryId : Id) : List Id :=
  match tables.categories.find? (·.id = categoryId) with
  | some category => category.id :: (tables.categories.filter (·.parent = some category.id)).map Category.id
  | none => [categoryId]

def within (min max : Option ℚ) (price : ℚ) : Bool := min.all (· ≤ price) && max.all (price ≤ ·)

def applyPriceFilter (min max : Option ℚ) (product : Product) : Bool :=
  if min = none ∧ max = none then true
  else (!product.hasVariants && within min max product.price) ||
    (product.hasVariants && product.variants.any fun v => within min max (product.price + v.additionalPrice))

/-- Active, not hidden, and of an active shop. -/
def Product.isPublic (product : Product) : Bool :=
  product.status = .active && !product.isHidden && product.shop.any (·.status = .active)

def Product.inShop (product : Product) (shopId : Id) : Bool := product.shop.any (·.id = shopId)

/-- `if (query.rating)` -/
def ratingMatches (query : GetProductsQueryDto) (product : Product) : Bool :=
  query.rating.all fun rating => rating = 0 || rating ≤ product.avgRating

/-- The conditions of `findAllViaDatabase` and, with a shop, of `getShopCatalogViaDatabase`. -/
def Site.databaseMatches (site : Site) (tables : Tables) (shopId : Option Id) (query : GetProductsQueryDto)
    (product : Product) : Bool :=
  let range := normalizePriceRange query.minPrice query.maxPrice
  shopId.all product.inShop && product.isPublic &&
    query.categoryId.all (fun id => product.category.any (· ∈ resolveCategoryIds tables id)) &&
    query.q.all (fun q => q = "" || site.ilike product.name ("%" ++ q ++ "%") ||
      product.description.any (site.ilike · ("%" ++ q ++ "%"))) &&
    applyPriceFilter range.1 range.2 product && ratingMatches query product

/-- The conditions of the second stage of a search. -/
def searchMatches (candidates : List Id) (shopId : Option Id) (query : GetProductsQueryDto) (product : Product) :
    Bool :=
  decide (product.id ∈ candidates) && shopId.all product.inShop && product.isPublic && ratingMatches query product

def allowedSortFields : List (String × SortField) :=
  [("price", .price), ("created_at", .createdAt), ("name", .name), ("avg_rating", .avgRating),
    ("is_featured", .isFeatured)]

def inventorySortFields : List (String × SortField) :=
  [("price", .price), ("created_at", .createdAt), ("name", .name), ("stock_quantity", .stockQuantity)]

def PaginationQueryDto.allowedSort (query : PaginationQueryDto) (fields : List (String × SortField)) :
    Option SortField :=
  query.sort.bind fun name => fields.lookup name

/-- `find` by the ids of the page, in the order of these ids. -/
def hydrateProductPage (tables : Tables) (result : PaginatedResponse) : PaginatedResponse :=
  if result.items.length = 0 then result
  else
    let productIds := result.items.map Product.id
    let detailedItems := tables.products.filter (·.id ∈ productIds)
    { result with items := productIds.filterMap fun id => detailedItems.find? (·.id = id) }

def findAllViaDatabase (db : Database site) (tables : Tables) (query : GetProductsQueryDto) : PaginatedResponse :=
  let sortField := (query.allowedSort allowedSortFields).getD .createdAt
  let rows := tables.products.filter (site.databaseMatches tables none query)
  hydrateProductPage tables
    (paginate db [(.isOutOfStock, .asc), (sortField, query.direction)] rows query.toPaginationQueryDto)

def getShopCatalogViaDatabase (db : Database site) (tables : Tables) (shopId : Id) (query : GetProductsQueryDto) :
    PaginatedResponse :=
  let sortField := (query.allowedSort allowedSortFields).getD .createdAt
  let rows := tables.products.filter (site.databaseMatches tables (some shopId) query)
  hydrateProductPage tables (paginate db [(sortField, query.direction)] rows query.toPaginationQueryDto)

/-- A later place of an id overwrites an earlier one. -/
def rankPosition (candidates : List Id) (id : Id) : Option Nat := candidates.zipIdx.reverse.lookup id

def MAX_SAFE_INTEGER : Nat := 2 ^ 53 - 1

def rankCompare (candidates : List Id) (a b : Product) : Int :=
  if a.isOutOfStock ≠ b.isOutOfStock then
    if a.isOutOfStock then 1 else -1
  else
    let ra := (rankPosition candidates a.id).getD MAX_SAFE_INTEGER
    let rb := (rankPosition candidates b.id).getD MAX_SAFE_INTEGER
    ra - rb

/-- `useCustomSort` -/
def customSort (query : GetProductsQueryDto) : Option OrderBy :=
  (query.allowedSort allowedSortFields).map fun field => [(.isOutOfStock, .asc), (field, query.direction)]

/-- The page of all the rows that a request has sorted. -/
def slicePage (ordered : List Product) (query : PaginationQueryDto) : PaginatedResponse :=
  let page := query.pageNumber
  let limit := query.pageSize
  let totalItems := ordered.length
  let start := (page - 1) * limit
  ⟨(ordered.drop start).take limit, page, limit, totalItems, pageCount totalItems limit⟩

def rankSortPaginateHydrate (db : Database site) (tables : Tables) (rows : List Product) (candidates : List Id)
    (query : GetProductsQueryDto) : PaginatedResponse :=
  let ordered := match customSort query with
    | some order => db.getMany order rows
    | none => (db.getMany [] rows).mergeSort fun a b => rankCompare candidates a b ≤ 0
  hydrateProductPage tables (slicePage ordered query.toPaginationQueryDto)

def emptyPage (query : GetProductsQueryDto) : PaginatedResponse := ⟨[], query.pageNumber, query.pageSize, 0, 0⟩

def searchParams (tables : Tables) (shopId : Option Id) (query : GetProductsQueryDto) : SearchQueryParams :=
  let range := normalizePriceRange query.minPrice query.maxPrice
  ⟨trim (query.q.getD ""), range.1, range.2, shopId, query.categoryId.map (resolveCategoryIds tables)⟩

/-- `findAllViaSearchService` and, with a shop, `findShopCatalogViaSearchService`; `none` falls back. -/
def viaSearchService (db : Database site) (tables : Tables) (shopId : Option Id) (query : GetProductsQueryDto) :
    Option PaginatedResponse :=
  match site.fetchCandidates (searchParams tables shopId query) with
  | none => none
  | some [] => some (emptyPage query)
  | some (first :: others) =>
    let rows := tables.products.filter (searchMatches (first :: others) shopId query)
    some (rankSortPaginateHydrate db tables rows (first :: others) query)

def hasKeyword (query : GetProductsQueryDto) : Bool := query.q.any fun q => q ≠ "" && (trim q).length > 0

def findAll (db : Database site) (tables : Tables) (query : GetProductsQueryDto) : PaginatedResponse :=
  if site.isEnabled && hasKeyword query then
    (viaSearchService db tables none query).getD (findAllViaDatabase db tables query)
  else findAllViaDatabase db tables query

/-- The shop has been found, and is active. -/
def getPublicCatalogByShop (db : Database site) (tables : Tables) (shopId : Id) (query : GetProductsQueryDto) :
    PaginatedResponse :=
  if site.isEnabled && hasKeyword query then
    (viaSearchService db tables (some shopId) query).getD (getShopCatalogViaDatabase db tables shopId query)
  else getShopCatalogViaDatabase db tables shopId query

def Site.inventoryMatches (site : Site) (shopId : Id) (query : GetSellerProductsQueryDto) (product : Product) : Bool :=
  product.inShop shopId && product.status ≠ .deleted && query.isHidden.all (product.isHidden = ·) &&
    (if query.stockStatus = some "in_stock" then product.stockQuantity > 0
      else if query.stockStatus = some "out_of_stock" then product.stockQuantity = 0 else true) &&
    query.q.all (fun q => q = "" || site.ilike product.name ("%" ++ q ++ "%") ||
      product.sku.any (site.ilike · ("%" ++ q ++ "%")) ||
      product.variants.any fun v => v.sku.any (site.ilike · ("%" ++ q ++ "%")))

/-- The shop is the one of the seller. -/
def getSellerInventory (db : Database site) (tables : Tables) (shopId : Id) (query : GetSellerProductsQueryDto) :
    PaginatedResponse :=
  let sortField := (query.allowedSort inventorySortFields).getD .createdAt
  let rows := tables.products.filter (site.inventoryMatches shopId query)
  hydrateProductPage tables (paginate db [(sortField, query.direction)] rows query.toPaginationQueryDto)

def Site.adminMatches (site : Site) (query : AdminProductQueryDto) (product : Product) : Bool :=
  (match query.status with
    | some status => product.status = status
    | none => product.status ≠ .deleted) &&
    query.shopId.all product.inShop && query.q.all fun q => q = "" || site.ilike product.name ("%" ++ q ++ "%")

def findAllForAdmin (db : Database site) (tables : Tables) (query : AdminProductQueryDto) : PaginatedResponse :=
  paginate db [(.createdAt, .desc)] (tables.products.filter (site.adminMatches query)) query.toPaginationQueryDto

/-! ### What the sorts leave tied -/

theorem fieldLe_ordered (site : Site) (field : SortField) : TotalPreorder (site.fieldLe field) := by
  cases field with
  | id => exact (TotalPreorder.ofLinear Nat).onKey Product.id
  | price => exact (TotalPreorder.ofLinear ℚ).onKey Product.price
  | createdAt => exact (TotalPreorder.ofLinear Nat).onKey Product.createdAt
  | name => exact site.nameOrdered.onKey Product.name
  | avgRating => exact (TotalPreorder.ofLinear ℚ).onKey Product.avgRating
  | isFeatured => exact (TotalPreorder.ofLinear Bool).onKey Product.isFeatured
  | stockQuantity => exact (TotalPreorder.ofLinear Nat).onKey Product.stockQuantity
  | isOutOfStock => exact (TotalPreorder.ofLinear Bool).onKey Product.isOutOfStock

theorem keyLe_ordered (site : Site) (key : SortField × Direction) : TotalPreorder (site.keyLe key) := by
  obtain ⟨field, direction⟩ := key
  cases direction with
  | asc => exact fieldLe_ordered site field
  | desc => exact (fieldLe_ordered site field).flip

theorem orderLe_ordered (site : Site) (order : OrderBy) : TotalPreorder (site.orderLe order) := by
  induction order with
  | nil => exact ⟨fun _ _ => .inl rfl, fun _ _ _ _ _ => rfl⟩
  | cons key order ih => exact (keyLe_ordered site key).thenBy ih

/-- With the primary key as the last key, products that tie are one product. -/
theorem id_of_tie (order : OrderBy) {a b : Product} (up : site.orderLe (order ++ [(.id, .asc)]) a b = true)
    (down : site.orderLe (order ++ [(.id, .asc)]) b a = true) : a.id = b.id := by
  induction order with
  | nil =>
    have forth : a.id ≤ b.id := of_decide_eq_true (Bool.and_eq_true_iff.mp up).1
    have back : b.id ≤ a.id := of_decide_eq_true (Bool.and_eq_true_iff.mp down).1
    exact Nat.le_antisymm forth back
  | cons key order ih => exact ih (tie_of_thenBy up down) (tie_of_thenBy down up)

theorem candidate_of_rank {candidates : List Id} {id : Id} {n : Nat} (found : rankPosition candidates id = some n) :
    candidates[n]? = some id := by
  obtain ⟨before, after, split, _⟩ := List.lookup_eq_some_iff.mp found
  have mem : (id, n) ∈ candidates.zipIdx.reverse := by
    rw [split]
    exact List.mem_append_right _ List.mem_cons_self
  exact List.mem_zipIdx_iff_getElem?.mp (List.mem_reverse.mp mem)

theorem rank_of_candidate {candidates : List Id} {id : Id} (mem : id ∈ candidates) :
    ∃ n, rankPosition candidates id = some n := by
  refine Option.isSome_iff_exists.mp (List.lookup_isSome_iff.mpr ?_)
  obtain ⟨n, inside, same⟩ := List.mem_iff_getElem.mp mem
  refine ⟨(id, n), List.mem_reverse.mpr (List.mem_zipIdx_iff_getElem?.mpr ?_), beq_self_eq_true id⟩
  rw [List.getElem?_eq_getElem inside, same]

def rankLe (candidates : List Id) (a b : Product) : Bool := rankCompare candidates a b ≤ 0

theorem rankLe_eq (candidates : List Id) : rankLe candidates =
    thenBy (fun a b => decide (a.isOutOfStock ≤ b.isOutOfStock)) fun a b => decide
      ((rankPosition candidates a.id).getD MAX_SAFE_INTEGER ≤ (rankPosition candidates b.id).getD MAX_SAFE_INTEGER) := by
  funext a b
  unfold rankLe rankCompare thenBy
  beta_reduce
  generalize a.isOutOfStock = soldOutA
  generalize b.isOutOfStock = soldOutB
  cases soldOutA <;> cases soldOutB <;> simp

theorem rankLe_ordered (candidates : List Id) : TotalPreorder (rankLe candidates) := by
  rw [rankLe_eq]
  exact ((TotalPreorder.ofLinear Bool).onKey Product.isOutOfStock).thenBy
    ((TotalPreorder.ofLinear Nat).onKey fun product : Product => (rankPosition candidates product.id).getD MAX_SAFE_INTEGER)

theorem id_of_rank_tie {candidates : List Id} {a b : Product} (first : a.id ∈ candidates) (second : b.id ∈ candidates)
    (up : rankLe candidates a b = true) (down : rankLe candidates b a = true) : a.id = b.id := by
  rw [rankLe_eq] at up down
  have forth := of_decide_eq_true (tie_of_thenBy up down)
  have back := of_decide_eq_true (tie_of_thenBy down up)
  obtain ⟨n, rankA⟩ := rank_of_candidate first
  obtain ⟨m, rankB⟩ := rank_of_candidate second
  rw [rankA, rankB, Option.getD_some, Option.getD_some] at forth back
  have same := Nat.le_antisymm forth back
  subst same
  exact Option.some.inj ((candidate_of_rank rankA).symm.trans (candidate_of_rank rankB))

/-! ### What a page holds -/

variable {tables : Tables}

theorem eq_of_id {a b : Product} (first : a ∈ tables.products) (second : b ∈ tables.products) (same : a.id = b.id) :
    a = b :=
  List.inj_on_of_nodup_map tables.primary_key first second same

theorem products_nodup (tables : Tables) : tables.products.Nodup := .of_map _ tables.primary_key

/-- Over a table that has not changed, the products are found again. -/
theorem hydrateProductPage_eq {result : PaginatedResponse} (known : ∀ product ∈ result.items, product ∈ tables.products) :
    hydrateProductPage tables result = result := by
  have found : ∀ product ∈ result.items,
      (tables.products.filter fun other => other.id ∈ result.items.map Product.id).find? (·.id = product.id) =
        some product := by
    intro product mem
    have there : product ∈ tables.products.filter fun other => other.id ∈ result.items.map Product.id :=
      List.mem_filter.mpr ⟨known product mem, decide_eq_true (List.mem_map_of_mem mem)⟩
    obtain ⟨other, same⟩ := Option.isSome_iff_exists.mp
      (List.find?_isSome (p := (·.id = product.id)) |>.mpr ⟨product, there, decide_eq_true rfl⟩)
    have kept := (List.mem_filter.mp (List.mem_of_find?_eq_some same)).1
    have itself := List.find?_some same
    rw [decide_eq_true_eq] at itself
    rw [same, eq_of_id kept (known product mem) itself]
  unfold hydrateProductPage
  split
  · rfl
  · dsimp only
    rw [List.filterMap_map]
    exact congrArg (PaginatedResponse.mk · result.info) ((List.filterMap_congr found).trans List.filterMap_some)

theorem orDefault_pos {value : Option Nat} {fallback : Nat} (positive : 0 < fallback) : 0 < orDefault value fallback := by
  unfold orDefault
  split
  · exact Nat.succ_pos _
  · exact positive

theorem pageSize_pos (query : PaginationQueryDto) : 0 < query.pageSize := orDefault_pos (by decide)

/-- Page `n` of a listing is cut from some answer, sorted by `le`. -/
structure CutFrom (le : Product → Product → Bool) (rows : List Product) (limit : Nat)
    (page : Database site → Nat → PaginatedResponse) : Prop where
  pages : ∀ db n, (page db (n + 1)).info.totalPages = pageCount rows.length limit
  items : ∀ db n, ∃ answer, IsAnswer le rows answer ∧ (page db (n + 1)).items.Perm (slice answer limit n)

/-- The pages from the first to `totalPages`, each answered by the database in its own way, hold
each of the rows once. -/
def CompletePages (rows : List Product) (page : Database site → Nat → PaginatedResponse) : Prop :=
  ∀ dbs : Nat → Database site,
    ((List.range (page (dbs 0) 1).info.totalPages).flatMap fun n => (page (dbs n) (n + 1)).items).Perm rows

variable {le : Product → Product → Bool} {rows : List Product} {limit : Nat} {page : Database site → Nat → PaginatedResponse}

theorem CutFrom.complete (cut : CutFrom le rows limit page) (pages : PagesComplete le rows limit) :
    CompletePages rows page := by
  intro dbs
  choose answers given cuts using fun n => cut.items (dbs n) n
  rw [cut.pages]
  exact (List.Perm.flatMap_left _ fun n _ => cuts n).trans (pages answers given)

theorem CutFrom.complete_of_antisymm (cut : CutFrom le rows limit page) (ordered : TotalPreorder le) (positive : 0 < limit)
    (unique : rows.Nodup) (antisymm : ∀ a ∈ rows, ∀ b ∈ rows, le a b = true → le b a = true → a = b) :
    CompletePages rows page :=
  cut.complete (complete_of_fit ordered positive (fit_of_antisymm ordered unique antisymm))

theorem CutFrom.hydrated (cut : CutFrom le rows limit page) (known : ∀ product ∈ rows, product ∈ tables.products) :
    CutFrom le rows limit fun db n => hydrateProductPage tables (page db n) := by
  have same (db : Database site) (n : Nat) : hydrateProductPage tables (page db (n + 1)) = page db (n + 1) := by
    obtain ⟨answer, given, cuts⟩ := cut.items db n
    refine hydrateProductPage_eq fun product mem => known product (given.1.mem_iff.mp ?_)
    exact List.mem_of_mem_drop (List.mem_of_mem_take (cuts.mem_iff.mp mem))
  refine ⟨fun db n => ?_, fun db n => ?_⟩
  · rw [same]
    exact cut.pages db n
  · rw [same]
    exact cut.items db n

theorem ids_nodup (unique : rows.Nodup) (known : ∀ product ∈ rows, product ∈ tables.products) :
    (rows.map Product.id).Nodup :=
  List.Nodup.map_on (fun a first b second same => eq_of_id (known a first) (known b second) same) unique

theorem paginate_cut (order : OrderBy) (unique : (rows.map Product.id).Nodup) (query : PaginationQueryDto) :
    CutFrom (site.orderLe (order ++ [(.id, .asc)])) rows query.pageSize fun (db : Database site) n =>
      paginate db order rows (query.atPage n) := by
  refine ⟨fun db n => ?_, fun db n => ?_⟩
  · show pageCount (db.getManyAndCount order rows (n * query.pageSize) query.pageSize).2 query.pageSize = _
    rw [db.getManyAndCount_total _ _ _ _ unique]
  · exact db.getManyAndCount_page order rows (n * query.pageSize) query.pageSize unique

theorem paginated_complete (order : OrderBy) (unique : rows.Nodup)
    (known : ∀ product ∈ rows, product ∈ tables.products) (query : PaginationQueryDto)
    (cut : CutFrom (site.orderLe (order ++ [(.id, .asc)])) rows query.pageSize page) : CompletePages rows page :=
  cut.complete_of_antisymm (orderLe_ordered site _) (pageSize_pos query) unique fun a first b second up down =>
    eq_of_id (known a first) (known b second) (id_of_tie order up down)

theorem slicePage_cut (ordered : Database site → List Product) (given : ∀ db, IsAnswer le rows (ordered db))
    (query : PaginationQueryDto) :
    CutFrom le rows query.pageSize fun db n => slicePage (ordered db) (query.atPage n) := by
  refine ⟨fun db n => ?_, fun db n => ⟨ordered db, given db, .rfl⟩⟩
  exact congrArg (pageCount · query.pageSize) (given db).1.length_eq

theorem rankSorted_answer (db : Database site) (candidates : List Id) (rows : List Product) :
    IsAnswer (rankLe candidates) rows ((db.getMany [] rows).mergeSort (rankLe candidates)) := by
  refine ⟨(List.mergeSort_perm _ _).trans (db.getMany_answer [] rows).1, ?_⟩
  refine List.pairwise_mergeSort (rankLe_ordered candidates).trans (fun a b => ?_) _
  exact Bool.or_eq_true_iff.mpr ((rankLe_ordered candidates).total a b)

/-- The database that answers by the primary key where keys tie. -/
def Database.plain (site : Site) : Database site where
  getMany order rows := rows.mergeSort (site.orderLe order)
  getMany_answer order rows := by
    refine ⟨List.mergeSort_perm _ _, List.pairwise_mergeSort (orderLe_ordered site order).trans (fun a b => ?_) _⟩
    exact Bool.or_eq_true_iff.mpr ((orderLe_ordered site order).total a b)
  getManyAndCount order rows skip take :=
    (((rows.mergeSort (site.orderLe (order ++ [(.id, .asc)]))).drop skip).take take, rows.length)
  getManyAndCount_page order rows skip take _ := by
    refine ⟨_, ⟨List.mergeSort_perm _ _, List.pairwise_mergeSort (orderLe_ordered site _).trans (fun a b => ?_) _⟩, .rfl⟩
    exact Bool.or_eq_true_iff.mpr ((orderLe_ordered site _).total a b)
  getManyAndCount_total _ _ _ _ _ := rfl

/-- It answers one query in this way instead. -/
def Database.answering (db : Database site) (order : OrderBy) (rows answer : List Product)
    (given : IsAnswer (site.orderLe order) rows answer) : Database site :=
  { db with
    getMany := fun asked from_ => if asked = order ∧ from_ = rows then answer else db.getMany asked from_
    getMany_answer := fun asked from_ => by
      split
      · rename_i same
        rw [same.1, same.2]
        exact given
      · exact db.getMany_answer asked from_ }

theorem answering_getMany (db : Database site) {order : OrderBy} {answer : List Product}
    (given : IsAnswer (site.orderLe order) rows answer) : (db.answering order rows answer given).getMany order rows = answer :=
  if_pos ⟨rfl, rfl⟩

/-! ### The listings -/

inductive Listing where
  | findAll (query : GetProductsQueryDto)
  | publicCatalogByShop (shopId : Id) (query : GetProductsQueryDto)
  | sellerInventory (shopId : Id) (query : GetSellerProductsQueryDto)
  | forAdmin (query : AdminProductQueryDto)

def Listing.serve (listing : Listing) (tables : Tables) (db : Database site) (n : Nat) : PaginatedResponse :=
  match listing with
  | findAll query => ProductListings.findAll db tables (query.atPage n)
  | publicCatalogByShop shopId query => getPublicCatalogByShop db tables shopId (query.atPage n)
  | sellerInventory shopId query => getSellerInventory db tables shopId (query.atPage n)
  | forAdmin query => findAllForAdmin db tables (query.atPage n)

def Listing.pageSize : Listing → Nat
  | findAll query => query.pageSize
  | publicCatalogByShop _ query => query.pageSize
  | sellerInventory _ query => query.pageSize
  | forAdmin query => query.pageSize

/-- What the search-service has found, where it answers. -/
def searched (site : Site) (tables : Tables) (shopId : Option Id) (query : GetProductsQueryDto) : Option (List Id) :=
  if site.isEnabled && hasKeyword query then site.fetchCandidates (searchParams tables shopId query) else none

def publicMatching (site : Site) (tables : Tables) (shopId : Option Id) (query : GetProductsQueryDto) : List Product :=
  match searched site tables shopId query with
  | some candidates => tables.products.filter (searchMatches candidates shopId query)
  | none => tables.products.filter (site.databaseMatches tables shopId query)

def Listing.matching (listing : Listing) (site : Site) (tables : Tables) : List Product :=
  match listing with
  | findAll query => publicMatching site tables none query
  | publicCatalogByShop shopId query => publicMatching site tables (some shopId) query
  | sellerInventory shopId query => tables.products.filter (site.inventoryMatches shopId query)
  | forAdmin query => tables.products.filter (site.adminMatches query)

def searchSort (site : Site) (tables : Tables) (shopId : Option Id) (query : GetProductsQueryDto) : Option OrderBy :=
  if (searched site tables shopId query).isSome then customSort query else none

/-- The sort of a search that asks for one of the allowed fields. -/
def Listing.searchSort (listing : Listing) (site : Site) (tables : Tables) : Option OrderBy :=
  match listing with
  | findAll query => ProductListings.searchSort site tables none query
  | publicCatalogByShop shopId query => ProductListings.searchSort site tables (some shopId) query
  | sellerInventory _ _ => none
  | forAdmin _ => none

def Listing.Complete (listing : Listing) (site : Site) (tables : Tables) : Prop :=
  CompletePages (listing.matching site tables) fun (db : Database site) n => listing.serve tables db n

theorem filter_known (conditions : Product → Bool) : ∀ product ∈ tables.products.filter conditions, product ∈ tables.products :=
  fun _ mem => (List.mem_filter.mp mem).1

/-- A listing of the database alone is complete, whatever it sorts by. -/
theorem database_complete (site : Site) (tables : Tables) (conditions : Product → Bool) (order : OrderBy) (query : PaginationQueryDto) :
    CompletePages (tables.products.filter conditions) fun (db : Database site) n =>
      paginate db order (tables.products.filter conditions) (query.atPage n) := by
  have unique := (products_nodup tables).filter conditions
  exact paginated_complete order unique (filter_known conditions) query
    (paginate_cut order (ids_nodup unique (filter_known conditions)) query)

theorem hydrated_complete (site : Site) (tables : Tables) (conditions : Product → Bool) (order : OrderBy) (query : PaginationQueryDto) :
    CompletePages (tables.products.filter conditions) fun (db : Database site) n => hydrateProductPage tables
      (paginate db order (tables.products.filter conditions) (query.atPage n)) := by
  have unique := (products_nodup tables).filter conditions
  exact paginated_complete order unique (filter_known conditions) query
    ((paginate_cut order (ids_nodup unique (filter_known conditions)) query).hydrated (filter_known conditions))

theorem sorted_complete_iff (site : Site) (tables : Tables) (conditions : Product → Bool) (order : OrderBy)
    (query : PaginationQueryDto) :
    (CompletePages (tables.products.filter conditions) fun (db : Database site) n => hydrateProductPage tables
      (slicePage (db.getMany order (tables.products.filter conditions)) (query.atPage n))) ↔
      TiesFit (site.orderLe order) (tables.products.filter conditions) query.pageSize := by
  have unique := (products_nodup tables).filter conditions
  have cut : CutFrom (site.orderLe order) (tables.products.filter conditions) query.pageSize fun (db : Database site) n =>
      slicePage (db.getMany order (tables.products.filter conditions)) (query.atPage n) :=
    slicePage_cut _ (fun db => db.getMany_answer order _) query
  have hydrated := cut.hydrated (filter_known conditions)
  refine Iff.trans ⟨fun complete answers given => ?_, hydrated.complete⟩
    (complete_iff_fit (orderLe_ordered site order) (pageSize_pos query) unique)
  -- any answers that are sorted may come, one for each page
  have pages := complete fun n => (Database.plain site).answering order _ (answers n) (given n)
  rw [hydrated.pages] at pages
  refine (List.Perm.of_eq (List.flatMap_congr fun n _ => ?_)).trans pages
  beta_reduce
  rw [hydrateProductPage_eq]
  · show slice (answers n) query.pageSize n = slice (Database.getMany _ order _) query.pageSize n
    rw [answering_getMany]
  · intro product mem
    have given := Database.getMany_answer ((Database.plain site).answering order _ (answers n) (given n)) order
      (tables.products.filter conditions)
    exact filter_known conditions product (given.1.mem_iff.mp (List.mem_of_mem_drop (List.mem_of_mem_take mem)))

theorem ranked_complete (site : Site) (tables : Tables) (candidates : List Id) (shopId : Option Id)
    (query : GetProductsQueryDto) :
    CompletePages (tables.products.filter (searchMatches candidates shopId query)) fun (db : Database site) n =>
      hydrateProductPage tables (slicePage
        ((db.getMany [] (tables.products.filter (searchMatches candidates shopId query))).mergeSort (rankLe candidates))
        (query.toPaginationQueryDto.atPage n)) := by
  have cut := slicePage_cut _ (fun db : Database site => rankSorted_answer db candidates
    (tables.products.filter (searchMatches candidates shopId query))) query.toPaginationQueryDto
  have isCandidate {product : Product} (mem : product ∈ tables.products.filter (searchMatches candidates shopId query)) :
      product.id ∈ candidates := by
    have matched := (List.mem_filter.mp mem).2
    simp only [searchMatches, Bool.and_eq_true, decide_eq_true_eq] at matched
    exact matched.1.1.1
  refine (cut.hydrated (filter_known _)).complete_of_antisymm (rankLe_ordered candidates) (pageSize_pos _)
    ((products_nodup tables).filter _) fun a first b second up down => ?_
  exact eq_of_id (filter_known _ a first) (filter_known _ b second)
    (id_of_rank_tie (isCandidate first) (isCandidate second) up down)

theorem rankSort_custom {db : Database site} {candidates : List Id} {query : GetProductsQueryDto} {order : OrderBy}
    (sort : customSort query = some order) (n : Nat) : rankSortPaginateHydrate db tables rows candidates (query.atPage n) =
      hydrateProductPage tables (slicePage (db.getMany order rows) (query.toPaginationQueryDto.atPage n)) := by
  have same : customSort (query.atPage n) = some order := sort
  unfold rankSortPaginateHydrate
  rw [same]
  rfl

theorem rankSort_default {db : Database site} {candidates : List Id} {query : GetProductsQueryDto}
    (sort : customSort query = none) (n : Nat) : rankSortPaginateHydrate db tables rows candidates (query.atPage n) =
      hydrateProductPage tables (slicePage ((db.getMany [] rows).mergeSort (rankLe candidates))
        (query.toPaginationQueryDto.atPage n)) := by
  have same : customSort (query.atPage n) = none := sort
  unfold rankSortPaginateHydrate
  rw [same]
  rfl

theorem search_complete_iff (site : Site) (tables : Tables) (candidates : List Id) (shopId : Option Id)
    (query : GetProductsQueryDto) :
    (CompletePages (tables.products.filter (searchMatches candidates shopId query)) fun (db : Database site) n =>
      rankSortPaginateHydrate db tables (tables.products.filter (searchMatches candidates shopId query)) candidates
        (query.atPage n)) ↔
      ∀ order, customSort query = some order →
        TiesFit (site.orderLe order) (tables.products.filter (searchMatches candidates shopId query)) query.pageSize := by
  cases sort : customSort query with
  | none =>
    refine ⟨fun _ _ => nofun, fun _ dbs => ?_⟩
    have pages := ranked_complete site tables candidates shopId query dbs
    simp only [rankSort_default sort]
    exact pages
  | some order =>
    have pages := sorted_complete_iff site tables (searchMatches candidates shopId query) order query.toPaginationQueryDto
    constructor
    · rintro complete _ ⟨⟩
      refine pages.mp fun dbs => ?_
      have listed := complete dbs
      simp only [rankSort_custom sort] at listed
      exact listed
    · intro fit dbs
      have listed := pages.mpr (fit order rfl) dbs
      simp only [rankSort_custom sort]
      exact listed

/-- What a public listing answers, with `fallback` for the database. -/
def publicPage (db : Database site) (tables : Tables) (shopId : Option Id) (query : GetProductsQueryDto)
    (fallback : PaginatedResponse) : PaginatedResponse :=
  if site.isEnabled && hasKeyword query then (viaSearchService db tables shopId query).getD fallback else fallback

theorem publicPage_eq (db : Database site) (shopId : Option Id) (query : GetProductsQueryDto)
    (fallback : PaginatedResponse) : publicPage db tables shopId query fallback =
      match searched site tables shopId query with
      | none => fallback
      | some [] => emptyPage query
      | some (first :: others) => rankSortPaginateHydrate db tables
          (tables.products.filter (searchMatches (first :: others) shopId query)) (first :: others) query := by
  unfold publicPage searched viaSearchService
  split
  · cases site.fetchCandidates (searchParams tables shopId query) with
    | none => rfl
    | some candidates => cases candidates <;> rfl
  · rfl

theorem searched_atPage (shopId : Option Id) (query : GetProductsQueryDto) (n : Nat) :
    searched site tables shopId (query.atPage n) = searched site tables shopId query := rfl

theorem searchMatches_atPage (candidates : List Id) (shopId : Option Id) (query : GetProductsQueryDto) (n : Nat) :
    searchMatches candidates shopId (query.atPage n) = searchMatches candidates shopId query := rfl

theorem public_complete_iff (site : Site) (shopId : Option Id) (query : GetProductsQueryDto)
    {fallback : Database site → Nat → PaginatedResponse}
    (complete : CompletePages (tables.products.filter (site.databaseMatches tables shopId query)) fallback) :
    (CompletePages (publicMatching site tables shopId query) fun db n =>
      publicPage db tables shopId (query.atPage n) (fallback db n)) ↔
      ∀ order, searchSort site tables shopId query = some order →
        TiesFit (site.orderLe order) (publicMatching site tables shopId query) query.pageSize := by
  simp only [publicPage_eq, searched_atPage, searchMatches_atPage]
  rcases found : searched site tables shopId query with _ | _ | ⟨first, others⟩
  · simp only [publicMatching, searchSort, found]
    exact ⟨fun _ _ => nofun, fun _ => complete⟩
  · have rows : tables.products.filter (searchMatches [] shopId query) = [] := by
      refine List.filter_eq_nil_iff.mpr fun product _ => ?_
      simp [searchMatches]
    simp only [publicMatching, searchSort, found, rows]
    exact ⟨fun _ _ _ _ mem => absurd mem List.not_mem_nil, fun _ _ => .nil⟩
  · simp only [publicMatching, searchSort, found]
    exact search_complete_iff site tables (first :: others) shopId query

theorem findAll_database (site : Site) (query : GetProductsQueryDto) :
    CompletePages (tables.products.filter (site.databaseMatches tables none query)) fun (db : Database site) n =>
      findAllViaDatabase db tables (query.atPage n) :=
  hydrated_complete site tables (site.databaseMatches tables none query)
    [(.isOutOfStock, .asc), ((query.allowedSort allowedSortFields).getD .createdAt, query.direction)]
    query.toPaginationQueryDto

theorem shopCatalog_database (site : Site) (shopId : Id) (query : GetProductsQueryDto) :
    CompletePages (tables.products.filter (site.databaseMatches tables (some shopId) query)) fun (db : Database site) n =>
      getShopCatalogViaDatabase db tables shopId (query.atPage n) :=
  hydrated_complete site tables (site.databaseMatches tables (some shopId) query)
    [((query.allowedSort allowedSortFields).getD .createdAt, query.direction)] query.toPaginationQueryDto

theorem inventory_database (site : Site) (shopId : Id) (query : GetSellerProductsQueryDto) :
    CompletePages (tables.products.filter (site.inventoryMatches shopId query)) fun (db : Database site) n =>
      getSellerInventory db tables shopId (query.atPage n) :=
  hydrated_complete site tables (site.inventoryMatches shopId query)
    [((query.allowedSort inventorySortFields).getD .createdAt, query.direction)] query.toPaginationQueryDto

theorem admin_database (site : Site) (query : AdminProductQueryDto) :
    CompletePages (tables.products.filter (site.adminMatches query)) fun (db : Database site) n =>
      findAllForAdmin db tables (query.atPage n) :=
  database_complete site tables (site.adminMatches query) [(.createdAt, .desc)] query.toPaginationQueryDto

/-- A listing is complete unless it is a search with a sort of its own, and a page boundary cuts
products that the sort leaves tied. -/
theorem listing_complete_iff (listing : Listing) (site : Site) (tables : Tables) :
    listing.Complete site tables ↔ ∀ order, listing.searchSort site tables = some order →
      TiesFit (site.orderLe order) (listing.matching site tables) listing.pageSize := by
  cases listing with
  | findAll query => exact public_complete_iff site none query (findAll_database site query)
  | publicCatalogByShop shopId query =>
    exact public_complete_iff site (some shopId) query (shopCatalog_database site shopId query)
  | sellerInventory shopId query =>
    exact ⟨fun _ _ => nofun, fun _ => inventory_database site shopId query⟩
  | forAdmin query => exact ⟨fun _ _ => nofun, fun _ => admin_database site query⟩

/-! Two shirts that a search sorted by `is_featured` leaves tied, one on each page. -/

def shirt (id : Id) : Product where
  id := id
  shop := some ⟨1, .active⟩
  category := none
  name := "Áo thun"
  sku := none
  description := none
  price := 100000
  stockQuantity := 5
  hasVariants := false
  isHidden := false
  isFeatured := false
  status := .active
  avgRating := 0
  createdAt := id
  variants := []

def twoShirts : Tables := ⟨[shirt 1, shirt 2], [], by decide⟩

def shirtSearch : Site where
  nameLe a b := a ≤ b
  nameOrdered := .ofLinear String
  ilike text pattern := ("%" ++ text ++ "%") = pattern
  isEnabled := true
  fetchCandidates _ := some [1, 2]

def byFeatured : GetProductsQueryDto where
  page := none
  limit := some 1
  sort := some "is_featured"
  order := none
  q := some "áo"
  categoryId := none
  minPrice := none
  maxPrice := none
  rating := none

theorem byFeatured_incomplete : ¬ (Listing.findAll byFeatured).Complete shirtSearch twoShirts := by
  intro complete
  have sort : searchSort shirtSearch twoShirts none byFeatured = some [(.isOutOfStock, .asc), (.isFeatured, .desc)] := by
    decide +kernel
  have rows : publicMatching shirtSearch twoShirts none byFeatured = [shirt 1, shirt 2] := by decide +kernel
  have fit := (public_complete_iff shirtSearch none byFeatured (findAll_database shirtSearch byFeatured)).mp complete _ sort
  rw [rows] at fit
  have cut : ¬ TiesFit (shirtSearch.orderLe [(.isOutOfStock, .asc), (.isFeatured, .desc)]) [shirt 1, shirt 2] 1 := by
    unfold TiesFit
    decide +kernel
  exact cut fit

end Marketplace.ProductListings
