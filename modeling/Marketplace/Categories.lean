import Marketplace.ReadCommitted.Invariant
import Marketplace.ReadCommitted.Loads
import Marketplace.ReadCommitted.Scan
import Marketplace.Schema
import Mathlib.Logic.Relation

/-! `CategoriesService`, and the category of a product: two levels, with products on the lower one. -/
namespace Marketplace.Categories
open ReadCommitted ReadCommitted.Tx

structure Category where
  name : String
  slug : String
  parent : Option Id
  displayOrder : Option Int
deriving DecidableEq

/-- The one column of a product that concerns its category. -/
structure ProductRow where
  category : Option Id
deriving DecidableEq

inductive Key where
  | category (id : Id)
  | product (id : Id)
deriving DecidableEq

@[reducible] def Row : Key → Type
  | .category _ => Category
  | .product _ => ProductRow

/-- What a transaction leaves for the specification. -/
inductive Mark where
  /-- A category is inserted. -/
  | placed (category : Id) (parent : Option Id)
  /-- The parent of a category is written. -/
  | moved (category : Id) (parent : Option Id)
  /-- A category is deleted, and the category of the products set to null. -/
  | removed (category : Id) (products : List Id)
  /-- The category of a product is written. -/
  | filed (product : Id) (category : Option Id)
deriving DecidableEq

abbrev Db := Rows (Table Row)
abbrev Action := Tx (Table Row) Mark Err
abbrev Request := Req (Table Row) Mark Err (Except Err Unit)

structure CreateCategoryDto where
  name : String
  parentId : Option UuidText
  displayOrder : Option Int
deriving DecidableEq

/-- `none` is a key that the body lacks, `some none` a `null`. -/
structure UpdateCategoryDto where
  name : Option (Option String)
  parentId : Option (Option UuidText)
  displayOrder : Option (Option Int)
deriving DecidableEq

def alone (body : Action Unit) : Request := .tx body (fun _ => .done (.ok ())) fun e => .done (.error e)

/-- `UPDATE category SET parent_id`. -/
def move (id : Id) (parent : Option Id) : Action Unit := do
  note (.moved id parent)
  modify (.category id) (Option.map fun row => { row with parent })

def insertCategory (id : Id) (row : Category) : Action Unit := do
  note (.placed id row.parent)
  insert (.category id) row (.uniqueViolation "category.id")

def writeCategory (mem reread current : Category) : Category where
  name := column mem.name reread.name current.name
  slug := column mem.slug reread.slug current.slug
  parent := column mem.parent reread.parent current.parent
  displayOrder := column mem.displayOrder reread.displayOrder current.displayOrder

def noteMoved (id : Id) (mem reread : Category) : List Mark :=
  if mem.parent = reread.parent then [] else [.moved id mem.parent]

def updateCategory (id : Id) (mem reread : Category) : Action Unit :=
  if mem = reread then pure ()
  else do
    forM (noteMoved id mem reread) note
    modify (.category id) (Option.map (writeCategory mem reread))

-- the ids that a uuid column can hold, and `slugify`
variable (space : List Id) (generateSlug : String → String)

def isTaken (slug : String) (d : Db) : Bool := space.any fun id => (d (.category id)).any fun row => row.slug = slug

def childrenOf (id : Id) (d : Db) : List Id :=
  scan space (fun row : Category => row.parent = some id) fun other => d (.category other)

def productsOf (id : Id) (d : Db) : List Id :=
  scan space (fun row : ProductRow => row.category = some id) fun product => d (.product product)

/-- A category with its children loaded. -/
def findOneById (id : Id) (d : Db) : Option (Category × List Id) :=
  (d (.category id)).map fun row => (row, childrenOf space id d)

def create (dto : CreateCategoryDto) (newId : Id) : Request :=
  let slug := generateSlug dto.name
  .tx (select (isTaken space slug))
    (fun isExist =>
      if isExist then .done (.error (.conflict "Tên danh mục hoặc Slug đã tồn tại trên hệ thống!"))
      else
        match dto.parentId with
        | none => alone (insertCategory newId ⟨dto.name, slug, none, dto.displayOrder⟩)
        | some parentId =>
          .tx (select fun d => d (.category parentId.id))
            (fun
              | none => .done (.error (.notFound "Không tìm thấy danh mục cha"))
              | some parent =>
                if parent.parent.isSome then
                  .done (.error (.badRequest "Hệ thống chỉ hỗ trợ 2 cấp. Danh mục bạn chọn đã là danh mục con, không thể thêm con cho nó nữa."))
                else alone (insertCategory newId ⟨dto.name, slug, some parentId.id, dto.displayOrder⟩))
            fun e => .done (.error e))
    fun e => .done (.error e)

/-- `save` of a category with its children loaded. The children in memory that are not in the table come under it,
and those in the table that are not in memory lose their parent. -/
def saveCategory (id : Id) (mem : Category) (children : List Id) : Action Unit := do
  match ← select fun d => d (.category id) with
  | none =>
    insertCategory id mem
    forM children fun child => move child (some id)
  | some reread =>
    let related ← select (childrenOf space id)
    updateCategory id mem reread
    forM (children.filter (· ∉ related)) fun child => move child (some id)
    forM (related.filter (· ∉ children)) fun child => move child none

/-- `Object.assign(category, data)`, with the slug of the new name. -/
def UpdateCategoryDto.assign (dto : UpdateCategoryDto) (loaded : Category) : Category :=
  { loaded with
    name := (dto.name.getD loaded.name).getD loaded.name
    slug := (dto.name.join.map generateSlug).getD loaded.slug
    displayOrder := dto.displayOrder.getD loaded.displayOrder }

/-- The name cannot be null: the save fails. -/
def saveUpdated (id : Id) (dto : UpdateCategoryDto) (mem : Category) (children : List Id) : Request :=
  if dto.name = some none then .done (.error .database) else alone (saveCategory space id mem children)

def updateById (id : UuidText) (dto : UpdateCategoryDto) : Request :=
  .tx (select (findOneById space id.id))
    (fun
      | none => .done (.error (.notFound "Không tìm thấy danh mục"))
      | some (loaded, children) =>
        let category := dto.assign generateSlug loaded
        match dto.parentId with
        | none => saveUpdated space id.id dto category children
        | some none => saveUpdated space id.id dto { category with parent := none } children
        | some (some parentId) =>
          -- compared as texts
          if parentId = id then .done (.error (.badRequest "Danh mục cha không được là chính nó"))
          else
            .tx (select fun d => d (.category parentId.id))
              (fun
                | none => .done (.error (.notFound "Không tìm thấy danh mục cha"))
                | some parent =>
                  if parent.parent.isSome then
                    .done (.error (.badRequest "Hệ thống chỉ hỗ trợ 2 cấp. Không thể chọn danh mục con làm danh mục cha."))
                  else if children ≠ [] then
                    .done (.error (.badRequest "Danh mục này đang chứa các danh mục con. Không thể hạ cấp nó xuống làm danh mục con."))
                  else saveUpdated space id.id dto { category with parent := some parentId.id } children)
              fun e => .done (.error e))
    fun e => .done (.error e)

/-- `DELETE` of a category. The foreign keys set the category of its products to null, and delete its children and
what is below them; `fuel` bounds the levels. -/
def deleteCategory : Nat → Id → Action Unit
  | 0, _ => pure ()
  | fuel + 1, id => do
    modify (.category id) fun _ => none
    let products ← select (productsOf space id)
    note (.removed id products)
    forM products fun product =>
      modify (.product product) (Option.map fun row => if row.category = some id then { row with category := none } else row)
    let children ← select (childrenOf space id)
    forM children (deleteCategory fuel)

def removeById (id : Id) : Request :=
  .tx (select (findOneById space id))
    (fun
      | none => .done (.error (.notFound "Không tìm thấy danh mục"))
      -- no category is its own descendant for longer than the table has ids
      | some _ => alone (deleteCategory space (space.length + 1) id))
    fun e => .done (.error e)

def validateLeafCategory (id : Id) (d : Db) : Except Err Unit :=
  match findOneById space id d with
  | none => .error (.notFound "Danh mục không tồn tại")
  | some (category, children) =>
    if category.parent = none then .error (.badRequest "Vui lòng chọn danh mục con cụ thể thay vì danh mục gốc.")
    else if children ≠ [] then .error (.badRequest "Danh mục được chọn chưa phải là cấp cuối cùng. Vui lòng kiểm tra lại.")
    else .ok ()

def insertProduct (id category : Id) : Action Unit := do
  note (.filed id (some category))
  insert (.product id) ⟨some category⟩ (.uniqueViolation "product.id")

/-- Of `create`; the checks of the shop and of the files come before and after that of the category. -/
def createProduct (shop files : Except Err Unit) (category newId : Id) : Request :=
  match shop with
  | .error e => .done (.error e)
  | .ok _ =>
    .tx (select (validateLeafCategory space category))
      (fun
        | .error e => .done (.error e)
        | .ok _ =>
          match files with
          | .error e => .done (.error e)
          | .ok _ => alone (insertProduct newId category))
      fun e => .done (.error e)

def saveProduct (id : Id) (mem : ProductRow) : Action Unit := do
  match ← select fun d => d (.product id) with
  | none =>
    note (.filed id mem.category)
    insert (.product id) mem (.uniqueViolation "product.id")
  | some reread =>
    if mem.category = reread.category then pure ()
    else do
      note (.filed id mem.category)
      modify (.product id) (Option.map fun row => { row with category := mem.category })

/-- Of `update`; `checks` are those of the product and the shop, `edits` what else the body asks for. -/
def updateProduct (checks : ProductRow → Except Err Unit) (edits : Except Err Unit) (id : Id) (category : Option Id) : Request :=
  .tx (select fun d => d (.product id))
    (fun
      | none => .done (.error (.notFound "Không tìm thấy sản phẩm"))
      | some product =>
        match checks product, category with
        | .error e, _ => .done (.error e)
        | .ok _, none =>
          match edits with
          | .error e => .done (.error e)
          | .ok _ => alone (saveProduct id product)
        | .ok _, some category =>
          .tx (select (validateLeafCategory space category))
            (fun
              | .error e => .done (.error e)
              | .ok _ =>
                match edits with
                | .error e => .done (.error e)
                | .ok _ => alone (saveProduct id { product with category := some category }))
            fun e => .done (.error e))
    fun e => .done (.error e)

inductive Asked : Request → Prop
  | create (dto : CreateCategoryDto) (newId : Id) : Asked (create space generateSlug dto newId)
  | update (id : UuidText) (dto : UpdateCategoryDto) : Asked (updateById space generateSlug id dto)
  | remove (id : Id) : Asked (removeById space id)
  | createProduct (shop files : Except Err Unit) (category newId : Id) : Asked (createProduct space shop files category newId)
  | updateProduct (checks : ProductRow → Except Err Unit) (edits : Except Err Unit) (id : Id) (category : Option Id) :
      Asked (updateProduct space checks edits id category)

/-- The parent of a category that stands. -/
def parentOf (d : Db) (id : Id) : Option (Option Id) := (d (.category id)).map (·.parent)

def ChildOf (d : Db) (a b : Id) : Prop := parentOf d a = some (some b)

/-- A forest of two levels, with every product in a category of the lower one that has nothing below it. -/
structure Orderly (d : Db) : Prop where
  parents : ∀ a b, ChildOf d a b → d (.category b) ≠ none
  acyclic : ∀ a, ¬ Relation.TransGen (ChildOf d) a a
  twoLevels : ∀ a b c, ChildOf d a b → ¬ ChildOf d b c
  leaves : ∀ product row, d (.product product) = some row →
    ∃ c, row.category = some c ∧ (∃ b, ChildOf d c b) ∧ ∀ x, ¬ ChildOf d x c

/-- Parents are roots, and products are not in roots: what each commit is to keep. -/
structure Levelled (d : Db) : Prop where
  roots : ∀ a b, ChildOf d a b → parentOf d b = some none
  leaves : ∀ product row, d (.product product) = some row → ∃ c b, row.category = some c ∧ ChildOf d c b

theorem Orderly.levelled {d : Db} (orderly : Orderly d) : Levelled d := by
  refine ⟨fun a b child => ?_, fun product row found => ?_⟩
  · cases stands : d (.category b) with
    | none => exact absurd stands (orderly.parents a b child)
    | some row =>
      have none_ := orderly.twoLevels a b
      cases above : row.parent with
      | none => simp [parentOf, stands, above]
      | some c => exact absurd (by simp [ChildOf, parentOf, stands, above]) (none_ c child)
  · obtain ⟨c, filed, ⟨b, child⟩, _⟩ := orderly.leaves product row found
    exact ⟨c, b, filed, child⟩

theorem Levelled.orderly {d : Db} (levelled : Levelled d) : Orderly d := by
  have twoLevels : ∀ a b c, ChildOf d a b → ¬ ChildOf d b c := by
    intro a b c lower upper
    have root := levelled.roots a b lower
    simp [root, ChildOf] at upper
  refine ⟨fun a b child gone => ?_, fun a cycle => ?_, twoLevels, fun product row found => ?_⟩
  · have root := levelled.roots a b child
    simp [parentOf, gone] at root
  · obtain ⟨b, first, rest⟩ := Relation.TransGen.head'_iff.mp cycle
    rcases Relation.ReflTransGen.cases_head rest with same | ⟨c, second, _⟩
    · subst same
      exact twoLevels b b b first first
    · exact twoLevels a b c first second
  · obtain ⟨c, b, filed, child⟩ := levelled.leaves product row found
    exact ⟨c, filed, ⟨b, child⟩, fun x below => twoLevels x c b below child⟩

section
variable (space : List Id)

/-- Rows have ids that the column can hold. -/
structure Listed (d : Db) : Prop where
  categories : ∀ id, d (.category id) ≠ none → id ∈ space
  products : ∀ id, d (.product id) ≠ none → id ∈ space

/-- The mark puts the category under a parent. -/
def Mark.lowers (x : Id) : Mark → Bool
  | .placed a parent | .moved a parent => a = x ∧ parent.isSome = true
  | _ => false

def Mark.places (x : Id) : Mark → Bool
  | .placed a _ => a = x
  | _ => false

def Mark.removes (x : Id) : Mark → Bool
  | .removed a _ => a = x
  | _ => false

/-- What the columns and the foreign keys enforce when a transaction commits. -/
def Mark.Enforced (d : Db) (log : List Mark) : Mark → Prop
  | .placed a parent => a ∈ space ∧ ∀ b ∈ parent, d (.category b) ≠ none ∨ log.any (·.places b) = true
  | .moved _ parent => ∀ b ∈ parent, d (.category b) ≠ none ∨ log.any (·.places b) = true
  | .removed a products => (∀ p ∈ productsOf space a d, p ∈ products) ∧ ∀ x ∈ childrenOf space a d, log.any (·.removes x) = true
  | .filed p category => p ∈ space ∧ ∀ c ∈ category, d (.category c) ≠ none

instance (d : Db) (log : List Mark) (e : Mark) : Decidable (e.Enforced space d log) := by
  unfold Mark.Enforced
  split <;> infer_instance

def Enforced (s : Store (Table Row) Mark) (log : List Mark) : Prop := ∀ e ∈ log, e.Enforced space s.rows log

instance (s : Store (Table Row) Mark) (log : List Mark) : Decidable (Enforced space s log) :=
  inferInstanceAs (Decidable (∀ e ∈ log, e.Enforced space s.rows log))

/-- The parent is a root and stays one, and the category has no children but those that the transaction makes roots. -/
def Fits (d : Db) (log : List Mark) (a b : Id) : Prop :=
  (parentOf d b = some none ∨ .placed b none ∈ log) ∧ log.any (·.lowers b) = false ∧
    ∀ x ∈ childrenOf space a d, .moved x none ∈ log

instance (d : Db) (log : List Mark) (a b : Id) : Decidable (Fits space d log a b) := by
  unfold Fits
  infer_instance

/-- What the requests check of categories still holds of those that a transaction writes. -/
def Mark.Safe (d : Db) (log : List Mark) : Mark → Prop
  | .placed a parent | .moved a parent => (parent = none → productsOf space a d = []) ∧ ∀ b ∈ parent, Fits space d log a b
  | .removed a _ => productsOf space a d = []
  | .filed _ category => ∃ c ∈ category, (parentOf d c).join ≠ none

instance (d : Db) (log : List Mark) (e : Mark) : Decidable (e.Safe space d log) := by
  unfold Mark.Safe
  split <;> infer_instance

def Safe (s : Store (Table Row) Mark) (log : List Mark) : Prop :=
  Enforced space s log ∧ ∀ e ∈ log, e.Safe space s.rows log

instance (s : Store (Table Row) Mark) (log : List Mark) : Decidable (Safe space s log) :=
  inferInstanceAs (Decidable (Enforced space s log ∧ ∀ e ∈ log, e.Safe space s.rows log))

end

/-- A transaction on categories so far: a category is as it was, or has the parent of one of its marks. -/
structure Edited (c : Db) (v : View (Table Row) Mark) : Prop where
  products : ∀ p, v.rows (.product p) = c (.product p)
  categories : ∀ x,
    (parentOf v.rows x = parentOf c x ∧ (∀ p, .placed x p ∉ v.log) ∧ ((∀ p, .moved x p ∉ v.log) ∨ parentOf c x = none)) ∨
    ∃ p, (.placed x p ∈ v.log ∨ .moved x p ∈ v.log) ∧ parentOf v.rows x = some p
  places : ∀ x, parentOf c x = none → parentOf v.rows x ≠ none → v.log.any (·.places x) = true

/-- A deletion so far: what is marked is gone, and products lose only categories that are gone. -/
structure Trimmed (c : Db) (v : View (Table Row) Mark) : Prop where
  categories : ∀ x, (v.log.any (·.removes x) = false ∧ v.rows (.category x) = c (.category x)) ∨
    (v.log.any (·.removes x) = true ∧ v.rows (.category x) = none)
  products : ∀ p, v.rows (.product p) = c (.product p) ∨
    ∃ row x, c (.product p) = some row ∧ row.category = some x ∧ v.log.any (·.removes x) = true

/-- A transaction on products so far. -/
structure Refiled (c : Db) (v : View (Table Row) Mark) : Prop where
  categories : ∀ x, v.rows (.category x) = c (.category x)
  products : ∀ p, v.rows (.product p) = c (.product p) ∨
    ∃ row, v.rows (.product p) = some row ∧ .filed p row.category ∈ v.log

section
variable {space : List Id} {c : Db} {v : View (Table Row) Mark}

theorem parentOf_eq_none {d : Db} {id : Id} : parentOf d id = none ↔ d (.category id) = none := Option.map_eq_none_iff

theorem mem_childrenOf (listed : Listed space c) {a x : Id} : x ∈ childrenOf space a c ↔ ChildOf c x a := by
  unfold childrenOf ChildOf parentOf
  rw [mem_scan]
  constructor
  · rintro ⟨_, found⟩
    cases stands : c (.category x) with
    | none => simp [stands] at found
    | some row => simpa [stands] using found
  · intro child
    obtain ⟨row, stands, above⟩ := Option.map_eq_some_iff.mp child
    exact ⟨listed.categories x (by simp [stands]), by simp [stands, above]⟩

theorem mem_productsOf (listed : Listed space c) {a p : Id} {row : ProductRow} (stands : c (.product p) = some row)
    (filed : row.category = some a) : p ∈ productsOf space a c :=
  mem_scan.mpr ⟨listed.products p (by simp [stands]), by simp [stands, filed]⟩

/-- A root that no mark lowers is still a root. -/
theorem Edited.root (edited : Edited c v) {b : Id} (unlowered : v.log.any (·.lowers b) = false)
    (root : parentOf c b = some none ∨ .placed b none ∈ v.log) : parentOf v.rows b = some none := by
  have high : ∀ e ∈ v.log, e.lowers b = false := by simpa using unlowered
  rcases edited.categories b with ⟨same, unplaced, _⟩ | ⟨p, marked, now⟩
  · rw [same]
    exact root.resolve_right (unplaced none)
  · cases p with
    | none => exact now
    | some q =>
      rcases marked with placed | moved
      · simpa [Mark.lowers] using high _ placed
      · simpa [Mark.lowers] using high _ moved

/-- A category that gets a parent has no children but those that are made roots. -/
theorem Edited.fits (safe : ∀ e ∈ v.log, e.Safe space c v.log) {a b : Id}
    (marked : .placed a (some b) ∈ v.log ∨ .moved a (some b) ∈ v.log) : Fits space c v.log a b := by
  rcases marked with placed | moved
  · exact (safe _ placed).2 b rfl
  · exact (safe _ moved).2 b rfl

theorem Edited.levelled (levelled : Levelled c) (listed : Listed space c) (edited : Edited c v)
    (safe : ∀ e ∈ v.log, e.Safe space c v.log) : Levelled v.rows := by
  constructor
  · intro a b child
    rcases edited.categories a with ⟨same, _, unmoved⟩ | ⟨p, marked, now⟩
    · have before : ChildOf c a b := same.symm.trans child
      have unmoved : ∀ p, .moved a p ∉ v.log := unmoved.resolve_right (by simp [ChildOf] at before; simp [before])
      have root := levelled.roots a b before
      rcases edited.categories b with ⟨stays, _⟩ | ⟨q, above, now⟩
      · rw [stays]
        exact root
      · cases q with
        | none => exact now
        | some q =>
          obtain ⟨_, _, childless⟩ := Edited.fits safe above
          exact absurd (childless a ((mem_childrenOf listed).mpr before)) (unmoved none)
    · obtain rfl : p = some b := Option.some.inj (now.symm.trans child)
      obtain ⟨root, unlowered, _⟩ := Edited.fits safe marked
      exact edited.root unlowered root
  · intro product row found
    rw [edited.products] at found
    obtain ⟨cat, b, filed, child⟩ := levelled.leaves product row found
    rcases edited.categories cat with ⟨same, _⟩ | ⟨p, marked, now⟩
    · exact ⟨cat, b, filed, same.trans child⟩
    · cases p with
      | some q => exact ⟨cat, q, filed, now⟩
      | none =>
        have empty : productsOf space cat c = [] := by
          rcases marked with placed | moved
          · exact (safe _ placed).1 rfl
          · exact (safe _ moved).1 rfl
        have inside := mem_productsOf listed found filed
        simp [empty] at inside

theorem Trimmed.levelled (levelled : Levelled c) (listed : Listed space c) (trimmed : Trimmed c v)
    (enforced : ∀ e ∈ v.log, e.Enforced space c v.log) (safe : ∀ e ∈ v.log, e.Safe space c v.log) : Levelled v.rows := by
  have empty : ∀ x, v.log.any (·.removes x) = true → productsOf space x c = [] := by
    intro x removed
    obtain ⟨e, member, named⟩ := List.any_eq_true.mp removed
    cases e with
    | removed a products =>
      obtain rfl : a = x := by simpa [Mark.removes] using named
      exact safe _ member
    | placed | moved | filed => simp [Mark.removes] at named
  have cascade : ∀ x y, v.log.any (·.removes x) = true → ChildOf c y x → v.log.any (·.removes y) = true := by
    intro x y removed child
    obtain ⟨e, member, named⟩ := List.any_eq_true.mp removed
    cases e with
    | removed a products =>
      obtain rfl : a = x := by simpa [Mark.removes] using named
      exact (enforced _ member).2 y ((mem_childrenOf listed).mpr child)
    | placed | moved | filed => simp [Mark.removes] at named
  have products : ∀ p, v.rows (.product p) = c (.product p) := by
    intro p
    rcases trimmed.products p with same | ⟨row, x, found, filed, removed⟩
    · exact same
    · have inside := mem_productsOf listed found filed
      simp [empty x removed] at inside
  constructor
  · intro a b child
    rcases trimmed.categories a with ⟨unremoved, same⟩ | ⟨_, gone⟩
    · have before : ChildOf c a b := by simpa [ChildOf, parentOf, same] using child
      have root := levelled.roots a b before
      rcases trimmed.categories b with ⟨_, stays⟩ | ⟨removed, _⟩
      · simpa [parentOf, stays] using root
      · simp [cascade b a removed before] at unremoved
    · simp [ChildOf, parentOf, gone] at child
  · intro product row found
    rw [products] at found
    obtain ⟨cat, b, filed, child⟩ := levelled.leaves product row found
    rcases trimmed.categories cat with ⟨_, same⟩ | ⟨removed, _⟩
    · exact ⟨cat, b, filed, by simpa [ChildOf, parentOf, same] using child⟩
    · have inside := mem_productsOf listed found filed
      simp [empty cat removed] at inside

theorem Refiled.levelled (levelled : Levelled c) (refiled : Refiled c v) (safe : ∀ e ∈ v.log, e.Safe space c v.log) :
    Levelled v.rows := by
  have same : ∀ x, parentOf v.rows x = parentOf c x := fun x => congrArg (Option.map _) (refiled.categories x)
  constructor
  · intro a b child
    rw [same]
    exact levelled.roots a b ((same a).symm.trans child)
  · intro product row found
    rcases refiled.products product with stays | ⟨stored, now, marked⟩
    · obtain ⟨cat, b, filed, child⟩ := levelled.leaves product row (stays.symm.trans found)
      exact ⟨cat, b, filed, (same cat).trans child⟩
    · obtain rfl : stored = row := Option.some.inj (now.symm.trans found)
      obtain ⟨cat, filed, above⟩ := safe _ marked
      cases parent : parentOf c cat with
      | none => simp [parent] at above
      | some b =>
        cases b with
        | none => simp [parent] at above
        | some b => exact ⟨cat, b, filed, (same cat).trans parent⟩

theorem Edited.listed (listed : Listed space c) (edited : Edited c v) (enforced : ∀ e ∈ v.log, e.Enforced space c v.log) :
    Listed space v.rows := by
  refine ⟨fun id there => ?_, fun id there => listed.products id (by rwa [← edited.products id])⟩
  by_cases before : c (.category id) = none
  · have placed := edited.places id (parentOf_eq_none.mpr before) (mt parentOf_eq_none.mp there)
    obtain ⟨e, member, named⟩ := List.any_eq_true.mp placed
    cases e with
    | placed a parent =>
      obtain rfl : a = id := by simpa [Mark.places] using named
      exact (enforced _ member).1
    | moved | removed | filed => simp [Mark.places] at named
  · exact listed.categories id before

theorem Trimmed.listed (listed : Listed space c) (trimmed : Trimmed c v) : Listed space v.rows := by
  refine ⟨fun id there => listed.categories id ?_, fun id there => listed.products id ?_⟩
  · rcases trimmed.categories id with ⟨_, same⟩ | ⟨_, gone⟩
    · rwa [← same]
    · exact absurd gone there
  · rcases trimmed.products id with same | ⟨row, _, found, _⟩
    · rwa [← same]
    · simp [found]

theorem Refiled.listed (listed : Listed space c) (refiled : Refiled c v) (enforced : ∀ e ∈ v.log, e.Enforced space c v.log) :
    Listed space v.rows := by
  refine ⟨fun id there => listed.categories id (by rwa [← refiled.categories id]), fun id there => ?_⟩
  rcases refiled.products id with same | ⟨_, _, marked⟩
  · exact listed.products id (by rwa [← same])
  · exact (enforced _ marked).1

end

section
variable {space : List Id} {c : Db} {v w : View (Table Row) Mark}

theorem Edited.looking (edited : Edited c v) (m : Nat) : Edited c (v.looking m) :=
  ⟨edited.products, edited.categories, edited.places⟩

/-- The parent of one category is written, or an absent one is missed. -/
theorem Edited.moved (edited : Edited c v) (id : Id) (parent : Option Id)
    (others : ∀ k, k ≠ .category id → w.rows k = v.rows k)
    (named : parentOf w.rows id = (parentOf v.rows id).map fun _ => parent) (log : w.log = v.log ++ [.moved id parent]) :
    Edited c w := by
  have same : ∀ x, x ≠ id → parentOf w.rows x = parentOf v.rows x := fun x other => by
    simp [parentOf, others (.category x) (by simpa using other)]
  refine ⟨fun p => (others (.product p) nofun).trans (edited.products p), fun x => ?_, fun x absent there => ?_⟩
  · by_cases here : x = id
    · subst here
      cases before : parentOf v.rows x with
      | some q => exact Or.inr ⟨parent, Or.inr (by simp [log]), by rw [named, before]; rfl⟩
      | none =>
        rcases edited.categories x with ⟨stays, unplaced, _⟩ | ⟨q, _, now⟩
        · refine Or.inl ⟨?_, fun p => by simp [log, unplaced p], Or.inr (stays.symm.trans before)⟩
          rw [named, before, ← stays, before]
          rfl
        · simp [now] at before
    · rw [same x here]
      rcases edited.categories x with ⟨stays, unplaced, unmoved⟩ | ⟨q, marked, now⟩
      · exact Or.inl ⟨stays, fun p => by simp [log, unplaced p], unmoved.imp_left fun none_ p => by simp [log, none_ p, here]⟩
      · exact Or.inr ⟨q, by simpa [log] using marked.imp_right Or.inl, now⟩
  · rw [log, List.any_append, edited.places x absent, Bool.true_or]
    by_cases here : x = id
    · subst here
      rw [named] at there
      exact fun gone => there (by rw [gone]; rfl)
    · rwa [same x here] at there

theorem Edited.placed (edited : Edited c v) {id : Id} {row : Category} (others : ∀ k, k ≠ .category id → w.rows k = v.rows k)
    (stored : w.rows (.category id) = some row) (log : w.log = v.log ++ [.placed id row.parent]) : Edited c w := by
  have same : ∀ x, x ≠ id → parentOf w.rows x = parentOf v.rows x := fun x other => by
    simp [parentOf, others (.category x) (by simpa using other)]
  refine ⟨fun p => (others (.product p) nofun).trans (edited.products p), fun x => ?_, fun x absent there => ?_⟩
  · by_cases here : x = id
    · subst here
      exact Or.inr ⟨row.parent, Or.inl (by simp [log]), by simp [parentOf, stored]⟩
    · rw [same x here]
      rcases edited.categories x with ⟨stays, unplaced, unmoved⟩ | ⟨q, marked, now⟩
      · exact Or.inl ⟨stays, fun p => by simp [log, unplaced p, here], unmoved.imp_left fun none_ p => by simp [log, none_ p]⟩
      · exact Or.inr ⟨q, by simpa [log, or_assoc] using marked.imp_left Or.inl, now⟩
  · by_cases here : x = id
    · simp [log, here, Mark.places]
    · rw [same x here] at there
      simp [log, List.any_append, edited.places x absent there]

theorem Edited.unmoved (edited : Edited c v) {id : Id} (others : ∀ k, k ≠ .category id → w.rows k = v.rows k)
    (named : parentOf w.rows id = parentOf v.rows id) (log : w.log = v.log) : Edited c w := by
  have same : ∀ x, parentOf w.rows x = parentOf v.rows x := by
    intro x
    by_cases here : x = id
    · rw [here, named]
    · simp [parentOf, others (.category x) (by simpa using here)]
  refine ⟨fun p => (others (.product p) nofun).trans (edited.products p), fun x => ?_, fun x absent there => ?_⟩
  · rw [same x, log]
    exact edited.categories x
  · rw [log]
    exact edited.places x absent (same x ▸ there)

theorem maintains_move (id : Id) (parent : Option Id) : (move id parent).Maintains (Edited c) := by
  intro I v edited
  unfold move
  rw [wp_bind, wp_note, wp_modify]
  refine edited.moved id parent (fun k other => ?_) ?_ rfl
  · rw [View.put_rows_other _ _ other]
    rfl
  · unfold parentOf
    rw [View.put_rows_self]
    cases found : v.rows (.category id) with
    | none => simp [found]
    | some row => simp [found]

theorem maintains_insertCategory (id : Id) (row : Category) : (insertCategory id row).Maintains (Edited c) := by
  intro I v edited
  unfold insertCategory
  rw [wp_bind, wp_note]
  refine wp_insert (fun _ => trivial) fun w more _ _ stored => ?_
  exact edited.placed (fun k other => more.rows k other) stored more.log_same

theorem maintains_updateCategory (id : Id) (mem reread : Category) : (updateCategory id mem reread).Maintains (Edited c) := by
  intro I v edited
  unfold updateCategory
  rw [wp_ite]
  refine ⟨fun _ => edited, fun _ => ?_⟩
  rw [wp_bind]
  refine wp_forM_note _ ?_
  rw [wp_modify]
  have others : ∀ k, k ≠ .category id → (View.put { v with log := v.log ++ noteMoved id mem reread } (.category id)
      (Option.map (writeCategory mem reread))).rows k = v.rows k := fun k other => View.put_rows_other _ _ other
  unfold noteMoved at others ⊢
  split
  · rename_i same
    rw [if_pos same] at others
    refine edited.unmoved others ?_ (by simp)
    unfold parentOf
    rw [View.put_rows_self]
    cases v.rows (.category id) with
    | none => rfl
    | some row => simp [writeCategory, same]
  · rename_i differs
    rw [if_neg differs] at others
    refine edited.moved _ _ others ?_ rfl
    unfold parentOf
    rw [View.put_rows_self]
    cases v.rows (.category id) with
    | none => rfl
    | some row => simp [writeCategory, column_diff differs]

theorem maintains_saveCategory (id : Id) (mem : Category) (children : List Id) :
    (saveCategory space id mem children).Maintains (Edited c) := by
  unfold saveCategory
  refine maintains_bind (maintains_select fun v m edited => edited.looking m) fun found => ?_
  cases found with
  | none => exact maintains_bind (maintains_insertCategory id mem) fun _ => maintains_forM _ fun _ => maintains_move _ _
  | some reread =>
    refine maintains_bind (maintains_select fun v m edited => edited.looking m) fun related => ?_
    refine maintains_bind (maintains_updateCategory id mem reread) fun _ => ?_
    exact maintains_bind (maintains_forM _ fun _ => maintains_move _ _) fun _ => maintains_forM _ fun _ => maintains_move _ _

theorem Trimmed.looking (trimmed : Trimmed c v) (m : Nat) : Trimmed c (v.looking m) := ⟨trimmed.categories, trimmed.products⟩

/-- A deleted row, once it is marked. -/
theorem Trimmed.removed (trimmed : Trimmed c v) (id : Id) (products : List Id)
    (others : ∀ k, k ≠ .category id → w.rows k = v.rows k) (gone : w.rows (.category id) = none)
    (log : w.log = v.log ++ [.removed id products]) : Trimmed c w := by
  refine ⟨fun x => ?_, fun p => ?_⟩
  · by_cases here : x = id
    · subst here
      exact Or.inr ⟨by simp [log, Mark.removes], gone⟩
    · have unnamed : Mark.removes x (.removed id products) = false := by simpa [Mark.removes] using Ne.symm here
      rw [log, List.any_append, List.any_cons, List.any_nil, unnamed, Bool.or_false, Bool.or_false,
        others (.category x) (by simpa using here)]
      exact trimmed.categories x
  · rw [others (.product p) nofun]
    exact (trimmed.products p).imp_right fun ⟨row, x, found, filed, removed⟩ =>
      ⟨row, x, found, filed, by rw [log, List.any_append, removed, Bool.true_or]⟩

/-- A product of a category that is gone loses it. -/
theorem Trimmed.emptied (trimmed : Trimmed c v) {id product : Id} (removed : v.log.any (·.removes id) = true) :
    Trimmed c (v.put (.product product)
      (Option.map fun row => if row.category = some id then { row with category := none } else row)) := by
  refine ⟨fun x => ?_, fun p => ?_⟩
  · rw [View.put_rows_other v _ (k := .product product) (j := .category x) nofun]
    exact trimmed.categories x
  · by_cases here : p = product
    · subst here
      rw [View.put_rows_self]
      rcases trimmed.products p with same | lost
      · cases found : c (.product p) with
        | none => exact Or.inl (by rw [same, found]; rfl)
        | some row =>
          by_cases filed : row.category = some id
          · exact Or.inr ⟨row, id, rfl, filed, removed⟩
          · exact Or.inl (by rw [same, found, Option.map_some, if_neg filed])
      · exact Or.inr lost
    · rw [View.put_rows_other v _ (k := .product product) (j := .product p) (by simpa using here)]
      exact trimmed.products p

theorem maintains_deleteCategory (fuel : Nat) : ∀ id, (deleteCategory space fuel id).Maintains (Trimmed c) := by
  induction fuel with
  | zero => exact fun _ _ _ trimmed => trimmed
  | succ fuel ih =>
    intro id I v trimmed
    unfold deleteCategory
    rw [wp_bind, wp_modify, wp_bind, wp_select]
    intro d m _
    rw [wp_bind, wp_note, wp_bind]
    have loop := wp_forM (I := I) (E := fun _ => True)
      (v := ((v.put (.category id) fun _ => none).looking m).mark (.removed id (productsOf space id d)))
      (fun (_ : List Id) w => Trimmed c w ∧ w.log.any (·.removes id) = true)
      (fun product => (modify (.product product)
        (Option.map fun row => if row.category = some id then { row with category := none } else row) : Action Unit))
      (fun product _ w carried => by
        rw [wp_modify]
        exact ⟨carried.1.emptied carried.2, carried.2⟩)
      (productsOf space id d)
      ⟨trimmed.removed id (productsOf space id d) (fun k other => by
          rw [View.mark_rows, View.looking_rows, View.put_rows_other v _ other])
        (View.put_rows_self v (.category id) fun _ => none) rfl, by simp [Mark.removes]⟩
    refine wp_mono _ loop (fun _ w done => ?_) fun _ e => e
    rw [wp_bind, wp_select]
    exact fun d n _ => maintains_forM _ ih I _ (done.1.looking n)

theorem Refiled.noted (refiled : Refiled c v) (e : Mark) : Refiled c (v.mark e) :=
  ⟨refiled.categories, fun p => (refiled.products p).imp_right fun ⟨row, now, marked⟩ => ⟨row, now, by simp [marked]⟩⟩

theorem Refiled.stored (refiled : Refiled c v) (id : Id) (others : ∀ k, k ≠ .product id → w.rows k = v.rows k)
    (named : w.rows (.product id) = v.rows (.product id) ∨
      ∃ row, w.rows (.product id) = some row ∧ .filed id row.category ∈ w.log)
    (log : w.log = v.log) : Refiled c w := by
  refine ⟨fun x => (others (.category x) nofun).trans (refiled.categories x), fun p => ?_⟩
  by_cases here : p = id
  · subst here
    rcases named with same | stored
    · rw [same, log]
      exact refiled.products p
    · exact Or.inr stored
  · rw [others (.product p) (by simpa using here), log]
    exact refiled.products p

theorem maintains_insertProduct (id : Id) (row : ProductRow) :
    (do
      note (.filed id row.category)
      insert (.product id) row (.uniqueViolation "product.id") : Action Unit).Maintains (Refiled c) := by
  intro I v refiled
  rw [wp_bind, wp_note]
  refine wp_insert (fun _ => trivial) fun w more _ _ stored => ?_
  exact (refiled.noted (.filed id row.category)).stored id (fun k other => more.rows k other)
    (Or.inr ⟨row, stored, by simp [more.log_same]⟩) more.log_same

theorem maintains_saveProduct (id : Id) (mem : ProductRow) : (saveProduct id mem).Maintains (Refiled c) := by
  unfold saveProduct
  refine maintains_bind (maintains_select fun v m refiled => ⟨refiled.categories, refiled.products⟩) fun found => ?_
  cases found with
  | none => exact maintains_insertProduct id mem
  | some reread =>
    intro I v refiled
    simp only
    rw [wp_ite]
    refine ⟨fun _ => refiled, fun _ => ?_⟩
    rw [wp_bind, wp_note, wp_modify]
    refine (refiled.noted (.filed id mem.category)).stored id (fun k other => View.put_rows_other _ _ other) ?_ rfl
    rw [View.put_rows_self]
    cases found : v.rows (.product id) with
    | none => exact Or.inl (by simp [found])
    | some row => exact Or.inr ⟨{ row with category := mem.category }, by simp [found], by simp⟩

end

section
variable {space : List Id} {generateSlug : String → String}

/-- What holds of every store that is committed. -/
def Sound (space : List Id) (s : Store (Table Row) Mark) : Prop := Levelled s.rows ∧ Listed space s.rows

theorem keeps_of_edited {body : Action Unit} (maintains : ∀ c, body.Maintains (Edited c)) :
    body.Keeps (Safe space) (Sound space) fun _ _ => True := by
  refine keeps_of_maintains (J := fun s => Edited s.rows) (fun s => maintains s.rows) (fun s m _ => ?_)
    fun s w sound edited safe => ⟨edited.levelled sound.1 sound.2 safe.2, edited.listed sound.2 safe.1⟩
  exact ⟨fun _ => rfl, fun x => Or.inl ⟨rfl, by simp, Or.inl (by simp)⟩, fun x absent there => absurd absent there⟩

theorem keeps_of_trimmed {body : Action Unit} (maintains : ∀ c, body.Maintains (Trimmed c)) :
    body.Keeps (Safe space) (Sound space) fun _ _ => True := by
  refine keeps_of_maintains (J := fun s => Trimmed s.rows) (fun s => maintains s.rows) (fun s m _ => ?_)
    fun s w sound trimmed safe => ⟨trimmed.levelled sound.1 sound.2 safe.1 safe.2, trimmed.listed sound.2⟩
  exact ⟨fun x => Or.inl ⟨rfl, rfl⟩, fun p => Or.inl rfl⟩

theorem keeps_of_refiled {body : Action Unit} (maintains : ∀ c, body.Maintains (Refiled c)) :
    body.Keeps (Safe space) (Sound space) fun _ _ => True := by
  refine keeps_of_maintains (J := fun s => Refiled s.rows) (fun s => maintains s.rows) (fun s m _ => ?_)
    fun s w sound refiled safe => ⟨refiled.levelled sound.1 safe.2, refiled.listed sound.2 safe.1⟩
  exact ⟨fun x => rfl, fun p => Or.inl rfl⟩

theorem alone_keeps {body : Action Unit} (keeps : body.Keeps (Safe space) (Sound space) fun _ _ => True) :
    (alone body).All fun _ body => body.Keeps (Safe space) (Sound space) fun _ _ => True :=
  .tx keeps (fun _ => .done _) fun _ => .done _

theorem saveUpdated_keeps (id : Id) (dto : UpdateCategoryDto) (mem : Category) (children : List Id) :
    (saveUpdated space id dto mem children).All fun _ body => body.Keeps (Safe space) (Sound space) fun _ _ => True := by
  unfold saveUpdated
  split
  · exact .done _
  · exact alone_keeps (keeps_of_edited fun c => maintains_saveCategory id mem children)

theorem asked_keeps {r : Request} (asked : Asked space generateSlug r) :
    r.All fun _ body => body.Keeps (Safe space) (Sound space) fun _ _ => True := by
  cases asked with
  | create dto newId =>
    refine .tx (keeps_select _ fun _ => trivial) (fun isExist => ?_) fun _ => .done _
    split
    · exact .done _
    · split
      · exact alone_keeps (keeps_of_edited fun c => maintains_insertCategory _ _)
      · refine .tx (keeps_select _ fun _ => trivial) (fun found => ?_) fun _ => .done _
        cases found with
        | none => exact .done _
        | some parent =>
          dsimp only
          split
          · exact .done _
          · exact alone_keeps (keeps_of_edited fun c => maintains_insertCategory _ _)
  | update id dto =>
    refine .tx (keeps_select _ fun _ => trivial) (fun found => ?_) fun _ => .done _
    cases found with
    | none => exact .done _
    | some found =>
      obtain ⟨loaded, children⟩ := found
      dsimp only
      split
      · exact saveUpdated_keeps _ _ _ _
      · exact saveUpdated_keeps _ _ _ _
      · split
        · exact .done _
        · refine .tx (keeps_select _ fun _ => trivial) (fun found => ?_) fun _ => .done _
          cases found with
          | none => exact .done _
          | some parent =>
            dsimp only
            split
            · exact .done _
            · split
              · exact .done _
              · exact saveUpdated_keeps _ _ _ _
  | remove id =>
    refine .tx (keeps_select _ fun _ => trivial) (fun found => ?_) fun _ => .done _
    cases found with
    | none => exact .done _
    | some found => exact alone_keeps (keeps_of_trimmed fun c => maintains_deleteCategory _ _)
  | createProduct shop files category newId =>
    unfold createProduct
    split
    · exact .done _
    · refine .tx (keeps_select _ fun _ => trivial) (fun checked => ?_) fun _ => .done _
      cases checked with
      | error e => exact .done _
      | ok _ =>
        dsimp only
        split
        · exact .done _
        · exact alone_keeps (keeps_of_refiled fun c => maintains_insertProduct newId ⟨some category⟩)
  | updateProduct checks edits id category =>
    refine .tx (keeps_select _ fun _ => trivial) (fun found => ?_) fun _ => .done _
    cases found with
    | none => exact .done _
    | some product =>
      dsimp only
      split
      · exact .done _
      · split
        · exact .done _
        · exact alone_keeps (keeps_of_refiled fun c => maintains_saveProduct _ _)
      · refine .tx (keeps_select _ fun _ => trivial) (fun checked => ?_) fun _ => .done _
        cases checked with
        | error e => exact .done _
        | ok _ =>
          dsimp only
          split
          · exact .done _
          · exact alone_keeps (keeps_of_refiled fun c => maintains_saveProduct _ _)

end

end Marketplace.Categories
