import Marketplace.ReadCommitted.Guarded
import Marketplace.ReadCommitted.Loads
import Marketplace.Schema
import Mathlib.Algebra.GroupWithZero.Nat

/-! `createReview`, and the saves of a product whose rating it keeps. -/
namespace Marketplace.Reviews
open ReadCommitted ReadCommitted.Tx

/-- A rating that the validation lets through. -/
structure Rating where
  value : Nat
  atLeast : 1 ≤ value
  atMost : value ≤ 5
deriving DecidableEq

structure Review where
  user : Id
  orderItem : Id
  rating : Option Rating
  comment : Option String
deriving DecidableEq

/-- The columns of moderation and rating, and some that a seller edits. The rating is in tenths, as `decimal(2,1)` holds it. -/
structure Product where
  name : String
  price : Money
  isHidden : Bool
  status : ProductStatus
  moderationReason : Option String
  moderatedAt : Option Time
  moderatedBy : Option Id
  avgRating : Nat
  reviewCount : Nat
deriving DecidableEq

inductive Key where
  /-- A review never changes its product. -/
  | review (product id : Id)
  | product (id : Id)
deriving DecidableEq

@[reducible] def Row : Key → Type
  | .review _ _ => Review
  | .product _ => Product

/-- What a transaction leaves: a row of the outbox, or a mark for the specification. -/
inductive Mark where
  | reviewCreated (review product : Id) (rating : Rating)
  /-- A save of a product, with the row that it has re-read. -/
  | saved (product : Id) (mem : Product) (reread : Option Product)
deriving DecidableEq

abbrev Db := Rows (Table Row)
abbrev Action := Tx (Table Row) Mark Err
abbrev Request := Req (Table Row) Mark Err (Except Err Unit)

/-- `Number` of a quotient between 1 and 8: the nearest double, as a numerator and the exponent of its denominator 2 ^ e. -/
def toNumber (sum count : Nat) : Nat × Nat :=
  let e := if sum < 2 * count then 52 else if sum < 4 * count then 51 else 50
  let q := sum * 2 ^ e / count
  let r := sum * 2 ^ e % count
  (if 2 * r < count ∨ (2 * r = count ∧ q % 2 = 0) then q else q + 1, e)

/-- `toFixed(1)`, in tenths: of two that are as near, the larger. -/
def toFixed1 (x : Nat × Nat) : Nat := (20 * x.1 + 2 ^ x.2) / 2 ^ (x.2 + 1)

/-- `AVG` leaves nulls out, and is null of nothing. -/
def avgVal (reviews : List Review) : Nat :=
  let ratings := reviews.filterMap fun review => review.rating.map (·.value)
  if ratings = [] then 0 else toFixed1 (toNumber ratings.sum ratings.length)

def cntVal (reviews : List Review) : Nat := reviews.length

/-- 4.35 is a little below, 4.45 a little above the decimal. -/
example : toFixed1 (toNumber 87 20) = 43 ∧ toFixed1 (toNumber 89 20) = 45 ∧ toFixed1 (toNumber 17 4) = 43 := by decide

def productColumns : Columns Product where
  write mem r c :=
    { name := column mem.name r.name c.name
      price := column mem.price r.price c.price
      isHidden := column mem.isHidden r.isHidden c.isHidden
      status := column mem.status r.status c.status
      moderationReason := column mem.moderationReason r.moderationReason c.moderationReason
      moderatedAt := column mem.moderatedAt r.moderatedAt c.moderatedAt
      moderatedBy := column mem.moderatedBy r.moderatedBy c.moderatedBy
      avgRating := column mem.avgRating r.avgRating c.avgRating
      reviewCount := column mem.reviewCount r.reviewCount c.reviewCount }
  same := by intro mem c; simp
  fresh := by intro mem r; simp

/-- `manager.save(Product, product)`. -/
def saveProduct (id : Id) (mem : Product) : Action Unit := do
  match ← select fun d => d (.product id) with
  | none =>
    note (.saved id mem none)
    insert (.product id) mem (.uniqueViolation "product.id")
  | some reread =>
    note (.saved id mem (some reread))
    if mem = reread then pure () else modify (.product id) (Option.map (productColumns.write mem reread))

/-- An order item with what `createReview` asks of it. -/
structure OrderItem where
  buyer : Option Id
  subOrderStatus : Option OrderStatus
  product : Option Id
deriving DecidableEq

structure CreateReviewDto where
  orderItemId : Id
  rating : Rating
  comment : Option String
deriving DecidableEq

structure UpdateProductDto where
  name : Option String
  price : Option Money
  isHidden : Option Bool
  status : Option ProductStatus
deriving DecidableEq

def UpdateProductDto.assign (dto : UpdateProductDto) (product : Product) : Product :=
  { product with
    name := dto.name.getD product.name
    price := dto.price.getD product.price
    isHidden := dto.isHidden.getD product.isHidden
    status := dto.status.getD product.status }

def alone (body : Action Unit) : Request := .tx body (fun _ => .done (.ok ())) fun e => .done (.error e)

-- the ids that the uuid column of a review can hold
variable (space : List Id)

def reviewsOf (product : Id) (d : Db) : List Review := space.filterMap fun id => d (.review product id)

def lockProductRow (product : Id) : Action Unit := lockRow (.product product)

def applyRatingStats (product : Id) (avgRating reviewCount : Nat) : Action Unit :=
  modify (.product product) (Option.map fun row => { row with avgRating, reviewCount })

def storeReview (product : Id) (review : Review) (rating : Rating) (newId : Id) : Action Unit := do
  insert (.review product newId) review (.uniqueViolation "review.id")
  lockProductRow product
  let reviews ← select (reviewsOf space product)
  applyRatingStats product (avgVal reviews) (cntVal reviews)
  note (.reviewCreated newId product rating)

/-- `found` is the order item as the orders service answers. -/
def createReview (user : Id) (dto : CreateReviewDto) (found : Option OrderItem) (newId : Id) : Request :=
  match found with
  | none => .done (.error (.notFound "Không tìm thấy mục đơn hàng"))
  | some orderItem =>
    if orderItem.buyer ≠ some user then .done (.error (.forbidden "Bạn chỉ đánh giá được sản phẩm trong đơn của mình"))
    else if orderItem.subOrderStatus ≠ some .delivered then
      .done (.error (.forbidden "Chỉ đánh giá được sau khi đã nhận hàng"))
    else
      match orderItem.product with
      | none => .done (.error (.badRequest "Sản phẩm không còn tồn tại để đánh giá"))
      | some product =>
        .tx (select fun d => (reviewsOf space product d).any fun review => review.orderItem = dto.orderItemId)
          (fun dup =>
            if dup then .done (.error (.conflict "Bạn đã đánh giá lần mua này rồi"))
            else alone (storeReview space product ⟨user, dto.orderItemId, some dto.rating, dto.comment⟩ dto.rating newId))
          fun e => .done (.error e)

def findProduct (id : Id) (d : Db) : Option Product := d (.product id)

/-- The seller's `update`. `shop` is what the checks of the shop come to, `edits` what the rest of the body does. -/
def update (id : Id) (dto : UpdateProductDto) (shop edits : Except Err Unit) : Request :=
  .tx (select (findProduct id))
    (fun
      | none => .done (.error (.notFound "Không tìm thấy sản phẩm"))
      | some product =>
        if product.status = .suspended then
          .done (.error (.forbidden "Sản phẩm đang bị gỡ do vi phạm — liên hệ quản trị viên để khôi phục."))
        else if dto.status = some .suspended then .done (.error (.forbidden "Không thể tự đặt trạng thái \"bị gỡ\"."))
        else
          match shop, edits with
          | .error e, _ => .done (.error e)
          | .ok _, .error e => .done (.error e)
          | .ok _, .ok _ => alone (saveProduct id (dto.assign product)))
    fun e => .done (.error e)

def takeDown (admin id : Id) (reason : String) (now : Time) : Request :=
  alone do
    let found ← select (findProduct id)
    let product ← orFail (.notFound "Không tìm thấy sản phẩm") found
    require (product.status ≠ .deleted) (.badRequest "Sản phẩm đã bị xóa, không thể gỡ.")
    require (product.status ≠ .suspended) (.badRequest "Sản phẩm đã bị gỡ trước đó.")
    saveProduct id
      { product with status := .suspended, moderationReason := some reason, moderatedAt := some now, moderatedBy := some admin }

def restore (admin id : Id) (now : Time) : Request :=
  alone do
    let found ← select (findProduct id)
    let product ← orFail (.notFound "Không tìm thấy sản phẩm") found
    require (product.status = .suspended) (.badRequest "Chỉ khôi phục được sản phẩm đang bị gỡ.")
    saveProduct id { product with status := .active, moderationReason := none, moderatedAt := some now, moderatedBy := some admin }

/-- The seller's `remove`: an `UPDATE` of other columns. `shop` is what the checks of the shop come to. -/
def remove (id : Id) (shop : Product → Except Err Unit) : Request :=
  .tx (select (findProduct id))
    (fun
      | none => .done (.error (.notFound "Không tìm thấy sản phẩm"))
      | some product =>
        match shop product with
        | .error e => .done (.error e)
        | .ok _ => alone (modify (.product id) (Option.map fun row => { row with status := .deleted })))
    fun e => .done (.error e)

inductive Asked : Request → Prop
  | createReview (user : Id) (dto : CreateReviewDto) (found : Option OrderItem) (newId : Id) (listed : newId ∈ space) :
      Asked (createReview space user dto found newId)
  | update (id : Id) (dto : UpdateProductDto) (shop edits : Except Err Unit) : Asked (update id dto shop edits)
  | takeDown (admin id : Id) (reason : String) (now : Time) : Asked (takeDown admin id reason now)
  | restore (admin id : Id) (now : Time) : Asked (restore admin id now)
  | remove (id : Id) (shop : Product → Except Err Unit) : Asked (remove id shop)

/-- The rating of the product is that of its reviews. -/
def Rated (d : Db) (id : Id) (product : Product) : Prop :=
  product.avgRating = avgVal (reviewsOf space id d) ∧ product.reviewCount = cntVal (reviewsOf space id d)

instance (d : Db) (id : Id) (product : Product) : Decidable (Rated space d id product) :=
  inferInstanceAs (Decidable (_ ∧ _))

def AllRated (d : Db) : Prop := ∀ id product, d (.product id) = some product → Rated space d id product

/-- A save writes no rating, as the one it has loaded is the one it has re-read; or it writes the one that stands. -/
def Mark.Safe (d : Db) : Mark → Prop
  | .saved id mem (some reread) => ∀ row ∈ d (.product id),
      (mem.avgRating = reread.avgRating ∨ mem.avgRating = row.avgRating) ∧
        (mem.reviewCount = reread.reviewCount ∨ mem.reviewCount = row.reviewCount)
  | .saved id mem none => Rated space d id mem
  | .reviewCreated .. => True

instance (d : Db) (e : Mark) : Decidable (e.Safe space d) := by
  unfold Mark.Safe
  split <;> infer_instance

def Safe (s : Store (Table Row) Mark) (log : List Mark) : Prop := ∀ e ∈ log, e.Safe space s.rows

instance (s : Store (Table Row) Mark) (log : List Mark) : Decidable (Safe space s log) :=
  inferInstanceAs (Decidable (∀ e ∈ log, e.Safe space s.rows))

/-- A review is added only while its product is locked. -/
def LockedWith (j k : Key) : Prop := ∃ p id, j = .review p id ∧ k = .product p

variable {space : List Id}

theorem reviewsOf_congr {product : Id} {d d' : Db} (same : ∀ id, d' (.review product id) = d (.review product id)) :
    reviewsOf space product d' = reviewsOf space product d := by
  simp only [reviewsOf, same]

theorem Rated.congr {product : Id} {row : Product} {d d' : Db} (rated : Rated space d product row)
    (same : ∀ id, d' (.review product id) = d (.review product id)) : Rated space d' product row := by
  unfold Rated
  rw [reviewsOf_congr same]
  exact rated

/-- Where one product and its reviews change, only its rating is in question. -/
theorem AllRated.of_one {d d' : Db} (rated : AllRated space d) (product : Id)
    (products : ∀ q, q ≠ product → d' (.product q) = d (.product q))
    (reviews : ∀ q id, q ≠ product → d' (.review q id) = d (.review q id))
    (own : ∀ row, d' (.product product) = some row → Rated space d' product row) : AllRated space d' := by
  intro q row found
  by_cases same : q = product
  · subst same
    exact own row found
  · rw [products q same] at found
    exact (rated q row found).congr fun id => reviews q id same

/-- What a save that is safe writes has the rating that stands. -/
theorem rated_write {id : Id} {mem reread row : Product} {s : Store (Table Row) Mark} {log : List Mark}
    (rated : AllRated space s.rows) (safe : Safe space s log) (saved : Mark.saved id mem (some reread) ∈ log)
    (stands : s.rows (.product id) = some row) : Rated space s.rows id (productColumns.write mem reread row) := by
  obtain ⟨average, count⟩ := safe _ saved row stands
  have standing := rated id row stands
  have sameAverage : (productColumns.write mem reread row).avgRating = row.avgRating := by
    rcases average with same | same <;> simp [productColumns, column, same]
  have sameCount : (productColumns.write mem reread row).reviewCount = row.reviewCount := by
    rcases count with same | same <;> simp [productColumns, column, same]
  exact ⟨sameAverage.trans standing.1, sameCount.trans standing.2⟩

variable (space) in
/-- What a transaction that adds no review leaves. -/
def KeepsRating (s : Store (Table Row) Mark) (w : View (Table Row) Mark) : Prop :=
  (Safe space s w.log → AllRated space w.rows) ∧ ∀ product id, w.rows (.review product id) = s.rows (.review product id)

theorem KeepsRating.of_product {s : Store (Table Row) Mark} {w : View (Table Row) Mark} (rated : AllRated space s.rows) (id : Id)
    (others : ∀ k, k ≠ .product id → w.rows k = s.rows k)
    (own : Safe space s w.log → ∀ row, w.rows (.product id) = some row → Rated space s.rows id row) : KeepsRating space s w := by
  have reviews : ∀ product review, w.rows (.review product review) = s.rows (.review product review) :=
    fun product review => others _ (by simp)
  refine ⟨fun safe => ?_, reviews⟩
  refine rated.of_one id (fun q other => others _ (by simpa using other)) (fun q review _ => reviews q review) ?_
  exact fun row found => (own safe row found).congr (reviews id)

section
variable {I : Isolation (Table Row) Mark} {v : View (Table Row) Mark} {s : Store (Table Row) Mark}

theorem wp_saveProduct {id : Id} {mem : Product} (rated : AllRated space s.rows) (rows : v.rows = s.rows) :
    (saveProduct id mem).wp I (fun _ w => KeepsRating space s w) (fun _ => True) v := by
  unfold saveProduct
  rw [wp_bind, wp_select]
  intro d m _
  cases d (.product id) with
  | none =>
    rw [wp_bind, wp_note]
    refine wp_insert (fun _ => trivial) fun w more _ _ stored => .of_product rated id (fun k other => ?_) fun safe row found => ?_
    · exact (more.rows k other).trans (congrFun rows k)
    · rw [stored] at found
      cases found
      exact safe (.saved id mem none) (by rw [more.log_same]; simp)
  | some reread =>
    rw [wp_bind, wp_note, wp_ite]
    refine ⟨fun _ => ?_, fun _ => ?_⟩
    · exact .of_product rated id (fun k _ => congrFun rows k) fun _ row found => rated id row (rows ▸ found)
    · refine .of_product rated id (fun k other => ?_) fun safe row found => ?_
      · rw [View.put_rows_other _ _ other]
        exact congrFun rows k
      · rw [View.put_rows_self] at found
        obtain ⟨standing, stands, rfl⟩ := Option.map_eq_some_iff.mp found
        have saved : Mark.saved id mem (some reread) ∈ v.log ++ [.saved id mem (some reread)] := by simp
        exact rated_write rated safe saved ((congrFun rows _).symm.trans stands)

end

abbrev Keeping {α : Type} (space : List Id) (t : Action α) : Prop :=
  t.KeepsGuarded LockedWith (Safe space) (fun s => AllRated space s.rows) fun _ _ => True

theorem keeping_of_rating {t : Action Unit}
    (keeps : ∀ (I : Isolation (Table Row) Mark) (s : Store (Table Row) Mark) (m : Nat), AllRated space s.rows →
      t.wp I (fun _ w => KeepsRating space s w) (fun _ => True) (View.start s.rows m)) : Keeping space t := by
  intro h m valid _ _
  refine wp_mono _ (keeps _ h.current m (valid h.now (Nat.le_refl _))) (fun _ w kept _ safe => ?_) fun _ e => e
  refine ⟨kept.1 safe, trivial, fun j k guards _ => ?_⟩
  obtain ⟨product, id, rfl, _⟩ := guards
  exact kept.2 product id

def withRating (reviews : List Review) (row : Product) : Product :=
  { row with avgRating := avgVal reviews, reviewCount := cntVal reviews }

/-- The rating is taken of the reviews that stand at the commit. -/
theorem wp_storeReview {h : History (Table Row) Mark} {m : Nat} {product : Id} {review : Review} {rating : Rating} {newId : Id}
    {Q : Unit → View (Table Row) Mark → Prop}
    (post : ∀ w, (∀ k, k ≠ .review product newId → k ≠ .product product → w.rows k = h.current.rows k) →
      w.rows (.product product) = (h.current.rows (.product product)).map (withRating (reviewsOf space product w.rows)) →
      w.held (.product product) = true → Q () w) :
    (storeReview space product review rating newId).wp (h.guarded LockedWith) Q (fun _ => True) (View.start h.current.rows m) := by
  unfold storeReview lockProductRow applyRatingStats
  rw [wp_bind]
  refine wp_insert (fun _ => trivial) fun w more held _ _ => ?_
  rw [wp_bind, wp_lockRow, wp_bind, wp_select]
  intro d n sees
  have read : reviewsOf space product d = reviewsOf space product w.rows := reviewsOf_congr fun id => by
    refine History.sees_guarded sees ⟨product, id, rfl, rfl⟩ (View.hold_self w _) fun free => more.rows _ fun same => ?_
    have locked : w.held (.review product id) = true := by rw [same]; exact held
    rw [View.hold_held w _ _ locked] at free
    cases free
  rw [wp_bind, wp_modify, wp_note]
  have others : ∀ k, k ≠ .product product →
      (View.put ((w.hold (.product product)).looking n) (.product product) (Option.map (withRating (reviewsOf space product d)))).rows k =
        w.rows k := fun k other => View.put_rows_other _ _ other
  refine post _ (fun k notReview notProduct => (others k notProduct).trans (more.rows k notReview)) ?_
    (View.put_held_self _ _ (Option.map (withRating (reviewsOf space product d))))
  have standing : w.rows (.product product) = h.current.rows (.product product) := more.rows _ (by simp)
  have counted := read.trans (reviewsOf_congr fun id => others (.review product id) (by simp)).symm
  refine (View.put_rows_self ..).trans ?_
  rw [View.looking_rows, View.hold_rows, standing]
  exact congrArg (fun reviews => (h.current.rows (.product product)).map (withRating reviews)) counted

theorem keeping_storeReview (product : Id) (review : Review) (rating : Rating) (newId : Id) :
    Keeping space (storeReview space product review rating newId) := by
  intro h m valid _ _
  have rated : AllRated space h.current.rows := valid h.now (Nat.le_refl _)
  refine wp_storeReview fun w others recounted held _ _ => ?_
  have reviews : ∀ q id, q ≠ product → w.rows (.review q id) = h.current.rows (.review q id) := fun q id other =>
    others _ (by simp [other]) (by simp)
  refine ⟨rated.of_one product (fun q other => others _ (by simp) (by simpa using other)) reviews fun row found => ?_, trivial,
    fun j k guards free => ?_⟩
  · obtain ⟨standing, _, rfl⟩ := Option.map_eq_some_iff.mp (recounted.symm.trans found)
    exact ⟨rfl, rfl⟩
  · obtain ⟨q, id, rfl, rfl⟩ := guards
    refine reviews q id ?_
    rintro rfl
    cases held.symm.trans free

theorem keeping_select {α : Type} (f : Db → α) : Keeping space (select f) := keepsGuarded_select f fun _ => trivial

theorem alone_keeping {t : Action Unit} (now : Keeping space t) : (alone t).All fun _ body => Keeping space body :=
  .tx now (fun _ => .done _) fun _ => .done _

theorem keeping_saveProduct (id : Id) (mem : Product) : Keeping space (saveProduct id mem) :=
  keeping_of_rating fun _ _ _ rated => wp_saveProduct rated rfl

/-- A moderator loads the product in the transaction that saves it. -/
theorem keeping_moderate (id : Id) (missing : Err) {rest : Product → Action Unit}
    (keeps : ∀ (product : Product) (I : Isolation (Table Row) Mark) (v : View (Table Row) Mark) (s : Store (Table Row) Mark),
      AllRated space s.rows → v.rows = s.rows → (rest product).wp I (fun _ w => KeepsRating space s w) (fun _ => True) v) :
    Keeping space (do
      let found ← select (findProduct id)
      let product ← orFail missing found
      rest product) := by
  refine keeping_of_rating fun I s m rated => ?_
  rw [wp_bind, wp_select]
  intro d n _
  rw [wp_bind, wp_orFail]
  exact ⟨fun product _ => keeps product I _ s rated rfl, fun _ => trivial⟩

theorem asked_keeps {request : Request} (asked : Asked space request) : request.All fun _ body => Keeping space body := by
  cases asked with
  | createReview user dto found newId =>
    unfold createReview
    cases found with
    | none => exact .done _
    | some orderItem =>
      dsimp only
      split
      · exact .done _
      · split
        · exact .done _
        · cases orderItem.product with
          | none => exact .done _
          | some product =>
            refine .tx (keeping_select _) (fun dup => ?_) fun _ => .done _
            split
            · exact .done _
            · exact alone_keeping (keeping_storeReview product _ _ newId)
  | update id dto shop edits =>
    refine .tx (keeping_select _) (fun found => ?_) fun _ => .done _
    cases found with
    | none => exact .done _
    | some product =>
      dsimp only
      split
      · exact .done _
      · split
        · exact .done _
        · cases shop with
          | error e => exact .done _
          | ok _ =>
            cases edits with
            | error e => exact .done _
            | ok _ => exact alone_keeping (keeping_saveProduct id _)
  | takeDown admin id reason now =>
    refine alone_keeping (keeping_moderate id _ fun product I v s rated rows => ?_)
    rw [wp_bind, wp_require]
    refine ⟨fun _ => ?_, fun _ => trivial⟩
    rw [wp_bind, wp_require]
    exact ⟨fun _ => wp_saveProduct rated rows, fun _ => trivial⟩
  | restore admin id now =>
    refine alone_keeping (keeping_moderate id _ fun product I v s rated rows => ?_)
    rw [wp_bind, wp_require]
    exact ⟨fun _ => wp_saveProduct rated rows, fun _ => trivial⟩
  | remove id shop =>
    refine .tx (keeping_select _) (fun found => ?_) fun _ => .done _
    cases found with
    | none => exact .done _
    | some product =>
      dsimp only
      cases shop product with
      | error e => exact .done _
      | ok _ =>
        refine alone_keeping (keeping_of_rating fun I s m rated => ?_)
        rw [wp_modify]
        refine .of_product rated id (fun k other => View.put_rows_other _ _ other) fun _ row found => ?_
        rw [View.put_rows_self] at found
        obtain ⟨standing, stands, rfl⟩ := Option.map_eq_some_iff.mp found
        exact rated id standing stands

/-- In every run whose saves of products leave the ratings that stand, each product has the count and the rounded mean of its
reviews. -/
theorem rating_kept {r : Nat → Request} {s : Store (Table Row) Mark} {c : Conf (Table Row) Mark Err (Except Err Unit)}
    (asked : ∀ i, Asked space (r i)) (rated : AllRated space s.rows) (run : Moves (Safe space) .database (Conf.start s r) c) :
    AllRated space c.store.rows :=
  keepsGuarded_safe (fun _ => trivial) (fun _ _ => trivial) rated (fun i => asked_keeps (asked i)) run

/-- A product without reviews. -/
def mug : Product where
  name := "Mug"
  price := 100
  isHidden := false
  status := .active
  moderationReason := none
  moderatedAt := none
  moderatedBy := none
  avgRating := 0
  reviewCount := 0

def shelf : Store (Table Row) Mark where
  rows
    | .product 1 => some mug
    | _ => none
  journal := []

theorem shelf_rated (space : List Id) : AllRated space shelf.rows := by
  intro id product found
  have one : id = 1 := by
    by_contra other
    simp [shelf, other] at found
  subst one
  cases found
  have none : reviewsOf space 1 shelf.rows = [] := List.filterMap_eq_nil_iff.mpr fun _ _ => rfl
  unfold Rated
  rw [none]
  decide

def rate (user newId : Id) (rating : Rating) : Request :=
  createReview [1, 2] user ⟨newId, rating, none⟩ (some ⟨some user, some .delivered, some 1⟩) newId

theorem rate_asked (user newId : Id) (rating : Rating) (listed : newId ∈ [1, 2]) : Asked [1, 2] (rate user newId rating) :=
  .createReview user _ _ newId listed

def rename : Request := update 1 ⟨some "Big mug", none, none, none⟩ (.ok ()) (.ok ())

/-- Two buyers rate the product while its seller renames it. -/
def rating : Nat → Request
  | 0 => rate 7 1 ⟨5, by decide, by decide⟩
  | 1 => rate 8 2 ⟨4, by decide, by decide⟩
  | _ => rename

theorem rating_asked (i : Nat) : Asked [1, 2] (rating i) := by
  match i with
  | 0 => exact rate_asked 7 1 _ (by decide)
  | 1 => exact rate_asked 8 2 _ (by decide)
  | _ + 2 => exact .update 1 ⟨some "Big mug", none, none, none⟩ (.ok ()) (.ok ())

/-- Both reviews are inserted before either is counted. -/
def together : List Nat :=
  List.replicate 7 0 ++ List.replicate 7 1 ++ List.replicate 5 0 ++ List.replicate 5 1 ++ List.replicate 8 2

theorem four_and_a_half : ∃ c : Conf (Table Row) Mark Err (Except Err Unit),
    c.store.rows (.product 1) = some { mug with name := "Big mug", avgRating := 45, reviewCount := 2 } ∧
      AllRated [1, 2] c.store.rows := by
  have obeys : (Conf.start shelf rating).Obeys (Safe [1, 2]) together := by decide +kernel
  have found : ∃ c ∈ (Conf.start shelf rating).play together,
      c.store.rows (.product 1) = some { mug with name := "Big mug", avgRating := 45, reviewCount := 2 } := by decide +kernel
  obtain ⟨c, run, rated⟩ := Conf.exists_moves Err.database obeys found
  exact ⟨c, rated, rating_kept rating_asked (shelf_rated _) run⟩

/-- The seller renames the product while its first buyer rates it; the others rate what they have not bought. -/
def editing : Nat → Request
  | 0 => rate 7 1 ⟨5, by decide, by decide⟩
  | 1 => rename
  | _ => createReview [1, 2] 9 ⟨3, ⟨5, by decide, by decide⟩, none⟩ none 2

theorem editing_asked (i : Nat) : Asked [1, 2] (editing i) := by
  match i with
  | 0 => exact rate_asked 7 1 _ (by decide)
  | 1 => exact .update 1 ⟨some "Big mug", none, none, none⟩ (.ok ()) (.ok ())
  | _ + 2 => exact .createReview 9 ⟨3, ⟨5, by decide, by decide⟩, none⟩ none 2 (by decide)

/-- The review is committed between the load of the product and its save. -/
def between : List Nat := List.replicate 3 1 ++ List.replicate 12 0 ++ List.replicate 5 1

theorem not_rating_kept :
    ¬ ∀ (space : List Id) (r : Nat → Request) (s : Store (Table Row) Mark) (c : Conf (Table Row) Mark Err (Except Err Unit)),
      (∀ i, Asked space (r i)) → AllRated space s.rows → Moves (fun _ _ => True) .database (Conf.start s r) c →
      (∀ i, (c.thread i).answered = true) → AllRated space c.store.rows := by
  intro claimed
  have found : ∃ c ∈ (Conf.start shelf editing).play between,
      ((c.thread 0).answered = true ∧ (c.thread 1).answered = true) ∧
        (c.store.rows (.review 1 1)).isSome = true ∧ c.store.rows (.product 1) = some { mug with name := "Big mug" } := by
    decide +kernel
  obtain ⟨c, played, ⟨first, second⟩, reviewed, lost⟩ := found
  have run : Moves (fun _ _ => True) .database (Conf.start shelf editing) c :=
    Conf.play_moves played (Conf.obeys_any _ between)
  have all : ∀ i, (c.thread i).answered = true := by
    intro i
    match i with
    | 0 => exact first
    | 1 => exact second
    | i + 2 =>
      rw [Conf.play_thread played (by simp [between])]
      rfl
  have rated := claimed [1, 2] editing shelf c editing_asked (shelf_rated _) run all 1 _ lost
  obtain ⟨review, there⟩ := Option.isSome_iff_exists.mp reviewed
  have counted : 0 = (reviewsOf [1, 2] 1 c.store.rows).length := rated.2
  simp [reviewsOf, there] at counted

end Marketplace.Reviews
