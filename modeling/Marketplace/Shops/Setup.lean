import Marketplace.Fallible
import Marketplace.Shops.Schema
import Mathlib.Tactic.IntervalCases

/-! `setupInitialShop`: its uploads and statements, and what it undoes after a failure. -/
namespace Marketplace.Shops
open Fallible Fallible.Attempt

inductive AssetType where
  | shopLogo | shopBanner | shopGallery | productImage | productThumbnail | productGallery | productVariantImage | userAvatar
deriving DecidableEq

structure MediaAsset where
  id : Id
  publicId : String
  url : String
  type : AssetType
  owner : Id
  shop : Option Id
deriving DecidableEq

/-- A file at Cloudinary. -/
structure StoredFile where
  publicId : String
  url : String
  folder : String
  content : String
deriving DecidableEq

structure ShopRegistered where
  shopId : Id
  shopName : String
  isReapply : Bool
  adminIds : List Id
deriving DecidableEq

structure Account where
  id : Id
  isAdmin : Bool
  status : AccountStatus
deriving DecidableEq

/-- The tables that a setup touches, and the files. -/
structure Market where
  users : List Account
  shops : List (Id × Shop)
  shopCategories : List (Id × Id)
  outbox : List ShopRegistered
  assets : List MediaAsset
  files : List StoredFile
deriving DecidableEq

/-- An upload or a statement. The files count from the logo, 0, and the banner, 1. -/
inductive Point where
  | upload (file : Nat)
  | saveAsset (file : Nat)
  | saveShop
  | updateUser
  | findAdminIds
  | saveOutbox
  | updateAssetShopId (file : Nat)
  | findShop
  /-- The error thrown for a picture that has failed. -/
  | gallery
  | deleteFile (publicId : String)
  | deleteAssets
  | deleteShop
deriving DecidableEq

structure CreateShopDto where
  name : String
  description : Option String
  pickupAddress : String
  lat : Option Number
  lng : Option Number
  bankAccountInfo : BankAccountInfo
  categoryIds : List String

structure Files where
  logo : List String
  banner : List String
  gallery : List String

/-- What the database and Cloudinary give to the new rows and files. -/
structure Issued where
  shop : Id
  asset : Nat → Id
  publicId : Nat → String
  url : Nat → String

/-- What is known after validation. -/
structure Plan where
  seller : Id
  dto : CreateShopDto
  categories : List Id
  coordinates : Option (Number × Number)
  logo : String
  banner : String
  gallery : List String

def MAX_GALLERY_IMAGES : Nat := 3

/-- Coordinates from the frontend, else from the geocoder, else none. -/
def resolve (answer : String → GeocodeResult) (dto : CreateShopDto) : Option (Number × Number) :=
  match dto.lat, dto.lng with
  | some lat, some lng => some (lat, lng)
  | _, _ => (geocode answer (some dto.pickupAddress)).found

/-- What comes before the first upload. -/
def validate (answer : String → GeocodeResult) (rootCategories : List String → Except Err (List Id)) (userId : Id)
    (dto : CreateShopDto) (files : Files) (m : Market) : Except Err Plan := do
  let some _ := m.users.find? (·.id = userId) | throw (.notFound "Người dùng không tồn tại")
  if m.shops.any fun (_, shop) => shop.seller = userId then throw (.badRequest "Bạn đã có gian hàng trên hệ thống rồi")
  let categories ← rootCategories dto.categoryIds
  let coordinates := resolve answer dto
  let logo :: _ := files.logo | throw (.badRequest "Bắt buộc phải upload logo và banner")
  let banner :: _ := files.banner | throw (.badRequest "Bắt buộc phải upload logo và banner")
  if files.gallery = [] then throw (.badRequest "Vui lòng upload ít nhất 1 ảnh liên quan cho gian hàng")
  if MAX_GALLERY_IMAGES < files.gallery.length then throw (.badRequest "Chỉ được upload tối đa 3 ảnh liên quan")
  return ⟨userId, dto, categories, coordinates, logo, banner, files.gallery⟩

/-- The tables under way, with `uploadedAssets` and `savedShopId`. -/
structure Effort where
  market : Market
  uploadedAssets : List (Id × String)
  savedShopId : Option Id

section
variable (fails : Point → Bool) (issued : Issued)

abbrev Try := Attempt Point Effort

def Effort.on (f : Market → Market) (e : Effort) : Effort := { e with market := f e.market }

def storeFile (n : Nat) (folder content : String) (m : Market) : Market :=
  { m with files := m.files ++ [⟨issued.publicId n, issued.url n, folder, content⟩] }

def insertAsset (n : Nat) (type : AssetType) (owner : Id) (shop : Option Id) (m : Market) : Market :=
  { m with assets := m.assets ++ [⟨issued.asset n, issued.publicId n, issued.url n, type, owner, shop⟩] }

/-- The file is stored before its row is. -/
def uploadFile (n : Nat) (content folder : String) (owner : Id) (type : AssetType) (shop : Option Id) : Try Unit := do
  step fails (.upload n) (Effort.on (storeFile issued n folder content))
  step fails (.saveAsset n) (Effort.on (insertAsset issued n type owner shop))

/-- `uploadedAssets.push`. -/
def push (n : Nat) : Try Unit :=
  always fun e => { e with uploadedAssets := e.uploadedAssets ++ [(issued.asset n, issued.publicId n)] }

def assignShop (n : Nat) (shop : Id) (m : Market) : Market :=
  { m with assets := m.assets.map fun row => if row.id = issued.asset n then { row with shop := some shop } else row }

def updateAssetShopId (n : Nat) (shop : Id) : Try Unit :=
  step fails (.updateAssetShopId n) (Effort.on (assignShop issued n shop))

def Plan.shop (plan : Plan) : Shop where
  seller := plan.seller
  name := plan.dto.name
  logoUrl := some (issued.url 0)
  bannerUrl := some (issued.url 1)
  description := plan.dto.description
  bankAccountInfo := some plan.dto.bankAccountInfo
  pickupAddress := some plan.dto.pickupAddress
  lat := plan.coordinates.map (·.1)
  lng := plan.coordinates.map (·.2)
  isCoordinatesVerified := plan.coordinates.isSome
  status := .pendingApproval

def insertShop (plan : Plan) (m : Market) : Market :=
  { m with
    shops := m.shops ++ [(issued.shop, plan.shop issued)]
    shopCategories := m.shopCategories ++ plan.categories.map fun category => (issued.shop, category) }

def awaitApproval (user : Id) (m : Market) : Market :=
  { m with users := m.users.map fun row => if row.id = user then { row with status := .pendingApproval } else row }

def findAdminIds (m : Market) : List Id := (m.users.filter (·.isAdmin)).map (·.id)

def registered (plan : Plan) (adminIds : List Id) : ShopRegistered := ⟨issued.shop, plan.dto.name, false, adminIds⟩

def announce (event : ShopRegistered) (m : Market) : Market := { m with outbox := m.outbox ++ [event] }

/-- One picture of the gallery. The pictures go at once, and each touches only its own file and row. -/
def uploadPicture (plan : Plan) (picture : String × Nat) : Try Unit := do
  uploadFile fails issued (picture.2 + 2) picture.1 "shop/galleries" plan.seller .shopGallery (some issued.shop)
  push issued (picture.2 + 2)
  updateAssetShopId fails issued (picture.2 + 2) issued.shop

/-- One picture that failed is enough. -/
def throwOnFailed (results : List Bool) : Try Unit := fun e => if results.all id then (.ok (), e) else (.error .gallery, e)

/-- The rest of the `try`, when the event is in the outbox. -/
def attachAssets (plan : Plan) : Try Shop := do
  updateAssetShopId fails issued 0 issued.shop
  updateAssetShopId fails issued 1 issued.shop
  let results ← allSettled (plan.gallery.zipIdx.map (uploadPicture fails issued plan))
  throwOnFailed results
  step fails .findShop id
  return plan.shop issued

/-- The body of the `try`. -/
def createShop (plan : Plan) : Try Shop := do
  uploadFile fails issued 0 plan.logo "shop/logos" plan.seller .shopLogo none
  push issued 0
  uploadFile fails issued 1 plan.banner "shop/banners" plan.seller .shopBanner none
  push issued 1
  step fails .saveShop (Effort.on (insertShop issued plan))
  always fun e => { e with savedShopId := some issued.shop }
  step fails .updateUser (Effort.on (awaitApproval plan.seller))
  step fails .findAdminIds id
  let adminIds ← look fun e => findAdminIds e.market
  step fails .saveOutbox (Effort.on (announce (registered issued plan adminIds)))
  attachAssets fails issued plan

def deleteFiles (uploaded : List (Id × String)) (m : Market) : Market :=
  { m with files := m.files.filter fun file =>
      ¬ (file.publicId ∈ uploaded.map (·.2) ∧ fails (.deleteFile file.publicId) = false) }

def deleteAssets (uploaded : List (Id × String)) (m : Market) : Market :=
  if fails .deleteAssets then m else { m with assets := m.assets.filter fun row => row.id ∉ uploaded.map (·.1) }

/-- Its categories and its assets go with a shop. -/
def deleteShop (saved : Option Id) (m : Market) : Market :=
  match saved with
  | none => m
  | some shop =>
    if fails .deleteShop then m
    else
      { m with
        shops := m.shops.filter fun row => row.1 ≠ shop
        shopCategories := m.shopCategories.filter fun row => row.1 ≠ shop
        assets := m.assets.filter fun row => row.shop ≠ some shop }

/-- The `catch`. What fails here is only logged. -/
def cleanUp (e : Effort) : Market :=
  deleteShop fails e.savedShopId (deleteAssets fails e.uploadedAssets (deleteFiles fails e.uploadedAssets e.market))

def setupInitialShop (answer : String → GeocodeResult) (rootCategories : List String → Except Err (List Id)) (userId : Id)
    (dto : CreateShopDto) (files : Files) (m : Market) : Except Err Shop × Market :=
  match validate answer rootCategories userId dto files m with
  | .error e => (.error e, m)
  | .ok plan =>
    match createShop fails issued plan ⟨m, [], none⟩ with
    | (.ok shop, e) => (.ok shop, e.market)
    | (.error _, e) =>
      (.error (.internal "Hệ thống gặp sự cố khi tạo gian hàng. Vui lòng thử lại sau!"), cleanUp fails e)

/-- The rows of the logo and the banner. -/
def coverRows (plan : Plan) (shop : Option Id) : List MediaAsset :=
  [⟨issued.asset 0, issued.publicId 0, issued.url 0, .shopLogo, plan.seller, shop⟩,
    ⟨issued.asset 1, issued.publicId 1, issued.url 1, .shopBanner, plan.seller, shop⟩]

def coverFiles (plan : Plan) : List StoredFile :=
  [⟨issued.publicId 0, issued.url 0, "shop/logos", plan.logo⟩, ⟨issued.publicId 1, issued.url 1, "shop/banners", plan.banner⟩]

def pictureRow (plan : Plan) (picture : String × Nat) : MediaAsset :=
  ⟨issued.asset (picture.2 + 2), issued.publicId (picture.2 + 2), issued.url (picture.2 + 2), .shopGallery, plan.seller,
    some issued.shop⟩

def pictureFile (picture : String × Nat) : StoredFile :=
  ⟨issued.publicId (picture.2 + 2), issued.url (picture.2 + 2), "shop/galleries", picture.1⟩

/-- The database and the files after a setup. -/
def completed (plan : Plan) (m : Market) : Market where
  users := (awaitApproval plan.seller m).users
  shops := (insertShop issued plan m).shops
  shopCategories := (insertShop issued plan m).shopCategories
  outbox := m.outbox ++ [registered issued plan (findAdminIds m)]
  assets := m.assets ++ coverRows issued plan (some issued.shop) ++ plan.gallery.zipIdx.map (pictureRow issued plan)
  files := m.files ++ coverFiles issued plan ++ plan.gallery.zipIdx.map (pictureFile issued)

def picturePoints (n : Nat) : List Point := [.upload (n + 2), .saveAsset (n + 2), .updateAssetShopId (n + 2)]

/-- The points after the event is in the outbox. -/
def attachPoints (plan : Plan) : List Point :=
  [.updateAssetShopId 0, .updateAssetShopId 1] ++ plan.gallery.zipIdx.flatMap (fun picture => picturePoints picture.2) ++
    [.findShop]

/-- The points of a setup, in their order. -/
def points (plan : Plan) : List Point :=
  [.upload 0, .saveAsset 0, .upload 1, .saveAsset 1, .saveShop, .updateUser, .findAdminIds, .saveOutbox] ++ attachPoints plan

/-- The files that were stored, `n` of them, go with their rows. -/
def Sweeps (n : Nat) : Prop := (∀ i < n, fails (.deleteFile (issued.publicId i)) = false) ∧ fails .deleteAssets = false

def AwaitsApproval (user : Id) (m : Market) : Prop := ∀ row ∈ m.users, row.id = user → row.status = .pendingApproval

/-- What a setup undoes when the first point to fail is the given one. -/
def Undoes (user : Id) (m : Market) : Option Point → Prop
  | none => True
  | some (.upload 0) => True
  | some (.upload 1) => Sweeps fails issued 1
  | some .saveShop => Sweeps fails issued 2
  | some .updateUser => Sweeps fails issued 2 ∧ fails .deleteShop = false
  | some .findAdminIds => Sweeps fails issued 2 ∧ fails .deleteShop = false ∧ AwaitsApproval user m
  | some .saveOutbox => Sweeps fails issued 2 ∧ fails .deleteShop = false ∧ AwaitsApproval user m
  | some _ => False

end

/-- New ids are nobody's. -/
structure Fresh (issued : Issued) (m : Market) : Prop where
  shop : ∀ row ∈ m.shops, row.1 ≠ issued.shop
  shopCategory : ∀ row ∈ m.shopCategories, row.1 ≠ issued.shop
  assetOf : ∀ row ∈ m.assets, row.shop ≠ some issued.shop
  asset : ∀ n, ∀ row ∈ m.assets, row.id ≠ issued.asset n
  file : ∀ n, ∀ file ∈ m.files, file.publicId ≠ issued.publicId n
  assets : ∀ i j, issued.asset i = issued.asset j → i = j
  files : ∀ i j, issued.publicId i = issued.publicId j → i = j

section
variable {fails : Point → Bool} {issued : Issued} {plan : Plan} {m : Market}

/-- After so many files and rows of the logo and the banner. -/
def covers (issued : Issued) (plan : Plan) (files rows : Nat) (m : Market) : Market :=
  { m with
    files := m.files ++ (coverFiles issued plan).take files
    assets := m.assets ++ (coverRows issued plan none).take rows }

def pushed (issued : Issued) (n : Nat) : List (Id × String) := (List.range n).map fun i => (issued.asset i, issued.publicId i)

/-- When the event is in the outbox. -/
def announced (issued : Issued) (plan : Plan) (m : Market) : Effort :=
  let waiting := awaitApproval plan.seller (insertShop issued plan (covers issued plan 2 2 m))
  ⟨announce (registered issued plan (findAdminIds waiting)) waiting, pushed issued 2, some issued.shop⟩

theorem createShop_run : createShop fails issued plan ⟨m, [], none⟩ =
    if fails (.upload 0) then (.error (.upload 0), ⟨m, [], none⟩)
    else if fails (.saveAsset 0) then (.error (.saveAsset 0), ⟨covers issued plan 1 0 m, [], none⟩)
    else if fails (.upload 1) then (.error (.upload 1), ⟨covers issued plan 1 1 m, pushed issued 1, none⟩)
    else if fails (.saveAsset 1) then (.error (.saveAsset 1), ⟨covers issued plan 2 1 m, pushed issued 1, none⟩)
    else if fails .saveShop then (.error .saveShop, ⟨covers issued plan 2 2 m, pushed issued 2, none⟩)
    else if fails .updateUser then
      (.error .updateUser, ⟨insertShop issued plan (covers issued plan 2 2 m), pushed issued 2, some issued.shop⟩)
    else if fails .findAdminIds then
      (.error .findAdminIds,
        ⟨awaitApproval plan.seller (insertShop issued plan (covers issued plan 2 2 m)), pushed issued 2, some issued.shop⟩)
    else if fails .saveOutbox then
      (.error .saveOutbox,
        ⟨awaitApproval plan.seller (insertShop issued plan (covers issued plan 2 2 m)), pushed issued 2, some issued.shop⟩)
    else attachAssets fails issued plan (announced issued plan m) := by
  simp only [createShop, uploadFile, push, bind_assoc, step_bind, always_bind, look_bind]
  simp [Effort.on, storeFile, insertAsset, insertShop, awaitApproval, announce, covers,
    coverFiles, coverRows, pushed, announced, List.range_succ]

theorem filter_append_left {α : Type} {q : α → Bool} {old new : List α} (kept : ∀ x ∈ old, q x = true) :
    (old ++ new).filter q = old ↔ ∀ x ∈ new, q x = false := by
  rw [List.filter_append, List.filter_eq_self.mpr kept, List.append_right_eq_self, List.filter_eq_nil_iff]
  simp

theorem market_eq {a b : Market} : a = b ↔ a.files = b.files ∧ a.assets = b.assets ∧ a.users = b.users ∧
    a.outbox = b.outbox ∧ a.shops = b.shops ∧ a.shopCategories = b.shopCategories := by
  cases a
  cases b
  simp only [Market.mk.injEq]
  constructor
  · rintro ⟨users, shops, categories, outbox, assets, files⟩
    exact ⟨files, assets, users, outbox, shops, categories⟩
  · rintro ⟨files, assets, users, outbox, shops, categories⟩
    exact ⟨users, shops, categories, outbox, assets, files⟩

section
variable {saved : Option Id} {uploaded : List (Id × String)}

@[simp] theorem deleteShop_users : (deleteShop fails saved m).users = m.users := by
  unfold deleteShop
  split
  · rfl
  · split <;> rfl

@[simp] theorem deleteShop_outbox : (deleteShop fails saved m).outbox = m.outbox := by
  unfold deleteShop
  split
  · rfl
  · split <;> rfl

@[simp] theorem deleteShop_files : (deleteShop fails saved m).files = m.files := by
  unfold deleteShop
  split
  · rfl
  · split <;> rfl

@[simp] theorem deleteAssets_others : (deleteAssets fails uploaded m).users = m.users ∧
    (deleteAssets fails uploaded m).outbox = m.outbox ∧ (deleteAssets fails uploaded m).files = m.files ∧
    (deleteAssets fails uploaded m).shops = m.shops ∧ (deleteAssets fails uploaded m).shopCategories = m.shopCategories := by
  unfold deleteAssets
  split
  · exact ⟨rfl, rfl, rfl, rfl, rfl⟩
  · exact ⟨rfl, rfl, rfl, rfl, rfl⟩

end

section
variable {e : Effort}

theorem cleanUp_users : (cleanUp fails e).users = e.market.users := by simp [cleanUp, deleteFiles]

theorem cleanUp_outbox : (cleanUp fails e).outbox = e.market.outbox := by simp [cleanUp, deleteFiles]

theorem cleanUp_files : (cleanUp fails e).files = e.market.files.filter fun file =>
    ¬ (file.publicId ∈ e.uploadedAssets.map (·.2) ∧ fails (.deleteFile file.publicId) = false) := by
  simp [cleanUp, deleteFiles]

end

section
variable (fresh : Fresh issued m)
include fresh

theorem kept_files (n : Nat) : ∀ file ∈ m.files,
    decide (¬ (file.publicId ∈ (pushed issued n).map (·.2) ∧ fails (.deleteFile file.publicId) = false)) = true := by
  intro file member
  refine decide_eq_true fun swept => ?_
  obtain ⟨pair, inside, same⟩ := List.mem_map.mp swept.1
  obtain ⟨i, _, rfl⟩ := List.mem_map.mp inside
  exact fresh.file i file member same.symm

theorem kept_assets (n : Nat) : ∀ row ∈ m.assets, decide (row.id ∉ (pushed issued n).map (·.1)) = true := by
  intro row member
  refine decide_eq_true fun swept => ?_
  obtain ⟨pair, inside, same⟩ := List.mem_map.mp swept
  obtain ⟨i, _, rfl⟩ := List.mem_map.mp inside
  exact fresh.asset i row member same.symm

variable (fails plan) in
/-- The first files, with their rows on record, go when Cloudinary lets each one go. -/
theorem swept_files {n : Nat} (small : n ≤ 2) {e : Effort} (files : e.market.files = (covers issued plan n n m).files)
    (uploaded : e.uploadedAssets = pushed issued n) :
    (cleanUp fails e).files = m.files ↔ ∀ i < n, fails (.deleteFile (issued.publicId i)) = false := by
  rw [cleanUp_files, files, uploaded]
  refine (filter_append_left (kept_files fresh n)).trans ?_
  interval_cases n
  · simp
  · simp [coverFiles, pushed, List.range_succ]
  · rw [Nat.forall_lt_succ_right, Nat.forall_lt_succ_right]
    simp [coverFiles, pushed, List.range_succ]

variable (fails plan) in
/-- A file whose row could not be saved stays. -/
theorem orphan_stays {n : Nat} (small : n < 2) {e : Effort} (files : e.market.files = (covers issued plan (n + 1) n m).files)
    (uploaded : e.uploadedAssets = pushed issued n) : (cleanUp fails e).files ≠ m.files := by
  have apart : issued.publicId 1 ≠ issued.publicId 0 := fun same => absurd (fresh.files 1 0 same) (by decide)
  rw [cleanUp_files, files, uploaded]
  refine fun same => ?_
  have gone := (filter_append_left (kept_files fresh n)).mp same
  interval_cases n
  · simp [coverFiles, pushed] at gone
  · have second := gone ⟨issued.publicId 1, issued.url 1, "shop/banners", plan.banner⟩ (by simp [coverFiles])
    simp [pushed, apart] at second

variable (fails plan) in
/-- The rows of the logo and the banner go when the table lets them go; the shop does not take them along. -/
theorem swept_assets {n : Nat} (positive : 0 < n) (small : n ≤ 2) {e : Effort}
    (assets : e.market.assets = (covers issued plan n n m).assets) (uploaded : e.uploadedAssets = pushed issued n)
    (saved : e.savedShopId = none ∨ e.savedShopId = some issued.shop) :
    (cleanUp fails e).assets = m.assets ↔ fails .deleteAssets = false := by
  have swept : (e.market.assets.filter fun row => row.id ∉ e.uploadedAssets.map (·.1)) = m.assets := by
    rw [assets, uploaded]
    refine (filter_append_left (kept_assets fresh n)).mpr ?_
    interval_cases n
    · simp [coverRows, pushed]
    · simp [coverRows, pushed, List.range_succ]
  have others : (m.assets.filter fun row => row.shop ≠ some issued.shop) = m.assets :=
    List.filter_eq_self.mpr fun row member => decide_eq_true (fresh.assetOf row member)
  cases failed : fails .deleteAssets with
  | false =>
    have left : (deleteAssets fails e.uploadedAssets (deleteFiles fails e.uploadedAssets e.market)).assets = m.assets := by
      simp only [deleteAssets, failed, Bool.false_eq_true, if_false]
      exact swept
    refine iff_of_true ?_ rfl
    unfold cleanUp deleteShop
    rcases saved with none_ | some_
    · rw [none_]
      exact left
    · simp only [some_]
      split
      · exact left
      · rw [left]
        exact others
  | true =>
    refine iff_of_false (fun same => ?_) (by simp)
    have logo : (⟨issued.asset 0, issued.publicId 0, issued.url 0, .shopLogo, plan.seller, none⟩ : MediaAsset) ∈
        (cleanUp fails e).assets := by
      have first : (⟨issued.asset 0, issued.publicId 0, issued.url 0, .shopLogo, plan.seller, none⟩ : MediaAsset) ∈
          e.market.assets := by
        rw [assets]
        interval_cases n
        · simp [covers, coverRows]
        · simp [covers, coverRows]
      unfold cleanUp deleteShop deleteAssets
      rcases saved with none_ | some_
      · rw [none_, failed]
        exact first
      · simp only [some_, failed, if_true]
        split
        · exact first
        · exact List.mem_filter.mpr ⟨first, by simp⟩
    rw [same] at logo
    exact fresh.asset 0 _ logo rfl

variable (fails plan) in
/-- The shop goes when the table lets it go. -/
theorem swept_shops {e : Effort} (shops : e.market.shops = (insertShop issued plan m).shops)
    (categories : e.market.shopCategories = (insertShop issued plan m).shopCategories) (saved : e.savedShopId = some issued.shop) :
    (cleanUp fails e).shops = m.shops ∧ (cleanUp fails e).shopCategories = m.shopCategories ↔ fails .deleteShop = false := by
  have known : ∀ row ∈ m.shops, decide (row.1 ≠ issued.shop) = true := fun row member => decide_eq_true (fresh.shop row member)
  have filed : ∀ row ∈ m.shopCategories, decide (row.1 ≠ issued.shop) = true := fun row member =>
    decide_eq_true (fresh.shopCategory row member)
  unfold cleanUp deleteShop
  rw [saved]
  cases failed : fails .deleteShop with
  | false =>
    refine iff_of_true ?_ rfl
    simp only [Bool.false_eq_true, if_false]
    rw [deleteAssets_others.2.2.2.1, deleteAssets_others.2.2.2.2]
    refine ⟨?_, ?_⟩
    · change e.market.shops.filter _ = _
      rw [shops]
      exact (filter_append_left known).mpr (by simp)
    · change e.market.shopCategories.filter _ = _
      rw [categories]
      exact (filter_append_left filed).mpr (by simp)
  | true =>
    refine iff_of_false (fun same => ?_) (by simp)
    have kept := same.1
    simp only [if_true] at kept
    rw [deleteAssets_others.2.2.2.1] at kept
    change e.market.shops = _ at kept
    rw [shops] at kept
    simp [insertShop] at kept

end

theorem awaitApproval_users {user : Id} : (awaitApproval user m).users = m.users ↔ AwaitsApproval user m := by
  change m.users.map _ = m.users ↔ _
  conv_lhs => rhs; rw [← List.map_id m.users]
  rw [List.map_inj_left]
  refine forall₂_congr fun row _ => ?_
  rw [id]
  by_cases own : row.id = user
  · rw [if_pos own]
    constructor
    · intro same _
      rw [← same]
    · intro waits
      rw [← waits own]
  · simp [own]

variable (fails issued plan) in
/-- The event stays in the outbox. -/
theorem attachAssets_outbox (e : Effort) : (attachAssets fails issued plan e).2.market.outbox = e.market.outbox := by
  have on : ∀ {p : Point} {f : Market → Market}, (∀ m, (f m).outbox = m.outbox) →
      (step fails p (Effort.on f)).Keeps fun t => t.market.outbox = e.market.outbox := fun kept =>
    keeps_step fun t held => (kept t.market).trans held
  have keeps : (attachAssets fails issued plan).Keeps fun t => t.market.outbox = e.market.outbox := by
    refine keeps_bind (on fun _ => rfl) fun _ => keeps_bind (on fun _ => rfl) fun _ => ?_
    refine keeps_bind (keeps_allSettled _ fun x member => ?_) fun results => ?_
    · obtain ⟨picture, _, rfl⟩ := List.mem_map.mp member
      refine keeps_bind (keeps_bind (on fun _ => rfl) fun _ => on fun _ => rfl) fun _ => ?_
      exact keeps_bind (keeps_always fun _ held => held) fun _ => on fun _ => rfl
    · refine keeps_bind (fun t held => ?_) fun _ => keeps_bind (keeps_step fun _ held => held) fun _ => keeps_pure _
      unfold throwOnFailed
      split <;> exact held
  exact keeps e rfl

theorem uploadPicture_isOk (picture : String × Nat) (e : Effort) :
    (uploadPicture fails issued plan picture e).1.isOk = (picturePoints picture.2).all fun p => !fails p := by
  simp only [uploadPicture, uploadFile, push, updateAssetShopId, bind_assoc, step_bind, always_bind, step_run]
  cases first : fails (.upload (picture.2 + 2)) <;> cases second : fails (.saveAsset (picture.2 + 2)) <;>
    cases third : fails (.updateAssetShopId (picture.2 + 2)) <;>
      simp [picturePoints, first, second, third, Except.isOk, Except.toBool]

/-- What fails once the event is in the outbox fails the setup. -/
theorem attachAssets_error {p : Point} (inside : p ∈ attachPoints plan) (failed : fails p = true) (e : Effort) :
    ∃ q t, attachAssets fails issued plan e = (.error q, t) := by
  simp only [attachAssets, updateAssetShopId, step_bind]
  cases logo : fails (.updateAssetShopId 0) with
  | true => exact ⟨_, _, rfl⟩
  | false =>
  cases banner : fails (.updateAssetShopId 1) with
  | true => exact ⟨_, _, rfl⟩
  | false =>
  simp only [Bool.false_eq_true, if_false]
  obtain ⟨t, settled⟩ := allSettled_results (uploadPicture fails issued plan)
    (fun picture => (picturePoints picture.2).all fun p => !fails p) plan.gallery.zipIdx
    (fun picture _ s => uploadPicture_isOk picture s)
    (Effort.on (assignShop issued 1 issued.shop) (Effort.on (assignShop issued 0 issued.shop) e))
  rw [bind_run, settled]
  dsimp only
  rw [bind_run, throwOnFailed]
  split
  · rename_i all
    split at all
    · rename_i passed
      cases all
      simp only [attachPoints, List.mem_append, List.mem_cons, List.not_mem_nil, or_false, List.mem_flatMap] at inside
      rcases inside with ((rfl | rfl) | ⟨picture, member, inside⟩) | rfl
      · exact absurd failed (by simp [logo])
      · exact absurd failed (by simp [banner])
      · have whole := List.all_eq_true.mp passed _ (List.mem_map.mpr ⟨picture, member, rfl⟩)
        have none_ := List.all_eq_true.mp whole p inside
        simp [failed] at none_
      · rw [step_bind, failed]
        exact ⟨_, _, rfl⟩
    · cases all
  · exact ⟨_, _, rfl⟩

/-- A picture stored with its row. -/
def pictured (issued : Issued) (plan : Plan) (picture : String × Nat) (e : Effort) : Effort where
  market := insertAsset issued (picture.2 + 2) .shopGallery plan.seller (some issued.shop)
    (storeFile issued (picture.2 + 2) "shop/galleries" picture.1 e.market)
  uploadedAssets := e.uploadedAssets ++ [(issued.asset (picture.2 + 2), issued.publicId (picture.2 + 2))]
  savedShopId := e.savedShopId

/-- The rows of the gallery are the shop's. -/
def GalleryAssigned (issued : Issued) (e : Effort) : Prop :=
  ∀ row ∈ e.market.assets, ∀ n, row.id = issued.asset (n + 2) → row.shop = some issued.shop

variable (plan) in
theorem GalleryAssigned.pictured {e : Effort} (assigned : GalleryAssigned issued e) (picture : String × Nat) :
    GalleryAssigned issued (pictured issued plan picture e) := by
  intro row member n own
  rcases List.mem_append.mp member with old | new
  · exact assigned row old n own
  · rw [List.mem_singleton.mp new]

/-- To assign a row again does nothing. -/
theorem GalleryAssigned.assign {e : Effort} (assigned : GalleryAssigned issued e) (n : Nat) :
    assignShop issued (n + 2) issued.shop e.market = e.market := by
  have same : (e.market.assets.map fun row =>
      if row.id = issued.asset (n + 2) then { row with shop := some issued.shop } else row) = e.market.assets := by
    conv_rhs => rw [← List.map_id e.market.assets]
    refine List.map_congr_left fun row member => ?_
    split
    · rename_i own
      rw [← assigned row member n own, id]
    · rfl
  rw [assignShop, same]

theorem uploadPicture_run {e : Effort} (assigned : GalleryAssigned issued e) (picture : String × Nat)
    (none_ : ∀ p ∈ picturePoints picture.2, fails p = false) :
    (uploadPicture fails issued plan picture e).2 = pictured issued plan picture e := by
  have first := none_ (.upload (picture.2 + 2)) (by simp [picturePoints])
  have second := none_ (.saveAsset (picture.2 + 2)) (by simp [picturePoints])
  have third := none_ (.updateAssetShopId (picture.2 + 2)) (by simp [picturePoints])
  simp only [uploadPicture, uploadFile, push, updateAssetShopId, bind_assoc, step_bind, always_bind, step_run, first, second,
    third, Bool.false_eq_true, if_false]
  have again := (assigned.pictured plan picture).assign picture.2
  exact congrArg (Effort.mk · _ _) again

theorem foldl_pictured (pictures : List (String × Nat)) (e : Effort) :
    (pictures.foldl (fun t picture => pictured issued plan picture t) e).market =
      { e.market with
        assets := e.market.assets ++ pictures.map (pictureRow issued plan)
        files := e.market.files ++ pictures.map (pictureFile issued) } := by
  induction pictures generalizing e with
  | nil => simp
  | cons picture rest ih =>
    rw [List.foldl_cons, ih]
    simp [pictured, insertAsset, storeFile, pictureRow, pictureFile]

variable (plan) in
/-- What the logo and the banner have become, the shop's. -/
theorem assigned_covers (fresh : Fresh issued m) :
    (assignShop issued 1 issued.shop (assignShop issued 0 issued.shop (announced issued plan m).market)).assets =
      m.assets ++ coverRows issued plan (some issued.shop) := by
  have others : ∀ n, (m.assets.map fun row => if row.id = issued.asset n then { row with shop := some issued.shop } else row) =
      m.assets := by
    intro n
    conv_rhs => rw [← List.map_id m.assets]
    exact List.map_congr_left fun row member => if_neg (fresh.asset n row member)
  have apart : issued.asset 1 ≠ issued.asset 0 := fun same => absurd (fresh.assets 1 0 same) (by decide)
  have logo : issued.asset 0 ≠ issued.asset 1 := fun same => apart same.symm
  change List.map _ (List.map _ (m.assets ++ _)) = _
  rw [List.map_append, List.map_append, others, others]
  simp [coverRows, apart, logo]

theorem findAdminIds_waiting (m : Market) (user : Id) : findAdminIds (awaitApproval user m) = findAdminIds m := by
  unfold findAdminIds awaitApproval
  dsimp only
  rw [List.filter_map, List.map_map]
  have admins : ((fun row : Account => row.isAdmin) ∘ fun row : Account =>
      if row.id = user then { row with status := .pendingApproval } else row) = fun row => row.isAdmin := by
    funext row
    simp only [Function.comp_apply]
    split <;> rfl
  rw [admins]
  refine List.map_congr_left fun row _ => ?_
  simp only [Function.comp_apply]
  split <;> rfl

theorem attachAssets_ok (fresh : Fresh issued m) (none_ : ∀ p ∈ attachPoints plan, fails p = false) :
    ∃ t : Effort, attachAssets fails issued plan (announced issued plan m) = (.ok (plan.shop issued), t) ∧
      t.market = completed issued plan m := by
  have logo := none_ (.updateAssetShopId 0) (by simp [attachPoints])
  have banner := none_ (.updateAssetShopId 1) (by simp [attachPoints])
  have read := none_ .findShop (by simp [attachPoints])
  have pictures : ∀ picture ∈ plan.gallery.zipIdx, ∀ p ∈ picturePoints picture.2, fails p = false := by
    intro picture member p inside
    refine none_ p (List.mem_append_left _ (List.mem_append_right _ ?_))
    exact List.mem_flatMap.mpr ⟨picture, member, inside⟩
  have covered := assigned_covers plan fresh
  generalize after : Effort.on (assignShop issued 1 issued.shop)
    (Effort.on (assignShop issued 0 issued.shop) (announced issued plan m)) = e
  have assets : e.market.assets = m.assets ++ coverRows issued plan (some issued.shop) := by
    rw [← after]
    exact covered
  have assigned : GalleryAssigned issued e := by
    intro row member n own
    rw [assets] at member
    rcases List.mem_append.mp member with old | new
    · exact absurd own (fresh.asset _ row old)
    · simp only [coverRows, List.mem_cons, List.not_mem_nil, or_false] at new
      rcases new with rfl | rfl
      · rfl
      · rfl
  obtain ⟨t, settled⟩ := allSettled_results (uploadPicture fails issued plan)
    (fun picture => (picturePoints picture.2).all fun p => !fails p) plan.gallery.zipIdx
    (fun picture _ s => uploadPicture_isOk picture s) e
  have effects := allSettled_effects (uploadPicture fails issued plan) (pictured issued plan) plan.gallery.zipIdx
    (GalleryAssigned issued)
    (fun picture member s held => ⟨held.pictured plan picture, uploadPicture_run held picture (pictures picture member)⟩) e assigned
  rw [settled] at effects
  have all : (plan.gallery.zipIdx.map fun picture => (picturePoints picture.2).all fun p => !fails p).all id = true := by
    refine List.all_eq_true.mpr fun b member => ?_
    obtain ⟨picture, inside, rfl⟩ := List.mem_map.mp member
    refine List.all_eq_true.mpr fun p point => ?_
    rw [pictures picture inside p point]
    rfl
  refine ⟨t, ?_, ?_⟩
  · simp only [attachAssets, updateAssetShopId, step_bind, logo, banner, Bool.false_eq_true, if_false, after]
    rw [bind_run, settled]
    dsimp only
    rw [bind_run, throwOnFailed, if_pos all]
    dsimp only
    rw [step_bind, read]
    rfl
  · rw [show t = _ from effects, foldl_pictured, assets, ← after]
    refine market_eq.mpr ⟨rfl, rfl, rfl, ?_, rfl, rfl⟩
    exact congrArg (fun ids => m.outbox ++ [registered issued plan ids]) (findAdminIds_waiting m plan.seller)

/-- The call succeeds and leaves all of a setup, or it leaves everything as it was. -/
def Atomic (issued : Issued) (checked : Except Err Plan) (m : Market) (result : Except Err Shop × Market) : Prop :=
  (∃ plan, checked = .ok plan ∧ result = (.ok (plan.shop issued), completed issued plan m)) ∨ result.2 = m

/-- Validation turns the call down, or what fails first is undone. -/
def HoldsWhen (fails : Point → Bool) (issued : Issued) (checked : Except Err Plan) (m : Market) : Prop :=
  ∀ plan, checked = .ok plan → Undoes fails issued plan.seller m ((points plan).find? fails)

theorem cleanUp_atomic {e : Effort} {why : Err} :
    Atomic issued (.ok plan) m (.error why, cleanUp fails e) ↔ cleanUp fails e = m := by
  constructor
  · rintro (⟨_, _, same⟩ | undone)
    · cases same
    · exact undone
  · exact Or.inr

variable (fails plan) in
/-- With no shop saved, the files and their rows are all there is to undo. -/
theorem cleanUp_unsaved (fresh : Fresh issued m) {n : Nat} (positive : 0 < n) (small : n ≤ 2) :
    cleanUp fails ⟨covers issued plan n n m, pushed issued n, none⟩ = m ↔ Sweeps fails issued n := by
  have files := swept_files fails plan fresh small (e := ⟨covers issued plan n n m, pushed issued n, none⟩) rfl rfl
  have assets := swept_assets fails plan fresh positive small
    (e := ⟨covers issued plan n n m, pushed issued n, none⟩) rfl rfl (Or.inl rfl)
  rw [market_eq, files, assets, Sweeps]
  refine and_congr_right fun _ => and_iff_left ⟨?_, ?_, ?_, ?_⟩
  · exact cleanUp_users
  · exact cleanUp_outbox
  · simp [cleanUp, deleteShop, deleteFiles, covers]
  · simp [cleanUp, deleteShop, deleteFiles, covers]

variable (fails plan) in
/-- With the shop saved it has to go as well, and the user's status is not brought back. -/
theorem cleanUp_saved (market : Market) (fresh : Fresh issued m) (files : market.files = (covers issued plan 2 2 m).files)
    (assets : market.assets = (covers issued plan 2 2 m).assets) (shops : market.shops = (insertShop issued plan m).shops)
    (categories : market.shopCategories = (insertShop issued plan m).shopCategories) (outbox : market.outbox = m.outbox) :
    cleanUp fails ⟨market, pushed issued 2, some issued.shop⟩ = m ↔
      Sweeps fails issued 2 ∧ fails .deleteShop = false ∧ market.users = m.users := by
  have files := swept_files fails plan fresh (le_refl 2) (e := ⟨market, pushed issued 2, some issued.shop⟩) files rfl
  have assets := swept_assets fails plan fresh (by decide) (le_refl 2)
    (e := ⟨market, pushed issued 2, some issued.shop⟩) assets rfl (Or.inr rfl)
  have shops := swept_shops fails plan fresh (e := ⟨market, pushed issued 2, some issued.shop⟩) shops categories rfl
  rw [market_eq, files, assets, Sweeps, cleanUp_users, cleanUp_outbox, shops]
  constructor
  · rintro ⟨all, rows, users, _, shop⟩
    exact ⟨⟨all, rows⟩, shop, users⟩
  · rintro ⟨⟨all, rows⟩, shop, users⟩
    exact ⟨all, rows, users, outbox, shop⟩

variable (fails plan) in
/-- So it goes as before when the user already waited for approval. -/
theorem cleanUp_waiting (fresh : Fresh issued m) :
    cleanUp fails ⟨awaitApproval plan.seller (insertShop issued plan (covers issued plan 2 2 m)), pushed issued 2,
      some issued.shop⟩ = m ↔ Sweeps fails issued 2 ∧ fails .deleteShop = false ∧ AwaitsApproval plan.seller m := by
  have saved := cleanUp_saved fails plan (awaitApproval plan.seller (insertShop issued plan (covers issued plan 2 2 m)))
    fresh rfl rfl rfl rfl rfl
  refine saved.trans ?_
  exact and_congr_right fun _ => and_congr_right fun _ => awaitApproval_users

/-- A setup is whole or undone exactly when the first failure is none or one of those it undoes, and nothing fails then. -/
theorem setup_atomic (answer : String → GeocodeResult) (rootCategories : List String → Except Err (List Id)) (userId : Id)
    (dto : CreateShopDto) (files : Files) (fresh : Fresh issued m) :
    Atomic issued (validate answer rootCategories userId dto files m) m
      (setupInitialShop fails issued answer rootCategories userId dto files m) ↔
      HoldsWhen fails issued (validate answer rootCategories userId dto files m) m := by
  unfold setupInitialShop
  cases validate answer rootCategories userId dto files m with
  | error e => exact iff_of_true (Or.inr rfl) nofun
  | ok plan =>
    have only : HoldsWhen fails issued (.ok plan) m ↔ Undoes fails issued plan.seller m ((points plan).find? fails) :=
      ⟨fun holds => holds plan rfl, fun undoes other same => by cases same; exact undoes⟩
    rw [only]
    dsimp only
    rw [createShop_run]
    simp only [points, List.cons_append, List.nil_append, List.find?_cons]
    cases fails (.upload 0) with
    | true =>
      refine iff_of_true (cleanUp_atomic.mpr ?_) trivial
      have none_ : ∀ {α : Type} (xs : List α), xs.filter (fun _ => true) = xs := fun _ =>
        List.filter_eq_self.mpr fun _ _ => rfl
      cases fails .deleteAssets <;> simp [cleanUp, deleteShop, deleteAssets, deleteFiles, none_]
    | false =>
    cases fails (.saveAsset 0) with
    | true =>
      refine cleanUp_atomic.trans (iff_of_false (fun same => ?_) id)
      exact orphan_stays fails plan (n := 0) fresh (by decide) rfl rfl (congrArg Market.files same)
    | false =>
    cases fails (.upload 1) with
    | true => exact cleanUp_atomic.trans (cleanUp_unsaved fails plan fresh (by decide) (by decide))
    | false =>
    cases fails (.saveAsset 1) with
    | true =>
      refine cleanUp_atomic.trans (iff_of_false (fun same => ?_) id)
      exact orphan_stays fails plan (n := 1) fresh (by decide) rfl rfl (congrArg Market.files same)
    | false =>
    cases fails .saveShop with
    | true => exact cleanUp_atomic.trans (cleanUp_unsaved fails plan fresh (by decide) (by decide))
    | false =>
    cases fails .updateUser with
    | true =>
      have saved := cleanUp_saved fails plan (insertShop issued plan (covers issued plan 2 2 m)) fresh rfl rfl rfl rfl rfl
      refine cleanUp_atomic.trans (saved.trans ?_)
      exact and_congr_right fun _ => and_iff_left rfl
    | false =>
    cases fails .findAdminIds with
    | true =>
      exact cleanUp_atomic.trans (cleanUp_waiting fails plan fresh)
    | false =>
    cases fails .saveOutbox with
    | true =>
      exact cleanUp_atomic.trans (cleanUp_waiting fails plan fresh)
    | false =>
    cases found : (attachPoints plan).find? fails with
    | none =>
      have none_ : ∀ p ∈ attachPoints plan, fails p = false := fun p member => by
        simpa using List.find?_eq_none.mp found p member
      obtain ⟨t, ran, market⟩ := attachAssets_ok fresh none_
      simp only [Bool.false_eq_true, if_false, ran]
      exact iff_of_true (Or.inl ⟨plan, rfl, by rw [market]⟩) trivial
    | some p =>
      have member := List.mem_of_find?_eq_some found
      obtain ⟨q, t, ran⟩ := attachAssets_error member (List.find?_some found) (announced issued plan m)
      have outbox := attachAssets_outbox fails issued plan (announced issued plan m)
      rw [ran] at outbox
      simp only [Bool.false_eq_true, if_false]
      rw [ran]
      refine cleanUp_atomic.trans (iff_of_false (fun same => ?_) ?_)
      · have kept := congrArg Market.outbox same
        rw [cleanUp_outbox, outbox] at kept
        simp [announced, announce, awaitApproval, insertShop, covers] at kept
      · simp only [attachPoints, List.mem_append, List.mem_cons, List.not_mem_nil, or_false, List.mem_flatMap,
          picturePoints] at member
        rcases member with ((rfl | rfl) | ⟨_, _, rfl | rfl | rfl⟩) | rfl
        · exact id
        · exact id
        · exact id
        · exact id
        · exact id
        · exact id

end

def opening : CreateShopDto :=
  ⟨"Quay Shop", none, "1 Quay Street", none, none, ⟨"Bank", "123456", "NGUYEN VAN A"⟩, ["c"]⟩

def threeFiles : Files := ⟨["logo"], ["banner"], ["front"]⟩

def unasked (_ : String) : GeocodeResult := ⟨none, none, false⟩

def underFashion (_ : List String) : Except Err (List Id) := .ok [5]

/-- A new seller, and an admin. -/
def newcomers : Market where
  users := [⟨7, false, .newSeller⟩, ⟨90, true, .active⟩]
  shops := []
  shopCategories := []
  outbox := []
  assets := []
  files := []

def numbered : Issued where
  shop := 30
  asset n := 100 + n
  publicId n := String.ofList (List.replicate n 'x')
  url n := String.ofList (List.replicate n 'u')

theorem newcomers_fresh : Fresh numbered newcomers where
  shop _ no := nomatch no
  shopCategory _ no := nomatch no
  assetOf _ no := nomatch no
  asset _ _ no := nomatch no
  file _ _ no := nomatch no
  assets i j same := Nat.add_left_cancel same
  files i j same := by
    have lengths := congrArg List.length (String.ofList_injective same)
    simpa using lengths

/-- The user's update fails, and all is undone. -/
theorem update_undone :
    Atomic numbered (validate unasked underFashion 7 opening threeFiles newcomers) newcomers
      (setupInitialShop (· == .updateUser) numbered unasked underFashion 7 opening threeFiles newcomers) :=
  (setup_atomic unasked underFashion 7 opening threeFiles newcomers_fresh).mpr fun plan checked => by
    cases checked
    exact ⟨⟨fun _ _ => rfl, rfl⟩, rfl⟩

/-- The second picture of the gallery cannot be stored: the user is left waiting for approval, and the event in the outbox. -/
theorem not_setup_atomic : ¬ ∀ (fails : Point → Bool) (issued : Issued) (m : Market) (answer : String → GeocodeResult)
    (rootCategories : List String → Except Err (List Id)) (userId : Id) (dto : CreateShopDto) (files : Files), Fresh issued m →
      Atomic issued (validate answer rootCategories userId dto files m) m
        (setupInitialShop fails issued answer rootCategories userId dto files m) := by
  intro claimed
  have fails := claimed (· == .upload 2) numbered newcomers unasked underFashion 7 opening threeFiles newcomers_fresh
  rcases fails with ⟨plan, _, same⟩ | undone
  · cases same
  · exact absurd (congrArg Market.users undone) (by decide)

end Marketplace.Shops
