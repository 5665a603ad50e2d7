import Marketplace.Fallible
import Marketplace.PropertyMap
import Marketplace.Search.Reindex
import Mathlib.Algebra.Ring.Int.Defs
import Mathlib.Data.List.Dedup
import Mathlib.Logic.Function.Basic

/-! `ProductsService`: products with their variants, images and events, and the commands that change them. -/
namespace Marketplace.Products
open Fallible Fallible.Attempt

abbrev Uuid := String
abbrev Url := String

/-- One value of `color_groups`. -/
structure ColorGroup where
  hex : Option String
  images : List Url
deriving DecidableEq

structure ProductVariant where
  id : Uuid
  name : String
  attributes : List (String × String)
  sku : Option String
  additionalPrice : Money
  stockQuantity : Int
  images : List Url
deriving DecidableEq

structure Product where
  id : Uuid
  shop : Uuid
  category : Option Uuid
  name : String
  slug : String
  sku : Option String
  description : Option String
  price : Money
  weight : Nat
  length : Option Nat
  width : Option Nat
  height : Option Nat
  variants : List ProductVariant
  thumbnailUrl : Option Url
  gallery : List Url
  colorGroups : Option (PropertyMap ColorGroup)
  stockQuantity : Int
  hasVariants : Bool
  isHidden : Bool
  status : ProductStatus
  moderationReason : Option String
  moderatedAt : Option Time
  moderatedBy : Option Uuid
  updatedAt : Time
deriving DecidableEq

inductive AssetType where
  | productThumbnail | productGallery | productVariantImage
deriving DecidableEq

structure MediaAsset where
  id : Uuid
  publicId : String
  url : Url
  type : AssetType
  owner : Uuid
  shop : Uuid
  product : Option Uuid
deriving DecidableEq

structure StoredFile where
  publicId : String
  url : Url
  folder : String
  content : String
deriving DecidableEq

inductive ModerationAction where
  | takenDown | restored
deriving DecidableEq

structure SellerContact where
  id : Uuid
  email : String
  name : String
deriving DecidableEq

structure ProductModerated where
  productId : Uuid
  productName : String
  shopId : Uuid
  seller : Option SellerContact
  action : ModerationAction
  reason : Option String
deriving DecidableEq

inductive Payload where
  | productCreated (snapshot : Search.ProductDoc)
  | productUpdated (snapshot : Search.ProductDoc)
  | productDeleted (productId : Uuid)
  | productModerated (payload : ProductModerated)
deriving DecidableEq

structure OutboxEvent where
  id : Uuid
  payload : Payload
  createdAt : Time
deriving DecidableEq

/-- The tables and the files. `issued` counts the names given so far. -/
structure Shelf where
  products : Uuid → Option Product
  assets : List MediaAsset
  files : List StoredFile
  outbox : List OutboxEvent
  issued : Nat

/-- The names that the database and Cloudinary give. -/
structure Issuer where
  product : Nat → Uuid
  variant : Nat → Uuid
  asset : Nat → Uuid
  publicId : Nat → String
  url : Nat → Url
  event : Nat → Uuid

structure CreateProductVariantDto where
  name : String
  additionalPrice : Option Money
  sku : Option String
  stockQuantity : Nat
  imageCount : Option Nat
  attributes : Option (List (String × String))

structure ColorImageGroupDto where
  color : String
  hex : Option String
  imageCount : Nat

structure CreateProductDto where
  name : String
  description : Option String
  price : Money
  sku : Option String
  weight : Nat
  length : Option Nat
  width : Option Nat
  height : Option Nat
  categoryId : Uuid
  stockQuantity : Option Nat
  hasVariants : Bool
  variants : Option (List CreateProductVariantDto)
  colorImages : Option (List ColorImageGroupDto)

structure UpdateProductVariantDto where
  id : Option Uuid
  name : Option String
  additionalPrice : Option Money
  sku : Option String
  stockQuantity : Option Nat
  imageCount : Option Nat
  attributes : Option (List (String × String))
  existingImages : Option (List Url)

structure UpdateColorImageGroupDto where
  color : String
  hex : Option String
  existingImages : Option (List Url)
  imageCount : Option Nat

structure UpdateProductDto where
  name : Option String
  description : Option String
  price : Option Money
  sku : Option String
  weight : Option Nat
  length : Option Nat
  width : Option Nat
  height : Option Nat
  categoryId : Option Uuid
  stockQuantity : Option Nat
  hasVariants : Option Bool
  status : Option ProductStatus
  isHidden : Option Bool
  variants : Option (List UpdateProductVariantDto)
  colorImages : Option (List UpdateColorImageGroupDto)
  existingGalleryImages : Option (List Url)

/-- The contents of the files of a request. -/
structure Files where
  thumbnail : List String
  generalGallery : List String
  variantImages : List String
  colorImages : List String

structure User where
  sub : Uuid
  status : AccountStatus

def MAX_GALLERY_IMAGES : Nat := 5

def MAX_VARIANT_IMAGES : Nat := 3

/-- What the other services answer, and what of the libraries the commands use. -/
structure Env where
  /-- `shopsService.findOneByUserId`: the shop and its status. -/
  shopOf : Uuid → Option (Uuid × AccountStatus)
  /-- `categoriesService.validateLeafCategory` -/
  leafCategory : Uuid → Except Err Unit
  sellerContact : Uuid → Option SellerContact
  slugify : String → String
  parseVariantAttributes : String → List (String × String)
  issuer : Issuer
  now : Time
  /-- The ORM sends an `UPDATE` although no column differs, as for a price it has read as a string. -/
  touch : Bool
  /-- Which of the statements and calls fail, in their order. -/
  fails : Nat → Bool

/-- What is thrown inside a `try`. -/
inductive Thrown where
  | http (e : Err)
  | failed
deriving DecidableEq

/-- A command under way, its transaction open. What the transaction writes is kept apart until it commits; the rows and
files of an upload stand at once. -/
structure Effort where
  shelf : Shelf
  calls : Nat
  removed : List Uuid
  uploadedAssets : List (Uuid × String)
  publicIdsToDelete : List String

abbrev Try := Attempt Thrown Effort

def throwErr {α : Type} (e : Err) : Try α := fun s => (.error (.http e), s)

def Effort.start (s : Shelf) : Effort := ⟨s, 0, [], [], []⟩

/-- The next name. -/
def number : Try Nat := fun e => (.ok e.shelf.issued, { e with shelf := { e.shelf with issued := e.shelf.issued + 1 } })

/-- `Object.values(groups).flatMap((g) => g.images)` -/
def groupUrls (groups : PropertyMap ColorGroup) : List Url :=
  groups.keys.flatMap fun color => (groups.read? color).elim [] (·.images)

def Product.colorUrls (product : Product) : List Url := product.colorGroups.elim [] groupUrls

def Product.variantUrls (product : Product) : List Url := product.variants.flatMap (·.images)

def sumStock (variants : List ProductVariant) : Int := (variants.map (·.stockQuantity)).sum

section
variable (env : Env)

/-- A statement or a call to Cloudinary. -/
def call (f : Effort → Effort) : Try Unit := fun e =>
  if env.fails e.calls then (.error .failed, { e with calls := e.calls + 1 }) else (.ok (), f { e with calls := e.calls + 1 })

/-- A statement that reads. -/
def read {α : Type} (f : Effort → α) : Try α := do
  call env id
  look f

def fileOf (n : Nat) (folder content : String) : StoredFile := ⟨env.issuer.publicId n, env.issuer.url n, folder, content⟩

def assetOf (n : Nat) (type : AssetType) (owner shop : Uuid) : MediaAsset :=
  ⟨env.issuer.asset n, env.issuer.publicId n, env.issuer.url n, type, owner, shop, none⟩

/-- Who uploads, into which folder, and as what. -/
structure Destination where
  folder : String
  owner : Uuid
  type : AssetType
  shop : Uuid

def thumbnails (owner shop : Uuid) : Destination := ⟨"products/thumbnails", owner, .productThumbnail, shop⟩

def galleries (owner shop : Uuid) : Destination := ⟨"products/gallery", owner, .productGallery, shop⟩

def variantFiles (owner shop : Uuid) : Destination := ⟨"products/variants", owner, .productVariantImage, shop⟩

/-- The row is not the transaction's: it stays after a rollback. -/
def uploadFile (place : Destination) (content : String) : Try MediaAsset := do
  let n ← number
  let file := fileOf env n place.folder content
  let row := assetOf env n place.type place.owner place.shop
  call env fun e => { e with shelf := { e.shelf with files := e.shelf.files ++ [file] } }
  call env fun e => { e with shelf := { e.shelf with assets := e.shelf.assets ++ [row] } }
  return row

/-- `uploadedAssetsTracker.push`, for one or more. -/
def track (rows : List MediaAsset) : Try Unit :=
  always fun e => { e with uploadedAssets := e.uploadedAssets ++ rows.map fun row => (row.id, row.publicId) }

/-- With one failure, no row is tracked. -/
def uploadMultipleFiles (place : Destination) (contents : List String) : Try (List MediaAsset) := do
  let rows ← all (contents.map (uploadFile env place))
  track rows
  return rows

/-- A share of the files, if there is one to upload. -/
def uploadShare (place : Destination) (contents : List String) (share : Prop) [Decidable share] (offset count : Nat) :
    Try (List MediaAsset) :=
  if share then uploadMultipleFiles env place ((contents.drop offset).take count) else pure []

def findAssetByUrl (url : Url) : Try (Option MediaAsset) :=
  if url = "" then pure none else read env fun e => e.shelf.assets.find? (·.url = url)

def removeAsset (asset : MediaAsset) : Try Unit := do
  always fun e => { e with publicIdsToDelete := e.publicIdsToDelete ++ [asset.publicId] }
  call env fun e => { e with removed := e.removed ++ [asset.id] }

/-- The images that go: the rows in the transaction, the files once it has committed. -/
def discard : List Url → Try Unit
  | [] => pure ()
  | url :: rest => do
    let asset ← findAssetByUrl env url
    match asset with
    | some asset => removeAsset env asset
    | none => pure ()
    discard rest

end
end Marketplace.Products
