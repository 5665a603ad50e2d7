import Marketplace.Products.Catalog

/-! The commands of `ProductsService` that write, each with its transaction and what it undoes after a failure. -/
namespace Marketplace.Products
open Fallible Fallible.Attempt

section
variable (env : Env)

/-- The columns of the snapshot that a search document carries. -/
def Product.row (product : Product) : Search.Reindex.CatalogProduct where
  id := product.id
  name := product.name
  slug := product.slug
  description := product.description
  price := product.price
  shopId := some product.shop
  categoryId := product.category
  thumbnailUrl := product.thumbnailUrl
  status := product.status
  isHidden := product.isHidden
  updatedAt := product.updatedAt

def Product.snapshot (product : Product) : Search.ProductDoc := Search.Reindex.snapshot product.row

/-- The own columns of the table, in which a save looks for a change. -/
def Product.columns (product : Product) : Product := { product with variants := [], updatedAt := 0 }

/-- `@UpdateDateColumn` is written by an `UPDATE`, which the ORM sends for a column that differs. -/
def stamp (changed : Prop) [Decidable changed] (product : Product) : Product :=
  if changed ∨ env.touch = true then { product with updatedAt := env.now } else product

def emit (payload : Payload) (s : Shelf) : Shelf :=
  { s with outbox := s.outbox ++ [⟨env.issuer.event s.issued, payload, env.now⟩], issued := s.issued + 1 }

def store (product : Product) (s : Shelf) : Shelf := { s with products := Function.update s.products product.id (some product) }

/-- The rows of the assets once the transaction has committed. -/
def settleAssets (removed uploaded : List Uuid) (product : Uuid) (s : Shelf) : Shelf :=
  { s with assets := (s.assets.filter fun row => row.id ∉ removed).map fun row =>
      if row.id ∈ uploaded then { row with product := some product } else row }

/-- `deleteFile`, each on its own. -/
def deleteFiles (failed : Nat → Bool) : Nat → List String → Shelf → Shelf
  | _, [], s => s
  | k, publicId :: rest, s =>
    deleteFiles failed (k + 1) rest
      (if failed k then s else { s with files := s.files.filter (·.publicId ≠ publicId) })

/-- `deleteAsset` of each upload: the row is found by its owner, then the file goes, then the row. -/
def deleteAssets (failed : Nat → Bool) (owner : Uuid) : Nat → List (Uuid × String) → Shelf → Shelf
  | _, [], s => s
  | k, (id, _) :: rest, s =>
    deleteAssets failed owner (k + 3) rest
      (match s.assets.find? (fun row => row.id = id ∧ row.owner = owner) with
      | none => s
      | some asset =>
        if failed k ∨ failed (k + 1) then s
        else
          let gone := { s with files := s.files.filter (·.publicId ≠ asset.publicId) }
          if failed (k + 2) then gone else { gone with assets := gone.assets.filter (·.id ≠ asset.id) })

/-- The `catch` of `create` and `update`: what is not thrown on becomes `message`. -/
def answer (thrownOn : Err → Bool) (message : String) : Thrown → Err
  | .http e => if thrownOn e then e else .internal message
  | .failed => .internal message

def isBadRequest : Err → Bool
  | .badRequest _ => true
  | _ => false

def isBadRequestOrNotFound : Err → Bool
  | .badRequest _ => true
  | .notFound _ => true
  | _ => false

/-- The files of the colour groups, handed out in the order of the groups. -/
def uploadColorGroups (place : Destination) (images : List String) :
    Nat → List ColorImageGroupDto → PropertyMap ColorGroup → Try (PropertyMap ColorGroup)
  | _, [], groups => pure groups
  | offset, group :: rest, groups => do
    let rows ← uploadMultipleFiles env place ((images.drop offset).take group.imageCount)
    uploadColorGroups place images (offset + group.imageCount) rest
      (groups.assign group.color.toList ⟨group.hex, rows.map (·.url)⟩)

def attributesOf (attributes : Option (List (String × String))) (name : String) : List (String × String) :=
  match attributes with
  | some (entry :: rest) => entry :: rest
  | _ => env.parseVariantAttributes name

/-- The variants of a new product, with their own images unless these go by colour. -/
def createVariants (place : Destination) (images : List String) (usingColorModel : Bool) :
    Nat → List CreateProductVariantDto → Try (List ProductVariant)
  | _, [] => pure []
  | offset, dto :: rest => do
    let count := dto.imageCount.getD 0
    let rows ← uploadShare env place images (usingColorModel = false) offset count
    let n ← number
    let variant : ProductVariant :=
      ⟨env.issuer.variant n, dto.name, attributesOf env dto.attributes dto.name, dto.sku, dto.additionalPrice.getD 0,
        dto.stockQuantity, rows.map (·.url)⟩
    let variants ← createVariants place images usingColorModel (if usingColorModel then offset else offset + count) rest
    return variant :: variants

/-- The assets that were uploaded are given their product. -/
def assignAssets : Try Unit := do
  let e ← look id
  if e.uploadedAssets = [] then pure () else call env id

/-- The statements at the end of `create` and of `update`. -/
def saveAndEmit (product : Product) (payload : Product → Payload) : Try Product := do
  call env id
  assignAssets env
  call env id
  call env fun e =>
    { e with
      shelf := emit env (payload product)
        (settleAssets e.removed (e.uploadedAssets.map (·.1)) product.id (store product e.shelf)) }
  return product

def usesColors {α : Type} : Option (List α) → Bool
  | some (_ :: _) => true
  | _ => false

/-- The files must be as many as the variants, or the colours, declare. -/
def checkVariantFiles (dto : CreateProductDto) (files : Files) : Except Err Unit :=
  if dto.hasVariants = false then .ok ()
  else if dto.variants.getD [] = [] then .error (.badRequest "Thiếu thông tin chi tiết của các biến thể sản phẩm")
  else if usesColors dto.colorImages then
    let declared := ((dto.colorImages.getD []).map (·.imageCount)).sum
    let actual := files.colorImages.length
    if declared ≠ actual then
      .error (.badRequest s!"Số ảnh màu không khớp (Khai báo: {declared}, Thực tế: {actual})")
    else .ok ()
  else
    let declared := ((dto.variants.getD []).map fun variant => variant.imageCount.getD 0).sum
    let actual := files.variantImages.length
    if declared ≠ actual then
      .error (.badRequest s!"Số lượng ảnh biến thể không khớp (Khai báo: {declared}, Thực tế: {actual})")
    else .ok ()

/-- What `create` checks before its transaction: the shop it goes to. -/
def checkCreate (dto : CreateProductDto) (files : Files) (user : User) : Except Err Uuid :=
  if user.status ≠ .active then
    .error (.badRequest "Tài khoản chưa được kích hoạt để thực hiện chức năng này")
  else
    match env.shopOf user.sub with
    | none => .error (.notFound "Không tìm thấy gian hàng của bạn")
    | some (shop, status) =>
      if status ≠ .active then
        .error (.badRequest "Cửa hàng hiện đang trong trạng thái bị khóa hoặc chưa được kích hoạt")
      else
        match env.leafCategory dto.categoryId with
        | .error e => .error e
        | .ok () =>
          if files.thumbnail = [] then .error (.badRequest "Ảnh đại diện (thumbnail) là bắt buộc")
          else if files.generalGallery = [] then .error (.badRequest "Yêu cầu tối thiểu 1 ảnh trong bộ sưu tập chung")
          else (checkVariantFiles dto files).map fun _ => shop

/-- The `try` of `create`, up to the save. -/
def draft (dto : CreateProductDto) (files : Files) (user : User) (shop : Uuid) : Try Product := do
  let thumbnail ← uploadFile env (thumbnails user.sub shop) (files.thumbnail.headD "")
  track [thumbnail]
  let gallery ← uploadMultipleFiles env (galleries user.sub shop) files.generalGallery
  let usingColorModel := usesColors dto.colorImages
  let colorGroups ← uploadColorGroups env (variantFiles user.sub shop) files.colorImages 0 (dto.colorImages.getD []) .empty
  let variants ← createVariants env (variantFiles user.sub shop) files.variantImages usingColorModel 0
    (if dto.hasVariants then dto.variants.getD [] else [])
  let n ← number
  return {
      id := env.issuer.product n
      shop := shop
      category := some dto.categoryId
      name := dto.name
      slug := env.slugify dto.name
      sku := dto.sku
      description := dto.description
      price := dto.price
      weight := dto.weight
      length := dto.length
      width := dto.width
      height := dto.height
      variants := variants
      thumbnailUrl := some thumbnail.url
      gallery := gallery.map (·.url)
      colorGroups := if usingColorModel then some colorGroups else none
      stockQuantity := if dto.hasVariants ∧ dto.variants.isSome then sumStock variants else (dto.stockQuantity.getD 0 : Nat)
      hasVariants := dto.hasVariants
      isHidden := false
      status := .active
      moderationReason := none
      moderatedAt := none
      moderatedBy := none
      updatedAt := env.now }

def create (dto : CreateProductDto) (files : Files) (user : User) (s : Shelf) : Except Err Product × Shelf :=
  match checkCreate env dto files user with
  | .error e => (.error e, s)
  | .ok shop =>
    match (draft env dto files user shop >>= fun product =>
        saveAndEmit env product fun saved => .productCreated saved.snapshot) (.start s) with
    | (.ok product, e) => (.ok product, e.shelf)
    | (.error thrown, e) =>
      (.error (answer isBadRequest "Đã xảy ra lỗi trong quá trình khởi tạo sản phẩm" thrown),
        deleteAssets env.fails user.sub e.calls e.uploadedAssets e.shelf)

/-- A take-down or a restore: the product is found, checked and saved in one transaction, with two events. -/
def moderate (admin id : Uuid) (status : ProductStatus) (refused : Product → Option Err) (action : ModerationAction)
    (reason : Option String) (message : String) (s : Shelf) : Except Err Product × Shelf :=
  if env.fails 0 then (.error (.internal message), s)
  else
    match s.products id with
    | none => (.error (.notFound "Không tìm thấy sản phẩm"), s)
    | some found =>
      match refused found with
      | some e => (.error e, s)
      | none =>
        -- the save, the seller's contact, the two events and the commit
        if env.fails 1 ∨ env.fails 2 ∨ env.fails 3 ∨ env.fails 4 ∨ env.fails 5 then (.error (.internal message), s)
        else
          let product :=
            { found with status := status, moderationReason := reason, moderatedAt := some env.now
                         moderatedBy := some admin, updatedAt := env.now }
          (.ok product,
            emit env (.productUpdated product.snapshot)
              (emit env
                (.productModerated
                  ⟨product.id, product.name, product.shop, env.sellerContact product.shop, action, reason⟩)
                (store product s)))

def takeDown (admin id : Uuid) (reason : String) : Shelf → Except Err Product × Shelf :=
  moderate env admin id .suspended
    (fun product =>
      if product.status = .deleted then some (.badRequest "Sản phẩm đã bị xóa, không thể gỡ.")
      else if product.status = .suspended then some (.badRequest "Sản phẩm đã bị gỡ trước đó.")
      else none)
    .takenDown (some reason) "Đã xảy ra lỗi khi gỡ sản phẩm"

def restore (admin id : Uuid) : Shelf → Except Err Product × Shelf :=
  moderate env admin id .active
    (fun product =>
      if product.status ≠ .suspended then some (.badRequest "Chỉ khôi phục được sản phẩm đang bị gỡ.") else none)
    .restored none "Đã xảy ra lỗi khi khôi phục sản phẩm"

/-- A new thumbnail takes the place of the old one. -/
def updateThumbnail (files : Files) (place : Destination) (product : Product) : Try Product :=
  match files.thumbnail with
  | [] => pure product
  | file :: _ => do
    let old ← findAssetByUrl env (product.thumbnailUrl.getD "")
    let row ← uploadFile env place file
    track [row]
    match old with
    | some asset => removeAsset env asset
    | none => pure ()
    return { product with thumbnailUrl := some row.url }

def updateGallery (dto : UpdateProductDto) (files : Files) (place : Destination) (product : Product) : Try Product :=
  if dto.existingGalleryImages = none ∧ files.generalGallery = [] then pure product
  else do
    let existing := dto.existingGalleryImages.getD product.gallery
    discard env (product.gallery.filter (· ∉ existing))
    let rows ← uploadMultipleFiles env place files.generalGallery
    if MAX_GALLERY_IMAGES < existing.length + rows.length then
      throwErr (.badRequest s!"Số lượng ảnh trong bộ sưu tập vượt quá giới hạn (tối đa {MAX_GALLERY_IMAGES} ảnh). Hiện có {existing.length} ảnh cũ và {rows.length} ảnh mới được tải lên.")
    else return { product with gallery := existing ++ rows.map (·.url) }

/-- The text, unless it is empty. -/
def filled (text : Option String) : Option String := text.filter (· ≠ "")

def UpdateProductDto.assign (dto : UpdateProductDto) (product : Product) : Product :=
  { product with
    name := (filled dto.name).getD product.name
    slug := ((filled dto.name).map env.slugify).getD product.slug
    description := dto.description <|> product.description
    price := (dto.price.filter (· ≠ 0)).getD product.price
    sku := dto.sku <|> product.sku
    weight := dto.weight.getD product.weight
    length := dto.length <|> product.length
    width := dto.width <|> product.width
    height := dto.height <|> product.height
    status := dto.status.getD product.status
    isHidden := dto.isHidden.getD product.isHidden }

/-- Each variant goes with its images. -/
def removeVariants (withImages : Bool) : List ProductVariant → Try Unit
  | [] => pure ()
  | variant :: rest => do
    if withImages then discard env variant.images
    call env id
    removeVariants withImages rest

/-- From a product with variants to one without. -/
def dropVariants (dto : UpdateProductDto) (product : Product) : Try Product :=
  if dto.price = none ∨ dto.stockQuantity = none then
    throwErr (.badRequest "Khi chuyển từ sản phẩm có biến thể sang không có biến thể, bạn bắt buộc phải nhập giá (price) và số lượng tồn kho (stock_quantity) cho sản phẩm gốc.")
  else do
    call env id
    removeVariants env true product.variants
    discard env product.colorUrls
    return { product with variants := [], colorGroups := none }

/-- The update takes a product with variants to one without. -/
def Drops (dto : UpdateProductDto) (product : Product) : Prop := dto.hasVariants = some false ∧ product.hasVariants = true

instance (dto : UpdateProductDto) (product : Product) : Decidable (Drops dto product) :=
  inferInstanceAs (Decidable (_ ∧ _))

def dropOldVariants (dto : UpdateProductDto) (product : Product) : Try Product :=
  if Drops dto product then dropVariants env dto product else pure product

def switchVariants (dto : UpdateProductDto) (product : Product) : Try Product := do
  let kept ← dropOldVariants env dto product
  return { kept with hasVariants := dto.hasVariants.getD product.hasVariants }

def updateStock (dto : UpdateProductDto) (product : Product) : Try Product :=
  match dto.stockQuantity with
  | none => pure product
  | some quantity =>
    if product.hasVariants then
      throwErr (.badRequest "Không được phép cập nhật tồn kho của sản phẩm gốc khi sản phẩm có biến thể. Vui lòng cập nhật tồn kho ở từng biến thể.")
    else return { product with stockQuantity := quantity }

def updateCategory (dto : UpdateProductDto) (product : Product) : Try Product :=
  match filled dto.categoryId with
  | none => pure product
  | some category =>
    match env.leafCategory category with
    | .error e => throwErr e
    | .ok () => return { product with category := some category }

/-- The groups of an update: what each keeps, and its share of the new files. -/
def mergeColorGroups (place : Destination) (images : List String) :
    Nat → List UpdateColorImageGroupDto → PropertyMap ColorGroup → Try (PropertyMap ColorGroup)
  | _, [], groups => pure groups
  | offset, group :: rest, groups => do
    let count := group.imageCount.getD 0
    let uploads := 0 < count ∧ images ≠ []
    let rows ← uploadShare env place images uploads offset count
    mergeColorGroups place images (if uploads then offset + count else offset) rest
      (groups.assign group.color.toList ⟨group.hex, group.existingImages.getD [] ++ rows.map (·.url)⟩)

def keptColorUrls (groups : List UpdateColorImageGroupDto) : List Url := groups.flatMap (·.existingImages.getD [])

def updateColors (dto : UpdateProductDto) (files : Files) (place : Destination) (product : Product) :
    Try (Option (PropertyMap ColorGroup)) :=
  match dto.colorImages with
  | none => pure none
  | some groups => do
    discard env (product.colorUrls.filter (· ∉ keptColorUrls groups))
    let merged ← mergeColorGroups env place files.colorImages 0 groups .empty
    return some merged

/-- The variants as they stood, with what the request has changed in them, the new ones, and the list to save. -/
structure Merge where
  old : List ProductVariant
  created : List ProductVariant
  variantsToSave : List Uuid
  offset : Nat

def Merge.saved (m : Merge) : List ProductVariant :=
  m.variantsToSave.filterMap fun id => (m.old ++ m.created).find? (·.id = id)

def UpdateProductVariantDto.assign (dto : UpdateProductVariantDto) (images : List Url) (variant : ProductVariant) :
    ProductVariant :=
  { variant with
    name := dto.name.getD variant.name
    attributes := match dto.name with
      | some name => attributesOf env dto.attributes name
      | none => dto.attributes.getD variant.attributes
    sku := dto.sku <|> variant.sku
    additionalPrice := dto.additionalPrice.getD variant.additionalPrice
    stockQuantity := (dto.stockQuantity.map fun quantity : Nat => (quantity : Int)).getD variant.stockQuantity
    images := images }

/-- A variant that the request names by its id. -/
def mergeOld (usingColorModel : Bool) (dto : UpdateProductVariantDto) (id : Uuid) (urls : List Url) (offset : Nat) (m : Merge) :
    Try Merge :=
  match m.old.find? (·.id = id) with
  | none => throwErr (.badRequest s!"Biến thể với ID {id} không tồn tại")
  | some variant => do
    let existing := dto.existingImages.getD []
    discard env (if usingColorModel then [] else variant.images.filter (· ∉ existing))
    let name := dto.name.getD "undefined"
    if MAX_VARIANT_IMAGES < existing.length + urls.length then
      throwErr (.badRequest s!"Biến thể \"{name}\" vượt quá số lượng ảnh cho phép (tối đa {MAX_VARIANT_IMAGES} ảnh). Hiện có {existing.length} ảnh cũ và {urls.length} ảnh mới được tải lên.")
    else
      return { m with
        old := m.old.map fun row => if row.id = id then dto.assign env (existing ++ urls) variant else row
        variantsToSave := m.variantsToSave ++ [id]
        offset := offset }

def mergeNew (dto : UpdateProductVariantDto) (urls : List Url) (offset : Nat) (m : Merge) : Try Merge :=
  let name := dto.name.getD "undefined"
  if MAX_VARIANT_IMAGES < urls.length then
    throwErr (.badRequest s!"Biến thể \"{name}\" chỉ được phép có tối đa {MAX_VARIANT_IMAGES} ảnh.")
  else
    match filled dto.name, dto.stockQuantity with
    | some name, some quantity => do
      let n ← number
      let variant : ProductVariant :=
        ⟨env.issuer.variant n, name, attributesOf env dto.attributes name, dto.sku, dto.additionalPrice.getD 0, quantity, urls⟩
      return { m with created := m.created ++ [variant], variantsToSave := m.variantsToSave ++ [variant.id], offset := offset }
    | _, _ => throwErr (.badRequest "Biến thể mới yêu cầu đầy đủ thông tin về tên và số lượng tồn kho")

def mergeVariant (usingColorModel : Bool) (dto : UpdateProductVariantDto) (urls : List Url) (offset : Nat) (m : Merge) :
    Try Merge :=
  match dto.id with
  | some id => mergeOld env usingColorModel dto id urls offset m
  | none => mergeNew env dto urls offset m

def mergeVariants (place : Destination) (images : List String) (usingColorModel : Bool) :
    List UpdateProductVariantDto → Merge → Try Merge
  | [], m => pure m
  | dto :: rest, m => do
    let count := dto.imageCount.getD 0
    let uploads := usingColorModel = false ∧ images ≠ [] ∧ 0 < count
    let rows ← uploadShare env place images uploads m.offset count
    let offset := if uploads then m.offset + count else m.offset
    let m ← mergeVariant env usingColorModel dto (rows.map (·.url)) offset m
    mergeVariants place images usingColorModel rest m

def updateVariants (dto : UpdateProductDto) (files : Files) (place : Destination) (product : Product) : Try Product :=
  match dto.variants with
  | none => pure product
  | some dtos =>
    if product.hasVariants = false then pure product
    else do
      let usingColorModel := dto.colorImages.isSome
      call env id
      removeVariants env (!usingColorModel) (product.variants.filter (·.id ∉ dtos.filterMap (·.id)))
      let merged ← mergeVariants env place files.variantImages usingColorModel dtos ⟨product.variants, [], [], 0⟩
      -- one row a variant, however often the list names it
      return { product with variants := merged.saved.dedup, stockQuantity := sumStock merged.saved }

/-- The colour groups are replaced whenever the request has some. -/
def withColors (dto : UpdateProductDto) (colors : Option (PropertyMap ColorGroup)) (product : Product) : Product :=
  if dto.colorImages.isSome then { product with colorGroups := colors } else product

/-- The `try` of `update`, up to the save. -/
def edit (dto : UpdateProductDto) (files : Files) (owner shop : Uuid) (found : Product) : Try Product := do
  let product ← updateThumbnail env files (thumbnails owner shop) found
  let product ← updateGallery env dto files (galleries owner shop) product
  let product ← switchVariants env dto (dto.assign env product)
  let product ← updateStock dto product
  let product ← updateCategory env dto product
  let colors ← updateColors env dto files (variantFiles owner shop) product
  let product ← updateVariants env dto files (variantFiles owner shop) product
  let product := withColors dto colors product
  if product.hasVariants = true ∧ product.variants = [] then
    throwErr (.badRequest "Sản phẩm được đánh dấu có biến thể nhưng không có dữ liệu biến thể nào.")
  else return stamp env (product.columns ≠ found.columns) product

/-- The shop of the seller, which must be active and own the product. -/
def checkOwner (user : Uuid) (product : Product) (denied : String) : Except Err Uuid :=
  match env.shopOf user with
  | none => .error (.notFound "Không tìm thấy gian hàng của bạn")
  | some (shop, status) =>
    if status ≠ .active then
      .error (.badRequest "Cửa hàng hiện đang trong trạng thái bị khóa hoặc chưa được kích hoạt")
    else if product.shop ≠ shop then .error (.badRequest denied)
    else .ok shop

def checkUpdate (id : Uuid) (dto : UpdateProductDto) (user : User) (s : Shelf) : Except Err (Product × Uuid) :=
  match s.products id with
  | none => .error (.notFound "Không tìm thấy sản phẩm")
  | some product =>
    if product.status = .suspended then
      .error (.forbidden "Sản phẩm đang bị gỡ do vi phạm — liên hệ quản trị viên để khôi phục.")
    else if dto.status = some .suspended then .error (.forbidden "Không thể tự đặt trạng thái \"bị gỡ\".")
    else
      (checkOwner env user.sub product "Yêu cầu bị từ chối do bạn không có quyền sở hữu sản phẩm này").map fun shop =>
        (product, shop)

/-- `resolveVariantImages`: the images of its colour, if the variant has one with images. -/
def Product.imagesOf (product : Product) (variant : ProductVariant) : List Url :=
  let images := do
    let color ← filled (variant.attributes.lookup "color")
    let groups ← product.colorGroups
    let group ← groups.read? color.toList
    return group.images
  match images with
  | some (url :: rest) => url :: rest
  | _ => variant.images

def Product.aggregatedGallery (product : Product) : List Url :=
  ((product.thumbnailUrl.toList ++ product.gallery ++ product.variants.flatMap product.imagesOf).filter (· ≠ "")).eraseDups

/-- The product is answered as it has been saved, with all its images. -/
def update (id : Uuid) (dto : UpdateProductDto) (files : Files) (user : User) (s : Shelf) :
    Except Err (Product × List Url) × Shelf :=
  match checkUpdate env id dto user s with
  | .error e => (.error e, s)
  | .ok (found, shop) =>
    match (edit env dto files user.sub shop found >>= fun product =>
        saveAndEmit env product fun saved => .productUpdated saved.snapshot) (.start s) with
    | (.ok product, e) =>
      let after := deleteFiles env.fails e.calls e.publicIdsToDelete e.shelf
      if env.fails (e.calls + e.publicIdsToDelete.length) then (.error (.internal "Internal server error"), after)
      else (.ok (product, product.aggregatedGallery), after)
    | (.error thrown, e) =>
      (.error (answer isBadRequestOrNotFound "Đã xảy ra lỗi trong quá trình cập nhật thông tin sản phẩm" thrown),
        deleteAssets env.fails user.sub e.calls e.uploadedAssets e.shelf)

/-- The row stays, without its pictures and its variants. Its colour groups stay in it. -/
def Product.removed (product : Product) : Product :=
  { product with
    status := .deleted, hasVariants := false, thumbnailUrl := none, gallery := [], stockQuantity := 0, variants := []
    updatedAt := env.now }

/-- The `try` of `remove`. -/
def removeBody (product : Product) : Try Unit := do
  discard env product.aggregatedGallery
  removeVariants env false product.variants
  call env id
  call env id
  call env fun e =>
    { e with
      shelf := emit env (.productDeleted product.id) (settleAssets e.removed [] product.id (store (product.removed env) e.shelf)) }

def remove (id : Uuid) (user : User) (s : Shelf) : Except Err Unit × Shelf :=
  match s.products id with
  | none => (.error (.notFound "Không tìm thấy sản phẩm"), s)
  | some product =>
    match checkOwner env user.sub product "Bạn không có quyền thực hiện thao tác xóa trên sản phẩm này" with
    | .error e => (.error e, s)
    | .ok _ =>
      match removeBody env product (.start s) with
      | (.ok (), e) => (.ok (), deleteFiles env.fails e.calls e.publicIdsToDelete e.shelf)
      | (.error _, e) => (.error (.internal "Đã xảy ra lỗi trong quá trình xóa sản phẩm"), e.shelf)

end

/-- What a checkout or a restock writes in one product: how much each of its lines adds, and to which variant. -/
structure StockMove where
  product : Uuid
  lines : List (Option Uuid × Int)

def StockMove.total (move : StockMove) : Int := (move.lines.map (·.2)).sum

def StockMove.of (move : StockMove) (variant : Uuid) : Int :=
  ((move.lines.filter (·.1 = some variant)).map (·.2)).sum

def StockMove.write (move : StockMove) (now : Time) (product : Product) : Product :=
  { product with
    stockQuantity := product.stockQuantity + move.total
    variants := product.variants.map fun row => { row with stockQuantity := row.stockQuantity + move.of row.id }
    updatedAt := now }

/-- No row goes below zero: the check of the table refuses the whole. -/
def moveStock (move : StockMove) (now : Time) (s : Shelf) : Shelf :=
  match s.products move.product with
  | none => s
  | some product =>
    let moved := move.write now product
    if 0 ≤ moved.stockQuantity ∧ ∀ row ∈ moved.variants, 0 ≤ row.stockQuantity then store moved s else s

inductive Command where
  | create (dto : CreateProductDto) (files : Files) (user : User)
  | update (id : Uuid) (dto : UpdateProductDto) (files : Files) (user : User)
  | remove (id : Uuid) (user : User)
  | takeDown (admin id : Uuid) (reason : String)
  | restore (admin id : Uuid)
  | moveStock (move : StockMove)

/-- One command after the other, each with what it finds around it. -/
def act (s : Shelf) (turn : Env × Command) : Shelf :=
  match turn.2 with
  | .create dto files user => (create turn.1 dto files user s).2
  | .update id dto files user => (update turn.1 id dto files user s).2
  | .remove id user => (remove turn.1 id user s).2
  | .takeDown admin id reason => (takeDown turn.1 admin id reason s).2
  | .restore admin id => (restore turn.1 admin id s).2
  | .moveStock move => moveStock move turn.1.now s

def emptyShelf : Shelf := ⟨fun _ => none, [], [], [], 0⟩

end Marketplace.Products
