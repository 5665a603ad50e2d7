import Marketplace.Products.Variants
import Mathlib.Algebra.Order.BigOperators.Group.List
import Mathlib.Algebra.Order.Ring.Int

/-! The product that an update leaves, and what its transaction does to the tables and the files. -/
namespace Marketplace.Products
open Fallible Fallible.Attempt

/-- Stock that adds up, and variants only where there are to be some. -/
structure Sound (issuer : Issuer) (n : Nat) (product : Product) : Prop where
  rows : Rows issuer n product.variants
  sums : product.hasVariants = true → product.stockQuantity = sumStock product.variants
  bare : product.hasVariants = false → product.variants = []
  stocked : 0 ≤ product.stockQuantity

/-- A variant's image that an update without colours does not keep. -/
def Abandons (dto : UpdateProductDto) (product : Product) (url : Url) : Prop :=
  dto.colorImages = none ∧ ∃ dtos, dto.variants = some dtos ∧ ∃ row ∈ product.variants, url ∈ row.images ∧
    (row.id ∉ idsOf dtos ∨ ∃ d ∈ dtos, d.id = some row.id ∧ url ∉ d.existingImages.getD [])

/-- The images that an update puts aside. -/
inductive Dropped (dto : UpdateProductDto) (files : Files) (found : Product) (url : Url) : Prop
  | thumbnail (sent : files.thumbnail ≠ []) (shown : found.thumbnailUrl = some url)
  | gallery (shown : url ∈ found.gallery) (unkept : url ∉ dto.existingGalleryImages.getD found.gallery)
  | switch (drops : Drops dto found) (shown : url ∈ found.variantUrls ∨ url ∈ found.colorUrls)
  | colors (stays : ¬ Drops dto found) (groups : List UpdateColorImageGroupDto) (asked : dto.colorImages = some groups)
    (shown : url ∈ found.colorUrls) (unkept : url ∉ keptColorUrls groups)
  | variants (several : dto.hasVariants.getD found.hasVariants = true) (abandoned : Abandons dto found url)

/-- Each id is listed once. -/
def OncePerVariant (dto : UpdateProductDto) : Prop := (idsOf (dto.variants.getD [])).Nodup

instance (dto : UpdateProductDto) : Decidable (OncePerVariant dto) := inferInstanceAs (Decidable (List.Nodup _))

/-- Where the images of a variant come from. -/
def VariantImage (dto : UpdateProductDto) (found after : Product) (row : ProductVariant) (url : Url) : Prop :=
  ¬ Drops dto found ∧ (dto.variants = none ∨ after.hasVariants = false) ∧ row ∈ found.variants ∨
    KeptFor (dto.variants.getD []) row.id url

/-- Where the colour images come from. -/
def ColorImage (dto : UpdateProductDto) (found : Product) (url : Url) : Prop :=
  match dto.colorImages with
  | none => ¬ Drops dto found ∧ url ∈ found.colorUrls
  | some groups => url ∈ keptColorUrls groups

/-- The images after an update, each part with names of its own: those of the thumbnail below `a`, of the gallery below `b`, of
the colours below `c`. -/
structure Pictures (issuer : Issuer) (base a b c : Nat) (dto : UpdateProductDto) (files : Files) (found after : Product)
    (t : Effort) : Prop where
  order : base ≤ a ∧ a ≤ b ∧ b ≤ c ∧ c ≤ t.shelf.issued
  thumbnail : ThumbnailOf issuer base a files found after.thumbnailUrl t
  gallery : ∀ url ∈ after.gallery, New issuer a b t url ∨ url ∈ dto.existingGalleryImages.getD found.gallery
  colors : ∀ url ∈ after.colorUrls, New issuer b c t url ∨ ColorImage dto found url
  variants : ∀ row ∈ after.variants, ∀ url ∈ row.images,
    New issuer c t.shelf.issued t url ∨ VariantImage dto found after row url
  apart : OwnVariants issuer c found.variants (dto.variants.getD []) → Apart issuer c after.variants t

structure Edited (issuer : Issuer) (base : Nat) (env : Env) (dto : UpdateProductDto) (files : Files) (found after : Product)
    (t : Effort) : Prop where
  id : after.id = found.id
  pictures : ∃ a b c, Pictures issuer base a b c dto files found after t
  hasVariants : after.hasVariants = dto.hasVariants.getD found.hasVariants
  sound : Sound issuer t.shelf.issued after
  status : after.status = dto.status.getD found.status
  stamped : after.updatedAt = env.now ∨ after.updatedAt = found.updatedAt ∧ after.columns = found.columns

section
variable {env : Env} {issuer : Issuer} {base : Nat} {dropped : Url → Prop} {e t u : Effort}

theorem Rows.later {n m : Nat} {variants : List ProductVariant} (rows : Rows issuer n variants) (later : n ≤ m) :
    Rows issuer m variants where
  named row member := by
    obtain ⟨k, early, given⟩ := rows.named row member
    exact ⟨k, Nat.lt_of_lt_of_le early later, given⟩
  unique := rows.unique
  stocked := rows.stocked

theorem Sound.later {n m : Nat} {product : Product} (sound : Sound issuer n product) (later : n ≤ m) : Sound issuer m product :=
  ⟨sound.rows.later later, sound.sums, sound.bare, sound.stocked⟩

theorem rows_nil {n : Nat} : Rows issuer n [] :=
  ⟨fun _ none => absurd none List.not_mem_nil, List.nodup_nil, fun _ none => absurd none List.not_mem_nil⟩

theorem sumStock_nonneg {variants : List ProductVariant} (stocked : ∀ row ∈ variants, 0 ≤ row.stockQuantity) :
    0 ≤ sumStock variants := by
  refine List.sum_nonneg fun quantity member => ?_
  obtain ⟨row, listed, rfl⟩ := List.mem_map.mp member
  exact stocked row listed

/-- A product in the midst of an update: marked as one with variants, it may still lack them. -/
structure Pending (issuer : Issuer) (n : Nat) (product : Product) : Prop where
  rows : Rows issuer n product.variants
  sums : product.hasVariants = true → product.variants = [] ∨ product.stockQuantity = sumStock product.variants
  bare : product.hasVariants = false → product.variants = []
  stocked : 0 ≤ product.stockQuantity

theorem Pending.later {n m : Nat} {product : Product} (pending : Pending issuer n product) (later : n ≤ m) :
    Pending issuer m product :=
  ⟨pending.rows.later later, pending.sums, pending.bare, pending.stocked⟩

theorem Pending.sound {n : Nat} {product : Product} (pending : Pending issuer n product)
    (listed : ¬ (product.hasVariants = true ∧ product.variants = [])) : Sound issuer n product where
  rows := pending.rows
  sums several := (pending.sums several).resolve_left fun none => listed ⟨several, none⟩
  bare := pending.bare
  stocked := pending.stocked

theorem pending_switched {n : Nat} {dto : UpdateProductDto} {product : Product} (sound : Sound issuer n product) :
    Pending issuer n (switched dto product) := by
  unfold switched
  by_cases drops : Drops dto product
  · rw [if_pos drops]
    exact ⟨rows_nil, fun _ => Or.inl rfl, fun _ => rfl, sound.stocked⟩
  · rw [if_neg drops]
    refine ⟨sound.rows, fun _ => ?_, fun bare => ?_, sound.stocked⟩
    · cases several : product.hasVariants with
      | true => exact Or.inr (sound.sums several)
      | false => exact Or.inl (sound.bare several)
    · refine sound.bare ?_
      change dto.hasVariants.getD product.hasVariants = false at bare
      cases asked : dto.hasVariants with
      | none => rwa [asked] at bare
      | some wanted =>
        rw [asked] at bare
        cases several : product.hasVariants with
        | false => rfl
        | true => exact absurd ⟨asked.trans (congrArg some bare), several⟩ drops

/-- The variants after `updateVariants`: those there were, or those of the request. -/
def VariantsOf (issuer : Issuer) (low : Nat) (dto : UpdateProductDto) (before after : Product) (t : Effort) : Prop :=
  (dto.variants = none ∨ before.hasVariants = false) ∧ after = before ∨
    ∃ dtos variants, dto.variants = some dtos ∧ before.hasVariants = true ∧
      after = { before with variants := variants, stockQuantity := sumStock variants } ∧
      Rows issuer t.shelf.issued variants ∧
      (∀ row ∈ variants, ∀ url ∈ row.images, New issuer low t.shelf.issued t url ∨ KeptFor dtos row.id url) ∧
      (OwnVariants issuer low before.variants dtos → Apart issuer low variants t)

/-- Old images are apart as they are. -/
theorem apart_old {low : Nat} {rows : List ProductVariant} (old : ∀ row ∈ rows, ∀ url ∈ row.images, ∃ n < low, url = issuer.url n)
    (later : low ≤ t.shelf.issued) : Apart issuer low rows t where
  bounded row member url shown := by
    obtain ⟨n, below, named⟩ := old row member url shown
    exact ⟨n, Nat.lt_of_lt_of_le below later, named⟩
  apart a first b second _ url here _ := old a first url here

theorem stage_updateVariants (distinct : issuer.Distinct) (same : env.issuer = issuer) (dto : UpdateProductDto)
    (files : Files) (place : Destination) (product : Product) (rows : Rows issuer e.shelf.issued product.variants)
    (once : OncePerVariant dto) (aside : product.hasVariants = true → ∀ url, Abandons dto product url → dropped url) :
    Stage issuer base dropped (updateVariants env dto files place product) (VariantsOf issuer e.shelf.issued dto product) e := by
  unfold updateVariants
  cases asked : dto.variants with
  | none => exact stage_pure (Or.inl ⟨Or.inl asked, rfl⟩)
  | some dtos =>
    refine stage_ite (fun bare => stage_pure (Or.inl ⟨Or.inr bare, rfl⟩)) fun several => ?_
    have several : product.hasVariants = true := by simpa using several
    have legacy : ∀ {used : Bool}, dto.colorImages.isSome = used → used = false → dto.colorImages = none := by
      intro used same no
      rw [no] at same
      simpa using same
    have listed : (idsOf dtos).Nodup := by
      rw [OncePerVariant, asked] at once
      exact once
    refine stage_id.bind fun _ t grown₁ _ => ?_
    refine Stage.bind (R := fun _ _ => True) (stage_removeVariants _ _ fun withImages row member url shown => ?_) fun _ u grown₂ _ => ?_
    · obtain ⟨stands, absent⟩ := List.mem_filter.mp member
      have none := legacy rfl (by simpa using withImages)
      refine aside several url ⟨none, dtos, asked, row, stands, shown, Or.inl ?_⟩
      exact of_decide_eq_true absent
    · have early : e.shelf.issued ≤ u.shelf.issued := Nat.le_trans grown₁.issued grown₂.issued
      have begun : Merging issuer e.shelf.issued product.variants dtos dtos ⟨product.variants, [], [], 0⟩ u := by
        refine ⟨rfl, fun _ _ => rfl, rows.stocked, fun _ none => absurd none List.not_mem_nil, List.nodup_nil,
          fun _ none => absurd none List.not_mem_nil, fun _ _ none => absurd none List.not_mem_nil,
          fun _ none => absurd none List.not_mem_nil, fun own => ?_⟩
        rw [List.append_nil]
        exact apart_old own.2 early
      refine Stage.bind (stage_mergeVariants distinct rows same place files.variantImages dtos (fun _ => id) listed early begun
        fun no d among row stands named url shown unkept => ?_) fun merged v later done => ?_
      · exact aside several url ⟨legacy rfl no, dtos, asked, row, stands, shown, Or.inr ⟨d, among, named, unkept⟩⟩
      · obtain ⟨whole, good⟩ := done.rows rows (Nat.le_trans early later.issued)
        exact stage_pure (Or.inr ⟨dtos, merged.saved, asked, several, by rw [whole], good, done.images, done.savedApart⟩)

theorem ColorsOf.later {low high : Nat} {dto : UpdateProductDto} {colors : Option (PropertyMap ColorGroup)}
    (own : ColorsOf issuer low high dto colors t) (grown : Grown issuer base dropped t u) : ColorsOf issuer low high dto colors u :=
  fun groups asked url shown => (own groups asked url shown).imp_left fun new => new.later grown

theorem ThumbnailOf.later {low high : Nat} {files : Files} {found : Product} {thumbnail : Option Url}
    (own : ThumbnailOf issuer low high files found thumbnail t) (grown : Grown issuer base dropped t u) :
    ThumbnailOf issuer low high files found thumbnail u := by
  rcases own with kept | ⟨sent, url, new, same⟩
  · exact Or.inl kept
  · exact Or.inr ⟨sent, url, new.later grown, same⟩

variable (env) in
theorem stamp_fields (changed : Prop) [Decidable changed] (product : Product) :
    stamp env changed product = { product with updatedAt := (stamp env changed product).updatedAt } := by
  unfold stamp
  split <;> rfl

variable (env) in
theorem stamped {found product : Product} (before : product.updatedAt = found.updatedAt) :
    (stamp env (product.columns ≠ found.columns) product).updatedAt = env.now ∨
      (stamp env (product.columns ≠ found.columns) product).updatedAt = found.updatedAt ∧ product.columns = found.columns := by
  unfold stamp
  by_cases written : product.columns ≠ found.columns ∨ env.touch = true
  · rw [if_pos written]
    exact Or.inl rfl
  · rw [if_neg written]
    exact Or.inr ⟨before, by_contra fun differ => written (Or.inl differ)⟩

section
variable {dto : UpdateProductDto} {files : Files} {found product : Product}

theorem switched_variants : (switched dto product).variants = if Drops dto product then [] else product.variants := by
  unfold switched
  split <;> rfl

theorem switched_colorUrls : (switched dto product).colorUrls = if Drops dto product then [] else product.colorUrls := by
  unfold switched
  split <;> rfl

theorem switched_gallery : (switched dto product).gallery = product.gallery := by
  unfold switched
  split <;> rfl

theorem switched_thumbnailUrl : (switched dto product).thumbnailUrl = product.thumbnailUrl := by
  unfold switched
  split <;> rfl

theorem switched_id : (switched dto product).id = product.id := by
  unfold switched
  split <;> rfl

theorem switched_status : (switched dto product).status = product.status := by
  unfold switched
  split <;> rfl

theorem switched_updatedAt : (switched dto product).updatedAt = product.updatedAt := by
  unfold switched
  split <;> rfl

/-- The product when the parts before the colours are done, with the names given so far. -/
structure Prepared (issuer : Issuer) (base a b : Nat) (dto : UpdateProductDto) (files : Files) (found product : Product)
    (t : Effort) : Prop where
  id : product.id = found.id
  order : base ≤ a ∧ a ≤ b ∧ b ≤ t.shelf.issued
  thumbnail : ThumbnailOf issuer base a files found product.thumbnailUrl t
  gallery : ∀ url ∈ product.gallery, New issuer a b t url ∨ url ∈ dto.existingGalleryImages.getD found.gallery
  variants : product.variants = if Drops dto found then [] else found.variants
  colorUrls : product.colorUrls = if Drops dto found then [] else found.colorUrls
  hasVariants : product.hasVariants = dto.hasVariants.getD found.hasVariants
  status : product.status = dto.status.getD found.status
  updatedAt : product.updatedAt = found.updatedAt
  pending : Pending issuer base product

variable {a b : Nat}

theorem prepared_switched {thumbnail : Option Url} {gallery : List Url} (sound : Sound issuer base found)
    (order : base ≤ a ∧ a ≤ b ∧ b ≤ t.shelf.issued) (thumbnailOf : ThumbnailOf issuer base a files found thumbnail t)
    (galleryOf : ∀ url ∈ gallery, New issuer a b t url ∨ url ∈ dto.existingGalleryImages.getD found.gallery)
    (same : product = { found with thumbnailUrl := thumbnail, gallery := gallery }) :
    Prepared issuer base a b dto files found (switched dto (dto.assign env product)) t := by
  subst same
  refine ⟨switched_id, order, ?_, ?_, ?_, ?_, rfl, switched_status, switched_updatedAt, pending_switched ?_⟩
  · rw [switched_thumbnailUrl]
    exact thumbnailOf
  · rw [switched_gallery]
    exact galleryOf
  · exact switched_variants
  · exact switched_colorUrls
  · exact ⟨sound.rows, sound.sums, sound.bare, sound.stocked⟩

theorem Prepared.later {first : Nat} (prepared : Prepared issuer base a b dto files found product t)
    (grown : Grown issuer first dropped t u) :
    Prepared issuer base a b dto files found product u := by
  obtain ⟨first, second, third⟩ := prepared.order
  exact ⟨prepared.id, ⟨first, second, Nat.le_trans third grown.issued⟩, prepared.thumbnail.later grown,
    fun url shown => (prepared.gallery url shown).imp_left fun new => new.later grown, prepared.variants, prepared.colorUrls,
    prepared.hasVariants, prepared.status, prepared.updatedAt, prepared.pending⟩

theorem Prepared.withStock (prepared : Prepared issuer base a b dto files found product t) (bare : product.hasVariants = false)
    (quantity : Nat) : Prepared issuer base a b dto files found { product with stockQuantity := quantity } t := by
  refine ⟨prepared.id, prepared.order, prepared.thumbnail, prepared.gallery, prepared.variants, prepared.colorUrls,
    prepared.hasVariants, prepared.status, prepared.updatedAt, prepared.pending.rows, fun several => ?_, prepared.pending.bare,
    Int.natCast_nonneg quantity⟩
  exact absurd (bare.symm.trans several) Bool.false_ne_true

theorem Prepared.withCategory (prepared : Prepared issuer base a b dto files found product t) (category : Option Uuid) :
    Prepared issuer base a b dto files found { product with category := category } t :=
  ⟨prepared.id, prepared.order, prepared.thumbnail, prepared.gallery, prepared.variants, prepared.colorUrls,
    prepared.hasVariants, prepared.status, prepared.updatedAt, prepared.pending.rows, prepared.pending.sums,
    prepared.pending.bare, prepared.pending.stocked⟩

theorem Prepared.leaves (prepared : Prepared issuer base a b dto files found product t) (drops : Drops dto found) :
    product.hasVariants = false := by
  rw [prepared.hasVariants, drops.1]
  rfl

theorem Prepared.standing (prepared : Prepared issuer base a b dto files found product t) (row : ProductVariant)
    (stands : row ∈ product.variants) : ¬ Drops dto found ∧ row ∈ found.variants := by
  rw [prepared.variants] at stands
  by_cases drops : Drops dto found
  · rw [if_pos drops] at stands
    exact absurd stands List.not_mem_nil
  · rw [if_neg drops] at stands
    exact ⟨drops, stands⟩

variable {low : Nat}

theorem VariantsOf.fields {after : Product} (variantsOf : VariantsOf issuer low dto product after t) :
    after = { product with variants := after.variants, stockQuantity := after.stockQuantity } := by
  rcases variantsOf with ⟨_, rfl⟩ | ⟨_, _, _, _, rfl, _⟩ <;> rfl

theorem VariantsOf.pending {after : Product} (variantsOf : VariantsOf issuer low dto product after t)
    (before : Pending issuer base product) (later : base ≤ t.shelf.issued) : Pending issuer t.shelf.issued after := by
  rcases variantsOf with ⟨_, rfl⟩ | ⟨_, variants, _, several, rfl, rows, _⟩
  · exact before.later later
  · refine ⟨rows, fun _ => Or.inr rfl, fun bare => ?_, sumStock_nonneg rows.stocked⟩
    exact absurd (several.symm.trans bare) Bool.true_eq_false.mp

theorem VariantsOf.images {after : Product} (variantsOf : VariantsOf issuer low dto product after t)
    (prepared : Prepared issuer base a b dto files found product t) :
    ∀ row ∈ after.variants, ∀ url ∈ row.images, New issuer low t.shelf.issued t url ∨ VariantImage dto found after row url := by
  intro row stands url shown
  rcases variantsOf with ⟨unasked, rfl⟩ | ⟨dtos, variants, asked, _, rfl, _, images, _⟩
  · obtain ⟨stays, stands⟩ := prepared.standing row stands
    exact Or.inr (Or.inl ⟨stays, unasked, stands⟩)
  · refine (images row stands url shown).imp_right fun kept => Or.inr ?_
    rw [asked]
    exact kept

theorem VariantsOf.apart {after : Product} (variantsOf : VariantsOf issuer low dto product after t)
    (prepared : Prepared issuer base a b dto files found product t) (later : low ≤ t.shelf.issued)
    (own : OwnVariants issuer low found.variants (dto.variants.getD [])) : Apart issuer low after.variants t := by
  rcases variantsOf with ⟨_, rfl⟩ | ⟨dtos, variants, asked, _, rfl, _, _, apart⟩
  · exact apart_old (fun row stands => own.2 row (prepared.standing row stands).2) later
  · rw [asked] at own
    exact apart ⟨fun d among row stands => own.1 d among row (prepared.standing row stands).2,
      fun row stands => own.2 row (prepared.standing row stands).2⟩

/-- What the last part puts together. -/
theorem edited_of_prepared {colors : Option (PropertyMap ColorGroup)} {after : Product}
    (prepared : Prepared issuer base a b dto files found product t) (colorsOf : ColorsOf issuer b low dto colors t)
    (variantsOf : VariantsOf issuer low dto product after t) (order : b ≤ low ∧ low ≤ t.shelf.issued)
    (listed : ¬ (after.hasVariants = true ∧ after.variants = [])) :
    Edited issuer base env dto files found
      (stamp env ((withColors dto colors after).columns ≠ found.columns) (withColors dto colors after)) t := by
  obtain ⟨first, second, third⟩ := prepared.order
  have sound := (variantsOf.pending prepared.pending (by omega)).sound listed
  have images := variantsOf.images prepared
  have fields := variantsOf.fields
  have colorUrls : ∀ url ∈ (withColors dto colors after).colorUrls, New issuer b low t url ∨ ColorImage dto found url := by
    intro url shown
    unfold ColorImage
    cases asked : dto.colorImages with
    | none =>
      have kept : (withColors dto colors after).colorUrls = product.colorUrls := by
        rw [withColors, asked, fields]
        rfl
      rw [kept, prepared.colorUrls] at shown
      by_cases drops : Drops dto found
      · rw [if_pos drops] at shown
        exact absurd shown List.not_mem_nil
      · rw [if_neg drops] at shown
        exact Or.inr ⟨drops, shown⟩
    | some groups =>
      have given : (withColors dto colors after).colorUrls = colors.elim [] groupUrls := by
        rw [withColors, asked]
        rfl
      rw [given] at shown
      exact colorsOf groups asked url shown
  have last : withColors dto colors after =
      { after with colorGroups := (withColors dto colors after).colorGroups } := by
    unfold withColors
    split <;> rfl
  have final := stamp_fields env ((withColors dto colors after).columns ≠ found.columns)
    (withColors dto colors after)
  have updatedAt : (withColors dto colors after).updatedAt = found.updatedAt := by
    rw [last, fields]
    exact prepared.updatedAt
  refine ⟨?_, ⟨a, b, low, ⟨first, second, order⟩, ?_, ?_, ?_, ?_, ?_⟩, ?_, ?_, ?_, ?_⟩
  · rw [final, last, fields]
    exact prepared.id
  · rw [final, last, fields]
    exact prepared.thumbnail
  · rw [final, last, fields]
    exact prepared.gallery
  · rw [final]
    exact colorUrls
  · rw [final, last]
    exact images
  · rw [final, last]
    exact variantsOf.apart prepared order.2
  · rw [final, last, fields]
    exact prepared.hasVariants
  · rw [final, last]
    exact ⟨sound.rows, sound.sums, sound.bare, sound.stocked⟩
  · rw [final, last, fields]
    exact prepared.status
  · rcases stamped env updatedAt with now | ⟨same, unchanged⟩
    · exact Or.inl now
    · refine Or.inr ⟨same, ?_⟩
      rw [final]
      exact unchanged

end

theorem stage_edit (distinct : issuer.Distinct) (same : env.issuer = issuer) (dto : UpdateProductDto) (files : Files)
    (owner shop : Uuid) (found : Product) (sound : Sound issuer e.shelf.issued found) (once : OncePerVariant dto)
    (aside : ∀ url, Dropped dto files found url → dropped url) :
    Stage issuer base dropped (edit env dto files owner shop found) (Edited issuer e.shelf.issued env dto files found) e := by
  unfold edit
  refine (stage_updateThumbnail files _ found same fun sent url shown => aside url (.thumbnail sent shown)).bind ?_
  rintro p₁ t₁ grown₁ ⟨thumbnail, same₁, thumbnailOf⟩
  have goes₁ : ∀ url ∈ p₁.gallery, url ∉ dto.existingGalleryImages.getD p₁.gallery → dropped url := by
    rw [same₁]
    exact fun url shown unkept => aside url (.gallery shown unkept)
  refine (stage_updateGallery dto files _ p₁ same goes₁).bind ?_
  rintro p₂ t₂ grown₂ ⟨gallery, same₂, galleryOf⟩
  rw [same₁] at same₂ galleryOf
  have goes₂ : Drops dto (dto.assign env p₂) →
      ∀ url, url ∈ (dto.assign env p₂).variantUrls ∨ url ∈ (dto.assign env p₂).colorUrls → dropped url := by
    rw [same₂]
    exact fun drops url shown => aside url (.switch drops shown)
  refine (stage_switchVariants dto _ goes₂).bind ?_
  rintro p₃ t₃ grown₃ same₃
  have prepared₃ : Prepared issuer e.shelf.issued t₁.shelf.issued t₂.shelf.issued dto files found p₃ t₃ := by
    rw [same₃]
    refine prepared_switched sound ⟨grown₁.issued, grown₂.issued, grown₃.issued⟩ (thumbnailOf.later (grown₂.trans grown₃))
      (fun url shown => (galleryOf url shown).imp_left fun new => new.later grown₃) same₂
  refine (stage_updateStock dto p₃).bind ?_
  rintro p₄ t₄ grown₄ stock₄
  have prepared₄ : Prepared issuer e.shelf.issued t₁.shelf.issued t₂.shelf.issued dto files found p₄ t₄ := by
    rcases stock₄ with rfl | ⟨bare, quantity, rfl⟩
    · exact prepared₃.later grown₄
    · exact (prepared₃.withStock bare quantity).later grown₄
  refine (stage_updateCategory dto p₄).bind ?_
  rintro p₅ t₅ grown₅ ⟨category, same₅⟩
  have prepared₅ : Prepared issuer e.shelf.issued t₁.shelf.issued t₂.shelf.issued dto files found p₅ t₅ := by
    rw [same₅]
    exact (prepared₄.withCategory category).later grown₅
  have goes₅ : ∀ groups, dto.colorImages = some groups → ∀ url ∈ p₅.colorUrls, url ∉ keptColorUrls groups → dropped url := by
    intro groups asked url shown unkept
    rw [prepared₅.colorUrls] at shown
    by_cases drops : Drops dto found
    · rw [if_pos drops] at shown
      exact absurd shown List.not_mem_nil
    · rw [if_neg drops] at shown
      exact aside url (.colors drops groups asked shown unkept)
  refine (stage_updateColors dto files _ p₅ same goes₅).bind ?_
  rintro colors t₆ grown₆ colorsOf
  have goes₆ : p₅.hasVariants = true → ∀ url, Abandons dto p₅ url → dropped url := by
    rintro several url ⟨legacy, dtos, asked, row, stands, shown⟩
    rw [prepared₅.hasVariants] at several
    exact aside url (.variants several ⟨legacy, dtos, asked, row, (prepared₅.standing row stands).2, shown⟩)
  have prepared₆ := prepared₅.later grown₆
  have rows : Rows issuer t₆.shelf.issued p₅.variants := by
    obtain ⟨first, second, third⟩ := prepared₆.order
    exact prepared₅.pending.rows.later (by omega)
  refine (stage_updateVariants distinct same dto files _ p₅ rows once goes₆).bind ?_
  rintro p₇ t₇ grown₇ variantsOf
  refine stage_ite (fun _ => stage_throw _) fun listed => stage_pure ?_
  have wider : ColorsOf issuer t₂.shelf.issued t₆.shelf.issued dto colors t₇ := by
    intro groups asked url shown
    refine (colorsOf groups asked url shown).imp_left fun new => (new.later grown₇).widen ?_ (Nat.le_refl _)
    exact prepared₅.order.2.2
  refine edited_of_prepared (prepared₆.later grown₇) wider variantsOf ⟨prepared₆.order.2.2, grown₇.issued⟩ ?_
  rintro ⟨several, none⟩
  refine listed ?_
  unfold withColors
  split
  · exact ⟨several, none⟩
  · exact ⟨several, none⟩

end
end Marketplace.Products
