import Marketplace.Products.Growth

/-! What each part of an update leaves of the product, and which of its images it puts aside. -/
namespace Marketplace.Products
open Fallible Fallible.Attempt

section
variable {env : Env} {issuer : Issuer} {base : Nat} {dropped : Url → Prop} {e : Effort}

/-- The thumbnail is a new one, if a file for it came. -/
def ThumbnailOf (issuer : Issuer) (low high : Nat) (files : Files) (found : Product) (thumbnail : Option Url) (t : Effort) : Prop :=
  files.thumbnail = [] ∧ thumbnail = found.thumbnailUrl ∨
    files.thumbnail ≠ [] ∧ ∃ url, New issuer low high t url ∧ thumbnail = some url

theorem stage_updateThumbnail (files : Files) (place : Destination) (product : Product) (same : env.issuer = issuer)
    (aside : files.thumbnail ≠ [] → ∀ url, product.thumbnailUrl = some url → dropped url) :
    Stage issuer base dropped (updateThumbnail env files place product)
      (fun after t => ∃ thumbnail, after = { product with thumbnailUrl := thumbnail } ∧
        ThumbnailOf issuer e.shelf.issued t.shelf.issued files product thumbnail t) e := by
  unfold updateThumbnail
  split
  · rename_i none
    exact stage_pure ⟨product.thumbnailUrl, rfl, Or.inl ⟨none, rfl⟩⟩
  · rename_i file rest some_
    have there : files.thumbnail ≠ [] := by rw [some_]; simp
    intro from_
    refine (stage_findAssetByUrl _).bind (fun old t grown₁ named => ?_) from_
    refine (stage_uploadFile place file same).bind fun row u grown₂ uploaded => ?_
    have listed : ∀ r ∈ [row], Uploaded issuer e.shelf.issued r u :=
      fun r member => List.mem_singleton.mp member ▸ uploaded.lower grown₁.issued
    refine (stage_track from_ listed).bind fun _ v grown₃ tracked => ?_
    have uploads := tracked.2
    have done : ∀ {w : Effort}, Grown issuer base dropped v w → Stage issuer base dropped
        (pure { product with thumbnailUrl := some row.url } : Try Product)
        (fun after t => ∃ thumbnail, after = { product with thumbnailUrl := thumbnail } ∧
          ThumbnailOf issuer e.shelf.issued t.shelf.issued files product thumbnail t) w := by
      intro w later
      have own := ((uploads row (List.mem_singleton_self _)).later later).new
      exact stage_pure ⟨some row.url, rfl, Or.inr ⟨there, row.url, own, rfl⟩⟩
    cases old with
    | none => exact done grown_refl
    | some asset =>
      obtain ⟨stands, own, filled⟩ := named asset rfl
      have standing : asset ∈ v.shelf.assets := grown₃.assets asset (grown₂.assets asset stands)
      have goes : dropped asset.url := by
        cases shown : product.thumbnailUrl with
        | none =>
          rw [shown] at filled
          exact absurd rfl filled
        | some url =>
          rw [own, shown]
          exact aside there url shown
      exact (stage_removeAsset standing goes).bind fun _ w later _ => done later

theorem stage_updateGallery (dto : UpdateProductDto) (files : Files) (place : Destination) (product : Product)
    (same : env.issuer = issuer)
    (aside : ∀ url ∈ product.gallery, url ∉ dto.existingGalleryImages.getD product.gallery → dropped url) :
    Stage issuer base dropped (updateGallery env dto files place product)
      (fun after t => ∃ gallery, after = { product with gallery := gallery } ∧
        ∀ url ∈ gallery, New issuer e.shelf.issued t.shelf.issued t url ∨
          url ∈ dto.existingGalleryImages.getD product.gallery) e := by
  refine stage_ite (fun untouched => ?_) fun _ => ?_
  · obtain ⟨none, _⟩ := untouched
    refine stage_pure ⟨product.gallery, rfl, fun url member => Or.inr ?_⟩
    rw [none]
    exact member
  · have goes : ∀ url ∈ product.gallery.filter (· ∉ dto.existingGalleryImages.getD product.gallery), dropped url := by
      intro url member
      obtain ⟨shown, unkept⟩ := List.mem_filter.mp member
      exact aside url shown (by simpa using unkept)
    refine (stage_discard _ goes).bind fun _ t grown _ => ?_
    refine (stage_uploadMultipleFiles place _ same).bind fun rows u _ uploads => ?_
    refine stage_ite (fun _ => stage_throw _) fun _ => stage_pure ⟨_, rfl, fun url member => ?_⟩
    rcases List.mem_append.mp member with kept | new
    · exact Or.inr kept
    · obtain ⟨row, listed, rfl⟩ := List.mem_map.mp new
      exact Or.inl ((uploads row listed).lower grown.issued).new

theorem stage_dropVariants (dto : UpdateProductDto) (product : Product) (ofVariants : ∀ url ∈ product.variantUrls, dropped url)
    (ofColors : ∀ url ∈ product.colorUrls, dropped url) :
    Stage issuer base dropped (dropVariants env dto product)
      (fun after _ => after = { product with variants := [], colorGroups := none }) e := by
  refine stage_ite (fun _ => stage_throw _) fun _ => ?_
  refine stage_id.bind fun _ _ _ _ => ?_
  refine (stage_removeVariants true _ fun _ variant member url shown => ?_).bind fun _ _ _ _ => ?_
  · exact ofVariants url (List.mem_flatMap.mpr ⟨variant, member, shown⟩)
  · exact (stage_discard _ ofColors).bind fun _ _ _ _ => stage_pure rfl

/-- The product when its variants have been dropped, if they are to be. -/
def switched (dto : UpdateProductDto) (product : Product) : Product :=
  let kept := if Drops dto product then { product with variants := [], colorGroups := none } else product
  { kept with hasVariants := dto.hasVariants.getD product.hasVariants }

theorem stage_switchVariants (dto : UpdateProductDto) (product : Product)
    (aside : Drops dto product → ∀ url, url ∈ product.variantUrls ∨ url ∈ product.colorUrls → dropped url) :
    Stage issuer base dropped (switchVariants env dto product) (fun after _ => after = switched dto product) e := by
  have kept : Stage issuer base dropped (dropOldVariants env dto product) (fun after _ => after =
      if Drops dto product then { product with variants := [], colorGroups := none } else product) e := by
    unfold dropOldVariants
    by_cases drops : Drops dto product
    · rw [if_pos drops, if_pos drops]
      exact stage_dropVariants dto product (fun url member => aside drops url (Or.inl member))
        fun url member => aside drops url (Or.inr member)
    · rw [if_neg drops, if_neg drops]
      exact stage_pure rfl
  refine kept.bind fun after _ _ same => ?_
  subst same
  exact stage_pure rfl

theorem stage_updateStock (dto : UpdateProductDto) (product : Product) :
    Stage issuer base dropped (updateStock dto product)
      (fun after _ => after = product ∨
        product.hasVariants = false ∧ ∃ quantity : Nat, after = { product with stockQuantity := quantity }) e := by
  unfold updateStock
  split
  · exact stage_pure (Or.inl rfl)
  · refine stage_ite (fun _ => stage_throw _) fun bare => stage_pure (Or.inr ⟨by simpa using bare, _, rfl⟩)

theorem stage_updateCategory (dto : UpdateProductDto) (product : Product) :
    Stage issuer base dropped (updateCategory env dto product)
      (fun after _ => ∃ category, after = { product with category := category }) e := by
  unfold updateCategory
  split
  · exact stage_pure ⟨product.category, rfl⟩
  · split
    · exact stage_throw _
    · exact stage_pure ⟨_, rfl⟩

theorem mem_groupUrls {groups : PropertyMap ColorGroup} {url : Url} :
    url ∈ groupUrls groups ↔ ∃ entry ∈ groups.entries, url ∈ entry.2.images := by
  unfold groupUrls
  rw [List.mem_flatMap]
  constructor
  · rintro ⟨color, _, shown⟩
    cases held : groups.read? color with
    | none => simp [held] at shown
    | some group =>
      rw [held] at shown
      exact ⟨(color, group), groups.read?_eq_some.mp held, shown⟩
  · rintro ⟨⟨color, group⟩, member, shown⟩
    refine ⟨color, groups.keys_perm.mem_iff.mpr (List.mem_map_of_mem member), ?_⟩
    rw [groups.read?_eq_some.mpr member]
    exact shown

theorem mem_groupUrls_assign {groups : PropertyMap ColorGroup} {color : List Char} {group : ColorGroup} {url : Url}
    (shown : url ∈ groupUrls (groups.assign color group)) : url ∈ group.images ∨ url ∈ groupUrls groups := by
  obtain ⟨entry, member, shown⟩ := mem_groupUrls.mp shown
  rcases groups.mem_entries_assign member with own | early
  · exact Or.inl (own ▸ shown)
  · exact Or.inr (mem_groupUrls.mpr ⟨entry, early, shown⟩)

theorem stage_mergeColorGroups (place : Destination) (images : List String) (same : env.issuer = issuer) (kept : List Url)
    {low : Nat} (dtos : List UpdateColorImageGroupDto) (offset : Nat) (groups : PropertyMap ColorGroup)
    (low_le : low ≤ e.shelf.issued) (within : ∀ url ∈ keptColorUrls dtos, url ∈ kept)
    (early : ∀ url ∈ groupUrls groups, New issuer low e.shelf.issued e url ∨ url ∈ kept) :
    Stage issuer base dropped (mergeColorGroups env place images offset dtos groups)
      (fun merged t => ∀ url ∈ groupUrls merged, New issuer low t.shelf.issued t url ∨ url ∈ kept) e := by
  induction dtos generalizing offset groups e with
  | nil => exact stage_pure early
  | cons dto rest ih =>
    refine (stage_uploadShare place _ _ _ _ same).bind fun rows t grown uploads => ?_
    refine ih _ _ (Nat.le_trans low_le grown.issued) (fun url member => within url ?_) fun url shown => ?_
    · exact List.mem_flatMap.mpr (by
        obtain ⟨d, listed, own⟩ := List.mem_flatMap.mp member
        exact ⟨d, List.mem_cons_of_mem _ listed, own⟩)
    · rcases mem_groupUrls_assign shown with own | before
      · rcases List.mem_append.mp own with stays | new
        · exact Or.inr (within url (List.mem_flatMap.mpr ⟨dto, List.mem_cons_self, stays⟩))
        · obtain ⟨row, listed, rfl⟩ := List.mem_map.mp new
          exact Or.inl ((uploads row listed).lower low_le).new
      · rcases early url before with new | stays
        · exact Or.inl ((new.later grown).widen (Nat.le_refl _) grown.issued)
        · exact Or.inr stays

/-- The new colour groups, if the request has any. -/
def ColorsOf (issuer : Issuer) (low high : Nat) (dto : UpdateProductDto) (colors : Option (PropertyMap ColorGroup))
    (t : Effort) : Prop :=
  ∀ groups, dto.colorImages = some groups →
    ∀ url ∈ colors.elim [] groupUrls, New issuer low high t url ∨ url ∈ keptColorUrls groups

theorem stage_updateColors (dto : UpdateProductDto) (files : Files) (place : Destination) (product : Product)
    (same : env.issuer = issuer)
    (aside : ∀ groups, dto.colorImages = some groups → ∀ url ∈ product.colorUrls, url ∉ keptColorUrls groups → dropped url) :
    Stage issuer base dropped (updateColors env dto files place product)
      (fun colors t => ColorsOf issuer e.shelf.issued t.shelf.issued dto colors t) e := by
  unfold updateColors
  split
  · rename_i none
    refine stage_pure fun groups asked => ?_
    rw [none] at asked
    cases asked
  · rename_i groups asked
    have goes : ∀ url ∈ product.colorUrls.filter (· ∉ keptColorUrls groups), dropped url := by
      intro url member
      obtain ⟨shown, unkept⟩ := List.mem_filter.mp member
      exact aside groups asked url shown (by simpa using unkept)
    refine (stage_discard _ goes).bind fun _ t grown _ => ?_
    have empty : ∀ url ∈ groupUrls .empty, New issuer e.shelf.issued t.shelf.issued t url ∨ url ∈ keptColorUrls groups := by
      intro url shown
      obtain ⟨entry, none, _⟩ := mem_groupUrls.mp shown
      exact absurd none List.not_mem_nil
    refine (stage_mergeColorGroups place _ same _ groups 0 .empty grown.issued (fun _ => id) empty).bind fun merged u _ own => ?_
    refine stage_pure fun groups' asked' => ?_
    rw [asked] at asked'
    cases asked'
    exact own

end
end Marketplace.Products
