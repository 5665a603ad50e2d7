import Marketplace.Products.Totals

/-! No image that a product shows is deleted, whatever fails and whenever. -/
namespace Marketplace.Products

/-- Where a product has an image. -/
inductive Place where
  | thumbnail
  | gallery
  | colors
  | variant (id : Uuid)
deriving DecidableEq

def Product.At (product : Product) : Place → Url → Prop
  | .thumbnail, url => product.thumbnailUrl = some url
  | .gallery, url => url ∈ product.gallery
  | .colors, url => url ∈ product.colorUrls
  | .variant id, url => ∃ row ∈ product.variants, row.id = id ∧ url ∈ row.images

/-- Every file and every row has a name that was given, and the images of the products are apart and stored. -/
structure Pictured (issuer : Issuer) (s : Shelf) : Prop where
  files : ∀ f ∈ s.files, ∃ n < s.issued, f.publicId = issuer.publicId n ∧ f.url = issuer.url n
  assets : ∀ row ∈ s.assets, ∃ n < s.issued, row.id = issuer.asset n ∧ row.publicId = issuer.publicId n ∧ row.url = issuer.url n
  issued : ∀ id p, s.products id = some p → ∀ place url, p.At place url → ∃ n < s.issued, url = issuer.url n
  apart : ∀ i p j q, s.products i = some p → s.products j = some q → ∀ a b url, p.At a url → q.At b url → i = j ∧ a = b
  stored : ∀ id p, s.products id = some p → p.status ≠ .deleted → ∀ place url, p.At place url → ∃ f ∈ s.files, f.url = url

section
variable {env : Env} {issuer : Issuer} {dropped : Url → Prop} {s after : Shelf} {t : Effort}

theorem Grown.namedFiles (grown : Grown issuer s.issued dropped (.start s) t) (pictured : Pictured issuer s) :
    ∀ f ∈ t.shelf.files, ∃ n < t.shelf.issued, f.publicId = issuer.publicId n ∧ f.url = issuer.url n := by
  intro f there
  rcases grown.newFiles f there with early | ⟨n, within, named⟩
  · obtain ⟨n, below, named⟩ := pictured.files f early
    exact ⟨n, Nat.lt_of_lt_of_le below grown.issued, named⟩
  · exact ⟨n, within.2, named⟩

theorem Grown.namedAssets (grown : Grown issuer s.issued dropped (.start s) t) (pictured : Pictured issuer s) :
    ∀ row ∈ t.shelf.assets, ∃ n < t.shelf.issued,
      row.id = issuer.asset n ∧ row.publicId = issuer.publicId n ∧ row.url = issuer.url n := by
  intro row there
  rcases grown.newAssets row there with early | ⟨n, within, named⟩
  · obtain ⟨n, below, named⟩ := pictured.assets row early
    exact ⟨n, Nat.lt_of_lt_of_le below grown.issued, named⟩
  · exact ⟨n, within.2, named⟩

/-- What is put aside has an url of `dropped`, so that another file is not deleted with it. -/
theorem Grown.spared (distinct : issuer.Distinct) (grown : Grown issuer s.issued dropped (.start s) t)
    (pictured : Pictured issuer s) {f : StoredFile} (there : f ∈ t.shelf.files) (shown : ¬ dropped f.url) :
    f.publicId ∉ t.publicIdsToDelete := by
  intro aside
  rcases grown.discarded f.publicId aside with none | ⟨row, stands, same, goes⟩
  · exact absurd none List.not_mem_nil
  · obtain ⟨n, _, publicId, url⟩ := grown.namedFiles pictured f there
    obtain ⟨m, _, _, publicId', url'⟩ := grown.namedAssets pictured row stands
    have one := distinct.publicId (publicId.symm.trans (same.symm.trans publicId'))
    rw [url', ← one, ← url] at goes
    exact shown goes

/-- The clean-up of a failed command spares what stood before. -/
theorem Undone.spares (distinct : issuer.Distinct) (undone : Undone env issuer dropped s after) (pictured : Pictured issuer s) :
    ∀ f ∈ s.files, f ∈ after.files := by
  obtain ⟨t, owner, k, grown, rfl⟩ := undone
  intro f there
  refine (deleteAssets_cleaned env.fails owner k t.uploadedAssets t.shelf).2 f (grown.files f there) ?_
  intro x listed row stands own same
  rcases grown.uploaded x listed with none | ⟨n, within, rfl⟩
  · exact absurd none List.not_mem_nil
  · obtain ⟨k, _, id, publicId, _⟩ := grown.namedAssets pictured row stands
    obtain ⟨m, below, publicId', _⟩ := pictured.files f there
    have first := distinct.asset (own.symm.trans id)
    have second := distinct.publicId (publicId'.symm.trans (same.symm.trans publicId))
    have := within.1
    omega

theorem Pictured.undone (distinct : issuer.Distinct) (pictured : Pictured issuer s)
    (undone : Undone env issuer dropped s after) : Pictured issuer after := by
  have spared := undone.spares distinct pictured
  obtain ⟨products, _, issued⟩ := undone.tables
  obtain ⟨t, owner, k, grown, same⟩ := undone
  have cleaned := (deleteAssets_cleaned env.fails owner k t.uploadedAssets t.shelf).1
  rw [← same] at cleaned
  refine ⟨fun f there => ?_, fun row there => ?_, fun id p stands place url shown => ?_, ?_, ?_⟩
  · rw [cleaned.issued]
    exact grown.namedFiles pictured f (cleaned.files f there)
  · rw [cleaned.issued]
    exact grown.namedAssets pictured row (cleaned.assets row there)
  · rw [products] at stands
    obtain ⟨n, below, named⟩ := pictured.issued id p stands place url shown
    exact ⟨n, Nat.lt_of_lt_of_le below issued, named⟩
  · rw [products]
    exact pictured.apart
  · rw [products]
    intro id p stands live place url shown
    obtain ⟨f, there, own⟩ := pictured.stored id p stands live place url shown
    exact ⟨f, spared f there, own⟩

/-- The images of a product as a command saves it: new ones, each in one place, and old ones of its own. -/
structure Redrawn (issuer : Issuer) (s : Shelf) (t : Effort) (dropped : Url → Prop) (product : Product) : Prop where
  origin : ∀ place url, product.At place url →
    New issuer s.issued t.shelf.issued t url ∨ ∃ found old, s.products product.id = some found ∧ found.At old url ∧
      (product.status ≠ .deleted → found.status ≠ .deleted ∧ ¬ dropped url)
  onePlace : ∀ a b url, product.At a url → product.At b url → a = b
  old : ∀ url, dropped url → ∃ found, s.products product.id = some found ∧ ∃ place, found.At place url

theorem Pictured.saved (distinct : issuer.Distinct) (pictured : Pictured issuer s)
    (grown : Grown issuer s.issued dropped (.start s) t) {product : Product} {payload : Payload} {gone : List String}
    {k : Nat} {uploaded : List Uuid} (redrawn : Redrawn issuer s t dropped product) (listed : gone ⊆ t.publicIdsToDelete) :
    Pictured issuer (deleteFiles env.fails k gone (committed env t uploaded product payload)) := by
  obtain ⟨cleaned, kept⟩ := deleteFiles_cleaned env.fails k gone (committed env t uploaded product payload)
  have issued : (deleteFiles env.fails k gone (committed env t uploaded product payload)).issued = t.shelf.issued + 1 := cleaned.issued
  have products : (deleteFiles env.fails k gone (committed env t uploaded product payload)).products =
      Function.update s.products product.id (some product) :=
    cleaned.products.trans (congrArg (fun p : Uuid → Option Product => Function.update p product.id (some product)) grown.products)
  have early : s.issued ≤ t.shelf.issued := grown.issued
  have remains : ∀ f ∈ t.shelf.files, ¬ dropped f.url →
      f ∈ (deleteFiles env.fails k gone (committed env t uploaded product payload)).files := by
    intro f there shown
    exact kept f there fun aside => grown.spared distinct pictured there shown (listed aside)
  have numbered : ∀ place url, product.At place url → ∃ n < t.shelf.issued, url = issuer.url n := by
    intro place url shown
    rcases redrawn.origin place url shown with ⟨n, _, below, named, _⟩ | ⟨found, old, stands, before, _⟩
    · exact ⟨n, below, named⟩
    · obtain ⟨n, below, named⟩ := pictured.issued _ found stands old url before
      exact ⟨n, Nat.lt_of_lt_of_le below early, named⟩
  have foreign : ∀ i p, i ≠ product.id → s.products i = some p → ∀ a b url, product.At a url → ¬ p.At b url := by
    intro i p other stands a b url mine theirs
    rcases redrawn.origin a url mine with ⟨n, from_, _, named, _⟩ | ⟨found, old, stands', before, _⟩
    · obtain ⟨m, below, named'⟩ := pictured.issued i p stands b url theirs
      have := distinct.url (named.symm.trans named')
      omega
    · exact other (pictured.apart _ found i p stands' stands old b url before theirs).1.symm
  refine ⟨fun f there => ?_, fun row there => ?_, ?_, ?_, ?_⟩
  · obtain ⟨n, below, named⟩ := grown.namedFiles pictured f (cleaned.files f there)
    exact ⟨n, by omega, named⟩
  · have among := cleaned.assets row there
    obtain ⟨before, stands, rfl⟩ := List.mem_map.mp among
    obtain ⟨n, below, named⟩ := grown.namedAssets pictured before (List.mem_filter.mp stands).1
    refine ⟨n, by omega, ?_⟩
    split
    · exact named
    · exact named
  · rw [products]
    intro id p stands place url shown
    by_cases own : id = product.id
    · subst own
      rw [Function.update_self] at stands
      cases stands
      obtain ⟨n, below, named⟩ := numbered place url shown
      exact ⟨n, by omega, named⟩
    · rw [Function.update_of_ne own] at stands
      obtain ⟨n, below, named⟩ := pictured.issued id p stands place url shown
      exact ⟨n, by omega, named⟩
  · rw [products]
    intro i p j q first second a b url here there
    by_cases mine : i = product.id
    · by_cases theirs : j = product.id
      · subst mine theirs
        rw [Function.update_self] at first second
        cases first
        cases second
        exact ⟨rfl, redrawn.onePlace a b url here there⟩
      · rw [mine, Function.update_self] at first
        rw [Function.update_of_ne theirs] at second
        cases first
        exact absurd there (foreign j q theirs second a b url here)
    · rw [Function.update_of_ne mine] at first
      by_cases theirs : j = product.id
      · rw [theirs, Function.update_self] at second
        cases second
        exact absurd here (foreign i p mine first b a url there)
      · rw [Function.update_of_ne theirs] at second
        exact pictured.apart i p j q first second a b url here there
  · rw [products]
    intro id p stands live place url shown
    by_cases own : id = product.id
    · subst own
      rw [Function.update_self] at stands
      cases stands
      rcases redrawn.origin place url shown with ⟨n, from_, _, named, f, there, same⟩ | ⟨found, old, stands, before, kept⟩
      · refine ⟨f, remains f there fun goes => ?_, same⟩
        obtain ⟨found, stands, old, before⟩ := redrawn.old f.url goes
        obtain ⟨m, below, named'⟩ := pictured.issued _ found stands old f.url before
        have := distinct.url (named.symm.trans (same.symm.trans named'))
        omega
      · obtain ⟨live', stays⟩ := kept live
        obtain ⟨f, there, same⟩ := pictured.stored _ found stands live' old url before
        exact ⟨f, remains f (grown.files f there) (by rw [same]; exact stays), same⟩
    · rw [Function.update_of_ne own] at stands
      obtain ⟨f, there, same⟩ := pictured.stored id p stands live place url shown
      refine ⟨f, remains f (grown.files f there) fun goes => ?_, same⟩
      obtain ⟨found, stands', old, before⟩ := redrawn.old f.url goes
      rw [same] at before
      exact own (pictured.apart id p _ found stands stands' place old url shown before).1

section
variable {dto : UpdateProductDto} {files : Files} {found product : Product} {url : Url}

theorem at_variant {row : ProductVariant} (stands : row ∈ found.variants) (shown : url ∈ row.images) :
    found.At (.variant row.id) url := ⟨row, stands, rfl, shown⟩

theorem variantUrls_at (shown : url ∈ found.variantUrls) : ∃ id, found.At (.variant id) url := by
  obtain ⟨row, stands, pictured⟩ := List.mem_flatMap.mp shown
  exact ⟨row.id, at_variant stands pictured⟩

theorem Dropped.at (goes : Dropped dto files found url) : ∃ place, found.At place url := by
  rcases goes with ⟨_, shown⟩ | ⟨shown, _⟩ | ⟨_, shown | shown⟩ | ⟨_, _, _, shown, _⟩ | ⟨_, _, _, _, row, stands, shown, _⟩
  · exact ⟨.thumbnail, shown⟩
  · exact ⟨.gallery, shown⟩
  · obtain ⟨id, there⟩ := variantUrls_at shown
    exact ⟨.variant id, there⟩
  · exact ⟨.colors, shown⟩
  · exact ⟨.colors, shown⟩
  · exact ⟨.variant row.id, at_variant stands shown⟩

/-- Why an image of a place is put aside, in a product whose places have no image in common. -/
def AsideAt (dto : UpdateProductDto) (files : Files) (found : Product) (url : Url) : Place → Prop
  | .thumbnail => files.thumbnail ≠ []
  | .gallery => url ∉ dto.existingGalleryImages.getD found.gallery
  | .colors => Drops dto found ∨ ∃ groups, dto.colorImages = some groups ∧ url ∉ keptColorUrls groups
  | .variant id => Drops dto found ∨ dto.hasVariants.getD found.hasVariants = true ∧ dto.colorImages = none ∧
      ∃ dtos, dto.variants = some dtos ∧ (id ∉ idsOf dtos ∨ ∃ d ∈ dtos, d.id = some id ∧ url ∉ d.existingImages.getD [])

theorem Dropped.aside (apart : ∀ a b, found.At a url → found.At b url → a = b) {place : Place} (shown : found.At place url)
    (goes : Dropped dto files found url) : AsideAt dto files found url place := by
  rcases goes with ⟨sent, there⟩ | ⟨there, unkept⟩ | ⟨drops, there | there⟩ | ⟨_, groups, asked, there, unkept⟩ |
    ⟨several, legacy, dtos, asked, row, stands, there, why⟩
  · obtain rfl := apart _ .thumbnail shown there
    exact sent
  · obtain rfl := apart _ .gallery shown there
    exact unkept
  · obtain ⟨id, there⟩ := variantUrls_at there
    obtain rfl := apart _ _ shown there
    exact Or.inl drops
  · obtain rfl := apart _ .colors shown there
    exact Or.inl drops
  · obtain rfl := apart _ .colors shown there
    exact Or.inr ⟨groups, asked, unkept⟩
  · obtain rfl := apart _ _ shown (at_variant stands there)
    exact Or.inr ⟨several, legacy, dtos, asked, why⟩

end

end

end Marketplace.Products
