import Marketplace.Products.Stages
import Mathlib.Logic.Function.Defs

/-! What the variants of a product are after an update that names each of them at most once. -/
namespace Marketplace.Products
open Fallible Fallible.Attempt

/-- No name is given twice, and no url is empty. -/
structure Issuer.Distinct (issuer : Issuer) : Prop where
  product : issuer.product.Injective
  variant : issuer.variant.Injective
  asset : issuer.asset.Injective
  publicId : issuer.publicId.Injective
  url : issuer.url.Injective
  event : issuer.event.Injective
  filled : ∀ n, issuer.url n ≠ ""

/-- Variants with ids of their own, given before `n`, and stock that is not below zero. -/
structure Rows (issuer : Issuer) (n : Nat) (variants : List ProductVariant) : Prop where
  named : ∀ row ∈ variants, ∃ k < n, row.id = issuer.variant k
  unique : (variants.map (·.id)).Nodup
  stocked : ∀ row ∈ variants, 0 ≤ row.stockQuantity

def idsOf (dtos : List UpdateProductVariantDto) : List Uuid := dtos.filterMap (·.id)

/-- Images of a variant that the request keeps. -/
def KeptFor (dtos : List UpdateProductVariantDto) (id : Uuid) (url : Url) : Prop :=
  ∃ dto ∈ dtos, dto.id = some id ∧ url ∈ dto.existingImages.getD []

/-- The request keeps for each variant images of its own, and these are old. -/
def OwnVariants (issuer : Issuer) (low : Nat) (standing : List ProductVariant) (dtos : List UpdateProductVariantDto) : Prop :=
  (∀ dto ∈ dtos, ∀ row ∈ standing, dto.id = some row.id → ∀ url ∈ dto.existingImages.getD [], url ∈ row.images) ∧
    ∀ row ∈ standing, ∀ url ∈ row.images, ∃ n < low, url = issuer.url n

/-- Variants share no image with a name from `low` on, and none has a name yet to come. -/
structure Apart (issuer : Issuer) (low : Nat) (rows : List ProductVariant) (t : Effort) : Prop where
  bounded : ∀ row ∈ rows, ∀ url ∈ row.images, ∃ n < t.shelf.issued, url = issuer.url n
  apart : ∀ a ∈ rows, ∀ b ∈ rows, a.id ≠ b.id → ∀ url ∈ a.images, url ∈ b.images → ∃ n < low, url = issuer.url n

/-- The merge of the variants `standing` with a request, of which `left` is still to do. -/
structure Merging (issuer : Issuer) (low : Nat) (standing : List ProductVariant) (dtos left : List UpdateProductVariantDto)
    (m : Merge) (t : Effort) : Prop where
  sameIds : m.old.map (·.id) = standing.map (·.id)
  untouched : ∀ id ∈ idsOf left, m.old.find? (·.id = id) = standing.find? (·.id = id)
  oldStocked : ∀ row ∈ m.old, 0 ≤ row.stockQuantity
  created : ∀ row ∈ m.created, (∃ n, IssuedIn low t n ∧ row.id = issuer.variant n) ∧ 0 ≤ row.stockQuantity
  unique : m.variantsToSave.Nodup
  origin : ∀ id ∈ m.variantsToSave, id ∈ standing.map (·.id) ∧ id ∉ idsOf left ∨ ∃ n, IssuedIn low t n ∧ id = issuer.variant n
  oldImages : ∀ row ∈ m.old, row.id ∈ m.variantsToSave →
    ∀ url ∈ row.images, New issuer low t.shelf.issued t url ∨ KeptFor dtos row.id url
  newImages : ∀ row ∈ m.created, ∀ url ∈ row.images, New issuer low t.shelf.issued t url
  apart : OwnVariants issuer low standing dtos → Apart issuer low (m.old ++ m.created) t

section
variable {issuer : Issuer} {base low : Nat} {dropped : Url → Prop} {standing : List ProductVariant} {e t u : Effort}
  {dtos left : List UpdateProductVariantDto} {m : Merge}

theorem find_replace {rows : List ProductVariant} {row : ProductVariant} {id other : Uuid} (own : row.id = id)
    (apart : other ≠ id) :
    (rows.map fun r => if r.id = id then row else r).find? (·.id = other) = rows.find? (·.id = other) := by
  induction rows with
  | nil => rfl
  | cons r rows ih =>
    rw [List.map_cons]
    by_cases same : r.id = id
    · have first : ¬ row.id = other := by rw [own]; exact fun h => apart h.symm
      have second : ¬ r.id = other := by rw [same]; exact fun h => apart h.symm
      rw [if_pos same, List.find?_cons_of_neg (by simpa using first), List.find?_cons_of_neg (by simpa using second), ih]
    · rw [if_neg same, List.find?_cons, List.find?_cons, ih]

theorem Apart.later {rows : List ProductVariant} (apart : Apart issuer low rows t) (grown : Grown issuer base dropped t u) :
    Apart issuer low rows u where
  bounded row member url shown := by
    obtain ⟨n, below, named⟩ := apart.bounded row member url shown
    exact ⟨n, Nat.lt_of_lt_of_le below grown.issued, named⟩
  apart := apart.apart

theorem Merging.later (merging : Merging issuer low standing dtos left m t) (grown : Grown issuer base dropped t u) :
    Merging issuer low standing dtos left m u where
  sameIds := merging.sameIds
  untouched := merging.untouched
  oldStocked := merging.oldStocked
  created row member := by
    obtain ⟨⟨n, within, named⟩, stocked⟩ := merging.created row member
    exact ⟨⟨n, within.later grown.issued, named⟩, stocked⟩
  unique := merging.unique
  origin id member := by
    rcases merging.origin id member with old | ⟨n, within, named⟩
    · exact Or.inl old
    · exact Or.inr ⟨n, within.later grown.issued, named⟩
  oldImages row member chosen url shown := (merging.oldImages row member chosen url shown).imp_left
    fun new => (new.later grown).widen (Nat.le_refl _) grown.issued
  newImages row member url shown := ((merging.newImages row member url shown).later grown).widen (Nat.le_refl _) grown.issued
  apart own := (merging.apart own).later grown

/-- A row takes images that no other row has: its own old ones, and new ones. -/
theorem Apart.replace {rows after : List ProductVariant} {row : ProductVariant} {urls old : List Url} (distinct : issuer.url.Injective)
    (apart : Apart issuer low rows t) (grown : Grown issuer base dropped t u)
    (mem : ∀ r ∈ after, r = row ∨ r ∈ rows ∧ r.id ≠ row.id) (images : ∀ url ∈ row.images, url ∈ old ∨ url ∈ urls)
    (early : ∀ url ∈ old, ∃ n < low, url = issuer.url n) (low_le : low ≤ t.shelf.issued)
    (new : ∀ url ∈ urls, New issuer t.shelf.issued u.shelf.issued u url) : Apart issuer low after u := by
  have others : ∀ r ∈ rows, ∀ url ∈ row.images, url ∈ r.images → ∃ n < low, url = issuer.url n := by
    intro r member url own theirs
    rcases images url own with kept | added
    · exact early url kept
    · obtain ⟨n, from_, _, named, _⟩ := new url added
      obtain ⟨k, below, named'⟩ := apart.bounded r member url theirs
      have := distinct (named.symm.trans named')
      omega
  refine ⟨fun r member url shown => ?_, fun a first b second differ url here there => ?_⟩
  · rcases mem r member with rfl | ⟨stands, _⟩
    · rcases images url shown with kept | added
      · obtain ⟨n, below, named⟩ := early url kept
        exact ⟨n, Nat.lt_of_lt_of_le below (Nat.le_trans low_le grown.issued), named⟩
      · obtain ⟨n, _, below, named, _⟩ := new url added
        exact ⟨n, below, named⟩
    · obtain ⟨n, below, named⟩ := apart.bounded r stands url shown
      exact ⟨n, Nat.lt_of_lt_of_le below grown.issued, named⟩
  · rcases mem a first with rfl | ⟨stands, _⟩
    · rcases mem b second with rfl | ⟨stands', _⟩
      · exact absurd rfl differ
      · exact others b stands' url here there
    · rcases mem b second with rfl | ⟨stands', _⟩
      · exact others a stands url there here
      · exact apart.apart a stands b stands' differ url here there

variable {env : Env} {dto : UpdateProductVariantDto} {rest : List UpdateProductVariantDto} {usingColorModel : Bool}

theorem UpdateProductVariantDto.assign_stocked {variant : ProductVariant} {images : List Url} (stocked : 0 ≤ variant.stockQuantity) :
    0 ≤ (dto.assign env images variant).stockQuantity := by
  unfold UpdateProductVariantDto.assign
  cases dto.stockQuantity with
  | none => exact stocked
  | some quantity => exact Int.natCast_nonneg quantity

theorem stage_mergeOld (distinct : issuer.Distinct) (rows : Rows issuer low standing) {id : Uuid}
    (named : dto.id = some id) (member : dto ∈ dtos) (once : id ∉ idsOf rest) {urls : List Url}
    (before : Grown issuer base dropped t e) (low_le : low ≤ t.shelf.issued)
    (new : ∀ url ∈ urls, New issuer t.shelf.issued e.shelf.issued e url)
    (merging : Merging issuer low standing dtos (dto :: rest) m t) (offset : Nat)
    (aside : usingColorModel = false → ∀ row ∈ standing, row.id = id →
      ∀ url ∈ row.images, url ∉ dto.existingImages.getD [] → dropped url) :
    Stage issuer base dropped (mergeOld env usingColorModel dto id urls offset m)
      (fun m' t => Merging issuer low standing dtos rest m' t) e := by
  have listed : id ∈ idsOf (dto :: rest) := List.mem_filterMap.mpr ⟨dto, List.mem_cons_self, named⟩
  unfold mergeOld
  cases found : m.old.find? (·.id = id) with
  | none => exact stage_throw _
  | some variant =>
    have original : standing.find? (·.id = id) = some variant := (merging.untouched id listed).symm.trans found
    have stands := List.mem_of_find?_eq_some original
    have own : variant.id = id := by simpa using List.find?_some original
    have goes : ∀ url ∈ (if usingColorModel then [] else variant.images.filter (· ∉ dto.existingImages.getD [])), dropped url := by
      intro url shown
      cases usingColorModel with
      | true => exact absurd shown List.not_mem_nil
      | false =>
        obtain ⟨pictured, unkept⟩ := List.mem_filter.mp shown
        exact aside rfl variant stands own url pictured (by simpa using unkept)
    refine (stage_discard _ goes).bind fun _ u grown _ => ?_
    refine stage_ite (fun _ => stage_throw _) fun _ => stage_pure ?_
    have whole := before.trans grown
    have now := merging.later whole
    have new' : ∀ url ∈ urls, New issuer t.shelf.issued u.shelf.issued u url := fun url added =>
      ((new url added).later grown).widen (Nat.le_refl _) grown.issued
    have mem_old : ∀ row ∈ m.old.map (fun row => if row.id = id then dto.assign env (dto.existingImages.getD [] ++ urls) variant
        else row), row = dto.assign env (dto.existingImages.getD [] ++ urls) variant ∨ row ∈ m.old ∧ row.id ≠ id := by
      intro row there
      obtain ⟨before, among, rfl⟩ := List.mem_map.mp there
      by_cases same : before.id = id
      · rw [if_pos same]
        exact Or.inl rfl
      · rw [if_neg same]
        exact Or.inr ⟨among, same⟩
    have fresh : id ∉ m.variantsToSave := by
      intro before
      rcases merging.origin id before with ⟨_, done⟩ | ⟨n, within, given⟩
      · exact done listed
      · obtain ⟨k, early, given'⟩ := rows.named variant stands
        rw [own, given] at given'
        have := distinct.variant given'
        have := within.1
        omega
    refine ⟨?_, ?_, ?_, now.created, ?_, ?_, ?_, now.newImages, ?_⟩
    · rw [← merging.sameIds, List.map_map]
      apply List.map_congr_left
      intro row _
      dsimp only [Function.comp]
      split
      · rename_i same
        exact own.trans same.symm
      · rfl
    · intro other left
      have apart : other ≠ id := fun same => once (same ▸ left)
      have replaced : (dto.assign env (dto.existingImages.getD [] ++ urls) variant).id = id := own
      rw [find_replace replaced apart]
      refine merging.untouched other ?_
      obtain ⟨d, among, theirs⟩ := List.mem_filterMap.mp left
      exact List.mem_filterMap.mpr ⟨d, List.mem_cons_of_mem _ among, theirs⟩
    · intro row there
      rcases mem_old row there with rfl | ⟨among, _⟩
      · exact UpdateProductVariantDto.assign_stocked (merging.oldStocked variant (List.mem_of_find?_eq_some found))
      · exact merging.oldStocked row among
    · exact List.Nodup.append merging.unique (List.nodup_singleton id)
        (List.disjoint_singleton.mpr fresh)
    · intro other chosen
      rcases List.mem_append.mp chosen with before | last
      · rcases now.origin other before with ⟨old, done⟩ | given
        · refine Or.inl ⟨old, fun left => done ?_⟩
          obtain ⟨d, among, theirs⟩ := List.mem_filterMap.mp left
          exact List.mem_filterMap.mpr ⟨d, List.mem_cons_of_mem _ among, theirs⟩
        · exact Or.inr given
      · rw [List.mem_singleton.mp last]
        exact Or.inl ⟨own ▸ List.mem_map_of_mem stands, once⟩
    · intro row there chosen url shown
      rcases mem_old row there with rfl | ⟨among, apart⟩
      · rcases List.mem_append.mp shown with kept | added
        · exact Or.inr ⟨dto, member, named.trans (congrArg some own.symm), kept⟩
        · exact Or.inl ((new' url added).widen low_le (Nat.le_refl _))
      · have before : row.id ∈ m.variantsToSave := by
          rcases List.mem_append.mp chosen with before | last
          · exact before
          · exact absurd (List.mem_singleton.mp last) apart
        exact now.oldImages row among before url shown
    · intro theirs
      have images : ∀ url ∈ (dto.assign env (dto.existingImages.getD [] ++ urls) variant).images,
          url ∈ dto.existingImages.getD [] ∨ url ∈ urls := fun url shown => List.mem_append.mp shown
      have early : ∀ url ∈ dto.existingImages.getD [], ∃ n < low, url = issuer.url n := fun url kept =>
        theirs.2 variant stands url (theirs.1 dto member variant stands (named.trans (congrArg some own.symm)) url kept)
      refine (merging.apart theirs).replace distinct.url whole (fun row there => ?_) images early low_le new'
      rcases List.mem_append.mp there with old | created
      · rcases mem_old row old with same | ⟨among, apart⟩
        · exact Or.inl same
        · exact Or.inr ⟨List.mem_append_left _ among, fun same => apart (same.trans own)⟩
      · refine Or.inr ⟨List.mem_append_right _ created, fun same => ?_⟩
        obtain ⟨⟨n, within, given⟩, _⟩ := merging.created row created
        obtain ⟨k, early, given'⟩ := rows.named variant stands
        have clash : row.id = variant.id := same
        rw [given, given'] at clash
        have := distinct.variant clash
        have := within.1
        omega

theorem stage_mergeNew (distinct : issuer.Distinct) (rows : Rows issuer low standing) (unnamed : dto.id = none)
    (same : env.issuer = issuer) {urls : List Url} (before : Grown issuer base dropped t e) (low_le : low ≤ t.shelf.issued)
    (new : ∀ url ∈ urls, New issuer t.shelf.issued e.shelf.issued e url)
    (merging : Merging issuer low standing dtos (dto :: rest) m t) (offset : Nat) :
    Stage issuer base dropped (mergeNew env dto urls offset m) (fun m' t => Merging issuer low standing dtos rest m' t) e := by
  have leftOver : idsOf (dto :: rest) = idsOf rest := List.filterMap_cons_none unnamed
  refine stage_ite (fun _ => stage_throw _) fun _ => ?_
  cases filled dto.name with
  | none => exact stage_throw _
  | some name =>
    cases dto.stockQuantity with
    | none => exact stage_throw _
    | some quantity =>
      refine stage_number.bind fun n u grown numbered => stage_pure ?_
      obtain ⟨within, later⟩ := numbered
      have whole := before.trans grown
      have now := merging.later whole
      have began := before.issued
      have within : IssuedIn low u n := ⟨by omega, within.2⟩
      have new' : ∀ url ∈ urls, New issuer t.shelf.issued u.shelf.issued u url := fun url added =>
        ((new url added).later grown).widen (Nat.le_refl _) grown.issued
      have freshId : ∀ row ∈ m.old ++ m.created, row.id ≠ issuer.variant n := by
        intro row there own
        rcases List.mem_append.mp there with old | created
        · have listed : row.id ∈ standing.map (·.id) := merging.sameIds ▸ List.mem_map_of_mem old
          obtain ⟨original, stands, theirs⟩ := List.mem_map.mp listed
          obtain ⟨k, early, given⟩ := rows.named original stands
          have := distinct.variant ((given.symm.trans theirs).trans own)
          have := within.1
          omega
        · obtain ⟨⟨k, early, given⟩, _⟩ := merging.created row created
          have := distinct.variant (given.symm.trans own)
          have := early.2
          omega
      have fresh : env.issuer.variant n ∉ m.variantsToSave := by
        rw [same]
        intro before
        rcases merging.origin _ before with ⟨old, _⟩ | ⟨k, early, given⟩
        · obtain ⟨row, stands, own⟩ := List.mem_map.mp old
          obtain ⟨k, early, given⟩ := rows.named row stands
          have := distinct.variant (given.symm.trans own)
          have := within.1
          omega
        · have := distinct.variant given
          have := early.2
          omega
      refine ⟨now.sameIds, leftOver ▸ now.untouched, now.oldStocked, ?_, ?_, ?_, ?_, ?_, ?_⟩
      · intro row there
        rcases List.mem_append.mp there with before | last
        · exact now.created row before
        · rw [List.mem_singleton.mp last]
          exact ⟨⟨n, within, by rw [same]⟩, Int.natCast_nonneg quantity⟩
      · exact List.Nodup.append merging.unique (List.nodup_singleton _) (List.disjoint_singleton.mpr fresh)
      · intro id chosen
        rcases List.mem_append.mp chosen with before | last
        · rw [← leftOver]
          exact now.origin id before
        · rw [List.mem_singleton.mp last]
          exact Or.inr ⟨n, within, by rw [same]⟩
      · intro row there chosen url shown
        refine now.oldImages row there ?_ url shown
        rcases List.mem_append.mp chosen with before | last
        · exact before
        · refine absurd ((List.mem_singleton.mp last).trans ?_) (freshId row (List.mem_append_left _ there))
          rw [same]
      · intro row there url shown
        rcases List.mem_append.mp there with before | last
        · exact now.newImages row before url shown
        · rw [List.mem_singleton.mp last] at shown
          exact (new' url shown).widen low_le (Nat.le_refl _)
      · intro theirs
        have images : ∀ url ∈ (ProductVariant.mk (env.issuer.variant n) name (attributesOf env dto.attributes name) dto.sku
            (dto.additionalPrice.getD 0) quantity urls).images, url ∈ ([] : List Url) ∨ url ∈ urls := fun url shown => Or.inr shown
        refine (merging.apart theirs).replace distinct.url whole (fun row there => ?_) images
          (fun _ none => absurd none List.not_mem_nil) low_le new'
        rcases List.mem_append.mp there with old | created
        · refine Or.inr ⟨List.mem_append_left _ old, fun own => freshId row (List.mem_append_left _ old) ?_⟩
          rw [← same]
          exact own
        · rcases List.mem_append.mp created with before | last
          · refine Or.inr ⟨List.mem_append_right _ before, fun own => freshId row (List.mem_append_right _ before) ?_⟩
            rw [← same]
            exact own
          · exact Or.inl (List.mem_singleton.mp last)

theorem stage_mergeVariants (distinct : issuer.Distinct) (rows : Rows issuer low standing) (same : env.issuer = issuer)
    (place : Destination) (images : List String) (left : List UpdateProductVariantDto) (within : ∀ dto ∈ left, dto ∈ dtos)
    (once : (idsOf left).Nodup) (low_le : low ≤ e.shelf.issued) (merging : Merging issuer low standing dtos left m e)
    (aside : usingColorModel = false → ∀ dto ∈ dtos, ∀ row ∈ standing, dto.id = some row.id →
      ∀ url ∈ row.images, url ∉ dto.existingImages.getD [] → dropped url) :
    Stage issuer base dropped (mergeVariants env place images usingColorModel left m)
      (fun m' t => Merging issuer low standing dtos [] m' t) e := by
  induction left generalizing m e with
  | nil => exact stage_pure merging
  | cons dto rest ih =>
    refine (stage_uploadShare place _ _ _ _ same).bind fun uploads t grown own => ?_
    have new : ∀ url ∈ uploads.map (·.url), New issuer e.shelf.issued t.shelf.issued t url := by
      intro url shown
      obtain ⟨row, listed, rfl⟩ := List.mem_map.mp shown
      exact (own row listed).new
    have after : (idsOf rest).Nodup := by
      cases named : dto.id with
      | none => rwa [idsOf, List.filterMap_cons_none named] at once
      | some id =>
        rw [idsOf, List.filterMap_cons_some named] at once
        exact (List.nodup_cons.mp once).2
    refine Stage.bind ?_ fun m' u grown' merged =>
      ih (fun d among => within d (List.mem_cons_of_mem _ among)) after
        (Nat.le_trans low_le (Nat.le_trans grown.issued grown'.issued)) merged
    unfold mergeVariant
    cases named : dto.id with
    | none => exact stage_mergeNew distinct rows named same grown low_le new merging _
    | some id =>
      have alone : id ∉ idsOf rest := by
        rw [idsOf, List.filterMap_cons_some named] at once
        exact (List.nodup_cons.mp once).1
      refine stage_mergeOld distinct rows named (within dto List.mem_cons_self) alone grown low_le new merging _
        fun legacy row stands theirs => ?_
      exact aside legacy dto (within dto List.mem_cons_self) row stands (by rw [named, theirs])

theorem Merging.saved_mem (row : ProductVariant) (there : row ∈ m.saved) :
    row ∈ m.old ++ m.created ∧ row.id ∈ m.variantsToSave := by
  obtain ⟨id, chosen, found⟩ := List.mem_filterMap.mp there
  have own : row.id = id := by simpa using List.find?_some found
  exact ⟨List.mem_of_find?_eq_some found, own ▸ chosen⟩

theorem Merging.saved_ids (merging : Merging issuer low standing dtos left m t) : (m.saved.map (·.id)).Nodup := by
  have shorter : (m.saved.map (·.id)).Sublist m.variantsToSave := by
    unfold Merge.saved
    rw [List.map_filterMap]
    generalize m.variantsToSave = ids
    induction ids with
    | nil => exact .slnil
    | cons id ids ih =>
      cases found : (m.old ++ m.created).find? (·.id = id) with
      | none =>
        rw [List.filterMap_cons_none (by rw [found]; rfl)]
        exact ih.cons id
      | some row =>
        have own : row.id = id := by simpa using List.find?_some found
        rw [List.filterMap_cons_some (b := id) (by rw [found, Option.map_some, own])]
        exact ih.cons_cons id
  exact merging.unique.sublist shorter

/-- The variants of the merge, each of them once. -/
theorem Merging.rows (rows : Rows issuer low standing) (merging : Merging issuer low standing dtos left m t)
    (later : low ≤ t.shelf.issued) : m.saved.dedup = m.saved ∧ Rows issuer t.shelf.issued m.saved := by
  have ids := merging.saved_ids
  refine ⟨(List.Nodup.of_map _ ids).dedup, fun row there => ?_, ids, fun row there => ?_⟩
  · rcases List.mem_append.mp (Merging.saved_mem row there).1 with old | new
    · have named : row.id ∈ standing.map (·.id) := merging.sameIds ▸ List.mem_map_of_mem old
      obtain ⟨original, stands, own⟩ := List.mem_map.mp named
      obtain ⟨k, early, given⟩ := rows.named original stands
      exact ⟨k, Nat.lt_of_lt_of_le early later, own.symm.trans given⟩
    · obtain ⟨⟨n, within, given⟩, _⟩ := merging.created row new
      exact ⟨n, within.2, given⟩
  · rcases List.mem_append.mp (Merging.saved_mem row there).1 with old | new
    · exact merging.oldStocked row old
    · exact (merging.created row new).2

theorem Merging.images (merging : Merging issuer low standing dtos left m t) (row : ProductVariant) (there : row ∈ m.saved) :
    ∀ url ∈ row.images, New issuer low t.shelf.issued t url ∨ KeptFor dtos row.id url := by
  obtain ⟨among, chosen⟩ := Merging.saved_mem row there
  intro url shown
  rcases List.mem_append.mp among with old | new
  · exact merging.oldImages row old chosen url shown
  · exact Or.inl (merging.newImages row new url shown)

theorem Merging.savedApart (merging : Merging issuer low standing dtos left m t) (own : OwnVariants issuer low standing dtos) :
    Apart issuer low m.saved t where
  bounded row there := (merging.apart own).bounded row (Merging.saved_mem row there).1
  apart a first b second := (merging.apart own).apart a (Merging.saved_mem a first).1 b (Merging.saved_mem b second).1

end
end Marketplace.Products
