import Marketplace.Products.Edits

/-! How each command ends, and what it leaves in the tables and the files. -/
namespace Marketplace.Products
open Fallible Fallible.Attempt

/-- A product as it is first saved: all its images are new, and each part has names of its own. -/
structure Drafted (issuer : Issuer) (base : Nat) (env : Env) (product : Product) (t : Effort) : Prop where
  named : ∃ n, IssuedIn base t n ∧ product.id = issuer.product n
  pictures : ∃ a b c, (base ≤ a ∧ a ≤ b ∧ b ≤ c ∧ c ≤ t.shelf.issued) ∧
    (∀ url, product.thumbnailUrl = some url → New issuer base a t url) ∧
    (∀ url ∈ product.gallery, New issuer a b t url) ∧ (∀ url ∈ product.colorUrls, New issuer b c t url) ∧
    (∀ row ∈ product.variants, ∀ url ∈ row.images, New issuer c t.shelf.issued t url) ∧ Apart issuer c product.variants t
  sound : Sound issuer t.shelf.issued product
  status : product.status = .active
  updatedAt : product.updatedAt = env.now

section
variable {env : Env} {issuer : Issuer} {base : Nat} {dropped : Url → Prop} {e t u : Effort}

theorem stage_uploadColorGroups (place : Destination) (images : List String) (same : env.issuer = issuer) {low : Nat}
    (dtos : List ColorImageGroupDto) (offset : Nat) (groups : PropertyMap ColorGroup) (low_le : low ≤ e.shelf.issued)
    (early : ∀ url ∈ groupUrls groups, New issuer low e.shelf.issued e url) :
    Stage issuer base dropped (uploadColorGroups env place images offset dtos groups)
      (fun merged t => ∀ url ∈ groupUrls merged, New issuer low t.shelf.issued t url) e := by
  induction dtos generalizing offset groups e with
  | nil => exact stage_pure early
  | cons dto rest ih =>
    refine (stage_uploadMultipleFiles place _ same).bind fun rows t grown uploads => ?_
    refine ih _ _ (Nat.le_trans low_le grown.issued) fun url shown => ?_
    rcases mem_groupUrls_assign shown with own | before
    · obtain ⟨row, listed, rfl⟩ := List.mem_map.mp own
      exact ((uploads row listed).lower low_le).new
    · exact ((early url before).later grown).widen (Nat.le_refl _) grown.issued

/-- Variants made by a command from `e` to `t`. -/
structure Made (issuer : Issuer) (e t : Effort) (variants : List ProductVariant) : Prop where
  named : ∀ row ∈ variants, ∃ n, e.shelf.issued ≤ n ∧ n < t.shelf.issued ∧ row.id = issuer.variant n
  unique : (variants.map (·.id)).Nodup
  stocked : ∀ row ∈ variants, 0 ≤ row.stockQuantity
  images : ∀ row ∈ variants, ∀ url ∈ row.images, New issuer e.shelf.issued t.shelf.issued t url
  apart : ∀ a ∈ variants, ∀ b ∈ variants, a.id ≠ b.id → ∀ url ∈ a.images, url ∉ b.images

theorem stage_createVariants (distinct : issuer.Distinct) (same : env.issuer = issuer) (place : Destination)
    (images : List String) (usingColorModel : Bool) (dtos : List CreateProductVariantDto) (offset : Nat) :
    Stage issuer base dropped (createVariants env place images usingColorModel offset dtos)
      (fun variants t => Made issuer e t variants ∧ (dtos = [] → variants = [])) e := by
  induction dtos generalizing offset e with
  | nil =>
    exact stage_pure ⟨⟨fun _ none => absurd none List.not_mem_nil, List.nodup_nil, fun _ none => absurd none List.not_mem_nil,
      fun _ none => absurd none List.not_mem_nil, fun _ none => absurd none List.not_mem_nil⟩, fun _ => rfl⟩
  | cons dto rest ih =>
    refine (stage_uploadShare place _ _ _ _ same).bind fun rows t grown uploads => ?_
    refine stage_number.bind fun n u grown' numbered => ?_
    refine (ih _).bind fun variants v grown'' made => stage_pure ⟨?_, fun none => absurd none (List.cons_ne_nil _ _)⟩
    obtain ⟨within, later⟩ := numbered
    have made := made.1
    have early := grown.issued
    have last := within.2
    have final := grown''.issued
    have own : ∀ url ∈ rows.map (·.url), New issuer e.shelf.issued t.shelf.issued v url := by
      intro url shown
      obtain ⟨asset, listed, rfl⟩ := List.mem_map.mp shown
      exact ((uploads asset listed).new.later grown').later grown''
    have others : ∀ row ∈ variants, ∀ url ∈ rows.map (·.url), url ∉ row.images := by
      intro row member url mine theirs
      obtain ⟨k, _, below, named, _⟩ := own url mine
      obtain ⟨j, from_, _, named', _⟩ := made.images row member url theirs
      have := distinct.url (named.symm.trans named')
      omega
    refine ⟨?_, ?_, ?_, ?_, ?_⟩
    · intro row member
      rcases List.mem_cons.mp member with rfl | member
      · exact ⟨n, by omega, by omega, by rw [same]⟩
      · obtain ⟨k, after, before, given⟩ := made.named row member
        exact ⟨k, by omega, before, given⟩
    · rw [List.map_cons]
      refine List.nodup_cons.mpr ⟨fun again => ?_, made.unique⟩
      obtain ⟨row, member, own⟩ := List.mem_map.mp again
      obtain ⟨k, after, _, given⟩ := made.named row member
      rw [same] at own
      have := distinct.variant (own.symm.trans given)
      omega
    · intro row member
      rcases List.mem_cons.mp member with rfl | member
      · exact Int.natCast_nonneg _
      · exact made.stocked row member
    · intro row member url shown
      rcases List.mem_cons.mp member with rfl | member
      · exact (own url shown).widen (Nat.le_refl _) (by omega)
      · exact (made.images row member url shown).widen (by omega) (Nat.le_refl _)
    · intro a first b second differ url here there
      rcases List.mem_cons.mp first with rfl | first
      · rcases List.mem_cons.mp second with rfl | second
        · exact differ rfl
        · exact others b second url here there
      · rcases List.mem_cons.mp second with rfl | second
        · exact others a first url there here
        · exact made.apart a first b second differ url here there

theorem stage_draft (distinct : issuer.Distinct) (same : env.issuer = issuer) (dto : CreateProductDto) (files : Files)
    (user : User) (shop : Uuid) (listed : dto.hasVariants = true → dto.variants.getD [] ≠ []) :
    Stage issuer base dropped (draft env dto files user shop) (Drafted issuer e.shelf.issued env) e := by
  intro from_
  refine (stage_uploadFile _ _ same).bind (fun thumbnail t₁ grown₁ thumbnailOf => ?_) from_
  have alone : ∀ row ∈ [thumbnail], Uploaded issuer e.shelf.issued row t₁ := fun row member =>
    List.mem_singleton.mp member ▸ thumbnailOf
  refine (stage_track from_ alone).bind fun _ t₂ grown₂ _ => ?_
  refine (stage_uploadMultipleFiles _ _ same).bind fun gallery t₃ grown₃ galleryOf => ?_
  have none : ∀ url ∈ groupUrls .empty, New issuer t₃.shelf.issued t₃.shelf.issued t₃ url := by
    intro url shown
    obtain ⟨entry, none, _⟩ := mem_groupUrls.mp shown
    exact absurd none List.not_mem_nil
  refine (stage_uploadColorGroups _ _ same _ 0 .empty (Nat.le_refl _) none).bind fun colors t₄ grown₄ colorsOf => ?_
  refine (stage_createVariants distinct same _ _ _ _ 0).bind fun variants t₅ grown₅ made => ?_
  refine stage_number.bind fun n t₆ grown₆ numbered => stage_pure ?_
  obtain ⟨made, empty⟩ := made
  have tail := grown₅.trans grown₆
  have rest := grown₄.trans tail
  have order₁ := grown₁.issued
  have order₂ := grown₂.issued
  have order₃ := grown₃.issued
  have order₄ := grown₄.issued
  have order₅ := tail.issued
  have order₆ := grown₆.issued
  have numberedFrom : e.shelf.issued ≤ n := by
    have := numbered.2
    have := grown₅.issued
    omega
  refine ⟨⟨n, ⟨numberedFrom, numbered.1.2⟩, by rw [same]⟩,
    ⟨t₂.shelf.issued, t₃.shelf.issued, t₄.shelf.issued, ⟨by omega, by omega, by omega, by omega⟩, ?_, ?_, ?_, ?_, ?_⟩,
    ⟨⟨?_, made.unique, made.stocked⟩, ?_, ?_, ?_⟩, rfl, rfl⟩
  · rintro url shown
    rw [← Option.some.inj shown]
    exact (thumbnailOf.new.later (grown₂.trans (grown₃.trans rest))).widen (Nat.le_refl _) order₂
  · intro url shown
    obtain ⟨row, member, rfl⟩ := List.mem_map.mp shown
    exact (galleryOf row member).new.later rest
  · intro url shown
    by_cases colored : usesColors dto.colorImages = true
    · simp only [Product.colorUrls, colored, if_true] at shown
      exact (colorsOf url shown).later tail
    · simp [Product.colorUrls, colored] at shown
  · exact fun row member url shown => ((made.images row member url shown).later grown₆).widen (Nat.le_refl _) order₆
  · refine ⟨fun row member url shown => ?_, fun a first b second differ url here there =>
      absurd there (made.apart a first b second differ url here)⟩
    obtain ⟨k, _, below, named, _⟩ := made.images row member url shown
    exact ⟨k, Nat.lt_of_lt_of_le below order₆, named⟩
  · intro row member
    obtain ⟨k, _, before, given⟩ := made.named row member
    exact ⟨k, Nat.lt_of_lt_of_le before grown₆.issued, given⟩
  · intro several
    have given : dto.variants.isSome = true := by
      cases sent : dto.variants with
      | none => exact absurd (by rw [sent]; rfl) (listed several)
      | some _ => rfl
    exact if_pos ⟨several, given⟩
  · intro bare
    refine empty ?_
    exact if_neg (by rw [show dto.hasVariants = false from bare]; exact Bool.false_ne_true)
  · show 0 ≤ ite _ _ _
    split
    · exact sumStock_nonneg made.stocked
    · exact Int.natCast_nonneg _

/-- The tables once a transaction has committed that saved `product`, and gave it the assets `uploaded`. -/
def committed (env : Env) (e : Effort) (uploaded : List Uuid) (product : Product) (payload : Payload) : Shelf :=
  emit env payload (settleAssets e.removed uploaded product.id (store product e.shelf))

theorem stage_assignAssets : Stage issuer base dropped (assignAssets env) (fun _ _ => True) e := by
  refine Stage.bind (R := fun _ _ => True) (fun _ => ⟨grown_refl, trivial⟩) fun a t _ _ => ?_
  split
  · exact stage_pure trivial
  · exact stage_id

/-- A commit, which writes all or leaves what was there. -/
theorem commit_leads (written : Effort → Shelf) :
    (call env fun e => { e with shelf := written e }).Leads
      (fun _ t => ∃ before, Grown issuer base dropped e before ∧ t.shelf = written before ∧
        t.publicIdsToDelete = before.publicIdsToDelete)
      (Grown issuer base dropped e) e := by
  unfold Leads call
  by_cases failed : env.fails e.calls = true
  · simp only [failed, if_true]
    exact counted_grown
  · simp only [failed]
    exact ⟨counted e, counted_grown, rfl, rfl⟩

theorem saveAndEmit_leads (product : Product) (payload : Product → Payload) (from_ : base ≤ e.shelf.issued) :
    (saveAndEmit env product payload).Leads
      (fun saved t => saved = product ∧ ∃ before, Grown issuer base dropped e before ∧
        t.shelf = committed env before (before.uploadedAssets.map (·.1)) product (payload product) ∧ t.publicIdsToDelete = before.publicIdsToDelete)
      (Grown issuer base dropped e) e := by
  unfold saveAndEmit
  have first : Stage issuer base dropped (call env id) (fun _ _ => True) e := stage_id
  refine leads_bind (leads_mono (first from_) ?_ fun t grown => grown)
  rintro _ t₁ ⟨grown₁, _⟩
  have second : Stage issuer base dropped (assignAssets env) (fun _ _ => True) t₁ := stage_assignAssets
  refine leads_bind (leads_mono (second (Nat.le_trans from_ grown₁.issued)) ?_ fun t grown => grown₁.trans grown)
  rintro _ t₂ ⟨grown₂, _⟩
  have third : Stage issuer base dropped (call env id) (fun _ _ => True) t₂ := stage_id
  have grown := grown₁.trans grown₂
  refine leads_bind (leads_mono (third (Nat.le_trans from_ grown.issued)) ?_ fun t later => grown.trans later)
  rintro _ t₃ ⟨grown₃, _⟩
  have early := grown.trans grown₃
  refine leads_bind (leads_mono (commit_leads fun e => committed env e (e.uploadedAssets.map (·.1)) product (payload product)) ?_
    fun t later => early.trans later)
  rintro _ t ⟨before, later, written, list⟩
  exact ⟨rfl, before, early.trans later, written, list⟩

/-- What the deletion of files, or of assets, leaves. -/
structure Cleaned (s after : Shelf) : Prop where
  products : after.products = s.products
  outbox : after.outbox = s.outbox
  issued : after.issued = s.issued
  files : ∀ f ∈ after.files, f ∈ s.files
  assets : ∀ row ∈ after.assets, row ∈ s.assets

theorem cleaned_refl {s : Shelf} : Cleaned s s := ⟨rfl, rfl, rfl, fun _ there => there, fun _ there => there⟩

theorem Cleaned.trans {s after last : Shelf} (first : Cleaned s after) (second : Cleaned after last) : Cleaned s last where
  products := second.products.trans first.products
  outbox := second.outbox.trans first.outbox
  issued := second.issued.trans first.issued
  files f there := first.files f (second.files f there)
  assets row there := first.assets row (second.assets row there)

theorem deleteFiles_cleaned (failed : Nat → Bool) (k : Nat) (publicIds : List String) (s : Shelf) :
    Cleaned s (deleteFiles failed k publicIds s) ∧
      ∀ f ∈ s.files, f.publicId ∉ publicIds → f ∈ (deleteFiles failed k publicIds s).files := by
  induction publicIds generalizing k s with
  | nil => exact ⟨cleaned_refl, fun f there _ => there⟩
  | cons publicId rest ih =>
    unfold deleteFiles
    split
    · obtain ⟨cleaned, kept⟩ := ih (k + 1) s
      exact ⟨cleaned, fun f there apart => kept f there fun later => apart (List.mem_cons_of_mem _ later)⟩
    · obtain ⟨cleaned, kept⟩ := ih (k + 1) { s with files := s.files.filter (·.publicId ≠ publicId) }
      have one : Cleaned s { s with files := s.files.filter (·.publicId ≠ publicId) } :=
        ⟨rfl, rfl, rfl, fun f there => (List.mem_filter.mp there).1, fun _ there => there⟩
      refine ⟨one.trans cleaned, fun f there apart => kept f ?_ fun later => apart (List.mem_cons_of_mem _ later)⟩
      refine List.mem_filter.mpr ⟨there, ?_⟩
      simpa using fun same : f.publicId = publicId => apart (same ▸ List.mem_cons_self)

/-- No row of these uploads has the file. -/
def Unnamed (s : Shelf) (uploaded : List (Uuid × String)) (f : StoredFile) : Prop :=
  ∀ x ∈ uploaded, ∀ row ∈ s.assets, row.id = x.1 → row.publicId ≠ f.publicId

theorem deleteAssets_cleaned (failed : Nat → Bool) (owner : Uuid) (k : Nat) (uploaded : List (Uuid × String)) (s : Shelf) :
    Cleaned s (deleteAssets failed owner k uploaded s) ∧
      ∀ f ∈ s.files, Unnamed s uploaded f → f ∈ (deleteAssets failed owner k uploaded s).files := by
  induction uploaded generalizing k s with
  | nil => exact ⟨cleaned_refl, fun f there _ => there⟩
  | cons x rest ih =>
    obtain ⟨id, publicId⟩ := x
    unfold deleteAssets
    split
    · obtain ⟨cleaned, kept⟩ := ih (k + 3) s
      exact ⟨cleaned, fun f there apart => kept f there fun x later => apart x (List.mem_cons_of_mem _ later)⟩
    · rename_i asset found
      have stands := List.mem_of_find?_eq_some found
      have own : asset.id = id := by
        have matched := List.find?_some found
        simp only [Bool.decide_and, Bool.and_eq_true, decide_eq_true_eq] at matched
        exact matched.1
      have step : ∀ t : Shelf, Cleaned s t → (∀ f ∈ s.files, Unnamed s ((id, publicId) :: rest) f → f ∈ t.files) →
          Cleaned s (deleteAssets failed owner (k + 3) rest t) ∧
            ∀ f ∈ s.files, Unnamed s ((id, publicId) :: rest) f → f ∈ (deleteAssets failed owner (k + 3) rest t).files := by
        intro t one stays
        obtain ⟨cleaned, kept⟩ := ih (k + 3) t
        refine ⟨one.trans cleaned, fun f there apart => kept f (stays f there apart) fun x later row among => ?_⟩
        exact apart x (List.mem_cons_of_mem _ later) row (one.assets row among)
      apply step
      · split
        · exact cleaned_refl
        · split
          · exact ⟨rfl, rfl, rfl, fun f there => (List.mem_filter.mp there).1, fun _ there => there⟩
          · exact ⟨rfl, rfl, rfl, fun f there => (List.mem_filter.mp there).1, fun row there => (List.mem_filter.mp there).1⟩
      · intro f there apart
        have differs : f.publicId ≠ asset.publicId := fun same =>
          apart (id, publicId) List.mem_cons_self asset stands own same.symm
        have stays : f ∈ s.files.filter (·.publicId ≠ asset.publicId) := List.mem_filter.mpr ⟨there, by simpa using differs⟩
        split
        · exact there
        · split
          · exact stays
          · exact stays

/-- A failed command, of which only uploads may be left. -/
def Undone (env : Env) (issuer : Issuer) (dropped : Url → Prop) (s after : Shelf) : Prop :=
  ∃ t owner k, Grown issuer s.issued dropped (.start s) t ∧ after = deleteAssets env.fails owner k t.uploadedAssets t.shelf

/-- A command that has saved `product`, made as `R` says, and deleted the files of `gone` as far as it could. -/
def Done (env : Env) (issuer : Issuer) (dropped : Url → Prop) (R : Product → Effort → Prop) (payload : Payload)
    (s after : Shelf) (product : Product) : Prop :=
  ∃ t₁ t k gone, Grown issuer s.issued dropped (.start s) t₁ ∧ R product t₁ ∧ Grown issuer s.issued dropped t₁ t ∧
    gone ⊆ t.publicIdsToDelete ∧
      after = deleteFiles env.fails k gone (committed env t (t.uploadedAssets.map (·.1)) product payload)

variable (env) in
/-- A command whose transaction saves what `x` makes. -/
theorem saving_cases (payload : Product → Payload) {x : Try Product} {s : Shelf} {R : Product → Effort → Prop}
    (stage : Stage issuer s.issued dropped x R (.start s)) :
    (∃ product t, (x >>= fun product => saveAndEmit env product payload) (.start s) = (.ok product, t) ∧
        ∃ t₁ before, Grown issuer s.issued dropped (.start s) t₁ ∧ R product t₁ ∧ Grown issuer s.issued dropped t₁ before ∧
          t.shelf = committed env before (before.uploadedAssets.map (·.1)) product (payload product) ∧ t.publicIdsToDelete = before.publicIdsToDelete) ∨
      ∃ thrown t, (x >>= fun product => saveAndEmit env product payload) (.start s) = (.error thrown, t) ∧
        Grown issuer s.issued dropped (.start s) t := by
  have led : (x >>= fun product => saveAndEmit env product payload).Leads
      (fun product t => ∃ t₁ before, Grown issuer s.issued dropped (.start s) t₁ ∧ R product t₁ ∧
        Grown issuer s.issued dropped t₁ before ∧ t.shelf = committed env before (before.uploadedAssets.map (·.1)) product (payload product) ∧
          t.publicIdsToDelete = before.publicIdsToDelete)
      (Grown issuer s.issued dropped (.start s)) (.start s) := by
    refine leads_bind (leads_mono (stage (Nat.le_refl _)) ?_ fun t grown => grown)
    rintro product t₁ ⟨grown, made⟩
    refine leads_mono (saveAndEmit_leads product payload grown.issued) ?_ fun t later => grown.trans later
    rintro saved t ⟨rfl, before, later, same, list⟩
    exact ⟨t₁, before, grown, made, later, same, list⟩
  unfold Leads at led
  cases ran : (x >>= fun product => saveAndEmit env product payload) (.start s) with
  | mk r t =>
    rw [ran] at led
    cases r with
    | ok product => exact Or.inl ⟨product, t, rfl, led⟩
    | error thrown => exact Or.inr ⟨thrown, t, rfl, led⟩

theorem checkVariantFiles_listed {dto : CreateProductDto} {files : Files} (passed : checkVariantFiles dto files = .ok ())
    (several : dto.hasVariants = true) : dto.variants.getD [] ≠ [] := by
  intro none
  simp [checkVariantFiles, several, none] at passed

theorem checkCreate_listed {dto : CreateProductDto} {files : Files} {user : User} {shop : Uuid}
    (passed : checkCreate env dto files user = .ok shop) : dto.hasVariants = true → dto.variants.getD [] ≠ [] := by
  have counted : checkVariantFiles dto files = .ok () := by
    unfold checkCreate at passed
    split at passed
    · cases passed
    · split at passed
      · cases passed
      · split at passed
        · cases passed
        · split at passed
          · cases passed
          · split at passed
            · cases passed
            · split at passed
              · cases passed
              · cases checked : checkVariantFiles dto files with
                | error e => rw [checked] at passed; cases passed
                | ok _ => rfl
  exact checkVariantFiles_listed counted

theorem create_cases (distinct : issuer.Distinct) (same : env.issuer = issuer) (dto : CreateProductDto) (files : Files)
    (user : User) (s : Shelf) (dropped : Url → Prop) :
    (create env dto files user s).2 = s ∨ Undone env issuer dropped s (create env dto files user s).2 ∨
      ∃ product, Done env issuer dropped (Drafted issuer s.issued env) (.productCreated product.snapshot) s
        (create env dto files user s).2 product := by
  unfold create
  cases passed : checkCreate env dto files user with
  | error e => exact Or.inl rfl
  | ok shop =>
    have stage : Stage issuer s.issued dropped (draft env dto files user shop) (Drafted issuer s.issued env) (.start s) :=
      stage_draft distinct same dto files user shop (checkCreate_listed passed)
    right
    rcases saving_cases env (fun saved => .productCreated saved.snapshot) stage with
      ⟨product, t, ran, t₁, before, grown, made, later, saved, _⟩ | ⟨thrown, t, ran, grown⟩
    · right
      dsimp only
      rw [ran]
      exact ⟨product, t₁, before, 0, [], grown, made, later, List.nil_subset _, saved⟩
    · left
      dsimp only
      rw [ran]
      exact ⟨t, user.sub, t.calls, grown, rfl⟩

theorem checkUpdate_found {id : Uuid} {dto : UpdateProductDto} {user : User} {s : Shelf} {found : Product} {shop : Uuid}
    (passed : checkUpdate env id dto user s = .ok (found, shop)) :
    s.products id = some found ∧ found.status ≠ .suspended ∧ dto.status ≠ some .suspended := by
  unfold checkUpdate at passed
  split at passed
  · cases passed
  · rename_i product stands
    split at passed
    · cases passed
    · rename_i shown
      split at passed
      · cases passed
      · rename_i asked
        cases owned : checkOwner env user.sub product _ with
        | error e => rw [owned] at passed; cases passed
        | ok owner =>
          rw [owned] at passed
          cases passed
          exact ⟨stands, shown, asked⟩

theorem update_cases (id : Uuid) (dto : UpdateProductDto) (files : Files) (user : User) (s : Shelf) (dropped : Product → Url → Prop)
    (R : Product → Product → Effort → Prop)
    (stage : ∀ found shop, s.products id = some found →
      Stage issuer s.issued (dropped found) (edit env dto files user.sub shop found) (R found) (.start s)) :
    (update env id dto files user s).2 = s ∨ ∃ found, s.products id = some found ∧ found.status ≠ .suspended ∧
      dto.status ≠ some .suspended ∧
      (Undone env issuer (dropped found) s (update env id dto files user s).2 ∨
        ∃ product, Done env issuer (dropped found) (R found) (.productUpdated product.snapshot) s
          (update env id dto files user s).2 product) := by
  unfold update
  cases passed : checkUpdate env id dto user s with
  | error e => exact Or.inl rfl
  | ok pair =>
    obtain ⟨found, shop⟩ := pair
    obtain ⟨stands, shown, asked⟩ := checkUpdate_found passed
    refine Or.inr ⟨found, stands, shown, asked, ?_⟩
    rcases saving_cases env (fun saved => .productUpdated saved.snapshot) (stage found shop stands) with
      ⟨product, t, ran, t₁, before, grown, made, later, saved, list⟩ | ⟨thrown, t, ran, grown⟩
    · right
      dsimp only
      rw [ran]
      refine ⟨product, t₁, before, t.calls, t.publicIdsToDelete, grown, made, later, ?_, ?_⟩
      · rw [list]
        exact List.Subset.refl _
      · dsimp only
        rw [← saved]
        split <;> rfl
    · left
      dsimp only
      rw [ran]
      exact ⟨t, user.sub, t.calls, grown, rfl⟩

/-- The tables once the removal has committed. -/
def removedFrom (env : Env) (found : Product) (e : Effort) : Shelf :=
  committed env e [] (found.removed env) (.productDeleted found.id)

variable (env issuer base e) in
theorem removeBody_leads (found : Product) (from_ : base ≤ e.shelf.issued) :
    (removeBody env found).Leads
      (fun _ t => ∃ before, Grown issuer base (· ∈ found.aggregatedGallery) e before ∧ t.shelf = removedFrom env found before ∧
        t.publicIdsToDelete = before.publicIdsToDelete)
      (Grown issuer base (· ∈ found.aggregatedGallery) e) e := by
  have stages : Stage issuer base (· ∈ found.aggregatedGallery)
      (do discard env found.aggregatedGallery; removeVariants env false found.variants; call env id; call env id)
      (fun _ _ => True) e := by
    refine (stage_discard _ fun url member => member).bind fun _ _ _ _ => ?_
    refine (stage_removeVariants false _ fun no => absurd no Bool.false_ne_true).bind fun _ _ _ _ => ?_
    exact stage_id.bind fun _ _ _ _ => stage_id
  have split : removeBody env found =
      (do discard env found.aggregatedGallery; removeVariants env false found.variants; call env id; call env id) >>=
        fun _ => call env fun e => { e with shelf := removedFrom env found e } := by
    simp only [removeBody, bind_assoc]
    rfl
  rw [split]
  refine leads_bind (leads_mono (stages from_) ?_ fun t grown => grown)
  rintro _ t ⟨grown, _⟩
  refine leads_mono (commit_leads (removedFrom env found)) ?_ fun u later => grown.trans later
  rintro _ u ⟨before, later, written, list⟩
  exact ⟨before, grown.trans later, written, list⟩

variable (env issuer) in
theorem remove_cases (id : Uuid) (user : User) (s : Shelf) :
    (remove env id user s).2 = s ∨ ∃ found, s.products id = some found ∧
      ∃ t k gone, Grown issuer s.issued (· ∈ found.aggregatedGallery) (.start s) t ∧
        ((remove env id user s).2 = t.shelf ∨
          gone ⊆ t.publicIdsToDelete ∧ (remove env id user s).2 = deleteFiles env.fails k gone (removedFrom env found t)) := by
  unfold remove
  cases stands : s.products id with
  | none => exact Or.inl rfl
  | some found =>
    dsimp only
    split
    · exact Or.inl rfl
    · refine Or.inr ⟨found, rfl, ?_⟩
      have led := removeBody_leads env issuer s.issued (.start s) found (Nat.le_refl _)
      unfold Leads at led
      cases ran : removeBody env found (.start s) with
      | mk r t =>
        rw [ran] at led
        cases r with
        | ok _ =>
          obtain ⟨before, grown, written, list⟩ := led
          refine ⟨before, t.calls, t.publicIdsToDelete, grown, Or.inr ⟨?_, ?_⟩⟩
          · rw [list]
            exact List.Subset.refl _
          · dsimp only
            rw [written]
        | error thrown => exact ⟨t, 0, [], led, Or.inl rfl⟩

variable (env) in
theorem moderate_cases (admin id : Uuid) (status : ProductStatus) (refused : Product → Option Err) (action : ModerationAction)
    (reason : Option String) (message : String) (s : Shelf) :
    (moderate env admin id status refused action reason message s).2 = s ∨
      ∃ found product contact, s.products id = some found ∧ refused found = none ∧
        product = { found with status := status, moderationReason := reason, moderatedAt := some env.now
                               moderatedBy := some admin, updatedAt := env.now } ∧
        (moderate env admin id status refused action reason message s).2 =
          emit env (.productUpdated product.snapshot) (emit env
            (.productModerated ⟨found.id, found.name, found.shop, contact, action, reason⟩) (store product s)) := by
  unfold moderate
  split
  · exact Or.inl rfl
  · split
    · exact Or.inl rfl
    · rename_i found stands
      split
      · exact Or.inl rfl
      · rename_i allowed
        split
        · exact Or.inl rfl
        · exact Or.inr ⟨found, _, env.sellerContact found.shop, stands, allowed, rfl, rfl⟩

end
end Marketplace.Products
