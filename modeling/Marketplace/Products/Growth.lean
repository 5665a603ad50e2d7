import Marketplace.Products.Commands

/-! What a command under way has done: its uploads stand, and what it discards is kept for the end. -/
namespace Marketplace.Products
open Fallible Fallible.Attempt

/-- A name that the command has had, its first being `base`. -/
def IssuedIn (base : Nat) (t : Effort) (n : Nat) : Prop := base ≤ n ∧ n < t.shelf.issued

/-- From `e` to `t` a command uploads, and puts aside the files of `dropped`. -/
structure Grown (issuer : Issuer) (base : Nat) (dropped : Url → Prop) (e t : Effort) : Prop where
  products : t.shelf.products = e.shelf.products
  outbox : t.shelf.outbox = e.shelf.outbox
  issued : e.shelf.issued ≤ t.shelf.issued
  files : ∀ f ∈ e.shelf.files, f ∈ t.shelf.files
  newFiles : ∀ f ∈ t.shelf.files, f ∈ e.shelf.files ∨
    ∃ n, IssuedIn base t n ∧ f.publicId = issuer.publicId n ∧ f.url = issuer.url n
  assets : ∀ row ∈ e.shelf.assets, row ∈ t.shelf.assets
  newAssets : ∀ row ∈ t.shelf.assets, row ∈ e.shelf.assets ∨
    ∃ n, IssuedIn base t n ∧ row.id = issuer.asset n ∧ row.publicId = issuer.publicId n ∧ row.url = issuer.url n
  uploaded : ∀ x ∈ t.uploadedAssets, x ∈ e.uploadedAssets ∨
    ∃ n, IssuedIn base t n ∧ x = (issuer.asset n, issuer.publicId n)
  discarded : ∀ publicId ∈ t.publicIdsToDelete, publicId ∈ e.publicIdsToDelete ∨
    ∃ row ∈ t.shelf.assets, row.publicId = publicId ∧ dropped row.url

/-- An image uploaded meanwhile, with a name from `low` on and below `high`. -/
def New (issuer : Issuer) (low high : Nat) (t : Effort) (url : Url) : Prop :=
  ∃ n, low ≤ n ∧ n < high ∧ url = issuer.url n ∧ ∃ f ∈ t.shelf.files, f.url = url

section
variable {issuer : Issuer} {base : Nat} {dropped : Url → Prop} {e t u : Effort}

theorem IssuedIn.later {n : Nat} (within : IssuedIn base t n) (later : t.shelf.issued ≤ u.shelf.issued) :
    IssuedIn base u n :=
  ⟨within.1, Nat.lt_of_lt_of_le within.2 later⟩

theorem grown_refl : Grown issuer base dropped e e where
  products := rfl
  outbox := rfl
  issued := Nat.le_refl _
  files _ there := there
  newFiles _ there := Or.inl there
  assets _ there := there
  newAssets _ there := Or.inl there
  uploaded _ there := Or.inl there
  discarded _ there := Or.inl there

/-- What changes no row and no file. -/
theorem grown_same (shelf : t.shelf = e.shelf)
    (uploaded : ∀ x ∈ t.uploadedAssets, x ∈ e.uploadedAssets ∨
      ∃ n, IssuedIn base t n ∧ x = (issuer.asset n, issuer.publicId n))
    (discarded : ∀ publicId ∈ t.publicIdsToDelete, publicId ∈ e.publicIdsToDelete ∨
      ∃ row ∈ t.shelf.assets, row.publicId = publicId ∧ dropped row.url) : Grown issuer base dropped e t := by
  refine ⟨?_, ?_, ?_, ?_, ?_, ?_, ?_, uploaded, discarded⟩
  · rw [shelf]
  · rw [shelf]
  · rw [shelf]
  · rw [shelf]
    exact fun f there => there
  · rw [shelf]
    exact fun f there => Or.inl there
  · rw [shelf]
    exact fun row there => there
  · rw [shelf]
    exact fun row there => Or.inl there

theorem Grown.trans (first : Grown issuer base dropped e t) (second : Grown issuer base dropped t u) :
    Grown issuer base dropped e u where
  products := second.products.trans first.products
  outbox := second.outbox.trans first.outbox
  issued := Nat.le_trans first.issued second.issued
  files f there := second.files f (first.files f there)
  newFiles f there := by
    rcases second.newFiles f there with early | late
    · rcases first.newFiles f early with early | ⟨n, within, named⟩
      · exact Or.inl early
      · exact Or.inr ⟨n, within.later second.issued, named⟩
    · exact Or.inr late
  assets row there := second.assets row (first.assets row there)
  newAssets row there := by
    rcases second.newAssets row there with early | late
    · rcases first.newAssets row early with early | ⟨n, within, named⟩
      · exact Or.inl early
      · exact Or.inr ⟨n, within.later second.issued, named⟩
    · exact Or.inr late
  uploaded x there := by
    rcases second.uploaded x there with early | late
    · rcases first.uploaded x early with early | ⟨n, within, named⟩
      · exact Or.inl early
      · exact Or.inr ⟨n, within.later second.issued, named⟩
    · exact Or.inr late
  discarded publicId there := by
    rcases second.discarded publicId there with early | late
    · rcases first.discarded publicId early with early | ⟨row, stands, named⟩
      · exact Or.inl early
      · exact Or.inr ⟨row, second.assets row stands, named⟩
    · exact Or.inr late

theorem New.later {low high : Nat} {url : Url} (new : New issuer low high t url) (grown : Grown issuer base dropped t u) :
    New issuer low high u url := by
  obtain ⟨n, from_, below, named, f, there, own⟩ := new
  exact ⟨n, from_, below, named, f, grown.files f there, own⟩

theorem New.widen {low low' high high' : Nat} {url : Url} (new : New issuer low high t url) (lower : low' ≤ low)
    (higher : high ≤ high') : New issuer low' high' t url := by
  obtain ⟨n, from_, below, rest⟩ := new
  exact ⟨n, Nat.le_trans lower from_, Nat.lt_of_lt_of_le below higher, rest⟩

/-- A step of a command: it grows what was done before, however it ends, and ends in `R`. -/
def Stage {α : Type} (issuer : Issuer) (base : Nat) (dropped : Url → Prop) (x : Try α) (R : α → Effort → Prop) (e : Effort) :
    Prop :=
  base ≤ e.shelf.issued →
    x.Leads (fun a t => Grown issuer base dropped e t ∧ R a t) (Grown issuer base dropped e) e

variable {α β : Type} {x : Try α} {k : α → Try β} {R : α → Effort → Prop} {R' : β → Effort → Prop}

theorem Stage.bind (first : Stage issuer base dropped x R e)
    (rest : ∀ a t, Grown issuer base dropped e t → R a t → Stage issuer base dropped (k a) R' t) :
    Stage issuer base dropped (x >>= k) R' e := by
  intro from_
  refine leads_bind (leads_mono (first from_) ?_ fun t grown => grown)
  rintro a t ⟨grown, ended⟩
  have next := rest a t grown ended (Nat.le_trans from_ grown.issued)
  refine leads_mono next ?_ fun u later => grown.trans later
  rintro b u ⟨later, ended⟩
  exact ⟨grown.trans later, ended⟩

theorem Stage.mono {R₂ : α → Effort → Prop} (stage : Stage issuer base dropped x R e)
    (weaker : ∀ a t, Grown issuer base dropped e t → R a t → R₂ a t) : Stage issuer base dropped x R₂ e :=
  fun from_ => leads_mono (stage from_) (fun a t ended => ⟨ended.1, weaker a t ended.1 ended.2⟩) fun _ grown => grown

theorem stage_pure {a : α} (ended : R a e) : Stage issuer base dropped (pure a) R e := fun _ => ⟨grown_refl, ended⟩

theorem stage_throw (error : Err) : Stage issuer base dropped (throwErr error) R e := fun _ => grown_refl

theorem stage_ite {p : Prop} [Decidable p] {y : Try α} (yes : p → Stage issuer base dropped x R e)
    (no : ¬ p → Stage issuer base dropped y R e) : Stage issuer base dropped (if p then x else y) R e := by
  by_cases case : p
  · rw [if_pos case]
    exact yes case
  · rw [if_neg case]
    exact no case

theorem stage_number : Stage issuer base dropped number (fun n t => IssuedIn base t n ∧ e.shelf.issued ≤ n) e := by
  intro from_
  have grown : Grown issuer base dropped e { e with shelf := { e.shelf with issued := e.shelf.issued + 1 } } :=
    ⟨rfl, rfl, Nat.le_succ _, fun _ there => there, fun _ => Or.inl, fun _ there => there, fun _ => Or.inl, fun _ => Or.inl,
      fun _ => Or.inl⟩
  exact ⟨grown, ⟨from_, Nat.lt_succ_self _⟩, Nat.le_refl _⟩

variable {env : Env}

/-- One more call is counted. -/
def counted (e : Effort) : Effort := { e with calls := e.calls + 1 }

theorem counted_grown : Grown issuer base dropped e (counted e) :=
  grown_same rfl (fun _ => Or.inl) fun _ => Or.inl

theorem stage_call {f : Effort → Effort} (grows : base ≤ e.shelf.issued → Grown issuer base dropped e (f (counted e))) :
    Stage issuer base dropped (call env f) (fun _ t => t = f (counted e)) e := by
  intro from_
  unfold Leads call
  by_cases failed : env.fails e.calls = true
  · simp only [failed, if_true]
    exact counted_grown
  · simp only [failed]
    exact ⟨grows from_, rfl⟩

theorem stage_id : Stage issuer base dropped (call env id) (fun _ _ => True) e :=
  (stage_call fun _ => counted_grown).mono fun _ _ _ _ => trivial

theorem stage_read {f : Effort → α} : Stage issuer base dropped (read env f) (fun a t => a = f t) e :=
  stage_id.bind fun _ _ _ _ _ => ⟨grown_refl, rfl⟩

/-- A row of an upload, whose file stands. -/
def Uploaded (issuer : Issuer) (low : Nat) (row : MediaAsset) (t : Effort) : Prop :=
  ∃ n, IssuedIn low t n ∧ row.id = issuer.asset n ∧ row.publicId = issuer.publicId n ∧ row.url = issuer.url n ∧
    ∃ f ∈ t.shelf.files, f.url = row.url

theorem Uploaded.later {low : Nat} {row : MediaAsset} (uploaded : Uploaded issuer low row t)
    (grown : Grown issuer base dropped t u) : Uploaded issuer low row u := by
  obtain ⟨n, within, id, publicId, url, f, there, own⟩ := uploaded
  exact ⟨n, within.later grown.issued, id, publicId, url, f, grown.files f there, own⟩

theorem Uploaded.lower {low low' : Nat} {row : MediaAsset} (uploaded : Uploaded issuer low row t) (lower : low' ≤ low) :
    Uploaded issuer low' row t := by
  obtain ⟨n, within, rest⟩ := uploaded
  exact ⟨n, ⟨Nat.le_trans lower within.1, within.2⟩, rest⟩

theorem Uploaded.new {low : Nat} {row : MediaAsset} (uploaded : Uploaded issuer low row t) :
    New issuer low t.shelf.issued t row.url := by
  obtain ⟨n, within, _, _, url, stands⟩ := uploaded
  exact ⟨n, within.1, within.2, url, stands⟩

theorem stage_track {low : Nat} {rows : List MediaAsset} (later : base ≤ low) (uploads : ∀ row ∈ rows, Uploaded issuer low row e) :
    Stage issuer base dropped (track rows) (fun _ t => t.shelf = e.shelf ∧ ∀ row ∈ rows, Uploaded issuer low row t) e := by
  intro _
  refine leads_always ⟨grown_same rfl ?_ fun _ => Or.inl, rfl, uploads⟩
  intro x there
  rcases List.mem_append.mp there with early | late
  · exact Or.inl early
  · obtain ⟨row, member, rfl⟩ := List.mem_map.mp late
    obtain ⟨n, within, id, publicId, _⟩ := uploads row member
    exact Or.inr ⟨n, ⟨Nat.le_trans later within.1, within.2⟩, by rw [id, publicId]⟩

theorem stage_uploadFile (place : Destination) (content : String) (same : env.issuer = issuer) :
    Stage issuer base dropped (uploadFile env place content) (fun row t => Uploaded issuer e.shelf.issued row t) e := by
  subst same
  refine stage_number.bind fun n t _ named => ?_
  obtain ⟨within, first⟩ := named
  refine (stage_call fun _ => ?_).bind fun _ t' _ stored => ?_
  · refine ⟨rfl, rfl, Nat.le_refl _, fun f there => List.mem_append_left _ there, fun f there => ?_, fun _ there => there,
      fun _ => Or.inl, fun _ => Or.inl, fun _ => Or.inl⟩
    rcases List.mem_append.mp there with early | late
    · exact Or.inl early
    · rw [List.mem_singleton.mp late]
      exact Or.inr ⟨n, within, rfl, rfl⟩
  · have within' : IssuedIn base t' n := by rw [stored]; exact within
    have there : fileOf env n place.folder content ∈ t'.shelf.files := by
      rw [stored]
      exact List.mem_append_right _ (List.mem_singleton_self _)
    refine (stage_call fun _ => ?_).bind fun _ u _ inserted => ?_
    · refine ⟨rfl, rfl, Nat.le_refl _, fun _ there => there, fun _ => Or.inl, fun row member => List.mem_append_left _ member,
        fun row member => ?_, fun _ => Or.inl, fun _ => Or.inl⟩
      rcases List.mem_append.mp member with early | late
      · exact Or.inl early
      · rw [List.mem_singleton.mp late]
        exact Or.inr ⟨n, within', rfl, rfl, rfl⟩
    · refine stage_pure ⟨n, ⟨first, ?_⟩, rfl, rfl, rfl, fileOf env n place.folder content, ?_, rfl⟩
      · rw [inserted]
        exact within'.2
      · rw [inserted]
        exact there

theorem stage_uploadMultipleFiles (place : Destination) (contents : List String) (same : env.issuer = issuer) :
    Stage issuer base dropped (uploadMultipleFiles env place contents)
      (fun rows t => ∀ row ∈ rows, Uploaded issuer e.shelf.issued row t) e := by
  intro from_
  have batch : Stage issuer base dropped (all (contents.map (uploadFile env place)))
      (fun rows t => ∀ row ∈ rows, Uploaded issuer e.shelf.issued row t) e := by
    intro from_
    have each : ∀ x ∈ contents.map (uploadFile env place), ∀ s, Grown issuer base dropped e s →
        x.Leads (fun row t => Grown issuer base dropped e t ∧ Uploaded issuer e.shelf.issued row t ∧
            ∀ b, Uploaded issuer e.shelf.issued b s → Uploaded issuer e.shelf.issued b t)
          (fun t => Grown issuer base dropped e t ∧
            ∀ b, Uploaded issuer e.shelf.issued b s → Uploaded issuer e.shelf.issued b t) s := by
      intro x member s grown
      obtain ⟨content, _, rfl⟩ := List.mem_map.mp member
      have one : Stage issuer base dropped (uploadFile env place content)
          (fun row t => Uploaded issuer s.shelf.issued row t) s := stage_uploadFile place content same
      refine leads_mono (one (Nat.le_trans from_ grown.issued)) ?_ ?_
      · rintro row t ⟨more, uploaded⟩
        exact ⟨grown.trans more, uploaded.lower grown.issued, fun b early => early.later more⟩
      · intro t more
        exact ⟨grown.trans more, fun b early => early.later more⟩
    exact leads_mono (leads_all _ each grown_refl) (fun rows t ended => ⟨ended.1, ended.2.1⟩) fun t ended => ended.1
  refine batch.bind (fun rows t _ uploads => ?_) from_
  exact (stage_track from_ uploads).bind fun _ u _ tracked => stage_pure tracked.2

theorem stage_uploadShare (place : Destination) (contents : List String) (share : Prop) [Decidable share] (offset count : Nat)
    (same : env.issuer = issuer) :
    Stage issuer base dropped (uploadShare env place contents share offset count)
      (fun rows t => ∀ row ∈ rows, Uploaded issuer e.shelf.issued row t) e :=
  stage_ite (fun _ => stage_uploadMultipleFiles place _ same) fun _ => stage_pure fun _ none => absurd none List.not_mem_nil

theorem stage_findAssetByUrl (url : Url) : Stage issuer base dropped (findAssetByUrl env url)
    (fun found t => ∀ asset ∈ found, asset ∈ t.shelf.assets ∧ asset.url = url ∧ url ≠ "") e := by
  refine stage_ite (fun _ => stage_pure ?_) fun filled => stage_read.mono fun found t _ same => ?_
  · intro asset none
    cases none
  · rintro asset there
    rw [same] at there
    have matched := List.find?_some there
    exact ⟨List.mem_of_find?_eq_some there, by simpa using matched, filled⟩

theorem stage_removeAsset {asset : MediaAsset} (stands : asset ∈ e.shelf.assets) (aside : dropped asset.url) :
    Stage issuer base dropped (removeAsset env asset) (fun _ _ => True) e := by
  have put : Stage issuer base dropped
      (always fun e : Effort => { e with publicIdsToDelete := e.publicIdsToDelete ++ [asset.publicId] }) (fun _ _ => True) e := by
    intro _
    refine leads_always ⟨grown_same rfl (fun _ => Or.inl) ?_, trivial⟩
    intro publicId there
    rcases List.mem_append.mp there with early | late
    · exact Or.inl early
    · exact Or.inr ⟨asset, stands, (List.mem_singleton.mp late).symm, aside⟩
  refine put.bind fun _ t _ _ => (stage_call fun _ => ?_).mono fun _ _ _ _ => trivial
  exact grown_same rfl (fun _ => Or.inl) fun _ => Or.inl

theorem stage_discard (urls : List Url) (aside : ∀ url ∈ urls, dropped url) :
    Stage issuer base dropped (discard env urls) (fun _ _ => True) e := by
  induction urls generalizing e with
  | nil => exact stage_pure trivial
  | cons url rest ih =>
    refine (stage_findAssetByUrl url).bind fun found t _ named => ?_
    have later : ∀ {t : Effort}, Stage issuer base dropped (discard env rest) (fun _ _ => True) t :=
      ih fun url member => aside url (List.mem_cons_of_mem _ member)
    cases found with
    | none => exact later
    | some asset =>
      obtain ⟨stands, own, _⟩ := named asset rfl
      have goes : dropped asset.url := own ▸ aside url List.mem_cons_self
      exact (stage_removeAsset stands goes).bind fun _ _ _ _ => later

theorem stage_removeVariants (withImages : Bool) (variants : List ProductVariant)
    (aside : withImages = true → ∀ variant ∈ variants, ∀ url ∈ variant.images, dropped url) :
    Stage issuer base dropped (removeVariants env withImages variants) (fun _ _ => True) e := by
  induction variants generalizing e with
  | nil => exact stage_pure trivial
  | cons variant rest ih =>
    have later : ∀ {t : Effort}, Stage issuer base dropped (removeVariants env withImages rest) (fun _ _ => True) t :=
      ih fun chosen row member => aside chosen row (List.mem_cons_of_mem _ member)
    unfold removeVariants
    cases withImages with
    | false => exact stage_id.bind fun _ _ _ _ => later
    | true =>
      refine (stage_discard _ (aside rfl variant List.mem_cons_self)).bind fun _ _ _ _ => ?_
      exact stage_id.bind fun _ _ _ _ => later

end
end Marketplace.Products
