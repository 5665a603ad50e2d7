import Marketplace.LastWriter.Source
import Marketplace.Products.Totals
import Marketplace.Search.Deliveries

/-! The search index, which the events of the products are delivered to, shows the products. -/
namespace Marketplace.Products
open Fallible Fallible.Attempt LastWriter

/-- The event as the search service decodes it. It is not bound to the topic of moderation. -/
def OutboxEvent.decoded (event : OutboxEvent) : Option Search.ProductEvent :=
  match event.payload with
  | .productCreated doc => some (.upsert event.id doc)
  | .productUpdated doc => some (.upsert event.id doc)
  | .productDeleted productId => some (.delete event.id productId event.createdAt)
  | .productModerated _ => none

def Shelf.published (s : Shelf) : List Search.ProductEvent := s.outbox.filterMap (·.decoded)

/-- The documents say the same, whenever they were written. -/
def SameContent (doc other : Search.ProductDoc) : Prop := { doc with updatedAt := other.updatedAt } = other

/-- The product that a command is about. -/
def Command.product : Command → Option Uuid
  | .create _ _ _ => none
  | .update id _ _ _ => some id
  | .remove id _ => some id
  | .takeDown _ id _ => some id
  | .restore _ id => some id
  | .moveStock move => some move.product

/-- The clock has moved on since the product was last written. -/
def Timely (issuer : Issuer) (s : Shelf) (turn : Env × Command) : Prop :=
  turn.1.issuer = issuer ∧ ∀ id ∈ turn.2.product, ∀ found, s.products id = some found → found.updatedAt < turn.1.now

/-- The ids of the events are given one after the other. -/
def Numbered (issuer : Issuer) (issued : Nat) (outbox : List OutboxEvent) : Prop :=
  ∃ numbers : List Nat, numbers.Pairwise (· < ·) ∧ (∀ n ∈ numbers, n < issued) ∧ outbox.map (·.id) = numbers.map issuer.event

/-- What the search service has been sent of a product. -/
abbrev Shelf.sent (s : Shelf) (id : Uuid) : Op Time Search.ProductDoc → Prop := Search.ops (· ∈ s.published) id

structure Mirrored (issuer : Issuer) (s : Shelf) : Prop where
  named : ∀ id p, s.products id = some p → p.id = id ∧ ∃ n < s.issued, id = issuer.product n
  numbered : Numbered issuer s.issued s.outbox
  absent : ∀ id, s.products id = none → ∀ op, ¬ s.sent id op
  follows : ∀ id p, s.products id = some p →
    Follows Search.ProductDoc.updatedAt SameContent (s.sent id) p.snapshot (p.status = .deleted)

section
variable {env : Env} {issuer : Issuer} {base : Nat} {s after : Shelf} {e : Effort}

theorem sameContent_refl (doc : Search.ProductDoc) : SameContent doc doc := rfl

theorem snapshot_columns (product : Product) :
    product.snapshot = { product.columns.snapshot with updatedAt := product.updatedAt } := rfl

theorem stage_mergeVariant_any {usingColorModel : Bool} {dto : UpdateProductVariantDto} {urls : List Url} {offset : Nat} {m : Merge} :
    Stage issuer base (fun _ => True) (mergeVariant env usingColorModel dto urls offset m) (fun _ _ => True) e := by
  unfold mergeVariant
  split
  · unfold mergeOld
    split
    · exact stage_throw _
    · refine (stage_discard _ fun _ _ => trivial).bind fun _ _ _ _ => ?_
      exact stage_ite (fun _ => stage_throw _) fun _ => stage_pure trivial
  · refine stage_ite (fun _ => stage_throw _) fun _ => ?_
    split
    · exact stage_number.bind fun _ _ _ _ => stage_pure trivial
    · exact stage_throw _

theorem stage_mergeVariants_any {place : Destination} {images : List String} {usingColorModel : Bool} (same : env.issuer = issuer)
    {dtos : List UpdateProductVariantDto} {m : Merge} :
    Stage issuer base (fun _ => True) (mergeVariants env place images usingColorModel dtos m) (fun _ _ => True) e := by
  induction dtos generalizing m e with
  | nil => exact stage_pure trivial
  | cons dto rest ih =>
    refine (stage_uploadShare place _ _ _ _ same).bind fun _ _ _ _ => ?_
    exact stage_mergeVariant_any.bind fun _ _ _ _ => ih

theorem stage_updateVariants_any {dto : UpdateProductDto} {files : Files} {place : Destination} {product : Product}
    (same : env.issuer = issuer) :
    Stage issuer base (fun _ => True) (updateVariants env dto files place product)
      (fun after _ => ∃ variants stock, after = { product with variants := variants, stockQuantity := stock }) e := by
  unfold updateVariants
  split
  · exact stage_pure ⟨product.variants, product.stockQuantity, rfl⟩
  · refine stage_ite (fun _ => stage_pure ⟨product.variants, product.stockQuantity, rfl⟩) fun _ => ?_
    refine stage_id.bind fun _ _ _ _ => ?_
    refine (stage_removeVariants _ _ fun _ _ _ _ _ => trivial).bind fun _ _ _ _ => ?_
    exact (stage_mergeVariants_any same).bind fun _ _ _ _ => stage_pure ⟨_, _, rfl⟩

/-- An update keeps the id, and leaves the time only with the columns. -/
theorem stage_edit_any {dto : UpdateProductDto} {files : Files} {owner shop : Uuid} {found : Product} (same : env.issuer = issuer) :
    Stage issuer base (fun _ => True) (edit env dto files owner shop found)
      (fun after _ => after.id = found.id ∧
        (after.updatedAt = env.now ∨ after.updatedAt = found.updatedAt ∧ after.columns = found.columns)) e := by
  unfold edit
  refine (stage_updateThumbnail files _ found same fun _ _ _ => trivial).bind ?_
  rintro p₁ _ _ ⟨thumbnail, same₁, _⟩
  refine (stage_updateGallery dto files _ p₁ same fun _ _ _ => trivial).bind ?_
  rintro p₂ _ _ ⟨gallery, same₂, _⟩
  refine (stage_switchVariants dto _ fun _ _ _ => trivial).bind ?_
  rintro p₃ _ _ same₃
  have kept₃ : p₃.id = found.id ∧ p₃.updatedAt = found.updatedAt := by
    rw [same₃, switched_id, switched_updatedAt, same₂, same₁]
    exact ⟨rfl, rfl⟩
  refine (stage_updateStock dto p₃).bind ?_
  rintro p₄ _ _ stock
  have kept₄ : p₄.id = found.id ∧ p₄.updatedAt = found.updatedAt := by
    rcases stock with rfl | ⟨_, quantity, rfl⟩
    · exact kept₃
    · exact kept₃
  refine (stage_updateCategory dto p₄).bind ?_
  rintro p₅ _ _ ⟨category, rfl⟩
  refine (stage_updateColors dto files _ _ same fun _ _ _ _ _ => trivial).bind ?_
  rintro colors _ _ _
  refine (stage_updateVariants_any same).bind ?_
  rintro p₇ _ _ ⟨variants, quantity, rfl⟩
  refine stage_ite (fun _ => stage_throw _) fun _ => stage_pure ?_
  have kept : (withColors dto colors { p₄ with category := category, variants := variants, stockQuantity := quantity }).id = found.id ∧
      (withColors dto colors { p₄ with category := category, variants := variants, stockQuantity := quantity }).updatedAt =
        found.updatedAt := by
    unfold withColors
    split
    · exact kept₄
    · exact kept₄
  obtain ⟨id, updatedAt⟩ := kept
  rw [stamp_fields]
  refine ⟨id, ?_⟩
  rcases stamped env updatedAt with now | ⟨same, unchanged⟩
  · exact Or.inl now
  · exact Or.inr ⟨same, unchanged⟩

theorem Numbered.append {issued issued' n : Nat} {outbox : List OutboxEvent} {payload : Payload} {now : Time}
    (numbered : Numbered issuer issued outbox) (from_ : issued ≤ n) (below : n < issued') :
    Numbered issuer issued' (outbox ++ [⟨issuer.event n, payload, now⟩]) := by
  obtain ⟨numbers, rising, within, same⟩ := numbered
  refine ⟨numbers ++ [n], List.pairwise_append.mpr ⟨rising, List.pairwise_singleton _ _, fun m member k last => ?_⟩, fun m member => ?_, ?_⟩
  · rw [List.mem_singleton.mp last]
    exact Nat.lt_of_lt_of_le (within m member) from_
  · rcases List.mem_append.mp member with early | last
    · have := within m early
      omega
    · rw [List.mem_singleton.mp last]
      exact below
  · rw [List.map_append, List.map_append, same]
    rfl

theorem Numbered.later {issued issued' : Nat} {outbox : List OutboxEvent} (numbered : Numbered issuer issued outbox)
    (later : issued ≤ issued') : Numbered issuer issued' outbox := by
  obtain ⟨numbers, rising, within, same⟩ := numbered
  exact ⟨numbers, rising, fun n member => Nat.lt_of_lt_of_le (within n member) later, same⟩

theorem OutboxEvent.decoded_id {event : OutboxEvent} {decoded : Search.ProductEvent} (read : event.decoded = some decoded) :
    decoded.eventId = event.id := by
  unfold OutboxEvent.decoded at read
  split at read
  · cases read
    rfl
  · cases read
    rfl
  · cases read
    rfl
  · cases read

theorem Numbered.oneEventPerId (distinct : issuer.Distinct) (numbered : Numbered issuer s.issued s.outbox) :
    Search.OneEventPerId (· ∈ s.published) := by
  obtain ⟨numbers, rising, _, same⟩ := numbered
  have unique : (s.outbox.map (·.id)).Nodup := by
    rw [same]
    exact (rising.imp fun less => Nat.ne_of_lt less).map _ fun _ _ differ equal => differ (distinct.event equal)
  intro e f e_in f_in equal
  obtain ⟨a, a_in, a_read⟩ := List.mem_filterMap.mp e_in
  obtain ⟨b, b_in, b_read⟩ := List.mem_filterMap.mp f_in
  rw [OutboxEvent.decoded_id a_read, OutboxEvent.decoded_id b_read] at equal
  have own : a = b := List.inj_on_of_nodup_map unique a_in b_in equal
  rw [own, b_read] at a_read
  exact (Option.some.inj a_read).symm

theorem Shelf.sent_same {id : Uuid} (outbox : after.outbox = s.outbox) : after.sent id = s.sent id := by
  unfold Shelf.sent Shelf.published
  rw [outbox]

theorem Shelf.sent_append {event : Search.ProductEvent} (published : after.published = s.published ++ [event]) :
    after.sent event.productId = also (s.sent event.productId) event.op ∧
      ∀ id, id ≠ event.productId → after.sent id = s.sent id := by
  have members : (fun e => e ∈ after.published) = fun e => e ∈ s.published ∨ e = event := by
    funext e
    rw [published, List.mem_append, List.mem_singleton]
  unfold Shelf.sent
  rw [members]
  exact ⟨Search.ops_own, fun id other => Search.ops_other other⟩

theorem Mirrored.same (mirrored : Mirrored issuer s) (products : after.products = s.products) (outbox : after.outbox = s.outbox)
    (issued : s.issued ≤ after.issued) : Mirrored issuer after where
  named id p stands := by
    rw [products] at stands
    obtain ⟨own, n, below, given⟩ := mirrored.named id p stands
    exact ⟨own, n, Nat.lt_of_lt_of_le below issued, given⟩
  numbered := by
    rw [outbox]
    exact mirrored.numbered.later issued
  absent id none := by
    rw [products] at none
    rw [Shelf.sent_same outbox]
    exact mirrored.absent id none
  follows id p stands := by
    rw [products] at stands
    rw [Shelf.sent_same outbox]
    exact mirrored.follows id p stands

/-- A product is saved, and its event sent. -/
theorem Mirrored.announce (mirrored : Mirrored issuer s) {product : Product} {event : Search.ProductEvent}
    (products : after.products = Function.update s.products product.id (some product))
    (numbered : Numbered issuer after.issued after.outbox) (issued : s.issued ≤ after.issued)
    (published : after.published = s.published ++ [event]) (own : event.productId = product.id)
    (given : ∃ n < after.issued, product.id = issuer.product n)
    (follows : Follows Search.ProductDoc.updatedAt SameContent (also (s.sent product.id) event.op) product.snapshot
      (product.status = .deleted)) : Mirrored issuer after := by
  obtain ⟨here, elsewhere⟩ := Shelf.sent_append published
  rw [own] at here elsewhere
  refine ⟨fun id p stands => ?_, numbered, fun id none => ?_, fun id p stands => ?_⟩
  · rw [products] at stands
    by_cases same : id = product.id
    · subst same
      rw [Function.update_self] at stands
      cases stands
      exact ⟨rfl, given⟩
    · rw [Function.update_of_ne same] at stands
      obtain ⟨own, n, below, given⟩ := mirrored.named id p stands
      exact ⟨own, n, Nat.lt_of_lt_of_le below issued, given⟩
  · rw [products] at none
    by_cases same : id = product.id
    · subst same
      rw [Function.update_self] at none
      cases none
    · rw [Function.update_of_ne same] at none
      rw [elsewhere id same]
      exact mirrored.absent id none
  · rw [products] at stands
    by_cases same : id = product.id
    · subst same
      rw [Function.update_self] at stands
      cases stands
      rw [here]
      exact follows
    · rw [Function.update_of_ne same] at stands
      rw [elsewhere id same]
      exact mirrored.follows id p stands

theorem published_append {event : OutboxEvent} {decoded : Search.ProductEvent} (outbox : after.outbox = s.outbox ++ [event])
    (read : event.decoded = some decoded) : after.published = s.published ++ [decoded] := by
  unfold Shelf.published
  rw [outbox, List.filterMap_append]
  simp [read]

/-- The event that a command with a transaction of its own writes. -/
theorem Mirrored.saved (mirrored : Mirrored issuer s) (same : env.issuer = issuer) {product : Product} {payload : Payload}
    (saved : Saved s product payload env after) (op : Op Time Search.ProductDoc)
    (reads : ∀ id, ∃ event, (OutboxEvent.mk id payload env.now).decoded = some event ∧ event.productId = product.id ∧ event.op = op)
    (given : ∃ n < after.issued, product.id = issuer.product n)
    (follows : Follows Search.ProductDoc.updatedAt SameContent (also (s.sent product.id) op) product.snapshot
      (product.status = .deleted)) : Mirrored issuer after := by
  obtain ⟨n, from_, below, outbox⟩ := saved.outbox
  obtain ⟨event, read, own, rfl⟩ := reads (env.issuer.event n)
  refine mirrored.announce saved.products ?_ saved.issued (published_append outbox read) own given follows
  rw [outbox, same]
  exact mirrored.numbered.append from_ below

theorem Mirrored.unnamed (distinct : issuer.Distinct) (mirrored : Mirrored issuer s) {n : Nat} (from_ : s.issued ≤ n) :
    s.products (issuer.product n) = none := by
  cases stands : s.products (issuer.product n) with
  | none => rfl
  | some p =>
    obtain ⟨_, m, below, given⟩ := mirrored.named _ p stands
    have := distinct.product given
    omega

theorem mirrored_create (distinct : issuer.Distinct) (same : env.issuer = issuer) (mirrored : Mirrored issuer s)
    {dto : CreateProductDto} {files : Files} {user : User} : Mirrored issuer (create env dto files user s).2 := by
  rcases create_cases distinct same dto files user s (fun _ => False) with none | undone | ⟨product, done⟩
  · rw [none]
    exact mirrored
  · obtain ⟨products, outbox, issued⟩ := undone.tables
    exact mirrored.same products outbox issued
  · obtain ⟨saved, t₁, drafted, later⟩ := done.tables
    obtain ⟨n, within, given⟩ := drafted.named
    have fresh : s.products product.id = none := by
      rw [given]
      exact mirrored.unnamed distinct within.1
    have unsent := mirrored.absent product.id fresh
    refine mirrored.saved same saved (.upsert product.snapshot) (fun id => ⟨_, rfl, rfl, rfl⟩)
      ⟨n, Nat.lt_of_lt_of_le within.2 later, given⟩ ?_
    refine follows_write sameContent_refl (fun c sent => ?_) (fun t sent => ?_) fun c d sent => ?_
    · exact absurd sent (unsent _)
    · exact absurd sent (unsent _)
    · exact absurd sent (unsent _)

theorem mirrored_update (same : env.issuer = issuer) (mirrored : Mirrored issuer s) {id : Uuid} {dto : UpdateProductDto} {files : Files}
    {user : User} (timely : ∀ found, s.products id = some found → found.updatedAt < env.now) :
    Mirrored issuer (update env id dto files user s).2 := by
  rcases update_cases id dto files user s _ _ fun found shop _ => stage_edit_any same with
    none | ⟨found, stands, _, _, undone | ⟨product, done⟩⟩
  · rw [none]
    exact mirrored
  · obtain ⟨products, outbox, issued⟩ := undone.tables
    exact mirrored.same products outbox issued
  · obtain ⟨saved, t₁, ⟨kept, written⟩, later⟩ := done.tables
    obtain ⟨own, n, below, given⟩ := mirrored.named id found stands
    have follows := mirrored.follows id found stands
    have named : product.id = id := kept.trans own
    refine mirrored.saved same saved (.upsert product.snapshot) (fun id => ⟨_, rfl, rfl, rfl⟩)
      ⟨n, Nat.lt_of_lt_of_le below saved.issued, named.trans given⟩ ?_
    rw [named]
    rcases written with now | ⟨time, columns⟩
    · refine follows.write sameContent_refl ?_
      show found.updatedAt < product.updatedAt
      rw [now]
      exact timely found stands
    · have unchanged : product.snapshot = found.snapshot := by
        rw [snapshot_columns, columns, time, ← snapshot_columns]
      have status : product.columns.status = found.columns.status := congrArg Product.status columns
      change product.status = found.status at status
      rw [unchanged, status]
      exact follows.again sameContent_refl

theorem mirrored_remove (same : env.issuer = issuer) (mirrored : Mirrored issuer s) {id : Uuid} {user : User}
    (timely : ∀ found, s.products id = some found → found.updatedAt < env.now) : Mirrored issuer (remove env id user s).2 := by
  rcases remove_cases env issuer id user s with
    none | ⟨found, stands, t, k, gone, grown, failed | ⟨_, done⟩⟩
  · rw [none]
    exact mirrored
  · rw [failed]
    exact mirrored.same grown.products grown.outbox grown.issued
  · obtain ⟨own, n, below, given⟩ := mirrored.named id found stands
    have cleaned := (deleteFiles_cleaned env.fails k gone (removedFrom env found t)).1
    rw [← done] at cleaned
    have issued : s.issued ≤ t.shelf.issued := grown.issued
    have kept : (remove env id user s).2.issued = t.shelf.issued + 1 := cleaned.issued
    have saved : Saved s (found.removed env) (.productDeleted found.id) env (remove env id user s).2 := by
      refine ⟨?_, ⟨t.shelf.issued, issued, by omega, ?_⟩, by omega⟩
      · rw [cleaned.products]
        exact congrArg (fun p => Function.update p found.id (some (found.removed env))) grown.products
      · rw [cleaned.outbox]
        exact congrArg (· ++ [OutboxEvent.mk (env.issuer.event t.shelf.issued) (.productDeleted found.id) env.now]) grown.outbox
    refine mirrored.saved same saved (.delete env.now) (fun id => ⟨_, rfl, rfl, rfl⟩) ⟨n, by omega, own.trans given⟩ ?_
    have follows := mirrored.follows id found stands
    rw [show (found.removed env).id = id from own]
    exact follows.delete (b := (found.removed env).snapshot) (timely found stands) rfl

theorem mirrored_moderate (same : env.issuer = issuer) (mirrored : Mirrored issuer s) {admin id : Uuid} {status : ProductStatus}
    {refused : Product → Option Err} {action : ModerationAction} {reason : Option String} {message : String}
    (timely : ∀ found, s.products id = some found → found.updatedAt < env.now) :
    Mirrored issuer (moderate env admin id status refused action reason message s).2 := by
  rcases moderate_cases env admin id status refused action reason message s with
    none | ⟨found, product, contact, stands, _, made, done⟩
  · rw [none]
    exact mirrored
  · obtain ⟨own, n, below, given⟩ := mirrored.named id found stands
    have named : product.id = id := by
      rw [made]
      exact own
    have time : found.updatedAt < product.updatedAt := by
      rw [made]
      exact timely found stands
    have moderated : Numbered issuer (s.issued + 1) (s.outbox ++ [⟨issuer.event s.issued,
        .productModerated ⟨found.id, found.name, found.shop, contact, action, reason⟩, env.now⟩]) :=
      mirrored.numbered.append (Nat.le_refl s.issued) (Nat.lt_succ_self s.issued)
    have numbered : Numbered issuer (s.issued + 2) (s.outbox ++ [⟨issuer.event s.issued,
        .productModerated ⟨found.id, found.name, found.shop, contact, action, reason⟩, env.now⟩] ++
        [⟨issuer.event (s.issued + 1), .productUpdated product.snapshot, env.now⟩]) :=
      moderated.append (Nat.le_refl _) (Nat.lt_succ_self _)
    rw [done]
    subst same
    refine mirrored.announce (?_ : _ = Function.update s.products product.id (some product)) ?_ (Nat.le_add_right _ 2)
      (?_ : _ = s.published ++ [.upsert (env.issuer.event (s.issued + 1)) product.snapshot]) rfl ⟨n, Nat.lt_add_right 2 below, named.trans given⟩ ?_
    · rfl
    · exact numbered
    · simp [Shelf.published, emit, store, List.filterMap_append, OutboxEvent.decoded]
    · rw [named]
      exact (mirrored.follows id found stands).write (b := product.snapshot) sameContent_refl time

theorem mirrored_moveStock (mirrored : Mirrored issuer s) {move : StockMove} {now : Time}
    (timely : ∀ found, s.products move.product = some found → found.updatedAt < now) : Mirrored issuer (moveStock move now s) := by
  unfold moveStock
  cases stands : s.products move.product with
  | none => exact mirrored
  | some found =>
    dsimp only
    split
    · obtain ⟨own, n, below, given⟩ := mirrored.named move.product found stands
      have follows := mirrored.follows move.product found stands
      rw [← own] at follows
      have moved : Follows Search.ProductDoc.updatedAt SameContent (s.sent found.id) (move.write now found).snapshot
          (found.status = .deleted) := by
        refine follows.touch (timely found stands) fun doc alike => ?_
        have again := congrArg (fun doc : Search.ProductDoc => { doc with updatedAt := now }) alike
        exact again
      refine ⟨fun id p there => ?_, mirrored.numbered, fun id none => ?_, fun id p there => ?_⟩
      · by_cases same : id = found.id
        · subst same
          simp only [store, StockMove.write, Function.update_self] at there
          cases there
          exact ⟨rfl, n, below, own.trans given⟩
        · simp only [store, StockMove.write, Function.update_of_ne same] at there
          exact mirrored.named id p there
      · by_cases same : id = found.id
        · subst same
          simp [store, StockMove.write] at none
        · simp only [store, StockMove.write, Function.update_of_ne same] at none
          exact mirrored.absent id none
      · by_cases same : id = found.id
        · subst same
          simp only [store, StockMove.write, Function.update_self] at there
          cases there
          exact moved
        · simp only [store, StockMove.write, Function.update_of_ne same] at there
          exact mirrored.follows id p there
    · exact mirrored

theorem mirrored_act (distinct : issuer.Distinct) (turn : Env × Command) (mirrored : Mirrored issuer s)
    (timely : Timely issuer s turn) : Mirrored issuer (act s turn) := by
  obtain ⟨env, command⟩ := turn
  obtain ⟨same, timely⟩ := timely
  cases command with
  | create dto files user => exact mirrored_create distinct same mirrored
  | update id dto files user => exact mirrored_update same mirrored (timely id rfl)
  | remove id user => exact mirrored_remove same mirrored (timely id rfl)
  | takeDown admin id reason => exact mirrored_moderate same mirrored (timely id rfl)
  | restore admin id => exact mirrored_moderate same mirrored (timely id rfl)
  | moveStock move => exact mirrored_moveStock mirrored (timely move.product rfl)

end

/-- Whatever commands have failed, and however the events of the others have been delivered, the index has only what the
products say, and all that are not deleted. -/
theorem search_mirrors {issuer : Issuer} (distinct : issuer.Distinct) {s : Shelf}
    (reached : Machine.Reached act (Timely issuer) emptyShelf s) (deliveries : List (Search.ProductEvent × Time))
    (all : ∀ event, event ∈ s.published ↔ ∃ now, (event, now) ∈ deliveries) (id : Uuid) :
    (∀ doc, Search.deliverAll Search.emptyIndex deliveries (.document id) = some doc →
        ∃ product, s.products id = some product ∧ SameContent doc product.snapshot) ∧
      ∀ product, s.products id = some product → product.status ≠ .deleted →
        Search.deliverAll Search.emptyIndex deliveries (.document id) ≠ none := by
  have mirrored : Mirrored issuer s := by
    refine reached.invariant (P := Mirrored issuer) ?_ fun s turn mirrored timely => mirrored_act distinct turn mirrored timely
    refine ⟨?_, ⟨[], List.Pairwise.nil, fun n none => absurd none List.not_mem_nil, rfl⟩, ?_, ?_⟩
    · intro id p none
      cases none
    · rintro id _ op ⟨event, none, _⟩
      exact absurd none List.not_mem_nil
    · intro id p none
      cases none
  have ids : Search.OneEventPerId (· ∈ (s.published : Multiset Search.ProductEvent)) := mirrored.numbered.oneEventPerId distinct
  have ties : Search.TiesAgree (· ∈ (s.published : Multiset Search.ProductEvent)) := by
    intro i j a b first second same equal
    cases stands : s.products a.productId with
    | none => exact absurd ⟨_, first, rfl, rfl⟩ (mirrored.absent _ stands (.upsert a))
    | some product =>
      exact (mirrored.follows _ product stands).ties a b ⟨_, first, rfl, rfl⟩ ⟨_, second, same.symm, rfl⟩ equal
  have newest : ∀ doc, Search.deliverAll Search.emptyIndex deliveries (.document id) = some doc ↔
      Newest Search.ProductDoc.updatedAt (s.sent id) doc :=
    Search.document_iff ids ties all id
  refine ⟨fun doc shown => ?_, fun product stands live => ?_⟩
  · have last := (newest doc).mp shown
    cases stands : s.products id with
    | none => exact absurd last.written (mirrored.absent id stands _)
    | some product => exact ⟨product, rfl, (mirrored.follows id product stands).alike doc last⟩
  · obtain ⟨doc, last⟩ := (mirrored.follows id product stands).shown live
    rw [(newest doc).mpr last]
    exact Option.some_ne_none doc

/-- The shirt is listed, sold once and taken down. -/
def shirtTakenDown : List (Env × Command) := shirtSold ++ [(calm 3, .takeDown "admin" (letters 'p' 5) "copied")]

/-- Its events come twice, the last one first. -/
def shuffled (published : List Search.ProductEvent) : List (Search.ProductEvent × Time) :=
  (published.reverse ++ published).map (·, 10)

theorem shirt_found : Search.deliverAll Search.emptyIndex (shuffled (Machine.run act emptyShelf shirtTakenDown).published)
    (.document (letters 'p' 5)) ≠ none := by
  have first : Machine.Reached act (Timely alphabet) emptyShelf (act emptyShelf (calm 1, .create shirt shirtFiles seller)) := by
    refine .move _ .start ⟨rfl, fun id none => ?_⟩
    cases none
  have second : Machine.Reached act (Timely alphabet) emptyShelf (Machine.run act emptyShelf shirtSold) := by
    refine .move (calm 2, .moveStock ⟨letters 'p' 5, [(some (letters 'v' 3), -1)]⟩) first ⟨rfl, ?_⟩
    rintro _ ⟨⟩ found stands
    cases stands
    decide
  have third : Machine.Reached act (Timely alphabet) emptyShelf (Machine.run act emptyShelf shirtTakenDown) := by
    refine .move (calm 3, .takeDown "admin" (letters 'p' 5) "copied") second ⟨rfl, ?_⟩
    rintro _ ⟨⟩ found stands
    cases stands
    decide
  refine (search_mirrors alphabet_distinct third _ (fun event => ?_) (letters 'p' 5)).2 _ rfl (by decide)
  simp [shuffled]

end Marketplace.Products
