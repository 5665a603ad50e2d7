import Mathlib.Data.Multiset.ZeroCons
import Marketplace.LastWriter.Register
import Marketplace.Search.Store

/-! The index is the same whatever the order of the deliveries and their duplicates. -/
namespace Marketplace.Search
open ReadCommitted ReadCommitted.Tx LastWriter

/-- Deliveries one after the other, each with the clock of its transaction. -/
def deliverAll (d : Db) (deliveries : List (ProductEvent × Time)) : Db :=
  deliveries.foldl (fun d x => deliver d x.1 x.2) d

def emptyIndex : Db := fun _ => none

/-- The tombstone and the document of a product. -/
def register (d : Db) (productId : String) : Register Time ProductDoc := ⟨d (.tombstone productId), d (.document productId)⟩

def ProductEvent.op : ProductEvent → Op Time ProductDoc
  | .upsert _ doc => .upsert doc
  | .delete _ _ occurredAt => .delete occurredAt

/-- What the events of a product write. -/
def ops (events : ProductEvent → Prop) (productId : String) (op : Op Time ProductDoc) : Prop :=
  ∃ e, events e ∧ e.productId = productId ∧ e.op = op

/-- The newest document of a product among the events, unless a delete is at least as new. -/
abbrev NewestDoc (events : ProductEvent → Prop) (productId : String) (doc : ProductDoc) : Prop :=
  Newest ProductDoc.updatedAt (ops events productId) doc

/-- An event id names one event. -/
def OneEventPerId (events : ProductEvent → Prop) : Prop := ∀ e f, events e → events f → e.eventId = f.eventId → e = f

/-- Upserts of one product at one time carry one document. -/
def TiesAgree (events : ProductEvent → Prop) : Prop :=
  ∀ i j a b, events (.upsert i a) → events (.upsert j b) → a.productId = b.productId → a.updatedAt = b.updatedAt → a = b

section
variable {d : Db} {e : ProductEvent}

theorem register_effect : register (e.effect d) e.productId = (register d e.productId).apply ProductDoc.updatedAt e.op := by
  cases e with
  | upsert id doc =>
    show register (if Blocked d doc then d else _) doc.productId = (register d doc.productId).upsert ProductDoc.updatedAt doc
    unfold Register.upsert
    by_cases blocked : ∃ t ∈ (register d doc.productId).tombstone, doc.updatedAt ≤ t
    · rw [if_pos blocked, if_pos (show Blocked d doc from blocked)]
    · rw [if_neg blocked, if_neg (show ¬ Blocked d doc from blocked)]
      have newest : newerDoc doc (d (.document doc.productId)) =
          some (newer ProductDoc.updatedAt doc (d (.document doc.productId))) := by
        cases d (.document doc.productId) with
        | none => rfl
        | some row => exact (apply_ite some _ doc row).symm
      simp [register, newest]
  | delete id productId occurredAt =>
    simp [register, ProductEvent.effect, ProductEvent.productId, ProductEvent.op, Register.apply, Register.delete,
      laterTombstone]

theorem effect_frame {k : Key} (other : ∀ p, p = e.productId → k ≠ .tombstone p ∧ k ≠ .document p) : e.effect d k = d k := by
  have apart := other e.productId rfl
  cases e with
  | upsert id doc =>
    show (if Blocked d doc then d else _) k = d k
    split
    · rfl
    · exact (Function.update_of_ne apart.2 _ _).trans (Function.update_of_ne apart.1 _ _)
  | delete id productId occurredAt =>
    exact (Function.update_of_ne apart.2 _ _).trans (Function.update_of_ne apart.1 _ _)

theorem register_effect_other {p : String} (other : p ≠ e.productId) : register (e.effect d) p = register d p := by
  have tombstone : e.effect d (.tombstone p) = d (.tombstone p) := effect_frame (by grind)
  have document : e.effect d (.document p) = d (.document p) := effect_frame (by grind)
  rw [register, tombstone, document, register]

theorem register_mark {eventId p : String} {now : Time} :
    register (Function.update d (.processedEvent eventId) (some now)) p = register d p := rfl

end

/-- The rows after the events of `delivered`. -/
structure Indexed (delivered : ProductEvent → Prop) (d : Db) : Prop where
  processed : ∀ id, d (.processedEvent id) ≠ none ↔ ∃ e, delivered e ∧ e.eventId = id
  settled : ∀ p, Settled ProductDoc.updatedAt (ops delivered p) (register d p)

theorem indexed_empty : Indexed (fun _ => False) emptyIndex where
  processed _ := ⟨fun no => absurd rfl no, fun ⟨_, no, _⟩ => no.elim⟩
  settled p := by
    have nothing : ops (fun _ => False) p = fun _ => False := by
      funext op
      exact eq_false fun ⟨_, no, _⟩ => no
    rw [nothing]
    exact settled_empty

section
variable {delivered : ProductEvent → Prop} {d : Db} {e : ProductEvent} {now : Time}

theorem ops_own : ops (fun f => delivered f ∨ f = e) e.productId = also (ops delivered e.productId) e.op := by
  funext op
  apply propext
  constructor
  · rintro ⟨f, early | rfl, product, rfl⟩
    · exact Or.inl ⟨f, early, product, rfl⟩
    · exact Or.inr rfl
  · rintro (⟨f, early, product, rfl⟩ | rfl)
    · exact ⟨f, Or.inl early, product, rfl⟩
    · exact ⟨e, Or.inr rfl, rfl, rfl⟩

theorem ops_other {p : String} (other : p ≠ e.productId) : ops (fun f => delivered f ∨ f = e) p = ops delivered p := by
  funext op
  apply propext
  constructor
  · rintro ⟨f, early | rfl, product, same⟩
    · exact ⟨f, early, product, same⟩
    · exact absurd product.symm other
  · rintro ⟨f, early, product, same⟩
    exact ⟨f, Or.inl early, product, same⟩

/-- A delivery adds its event, and a second one of the same event nothing. -/
theorem Indexed.one (indexed : Indexed delivered d) (ids : ∀ f, delivered f → f.eventId = e.eventId → f = e) :
    Indexed (fun f => delivered f ∨ f = e) (deliver d e now) := by
  by_cases free : d (.processedEvent e.eventId) = none
  · rw [deliver_fresh free]
    constructor
    · intro id
      rw [effect_frame (by grind)]
      by_cases own : id = e.eventId
      · subst own
        rw [Function.update_self]
        exact ⟨fun _ => ⟨e, Or.inr rfl, rfl⟩, fun _ => Option.some_ne_none now⟩
      · rw [Function.update_of_ne (by simpa using own), indexed.processed]
        constructor
        · rintro ⟨f, early, same⟩
          exact ⟨f, Or.inl early, same⟩
        · rintro ⟨f, early | rfl, same⟩
          · exact ⟨f, early, same⟩
          · exact absurd same.symm own
    · intro p
      by_cases own : p = e.productId
      · subst own
        rw [ops_own, register_effect, register_mark]
        exact (indexed.settled _).apply e.op
      · rw [ops_other own, register_effect_other own, register_mark]
        exact indexed.settled p
  · rw [deliver_duplicate free]
    obtain ⟨f, early, same⟩ := (indexed.processed e.eventId).mp free
    obtain rfl := ids f early same
    have nothing : (fun g => delivered g ∨ g = f) = delivered := by
      funext g
      exact propext ⟨fun kind => kind.elim id fun last => last ▸ early, Or.inl⟩
    rw [nothing]
    exact indexed

theorem Indexed.run {events : ProductEvent → Prop} (ids : OneEventPerId events) (deliveries : List (ProductEvent × Time))
    (known : ∀ x ∈ deliveries, events x.1) (before : ∀ f, delivered f → events f) (indexed : Indexed delivered d) :
    Indexed (fun f => delivered f ∨ ∃ now, (f, now) ∈ deliveries) (deliverAll d deliveries) := by
  induction deliveries generalizing delivered d with
  | nil =>
    have nothing : (fun f => delivered f ∨ ∃ now, (f, now) ∈ ([] : List (ProductEvent × Time))) = delivered := by
      funext f
      simp
    rw [nothing]
    exact indexed
  | cons x rest ih =>
    obtain ⟨e, now⟩ := x
    have first : events e := known _ List.mem_cons_self
    have next : Indexed (fun f => delivered f ∨ f = e) (deliver d e now) :=
      indexed.one fun f early same => ids f e (before f early) first same
    have rest_run := ih (fun x more => known x (List.mem_cons_of_mem _ more))
      (fun f kind => kind.elim (before f) fun last => last ▸ first) next
    have regroup : (fun f => delivered f ∨ ∃ t, (f, t) ∈ (e, now) :: rest) =
        fun f => (delivered f ∨ f = e) ∨ ∃ t, (f, t) ∈ rest := by
      funext f
      simp only [List.mem_cons, Prod.mk.injEq, exists_or, or_assoc]
      simp
    rw [regroup]
    exact rest_run

end

section
variable {events : Multiset ProductEvent} {deliveries : List (ProductEvent × Time)}

theorem document_iff (ids : OneEventPerId (· ∈ events)) (ties : TiesAgree (· ∈ events))
    (all : ∀ e, e ∈ events ↔ ∃ now, (e, now) ∈ deliveries) (p : String) (doc : ProductDoc) :
    deliverAll emptyIndex deliveries (.document p) = some doc ↔ NewestDoc (· ∈ events) p doc := by
  have indexed : Indexed (fun f => False ∨ ∃ now, (f, now) ∈ deliveries) (deliverAll emptyIndex deliveries) :=
    indexed_empty.run ids deliveries (fun x there => (all x.1).mpr ⟨x.2, there⟩) fun f no => no.elim
  have delivered : (fun f => False ∨ ∃ now, (f, now) ∈ deliveries) = (· ∈ events) := by
    funext f
    rw [false_or]
    exact propext (all f).symm
  rw [delivered] at indexed
  apply (indexed.settled p).value_iff
  rintro a b ⟨e, e_in, e_product, e_op⟩ ⟨f, f_in, f_product, f_op⟩ same
  cases e with
  | delete => cases e_op
  | upsert i a' =>
    obtain rfl := Op.upsert.inj e_op
    cases f with
    | delete => cases f_op
    | upsert j b' =>
      obtain rfl := Op.upsert.inj f_op
      exact ties i j _ _ e_in f_in (e_product.trans f_product.symm) same

end

/-- Whatever their order and their duplicates, deliveries of the same events leave the same documents. -/
theorem deliveries_converge (events : Multiset ProductEvent) (ids : OneEventPerId (· ∈ events)) (ties : TiesAgree (· ∈ events))
    (deliveries other : List (ProductEvent × Time)) (all : ∀ e, e ∈ events ↔ ∃ now, (e, now) ∈ deliveries)
    (again : ∀ e, e ∈ events ↔ ∃ now, (e, now) ∈ other) (p : String) :
    deliverAll emptyIndex deliveries (.document p) = deliverAll emptyIndex other (.document p) ∧
      ∀ doc, deliverAll emptyIndex deliveries (.document p) = some doc ↔ NewestDoc (· ∈ events) p doc := by
  refine ⟨Option.ext fun doc => ?_, document_iff ids ties all p⟩
  exact (document_iff ids ties all p doc).trans (document_iff ids ties again p doc).symm

section
def lamp : ProductDoc where
  productId := "p1"
  name := "Lamp"
  slug := "lamp"
  description := none
  price := "100000"
  shopId := "s1"
  categoryId := none
  thumbnailUrl := none
  status := "ACTIVE"
  isHidden := false
  updatedAt := 5

def lampListed : ProductEvent := .upsert "e1" lamp

def lampRemoved : ProductEvent := .delete "e2" "p1" 7

/-- A delete that comes before the upsert it is newer than, and twice. -/
theorem delete_first :
    deliverAll emptyIndex [(lampListed, 10), (lampRemoved, 11)] (.document "p1") =
        deliverAll emptyIndex [(lampRemoved, 10), (lampListed, 11), (lampRemoved, 12)] (.document "p1") ∧
      ∀ doc, deliverAll emptyIndex [(lampListed, 10), (lampRemoved, 11)] (.document "p1") = some doc ↔
        NewestDoc (· ∈ ({lampListed, lampRemoved} : Multiset ProductEvent)) "p1" doc := by
  apply deliveries_converge
  · rintro e f e_in f_in same
    simp only [Multiset.insert_eq_cons, Multiset.mem_cons, Multiset.mem_singleton] at e_in f_in
    rcases e_in with rfl | rfl <;> rcases f_in with rfl | rfl <;> simp_all [lampListed, lampRemoved, ProductEvent.eventId]
  · rintro i j a b a_in b_in _ _
    simp [lampListed, lampRemoved] at a_in b_in
    exact a_in.2.trans b_in.2.symm
  · intro e
    simp [exists_or]
  · intro e
    simp [exists_or]
    tauto
end

end Marketplace.Search
