import Marketplace.Schema

/-! The index of the search service: processed events, tombstones and documents, one transaction an event. -/
namespace Marketplace.Search
open ReadCommitted ReadCommitted.Tx

/-- A document as the events carry it. `price` and the ids stay the strings they are. -/
structure ProductDoc where
  productId : String
  name : String
  slug : String
  description : Option String
  price : String
  shopId : String
  categoryId : Option String
  thumbnailUrl : Option String
  status : String
  isHidden : Bool
  updatedAt : Time
deriving DecidableEq

/-- `productLock` is the advisory lock. Products of one hash share it, which only waits longer. -/
inductive Key where
  | processedEvent (eventId : String)
  | productLock (productId : String)
  | tombstone (productId : String)
  | document (productId : String)
deriving DecidableEq

/-- A processed event is kept with its `created_at`, a tombstone with its `deleted_at`. -/
@[reducible] def Row : Key → Type
  | .processedEvent _ => Time
  | .productLock _ => Unit
  | .tombstone _ => Time
  | .document _ => ProductDoc

inductive StoreErr where
  | duplicateEvent
  /-- Any other failure of the database. -/
  | database
deriving DecidableEq

/-- The end of a transaction that commits. -/
inductive Outcome where
  | applied
  | tombstoneBlocked
deriving DecidableEq

abbrev Db := Rows (Table Row)
abbrev Action := Tx (Table Row) Empty StoreErr

def markProcessed (eventId : String) (now : Time) : Action Unit :=
  insert (.processedEvent eventId) now .duplicateEvent

/-- `INSERT ... ON CONFLICT (product_id) DO UPDATE ... WHERE product_index.updated_at < EXCLUDED.updated_at`. -/
def newerDoc (doc : ProductDoc) : Option ProductDoc → Option ProductDoc
  | none => some doc
  | some row => if row.updatedAt < doc.updatedAt then some doc else some row

def upsertProduct (eventId : String) (doc : ProductDoc) (now : Time) : Action Outcome := do
  markProcessed eventId now
  lockRow (.productLock doc.productId)
  let found ← select fun d => d (.tombstone doc.productId)
  match found with
  | some deletedAt =>
    if deletedAt < doc.updatedAt then
      modify (.tombstone doc.productId) fun _ => none
      modify (.document doc.productId) (newerDoc doc)
      return .applied
    else return .tombstoneBlocked
  | none =>
    modify (.document doc.productId) (newerDoc doc)
    return .applied

/-- `GREATEST` of the tombstones. -/
def laterTombstone (deletedAt : Time) (row : Option Time) : Option Time := some (row.elim deletedAt (max deletedAt))

def deleteProduct (eventId : String) (productId : String) (deletedAt now : Time) : Action Outcome := do
  markProcessed eventId now
  lockRow (.productLock productId)
  modify (.tombstone productId) (laterTombstone deletedAt)
  modify (.document productId) (Option.filter fun doc => deletedAt < doc.updatedAt)
  return .applied

/-- An event of the product topic, decoded. -/
inductive ProductEvent where
  | upsert (eventId : String) (doc : ProductDoc)
  | delete (eventId : String) (productId : String) (occurredAt : Time)
deriving DecidableEq

def ProductEvent.eventId : ProductEvent → String
  | .upsert id _ => id
  | .delete id _ _ => id

def ProductEvent.productId : ProductEvent → String
  | .upsert _ doc => doc.productId
  | .delete _ productId _ => productId

/-- What the consumer writes for an event. -/
def ProductEvent.write : ProductEvent → Time → Action Outcome
  | .upsert id doc, now => upsertProduct id doc now
  | .delete id productId occurredAt, now => deleteProduct id productId occurredAt now

/-- A failed transaction leaves nothing behind. -/
def deliver (d : Db) (e : ProductEvent) (now : Time) : Db :=
  match (e.write now).run d [] with
  | .ok (_, after, _) => after
  | .error _ => d

/-- A tombstone at least as new as the document. -/
def Blocked (d : Db) (doc : ProductDoc) : Prop := ∃ deletedAt ∈ d (.tombstone doc.productId), doc.updatedAt ≤ deletedAt

instance (d : Db) (doc : ProductDoc) : Decidable (Blocked d doc) :=
  inferInstanceAs (Decidable (∃ deletedAt ∈ d (.tombstone doc.productId), doc.updatedAt ≤ deletedAt))

/-- The rows after an event, its processed row apart. -/
def ProductEvent.effect (d : Db) : ProductEvent → Db
  | .upsert _ doc =>
    if Blocked d doc then d
    else Function.update (Function.update d (.tombstone doc.productId) none) (.document doc.productId)
      (newerDoc doc (d (.document doc.productId)))
  | .delete _ productId occurredAt =>
    Function.update (Function.update d (.tombstone productId) (laterTombstone occurredAt (d (.tombstone productId))))
      (.document productId) ((d (.document productId)).filter fun doc => occurredAt < doc.updatedAt)

section
variable {I : Isolation (Table Row) Empty} {v : View (Table Row) Empty}

theorem wp_markProcessed {eventId : String} {now : Time} {Q : Unit → View (Table Row) Empty → Prop}
    {E : StoreErr → Prop} (clash : v.rows (.processedEvent eventId) ≠ none → E .duplicateEvent)
    (h : ∀ w, v.rows (.processedEvent eventId) = none →
      w.rows = Function.update v.rows (.processedEvent eventId) (some now) → Q () w) :
    (markProcessed eventId now).wp I Q E v := by
  unfold markProcessed
  refine wp_insert clash fun w more _ free stored => h w free ?_
  funext k
  by_cases own : k = .processedEvent eventId
  · subst own
    rw [stored, Function.update_self]
  · rw [more.rows k own, Function.update_of_ne own]

/-- One transaction of a delivery. -/
theorem wp_write (e : ProductEvent) (now : Time) : (e.write now).wp .serial
    (fun _ w => v.rows (.processedEvent e.eventId) = none ∧
      w.rows = e.effect (Function.update v.rows (.processedEvent e.eventId) (some now)))
    (fun _ => v.rows (.processedEvent e.eventId) ≠ none) v := by
  cases e with
  | upsert id doc =>
    simp only [ProductEvent.write, upsertProduct, ProductEvent.eventId, wp_bind]
    refine wp_markProcessed (fun seen => seen) fun w free rows => ?_
    rw [wp_lockRow, wp_select]
    rintro d m ⟨rfl, rfl⟩
    rw [View.hold_rows]
    cases found : w.rows (.tombstone doc.productId) with
    | none =>
      simp only [wp_bind, wp_modify, wp_pure]
      refine ⟨free, ?_⟩
      have open_ : ¬ Blocked w.rows doc := by simp [Blocked, found]
      rw [ProductEvent.effect, ← rows, if_neg open_]
      have gone : Function.update w.rows (.tombstone doc.productId) none = w.rows := by
        rw [← found, Function.update_eq_self]
      rw [gone]
      rfl
    | some deletedAt =>
      dsimp only
      rw [wp_ite]
      refine ⟨fun newer => ?_, fun older => ?_⟩
      · simp only [wp_bind, wp_modify, wp_pure]
        refine ⟨free, ?_⟩
        have open_ : ¬ Blocked w.rows doc := by simp [Blocked, found, newer]
        rw [ProductEvent.effect, ← rows, if_neg open_]
        rfl
      · rw [wp_pure]
        refine ⟨free, ?_⟩
        have blocked : Blocked w.rows doc := ⟨deletedAt, found, Nat.le_of_not_lt older⟩
        rw [ProductEvent.effect, ← rows, if_pos blocked]
        rfl
  | delete id productId occurredAt =>
    simp only [ProductEvent.write, deleteProduct, ProductEvent.eventId, wp_bind]
    refine wp_markProcessed (fun seen => seen) fun w free rows => ?_
    simp only [wp_lockRow, wp_modify, wp_pure]
    refine ⟨free, ?_⟩
    rw [ProductEvent.effect, ← rows]
    rfl

end

section
variable {d : Db} {e : ProductEvent} {now : Time}

/-- A delivery that is a duplicate changes nothing. -/
theorem deliver_duplicate (seen : d (.processedEvent e.eventId) ≠ none) : deliver d e now = d := by
  have spec := run_of_wp _ (wp_write (v := View.start d 0) e now)
  unfold deliver
  cases ran : (e.write now).run d [] with
  | error err => rfl
  | ok result =>
    simp only [View.start_rows, View.start_log, ran] at spec
    obtain ⟨w, ⟨free, _⟩, _⟩ := spec
    exact absurd free seen

theorem deliver_fresh (free : d (.processedEvent e.eventId) = none) :
    deliver d e now = e.effect (Function.update d (.processedEvent e.eventId) (some now)) := by
  have spec := run_of_wp _ (wp_write (v := View.start d 0) e now)
  unfold deliver
  cases ran : (e.write now).run d [] with
  | error err =>
    simp only [View.start_rows, View.start_log, ran] at spec
    exact absurd free spec
  | ok result =>
    simp only [View.start_rows, View.start_log, ran] at spec
    obtain ⟨w, ⟨_, rows⟩, same, _⟩ := spec
    exact same.symm.trans rows

end
end Marketplace.Search
