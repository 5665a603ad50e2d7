import Marketplace.Search.Consumer
import Mathlib.Algebra.Group.Int.Defs

/-! How the consumer settles a delivery, and the copies it sends to the retry queue and the dead-letter queue. -/
namespace Marketplace.Search.RetryCopies

/-- A header's value by its Go type; of the types that are no integer here, only the content is kept. -/
inductive Field where
  | int8 (n : Int8)
  | int16 (n : Int16)
  | int32 (n : Int32)
  | int64 (n : Int64)
  /-- `int` has 64 bits. -/
  | int (n : Int64)
  | other (content : List UInt8)
deriving DecidableEq

abbrev Headers := String → Option Field

structure Delivery where
  headers : Headers
  contentType : String
  body : List UInt8

inductive Target where
  | retry | dlq
deriving DecidableEq

structure Publishing where
  target : Target
  headers : Headers
  contentType : String
  body : List UInt8

structure Envelope where
  eventId : String
  eventType : String
  occurredAt : String
  payload : List UInt8

structure ProductSnapshot where
  productId : String
  name : String
  slug : String
  description : Option String
  price : String
  shopId : String
  categoryId : Option String
  thumbnailUrl : Option String
  status : String
  isHidden : Bool
  updatedAt : String

/-- `json.Unmarshal` into the three types, and `time.Parse`. -/
structure Decoders where
  envelope : List UInt8 → Option Envelope
  snapshot : List UInt8 → Option ProductSnapshot
  productDeleted : List UInt8 → Option String
  time : String → Option Time

/-- How the store answers, and which publications return without an error. -/
structure World where
  apply : ProductEvent → Except StoreErr Outcome
  published : Publishing → Bool

inductive Act where
  | publish (p : Publishing) (confirmed : Bool)
  /-- `EventsProcessedTotal`, by its labels. -/
  | count (eventType result : String)
  | ack
  | nack (requeue : Bool)

def getRetryCount (headers : Headers) : Option Int :=
  match headers "x-retry-count" with
  | none => some 0
  | some (.int32 n) => some n.toInt
  | some (.int64 n) => some n.toInt
  | some (.int n) => some n.toInt
  | some (.int16 n) => some n.toInt
  | some (.int8 n) => some n.toInt
  | some (.other _) => none

def retryCopy (msg : Delivery) (nextRetry : Int) : Publishing where
  target := .retry
  headers := Function.update msg.headers "x-retry-count" (some (.int32 (.ofInt nextRetry)))
  contentType := msg.contentType
  body := msg.body

def dlqCopy (msg : Delivery) : Publishing := ⟨.dlq, msg.headers, msg.contentType, msg.body⟩

def toProductDoc (time : String → Option Time) (p : ProductSnapshot) : Option ProductDoc :=
  (time p.updatedAt).map fun updatedAt =>
    { productId := p.productId
      name := p.name
      slug := p.slug
      description := p.description
      price := p.price
      shopId := p.shopId
      categoryId := p.categoryId
      thumbnailUrl := p.thumbnailUrl
      status := p.status
      isHidden := p.isHidden
      updatedAt := updatedAt }

inductive Decoded where
  | event (eventType : String) (e : ProductEvent)
  | unknown
  /-- It will never decode; the label is its type where the envelope can be read. -/
  | poison (label : String)
deriving DecidableEq

def decode (decoders : Decoders) (body : List UInt8) : Decoded :=
  match decoders.envelope body with
  | none => .poison "unknown"
  | some env =>
    if env.eventType = "product.created" ∨ env.eventType = "product.updated" then
      match (decoders.snapshot env.payload).bind (toProductDoc decoders.time) with
      | none => .poison env.eventType
      | some doc => .event env.eventType (.upsert env.eventId doc)
    else if env.eventType = "product.deleted" then
      match decoders.productDeleted env.payload with
      | none => .poison env.eventType
      | some productId =>
        if env.occurredAt = "" then .poison env.eventType
        else match decoders.time env.occurredAt with
          | none => .poison env.eventType
          | some deletedAt => .event env.eventType (.delete env.eventId productId deletedAt)
    else .unknown

section
variable (w : World)

/-- A copy is published and the delivery settled: `nackRequeue` if the publication fails. -/
def handOver (p : Publishing) (eventType result : String) : List Act :=
  if w.published p then [.publish p true, .count eventType result, .ack]
  else [.publish p false, .count eventType "nack_requeue", .nack true]

def processResult (msg : Delivery) (eventType : String) : Except StoreErr Outcome → List Act
  | .ok .applied => [.count eventType "success", .ack]
  | .error .duplicateEvent => [.count eventType "duplicate", .ack]
  | .ok .tombstoneBlocked => [.count eventType "tombstone_blocked", .ack]
  | .error .database =>
    let retryCount := (getRetryCount msg.headers).getD maxRetries
    if retryCount ≥ maxRetries then handOver w (dlqCopy msg) eventType "dlq"
    else handOver w (retryCopy msg (retryCount + 1)) eventType "retry"

def handleMessage (decoders : Decoders) (msg : Delivery) : List Act :=
  match decode decoders msg.body with
  | .poison label => handOver w (dlqCopy msg) label "poison"
  | .unknown => [.count "unknown" "skipped", .ack]
  | .event eventType e => processResult w msg eventType (w.apply e)

end

/-- The headers that the broker keeps on its own when it dead-letters a message. -/
def brokerHeaders : List String :=
  ["x-death", "x-first-death-exchange", "x-first-death-queue", "x-first-death-reason",
    "x-last-death-exchange", "x-last-death-queue", "x-last-death-reason", "CC"]

structure Returns (p : Publishing) (msg : Delivery) : Prop where
  waited : p.target = .retry
  headers : ∀ name, name ∉ brokerHeaders → msg.headers name = p.headers name
  contentType : msg.contentType = p.contentType
  body : msg.body = p.body

/-- The deliveries of a message and of the copies of it. -/
inductive Chain (decoders : Decoders) (msg : Delivery) : Delivery → Prop
  | first : Chain decoders msg msg
  | next {earlier later : Delivery} {w : World} {p : Publishing} (chain : Chain decoders msg earlier)
      (copied : .publish p true ∈ handleMessage w decoders earlier) (returned : Returns p later) : Chain decoders msg later

def isSettlement : Act → Bool
  | .ack => true
  | .nack _ => true
  | _ => false

/-- Why a delivery may be acknowledged. -/
def Justified (w : World) (decoders : Decoders) (msg : Delivery) : Prop :=
  decode decoders msg.body = .unknown ∨
  (∃ eventType e, decode decoders msg.body = .event eventType e ∧
    (w.apply e = .ok .applied ∨ w.apply e = .ok .tombstoneBlocked ∨ w.apply e = .error .duplicateEvent)) ∨
  ∃ p, .publish p true ∈ handleMessage w decoders msg

def CountsUp (msg : Delivery) (p : Publishing) : Prop :=
  ∃ before count, getRetryCount msg.headers = some before ∧ getRetryCount p.headers = some count ∧
    before < count ∧ count ≤ maxRetries

/-- A copy is the message it comes from, but for the bookkeeping. -/
structure SameMessage (msg : Delivery) (p : Publishing) : Prop where
  headers : ∀ name, name ≠ "x-retry-count" → name ∉ brokerHeaders → p.headers name = msg.headers name
  contentType : p.contentType = msg.contentType
  body : p.body = msg.body

structure Kept (decoders : Decoders) (msg : Delivery) : Prop where
  once : ∀ w, (handleMessage w decoders msg).filter isSettlement = [.ack] ∨
    (handleMessage w decoders msg).filter isSettlement = [.nack true]
  justified : ∀ w, .ack ∈ handleMessage w decoders msg → Justified w decoders msg
  copies : ∀ later, Chain decoders msg later → ∀ w p, .publish p true ∈ handleMessage w decoders later →
    SameMessage msg p ∧ (p.target = .retry → CountsUp later p)

variable {w : World} {decoders : Decoders} {msg : Delivery} {p : Publishing}

theorem handOver_once (eventType result : String) :
    (handOver w p eventType result).filter isSettlement = [.ack] ∨ (handOver w p eventType result).filter isSettlement = [.nack true] := by
  unfold handOver
  split
  · exact Or.inl rfl
  · exact Or.inr rfl

theorem handOver_ack {eventType result : String} (acked : .ack ∈ handOver w p eventType result) :
    .publish p true ∈ handOver w p eventType result := by
  unfold handOver at acked ⊢
  split
  · exact List.mem_cons_self
  · rename_i failed
    rw [if_neg failed] at acked
    simp at acked

theorem handOver_publish {q : Publishing} {eventType result : String} {confirmed : Bool}
    (published : .publish q confirmed ∈ handOver w p eventType result) : q = p := by
  unfold handOver at published
  split at published <;> simpa using (by simpa using published : q = p ∧ _).1

theorem once (w : World) (decoders : Decoders) (msg : Delivery) :
    (handleMessage w decoders msg).filter isSettlement = [.ack] ∨ (handleMessage w decoders msg).filter isSettlement = [.nack true] := by
  unfold handleMessage
  cases decode decoders msg.body with
  | poison label => exact handOver_once label "poison"
  | unknown => exact Or.inl rfl
  | event eventType e =>
    dsimp only
    unfold processResult
    split
    · exact Or.inl rfl
    · exact Or.inl rfl
    · exact Or.inl rfl
    · dsimp only
      split
      · exact handOver_once eventType "dlq"
      · exact handOver_once eventType "retry"

theorem justified (acked : .ack ∈ handleMessage w decoders msg) : Justified w decoders msg := by
  unfold Justified
  cases decoded : decode decoders msg.body with
  | poison label =>
    refine Or.inr (Or.inr ⟨dlqCopy msg, ?_⟩)
    unfold handleMessage at acked ⊢
    rw [decoded] at acked ⊢
    exact handOver_ack acked
  | unknown => exact Or.inl rfl
  | event eventType e =>
    refine Or.inr ?_
    cases answer : w.apply e with
    | ok outcome =>
      left
      refine ⟨eventType, e, rfl, ?_⟩
      cases outcome with
      | applied => exact Or.inl answer
      | tombstoneBlocked => exact Or.inr (Or.inl answer)
    | error failure =>
      cases failure with
      | duplicateEvent => exact Or.inl ⟨eventType, e, rfl, Or.inr (Or.inr answer)⟩
      | database =>
        right
        unfold handleMessage at acked ⊢
        rw [decoded] at acked ⊢
        dsimp only at acked ⊢
        rw [answer] at acked ⊢
        unfold processResult at acked ⊢
        dsimp only at acked ⊢
        split at acked
        · rename_i spent
          rw [if_pos spent]
          exact ⟨_, handOver_ack acked⟩
        · rename_i left_
          rw [if_neg left_]
          exact ⟨_, handOver_ack acked⟩

/-- A copy goes to the dead letters as it is, or to the retries with one retry more. -/
theorem copy_cases {confirmed : Bool} (published : .publish p confirmed ∈ handleMessage w decoders msg) :
    p = dlqCopy msg ∨ ∃ eventType e before, decode decoders msg.body = .event eventType e ∧
      getRetryCount msg.headers = some before ∧ before < maxRetries ∧ p = retryCopy msg (before + 1) := by
  unfold handleMessage at published
  cases decoded : decode decoders msg.body with
  | poison label =>
    rw [decoded] at published
    exact Or.inl (handOver_publish published)
  | unknown =>
    rw [decoded] at published
    simp at published
  | event eventType e =>
    rw [decoded] at published
    dsimp only at published
    cases answer : w.apply e with
    | ok outcome =>
      rw [answer] at published
      cases outcome <;> simp [processResult] at published
    | error failure =>
      rw [answer] at published
      cases failure with
      | duplicateEvent => simp [processResult] at published
      | database =>
        unfold processResult at published
        dsimp only at published
        split at published
        · exact Or.inl (handOver_publish published)
        · rename_i left_
          cases counted : getRetryCount msg.headers with
          | none =>
            rw [counted] at left_
            exact absurd (le_refl _) left_
          | some before =>
            rw [counted, Option.getD_some] at left_ published
            exact Or.inr ⟨eventType, e, before, rfl, rfl, by omega, handOver_publish published⟩

theorem retryCopy_count (msg : Delivery) (next : Int) :
    getRetryCount (retryCopy msg next).headers = some (Int32.ofInt next).toInt := by
  simp [getRetryCount, retryCopy]

theorem Returns.count {later : Delivery} (returned : Returns p later) : getRetryCount later.headers = getRetryCount p.headers := by
  unfold getRetryCount
  rw [returned.headers "x-retry-count" (by decide)]

theorem copy_same (msg : Delivery) {later : Delivery} {confirmed : Bool}
    (same : ∀ name, name ≠ "x-retry-count" → name ∉ brokerHeaders → later.headers name = msg.headers name)
    (contentType : later.contentType = msg.contentType) (body : later.body = msg.body)
    (published : .publish p confirmed ∈ handleMessage w decoders later) : SameMessage msg p := by
  rcases copy_cases published with rfl | ⟨_, _, before, _, _, _, rfl⟩
  · exact ⟨same, contentType, body⟩
  · refine ⟨fun name own broker => ?_, contentType, body⟩
    change Function.update later.headers "x-retry-count" _ name = _
    rw [Function.update_of_ne own]
    exact same name own broker

/-- Every delivery of a chain is the message, and after the first its count fits 32 bits. -/
theorem Chain.same {later : Delivery} (chain : Chain decoders msg later) :
    ((∀ name, name ≠ "x-retry-count" → name ∉ brokerHeaders → later.headers name = msg.headers name) ∧
      later.contentType = msg.contentType ∧ later.body = msg.body) ∧
    (later = msg ∨ ∃ count : Int, getRetryCount later.headers = some count ∧ -2 ^ 31 ≤ count) := by
  induction chain with
  | first => exact ⟨⟨fun _ _ _ => rfl, rfl, rfl⟩, Or.inl rfl⟩
  | @next earlier later w p _ copied returned ih =>
    obtain ⟨⟨headers, contentType, body⟩, _⟩ := ih
    have copy := copy_same msg headers contentType body copied
    refine ⟨⟨fun name own broker => ?_, returned.contentType.trans copy.contentType, returned.body.trans copy.body⟩, Or.inr ?_⟩
    · exact (returned.headers name broker).trans (copy.headers name own broker)
    · rcases copy_cases copied with rfl | ⟨_, _, before, _, _, _, rfl⟩
      · cases returned.waited
      · exact ⟨_, returned.count.trans (retryCopy_count earlier _), Int32.le_toInt _⟩

/-- The message would be retried, and its next count, cut to 32 bits, is above the maximum. -/
def Wraps (decoders : Decoders) (msg : Delivery) : Prop :=
  (∃ eventType e, decode decoders msg.body = .event eventType e) ∧
  ∃ count, getRetryCount msg.headers = some count ∧ count < -2 ^ 31 - 1 ∧ maxRetries < (Int32.ofInt (count + 1)).toInt

theorem next_fits {count : Int} (low : -2 ^ 31 - 1 ≤ count) (small : count < maxRetries) :
    (Int32.ofInt (count + 1)).toInt = count + 1 := by
  unfold maxRetries at small
  exact Int32.toInt_ofInt_of_le (by omega) (by omega)

/-- The store is out of reach, the broker is not. -/
def failing : World := ⟨fun _ => .error .database, fun _ => true⟩

theorem failing_copies {eventType : String} {e : ProductEvent} {count : Int} (decoded : decode decoders msg.body = .event eventType e)
    (counted : getRetryCount msg.headers = some count) (small : count < maxRetries) :
    .publish (retryCopy msg (count + 1)) true ∈ handleMessage failing decoders msg := by
  unfold handleMessage
  rw [decoded]
  change _ ∈ processResult failing msg eventType (.error .database)
  unfold processResult
  dsimp only
  rw [counted, Option.getD_some, if_neg (not_le.mpr small)]
  exact List.mem_cons_self

/-- A delivery is settled once and with reason, and its copies count up to the maximum, exactly if the first count does not wrap. -/
theorem kept_iff (decoders : Decoders) (msg : Delivery) : Kept decoders msg ↔ ¬ Wraps decoders msg := by
  constructor
  · rintro kept ⟨⟨eventType, e, decoded⟩, count, counted, low, ends⟩
    have small : count < maxRetries := by
      unfold maxRetries
      omega
    obtain ⟨_, counts⟩ := kept.copies msg .first failing _ (failing_copies decoded counted small)
    obtain ⟨_, next, _, nextCount, _, bounded⟩ := counts rfl
    rw [retryCopy_count] at nextCount
    cases nextCount
    omega
  · intro fits
    refine ⟨fun w => once w decoders msg, fun w => justified, fun later chain w p published => ?_⟩
    obtain ⟨⟨headers, contentType, body⟩, origin⟩ := chain.same
    refine ⟨copy_same msg headers contentType body published, fun retried => ?_⟩
    rcases copy_cases published with rfl | ⟨eventType, e, before, decoded, counted, small, rfl⟩
    · cases retried
    · refine ⟨before, _, counted, retryCopy_count later _, ?_⟩
      by_cases low : -2 ^ 31 - 1 ≤ before
      · rw [next_fits low small]
        omega
      · -- Only the message itself can come with such a count.
        have above := Int32.le_toInt (Int32.ofInt (before + 1))
        refine ⟨by omega, ?_⟩
        rcases origin with rfl | ⟨count, counted', fitting⟩
        · by_contra wraps
          exact fits ⟨⟨eventType, e, decoded⟩, before, counted, by omega, by omega⟩
        · cases counted.symm.trans counted'
          omega

/-- A product is deleted, in a message whose count came from elsewhere. -/
def deletion : Decoders where
  envelope _ := some ⟨"e1", "product.deleted", "2026-08-01T10:20:56.789Z", []⟩
  snapshot _ := none
  productDeleted _ := some "p1"
  time _ := some 1785579656789

def counted (count : Int64) : Delivery :=
  ⟨Function.update (fun _ => none) "x-retry-count" (some (.int64 count)), "application/json", []⟩

/-- One more than the count has the low 32 bits of seven. -/
theorem not_kept_wrapped : ¬ Kept deletion (counted (-4294967290)) := by
  intro kept
  have retries : getRetryCount (counted (-4294967290)).headers = some (-4294967290) := by decide
  have decoded : decode deletion (counted (-4294967290)).body = .event "product.deleted" (.delete "e1" "p1" 1785579656789) := by
    decide
  obtain ⟨_, counts⟩ := kept.copies _ .first failing _ (failing_copies decoded retries (by decide))
  obtain ⟨_, next, _, nextCount, _, bounded⟩ := counts rfl
  rw [retryCopy_count] at nextCount
  cases nextCount
  exact absurd bounded (by decide)

end Marketplace.Search.RetryCopies
