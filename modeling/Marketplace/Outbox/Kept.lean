import Marketplace.Outbox.Projection
import Marketplace.ReadCommitted.Ledger

/-! Events are marked after their confirmation, and notifications are projected once, unless they were returned or
dropped. -/
namespace Marketplace.Outbox
open ReadCommitted ReadCommitted.Tx

/-- What the commit of a projection brings. -/
def Projects (msg : Delivery) (log : List Mark) : Prop :=
  ∃ envelope, msg.envelope = some envelope ∧
    log = [.processedEvent envelope.eventId, .projected envelope.eventId envelope.payload]

def Done (s : Store (Table Row) Mark) (msg : Delivery) : Prop :=
  ∃ envelope, msg.envelope = some envelope ∧ processedEvents.Claimed s envelope.eventId

/-- What a settlement stands for. -/
def Settlement.Justified (s : Store (Table Row) Mark) (msg : Delivery) : Settlement → Prop
  | .invalid => msg.envelope = none
  | .duplicate => Done s msg
  | .projected => Done s msg
  | .dropped => msg.redelivered = true
  | .requeued => True

theorem Done.stays {s t : Store (Table Row) Mark} {msg : Delivery} (done : Done s msg)
    (stays : processedEvents.Stays s t) : Done t msg := by
  obtain ⟨envelope, content, claimed⟩ := done
  exact ⟨envelope, content, stays _ claimed⟩

theorem Settlement.Justified.stays {s t : Store (Table Row) Mark} {msg : Delivery} {settled : Settlement}
    (justified : settled.Justified s msg) (stays : processedEvents.Stays s t) : settled.Justified t msg := by
  cases settled with
  | invalid => exact justified
  | duplicate => exact Done.stays justified stays
  | projected => exact Done.stays justified stays
  | dropped => exact justified
  | requeued => trivial

theorem settleError_justified {s : Store (Table Row) Mark} {msg : Delivery} {e : Err}
    (taken : e = .uniqueViolation → Done s msg) : (settleError msg e).Justified s msg := by
  cases e with
  | uniqueViolation => exact taken rfl
  | transient =>
    show Settlement.Justified s msg (if msg.redelivered then .dropped else .requeued)
    split
    · next again => exact again
    · trivial

section
variable {I : Isolation (Table Row) Mark} {v : View (Table Row) Mark} {E : Err → Prop}

theorem within_upsertProjection (eventId : Id) (payload : NotificationCreatedPayload) :
    (upsertProjection eventId payload).Within processedEvents.Apart processedEvents.Quiet := by
  refine within_bind (within_selectForUpdate _) fun _ => within_bind (within_given fun _ => ?_) fun _ => ?_
  · exact (within_modify _ _).mpr fun _ => nofun
  · exact (within_note _).mpr fun _ => nofun

theorem wp_upsertProjection {eventId : Id} {payload : NotificationCreatedPayload} :
    (upsertProjection eventId payload).wp I
      (fun _ w => w.log = v.log ++ [.projected eventId payload] ∧ w.rows (.notificationRead payload.id) ≠ none ∧
        ∀ k, v.rows k ≠ none → w.rows k ≠ none) E v := by
  unfold upsertProjection
  rw [wp_bind]
  refine wp_selectForUpdate fun w more _ => ?_
  have log : w.log = v.log := more.log_same
  have rows : ∀ k, w.rows k = v.rows k := fun k => more.rows k fun no => no
  rw [wp_bind, wp_given]
  constructor
  · intro free
    rw [wp_modify, wp_note]
    refine ⟨congrArg (· ++ _) log, ?_, fun k stood => ?_⟩
    · rw [View.mark_rows, View.put_rows_self]
      exact Option.some_ne_none _
    · rw [View.mark_rows]
      by_cases same : k = .notificationRead payload.id
      · subst same
        rw [View.put_rows_self]
        exact Option.some_ne_none _
      · rw [View.put_rows_other w _ same, rows]
        exact stood
  · intro full
    rw [wp_note]
    refine ⟨congrArg (· ++ _) log, ?_, fun k stood => ?_⟩
    · rw [View.mark_rows, rows]
      exact fun free => full (Option.isNone_iff_eq_none.mpr free)
    · rw [View.mark_rows, rows]
      exact stood

theorem wp_project {envelope : OutboxEnvelope NotificationCreatedPayload}
    (clash : v.rows (.processedEvent envelope.eventId) ≠ none → E .uniqueViolation) :
    (project envelope).wp I
      (fun _ w => w.log = v.log ++ [.processedEvent envelope.eventId, .projected envelope.eventId envelope.payload] ∧
        w.rows (.notificationRead envelope.payload.id) ≠ none ∧ ∀ k, v.rows k ≠ none → w.rows k ≠ none) E v := by
  refine Inbox.wp_once clash fun w more _ stored log => ?_
  refine wp_mono _ wp_upsertProjection (fun _ u kept => ?_) fun _ e => e
  obtain ⟨grown, stands, since⟩ := kept
  refine ⟨?_, stands, fun k stood => since k ?_⟩
  · rw [grown, log, List.append_assoc]
    rfl
  · by_cases same : k = processedEvents.key envelope.eventId
    · subst same
      rw [stored]
      exact Option.some_ne_none _
    · rw [more.rows k same]
      exact stood

end

section
variable {msg : Delivery} {s t : Store (Table Row) Mark}

/-- Where the handler of a message stands. -/
inductive Stage (msg : Delivery) (s : Store (Table Row) Mark) : Request → Prop
  | start : Stage msg s (handleMessage msg)
  | project {envelope : OutboxEnvelope NotificationCreatedPayload} (content : msg.envelope = some envelope) :
      Stage msg s (.tx (project envelope) (fun _ => .done .projected) fun e => .done (settleError msg e))
  | settled {settled : Settlement} (justified : settled.Justified s msg) : Stage msg s (.done settled)

theorem Stage.stays {r : Request} (stage : Stage msg s r) (stays : processedEvents.Stays s t) : Stage msg t r := by
  cases stage with
  | start => exact .start
  | project content => exact .project content
  | settled justified => exact .settled (justified.stays stays)

theorem Stage.failed {e : Err} (taken : e = .uniqueViolation → Done s msg) : Stage msg s (.done (settleError msg e)) :=
  .settled (settleError_justified taken)

/-- Events are claimed once, and what was projected stands. -/
structure Standing (s : Store (Table Row) Mark) : Prop where
  sound : processedEvents.Sound s
  rows : ∀ id payload, .projected id payload ∈ s.journal → s.rows (.notificationRead payload.id) ≠ none

def projecting (deliveries : Nat → Delivery) :
    Invariant (Table Row) Mark Err Settlement (fun _ _ => True) .transient where
  Inv := Standing
  Le := processedEvents.Stays
  Ready i s r := Stage (deliveries i) s r
  le_refl := processedEvents.stays_refl
  le_trans first second := first.trans _ second
  ready_le stays stage := stage.stays stays
  aborted := by
    intro i s α body ok err stage
    generalize made : (Req.tx body ok err : Request) = r at stage
    cases stage with
    | start =>
      unfold handleMessage at made
      split at made
      · cases made
      · cases made
        exact .failed nofun
    | project content =>
      cases made
      exact .failed nofun
    | settled => cases made
  commits := by
    intro i α body ok err h m sound ordered small stage
    have now := sound h.now (Nat.le_refl _)
    generalize made : (Req.tx body ok err : Request) = r at stage
    cases stage with
    | start =>
      unfold handleMessage at made
      split at made
      · cases made
      · next envelope content =>
        cases made
        rw [wp_select]
        intro d j sees _ _
        obtain ⟨_, earlier, rfl⟩ := sees
        have grown : (h.commit ((View.start h.current.rows m).looking j)).journal = h.current.journal := List.append_nil _
        have stays : processedEvents.Stays h.current (h.commit ((View.start h.current.rows m).looking j)) := fun _ claimed => claimed
        refine ⟨⟨?_, ?_⟩, stays, ?_⟩
        · have silent : ∀ e ∈ ([] : List Mark), processedEvents.Quiet e := fun e no => absurd no List.not_mem_nil
          exact now.sound.aside (fun _ => rfl) rfl silent
        · rw [grown]
          exact now.rows
        · show Stage (deliveries i) _ (if ((h.past j).rows (.processedEvent envelope.eventId)).isSome then .done .duplicate else _)
          by_cases found : ((h.past j).rows (.processedEvent envelope.eventId)).isSome
          · -- the row that was read is still there
            rw [if_pos found]
            have stood : processedEvents.Claimed (h.past j) envelope.eventId := Option.isSome_iff_ne_none.mp found
            have since := ordered j h.now earlier (Nat.le_refl _)
            have done : Done (h.commit _) (deliveries i) := ⟨envelope, content, stays _ (since _ stood)⟩
            exact .settled done
          · rw [if_neg found]
            exact .project content
    | @project envelope content =>
      cases made
      have taken : h.current.rows (.processedEvent envelope.eventId) ≠ none →
          Stage (deliveries i) h.current (.done (settleError (deliveries i) .uniqueViolation)) :=
        fun stands => .failed fun _ => ⟨envelope, content, stands⟩
      have quiet : ∀ w : View (Table Row) Mark, (upsertProjection envelope.eventId envelope.payload).wp h.isolation
          (fun _ _ => True) (fun e => Stage (deliveries i) h.current (.done (settleError (deliveries i) e))) w :=
        fun w => wp_mono _ wp_upsertProjection (fun _ _ _ => trivial) fun _ e => e
      have claims := Inbox.wp_once_sound (m := m) (within_upsertProjection envelope.eventId envelope.payload) quiet taken
      have writes := wp_project (I := h.isolation) (v := View.start h.current.rows m)
        (E := fun e => Stage (deliveries i) h.current (.done (settleError (deliveries i) e))) taken
      refine wp_mono _ (wp_and _ claims writes) (fun _ w kept _ _ => ?_) fun _ e => e.1
      obtain ⟨claimed, log, stands, since⟩ := kept
      obtain ⟨sound', stays, done⟩ := claimed now.sound
      refine ⟨⟨sound', fun id payload member => ?_⟩, stays, .settled ⟨envelope, content, done⟩⟩
      have journal : (h.commit w).journal = h.current.journal ++ w.log := rfl
      rw [journal, log] at member
      rcases List.mem_append.mp member with old | new
      · exact since _ (now.rows id payload old)
      · simp only [View.start_log, List.nil_append, List.mem_cons, List.not_mem_nil, or_false, reduceCtorEq, false_or,
          Mark.projected.injEq] at new
        obtain ⟨rfl, rfl⟩ := new
        exact stands
    | settled => cases made

theorem ends_project {envelope : OutboxEnvelope NotificationCreatedPayload} (content : msg.envelope = some envelope) :
    (project envelope).Ends (fun _ log => Projects msg log) [] := by
  unfold project Inbox.once Tx.insert upsertProjection
  rw [ends_bind, ends_bind, ends_selectForUpdate]
  intro d
  rw [ends_bind]
  refine ends_require fun _ => ?_
  rw [ends_modify, ends_bind, ends_note, ends_bind, ends_selectForUpdate]
  intro d'
  rw [ends_bind]
  unfold given
  split
  · rw [ends_modify, ends_note]
    exact ⟨envelope, content, rfl⟩
  · exact ⟨envelope, content, rfl⟩

theorem once_handleMessage (msg : Delivery) : (handleMessage msg).Once (Projects msg) := by
  unfold handleMessage
  split
  · trivial
  · next envelope content =>
    refine ⟨fun d => Or.inl ⟨rfl, ?_⟩, fun e => trivial⟩
    show Req.Once (if (d (.processedEvent envelope.eventId)).isSome then _ else _) _
    split
    · trivial
    · exact ⟨(ends_project content).mono fun _ log made => Or.inr ⟨made, trivial⟩, fun e => trivial⟩

theorem Projects.wrote {log : List Mark} (projects : Projects msg log) :
    ∃ id, processedEvents.Wrote Mark.eventId id log := by
  obtain ⟨envelope, _, rfl⟩ := projects
  refine ⟨envelope.eventId, _, rfl, fun e member => ?_⟩
  simp only [List.mem_cons, List.not_mem_nil, or_false] at member
  rcases member with rfl | rfl
  · rfl
  · rfl

end

section
variable {Payload : Type} (deliveries : Nat → Delivery) (s : Pipeline Payload)

/-- The event of the row has been projected, by one commit. -/
def Projected (row : OutboxEvent NotificationCreatedPayload) : Prop :=
  s.conf.store.journal.filter (·.eventId = row.id) = [.processedEvent row.id, .projected row.id row.payload] ∧
    s.conf.store.rows (.notificationRead row.payload.id) ≠ none

/-- Retained in the outbox, queued, being processed, or projected. -/
inductive Kept (row : OutboxEvent NotificationCreatedPayload) : Prop
  | retained (unpublished : row.publishedAt = none)
  | queued {m : Delivery} (waiting : m ∈ s.notificationOutbox.queue) (own : m.envelope = some row.envelope)
  | inFlight {i : Nat} (flying : i ∈ s.inFlight) (own : (deliveries i).envelope = some row.envelope)
  | projected (once : Projected s row)

/-- Given up when the processing of a redelivery had failed. -/
def Dropped (envelope : OutboxEnvelope NotificationCreatedPayload) : Prop :=
  ∃ i, (i, .dropped) ∈ s.acked ∧ (deliveries i).envelope = some envelope ∧ (deliveries i).redelivered = true

/-- Where a message that the broker has taken is. -/
inductive Tracked (envelope : OutboxEnvelope NotificationCreatedPayload) : Prop
  | queued {m : Delivery} (waiting : m ∈ s.notificationOutbox.queue) (own : m.envelope = some envelope)
  | inFlight {i : Nat} (flying : i ∈ s.inFlight) (own : (deliveries i).envelope = some envelope)
  | processed (done : processedEvents.Claimed s.conf.store envelope.eventId)
  | dropped (dropped : Dropped deliveries s envelope)

/-- What holds of the relays, the queue and the deliveries. -/
structure Safe : Prop where
  outbox : s.outbox.Sound
  notificationOutbox : s.notificationOutbox.Sound
  queued : ∀ m ∈ s.notificationOutbox.queue, ∃ envelope, m.envelope = some envelope ∧ Issued s.notificationOutbox.events envelope
  begun : ∀ i < s.delivered, ∃ envelope, (deliveries i).envelope = some envelope ∧ Issued s.notificationOutbox.events envelope
  flying : ∀ i ∈ s.inFlight, i < s.delivered
  tracked : ∀ x ∈ s.notificationOutbox.confirmed, x ∈ s.notificationOutbox.returned ∨
    ∃ envelope, envelope.eventId = x.2 ∧ Issued s.notificationOutbox.events envelope ∧ Tracked deliveries s envelope

end

section
variable {Payload : Type} {deliveries : Nat → Delivery} {s t : Pipeline Payload}

theorem Tracked.mono {envelope : OutboxEnvelope NotificationCreatedPayload} (tracked : Tracked deliveries s envelope)
    (queue : ∀ m ∈ s.notificationOutbox.queue, m.envelope = some envelope → Tracked deliveries t envelope)
    (inFlight : ∀ i ∈ s.inFlight, (deliveries i).envelope = some envelope → Tracked deliveries t envelope)
    (stays : processedEvents.Stays s.conf.store t.conf.store) (acked : s.acked ⊆ t.acked) : Tracked deliveries t envelope := by
  cases tracked with
  | queued waiting own => exact queue _ waiting own
  | inFlight flying own => exact inFlight _ flying own
  | processed done => exact .processed (stays _ done)
  | dropped dropped =>
    obtain ⟨i, ended, own, again⟩ := dropped
    exact .dropped ⟨i, acked ended, own, again⟩

/-- The database goes on. -/
theorem Safe.running (safe : Safe deliveries s) (stays : processedEvents.Stays s.conf.store t.conf.store)
    (same : t = { s with conf := t.conf }) : Safe deliveries t := by
  rw [same] at stays ⊢
  refine ⟨safe.outbox, safe.notificationOutbox, safe.queued, safe.begun, safe.flying, fun x member => ?_⟩
  rcases safe.tracked x member with back | ⟨envelope, own, issued, tracked⟩
  · exact Or.inl back
  · refine Or.inr ⟨envelope, own, issued, tracked.mono (fun m waiting own => ?_) (fun i flying own => ?_) stays (List.Subset.refl _)⟩
    · exact .queued waiting own
    · exact .inFlight flying own

theorem Safe.backend (safe : Safe deliveries s) {outbox : Relay Payload} (sound : outbox.Sound) :
    Safe deliveries { s with outbox } := by
  refine ⟨sound, safe.notificationOutbox, safe.queued, safe.begun, safe.flying, fun x member => ?_⟩
  rcases safe.tracked x member with back | ⟨envelope, own, issued, tracked⟩
  · exact Or.inl back
  · refine Or.inr ⟨envelope, own, issued, tracked.mono (fun m waiting own => ?_) (fun i flying own => ?_)
      (processedEvents.stays_refl _) (List.Subset.refl _)⟩
    · exact .queued waiting own
    · exact .inFlight flying own

theorem Safe.notifications (safe : Safe deliveries s) {notificationOutbox : Relay NotificationCreatedPayload}
    (sound : notificationOutbox.Sound) (brought : Brought s.notificationOutbox notificationOutbox) :
    Safe deliveries { s with notificationOutbox } where
  outbox := safe.outbox
  notificationOutbox := sound
  queued m member := by
    rcases brought.fresh m member with old | new
    · obtain ⟨envelope, own, issued⟩ := safe.queued m old
      exact ⟨envelope, own, brought.issued _ issued⟩
    · exact new
  begun i small := by
    obtain ⟨envelope, own, issued⟩ := safe.begun i small
    exact ⟨envelope, own, brought.issued _ issued⟩
  flying := safe.flying
  tracked x member := by
    rcases brought.confirmed x member with old | back | ⟨m, waiting, envelope, own, about, issued⟩
    · rcases safe.tracked x old with back | ⟨envelope, own, issued, tracked⟩
      · exact Or.inl (brought.returned back)
      · refine Or.inr ⟨envelope, own, brought.issued _ issued, tracked.mono (fun m waiting own => ?_) (fun i flying own => ?_)
          (processedEvents.stays_refl _) (List.Subset.refl _)⟩
        · exact .queued (brought.queue waiting) own
        · exact .inFlight flying own
    · exact Or.inl back
    · exact Or.inr ⟨envelope, about, issued, .queued waiting own⟩

theorem Safe.setQueue {queue : List Delivery} {inFlight : List Nat} {delivered : Nat} {acked : List (Nat × Settlement)}
    (safe : Safe deliveries s)
    (queued : ∀ m ∈ queue, ∃ envelope, m.envelope = some envelope ∧ Issued s.notificationOutbox.events envelope)
    (begun : ∀ i < delivered, ∃ envelope, (deliveries i).envelope = some envelope ∧ Issued s.notificationOutbox.events envelope)
    (flying : ∀ i ∈ inFlight, i < delivered)
    (tracked : ∀ envelope, Tracked deliveries s envelope → Tracked deliveries { s.setQueue queue with inFlight, delivered, acked } envelope) :
    Safe deliveries { s.setQueue queue with inFlight, delivered, acked } where
  outbox := safe.outbox
  notificationOutbox :=
    ⟨safe.notificationOutbox.unique, safe.notificationOutbox.published, safe.notificationOutbox.held,
      safe.notificationOutbox.ready, safe.notificationOutbox.sent⟩
  queued := queued
  begun := begun
  flying := flying
  tracked x member := by
    rcases safe.tracked x member with back | ⟨envelope, own, issued, before⟩
    · exact Or.inl back
    · exact Or.inr ⟨envelope, own, issued, tracked envelope before⟩

theorem Safe.requeue (safe : Safe deliveries s) (i : Nat) : Safe deliveries (s.requeue deliveries i) := by
  unfold Pipeline.requeue
  split
  · next flying =>
    refine safe.setQueue (fun m member => ?_) safe.begun (fun j member => safe.flying j (List.mem_of_mem_erase member))
      fun envelope tracked => ?_
    · rcases List.mem_append.mp member with old | new
      · exact safe.queued m old
      · obtain rfl := List.mem_singleton.mp new
        exact safe.begun i (safe.flying i flying)
    · refine tracked.mono (fun m waiting own => ?_) (fun j flying own => ?_) (processedEvents.stays_refl _) (List.Subset.refl _)
      · exact .queued (List.mem_append_left _ waiting) own
      · by_cases same : j = i
        · subst same
          exact .queued (List.mem_append_right _ (List.mem_singleton.mpr rfl)) own
        · exact .inFlight ((List.mem_erase_of_ne same).mpr flying) own
  · exact safe

/-- An acknowledgement: what it stands for takes over. -/
theorem Safe.ack (safe : Safe deliveries s) {i : Nat} {settled : Settlement} (acks : settled ≠ .requeued)
    (justified : settled.Justified s.conf.store (deliveries i)) :
    Safe deliveries { s with inFlight := s.inFlight.erase i, acked := s.acked ++ [(i, settled)] } := by
  refine safe.setQueue safe.queued safe.begun (fun j member => safe.flying j (List.mem_of_mem_erase member))
    fun envelope tracked => ?_
  refine tracked.mono (fun m waiting own => ?_) (fun j flying own => ?_) (processedEvents.stays_refl _)
    (List.subset_append_left _ _)
  · exact .queued waiting own
  · by_cases same : j = i
    · subst same
      have processed : Done s.conf.store (deliveries j) → processedEvents.Claimed s.conf.store envelope.eventId := by
        rintro ⟨found, content, claimed⟩
        obtain rfl := Option.some.inj (own.symm.trans content)
        exact claimed
      cases settled with
      | invalid => exact nomatch own.symm.trans justified
      | duplicate => exact .processed (processed justified)
      | projected => exact .processed (processed justified)
      | dropped => exact .dropped ⟨j, List.mem_append_right _ (List.mem_singleton.mpr rfl), own, justified⟩
      | requeued => exact absurd rfl acks
    · exact .inFlight ((List.mem_erase_of_ne same).mpr flying) own

theorem Safe.settle (safe : Safe deliveries s) {i : Nat} {settled : Settlement}
    (justified : settled.Justified s.conf.store (deliveries i)) : Safe deliveries (s.settle deliveries i settled) := by
  cases settled with
  | requeued => exact safe.requeue i
  | invalid => exact safe.ack nofun justified
  | duplicate => exact safe.ack nofun justified
  | projected => exact safe.ack nofun justified
  | dropped => exact safe.ack nofun justified

theorem Safe.deliver (safe : Safe deliveries s) (waiting : deliveries s.delivered ∈ s.notificationOutbox.queue) :
    Safe deliveries
      { s.setQueue (s.notificationOutbox.queue.erase (deliveries s.delivered)) with
        inFlight := s.inFlight ++ [s.delivered]
        delivered := s.delivered + 1 } := by
  refine safe.setQueue (fun m member => safe.queued m (List.mem_of_mem_erase member)) (fun i small => ?_) (fun i member => ?_)
    fun envelope tracked => ?_
  · rcases Nat.lt_succ_iff_lt_or_eq.mp small with old | rfl
    · exact safe.begun i old
    · exact safe.queued _ waiting
  · rcases List.mem_append.mp member with old | new
    · exact Nat.lt_succ_of_lt (safe.flying i old)
    · obtain rfl := List.mem_singleton.mp new
      exact Nat.lt_succ_self _
  · refine tracked.mono (fun m queued own => ?_) (fun i flying own => ?_) (processedEvents.stays_refl _) (List.Subset.refl _)
    · by_cases same : m = deliveries s.delivered
      · subst same
        exact .inFlight (List.mem_append_right _ (List.mem_singleton.mpr rfl)) own
      · exact .queued ((List.mem_erase_of_ne same).mpr queued) own
    · exact .inFlight (List.mem_append_left _ flying) own


theorem requeue_conf (s : Pipeline Payload) (i : Nat) : (s.requeue deliveries i).conf = s.conf := by
  unfold Pipeline.requeue
  split
  · rfl
  · rfl

theorem requeue_delivered (s : Pipeline Payload) (i : Nat) : (s.requeue deliveries i).delivered = s.delivered := by
  unfold Pipeline.requeue
  split
  · rfl
  · rfl

theorem settle_conf (s : Pipeline Payload) (i : Nat) (settled : Settlement) :
    (s.settle deliveries i settled).conf = s.conf ∧ (s.settle deliveries i settled).delivered = s.delivered := by
  cases settled with
  | requeued => exact ⟨requeue_conf s i, requeue_delivered s i⟩
  | _ => exact ⟨rfl, rfl⟩

theorem safe_start : Safe deliveries (.start deliveries : Pipeline Payload) where
  outbox := sound_start
  notificationOutbox := sound_start
  queued _ no := absurd no List.not_mem_nil
  begun _ no := absurd no (Nat.not_lt_zero _)
  flying _ no := absurd no List.not_mem_nil
  tracked _ no := absurd no List.not_mem_nil

section
variable [DecidableEq Payload] {isEnabled : Bool}

theorem act_stirred {m : Move Payload} (next : s.act deliveries isEnabled m = some t) :
    Stirred .transient s.delivered s.conf t.conf ∧ s.delivered ≤ t.delivered := by
  cases m with
  | backend m =>
    obtain ⟨outbox, _, rfl⟩ := Option.map_eq_some_iff.mp next
    exact ⟨.idle rfl, Nat.le_refl _⟩
  | notifications m =>
    obtain ⟨outbox, _, rfl⟩ := Option.map_eq_some_iff.mp next
    exact ⟨.idle rfl, Nat.le_refl _⟩
  | deliver =>
    simp only [Pipeline.act] at next
    split at next
    · cases next
      exact ⟨.idle rfl, Nat.le_succ _⟩
    · cases next
  | advance i =>
    simp only [Pipeline.act] at next
    split at next
    · next small =>
      obtain ⟨c, stepped, rfl⟩ := Option.map_eq_some_iff.mp next
      exact ⟨.advanced i small stepped, Nat.le_refl _⟩
    · cases next
  | abort i =>
    simp only [Pipeline.act] at next
    split at next
    · next running =>
      cases next
      exact ⟨.aborted i running rfl, Nat.le_refl _⟩
    · cases next
  | crash i =>
    simp only [Pipeline.act] at next
    split at next
    · cases next
      exact ⟨.crashed i (requeue_conf _ i), Nat.le_of_eq (by rw [requeue_delivered])⟩
    · cases next
  | settle i =>
    simp only [Pipeline.act] at next
    split at next
    · obtain ⟨settled, _, rfl⟩ := Option.map_eq_some_iff.mp next
      obtain ⟨conf, delivered⟩ : (s.settle deliveries i settled).conf = s.conf ∧
          (s.settle deliveries i settled).delivered = s.delivered := settle_conf s i settled
      exact ⟨.idle conf, Nat.le_of_eq delivered.symm⟩
    · cases next
  | giveBack i =>
    cases next
    exact ⟨.idle (requeue_conf s i), Nat.le_of_eq (requeue_delivered s i).symm⟩

theorem Reached.moves (run : Reached deliveries isEnabled s) :
    Moves (fun _ _ => True) .transient (Pipeline.start deliveries : Pipeline Payload).conf s.conf := by
  induction run with
  | start => exact .refl _
  | step _ next ih => exact (act_stirred next).1.moves ih

theorem standing_start : Standing (⟨fun _ => none, []⟩ : Store (Table Row) Mark) where
  sound := ⟨fun _ _ => List.not_mem_nil, fun _ claimed => absurd rfl claimed⟩
  rows _ _ no := absurd no List.not_mem_nil

theorem Reached.standing (run : Reached deliveries isEnabled s) :
    Standing s.conf.store ∧ ∀ i r, s.conf.thread i = .idle r → Stage (deliveries i) s.conf.store r :=
  (projecting deliveries).run_safe standing_start (fun _ => .start) run.moves

theorem Stage.justified {msg : Delivery} {u : Store (Table Row) Mark} {settled : Settlement}
    (stage : Stage msg u (.done settled)) : settled.Justified u msg := by
  generalize ended : (Req.done settled : Request) = r at stage
  cases stage with
  | start =>
    unfold handleMessage at ended
    split at ended
    · next invalid =>
      cases ended
      exact invalid
    · cases ended
  | project => cases ended
  | settled justified =>
    cases ended
    exact justified

theorem Reached.justified (run : Reached deliveries isEnabled s) {i : Nat} {settled : Settlement}
    (ended : settlement s.conf i = some settled) : settled.Justified s.conf.store (deliveries i) := by
  unfold settlement at ended
  split at ended
  · next found =>
    cases ended
    exact (run.standing.2 i _ found).justified
  · cases ended

theorem Reached.booked (run : Reached deliveries isEnabled s) :
    ∃ entries, Ledger ⟨fun _ => none, []⟩ (fun i log => Projects (deliveries i) log) s.conf entries ∧
      ∀ x ∈ entries, x.1 < s.delivered := by
  induction run with
  | start =>
    refine ⟨[], ⟨fun i => ?_, List.nodup_nil, rfl, fun x no => absurd no List.not_mem_nil⟩, fun x no => absurd no List.not_mem_nil⟩
    exact (once_handleMessage (deliveries i)).mono fun log made => ⟨List.not_mem_nil, made⟩
  | step _ next ih =>
    obtain ⟨entries, ledger, small⟩ := ih
    obtain ⟨stirred, more⟩ := act_stirred next
    obtain ⟨entries', ledger', small'⟩ := ledger.stirred small stirred
    exact ⟨entries', ledger', fun x member => Nat.lt_of_lt_of_le (small' x member) more⟩

theorem Reached.safe (run : Reached deliveries isEnabled s) : Safe deliveries s := by
  induction run with
  | start => exact safe_start
  | @step s t m run next ih =>
    have stays : processedEvents.Stays s.conf.store t.conf.store :=
      (projecting deliveries).run_le standing_start (fun _ => .start) run.moves ((act_stirred next).1.moves (.refl _))
    cases m with
    | backend m =>
      obtain ⟨outbox, acted, rfl⟩ := Option.map_eq_some_iff.mp next
      exact ih.backend (ih.outbox.act acted)
    | notifications m =>
      obtain ⟨notificationOutbox, acted, rfl⟩ := Option.map_eq_some_iff.mp next
      exact ih.notifications (ih.notificationOutbox.act acted) (ih.notificationOutbox.brought acted)
    | deliver =>
      simp only [Pipeline.act] at next
      split at next
      · next waiting =>
        cases next
        exact ih.deliver waiting
      · cases next
    | advance i =>
      simp only [Pipeline.act] at next
      split at next
      · obtain ⟨c, _, rfl⟩ := Option.map_eq_some_iff.mp next
        exact ih.running stays rfl
      · cases next
    | abort i =>
      simp only [Pipeline.act] at next
      split at next
      · cases next
        exact ih.running stays rfl
      · cases next
    | crash i =>
      simp only [Pipeline.act] at next
      split at next
      · cases next
        rw [requeue_conf] at stays
        have down : Safe deliveries { s with conf := (s.conf.release i).become i .down } := ih.running stays rfl
        exact down.requeue i
      · cases next
    | settle i =>
      simp only [Pipeline.act] at next
      split at next
      · obtain ⟨settled, ended, rfl⟩ := Option.map_eq_some_iff.mp next
        exact ih.settle (run.justified ended)
      · cases next
    | giveBack i =>
      cases next
      exact ih.requeue i

/-- The ids of a table tell its rows. -/
theorem Relay.Sound.row_eq {P : Type} {r : Relay P} (sound : r.Sound) {a b : OutboxEvent P} (left : a ∈ r.events)
    (right : b ∈ r.events) (same : a.id = b.id) : a = b :=
  List.inj_on_of_nodup_map sound.unique left right same

theorem Reached.once (run : Reached deliveries isEnabled s) (id : Id) :
    s.conf.store.journal.filter (·.eventId = id) = [] ∧ ¬ processedEvents.Claimed s.conf.store id ∨
      ∃ row ∈ s.notificationOutbox.events, row.id = id ∧ Projected s row := by
  obtain ⟨entries, ledger, small⟩ := run.booked
  obtain ⟨sound, rows⟩ := run.standing.1
  have safe := run.safe
  have journal : s.conf.store.journal = entries.flatMap Prod.snd := ledger.journal
  have wrote : ∀ x ∈ entries, ∃ id, processedEvents.Wrote Mark.eventId id x.2 := fun x member => (ledger.made x member).wrote
  by_cases claimed : processedEvents.Claimed s.conf.store id
  · have once : (entries.flatMap Prod.snd).count (processedEvents.claim id) = 1 := journal ▸ sound.once id claimed
    obtain ⟨x, member, ⟨rest, log, _⟩, found⟩ := Inbox.exists_entry wrote (fun _ => rfl) once
    obtain ⟨envelope, content, made⟩ := ledger.made x member
    obtain ⟨issued, same, row, committed, about⟩ := safe.begun x.1 (small x member)
    obtain rfl := Option.some.inj (content.symm.trans same)
    obtain rfl : envelope.eventId = id := Mark.processedEvent.inj (List.cons.inj (made.symm.trans log)).1
    have all : s.conf.store.journal.filter (·.eventId = envelope.eventId) =
        [.processedEvent envelope.eventId, .projected envelope.eventId envelope.payload] := by
      rw [journal, found, made]
    subst about
    refine Or.inr ⟨row, committed, rfl, all, rows row.id row.payload ?_⟩
    rw [journal]
    refine List.mem_flatMap.mpr ⟨x, member, ?_⟩
    rw [made]
    exact List.mem_cons_of_mem _ (List.mem_singleton.mpr rfl)
  · have absent : processedEvents.claim id ∉ entries.flatMap Prod.snd := journal ▸ sound.free id claimed
    refine Or.inl ⟨?_, claimed⟩
    rw [journal]
    exact Inbox.filter_unclaimed wrote absent

theorem Reached.kept (run : Reached deliveries isEnabled s) {row : OutboxEvent NotificationCreatedPayload}
    (member : row ∈ s.notificationOutbox.events) :
    Kept deliveries s row ∨ Returned s.notificationOutbox row.id ∨ Dropped deliveries s row.envelope := by
  have safe := run.safe
  cases published : row.publishedAt with
  | none => exact Or.inl (.retained published)
  | some at_ =>
    obtain ⟨messageId, confirmed⟩ := safe.notificationOutbox.published row member (published ▸ Option.some_ne_none at_)
    rcases safe.tracked _ confirmed with back | ⟨envelope, about, ⟨other, committed, rfl⟩, tracked⟩
    · exact Or.inr (Or.inl ⟨messageId, back⟩)
    · obtain rfl : other = row := safe.notificationOutbox.row_eq committed member about
      cases tracked with
      | queued waiting own => exact Or.inl (.queued waiting own)
      | inFlight flying own => exact Or.inl (.inFlight flying own)
      | dropped dropped => exact Or.inr (Or.inr dropped)
      | processed done =>
        rcases run.once other.id with ⟨_, unclaimed⟩ | ⟨again, committed', same, once⟩
        · exact absurd done unclaimed
        · obtain rfl := safe.notificationOutbox.row_eq committed' member same
          exact Or.inl (.projected once)

/-- Both relays mark what the broker has confirmed; a notification is projected at most once, and is on its way until
then, unless the broker returned it or the consumer dropped a redelivery of it. -/
theorem events_kept (run : Reached deliveries isEnabled s) :
    (∀ row ∈ s.outbox.events, row.publishedAt ≠ none → Confirmed s.outbox row.id) ∧
      (∀ row ∈ s.notificationOutbox.events, row.publishedAt ≠ none → Confirmed s.notificationOutbox row.id) ∧
      (∀ row ∈ s.notificationOutbox.events, Kept deliveries s row ∨ Returned s.notificationOutbox row.id ∨
        Dropped deliveries s row.envelope) ∧
      ∀ id, s.conf.store.journal.filter (·.eventId = id) = [] ∨
        ∃ row ∈ s.notificationOutbox.events, row.id = id ∧ Projected s row := by
  refine ⟨run.safe.outbox.published, run.safe.notificationOutbox.published, fun row member => run.kept member, fun id => ?_⟩
  rcases run.once id with ⟨nothing, _⟩ | projected
  · exact Or.inl nothing
  · exact Or.inr projected

end
end

def welcome : NotificationCreatedPayload :=
  ⟨11, 3, .orderCreated, some "Đơn hàng mới", some "Bạn vừa nhận được đơn hàng mới.", none, false, 1⟩

def welcomed : OutboxEnvelope NotificationCreatedPayload := ⟨7, .notificationCreated, 1, welcome⟩

/-- The second delivery is flagged. -/
def redeliveries : Nat → Delivery
  | 0 => ⟨some welcomed, false⟩
  | _ => ⟨some welcomed, true⟩

/-- The relay brings the event to the queue. -/
def relayed : List (Move Unit) :=
  [.notifications (.insert 7 .notificationCreated welcome 1), .notifications (.claim 0 []), .notifications (.send 0),
    .notifications (.arrive 0 welcomed true), .notifications (.confirm 0), .notifications (.immediate 0),
    .notifications (.mark 0 5), .deliver]

/-- The first attempt fails, the second goes through. -/
def secondAttempt : List (Move Unit) :=
  relayed ++ [.advance 0, .abort 0, .settle 0, .deliver] ++ List.replicate 13 (.advance 1) ++ [.settle 1]

set_option maxRecDepth 8000 in
/-- The event is projected by its second delivery. -/
theorem second_projected :
    ∃ s : Pipeline Unit, s.acked = [(1, .projected)] ∧ s.conf.store.rows (.notificationRead 11) ≠ none ∧
      (∀ row ∈ s.outbox.events, row.publishedAt ≠ none → Confirmed s.outbox row.id) ∧
      (∀ row ∈ s.notificationOutbox.events, row.publishedAt ≠ none → Confirmed s.notificationOutbox row.id) ∧
      (∀ row ∈ s.notificationOutbox.events, Kept redeliveries s row ∨ Returned s.notificationOutbox row.id ∨
        Dropped redeliveries s row.envelope) ∧
      ∀ id, s.conf.store.journal.filter (·.eventId = id) = [] ∨
        ∃ row ∈ s.notificationOutbox.events, row.id = id ∧ Projected s row := by
  have found : ∃ s ∈ (Pipeline.start redeliveries : Pipeline Unit).play redeliveries true secondAttempt,
      s.acked = [(1, .projected)] ∧ s.conf.store.rows (.notificationRead 11) ≠ none := by
    decide +kernel
  obtain ⟨s, played, acked, stands⟩ := found
  exact ⟨s, acked, stands, events_kept (Reached.play .start played)⟩

/-- Both attempts fail. -/
def bothAttempts : List (Move Unit) := relayed ++ [.advance 0, .abort 0, .settle 0, .deliver, .advance 1, .abort 1, .settle 1]

set_option maxRecDepth 8000 in
/-- The notification is marked published, and is in no queue and not projected. -/
theorem not_events_kept :
    ¬ ∀ s : Pipeline Unit, Reached redeliveries true s →
      (∀ row ∈ s.outbox.events, row.publishedAt ≠ none → Confirmed s.outbox row.id) ∧
        (∀ row ∈ s.notificationOutbox.events, row.publishedAt ≠ none → Confirmed s.notificationOutbox row.id) ∧
        ∀ row ∈ s.notificationOutbox.events, Kept redeliveries s row := by
  intro all
  have found : ∃ s ∈ (Pipeline.start redeliveries : Pipeline Unit).play redeliveries true bothAttempts,
      s.notificationOutbox.events.map (·.publishedAt) = [some 5] ∧ s.notificationOutbox.queue = [] ∧ s.inFlight = [] ∧
        s.conf.store.journal = [] := by
    decide +kernel
  obtain ⟨s, played, marked, empty, idle, silent⟩ := found
  obtain ⟨_, _, kept⟩ := all s (Reached.play .start played)
  cases rows : s.notificationOutbox.events with
  | nil =>
    rw [rows] at marked
    cases marked
  | cons row rest =>
    rw [rows] at marked
    have published : row.publishedAt = some 5 := (List.cons.inj marked).1
    have member : row ∈ s.notificationOutbox.events := rows ▸ List.mem_cons_self
    cases kept row member with
    | retained unpublished => exact nomatch published.symm.trans unpublished
    | queued waiting own => exact absurd (empty ▸ waiting) List.not_mem_nil
    | inFlight flying own => exact absurd (idle ▸ flying) List.not_mem_nil
    | projected once =>
      rw [Projected, silent] at once
      exact nomatch once.1

end Marketplace.Outbox
