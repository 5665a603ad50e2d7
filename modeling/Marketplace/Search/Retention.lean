import Marketplace.Search.Consumer

/-! Retention goes unseen as long as no delivery is older than the window. -/
namespace Marketplace.Search
open ReadCommitted ReadCommitted.Tx LastWriter

/-- The row keeps the event from being applied: its processed row, or a tombstone at least as new. -/
def Needs (e : ProductEvent) : Key × Time → Prop
  | (.processedEvent id, _) => e.eventId = id
  | (.tombstone p, deletedAt) => ∃ id doc, e = .upsert id doc ∧ doc.productId = p ∧ doc.updatedAt ≤ deletedAt
  | _ => False

/-- No row that retention has deleted was needed by the delivery. -/
def Safe (s : Service) : Move → Prop
  | .handle m _ => ∀ r ∈ s.collected, ¬ Needs m.event r
  | _ => True

/-- A delivery comes within the window of each earlier transaction of its event, and of each earlier delete of its
product that is at least as new. -/
def Timely (s : Service) : Move → Prop
  | .handle m _ => ∀ e t, (e, t) ∈ s.handled →
      (e.eventId = m.event.eventId → s.now ≤ t + retention) ∧
      ∀ id p deletedAt, e = .delete id p deletedAt → Needs m.event (.tombstone p, deletedAt) → s.now ≤ deletedAt + retention
  | _ => True

/-- The index as it would be without retention. -/
def Service.full (s : Service) : Db := deliverAll emptyIndex s.handled

def Expired (now t : Time) : Prop := t + retention < now

/-- A row stands for a transaction that has been handled. -/
def Stamped (handled : List (ProductEvent × Time)) : Key × Time → Prop
  | (.processedEvent id, t) => ∃ e, (e, t) ∈ handled ∧ e.eventId = id
  | (.tombstone p, deletedAt) => ∃ id t, (.delete id p deletedAt, t) ∈ handled
  | _ => False

structure Tracked (s : Service) : Prop where
  products : ∀ p, Forgot (Expired s.now) (register s.db p) (register s.full p)
  marks : ∀ id t, s.processedEvents id = some t → s.full (.processedEvent id) = some t
  marksKept : ∀ id t, s.full (.processedEvent id) = some t → s.processedEvents id = some t ∨ Expired s.now t
  marked : ∀ id t, s.full (.processedEvent id) = some t → Stamped s.handled (.processedEvent id, t)
  standing : ∀ p t, s.tombstones p = some t → Stamped s.handled (.tombstone p, t)
  buried : ∀ p t, s.full (.tombstone p) = some t → Stamped s.handled (.tombstone p, t)
  collected : ∀ r ∈ s.collected, Expired s.now r.2 ∧ Stamped s.handled r

theorem tracked_start : Tracked .start where
  products _ := Forgot.refl _
  marks _ t no := absurd no (Option.not_mem_none t)
  marksKept _ t no := absurd no (Option.not_mem_none t)
  marked _ t no := absurd no (Option.not_mem_none t)
  standing _ t no := absurd no (Option.not_mem_none t)
  buried _ t no := absurd no (Option.not_mem_none t)
  collected _ no := absurd no List.not_mem_nil

section
variable {s : Service} {m : Message} {h : Handling} {handled : List (ProductEvent × Time)} {r : Key × Time}

theorem Stamped.more (stamped : Stamped handled r) (x : ProductEvent × Time) : Stamped (handled ++ [x]) r := by
  obtain ⟨key, t⟩ := r
  cases key with
  | processedEvent id =>
    obtain ⟨e, early, same⟩ := stamped
    exact ⟨e, List.mem_append_left _ early, same⟩
  | tombstone p =>
    obtain ⟨id, at_, early⟩ := stamped
    exact ⟨id, at_, List.mem_append_left _ early⟩
  | productLock p => exact stamped
  | document p => exact stamped

/-- A tombstone after an event stood before it, or is of the event. -/
theorem effect_tombstone {d : Db} {e : ProductEvent} {p : String} {t : Time} (there : e.effect d (.tombstone p) = some t) :
    d (.tombstone p) = some t ∨ ∃ id, e = .delete id p t := by
  by_cases own : p = e.productId
  · subst own
    have after : ((register d e.productId).apply ProductDoc.updatedAt e.op).tombstone = some t := by
      rw [← register_effect]
      exact there
    cases e with
    | upsert id doc =>
      left
      change ((register d doc.productId).upsert ProductDoc.updatedAt doc).tombstone = some t at after
      unfold Register.upsert at after
      split at after
      · exact after
      · exact absurd after (Option.not_mem_none t)
    | delete id productId occurredAt =>
      change some ((d (.tombstone productId)).elim occurredAt (max occurredAt)) = some t at after
      obtain rfl := Option.some.inj after
      cases found : d (.tombstone productId) with
      | none => exact Or.inr ⟨id, rfl⟩
      | some old =>
        rcases max_choice occurredAt old with first | second
        · exact Or.inr ⟨id, congrArg (ProductEvent.delete id productId) first.symm⟩
        · exact Or.inl (found.trans (congrArg some second.symm))
  · left
    rw [← there]
    exact (effect_frame (by grind)).symm

theorem full_write (e : ProductEvent) : (s.write e).full = deliver s.full e s.now := by
  show deliverAll emptyIndex (s.handled ++ [(e, s.now)]) = deliver (deliverAll emptyIndex s.handled) e s.now
  unfold deliverAll
  rw [List.foldl_append]
  rfl

/-- A delete of the event is in the record once the event is. -/
theorem Stamped.own {e : ProductEvent} {now : Time} {id p : String} {t : Time} (same : e = .delete id p t) :
    Stamped (handled ++ [(e, now)]) (.tombstone p, t) :=
  ⟨id, now, List.mem_append_right _ (List.mem_singleton.mpr (same ▸ rfl))⟩

theorem Timely.current (timely : Timely s (.handle m h)) {r : Key × Time} (stamped : Stamped s.handled r)
    (needs : Needs m.event r) :
    ¬ Expired s.now r.2 := by
  obtain ⟨key, t⟩ := r
  cases key with
  | processedEvent id =>
    obtain ⟨e, early, same⟩ := stamped
    exact Nat.not_lt.mpr ((timely e t early).1 (same.trans needs.symm))
  | tombstone p =>
    obtain ⟨id, at_, early⟩ := stamped
    exact Nat.not_lt.mpr ((timely _ at_ early).2 id p t rfl needs)
  | productLock p => exact needs.elim
  | document p => exact needs.elim

/-- A first transaction of an event, with and without retention. -/
theorem Tracked.fresh (tracked : Tracked s) (timely : Timely s (.handle m h))
    (free : s.full (.processedEvent m.event.eventId) = none) : Tracked (s.write m.event) := by
  have own : s.db (.processedEvent m.event.eventId) = none := by
    cases found : s.db (.processedEvent m.event.eventId) with
    | none => rfl
    | some t => exact absurd ((tracked.marks _ t found).symm.trans free) (Option.some_ne_none t)
  have db : (s.write m.event).db = m.event.effect (Function.update s.db (.processedEvent m.event.eventId) (some s.now)) :=
    deliver_fresh own
  have full : (s.write m.event).full = m.event.effect (Function.update s.full (.processedEvent m.event.eventId) (some s.now)) :=
    (full_write m.event).trans (deliver_fresh free)
  have marks : ∀ (d : Db) id, id ≠ m.event.eventId →
      m.event.effect (Function.update d (.processedEvent m.event.eventId) (some s.now)) (.processedEvent id) =
        d (.processedEvent id) := by
    intro d id other
    rw [effect_frame (by grind), Function.update_of_ne (by simpa using other)]
  have mark : ∀ d : Db, m.event.effect (Function.update d (.processedEvent m.event.eventId) (some s.now))
      (.processedEvent m.event.eventId) = some s.now := by
    intro d
    rw [effect_frame (by grind), Function.update_self]
  refine ⟨fun p => ?_, fun id t there => ?_, fun id t there => ?_, fun id t there => ?_, fun p t there => ?_,
    fun p t there => ?_, fun r there => ?_⟩
  · show Forgot (Expired s.now) (register (s.write m.event).db p) (register (s.write m.event).full p)
    rw [db, full]
    by_cases own : p = m.event.productId
    · subst own
      rw [register_effect, register_effect, register_mark, register_mark]
      have before := tracked.products m.event.productId
      cases kind : m.event with
      | delete id p t =>
        rw [kind] at before
        exact before.delete t
      | upsert id doc =>
        rw [kind] at before
        refine before.upsert fun u stands older => ?_
        exact timely.current (tracked.buried _ u stands) ⟨id, doc, kind, rfl, older⟩
    · rw [register_effect_other own, register_effect_other own, register_mark, register_mark]
      exact tracked.products p
  · rw [full]
    by_cases same : id = m.event.eventId
    · subst same
      rw [Service.processedEvents, db, mark] at there
      rw [mark]
      exact there
    · rw [Service.processedEvents, db, marks _ id same] at there
      rw [marks _ id same]
      exact tracked.marks id t there
  · rw [Service.processedEvents, db]
    rw [full] at there
    by_cases same : id = m.event.eventId
    · subst same
      rw [mark] at there
      rw [mark]
      exact Or.inl there
    · rw [marks _ id same] at there
      rw [marks _ id same]
      exact tracked.marksKept id t there
  · rw [full] at there
    by_cases same : id = m.event.eventId
    · subst same
      rw [mark] at there
      obtain rfl := Option.some.inj there
      exact ⟨m.event, List.mem_append_right _ (List.mem_singleton.mpr rfl), rfl⟩
    · rw [marks _ id same] at there
      exact (tracked.marked id t there).more _
  · rw [Service.tombstones, db] at there
    rcases effect_tombstone there with before | ⟨id, same⟩
    · exact (tracked.standing p t before).more _
    · exact Stamped.own same
  · rw [full] at there
    rcases effect_tombstone there with before | ⟨id, same⟩
    · exact (tracked.buried p t before).more _
    · exact Stamped.own same
  · exact (tracked.collected r there).imp_right fun stamped => stamped.more _

theorem Tracked.write (tracked : Tracked s) (timely : Timely s (.handle m h)) : Tracked (s.write m.event) := by
  cases found : s.full (.processedEvent m.event.eventId) with
  | none => exact tracked.fresh timely found
  | some t =>
    have current := timely.current (tracked.marked _ t found) rfl
    have own : s.db (.processedEvent m.event.eventId) = some t := (tracked.marksKept _ t found).resolve_right current
    have db : (s.write m.event).db = s.db := deliver_duplicate (own ▸ Option.some_ne_none t)
    have full : (s.write m.event).full = s.full :=
      (full_write m.event).trans (deliver_duplicate (found ▸ Option.some_ne_none t))
    refine ⟨fun p => ?_, fun id u there => ?_, fun id u there => ?_, fun id u there => ?_, fun p u there => ?_,
      fun p u there => ?_, fun r there => ?_⟩
    · rw [db, full]
      exact tracked.products p
    · rw [Service.processedEvents, db] at there
      rw [full]
      exact tracked.marks id u there
    · rw [full] at there
      rw [Service.processedEvents, db]
      exact tracked.marksKept id u there
    · rw [full] at there
      exact (tracked.marked id u there).more _
    · rw [Service.tombstones, db] at there
      exact (tracked.standing p u there).more _
    · rw [full] at there
      exact (tracked.buried p u there).more _
    · exact (tracked.collected r there).imp_right fun stamped => stamped.more _

/-- The queues are not part of it. -/
theorem Tracked.queues (tracked : Tracked s) (main retry : List Message) :
    Tracked { s with main, retry } :=
  ⟨tracked.products, tracked.marks, tracked.marksKept, tracked.marked, tracked.standing, tracked.buried, tracked.collected⟩

theorem Tracked.processResult (tracked : Tracked s) : Tracked (processResult s m h) := by
  unfold Search.processResult Service.ack
  split_ifs <;> exact tracked.queues _ _

theorem Tracked.deleteTombstones {chosen : List String} (tracked : Tracked s)
    (oldest : Oldest s.tombstones (s.now - retention) retentionDeleteLimit chosen) : Tracked (s.deleteTombstones chosen) := by
  have old : ∀ p ∈ chosen, ∀ t ∈ s.tombstones p, Expired s.now t := by
    intro p member t stands
    obtain ⟨u, same, early⟩ := oldest.expired p member
    obtain rfl := Option.some.inj (same.symm.trans stands)
    exact Nat.add_lt_of_lt_sub early
  refine ⟨fun p => ?_, tracked.marks, tracked.marksKept, tracked.marked, fun p t there => ?_, tracked.buried, fun r there => ?_⟩
  · show Forgot _ ⟨if p ∈ chosen then none else s.db (.tombstone p), s.db (.document p)⟩ _
    split
    · exact (tracked.products p).forget (old p ‹_›)
    · exact tracked.products p
  · change (if p ∈ chosen then none else s.db (.tombstone p)) = some t at there
    split at there
    · exact absurd there (Option.not_mem_none t)
    · exact tracked.standing p t there
  · rcases List.mem_append.mp there with before | now
    · exact tracked.collected r before
    · obtain ⟨p, member, row⟩ := List.mem_filterMap.mp now
      obtain ⟨t, stands, rfl⟩ := Option.map_eq_some_iff.mp row
      exact ⟨old p member t stands, tracked.standing p t stands⟩

theorem Tracked.deleteProcessedEvents {chosen : List String} (tracked : Tracked s)
    (oldest : Oldest s.processedEvents (s.now - retention) retentionDeleteLimit chosen) :
    Tracked (s.deleteProcessedEvents chosen) := by
  have old : ∀ id ∈ chosen, ∀ t ∈ s.processedEvents id, Expired s.now t := by
    intro id member t stands
    obtain ⟨u, same, early⟩ := oldest.expired id member
    obtain rfl := Option.some.inj (same.symm.trans stands)
    exact Nat.add_lt_of_lt_sub early
  refine ⟨tracked.products, fun id t there => ?_, fun id t there => ?_, tracked.marked, tracked.standing, tracked.buried,
    fun r there => ?_⟩
  · change (if id ∈ chosen then none else s.db (.processedEvent id)) = some t at there
    split at there
    · exact absurd there (Option.not_mem_none t)
    · exact tracked.marks id t there
  · show (if id ∈ chosen then none else s.db (.processedEvent id)) = some t ∨ _
    have before := tracked.marksKept id t there
    split
    · rcases before with stands | expired
      · exact Or.inr (old id ‹_› t stands)
      · exact Or.inr expired
    · exact before
  · rcases List.mem_append.mp there with before | now
    · exact tracked.collected r before
    · obtain ⟨id, member, row⟩ := List.mem_filterMap.mp now
      obtain ⟨t, stands, rfl⟩ := Option.map_eq_some_iff.mp row
      exact ⟨old id member t stands, tracked.marked id t (tracked.marks id t stands)⟩

theorem Tracked.wait {later : Time} (tracked : Tracked s) (forward : s.now ≤ later) : Tracked { s with now := later } := by
  have more : ∀ t, Expired s.now t → Expired later t := fun t old => Nat.lt_of_lt_of_le old forward
  refine ⟨fun p => (tracked.products p).mono more, tracked.marks, fun id t there => ?_, tracked.marked, tracked.standing,
    tracked.buried, fun r there => ?_⟩
  · exact (tracked.marksKept id t there).imp_right (more t)
  · exact (tracked.collected r there).imp_left (more r.2)

theorem Tracked.step {s' : Service} {move : Move} (tracked : Tracked s) (step : Step s move s') (timely : Timely s move) :
    Tracked s' := by
  cases step with
  | wait forward => exact tracked.wait forward
  | publish e => exact tracked.queues _ _
  | @handle m h queued answered =>
    show Tracked (Search.processResult (if h.committed then s.write m.event else s) m h)
    apply Tracked.processResult
    split
    · exact tracked.write timely
    · exact tracked
  | expire queued old => exact tracked.queues _ _
  | retried queued old => exact tracked.queues _ _
  | deleteExpiredTombstones oldest => exact tracked.deleteTombstones oldest
  | deleteExpiredProcessedEvents oldest => exact tracked.deleteProcessedEvents oldest

theorem tracked_reached (run : Reached Timely s) : Tracked s := by
  induction run with
  | start => exact tracked_start
  | step _ met step ih => exact ih.step step met

end

/-- In a run of timely deliveries no delivery needs a row that retention has deleted, and the documents are those of
the deliveries alone. -/
theorem retention_unseen (s : Service) (run : Reached Timely s) :
    (∀ move s', Step s move s' → Timely s move → Safe s move) ∧ ∀ p, s.db (.document p) = s.full (.document p) := by
  have tracked := tracked_reached run
  refine ⟨fun move s' _ timely => ?_, fun p => (tracked.products p).value⟩
  cases move with
  | handle m h =>
    intro r there needs
    obtain ⟨expired, stamped⟩ := tracked.collected r there
    exact timely.current stamped needs expired
  | _ => trivial

/-- The acknowledgement of the first delivery is lost. -/
def lampTwice : Service :=
  let m : Message := ⟨lampListed, 0, 0⟩
  handleMessage (handleMessage { Service.start with main := [m] } m ⟨true, false, false, false⟩) m ⟨true, false, false, true⟩

theorem retention_unseen_twice : lampTwice.db (.document "p1") = some lamp ∧
    (∀ move s', Step lampTwice move s' → Timely lampTwice move → Safe lampTwice move) ∧
      ∀ p, lampTwice.db (.document p) = lampTwice.full (.document p) := by
  have r : Reached Timely .start := .start
  have r := r.step (m := .publish lampListed) trivial (.publish lampListed)
  have r := r.step (m := .handle ⟨lampListed, 0, 0⟩ ⟨true, false, false, false⟩)
    (fun e t no => absurd no List.not_mem_nil) (.handle (by decide +kernel) (by decide))
  have r := r.step (m := .handle ⟨lampListed, 0, 0⟩ ⟨true, false, false, true⟩)
    (fun e t _ => ⟨fun _ => Nat.zero_le _, fun _ _ _ _ _ => Nat.zero_le _⟩) (.handle (by decide +kernel) (by decide))
  exact ⟨by decide +kernel, retention_unseen lampTwice r⟩

section
/-- The lamp is deleted while its first event waits for the second retry, and with it the tombstone. -/
theorem lamp_reappears : ∃ s move s', Reached (fun _ _ => True) s ∧ Step s move s' ∧ ¬ Safe s move ∧
    s'.db (.document "p1") = some lamp ∧ s'.full (.document "p1") = none := by
  let day : Time := 24 * 60 * 60 * 1000
  let lost : Handling := ⟨false, true, true, true⟩
  let done : Handling := ⟨true, false, false, true⟩
  have r := @Reached.start fun _ _ => True
  have r := r.step trivial (.wait (show 0 ≤ 5 by decide))
  have r := r.step trivial (.publish lampListed)
  have r := r.step trivial (.wait (show 5 ≤ 7 by decide))
  have r := r.step trivial (.publish lampRemoved)
  have r := r.step trivial (.wait (show 7 ≤ 29 * day by decide))
  have r := r.step trivial (.handle (m := ⟨lampListed, 0, 5⟩) (h := lost) (by decide +kernel) (by decide))
  have r := r.step trivial (.handle (m := ⟨lampRemoved, 0, 7⟩) (h := done) (by decide +kernel) (by decide))
  have r := r.step trivial (.wait (show 29 * day ≤ 29 * day + retryTTL by decide))
  have r := r.step trivial (.retried (m := ⟨lampListed, 1, 29 * day⟩) (by decide +kernel) (by decide +kernel))
  have r := r.step trivial (.wait (show 29 * day + retryTTL ≤ 58 * day by decide))
  have r := r.step trivial (.handle (m := ⟨lampListed, 1, 29 * day + retryTTL⟩) (h := lost) (by decide +kernel) (by decide))
  have r := r.step trivial (.wait (show 58 * day ≤ 58 * day + retryTTL by decide))
  have r := r.step trivial (.retried (m := ⟨lampListed, 2, 58 * day⟩) (by decide +kernel) (by decide +kernel))
  have r := r.step trivial (.wait (show 58 * day + retryTTL ≤ 62 * day by decide))
  have oldest : Oldest (fun p => deliver emptyIndex lampRemoved (29 * day) (.tombstone p)) (62 * day - retention)
      retentionDeleteLimit ["p1"] := by
    refine ⟨by decide, fun k chosen => ?_, fun k other t there => ?_⟩
    · obtain rfl := List.mem_singleton.mp chosen
      exact ⟨7, by decide +kernel, by decide⟩
    · have away : k ≠ "p1" := fun same => other (List.mem_singleton.mpr same)
      have nothing : emptyIndex (.tombstone k) = some t := by
        rw [← there, deliver_fresh rfl, effect_frame]
        · rfl
        · rintro p rfl
          exact ⟨by simpa [lampRemoved, ProductEvent.productId] using away, nofun⟩
      exact absurd nothing (Option.not_mem_none t)
  have r := r.step trivial (.deleteExpiredTombstones oldest)
  refine ⟨_, _, _, r, .handle (m := ⟨lampListed, 2, 58 * day + retryTTL⟩) (h := done) (by decide +kernel) (by decide), ?_, ?_, ?_⟩
  · intro safe
    exact safe (.tombstone "p1", 7) (by decide +kernel) ⟨"e1", lamp, rfl, rfl, by decide⟩
  · decide +kernel
  · decide +kernel

theorem not_retention_unseen : ¬ ∀ s, Reached (fun _ _ => True) s →
    (∀ move s', Step s move s' → Safe s move) ∧ ∀ p, s.db (.document p) = s.full (.document p) := by
  intro claim
  obtain ⟨s, move, s', run, step, unsafe_, _⟩ := lamp_reappears
  exact unsafe_ ((claim s run).1 move s' step)
end

end Marketplace.Search
