import Marketplace.Notifications.ProcessedOnce
import Marketplace.ReadCommitted.Posting

/-! Which mails the consumer hands out, and when the events they tell of are processed. -/
namespace Marketplace.Notifications
open ReadCommitted ReadCommitted.Tx

def Written.IsMail : Written → Prop
  | .mail _ => True
  | _ => False

/-- One mail at most. -/
def Single (written : List Written) : Prop := written.Pairwise fun x y => ¬ (x.IsMail ∧ y.IsMail)

def Handled.Ensures (P : List Written → Prop) : Handled → Prop
  | .ok written => P written
  | .error _ => True

section
variable {P : List Written → Prop} {written : List Written}

theorem ensures_bind {α : Type} {x : Except HandlerError α} {f : α → Handled} (rest : ∀ a, (f a).Ensures P) :
    Handled.Ensures P (x >>= f) := by
  cases x with
  | ok a => exact rest a
  | error e => trivial

theorem single_of_none (none_ : ∀ w ∈ written, ¬ w.IsMail) : Single written := by
  rw [Single, List.pairwise_iff_forall_sublist]
  intro x y pair both
  exact none_ x (pair.subset List.mem_cons_self) both.1

theorem create_none (dto : CreateNotificationDto) : ∀ w ∈ create dto, ¬ w.IsMail := by
  intro w member
  rcases List.mem_cons.mp member with rfl | last
  · exact fun no => no
  · obtain rfl := List.mem_singleton.mp last
    exact fun no => no

theorem createForUsers_none (userIds : List Id) (dto : Id → CreateNotificationDto) :
    ∀ w ∈ createForUsers userIds dto, ¬ w.IsMail := by
  intro w member
  rcases List.mem_append.mp member with first | second
  · obtain ⟨user, _, rfl⟩ := List.mem_map.mp first
    exact fun no => no
  · obtain ⟨user, _, rfl⟩ := List.mem_map.mp second
    exact fun no => no

theorem append_none {more : List Written} (first : ∀ w ∈ written, ¬ w.IsMail) (second : ∀ w ∈ more, ¬ w.IsMail) :
    ∀ w ∈ written ++ more, ¬ w.IsMail := by
  intro w member
  rcases List.mem_append.mp member with early | late
  · exact first w early
  · exact second w late

theorem single_mail (none_ : ∀ w ∈ written, ¬ w.IsMail) (m : Mail) : Single (written ++ [.mail m]) := by
  rw [Single, List.pairwise_append]
  exact ⟨single_of_none none_, List.pairwise_singleton _ _, fun x member y _ both => none_ x member both.1⟩

theorem single_create (dto : CreateNotificationDto) : Single (create dto) := single_of_none (create_none dto)

theorem single_nil : Single [] := List.Pairwise.nil

end

section
variable {toLocaleString : Money → String}

theorem single_orderCreated (payload : OrderCreatedPayload) :
    (handleOrderCreated toLocaleString payload).Ensures Single := by
  refine ensures_bind fun orderId => ensures_bind fun orderNumber => ensures_bind fun shops => ensures_bind fun userId =>
    ensures_bind fun totalAmount => ?_
  refine single_of_none (append_none (create_none _) fun w member => ?_)
  obtain ⟨shop, _, found⟩ := List.mem_flatMap.mp member
  cases seller : shop.sellerId with
  | none =>
    rw [seller] at found
    exact absurd found List.not_mem_nil
  | some sellerId =>
    rw [seller] at found
    exact create_none _ w found

theorem single_orderCancelled (payload : OrderCancelledPayload) : (handleOrderCancelled payload).Ensures Single := by
  refine ensures_bind fun orderId => ensures_bind fun orderNumber => ensures_bind fun subOrderId =>
    ensures_bind fun userId => ensures_bind fun _ => ?_
  cases payload.sellerId with
  | none => exact single_create _
  | some sellerId => exact single_of_none (append_none (create_none _) (create_none _))

theorem single_payoutStatusChanged (payload : PayoutStatusChangedPayload) :
    (handlePayoutStatusChanged toLocaleString payload).Ensures Single := by
  refine ensures_bind fun payoutId => ensures_bind fun sellerId => ensures_bind fun status => ensures_bind fun amount => ?_
  exact single_mail (create_none _) _

theorem single_returnStatusChanged (payload : ReturnStatusChangedPayload) :
    (handleReturnStatusChanged payload).Ensures Single := by
  refine ensures_bind fun returnId => ensures_bind fun subOrderId => ensures_bind fun orderNumber =>
    ensures_bind fun customerId => ensures_bind fun status => ?_
  cases status with
  | approved => exact single_create _
  | rejected => exact single_create _
  | received => exact single_create _
  | requested => trivial
  | cancelled => trivial

theorem single_productModerated (payload : ProductModeratedPayload) :
    (handleProductModerated payload).Ensures Single := by
  refine ensures_bind fun productId => ensures_bind fun productName => ensures_bind fun _ => ensures_bind fun action => ?_
  cases payload.sellerId with
  | none => exact single_nil
  | some sellerId =>
    dsimp only
    split
    · exact single_create _
    · exact single_mail (create_none _) _

theorem dispatch_single (event : Event) : (dispatch toLocaleString event).Ensures Single := by
  cases event with
  | orderCreated payload => exact single_orderCreated payload
  | orderCancelled payload => exact single_orderCancelled payload
  | orderStatusUpdated payload =>
    exact ensures_bind fun _ => ensures_bind fun _ => ensures_bind fun _ => ensures_bind fun _ => ensures_bind fun _ =>
      single_create _
  | reviewCreated payload =>
    refine ensures_bind fun _ => ensures_bind fun _ => ensures_bind fun _ => ensures_bind fun _ => ?_
    cases payload.sellerId with
    | none => exact single_nil
    | some sellerId => exact single_create _
  | reviewReplied payload =>
    exact ensures_bind fun _ => ensures_bind fun _ => ensures_bind fun _ => ensures_bind fun _ => single_create _
  | payoutCreated payload =>
    exact ensures_bind fun _ => ensures_bind fun _ => ensures_bind fun _ => ensures_bind fun _ => ensures_bind fun _ =>
      single_of_none (createForUsers_none _ _)
  | payoutStatusChanged payload => exact single_payoutStatusChanged payload
  | shopRegistered payload =>
    exact ensures_bind fun _ => ensures_bind fun _ => ensures_bind fun _ => single_of_none (createForUsers_none _ _)
  | returnRequested payload =>
    refine ensures_bind fun _ => ensures_bind fun _ => ensures_bind fun _ => ensures_bind fun _ => ?_
    cases payload.sellerId with
    | none => exact single_nil
    | some sellerId => exact single_create _
  | returnStatusChanged payload => exact single_returnStatusChanged payload
  | productModerated payload => exact single_productModerated payload
  | other eventType => trivial

end

def Mark.IsMail : Mark → Prop
  | .written _ (.mail _) => True
  | _ => False

instance : DecidablePred Mark.IsMail
  | .written _ (.mail _) => isTrue trivial
  | .written _ (.notification _) => isFalse id
  | .written _ (.outbox _) => isFalse id
  | .processedEvent _ => isFalse id

theorem Mark.IsMail.exists_mail {e : Mark} (mail : e.IsMail) : ∃ id m, e = .written id (.mail m) :=
  match e, mail with
  | .written id (.mail m), _ => ⟨id, m, rfl⟩

theorem written_isMail {id : Id} {w : Written} : (Mark.written id w).IsMail ↔ w.IsMail := by
  cases w with
  | notification row => exact Iff.rfl
  | outbox payload => exact Iff.rfl
  | mail m => exact Iff.rfl

section
variable {toLocaleString : Money → String}

theorem seals_runDispatch (envelope : OutboxEnvelope) {log : List Mark} (none_ : ∀ e ∈ log, ¬ e.IsMail) :
    (runDispatch toLocaleString envelope).Seals Mark.IsMail log := by
  have single : (dispatch toLocaleString envelope.event).Ensures Single := dispatch_single envelope.event
  unfold runDispatch
  split
  · next written dispatched =>
    rw [dispatched] at single
    apply seals_notes
    rw [List.pairwise_append]
    refine ⟨List.Pairwise.imp_of_mem (R := fun _ _ => True) (fun early _ _ both => none_ _ early both.1) ?_, ?_, ?_⟩
    · exact List.pairwise_of_forall fun _ _ => trivial
    · rw [List.pairwise_map]
      exact List.Pairwise.imp (fun apart both => apart ⟨written_isMail.mp both.1, written_isMail.mp both.2⟩) single
    · exact fun e early _ _ both => none_ e early both.1
  · exact none_

theorem seals_processMessage (msg : Message) : (processMessage toLocaleString msg).Seals Mark.IsMail := by
  have nothing : ∀ e ∈ ([] : List Mark), ¬ e.IsMail := fun e no => absurd no List.not_mem_nil
  unfold processMessage
  split
  · trivial
  · next envelope _ =>
    refine ⟨⟨nothing, fun _ => trivial⟩, fun alreadyProcessed => ?_, fun e => trivial⟩
    show Req.Seals Mark.IsMail (if alreadyProcessed then _ else _)
    split
    · trivial
    · refine ⟨?_, fun _ => ⟨trivial, fun _ => trivial, fun _ => trivial⟩, fun e => trivial⟩
      apply seals_bind nothing
      · exact within_insert _ _ _ trivial
      · intro _ more none_
        refine ⟨fun act => act.elim, seals_runDispatch envelope fun e member => ?_⟩
        rcases List.mem_append.mp member with early | last
        · exact none_ e early
        · obtain rfl := List.mem_singleton.mp last
          exact id

end

/-- Where a transaction has handed out a mail, it is not rolled back. -/
def MailsCommit (s : Service) : Move → Prop
  | .abort i => ∀ e ∈ (s.conf.thread i).log, ¬ e.IsMail
  | .crash i => ∀ e ∈ (s.conf.thread i).log, ¬ e.IsMail
  | _ => True

instance (s : Service) (m : Move) : Decidable (MailsCommit s m) := by
  cases m
  all_goals
    unfold MailsCommit
    infer_instance

instance decidableObeys (deliveries : Nat → Message) (deadLetter : Headers → Headers) (guard : Service → Move → Prop)
    [∀ s m, Decidable (guard s m)] : ∀ (moves : List Move) (s : Service), Decidable (s.Obeys deliveries deadLetter guard moves)
  | [], _ => isTrue trivial
  | m :: rest, s =>
    have := decidableObeys deliveries deadLetter guard rest
    inferInstanceAs (Decidable (guard s m ∧ ∀ t ∈ s.act deliveries deadLetter m, t.Obeys deliveries deadLetter guard rest))

/-- A mail is handed out with the commit of its event, or before one that nothing stands in the way of, and there is one
an event. -/
structure Posted (s : Service) : Prop where
  told : ∀ x ∈ s.mailed, .written x.2.1 (.mail x.2.2) ∈ s.conf.store.journal ∨
    .written x.2.1 (.mail x.2.2) ∈ (s.conf.thread x.1).log
  willCommit : ∀ i, ∀ e ∈ (s.conf.thread i).log, e.IsMail →
    ∃ c, Moves (fun _ _ => True) .transient s.conf c ∧ (∀ j, j ≠ i → c.thread j = s.conf.thread j) ∧ e ∈ c.store.journal
  once : s.mailed.Pairwise fun x y => x.2.1 ≠ y.2.1

section
variable {toLocaleString : Money → String} {deliveries : Nat → Message} {deadLetter : Headers → Headers}
  {guard : Service → Move → Prop} {s t : Service} {c d : Conf (Table Row) Mark Err Settlement}

/-- What the deliveries make of the database. -/
abbrev Running (toLocaleString : Money → String) (deliveries : Nat → Message) (c : Conf (Table Row) Mark Err Settlement) : Prop :=
  Moves (fun _ _ => True) .transient (Service.start deliveries toLocaleString).conf c

theorem Running.sealed (run : Running toLocaleString deliveries c) (i : Nat) : (c.thread i).Seals Mark.IsMail := by
  have sealed : ∀ j, ((Service.start deliveries toLocaleString).conf.thread j).Seals Mark.IsMail := fun j =>
    seals_processMessage (deliveries j)
  exact seals_moves sealed run i

theorem Running.ledger (run : Running toLocaleString deliveries c) :
    ∃ entries, Ledger ⟨fun _ => none, []⟩ (fun i log => Dispatched toLocaleString (deliveries i) log) c entries :=
  exists_ledger (fun i => once_processMessage toLocaleString (deliveries i)) run

theorem Running.count_le (run : Running toLocaleString deliveries c) (id : Id) :
    c.store.journal.count (.processedEvent id) ≤ 1 :=
  ((processing toLocaleString deliveries).run_safe sound_start (fun _ => .start) run).1.count_le id

theorem Dispatched.claims {msg : Message} {log : List Mark} (made : Dispatched toLocaleString msg log) {id : Id} {w : Written}
    (member : .written id w ∈ log) : .processedEvent id ∈ log := by
  obtain ⟨envelope, written, _, _, rfl⟩ := made
  rcases List.mem_cons.mp member with same | later
  · cases same
  · obtain ⟨w', _, same⟩ := List.mem_map.mp later
    cases same
    exact List.mem_cons_self

/-- What is written under an event is written with its claim. -/
theorem Running.claims (run : Running toLocaleString deliveries c) {id : Id} {w : Written}
    (member : .written id w ∈ c.store.journal) : .processedEvent id ∈ c.store.journal := by
  obtain ⟨entries, ledger⟩ := run.ledger
  have journal : c.store.journal = entries.flatMap Prod.snd := ledger.journal
  rw [journal] at member ⊢
  obtain ⟨x, entry, within⟩ := List.mem_flatMap.mp member
  exact List.mem_flatMap.mpr ⟨x, entry, (ledger.made x entry).claims within⟩

/-- A transaction that has handed out a mail commits with the claim of the event. -/
theorem Running.commits (run : Running toLocaleString deliveries c) {i : Nat} {id : Id} {m : Mail}
    (member : .written id (.mail m) ∈ (c.thread i).log) :
    ∃ d all, Moves (fun _ _ => True) .transient c d ∧ (∀ j, j ≠ i → d.thread j = c.thread j) ∧
      d.store.journal = c.store.journal ++ all ∧ .written id (.mail m) ∈ all ∧ .processedEvent id ∈ all := by
  obtain ⟨entries, ledger⟩ := run.ledger
  have sealed := run.sealed i
  have once := ledger.threads i
  generalize found : c.thread i = thread at member sealed once
  cases thread with
  | idle r => exact absurd member List.not_mem_nil
  | down => exact absurd member List.not_mem_nil
  | active body ok err mine log =>
    obtain ⟨d, a, all, moves, others, journal, kind, grown⟩ := exists_commit found sealed.1 once.1 (e := .written id (.mail m)) trivial member
    refine ⟨d, all, moves, others, journal, grown member, ?_⟩
    rcases kind with ⟨rfl, _⟩ | ⟨made, _⟩
    · exact absurd (grown member) List.not_mem_nil
    · exact made.2.claims (grown member)

/-- An event whose mail is handed out is neither processed yet nor mailed by another delivery. -/
theorem Running.alone (run : Running toLocaleString deliveries c) {i : Nat} {id : Id} {m : Mail}
    (member : .written id (.mail m) ∈ (c.thread i).log) :
    .processedEvent id ∉ c.store.journal ∧ ∀ j, j ≠ i → ∀ m', .written id (.mail m') ∉ (c.thread j).log := by
  obtain ⟨d, all, moves, others, journal, _, claim⟩ := run.commits member
  have after : Running toLocaleString deliveries d := run.trans moves
  have once : 1 ≤ all.count (.processedEvent id) := List.one_le_count_iff.mpr claim
  refine ⟨fun claimed => ?_, fun j other m' second => ?_⟩
  · have before : 1 ≤ c.store.journal.count (.processedEvent id) := List.one_le_count_iff.mpr claimed
    have most := after.count_le id
    rw [journal, List.count_append] at most
    omega
  · rw [← others j other] at second
    obtain ⟨u, all', moves', _, journal', _, claim'⟩ := after.commits second
    have again : 1 ≤ all'.count (.processedEvent id) := List.one_le_count_iff.mpr claim'
    have most := Running.count_le (after.trans moves') id
    rw [journal', journal, List.count_append, List.count_append] at most
    omega

theorem requeue_mailed (s : Service) (i : Nat) : (s.requeue deliveries i).mailed = s.mailed := by
  unfold Service.requeue
  split
  · rfl
  · rfl

theorem copy_mailed (s : Service) (i : Nat) (settled : Settlement) : (s.copy deliveries i settled).mailed = s.mailed := by
  unfold Service.copy
  split
  · rfl
  · rfl
  · rfl

theorem Running.willCommit (run : Running toLocaleString deliveries c) {i : Nat} {e : Mark} (member : e ∈ (c.thread i).log)
    (mail : e.IsMail) :
    ∃ d, Moves (fun _ _ => True) .transient c d ∧ (∀ j, j ≠ i → d.thread j = c.thread j) ∧ e ∈ d.store.journal := by
  obtain ⟨id, m, rfl⟩ := mail.exists_mail
  obtain ⟨d, all, moves, others, journal, own, _⟩ := run.commits member
  refine ⟨d, moves, others, ?_⟩
  rw [journal]
  exact List.mem_append_right _ own

theorem Posted.same (posted : Posted s) (conf : t.conf = s.conf) (mailed : t.mailed = s.mailed) : Posted t where
  told := by
    rw [mailed, conf]
    exact posted.told
  willCommit := by
    rw [conf]
    exact posted.willCommit
  once := by
    rw [mailed]
    exact posted.once

/-- A thread that has not handed out a mail goes down or gives up. -/
theorem Posted.drop (posted : Posted s) (run : Running toLocaleString deliveries t.conf) {i : Nat} {r : Thread (Table Row) Mark Err Settlement}
    (silent : ∀ e ∈ (s.conf.thread i).log, ¬ e.IsMail) (conf : t.conf = (s.conf.release i).become i r)
    (mailed : t.mailed = s.mailed) : Posted t where
  told x member := by
    rw [mailed] at member
    rw [conf]
    rcases posted.told x member with done | open_
    · exact Or.inl done
    · refine Or.inr ?_
      have other : x.1 ≠ i := by
        intro same
        rw [same] at open_
        exact silent _ open_ trivial
      show _ ∈ ((Function.update s.conf.thread i r) x.1).log
      rw [Function.update_of_ne other]
      exact open_
  willCommit i e member mail := run.willCommit member mail
  once := by
    rw [mailed]
    exact posted.once

theorem handing_eq {c : Conf (Table Row) Mark Err Settlement} {i : Nat} {x : Nat × Id × Mail} (hands : handing c i = some x) :
    ∃ (α : Type) (next : Action α) (ok : α → Request) (err : Err → Request) (mine : Db) (log : List Mark),
      x.1 = i ∧ c.thread i = .active (.emit (.written x.2.1 (.mail x.2.2)) next) ok err mine log := by
  unfold handing at hands
  split at hands
  · next found =>
    cases hands
    exact ⟨_, _, _, _, _, _, rfl, found⟩
  · cases hands

/-- The next mail is of an event of which no mail was handed out. -/
theorem Posted.fresh (posted : Posted s) (before : Running toLocaleString deliveries s.conf) {i : Nat} {x : Nat × Id × Mail}
    (hands : handing s.conf i = some x) (next : s.conf.advance i = some d) :
    .written x.2.1 (.mail x.2.2) ∈ (d.thread i).log ∧ ∀ y ∈ s.mailed, y.2.1 ≠ x.2.1 := by
  obtain ⟨α, body, ok, err, mine, log, _, found⟩ := handing_eq hands
  have sealed := before.sealed i
  rw [found] at sealed
  have after : Running toLocaleString deliveries d := .tail before (.step i next fun _ _ => trivial)
  have stepped : d = s.conf.become i (.active body ok err mine (log ++ [.written x.2.1 (.mail x.2.2)])) := by
    simp only [Conf.advance, found, Option.some.injEq] at next
    exact next.symm
  have own : .written x.2.1 (.mail x.2.2) ∈ (d.thread i).log := by
    rw [stepped]
    show _ ∈ ((Function.update s.conf.thread i _) i).log
    rw [Function.update_self]
    exact List.mem_append_right _ (List.mem_singleton.mpr rfl)
  obtain ⟨unprocessed, apart⟩ := after.alone own
  have store : d.store = s.conf.store := by rw [stepped]; rfl
  refine ⟨own, fun y member same => ?_⟩
  rcases posted.told y member with done | open_
  · rw [same] at done
    exact unprocessed (store ▸ before.claims done)
  · by_cases mine : y.1 = i
    · -- the transaction has handed out a mail before
      rw [mine, found] at open_
      exact sealed.1.1 trivial _ open_ trivial
    · rw [same] at open_
      refine apart y.1 mine y.2.2 ?_
      rw [stepped]
      show _ ∈ ((Function.update s.conf.thread i _) y.1).log
      rw [Function.update_of_ne mine]
      exact open_

theorem Posted.advance (posted : Posted s) (before : Running toLocaleString deliveries s.conf) {i : Nat}
    (next : s.conf.advance i = some t.conf) (mailed : t.mailed = s.mailed ++ (handing s.conf i).toList) : Posted t where
  told x member := by
    rw [mailed] at member
    rcases List.mem_append.mp member with early | last
    · rcases posted.told x early with done | open_
      · exact Or.inl ((advanced next).1.journal done)
      · exact (acting_advance before.sealed next (e := .written x.2.1 (.mail x.2.2)) trivial open_).symm
    · have hands : handing s.conf i = some x := Option.mem_toList.mp last
      obtain ⟨_, _, _, _, _, _, rfl, _⟩ := handing_eq hands
      exact Or.inr (posted.fresh before hands next).1
  willCommit i e member mail := by
    have after : Running toLocaleString deliveries t.conf := .tail before (.step _ next fun _ _ => trivial)
    exact after.willCommit member mail
  once := by
    rw [mailed, List.pairwise_append]
    refine ⟨posted.once, ?_, fun y early x last => ?_⟩
    · cases handing s.conf i with
      | none => exact List.Pairwise.nil
      | some x => exact List.pairwise_singleton _ x
    · exact (posted.fresh before (Option.mem_toList.mp last) next).2 y early

/-- Mails go out with their events and once each, in every run in which the transactions that have handed out a mail
commit. -/
theorem mails_posted (run : Reached deliveries deadLetter toLocaleString MailsCommit s) : Posted s := by
  induction run with
  | start =>
    exact ⟨fun x no => absurd no List.not_mem_nil, fun i e no => absurd no List.not_mem_nil, List.Pairwise.nil⟩
  | @step s t m run met next ih =>
    have before : Running toLocaleString deliveries s.conf := run.moves
    have after : Running toLocaleString deliveries t.conf := (act_ran next).moves run.moves
    cases m with
    | publish content =>
      cases next
      exact ih.same rfl rfl
    | deliver =>
      simp only [Service.act] at next
      split at next
      · cases next
        exact ih.same rfl rfl
      · cases next
    | advance i =>
      simp only [Service.act] at next
      split at next
      · obtain ⟨c, stepped, rfl⟩ := Option.map_eq_some_iff.mp next
        exact ih.advance before stepped rfl
      · cases next
    | abort i =>
      simp only [Service.act] at next
      split at next
      · cases next
        exact ih.drop after met rfl rfl
      · cases next
    | crash i =>
      simp only [Service.act] at next
      split at next
      · cases next
        exact ih.drop after met (requeue_conf _ i) (requeue_mailed _ i)
      · cases next
    | settle i =>
      simp only [Service.act] at next
      split at next
      · obtain ⟨settled, _, rfl⟩ := Option.map_eq_some_iff.mp next
        exact ih.same (copy_conf s i settled) (copy_mailed s i settled)
      · cases next
    | unheard i =>
      simp only [Service.act] at next
      split at next
      · obtain ⟨settled, _, rfl⟩ := Option.map_eq_some_iff.mp next
        exact ih.same ((requeue_conf _ i).trans (copy_conf s i settled)) ((requeue_mailed _ i).trans (copy_mailed s i settled))
      · cases next
    | giveBack i =>
      cases next
      exact ih.same (requeue_conf s i) (requeue_mailed s i)
    | expire m =>
      simp only [Service.act] at next
      split at next
      · cases next
        exact ih.same rfl rfl
      · cases next

end

set_option maxRecDepth 8000 in
/-- The first transaction is rolled back before its mail. -/
theorem retried_posted :
    ∃ s : Service, s.mailed = [(1, 7, .productModerated "shop@example.com" "shop" "Teapot" 1 none)] ∧
      s.acked = [(0, .copied .retry), (1, .processed)] ∧ Posted s := by
  let start : Service := .start takenDownAgain fun _ => ""
  have obeys : start.Obeys takenDownAgain countDeath MailsCommit retried := by decide +kernel
  have found : ∃ s ∈ start.play takenDownAgain countDeath retried,
      s.mailed = [(1, 7, .productModerated "shop@example.com" "shop" "Teapot" 1 none)] ∧
        s.acked = [(0, .copied .retry), (1, .processed)] := by
    decide +kernel
  obtain ⟨s, played, mailed, acked⟩ := found
  exact ⟨s, mailed, acked, mails_posted (Reached.play .start obeys played)⟩

/-- The transaction is rolled back at its commit, after the mail, and the retry goes through. -/
def rolledBack : List Move :=
  [.publish (some takenDown), .deliver] ++ List.replicate 11 (.advance 0) ++ [.abort 0, .settle 0] ++
    [.expire (takenDownAgain 0), .deliver] ++ List.replicate 14 (.advance 1) ++ [.settle 1]

set_option maxRecDepth 4000 in
/-- The mail goes out twice. -/
theorem not_mails_posted :
    ¬ ∀ s, Reached takenDownAgain countDeath (fun _ => "") (fun _ _ => True) s → Posted s := by
  intro all
  let start : Service := .start takenDownAgain fun _ => ""
  have found : ∃ s ∈ start.play takenDownAgain countDeath rolledBack, (s.mailed.map fun x => x.2.1) = [7, 7] := by
    decide +kernel
  obtain ⟨s, played, twice⟩ := found
  have posted := all s (Reached.play .start (start.obeys_any rolledBack) played)
  have once : (s.mailed.map fun x => x.2.1).Nodup := List.pairwise_map.mpr posted.once
  rw [twice] at once
  exact absurd once (by decide)

end Marketplace.Notifications
