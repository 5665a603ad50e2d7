import Marketplace.Chat.Store

/-! The unread messages of a viewer. -/
namespace Marketplace.Chat.ChatStore

def lastRead (s : ChatStore) (conversation viewer : Nat) : Option Nat :=
  (s.participants conversation viewer).bind Participant.lastReadAt

def Later (mark : Option Nat) (m : Message) : Prop := ∀ readAt ∈ mark, readAt < m.createdAt

instance (mark : Option Nat) (m : Message) : Decidable (Later mark m) :=
  inferInstanceAs (Decidable (∀ readAt ∈ mark, readAt < m.createdAt))

/-- What the inbox counts: messages of others, later than the viewer's mark. -/
def unread (s : ChatStore) (conversation viewer : Nat) : List Message :=
  (s.messagesOf conversation).filter fun m =>
    (s.participants conversation viewer).map Participant.id ≠ some m.sender ∧ Later (s.lastRead conversation viewer) m

/-- A mark that was written reads what was committed at its call, and nothing else. -/
structure UnreadRight (s : ChatStore) : Prop where
  others : ∀ conversation viewer, ∀ m ∈ s.messagesOf conversation, m.sentBy ≠ viewer →
    (m ∈ s.unread conversation viewer ↔
      ∀ mark ∈ s.marks, mark.conversation = conversation → mark.user = viewer → m ∉ mark.seen)
  own : ∀ conversation viewer, ∀ m ∈ s.messagesOf conversation, m.sentBy = viewer →
    m ∉ s.unread conversation viewer

/-- No message is committed that began before a mark that stands. A mark that is written leaves unread what was
committed since its call, and keeps read what is. -/
def KeepsTime (s : ChatStore) : Statement → Prop
  | .committing m => ∀ mark ∈ s.marks, mark.conversation = m.conversation → mark.user ≠ m.sentBy →
    Later (s.lastRead m.conversation mark.user) m
  | .markingRead conversation user _ readAt seen => ∀ m ∈ s.messagesOf conversation, m.sentBy ≠ user →
    (Later (s.lastRead conversation user) m → m ∉ seen → readAt < m.createdAt) ∧
    (¬ Later (s.lastRead conversation user) m → m.createdAt ≤ readAt)
  | _ => True

def InTime (s : ChatStore) : Move → Prop
  | .advance request => KeepsTime s (s.requests request)
  | _ => True

instance (s : ChatStore) (statement : Statement) : Decidable (KeepsTime s statement) :=
  match statement with
  | .committing m => inferInstanceAs (Decidable (∀ mark ∈ s.marks, mark.conversation = m.conversation →
    mark.user ≠ m.sentBy → Later (s.lastRead m.conversation mark.user) m))
  | .markingRead conversation user _ readAt seen =>
    inferInstanceAs (Decidable (∀ m ∈ s.messagesOf conversation, m.sentBy ≠ user →
      (Later (s.lastRead conversation user) m → m ∉ seen → readAt < m.createdAt) ∧
      (¬ Later (s.lastRead conversation user) m → m.createdAt ≤ readAt)))
  | .idle | .finding .. | .creating .. | .refinding .. | .asking .. | .checking .. | .looking .. | .adding ..
  | .relooking .. | .appending .. | .beginning _ | .inserting _ | .touching _ | .finished | .failed => .isTrue trivial

instance (s : ChatStore) (m : Move) : Decidable (InTime s m) :=
  match m with
  | .advance request => inferInstanceAs (Decidable (KeepsTime s (s.requests request)))
  | .tick _ | .openWith .. | .read .. | .send .. | .mark .. | .fail _ => .isTrue trivial

/-- Messages that were committed at the time of a mark. -/
def SeenBy (s : ChatStore) (readAt : Nat) (seen : List Message) : Prop :=
  ∀ m ∈ seen, m ∈ s.messages ∧ m.createdAt ≤ readAt

def PurposeTimed (s : ChatStore) : Purpose → Prop
  | .mark readAt seen => SeenBy s readAt seen
  | _ => True

def Timed (s : ChatStore) : Statement → Prop
  | .asking _ _ _ purpose => PurposeTimed s purpose
  | .checking _ _ _ purpose => PurposeTimed s purpose
  | .looking _ _ _ purpose => PurposeTimed s purpose
  | .adding _ _ _ purpose => PurposeTimed s purpose
  | .relooking _ _ _ purpose => PurposeTimed s purpose
  | .markingRead _ _ _ readAt seen => SeenBy s readAt seen
  | .inserting m => m.createdAt ≤ s.clock
  | .touching m => m.createdAt ≤ s.clock
  | .committing m => m.createdAt ≤ s.clock
  | _ => True

structure ReadState (s : ChatStore) : Prop where
  right : ∀ conversation viewer, ∀ m ∈ s.messagesOf conversation, m.sentBy ≠ viewer →
    (Later (s.lastRead conversation viewer) m ↔
      ∀ mark ∈ s.marks, mark.conversation = conversation → mark.user = viewer → m ∉ mark.seen)
  marked : ∀ conversation viewer readAt, s.lastRead conversation viewer = some readAt →
    ∃ mark ∈ s.marks, mark.conversation = conversation ∧ mark.user = viewer
  seen : ∀ mark ∈ s.marks, ∀ m ∈ mark.seen, m ∈ s.messages
  dated : ∀ m ∈ s.messages, m.createdAt ≤ s.clock
  timed : ∀ request, Timed s (s.requests request)

theorem PurposeTimed.grow {s t : ChatStore} {purpose : Purpose} (timed : PurposeTimed s purpose)
    (messages : s.messages ⊆ t.messages) : PurposeTimed t purpose := by
  cases purpose with
  | mark readAt seen => exact fun m mem => ⟨messages (timed m mem).1, (timed m mem).2⟩
  | _ => trivial

theorem Timed.grow {s t : ChatStore} {statement : Statement} (timed : Timed s statement)
    (messages : s.messages ⊆ t.messages) (clock : s.clock ≤ t.clock) : Timed t statement := by
  cases statement with
  | asking => exact PurposeTimed.grow timed messages
  | checking => exact PurposeTimed.grow timed messages
  | looking => exact PurposeTimed.grow timed messages
  | adding => exact PurposeTimed.grow timed messages
  | relooking => exact PurposeTimed.grow timed messages
  | markingRead => exact fun m mem => ⟨messages (timed m mem).1, (timed m mem).2⟩
  | inserting => exact Nat.le_trans timed clock
  | touching => exact Nat.le_trans timed clock
  | committing => exact Nat.le_trans timed clock
  | _ => trivial

theorem seated_timed {s t : ChatStore} (request conversation user participant : Nat) {purpose : Purpose}
    (timed : PurposeTimed t purpose) : Timed t ((s.seated request conversation user participant purpose).requests request) := by
  cases purpose <;> simp only [seated, become_self] <;> trivial

theorem authorized_timed {s t : ChatStore} (request conversation user : Nat) (c : Conversation) {purpose : Purpose}
    (timed : PurposeTimed t purpose) : Timed t ((s.authorized request conversation user c purpose).requests request) := by
  cases purpose <;> simp only [ChatStore.authorized, become_self] <;> trivial

theorem advance_timed {s : ChatStore} {request : Nat} (timed : Timed s (s.requests request)) :
    Timed s ((s.advance request).requests request) := by
  unfold ChatStore.advance
  cases stands : s.requests request <;> rw [stands] at timed <;> dsimp only
  case finding buyer shop body => cases s.direct buyer shop <;> simp only [become_self] <;> trivial
  case creating buyer shop body => cases s.direct buyer shop <;> simp only [become_self] <;> trivial
  case refinding buyer shop body => cases s.direct buyer shop <;> simp only [become_self] <;> trivial
  case asking conversation user viewerShop purpose =>
    cases s.conversations conversation with
    | none => rw [become_self]; trivial
    | some c =>
      dsimp only
      split
      · exact authorized_timed request conversation user c timed
      · rw [become_self]; exact timed
  case checking conversation user viewerShop purpose =>
    cases s.conversations conversation with
    | none => rw [become_self]; trivial
    | some c =>
      cases s.participants conversation user with
      | none => rw [become_self]; trivial
      | some p => exact authorized_timed request conversation user c timed
  case looking conversation user role purpose =>
    cases s.participants conversation user
    · rw [become_self]; exact timed
    · exact seated_timed request conversation user _ timed
  case adding conversation user role purpose =>
    cases s.participants conversation user
    · exact seated_timed request conversation user _ timed
    · rw [become_self]; exact timed
  case relooking conversation user role purpose =>
    cases s.participants conversation user
    · rw [become_self]; trivial
    · exact seated_timed request conversation user _ timed
  case beginning m => rw [become_self]; exact Nat.le_refl _
  case inserting m => rw [become_self]; exact timed
  case touching m =>
    cases s.locks m.conversation
    · rw [become_self]; exact timed
    · rw [stands]; exact timed
  all_goals first | (rw [become_self]; trivial) | (rw [stands]; trivial)

theorem advance_clock (s : ChatStore) (request : Nat) : (s.advance request).clock = s.clock := by
  unfold ChatStore.advance
  cases s.requests request <;> dsimp only <;> try rfl
  case finding buyer shop body => cases s.direct buyer shop <;> rfl
  case creating buyer shop body => cases s.direct buyer shop <;> rfl
  case refinding buyer shop body => cases s.direct buyer shop <;> rfl
  case asking conversation user viewerShop purpose =>
    cases s.conversations conversation with
    | none => rfl
    | some c =>
      dsimp only
      split
      · cases purpose <;> rfl
      · rfl
  case checking conversation user viewerShop purpose =>
    cases s.conversations conversation with
    | none => rfl
    | some c => cases s.participants conversation user <;> cases purpose <;> rfl
  case looking conversation user role purpose =>
    cases s.participants conversation user <;> cases purpose <;> rfl
  case adding conversation user role purpose =>
    cases s.participants conversation user <;> cases purpose <;> rfl
  case relooking conversation user role purpose =>
    cases s.participants conversation user <;> cases purpose <;> rfl
  case touching m => cases s.locks m.conversation <;> rfl

theorem start_clock (s : ChatStore) (request : Nat) (statement : Statement) :
    (s.start request statement).clock = s.clock := by
  unfold ChatStore.start
  split <;> rfl

theorem act_clock (s : ChatStore) (m : Move) : s.clock ≤ (s.act m).clock := by
  cases m with
  | tick now => exact Nat.le_max_left s.clock now
  | openWith request buyer shop viewerShop body =>
    unfold ChatStore.act
    dsimp only
    split <;> exact Nat.le_of_eq (start_clock s request _).symm
  | read request conversation user viewerShop => exact Nat.le_of_eq (start_clock s request _).symm
  | send request conversation user viewerShop body => exact Nat.le_of_eq (start_clock s request _).symm
  | mark request conversation user viewerShop => exact Nat.le_of_eq (start_clock s request _).symm
  | advance request => exact Nat.le_of_eq (advance_clock s request).symm
  | fail request =>
    show s.clock ≤ (s.fail request).clock
    unfold ChatStore.fail
    cases s.requests request <;> exact Nat.le_refl _

theorem start_timed {s : ChatStore} {statement : Statement} (before : ∀ request, Timed s (s.requests request))
    (request : Nat) (timed : Timed s statement) (other : Nat) :
    Timed s ((s.start request statement).requests other) := by
  rcases start_requests s request statement other with same | ⟨_, started⟩
  · rw [same]
    exact before other
  · rw [started]
    exact timed

theorem act_timed {s : ChatStore} (state : ReadState s) (m : Move) (other : Nat) :
    Timed s ((s.act m).requests other) := by
  cases m with
  | tick now => exact state.timed other
  | openWith request buyer shop viewerShop body =>
    unfold ChatStore.act
    dsimp only
    split <;> (apply start_timed state.timed; trivial)
  | read request conversation user viewerShop =>
    apply start_timed state.timed
    trivial
  | send request conversation user viewerShop body =>
    apply start_timed state.timed
    trivial
  | mark request conversation user viewerShop =>
    apply start_timed state.timed
    intro n mem
    have sent := (List.mem_filter.mp mem).1
    exact ⟨sent, state.dated n sent⟩
  | advance request =>
    by_cases eq : other = request
    · rw [eq]
      exact advance_timed (state.timed request)
    · rw [show (s.act (.advance request)).requests other = s.requests other from advance_other s eq]
      exact state.timed other
  | fail request =>
    rcases fail_requests s request other with same | failed
    · rw [show (s.act (.fail request)).requests other = s.requests other from same]
      exact state.timed other
    · rw [show (s.act (.fail request)).requests other = .failed from failed]
      trivial

theorem lastRead_added {s : ChatStore} {conversation user : Nat} (role : Role)
    (absent : s.participants conversation user = none) (c u : Nat) :
    ((s.addParticipant conversation user role).participants c u).bind Participant.lastReadAt = s.lastRead c u := by
  unfold lastRead
  show (if c = conversation ∧ u = user then _ else s.participants c u).bind Participant.lastReadAt = _
  split
  · rename_i same
    rw [same.1, same.2, absent]
    rfl
  · rfl

theorem lastRead_marked {s : ChatStore} {conversation user participant : Nat} (sound : Sound s)
    (seat : Seat s conversation user participant) (readAt c u : Nat) :
    ((s.markRead participant readAt).participants c u).bind Participant.lastReadAt =
      if c = conversation ∧ u = user then some readAt else s.lastRead c u := by
  obtain ⟨p, row, id⟩ := seat
  unfold lastRead
  show ((s.participants c u).map _).bind Participant.lastReadAt = _
  split
  · rename_i same
    rw [same.1, same.2, row, Option.map_some, if_pos id]
    rfl
  · rename_i other
    cases found : s.participants c u with
    | none => rfl
    | some q =>
      have ne : q.id ≠ participant := by
        intro same
        exact other (sound.distinct c u q conversation user p found row (same.trans id.symm))
      rw [Option.map_some, if_neg ne]

/-- A move that neither commits a message nor writes a mark. -/
theorem ReadState.still {s t : ChatStore} (state : ReadState s) (messages : t.messages = s.messages)
    (marks : t.marks = s.marks) (lastRead : ∀ c u, t.lastRead c u = s.lastRead c u) (clock : s.clock ≤ t.clock)
    (timed : ∀ request, Timed s (t.requests request)) : ReadState t where
  right conversation viewer m mem other := by
    rw [messagesOf_congr messages] at mem
    rw [lastRead, marks]
    exact state.right conversation viewer m mem other
  marked conversation viewer readAt stands := by
    rw [lastRead] at stands
    rw [marks]
    exact state.marked conversation viewer readAt stands
  seen mark mem m read := by
    rw [marks] at mem
    rw [messages]
    exact state.seen mark mem m read
  dated m mem := by
    rw [messages] at mem
    exact Nat.le_trans (state.dated m mem) clock
  timed request := (timed request).grow (by rw [messages]; exact List.Subset.refl _) clock

theorem ReadState.committed {s t : ChatStore} {message : Message} (state : ReadState s)
    (messages : t.messages = s.messages ++ [message]) (participants : t.participants = s.participants)
    (marks : t.marks = s.marks) (clock : s.clock ≤ t.clock) (dated : message.createdAt ≤ s.clock)
    (timed : ∀ request, Timed s (t.requests request))
    (inTime : ∀ mark ∈ s.marks, mark.conversation = message.conversation → mark.user ≠ message.sentBy →
      Later (s.lastRead message.conversation mark.user) message) : ReadState t := by
  have lastRead : ∀ c u, t.lastRead c u = s.lastRead c u := by
    intro c u
    unfold ChatStore.lastRead
    rw [participants]
  have sub : s.messages ⊆ t.messages := by rw [messages]; exact List.subset_append_left ..
  refine ⟨?_, ?_, ?_, ?_, fun request => (timed request).grow sub clock⟩
  · intro conversation viewer m mem other
    rw [lastRead, marks]
    obtain ⟨sent, at_⟩ := List.mem_filter.mp mem
    rw [messages] at sent
    rcases List.mem_append.mp sent with old | new
    · exact state.right conversation viewer m (List.mem_filter.mpr ⟨old, at_⟩) other
    · obtain rfl := List.mem_singleton.mp new
      obtain rfl := of_decide_eq_true at_
      have later : Later (s.lastRead m.conversation viewer) m := by
        intro readAt stands
        obtain ⟨mark, written, same, rfl⟩ := state.marked _ viewer readAt stands
        exact inTime mark written same (fun own => other own.symm) readAt stands
      refine ⟨fun _ mark written same viewed read => ?_, fun _ => later⟩
      -- a message read by a mark was committed at its call, and then the mark in place would be past it
      have known : m ∈ s.messagesOf m.conversation := List.mem_filter.mpr ⟨state.seen mark written m read, at_⟩
      exact (state.right _ viewer m known other).mp later mark written same viewed read
  · intro conversation viewer readAt stands
    rw [lastRead] at stands
    rw [marks]
    exact state.marked conversation viewer readAt stands
  · intro mark mem m read
    rw [marks] at mem
    exact sub (state.seen mark mem m read)
  · intro m mem
    rw [messages] at mem
    rcases List.mem_append.mp mem with old | new
    · exact Nat.le_trans (state.dated m old) clock
    · rw [List.mem_singleton.mp new]
      exact Nat.le_trans dated clock

theorem ReadState.markedRead {s t : ChatStore} {conversation user readAt : Nat} {seen : List Message}
    (state : ReadState s) (messages : t.messages = s.messages)
    (marks : t.marks = s.marks ++ [⟨conversation, user, readAt, seen⟩])
    (lastRead : ∀ c u, t.lastRead c u = if c = conversation ∧ u = user then some readAt else s.lastRead c u)
    (clock : s.clock ≤ t.clock) (timed : ∀ request, Timed s (t.requests request)) (seenBy : SeenBy s readAt seen)
    (inTime : ∀ m ∈ s.messagesOf conversation, m.sentBy ≠ user →
      (Later (s.lastRead conversation user) m → m ∉ seen → readAt < m.createdAt) ∧
      (¬ Later (s.lastRead conversation user) m → m.createdAt ≤ readAt)) : ReadState t := by
  refine ⟨?_, ?_, ?_, ?_, fun request => (timed request).grow (by rw [messages]; exact List.Subset.refl _) clock⟩
  · intro c u m mem other
    rw [messagesOf_congr messages] at mem
    have before := state.right c u m mem other
    rw [lastRead, marks]
    split
    · rename_i same
      obtain ⟨rfl, rfl⟩ := same
      obtain ⟨fresh, stale⟩ := inTime m mem other
      constructor
      · intro later mark written sameConversation sameUser read
        have later : readAt < m.createdAt := later readAt rfl
        rcases List.mem_append.mp written with old | new
        · by_cases unread : Later (s.lastRead c u) m
          · exact before.mp unread mark old sameConversation sameUser read
          · exact absurd later (Nat.not_lt_of_le (stale unread))
        · rw [List.mem_singleton.mp new] at read
          exact absurd later (Nat.not_lt_of_le (seenBy m read).2)
      · intro unseen r stands
        cases stands
        have unread := before.mpr fun mark old => unseen mark (List.mem_append_left _ old)
        exact fresh unread (unseen ⟨c, u, readAt, seen⟩ (List.mem_append_right _ List.mem_cons_self) rfl rfl)
    · rename_i different
      rw [before]
      constructor
      · intro unseen mark written sameConversation sameUser
        rcases List.mem_append.mp written with old | new
        · exact unseen mark old sameConversation sameUser
        · rw [List.mem_singleton.mp new] at sameConversation sameUser
          exact absurd ⟨sameConversation.symm, sameUser.symm⟩ different
      · intro unseen mark old
        exact unseen mark (List.mem_append_left _ old)
  · intro c u r stands
    rw [lastRead] at stands
    rw [marks]
    split at stands
    · rename_i same
      exact ⟨_, List.mem_append_right _ List.mem_cons_self, same.1.symm, same.2.symm⟩
    · obtain ⟨mark, written, same⟩ := state.marked c u r stands
      exact ⟨mark, List.mem_append_left _ written, same⟩
  · intro mark written m read
    rw [marks] at written
    rw [messages]
    rcases List.mem_append.mp written with old | new
    · exact state.seen mark old m read
    · rw [List.mem_singleton.mp new] at read
      exact (seenBy m read).1
  · intro m mem
    rw [messages] at mem
    exact Nat.le_trans (state.dated m mem) clock

theorem ReadState.act {s : ChatStore} {m : Move} (sound : Sound s) (state : ReadState s) (inTime : InTime s m) :
    ReadState (s.act m) := by
  have clock := act_clock s m
  have timed := act_timed state m
  have same : ∀ {t : ChatStore}, t.participants = s.participants → ∀ c u, t.lastRead c u = s.lastRead c u := by
    intro t eq c u
    unfold lastRead
    rw [eq]
  rcases act_writes s m with ⟨_, participants, messages, marks⟩ | ⟨_, _, _, participants, messages, marks⟩ |
    ⟨_, _, role, absent, participants, _, messages, marks⟩ |
    ⟨request, message, rfl, stands, _, messages, participants, marks⟩ |
    ⟨request, conversation, user, participant, readAt, seen, rfl, stands, participants, marks, _, messages⟩
  · exact state.still messages marks (same participants) clock timed
  · exact state.still messages marks (same participants) clock timed
  · apply state.still messages marks _ clock timed
    intro c u
    rw [lastRead, participants]
    exact lastRead_added role absent c u
  · have dated := state.timed request
    rw [stands] at dated
    have inTime : KeepsTime s (s.requests request) := inTime
    rw [stands] at inTime
    exact state.committed messages participants marks clock dated timed inTime
  · have seenBy := state.timed request
    have seat := sound.fits request
    rw [stands] at seenBy seat
    have inTime : KeepsTime s (s.requests request) := inTime
    rw [stands] at inTime
    apply state.markedRead messages marks _ clock timed seenBy inTime
    intro c u
    rw [lastRead, participants]
    exact lastRead_marked sound seat readAt c u

theorem readState_reached {s : ChatStore} (reached : Reached InTime s) : ReadState s := by
  have both : Sound s ∧ ReadState s := by
    refine reached.invariant (P := fun s => Sound s ∧ ReadState s)
      ⟨sound_start, nofun, nofun, nofun, nofun, fun _ => trivial⟩ ?_
    intro s m before inTime
    exact ⟨before.1.act m, before.2.act before.1 inTime⟩
  exact both.2

theorem sender_other {s : ChatStore} (sound : Sound s) {conversation viewer : Nat} {m : Message}
    (mem : m ∈ s.messagesOf conversation) (other : m.sentBy ≠ viewer) :
    (s.participants conversation viewer).map Participant.id ≠ some m.sender := by
  obtain ⟨sent, at_⟩ := List.mem_filter.mp mem
  obtain rfl := of_decide_eq_true at_
  obtain ⟨p, row, id⟩ := sound.sent m sent
  intro same
  obtain ⟨q, found, sameId⟩ := Option.map_eq_some_iff.mp same
  exact other (sound.distinct _ _ p _ _ q row found (id.trans sameId.symm)).2

theorem sender_own {s : ChatStore} (sound : Sound s) {conversation : Nat} {m : Message}
    (mem : m ∈ s.messagesOf conversation) :
    (s.participants conversation m.sentBy).map Participant.id = some m.sender := by
  obtain ⟨sent, at_⟩ := List.mem_filter.mp mem
  obtain rfl := of_decide_eq_true at_
  obtain ⟨p, row, id⟩ := sound.sent m sent
  rw [row, Option.map_some, id]

/-- As long as messages and marks are written in the order of their times. -/
theorem unread_right {s : ChatStore} (reached : Reached InTime s) : UnreadRight s where
  others conversation viewer m mem other := by
    have state := readState_reached reached
    rw [← state.right conversation viewer m mem other]
    unfold unread
    rw [List.mem_filter]
    have sender := sender_other (sound_reached reached) mem other
    constructor
    · intro counted
      exact (of_decide_eq_true counted.2).2
    · intro later
      exact ⟨mem, decide_eq_true ⟨sender, later⟩⟩
  own conversation viewer m mem own := by
    intro counted
    have apart := (of_decide_eq_true (List.mem_filter.mp counted).2).1
    rw [← own] at apart
    exact apart (sender_own (sound_reached reached) mem)

/-- Buyer 1 writes to shop 5, begins a second message, and the owner 2 has read the first. -/
def opened : List Move :=
  [.openWith 0 1 5 none "a", .advance 0, .advance 0, .advance 0, .advance 0, .advance 0, .advance 0, .advance 0,
    .advance 0, .advance 0]

def readByOwner : List Move := [.mark 2 0 2 (some 5), .advance 2, .advance 2, .advance 2, .advance 2]

def secondDrawn : List Move := [.send 1 0 1 none "b", .advance 1, .advance 1, .advance 1, .advance 1]

/-- The second message begins after the owner has read the first. -/
def readThenWritten : List Move :=
  opened ++ [.tick 1] ++ readByOwner ++ secondDrawn ++ [.tick 2, .advance 1, .advance 1, .advance 1, .advance 1]

theorem second_unread :
    ((Machine.run act {} readThenWritten).unread 0 2).map Message.body = ["b"] ∧
    UnreadRight (Machine.run act {} readThenWritten) :=
  ⟨by decide, unread_right (Machine.Reached.start.run (by decide))⟩

/-- The second message begins before the owner reads, and commits after it. -/
def readWhileWriting : List Move :=
  opened ++ secondDrawn ++ [.tick 1, .advance 1, .advance 1, .tick 2] ++ readByOwner ++ [.advance 1, .advance 1]

theorem not_unread_right : ¬ ∀ s : ChatStore, Reached (fun _ _ => True) s → UnreadRight s := by
  intro all
  have reached : Reached (fun _ _ => True) (Machine.run act {} readWhileWriting) :=
    Machine.Reached.start.run (Machine.canRun_free readWhileWriting)
  have counted := ((all _ reached).others 0 2
    { id := 3, conversation := 0, sender := 1, sentBy := 1, body := "b", createdAt := 1 } (by decide) (by decide)).mpr
    (by decide)
  exact absurd counted (by decide)

end Marketplace.Chat.ChatStore
