import Marketplace.Machine
import Mathlib.Logic.Function.Basic

/-! The direct conversations of the chat service: who takes part, what was sent and how far each has read. -/
namespace Marketplace.Chat

inductive Role where
  | user | seller
deriving DecidableEq

/-- A direct conversation. Its owner is the buyer. -/
structure Conversation where
  owner : Nat
  shop : Nat
  lastMessageAt : Option Nat := none
  lastMessagePreview : Option String := none
deriving DecidableEq

structure Participant where
  id : Nat
  role : Role
  lastReadAt : Option Nat := none
deriving DecidableEq

/-- The row does not say who sent it, only the participant it was sent as. -/
structure Message where
  id : Nat
  conversation : Nat
  sender : Nat
  sentBy : Nat
  body : String
  createdAt : Nat := 0
deriving DecidableEq

/-- What a request wants of a conversation. A read mark carries the messages committed at its call. -/
inductive Purpose where
  | read
  | send (body : String)
  | mark (readAt : Nat) (seen : List Message)
deriving DecidableEq

/-- The statement that a request is about to run. -/
inductive Statement where
  | idle
  | finding (buyer shop : Nat) (body : String)
  | creating (buyer shop : Nat) (body : String)
  | refinding (buyer shop : Nat) (body : String)
  | asking (conversation user : Nat) (viewerShop : Option Nat) (purpose : Purpose)
  | checking (conversation user : Nat) (viewerShop : Option Nat) (purpose : Purpose)
  | looking (conversation user : Nat) (role : Role) (purpose : Purpose)
  | adding (conversation user : Nat) (role : Role) (purpose : Purpose)
  | relooking (conversation user : Nat) (role : Role) (purpose : Purpose)
  | appending (conversation user participant : Nat) (body : String)
  | beginning (message : Message)
  | inserting (message : Message)
  | touching (message : Message)
  | committing (message : Message)
  | markingRead (conversation user participant readAt : Nat) (seen : List Message)
  | finished
  | failed
deriving DecidableEq

/-- Whether a user was let into a conversation that exists, and the shop that the shop service reported. -/
structure Access where
  conversation : Nat
  user : Nat
  viewerShop : Option Nat
  allowed : Bool
deriving DecidableEq

/-- A read mark that was written. -/
structure ReadMark where
  conversation : Nat
  user : Nat
  readAt : Nat
  seen : List Message
deriving DecidableEq

/-- The committed rows, the lock on a conversation that `TouchConversation` takes, and the requests. -/
structure ChatStore where
  clock : Nat := 0
  nextId : Nat := 0
  direct : Nat → Nat → Option Nat := fun _ _ => none
  conversations : Nat → Option Conversation := fun _ => none
  participants : Nat → Nat → Option Participant := fun _ _ => none
  messages : List Message := []
  locks : Nat → Option Nat := fun _ => none
  requests : Nat → Statement := fun _ => .idle
  accesses : List Access := []
  marks : List ReadMark := []

def previewRuneLimit : Nat := 120

def truncateRunes (s : String) (limit : Nat) : String :=
  if s.toList.length ≤ limit then s else String.ofList (s.toList.take limit)

namespace ChatStore

def become (s : ChatStore) (request : Nat) (statement : Statement) : ChatStore :=
  { s with requests := Function.update s.requests request statement }

/-- `CreateConversation` of a buyer and a shop that have none. -/
def createConversation (s : ChatStore) (buyer shop : Nat) : ChatStore :=
  { s with
    nextId := s.nextId + 1
    direct := fun b h => if b = buyer ∧ h = shop then some s.nextId else s.direct b h
    conversations := Function.update s.conversations s.nextId (some { owner := buyer, shop }) }

/-- `AddParticipant` of someone who is not in the conversation. -/
def addParticipant (s : ChatStore) (conversation user : Nat) (role : Role) : ChatStore :=
  { s with
    nextId := s.nextId + 1
    participants := fun c u =>
      if c = conversation ∧ u = user then some { id := s.nextId, role } else s.participants c u }

/-- The commit of `AppendMessage`: the message and the last message of its conversation. -/
def commitMessage (s : ChatStore) (m : Message) : ChatStore :=
  { s with
    messages := s.messages ++ [m]
    conversations := Function.update s.conversations m.conversation
      ((s.conversations m.conversation).map fun c =>
        { c with lastMessageAt := some m.createdAt, lastMessagePreview := some (truncateRunes m.body previewRuneLimit) })
    locks := Function.update s.locks m.conversation none }

/-- `MarkRead`, on the participant's id. -/
def markRead (s : ChatStore) (participant readAt : Nat) : ChatStore :=
  { s with
    participants := fun c u => (s.participants c u).map fun p =>
      if p.id = participant then { p with lastReadAt := some readAt } else p }

/-- What `ensureUserParticipant` returns to. -/
def seated (s : ChatStore) (request conversation user participant : Nat) : Purpose → ChatStore
  | .read => s.become request .finished
  | .send body => s.become request (.appending conversation user participant body)
  | .mark readAt seen => s.become request (.markingRead conversation user participant readAt seen)

def answer (s : ChatStore) (conversation user : Nat) (viewerShop : Option Nat) (allowed : Bool) : ChatStore :=
  { s with accesses := s.accesses ++ [(⟨conversation, user, viewerShop, allowed⟩ : Access)] }

def roleOf (c : Conversation) (user : Nat) : Role := if c.owner = user then .user else .seller

/-- Past `AuthorizeDirectRead`: a reader has the messages, a writer needs a participant. -/
def authorized (s : ChatStore) (request conversation user : Nat) (c : Conversation) : Purpose → ChatStore
  | .read => s.become request .finished
  | purpose => s.become request (.looking conversation user (roleOf c user) purpose)

/-- The next statement of the request, with what the code does until the one after it. -/
def advance (s : ChatStore) (request : Nat) : ChatStore :=
  match s.requests request with
  | .finding buyer shop body =>
    match s.direct buyer shop with
    | some conversation =>
      (s.answer conversation buyer none true).become request (.looking conversation buyer .user (.send body))
    | none => s.become request (.creating buyer shop body)
  | .creating buyer shop body =>
    match s.direct buyer shop with
    | some _ => s.become request (.refinding buyer shop body)
    | none =>
      ((s.createConversation buyer shop).answer s.nextId buyer none true).become request
        (.looking s.nextId buyer .user (.send body))
  | .refinding buyer shop body =>
    match s.direct buyer shop with
    | some conversation =>
      (s.answer conversation buyer none true).become request (.looking conversation buyer .user (.send body))
    | none => s.become request .failed
  | .asking conversation user viewerShop purpose =>
    match s.conversations conversation with
    | none => s.become request .failed
    | some c =>
      if viewerShop = some c.shop then
        (s.answer conversation user viewerShop true).authorized request conversation user c purpose
      else s.become request (.checking conversation user viewerShop purpose)
  | .checking conversation user viewerShop purpose =>
    match s.conversations conversation, s.participants conversation user with
    | some c, some _ => (s.answer conversation user viewerShop true).authorized request conversation user c purpose
    | _, _ => (s.answer conversation user viewerShop false).become request .failed
  | .looking conversation user role purpose =>
    match s.participants conversation user with
    | some p => s.seated request conversation user p.id purpose
    | none => s.become request (.adding conversation user role purpose)
  | .adding conversation user role purpose =>
    match s.participants conversation user with
    | some _ => s.become request (.relooking conversation user role purpose)
    | none => (s.addParticipant conversation user role).seated request conversation user s.nextId purpose
  | .relooking conversation user _ purpose =>
    match s.participants conversation user with
    | some p => s.seated request conversation user p.id purpose
    | none => s.become request .failed
  | .appending conversation user participant body =>
    { s with nextId := s.nextId + 1 }.become request
      (.beginning { id := s.nextId, conversation, sender := participant, sentBy := user, body })
  | .beginning m => s.become request (.inserting { m with createdAt := s.clock })
  | .inserting m => s.become request (.touching m)
  | .touching m =>
    match s.locks m.conversation with
    | none => { s with locks := Function.update s.locks m.conversation (some request) }.become request (.committing m)
    | some _ => s
  | .committing m => (s.commitMessage m).become request .finished
  | .markingRead conversation user participant readAt seen =>
    { s.markRead participant readAt with marks := s.marks ++ [(⟨conversation, user, readAt, seen⟩ : ReadMark)] }.become request
      .finished
  | _ => s

/-- A statement fails or the request is cancelled; an open transaction is rolled back. -/
def fail (s : ChatStore) (request : Nat) : ChatStore :=
  match s.requests request with
  | .idle => s
  | .finished => s
  | .committing m => { s with locks := Function.update s.locks m.conversation none }.become request .failed
  | _ => s.become request .failed

inductive Move where
  | tick (now : Nat)
  | openWith (request buyer shop : Nat) (viewerShop : Option Nat) (body : String)
  | read (request conversation user : Nat) (viewerShop : Option Nat)
  | send (request conversation user : Nat) (viewerShop : Option Nat) (body : String)
  | mark (request conversation user : Nat) (viewerShop : Option Nat)
  | advance (request : Nat)
  | fail (request : Nat)

/-- A request that has not begun begins with this statement. -/
def start (s : ChatStore) (request : Nat) (statement : Statement) : ChatStore :=
  if s.requests request = .idle then s.become request statement else s

def messagesOf (s : ChatStore) (conversation : Nat) : List Message :=
  s.messages.filter (·.conversation = conversation)

theorem messagesOf_congr {s t : ChatStore} (same : t.messages = s.messages) (id : Nat) :
    t.messagesOf id = s.messagesOf id := by
  unfold messagesOf
  rw [same]

def act (s : ChatStore) : Move → ChatStore
  | .tick now => { s with clock := max s.clock now }
  | .openWith request buyer shop viewerShop body =>
    -- `errOwnShop`
    if viewerShop = some shop then s.start request .failed else s.start request (.finding buyer shop body)
  | .read request conversation user viewerShop => s.start request (.asking conversation user viewerShop .read)
  | .send request conversation user viewerShop body =>
    s.start request (.asking conversation user viewerShop (.send body))
  | .mark request conversation user viewerShop =>
    s.start request (.asking conversation user viewerShop (.mark s.clock (s.messagesOf conversation)))
  | .advance request => s.advance request
  | .fail request => s.fail request

abbrev Reached (guard : ChatStore → Move → Prop) : ChatStore → Prop := Machine.Reached act guard {}

/-- Rows stay, with their keys and what never changes of them. -/
structure Grows (s t : ChatStore) : Prop where
  conversations : ∀ id c, s.conversations id = some c →
    ∃ d, t.conversations id = some d ∧ d.owner = c.owner ∧ d.shop = c.shop
  participants : ∀ c u p, s.participants c u = some p → ∃ q, t.participants c u = some q ∧ q.id = p.id ∧ q.role = p.role

theorem Grows.of_eq {s t : ChatStore} (conversations : t.conversations = s.conversations)
    (participants : t.participants = s.participants) : Grows s t where
  conversations id c found := ⟨c, by rw [conversations]; exact found, rfl, rfl⟩
  participants c u p found := ⟨p, by rw [participants]; exact found, rfl, rfl⟩

/-- The participant as which a user takes part. -/
def Seat (s : ChatStore) (conversation user participant : Nat) : Prop :=
  ∃ p, s.participants conversation user = some p ∧ p.id = participant

def FitRole (s : ChatStore) (conversation user : Nat) (role : Role) : Prop :=
  ∃ c, s.conversations conversation = some c ∧ role = roleOf c user

def Fits (s : ChatStore) : Statement → Prop
  | .looking conversation user role _ => FitRole s conversation user role
  | .adding conversation user role _ => FitRole s conversation user role
  | .relooking conversation user role _ => FitRole s conversation user role
  | .appending conversation user participant _ => Seat s conversation user participant
  | .beginning m => Seat s m.conversation m.sentBy m.sender
  | .inserting m => Seat s m.conversation m.sentBy m.sender
  | .touching m => Seat s m.conversation m.sentBy m.sender
  | .committing m => Seat s m.conversation m.sentBy m.sender
  | .markingRead conversation user participant _ _ => Seat s conversation user participant
  | _ => True

structure Sound (s : ChatStore) : Prop where
  direct : ∀ buyer shop id, s.direct buyer shop = some id →
    ∃ c, s.conversations id = some c ∧ c.owner = buyer ∧ c.shop = shop
  fresh : ∀ id c, s.conversations id = some c → id < s.nextId
  seated : ∀ c u p, s.participants c u = some p → p.id < s.nextId ∧ FitRole s c u p.role
  distinct : ∀ c u p d v q, s.participants c u = some p → s.participants d v = some q → p.id = q.id → c = d ∧ u = v
  sent : ∀ m ∈ s.messages, Seat s m.conversation m.sentBy m.sender
  fits : ∀ request, Fits s (s.requests request)

theorem Seat.grow {s t : ChatStore} {conversation user participant : Nat} (seat : Seat s conversation user participant)
    (grows : Grows s t) : Seat t conversation user participant := by
  obtain ⟨p, found, id⟩ := seat
  obtain ⟨q, later, same, _⟩ := grows.participants _ _ _ found
  exact ⟨q, later, same.trans id⟩

theorem FitRole.grow {s t : ChatStore} {conversation user : Nat} {role : Role} (fit : FitRole s conversation user role)
    (grows : Grows s t) : FitRole t conversation user role := by
  obtain ⟨c, found, role⟩ := fit
  obtain ⟨d, later, owner, _⟩ := grows.conversations _ _ found
  exact ⟨d, later, by rw [role, roleOf, roleOf, owner]⟩

theorem Fits.grow {s t : ChatStore} {statement : Statement} (fits : Fits s statement) (grows : Grows s t) :
    Fits t statement := by
  cases statement with
  | looking => exact FitRole.grow fits grows
  | adding => exact FitRole.grow fits grows
  | relooking => exact FitRole.grow fits grows
  | appending => exact Seat.grow fits grows
  | beginning => exact Seat.grow fits grows
  | inserting => exact Seat.grow fits grows
  | touching => exact Seat.grow fits grows
  | committing => exact Seat.grow fits grows
  | markingRead => exact Seat.grow fits grows
  | _ => trivial

@[simp] theorem become_self (s : ChatStore) (request : Nat) (statement : Statement) :
    (s.become request statement).requests request = statement := by
  show Function.update s.requests request statement request = statement
  exact Function.update_self ..

theorem become_other (s : ChatStore) {request other : Nat} (statement : Statement) (ne : other ≠ request) :
    (s.become request statement).requests other = s.requests other := by
  show Function.update s.requests request statement other = s.requests other
  exact Function.update_of_ne ne ..

theorem Sound.become {s : ChatStore} (sound : Sound s) (request : Nat) {statement : Statement}
    (fits : Fits s statement) : Sound (s.become request statement) where
  direct := sound.direct
  fresh := sound.fresh
  seated := sound.seated
  distinct := sound.distinct
  sent := sound.sent
  fits := by
    intro other
    by_cases eq : other = request
    · rw [eq, become_self]
      exact fits
    · rw [become_other s statement eq]
      exact sound.fits other

theorem createConversation_grows {s : ChatStore} (sound : Sound s) (buyer shop : Nat) :
    Grows s (s.createConversation buyer shop) where
  conversations id c found := by
    have ne : id ≠ s.nextId := Nat.ne_of_lt (sound.fresh id c found)
    refine ⟨c, ?_, rfl, rfl⟩
    show Function.update s.conversations s.nextId _ id = some c
    rw [Function.update_of_ne ne]
    exact found
  participants _ _ p found := ⟨p, found, rfl, rfl⟩

theorem Sound.createConversation {s : ChatStore} (sound : Sound s) (buyer shop : Nat) :
    Sound (s.createConversation buyer shop) := by
  have grows := createConversation_grows sound buyer shop
  have created : (s.createConversation buyer shop).conversations s.nextId = some { owner := buyer, shop } := by
    show Function.update s.conversations s.nextId _ s.nextId = _
    exact Function.update_self ..
  refine ⟨?_, ?_, ?_, sound.distinct, fun m mem => (sound.sent m mem).grow grows,
    fun request => (sound.fits request).grow grows⟩
  · intro b h id found
    have found : (if b = buyer ∧ h = shop then some s.nextId else s.direct b h) = some id := found
    split at found
    · rename_i same
      cases found
      exact ⟨_, created, same.1.symm, same.2.symm⟩
    · obtain ⟨c, row, owner, at_⟩ := sound.direct b h id found
      obtain ⟨d, later, sameOwner, sameShop⟩ := grows.conversations id c row
      exact ⟨d, later, sameOwner.trans owner, sameShop.trans at_⟩
  · intro id c found
    by_cases eq : id = s.nextId
    · rw [eq]
      exact Nat.lt_succ_self _
    · have found : Function.update s.conversations s.nextId _ id = some c := found
      rw [Function.update_of_ne eq] at found
      exact Nat.lt_succ_of_lt (sound.fresh id c found)
  · intro c u p found
    obtain ⟨lt, role⟩ := sound.seated c u p found
    exact ⟨Nat.lt_succ_of_lt lt, role.grow grows⟩

theorem addParticipant_grows {s : ChatStore} {conversation user : Nat} (role : Role)
    (absent : s.participants conversation user = none) : Grows s (s.addParticipant conversation user role) where
  conversations _ c found := ⟨c, found, rfl, rfl⟩
  participants c u p found := by
    refine ⟨p, ?_, rfl, rfl⟩
    show (if c = conversation ∧ u = user then _ else s.participants c u) = some p
    split
    · rename_i same
      rw [same.1, same.2, absent] at found
      cases found
    · exact found

theorem Sound.addParticipant {s : ChatStore} {conversation user : Nat} {role : Role} (sound : Sound s)
    (absent : s.participants conversation user = none) (fit : FitRole s conversation user role) :
    Sound (s.addParticipant conversation user role) := by
  have grows := addParticipant_grows role absent
  have cases_ : ∀ c u p, (s.addParticipant conversation user role).participants c u = some p →
      (c = conversation ∧ u = user ∧ p = { id := s.nextId, role }) ∨ s.participants c u = some p := by
    intro c u p found
    have found : (if c = conversation ∧ u = user then some { id := s.nextId, role } else s.participants c u) =
      some p := found
    split at found
    · rename_i same
      cases found
      exact .inl ⟨same.1, same.2, rfl⟩
    · exact .inr found
  refine ⟨sound.direct, fun id c found => Nat.lt_succ_of_lt (sound.fresh id c found), ?_, ?_,
    fun m mem => (sound.sent m mem).grow grows, fun request => (sound.fits request).grow grows⟩
  · intro c u p found
    rcases cases_ c u p found with ⟨rfl, rfl, rfl⟩ | old
    · exact ⟨Nat.lt_succ_self _, fit⟩
    · obtain ⟨lt, role⟩ := sound.seated c u p old
      exact ⟨Nat.lt_succ_of_lt lt, role⟩
  · intro c u p d v q foundP foundQ same
    rcases cases_ c u p foundP with ⟨rfl, rfl, rfl⟩ | oldP
    · rcases cases_ d v q foundQ with ⟨rfl, rfl, _⟩ | oldQ
      · exact ⟨rfl, rfl⟩
      · have lt := (sound.seated d v q oldQ).1
        rw [← same] at lt
        exact absurd lt (Nat.lt_irrefl _)
    · rcases cases_ d v q foundQ with ⟨rfl, rfl, rfl⟩ | oldQ
      · have lt := (sound.seated c u p oldP).1
        rw [same] at lt
        exact absurd lt (Nat.lt_irrefl _)
      · exact sound.distinct c u p d v q oldP oldQ same

theorem commitMessage_grows (s : ChatStore) (m : Message) : Grows s (s.commitMessage m) where
  conversations id c found := by
    by_cases eq : id = m.conversation
    · subst eq
      exact ⟨{ c with
        lastMessageAt := some m.createdAt
        lastMessagePreview := some (truncateRunes m.body previewRuneLimit) }, by simp [commitMessage, found], rfl, rfl⟩
    · refine ⟨c, ?_, rfl, rfl⟩
      show Function.update s.conversations m.conversation _ id = some c
      rw [Function.update_of_ne eq]
      exact found
  participants _ _ p found := ⟨p, found, rfl, rfl⟩

theorem conversation_of_commit {s : ChatStore} {m : Message} {id : Nat} {d : Conversation}
    (found : (s.commitMessage m).conversations id = some d) : ∃ c, s.conversations id = some c := by
  by_cases eq : id = m.conversation
  · subst eq
    have found : Function.update s.conversations m.conversation _ m.conversation = some d := found
    rw [Function.update_self] at found
    obtain ⟨c, row, _⟩ := Option.map_eq_some_iff.mp found
    exact ⟨c, row⟩
  · have found : Function.update s.conversations m.conversation _ id = some d := found
    rw [Function.update_of_ne eq] at found
    exact ⟨d, found⟩

theorem Sound.commitMessage {s : ChatStore} {m : Message} (sound : Sound s)
    (seat : Seat s m.conversation m.sentBy m.sender) : Sound (s.commitMessage m) := by
  have grows := commitMessage_grows s m
  refine ⟨?_, ?_, ?_, sound.distinct, ?_, fun request => (sound.fits request).grow grows⟩
  · intro buyer shop id found
    obtain ⟨c, row, owner, at_⟩ := sound.direct buyer shop id found
    obtain ⟨d, later, sameOwner, sameShop⟩ := grows.conversations id c row
    exact ⟨d, later, sameOwner.trans owner, sameShop.trans at_⟩
  · intro id d found
    obtain ⟨c, row⟩ := conversation_of_commit found
    exact sound.fresh id c row
  · intro c u p found
    obtain ⟨lt, role⟩ := sound.seated c u p found
    exact ⟨lt, role.grow grows⟩
  · intro n mem
    rcases List.mem_append.mp mem with old | new
    · exact (sound.sent n old).grow grows
    · rw [List.mem_singleton.mp new]
      exact seat.grow grows

theorem markRead_grows (s : ChatStore) (participant readAt : Nat) : Grows s (s.markRead participant readAt) where
  conversations _ c found := ⟨c, found, rfl, rfl⟩
  participants c u p found := by
    refine ⟨if p.id = participant then { p with lastReadAt := some readAt } else p, by simp [markRead, found], ?_⟩
    split <;> exact ⟨rfl, rfl⟩

theorem participant_of_mark {s : ChatStore} {participant readAt c u : Nat} {q : Participant}
    (found : (s.markRead participant readAt).participants c u = some q) :
    ∃ p, s.participants c u = some p ∧ q.id = p.id ∧ q.role = p.role := by
  obtain ⟨p, row, same⟩ := Option.map_eq_some_iff.mp found
  refine ⟨p, row, ?_⟩
  rw [← same]
  split <;> exact ⟨rfl, rfl⟩

theorem Sound.markRead {s : ChatStore} (sound : Sound s) (participant readAt : Nat) :
    Sound (s.markRead participant readAt) := by
  have grows := markRead_grows s participant readAt
  refine ⟨sound.direct, sound.fresh, ?_, ?_, fun m mem => (sound.sent m mem).grow grows,
    fun request => (sound.fits request).grow grows⟩
  · intro c u q found
    obtain ⟨p, row, id, role⟩ := participant_of_mark found
    rw [id, role]
    exact sound.seated c u p row
  · intro c u q d v q' foundP foundQ same
    obtain ⟨p, rowP, idP, _⟩ := participant_of_mark foundP
    obtain ⟨p', rowQ, idQ, _⟩ := participant_of_mark foundQ
    exact sound.distinct c u p d v p' rowP rowQ (idP.symm.trans (same.trans idQ))

theorem seat_of_row {s : ChatStore} {c u : Nat} {p : Participant} (found : s.participants c u = some p) :
    Seat s c u p.id := ⟨p, found, rfl⟩

theorem Sound.takeSeat {s : ChatStore} {request conversation user participant : Nat} (sound : Sound s)
    (seat : Seat s conversation user participant) (purpose : Purpose) :
    Sound (s.seated request conversation user participant purpose) := by
  cases purpose with
  | read => exact sound.become request trivial
  | send body => exact sound.become request seat
  | mark readAt seen => exact sound.become request seat

theorem Sound.authorized {s : ChatStore} {request conversation user : Nat} {c : Conversation} (sound : Sound s)
    (found : s.conversations conversation = some c) (purpose : Purpose) :
    Sound (s.authorized request conversation user c purpose) := by
  cases purpose with
  | read => exact sound.become request trivial
  | send body => exact sound.become request ⟨c, found, rfl⟩
  | mark readAt seen => exact sound.become request ⟨c, found, rfl⟩

theorem Sound.answer {s : ChatStore} (sound : Sound s) (conversation user : Nat) (viewerShop : Option Nat)
    (allowed : Bool) : Sound (s.answer conversation user viewerShop allowed) :=
  ⟨sound.direct, sound.fresh, sound.seated, sound.distinct, sound.sent, sound.fits⟩

theorem Sound.opened {s : ChatStore} {buyer shop id : Nat} (sound : Sound s) (found : s.direct buyer shop = some id) :
    FitRole s id buyer .user := by
  obtain ⟨c, row, owner, _⟩ := sound.direct buyer shop id found
  exact ⟨c, row, by rw [roleOf, if_pos owner]⟩

theorem Sound.advance {s : ChatStore} (sound : Sound s) (request : Nat) : Sound (s.advance request) := by
  have fits := sound.fits request
  unfold ChatStore.advance
  cases stands : s.requests request <;> rw [stands] at fits <;> dsimp only <;> try exact sound
  case finding buyer shop body =>
    cases found : s.direct buyer shop with
    | none => exact sound.become request trivial
    | some id => exact (sound.answer id buyer none true).become request (sound.opened found)
  case creating buyer shop body =>
    cases found : s.direct buyer shop with
    | some id => exact sound.become request trivial
    | none =>
      have created := sound.createConversation buyer shop
      have index : (s.createConversation buyer shop).direct buyer shop = some s.nextId := by
        simp [ChatStore.createConversation]
      exact (created.answer s.nextId buyer none true).become request (created.opened index)
  case refinding buyer shop body =>
    cases found : s.direct buyer shop with
    | none => exact sound.become request trivial
    | some id => exact (sound.answer id buyer none true).become request (sound.opened found)
  case asking conversation user viewerShop purpose =>
    cases found : s.conversations conversation with
    | none => exact sound.become request trivial
    | some c =>
      dsimp only
      split
      · exact (sound.answer conversation user viewerShop true).authorized found purpose
      · exact sound.become request trivial
  case checking conversation user viewerShop purpose =>
    cases found : s.conversations conversation with
    | none => exact (sound.answer conversation user viewerShop false).become request trivial
    | some c =>
      cases s.participants conversation user with
      | none => exact (sound.answer conversation user viewerShop false).become request trivial
      | some p => exact (sound.answer conversation user viewerShop true).authorized found purpose
  case looking conversation user role purpose =>
    cases found : s.participants conversation user with
    | none => exact sound.become request fits
    | some p => exact sound.takeSeat (seat_of_row found) purpose
  case adding conversation user role purpose =>
    cases found : s.participants conversation user with
    | some p => exact sound.become request fits
    | none =>
      have added := sound.addParticipant found fits
      have row : (s.addParticipant conversation user role).participants conversation user =
          some { id := s.nextId, role } := by simp [ChatStore.addParticipant]
      exact added.takeSeat (seat_of_row row) purpose
  case relooking conversation user role purpose =>
    cases found : s.participants conversation user with
    | none => exact sound.become request trivial
    | some p => exact sound.takeSeat (seat_of_row found) purpose
  case appending conversation user participant body =>
    have drawn : Sound { s with nextId := s.nextId + 1 } := by
      refine ⟨sound.direct, fun id c found => Nat.lt_succ_of_lt (sound.fresh id c found), ?_, sound.distinct,
        sound.sent, sound.fits⟩
      intro c u p found
      obtain ⟨lt, role⟩ := sound.seated c u p found
      exact ⟨Nat.lt_succ_of_lt lt, role⟩
    exact drawn.become request fits
  case beginning m => exact sound.become request fits
  case inserting m => exact sound.become request fits
  case touching m =>
    cases s.locks m.conversation with
    | some _ => exact sound
    | none =>
      have locked : Sound { s with locks := Function.update s.locks m.conversation (some request) } :=
        ⟨sound.direct, sound.fresh, sound.seated, sound.distinct, sound.sent, sound.fits⟩
      exact locked.become request fits
  case committing m => exact (sound.commitMessage fits).become request trivial
  case markingRead conversation user participant readAt seen =>
    have marked := sound.markRead participant readAt
    have noted : Sound { s.markRead participant readAt with
        marks := s.marks ++ [(⟨conversation, user, readAt, seen⟩ : ReadMark)] } :=
      ⟨marked.direct, marked.fresh, marked.seated, marked.distinct, marked.sent, marked.fits⟩
    exact noted.become request trivial

theorem Sound.fail {s : ChatStore} (sound : Sound s) (request : Nat) : Sound (s.fail request) := by
  unfold ChatStore.fail
  cases s.requests request <;> dsimp only <;> try exact sound
  case committing m =>
    have released : Sound { s with locks := Function.update s.locks m.conversation none } :=
      ⟨sound.direct, sound.fresh, sound.seated, sound.distinct, sound.sent, sound.fits⟩
    exact released.become request trivial
  all_goals exact sound.become request trivial

theorem Sound.start {s : ChatStore} {statement : Statement} (sound : Sound s) (request : Nat)
    (fits : Fits s statement) : Sound (s.start request statement) := by
  unfold ChatStore.start
  split
  · exact sound.become request fits
  · exact sound

theorem Sound.act {s : ChatStore} (sound : Sound s) (m : Move) : Sound (s.act m) := by
  cases m with
  | tick now => exact ⟨sound.direct, sound.fresh, sound.seated, sound.distinct, sound.sent, sound.fits⟩
  | openWith request buyer shop viewerShop body =>
    unfold ChatStore.act
    dsimp only
    split
    · exact sound.start request trivial
    · exact sound.start request trivial
  | read request conversation user viewerShop => exact sound.start request trivial
  | send request conversation user viewerShop body => exact sound.start request trivial
  | mark request conversation user viewerShop => exact sound.start request trivial
  | advance request => exact sound.advance request
  | fail request => exact sound.fail request

/-- What a move writes to the tables. -/
inductive Writes (s : ChatStore) (m : Move) (t : ChatStore) : Prop
  | nothing : t.conversations = s.conversations → t.participants = s.participants → t.messages = s.messages →
      t.marks = s.marks → Writes s m t
  | created (buyer shop : Nat) : t.conversations = (s.createConversation buyer shop).conversations →
      t.participants = s.participants → t.messages = s.messages → t.marks = s.marks → Writes s m t
  | added (conversation user : Nat) (role : Role) : s.participants conversation user = none →
      t.participants = (s.addParticipant conversation user role).participants →
      t.conversations = s.conversations → t.messages = s.messages → t.marks = s.marks → Writes s m t
  | committed (request : Nat) (message : Message) : m = .advance request →
      s.requests request = .committing message → t.conversations = (s.commitMessage message).conversations →
      t.messages = s.messages ++ [message] → t.participants = s.participants → t.marks = s.marks → Writes s m t
  | marked (request conversation user participant readAt : Nat) (seen : List Message) : m = .advance request →
      s.requests request = .markingRead conversation user participant readAt seen →
      t.participants = (s.markRead participant readAt).participants →
      t.marks = s.marks ++ [⟨conversation, user, readAt, seen⟩] →
      t.conversations = s.conversations → t.messages = s.messages → Writes s m t

theorem seated_writes (s : ChatStore) (m : Move) (request conversation user participant : Nat) (purpose : Purpose) :
    Writes s m (s.seated request conversation user participant purpose) := by
  cases purpose <;> exact .nothing rfl rfl rfl rfl

theorem authorized_writes (s : ChatStore) (m : Move) (request conversation user : Nat) (viewerShop : Option Nat)
    (c : Conversation) (purpose : Purpose) :
    Writes s m ((s.answer conversation user viewerShop true).authorized request conversation user c purpose) := by
  cases purpose <;> exact .nothing rfl rfl rfl rfl

theorem advance_writes (s : ChatStore) (request : Nat) : Writes s (.advance request) (s.advance request) := by
  unfold ChatStore.advance
  cases stands : s.requests request <;> dsimp only
  case finding buyer shop body => cases s.direct buyer shop <;> exact .nothing rfl rfl rfl rfl
  case creating buyer shop body =>
    cases s.direct buyer shop
    · exact .created buyer shop rfl rfl rfl rfl
    · exact .nothing rfl rfl rfl rfl
  case refinding buyer shop body => cases s.direct buyer shop <;> exact .nothing rfl rfl rfl rfl
  case asking conversation user viewerShop purpose =>
    cases s.conversations conversation with
    | none => exact .nothing rfl rfl rfl rfl
    | some c =>
      dsimp only
      split
      · exact authorized_writes ..
      · exact .nothing rfl rfl rfl rfl
  case checking conversation user viewerShop purpose =>
    cases s.conversations conversation with
    | none => exact .nothing rfl rfl rfl rfl
    | some c =>
      cases s.participants conversation user with
      | none => exact .nothing rfl rfl rfl rfl
      | some p => exact authorized_writes ..
  case looking conversation user role purpose =>
    cases s.participants conversation user
    · exact .nothing rfl rfl rfl rfl
    · exact seated_writes ..
  case adding conversation user role purpose =>
    cases absent : s.participants conversation user
    · cases purpose <;> exact .added conversation user role absent rfl rfl rfl rfl
    · exact .nothing rfl rfl rfl rfl
  case relooking conversation user role purpose =>
    cases s.participants conversation user
    · exact .nothing rfl rfl rfl rfl
    · exact seated_writes ..
  case touching m => cases s.locks m.conversation <;> exact .nothing rfl rfl rfl rfl
  case committing m => exact .committed request m rfl stands rfl rfl rfl rfl
  case markingRead conversation user participant readAt seen =>
    exact .marked request conversation user participant readAt seen rfl stands rfl rfl rfl rfl
  all_goals exact .nothing rfl rfl rfl rfl

theorem start_writes (s : ChatStore) (m : Move) (request : Nat) (statement : Statement) :
    Writes s m (s.start request statement) := by
  unfold ChatStore.start
  split <;> exact .nothing rfl rfl rfl rfl

theorem act_writes (s : ChatStore) (m : Move) : Writes s m (s.act m) := by
  cases m with
  | tick now => exact .nothing rfl rfl rfl rfl
  | openWith request buyer shop viewerShop body =>
    unfold ChatStore.act
    dsimp only
    split <;> exact start_writes ..
  | read request conversation user viewerShop => exact start_writes ..
  | send request conversation user viewerShop body => exact start_writes ..
  | mark request conversation user viewerShop => exact start_writes ..
  | advance request => exact advance_writes s request
  | fail request =>
    show Writes s (.fail request) (s.fail request)
    unfold ChatStore.fail
    cases s.requests request <;> exact .nothing rfl rfl rfl rfl

theorem sound_start : Sound {} where
  direct := nofun
  fresh := nofun
  seated := nofun
  distinct := nofun
  sent := nofun
  fits := fun _ => trivial

theorem Grows.refl (s : ChatStore) : Grows s s := Grows.of_eq rfl rfl

theorem Grows.become {s t : ChatStore} (grows : Grows s t) (request : Nat) (statement : Statement) :
    Grows s (t.become request statement) := ⟨grows.conversations, grows.participants⟩

theorem Grows.takeSeat {s t : ChatStore} (grows : Grows s t) (request conversation user participant : Nat)
    (purpose : Purpose) : Grows s (t.seated request conversation user participant purpose) := by
  cases purpose <;> exact ⟨grows.conversations, grows.participants⟩

theorem authorized_grows (s : ChatStore) (request conversation user : Nat) (viewerShop : Option Nat) (allowed : Bool)
    (c : Conversation) (purpose : Purpose) :
    Grows s ((s.answer conversation user viewerShop allowed).authorized request conversation user c purpose) := by
  cases purpose <;> exact Grows.of_eq rfl rfl

theorem advance_grows {s : ChatStore} (sound : Sound s) (request : Nat) : Grows s (s.advance request) := by
  have same := Grows.refl s
  unfold ChatStore.advance
  cases s.requests request <;> dsimp only <;> try exact same
  case finding buyer shop body => cases s.direct buyer shop <;> exact Grows.of_eq rfl rfl
  case creating buyer shop body =>
    have created := createConversation_grows sound buyer shop
    cases s.direct buyer shop
    · exact ⟨created.conversations, created.participants⟩
    · exact same.become request _
  case refinding buyer shop body => cases s.direct buyer shop <;> exact Grows.of_eq rfl rfl
  case asking conversation user viewerShop purpose =>
    cases s.conversations conversation with
    | none => exact same.become request _
    | some c =>
      dsimp only
      split
      · exact authorized_grows s request conversation user viewerShop true c purpose
      · exact same.become request _
  case checking conversation user viewerShop purpose =>
    cases s.conversations conversation with
    | none => exact Grows.of_eq rfl rfl
    | some c =>
      cases s.participants conversation user with
      | none => exact Grows.of_eq rfl rfl
      | some p => exact authorized_grows s request conversation user viewerShop true c purpose
  case looking conversation user role purpose =>
    cases s.participants conversation user
    · exact same.become request _
    · exact same.takeSeat request conversation user _ purpose
  case adding conversation user role purpose =>
    cases absent : s.participants conversation user
    · exact (addParticipant_grows role absent).takeSeat request conversation user _ purpose
    · exact same.become request _
  case relooking conversation user role purpose =>
    cases s.participants conversation user
    · exact same.become request _
    · exact same.takeSeat request conversation user _ purpose
  case touching m => cases s.locks m.conversation <;> exact Grows.of_eq rfl rfl
  case committing m => exact (commitMessage_grows s m).become request _
  case markingRead conversation user participant readAt seen =>
    have marked := markRead_grows s participant readAt
    exact ⟨marked.conversations, marked.participants⟩
  all_goals exact Grows.of_eq rfl rfl

theorem seated_other (s : ChatStore) {request other : Nat} (conversation user participant : Nat) (purpose : Purpose)
    (ne : other ≠ request) :
    (s.seated request conversation user participant purpose).requests other = s.requests other := by
  cases purpose <;> exact become_other s _ ne

theorem authorized_other (s : ChatStore) {request other : Nat} (conversation user : Nat) (c : Conversation)
    (purpose : Purpose) (ne : other ≠ request) :
    (s.authorized request conversation user c purpose).requests other = s.requests other := by
  cases purpose <;> exact become_other s _ ne

theorem advance_other (s : ChatStore) {request other : Nat} (ne : other ≠ request) :
    (s.advance request).requests other = s.requests other := by
  unfold ChatStore.advance
  cases s.requests request <;> dsimp only
  case finding buyer shop body => cases s.direct buyer shop <;> exact become_other _ _ ne
  case creating buyer shop body => cases s.direct buyer shop <;> exact become_other _ _ ne
  case refinding buyer shop body => cases s.direct buyer shop <;> exact become_other _ _ ne
  case asking conversation user viewerShop purpose =>
    cases s.conversations conversation with
    | none => exact become_other _ _ ne
    | some c =>
      dsimp only
      split
      · exact authorized_other _ _ _ _ _ ne
      · exact become_other _ _ ne
  case checking conversation user viewerShop purpose =>
    cases s.conversations conversation with
    | none => exact become_other _ _ ne
    | some c =>
      cases s.participants conversation user with
      | none => exact become_other _ _ ne
      | some p => exact authorized_other _ _ _ _ _ ne
  case looking conversation user role purpose =>
    cases s.participants conversation user
    · exact become_other _ _ ne
    · exact seated_other _ _ _ _ _ ne
  case adding conversation user role purpose =>
    cases s.participants conversation user
    · exact seated_other _ _ _ _ _ ne
    · exact become_other _ _ ne
  case relooking conversation user role purpose =>
    cases s.participants conversation user
    · exact become_other _ _ ne
    · exact seated_other _ _ _ _ _ ne
  case touching m =>
    cases s.locks m.conversation
    · exact become_other _ _ ne
    · rfl
  all_goals exact become_other _ _ ne

theorem start_requests (s : ChatStore) (request : Nat) (statement : Statement) (other : Nat) :
    (s.start request statement).requests other = s.requests other ∨
      (other = request ∧ (s.start request statement).requests other = statement) := by
  unfold ChatStore.start
  split
  · by_cases eq : other = request
    · exact .inr ⟨eq, by rw [eq, become_self]⟩
    · exact .inl (become_other s statement eq)
  · exact .inl rfl

theorem fail_requests (s : ChatStore) (request other : Nat) :
    (s.fail request).requests other = s.requests other ∨ (s.fail request).requests other = .failed := by
  unfold ChatStore.fail
  by_cases eq : other = request
  · subst eq
    cases stands : s.requests other <;> simp [stands]
  · left
    cases s.requests request <;> first | rfl | exact become_other _ _ eq

theorem start_grows (s : ChatStore) (request : Nat) (statement : Statement) : Grows s (s.start request statement) := by
  unfold ChatStore.start
  split <;> exact Grows.of_eq rfl rfl

theorem act_grows {s : ChatStore} (sound : Sound s) (m : Move) : Grows s (s.act m) := by
  cases m with
  | tick now => exact Grows.of_eq rfl rfl
  | openWith request buyer shop viewerShop body =>
    unfold ChatStore.act
    dsimp only
    split <;> exact start_grows s request _
  | read request conversation user viewerShop => exact start_grows s request _
  | send request conversation user viewerShop body => exact start_grows s request _
  | mark request conversation user viewerShop => exact start_grows s request _
  | advance request => exact advance_grows sound request
  | fail request =>
    show Grows s (s.fail request)
    unfold ChatStore.fail
    cases s.requests request <;> exact Grows.of_eq rfl rfl

theorem sound_reached {guard : ChatStore → Move → Prop} {s : ChatStore} (reached : Reached guard s) : Sound s :=
  reached.invariant sound_start fun _ m sound _ => sound.act m

end ChatStore

end Marketplace.Chat
