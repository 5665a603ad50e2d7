import Marketplace.Chat.Store
import Marketplace.Chat.Hub

/-! Which connections a message sent over a websocket reaches, however its frame spells the ids. -/
namespace Marketplace.Chat

/-- What `uuid.Parse`, a `uuid` column and `UUID.String` make of a text and an id. -/
structure Uuids where
  parse : String → Option Nat
  column : String → Option Nat
  text : Nat → String
  parse_text : ∀ {spelling id}, parse spelling = some id → parse (text id) = some id
  text_ne : ∀ id, text id ≠ ""

/-- An id whose text reads back. -/
def Uuid (u : Uuids) : Type := { id : Nat // u.parse (u.text id) = some id }

/-- An authenticated connection, with the shop that the shop service reported. -/
structure Conn (u : Uuids) where
  user : Uuid u
  shop : Option (Uuid u)

structure ClientFrame where
  type : String
  conversationID : String := ""
  shopID : String := ""
  text : String := ""
  clientMsgID : String := ""
deriving DecidableEq

structure ServerFrame where
  type : String
  userID : String := ""
  shopID : String := ""
  conversationID : String := ""
  id : String := ""
  senderID : String := ""
  senderRole : String := ""
  text : String := ""
  createdAt : Option Nat := none
  clientMsgID : String := ""
  reason : String := ""
deriving DecidableEq

structure DirectTarget where
  conversationID : String
  buyerUserID : String
  shopID : String
  senderParticipantID : String
  senderRole : String

/-- How a request of the store ends. -/
inductive Outcome where
  | stored (message : Message)
  | notFound
  | failed
  | pending
deriving DecidableEq

namespace ChatStore

/-- The end of the request, if this move is the one that ends it. -/
def ending (s : ChatStore) (request : Nat) (m : Move) : Option Outcome :=
  match m, s.requests request with
  | .advance r, .committing message => if r = request then some (.stored message) else none
  | .advance _, .asking .. => if (s.act m).requests request = .failed then some .notFound else none
  | .advance _, .checking .. => if (s.act m).requests request = .failed then some .notFound else none
  | _, _ => if (s.act m).requests request = .failed then some .failed else none

def outcome (request : Nat) : ChatStore → List Move → Outcome
  | _, [] => .pending
  | s, m :: rest => (s.ending request m).getD (outcome request (s.act m) rest)

/-- The conversation is that of this buyer with this shop. -/
def Between (s : ChatStore) (conversation buyer shop : Nat) : Prop :=
  ∃ c, s.conversations conversation = some c ∧ c.owner = buyer ∧ c.shop = shop

/-- Where a request that opens the conversation of a buyer with a shop can be. -/
def Opening (s : ChatStore) (buyer shop : Nat) : Statement → Prop
  | .finding b h _ => b = buyer ∧ h = shop
  | .creating b h _ => b = buyer ∧ h = shop
  | .refinding b h _ => b = buyer ∧ h = shop
  | .looking conversation _ _ (.send _) => Between s conversation buyer shop
  | .adding conversation _ _ (.send _) => Between s conversation buyer shop
  | .relooking conversation _ _ (.send _) => Between s conversation buyer shop
  | .appending conversation _ _ _ => Between s conversation buyer shop
  | .beginning m => Between s m.conversation buyer shop
  | .inserting m => Between s m.conversation buyer shop
  | .touching m => Between s m.conversation buyer shop
  | .committing m => Between s m.conversation buyer shop
  | .finished => True
  | .failed => True
  | _ => False

theorem Between.grow {s t : ChatStore} {conversation buyer shop : Nat} (between : Between s conversation buyer shop)
    (grows : Grows s t) : Between t conversation buyer shop := by
  obtain ⟨c, found, owner, at_⟩ := between
  obtain ⟨d, later, sameOwner, sameShop⟩ := grows.conversations _ _ found
  exact ⟨d, later, sameOwner.trans owner, sameShop.trans at_⟩

theorem Opening.grow {s t : ChatStore} {buyer shop : Nat} {statement : Statement}
    (opening : Opening s buyer shop statement) (grows : Grows s t) : Opening t buyer shop statement := by
  cases statement with
  | looking _ _ _ purpose =>
    cases purpose with
    | send => exact Between.grow opening grows
    | _ => exact opening
  | adding _ _ _ purpose =>
    cases purpose with
    | send => exact Between.grow opening grows
    | _ => exact opening
  | relooking _ _ _ purpose =>
    cases purpose with
    | send => exact Between.grow opening grows
    | _ => exact opening
  | appending => exact Between.grow opening grows
  | beginning => exact Between.grow opening grows
  | inserting => exact Between.grow opening grows
  | touching => exact Between.grow opening grows
  | committing => exact Between.grow opening grows
  | _ => exact opening

theorem createConversation_between (s : ChatStore) (buyer shop : Nat) :
    Between (s.createConversation buyer shop) s.nextId buyer shop := by
  refine ⟨{ owner := buyer, shop }, ?_, rfl, rfl⟩
  show Function.update s.conversations s.nextId _ s.nextId = _
  exact Function.update_self ..

theorem Opening.become {s : ChatStore} {request buyer shop : Nat} (statement : Statement)
    (opening : Opening s buyer shop statement) :
    Opening (s.become request statement) buyer shop ((s.become request statement).requests request) := by
  rw [become_self]
  exact opening.grow (Grows.of_eq rfl rfl)

theorem Between.takeSeat {s : ChatStore} {conversation buyer shop : Nat} (between : Between s conversation buyer shop)
    (request user participant : Nat) (body : String) :
    Opening (s.seated request conversation user participant (.send body)) buyer shop
      ((s.seated request conversation user participant (.send body)).requests request) :=
  Opening.become (.appending conversation user participant body) between

theorem advance_opening {s : ChatStore} {request buyer shop : Nat} (sound : Sound s)
    (opening : Opening s buyer shop (s.requests request)) :
    Opening (s.advance request) buyer shop ((s.advance request).requests request) := by
  revert opening
  unfold ChatStore.advance
  cases stands : s.requests request <;> dsimp only <;> intro opening
  case finding b h body =>
    obtain ⟨rfl, rfl⟩ := opening
    cases found : s.direct b h with
    | none => exact Opening.become (.creating b h body) ⟨rfl, rfl⟩
    | some conversation =>
      exact Opening.become (.looking conversation b .user (.send body)) (sound.direct b h _ found)
  case creating b h body =>
    obtain ⟨rfl, rfl⟩ := opening
    cases s.direct b h with
    | none =>
      exact Opening.become (.looking s.nextId b .user (.send body)) (createConversation_between s b h)
    | some conversation => exact Opening.become (.refinding b h body) ⟨rfl, rfl⟩
  case refinding b h body =>
    obtain ⟨rfl, rfl⟩ := opening
    cases found : s.direct b h with
    | none => exact Opening.become .failed trivial
    | some conversation =>
      exact Opening.become (.looking conversation b .user (.send body)) (sound.direct b h _ found)
  case looking conversation user role purpose =>
    cases purpose with
    | send body =>
      cases s.participants conversation user with
      | none => exact Opening.become (.adding conversation user role (.send body)) opening
      | some p => exact Between.takeSeat opening request user p.id body
    | _ => exact opening.elim
  case adding conversation user role purpose =>
    cases purpose with
    | send body =>
      cases absent : s.participants conversation user with
      | none => exact (Between.grow opening (addParticipant_grows role absent)).takeSeat request user _ body
      | some p => exact Opening.become (.relooking conversation user role (.send body)) opening
    | _ => exact opening.elim
  case relooking conversation user role purpose =>
    cases purpose with
    | send body =>
      cases s.participants conversation user with
      | none => exact Opening.become .failed trivial
      | some p => exact Between.takeSeat opening request user p.id body
    | _ => exact opening.elim
  case appending conversation user participant body => exact Opening.become (.beginning _) opening
  case beginning m => exact Opening.become (.inserting _) opening
  case inserting m => exact Opening.become (.touching m) opening
  case touching m =>
    cases s.locks m.conversation with
    | none => exact Opening.become (.committing m) opening
    | some _ =>
      show Opening s buyer shop (s.requests request)
      rw [stands]
      exact opening
  case committing m => exact Opening.become .finished trivial
  case finished => rw [stands]; trivial
  case failed => rw [stands]; trivial
  all_goals exact opening.elim

theorem Opening.fail {s : ChatStore} {buyer shop : Nat} (request other : Nat)
    (opening : Opening s buyer shop (s.requests request)) :
    Opening (s.fail other) buyer shop ((s.fail other).requests request) := by
  have grows : Grows s (s.fail other) := by
    unfold ChatStore.fail
    cases s.requests other <;> exact Grows.of_eq rfl rfl
  rcases fail_requests s other request with same | failed
  · rw [same]
    exact opening.grow grows
  · rw [failed]
    trivial

theorem Opening.start {s : ChatStore} {request buyer shop : Nat} (opening : Opening s buyer shop (s.requests request))
    (other : Nat) (statement : Statement) :
    Opening (s.start other statement) buyer shop ((s.start other statement).requests request) := by
  have grows := start_grows s other statement
  rcases start_requests s other statement request with same | ⟨rfl, _⟩
  · rw [same]
    exact opening.grow grows
  · have begun : s.requests request ≠ .idle := fun idle => by
      rw [idle] at opening
      exact opening
    unfold ChatStore.start
    rw [if_neg begun]
    exact opening

theorem act_opening {s : ChatStore} {request buyer shop : Nat} (sound : Sound s)
    (opening : Opening s buyer shop (s.requests request)) (m : Move) :
    Opening (s.act m) buyer shop ((s.act m).requests request) := by
  cases m with
  | tick now => exact opening.grow (Grows.of_eq rfl rfl)
  | openWith other b h viewerShop body =>
    unfold ChatStore.act
    dsimp only
    split
    · exact opening.start other _
    · exact opening.start other _
  | read other conversation user viewerShop => exact opening.start other _
  | send other conversation user viewerShop body => exact opening.start other _
  | mark other conversation user viewerShop => exact opening.start other _
  | advance other =>
    show Opening (s.advance other) buyer shop ((s.advance other).requests request)
    by_cases same : request = other
    · subst same
      exact advance_opening sound opening
    · rw [advance_other s same]
      exact opening.grow (advance_grows sound other)
  | fail other => exact opening.fail request other

theorem run_grows {s : ChatStore} (sound : Sound s) (moves : List Move) : Grows s (Machine.run act s moves) := by
  induction moves generalizing s with
  | nil => exact Grows.refl s
  | cons m rest ih =>
    have first := act_grows sound m
    have after := ih (sound.act m)
    refine ⟨fun id c found => ?_, fun c u p found => ?_⟩
    · obtain ⟨d, later, owner, shop⟩ := first.conversations id c found
      obtain ⟨e, last, sameOwner, sameShop⟩ := after.conversations id d later
      exact ⟨e, last, sameOwner.trans owner, sameShop.trans shop⟩
    · obtain ⟨q, later, id, role⟩ := first.participants c u p found
      obtain ⟨r, last, sameId, sameRole⟩ := after.participants c u q later
      exact ⟨r, last, sameId.trans id, sameRole.trans role⟩

theorem ending_stored {s : ChatStore} {request : Nat} {m : Move} {message : Message}
    (ended : s.ending request m = some (.stored message)) : s.requests request = .committing message := by
  unfold ChatStore.ending at ended
  split at ended
  · split at ended
    · cases ended
      assumption
    · cases ended
  all_goals split at ended <;> cases ended

/-- The message is stored in the conversation that its request is on the way to. -/
theorem stored_row {s : ChatStore} {request : Nat} {moves : List Move} {message : Message} (sound : Sound s)
    (stored : outcome request s moves = .stored message) :
    ∃ c, (Machine.run act s moves).conversations message.conversation = some c ∧
      ∀ buyer shop, Opening s buyer shop (s.requests request) → c.owner = buyer ∧ c.shop = shop := by
  induction moves generalizing s with
  | nil => cases stored
  | cons m rest ih =>
    unfold outcome at stored
    cases ended : s.ending request m with
    | none =>
      rw [ended] at stored
      obtain ⟨c, found, named⟩ := ih (sound.act m) stored
      exact ⟨c, found, fun buyer shop opening => named buyer shop (act_opening sound opening m)⟩
    | some end_ =>
      rw [ended] at stored
      have stored : end_ = .stored message := stored
      subst stored
      have stands := ending_stored ended
      have seat := sound.fits request
      rw [stands] at seat
      obtain ⟨p, found, _⟩ := seat
      obtain ⟨c, row, _⟩ := (sound.seated _ _ _ found).2
      obtain ⟨d, later, owner, shop⟩ := (run_grows sound (m :: rest)).conversations _ _ row
      refine ⟨d, later, fun buyer at_ opening => ?_⟩
      rw [stands] at opening
      obtain ⟨e, same, buyerIs, shopIs⟩ := opening
      rw [row] at same
      cases same
      exact ⟨owner.trans buyerIs, shop.trans shopIs⟩

end ChatStore

def maxTextRunes : Nat := 4000

/-- `unicode.IsSpace` -/
def isUnicodeSpace (c : Char) : Bool :=
  c.toNat ∈ [0x09, 0x0A, 0x0B, 0x0C, 0x0D, 0x20, 0x85, 0xA0, 0x1680, 0x2028, 0x2029, 0x202F, 0x205F, 0x3000] ∨
    (0x2000 ≤ c.toNat ∧ c.toNat ≤ 0x200A)

def trimSpace (s : String) : String :=
  String.ofList (((s.toList.dropWhile isUnicodeSpace).reverse.dropWhile isUnicodeSpace).reverse)

variable {u : Uuids}

def Conn.userID (conn : Conn u) : String := u.text conn.user.1

def Conn.shopID (conn : Conn u) : String :=
  match conn.shop with
  | some shop => u.text shop.1
  | none => ""

/-- `Verify` and `authenticate`, on the subject of a token that verifies and the answer of the shop service. -/
def authenticate (u : Uuids) (subject : String) (shop : Option (Uuid u)) : Option (Conn u) :=
  match read : u.parse subject with
  | some user => some ⟨⟨user, u.parse_text read⟩, shop⟩
  | none => none

/-- The connections that are open, and the frames handed to `Send` of each. -/
structure Gateway (u : Uuids) where
  store : ChatStore := {}
  hub : Hub := {}
  conns : Nat → Option (Conn u) := fun _ => none
  handed : Nat → List ServerFrame := fun _ => []

/-- A frame's request to the store, and what the store does until it has ended. -/
structure SendCall where
  allowed : Bool
  request : Nat
  schedule : List ChatStore.Move

namespace Gateway

def send (g : Gateway u) (c : Nat) (frame : ServerFrame) : Gateway u :=
  { g with handed := Function.update g.handed c (g.handed c ++ [frame]) }

def sendError (g : Gateway u) (c : Nat) (reason clientMsgID : String) : Gateway u :=
  g.send c { type := "error", reason, clientMsgID }

def broadcast (g : Gateway u) (key : String) (skip : Nat) (frame : ServerFrame) : Gateway u :=
  { g with handed := fun c => if c ∈ g.hub.targets key skip then g.handed c ++ [frame] else g.handed c }

def messageFrame (target : DirectTarget) (m : Message) : ServerFrame where
  type := "message"
  conversationID := target.conversationID
  id := u.text m.id
  senderID := target.senderParticipantID
  senderRole := target.senderRole
  text := m.body
  createdAt := some m.createdAt

def fanout (g : Gateway u) (sender : Nat) (target : DirectTarget) (m : Message) (clientMsgID : String) : Gateway u :=
  let message := messageFrame (u := u) target m
  let g := g.broadcast (userKey target.buyerUserID) sender message
  let g := g.broadcast (shopKey target.shopID) sender message
  g.send sender { message with clientMsgID }

/-- `resolveTarget`, up to its first statement. -/
def resolveTarget (s : ChatStore) (conn : Conn u) (frame : ClientFrame) (request : Nat) (text : String) :
    Except String ChatStore :=
  if frame.conversationID ≠ "" then
    match u.column frame.conversationID with
    | some conversation => .ok (s.act (.send request conversation conn.user.1 (conn.shop.map (·.1)) text))
    | none => .error "send_failed"
  else if frame.shopID = "" then .error "missing_target"
  else if conn.shopID ≠ "" ∧ conn.shopID = frame.shopID then .error "own_shop"
  else
    match u.parse conn.userID, u.parse frame.shopID with
    | some buyer, some shop => .ok (s.act (.openWith request buyer shop none text))
    | _, _ => .error "send_failed"

def senderRole (conn : Conn u) (c : Conversation) : String := if u.text c.owner = conn.userID then "user" else "seller"

/-- What `resolveTarget` returns, for a message in a conversation. -/
def targetOf (conn : Conn u) (frame : ClientFrame) (m : Message) (c : Conversation) : DirectTarget :=
  if frame.conversationID ≠ "" then
    { conversationID := u.text m.conversation
      buyerUserID := u.text c.owner
      shopID := u.text c.shop
      senderParticipantID := u.text m.sender
      senderRole := senderRole conn c }
  else
    { conversationID := u.text m.conversation
      buyerUserID := conn.userID
      shopID := frame.shopID
      senderParticipantID := u.text m.sender
      senderRole := "user" }

def TextFits (text : String) : Prop := text ≠ "" ∧ text.toList.length ≤ maxTextRunes

instance (text : String) : Decidable (TextFits text) := inferInstanceAs (Decidable (_ ∧ _))

def handleSend (g : Gateway u) (sender : Nat) (conn : Conn u) (frame : ClientFrame) (call : SendCall) : Gateway u :=
  let text := trimSpace frame.text
  if ¬TextFits text then g.sendError sender "bad_text" frame.clientMsgID
  else if ¬call.allowed then g.sendError sender "too_fast" frame.clientMsgID
  else
    match resolveTarget g.store conn frame call.request text with
    | .error reason => g.sendError sender reason frame.clientMsgID
    | .ok begun =>
      let g := { g with store := Machine.run ChatStore.act begun call.schedule }
      match ChatStore.outcome call.request begun call.schedule with
      | .stored m =>
        match g.store.conversations m.conversation with
        | some c => g.fanout sender (targetOf conn frame m c) m frame.clientMsgID
        | none => g
      | .notFound => g.sendError sender "conversation_not_found" frame.clientMsgID
      | .failed => g.sendError sender "send_failed" frame.clientMsgID
      | .pending => g

/-- What happens at the gateway; `store` is a statement of another request. -/
inductive Event (u : Uuids) where
  | connect (c : Nat) (subject : String) (shop : Option (Uuid u))
  | disconnect (c : Nat)
  | frame (c : Nat) (frame : ClientFrame) (call : SendCall)
  | store (m : ChatStore.Move)

def act (g : Gateway u) : Event u → Gateway u
  | .connect c subject shop =>
    match authenticate u subject shop with
    | some conn =>
      { g with
        hub := g.hub.join c [userKey conn.userID, shopKey conn.shopID]
        conns := Function.update g.conns c (some conn) }.send c
          { type := "ready", userID := conn.userID, shopID := conn.shopID }
    | none => g
  | .disconnect c => { g with hub := g.hub.leave c, conns := Function.update g.conns c none }
  | .frame c frame call =>
    match g.conns c with
    | some conn =>
      if frame.type = "send" then g.handleSend c conn frame call
      else g.sendError c "unsupported_type" frame.clientMsgID
    | none => g
  | .store m => { g with store := g.store.act m }

def Ended : Statement → Prop
  | .idle => True
  | .finished => True
  | .failed => True
  | _ => False

/-- A new connection is another one, and a frame is handled to its end by a request of its own. -/
def Can (g : Gateway u) : Event u → Prop
  | .connect c _ _ => g.conns c = none
  | .frame c frame call =>
    g.store.requests call.request = .idle ∧ Ended ((g.act (.frame c frame call)).store.requests call.request)
  | _ => True

abbrev Reached : Gateway u → Prop := Machine.Reached act Can {}

/-- The frame gets past the checks that need no store. -/
def Accepted (frame : ClientFrame) (call : SendCall) : Prop :=
  frame.type = "send" ∧ TextFits (trimSpace frame.text) ∧ call.allowed

/-- The frame begins with the store in this state. -/
def Begins (g : Gateway u) (conn : Conn u) (frame : ClientFrame) (call : SendCall) (begun : ChatStore) : Prop :=
  Accepted frame call ∧ resolveTarget g.store conn frame call.request (trimSpace frame.text) = .ok begun

/-- The frame's message is stored. -/
def Stores (g : Gateway u) (conn : Conn u) (frame : ClientFrame) (call : SendCall) (m : Message) : Prop :=
  ∃ begun, Begins g conn frame call begun ∧ ChatStore.outcome call.request begun call.schedule = .stored m

/-- The frame asks the store for the conversation of a shop, as its buyer. -/
def Opens (g : Gateway u) (conn : Conn u) (frame : ClientFrame) (call : SendCall) (shop : Nat) : Prop :=
  ∃ begun, Begins g conn frame call begun ∧ ∃ buyer body, begun.requests call.request = .finding buyer shop body

def OfBuyer (c : Conversation) (conn : Conn u) : Prop := conn.userID = u.text c.owner

def OfShop (c : Conversation) (conn : Conn u) : Prop := conn.shopID = u.text c.shop

/-- The other connections of the buyer and of the shop have the message once, the sender its echo, no other anything. -/
structure HandedOut (g t : Gateway u) (sender : Nat) (c : Conversation) (message : ServerFrame) (clientMsgID : String) :
    Prop where
  echo : t.handed sender = g.handed sender ++ [{ message with clientMsgID }]
  due : ∀ other conn, other ≠ sender → g.conns other = some conn → OfBuyer c conn ∨ OfShop c conn →
    t.handed other = g.handed other ++ [message]
  others : ∀ other, other ≠ sender → (∀ conn, g.conns other = some conn → ¬OfBuyer c conn ∧ ¬OfShop c conn) →
    t.handed other = g.handed other

structure FrameRight (g : Gateway u) (sender : Nat) (conn : Conn u) (frame : ClientFrame) (call : SendCall) : Prop where
  handed : ∀ m, Stores g conn frame call m → ∃ c message,
    (g.act (.frame sender frame call)).store.conversations m.conversation = some c ∧
    message = ({
      type := "message"
      conversationID := u.text m.conversation
      id := u.text m.id
      senderID := u.text m.sender
      senderRole := senderRole conn c
      text := m.body
      createdAt := some m.createdAt } : ServerFrame) ∧
    HandedOut g (g.act (.frame sender frame call)) sender c message frame.clientMsgID
  ownShop : ∀ shop, Opens g conn frame call shop → conn.shopID ≠ u.text shop

/-- Where the ids are spelled as the service spells them, no other connection is of both sides. Where a shop's is not,
the buyer's connections are all that the shop has, and it is not the sender's shop. -/
structure FrameFine (g : Gateway u) (sender : Nat) (conn : Conn u) (frame : ClientFrame) (call : SendCall) : Prop where
  rooms : ∀ m c other otherConn, Stores g conn frame call m →
    (g.act (.frame sender frame call)).store.conversations m.conversation = some c →
    other ≠ sender → g.conns other = some otherConn →
    if frame.conversationID ≠ "" ∨ frame.shopID = u.text c.shop then ¬(OfBuyer c otherConn ∧ OfShop c otherConn)
    else OfShop c otherConn → OfBuyer c otherConn
  ownShop : Accepted frame call → frame.conversationID = "" → frame.shopID ≠ "" →
    ∀ shop, u.parse frame.shopID = some shop → conn.shopID = u.text shop → frame.shopID = u.text shop

def roomKeys (conn : Conn u) : List String :=
  [userKey conn.userID, shopKey conn.shopID].filter (¬Hub.Nameless ·)

/-- The rooms hold the open connections, each by its keys. -/
structure Tracked (g : Gateway u) : Prop where
  keys : ∀ c, g.hub.keys c = ((g.conns c).map roomKeys).getD []
  rooms : ∀ key c, c ∈ g.hub.rooms key ↔ ∃ conn, g.conns c = some conn ∧ key ∈ roomKeys conn
  sound : ChatStore.Sound g.store

theorem userKey_mem {conn : Conn u} {userID : String} : userKey userID ∈ roomKeys conn ↔ conn.userID = userID := by
  simp only [roomKeys, List.mem_filter, List.mem_cons, userKey_inj, userKey_ne, List.not_mem_nil, or_false,
    Hub.userKey_named, not_false_eq_true, decide_true, and_true]
  exact eq_comm

theorem shopKey_mem {conn : Conn u} {shopID : String} :
    shopKey shopID ∈ roomKeys conn ↔ conn.shopID = shopID ∧ shopID ≠ "" := by
  simp only [roomKeys, List.mem_filter, List.mem_cons, shopKey_inj, (userKey_ne _ _).symm, List.not_mem_nil, or_false,
    false_or, Hub.shopKey_nameless, decide_eq_true_eq]
  exact and_congr_left' eq_comm

theorem fanout_handed (g : Gateway u) (sender : Nat) (target : DirectTarget) (m : Message) (clientMsgID : String)
    (other : Nat) :
    (g.fanout sender target m clientMsgID).handed other = g.handed other ++
      ((if other ∈ g.hub.targets (userKey target.buyerUserID) sender then [messageFrame (u := u) target m] else []) ++
      (if other ∈ g.hub.targets (shopKey target.shopID) sender then [messageFrame (u := u) target m] else []) ++
      if other = sender then [{ messageFrame (u := u) target m with clientMsgID }] else []) := by
  unfold fanout broadcast send
  by_cases same : other = sender
  · subst same
    simp
  · simp only [Function.update_of_ne same, same, ↓reduceIte]
    split <;> split <;> simp

theorem Tracked.frame {g t : Gateway u} (tracked : Tracked g) (hub : t.hub = g.hub) (conns : t.conns = g.conns)
    (sound : ChatStore.Sound t.store) : Tracked t where
  keys := by rw [hub, conns]; exact tracked.keys
  rooms := by rw [hub, conns]; exact tracked.rooms
  sound := sound

theorem resolveTarget_sound {s begun : ChatStore} {conn : Conn u} {frame : ClientFrame} {request : Nat} {text : String}
    (sound : ChatStore.Sound s) (begins : resolveTarget s conn frame request text = .ok begun) :
    ChatStore.Sound begun := by
  unfold resolveTarget at begins
  split at begins
  · split at begins
    · cases begins
      exact sound.act _
    · cases begins
  · split at begins
    · cases begins
    · split at begins
      · cases begins
      · split at begins
        · cases begins
          exact sound.act _
        · cases begins

theorem run_sound {s : ChatStore} (sound : ChatStore.Sound s) (moves : List ChatStore.Move) :
    ChatStore.Sound (Machine.run ChatStore.act s moves) := by
  induction moves generalizing s with
  | nil => exact sound
  | cons m rest ih => exact ih (sound.act m)

theorem Tracked.handleSend {g : Gateway u} (tracked : Tracked g) (sender : Nat) (conn : Conn u) (frame : ClientFrame)
    (call : SendCall) : Tracked (g.handleSend sender conn frame call) := by
  unfold Gateway.handleSend
  dsimp only
  split
  · exact tracked.frame rfl rfl tracked.sound
  · split
    · exact tracked.frame rfl rfl tracked.sound
    · split
      · exact tracked.frame rfl rfl tracked.sound
      · rename_i begun begins
        have sound := run_sound (resolveTarget_sound tracked.sound begins) call.schedule
        split
        · split <;> exact tracked.frame rfl rfl sound
        all_goals exact tracked.frame rfl rfl sound

theorem Tracked.connect {g : Gateway u} {c : Nat} (tracked : Tracked g) (closed : g.conns c = none) (subject : String)
    (shop : Option (Uuid u)) : Tracked (g.act (.connect c subject shop)) := by
  unfold Gateway.act
  dsimp only
  split
  · rename_i conn _
    refine ⟨fun other => ?_, fun key other => ?_, tracked.sound⟩
    · show (g.hub.join c [userKey conn.userID, shopKey conn.shopID]).keys other =
        (Option.map roomKeys (Function.update g.conns c (some conn) other)).getD []
      by_cases same : other = c
      · subst same
        rw [Hub.join_keys, tracked.keys, closed, Function.update_self]
        rfl
      · rw [Hub.join_keys_other _ _ same, Function.update_of_ne same]
        exact tracked.keys other
    · show other ∈ (g.hub.join c [userKey conn.userID, shopKey conn.shopID]).rooms key ↔
        ∃ k, Function.update g.conns c (some conn) other = some k ∧ key ∈ roomKeys k
      rw [Hub.mem_join, tracked.rooms]
      by_cases same : other = c
      · subst same
        simp [closed, roomKeys]
      · simp [same]
  · exact tracked

theorem Tracked.disconnect {g : Gateway u} (tracked : Tracked g) (c : Nat) :
    Tracked (g.act (.disconnect c)) := by
  refine ⟨fun other => ?_, fun key other => ?_, tracked.sound⟩
  · show Function.update g.hub.keys c [] other = (Option.map roomKeys (Function.update g.conns c none other)).getD []
    by_cases same : other = c
    · subst same
      simp
    · rw [Function.update_of_ne same, Function.update_of_ne same]
      exact tracked.keys other
  · show other ∈ (g.hub.leave c).rooms key ↔ ∃ k, Function.update g.conns c none other = some k ∧ key ∈ roomKeys k
    rw [Hub.mem_leave, tracked.rooms, tracked.keys]
    by_cases same : other = c
    · subst same
      cases open_ : g.conns other <;> simp
    · simp [same]

theorem tracked_reached {g : Gateway u} (reached : Reached g) : Tracked g := by
  apply reached.invariant ⟨fun _ => rfl, by simp, ChatStore.sound_start⟩
  intro g e tracked can
  cases e with
  | connect c subject shop => exact tracked.connect can subject shop
  | disconnect c => exact tracked.disconnect c
  | frame c frame call =>
    unfold Gateway.act
    dsimp only
    split
    · split
      · exact tracked.handleSend ..
      · exact tracked.frame rfl rfl tracked.sound
    · exact tracked
  | store m => exact tracked.frame rfl rfl (tracked.sound.act m)

/-- The rooms that `fanout` broadcasts to. -/
def InUserRoom (target : DirectTarget) (conn : Conn u) : Prop := conn.userID = target.buyerUserID

def InShopRoom (target : DirectTarget) (conn : Conn u) : Prop := conn.shopID = target.shopID ∧ target.shopID ≠ ""

instance (target : DirectTarget) (conn : Conn u) : Decidable (InUserRoom target conn) :=
  inferInstanceAs (Decidable (_ = _))

instance (target : DirectTarget) (conn : Conn u) : Decidable (InShopRoom target conn) :=
  inferInstanceAs (Decidable (_ ∧ _))

theorem user_target {g : Gateway u} (tracked : Tracked g) {target : DirectTarget} {sender other : Nat} {conn : Conn u}
    (open_ : g.conns other = some conn) (ne : other ≠ sender) :
    other ∈ g.hub.targets (userKey target.buyerUserID) sender ↔ InUserRoom target conn := by
  rw [Hub.mem_targets, tracked.rooms]
  simp [open_, ne, userKey_mem, InUserRoom]

theorem shop_target {g : Gateway u} (tracked : Tracked g) {target : DirectTarget} {sender other : Nat} {conn : Conn u}
    (open_ : g.conns other = some conn) (ne : other ≠ sender) :
    other ∈ g.hub.targets (shopKey target.shopID) sender ↔ InShopRoom target conn := by
  rw [Hub.mem_targets, tracked.rooms]
  simp [open_, ne, shopKey_mem, InShopRoom]

theorem closed_target {g : Gateway u} (tracked : Tracked g) {sender other : Nat} (closed : g.conns other = none)
    (key : String) : other ∉ g.hub.targets key sender := by
  rw [Hub.mem_targets, tracked.rooms]
  simp [closed]

/-- A connection has the message once for each of the rooms that it is in. -/
theorem handedOut_iff {g : Gateway u} (tracked : Tracked g) (sender : Nat) (target : DirectTarget) (m : Message)
    (clientMsgID : String) (c : Conversation) :
    HandedOut g (g.fanout sender target m clientMsgID) sender c (messageFrame (u := u) target m) clientMsgID ↔
      ∀ other conn, other ≠ sender → g.conns other = some conn →
        (InUserRoom target conn ∨ InShopRoom target conn ↔ OfBuyer c conn ∨ OfShop c conn) ∧
        ¬(InUserRoom target conn ∧ InShopRoom target conn) := by
  constructor
  · intro handed other conn ne open_
    have frames := fanout_handed g sender target m clientMsgID other
    simp only [user_target tracked open_ ne, shop_target tracked open_ ne, ne, ↓reduceIte, List.append_nil] at frames
    by_cases due : OfBuyer c conn ∨ OfShop c conn
    · rw [handed.due other conn ne open_ due, List.append_cancel_left_eq] at frames
      by_cases user : InUserRoom target conn <;> by_cases shop : InShopRoom target conn <;>
        simp_all
    · have none_ := handed.others other ne (by simpa [open_] using due)
      rw [none_] at frames
      by_cases user : InUserRoom target conn <;> by_cases shop : InShopRoom target conn <;>
        simp_all
  · intro rooms
    refine ⟨?_, ?_, ?_⟩
    · rw [fanout_handed]
      simp
    · intro other conn ne open_ due
      obtain ⟨reached, once⟩ := rooms other conn ne open_
      rw [fanout_handed]
      simp only [user_target tracked open_ ne, shop_target tracked open_ ne, ne, ↓reduceIte, List.append_nil]
      rcases reached.mpr due with user | shop
      · have alone : ¬InShopRoom target conn := fun shop => once ⟨user, shop⟩
        simp [user, alone]
      · have alone : ¬InUserRoom target conn := fun user => once ⟨user, shop⟩
        simp [shop, alone]
    · intro other ne none_
      rw [fanout_handed]
      cases open_ : g.conns other with
      | none => simp [closed_target tracked open_, ne]
      | some conn =>
        have out := mt (rooms other conn ne open_).1.mp (not_or.mpr (none_ conn open_))
        rw [not_or] at out
        simp [user_target tracked open_ ne, shop_target tracked open_ ne, ne, out.1, out.2]

theorem conn_reads (conn : Conn u) : u.parse conn.userID = some conn.user.1 := conn.user.2

/-- Past `resolveTarget`, a frame that names a shop asks for the conversation of its sender with that shop. -/
theorem begins_opening {g : Gateway u} {conn : Conn u} {frame : ClientFrame} {call : SendCall} {begun : ChatStore}
    (idle : g.store.requests call.request = .idle) (byShop : frame.conversationID = "")
    (begins : Begins g conn frame call begun) :
    ∃ shop, u.parse frame.shopID = some shop ∧ frame.shopID ≠ "" ∧ (conn.shopID ≠ "" → conn.shopID ≠ frame.shopID) ∧
      begun.requests call.request = .finding conn.user.1 shop (trimSpace frame.text) := by
  obtain ⟨_, begins⟩ := begins
  unfold resolveTarget at begins
  rw [if_neg (by simpa using byShop)] at begins
  split at begins
  · cases begins
  rename_i named
  split at begins
  · cases begins
  rename_i other
  rw [conn_reads conn] at begins
  cases read : u.parse frame.shopID with
  | none =>
    rw [read] at begins
    cases begins
  | some shop =>
    rw [read] at begins
    cases begins
    refine ⟨shop, rfl, named, fun some_ same => other ⟨some_, same⟩, ?_⟩
    show (g.store.start call.request (.finding conn.user.1 shop (trimSpace frame.text))).requests call.request = _
    unfold ChatStore.start
    rw [if_pos idle, ChatStore.become_self]

theorem act_stores {g : Gateway u} {sender : Nat} {conn : Conn u} {frame : ClientFrame} {call : SendCall} {m : Message}
    (tracked : Tracked g) (open_ : g.conns sender = some conn) (stores : Stores g conn frame call m) :
    ∃ begun c, Begins g conn frame call begun ∧
      (Machine.run ChatStore.act begun call.schedule).conversations m.conversation = some c ∧
      (∀ buyer shop, ChatStore.Opening begun buyer shop (begun.requests call.request) → c.owner = buyer ∧ c.shop = shop) ∧
      g.act (.frame sender frame call) =
        ({ g with store := Machine.run ChatStore.act begun call.schedule }).fanout sender (targetOf conn frame m c) m
          frame.clientMsgID := by
  obtain ⟨begun, begins, stored⟩ := stores
  obtain ⟨⟨type, fits, allowed⟩, resolved⟩ := begins
  obtain ⟨c, row, named⟩ := ChatStore.stored_row (resolveTarget_sound tracked.sound resolved) stored
  refine ⟨begun, c, ⟨⟨type, fits, allowed⟩, resolved⟩, row, named, ?_⟩
  show (match g.conns sender with
    | some conn => if frame.type = "send" then g.handleSend sender conn frame call
      else g.sendError sender "unsupported_type" frame.clientMsgID
    | none => g) = _
  rw [open_]
  dsimp only
  rw [if_pos type]
  unfold handleSend
  simp only [fits, not_true_eq_false, ↓reduceIte, allowed, resolved, stored, row]

/-- The frame says of the message what is stored of it. -/
theorem messageFrame_target {conn : Conn u} {frame : ClientFrame} {c : Conversation} (m : Message)
    (sender : frame.conversationID = "" → conn.userID = u.text c.owner) :
    messageFrame (u := u) (targetOf conn frame m c) m = {
      type := "message"
      conversationID := u.text m.conversation
      id := u.text m.id
      senderID := u.text m.sender
      senderRole := senderRole conn c
      text := m.body
      createdAt := some m.createdAt } := by
  unfold messageFrame targetOf
  by_cases byShop : frame.conversationID = ""
  · have role : senderRole conn c = "user" := by
      unfold senderRole
      rw [if_pos (sender byShop).symm]
    simp [byShop, role]
  · simp [byShop]

theorem rooms_of_spelled {conn : Conn u} {frame : ClientFrame} {c : Conversation} (m : Message) (other : Conn u)
    (buyer : frame.conversationID = "" → conn.userID = u.text c.owner)
    (spelled : frame.conversationID ≠ "" ∨ frame.shopID = u.text c.shop) :
    (InUserRoom (targetOf conn frame m c) other ↔ OfBuyer c other) ∧
      (InShopRoom (targetOf conn frame m c) other ↔ OfShop c other) := by
  unfold InUserRoom InShopRoom OfBuyer OfShop targetOf
  have shop := u.text_ne c.shop
  by_cases byShop : frame.conversationID = ""
  · have spelled : frame.shopID = u.text c.shop := spelled.resolve_left (not_not_intro byShop)
    simp [byShop, spelled, shop, buyer byShop]
  · simp [byShop, shop]

/-- The room of a spelling that the service does not use is empty. -/
theorem rooms_of_respelled {conn : Conn u} {frame : ClientFrame} {c : Conversation} (m : Message) (other : Conn u)
    (buyer : conn.userID = u.text c.owner) (shop : u.parse frame.shopID = some c.shop) (named : frame.shopID ≠ "")
    (byShop : frame.conversationID = "") (respelled : frame.shopID ≠ u.text c.shop) :
    (InUserRoom (targetOf conn frame m c) other ↔ OfBuyer c other) ∧ ¬InShopRoom (targetOf conn frame m c) other := by
  unfold InUserRoom InShopRoom OfBuyer targetOf
  refine ⟨by simp [byShop, buyer], ?_⟩
  simp only [byShop, ne_eq, not_true_eq_false, ↓reduceIte, named, not_false_eq_true, and_true]
  unfold Conn.shopID
  cases theirs : other.shop with
  | none => exact fun same => named same.symm
  | some id =>
    intro same
    have same : u.text id.1 = frame.shopID := same
    have read := id.2
    rw [same, shop] at read
    have eq : c.shop = id.1 := Option.some.inj read
    exact respelled (by rw [eq]; exact same.symm)

theorem opens_iff {g : Gateway u} {conn : Conn u} {frame : ClientFrame} {call : SendCall}
    (idle : g.store.requests call.request = .idle) (shop : Nat) :
    Opens g conn frame call shop ↔ Accepted frame call ∧ frame.conversationID = "" ∧ frame.shopID ≠ "" ∧
      ¬(conn.shopID ≠ "" ∧ conn.shopID = frame.shopID) ∧ u.parse frame.shopID = some shop := by
  constructor
  · rintro ⟨begun, begins, buyer, body, asks⟩
    have accepted := begins.1
    by_cases byShop : frame.conversationID = ""
    · obtain ⟨named, read, some_, other, stands⟩ := begins_opening idle byShop begins
      rw [stands] at asks
      cases asks
      exact ⟨accepted, byShop, some_, fun own => other own.1 own.2, read⟩
    · obtain ⟨_, resolved⟩ := begins
      unfold resolveTarget at resolved
      rw [if_pos byShop] at resolved
      cases read : u.column frame.conversationID with
      | none =>
        rw [read] at resolved
        cases resolved
      | some conversation =>
        rw [read] at resolved
        cases resolved
        have begun : (g.store.act (.send call.request conversation conn.user.1 (conn.shop.map (·.1))
            (trimSpace frame.text))).requests call.request = .asking conversation conn.user.1 (conn.shop.map (·.1))
              (.send (trimSpace frame.text)) := by
          show (g.store.start call.request _).requests call.request = _
          unfold ChatStore.start
          rw [if_pos idle, ChatStore.become_self]
        rw [begun] at asks
        cases asks
  · rintro ⟨accepted, byShop, named, other, read⟩
    have resolved : resolveTarget g.store conn frame call.request (trimSpace frame.text) =
        .ok (g.store.act (.openWith call.request conn.user.1 shop none (trimSpace frame.text))) := by
      unfold resolveTarget
      rw [if_neg (by simpa using byShop), if_neg named, if_neg other, conn_reads conn, read]
    obtain ⟨found, reads, _, _, stands⟩ := begins_opening idle byShop ⟨accepted, resolved⟩
    rw [read] at reads
    cases reads
    exact ⟨_, ⟨accepted, resolved⟩, _, _, stands⟩

theorem HandedOut.of_store (g t : Gateway u) (store : ChatStore) (sender : Nat) (c : Conversation)
    (message : ServerFrame) (clientMsgID : String) :
    HandedOut g t sender c message clientMsgID ↔
      HandedOut { g with store } t sender c message clientMsgID :=
  ⟨fun handed => ⟨handed.echo, handed.due, handed.others⟩, fun handed => ⟨handed.echo, handed.due, handed.others⟩⟩

theorem handedOut_stores {g : Gateway u} {sender : Nat} {conn : Conn u} {frame : ClientFrame} {call : SendCall} {m : Message}
    (tracked : Tracked g) (open_ : g.conns sender = some conn) (idle : g.store.requests call.request = .idle)
    (stores : Stores g conn frame call m) :
    ∃ c, (g.act (.frame sender frame call)).store.conversations m.conversation = some c ∧
      ((∃ message, message = ({
        type := "message"
        conversationID := u.text m.conversation
        id := u.text m.id
        senderID := u.text m.sender
        senderRole := senderRole conn c
        text := m.body
        createdAt := some m.createdAt } : ServerFrame) ∧
        HandedOut g (g.act (.frame sender frame call)) sender c message frame.clientMsgID) ↔
      ∀ other otherConn, other ≠ sender → g.conns other = some otherConn →
        if frame.conversationID ≠ "" ∨ frame.shopID = u.text c.shop then ¬(OfBuyer c otherConn ∧ OfShop c otherConn)
        else OfShop c otherConn → OfBuyer c otherConn) := by
  obtain ⟨begun, c, begins, row, named, acts⟩ := act_stores tracked open_ stores
  rw [acts]
  refine ⟨c, row, ?_⟩
  have sides : frame.conversationID = "" → conn.userID = u.text c.owner ∧ u.parse frame.shopID = some c.shop ∧
      frame.shopID ≠ "" := by
    intro byShop
    obtain ⟨shop, read, some_, _, stands⟩ := begins_opening idle byShop begins
    have opening : ChatStore.Opening begun conn.user.1 shop (begun.requests call.request) := by
      rw [stands]
      exact ⟨rfl, rfl⟩
    obtain ⟨owner, at_⟩ := named _ _ opening
    exact ⟨by rw [owner]; rfl, by rw [at_]; exact read, some_⟩
  have tracked : Tracked ({ g with store := Machine.run ChatStore.act begun call.schedule } : Gateway u) :=
    tracked.frame rfl rfl (run_sound (resolveTarget_sound tracked.sound begins.2) call.schedule)
  have iff_ := handedOut_iff tracked sender (targetOf conn frame m c) m frame.clientMsgID c
  rw [messageFrame_target m fun byShop => (sides byShop).1] at iff_
  rw [exists_eq_left]
  have iff_ := (HandedOut.of_store ..).trans iff_
  refine iff_.trans ?_
  apply forall_congr'; intro other
  apply forall_congr'; intro otherConn
  apply imp_congr_right; intro ne
  apply imp_congr_right; intro _
  by_cases spelled : frame.conversationID ≠ "" ∨ frame.shopID = u.text c.shop
  · obtain ⟨user, shop⟩ := rooms_of_spelled m otherConn (fun byShop => (sides byShop).1) spelled
    rw [if_pos spelled, user, shop]
    simp
  · rw [not_or, not_not] at spelled
    obtain ⟨buyer, read, some_⟩ := sides spelled.1
    obtain ⟨user, shop⟩ := rooms_of_respelled m otherConn buyer read some_ spelled.1 spelled.2
    rw [if_neg (by simpa using spelled), user]
    simp [shop]

theorem delivered_right {g : Gateway u} {sender : Nat} {conn : Conn u} {frame : ClientFrame} {call : SendCall}
    (reached : Reached g) (open_ : g.conns sender = some conn) (can : Can g (.frame sender frame call)) :
    FrameRight g sender conn frame call ↔ FrameFine g sender conn frame call := by
  have tracked := tracked_reached reached
  have idle : g.store.requests call.request = .idle := can.1
  constructor
  · intro right
    refine ⟨?_, ?_⟩
    · intro m c other otherConn stores row
      obtain ⟨d, same, rooms⟩ := handedOut_stores tracked open_ idle stores
      obtain ⟨e, message, found, shape, handed⟩ := right.handed m stores
      rw [row] at same found
      cases same
      cases found
      exact rooms.mp ⟨message, shape, handed⟩ other otherConn
    · intro accepted byShop named shop read own
      by_contra respelled
      have other : ¬(conn.shopID ≠ "" ∧ conn.shopID = frame.shopID) := fun same => respelled (same.2.symm.trans own)
      exact right.ownShop shop ((opens_iff idle shop).mpr ⟨accepted, byShop, named, other, read⟩) own
  · intro fine
    refine ⟨?_, ?_⟩
    · intro m stores
      obtain ⟨c, row, rooms⟩ := handedOut_stores tracked open_ idle stores
      obtain ⟨message, shape, handed⟩ := rooms.mpr fun other otherConn =>
        fine.rooms m c other otherConn stores row
      exact ⟨c, message, row, shape, handed⟩
    · intro shop opens own
      obtain ⟨accepted, byShop, named, other, read⟩ := (opens_iff idle shop).mp opens
      have spelled := fine.ownShop accepted byShop named shop read own
      exact other ⟨by rw [own]; exact u.text_ne shop, by rw [own, spelled]⟩

/-- Some spellings of three ids. -/
def spellings : List (String × Nat) := [
  ("00000000-0000-0000-0000-000000000001", 1),
  ("00000000-0000-0000-0000-000000000002", 2),
  ("00000000-0000-0000-0000-0000000000ab", 0xab),
  ("00000000-0000-0000-0000-0000000000AB", 0xab),
  ("{00000000-0000-0000-0000-0000000000ab}", 0xab),
  ("urn:uuid:00000000-0000-0000-0000-0000000000ab", 0xab)]

def idText : Nat → String
  | 0xab => "00000000-0000-0000-0000-0000000000ab"
  | id => "00000000-0000-0000-0000-00000000000" ++ toString id

theorem idText_read : ∀ entry ∈ spellings, spellings.lookup (idText entry.2) = some entry.2 := by decide

def fewUuids : Uuids where
  parse spelling := spellings.lookup spelling
  -- the database knows no `urn:uuid:`
  column spelling := (spellings.take 5).lookup spelling
  text := idText
  parse_text := by
    intro spelling id read
    obtain ⟨before, after, split_, _⟩ := List.lookup_eq_some_iff.mp read
    apply idText_read (spelling, id)
    rw [split_]
    simp
  text_ne := by
    intro id
    unfold idText
    split <;> simp

def buyerConn : Conn fewUuids := ⟨⟨1, by decide⟩, none⟩

def shopConn : Conn fewUuids := ⟨⟨2, by decide⟩, some ⟨0xab, by decide⟩⟩

/-- A buyer and a seller are connected. -/
def twoConnected : Gateway fewUuids := Machine.run act {} [
  .connect 0 "00000000-0000-0000-0000-000000000001" none,
  .connect 1 "00000000-0000-0000-0000-000000000002" (some ⟨0xab, by decide⟩)]

def greeting (shopID : String) : ClientFrame := { type := "send", shopID, text := "hi" }

def uninterrupted : SendCall := ⟨true, 0, List.replicate 9 (.advance 0)⟩

theorem twoConnected_reached : Reached twoConnected := Machine.Reached.run .start ⟨rfl, rfl, trivial⟩

/-- The conversation in which the greeting is stored. -/
theorem greeting_row {begun : ChatStore} {m : Message} {c : Conversation}
    (asked : begun = ({} : ChatStore).act (.openWith 0 1 0xab none "hi"))
    (stored : ChatStore.outcome 0 begun uninterrupted.schedule = .stored m)
    (row : (Machine.run ChatStore.act begun uninterrupted.schedule).conversations m.conversation = some c) :
    c.owner = 1 ∧ c.shop = 0xab := by
  subst asked
  have sent : ChatStore.outcome 0 (({} : ChatStore).act (.openWith 0 1 0xab none "hi")) uninterrupted.schedule =
      .stored { id := 2, conversation := 0, sender := 1, sentBy := 1, body := "hi" } := by decide
  rw [sent] at stored
  cases stored
  cases row
  exact ⟨rfl, rfl⟩

theorem both_reached :
    FrameRight twoConnected 0 buyerConn (greeting "00000000-0000-0000-0000-0000000000ab") uninterrupted := by
  have can : Can twoConnected (.frame 0 (greeting "00000000-0000-0000-0000-0000000000ab") uninterrupted) :=
    ⟨rfl, trivial⟩
  apply (delivered_right twoConnected_reached rfl can).mpr
  refine ⟨?_, ?_⟩
  · intro m c other otherConn stores row ne open_
    obtain ⟨begun, ⟨_, resolved⟩, stored⟩ := stores
    cases resolved
    have row : (Machine.run ChatStore.act (({} : ChatStore).act (.openWith 0 1 0xab none "hi"))
        uninterrupted.schedule).conversations m.conversation = some c := row
    obtain ⟨owner, shop⟩ := greeting_row rfl stored row
    rw [if_pos (.inr (by rw [shop]; rfl))]
    rintro ⟨buyer, _⟩
    unfold OfBuyer at buyer
    rw [owner] at buyer
    have other_ : other = 1 := by
      by_contra third
      have open_ : Function.update (Function.update (fun _ => none) 0 (some buyerConn)) 1 (some shopConn) other =
          some otherConn := open_
      rw [Function.update_of_ne third, Function.update_of_ne ne] at open_
      cases open_
    subst other_
    cases open_
    exact absurd buyer (by decide)
  · intro _ _ _ shop _ own
    exact absurd own.symm (fewUuids.text_ne shop)

theorem not_delivered_right : ¬∀ (u : Uuids) (g : Gateway u) (sender : Nat) (conn : Conn u) (frame : ClientFrame)
    (call : SendCall), Reached g → g.conns sender = some conn → Can g (.frame sender frame call) →
      FrameRight g sender conn frame call := by
  intro right
  have right := right fewUuids twoConnected 0 buyerConn (greeting "00000000-0000-0000-0000-0000000000AB") uninterrupted
    twoConnected_reached rfl ⟨rfl, trivial⟩
  obtain ⟨c, message, row, _, handed⟩ := right.handed
    { id := 2, conversation := 0, sender := 1, sentBy := 1, body := "hi" }
    ⟨_, ⟨⟨rfl, by decide, rfl⟩, rfl⟩, by decide⟩
  have shop : OfShop c shopConn := by
    cases row
    rfl
  have due := handed.due 1 shopConn (by decide) rfl (.inr shop)
  have frames := congrArg List.length due
  rw [List.length_append] at frames
  have before : (twoConnected.handed 1).length = 1 := by decide
  have after : ((twoConnected.act (.frame 0 (greeting "00000000-0000-0000-0000-0000000000AB") uninterrupted)).handed
      1).length = 1 := by decide
  rw [before, after] at frames
  cases frames

end Gateway

end Marketplace.Chat
