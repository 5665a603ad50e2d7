import Marketplace.Machine
import Marketplace.Schema
import Mathlib.Algebra.GroupWithZero.Nat
import Mathlib.Data.List.Nodup

/-! `useDirectChatStore`: the direct messages that the client shows. -/
namespace Marketplace.Chat.DirectStore

/-- A row's id, or that of a message still to be stored: a random UUID, which is no row's. -/
inductive MessageId where
  | stored (id : String)
  | drawn (clientMsgId : String)
deriving DecidableEq

inductive SenderRole where
  | user | seller
deriving DecidableEq

inductive Viewer where
  | buyer | seller
deriving DecidableEq

inductive MessageStatus where
  | sending | failed
deriving DecidableEq

inductive SocketStatus where
  | idle | connecting | ready | reconnecting | unauthorized
deriving DecidableEq

structure DirectMessage where
  id : MessageId
  senderRole : SenderRole
  text : String
  createdAt : String
  clientMsgId : Option String
  status : Option MessageStatus
deriving DecidableEq

/-- A message of a page, as the server sends it. -/
structure PageMessage where
  id : String
  senderRole : SenderRole
  text : String
  createdAt : String
deriving DecidableEq

structure DirectConversation where
  conversationId : String
  shopId : String
  preview : String
  lastMessageAt : Option String
  unread : Nat
deriving DecidableEq

inductive Target where
  | conversation (conversationId shopId : String)
  | draft (shopId : String)
deriving DecidableEq

/-- A frame that brings a message, or an error. -/
inductive Frame where
  | message (conversationId id : String) (senderRole : Option SenderRole) (text createdAt clientMsgId : Option String)
  | error (clientMsgId reason : Option String)
deriving DecidableEq

/-- `pages` are the conversations whose page is being asked for. `seen` only records, for the specification, what pages and
frames have brought. -/
structure DirectChatState where
  status : SocketStatus
  viewer : Viewer
  conversations : List DirectConversation
  target : Option Target
  messages : String → List DirectMessage
  draftMessages : List DirectMessage
  loadingMessages : Bool
  errorMessage : Option String
  pages : List String
  seen : String → List String

def MAX_DIRECT_MESSAGE_LENGTH : Nat := 4000

def DIRECT_FALLBACK_ERROR : String := "Gửi không thành công. Bạn thử lại nhé."

def DIRECT_ERROR_MESSAGES : List (String × String) :=
  [("bad_text", "Tin nhắn trống hoặc quá dài."), ("too_fast", "Bạn gửi hơi nhanh, chờ một chút nhé."),
    ("conversation_not_found", "Không mở được hội thoại này."),
    ("own_shop", "Đây là shop của bạn, không thể tự nhắn cho mình."),
    ("missing_target", "Chưa biết gửi tin này cho shop nào."),
    ("store_unavailable", "Máy chủ chat đang bận, thử lại sau nhé."),
    ("send_failed", "Gửi không thành công. Bạn thử lại nhé."),
    ("unsupported_type", "Phiên bản trang đang cũ, tải lại giúp mình nhé.")]

def readableError (reason : Option String) : String :=
  (reason.bind (List.lookup · DIRECT_ERROR_MESSAGES)).getD DIRECT_FALLBACK_ERROR

def isSpace (c : Char) : Bool := isBlank (String.ofList [c])

def trim (text : String) : String :=
  String.ofList ((text.toList.dropWhile isSpace).reverse.dropWhile isSpace).reverse

/-- `length` counts UTF-16 units. -/
def utf16Length (text : String) : Nat := (text.toList.map fun c => if c.toNat < 0x10000 then 1 else 2).sum

def putMessages (s : DirectChatState) (c : String) (messages : List DirectMessage) : DirectChatState :=
  { s with messages := Function.update s.messages c messages }

/-- The messages of the target: a conversation's, or those kept for a draft. -/
def listOf (s : DirectChatState) : Target → List DirectMessage
  | .conversation c _ => s.messages c
  | .draft _ => s.draftMessages

def setList (s : DirectChatState) (target : Target) (messages : List DirectMessage) : DirectChatState :=
  match target with
  | .conversation c _ => putMessages s c messages
  | .draft _ => { s with draftMessages := messages }

def flipFailed (clientMsgId : String) (message : DirectMessage) : DirectMessage :=
  if message.clientMsgId = some clientMsgId then { message with status := some .failed } else message

/-- Marks a message as failed where it may be, in the target. -/
def markFailed (s : DirectChatState) (clientMsgId : String) : DirectChatState :=
  match s.target with
  | some target => setList s target ((listOf s target).map (flipFailed clientMsgId))
  | none => s

/-- Up to the request for the page. -/
def openConversation (s : DirectChatState) (c shopId : String) : DirectChatState :=
  { s with target := some (.conversation c shopId), draftMessages := [], loadingMessages := true, pages := s.pages ++ [c] }

def fromPage (message : PageMessage) : DirectMessage :=
  ⟨.stored message.id, message.senderRole, message.text, message.createdAt, none, none⟩

/-- The answer to the `n`-th page request under way, newest message first; `none` when it fails. -/
def pageLoaded (s : DirectChatState) (n : Nat) (page : Option (List PageMessage)) : DirectChatState :=
  match s.pages[n]? with
  | none => s
  | some c =>
    let s := { s with pages := s.pages.eraseIdx n, loadingMessages := false }
    match page with
    | none => { s with errorMessage := some DIRECT_FALLBACK_ERROR }
    | some page =>
      { putMessages s c (page.reverse.map fromPage) with seen := Function.update s.seen c (s.seen c ++ page.map (·.id)) }

def openDraft (s : DirectChatState) (shopId : String) : DirectChatState :=
  match s.conversations.find? (·.shopId = shopId) with
  | some existing => openConversation s existing.conversationId shopId
  | none => { s with target := some (.draft shopId), draftMessages := [] }

/-- `sent` is what `sendDirectFrame` answers. -/
def sendText (s : DirectChatState) (text clientMsgId now : String) (sent : Bool) : DirectChatState :=
  let trimmed := trim text
  match s.target with
  | none => s
  | some target =>
    if trimmed = "" ∨ MAX_DIRECT_MESSAGE_LENGTH < utf16Length trimmed then s
    else
      let pending : DirectMessage :=
        ⟨.drawn clientMsgId, if s.viewer = .seller then .seller else .user, trimmed, now, some clientMsgId, some .sending⟩
      let drawn := setList s target (listOf s target ++ [pending])
      if sent then drawn else markFailed drawn clientMsgId

/-- The failed message goes, and its text is sent anew. -/
def retryFailed (s : DirectChatState) (clientMsgId newClientMsgId now : String) (sent : Bool) : DirectChatState :=
  match s.target with
  | none => s
  | some target =>
    match (listOf s target).find? (·.clientMsgId = some clientMsgId) with
    | none => s
    | some failed =>
      let left := setList s target ((listOf s target).filter (·.clientMsgId ≠ some clientMsgId))
      sendText left failed.text newClientMsgId now sent

/-- The message that the frame brings takes the place of the one that awaits it. -/
def replaceAwaiting (clientMsgId : String) (arrived : DirectMessage) (messages : List DirectMessage) : List DirectMessage :=
  messages.map fun item => if item.clientMsgId = some clientMsgId then arrived else item

def Target.isOpen (c : String) : Option Target → Bool
  | some (.conversation other _) => other = c
  | _ => false

/-- The shop of the draft that the frame turns into a conversation, with the client id of the message stored first. -/
def promotes (s : DirectChatState) (clientMsgId : Option String) : Option (String × String) :=
  match s.target, clientMsgId with
  | some (.draft shopId), some x => if s.draftMessages.any (·.clientMsgId = some x) then some (shopId, x) else none
  | _, _ => none

def applyFrame (s : DirectChatState) (frame : Frame) (now : String) : DirectChatState :=
  match frame with
  | .error clientMsgId reason =>
    let s := clientMsgId.elim s (markFailed s)
    { s with errorMessage := some (readableError reason) }
  | .message c id senderRole text createdAt clientMsgId =>
    let arrived : DirectMessage := ⟨.stored id, senderRole.getD .user, text.getD "", createdAt.getD now, none, none⟩
    let s := { s with seen := Function.update s.seen c (s.seen c ++ [id]) }
    match promotes s clientMsgId with
    | some (shopId, x) =>
      { putMessages s c (replaceAwaiting x arrived s.draftMessages) with
        target := some (.conversation c shopId), draftMessages := [] }
    | none =>
      let merged :=
        match clientMsgId with
        -- `map` gives a new array whether or not a message awaits
        | some x => replaceAwaiting x arrived (s.messages c)
        | none => s.messages c ++ [arrived]
      { putMessages s c merged with
        conversations := s.conversations.map fun item =>
          if item.conversationId = c then
            { item with
              preview := arrived.text
              lastMessageAt := some arrived.createdAt
              unread := if clientMsgId.isSome ∨ Target.isOpen c s.target then item.unread else item.unread + 1 }
          else item }

/-- A connection that comes back reads the history again. -/
def onStatus (s : DirectChatState) (status : SocketStatus) : DirectChatState :=
  let next := { s with status := status }
  match status, s.status, s.target with
  | .ready, .reconnecting, some (.conversation c shopId) => openConversation next c shopId
  | _, _, _ => next

inductive Move where
  | connect (viewer : Viewer)
  | onStatus (status : SocketStatus)
  | disconnect
  /-- The answer to a request for the conversations. -/
  | conversationsLoaded (conversations : Option (List DirectConversation))
  | openConversation (conversationId shopId : String)
  | pageLoaded (n : Nat) (page : Option (List PageMessage))
  /-- The answer to a read mark. -/
  | marked (conversationId : String)
  | openDraft (shopId : String)
  | close
  | sendText (text clientMsgId now : String) (sent : Bool)
  | retryFailed (clientMsgId newClientMsgId now : String) (sent : Bool)
  | frame (frame : Frame) (now : String)
  | clearError

def act (s : DirectChatState) : Move → DirectChatState
  | .connect viewer => { s with viewer := viewer }
  | .onStatus status => onStatus s status
  | .disconnect => { s with status := .idle, target := none, draftMessages := [] }
  | .conversationsLoaded conversations => { s with conversations := conversations.getD [] }
  | .openConversation c shopId => openConversation s c shopId
  | .pageLoaded n page => pageLoaded s n page
  | .marked c =>
    { s with conversations := s.conversations.map fun item => if item.conversationId = c then { item with unread := 0 } else item }
  | .openDraft shopId => openDraft s shopId
  | .close => { s with target := none }
  | .sendText text clientMsgId now sent => sendText s text clientMsgId now sent
  | .retryFailed clientMsgId newClientMsgId now sent => retryFailed s clientMsgId newClientMsgId now sent
  | .frame frame now => applyFrame s frame now
  | .clearError => { s with errorMessage := none }

/-- How often the stored message is in the list. -/
def shownTimes (messages : List DirectMessage) (id : String) : Nat := (messages.map (·.id)).count (.stored id)

/-- How many messages of the list await an echo with the given client id. -/
def awaiting (messages : List DirectMessage) (clientMsgId : String) : Nat :=
  messages.countP (·.clientMsgId = some clientMsgId)

/-- A page brings each message once, and all that was seen of its conversation; a frame with a client id finds one message
that awaits it, or the list shows its message already; a frame without finds its message not shown; and a draft becomes a
conversation of which nothing was seen. -/
def Careful (s : DirectChatState) : Move → Prop
  | .pageLoaded n (some page) =>
    ∀ c ∈ s.pages[n]?, (page.map (·.id)).Nodup ∧ ∀ id ∈ s.seen c, id ∈ page.map (·.id)
  | .frame (.message c id _ _ _ clientMsgId) _ =>
    match promotes s clientMsgId with
    | some (_, x) => awaiting s.draftMessages x = 1 ∧ ∀ other ∈ s.seen c, other = id
    | none => shownTimes (s.messages c) id + clientMsgId.elim 1 (awaiting (s.messages c)) = 1
  | _ => True

instance (s : DirectChatState) (m : Move) : Decidable (Careful s m) := by
  unfold Careful
  split
  · infer_instance
  · split <;> infer_instance
  · infer_instance

/-- A message that still has a client id has no row. -/
def Local (messages : List DirectMessage) : Prop := ∀ item ∈ messages, item.clientMsgId ≠ none → ∃ x, item.id = .drawn x

def Drawn (messages : List DirectMessage) : Prop := ∀ item ∈ messages, ∃ x, item.id = .drawn x

/-- What was seen is shown once. -/
structure Exact (s : DirectChatState) : Prop where
  shown : ∀ c, ∀ id ∈ s.seen c, shownTimes (s.messages c) id = 1
  messages : ∀ c, Local (s.messages c)
  drafts : Drawn s.draftMessages

section
variable {l : List DirectMessage} {id : String}

theorem shownTimes_append (l l' : List DirectMessage) (id : String) :
    shownTimes (l ++ l') id = shownTimes l id + shownTimes l' id := by
  rw [shownTimes, List.map_append, List.count_append]
  rfl

theorem shownTimes_drawn (drawn : Drawn l) : shownTimes l id = 0 := by
  rw [shownTimes, List.count_eq_zero]
  intro member
  obtain ⟨item, inside, same⟩ := List.mem_map.mp member
  obtain ⟨x, own⟩ := drawn item inside
  rw [own] at same
  cases same

theorem shownTimes_map {f : DirectMessage → DirectMessage} (kept : ∀ item, (f item).id = item.id) :
    shownTimes (l.map f) id = shownTimes l id := by
  rw [shownTimes, List.map_map, shownTimes]
  exact congrArg (List.count _) (List.map_congr_left fun item _ => kept item)

theorem shownTimes_stored {item : DirectMessage} (stored : item.id = .stored id) (other : String) :
    shownTimes [item] other = if other = id then 1 else 0 := by
  rw [shownTimes, List.map_singleton, stored, List.count_singleton]
  by_cases same : other = id
  · simp [same]
  · simp [same, Ne.symm same]

/-- A message that has a client id may go. -/
theorem shownTimes_filter (own : Local l) (x : String) :
    shownTimes (l.filter (·.clientMsgId ≠ some x)) id = shownTimes l id := by
  induction l with
  | nil => rfl
  | cons item rest ih =>
    have tail := ih fun other member => own other (List.mem_cons_of_mem item member)
    rw [List.filter_cons]
    split
    · simp only [shownTimes, List.map_cons, List.count_cons] at tail ⊢
      rw [tail]
    · rename_i matched
      have client : item.clientMsgId = some x := by simpa using matched
      obtain ⟨y, drawn⟩ := own item List.mem_cons_self (by simp [client])
      rw [tail]
      simp [shownTimes, drawn]

variable (id) in
/-- Each message that awaits the arrived one makes it show once more. -/
theorem shownTimes_replace (own : Local l) {x : String} {arrived : DirectMessage} (stored : arrived.id = .stored id)
    (other : String) :
    shownTimes (replaceAwaiting x arrived l) other = shownTimes l other + if other = id then awaiting l x else 0 := by
  induction l with
  | nil => simp [shownTimes, replaceAwaiting, awaiting]
  | cons item rest ih =>
    have tail := ih fun other member => own other (List.mem_cons_of_mem item member)
    simp only [shownTimes, replaceAwaiting, awaiting, List.map_cons, List.count_cons, List.countP_cons] at tail ⊢
    rw [tail]
    by_cases client : item.clientMsgId = some x
    · obtain ⟨y, drawn⟩ := own item List.mem_cons_self (by simp [client])
      by_cases same : other = id
      · simp [client, drawn, stored, same]
        omega
      · simp [client, drawn, stored, same, Ne.symm same]
    · simp only [client, if_false, decide_false, Bool.false_eq_true]
      split <;> omega

theorem Local.replace (own : Local l) (x : String) {arrived : DirectMessage} (stored : arrived.clientMsgId = none) :
    Local (replaceAwaiting x arrived l) := by
  intro item member client
  obtain ⟨before, inside, rfl⟩ := List.mem_map.mp member
  split at client
  · exact absurd stored client
  · rename_i unmatched
    rw [if_neg unmatched]
    exact own before inside client

theorem Drawn.local (drawn : Drawn l) : Local l := fun item member _ => drawn item member

end
section
variable {s t : DirectChatState}

/-- Other fields do not matter. -/
theorem Exact.same (exact : Exact s) (seen : t.seen = s.seen) (messages : t.messages = s.messages)
    (drafts : Drawn t.draftMessages) : Exact t where
  shown c id member := by
    rw [messages]
    rw [seen] at member
    exact exact.shown c id member
  messages c := by
    rw [messages]
    exact exact.messages c
  drafts := drafts

/-- One conversation has a new list. -/
theorem Exact.rewrite (exact : Exact s) {c : String} {messages : List DirectMessage}
    (list : t.messages = Function.update s.messages c messages) (others : ∀ d, d ≠ c → t.seen d = s.seen d)
    (shown : ∀ id ∈ t.seen c, shownTimes messages id = 1) (own : Local messages) (drafts : Drawn t.draftMessages) : Exact t where
  shown d id member := by
    rw [list]
    by_cases eq : d = c
    · subst eq
      rw [Function.update_self]
      exact shown id member
    · rw [Function.update_of_ne eq]
      rw [others d eq] at member
      exact exact.shown d id member
  messages d := by
    rw [list]
    by_cases eq : d = c
    · subst eq
      rw [Function.update_self]
      exact own
    · rw [Function.update_of_ne eq]
      exact exact.messages d
  drafts := drafts

theorem drawn_nil : Drawn [] := fun _ no => nomatch no

/-- The list of the target may be changed so that it shows the same stored messages. -/
theorem Exact.setList (exact : Exact s) (target : Target) {f : List DirectMessage → List DirectMessage}
    (same : ∀ l id, Local l → shownTimes (f l) id = shownTimes l id) (own : ∀ l, Local l → Local (f l))
    (drawn : ∀ l, Drawn l → Drawn (f l)) : Exact (setList s target (f (listOf s target))) := by
  cases target with
  | conversation c shopId =>
    refine exact.rewrite rfl (fun _ _ => rfl) (fun id member => ?_) (own _ (exact.messages c)) exact.drafts
    exact (same _ id (exact.messages c)).trans (exact.shown c id member)
  | draft shopId => exact exact.same rfl rfl (drawn _ exact.drafts)

theorem flipFailed_ids (x : String) (item : DirectMessage) :
    (flipFailed x item).id = item.id ∧ (flipFailed x item).clientMsgId = item.clientMsgId := by
  unfold flipFailed
  split <;> exact ⟨rfl, rfl⟩

theorem Exact.markFailed (exact : Exact s) (x : String) : Exact (markFailed s x) := by
  unfold DirectStore.markFailed
  split
  · rename_i target _
    refine exact.setList target (fun l id _ => shownTimes_map fun item => (flipFailed_ids x item).1) (fun l own => ?_)
      fun l drawn => ?_
    · intro item member client
      obtain ⟨before, inside, rfl⟩ := List.mem_map.mp member
      rw [(flipFailed_ids x before).2] at client
      rw [(flipFailed_ids x before).1]
      exact own before inside client
    · intro item member
      obtain ⟨before, inside, rfl⟩ := List.mem_map.mp member
      rw [(flipFailed_ids x before).1]
      exact drawn before inside
  · exact exact

/-- A new message has no row. -/
theorem Exact.draw (exact : Exact s) (target : Target) {x : String} {pending : DirectMessage} (new : pending.id = .drawn x) :
    Exact (DirectStore.setList s target (listOf s target ++ [pending])) := by
  have single : Drawn [pending] := fun item member => ⟨x, List.mem_singleton.mp member ▸ new⟩
  refine exact.setList target (f := (· ++ [pending])) (fun l id _ => ?_) (fun l own => ?_) fun l drawn => ?_
  · rw [shownTimes_append, shownTimes_drawn single, Nat.add_zero]
  · intro item member client
    rcases List.mem_append.mp member with old | last
    · exact own item old client
    · exact single item last
  · intro item member
    rcases List.mem_append.mp member with old | last
    · exact drawn item old
    · exact single item last

theorem Exact.sendText (exact : Exact s) (text x now : String) (sent : Bool) : Exact (sendText s text x now sent) := by
  unfold DirectStore.sendText
  dsimp only
  split
  · exact exact
  · rename_i target _
    split
    · exact exact
    · split
      · exact exact.draw target rfl
      · exact (exact.draw target rfl).markFailed x

theorem Exact.retryFailed (exact : Exact s) (x y now : String) (sent : Bool) : Exact (retryFailed s x y now sent) := by
  unfold DirectStore.retryFailed
  split
  · exact exact
  · rename_i target _
    split
    · exact exact
    · refine Exact.sendText ?_ _ _ _ _
      refine exact.setList target (f := List.filter (·.clientMsgId ≠ some x)) (fun l id own => shownTimes_filter own x)
        (fun l own item member => own item (List.mem_of_mem_filter member)) fun l drawn item member => ?_
      exact drawn item (List.mem_of_mem_filter member)

theorem Exact.openConversation (exact : Exact s) (c shopId : String) : Exact (openConversation s c shopId) :=
  exact.same rfl rfl drawn_nil

theorem Exact.openDraft (exact : Exact s) (shopId : String) : Exact (openDraft s shopId) := by
  unfold DirectStore.openDraft
  split
  · exact exact.openConversation _ _
  · exact exact.same rfl rfl drawn_nil

theorem Exact.onStatus (exact : Exact s) (status : SocketStatus) : Exact (onStatus s status) := by
  have next : Exact { s with status := status } := exact.same rfl rfl exact.drafts
  unfold DirectStore.onStatus
  dsimp only
  split
  · exact next.openConversation _ _
  · exact next

theorem shownTimes_page (page : List PageMessage) (id : String) :
    shownTimes (page.reverse.map fromPage) id = (page.map (·.id)).count id := by
  rw [shownTimes, List.map_map, List.map_reverse, List.count_reverse]
  induction page with
  | nil => rfl
  | cons message rest ih => simp [List.count_cons, fromPage, ih]

theorem Exact.pageLoaded (exact : Exact s) (n : Nat) (page : Option (List PageMessage))
    (careful : Careful s (.pageLoaded n page)) : Exact (pageLoaded s n page) := by
  unfold DirectStore.pageLoaded
  split
  · exact exact
  · rename_i c asked
    cases page with
    | none => exact exact.same rfl rfl exact.drafts
    | some page =>
      obtain ⟨unique, covers⟩ := careful c asked
      refine exact.rewrite rfl (fun d other => Function.update_of_ne other _ _) (fun id member => ?_) (fun item member client => ?_)
        exact.drafts
      · rw [shownTimes_page]
        refine List.count_eq_one_of_mem unique ?_
        simp only [Function.update_self] at member
        rcases List.mem_append.mp member with old | new
        · exact covers id old
        · exact new
      · obtain ⟨message, _, rfl⟩ := List.mem_map.mp member
        exact absurd rfl client

theorem Exact.applyFrame (exact : Exact s) (frame : Frame) (now : String) (careful : Careful s (.frame frame now)) :
    Exact (applyFrame s frame now) := by
  unfold DirectStore.applyFrame
  cases frame with
  | error clientMsgId reason =>
    cases clientMsgId with
    | none => exact exact.same rfl rfl exact.drafts
    | some x => exact (exact.markFailed x).same rfl rfl (exact.markFailed x).drafts
  | message c id senderRole text createdAt clientMsgId =>
    simp only [Careful] at careful
    have seen : ∀ other, other ∈ Function.update s.seen c (s.seen c ++ [id]) c → other ∈ s.seen c ∨ other = id := by
      intro other member
      rw [Function.update_self] at member
      simpa using member
    dsimp only
    have unchanged : promotes { s with seen := Function.update s.seen c (s.seen c ++ [id]) } clientMsgId =
        promotes s clientMsgId := rfl
    rw [unchanged]
    cases draft : promotes s clientMsgId with
    | some found =>
      -- the list is that of the draft
      obtain ⟨shopId, x⟩ := found
      rw [draft] at careful
      obtain ⟨one, only⟩ := careful
      refine exact.rewrite rfl (fun d other => Function.update_of_ne other _ _) (fun other member => ?_)
        (exact.drafts.local.replace x rfl) drawn_nil
      have same : other = id := (seen other member).elim (only other) fun eq => eq
      rw [shownTimes_replace id exact.drafts.local rfl, if_pos same, shownTimes_drawn exact.drafts, one]
    | none =>
      rw [draft] at careful
      dsimp only at careful
      cases clientMsgId with
      | some x =>
        refine exact.rewrite rfl (fun d other => Function.update_of_ne other _ _) (fun other member => ?_)
          ((exact.messages c).replace x rfl) exact.drafts
        rw [shownTimes_replace _ (exact.messages c) rfl]
        split
        · rename_i same
          rw [same]
          exact careful
        · rename_i different
          exact exact.shown c other ((seen other member).resolve_right different)
      | none =>
        refine exact.rewrite rfl (fun d other => Function.update_of_ne other _ _) (fun other member => ?_)
          (fun item member client => ?_) exact.drafts
        · rw [shownTimes_append, shownTimes_stored rfl]
          split
          · rename_i same
            rw [same]
            exact careful
          · rename_i different
            exact exact.shown c other ((seen other member).resolve_right different)
        · rcases List.mem_append.mp member with old | new
          · exact exact.messages c item old client
          · rw [List.mem_singleton.mp new] at client
            exact absurd rfl client

theorem Exact.act (exact : Exact s) (m : Move) (careful : Careful s m) : Exact (act s m) := by
  cases m with
  | connect viewer => exact exact.same rfl rfl exact.drafts
  | onStatus status => exact exact.onStatus status
  | disconnect => exact exact.same rfl rfl drawn_nil
  | conversationsLoaded conversations => exact exact.same rfl rfl exact.drafts
  | openConversation c shopId => exact exact.openConversation c shopId
  | pageLoaded n page => exact exact.pageLoaded n page careful
  | marked c => exact exact.same rfl rfl exact.drafts
  | openDraft shopId => exact exact.openDraft shopId
  | close => exact exact.same rfl rfl exact.drafts
  | sendText text x now sent => exact exact.sendText text x now sent
  | retryFailed x y now sent => exact exact.retryFailed x y now sent
  | frame frame now => exact exact.applyFrame frame now careful
  | clearError => exact exact.same rfl rfl exact.drafts

end

/-- The store as the page creates it. -/
def initial : DirectChatState where
  status := .idle
  viewer := .buyer
  conversations := []
  target := none
  messages _ := []
  draftMessages := []
  loadingMessages := false
  errorMessage := none
  pages := []
  seen _ := []

/-- No page is under way, and nothing that is shown is being sent. -/
def Quiet (s : DirectChatState) : Prop :=
  s.pages = [] ∧ ∀ target ∈ s.target, ∀ item ∈ listOf s target, item.status ≠ some .sending

instance (s : DirectChatState) : Decidable (Quiet s) := inferInstanceAs (Decidable (_ ∧ _))

end Marketplace.Chat.DirectStore
