import Marketplace.FormEncoding
import Marketplace.KeysetPaging
import Mathlib.Algebra.Group.Nat.Defs
import Mathlib.Order.Fin.Basic

/-! `GET /chat/messages`: the pages of a direct conversation, newest first, and the walk that follows `nextBefore`. -/
namespace Marketplace.Chat.MessagePages
open FormEncoding (hexValue)
open KeysetPaging

/-- The sixteen bytes, in the order of the database. -/
abbrev UUID := Fin (2 ^ 128)

/-- How ids and times are written. `parse` is `uuid.Parse`, `column` what the database reads in a uuid parameter, and both take
more spellings than `text`, in which a uuid column is read. -/
structure Formats where
  text : UUID → String
  parse : String → Option UUID
  column : String → Option UUID
  rfc3339 : Nat → String
  parse_text : ∀ id, parse (text id) = some id
  parse_empty : parse "" = none

structure MessageRow where
  id : UUID
  conversationId : UUID
  senderParticipantId : UUID
  body : String
  createdAt : Nat

structure ParticipantRow where
  id : UUID
  role : String

structure ChatTables where
  messages : List MessageRow
  participants : List ParticipantRow
  messagePkey : (messages.map (·.id)).Nodup
  participantPkey : (participants.map (·.id)).Nodup
  senderFkey : ∀ m ∈ messages, ∃ p ∈ participants, p.id = m.senderParticipantId

namespace ChatTables

/-- `message m JOIN participant p ON p.id = m.sender_participant_id`, with the role of `p`. -/
def joined (t : ChatTables) : List (MessageRow × String) :=
  t.messages.flatMap fun m => (t.participants.filter (·.id = m.senderParticipantId)).map fun p => (m, p.role)

def listDirectMessagesBefore (t : ChatTables) (conversationId : UUID) (beforeId : Option UUID) (pageLimit : Nat) :
    List (MessageRow × String) :=
  pageBefore (·.1.id) (t.joined.filter (·.1.conversationId = conversationId)) beforeId pageLimit

end ChatTables

structure DirectMessage where
  id : String
  senderParticipantId : String
  senderRole : String
  body : String
  createdAt : Nat

inductive StoreError where
  | conversationNotFound | failed

structure MessagesRequest where
  token : String
  conversationID : String
  before : String

structure DirectMessageItem where
  id : String
  senderId : String
  senderRole : String
  text : String
  createdAt : String

/-- `nextBefore` is left out where it is empty. -/
structure MessagesResponse where
  messages : List DirectMessageItem
  nextBefore : String

structure Refusal where
  status : Nat
  reason : String

/-- What stands behind the handler, besides the tables. -/
structure ChatDeps where
  verify : String → Option String
  hasStore : Bool
  shopIDFor : String → String → Option String
  authorizeDirectRead : String → String → String → Except StoreError Unit
  databaseUp : Bool

/-- A cursor that is no uuid is as good as none. -/
def beforeColumn (f : Formats) (beforeID : String) : Option UUID := if beforeID ≠ "" then f.parse beforeID else none

def toDirectMessage (f : Formats) (row : MessageRow × String) : DirectMessage where
  id := f.text row.1.id
  senderParticipantId := f.text row.1.senderParticipantId
  senderRole := row.2
  body := row.1.body
  createdAt := row.1.createdAt

def directMessages (f : Formats) (deps : ChatDeps) (t : ChatTables) (conversationID beforeID : String) (limit : Nat) :
    Except StoreError (List DirectMessage) :=
  if !deps.databaseUp then .error .failed
  else match f.column conversationID with
    | none => .error .failed
    | some conversationId =>
      .ok ((t.listDirectMessagesBefore conversationId (beforeColumn f beforeID) limit).map (toDirectMessage f))

def messagesReadLimit : Nat := 30

def toItem (f : Formats) (message : DirectMessage) : DirectMessageItem where
  id := message.id
  senderId := message.senderParticipantId
  senderRole := message.senderRole
  text := message.body
  createdAt := f.rfc3339 message.createdAt

def messagesResponse (f : Formats) (limit : Nat) (messages : List DirectMessage) : MessagesResponse where
  messages := messages.map (toItem f)
  nextBefore := if messages.length = limit then (messages.getLast?.map (·.id)).getD "" else ""

/-- The handler, whose `limit` is `messagesReadLimit`. -/
def messagesHandler (f : Formats) (limit : Nat) (deps : ChatDeps) (t : ChatTables) (r : MessagesRequest) :
    Except Refusal MessagesResponse :=
  if r.token = "" then .error ⟨401, "unauthorized"⟩
  else match deps.verify r.token with
    | none => .error ⟨401, "unauthorized"⟩
    | some userID =>
      if r.conversationID = "" then .error ⟨400, "missing_conversation"⟩
      else if !deps.hasStore then .error ⟨404, "conversation_not_found"⟩
      else match deps.shopIDFor userID r.token with
        | none => .error ⟨503, "shop_lookup_failed"⟩
        | some shopID =>
          match deps.authorizeDirectRead r.conversationID userID shopID with
          | .error .conversationNotFound => .error ⟨404, "conversation_not_found"⟩
          | .error .failed => .error ⟨503, "messages_unavailable"⟩
          | .ok () =>
            match directMessages f deps t r.conversationID r.before limit with
            | .error _ => .error ⟨503, "messages_unavailable"⟩
            | .ok messages => .ok (messagesResponse f limit messages)

/-- A walk over the pages: the cursor of the next request, none once `nextBefore` was left out, and what was listed. -/
structure Walk where
  before : Option String
  messages : List DirectMessageItem

/-- A request that is refused is sent again. -/
def Walk.request (w : Walk) (f : Formats) (limit : Nat) (deps : ChatDeps) (t : ChatTables) (token conversationID : String) :
    Walk :=
  match w.before with
  | none => w
  | some before =>
    match messagesHandler f limit deps t ⟨token, conversationID, before⟩ with
    | .error _ => w
    | .ok body => ⟨if body.nextBefore = "" then none else some body.nextBefore, w.messages ++ body.messages⟩

/-- The walk after `n` requests. Each finds its own dependencies, tables and token. -/
def walk (f : Formats) (limit : Nat) (deps : Nat → ChatDeps) (tables : Nat → ChatTables) (token : Nat → String)
    (conversationID : String) : Nat → Walk
  | 0 => ⟨some "", []⟩
  | n + 1 => (walk f limit deps tables token conversationID n).request f limit (deps n) (tables n) (token n) conversationID

/-! ### One page -/

theorem filter_eq_singleton {α β : Type} [DecidableEq β] {g : α → β} {l : List α} (unique : (l.map g).Nodup) {a : α}
    (member : a ∈ l) : l.filter (g · = g a) = [a] := by
  induction l with
  | nil => simp at member
  | cons b rest ih =>
    rw [List.map_cons, List.nodup_cons] at unique
    rcases List.mem_cons.mp member with rfl | later
    · have others : rest.filter (g · = g a) = [] := by
        rw [List.filter_eq_nil_iff]
        intro c inside same
        exact unique.1 (of_decide_eq_true same ▸ List.mem_map_of_mem inside)
      rw [List.filter_cons_of_pos (by simp), others]
    · have apart : g b ≠ g a := fun same => unique.1 (same ▸ List.mem_map_of_mem later)
      rw [List.filter_cons_of_neg (by simp [apart]), ih unique.2 later]

theorem text_injective (f : Formats) : Function.Injective f.text := by
  intro a b same
  have parsed := congrArg f.parse same
  rw [f.parse_text, f.parse_text] at parsed
  exact Option.some.inj parsed

theorem text_ne (f : Formats) (id : UUID) : f.text id ≠ "" := by
  intro empty
  have parsed := f.parse_text id
  rw [empty, f.parse_empty] at parsed
  cases parsed

theorem beforeColumn_empty (f : Formats) : beforeColumn f "" = none := rfl

theorem beforeColumn_text (f : Formats) (id : UUID) : beforeColumn f (f.text id) = some id := by
  rw [beforeColumn, if_pos (text_ne f id), f.parse_text]

theorem directMessages_malformed {f : Formats} {beforeID : String} (malformed : f.parse beforeID = none) (deps : ChatDeps)
    (t : ChatTables) (conversationID : String) (limit : Nat) :
    directMessages f deps t conversationID beforeID limit = directMessages f deps t conversationID "" limit := by
  have first : beforeColumn f beforeID = beforeColumn f "" := by
    rw [beforeColumn_empty, beforeColumn, malformed, ite_self]
  rw [directMessages, directMessages, first]

namespace ChatTables

/-- The join neither loses a message nor repeats one. -/
theorem joined_messages (t : ChatTables) : t.joined.map (·.1) = t.messages := by
  have each : ∀ m ∈ t.messages,
      ((t.participants.filter (·.id = m.senderParticipantId)).map fun p => (m, p.role)).map (·.1) = [m] := by
    intro m member
    obtain ⟨p, seated, sender⟩ := t.senderFkey m member
    rw [← sender, filter_eq_singleton t.participantPkey seated]
    rfl
  rw [joined, List.map_flatMap, List.flatMap_congr each, List.flatMap_singleton']

def inConversation (t : ChatTables) (conversationId : UUID) : List (MessageRow × String) :=
  t.joined.filter (·.1.conversationId = conversationId)

theorem unique_inConversation (t : ChatTables) (conversationId : UUID) :
    ((t.inConversation conversationId).map (·.1.id)).Nodup := by
  have ids : t.joined.map (·.1.id) = t.messages.map (·.id) := by
    rw [← t.joined_messages, List.map_map]
    rfl
  have all : (t.joined.map (·.1.id)).Nodup := ids ▸ t.messagePkey
  exact all.sublist (List.filter_sublist.map _)

theorem mem_of_mem_inConversation {t : ChatTables} {conversationId : UUID} {row : MessageRow × String}
    (member : row ∈ t.inConversation conversationId) : row.1 ∈ t.messages ∧ row.1.conversationId = conversationId := by
  obtain ⟨joined, same⟩ := List.mem_filter.mp member
  rw [← t.joined_messages]
  exact ⟨List.mem_map_of_mem joined, of_decide_eq_true same⟩

theorem exists_inConversation {t : ChatTables} {m : MessageRow} (member : m ∈ t.messages) :
    ∃ row ∈ t.inConversation m.conversationId, row.1.id = m.id := by
  rw [← t.joined_messages] at member
  obtain ⟨row, joined, rfl⟩ := List.mem_map.mp member
  exact ⟨row, List.mem_filter.mpr ⟨joined, decide_eq_true rfl⟩, rfl⟩

end ChatTables

theorem messagesHandler_ok {f : Formats} {limit : Nat} {deps : ChatDeps} {t : ChatTables} {r : MessagesRequest}
    {body : MessagesResponse} (answered : messagesHandler f limit deps t r = .ok body) :
    ∃ conversationId, f.column r.conversationID = some conversationId ∧
      body = messagesResponse f limit
        ((pageBefore (·.1.id) (t.inConversation conversationId) (beforeColumn f r.before) limit).map (toDirectMessage f)) := by
  unfold messagesHandler at answered
  split at answered
  · cases answered
  · split at answered
    · cases answered
    · split at answered
      · cases answered
      · split at answered
        · cases answered
        · split at answered
          · cases answered
          · split at answered
            · cases answered
            · cases answered
            · split at answered
              · cases answered
              · rename_i messages read
                unfold directMessages at read
                split at read
                · cases read
                · split at read
                  · cases read
                  · rename_i conversationId named
                    refine ⟨conversationId, named, ?_⟩
                    rw [← Except.ok.inj answered, ← Except.ok.inj read]
                    rfl

theorem messagesResponse_ids (f : Formats) (limit : Nat) (rows : List (MessageRow × String)) :
    (messagesResponse f limit (rows.map (toDirectMessage f))).messages.map (·.id) = (rows.map (·.1.id)).map f.text := by
  simp [messagesResponse, toItem, toDirectMessage]

/-- A full page names its last message, and no other page names any. -/
theorem nextBefore_full {f : Formats} {limit : Nat} {rows : List (MessageRow × String)} {last : MessageRow × String}
    (full : rows.length = limit) (ends : rows.getLast? = some last) :
    (messagesResponse f limit (rows.map (toDirectMessage f))).nextBefore = f.text last.1.id := by
  simp [messagesResponse, full, ends, toDirectMessage]

theorem nextBefore_short {f : Formats} {limit : Nat} {rows : List (MessageRow × String)} (short : rows.length ≠ limit) :
    (messagesResponse f limit (rows.map (toDirectMessage f))).nextBefore = "" := by
  simp [messagesResponse, short]

/-! ### The walk -/

/-- The messages of the conversation that the tables hold. -/
def present (f : Formats) (t : ChatTables) (conversationID : String) : Set UUID :=
  {id | ∃ m ∈ t.messages, f.column conversationID = some m.conversationId ∧ m.id = id}

/-- Where a walk stands that has listed these ids: on its way, or through. -/
def Standing (f : Formats) (start : Set UUID) (ids : List UUID) : Option String → Prop
  | some before => Progress start ids (beforeColumn f before)
  | none => ids.Pairwise (· > ·) ∧ ∀ k ∈ start, k ∈ ids

theorem Standing.decreasing {f : Formats} {start : Set UUID} {ids : List UUID} {before : Option String}
    (standing : Standing f start ids before) : ids.Pairwise (· > ·) := by
  cases before with
  | some before => exact Progress.decreasing standing
  | none => exact standing.1

theorem request_standing {f : Formats} {limit : Nat} (positive : 0 < limit) {deps : ChatDeps} {t : ChatTables}
    {token conversationID : String} {start : Set UUID} (kept : start ⊆ present f t conversationID) {w : Walk} {ids : List UUID}
    (listed : w.messages.map (·.id) = ids.map f.text) (standing : Standing f start ids w.before) :
    ∃ ids, (w.request f limit deps t token conversationID).messages.map (·.id) = ids.map f.text ∧
      Standing f start ids (w.request f limit deps t token conversationID).before := by
  unfold Walk.request
  split
  · exact ⟨ids, listed, standing⟩
  · rename_i before asked
    split
    · exact ⟨ids, listed, standing⟩
    · rename_i body answered
      rw [asked] at standing
      obtain ⟨conversationId, named, rfl⟩ := messagesHandler_ok answered
      have unique := t.unique_inConversation conversationId
      have there : ∀ k ∈ start, ∃ row ∈ t.inConversation conversationId, row.1.id = k := by
        intro k member
        obtain ⟨m, inside, same, rfl⟩ := kept member
        obtain rfl := Option.some.inj (named.symm.trans same)
        exact ChatTables.exists_inConversation inside
      have short_or : (pageBefore (·.1.id) (t.inConversation conversationId) (beforeColumn f before) limit).length ≤ limit :=
        length_pageBefore
      have last := Progress.last standing unique there limit
      have next := Progress.next standing unique there limit
      have decreasing := Progress.decreasing_page standing unique limit
      generalize pageBefore (·.1.id) (t.inConversation conversationId) (beforeColumn f before) limit = rows at *
      refine ⟨ids ++ rows.map (·.1.id), ?_, ?_⟩
      · rw [List.map_append, listed, messagesResponse_ids, List.map_append]
      · by_cases full : rows.length = limit
        · obtain ⟨final, ends⟩ := Option.isSome_iff_exists.mp
            (List.getLast?_isSome.mpr (List.ne_nil_of_length_pos (full ▸ positive)))
          rw [nextBefore_full full ends, if_neg (text_ne f final.1.id)]
          show Progress start _ (beforeColumn f (f.text final.1.id))
          rw [beforeColumn_text]
          exact next final ends
        · rw [nextBefore_short full, if_pos rfl]
          exact ⟨decreasing, last (lt_of_le_of_ne short_or full)⟩

/-- A listed item is a row that one of the requests found. -/
def Found (f : Formats) (tables : Nat → ChatTables) (conversationID : String) (item : DirectMessageItem) : Prop :=
  ∃ n conversationId, f.column conversationID = some conversationId ∧
    ∃ row ∈ (tables n).inConversation conversationId, item = toItem f (toDirectMessage f row)

section walk
variable {f : Formats} {limit : Nat} {deps : Nat → ChatDeps} {tables : Nat → ChatTables} {token : Nat → String}
  {conversationID : String}

theorem grown (appended : ∀ n, (tables n).messages ⊆ (tables (n + 1)).messages) {n k : Nat} (le : n ≤ k) :
    (tables n).messages ⊆ (tables k).messages := by
  induction le with
  | refl => exact List.Subset.refl _
  | step _ ih => exact List.Subset.trans ih (appended _)

theorem walk_standing (f : Formats) (deps : Nat → ChatDeps) (token : Nat → String) (conversationID : String)
    (positive : 0 < limit) (appended : ∀ n, (tables n).messages ⊆ (tables (n + 1)).messages) (n : Nat) :
    ∃ ids, (walk f limit deps tables token conversationID n).messages.map (·.id) = ids.map f.text ∧
      Standing f (present f (tables 0) conversationID) ids (walk f limit deps tables token conversationID n).before := by
  induction n with
  | zero =>
    refine ⟨[], rfl, ?_⟩
    show Progress _ _ (beforeColumn f "")
    rw [beforeColumn_empty]
    exact Progress.start _
  | succ n ih =>
    obtain ⟨ids, listed, standing⟩ := ih
    have kept : present f (tables 0) conversationID ⊆ present f (tables n) conversationID :=
      fun _ ⟨m, member, named, same⟩ => ⟨m, grown appended (Nat.zero_le n) member, named, same⟩
    exact request_standing positive kept listed standing

theorem walk_found (n : Nat) : ∀ item ∈ (walk f limit deps tables token conversationID n).messages,
    Found f tables conversationID item := by
  induction n with
  | zero => exact nofun
  | succ n ih =>
    intro item member
    rw [walk, Walk.request] at member
    split at member
    · exact ih item member
    · split at member
      · exact ih item member
      · rename_i body answered
        rcases List.mem_append.mp member with earlier | paged
        · exact ih item earlier
        · obtain ⟨conversationId, named, rfl⟩ := messagesHandler_ok answered
          obtain ⟨message, among, rfl⟩ := List.mem_map.mp paged
          obtain ⟨row, listed, rfl⟩ := List.mem_map.mp among
          exact ⟨n, conversationId, named, row, (mem_of_mem_pageBefore listed).1, rfl⟩

/-- A walk that goes on has had full pages only. -/
theorem length_walk (answered : ∀ n before, ∃ body,
      messagesHandler f limit (deps n) (tables n) ⟨token n, conversationID, before⟩ = .ok body) (n : Nat)
    (going : (walk f limit deps tables token conversationID n).before ≠ none) :
    (walk f limit deps tables token conversationID n).messages.length = n * limit := by
  induction n with
  | zero => simp [walk]
  | succ n ih =>
    rw [walk, Walk.request] at going ⊢
    split at going
    · rename_i through
      exact absurd through going
    · rename_i before asked
      obtain ⟨body, ok⟩ := answered n before
      rw [ok] at going ⊢
      have earlier := ih (by rw [asked]; exact Option.some_ne_none before)
      obtain ⟨conversationId, named, rfl⟩ := messagesHandler_ok ok
      have full : (pageBefore (·.1.id) ((tables n).inConversation conversationId) (beforeColumn f before) limit).length =
          limit := by
        by_contra short
        exact going (if_pos (nextBefore_short short))
      simp only [List.length_append, messagesResponse, List.length_map, earlier, full]
      rw [Nat.succ_mul]

theorem messages_listed_once (f : Formats) {limit : Nat} (positive : 0 < limit) (deps : Nat → ChatDeps)
    (tables : Nat → ChatTables) (appended : ∀ n, (tables n).messages ⊆ (tables (n + 1)).messages) (token : Nat → String)
    (conversationID : String) :
    (∀ n, ∃ ids : List UUID, (walk f limit deps tables token conversationID n).messages.map (·.id) = ids.map f.text ∧
      ids.Pairwise (· > ·)) ∧
    (∀ n, (walk f limit deps tables token conversationID n).before = none → ∀ m ∈ (tables 0).messages,
      f.column conversationID = some m.conversationId →
        ∃ item, (walk f limit deps tables token conversationID n).messages.filter (·.id = f.text m.id) = [item] ∧
          item.senderId = f.text m.senderParticipantId ∧ item.text = m.body ∧ item.createdAt = f.rfc3339 m.createdAt) ∧
    ∀ all : Finset UUID, (∀ n, present f (tables n) conversationID ⊆ all) →
      (∀ n before, ∃ body, messagesHandler f limit (deps n) (tables n) ⟨token n, conversationID, before⟩ = .ok body) →
        (walk f limit deps tables token conversationID (all.card / limit + 1)).before = none := by
  have standing := walk_standing f deps token conversationID positive appended
  refine ⟨?_, ?_, ?_⟩
  · intro n
    obtain ⟨ids, listed, standing⟩ := standing n
    exact ⟨ids, listed, standing.decreasing⟩
  · intro n through m member named
    obtain ⟨ids, listed, standing⟩ := standing n
    rw [through] at standing
    have inside : m.id ∈ ids := standing.2 _ ⟨m, member, named, rfl⟩
    have apart : ids.Nodup := standing.1.imp fun less => ne_of_gt less
    have distinct : ((walk f limit deps tables token conversationID n).messages.map (·.id)).Nodup := by
      rw [listed]
      exact apart.map (text_injective f)
    have there : f.text m.id ∈ (walk f limit deps tables token conversationID n).messages.map (·.id) := by
      rw [listed]
      exact List.mem_map_of_mem inside
    obtain ⟨item, among, same⟩ := List.mem_map.mp there
    have once := filter_eq_singleton distinct among
    rw [same] at once
    obtain ⟨k, conversationId, -, row, found, rfl⟩ := walk_found n item among
    have own : row.1 = m := by
      apply List.inj_on_of_nodup_map (tables k).messagePkey (ChatTables.mem_of_mem_inConversation found).1
        (grown appended (Nat.zero_le k) member)
      exact text_injective f same
    refine ⟨_, once, ?_⟩
    rw [← own]
    exact ⟨rfl, rfl, rfl⟩
  · intro all within answered
    by_contra going
    obtain ⟨ids, listed, standing⟩ := standing (all.card / limit + 1)
    have length := length_walk answered _ going
    have bound : ids.length ≤ all.card := by
      apply length_le_card standing.decreasing
      intro k inside
      have there : f.text k ∈ (walk f limit deps tables token conversationID (all.card / limit + 1)).messages.map (·.id) := by
        rw [listed]
        exact List.mem_map_of_mem inside
      obtain ⟨item, among, same⟩ := List.mem_map.mp there
      obtain ⟨n, conversationId, named, row, found, rfl⟩ := walk_found _ item among
      obtain ⟨member, own⟩ := ChatTables.mem_of_mem_inConversation found
      rw [← text_injective f same]
      exact within n ⟨row.1, member, by rw [named, own], rfl⟩
    have lengths := congrArg List.length listed
    rw [List.length_map, List.length_map, length] at lengths
    have more : all.card < (all.card / limit + 1) * limit := by
      rw [Nat.mul_comm]
      exact Nat.lt_mul_div_succ all.card positive
    omega

example : 0 < messagesReadLimit := by decide

end walk

/-! ### The spelling of a uuid -/

def hexDigits : Nat → Nat → List Char
  | 0, _ => []
  | width + 1, n => hexDigits width (n / 16) ++ [Nat.digitChar (n % 16)]

def readHex (digits : List Char) : Option Nat := digits.foldlM (fun n c => (hexValue c).map (16 * n + ·)) 0

def hyphenate (digits : List Char) : List Char :=
  digits.take 8 ++ '-' :: (digits.drop 8).take 4 ++ '-' :: (digits.drop 12).take 4 ++ '-' :: (digits.drop 16).take 4 ++
    '-' :: digits.drop 20

/-- The spellings with hyphens and without. -/
def readUuid (text : String) : Option UUID :=
  let digits := text.toList.filter (· ≠ '-')
  if digits.length = 32 ∧ (text.toList = hyphenate digits ∨ text.toList = digits) then
    (readHex digits).map (Fin.ofNat (2 ^ 128))
  else none

theorem hexValue_digitChar {n : Nat} (small : n < 16) : hexValue (Nat.digitChar n) = some n := by
  have each : ∀ k < 16, hexValue (Nat.digitChar k) = some k := by decide
  exact each n small

theorem readHex_hexDigits (width n : Nat) : readHex (hexDigits width n) = some (n % 16 ^ width) := by
  unfold readHex
  induction width generalizing n with
  | zero => simp [hexDigits, Nat.mod_one]
  | succ width ih =>
    have digit : hexValue (Nat.digitChar (n % 16)) = some (n % 16) := hexValue_digitChar (Nat.mod_lt n (by decide))
    have value : 16 * (n / 16 % 16 ^ width) + n % 16 = n % 16 ^ (width + 1) := by
      rw [Nat.pow_succ', Nat.mod_mul]
      exact Nat.add_comm _ _
    rw [hexDigits, List.foldlM_append, ih]
    simp [digit, value]

theorem length_hexDigits (width n : Nat) : (hexDigits width n).length = width := by
  induction width generalizing n with
  | zero => rfl
  | succ width ih => simp [hexDigits, ih]

theorem hyphen_hexDigits (width n : Nat) : '-' ∉ hexDigits width n := by
  induction width generalizing n with
  | zero => exact List.not_mem_nil
  | succ width ih =>
    have each : ∀ k < 16, '-' ≠ Nat.digitChar k := by decide
    simp [hexDigits, ih, each (n % 16) (Nat.mod_lt n (by decide))]

theorem filter_hyphenate {digits : List Char} (plain : '-' ∉ digits) : (hyphenate digits).filter (· ≠ '-') = digits := by
  have others : ∀ part : List Char, part ⊆ digits → part.filter (· ≠ '-') = part := by
    intro part within
    exact List.filter_eq_self.mpr fun c among => decide_eq_true fun same => plain (same ▸ within among)
  have parts : digits.take 8 ++ ((digits.drop 8).take 4 ++ ((digits.drop 12).take 4 ++ ((digits.drop 16).take 4 ++
      digits.drop 20))) = digits := by
    conv_rhs => rw [← List.take_append_drop 8 digits, ← List.take_append_drop 4 (digits.drop 8),
      ← List.take_append_drop 4 ((digits.drop 8).drop 4), ← List.take_append_drop 4 (((digits.drop 8).drop 4).drop 4)]
    simp only [List.drop_drop, Nat.reduceAdd]
  have taken : ∀ i n, ((digits.drop i).take n).filter (· ≠ '-') = (digits.drop i).take n := fun i n =>
    others _ fun _ among => List.mem_of_mem_drop (List.mem_of_mem_take among)
  have first := others (digits.take 8) fun _ among => List.mem_of_mem_take among
  have rest := others (digits.drop 20) fun _ among => List.mem_of_mem_drop among
  conv_rhs => rw [← parts]
  simp only [hyphenate, List.filter_append, List.filter_cons, List.append_assoc, List.cons_append, taken, first, rest]
  simp

/-- A uuid as the driver and `uuid.Parse` spell it. -/
def canonical : Formats where
  text id := String.ofList (hyphenate (hexDigits 32 id.val))
  parse := readUuid
  column := readUuid
  rfc3339 n := toString n
  parse_text id := by
    have digits := filter_hyphenate (hyphen_hexDigits 32 id.val)
    have value : id.val % 16 ^ 32 = id.val := Nat.mod_eq_of_lt id.isLt
    unfold readUuid
    rw [String.toList_ofList]
    rw [digits, if_pos ⟨length_hexDigits 32 id.val, .inl rfl⟩, readHex_hexDigits, value, Option.map_some,
      Fin.ofNat_val_eq_self]
  parse_empty := by decide

/-- Everyone is let in. -/
def openDeps : ChatDeps where
  verify _ := some "u"
  hasStore := true
  shopIDFor _ _ := some ""
  authorizeDirectRead _ _ _ := .ok ()
  databaseUp := true

/-- The message `3` is committed after the first page, with an id that is smaller than one already listed. -/
def late (n : Nat) : ChatTables where
  messages := (⟨5, 1, 2, "second", 20⟩ : MessageRow) :: ⟨2, 1, 2, "first", 10⟩ :: if n = 0 then [] else [⟨3, 1, 2, "late", 30⟩]
  participants := [⟨2, "user"⟩]
  messagePkey := by split <;> decide
  participantPkey := by decide
  senderFkey := by
    intro m member
    refine ⟨⟨2, "user"⟩, List.mem_singleton_self _, ?_⟩
    split at member <;> simp at member <;> grind

theorem late_listed : (walk canonical 1 (fun _ => openDeps) late (fun _ => "t") (canonical.text 1) 4).before = none ∧
    (walk canonical 1 (fun _ => openDeps) late (fun _ => "t") (canonical.text 1) 4).messages.map (·.text) =
      ["second", "late", "first"] := by
  have appended : ∀ n, (late n).messages ⊆ (late (n + 1)).messages := by
    intro n m member
    cases n <;> simp [late] at member ⊢ <;> grind
  have within : ∀ n, present canonical (late n) (canonical.text 1) ⊆ (({2, 3, 5} : Finset UUID) : Set UUID) := by
    rintro n id ⟨m, member, -, rfl⟩
    cases n <;> simp [late] at member ⊢ <;> grind
  have answered : ∀ (n : Nat) (before : String), ∃ body, messagesHandler canonical 1 openDeps (late n)
      ⟨"t", canonical.text 1, before⟩ = .ok body := by
    intro n before
    have named : canonical.column (canonical.text 1) = some 1 := canonical.parse_text 1
    have told : canonical.text 1 ≠ "" := text_ne canonical 1
    simp [messagesHandler, directMessages, openDeps, named, told]
  exact ⟨(messages_listed_once canonical (by decide) (fun _ => openDeps) late appended (fun _ => "t")
    (canonical.text 1)).2.2 {2, 3, 5} within answered, by decide +kernel⟩

end Marketplace.Chat.MessagePages
