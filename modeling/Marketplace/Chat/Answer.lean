import Marketplace.Chat.Gemini
import Marketplace.Chat.ReplyCache
import Marketplace.Chat.Stream

/-! An answer of the bot from the model to the widget: what is shown of it, and what is kept. -/
namespace Marketplace.Chat.Answer
open Ask Gemini
open ReplyServer (cacheable botErrorReason reasonBotUnavailable reasonProviderRateLimited)

/-- The connection of a client: whether it can be flushed, after how many events of the bot its context is done, and
which of the writes succeed. -/
structure Connection where
  flushes : Bool
  leftAt : Option Nat
  writes : Nat → Bool

/-- Whether there is a conversation, and which of the request's inserts succeed. -/
structure Memory where
  conversation : Bool
  appends : Nat → Bool

structure Row where
  fromBot : Bool
  body : String
deriving DecidableEq

/-- What a request has written into its stream, its conversation and the cache, and whether it has turned off the bot. -/
structure Told where
  frames : List ServerEvent := []
  rows : List Row := []
  cached : Option String := none
  tripped : Bool := false

/-- `appendMessage`, the `n`th of the request. -/
def Memory.append (memory : Memory) (n : Nat) (fromBot : Bool) (body : String) : List Row :=
  if memory.conversation ∧ body ≠ "" ∧ memory.appends n then [⟨fromBot, body⟩] else []

def Connection.left (connection : Connection) (n : Nat) : Bool := connection.leftAt.any (· ≤ n)

/-- The sink of `streamAnswer`: it writes an event unless the client has gone. -/
def Connection.takes (connection : Connection) (shown : List Event) : Bool :=
  !connection.left (shown.length - 1) && connection.writes shown.length

/-- The events that the sink has tried to write. -/
def Connection.tried (connection : Connection) (shown : List Event) : List Event :=
  match connection.leftAt with
  | none => shown
  | some n => shown.take n

def frameOf : Event → ServerEvent
  | .toolCall call => .eventTool call.name
  | .text content => .eventText content

def streamAnswer (connection : Connection) (memory : Memory) (ask : (List Event → Bool) → Asked) (question : String)
    (history : List Turn) (remaining : Nat) : Told :=
  if !connection.flushes then {}
  else if !connection.writes 0 then { frames := [.eventMeta remaining] }
  else
    let asked := ask connection.takes
    let begun := .eventMeta remaining :: (connection.tried asked.shown).map frameOf
    match asked.err with
    | some err =>
      { frames := begun ++ [.eventError (botErrorReason err)]
        rows := memory.append 0 false question
        tripped := botErrorReason err = reasonBotUnavailable ∨ botErrorReason err = reasonProviderRateLimited }
    | none =>
      { frames := begun ++ [.eventDone asked.result.truncated]
        rows := memory.append 0 false question ++ memory.append 1 true asked.result.text
        cached := if cacheable asked.result history then some asked.result.text else none }

def streamCached (connection : Connection) (memory : Memory) (question answer : String) : Told :=
  if !connection.flushes then {}
  else if !connection.writes 0 then { frames := [.eventMetaCached] }
  else if !connection.writes 1 then { frames := [.eventMetaCached, .eventText answer] }
  else
    { frames := [.eventMetaCached, .eventText answer, .eventDoneCached]
      rows := memory.append 0 false question ++ memory.append 1 true answer }

/-- `botHandler` behind its gates, with what the cache has. -/
def respond (connection : Connection) (memory : Memory) (ask : (List Event → Bool) → Asked) (question : String)
    (history : List Turn) (remaining : Nat) : Option String → Told
  | some answer => streamCached connection memory question answer
  | none => streamAnswer connection memory ask question history remaining

inductive MessageStatus where
  | streaming | done | error
deriving DecidableEq

structure ChatTextMessage where
  text : String := ""
  status : MessageStatus := .streaming
deriving DecidableEq

def connectingLabel : String := "Đang kết nối tới trợ lý…"
def thinkingLabel : String := "Đang suy nghĩ…"
def toolLabels : List (String × String) := [("search_products", "Đang tìm sản phẩm…")]
def fallbackToolLabel : String := "Đang tra cứu…"
def truncatedNotice : String := "Câu trả lời hơi dài nên bị cắt bớt. Bạn hỏi lại cụ thể hơn nhé."
def fallbackErrorMessage : String := "Có lỗi khi hỏi trợ lý. Bạn thử lại nhé."

def streamErrorMessages : List (String × String) := [
  ("bot_unavailable", "Trợ lý đang quá tải nên nghỉ vài phút. Bạn thử lại sau nhé."),
  ("provider_rate_limited", "Trợ lý đang bận trả lời người khác. Chờ chút rồi hỏi lại nhé."),
  ("timeout", "Trợ lý trả lời lâu quá nên mình dừng lại. Bạn thử hỏi ngắn gọn hơn nhé."),
  ("blocked", "Câu hỏi này mình không trả lời được. Bạn thử hỏi về sản phẩm nhé."),
  ("upstream", "Có lỗi khi hỏi trợ lý. Bạn thử lại nhé.")]

def fallbackSearchReasons : List String :=
  ["guest_daily", "user_hourly", "user_daily", "global_daily", "bot_disabled", "bot_unavailable"]

/-- What the widget keeps of the answer that is coming. -/
structure ChatWidget where
  message : ChatTextMessage := {}
  statusLabel : String := connectingLabel
  remaining : Option Nat := none
  notice : String := ""
  wasRefused : Bool := false
  failed : Bool := false

/-- The callback that `handleSend` gives to `askBot`. -/
def ChatWidget.handle (widget : ChatWidget) : ChatStreamEvent → ChatWidget
  | .ofMeta remaining _ =>
    { widget with
      statusLabel := thinkingLabel
      remaining := match remaining with
        | some (.num n) => some n
        | _ => widget.remaining }
  | .ofTool name => { widget with statusLabel := (toolLabels.lookup name).getD fallbackToolLabel }
  | .ofText v => { widget with statusLabel := "", message.text := widget.message.text ++ v }
  | .ofDone _ truncated =>
    { widget with message.status := .done, notice := if truncated then truncatedNotice else widget.notice }
  | .ofError reason =>
    { widget with
      failed := true
      message.status := .error
      notice := (streamErrorMessages.lookup reason).getD fallbackErrorMessage
      wasRefused := widget.wasRefused || reason ∈ fallbackSearchReasons }

theorem took_toolCallOnly {σ : Type} {sink : Sink σ} {seen : σ} {events : List Event}
    (took : Took (toolCallOnly (some sink)) seen events) : Took (some sink) seen (events.filter Event.isToolCall) := by
  induction events generalizing seen with
  | nil => trivial
  | cons event events ih =>
    cases event with
    | text content => exact ih took.2
    | toolCall call => exact ⟨took.1, ih took.2⟩

theorem took_client {accepts : List Event → Bool} {shown events : List Event}
    (took : Took (some (clientSink accepts)) shown events) (n : Nat) (inside : n < events.length) :
    accepts (shown ++ events.take (n + 1)) = true := by
  induction events generalizing shown n with
  | nil => cases inside
  | cons event events ih =>
    cases n with
    | zero => exact took.1
    | succ n =>
      have later : accepts ((shown ++ [event]) ++ events.take (n + 1)) = true := ih took.2 n (Nat.lt_of_succ_lt_succ inside)
      rw [List.append_assoc] at later
      exact later

theorem isToolCall_of_silent {events : List Event} (silent : callsOf events = []) : events.filter Event.isToolCall = [] := by
  refine List.filter_eq_nil_iff.mpr fun event among calls => ?_
  cases event with
  | text content => cases calls
  | toolCall call =>
    have listed : call ∈ callsOf events := List.mem_filterMap.mpr ⟨_, among, rfl⟩
    rw [silent] at listed
    cases listed

/-- The events that a client is handed, all of them if it takes every one, are what the answer says. -/
structure Spoken (accepts : List Event → Bool) (asked : Asked) : Prop where
  text : asked.err = none → String.join (texts asked.shown) = asked.result.text
  taken : asked.err = none → ∀ n < asked.shown.length, accepts (asked.shown.take (n + 1)) = true

theorem ask_spoken (sdk : Sdk) (env : Surroundings) (service : Service) (question : String) (history : List Turn)
    (accepts : List Event → Bool) (wire : Wire) :
    Spoken accepts (service.ask (botClient (sdk.provides env)) question history (some accepts) wire) := by
  obtain ⟨asked, decided, same, first, ended⟩ :=
    ask_ends service (botClient (sdk.provides env)) question history (some accepts) wire
  have deciding := botClient_reports sdk env _ (service.first (turnsOf question history))
    (toolCallOnly (some (clientSink accepts))) wire []
  have relayed := (botClient_careful (sdk.provides env)).relays _ (service.first (turnsOf question history))
    (toolCallOnly (some (clientSink accepts))) wire []
  rw [Option.map_some] at first
  rw [← first] at deciding relayed
  rw [absorb_toolCallOnly] at relayed
  -- the client sees of the first round its tool calls
  have seen : decided.seen = (decided.calls.flatMap ProviderCall.emitted).filter Event.isToolCall := by
    rw [relayed]
    exact absorb_client (some accepts) [] _
  have quiet : decided.result.toolCalls = [] → decided.seen = [] := by
    intro silent
    rw [seen]
    exact isToolCall_of_silent (deciding.toolCalls.symm.trans silent)
  rw [← same]
  rcases ended with ⟨why, done⟩ | ⟨_, silent, _, ⟨⟩, done⟩ | ⟨asks, others, given, fine, _, second, done⟩
  · rw [done]
    constructor
    · intro fine
      obtain ⟨silent, none | empty⟩ := why.resolve_left fun failed => failed fine
      · cases none
      · show String.join (texts decided.seen) = decided.result.text
        rw [quiet silent, empty]
        rfl
    · intro fine n inside
      obtain ⟨silent, _⟩ := why.resolve_left fun failed => failed fine
      dsimp only at inside
      rw [quiet silent] at inside
      cases inside
  · rw [done, quiet silent]
    constructor
    · intro _
      exact String.empty_append
    · intro fine n inside
      have zero : n = 0 := Nat.lt_one_iff.mp inside
      subst zero
      dsimp only at fine
      split at fine
      · assumption
      · cases fine
  · have giving := botClient_reports sdk env _ (service.second (turnsOf question history) asks (service.runTool asks).1)
      (some (clientSink accepts)) decided.wire decided.seen
    have relays := (botClient_careful (sdk.provides env)).relays _
      (service.second (turnsOf question history) asks (service.runTool asks).1) (some (clientSink accepts)) decided.wire decided.seen
    rw [Option.map_some] at second
    rw [← second] at giving relays
    have shown : given.seen = decided.seen ++ given.calls.flatMap ProviderCall.emitted := by
      rw [relays]
      exact absorb_client (some accepts) decided.seen _
    rw [done]
    constructor
    · intro _
      dsimp only
      rw [shown, texts_append, seen, texts_toolCalls, List.nil_append, giving.text]
    · intro ends n inside
      dsimp only at ends inside ⊢
      rw [shown] at inside ⊢
      by_cases early : n < decided.seen.length
      · rw [List.take_append_of_le_length early]
        have took := took_toolCallOnly (deciding.took fine)
        rw [← seen] at took
        exact took_client took n early
      · rw [List.length_append] at inside
        have took := took_client (giving.took ends) (n - decided.seen.length) (by omega)
        rw [List.take_append, List.take_of_length_le (by omega)]
        have count : n + 1 - decided.seen.length = n - decided.seen.length + 1 := by omega
        rw [count]
        exact took

theorem Connection.tried_prefix (connection : Connection) (shown : List Event) : connection.tried shown <+: shown := by
  unfold tried
  split
  · exact List.prefix_refl shown
  · exact List.take_prefix _ shown

/-- A client that has taken all has been there for all. -/
theorem Connection.tried_all {connection : Connection} {shown : List Event}
    (taken : ∀ n < shown.length, connection.takes (shown.take (n + 1)) = true) : connection.tried shown = shown := by
  unfold tried
  split
  · rfl
  · rename_i n leaves
    refine List.take_of_length_le ?_
    by_contra early
    have took := taken n (by omega)
    have length : (shown.take (n + 1)).length = n + 1 := List.length_take_of_le (by omega)
    simp [takes, left, leaves, length] at took

/-- What a request has kept of an answer: in its conversation if it could, and nothing else. -/
structure Kept (memory : Memory) (told : Told) (answer : String) : Prop where
  rows : ∀ text, ⟨true, text⟩ ∈ told.rows → text = answer
  cached : ∀ text, told.cached = some text → text = answer
  stored : answer ≠ "" → memory.conversation = true → memory.appends 1 = true → ⟨true, answer⟩ ∈ told.rows

structure KeptNone (told : Told) : Prop where
  rows : ∀ text, ⟨true, text⟩ ∉ told.rows
  cached : told.cached = none

/-- The frames of a stream: what opens it, events of the bot, and an end that tells of what was kept. -/
structure Streamed (memory : Memory) (told : Told) (opening : List ServerEvent) (body : List Event) (last : Option ServerEvent) :
    Prop where
  frames : told.frames = opening ++ body.map frameOf ++ last.toList
  opened : ∀ e ∈ opening, ∃ remaining cached, e.received = .ofMeta remaining cached
  ended : ∀ e ∈ last, (∃ cached truncated, e.received = .ofDone cached truncated ∧ Kept memory told (String.join (texts body))) ∨
    ∃ reason, e.received = .ofError reason ∧ KeptNone told
  kept : ∀ answer, ⟨true, answer⟩ ∈ told.rows ∨ told.cached = some answer →
    (String.join (texts body)).toList <+: answer.toList

theorem Memory.append_mem {memory : Memory} {n : Nat} {fromBot : Bool} {body : String} {row : Row}
    (among : row ∈ memory.append n fromBot body) : row = ⟨fromBot, body⟩ := by
  unfold append at among
  split at among
  · exact List.mem_singleton.mp among
  · cases among

theorem keptNone_question (memory : Memory) (n : Nat) (question text : String) :
    (⟨true, text⟩ : Row) ∉ memory.append n false question := by
  intro among
  cases Memory.append_mem among

theorem kept_answer {memory : Memory} {told : Told} {question answer : String}
    (rows : told.rows = memory.append 0 false question ++ memory.append 1 true answer)
    (cached : ∀ text, told.cached = some text → text = answer) : Kept memory told answer := by
  refine ⟨fun text among => ?_, cached, fun filled conversation appends => ?_⟩
  · rw [rows] at among
    rcases List.mem_append.mp among with asked | answered
    · exact absurd asked (keptNone_question memory 0 question text)
    · cases Memory.append_mem answered
      rfl
  · rw [rows]
    refine List.mem_append_right _ ?_
    unfold Memory.append
    rw [if_pos ⟨conversation, filled, appends⟩]
    exact List.mem_singleton_self _

theorem Kept.same {memory : Memory} {told : Told} {answer : String} (kept : Kept memory told answer) {text : String}
    (holds : ⟨true, text⟩ ∈ told.rows ∨ told.cached = some text) : text = answer :=
  holds.elim (kept.rows text) (kept.cached text)

theorem KeptNone.absent {told : Told} (none : KeptNone told) {text : String}
    (holds : ⟨true, text⟩ ∈ told.rows ∨ told.cached = some text) : False := by
  rcases holds with row | cached
  · exact none.rows text row
  · rw [none.cached] at cached
    cases cached

theorem streamed_none {memory : Memory} {told : Told} {opening : List ServerEvent} {body : List Event}
    (frames : told.frames = opening ++ body.map frameOf)
    (opened : ∀ e ∈ opening, ∃ remaining cached, e.received = .ofMeta remaining cached) (nothing : KeptNone told) :
    Streamed memory told opening body none where
  frames := by rw [frames]; exact (List.append_nil _).symm
  opened := opened
  ended _ no := by cases no
  kept _ holds := (nothing.absent holds).elim

theorem streamed_answer {memory : Memory} {told : Told} {opening : List ServerEvent} {body : List Event} {last : ServerEvent}
    (frames : told.frames = opening ++ body.map frameOf ++ [last])
    (opened : ∀ e ∈ opening, ∃ remaining cached, e.received = .ofMeta remaining cached)
    (ends : ∃ cached truncated, last.received = .ofDone cached truncated) (kept : Kept memory told (String.join (texts body))) :
    Streamed memory told opening body (some last) where
  frames := frames
  opened := opened
  ended e same := by
    obtain ⟨cached, truncated, received⟩ := ends
    cases same
    exact Or.inl ⟨cached, truncated, received, kept⟩
  kept answer holds := by rw [kept.same holds]

section
variable (connection : Connection) (memory : Memory) (question : String)

theorem opens_all {e : ServerEvent} (opens : ∃ remaining cached, e.received = .ofMeta remaining cached) :
    ∀ other ∈ [e], ∃ remaining cached, other.received = .ofMeta remaining cached := by
  intro other among
  rw [List.mem_singleton.mp among]
  exact opens

theorem keptNone_bare (frames : List ServerEvent) : KeptNone { frames := frames } := ⟨fun _ => List.not_mem_nil, rfl⟩

theorem streamCached_streamed (answer : String) :
    ∃ opening body last, Streamed memory (streamCached connection memory question answer) opening body last := by
  unfold streamCached
  split
  · exact ⟨[], [], none, streamed_none rfl (List.forall_mem_nil _) (keptNone_bare _)⟩
  split
  · exact ⟨[.eventMetaCached], [], none, streamed_none rfl (opens_all ⟨_, _, rfl⟩) (keptNone_bare _)⟩
  split
  · exact ⟨[.eventMetaCached], [.text answer], none, streamed_none rfl (opens_all ⟨_, _, rfl⟩) (keptNone_bare _)⟩
  · refine ⟨[.eventMetaCached], [.text answer], some .eventDoneCached, streamed_answer rfl (opens_all ⟨_, _, rfl⟩) ⟨_, _, rfl⟩ ?_⟩
    have said : String.join (texts [.text answer]) = answer := String.empty_append
    rw [said]
    exact kept_answer rfl fun text none => by cases none

theorem streamAnswer_streamed (ask : (List Event → Bool) → Asked) (history : List Turn) (remaining : Nat)
    (spoken : Spoken connection.takes (ask connection.takes)) :
    ∃ opening body last,
      Streamed memory (streamAnswer connection memory ask question history remaining) opening body last := by
  unfold streamAnswer
  split
  · exact ⟨[], [], none, streamed_none rfl (List.forall_mem_nil _) (keptNone_bare _)⟩
  split
  · exact ⟨[.eventMeta remaining], [], none, streamed_none rfl (opens_all ⟨_, _, rfl⟩) (keptNone_bare _)⟩
  dsimp only
  split
  · rename_i err failed
    refine ⟨[.eventMeta remaining], _, some (.eventError (botErrorReason err)), rfl, opens_all ⟨_, _, rfl⟩, ?_, ?_⟩
    · intro e same
      cases same
      exact Or.inr ⟨_, rfl, fun text => keptNone_question memory 0 question text, rfl⟩
    · rintro answer (row | none)
      · exact absurd row (keptNone_question memory 0 question answer)
      · cases none
  · rename_i fine
    refine ⟨[.eventMeta remaining], _, some (.eventDone _), streamed_answer rfl (opens_all ⟨_, _, rfl⟩) ⟨_, _, rfl⟩ ?_⟩
    rw [Connection.tried_all (spoken.taken fine), spoken.text fine]
    refine kept_answer rfl fun answer given => ?_
    split at given
    · exact (Option.some.inj given).symm
    · cases given

theorem respond_streamed (sdk : Sdk) (env : Surroundings) (service : Service) (history : List Turn) (wire : Wire)
    (remaining : Nat) (cached : Option String) :
    ∃ opening body last, Streamed memory
      (respond connection memory
        (fun accepts => service.ask (botClient (sdk.provides env)) question history (some accepts) wire) question history
        remaining cached) opening body last := by
  cases cached with
  | some answer => exact streamCached_streamed connection memory question answer
  | none =>
    have spoken := ask_spoken sdk env service question history connection.takes wire
    exact streamAnswer_streamed connection memory question
      (fun accepts => service.ask (botClient (sdk.provides env)) question history (some accepts) wire) history remaining
      spoken

end

/-- The message of the widget after events of the bot. -/
theorem handle_body (widget : ChatWidget) (body : List Event) :
    ((body.map fun event => (frameOf event).received).foldl ChatWidget.handle widget).message =
      { widget.message with text := widget.message.text ++ String.join (texts body) } := by
  induction body generalizing widget with
  | nil => simp [texts]
  | cons event body ih =>
    rw [List.map_cons, List.foldl_cons, ih]
    cases event with
    | toolCall call => rfl
    | text content => simp [frameOf, ServerEvent.received, ChatWidget.handle, texts, Event.text?, String.append_assoc]

theorem handle_opening (widget : ChatWidget) {events : List ChatStreamEvent}
    (opened : ∀ e ∈ events, ∃ remaining cached, e = .ofMeta remaining cached) :
    (events.foldl ChatWidget.handle widget).message = widget.message := by
  induction events generalizing widget with
  | nil => rfl
  | cons e events ih =>
    obtain ⟨remaining, cached, rfl⟩ := opened e List.mem_cons_self
    rw [List.foldl_cons, ih _ fun later among => opened later (List.mem_cons_of_mem _ among)]
    rfl

theorem prefix_append_cases {α : Type} {come first second : List α} (begun : come <+: first ++ second) :
    come <+: first ∨ ∃ rest, rest <+: second ∧ come = first ++ rest := by
  rcases List.prefix_or_prefix_of_prefix begun (List.prefix_append first second) with early | ⟨rest, rfl⟩
  · exact Or.inl early
  · exact Or.inr ⟨rest, (List.prefix_append_right_inj first).mp begun, rfl⟩

/-- What the widget shows, as far as the stream has come, agrees with what was kept. -/
structure Agrees (memory : Memory) (told : Told) (message : ChatTextMessage) : Prop where
  kept : ∀ answer, ⟨true, answer⟩ ∈ told.rows ∨ told.cached = some answer →
    message.text.toList <+: answer.toList ∧ (message.status = .done → message.text = answer)
  done : message.status = .done → message.text ≠ "" → memory.conversation = true → memory.appends 1 = true →
    ⟨true, message.text⟩ ∈ told.rows
  failed : message.status = .error → KeptNone told

/-- A message whose text has come so far, and which has not ended. -/
theorem Streamed.agrees_begun {memory : Memory} {told : Told} {opening : List ServerEvent} {body begun : List Event}
    {last : Option ServerEvent} (streamed : Streamed memory told opening body last) (come : begun <+: body) :
    Agrees memory told { text := String.join (texts begun), status := .streaming } := by
  refine ⟨fun answer holds => ⟨?_, fun no => (by cases no)⟩, fun no => (by cases no), fun no => (by cases no)⟩
  refine List.IsPrefix.trans ?_ (streamed.kept answer holds)
  obtain ⟨rest, rfl⟩ := come
  rw [texts_append, String.join_append, String.toList_append]
  exact List.prefix_append _ _

/-- The last event ends the message as the request has kept it. -/
theorem Streamed.agrees_ended {memory : Memory} {told : Told} {opening : List ServerEvent} {body : List Event} {e : ServerEvent}
    (streamed : Streamed memory told opening body (some e)) {widget : ChatWidget}
    (whole : widget.message = { text := String.join (texts body), status := .streaming }) :
    Agrees memory told (widget.handle e.received).message := by
  rcases streamed.ended e rfl with ⟨cached, truncated, received, kept⟩ | ⟨reason, received, nothing⟩
  · have message : (widget.handle e.received).message = { text := String.join (texts body), status := .done } := by
      rw [received]
      exact congrArg (fun m : ChatTextMessage => { m with status := .done }) whole
    rw [message]
    refine ⟨fun answer holds => ?_, fun _ filled conversation appends => ?_, fun no => (by cases no)⟩
    · have same := kept.same holds
      exact ⟨streamed.kept answer holds, fun _ => same.symm⟩
    · exact kept.stored filled conversation appends
  · have message : (widget.handle e.received).message = { text := String.join (texts body), status := .error } := by
      rw [received]
      exact congrArg (fun m : ChatTextMessage => { m with status := .error }) whole
    rw [message]
    refine ⟨fun answer holds => (nothing.absent holds).elim, fun no => (by cases no), fun _ => nothing⟩

theorem Streamed.agrees {memory : Memory} {told : Told} {opening : List ServerEvent} {body : List Event}
    {last : Option ServerEvent} (streamed : Streamed memory told opening body last) {events : List ChatStreamEvent}
    (come : events <+: told.frames.map ServerEvent.received) :
    Agrees memory told (events.foldl ChatWidget.handle {}).message := by
  have opens : ∀ e ∈ opening.map ServerEvent.received, ∃ remaining cached, e = .ofMeta remaining cached := by
    intro e among
    obtain ⟨frame, there, rfl⟩ := List.mem_map.mp among
    exact streamed.opened frame there
  have opened : ∀ body : List Event, ((opening.map ServerEvent.received ++
      body.map fun event => (frameOf event).received).foldl ChatWidget.handle {}).message =
      { text := String.join (texts body), status := .streaming } := by
    intro body
    rw [List.foldl_append, handle_body, handle_opening _ opens]
    exact congrArg (ChatTextMessage.mk · _) String.empty_append
  rw [streamed.frames, List.map_append, List.map_append, List.map_map] at come
  rcases prefix_append_cases come with early | ⟨rest, ending, rfl⟩
  · rcases prefix_append_cases early with first | ⟨later, begun, rfl⟩
    · rw [handle_opening _ fun e among => opens e (first.subset among)]
      exact streamed.agrees_begun List.nil_prefix
    · obtain ⟨spoken, among, rfl⟩ := List.prefix_map_iff.mp begun
      rw [show ServerEvent.received ∘ frameOf = fun event => (frameOf event).received from rfl, opened spoken]
      exact streamed.agrees_begun among
  · have whole := opened body
    rw [← show ServerEvent.received ∘ frameOf = fun event => (frameOf event).received from rfl] at whole
    cases last with
    | none =>
      rw [List.prefix_nil.mp ending, List.append_nil, whole]
      exact streamed.agrees_begun (List.prefix_refl body)
    | some e =>
      rcases List.prefix_cons_iff.mp ending with nothing | ⟨tail, ended, more⟩
      · rw [nothing, List.append_nil, whole]
        exact streamed.agrees_begun (List.prefix_refl body)
      · rw [ended, List.prefix_nil.mp more, List.foldl_append]
        exact streamed.agrees_ended whole

/-- Wherever the model, the tool, the conversation or the connection fails, and wherever the bytes are cut: what the widget
shows is a start of what was kept, all of it once it says that it is done, and nothing was kept if it shows an error. -/
theorem shown_kept {S : Type} (decoder : Utf8.Decoder S) (begins : decoder.Begins) (parse : Text → Option Payload) (sdk : Sdk)
    (env : Surroundings) (service : Service) (connection : Connection) (memory : Memory) (question : String)
    (history : List Turn) (wire : Wire) (remaining : Nat) (cached : Option String) (told : Told)
    (answered : told = respond connection memory
      (fun accepts => service.ask (botClient (sdk.provides env)) question history (some accepts) wire) question history
      remaining cached)
    (written : List Written) (framed : written.filterMap Written.event? = told.frames)
    (parses : ∀ e ∈ told.frames, parse (marshal e.payload) = some e.payload)
    (chunks : List Utf8.Bytes) (come : chunks.flatten <+: Utf8.encode (stream written)) :
    Agrees memory told ((readStream decoder parse chunks).foldl ChatWidget.handle {}).message := by
  obtain ⟨opening, body, last, streamed⟩ := respond_streamed connection memory question sdk env service history wire remaining cached
  rw [← answered] at streamed
  refine streamed.agrees ?_
  rw [← framed]
  refine events_begun decoder begins parse written (fun e among => parses e ?_) chunks come
  rw [← framed]
  exact List.mem_filterMap.mpr ⟨.event e, among, rfl⟩

def steady : Connection := ⟨true, none, fun _ => true⟩

def kind : Memory := ⟨true, fun _ => true⟩

/-- The thinking model is asked for shirts. -/
def shirtsTold : Told :=
  respond steady kind (fun accepts => shopBot.ask (botClient (thinking.provides alone)) "shirts?" [] (some accepts) {}) "shirts?" []
    4 none

def shirtsFrames : List ServerEvent :=
  [.eventMeta 4, .eventTool "search_products", .eventText "Two ", .eventText "shirts.", .eventDone false]

def shirtsWritten : List Written := .keepalive :: shirtsFrames.map .event

/-- `JSON.parse` on the payloads of the frames. -/
def parseShirts (text : Text) : Option Payload :=
  (shirtsFrames.find? fun e => marshal e.payload = text).map ServerEvent.payload

/-- All has come but the last event. -/
def shirtsChunks : List Utf8.Bytes := [(Utf8.encode (stream shirtsWritten)).take 180]

theorem shirts_kept : ⟨true, "Two shirts."⟩ ∈ shirtsTold.rows ∧
    Agrees kind shirtsTold ((readStream Utf8.streaming parseShirts shirtsChunks).foldl ChatWidget.handle {}).message := by
  refine ⟨by decide, ?_⟩
  refine shown_kept Utf8.streaming Utf8.streaming_begins parseShirts thinking alone shopBot steady kind "shirts?" [] {} 4 none
    shirtsTold rfl shirtsWritten rfl ?_ shirtsChunks ?_
  · have frames : shirtsTold.frames = shirtsFrames := rfl
    rw [frames]
    decide
  · rw [shirtsChunks, List.flatten_singleton]
    exact List.take_prefix _ _

end Marketplace.Chat.Answer
