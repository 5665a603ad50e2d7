import Marketplace.Chat.Breaker
import Marketplace.Chat.History
import Mathlib.Data.List.Chain

/-! One question of the bot: the tool loop of `Service.Ask` over the `Breaker` and the `Retrier`. -/
namespace Marketplace.Chat.Ask

inductive Json where
  | num (n : Nat)
  | str (s : String)
  | list (items : List Json)
  | object (fields : List (String × Json))

abbrev Fields := List (String × Json)

structure ToolCall where
  name : String
  args : Fields
  signature : List UInt8

structure ToolResult where
  name : String
  payload : Fields

/-- A turn as the provider gets it: a text, a call of a tool, or what the call gave. -/
structure SentTurn where
  role : TurnRole
  text : String := ""
  toolCall : Option ToolCall := none
  toolResult : Option ToolResult := none

def sent (turn : Turn) : SentTurn := { role := turn.role, text := turn.text }

structure ToolSpec where
  name : String
  description : String
  parametersJsonSchema : Fields

structure Request where
  systemInstruction : String
  history : List SentTurn
  tools : List ToolSpec
  stream : Bool

inductive Event where
  | text (content : String)
  | toolCall (call : ToolCall)

def Event.isToolCall : Event → Bool
  | text _ => false
  | toolCall _ => true

def Event.text? : Event → Option String
  | text content => some content
  | toolCall _ => none

structure Result where
  text : String := ""
  toolCalls : List ToolCall := []
  finishReason : String := ""
  promptTokens : Int := 0
  outputTokens : Int := 0
  truncated : Bool := false

/-- `ErrUpstream` beside the errors that the breaker asks for. -/
structure ProviderError extends CallError where
  upstream : Bool := false

inductive Failure where
  | provider (err : ProviderError)
  | circuitOpen
  | sink

def Failure.callError : Failure → CallError
  | provider err => err.toCallError
  | circuitOpen => {}
  | sink => {}

/-- What the provider does in one call: each event learns whether the sink took it. -/
inductive Attempt where
  | emit (event : Event) (next : Bool → Attempt)
  | done (result : Result) (err : Option ProviderError)

/-- A callback over the variables it writes; `false` is an error, which stops the stream. -/
abbrev Sink (σ : Type) := Event → σ → Bool × σ

/-- A nil sink takes everything. -/
def deliver (sink : Option (Sink σ)) (event : Event) (seen : σ) : Bool × σ :=
  match sink with
  | none => (true, seen)
  | some sink => sink event seen

/-- The sink of the retrier and of the breaker, which sets `delivered`. -/
def guarded (sink : Option (Sink σ)) : Sink (Bool × σ) := fun event seen =>
  let answer := deliver sink event seen.2
  (answer.1, true, answer.2)

def toolCallOnly (sink : Option (Sink σ)) : Option (Sink σ) :=
  sink.map fun sink event seen => if event.isToolCall then sink event seen else (true, seen)

/-- The client is handed the event, whatever it answers. -/
def clientSink (answers : List Event → Bool) : Sink (List Event) := fun event shown =>
  (answers (shown ++ [event]), shown ++ [event])

/-- A call of the provider, with all that it emitted. -/
structure ProviderCall where
  request : Request
  emitted : List Event
  result : Result
  err : Option ProviderError

structure Ran (σ : Type) where
  emitted : List Event
  result : Result
  err : Option ProviderError
  seen : σ

def Attempt.run (sink : Option (Sink σ)) : Attempt → σ → Ran σ
  | emit event next, seen =>
    let answer := deliver sink event seen
    let rest := (next answer.1).run sink answer.2
    { rest with emitted := event :: rest.emitted }
  | done result err, seen => ⟨[], result, err, seen⟩

/-- The breaker, and how often it was locked, the retrier slept and the provider was called. -/
structure Wire where
  breaker : Breaker := {}
  locks : Nat := 0
  naps : Nat := 0
  calls : Nat := 0

/-- All that a question does not decide itself. Between two of its steps the questions of
others use the same breaker. -/
structure Surroundings where
  provider : Nat → Request → Attempt
  sleep : Nat → Bool
  others : Nat → Breaker → Breaker
  now : Nat → Nat

structure Reply (σ : Type) where
  result : Result
  err : Option Failure
  calls : List ProviderCall
  wire : Wire
  seen : σ

/-- The interface `Client`. -/
abbrev Client := (σ : Type) → Request → Option (Sink σ) → Wire → σ → Reply σ

variable (env : Surroundings)

def provider : Client := fun _ req sink wire seen =>
  let ran := (env.provider wire.calls req).run sink seen
  { result := ran.result, err := ran.err.map .provider, calls := [⟨req, ran.emitted, ran.result, ran.err⟩],
    wire := { wire with calls := wire.calls + 1 }, seen := ran.seen }

def shouldRetry (err : Failure) (delivered : Bool) : Bool :=
  if delivered then false
  else match err with
    | .provider err => err.upstream || err.timeout
    | .circuitOpen => false
    | .sink => false

/-- `Retrier.Generate`. -/
def retrier (next : Client) : Client := fun σ req sink wire seen =>
  let res := next (Bool × σ) req (some (guarded sink)) wire (false, seen)
  if res.err.all fun err => !shouldRetry err res.seen.1 then { res with seen := res.seen.2 }
  else
    let slept := { res.wire with naps := res.wire.naps + 1 }
    if !env.sleep res.wire.naps then { res with wire := slept, seen := res.seen.2 }
    else
      let again := next (Bool × σ) req (some (guarded sink)) slept res.seen
      { again with calls := res.calls ++ again.calls, seen := again.seen.2 }

/-- `Breaker.Generate`. -/
def breaker (next : Client) : Client := fun σ req sink wire seen =>
  let found := env.others wire.locks wire.breaker
  match found.acquire (env.now wire.locks) with
  | .error .circuitOpen =>
    { result := {}, err := some .circuitOpen, calls := [],
      wire := { wire with breaker := found, locks := wire.locks + 1 }, seen }
  | .ok admitted =>
    let res := next (Bool × σ) req (some (guarded sink))
      { wire with breaker := admitted, locks := wire.locks + 1 } (false, seen)
    let after := env.others res.wire.locks res.wire.breaker
    let recorded := after.record (res.err.map Failure.callError) res.seen.1 (env.now res.wire.locks)
    { res with wire := { res.wire with breaker := recorded, locks := res.wire.locks + 1 }, seen := res.seen.2 }

def botClient : Client := breaker env (retrier env (provider env))

def toolSearchProducts : String := "search_products"

def searchToolSpec : ToolSpec where
  name := toolSearchProducts
  description := "Tim san pham dang ban tren san. Goi ham nay cho MOI cau hoi ve san pham, " ++
    "gia ca hoac goi y mua hang. Khong tu tra loi ve san pham khi chua goi ham nay."
  parametersJsonSchema := [
    ("type", .str "object"),
    ("properties", .object [
      ("query", .object [
        ("type", .str "string"),
        ("description", .str "Tu khoa tim kiem, vi du 'dien thoai', 'ao thun nam'.")]),
      ("minPrice", .object [
        ("type", .str "number"),
        ("description", .str "Gia toi thieu tinh bang VND. Bo trong neu nguoi dung khong noi.")]),
      ("maxPrice", .object [
        ("type", .str "number"),
        ("description", .str "Gia toi da tinh bang VND. Bo trong neu nguoi dung khong noi.")])]),
    ("required", .list [.str "query"])]

def toolError (message : String) : Fields :=
  [("error", .str message), ("products", .list []), ("total", .num 0)]

/-- The `SearchTool`, if the service has one, is what its `Execute` gives for the arguments. -/
structure Service where
  systemPrompt : String
  tool : Option (Fields → Fields)

/-- The payload, and the runs of the tool. -/
def Service.runTool (service : Service) (call : ToolCall) : Fields × List ToolCall :=
  match service.tool with
  | none => (toolError "cong cu nay hien khong dung duoc", [])
  | some execute =>
    if call.name = toolSearchProducts then (execute call.args, [call])
    else (toolError "cong cu nay hien khong dung duoc", [])

/-- How a question ended, what its client was handed, the calls of the provider in each
`Generate`, and the runs of the tool. -/
structure Asked where
  result : Result
  err : Option Failure
  wire : Wire
  shown : List Event
  generates : List (List ProviderCall)
  searches : List ToolCall

def Asked.calls (asked : Asked) : List ProviderCall := asked.generates.flatten

def turnsOf (question : String) (history : List Turn) : List SentTurn :=
  (trimHistory history).map sent ++ [{ role := .user, text := question }]

/-- The request `first`. -/
def Service.first (service : Service) (turns : List SentTurn) : Request where
  systemInstruction := service.systemPrompt
  history := turns
  tools := if service.tool.isSome then [searchToolSpec] else []
  stream := false

/-- The request `second`. -/
def Service.second (service : Service) (turns : List SentTurn) (call : ToolCall) (payload : Fields) : Request where
  systemInstruction := service.systemPrompt
  history := turns ++ [
    { role := .model, toolCall := some call },
    { role := .user, toolResult := some ⟨call.name, payload⟩ }]
  tools := (service.first turns).tools
  stream := true

/-- The turns before the question are texts: `historyFor` makes them from messages. -/
def Service.ask (service : Service) (client : Client) (question : String) (history : List Turn)
    (answers : Option (List Event → Bool)) (wire : Wire) : Asked :=
  let sink := answers.map clientSink
  let turns := turnsOf question history
  let decided := client _ (service.first turns) (toolCallOnly sink) wire []
  match decided.err with
  | some err => ⟨decided.result, some err, decided.wire, decided.seen, [decided.calls], []⟩
  | none =>
    match decided.result.toolCalls with
    | [] =>
      if sink.isSome ∧ decided.result.text ≠ "" then
        let answer := deliver sink (.text decided.result.text) decided.seen
        ⟨decided.result, if answer.1 then none else some .sink, decided.wire, answer.2, [decided.calls], []⟩
      else ⟨decided.result, none, decided.wire, decided.seen, [decided.calls], []⟩
    | call :: _ =>
      let ran := service.runTool call
      let given := client _ (service.second turns call ran.1) sink decided.wire decided.seen
      ⟨given.result, given.err, given.wire, given.seen, [decided.calls, given.calls], ran.2⟩

/-- What a sink's variables are after the events. -/
def absorb (sink : Option (Sink σ)) (seen : σ) (events : List Event) : σ :=
  events.foldl (fun seen event => (deliver sink event seen).2) seen

theorem run_absorbs (sink : Option (Sink σ)) (attempt : Attempt) (seen : σ) :
    (attempt.run sink seen).seen = absorb sink seen (attempt.run sink seen).emitted := by
  induction attempt generalizing seen with
  | emit event next ih => exact ih (deliver sink event seen).1 (deliver sink event seen).2
  | done result err => rfl

theorem absorb_guarded (sink : Option (Sink σ)) (delivered : Bool) (seen : σ) (events : List Event) :
    absorb (some (guarded sink)) (delivered, seen) events = (delivered || !events.isEmpty, absorb sink seen events) := by
  induction events generalizing delivered seen with
  | nil => simp [absorb]
  | cons event events ih =>
    have rest := ih true (deliver sink event seen).2
    rw [Bool.true_or] at rest
    rw [List.isEmpty_cons, Bool.not_false, Bool.or_true]
    exact rest

theorem absorb_toolCallOnly (sink : Option (Sink σ)) (seen : σ) (events : List Event) :
    absorb (toolCallOnly sink) seen events = absorb sink seen (events.filter Event.isToolCall) := by
  induction events generalizing seen with
  | nil => rfl
  | cons event events ih =>
    rw [List.filter_cons]
    refine (ih _).trans ?_
    cases sink with
    | none => cases event <;> rfl
    | some sink => cases event <;> rfl

theorem absorb_client (answers : Option (List Event → Bool)) (shown events : List Event) :
    absorb (answers.map clientSink) shown events = if answers.isSome then shown ++ events else shown := by
  cases answers with
  | none =>
    rw [Option.map_none, Option.isSome_none, if_neg (by decide)]
    induction events generalizing shown with
    | nil => rfl
    | cons event events ih => exact ih shown
  | some answers =>
    rw [Option.isSome_some, if_pos rfl]
    induction events generalizing shown with
    | nil => exact (List.append_nil shown).symm
    | cons event events ih =>
      refine (ih (shown ++ [event])).trans ?_
      rw [List.append_assoc, List.singleton_append]

/-- Whatever reaches the sink of the client comes from the provider's calls, in their order. -/
def Relays (client : Client) : Prop :=
  ∀ (σ : Type) (req : Request) (sink : Option (Sink σ)) (wire : Wire) (seen : σ),
    (client σ req sink wire seen).seen =
      absorb sink seen ((client σ req sink wire seen).calls.flatMap ProviderCall.emitted)

/-- A second call of the provider, for the same request, follows only one that gave nothing. -/
def RetriedOnce (calls : List ProviderCall) : Prop :=
  calls.length ≤ 2 ∧ calls.Pairwise fun first again => first.emitted = [] ∧ again.request = first.request

/-- What a `Generate` without an error returns is what its last call gave. -/
def EndsWith (calls : List ProviderCall) (result : Result) : Prop :=
  ∃ before call, calls = before ++ [call] ∧ call.err = none ∧ call.result = result

structure Careful (client : Client) : Prop where
  relays : Relays client
  retried : ∀ σ req sink wire seen, RetriedOnce (client σ req sink wire seen).calls
  requests : ∀ σ req sink wire seen, ∀ call ∈ (client σ req sink wire seen).calls, call.request = req
  ends : ∀ σ req sink wire seen, (client σ req sink wire seen).err = none →
    EndsWith (client σ req sink wire seen).calls (client σ req sink wire seen).result

theorem provider_calls (σ : Type) (req : Request) (sink : Option (Sink σ)) (wire : Wire) (seen : σ) :
    ∃ call, (provider env σ req sink wire seen).calls = [call] ∧ call.request = req ∧
      (provider env σ req sink wire seen).result = call.result ∧
      (provider env σ req sink wire seen).err = call.err.map Failure.provider ∧
      (provider env σ req sink wire seen).seen = absorb sink seen call.emitted :=
  ⟨_, rfl, rfl, rfl, rfl, run_absorbs sink _ seen⟩

/-- The retrier gives what the first call gave, or what a second gives after one that delivered nothing. -/
theorem retrier_cases (next : Client) (σ : Type) (req : Request) (sink : Option (Sink σ)) (wire : Wire) (seen : σ) :
    ∃ res, res = next (Bool × σ) req (some (guarded sink)) wire (false, seen) ∧
      ((∃ after, retrier env next σ req sink wire seen = { res with wire := after, seen := res.seen.2 }) ∨
      (res.seen.1 = false ∧ ∃ slept again, again = next (Bool × σ) req (some (guarded sink)) slept res.seen ∧
        retrier env next σ req sink wire seen = { again with calls := res.calls ++ again.calls, seen := again.seen.2 })) := by
  refine ⟨_, rfl, ?_⟩
  dsimp only [retrier]
  generalize next (Bool × σ) req (some (guarded sink)) wire (false, seen) = res
  split
  · exact .inl ⟨_, rfl⟩
  · rename_i retries
    split
    · exact .inl ⟨_, rfl⟩
    · refine .inr ⟨?_, _, _, rfl, rfl⟩
      -- an error after the first event is not retried
      rw [← Bool.not_eq_true]
      intro delivered
      exact retries (by simp [shouldRetry, delivered])

theorem retrier_calls (σ : Type) (req : Request) (sink : Option (Sink σ)) (wire : Wire) (seen : σ) :
    ∃ before call, (retrier env (provider env) σ req sink wire seen).calls = before ++ [call] ∧
      before.length ≤ 1 ∧ (∀ first ∈ before, first.emitted = [] ∧ first.request = req) ∧ call.request = req ∧
      (retrier env (provider env) σ req sink wire seen).result = call.result ∧
      (retrier env (provider env) σ req sink wire seen).err = call.err.map Failure.provider ∧
      (retrier env (provider env) σ req sink wire seen).seen = absorb sink seen call.emitted := by
  obtain ⟨res, given, ⟨after, once⟩ | ⟨quiet, slept, again, repeated, twice⟩⟩ :=
    retrier_cases env (provider env) σ req sink wire seen
  · obtain ⟨call, calls, request, result, err, relayed⟩ :=
      provider_calls env (Bool × σ) req (some (guarded sink)) wire (false, seen)
    rw [← given] at calls result err relayed
    rw [absorb_guarded] at relayed
    rw [once]
    exact ⟨[], call, calls, Nat.zero_le 1, List.forall_mem_nil _, request, result, err, congrArg Prod.snd relayed⟩
  · obtain ⟨first, firstCalls, firstRequest, -, -, firstRelayed⟩ :=
      provider_calls env (Bool × σ) req (some (guarded sink)) wire (false, seen)
    obtain ⟨call, calls, request, result, err, relayed⟩ :=
      provider_calls env (Bool × σ) req (some (guarded sink)) slept res.seen
    rw [← given] at firstCalls firstRelayed
    rw [← repeated] at calls result err relayed
    rw [absorb_guarded, Bool.false_or] at firstRelayed
    have nothing : first.emitted = [] := by
      have flag := (congrArg Prod.fst firstRelayed).symm.trans quiet
      simpa using flag
    have untouched : res.seen = (false, seen) := by rw [firstRelayed, nothing]; rfl
    rw [untouched, absorb_guarded] at relayed
    rw [twice]
    refine ⟨[first], call, ?_, Nat.le_refl 1, ?_, request, result, err, congrArg Prod.snd relayed⟩
    · exact congrArg₂ List.append firstCalls calls
    · intro other mem
      rw [List.mem_singleton.mp mem]
      exact ⟨nothing, firstRequest⟩

theorem pairwise_of_few {calls : List ProviderCall} (few : calls.length ≤ 1)
    (related : ProviderCall → ProviderCall → Prop) : calls.Pairwise related := by
  match calls with
  | [] => exact .nil
  | [call] => exact List.pairwise_singleton _ _
  | _ :: _ :: rest =>
    simp only [List.length_cons] at few
    omega

theorem retrier_careful : Careful (retrier env (provider env)) := by
  refine ⟨?_, ?_, ?_, ?_⟩ <;> intro σ req sink wire seen <;>
    obtain ⟨before, call, calls, few, quiet, request, result, err, relayed⟩ := retrier_calls env σ req sink wire seen
  · have nothing : before.flatMap ProviderCall.emitted = [] :=
      List.flatMap_eq_nil_iff.mpr fun first mem => (quiet first mem).1
    rw [calls, relayed, List.flatMap_append, nothing, List.nil_append, List.flatMap_singleton]
  · rw [calls]
    refine ⟨?_, ?_⟩
    · rw [List.length_append, List.length_singleton]
      omega
    · rw [List.pairwise_append]
      refine ⟨?_, List.pairwise_singleton _ _, ?_⟩
      · exact pairwise_of_few few _
      · intro first mem again last
        rw [List.mem_singleton.mp last]
        exact ⟨(quiet first mem).1, request.trans (quiet first mem).2.symm⟩
  · rw [calls]
    intro other mem
    rcases List.mem_append.mp mem with earlier | last
    · exact (quiet other earlier).2
    · rw [List.mem_singleton.mp last]
      exact request
  · intro fine
    rw [err, Option.map_eq_none_iff] at fine
    exact ⟨before, call, calls, fine, result.symm⟩

theorem breaker_careful {next : Client} (careful : Careful next) : Careful (breaker env next) := by
  refine ⟨?_, ?_, ?_, ?_⟩ <;> intro σ req sink wire seen <;> dsimp only [breaker] <;> split
  · rfl
  · refine (congrArg Prod.snd (careful.relays (Bool × σ) req _ _ (false, seen))).trans ?_
    rw [absorb_guarded]
  · exact ⟨Nat.zero_le 2, .nil⟩
  · exact careful.retried _ req _ _ _
  · exact List.forall_mem_nil _
  · exact careful.requests _ req _ _ _
  · rintro ⟨⟩
  · exact careful.ends _ req _ _ _

theorem botClient_careful : Careful (botClient env) := breaker_careful env (retrier_careful env)

theorem RetriedOnce.emitted {calls : List ProviderCall} (once : RetriedOnce calls) :
    calls.flatMap ProviderCall.emitted = [] ∨ ∃ call ∈ calls, calls.flatMap ProviderCall.emitted = call.emitted := by
  match calls, once with
  | [], _ => exact .inl rfl
  | [call], _ => exact .inr ⟨call, List.mem_singleton_self call, List.flatMap_singleton ..⟩
  | [first, call], ⟨_, pairs⟩ =>
    have quiet := (List.rel_of_pairwise_cons pairs (List.mem_singleton_self call)).1
    refine .inr ⟨call, List.mem_cons_of_mem _ (List.mem_singleton_self call), ?_⟩
    rw [List.flatMap_cons, quiet, List.nil_append, List.flatMap_singleton]
  | _ :: _ :: _ :: rest, ⟨few, _⟩ =>
    simp only [List.length_cons] at few
    omega

/-- Every tool result directly follows the tool call that it is the result of. -/
def AnswersInPlace (service : Service) (turns : List SentTurn) : Prop :=
  (∀ first ∈ turns.head?, first.toolResult = none) ∧
  turns.IsChain fun asking turn => ∀ result, turn.toolResult = some result →
    ∃ call, asking.toolCall = some call ∧ result = ⟨call.name, (service.runTool call).1⟩

theorem AnswersInPlace.texts (service : Service) {turns : List SentTurn}
    (texts : ∀ turn ∈ turns, turn.toolResult = none) : AnswersInPlace service turns := by
  refine ⟨fun first head => texts first (List.mem_of_mem_head? head), ?_⟩
  refine (List.pairwise_of_forall_mem_list ?_).isChain
  intro asking _ turn mem result given
  rw [texts turn mem] at given
  cases given

theorem AnswersInPlace.answer {service : Service} {turns : List SentTurn} (nonempty : turns ≠ [])
    (inPlace : AnswersInPlace service turns) (call : ToolCall) :
    AnswersInPlace service (turns ++ [
      { role := .model, toolCall := some call },
      { role := .user, toolResult := some ⟨call.name, (service.runTool call).1⟩ }]) := by
  refine ⟨?_, ?_⟩
  · rw [List.head?_append_of_ne_nil _ nonempty]
    exact inPlace.1
  · refine List.isChain_append.mpr ⟨inPlace.2, ?_, ?_⟩
    · refine List.isChain_pair.mpr ?_
      rintro result ⟨⟩
      exact ⟨call, rfl, rfl⟩
    · intro asking _ turn head result given
      rw [List.head?_cons, Option.mem_some_iff] at head
      subst head
      cases given

theorem turnsOf_texts (question : String) (history : List Turn) :
    ∀ turn ∈ turnsOf question history, turn.toolResult = none := by
  intro turn mem
  rcases List.mem_append.mp mem with earlier | last
  · obtain ⟨before, -, rfl⟩ := List.mem_map.mp earlier
    rfl
  · rw [List.mem_singleton.mp last]

def texts (events : List Event) : List String := events.filterMap Event.text?

theorem texts_toolCalls (events : List Event) : texts (events.filter Event.isToolCall) = [] := by
  refine List.filterMap_eq_nil_iff.mpr ?_
  intro event mem
  cases event with
  | text content => cases (List.mem_filter.mp mem).2
  | toolCall call => rfl

/-- The texts that the client is handed are those that one call emitted, in their order, or
the whole text that one call without an error ended with. -/
def ShownOnce (asked : Asked) : Prop :=
  texts asked.shown = [] ∨
  ∃ call ∈ asked.calls, texts asked.shown = texts call.emitted ∨
    call.err = none ∧ texts asked.shown = [call.result.text]

/-- What a question may cost the provider and the tool, and what its client may be handed. -/
structure Bounded (service : Service) (asked : Asked) : Prop where
  few : asked.calls.length ≤ 4
  searched : asked.searches.length ≤ 1
  retried : ∀ calls ∈ asked.generates, RetriedOnce calls
  shown : ShownOnce asked
  inPlace : ∀ call ∈ asked.calls, AnswersInPlace service call.request.history

theorem few_calls {generates : List (List ProviderCall)} (two : generates.length ≤ 2)
    (retried : ∀ calls ∈ generates, RetriedOnce calls) : generates.flatten.length ≤ 4 := by
  match generates with
  | [] => exact Nat.zero_le 4
  | [calls] =>
    have once := (retried calls List.mem_cons_self).1
    rw [List.flatten_singleton]
    omega
  | [first, second] =>
    have once := (retried first List.mem_cons_self).1
    have again := (retried second (List.mem_cons_of_mem _ List.mem_cons_self)).1
    rw [List.flatten_cons, List.flatten_singleton, List.length_append]
    omega
  | _ :: _ :: _ :: rest =>
    simp only [List.length_cons] at two
    omega

theorem Service.runTool_once (service : Service) (call : ToolCall) : (service.runTool call).2.length ≤ 1 := by
  unfold runTool
  split
  · exact Nat.zero_le 1
  · split
    · exact Nat.le_refl 1
    · exact Nat.zero_le 1

theorem texts_append (before after : List Event) : texts (before ++ after) = texts before ++ texts after :=
  List.filterMap_append

/-- Two calls of `Generate`, the first behind `toolCallOnly`: only texts of the second arrive. -/
theorem texts_second (answers : Option (List Event → Bool)) {seen : List Event} {calls : List ProviderCall}
    (silent : texts seen = []) (retried : RetriedOnce calls) :
    texts (absorb (answers.map clientSink) seen (calls.flatMap ProviderCall.emitted)) = [] ∨
    ∃ call ∈ calls,
      texts (absorb (answers.map clientSink) seen (calls.flatMap ProviderCall.emitted)) = texts call.emitted := by
  rw [absorb_client]
  split
  · rw [texts_append, silent, List.nil_append]
    rcases retried.emitted with nothing | ⟨call, mem, emitted⟩
    · exact .inl (by rw [nothing]; rfl)
    · exact .inr ⟨call, mem, by rw [emitted]⟩
  · exact .inl silent

/-- What the client was handed of a first `Generate`. -/
theorem texts_first (answers : Option (List Event → Bool)) (events : List Event) :
    texts (absorb (toolCallOnly (answers.map clientSink)) [] events) = [] := by
  rw [absorb_toolCallOnly, absorb_client]
  split
  · exact texts_toolCalls _
  · rfl

/-- A question ends with its first `Generate`, whose text the client may be handed, or after
a run of the tool with its second. -/
theorem Service.ask_cases (service : Service) (client : Client) (question : String) (history : List Turn)
    (answers : Option (List Event → Bool)) (wire : Wire) :
    ∃ asked decided, asked = service.ask client question history answers wire ∧
      decided = client _ (service.first (turnsOf question history)) (toolCallOnly (answers.map clientSink)) wire [] ∧
      ((asked.generates = [decided.calls] ∧ asked.searches = [] ∧
        (asked.shown = decided.seen ∨
          decided.err = none ∧ asked.shown = decided.seen ++ [.text decided.result.text])) ∨
      ∃ call given,
        given = client _ (service.second (turnsOf question history) call (service.runTool call).1)
          (answers.map clientSink) decided.wire decided.seen ∧
        asked.generates = [decided.calls, given.calls] ∧ asked.searches = (service.runTool call).2 ∧
        asked.shown = given.seen) := by
  refine ⟨_, _, rfl, rfl, ?_⟩
  dsimp only [ask]
  split
  · exact .inl ⟨rfl, rfl, .inl rfl⟩
  · rename_i fine
    split
    · split
      · rename_i spoken
        obtain ⟨accepts, rfl⟩ := Option.isSome_iff_exists.mp (Option.isSome_map.symm.trans spoken.1)
        exact .inl ⟨rfl, rfl, .inr ⟨fine, rfl⟩⟩
      · exact .inl ⟨rfl, rfl, .inl rfl⟩
    · exact .inr ⟨_, _, rfl, rfl, rfl, rfl⟩

theorem ask_shown {client : Client} (careful : Careful client) (service : Service) (question : String)
    (history : List Turn) (answers : Option (List Event → Bool)) (wire : Wire) :
    ShownOnce (service.ask client question history answers wire) := by
  obtain ⟨asked, decided, same, first, ended⟩ := service.ask_cases client question history answers wire
  have silent : texts decided.seen = [] := by
    rw [first, careful.relays]
    exact texts_first answers _
  rw [← same]
  rcases ended with ⟨generates, -, shown | ⟨fine, shown⟩⟩ | ⟨call, given, second, generates, -, shown⟩
  · exact .inl (shown ▸ silent)
  · obtain ⟨before, call, calls, well, said⟩ : EndsWith decided.calls decided.result := by
      rw [first] at fine ⊢
      exact careful.ends _ _ _ _ _ fine
    refine .inr ⟨call, ?_, .inr ⟨well, ?_⟩⟩
    · simp [Asked.calls, generates, calls]
    · rw [shown, texts_append, silent, said]
      rfl
  · have relays := careful.relays _ (service.second (turnsOf question history) call (service.runTool call).1)
      (answers.map clientSink) decided.wire decided.seen
    have retried := careful.retried _ (service.second (turnsOf question history) call (service.runTool call).1)
      (answers.map clientSink) decided.wire decided.seen
    rw [← second] at relays retried
    unfold ShownOnce
    rw [shown, relays]
    rcases texts_second answers silent retried with nothing | ⟨made, mem, arrived⟩
    · exact .inl nothing
    · refine .inr ⟨made, ?_, .inl arrived⟩
      simp [Asked.calls, generates, mem]

/-- Each `Generate` retries once, and its requests hold every result beside its call. -/
theorem ask_generates {client : Client} (careful : Careful client) (service : Service) (question : String)
    (history : List Turn) (answers : Option (List Event → Bool)) (wire : Wire) :
    let asked := service.ask client question history answers wire
    asked.generates.length ≤ 2 ∧ asked.searches.length ≤ 1 ∧ ∀ calls ∈ asked.generates, RetriedOnce calls ∧
      ∀ call ∈ calls, AnswersInPlace service call.request.history := by
  obtain ⟨asked, decided, same, first, ended⟩ := service.ask_cases client question history answers wire
  have plain := AnswersInPlace.texts service (turnsOf_texts question history)
  have decidedFine : RetriedOnce decided.calls ∧ ∀ call ∈ decided.calls, AnswersInPlace service call.request.history := by
    rw [first]
    refine ⟨careful.retried _ _ _ _ _, fun call mem => ?_⟩
    rw [careful.requests _ _ _ _ _ call mem]
    exact plain
  rw [← same]
  dsimp only
  rcases ended with ⟨generates, searches, -⟩ | ⟨call, given, second, generates, searches, -⟩
  · rw [generates, searches]
    refine ⟨Nat.le_succ 1, Nat.zero_le 1, fun calls mem => ?_⟩
    rw [List.mem_singleton.mp mem]
    exact decidedFine
  · rw [generates, searches]
    refine ⟨Nat.le_refl 2, service.runTool_once call, fun calls mem => ?_⟩
    rcases List.mem_cons.mp mem with rfl | later
    · exact decidedFine
    · rw [List.mem_singleton.mp later, second]
      refine ⟨careful.retried _ _ _ _ _, fun made mem => ?_⟩
      rw [careful.requests _ _ _ _ _ made mem]
      exact plain.answer (List.append_ne_nil_of_right_ne_nil _ (List.cons_ne_nil _ _)) call

theorem ask_bounded (service : Service) (question : String) (history : List Turn)
    (answers : Option (List Event → Bool)) (wire : Wire) :
    Bounded service (service.ask (botClient env) question history answers wire) := by
  obtain ⟨two, searched, each⟩ := ask_generates (botClient_careful env) service question history answers wire
  refine ⟨few_calls two fun calls mem => (each calls mem).1, searched, fun calls mem => (each calls mem).1,
    ask_shown (botClient_careful env) service question history answers wire, ?_⟩
  intro call mem
  obtain ⟨calls, generated, made⟩ := List.mem_flatten.mp mem
  exact (each calls generated).2 call made

end Marketplace.Chat.Ask
