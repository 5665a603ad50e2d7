import Marketplace.Chat.Ask

/-! The adapter of the model: what of one generation reaches the sink and the result, and the contents that are sent. -/
namespace Marketplace.Chat.Gemini
open Ask

def maxOutputTokens : Nat := 512
def thinkingLevelMinimal : String := "MINIMAL"
def functionCallingConfigModeAuto : String := "AUTO"
def finishReasonMaxTokens : String := "MAX_TOKENS"

structure FunctionCall where
  name : String
  args : Fields

structure FunctionResponse where
  name : String
  response : Fields

structure Part where
  text : String := ""
  thought : Bool := false
  functionCall : Option FunctionCall := none
  functionResponse : Option FunctionResponse := none
  thoughtSignature : List UInt8 := []

structure Content where
  role : TurnRole
  parts : List Part

structure Candidate where
  content : Option (List (Option Part))
  finishReason : String

structure UsageMetadata where
  promptTokenCount : Int
  candidatesTokenCount : Int

structure GenerateContentResponse where
  blockReason : Option String
  usageMetadata : Option UsageMetadata
  candidates : List Candidate

structure GenerateContentConfig where
  maxOutputTokens : Nat := Gemini.maxOutputTokens
  thinkingLevel : String := thinkingLevelMinimal
  systemInstruction : Option String := none
  functionDeclarations : List ToolSpec := []
  functionCallingMode : Option String := none

inductive ContextErr where
  | deadlineExceeded | canceled
deriving DecidableEq

structure APIError where
  code : Int
  status : String

/-- What `errors.Is` and `errors.As` find in an error of the SDK. -/
structure SdkError where
  deadlineExceeded : Bool := false
  canceled : Bool := false
  apiError : Option APIError := none

/-- What the SDK gives next: a response, or an error with what its two contexts say then. -/
inductive Item where
  | response (resp : Option GenerateContentResponse)
  | failed (parentCtx callCtx : Option ContextErr) (err : SdkError)

structure Accumulator where
  text : String := ""
  toolCalls : List ToolCall := []
  finishReason : String := ""
  blockReason : String := ""
  promptTokens : Int := 0
  outputTokens : Int := 0

def Accumulator.finish (a : Accumulator) : Result where
  text := a.text
  toolCalls := a.toolCalls
  finishReason := a.finishReason
  promptTokens := a.promptTokens
  outputTokens := a.outputTokens
  truncated := a.finishReason = finishReasonMaxTokens

def blockingReasons : List String := ["SAFETY", "PROHIBITED_CONTENT", "BLOCKLIST", "SPII", "RECITATION"]

def Accumulator.blockedErr (a : Accumulator) : Option ProviderError :=
  if a.blockReason ≠ "" then some { blocked := true }
  else if a.finishReason ∈ blockingReasons then some { blocked := true }
  else none

/-- The part of `consume` before the candidate is read. -/
def Accumulator.noteFeedback (a : Accumulator) (resp : GenerateContentResponse) : Accumulator :=
  let blocked := match resp.blockReason with
    | some reason => if reason ≠ "" then { a with blockReason := reason } else a
    | none => a
  match resp.usageMetadata with
  | some usage => { blocked with promptTokens := usage.promptTokenCount, outputTokens := usage.candidatesTokenCount }
  | none => blocked

def Accumulator.noteFinish (a : Accumulator) (reason : String) : Accumulator :=
  if reason ≠ "" then { a with finishReason := reason } else a

/-- The loop over the parts; then `next`, or `refused` once the sink has given an error. -/
def consumeParts (refused next : Accumulator → Attempt) : List (Option Part) → Accumulator → Attempt
  | [], a => next a
  | none :: parts, a => consumeParts refused next parts a
  | some part :: parts, a =>
    if part.thought then consumeParts refused next parts a
    else match part.functionCall with
    | some asked =>
      let call : ToolCall := ⟨asked.name, asked.args, part.thoughtSignature⟩
      let called := { a with toolCalls := a.toolCalls ++ [call] }
      .emit (.toolCall call) fun taken => if taken then consumeParts refused next parts called else refused called
    | none =>
      if part.text = "" then consumeParts refused next parts a
      else
        let told := { a with text := a.text ++ part.text }
        .emit (.text part.text) fun taken => if taken then consumeParts refused next parts told else refused told

def consume (refused next : Accumulator → Attempt) (resp : Option GenerateContentResponse) (a : Accumulator) : Attempt :=
  match resp with
  | none => next a
  | some resp =>
    let noted := a.noteFeedback resp
    match resp.candidates with
    | [] => next noted
    | candidate :: _ =>
      let ended := noted.noteFinish candidate.finishReason
      match candidate.content with
      | none => next ended
      | some parts => consumeParts refused next parts ended

/-- `nil` for a status that is not known. -/
def classifyAPIError (err : APIError) : Option ProviderError :=
  if err.code = 429 ∨ err.status = "RESOURCE_EXHAUSTED" then some { rateLimited := true }
  else if 500 ≤ err.code then some { upstream := true }
  else if err.status ∈ ["UNAVAILABLE", "INTERNAL", "DEADLINE_EXCEEDED"] then some { upstream := true }
  else if 400 ≤ err.code then some { badRequest := true }
  else if err.status ∈ ["INVALID_ARGUMENT", "PERMISSION_DENIED", "UNAUTHENTICATED", "NOT_FOUND", "FAILED_PRECONDITION"] then
    some { badRequest := true }
  else none

def mapError (parentCtx callCtx : Option ContextErr) (err : SdkError) : ProviderError :=
  if callCtx ≠ none ∧ parentCtx = none then { timeout := true }
  else if parentCtx = some .deadlineExceeded ∨ err.deadlineExceeded then { timeout := true }
  else if parentCtx = some .canceled ∨ err.canceled then { canceled := err.canceled }
  else (err.apiError.bind classifyAPIError).getD { upstream := true }

/-- The error of a sink that stops the stream wraps `context.Canceled` if its client has gone. -/
def refusedBy (gone : Bool) (a : Accumulator) : Attempt := .done a.finish (some { canceled := gone })

/-- The loop over the stream. -/
def receive (gone : Bool) : List Item → Accumulator → Attempt
  | [], a => .done a.finish a.blockedErr
  | .failed parentCtx callCtx err :: _, a => .done a.finish (some (mapError parentCtx callCtx err))
  | .response resp :: items, a => consume (refusedBy gone) (receive gone items) resp a

def sdkRole : TurnRole → TurnRole
  | .model => .model
  | .user => .user

def toPart (turn : SentTurn) : Option Part :=
  match turn.toolCall, turn.toolResult with
  | some call, _ => some { functionCall := some ⟨call.name, call.args⟩, thoughtSignature := call.signature }
  | none, some result => some { functionResponse := some ⟨result.name, result.payload⟩ }
  | none, none => if turn.text ≠ "" then some { text := turn.text } else none

def toContents (history : List SentTurn) : List Content :=
  history.filterMap fun turn => (toPart turn).map fun part => ⟨sdkRole turn.role, [part]⟩

def buildConfig (req : Request) : GenerateContentConfig :=
  let config : GenerateContentConfig :=
    { systemInstruction := if req.systemInstruction ≠ "" then some req.systemInstruction else none }
  if req.tools = [] then config
  else { config with functionDeclarations := req.tools, functionCallingMode := some functionCallingConfigModeAuto }

/-- The SDK at the `n`th call of the provider. -/
structure Sdk where
  generateContent : Nat → List Content → GenerateContentConfig → Item
  generateContentStream : Nat → List Content → GenerateContentConfig → List Item
  gone : Nat → Bool

def Sdk.items (sdk : Sdk) (n : Nat) (req : Request) : List Item :=
  if req.stream then sdk.generateContentStream n (toContents req.history) (buildConfig req)
  else [sdk.generateContent n (toContents req.history) (buildConfig req)]

/-- `Client.Generate`. -/
def Sdk.generate (sdk : Sdk) (n : Nat) (req : Request) : Attempt := receive (sdk.gone n) (sdk.items n req) {}

def callOf : Event → Option ToolCall
  | .text _ => none
  | .toolCall call => some call

def callsOf (events : List Event) : List ToolCall := events.filterMap callOf

/-- The sink takes every one of the events. -/
def Took {σ : Type} (sink : Option (Sink σ)) : σ → List Event → Prop
  | _, [] => True
  | seen, event :: events => (deliver sink event seen).1 = true ∧ Took sink (deliver sink event seen).2 events

def Part.Calls (part : Part) (call : ToolCall) : Prop :=
  part.thought = false ∧ part.functionCall = some ⟨call.name, call.args⟩ ∧ part.thoughtSignature = call.signature

/-- The parts that `consume` reads. -/
def Item.parts : Item → List Part
  | .response (some resp) => (resp.candidates.head?.bind Candidate.content).getD [] |>.filterMap id
  | _ => []

/-- The call was in one of the items, with the signature that it has. -/
def Given (items : List Item) (call : ToolCall) : Prop := ∃ part ∈ items.flatMap Item.parts, part.Calls call

/-- What a run adds to an accumulator is what it emits, and if it ends well the sink took all of it. -/
structure Tells {σ : Type} (given : ToolCall → Prop) (a : Accumulator) (sink : Option (Sink σ)) (seen : σ) (ran : Ran σ) : Prop where
  text : ran.result.text = a.text ++ String.join (texts ran.emitted)
  toolCalls : ran.result.toolCalls = a.toolCalls ++ callsOf ran.emitted
  took : ran.err = none → Took sink seen ran.emitted
  given : ∀ call ∈ callsOf ran.emitted, given call

def Reports (given : ToolCall → Prop) (a : Accumulator) (attempt : Attempt) : Prop :=
  ∀ (σ : Type) (sink : Option (Sink σ)) (seen : σ), Tells given a sink seen (attempt.run sink seen)

section
variable {given : ToolCall → Prop} {a b : Accumulator}

theorem reports_done (err : Option ProviderError) : Reports given a (.done a.finish err) := by
  intro σ sink seen
  refine ⟨?_, ?_, fun _ => trivial, fun call none => absurd none List.not_mem_nil⟩
  · exact String.append_empty.symm
  · exact (List.append_nil _).symm

/-- An attempt reads of the accumulator only the texts and the calls. -/
theorem Reports.of_same {attempt : Attempt} (reports : Reports given b attempt) (text : b.text = a.text)
    (toolCalls : b.toolCalls = a.toolCalls) : Reports given a attempt := by
  intro σ sink seen
  obtain ⟨said, called, took, there⟩ := reports σ sink seen
  rw [text] at said
  rw [toolCalls] at called
  exact ⟨said, called, took, there⟩

theorem Tells.emit {σ : Type} {sink : Option (Sink σ)} {seen : σ} {event : Event} {rest : Ran σ}
    (tells : Tells given b sink (deliver sink event seen).2 rest) (text : b.text = a.text ++ String.join (texts [event]))
    (toolCalls : b.toolCalls = a.toolCalls ++ callsOf [event]) (there : ∀ call ∈ callsOf [event], given call)
    (taken : rest.err = none → (deliver sink event seen).1 = true) :
    Tells given a sink seen { rest with emitted := event :: rest.emitted } := by
  obtain ⟨said, called, took, later⟩ := tells
  have split : texts (event :: rest.emitted) = texts [event] ++ texts rest.emitted := texts_append [event] rest.emitted
  have splitCalls : callsOf (event :: rest.emitted) = callsOf [event] ++ callsOf rest.emitted :=
    List.filterMap_append (l := [event])
  refine ⟨?_, ?_, fun fine => ⟨taken fine, took fine⟩, fun call among => ?_⟩
  · rw [said, text, split, String.join_append, String.append_assoc]
  · rw [called, toolCalls, splitCalls, List.append_assoc]
  · rw [splitCalls] at among
    rcases List.mem_append.mp among with first | rest
    · exact there call first
    · exact later call rest

theorem reports_emit {event : Event} {taken refused : Attempt} (text : b.text = a.text ++ String.join (texts [event]))
    (toolCalls : b.toolCalls = a.toolCalls ++ callsOf [event]) (there : ∀ call ∈ callsOf [event], given call)
    (goesOn : Reports given b taken) {err : ProviderError} (stops : refused = .done b.finish (some err)) :
    Reports given a (.emit event fun answer => if answer then taken else refused) := by
  intro σ sink seen
  cases answer : (deliver sink event seen).1 with
  | true =>
    have rest := (goesOn σ sink (deliver sink event seen).2).emit text toolCalls there fun _ => answer
    simpa [Attempt.run, answer] using rest
  | false =>
    subst stops
    have stopped : Tells given b sink (deliver sink event seen).2 (Attempt.run sink (.done b.finish (some err)) _) :=
      reports_done (some err) σ sink _
    have rest := stopped.emit text toolCalls there fun fine => by cases fine
    simpa [Attempt.run, answer] using rest

theorem consumeParts_reports {refused next : Accumulator → Attempt} {err : ProviderError}
    (stops : ∀ a, refused a = .done a.finish (some err)) (goesOn : ∀ a, Reports given a (next a)) (parts : List (Option Part))
    (there : ∀ part ∈ parts.filterMap id, ∀ call, part.Calls call → given call) (a : Accumulator) :
    Reports given a (consumeParts refused next parts a) := by
  induction parts generalizing a with
  | nil => exact goesOn a
  | cons head parts ih =>
    cases head with
    | none => exact ih there a
    | some part =>
      have own := there part List.mem_cons_self
      have rest := ih fun later among => there later (List.mem_cons_of_mem _ among)
      unfold consumeParts
      split
      · exact rest a
      · rename_i spoken
        split
        · rename_i asked called
          let call : ToolCall := ⟨asked.name, asked.args, part.thoughtSignature⟩
          refine reports_emit (b := { a with toolCalls := a.toolCalls ++ [call] }) String.append_empty.symm rfl ?_ (rest _) (stops _)
          intro call among
          rw [List.mem_singleton.mp among]
          exact own _ ⟨eq_false_of_ne_true spoken, called, rfl⟩
        · split
          · exact rest a
          · refine reports_emit (b := { a with text := a.text ++ part.text }) ?_ (List.append_nil _).symm
              (fun call none => absurd none List.not_mem_nil) (rest _) (stops _)
            simp [texts, Event.text?]

theorem Accumulator.noteFeedback_said (a : Accumulator) (resp : GenerateContentResponse) :
    (a.noteFeedback resp).text = a.text ∧ (a.noteFeedback resp).toolCalls = a.toolCalls := by
  unfold noteFeedback
  dsimp only
  split <;> split <;> try split
  all_goals exact ⟨rfl, rfl⟩

theorem Accumulator.noteFinish_said (a : Accumulator) (reason : String) :
    (a.noteFinish reason).text = a.text ∧ (a.noteFinish reason).toolCalls = a.toolCalls := by
  unfold noteFinish
  split <;> exact ⟨rfl, rfl⟩

theorem receive_reports (gone : Bool) (items : List Item) (there : ∀ call, Given items call → given call) (a : Accumulator) :
    Reports given a (receive gone items a) := by
  induction items generalizing a with
  | nil => exact reports_done _
  | cons item items ih =>
    have rest := ih fun call found => there call (by
      obtain ⟨part, among, calls⟩ := found
      exact ⟨part, List.mem_append_right _ among, calls⟩)
    cases item with
    | failed parentCtx callCtx err => exact reports_done _
    | response resp =>
      cases resp with
      | none => exact rest a
      | some resp =>
        obtain ⟨text, toolCalls⟩ := a.noteFeedback_said resp
        unfold receive consume
        dsimp only
        split
        · exact (rest _).of_same text toolCalls
        · rename_i candidate others listed
          obtain ⟨finishText, finishCalls⟩ := (a.noteFeedback resp).noteFinish_said candidate.finishReason
          split
          · exact (rest _).of_same (finishText.trans text) (finishCalls.trans toolCalls)
          · rename_i parts content
            refine (consumeParts_reports (fun _ => rfl) rest parts ?_ _).of_same (finishText.trans text) (finishCalls.trans toolCalls)
            intro part among call calls
            refine there call ⟨part, List.mem_append_left _ ?_, calls⟩
            simpa [Item.parts, listed, content] using among

end

/-- A generation tells what it emits; its tool calls are the SDK's, each with its signature. -/
theorem Sdk.generate_reports (sdk : Sdk) (n : Nat) (req : Request) :
    Reports (Given (sdk.items n req)) {} (sdk.generate n req) :=
  receive_reports (sdk.gone n) (sdk.items n req) (fun _ found => found) {}

/-- The adapter in its place. -/
def Sdk.provides (sdk : Sdk) (env : Surroundings) : Surroundings := { env with provider := sdk.generate }

/-- What a reply says is what all its calls have emitted, and what ends well its sink took. -/
structure Reporting (sdk : Sdk) {σ : Type} (sink : Option (Sink σ)) (seen : σ) (reply : Reply σ) : Prop where
  text : reply.result.text = String.join (texts (reply.calls.flatMap ProviderCall.emitted))
  toolCalls : reply.result.toolCalls = callsOf (reply.calls.flatMap ProviderCall.emitted)
  took : reply.err = none → Took sink seen (reply.calls.flatMap ProviderCall.emitted)
  given : ∀ call ∈ reply.calls, ∃ n, ∀ asked ∈ callsOf call.emitted, Given (sdk.items n call.request) asked

def ClientReports (sdk : Sdk) (client : Client) : Prop :=
  ∀ (σ : Type) (req : Request) (sink : Option (Sink σ)) (wire : Wire) (seen : σ), Reporting sdk sink seen (client σ req sink wire seen)

theorem took_guarded {σ : Type} (sink : Option (Sink σ)) (delivered : Bool) (seen : σ) (events : List Event) :
    Took (some (guarded sink)) (delivered, seen) events ↔ Took sink seen events := by
  induction events generalizing delivered seen with
  | nil => exact Iff.rfl
  | cons event events ih => exact and_congr Iff.rfl (ih true (deliver sink event seen).2)

section
variable (sdk : Sdk) (env : Surroundings)

theorem provider_reports : ClientReports sdk (provider (sdk.provides env)) := by
  intro σ req sink wire seen
  obtain ⟨text, toolCalls, took, given⟩ := sdk.generate_reports wire.calls req σ sink seen
  have single : ((provider (sdk.provides env) σ req sink wire seen).calls.flatMap ProviderCall.emitted) =
      ((sdk.generate wire.calls req).run sink seen).emitted := List.flatMap_singleton ..
  refine ⟨?_, ?_, ?_, ?_⟩
  · rw [single]
    exact text.trans String.empty_append
  · rw [single]
    exact toolCalls
  · rw [single]
    intro fine
    exact took (Option.map_eq_none_iff.mp fine)
  · intro call made
    rw [List.mem_singleton.mp made]
    exact ⟨wire.calls, given⟩

theorem Reporting.unguard {σ : Type} {sink : Option (Sink σ)} {delivered : Bool} {seen : σ} {reply : Reply (Bool × σ)} (wire : Wire)
    (reporting : Reporting sdk (some (guarded sink)) (delivered, seen) reply) :
    Reporting sdk sink seen { reply with wire := wire, seen := reply.seen.2 } := by
  obtain ⟨text, toolCalls, took, given⟩ := reporting
  exact ⟨text, toolCalls, fun fine => (took_guarded sink delivered seen _).mp (took fine), given⟩

theorem retrier_reports {next : Client} (relays : Relays next) (reports : ClientReports sdk next) :
    ClientReports sdk (retrier env next) := by
  intro σ req sink wire seen
  obtain ⟨res, first, ⟨after, once⟩ | ⟨quiet, slept, again, second, twice⟩⟩ := retrier_cases env next σ req sink wire seen
  · rw [once]
    subst first
    exact (reports _ _ _ _ _).unguard sdk after
  · -- the first call has emitted nothing
    have relayed := relays _ req (some (guarded sink)) wire (false, seen)
    rw [← first, absorb_guarded, Bool.false_or] at relayed
    have nothing : res.calls.flatMap ProviderCall.emitted = [] := by
      have flag := (congrArg Prod.fst relayed).symm.trans quiet
      simpa using flag
    have untouched : res.seen = (false, seen) := by rw [relayed, nothing]; rfl
    have before := reports _ req (some (guarded sink)) wire (false, seen)
    have later := reports _ req (some (guarded sink)) slept res.seen
    rw [← first] at before
    rw [← second, untouched] at later
    obtain ⟨text, toolCalls, took, given⟩ := later.unguard sdk again.wire
    rw [twice]
    refine ⟨?_, ?_, ?_, ?_⟩
    · rw [List.flatMap_append, nothing]
      exact text
    · rw [List.flatMap_append, nothing]
      exact toolCalls
    · rw [List.flatMap_append, nothing]
      exact took
    · intro call made
      rcases List.mem_append.mp made with one | other
      · exact before.given call one
      · exact given call other

theorem breaker_reports {next : Client} (reports : ClientReports sdk next) : ClientReports sdk (breaker env next) := by
  intro σ req sink wire seen
  dsimp only [breaker]
  split
  · refine ⟨rfl, rfl, ?_, ?_⟩
    · intro fine
      cases fine
    · exact List.forall_mem_nil _
  · exact (reports _ _ _ _ _).unguard sdk _

theorem botClient_reports : ClientReports sdk (botClient (sdk.provides env)) :=
  breaker_reports sdk _ (retrier_reports sdk _ (fun σ req sink wire seen =>
    (run_absorbs sink _ seen).trans (congrArg _ (List.flatMap_singleton ..).symm)) (provider_reports sdk env))

end

/-- A question ends with an error of its first `Generate`, with what that says, or after a run of the tool with its second. -/
theorem ask_ends (service : Service) (client : Client) (question : String) (history : List Turn)
    (answers : Option (List Event → Bool)) (wire : Wire) :
    ∃ asked decided, asked = service.ask client question history answers wire ∧
      decided = client _ (service.first (turnsOf question history)) (toolCallOnly (answers.map clientSink)) wire [] ∧
      (((decided.err ≠ none ∨ decided.result.toolCalls = [] ∧ (answers = none ∨ decided.result.text = "")) ∧
          asked = ⟨decided.result, decided.err, decided.wire, decided.seen, [decided.calls], []⟩) ∨
        (decided.err = none ∧ decided.result.toolCalls = [] ∧ ∃ accepts, answers = some accepts ∧
          asked = ⟨decided.result, if accepts (decided.seen ++ [.text decided.result.text]) then none else some .sink, decided.wire,
            decided.seen ++ [.text decided.result.text], [decided.calls], []⟩) ∨
        ∃ call others given, decided.err = none ∧ decided.result.toolCalls = call :: others ∧
          given = client _ (service.second (turnsOf question history) call (service.runTool call).1)
            (answers.map clientSink) decided.wire decided.seen ∧
          asked = ⟨given.result, given.err, given.wire, given.seen, [decided.calls, given.calls], (service.runTool call).2⟩) := by
  refine ⟨_, _, rfl, rfl, ?_⟩
  dsimp only [Service.ask]
  split
  · rename_i err failed
    refine Or.inl ⟨Or.inl fun none => ?_, by rw [failed]⟩
    rw [failed] at none
    cases none
  · rename_i fine
    split
    · rename_i silent
      split
      · rename_i spoken
        obtain ⟨accepts, rfl⟩ := Option.isSome_iff_exists.mp (Option.isSome_map.symm.trans spoken.1)
        exact Or.inr (Or.inl ⟨fine, silent, accepts, rfl, rfl⟩)
      · rename_i quiet
        refine Or.inl ⟨Or.inr ⟨silent, ?_⟩, by rw [fine]⟩
        cases answers with
        | none => exact Or.inl rfl
        | some accepts =>
          by_contra loud
          exact quiet ⟨rfl, fun empty => loud (Or.inr empty)⟩
    · rename_i call others asks
      exact Or.inr (Or.inr ⟨call, others, _, fine, asks, rfl, rfl⟩)

def Part.Filled (part : Part) : Prop := part.text ≠ "" ∨ part.functionCall ≠ none ∨ part.functionResponse ≠ none

/-- What the provider asks of the contents: one filled part each, a result right after its call, and every call of a tool
as an earlier response gave it, with its signature. -/
structure Accepted (sdk : Sdk) (service : Service) (earlier : List ProviderCall) (contents : List Content) : Prop where
  filled : ∀ content ∈ contents, ∃ part, content.parts = [part] ∧ part.Filled
  first : ∀ content ∈ contents.head?, ∀ part ∈ content.parts, part.functionResponse = none
  answered : contents.IsChain fun asking content => ∀ part ∈ content.parts, ∀ response, part.functionResponse = some response →
    ∃ call : ToolCall, ∃ asked ∈ asking.parts, asked.Calls call ∧ response = ⟨call.name, (service.runTool call).1⟩
  signed : ∀ content ∈ contents, ∀ part ∈ content.parts, part.functionCall ≠ none →
    ∃ before ∈ earlier, ∃ n, ∃ call, Given (sdk.items n before.request) call ∧ part.Calls call

/-- A turn of the history: a text, and no call and no result. -/
def Plain (turn : SentTurn) : Prop := turn.toolCall = none ∧ turn.toolResult = none

theorem turnsOf_plain (question : String) (history : List Turn) : ∀ turn ∈ turnsOf question history, Plain turn := by
  intro turn among
  rcases List.mem_append.mp among with earlier | last
  · obtain ⟨before, _, rfl⟩ := List.mem_map.mp earlier
    exact ⟨rfl, rfl⟩
  · rw [List.mem_singleton.mp last]
    exact ⟨rfl, rfl⟩

theorem toContents_plain {turns : List SentTurn} (plain : ∀ turn ∈ turns, Plain turn) :
    ∀ content ∈ toContents turns, ∃ text, text ≠ "" ∧ content.parts = [{ text := text }] := by
  intro content among
  obtain ⟨turn, there, made⟩ := List.mem_filterMap.mp among
  obtain ⟨part, read, rfl⟩ := Option.map_eq_some_iff.mp made
  obtain ⟨call, result⟩ := plain turn there
  unfold toPart at read
  rw [call, result] at read
  dsimp only at read
  split at read
  · rename_i text
    cases read
    exact ⟨turn.text, text, rfl⟩
  · cases read

section
variable {sdk : Sdk} {service : Service} {earlier : List ProviderCall} {turns : List SentTurn}

theorem accepted_plain (plain : ∀ turn ∈ turns, Plain turn) : Accepted sdk service earlier (toContents turns) := by
  have texts := toContents_plain plain
  have none : ∀ content ∈ toContents turns, ∀ part ∈ content.parts, part.functionResponse = none ∧ part.functionCall = none := by
    intro content among part within
    obtain ⟨text, _, same⟩ := texts content among
    rw [same] at within
    rw [List.mem_singleton.mp within]
    exact ⟨rfl, rfl⟩
  refine ⟨fun content among => ?_, fun content head part within => ?_, ?_, fun content among part within calls => ?_⟩
  · obtain ⟨text, filled, same⟩ := texts content among
    exact ⟨_, same, Or.inl filled⟩
  · exact (none content (List.mem_of_mem_head? head) part within).1
  · refine (List.pairwise_of_forall_mem_list ?_).isChain
    intro asking _ content among part within response answers
    rw [(none content among part within).1] at answers
    cases answers
  · exact absurd (none content among part within).2 calls

/-- The call and its result are sent as they are, whatever texts before them are left out. -/
theorem accepted_answer (plain : ∀ turn ∈ turns, Plain turn) (call : ToolCall)
    (made : ∃ before ∈ earlier, ∃ n, Given (sdk.items n before.request) call) :
    Accepted sdk service earlier (toContents (turns ++ [
      { role := .model, toolCall := some call },
      { role := .user, toolResult := some ⟨call.name, (service.runTool call).1⟩ }])) := by
  let asking : Part := { functionCall := some ⟨call.name, call.args⟩, thoughtSignature := call.signature }
  let giving : Part := { functionResponse := some ⟨call.name, (service.runTool call).1⟩ }
  have split : toContents (turns ++ [
      { role := .model, toolCall := some call },
      { role := .user, toolResult := some ⟨call.name, (service.runTool call).1⟩ }]) =
      toContents turns ++ [⟨.model, [asking]⟩, ⟨.user, [giving]⟩] := List.filterMap_append
  obtain ⟨filled, first, answered, signed⟩ : Accepted sdk service earlier (toContents turns) := accepted_plain plain
  rw [split]
  refine ⟨fun content among => ?_, fun content head part within => ?_, ?_, fun content among part within calls => ?_⟩
  · rcases List.mem_append.mp among with before | last
    · exact filled content before
    · rcases List.mem_pair.mp last with rfl | rfl
      · exact ⟨asking, rfl, Or.inr (Or.inl nofun)⟩
      · exact ⟨giving, rfl, Or.inr (Or.inr nofun)⟩
  · cases texts : toContents turns with
    | nil =>
      rw [texts, List.nil_append, List.head?_cons, Option.mem_some_iff] at head
      subst head
      rw [List.mem_singleton.mp within]
    | cons before rest =>
      rw [texts] at head
      exact first content (by rw [texts]; exact head) part within
  · refine List.isChain_append.mpr ⟨answered, List.isChain_pair.mpr ?_, ?_⟩
    · intro part within response answers
      rw [List.mem_singleton.mp within] at answers
      cases answers
      exact ⟨call, asking, List.mem_singleton_self _, ⟨rfl, rfl, rfl⟩, rfl⟩
    · intro before _ content head part within response answers
      rw [List.head?_cons, Option.mem_some_iff] at head
      subst head
      rw [List.mem_singleton.mp within] at answers
      cases answers
  · rcases List.mem_append.mp among with before | last
    · exact signed content before part within calls
    · rcases List.mem_pair.mp last with rfl | rfl
      · rw [List.mem_singleton.mp within]
        obtain ⟨before, there, n, given⟩ := made
        exact ⟨before, there, n, call, given, rfl, rfl, rfl⟩
      · rw [List.mem_singleton.mp within] at calls
        exact absurd rfl calls

end

theorem before_or_after {α : Type} {first second earlier later : List α} {x : α} (split : first ++ second = earlier ++ x :: later) :
    x ∈ first ∨ (∃ between, earlier = first ++ between) ∧ x ∈ second := by
  rcases List.append_eq_append_iff.mp split with ⟨between, same, rest⟩ | ⟨between, same, rest⟩
  · refine Or.inr ⟨⟨between, same⟩, ?_⟩
    rw [rest]
    exact List.mem_append_right _ List.mem_cons_self
  · cases between with
    | nil =>
      refine Or.inr ⟨⟨[], ?_⟩, ?_⟩
      · rw [same, List.append_nil, List.append_nil]
      · rw [List.nil_append] at rest
        rw [← rest]
        exact List.mem_cons_self
    | cons head between =>
      obtain ⟨rfl, _⟩ := List.cons.inj rest
      left
      rw [same]
      exact List.mem_append_right _ List.mem_cons_self

/-- However the provider answers and fails, each of its calls is sent contents that it accepts. -/
theorem contents_accepted (sdk : Sdk) (env : Surroundings) (service : Service) (question : String) (history : List Turn)
    (answers : Option (List Event → Bool)) (wire : Wire) (earlier : List ProviderCall) (call : ProviderCall)
    (later : List ProviderCall)
    (made : (service.ask (botClient (sdk.provides env)) question history answers wire).calls = earlier ++ call :: later) :
    Accepted sdk service earlier (toContents call.request.history) := by
  have plain := turnsOf_plain question history
  have careful := botClient_careful (sdk.provides env)
  obtain ⟨asked, decided, same, first, ended⟩ :=
    ask_ends service (botClient (sdk.provides env)) question history answers wire
  have deciding : ∀ made ∈ decided.calls, made.request = service.first (turnsOf question history) := by
    rw [first]
    exact careful.requests _ _ _ _ _
  have texts : call ∈ decided.calls → Accepted sdk service earlier (toContents call.request.history) := by
    intro among
    rw [deciding call among]
    exact accepted_plain plain
  rw [← same] at made
  rcases ended with ⟨_, done⟩ | ⟨_, _, accepts, _, done⟩ | ⟨asks, others, given, fine, listed, second, done⟩
  · rw [done] at made
    refine texts ?_
    rw [Asked.calls, List.flatten_singleton] at made
    rw [made]
    exact List.mem_append_right _ List.mem_cons_self
  · rw [done] at made
    refine texts ?_
    rw [Asked.calls, List.flatten_singleton] at made
    rw [made]
    exact List.mem_append_right _ List.mem_cons_self
  · have both : decided.calls ++ given.calls = earlier ++ call :: later := by
      rw [done, Asked.calls] at made
      simpa using made
    rcases before_or_after both with among | ⟨⟨between, rfl⟩, answering⟩
    · exact texts among
    · -- a call of the second round: those of the first came before it
      have request : call.request = service.second (turnsOf question history) asks (service.runTool asks).1 := by
        rw [second] at answering
        exact careful.requests _ _ _ _ _ call answering
      have reporting := botClient_reports sdk env _ (service.first (turnsOf question history))
        (toolCallOnly (answers.map clientSink)) wire []
      rw [← first] at reporting
      have emitted : asks ∈ callsOf (decided.calls.flatMap ProviderCall.emitted) := by
        rw [← reporting.toolCalls, listed]
        exact List.mem_cons_self
      obtain ⟨event, among, calls⟩ := List.mem_filterMap.mp emitted
      obtain ⟨before, there, within⟩ := List.mem_flatMap.mp among
      obtain ⟨n, given⟩ := reporting.given before there
      rw [request]
      refine accepted_answer plain asks ⟨before, List.mem_append_left _ there, n, given asks ?_⟩
      exact List.mem_filterMap.mpr ⟨event, within, calls⟩

/-- A model that thinks, asks for the tool, and then answers in two pieces. -/
def thinking : Sdk where
  generateContent _ _ _ := .response (some ⟨none, none, [⟨some [some { text := "hm", thought := true }, none,
    some { functionCall := some ⟨toolSearchProducts, [("query", .str "shirt")]⟩, thoughtSignature := [7] }], "STOP"⟩]⟩)
  generateContentStream _ _ _ := [.response (some ⟨none, none, [⟨some [some { text := "Two " }], ""⟩]⟩),
    .response (some ⟨none, some ⟨40, 2⟩, [⟨some [some { text := "shirts." }], "STOP"⟩]⟩)]
  gone _ := false

def alone : Surroundings where
  provider _ _ := .done {} none
  sleep _ := true
  others _ breaker := breaker
  now n := n

def shopBot : Service := ⟨"Help with products.", some fun _ => [("total", .num 2)]⟩

theorem thinking_accepted : ∃ before call,
    (shopBot.ask (botClient (thinking.provides alone)) "shirts?" [] none {}).calls = [before, call] ∧
      (toContents call.request.history).length = 3 ∧ Accepted thinking shopBot [before] (toContents call.request.history) :=
  ⟨_, _, rfl, rfl, contents_accepted thinking alone shopBot "shirts?" [] none {} [_] _ [] rfl⟩

end Marketplace.Chat.Gemini
