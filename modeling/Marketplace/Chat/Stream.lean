import Marketplace.Utf8

/-! The answer of the bot as server-sent events, from `sseWriter` to `readStream`. -/
namespace Marketplace.Chat

abbrev Text := List Char

/-- The values that the events carry. -/
inductive JsonValue where
  | num (n : Nat)
  | bool (b : Bool)
  | str (s : String)
deriving DecidableEq

/-- An object, its keys in order. -/
abbrev Payload := List (String × JsonValue)

def hexDigit (n : Nat) : Char := if n < 10 then Char.ofNat (48 + n) else Char.ofNat (87 + n)

def unicodeEscape (n : Nat) : Text :=
  ['\x5c', 'u', hexDigit (n / 4096 % 16), hexDigit (n / 256 % 16), hexDigit (n / 16 % 16), hexDigit (n % 16)]

/-- A character inside a string of `json.Marshal`. -/
def escapeChar (c : Char) : Text :=
  let n := c.toNat
  if n = 0x22 ∨ n = 0x5c then ['\x5c', c]
  else if n = 8 then ['\x5c', 'b']
  else if n = 9 then ['\x5c', 't']
  else if n = 10 then ['\x5c', 'n']
  else if n = 12 then ['\x5c', 'f']
  else if n = 13 then ['\x5c', 'r']
  else if n < 32 ∨ n = 0x3c ∨ n = 0x3e ∨ n = 0x26 ∨ n = 0x2028 ∨ n = 0x2029 then unicodeEscape n
  else [c]

def quoted (s : String) : Text := '\x22' :: s.toList.flatMap escapeChar ++ ['\x22']

def JsonValue.marshal : JsonValue → Text
  | .num n => (toString n).toList
  | .bool b => (toString b).toList
  | .str s => quoted s

def marshalFields : Payload → Text
  | [] => []
  | [(key, value)] => quoted key ++ ':' :: value.marshal
  | (key, value) :: rest => quoted key ++ ':' :: value.marshal ++ ',' :: marshalFields rest

def marshal (payload : Payload) : Text := '\x7b' :: marshalFields payload ++ ['\x7d']

/-- What the ask handler writes. -/
inductive ServerEvent where
  | eventMeta (remaining : Nat)
  | eventMetaCached
  | eventTool (name : String)
  | eventText (v : String)
  | eventDone (truncated : Bool)
  | eventDoneCached
  | eventError (reason : String)
deriving DecidableEq

def ServerEvent.name : ServerEvent → String
  | eventMeta _ => "meta"
  | eventMetaCached => "meta"
  | eventTool _ => "tool"
  | eventText _ => "text"
  | eventDone _ => "done"
  | eventDoneCached => "done"
  | eventError _ => "error"

def ServerEvent.payload : ServerEvent → Payload
  | eventMeta remaining => [("remaining", .num remaining)]
  | eventMetaCached => [("cached", .bool true)]
  | eventTool name => [("name", .str name)]
  | eventText v => [("v", .str v)]
  | eventDone truncated => [("cached", .bool false), ("truncated", .bool truncated)]
  | eventDoneCached => [("cached", .bool true)]
  | eventError reason => [("reason", .str reason)]

inductive Written where
  | event (e : ServerEvent)
  | keepalive
deriving DecidableEq

def Written.event? : Written → Option ServerEvent
  | .event e => some e
  | .keepalive => none

/-- A frame without the blank line that ends it. -/
def Written.block : Written → Text
  | .event e => "event: ".toList ++ e.name.toList ++ '\n' :: ("data: ".toList ++ marshal e.payload)
  | .keepalive => ": keepalive".toList

/-- The mutex of `sseWriter` keeps each frame in one piece. -/
def stream (written : List Written) : Text := written.flatMap fun w => w.block ++ ['\n', '\n']

inductive ChatStreamEvent where
  | ofMeta (remaining cached : Option JsonValue)
  | ofTool (name : String)
  | ofText (v : String)
  | ofDone (cached truncated : Bool)
  | ofError (reason : String)
deriving DecidableEq

/-- White space and line ends of ECMAScript. -/
def isSpace (c : Char) : Bool :=
  let n := c.toNat
  n ∈ [9, 10, 11, 12, 13, 0x20, 0xa0, 0x1680, 0x2028, 0x2029, 0x202f, 0x205f, 0x3000, 0xfeff] ||
    (0x2000 ≤ n && n ≤ 0x200a)

def trimEnd (line : Text) : Text := (line.reverse.dropWhile isSpace).reverse

def trim (line : Text) : Text := trimEnd (line.dropWhile isSpace)

/-- `String(value ?? fallback)`. -/
def asString (fallback : String) : Option JsonValue → String
  | none => fallback
  | some (.num n) => toString n
  | some (.bool b) => toString b
  | some (.str s) => s

/-- `Boolean(value)`. -/
def asBool : Option JsonValue → Bool
  | none => false
  | some (.num n) => n != 0
  | some (.bool b) => b
  | some (.str s) => s != ""

/-- The switch of `parseBlock`. -/
def typedEvent (name : Text) (payload : Payload) : Option ChatStreamEvent :=
  if name = "meta".toList then some (.ofMeta (payload.lookup "remaining") (payload.lookup "cached"))
  else if name = "tool".toList then some (.ofTool (asString "" (payload.lookup "name")))
  else if name = "text".toList then some (.ofText (asString "" (payload.lookup "v")))
  else if name = "done".toList then
    some (.ofDone (asBool (payload.lookup "cached")) (asBool (payload.lookup "truncated")))
  else if name = "error".toList then some (.ofError (asString "upstream" (payload.lookup "reason")))
  else none

/-- Name and data so far, and one more line of the block. -/
def readLine (read : Text × Text) (rawLine : Text) : Text × Text :=
  let line := trimEnd rawLine
  if line = [] ∨ ":".toList.isPrefixOf line then read
  else if "event:".toList.isPrefixOf line then (trim (line.drop 6), read.2)
  else if "data:".toList.isPrefixOf line then (read.1, trim (line.drop 5))
  else read

def parseBlock (parse : Text → Option Payload) (block : Text) : Option ChatStreamEvent :=
  let (name, data) := (block.splitOn '\n').foldl readLine ([], [])
  if name = [] ∨ data = [] then none
  else (parse data).bind (typedEvent name)

/-- The buffer up to the first blank line and after it. -/
def cutBlock : Text → Option (Text × Text)
  | [] => none
  | c :: rest =>
    if c = '\n' ∧ rest.head? = some '\n' then some ([], rest.tail)
    else (cutBlock rest).map fun (block, later) => (c :: block, later)

theorem length_cutBlock {buffer block rest : Text} (cut : cutBlock buffer = some (block, rest)) :
    rest.length < buffer.length := by
  induction buffer generalizing block with
  | nil => cases cut
  | cons c later ih =>
    unfold cutBlock at cut
    split at cut
    · cases cut
      rw [List.length_tail, List.length_cons]
      omega
    · obtain ⟨⟨inner, after⟩, found, same⟩ := Option.map_eq_some_iff.mp cut
      cases same
      exact Nat.lt_succ_of_lt (ih found)

/-- The blocks of the buffer and what is left of it. -/
def takeBlocks (buffer : Text) : List Text × Text :=
  match _cut : cutBlock buffer with
  | none => ([], buffer)
  | some (block, rest) => (block :: (takeBlocks rest).1, (takeBlocks rest).2)
termination_by buffer.length
decreasing_by all_goals exact length_cutBlock _cut

/-- What `readStream` hands on from each chunk. -/
def readFrom {S : Type} (decoder : Utf8.Decoder S) (parse : Text → Option Payload) :
    S → Text → List Utf8.Bytes → List ChatStreamEvent
  | _, _, [] => []
  | s, buffer, chunk :: chunks =>
    let decoded := decoder.decode s chunk
    let taken := takeBlocks (buffer ++ decoded.2)
    taken.1.filterMap (parseBlock parse) ++ readFrom decoder parse decoded.1 taken.2 chunks

def readStream {S : Type} (decoder : Utf8.Decoder S) (parse : Text → Option Payload) (body : List Utf8.Bytes) :
    List ChatStreamEvent :=
  readFrom decoder parse decoder.start [] body

/-- The event of the client with the name and the fields of the event of the server. -/
def ServerEvent.received : ServerEvent → ChatStreamEvent
  | eventMeta remaining => .ofMeta (some (.num remaining)) none
  | eventMetaCached => .ofMeta none (some (.bool true))
  | eventTool name => .ofTool name
  | eventText v => .ofText v
  | eventDone truncated => .ofDone false truncated
  | eventDoneCached => .ofDone true false
  | eventError reason => .ofError reason

theorem newline_hexDigit (n : Nat) : hexDigit (n % 16) ≠ '\n' := by
  have small : n % 16 < 16 := Nat.mod_lt n (by decide)
  have : ∀ k < 16, hexDigit k ≠ '\n' := by decide
  exact this _ small

theorem newline_unicodeEscape (n : Nat) : '\n' ∉ unicodeEscape n := by
  simp [unicodeEscape, Ne.symm (newline_hexDigit _)]

theorem newline_escapeChar (c : Char) : '\n' ∉ escapeChar c := by
  have newline : ∀ d : Char, d.toNat ≠ 10 → '\n' ≠ d := fun d ne same => ne (same ▸ rfl)
  unfold escapeChar
  dsimp only
  split
  · rename_i special
    have other := newline c (by omega)
    simp [other]
  split
  · decide
  split
  · decide
  split
  · decide
  rename_i other
  split
  · decide
  split
  · decide
  split
  · exact newline_unicodeEscape c.toNat
  · simp [newline c other]

theorem newline_quoted (s : String) : '\n' ∉ quoted s := by
  unfold quoted
  simp only [List.cons_append, List.mem_cons, List.mem_append, List.mem_flatMap, List.not_mem_nil, or_false, not_or]
  refine ⟨by decide, ?_, by decide⟩
  rintro ⟨c, _, mem⟩
  exact newline_escapeChar c mem

theorem newline_value (value : JsonValue) : '\n' ∉ value.marshal := by
  cases value with
  | num n =>
    intro mem
    have mem : '\n' ∈ (Nat.repr n).toList := mem
    rw [Nat.toList_repr] at mem
    have digit := Nat.isDigit_of_mem_toDigits (by decide) (by decide) mem
    exact absurd digit (by decide)
  | bool b => cases b <;> decide
  | str s => exact newline_quoted s

theorem newline_fields (payload : Payload) : '\n' ∉ marshalFields payload := by
  induction payload using marshalFields.induct with
  | case1 => exact List.not_mem_nil
  | case2 key value => simp [marshalFields, newline_quoted, newline_value]
  | case3 key value rest nonempty ih => simp [marshalFields, newline_quoted, newline_value, ih]

theorem newline_marshal (payload : Payload) : '\n' ∉ marshal payload := by
  simp [marshal, newline_fields]

theorem cutBlock_append {buffer block rest : Text} (cut : cutBlock buffer = some (block, rest)) (more : Text) :
    cutBlock (buffer ++ more) = some (block, rest ++ more) := by
  induction buffer generalizing block with
  | nil => cases cut
  | cons c later ih =>
    cases later with
    | nil => simp [cutBlock] at cut
    | cons d tail =>
      rw [cutBlock] at cut
      rw [List.cons_append, cutBlock]
      by_cases blank : c = '\n' ∧ (d :: tail).head? = some '\n'
      · rw [if_pos blank] at cut
        cases cut
        rw [if_pos (by simpa using blank)]
        rfl
      · rw [if_neg blank] at cut
        obtain ⟨⟨inner, after⟩, found, same⟩ := Option.map_eq_some_iff.mp cut
        cases same
        rw [if_neg (by simpa using blank), ih found]
        rfl

theorem takeBlocks_none {buffer : Text} (cut : cutBlock buffer = none) : takeBlocks buffer = ([], buffer) := by
  unfold takeBlocks
  split
  · rfl
  · rename_i found
    cases cut.symm.trans found

theorem takeBlocks_some {buffer block rest : Text} (cut : cutBlock buffer = some (block, rest)) :
    takeBlocks buffer = (block :: (takeBlocks rest).1, (takeBlocks rest).2) := by
  conv => lhs; unfold takeBlocks
  split
  · rename_i found
    cases cut.symm.trans found
  · rename_i found
    cases cut.symm.trans found
    rfl

/-- What is left has no block of its own. -/
theorem cutBlock_rest (buffer : Text) : cutBlock (takeBlocks buffer).2 = none := by
  induction buffer using takeBlocks.induct with
  | case1 buffer cut => rwa [takeBlocks_none cut]
  | case2 buffer block rest cut ih => rwa [takeBlocks_some cut]

/-- Taking blocks before more of the text has come takes no other blocks than waiting for it. -/
theorem takeBlocks_append (buffer more : Text) :
    (takeBlocks (buffer ++ more)).1 = (takeBlocks buffer).1 ++ (takeBlocks ((takeBlocks buffer).2 ++ more)).1 := by
  induction buffer using takeBlocks.induct with
  | case1 buffer cut => rw [takeBlocks_none cut, List.nil_append]
  | case2 buffer block rest cut ih =>
    rw [takeBlocks_some cut, takeBlocks_some (cutBlock_append cut more), List.cons_append, ← ih]

theorem readFrom_eq {S : Type} (decoder : Utf8.Decoder S) (parse : Text → Option Payload) (s : S) {buffer : Text}
    (chunks : List Utf8.Bytes) (drained : cutBlock buffer = none) :
    readFrom decoder parse s buffer chunks =
      (takeBlocks (buffer ++ decoder.run s chunks)).1.filterMap (parseBlock parse) := by
  induction chunks generalizing s buffer with
  | nil => rw [Utf8.Decoder.run, List.append_nil, takeBlocks_none drained]; rfl
  | cons chunk chunks ih =>
    rw [readFrom, Utf8.Decoder.run, ← List.append_assoc, 
      takeBlocks_append (buffer ++ (decoder.decode s chunk).2), List.filterMap_append]
    exact congrArg _ (ih _ (cutBlock_rest _))

theorem cutBlock_line {line : Text} (whole : '\n' ∉ line) (rest : Text) (nonempty : line ≠ []) :
    cutBlock (line ++ rest) = (cutBlock rest).map fun (block, later) => (line ++ block, later) := by
  induction line with
  | nil => exact absurd rfl nonempty
  | cons c line ih =>
    obtain ⟨other, whole⟩ := not_or.mp (List.mem_cons.not.mp whole)
    rw [List.cons_append, cutBlock, if_neg (fun blank => other blank.1.symm)]
    by_cases last : line = []
    · subst last
      rfl
    · rw [ih whole last, Option.map_map]
      rfl

/-- A block has no blank line, also not with the line end that follows it. -/
def OneBlock (block : Text) : Prop := cutBlock (block ++ ['\n']) = none

theorem OneBlock.line {line : Text} (whole : '\n' ∉ line) (nonempty : line ≠ []) : OneBlock line := by
  unfold OneBlock
  rw [cutBlock_line whole _ nonempty]
  rfl

theorem OneBlock.lines {first second : Text} (whole : '\n' ∉ first) (nonempty : first ≠ [])
    (wholeSecond : '\n' ∉ second) (nonemptySecond : second ≠ []) : OneBlock (first ++ '\n' :: second) := by
  have last : cutBlock (second ++ ['\n']) = none := OneBlock.line wholeSecond nonemptySecond
  unfold OneBlock
  rw [List.append_assoc, cutBlock_line whole _ nonempty, List.cons_append, cutBlock, last]
  obtain ⟨c, tail, rfl⟩ := List.exists_cons_of_ne_nil nonemptySecond
  have other : c ≠ '\n' := fun same => wholeSecond (same ▸ List.mem_cons_self)
  simp [other]

theorem cutBlock_frame {block : Text} (one : OneBlock block) (rest : Text) :
    cutBlock (block ++ '\n' :: '\n' :: rest) = some (block, rest) := by
  induction block with
  | nil => rfl
  | cons c later ih =>
    unfold OneBlock at one
    rw [List.cons_append, cutBlock] at one
    rw [List.cons_append, cutBlock]
    split at one
    · cases one
    · rename_i inside
      have same : (later ++ '\n' :: '\n' :: rest).head? = (later ++ ['\n']).head? := by
        cases later <;> rfl
      rw [same, if_neg inside, ih (Option.map_eq_none_iff.mp one)]
      rfl

def eventNames : List String := ["meta", "tool", "text", "done", "error"]

theorem name_mem (e : ServerEvent) : e.name ∈ eventNames := by
  cases e <;> simp [ServerEvent.name, eventNames]

theorem newline_name (e : ServerEvent) : '\n' ∉ "event: ".toList ++ e.name.toList := by
  have all : ∀ name ∈ eventNames, '\n' ∉ "event: ".toList ++ name.toList := by decide
  exact all e.name (name_mem e)

theorem newline_data (payload : Payload) : '\n' ∉ "data: ".toList ++ marshal payload := by
  rw [List.mem_append, not_or]
  exact ⟨by decide, newline_marshal payload⟩

theorem oneBlock (w : Written) : OneBlock w.block := by
  cases w with
  | event e => exact OneBlock.lines (newline_name e) nofun (newline_data e.payload) nofun
  | keepalive => exact OneBlock.line (by decide) nofun

theorem takeBlocks_stream (written : List Written) : takeBlocks (stream written) = (written.map Written.block, []) := by
  induction written with
  | nil => exact takeBlocks_none rfl
  | cons w written ih =>
    have cut : cutBlock (stream (w :: written)) = some (w.block, stream written) := by
      rw [stream, List.flatMap_cons, List.append_assoc]
      exact cutBlock_frame (oneBlock w) (stream written)
    rw [takeBlocks_some cut, ih]
    rfl

theorem trimEnd_concat {c : Char} (visible : isSpace c = false) (line : Text) : trimEnd (line ++ [c]) = line ++ [c] := by
  simp [trimEnd, visible]

theorem readLine_name (e : ServerEvent) (read : Text × Text) :
    readLine read ("event: ".toList ++ e.name.toList) = (e.name.toList, read.2) := by
  have all : ∀ name ∈ eventNames, trimEnd ("event: ".toList ++ name.toList) = "event: ".toList ++ name.toList ∧
      trim (("event: ".toList ++ name.toList).drop 6) = name.toList := by decide
  obtain ⟨line, name⟩ := all e.name (name_mem e)
  unfold readLine
  dsimp only
  rw [line, name]
  rfl

theorem readLine_data (payload : Payload) (read : Text × Text) :
    readLine read ("data: ".toList ++ marshal payload) = (read.1, marshal payload) := by
  have closing : isSpace '\x7d' = false := by decide
  have line : trimEnd ("data: ".toList ++ marshal payload) = "data: ".toList ++ marshal payload := by
    unfold marshal
    rw [← List.append_assoc]
    exact trimEnd_concat closing _
  have data : trim ((("data: ".toList ++ marshal payload)).drop 5) = marshal payload := by
    show trimEnd (marshal payload) = marshal payload
    exact trimEnd_concat closing _
  unfold readLine
  dsimp only
  rw [line, data]
  rfl

theorem typedEvent_received (e : ServerEvent) : typedEvent e.name.toList e.payload = some e.received := by
  cases e <;> simp [typedEvent, ServerEvent.name, ServerEvent.payload, ServerEvent.received, List.lookup_cons, asString, asBool]

theorem parseBlock_event (parse : Text → Option Payload) (e : ServerEvent)
    (parses : parse (marshal e.payload) = some e.payload) :
    parseBlock parse (Written.event e).block = some e.received := by
  have lines : (Written.event e).block.splitOn '\n' =
      ["event: ".toList ++ e.name.toList, "data: ".toList ++ marshal e.payload] := by
    have second := List.splitOn_eq_singleton (newline_data e.payload)
    exact (List.splitOn_append_cons_self_of_not_mem (newline_name e) _).trans (congrArg _ second)
  have named : e.name.toList ≠ [] := by
    have all : ∀ name ∈ eventNames, name.toList ≠ [] := by decide
    exact all e.name (name_mem e)
  have data : marshal e.payload ≠ [] := nofun
  unfold parseBlock
  rw [lines, List.foldl_cons, List.foldl_cons, List.foldl_nil, readLine_name, readLine_data]
  dsimp only
  rw [if_neg (not_or.mpr ⟨named, data⟩), parses]
  exact typedEvent_received e

theorem parseBlock_keepalive (parse : Text → Option Payload) : parseBlock parse Written.keepalive.block = none := rfl

theorem parseBlock_written (parse : Text → Option Payload) (written : List Written)
    (parses : ∀ e, .event e ∈ written → parse (marshal e.payload) = some e.payload) :
    (written.map Written.block).filterMap (parseBlock parse) =
      (written.filterMap Written.event?).map ServerEvent.received := by
  induction written with
  | nil => rfl
  | cons w written ih =>
    have rest := ih fun e mem => parses e (List.mem_cons_of_mem w mem)
    cases w with
    | event e =>
      have first := parseBlock_event parse e (parses e List.mem_cons_self)
      rw [List.map_cons, List.filterMap_cons_some first, rest]
      rfl
    | keepalive =>
      rw [List.map_cons, List.filterMap_cons_none (parseBlock_keepalive parse), rest]
      rfl

theorem stream_head (written : List Written) : (stream written).head? ≠ some Utf8.byteOrderMark := by
  cases written with
  | nil => nofun
  | cons w written =>
    have first : (stream (w :: written)).head? = some 'e' ∨ (stream (w :: written)).head? = some ':' := by
      cases w with
      | event e => exact .inl rfl
      | keepalive => exact .inr rfl
    rcases first with first | first <;> rw [first] <;> decide

/-- Wherever the bytes were cut and however many keep-alives came between. -/
theorem events_delivered {S : Type} (decoder : Utf8.Decoder S) (restores : decoder.Restores)
    (parse : Text → Option Payload) (written : List Written)
    (parses : ∀ e, .event e ∈ written → parse (marshal e.payload) = some e.payload)
    (chunks : List Utf8.Bytes) (cut : chunks.flatten = Utf8.encode (stream written)) :
    readStream decoder parse chunks = (written.filterMap Written.event?).map ServerEvent.received := by
  rw [readStream, readFrom_eq decoder parse decoder.start chunks rfl, List.nil_append,
    restores (stream written) chunks (stream_head written) cut, takeBlocks_stream]
  exact parseBlock_written parse written parses

/-- Of a stream that breaks off, the events that have come whole are delivered. -/
theorem events_begun {S : Type} (decoder : Utf8.Decoder S) (begins : decoder.Begins)
    (parse : Text → Option Payload) (written : List Written)
    (parses : ∀ e, .event e ∈ written → parse (marshal e.payload) = some e.payload)
    (chunks : List Utf8.Bytes) (come : chunks.flatten <+: Utf8.encode (stream written)) :
    readStream decoder parse chunks <+: (written.filterMap Written.event?).map ServerEvent.received := by
  obtain ⟨later, whole⟩ := begins (stream written) chunks (stream_head written) come
  have blocks := takeBlocks_append (decoder.run decoder.start chunks) later
  rw [whole, takeBlocks_stream] at blocks
  dsimp only at blocks
  rw [readStream, readFrom_eq decoder parse decoder.start chunks rfl, List.nil_append, ← parseBlock_written parse written parses,
    blocks]
  exact List.IsPrefix.filterMap (parseBlock parse) (List.prefix_append _ _)

def greeting : List Written :=
  [.event (.eventMeta 4), .event (.eventText "Chào"), .keepalive, .event (.eventDone false)]

/-- `JSON.parse` on the payloads of the greeting. -/
def parseGreeting (text : Text) : Option Payload :=
  if text = marshal (ServerEvent.eventMeta 4).payload then some (ServerEvent.eventMeta 4).payload
  else if text = marshal (ServerEvent.eventText "Chào").payload then some (ServerEvent.eventText "Chào").payload
  else if text = marshal (ServerEvent.eventDone false).payload then some (ServerEvent.eventDone false).payload
  else none

/-- The second chunk begins inside the third letter of the text. -/
def greetingChunks : List Utf8.Bytes :=
  [(Utf8.encode (stream greeting)).take 62, (Utf8.encode (stream greeting)).drop 62]

theorem greeting_delivered :
    readStream Utf8.streaming parseGreeting greetingChunks =
      [.ofMeta (some (.num 4)) none, .ofText "Chào", .ofDone false false] :=
  events_delivered Utf8.streaming Utf8.streaming_restores parseGreeting greeting
    (by
      intro e mem
      rcases List.mem_cons.mp mem with same | mem
      · cases same
        decide
      rcases List.mem_cons.mp mem with same | mem
      · cases same
        decide
      rcases List.mem_cons.mp mem with same | mem
      · cases same
      rcases List.mem_cons.mp mem with same | mem
      · cases same
        decide
      · cases mem)
    greetingChunks (by simp [greetingChunks])

end Marketplace.Chat
