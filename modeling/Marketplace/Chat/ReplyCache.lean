import Marketplace.Chat.Ask
import Marketplace.Chat.Delivery
import Marketplace.Chat.Limiter

/-! The reply cache of the bot between the requests of all its users: what a cached answer was
made from, and what of one user's conversation reaches another. -/
namespace Marketplace.Chat

structure ReplyEntry where
  text : String
  expiresAt : Nat
deriving DecidableEq

/-- At most one entry a key, and never more than `max`. -/
structure ReplyCache (max : Nat) where
  entries : List (String × ReplyEntry)
  distinct : (entries.map Prod.fst).Nodup
  bounded : entries.length ≤ max

namespace ReplyCache
variable {max : Nat}

def empty : ReplyCache max := ⟨[], .nil, Nat.zero_le max⟩

def keep (cache : ReplyCache max) (kept : String × ReplyEntry → Bool) : ReplyCache max where
  entries := cache.entries.filter kept
  distinct := cache.distinct.sublist (List.filter_sublist.map Prod.fst)
  bounded := (List.length_filter_le _ _).trans cache.bounded

/-- An entry that is found expired is deleted. -/
def get (cache : ReplyCache max) (key : String) (now : Nat) : Option String × ReplyCache max :=
  match cache.entries.lookup key with
  | none => (none, cache)
  | some entry =>
    if now < entry.expiresAt then (some entry.text, cache)
    else (none, cache.keep fun other => other.1 ≠ key)

/-- `sweepExpiredLocked` -/
def sweepExpired (cache : ReplyCache max) (now : Nat) : ReplyCache max :=
  cache.keep fun other => now < other.2.expiresAt

def insert (cache : ReplyCache max) (key : String) (entry : ReplyEntry) (room : cache.entries.length < max) :
    ReplyCache max where
  entries := (key, entry) :: (cache.keep fun other => other.1 ≠ key).entries
  distinct := by
    refine List.nodup_cons.mpr ⟨?_, (cache.keep _).distinct⟩
    intro twice
    obtain ⟨other, kept, same⟩ := List.mem_map.mp twice
    exact absurd same (of_decide_eq_true (List.mem_filter.mp kept).2)
  bounded := Nat.succ_le_of_lt (Nat.lt_of_le_of_lt (List.length_filter_le _ _) room)

def makeRoom (cache : ReplyCache max) (sweptAt : Nat) : ReplyCache max :=
  if max ≤ cache.entries.length then cache.sweepExpired sweptAt else cache

/-- The sweep reads the clock before the entry does. -/
def put (cache : ReplyCache max) (ttl : Nat) (key answer : String) (sweptAt now : Nat) : ReplyCache max :=
  if answer = "" then cache
  else
    let swept := cache.makeRoom sweptAt
    if room : swept.entries.length < max then swept.insert key ⟨answer, now + ttl⟩ room else swept

end ReplyCache

namespace ReplyServer
open Ask (Result Failure)

/-- Ten minutes, in milliseconds. -/
def defaultReplyCacheTTL : Nat := 600_000
def defaultReplyCacheMaxEntries : Nat := 500

def maxQuestionRunes : Nat := 1000
def reasonBotUnavailable : String := "bot_unavailable"
def reasonProviderRateLimited : String := "provider_rate_limited"

def providerTripFor : Nat := 60_000

/-- The runes that `normalizeQuestion` writes: every run of white space is one space. -/
def collapse : Bool → List Char → List Char
  | _, [] => []
  | lastWasSpace, r :: rest =>
    if isUnicodeSpace r then
      if lastWasSpace then collapse true rest else ' ' :: collapse true rest
    else r :: collapse false rest

/-- What the service is deployed with; `unicode.ToLower` and `sha256.Sum256` come from outside. -/
structure Site where
  toLower : Char → Char
  sha256 : String → String
  manual : Bool
  ttl : Nat
  max : Nat

def Site.normalizeQuestion (site : Site) (question : String) : String :=
  trimSpace (String.ofList (collapse false ((trimSpace question).toList.map site.toLower)))

def Site.cacheKey (site : Site) (question : String) : String := site.sha256 (site.normalizeQuestion question)

def readQuestion (payload : String) : Option String :=
  let question := trimSpace payload
  if question = "" then none
  else if maxQuestionRunes < question.length then none
  else some question

def cacheable (result : Result) (history : List Turn) : Bool :=
  if result.text = "" then false
  else if result.truncated then false
  else history.isEmpty

def botErrorReason : Failure → String
  | .circuitOpen => reasonBotUnavailable
  | .provider err =>
    if err.rateLimited then reasonProviderRateLimited
    else if err.timeout then "timeout"
    else if err.blocked then "blocked"
    else "upstream"
  | .sink => "upstream"

inductive Phase where
  | accepted (question : String)
  | hit (question answer : String) (lookedUpAt : Nat)
  | missed (question : String)
  | asking (question : String) (history : List Turn)

structure Asker where
  subject : Subject
  guestKey : String

structure Ticket where
  asker : Asker
  phase : Phase

structure Served where
  request : Nat
  asker : Asker
  question : String
  answer : String
  lookedUpAt : Nat

/-- An answer of the model, with what it was asked. -/
structure Produced where
  request : Nat
  question : String
  history : List Turn
  result : Result
  storedAt : Nat

/-- The cache and the kill switch, the open requests, and what was asked, made and served so far. -/
structure Server (site : Site) where
  cache : ReplyCache site.max
  autoUntil : Nat
  tickets : Nat → Option Ticket
  asked : List String
  produced : List Produced
  served : List Served

/-- A step of one request: it passes the gates, looks into the cache, is counted, and ends its
stream. The decisions, the history and the answer of the model are those of its surroundings. -/
inductive Move where
  | arrive (id : Nat) (asker : Asker) (burst : Bool) (payload : String) (now : Nat)
  | look (id : Nat) (now : Nat)
  | charge (id : Nat) (decision : Option Decision) (history : List Turn) (now : Nat)
  | finish (id : Nat) (result : Result) (err : Option Failure) (sweptAt now : Nat)

variable {site : Site}

def start (site : Site) : Server site := ⟨.empty, 0, fun _ => none, [], [], []⟩

def Server.enabled (s : Server site) (now : Nat) : Bool := site.manual && !decide (now < s.autoUntil)

def Server.tripFor (s : Server site) (d now : Nat) : Server site :=
  if d = 0 then s else { s with autoUntil := max s.autoUntil (now + d) }

def Server.set (s : Server site) (id : Nat) (ticket : Option Ticket) : Server site :=
  { s with tickets := Function.update s.tickets id ticket }

/-- `writeQuotaRejected` -/
def Server.quotaRejected (s : Server site) (decision : Decision) (now : Nat) : Server site :=
  if decision.reason = .globalDaily then s.tripFor decision.retryAfter now else s

def Server.arrive (s : Server site) (id : Nat) (asker : Asker) (burst : Bool) (payload : String) (now : Nat) :
    Server site :=
  if (s.tickets id).isSome ∨ !s.enabled now ∨ !burst then s
  else match readQuestion payload with
    | none => s
    | some question => { s.set id (some ⟨asker, .accepted question⟩) with asked := s.asked ++ [question] }

def Server.look (s : Server site) (id : Nat) (ticket : Ticket) (question : String) (now : Nat) : Server site :=
  let found := s.cache.get (site.cacheKey question) now
  match found.1 with
  | some answer => { s.set id (some { ticket with phase := .hit question answer now }) with cache := found.2 }
  | none => { s.set id (some { ticket with phase := .missed question }) with cache := found.2 }

/-- The request goes on if it is counted and allowed; `none` is a count that failed. -/
def Server.charge (s : Server site) (id : Nat) (decision : Option Decision) (now : Nat) (goesOn : Server site) :
    Server site :=
  match decision with
  | none => s.set id none
  | some decision => if decision.allowed then goesOn else (s.set id none).quotaRejected decision now

/-- `streamCached` -/
def Server.serve (s : Server site) (id : Nat) (asker : Asker) (question answer : String) (lookedUpAt : Nat) :
    Server site :=
  { s.set id none with served := s.served ++ [⟨id, asker, question, answer, lookedUpAt⟩] }

def Server.record (s : Server site) (made : Produced) : Server site := { s with produced := s.produced ++ [made] }

/-- `ReplyCache.Put` -/
def Server.put (s : Server site) (question answer : String) (sweptAt now : Nat) : Server site :=
  { s with cache := s.cache.put site.ttl (site.cacheKey question) answer sweptAt now }

/-- `streamAnswer` after `Ask`. -/
def Server.finish (s : Server site) (id : Nat) (question : String) (history : List Turn) (result : Result)
    (err : Option Failure) (sweptAt now : Nat) : Server site :=
  match err with
  | some err =>
    if botErrorReason err = reasonBotUnavailable ∨ botErrorReason err = reasonProviderRateLimited then
      (s.set id none).tripFor providerTripFor now
    else s.set id none
  | none =>
    let made := (s.set id none).record ⟨id, question, history, result, now⟩
    if cacheable result history then made.put question result.text sweptAt now else made

/-- A step that does not fit how far the request got is none. -/
def act (s : Server site) : Move → Server site
  | .arrive id asker burst payload now => s.arrive id asker burst payload now
  | .look id now =>
    match s.tickets id with
    | some ticket =>
      match ticket.phase with
      | .accepted question => s.look id ticket question now
      | _ => s
    | none => s
  | .charge id decision history now =>
    match s.tickets id with
    | some ticket =>
      match ticket.phase with
      | .hit question answer lookedUpAt =>
        s.charge id decision now (s.serve id ticket.asker question answer lookedUpAt)
      | .missed question =>
        s.charge id decision now (s.set id (some { ticket with phase := .asking question history }))
      | _ => s
    | none => s
  | .finish id result err sweptAt now =>
    match s.tickets id with
    | some ticket =>
      match ticket.phase with
      | .asking question history => s.finish id question history result err sweptAt now
      | _ => s
    | none => s

def run (site : Site) (moves : List Move) : Server site := Machine.run act (start site) moves

/-! ### What a cached answer was made from -/

/-- The answer was made with no history, for a question of the same key, and had not expired. -/
def Backed (s : Server site) (question answer : String) (lookedUpAt : Nat) : Prop :=
  ∃ made ∈ s.produced, made.history = [] ∧ made.result.text = answer ∧
    site.cacheKey made.question = site.cacheKey question ∧ lookedUpAt < made.storedAt + site.ttl

def Phase.question : Phase → String
  | accepted question => question
  | hit question _ _ => question
  | missed question => question
  | asking question _ => question

structure Sound (s : Server site) : Prop where
  entries : ∀ other ∈ s.cache.entries, ∃ made ∈ s.produced, made.history = [] ∧ made.result.text = other.2.text ∧
    site.cacheKey made.question = other.1 ∧ other.2.expiresAt = made.storedAt + site.ttl
  hits : ∀ id ticket question answer lookedUpAt, s.tickets id = some ticket →
    ticket.phase = .hit question answer lookedUpAt → Backed s question answer lookedUpAt
  served : ∀ given ∈ s.served, Backed s given.question given.answer given.lookedUpAt
  open_asked : ∀ id ticket, s.tickets id = some ticket → ticket.phase.question ∈ s.asked
  produced_asked : ∀ made ∈ s.produced, made.question ∈ s.asked
  served_asked : ∀ given ∈ s.served, given.question ∈ s.asked

theorem start_sound : Sound (start site) := by
  refine ⟨List.forall_mem_nil _, nofun, List.forall_mem_nil _, nofun, List.forall_mem_nil _, List.forall_mem_nil _⟩

theorem Backed.grow {s t : Server site} {question answer : String} {lookedUpAt : Nat}
    (backed : Backed s question answer lookedUpAt) (more : ∀ made ∈ s.produced, made ∈ t.produced) :
    Backed t question answer lookedUpAt := by
  obtain ⟨made, mem, facts⟩ := backed
  exact ⟨made, more made mem, facts⟩

theorem keep_mem {max : Nat} {cache : ReplyCache max} {kept : String × ReplyEntry → Bool} {other : String × ReplyEntry}
    (mem : other ∈ (cache.keep kept).entries) : other ∈ cache.entries :=
  (List.mem_filter.mp mem).1

theorem get_entries {max : Nat} (cache : ReplyCache max) (key : String) (now : Nat) :
    ∀ other ∈ (cache.get key now).2.entries, other ∈ cache.entries := by
  intro other mem
  unfold ReplyCache.get at mem
  split at mem
  · exact mem
  · split at mem
    · exact mem
    · exact keep_mem mem

theorem get_found {max : Nat} {cache : ReplyCache max} {key answer : String} {now : Nat}
    (found : (cache.get key now).1 = some answer) :
    ∃ entry, (key, entry) ∈ cache.entries ∧ entry.text = answer ∧ now < entry.expiresAt := by
  unfold ReplyCache.get at found
  split at found
  · cases found
  · rename_i entry there
    split at found
    · rename_i fresh
      exact ⟨entry, List.lookup_eq_some_iff.mp there |> fun ⟨before, after, same, _⟩ => by rw [same]; simp,
        Option.some.inj found, fresh⟩
    · cases found

theorem makeRoom_entries {max : Nat} (cache : ReplyCache max) (sweptAt : Nat) :
    ∀ other ∈ (cache.makeRoom sweptAt).entries, other ∈ cache.entries := by
  intro other mem
  unfold ReplyCache.makeRoom at mem
  split at mem
  · exact keep_mem mem
  · exact mem

theorem put_entries {max : Nat} (cache : ReplyCache max) (ttl : Nat) (key answer : String) (sweptAt now : Nat) :
    ∀ other ∈ (cache.put ttl key answer sweptAt now).entries,
      other ∈ cache.entries ∨ other = (key, ⟨answer, now + ttl⟩) := by
  intro other mem
  unfold ReplyCache.put at mem
  split at mem
  · exact .inl mem
  · dsimp only at mem
    split at mem
    · rcases List.mem_cons.mp mem with fresh | old
      · exact .inr fresh
      · exact .inl (makeRoom_entries cache sweptAt other (keep_mem old))
    · exact .inl (makeRoom_entries cache sweptAt other mem)

theorem Server.set_self (s : Server site) (id : Nat) (ticket : Option Ticket) : (s.set id ticket).tickets id = ticket :=
  Function.update_self ..

theorem Server.set_of_ne (s : Server site) {id other : Nat} (ticket : Option Ticket) (elsewhere : other ≠ id) :
    (s.set id ticket).tickets other = s.tickets other :=
  Function.update_of_ne elsewhere ..

theorem Sound.set {s : Server site} (sound : Sound s) (id : Nat) {ticket : Option Ticket}
    (asked : ∀ t, ticket = some t → t.phase.question ∈ s.asked)
    (backed : ∀ t question answer lookedUpAt, ticket = some t → t.phase = .hit question answer lookedUpAt →
      Backed s question answer lookedUpAt) : Sound (s.set id ticket) where
  entries := sound.entries
  hits other t question answer lookedUpAt there hit := by
    rcases eq_or_ne other id with rfl | elsewhere
    · exact backed t question answer lookedUpAt ((s.set_self other ticket).symm.trans there) hit
    · exact sound.hits other t question answer lookedUpAt ((s.set_of_ne ticket elsewhere).symm.trans there) hit
  served := sound.served
  open_asked other t there := by
    rcases eq_or_ne other id with rfl | elsewhere
    · exact asked t ((s.set_self other ticket).symm.trans there)
    · exact sound.open_asked other t ((s.set_of_ne ticket elsewhere).symm.trans there)
  produced_asked := sound.produced_asked
  served_asked := sound.served_asked

theorem Sound.close {s : Server site} (sound : Sound s) (id : Nat) : Sound (s.set id none) :=
  sound.set id nofun nofun

theorem Sound.tripFor {s : Server site} (sound : Sound s) (d now : Nat) : Sound (s.tripFor d now) := by
  unfold Server.tripFor
  split
  · exact sound
  · exact ⟨sound.entries, sound.hits, sound.served, sound.open_asked, sound.produced_asked, sound.served_asked⟩

theorem Sound.arrive {s : Server site} (sound : Sound s) (id : Nat) (asker : Asker) (burst : Bool) (payload : String)
    (now : Nat) : Sound (s.arrive id asker burst payload now) := by
  unfold Server.arrive
  split
  · exact sound
  · split
    · exact sound
    · rename_i question _
      have grown : Sound { s with asked := s.asked ++ [question] } := {
        entries := sound.entries
        hits := sound.hits
        served := sound.served
        open_asked := fun other t there => List.mem_append_left _ (sound.open_asked other t there)
        produced_asked := fun made mem => List.mem_append_left _ (sound.produced_asked made mem)
        served_asked := fun given mem => List.mem_append_left _ (sound.served_asked given mem) }
      refine grown.set id ?_ ?_
      · rintro _ ⟨⟩
        exact List.mem_append_right _ List.mem_cons_self
      · rintro _ _ _ _ ⟨⟩ ⟨⟩

theorem Sound.look {s : Server site} (sound : Sound s) {id : Nat} {ticket : Ticket} {question : String}
    (asked : question ∈ s.asked) (now : Nat) : Sound (s.look id ticket question now) := by
  have cleared : Sound { s with cache := (s.cache.get (site.cacheKey question) now).2 } := {
    sound with
    entries := fun other mem => sound.entries other (get_entries _ _ _ other mem) }
  unfold Server.look
  dsimp only
  split
  · rename_i answer found
    refine cleared.set id ?_ ?_
    · rintro _ ⟨⟩
      exact asked
    · rintro _ _ _ _ ⟨⟩ ⟨⟩
      obtain ⟨entry, there, text, fresh⟩ := get_found found
      obtain ⟨made, mem, alone, said, key, expires⟩ := sound.entries _ there
      exact ⟨made, mem, alone, said.trans text, key, expires ▸ fresh⟩
  · refine cleared.set id ?_ ?_
    · rintro _ ⟨⟩
      exact asked
    · rintro _ _ _ _ ⟨⟩ ⟨⟩

theorem Sound.charge {s goesOn : Server site} (sound : Sound s) (onwards : Sound goesOn) (id : Nat)
    (decision : Option Decision) (now : Nat) : Sound (s.charge id decision now goesOn) := by
  unfold Server.charge
  split
  · exact sound.close id
  · split
    · exact onwards
    · unfold Server.quotaRejected
      split
      · exact (sound.close id).tripFor _ now
      · exact sound.close id

theorem Sound.serve {s : Server site} (sound : Sound s) (id : Nat) (asker : Asker) {question answer : String}
    {lookedUpAt : Nat} (backed : Backed s question answer lookedUpAt) (asked : question ∈ s.asked) :
    Sound (s.serve id asker question answer lookedUpAt) := by
  have closed := sound.close id
  refine { closed with served := ?_, served_asked := ?_ }
  · intro given mem
    rcases List.mem_append.mp mem with old | new
    · exact sound.served given old
    · rw [List.mem_singleton.mp new]
      exact backed
  · intro given mem
    rcases List.mem_append.mp mem with old | new
    · exact sound.served_asked given old
    · rw [List.mem_singleton.mp new]
      exact asked

/-- What `cacheable` lets into the cache is a whole answer made with no history. -/
theorem cacheable_alone {result : Result} {history : List Turn} (shared : cacheable result history = true) :
    history = [] := by
  unfold cacheable at shared
  split at shared
  · cases shared
  · split at shared
    · cases shared
    · exact List.isEmpty_iff.mp shared

theorem Sound.finish {s : Server site} (sound : Sound s) (id : Nat) {question : String} (asked : question ∈ s.asked)
    (history : List Turn) (result : Result) (err : Option Failure) (sweptAt now : Nat) :
    Sound (s.finish id question history result err sweptAt now) := by
  have closed := sound.close id
  unfold Server.finish
  split
  · split
    · exact closed.tripFor _ now
    · exact closed
  · have made : Sound ((s.set id none).record ⟨id, question, history, result, now⟩) := {
      entries := fun other mem => by
        obtain ⟨made, there, facts⟩ := sound.entries other mem
        exact ⟨made, List.mem_append_left _ there, facts⟩
      hits := fun other t q answer lookedUpAt there hit =>
        (closed.hits other t q answer lookedUpAt there hit).grow fun made mem => List.mem_append_left _ mem
      served := fun given mem => (sound.served given mem).grow fun made mem => List.mem_append_left _ mem
      open_asked := closed.open_asked
      produced_asked := fun made mem => by
        rcases List.mem_append.mp mem with old | new
        · exact sound.produced_asked made old
        · rw [List.mem_singleton.mp new]
          exact asked
      served_asked := closed.served_asked }
    dsimp only
    split
    · rename_i shared
      refine { made with entries := ?_ }
      intro other mem
      rcases put_entries _ _ _ _ _ _ other mem with old | rfl
      · exact made.entries other old
      · exact ⟨_, List.mem_append_right _ List.mem_cons_self, cacheable_alone shared, rfl, rfl, rfl⟩
    · exact made

theorem Sound.act {s : Server site} (sound : Sound s) (m : Move) : Sound (act s m) := by
  cases m with
  | arrive id asker burst payload now => exact sound.arrive id asker burst payload now
  | look id now =>
    dsimp only [ReplyServer.act]
    split
    · rename_i ticket there
      split
      · rename_i question accepted
        have asked := sound.open_asked id ticket there
        rw [accepted] at asked
        exact sound.look asked now
      · exact sound
    · exact sound
  | charge id decision history now =>
    dsimp only [ReplyServer.act]
    split
    · rename_i ticket there
      have asked := sound.open_asked id ticket there
      split
      · rename_i question answer lookedUpAt hit
        rw [hit] at asked
        exact sound.charge (sound.serve id ticket.asker (sound.hits id ticket _ _ _ there hit) asked) id decision now
      · rename_i question missed
        rw [missed] at asked
        refine sound.charge (sound.set id ?_ ?_) id decision now
        · rintro _ ⟨⟩
          exact asked
        · rintro _ _ _ _ ⟨⟩ ⟨⟩
      · exact sound
    · exact sound
  | finish id result err sweptAt now =>
    dsimp only [ReplyServer.act]
    split
    · rename_i ticket there
      split
      · rename_i question history asking
        have asked := sound.open_asked id ticket there
        rw [asking] at asked
        exact sound.finish id asked history result err sweptAt now
      · exact sound
    · exact sound

theorem run_sound (site : Site) (moves : List Move) : Sound (run site moves) :=
  (Machine.Reached.start.run (Machine.canRun_free moves)).invariant start_sound fun _ m sound _ => sound.act m

/-! ### What of one conversation reaches another -/

def placeholder : List Turn := [⟨.user, ""⟩]

def Ticket.blind (ticket : Ticket) : Ticket :=
  match ticket.phase with
  | .asking question _ => { ticket with phase := .asking question placeholder }
  | _ => ticket

def Produced.blind (made : Produced) : Produced := { made with history := placeholder, result := {} }

variable (multi : Nat → Bool)

/-- The run with the histories and the answers of some requests struck out. -/
def Move.blind : Move → Move
  | .charge id decision history now => .charge id decision (if multi id then placeholder else history) now
  | .finish id result err sweptAt now => .finish id (if multi id then {} else result) err sweptAt now
  | other => other

def Server.blind (s : Server site) : Server site := { s with
  tickets := fun id => if multi id then (s.tickets id).map Ticket.blind else s.tickets id
  produced := s.produced.map fun made => if multi made.request then made.blind else made }

/-- The requests in question belong to conversations of more than one turn. -/
def Move.MultiTurn : Move → Prop
  | .charge id _ history _ => multi id = true → history ≠ []
  | _ => True

def Deep (s : Server site) : Prop :=
  ∀ id ticket question history, multi id = true → s.tickets id = some ticket →
    ticket.phase = .asking question history → history ≠ []

theorem blind_set (s : Server site) (id : Nat) (ticket : Option Ticket) :
    (s.set id ticket).blind multi = (s.blind multi).set id (if multi id then ticket.map Ticket.blind else ticket) := by
  unfold Server.blind Server.set
  congr 1
  funext other
  dsimp only
  rcases eq_or_ne other id with rfl | elsewhere
  · rw [Function.update_self, Function.update_self]
  · rw [Function.update_of_ne elsewhere, Function.update_of_ne elsewhere]

theorem blind_close (s : Server site) (id : Nat) : (s.set id none).blind multi = (s.blind multi).set id none := by
  rw [blind_set, Option.map_none, ite_self]

theorem blind_tripFor (s : Server site) (d now : Nat) : (s.tripFor d now).blind multi = (s.blind multi).tripFor d now := by
  unfold Server.tripFor
  split <;> rfl

theorem blind_charge (s goesOn : Server site) (id : Nat) (decision : Option Decision) (now : Nat) :
    (s.charge id decision now goesOn).blind multi = (s.blind multi).charge id decision now (goesOn.blind multi) := by
  unfold Server.charge Server.quotaRejected
  split
  · exact blind_close multi s id
  · split
    · rfl
    · split
      · rw [blind_tripFor, blind_close]
      · exact blind_close multi s id

theorem blind_isSome (s : Server site) (id : Nat) : ((s.blind multi).tickets id).isSome = (s.tickets id).isSome := by
  unfold Server.blind
  dsimp only
  split
  · exact Option.isSome_map
  · rfl

/-- Only a request whose model is at work is struck out. -/
theorem blind_plain {ticket : Ticket} (plain : ∀ question history, ticket.phase ≠ .asking question history) :
    ticket.blind = ticket := by
  unfold Ticket.blind
  split
  · rename_i question history asking
    exact absurd asking (plain question history)
  · rfl

theorem blind_set_plain (s : Server site) (id : Nat) (ticket : Ticket)
    (plain : ∀ question history, ticket.phase ≠ .asking question history) :
    (s.set id (some ticket)).blind multi = (s.blind multi).set id (some ticket) := by
  rw [blind_set, Option.map_some, blind_plain plain, ite_self]

theorem blind_arrive (s : Server site) (id : Nat) (asker : Asker) (burst : Bool) (payload : String) (now : Nat) :
    (s.arrive id asker burst payload now).blind multi = (s.blind multi).arrive id asker burst payload now := by
  unfold Server.arrive
  rw [blind_isSome]
  have opened : (s.blind multi).enabled now = s.enabled now := rfl
  rw [opened]
  split
  · rfl
  · split
    · rfl
    · rename_i question _
      have accepted := blind_set_plain multi s id ⟨asker, .accepted question⟩ (by rintro _ _ ⟨⟩)
      exact congrArg (fun t : Server site => { t with asked := s.asked ++ [question] }) accepted

theorem blind_look (s : Server site) (id : Nat) (ticket : Ticket) (question : String) (now : Nat) :
    (s.look id ticket question now).blind multi = (s.blind multi).look id ticket question now := by
  unfold Server.look
  have same : (s.blind multi).cache = s.cache := rfl
  rw [same]
  generalize s.cache.get (site.cacheKey question) now = found
  dsimp only
  split
  · rename_i answer _
    have hit := blind_set_plain multi s id { ticket with phase := .hit question answer now } (by rintro _ _ ⟨⟩)
    exact congrArg (fun t : Server site => { t with cache := found.2 }) hit
  · have missed := blind_set_plain multi s id { ticket with phase := .missed question } (by rintro _ _ ⟨⟩)
    exact congrArg (fun t : Server site => { t with cache := found.2 }) missed

theorem blind_serve (s : Server site) (id : Nat) (asker : Asker) (question answer : String) (lookedUpAt : Nat) :
    (s.serve id asker question answer lookedUpAt).blind multi =
      (s.blind multi).serve id asker question answer lookedUpAt := by
  have closed := blind_close multi s id
  exact congrArg (fun t : Server site =>
    { t with served := s.served ++ [Served.mk id asker question answer lookedUpAt] }) closed

theorem blind_record (s : Server site) (made : Produced) :
    (s.record made).blind multi = (s.blind multi).record (if multi made.request then made.blind else made) := by
  unfold Server.record Server.blind
  rw [List.map_append, List.map_singleton]

theorem cacheable_deep (result : Result) {history : List Turn} (deep : history ≠ []) : cacheable result history = false := by
  rw [← Bool.not_eq_true]
  exact fun shared => deep (cacheable_alone shared)

/-- An answer that is not for everybody stays out of the cache, whatever it is. -/
theorem blind_finish (s : Server site) (id : Nat) (question : String) {history : List Turn} (result : Result)
    (err : Option Failure) (sweptAt now : Nat) (deep : multi id = true → history ≠ []) :
    (s.finish id question history result err sweptAt now).blind multi =
      (s.blind multi).finish id question (if multi id then placeholder else history)
        (if multi id then {} else result) err sweptAt now := by
  unfold Server.finish
  split
  · split
    · rw [blind_tripFor, blind_close]
    · exact blind_close multi s id
  · dsimp only
    cases hidden : multi id with
    | true =>
      rw [cacheable_deep result (deep hidden), if_pos rfl, if_pos rfl,
        cacheable_deep {} (show placeholder ≠ [] from List.cons_ne_nil _ _), if_neg Bool.false_ne_true,
        if_neg Bool.false_ne_true, blind_record, blind_close, if_pos hidden]
      rfl
    | false =>
      rw [if_neg Bool.false_ne_true, if_neg Bool.false_ne_true, ← blind_close]
      split
      · have recorded := blind_record multi (s.set id none) ⟨id, question, history, result, now⟩
        rw [if_neg (by rw [hidden]; exact Bool.false_ne_true)] at recorded
        exact congrArg (fun t => Server.put t question result.text sweptAt now) recorded
      · rw [blind_record, if_neg (by rw [hidden]; exact Bool.false_ne_true)]

theorem blind_none {s : Server site} {id : Nat} (there : s.tickets id = none) : (s.blind multi).tickets id = none := by
  dsimp only [Server.blind]
  rw [there, Option.map_none, ite_self]

theorem blind_some {s : Server site} {id : Nat} {ticket : Ticket} (there : s.tickets id = some ticket)
    (plain : ∀ question history, ticket.phase ≠ .asking question history) :
    (s.blind multi).tickets id = some ticket := by
  dsimp only [Server.blind]
  rw [there, Option.map_some, blind_plain plain, ite_self]

theorem blind_asking {s : Server site} {id : Nat} {asker : Asker} {question : String} {history : List Turn}
    (there : s.tickets id = some ⟨asker, .asking question history⟩) :
    (s.blind multi).tickets id = some ⟨asker, .asking question (if multi id then placeholder else history)⟩ := by
  dsimp only [Server.blind]
  rw [there]
  split <;> rfl

theorem blind_act {s : Server site} (deep : Deep multi s) (m : Move) :
    (act s m).blind multi = act (s.blind multi) (m.blind multi) := by
  cases m with
  | arrive id asker burst payload now => exact blind_arrive multi s id asker burst payload now
  | look id now =>
    dsimp only [act, Move.blind]
    cases there : s.tickets id with
    | none => rw [blind_none multi there]
    | some ticket =>
      obtain ⟨asker, phase⟩ := ticket
      cases phase with
      | accepted question =>
        rw [blind_some multi there (by rintro _ _ ⟨⟩)]
        exact blind_look multi s id _ question now
      | hit question answer lookedUpAt => rw [blind_some multi there (by rintro _ _ ⟨⟩)]
      | missed question => rw [blind_some multi there (by rintro _ _ ⟨⟩)]
      | asking question history => rw [blind_asking multi there]
  | charge id decision history now =>
    dsimp only [act, Move.blind]
    cases there : s.tickets id with
    | none => rw [blind_none multi there]
    | some ticket =>
      obtain ⟨asker, phase⟩ := ticket
      cases phase with
      | accepted question => rw [blind_some multi there (by rintro _ _ ⟨⟩)]
      | hit question answer lookedUpAt =>
        rw [blind_some multi there (by rintro _ _ ⟨⟩)]
        dsimp only
        rw [blind_charge, blind_serve]
      | missed question =>
        rw [blind_some multi there (by rintro _ _ ⟨⟩)]
        dsimp only
        rw [blind_charge, blind_set]
        congr 2
        split <;> rfl
      | asking question old => rw [blind_asking multi there]
  | finish id result err sweptAt now =>
    dsimp only [act, Move.blind]
    cases there : s.tickets id with
    | none => rw [blind_none multi there]
    | some ticket =>
      obtain ⟨asker, phase⟩ := ticket
      cases phase with
      | accepted question => rw [blind_some multi there (by rintro _ _ ⟨⟩)]
      | hit question answer lookedUpAt => rw [blind_some multi there (by rintro _ _ ⟨⟩)]
      | missed question => rw [blind_some multi there (by rintro _ _ ⟨⟩)]
      | asking question history =>
        rw [blind_asking multi there]
        exact blind_finish multi s id question result err sweptAt now
          fun hidden => deep id _ question history hidden there rfl

variable {multi}

theorem Deep.set {s : Server site} (deep : Deep multi s) (id : Nat) {ticket : Option Ticket}
    (fine : ∀ t question history, multi id = true → ticket = some t → t.phase = .asking question history → history ≠ []) :
    Deep multi (s.set id ticket) := by
  intro other t question history hidden there asking
  rcases eq_or_ne other id with rfl | elsewhere
  · exact fine t question history hidden ((s.set_self other ticket).symm.trans there) asking
  · exact deep other t question history hidden ((s.set_of_ne ticket elsewhere).symm.trans there) asking

theorem Deep.tripFor {s : Server site} (deep : Deep multi s) (d now : Nat) : Deep multi (s.tripFor d now) := by
  unfold Server.tripFor
  split
  · exact deep
  · exact deep

theorem Deep.charge {s goesOn : Server site} (deep : Deep multi s) (onwards : Deep multi goesOn) (id : Nat)
    (decision : Option Decision) (now : Nat) : Deep multi (s.charge id decision now goesOn) := by
  have closed : Deep multi (s.set id none) := deep.set id nofun
  unfold Server.charge
  split
  · exact closed
  · split
    · exact onwards
    · unfold Server.quotaRejected
      split
      · exact closed.tripFor _ now
      · exact closed

theorem Deep.act {s : Server site} (deep : Deep multi s) {m : Move} (multiTurn : m.MultiTurn multi) :
    Deep multi (act s m) := by
  cases m with
  | arrive id asker burst payload now =>
    dsimp only [ReplyServer.act, Server.arrive]
    split
    · exact deep
    · split
      · exact deep
      · exact deep.set id (by rintro _ _ _ _ ⟨⟩ ⟨⟩)
  | look id now =>
    dsimp only [ReplyServer.act]
    split
    · split
      · unfold Server.look
        dsimp only
        split
        · exact deep.set id (by rintro _ _ _ _ ⟨⟩ ⟨⟩)
        · exact deep.set id (by rintro _ _ _ _ ⟨⟩ ⟨⟩)
      · exact deep
    · exact deep
  | charge id decision history now =>
    dsimp only [ReplyServer.act]
    split
    · split
      · refine deep.charge ?_ id decision now
        exact deep.set id nofun
      · refine deep.charge (deep.set id ?_) id decision now
        rintro _ _ _ hidden ⟨⟩ ⟨⟩
        exact multiTurn hidden
      · exact deep
    · exact deep
  | finish id result err sweptAt now =>
    have closed : Deep multi (s.set id none) := deep.set id nofun
    dsimp only [ReplyServer.act]
    split
    · split
      · unfold Server.finish
        split
        · split
          · exact closed.tripFor _ now
          · exact closed
        · dsimp only
          split
          · exact closed
          · exact closed
      · exact deep
    · exact deep

theorem run_blind (moves : List Move) (multiTurn : ∀ m ∈ moves, m.MultiTurn multi) {s : Server site} (deep : Deep multi s) :
    (Machine.run act s moves).blind multi = Machine.run act (s.blind multi) (moves.map (Move.blind multi)) := by
  induction moves generalizing s with
  | nil => rfl
  | cons m rest ih =>
    have later := ih (fun m mem => multiTurn m (List.mem_cons_of_mem _ mem)) (deep.act (multiTurn m List.mem_cons_self))
    rw [blind_act multi deep m] at later
    exact later

/-- Two runs that differ in the histories and the answers of multi-turn requests serve the
same cached answers. -/
theorem served_alike {moves others : List Move} (multiTurn : ∀ m ∈ moves, m.MultiTurn multi)
    (othersToo : ∀ m ∈ others, m.MultiTurn multi) (alike : moves.map (Move.blind multi) = others.map (Move.blind multi)) :
    (run site moves).served = (run site others).served := by
  have deep : Deep multi (start site) := nofun
  have one := run_blind moves multiTurn deep
  have two := run_blind others othersToo deep
  rw [alike, ← two] at one
  have same := congrArg Server.served one
  exact same

/-- `sha256.Sum256` tells apart the normal forms of the questions of the run. -/
def NoCollision (site : Site) (questions : List String) : Prop :=
  ∀ one ∈ questions, ∀ other ∈ questions, site.cacheKey one = site.cacheKey other →
    site.normalizeQuestion one = site.normalizeQuestion other

/-- An answer that the run made with no history for such a question, not older than the time to live. -/
def MadeAlone (s : Server site) (given : Served) : Prop :=
  ∃ made ∈ s.produced, made.history = [] ∧ made.result.text = given.answer ∧
    site.normalizeQuestion made.question = site.normalizeQuestion given.question ∧
    given.lookedUpAt < made.storedAt + site.ttl

theorem cache_isolated (site : Site) (moves : List Move) (noCollision : NoCollision site (run site moves).asked) :
    (∀ given ∈ (run site moves).served, MadeAlone (run site moves) given) ∧
    (∀ (multi : Nat → Bool) (others : List Move), (∀ m ∈ moves, m.MultiTurn multi) → (∀ m ∈ others, m.MultiTurn multi) →
      moves.map (Move.blind multi) = others.map (Move.blind multi) →
      (run site moves).served = (run site others).served) ∧
    (run site moves).cache.entries.length ≤ site.max := by
  have sound := run_sound site moves
  refine ⟨?_, fun _ _ multiTurn othersToo alike => served_alike multiTurn othersToo alike, (run site moves).cache.bounded⟩
  intro given mem
  obtain ⟨made, there, alone, said, key, fresh⟩ := sound.served given mem
  exact ⟨made, there, alone, said,
    noCollision _ (sound.produced_asked made there) _ (sound.served_asked given mem) key, fresh⟩

/-- The sums are those of the two questions below. -/
def shop : Site where
  toLower := Char.toLower
  sha256 normal :=
    if normal = "ao thun" then "0f5656f63b4e1f463e9f5d2cf5be5cedc73b94e9b64e25d6e1c4a9b3838cc130"
    else "92b604277adf858b3bfa898c5c53fa63befcc7e90f6b10617a963e7bb0cbfe8a"
  manual := true
  ttl := defaultReplyCacheTTL
  max := defaultReplyCacheMaxEntries

/-- A guest asks first, a user in the middle of a conversation second, and another user what
the guest asked. -/
def askedTwice : List Move :=
  let guest : Asker := ⟨⟨"", "1.1.1.1"⟩, "0123456789abcdef"⟩
  let mai : Asker := ⟨⟨"mai", ""⟩, ""⟩
  let an : Asker := ⟨⟨"an", ""⟩, ""⟩
  let allowed : Option Decision := some ⟨true, .ok, 0, 0⟩
  [.arrive 1 guest true "Ao   thun " 0, .look 1 1, .charge 1 allowed [] 2,
    .arrive 2 mai true "con mau xanh" 3, .look 2 4, .charge 2 allowed [⟨.user, "Giay?"⟩, ⟨.model, "Co."⟩] 5,
    .finish 1 { text := "Co ba mau." } none 6 6, .finish 2 { text := "Giay xanh." } none 7 7,
    .arrive 3 an true "ao thun" 8, .look 3 9, .charge 3 allowed [] 10]

theorem askedTwice_isolated : (run shop askedTwice).served.length = 1 ∧
    (∀ given ∈ (run shop askedTwice).served, MadeAlone (run shop askedTwice) given) ∧
    (∀ (multi : Nat → Bool) (others : List Move), (∀ m ∈ askedTwice, m.MultiTurn multi) →
      (∀ m ∈ others, m.MultiTurn multi) → askedTwice.map (Move.blind multi) = others.map (Move.blind multi) →
      (run shop askedTwice).served = (run shop others).served) ∧
    (run shop askedTwice).cache.entries.length ≤ shop.max :=
  ⟨by decide +kernel, cache_isolated shop askedTwice (by unfold NoCollision; decide +kernel)⟩

end ReplyServer
end Marketplace.Chat
