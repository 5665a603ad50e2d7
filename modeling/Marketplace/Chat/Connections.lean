import Marketplace.Chat.Delivery

/-! The goroutines of the websocket connections: who sends to which, who writes, and how a connection ends. -/
namespace Marketplace.Chat

def outboxSize : Nat := 16

def closeUnauthorized : Nat := 4401
def statusGoingAway : Nat := 1001
def statusPolicyViolation : Nat := 1008
def statusInternalError : Nat := 1011

/-- Whom a frame is for: the connection whose request it answers, or both sides of a conversation. -/
inductive Audience where
  | own (c : Nat)
  | sides (target : DirectTarget)

structure Post where
  audience : Audience
  frame : ServerFrame

/-- The goroutines of a connection. -/
inductive Thread where
  | handler (c : Nat)
  | writeLoop (c : Nat)
  | pingLoop (c : Nat)
deriving DecidableEq

def Thread.conn : Thread → Nat
  | handler c => c
  | writeLoop c => c
  | pingLoop c => c

/-- A call that a goroutine has still to make. `shut` is what `Close` does after it has closed `done`. -/
inductive ConnCall where
  | send (c : Nat) (post : Post)
  | broadcast (key : String) (target : DirectTarget) (frame : ServerFrame)
  | close (c : Nat) (code : Nat)
  | shut (c : Nat)

inductive Handler where
  | absent | authenticating | refused | turnedAway
  | joining | greeting | reading | leaving | cancelling | gone
deriving DecidableEq

inductive Loop where
  | absent | waiting
  | writing (post : Post)
  | ended

/-- The frame that the loop has in its hands. -/
def Loop.held : Loop → List Post
  | writing post => [post]
  | _ => []

/-- One connection. From `accepted` on it is a record: what the queue took, what the socket took, what was lost in a write that
failed, what found the queue full, and the codes it was closed with. -/
structure Line where
  userID : String := ""
  shopID : String := ""
  handler : Handler := .absent
  writeLoop : Loop := .absent
  pingLoop : Loop := .absent
  outbox : List Post := []
  /-- The channel `done` is closed. -/
  done : Bool := false
  /-- The first `Close` has come to its end. -/
  closed : Bool := false
  cancelled : Bool := false
  /-- After `CloseNow`. -/
  socketGone : Bool := false
  accepted : List Post := []
  written : List Post := []
  lost : List Post := []
  refused : List Post := []
  codes : List Nat := []

structure Server where
  hub : Hub := {}
  line : Nat → Line := fun _ => {}
  calls : Thread → List ConnCall := fun _ => []

/-- What a frame of the client leads to: one error, or a message that is stored. -/
inductive Handled where
  | failed (reason clientMsgID : String)
  | stored (target : DirectTarget) (message : ServerFrame) (clientMsgID : String)

inductive Move where
  | accept (c : Nat)
  /-- The user of the token, with the shop that the shop service names; none if the connection is refused. -/
  | authenticate (c : Nat) (identity : Option (String × String))
  | join (c : Nat)
  | greeted (c : Nat)
  | read (c : Nat) (handled : Handled)
  | hangUp (c : Nat)
  | leave (c : Nat)
  | cancel (c : Nat)
  /-- The next call of a goroutine. A frame may be dropped once `done` is closed; a map is ranged in any order. -/
  | next (t : Thread) (drop : Bool) (order : List Nat)
  | take (c : Nat)
  | wrote (c : Nat) (ok : Bool)
  | pinged (c : Nat) (ok : Bool)
  | quitWriting (c : Nat)
  | quitPinging (c : Nat)

def Line.enqueue (l : Line) (post : Post) : Line := { l with outbox := l.outbox ++ [post], accepted := l.accepted ++ [post] }

def Line.refuse (l : Line) (post : Post) : Line := { l with refused := l.refused ++ [post] }

def Line.close (l : Line) (code : Nat) : Line := { l with done := true, codes := l.codes ++ [code] }

def Line.wrote (l : Line) (ok : Bool) : Line :=
  match l.writeLoop with
  | .writing post =>
    if ok then { l with writeLoop := .waiting, written := l.written ++ [post] }
    else { l with writeLoop := .ended, lost := l.lost ++ [post] }
  | _ => l

/-- The queue is read and closed `done` is seen in any order. -/
def Line.take (l : Line) : Line :=
  match l.outbox with
  | post :: rest => { l with writeLoop := .writing post, outbox := rest }
  | [] => l

namespace Server

def setLine (s : Server) (c : Nat) (l : Line) : Server := { s with line := Function.update s.line c l }

def setCalls (s : Server) (t : Thread) (calls : List ConnCall) : Server := { s with calls := Function.update s.calls t calls }

/-- More calls for a goroutine. -/
def go (s : Server) (t : Thread) (calls : List ConnCall) : Server := s.setCalls t (s.calls t ++ calls)

/-- `Send`. Without room the connection is closed. -/
def send (s : Server) (t : Thread) (rest : List ConnCall) (c : Nat) (post : Post) (drop : Bool) : Server :=
  let l := s.line c
  let full := outboxSize ≤ l.outbox.length
  if l.done = true ∧ (drop = true ∨ full) then s.setCalls t rest
  else if full then (s.setLine c (l.refuse post)).setCalls t (.close c statusPolicyViolation :: rest)
  else (s.setLine c (l.enqueue post)).setCalls t rest

def perform (s : Server) (t : Thread) (drop : Bool) (order : List Nat) : Server :=
  match s.calls t with
  | [] => s
  | .send c post :: rest => s.send t rest c post drop
  | .broadcast _ target frame :: rest => s.setCalls t (order.map (.send · ⟨.sides target, frame⟩) ++ rest)
  | .close c code :: rest =>
    if (s.line c).done then s.setCalls t rest
    else (s.setLine c ((s.line c).close code)).setCalls t (.shut c :: rest)
  | .shut c :: rest => (s.setLine c { s.line c with closed := true }).setCalls t rest

/-- The frames of an answer: an error, or `fanout`. -/
def answer (c : Nat) : Handled → List ConnCall
  | .failed reason clientMsgID => [.send c ⟨.own c, { type := "error", reason, clientMsgID }⟩]
  | .stored target message clientMsgID =>
    [.broadcast (userKey target.buyerUserID) target message, .broadcast (shopKey target.shopID) target message,
      .send c ⟨.own c, { message with clientMsgID }⟩]

def act (s : Server) : Move → Server
  | .accept c => s.setLine c { handler := .authenticating, writeLoop := .waiting }
  | .authenticate c identity =>
    match identity with
    | none => (s.setLine c { s.line c with handler := .refused }).go (.handler c) [.close c closeUnauthorized]
    | some (userID, shopID) => s.setLine c { s.line c with handler := .joining, userID, shopID }
  | .join c =>
    let l := s.line c
    let ready : ServerFrame := { type := "ready", userID := l.userID, shopID := l.shopID }
    { (s.setLine c { l with handler := .greeting }).go (.handler c) [.send c ⟨.own c, ready⟩] with
      hub := s.hub.join c [userKey l.userID, shopKey l.shopID] }
  | .greeted c => s.setLine c { s.line c with handler := .reading, pingLoop := .waiting }
  | .read c handled => s.go (.handler c) (answer c handled)
  | .hangUp c => s.setLine c { s.line c with handler := .leaving }
  | .leave c => { s.setLine c { s.line c with handler := .cancelling } with hub := s.hub.leave c }
  | .cancel c =>
    let l := s.line c
    s.setLine c { l with
      cancelled := true
      socketGone := true
      handler := if l.handler = .refused then .turnedAway else .gone }
  | .next t drop order => s.perform t drop order
  | .take c => s.setLine c (s.line c).take
  | .wrote c ok =>
    let s := s.setLine c ((s.line c).wrote ok)
    if ok then s else s.go (.writeLoop c) [.close c statusInternalError]
  | .pinged c ok =>
    if ok then s
    else (s.setLine c { s.line c with pingLoop := .ended }).go (.pingLoop c) [.close c statusGoingAway]
  | .quitWriting c => s.setLine c { s.line c with writeLoop := .ended }
  | .quitPinging c => s.setLine c { s.line c with pingLoop := .ended }

/-- When a goroutine can take a step. A second `Close` waits for the end of the first. -/
def Can (s : Server) : Move → Prop
  | .accept c => (s.line c).handler = .absent
  | .authenticate c _ => (s.line c).handler = .authenticating
  | .join c => (s.line c).handler = .joining
  | .greeted c => (s.line c).handler = .greeting ∧ s.calls (.handler c) = []
  | .read c _ => (s.line c).handler = .reading ∧ s.calls (.handler c) = []
  | .hangUp c => (s.line c).handler = .reading ∧ s.calls (.handler c) = []
  | .leave c => (s.line c).handler = .leaving
  | .cancel c => (s.line c).handler = .cancelling ∨ (s.line c).handler = .refused ∧ s.calls (.handler c) = []
  | .next t drop order =>
    match s.calls t with
    | [] => False
    | .send c _ :: _ => drop = true → (s.line c).done = true
    | .broadcast key _ _ :: _ => order.Nodup ∧ ∀ c, c ∈ order ↔ c ∈ s.hub.targets key t.conn
    | .close c _ :: _ => (s.line c).done = true → (s.line c).closed = true
    | .shut _ :: _ => True
  | .take c => (s.line c).writeLoop = .waiting ∧ (s.line c).outbox ≠ []
  | .wrote c ok =>
    (s.line c).writeLoop.held ≠ [] ∧ (ok = true → (s.line c).closed = false ∧ (s.line c).socketGone = false)
  | .pinged c _ => (s.line c).pingLoop = .waiting
  | .quitWriting c => (s.line c).writeLoop = .waiting ∧ ((s.line c).done = true ∨ (s.line c).cancelled = true)
  | .quitPinging c => (s.line c).pingLoop = .waiting ∧ ((s.line c).done = true ∨ (s.line c).cancelled = true)

abbrev Reached : Server → Prop := Machine.Reached act Can {}

end Server

/-- The token of the connection has been verified. -/
def Handler.known : Handler → Bool
  | absent | authenticating | refused | turnedAway => false
  | joining | greeting | reading | leaving | cancelling | gone => true

/-- The connection is in its rooms. -/
def Handler.here : Handler → Bool
  | greeting | reading | leaving => true
  | _ => false

/-- The rooms of the connection. -/
def Line.InRoom (l : Line) (key : String) : Prop := (key = userKey l.userID ∨ key = shopKey l.shopID) ∧ ¬ Hub.Nameless key

/-- The frame answers a request of the connection, or is of a conversation of its user or its shop. -/
def Post.For (post : Post) (c : Nat) (l : Line) : Prop :=
  match post.audience with
  | .own other => other = c
  | .sides target => target.buyerUserID = l.userID ∨ target.shopID = l.shopID ∧ l.shopID ≠ ""

/-- The queue keeps the order, loses only what a failed write had in its hands, and is closed once. -/
structure Line.Sound (l : Line) : Prop where
  flow : l.accepted = l.written ++ l.writeLoop.held ++ l.lost ++ l.outbox
  lost : l.lost = [] ∨ l.writeLoop = .ended ∧ l.lost.length = 1
  small : l.outbox.length ≤ outboxSize
  once : l.codes.length ≤ 1
  marked : l.done = true ↔ l.codes ≠ []

def ConnCall.Addressed (s : Server) : ConnCall → Prop
  | .send c post => (s.line c).handler.known = true ∧ post.For c (s.line c)
  | .broadcast key target _ => key = userKey target.buyerUserID ∨ key = shopKey target.shopID
  | .close _ _ => True
  | .shut _ => True

/-- Some goroutine is about to close the connection. -/
def Server.Closing (s : Server) (c : Nat) : Prop := ∃ t code, .close c code ∈ s.calls t

structure Server.Wired (s : Server) : Prop where
  lines : ∀ c, (s.line c).Sound
  strangers : ∀ c, (s.line c).handler.known = false → (s.line c).accepted = []
  addressed : ∀ t, ∀ call ∈ s.calls t, call.Addressed s
  accepted : ∀ c, ∀ post ∈ (s.line c).accepted, post.For c (s.line c)
  refused : ∀ c, (s.line c).refused ≠ [] → (s.line c).done = true ∨ s.Closing c
  rooms : ∀ c key, c ∈ s.hub.rooms key → (s.line c).handler.here = true ∧ key ∈ s.hub.keys c ∧ (s.line c).InRoom key

section
variable {l : Line} {s : Server} {c : Nat} {post : Post}

theorem Handler.here_known {h : Handler} (here : h.here = true) : h.known = true := by
  cases h <;> first | rfl | cases here

theorem Line.Sound.enqueue (sound : l.Sound) (room : l.outbox.length < outboxSize) : (l.enqueue post).Sound where
  flow := by
    show l.accepted ++ [post] = l.written ++ l.writeLoop.held ++ l.lost ++ (l.outbox ++ [post])
    simp only [sound.flow, List.append_assoc]
  lost := sound.lost
  small := by
    show (l.outbox ++ [post]).length ≤ outboxSize
    rw [List.length_append]
    exact room
  once := sound.once
  marked := sound.marked

theorem Line.Sound.refuse (sound : l.Sound) : (l.refuse post).Sound :=
  ⟨sound.flow, sound.lost, sound.small, sound.once, sound.marked⟩

theorem Line.Sound.close (sound : l.Sound) (open_ : l.done = false) (code : Nat) : (l.close code).Sound where
  flow := sound.flow
  lost := sound.lost
  small := sound.small
  once := by
    have none : l.codes = [] := by
      by_contra some
      rw [sound.marked.mpr some] at open_
      cases open_
    show (l.codes ++ [code]).length ≤ 1
    rw [none]
    exact Nat.le_refl 1
  marked := by simp [Line.close]

theorem Line.Sound.take (sound : l.Sound) (waiting : l.writeLoop = .waiting) : l.take.Sound := by
  have nothing : l.lost = [] := by
    rcases sound.lost with none | ⟨ended, _⟩
    · exact none
    · rw [waiting] at ended
      cases ended
  have flow := sound.flow
  have small := sound.small
  unfold Line.take
  split
  · rename_i post rest queued
    rw [waiting, nothing, queued] at flow
    rw [queued] at small
    refine ⟨?_, Or.inl nothing, Nat.le_of_succ_le small, sound.once, sound.marked⟩
    simpa [nothing, Loop.held] using flow
  · exact sound

theorem Line.Sound.wrote (sound : l.Sound) (ok : Bool) : (l.wrote ok).Sound := by
  have flow := sound.flow
  unfold Line.wrote
  split
  · rename_i post writing
    have nothing : l.lost = [] := by
      rcases sound.lost with none | ⟨ended, _⟩
      · exact none
      · rw [writing] at ended
        cases ended
    rw [writing, nothing] at flow
    split
    · refine ⟨?_, Or.inl nothing, sound.small, sound.once, sound.marked⟩
      simpa [nothing, Loop.held] using flow
    · refine ⟨?_, Or.inr ⟨rfl, ?_⟩, sound.small, sound.once, sound.marked⟩
      · simpa [nothing, Loop.held] using flow
      · show (l.lost ++ [post]).length = 1
        rw [nothing]
        rfl
  · exact sound

/-- A loop that holds nothing stops. -/
theorem Line.Sound.stop (sound : l.Sound) (waiting : l.writeLoop = .waiting) : { l with writeLoop := .ended }.Sound := by
  have flow := sound.flow
  rw [waiting] at flow
  refine ⟨flow, ?_, sound.small, sound.once, sound.marked⟩
  rcases sound.lost with none | ⟨_, one⟩
  · exact Or.inl none
  · exact Or.inr ⟨rfl, one⟩

namespace Server

theorem line_self (s : Server) (c : Nat) (l : Line) : (s.setLine c l).line c = l := Function.update_self ..

theorem line_other (s : Server) {c other : Nat} (l : Line) (ne : other ≠ c) : (s.setLine c l).line other = s.line other :=
  Function.update_of_ne ne ..

theorem calls_self (s : Server) (t : Thread) (calls : List ConnCall) : (s.setCalls t calls).calls t = calls :=
  Function.update_self ..

theorem calls_other (s : Server) {t other : Thread} (calls : List ConnCall) (ne : other ≠ t) :
    (s.setCalls t calls).calls other = s.calls other :=
  Function.update_of_ne ne ..

/-- A connection changes, with its user and shop the same. -/
theorem Wired.touch (wired : s.Wired) (sound : l.Sound) (userID : l.userID = (s.line c).userID) (shopID : l.shopID = (s.line c).shopID)
    (known : l.handler.known = (s.line c).handler.known) (here : ∀ key, c ∈ s.hub.rooms key → l.handler.here = true)
    (strangers : l.handler.known = false → l.accepted = []) (accepted : ∀ post ∈ l.accepted, post.For c l)
    (refused : l.refused ≠ [] → l.done = true ∨ s.Closing c) : (s.setLine c l).Wired where
  lines other := by
    by_cases same : other = c
    · rw [same, line_self]
      exact sound
    · rw [line_other s l same]
      exact wired.lines other
  strangers other unknown := by
    by_cases same : other = c
    · subst same
      rw [line_self] at unknown ⊢
      exact strangers unknown
    · rw [line_other s l same] at unknown ⊢
      exact wired.strangers other unknown
  addressed t call pending := by
    have before := wired.addressed t call pending
    cases call with
    | send other post =>
      obtain ⟨met, due⟩ := before
      by_cases same : other = c
      · subst same
        refine ⟨?_, ?_⟩
        · rw [line_self, known]
          exact met
        · rw [line_self]
          unfold Post.For at due ⊢
          rw [userID, shopID]
          exact due
      · refine ⟨?_, ?_⟩
        · rw [line_other s l same]
          exact met
        · rw [line_other s l same]
          exact due
    | broadcast key target frame => exact before
    | close other code => trivial
    | shut other => trivial
  accepted other := by
    by_cases same : other = c
    · rw [same, line_self]
      exact accepted
    · rw [line_other s l same]
      exact wired.accepted other
  refused other gap := by
    by_cases same : other = c
    · subst same
      rw [line_self] at gap ⊢
      exact refused gap
    · rw [line_other s l same] at gap ⊢
      exact wired.refused other gap
  rooms other key member := by
    obtain ⟨met, listed, own⟩ := wired.rooms other key member
    by_cases same : other = c
    · subst same
      rw [line_self]
      refine ⟨here key member, listed, ?_⟩
      unfold Line.InRoom at own ⊢
      rw [userID, shopID]
      exact own
    · rw [line_other s l same]
      exact ⟨met, listed, own⟩

/-- The calls of a goroutine change, and none to `Close` is forgotten. -/
theorem Wired.recall (wired : s.Wired) {t : Thread} {calls : List ConnCall} (addressed : ∀ call ∈ calls, call.Addressed s)
    (keeps : ∀ c code, .close c code ∈ s.calls t → .close c code ∈ calls ∨ (s.line c).done = true) :
    (s.setCalls t calls).Wired where
  lines := wired.lines
  strangers := wired.strangers
  addressed other call pending := by
    have before : call.Addressed s := by
      by_cases same : other = t
      · rw [same, calls_self] at pending
        exact addressed call pending
      · rw [calls_other s calls same] at pending
        exact wired.addressed other call pending
    cases call <;> exact before
  accepted := wired.accepted
  refused c gap := by
    rcases wired.refused c gap with done | ⟨other, code, pending⟩
    · exact Or.inl done
    · by_cases same : other = t
      · rw [same] at pending
        rcases keeps c code pending with kept | done
        · exact Or.inr ⟨t, code, by rw [calls_self]; exact kept⟩
        · exact Or.inl done
      · exact Or.inr ⟨other, code, by rw [calls_other s calls same]; exact pending⟩
  rooms := wired.rooms

theorem Wired.go (wired : s.Wired) (t : Thread) (calls : List ConnCall) (addressed : ∀ call ∈ calls, call.Addressed s) :
    (s.go t calls).Wired := by
  refine wired.recall (fun call pending => ?_) fun c code pending => Or.inl (List.mem_append_left _ pending)
  rcases List.mem_append.mp pending with before | new
  · exact wired.addressed t call before
  · exact addressed call new

/-- What the loops and the end of a connection leave as it is. -/
structure Kept (before after : Line) : Prop where
  userID : after.userID = before.userID
  shopID : after.shopID = before.shopID
  handler : after.handler = before.handler
  accepted : after.accepted = before.accepted
  refused : after.refused = before.refused
  done : before.done = true → after.done = true

theorem Wired.keep (wired : s.Wired) (sound : l.Sound) (kept : Kept (s.line c) l) : (s.setLine c l).Wired := by
  refine wired.touch sound kept.userID kept.shopID (by rw [kept.handler]) (fun key member => ?_) (fun unknown => ?_) (fun post among => ?_)
    fun gap => ?_
  · rw [kept.handler]
    exact (wired.rooms c key member).1
  · rw [kept.handler] at unknown
    rw [kept.accepted]
    exact wired.strangers c unknown
  · rw [kept.accepted] at among
    have due := wired.accepted c post among
    unfold Post.For at due ⊢
    rw [kept.userID, kept.shopID]
    exact due
  · rw [kept.refused] at gap
    exact (wired.refused c gap).imp_left kept.done

theorem take_kept (l : Line) : Kept l l.take := by
  unfold Line.take
  split
  · exact ⟨rfl, rfl, rfl, rfl, rfl, id⟩
  · exact ⟨rfl, rfl, rfl, rfl, rfl, id⟩

theorem wrote_kept (l : Line) (ok : Bool) : Kept l (l.wrote ok) := by
  unfold Line.wrote
  split
  · split
    · exact ⟨rfl, rfl, rfl, rfl, rfl, id⟩
    · exact ⟨rfl, rfl, rfl, rfl, rfl, id⟩
  · exact ⟨rfl, rfl, rfl, rfl, rfl, id⟩

/-- A connection without an identity is in no room and is sent nothing. -/
theorem Wired.renew (wired : s.Wired) (unknown : (s.line c).handler.known = false) (sound : l.Sound) (accepted : l.accepted = [])
    (refused : l.refused ≠ [] → l.done = true ∨ s.Closing c) : (s.setLine c l).Wired where
  lines other := by
    by_cases same : other = c
    · rw [same, line_self]
      exact sound
    · rw [line_other s l same]
      exact wired.lines other
  strangers other none := by
    by_cases same : other = c
    · rw [same, line_self]
      exact accepted
    · rw [line_other s l same] at none ⊢
      exact wired.strangers other none
  addressed t call pending := by
    have before := wired.addressed t call pending
    cases call with
    | send other post =>
      have same : other ≠ c := by
        rintro rfl
        rw [before.1] at unknown
        cases unknown
      refine ⟨?_, ?_⟩
      · rw [line_other s l same]
        exact before.1
      · rw [line_other s l same]
        exact before.2
    | broadcast key target frame => exact before
    | close other code => trivial
    | shut other => trivial
  accepted other := by
    by_cases same : other = c
    · rw [same, line_self, accepted]
      exact fun post none => absurd none List.not_mem_nil
    · rw [line_other s l same]
      exact wired.accepted other
  refused other gap := by
    by_cases same : other = c
    · subst same
      rw [line_self] at gap ⊢
      exact refused gap
    · rw [line_other s l same] at gap ⊢
      exact wired.refused other gap
  rooms other key member := by
    obtain ⟨met, listed, own⟩ := wired.rooms other key member
    have same : other ≠ c := by
      rintro rfl
      rw [Handler.here_known met] at unknown
      cases unknown
    rw [line_other s l same]
    exact ⟨met, listed, own⟩

theorem Wired.join (wired : s.Wired) (here : (s.line c).handler.here = true) :
    { s with hub := s.hub.join c [userKey (s.line c).userID, shopKey (s.line c).shopID] }.Wired where
  lines := wired.lines
  strangers := wired.strangers
  addressed t call pending := by
    have before := wired.addressed t call pending
    cases call <;> exact before
  accepted := wired.accepted
  refused := wired.refused
  rooms other key member := by
    rcases Hub.mem_join.mp member with before | ⟨rfl, among, named⟩
    · obtain ⟨met, listed, own⟩ := wired.rooms other key before
      refine ⟨met, ?_, own⟩
      by_cases same : other = c
      · subst same
        show key ∈ (s.hub.join other _).keys other
        rw [Hub.join_keys]
        exact List.mem_append_left _ listed
      · show key ∈ (s.hub.join c _).keys other
        rw [Hub.join_keys_other _ _ same]
        exact listed
    · refine ⟨here, ?_, ⟨by simpa using among, named⟩⟩
      show key ∈ (s.hub.join other _).keys other
      rw [Hub.join_keys]
      exact List.mem_append_right _ (List.mem_filter.mpr ⟨among, by simpa using named⟩)

theorem Wired.leave (wired : s.Wired) (c : Nat) : { s with hub := s.hub.leave c }.Wired where
  lines := wired.lines
  strangers := wired.strangers
  addressed t call pending := by
    have before := wired.addressed t call pending
    cases call <;> exact before
  accepted := wired.accepted
  refused := wired.refused
  rooms other key member := by
    obtain ⟨stays, away⟩ := Hub.mem_leave.mp member
    obtain ⟨met, listed, own⟩ := wired.rooms other key stays
    have same : other ≠ c := fun same => away ⟨same, same ▸ listed⟩
    refine ⟨met, ?_, own⟩
    show key ∈ Function.update s.hub.keys c [] other
    rw [Function.update_of_ne same]
    exact listed

theorem Wired.absent (wired : s.Wired) (away : (s.line c).handler.here = false) (key : String) : c ∉ s.hub.rooms key := by
  intro member
  rw [(wired.rooms c key member).1] at away
  cases away

theorem Wired.send (wired : s.Wired) {t : Thread} {rest : List ConnCall} (pending : s.calls t = .send c post :: rest) (drop : Bool) :
    (s.send t rest c post drop).Wired := by
  have ahead : ∀ call ∈ s.calls t, call.Addressed s := wired.addressed t
  rw [pending] at ahead
  obtain ⟨known, due⟩ := ahead _ List.mem_cons_self
  have later : ∀ call ∈ rest, call.Addressed s := fun call among => ahead call (List.mem_cons_of_mem _ among)
  have keeps : ∀ other code, .close other code ∈ s.calls t → .close other code ∈ rest ∨ (s.line other).done = true := by
    intro other code among
    rw [pending] at among
    exact Or.inl ((List.mem_cons.mp among).resolve_left fun same => by cases same)
  have here : ∀ key, c ∈ s.hub.rooms key → (s.line c).handler.here = true := fun key member => (wired.rooms c key member).1
  have strange : ∀ {p : Prop}, (s.line c).handler.known = false → p := by
    intro p unknown
    rw [known] at unknown
    cases unknown
  unfold Server.send
  dsimp only
  split
  · exact wired.recall later keeps
  · split
    · have asked : (s.setCalls t (.close c statusPolicyViolation :: rest)).Wired := by
        refine wired.recall (fun call among => ?_) fun other code among => ?_
        · rcases List.mem_cons.mp among with rfl | among
          · trivial
          · exact later call among
        · exact (keeps other code among).imp_left (List.mem_cons_of_mem _)
      refine asked.touch (l := (s.line c).refuse post) (wired.lines c).refuse rfl rfl rfl
        here strange (wired.accepted c) fun _ => Or.inr ⟨t, statusPolicyViolation, ?_⟩
      rw [calls_self]
      exact List.mem_cons_self
    · rename_i room
      have queued : (s.setLine c ((s.line c).enqueue post)).Wired := by
        refine wired.touch ((wired.lines c).enqueue (Nat.lt_of_not_le room)) rfl rfl rfl here strange (fun p among => ?_) (wired.refused c)
        rcases List.mem_append.mp among with before | last
        · exact wired.accepted c p before
        · rw [List.mem_singleton.mp last]
          exact due
      refine queued.recall (fun call among => ?_) fun other code among => ?_
      · exact queued.addressed t call (by
          show call ∈ s.calls t
          rw [pending]
          exact List.mem_cons_of_mem _ among)
      · rcases keeps other code among with kept | done
        · exact Or.inl kept
        · refine Or.inr ?_
          by_cases same : other = c
          · subst same
            rw [line_self]
            exact done
          · rw [line_other s _ same]
            exact done

theorem Wired.broadcast (wired : s.Wired) {t : Thread} {key : String} {target : DirectTarget} {frame : ServerFrame} {rest : List ConnCall}
    (pending : s.calls t = .broadcast key target frame :: rest) {order : List Nat}
    (ranged : ∀ c, c ∈ order ↔ c ∈ s.hub.targets key t.conn) :
    (s.setCalls t (order.map (.send · ⟨.sides target, frame⟩) ++ rest)).Wired := by
  have ahead : ∀ call ∈ s.calls t, call.Addressed s := wired.addressed t
  rw [pending] at ahead
  have side := ahead _ List.mem_cons_self
  refine wired.recall (fun call among => ?_) fun other code among => ?_
  · rcases List.mem_append.mp among with new | later
    · obtain ⟨c, chosen, rfl⟩ := List.mem_map.mp new
      obtain ⟨met, _, own, named⟩ := wired.rooms c key (Hub.mem_targets.mp ((ranged c).mp chosen)).1
      refine ⟨Handler.here_known met, ?_⟩
      rcases side with rfl | rfl
      · rcases own with same | other
        · exact Or.inl (userKey_inj.mp same)
        · exact absurd other (userKey_ne _ _)
      · rcases own with other | same
        · exact absurd other.symm (userKey_ne _ _)
        · have same := shopKey_inj.mp same
          exact Or.inr ⟨same, fun none => named (Hub.shopKey_nameless.mpr (same.trans none))⟩
    · exact ahead call (List.mem_cons_of_mem _ later)
  · rw [pending] at among
    rcases List.mem_cons.mp among with same | later
    · cases same
    · exact Or.inl (List.mem_append_right _ later)

theorem Wired.close (wired : s.Wired) {t : Thread} {code : Nat} {rest : List ConnCall} (pending : s.calls t = .close c code :: rest) :
    (if (s.line c).done then s.setCalls t rest
      else (s.setLine c ((s.line c).close code)).setCalls t (.shut c :: rest)).Wired := by
  have ahead : ∀ call ∈ s.calls t, call.Addressed s := wired.addressed t
  rw [pending] at ahead
  by_cases done : (s.line c).done = true
  · rw [if_pos done]
    refine wired.recall (fun call among => ahead call (List.mem_cons_of_mem _ among)) fun other code' among => ?_
    rw [pending] at among
    rcases List.mem_cons.mp among with same | later
    · cases same
      exact Or.inr done
    · exact Or.inl later
  · rw [if_neg done]
    have marked : (s.setLine c ((s.line c).close code)).Wired := by
      exact wired.keep ((wired.lines c).close (by simpa using done) code) ⟨rfl, rfl, rfl, rfl, rfl, fun _ => rfl⟩
    have after : ∀ call ∈ s.calls t, call.Addressed (s.setLine c ((s.line c).close code)) := marked.addressed t
    rw [pending] at after
    refine marked.recall (fun call among => ?_) fun other code' among => ?_
    · rcases List.mem_cons.mp among with rfl | later
      · trivial
      · exact after call (List.mem_cons_of_mem _ later)
    · change .close other code' ∈ s.calls t at among
      rw [pending] at among
      rcases List.mem_cons.mp among with same | later
      · cases same
        exact Or.inr (by rw [line_self]; rfl)
      · exact Or.inl (List.mem_cons_of_mem _ later)

theorem Wired.shut (wired : s.Wired) {t : Thread} {rest : List ConnCall} (pending : s.calls t = .shut c :: rest) :
    ((s.setLine c { s.line c with closed := true }).setCalls t rest).Wired := by
  have shut : (s.setLine c { s.line c with closed := true }).Wired := by
    have sound := wired.lines c
    exact wired.keep ⟨sound.flow, sound.lost, sound.small, sound.once, sound.marked⟩ ⟨rfl, rfl, rfl, rfl, rfl, id⟩
  have after : ∀ call ∈ s.calls t, call.Addressed (s.setLine c { s.line c with closed := true }) := shut.addressed t
  rw [pending] at after
  refine shut.recall (fun call among => after call (List.mem_cons_of_mem _ among)) fun other code among => ?_
  change .close other code ∈ s.calls t at among
  rw [pending] at among
  rcases List.mem_cons.mp among with same | later
  · cases same
  · exact Or.inl later

theorem Wired.perform (wired : s.Wired) {t : Thread} {drop : Bool} {order : List Nat} (can : Can s (.next t drop order)) :
    (s.perform t drop order).Wired := by
  unfold Server.perform
  change match s.calls t with
    | [] => False
    | .send c _ :: _ => drop = true → (s.line c).done = true
    | .broadcast key _ _ :: _ => order.Nodup ∧ ∀ c, c ∈ order ↔ c ∈ s.hub.targets key t.conn
    | .close c _ :: _ => (s.line c).done = true → (s.line c).closed = true
    | .shut _ :: _ => True at can
  cases pending : s.calls t with
  | nil => exact wired
  | cons call rest =>
    rw [pending] at can
    cases call with
    | send c post => exact wired.send pending drop
    | broadcast key target frame => exact wired.broadcast pending can.2
    | close c code => exact wired.close pending
    | shut c => exact wired.shut pending

theorem addressed_answer (known : (s.line c).handler.known = true) (handled : Handled) :
    ∀ call ∈ answer c handled, call.Addressed s := by
  intro call among
  cases handled with
  | failed reason clientMsgID =>
    rw [List.mem_singleton.mp among]
    exact ⟨known, rfl⟩
  | stored target message clientMsgID =>
    rcases List.mem_cons.mp among with rfl | among
    · exact Or.inl rfl
    · rcases List.mem_cons.mp among with rfl | among
      · exact Or.inr rfl
      · rw [List.mem_singleton.mp among]
        exact ⟨known, rfl⟩

theorem Wired.act (wired : s.Wired) (m : Move) (can : Can s m) : (s.act m).Wired := by
  cases m with
  | accept c =>
    have unknown : (s.line c).handler.known = false := by rw [show (s.line c).handler = .absent from can]; rfl
    refine wired.renew unknown ⟨rfl, Or.inl rfl, Nat.zero_le _, Nat.zero_le _, ?_⟩ rfl fun gap => absurd rfl gap
    exact ⟨fun no => (Bool.false_ne_true no).elim, fun no => absurd rfl no⟩
  | authenticate c identity =>
    have unknown : (s.line c).handler.known = false := by rw [show (s.line c).handler = .authenticating from can]; rfl
    have sound := wired.lines c
    cases identity with
    | none =>
      have turned : (s.setLine c { s.line c with handler := .refused }).Wired :=
        wired.renew unknown ⟨sound.flow, sound.lost, sound.small, sound.once, sound.marked⟩ (wired.strangers c unknown) (wired.refused c)
      refine turned.go (.handler c) _ fun call among => ?_
      rw [List.mem_singleton.mp among]
      trivial
    | some identity =>
      exact wired.renew unknown ⟨sound.flow, sound.lost, sound.small, sound.once, sound.marked⟩ (wired.strangers c unknown) (wired.refused c)
  | join c =>
    have joining : (s.line c).handler = .joining := can
    have sound := wired.lines c
    have away : (s.line c).handler.here = false := by rw [joining]; rfl
    have greeting : (s.setLine c { s.line c with handler := .greeting }).Wired := by
      refine wired.touch ⟨sound.flow, sound.lost, sound.small, sound.once, sound.marked⟩ rfl rfl (by rw [joining]; rfl)
        (fun key member => absurd member (wired.absent away key)) (fun no => by cases no) (wired.accepted c) (wired.refused c)
    have asked := greeting.go (.handler c)
      [.send c ⟨.own c, { type := "ready", userID := (s.line c).userID, shopID := (s.line c).shopID }⟩] (by
        intro call among
        rw [List.mem_singleton.mp among]
        exact ⟨by rw [line_self]; rfl, rfl⟩)
    have line : (s.setLine c { s.line c with handler := .greeting }).line c = { s.line c with handler := .greeting } := line_self ..
    have joined := asked.join (c := c) (by
      show ((s.setLine c _).line c).handler.here = true
      rw [line]
      rfl)
    unfold Server.go Server.setCalls at joined
    rw [show (Server.line _ c) = _ from line] at joined
    exact joined
  | greeted c =>
    have sound := wired.lines c
    refine wired.touch ⟨sound.flow, sound.lost, sound.small, sound.once, sound.marked⟩ rfl rfl (by rw [can.1]; rfl) (fun _ _ => rfl)
      (fun no => by cases no) (wired.accepted c) (wired.refused c)
  | read c handled =>
    exact wired.go (.handler c) _ (addressed_answer (by rw [can.1]; rfl) handled)
  | hangUp c =>
    have sound := wired.lines c
    refine wired.touch ⟨sound.flow, sound.lost, sound.small, sound.once, sound.marked⟩ rfl rfl (by rw [can.1]; rfl) (fun _ _ => rfl)
      (fun no => by cases no) (wired.accepted c) (wired.refused c)
  | leave c =>
    have left := wired.leave c
    have leaving : (s.line c).handler = .leaving := can
    have sound := wired.lines c
    refine left.touch (l := { s.line c with handler := .cancelling })
      ⟨sound.flow, sound.lost, sound.small, sound.once, sound.marked⟩ rfl rfl ?_ (fun key member => ?_) (fun no => by cases no)
      (wired.accepted c) (wired.refused c)
    · show true = (s.line c).handler.known
      rw [leaving]
      rfl
    · obtain ⟨stays, away⟩ := Hub.mem_leave.mp member
      exact absurd ⟨rfl, (wired.rooms c key stays).2.1⟩ away
  | cancel c =>
    have sound := wired.lines c
    have away : (s.line c).handler.here = false := by
      rcases can with cancelling | ⟨refused, _⟩
      · rw [cancelling]
        rfl
      · rw [refused]
        rfl
    have known : (if (s.line c).handler = .refused then Handler.turnedAway else .gone).known = (s.line c).handler.known := by
      rcases can with cancelling | ⟨refused, _⟩
      · rw [cancelling]
        rfl
      · rw [refused]
        rfl
    refine wired.touch ⟨sound.flow, sound.lost, sound.small, sound.once, sound.marked⟩ rfl rfl known
      (fun key member => absurd member (wired.absent away key)) (fun unknown => wired.strangers c (known ▸ unknown))
      (wired.accepted c) (wired.refused c)
  | next t drop order => exact wired.perform can
  | take c => exact wired.keep ((wired.lines c).take can.1) (take_kept _)
  | wrote c ok =>
    have written : (s.setLine c ((s.line c).wrote ok)).Wired := wired.keep ((wired.lines c).wrote ok) (wrote_kept _ _)
    show (if ok = true then _ else _ : Server).Wired
    split
    · exact written
    · refine written.go (.writeLoop c) _ fun call among => ?_
      rw [List.mem_singleton.mp among]
      trivial
  | pinged c ok =>
    show (if ok = true then _ else _ : Server).Wired
    split
    · exact wired
    · have sound := wired.lines c
      have stopped : (s.setLine c { s.line c with pingLoop := .ended }).Wired :=
        wired.keep ⟨sound.flow, sound.lost, sound.small, sound.once, sound.marked⟩ ⟨rfl, rfl, rfl, rfl, rfl, id⟩
      refine stopped.go (.pingLoop c) _ fun call among => ?_
      rw [List.mem_singleton.mp among]
      trivial
  | quitWriting c => exact wired.keep ((wired.lines c).stop can.1) ⟨rfl, rfl, rfl, rfl, rfl, id⟩
  | quitPinging c =>
    have sound := wired.lines c
    exact wired.keep ⟨sound.flow, sound.lost, sound.small, sound.once, sound.marked⟩ ⟨rfl, rfl, rfl, rfl, rfl, id⟩

end Server

end

end Marketplace.Chat
