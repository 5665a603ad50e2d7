import Marketplace.Chat.DirectStore
import Marketplace.Machine

/-!
`lib/chat/socket.ts`: the one connection of the direct chat, its reconnect timer and its handlers, against a browser that
delivers what happens to each WebSocket when it likes.
-/
namespace Marketplace.Chat.DirectSocket
open DirectStore (Frame SocketStatus)

inductive ReadyState where
  | CONNECTING | OPEN | CLOSING | CLOSED
deriving DecidableEq

inductive ClientFrame where
  | auth (token : String)
  | send (conversationId shopId text clientMsgId : Option String)
deriving DecidableEq

inductive ServerFrame where
  | ready
  | other (frame : Frame)
deriving DecidableEq

/-- A WebSocket of the browser. `token` is what its `onopen` sends, `onclose` whether that handler is still there, and `closed`
whether its close event has been. -/
structure WebSocket where
  token : String
  readyState : ReadyState
  onclose : Bool
  closed : Bool
  sent : List ClientFrame
deriving DecidableEq

/-- `ws.close()` -/
def WebSocket.close (w : WebSocket) : WebSocket :=
  if w.readyState = .OPEN ∨ w.readyState = .CONNECTING then { w with readyState := .CLOSING } else w

/-- What waits for `silentRefresh`. -/
inductive Await where
  | initialRefresh (next : Nat)
  | unauthorized
deriving DecidableEq

inductive Call where
  | onStatus (status : SocketStatus)
  | onFrame (frame : ServerFrame)
deriving DecidableEq

/-- The handlers object that was called. `subscribed` only records, for the specification, the one that was given to the last
`connectDirectChat` of the page, none after a `disconnectDirectChat`. -/
structure Called where
  handlers : Nat
  call : Call
  subscribed : Option Nat
deriving DecidableEq

/-- The variables of the module, the access token, and what the browser holds: the sockets, the timers that are pending and the
continuations. -/
structure State where
  socket : Option Nat
  reconnectTimer : Option Nat
  attempt : Nat
  refreshedForThisSession : Bool
  closedOnPurpose : Bool
  handlers : Option Nat
  accessToken : Option String
  sockets : Nat → Option WebSocket
  created : Nat
  timers : List Nat
  timersSet : Nat
  awaits : List Await
  subscribed : Option Nat
  calls : List Called

def initial (accessToken : Option String) : State where
  socket := none
  reconnectTimer := none
  attempt := 0
  refreshedForThisSession := false
  closedOnPurpose := false
  handlers := none
  accessToken := accessToken
  sockets _ := none
  created := 0
  timers := []
  timersSet := 0
  awaits := []
  subscribed := none
  calls := []

def WS_CLOSE_UNAUTHORIZED : Nat := 4401

namespace State

/-- The socket is `CONNECTING` or `OPEN`. -/
def Live (s : State) (ws : Nat) : Prop :=
  ∃ w, s.sockets ws = some w ∧ (w.readyState = .OPEN ∨ w.readyState = .CONNECTING)

/-- Whether the current socket is connecting or open. -/
def connected (s : State) : Bool :=
  match s.socket.bind s.sockets with
  | none => false
  | some w => w.readyState = .OPEN || w.readyState = .CONNECTING

def call (s : State) (handlers : Nat) (call : Call) : State :=
  { s with calls := s.calls ++ [⟨handlers, call, s.subscribed⟩] }

/-- `handlers?.…` -/
def callHandlers (s : State) (call : Call) : State :=
  match s.handlers with
  | none => s
  | some handlers => s.call handlers call

def clearTimer (s : State) : State :=
  match s.reconnectTimer with
  | none => s
  | some timer => { s with timers := s.timers.erase timer, reconnectTimer := none }

/-- `new WebSocket`. -/
def openSocket (s : State) (token : String) : State :=
  { s with
    socket := some s.created
    sockets := Function.update s.sockets s.created (some ⟨token, .CONNECTING, true, false, []⟩)
    created := s.created + 1 }

def install (s : State) (next : Nat) : State := { s with handlers := some next, closedOnPurpose := false }

/-- What `connectDirectChat` does once the handlers are in place. -/
def ensureSocket (s : State) (next : Nat) : State :=
  if s.connected then s
  else match s.accessToken.filter (· ≠ "") with
    | none => { s.call next (.onStatus .connecting) with awaits := s.awaits ++ [.initialRefresh next] }
    | some token => (s.call next (.onStatus (if s.attempt = 0 then .connecting else .reconnecting))).openSocket token

def connectDirectChat (s : State) (next : Nat) : State := (s.install next).ensureSocket next

def setTimer (s : State) : State :=
  { s with
    timers := s.timers ++ [s.timersSet]
    reconnectTimer := some s.timersSet
    timersSet := s.timersSet + 1 }

def scheduleReconnect (s : State) : State :=
  match s.handlers with
  | none => s
  | some handlers =>
    if s.closedOnPurpose then s
    else State.setTimer { s.clearTimer.call handlers (.onStatus .reconnecting) with attempt := s.attempt + 1 }

def handleUnauthorized (s : State) : State :=
  if s.refreshedForThisSession then s.callHandlers (.onStatus .unauthorized)
  else { s with refreshedForThisSession := true, awaits := s.awaits ++ [.unauthorized] }

/-- What follows `await silentRefresh()`. -/
def resume (s : State) (refreshed : Bool) : Await → State
  | .initialRefresh next =>
    if s.handlers ≠ some next then s
    else if !refreshed then s.call next (.onStatus .unauthorized)
    else s.connectDirectChat next
  | .unauthorized =>
    match s.handlers with
    | none => s
    | some handlers =>
      if !refreshed then s.call handlers (.onStatus .unauthorized)
      else { s with attempt := 0 }.connectDirectChat handlers

def putSocket (s : State) (ws : Nat) (w : WebSocket) : State :=
  { s with sockets := Function.update s.sockets ws (some w) }

def onmessage (s : State) : ServerFrame → State
  | .ready =>
    (State.callHandlers { s with attempt := 0, refreshedForThisSession := false } (.onStatus .ready)).callHandlers (.onFrame .ready)
  | frame => s.callHandlers (.onFrame frame)

def dropSocket (s : State) : State := { s with socket := none }

/-- The `onclose` of any socket, which does not ask whether the socket is still the current one. -/
def onclose (s : State) (code : Nat) : State :=
  if s.closedOnPurpose then s.dropSocket
  else if code = WS_CLOSE_UNAUTHORIZED then s.dropSocket.handleUnauthorized
  else s.dropSocket.scheduleReconnect

def closeSocket (s : State) : State :=
  match s.socket with
  | none => s
  | some ws =>
    match s.sockets ws with
    | none => s.dropSocket
    | some w => (s.putSocket ws { w.close with onclose := false }).dropSocket

def disconnectDirectChat (s : State) : State :=
  State.closeSocket { s.clearTimer with
    closedOnPurpose := true
    attempt := 0
    refreshedForThisSession := false
    handlers := none }

def fireTimer (s : State) (id : Nat) : State := { s with timers := s.timers.erase id, reconnectTimer := none }

/-- Whether the frame was sent, and the socket it was sent on. -/
def sendDirectFrame (s : State) (frame : ClientFrame) : Bool × State :=
  match s.socket with
  | none => (false, s)
  | some ws =>
    match s.sockets ws with
    | none => (false, s)
    | some w => if w.readyState = .OPEN then (true, s.putSocket ws { w with sent := w.sent ++ [frame] }) else (false, s)

end State

/-- Calls of the page, then what the browser delivers. -/
inductive Move where
  | connect (next : Nat)
  | disconnect
  | send (frame : ClientFrame)
  | setAccessToken (accessToken : Option String)
  | timer (id : Nat)
  /-- The `i`-th continuation that waits for `silentRefresh` runs. -/
  | refreshed (i : Nat) (refreshed : Bool)
  | opened (ws : Nat)
  /-- A message that is no JSON brings no frame. -/
  | message (ws : Nat) (frame : Option ServerFrame)
  /-- The closing handshake is started. -/
  | closing (ws : Nat)
  | error (ws : Nat)
  | close (ws : Nat) (code : Nat)
deriving DecidableEq

def act (s : State) : Move → State
  | .connect next => State.connectDirectChat { s with subscribed := some next } next
  | .disconnect => State.disconnectDirectChat { s with subscribed := none }
  | .send frame => (s.sendDirectFrame frame).2
  | .setAccessToken accessToken => { s with accessToken }
  | .timer id =>
    if id ∈ s.timers then
      match s.handlers with
      | none => s.fireTimer id
      | some handlers => (s.fireTimer id).connectDirectChat handlers
    else s
  | .refreshed i refreshed =>
    match s.awaits[i]? with
    | none => s
    | some await => State.resume { s with awaits := s.awaits.eraseIdx i } refreshed await
  | .opened ws =>
    match s.sockets ws with
    | none => s
    | some w =>
      if w.readyState = .CONNECTING then s.putSocket ws { w with readyState := .OPEN, sent := w.sent ++ [.auth w.token] }
      else s
  | .message ws frame =>
    match s.sockets ws with
    | none => s
    | some w =>
      match frame with
      | none => s
      | some frame => if w.readyState = .OPEN then s.onmessage frame else s
  | .closing ws =>
    match s.sockets ws with
    | none => s
    | some w => if w.readyState = .OPEN then s.putSocket ws { w with readyState := .CLOSING } else s
  | .error ws =>
    match s.sockets ws with
    | none => s
    | some w => s.putSocket ws { w with readyState := .CLOSED }
  | .close ws code =>
    match s.sockets ws with
    | none => s
    | some w =>
      if w.closed then s
      else if w.onclose then (s.putSocket ws { w with readyState := .CLOSED, closed := true }).onclose code
      else s.putSocket ws { w with readyState := .CLOSED, closed := true }

/-! ### What every step keeps -/

namespace State
variable {s : State}

/-- A pending timer is the one that the module knows, and only the handlers of the page are called. -/
structure Sound (s : State) : Prop where
  fresh : ∀ ws, s.created ≤ ws → s.sockets ws = none
  timers : s.timers = s.reconnectTimer.toList
  subscribed : s.handlers = s.subscribed
  calls : ∀ c ∈ s.calls, c.subscribed = some c.handlers

theorem Sound.call (sound : s.Sound) {handlers : Nat} (subscribed : s.subscribed = some handlers) (call : Call) :
    (s.call handlers call).Sound where
  fresh := sound.fresh
  timers := sound.timers
  subscribed := sound.subscribed
  calls c among := by
    rcases List.mem_append.mp among with earlier | own
    · exact sound.calls c earlier
    · rw [List.mem_singleton.mp own]
      exact subscribed

theorem Sound.callHandlers (sound : s.Sound) (call : Call) : (s.callHandlers call).Sound := by
  unfold State.callHandlers
  split
  · exact sound
  · rename_i handlers found
    exact sound.call (sound.subscribed.symm.trans found) call

theorem clearTimer_timers (sound : s.Sound) : s.clearTimer.timers = [] ∧ s.clearTimer.reconnectTimer = none := by
  have timers := sound.timers
  unfold clearTimer
  split
  · rename_i unset
    rw [unset] at timers
    exact ⟨timers, unset⟩
  · rename_i timer set
    rw [set] at timers
    refine ⟨?_, rfl⟩
    show s.timers.erase timer = []
    rw [timers]
    exact List.erase_cons_head ..

theorem clearTimer_rest (s : State) : s.clearTimer.sockets = s.sockets ∧ s.clearTimer.created = s.created ∧
    s.clearTimer.socket = s.socket ∧ s.clearTimer.handlers = s.handlers ∧ s.clearTimer.subscribed = s.subscribed ∧
      s.clearTimer.calls = s.calls := by
  unfold clearTimer
  split <;> exact ⟨rfl, rfl, rfl, rfl, rfl, rfl⟩

theorem Sound.clearTimer (sound : s.Sound) : s.clearTimer.Sound := by
  obtain ⟨timers, unset⟩ := clearTimer_timers sound
  obtain ⟨sockets, created, -, handlers, subscribed, calls⟩ := s.clearTimer_rest
  refine ⟨?_, ?_, ?_, ?_⟩
  · rw [sockets, created]
    exact sound.fresh
  · rw [timers, unset]
    rfl
  · rw [handlers, subscribed]
    exact sound.subscribed
  · rw [calls]
    exact sound.calls

theorem Sound.openSocket (sound : s.Sound) (token : String) : (s.openSocket token).Sound where
  fresh ws above := by
    have above : s.created + 1 ≤ ws := above
    show Function.update s.sockets s.created _ ws = none
    rw [Function.update_of_ne (by omega)]
    exact sound.fresh ws (by omega)
  timers := sound.timers
  subscribed := sound.subscribed
  calls := sound.calls

theorem Sound.putSocket (sound : s.Sound) {ws : Nat} {w : WebSocket} (found : s.sockets ws = some w) (after : WebSocket) :
    (s.putSocket ws after).Sound where
  fresh other above := by
    have ne : other ≠ ws := by
      rintro rfl
      rw [sound.fresh other above] at found
      cases found
    show Function.update s.sockets ws _ other = none
    rw [Function.update_of_ne ne]
    exact sound.fresh other above
  timers := sound.timers
  subscribed := sound.subscribed
  calls := sound.calls

theorem Sound.connectDirectChat (sound : s.Sound) {next : Nat} (subscribed : s.subscribed = some next) :
    (s.connectDirectChat next).Sound := by
  have installed : (s.install next).Sound := ⟨sound.fresh, sound.timers, subscribed.symm, sound.calls⟩
  unfold State.connectDirectChat ensureSocket
  split
  · exact installed
  · split
    · have called := installed.call subscribed (.onStatus .connecting)
      exact ⟨called.fresh, called.timers, called.subscribed, called.calls⟩
    · exact (installed.call subscribed _).openSocket _

theorem Sound.scheduleReconnect (sound : s.Sound) : s.scheduleReconnect.Sound := by
  unfold State.scheduleReconnect
  split
  · exact sound
  · rename_i handlers found
    split
    · exact sound
    · obtain ⟨timers, -⟩ := clearTimer_timers sound
      have subscribed : s.clearTimer.subscribed = some handlers :=
        s.clearTimer_rest.2.2.2.2.1.trans (sound.subscribed.symm.trans found)
      have called := sound.clearTimer.call subscribed (.onStatus .reconnecting)
      refine ⟨called.fresh, ?_, called.subscribed, called.calls⟩
      show s.clearTimer.timers ++ [s.clearTimer.timersSet] = [s.clearTimer.timersSet]
      rw [timers]
      rfl

theorem Sound.dropSocket (sound : s.Sound) : s.dropSocket.Sound :=
  ⟨sound.fresh, sound.timers, sound.subscribed, sound.calls⟩

theorem Sound.onclose (sound : s.Sound) (code : Nat) : (s.onclose code).Sound := by
  unfold State.onclose
  split
  · exact sound.dropSocket
  · split
    · unfold handleUnauthorized
      split
      · exact sound.dropSocket.callHandlers _
      · exact ⟨sound.fresh, sound.timers, sound.subscribed, sound.calls⟩
    · exact sound.dropSocket.scheduleReconnect

theorem Sound.closeSocket (sound : s.Sound) : s.closeSocket.Sound := by
  unfold State.closeSocket
  split
  · exact sound
  · split
    · exact sound.dropSocket
    · rename_i w found
      exact (sound.putSocket found _).dropSocket

theorem Sound.onmessage (sound : s.Sound) (frame : ServerFrame) : (s.onmessage frame).Sound := by
  cases frame with
  | ready =>
    have reset : State.Sound { s with attempt := 0, refreshedForThisSession := false } :=
      ⟨sound.fresh, sound.timers, sound.subscribed, sound.calls⟩
    exact (reset.callHandlers _).callHandlers _
  | other frame => exact sound.callHandlers _

theorem Sound.resume (sound : s.Sound) (refreshed : Bool) (await : Await) : (s.resume refreshed await).Sound := by
  unfold State.resume
  split
  · rename_i next
    split
    · exact sound
    · rename_i same
      have subscribed : s.subscribed = some next := sound.subscribed.symm.trans (not_not.mp same)
      split
      · exact sound.call subscribed _
      · exact sound.connectDirectChat subscribed
  · split
    · exact sound
    · rename_i handlers found
      have subscribed : s.subscribed = some handlers := sound.subscribed.symm.trans found
      split
      · exact sound.call subscribed _
      · have reset : State.Sound { s with attempt := 0 } := ⟨sound.fresh, sound.timers, sound.subscribed, sound.calls⟩
        exact reset.connectDirectChat subscribed

theorem Sound.disconnectDirectChat (sound : s.Sound) :
    (State.disconnectDirectChat { s with subscribed := none }).Sound := by
  have cleared := sound.clearTimer
  have apart : State.clearTimer { s with subscribed := none } = { s.clearTimer with subscribed := none } := by
    cases known : s.reconnectTimer <;> simp only [State.clearTimer, known]
  unfold State.disconnectDirectChat
  rw [apart]
  exact Sound.closeSocket ⟨cleared.fresh, cleared.timers, rfl, cleared.calls⟩

theorem Sound.fireTimer (sound : s.Sound) {id : Nat} (pending : id ∈ s.timers) : (s.fireTimer id).Sound where
  fresh := sound.fresh
  timers := by
    have timers := sound.timers
    cases known : s.reconnectTimer with
    | none =>
      rw [known] at timers
      rw [timers] at pending
      cases pending
    | some timer =>
      rw [known] at timers
      rw [timers] at pending
      obtain rfl := List.mem_singleton.mp pending
      show s.timers.erase id = []
      rw [timers]
      exact List.erase_cons_head ..
  subscribed := sound.subscribed
  calls := sound.calls

end State

theorem act_sound {s : State} (sound : s.Sound) (m : Move) : (act s m).Sound := by
  cases m with
  | connect next =>
    have given : State.Sound { s with handlers := some next, subscribed := some next } :=
      ⟨sound.fresh, sound.timers, rfl, sound.calls⟩
    exact given.connectDirectChat rfl
  | disconnect => exact sound.disconnectDirectChat
  | send frame =>
    rw [act, State.sendDirectFrame]
    split
    · exact sound
    · split
      · exact sound
      · rename_i w found
        split
        · exact sound.putSocket found _
        · exact sound
  | setAccessToken accessToken => exact ⟨sound.fresh, sound.timers, sound.subscribed, sound.calls⟩
  | timer id =>
    rw [act]
    split
    · rename_i pending
      split
      · exact sound.fireTimer pending
      · rename_i handlers found
        exact (sound.fireTimer pending).connectDirectChat (sound.subscribed.symm.trans found)
    · exact sound
  | refreshed i refreshed =>
    rw [act]
    split
    · exact sound
    · have resumed : State.Sound { s with awaits := s.awaits.eraseIdx i } :=
        ⟨sound.fresh, sound.timers, sound.subscribed, sound.calls⟩
      exact resumed.resume refreshed _
  | opened ws =>
    rw [act]
    split
    · exact sound
    · rename_i w found
      split
      · exact sound.putSocket found _
      · exact sound
  | message ws frame =>
    rw [act]
    split
    · exact sound
    · split
      · exact sound
      · split
        · exact sound.onmessage _
        · exact sound
  | closing ws =>
    rw [act]
    split
    · exact sound
    · rename_i w found
      split
      · exact sound.putSocket found _
      · exact sound
  | error ws =>
    rw [act]
    split
    · exact sound
    · rename_i w found
      exact sound.putSocket found _
  | close ws code =>
    rw [act]
    split
    · exact sound
    · rename_i w found
      split
      · exact sound
      · split
        · exact (sound.putSocket found _).onclose code
        · exact sound.putSocket found _

/-! ### One live socket -/

namespace State
variable {s : State}

/-- A socket that is connecting or open is the current one. -/
def Single (s : State) : Prop := ∀ ws, s.Live ws → s.socket = some ws

theorem connected_iff : s.connected = true ↔ ∃ ws, s.socket = some ws ∧ s.Live ws := by
  unfold connected
  constructor
  · intro live
    split at live
    · cases live
    · rename_i w found
      obtain ⟨ws, current, there⟩ := Option.bind_eq_some_iff.mp found
      exact ⟨ws, current, w, there, by simpa using live⟩
  · rintro ⟨ws, current, w, there, live⟩
    rw [current, Option.bind_some, there]
    simpa using live

theorem live_congr {t : State} (sockets : t.sockets = s.sockets) (ws : Nat) : t.Live ws ↔ s.Live ws := by
  rw [Live, Live, sockets]

theorem live_putSocket {ws other : Nat} {w : WebSocket} (ne : other ≠ ws) : (s.putSocket ws w).Live other ↔ s.Live other := by
  simp only [Live, putSocket, Function.update_of_ne ne]

theorem live_putSocket_self {ws : Nat} {w : WebSocket} :
    (s.putSocket ws w).Live ws ↔ w.readyState = .OPEN ∨ w.readyState = .CONNECTING := by
  simp only [Live, putSocket, Function.update_self, Option.some.injEq, exists_eq_left']

/-- A socket that is not brought to life leaves the others as they are. -/
theorem Single.putSocket (single : s.Single) {ws : Nat} {w : WebSocket}
    (live : w.readyState = .OPEN ∨ w.readyState = .CONNECTING → s.Live ws) : (s.putSocket ws w).Single := by
  intro other alive
  by_cases same : other = ws
  · subst same
    exact single other (live (live_putSocket_self.mp alive))
  · exact single other ((live_putSocket same).mp alive)

theorem Single.connectDirectChat (single : s.Single) (next : Nat) : (s.connectDirectChat next).Single := by
  unfold State.connectDirectChat ensureSocket
  split
  · exact single
  · rename_i idle
    have none_live : ∀ ws, ¬s.Live ws := fun ws live => idle (connected_iff.mpr ⟨ws, single ws live, live⟩)
    split
    · exact single
    · intro ws live
      by_cases same : ws = s.created
      · rw [same]
        rfl
      · have before : s.Live ws := by
          obtain ⟨w, found, state⟩ := live
          have found : Function.update s.sockets s.created _ ws = some w := found
          rw [Function.update_of_ne same] at found
          exact ⟨w, found, state⟩
        exact absurd before (none_live ws)

theorem callHandlers_sockets (call : Call) :
    (s.callHandlers call).sockets = s.sockets ∧ (s.callHandlers call).socket = s.socket := by
  unfold callHandlers
  split <;> exact ⟨rfl, rfl⟩

theorem scheduleReconnect_sockets : s.scheduleReconnect.sockets = s.sockets ∧ s.scheduleReconnect.socket = s.socket := by
  obtain ⟨sockets, -, socket, -⟩ := s.clearTimer_rest
  unfold scheduleReconnect
  split
  · exact ⟨rfl, rfl⟩
  · split
    · exact ⟨rfl, rfl⟩
    · exact ⟨sockets, socket⟩

theorem onclose_sockets (code : Nat) : (s.onclose code).sockets = s.sockets ∧ (s.onclose code).socket = none := by
  unfold onclose
  split
  · exact ⟨rfl, rfl⟩
  · split
    · unfold handleUnauthorized
      split
      · exact callHandlers_sockets _
      · exact ⟨rfl, rfl⟩
    · exact scheduleReconnect_sockets

/-- A close handler forgets the current socket, whichever it is. -/
theorem single_onclose (code : Nat) : (s.onclose code).Single ↔ ∀ ws, ¬s.Live ws := by
  obtain ⟨sockets, socket⟩ := onclose_sockets (s := s) code
  constructor
  · intro single ws live
    have current := single ws ((live_congr sockets ws).mpr live)
    rw [socket] at current
    cases current
  · exact fun dead ws live => absurd ((live_congr sockets ws).mp live) (dead ws)

theorem Single.onmessage (single : s.Single) (frame : ServerFrame) : (s.onmessage frame).Single := by
  have same : (s.onmessage frame).sockets = s.sockets ∧ (s.onmessage frame).socket = s.socket := by
    cases frame with
    | ready =>
      rw [State.onmessage, (callHandlers_sockets _).1, (callHandlers_sockets _).2, (callHandlers_sockets _).1,
        (callHandlers_sockets _).2]
      exact ⟨rfl, rfl⟩
    | other frame => exact callHandlers_sockets _
  intro ws live
  rw [same.2]
  exact single ws ((live_congr same.1 ws).mp live)

theorem Single.resume (single : s.Single) (refreshed : Bool) (await : Await) : (s.resume refreshed await).Single := by
  unfold State.resume
  split
  · split
    · exact single
    · split
      · exact single
      · exact single.connectDirectChat _
  · split
    · exact single
    · split
      · exact single
      · have reset : State.Single { s with attempt := 0 } := single
        exact reset.connectDirectChat _

theorem close_not_live (w : WebSocket) : ¬(w.close.readyState = .OPEN ∨ w.close.readyState = .CONNECTING) := by
  unfold WebSocket.close
  split
  · exact nofun
  · assumption

theorem Single.closeSocket (single : s.Single) : s.closeSocket.Single := by
  intro other live
  unfold State.closeSocket at live
  split at live
  · rename_i none_current
    rw [single other live] at none_current
    cases none_current
  · rename_i ws current
    have only : ∀ other, s.Live other → other = ws := by
      intro other live
      have same := single other live
      rw [current] at same
      exact (Option.some.inj same).symm
    split at live
    · rename_i absent
      obtain ⟨w, found, -⟩ := id live
      rw [only other live] at found
      cases absent.symm.trans found
    · rename_i w found
      have live : (s.putSocket ws { w.close with onclose := false }).Live other := live
      by_cases same : other = ws
      · subst same
        exact absurd (live_putSocket_self.mp live) (close_not_live w)
      · exact absurd (only other ((live_putSocket same).mp live)) same

theorem Single.disconnectDirectChat (single : s.Single) : s.disconnectDirectChat.Single := by
  obtain ⟨sockets, -, socket, -⟩ := s.clearTimer_rest
  have cleared : s.clearTimer.Single := by
    intro ws live
    rw [socket]
    exact single ws ((live_congr sockets ws).mp live)
  exact Single.closeSocket cleared

end State

/-- No close handler runs while another socket is connecting or open. -/
def NoStaleClose (s : State) : Move → Prop
  | .close ws _ => ∀ w, s.sockets ws = some w → w.closed = false → w.onclose = true → ∀ other, other ≠ ws → ¬s.Live other
  | _ => True

theorem single_close {s : State} (single : s.Single) (ws code : Nat) :
    (act s (.close ws code)).Single ↔ NoStaleClose s (.close ws code) := by
  rw [act]
  split
  · rename_i absent
    exact iff_of_true single fun w found => by rw [absent] at found; cases found
  · rename_i w found
    have put : ∀ w', w'.readyState = .CLOSED → (s.putSocket ws w').Single ∧ ¬(s.putSocket ws w').Live ws := by
      intro w' closed
      refine ⟨single.putSocket (by rw [closed]; exact nofun), ?_⟩
      rw [State.live_putSocket_self, closed]
      exact nofun
    split
    · rename_i already
      refine iff_of_true single fun x other fresh => ?_
      obtain rfl := Option.some.inj (found.symm.trans other)
      rw [already] at fresh
      cases fresh
    · rename_i fresh
      split
      · rename_i attached
        rw [State.single_onclose]
        constructor
        · intro dead x _ _ _ other ne live
          exact dead other ((State.live_putSocket ne).mpr live)
        · intro alone other live
          by_cases same : other = ws
          · rw [same] at live
            exact (put _ rfl).2 live
          · exact alone w found (Bool.eq_false_iff.mpr fresh) attached other same ((State.live_putSocket same).mp live)
      · rename_i detached
        refine iff_of_true (put _ rfl).1 fun x other _ attached => ?_
        obtain rfl := Option.some.inj (found.symm.trans other)
        exact absurd attached detached

theorem single_act {s : State} (single : s.Single) (m : Move) : (act s m).Single ↔ NoStaleClose s m := by
  cases m with
  | close ws code => exact single_close single ws code
  | connect next =>
    have single : State.Single { s with handlers := some next, subscribed := some next } := single
    exact iff_of_true (single.connectDirectChat next) trivial
  | disconnect =>
    have single : State.Single { s with subscribed := none } := single
    exact iff_of_true single.disconnectDirectChat trivial
  | send frame =>
    refine iff_of_true ?_ trivial
    rw [act, State.sendDirectFrame]
    split
    · exact single
    · split
      · exact single
      · rename_i w found
        split
        · exact single.putSocket fun live => ⟨w, found, live⟩
        · exact single
  | setAccessToken accessToken => exact iff_of_true single trivial
  | timer id =>
    refine iff_of_true ?_ trivial
    rw [act]
    split
    · have fired : (s.fireTimer id).Single := single
      split
      · exact fired
      · exact fired.connectDirectChat _
    · exact single
  | refreshed i refreshed =>
    refine iff_of_true ?_ trivial
    rw [act]
    split
    · exact single
    · have single : State.Single { s with awaits := s.awaits.eraseIdx i } := single
      exact single.resume refreshed _
  | opened ws =>
    refine iff_of_true ?_ trivial
    rw [act]
    split
    · exact single
    · rename_i w found
      split
      · rename_i connecting
        exact single.putSocket fun _ => ⟨w, found, .inr connecting⟩
      · exact single
  | message ws frame =>
    refine iff_of_true ?_ trivial
    rw [act]
    split
    · exact single
    · split
      · exact single
      · split
        · exact single.onmessage _
        · exact single
  | closing ws =>
    refine iff_of_true ?_ trivial
    rw [act]
    split
    · exact single
    · split
      · exact single.putSocket nofun
      · exact single
  | error ws =>
    refine iff_of_true ?_ trivial
    rw [act]
    split
    · exact single
    · exact single.putSocket nofun

/-- What the module promises: one socket, which is the current one, one timer, and no call of handlers that the page has taken
back. -/
structure Right (s : State) : Prop where
  single : s.Single
  timer : s.timers.length ≤ 1
  calls : ∀ c ∈ s.calls, c.subscribed = some c.handlers

theorem right_iff_single {s : State} (sound : s.Sound) : Right s ↔ s.Single := by
  refine ⟨Right.single, fun single => ⟨single, ?_, sound.calls⟩⟩
  rw [sound.timers]
  exact Option.length_toList_le

theorem initial_sound (accessToken : Option String) : (initial accessToken).Sound :=
  ⟨fun _ _ => rfl, rfl, rfl, nofun⟩

theorem one_socket_iff (accessToken : Option String) (moves : List Move) :
    (∀ n, Right (Machine.run act (initial accessToken) (moves.take n))) ↔
      Machine.CanRun act NoStaleClose (initial accessToken) moves := by
  apply Machine.throughout_iff_canRun (I := State.Sound) (fun s m sound _ _ => act_sound sound m)
  · intro s m sound right
    rw [right_iff_single (act_sound sound m)]
    exact single_act right.single m
  · exact initial_sound accessToken
  · refine (right_iff_single (initial_sound accessToken)).mpr ?_
    rintro ws ⟨w, found, -⟩
    cases found

/-- The page connects again while the server closes the first socket, and the first close event comes then. -/
def closedLate : List Move := [.connect 1, .opened 0, .closing 0, .connect 2, .close 0 1001]

theorem not_one_socket : ¬ ∀ (accessToken : Option String) (moves : List Move) (n : Nat),
    Right (Machine.run act (initial accessToken) (moves.take n)) := by
  intro claimed
  have right := claimed (some "jwt") closedLate 5
  have live : State.Live (Machine.run act (initial (some "jwt")) (closedLate.take 5)) 1 :=
    ⟨⟨"jwt", .CONNECTING, true, false, []⟩, by decide, .inr rfl⟩
  exact absurd (right.single 1 live) (by decide)

end Marketplace.Chat.DirectSocket
