import Mathlib.Data.Finmap
import Marketplace.Chat.Hub
import Marketplace.Machine

/-!
The hub's two nested maps as they are kept: a room is made when a connection first enters it and
deleted with the last one that leaves. `HubMaps.hub` reads them as the rooms of `Hub`, where an
absent room is an empty one.
-/
namespace Marketplace.Chat

structure HubMaps where
  rooms : Finmap fun _ : String => Finset Nat
  keys : Finmap fun _ : Nat => List String

namespace HubMaps

def newHub : HubMaps := ⟨∅, ∅⟩

def enter (h : HubMaps) (conn : Nat) (key : String) : HubMaps where
  rooms := h.rooms.insert key (insert conn ((h.rooms.lookup key).getD ∅))
  keys := h.keys.insert conn ((h.keys.lookup conn).getD [] ++ [key])

def join (h : HubMaps) (conn : Nat) (keys : List String) : HubMaps :=
  keys.foldl (fun h key => if Hub.Nameless key then h else h.enter conn key) h

def leaveRoom (conn : Nat) (rooms : Finmap fun _ : String => Finset Nat) (key : String) :
    Finmap fun _ : String => Finset Nat :=
  match rooms.lookup key with
  | none => rooms
  | some room => if room.erase conn = ∅ then rooms.erase key else rooms.insert key (room.erase conn)

def leave (h : HubMaps) (conn : Nat) : HubMaps where
  rooms := ((h.keys.lookup conn).getD []).foldl (leaveRoom conn) h.rooms
  keys := h.keys.erase conn

/-- The connections that `Broadcast` sends to. -/
def targets (h : HubMaps) (key : String) (skip : Nat) : Finset Nat :=
  ((h.rooms.lookup key).getD ∅).filter (· ≠ skip)

def len (h : HubMaps) : Nat := h.keys.keys.card

/-- What the rooms and the keys say, whether or not an entry is there. -/
def hub (h : HubMaps) : Hub where
  rooms key := (h.rooms.lookup key).getD ∅
  keys conn := (h.keys.lookup conn).getD []

/-! ### The maps against the rooms -/

theorem newHub_hub : newHub.hub = {} := by
  simp [newHub, hub]

theorem targets_hub (h : HubMaps) : h.targets = h.hub.targets := rfl

theorem enter_hub (h : HubMaps) (conn : Nat) (key : String) : (h.enter conn key).hub = h.hub.enter conn key := by
  have rooms : (h.enter conn key).hub.rooms = (h.hub.enter conn key).rooms := by
    funext room
    by_cases same : room = key
    · subst same
      simp [hub, enter, Hub.enter]
    · simp [hub, enter, Hub.enter, same]
  have keys : (h.enter conn key).hub.keys = (h.hub.enter conn key).keys := by
    funext other
    by_cases same : other = conn
    · subst same
      simp [hub, enter, Hub.enter]
    · simp [hub, enter, Hub.enter, same]
  exact congrArg₂ Hub.mk rooms keys

theorem join_hub (h : HubMaps) (conn : Nat) (keys : List String) : (h.join conn keys).hub = h.hub.join conn keys := by
  unfold join Hub.join
  induction keys generalizing h with
  | nil => rfl
  | cons key rest ih =>
    rw [List.foldl_cons, List.foldl_cons, ih]
    split
    · rfl
    · rw [enter_hub]

theorem lookup_leaveRoom (conn : Nat) (rooms : Finmap fun _ : String => Finset Nat) (key room : String) :
    ((leaveRoom conn rooms key).lookup room).getD ∅ =
      Hub.leaveRoom conn (fun room => (rooms.lookup room).getD ∅) key room := by
  unfold leaveRoom Hub.leaveRoom
  by_cases same : room = key
  · subst same
    rw [Function.update_self]
    split
    · rename_i absent
      simp [absent]
    · rename_i present
      split
      · rename_i last
        simp [present, last]
      · simp [present]
  · rw [Function.update_of_ne same]
    split
    · rfl
    · split
      · rw [Finmap.lookup_erase_ne same]
      · rw [Finmap.lookup_insert_of_ne _ same]

theorem leave_hub (h : HubMaps) (conn : Nat) : (h.leave conn).hub = h.hub.leave conn := by
  have rooms : ∀ (keys : List String) (rooms : Finmap fun _ : String => Finset Nat),
      (fun room => ((keys.foldl (leaveRoom conn) rooms).lookup room).getD ∅) =
        keys.foldl (Hub.leaveRoom conn) fun room => (rooms.lookup room).getD ∅ := by
    intro keys
    induction keys with
    | nil => exact fun _ => rfl
    | cons key rest ih =>
      intro rooms
      have first := funext (lookup_leaveRoom conn rooms key)
      rw [List.foldl_cons, List.foldl_cons, ih, first]
  have keys : (h.leave conn).hub.keys = (h.hub.leave conn).keys := by
    funext other
    by_cases same : other = conn
    · subst same
      simp [hub, leave, Hub.leave]
    · simp [hub, leave, Hub.leave, same]
  exact congrArg₂ Hub.mk (rooms _ _) keys

/-! ### Every sequence of calls -/

/-- No entry of either map is empty. -/
structure Tidy (h : HubMaps) : Prop where
  rooms : ∀ key room, h.rooms.lookup key = some room → room ≠ ∅
  keys : ∀ conn keys, h.keys.lookup conn = some keys → keys ≠ []

theorem newHub_tidy : Tidy newHub :=
  ⟨fun _ _ found => by simp [newHub] at found, fun _ _ found => by simp [newHub] at found⟩

theorem Tidy.enter {h : HubMaps} (tidy : h.Tidy) (conn : Nat) (key : String) : (h.enter conn key).Tidy := by
  constructor
  · intro other room found
    by_cases same : other = key
    · subst same
      rw [HubMaps.enter, Finmap.lookup_insert] at found
      rw [← Option.some.inj found]
      exact Finset.insert_ne_empty _ _
    · rw [HubMaps.enter, Finmap.lookup_insert_of_ne _ same] at found
      exact tidy.rooms other room found
  · intro other keys found
    by_cases same : other = conn
    · subst same
      rw [HubMaps.enter, Finmap.lookup_insert] at found
      rw [← Option.some.inj found]
      exact List.concat_ne_nil _ _
    · rw [HubMaps.enter, Finmap.lookup_insert_of_ne _ same] at found
      exact tidy.keys other keys found

theorem Tidy.join {h : HubMaps} (tidy : h.Tidy) (conn : Nat) (keys : List String) : (h.join conn keys).Tidy := by
  unfold HubMaps.join
  induction keys generalizing h with
  | nil => exact tidy
  | cons key rest ih =>
    rw [List.foldl_cons]
    apply ih
    split
    · exact tidy
    · exact tidy.enter conn key

theorem leaveRoom_nonempty {conn : Nat} {rooms : Finmap fun _ : String => Finset Nat} (key : String)
    (nonempty : ∀ key room, rooms.lookup key = some room → room ≠ ∅) :
    ∀ other room, (leaveRoom conn rooms key).lookup other = some room → room ≠ ∅ := by
  intro other room found
  unfold leaveRoom at found
  split at found
  · exact nonempty other room found
  · by_cases same : other = key
    · subst same
      split at found
      · simp at found
      · rename_i remaining
        rw [Finmap.lookup_insert] at found
        rw [← Option.some.inj found]
        exact remaining
    · split at found
      · rw [Finmap.lookup_erase_ne same] at found
        exact nonempty other room found
      · rw [Finmap.lookup_insert_of_ne _ same] at found
        exact nonempty other room found

theorem Tidy.leave {h : HubMaps} (tidy : h.Tidy) (conn : Nat) : (h.leave conn).Tidy := by
  have rooms : ∀ (keys : List String) (rooms : Finmap fun _ : String => Finset Nat),
      (∀ key room, rooms.lookup key = some room → room ≠ ∅) →
        ∀ key room, (keys.foldl (leaveRoom conn) rooms).lookup key = some room → room ≠ ∅ := by
    intro keys
    induction keys with
    | nil => exact fun _ nonempty => nonempty
    | cons key rest ih => exact fun rooms nonempty => ih _ (leaveRoom_nonempty key nonempty)
  constructor
  · exact rooms _ _ tidy.rooms
  · intro other keys found
    by_cases same : other = conn
    · subst same
      simp [HubMaps.leave] at found
    · rw [HubMaps.leave, Finmap.lookup_erase_ne same] at found
      exact tidy.keys other keys found

end HubMaps

namespace Hub

/-- The rooms and the keys say the same of every connection. -/
def Inverse (h : Hub) : Prop := ∀ conn key, conn ∈ h.rooms key ↔ key ∈ h.keys conn

theorem Inverse.join {h : Hub} (inverse : h.Inverse) (conn : Nat) (keys : List String) :
    (h.join conn keys).Inverse := by
  intro other key
  rw [mem_join]
  by_cases same : other = conn
  · subst same
    rw [join_keys, List.mem_append, inverse]
    simp
  · rw [join_keys_other h keys same, inverse]
    simp [same]

theorem Inverse.leave {h : Hub} (inverse : h.Inverse) (conn : Nat) : (h.leave conn).Inverse := by
  intro other key
  rw [mem_leave, inverse]
  by_cases same : other = conn
  · subst same
    simp [Hub.leave]
  · simp [Hub.leave, same]

end Hub

inductive HubCall
  | join (conn : Nat) (keys : List String)
  | leave (conn : Nat)

namespace HubCall

/-- The call puts the connection in a room. -/
def Enters (conn : Nat) : HubCall → Prop
  | .join other keys => other = conn ∧ ∃ key ∈ keys, ¬Hub.Nameless key
  | .leave _ => False

def act (h : HubMaps) : HubCall → HubMaps
  | .join conn keys => h.join conn keys
  | .leave conn => h.leave conn

end HubCall

namespace HubMaps

/-- The hub after the calls, one at a time under its lock. -/
abbrev after (calls : List HubCall) : HubMaps := Machine.run HubCall.act newHub calls

theorem after_kept (calls : List HubCall) : (after calls).hub.Inverse ∧ (after calls).Tidy := by
  have reached : Machine.Reached HubCall.act (fun _ _ => True) newHub (after calls) :=
    Machine.Reached.start.run (Machine.canRun_free calls)
  refine reached.invariant (P := fun h => h.hub.Inverse ∧ h.Tidy) ⟨?_, newHub_tidy⟩ ?_
  · rw [newHub_hub]
    exact fun _ _ => by simp
  · rintro h call ⟨inverse, tidy⟩ -
    cases call with
    | join conn keys =>
      refine ⟨?_, tidy.join conn keys⟩
      rw [HubCall.act, join_hub]
      exact inverse.join conn keys
    | leave conn =>
      refine ⟨?_, tidy.leave conn⟩
      rw [HubCall.act, leave_hub]
      exact inverse.leave conn

theorem mem_hub_rooms {h : HubMaps} {conn : Nat} {key : String} :
    conn ∈ h.hub.rooms key ↔ ∃ room, h.rooms.lookup key = some room ∧ conn ∈ room := by
  cases found : h.rooms.lookup key <;> simp [hub, found]

theorem mem_hub_keys {h : HubMaps} {conn : Nat} {key : String} :
    key ∈ h.hub.keys conn ↔ ∃ keys, h.keys.lookup conn = some keys ∧ key ∈ keys := by
  cases found : h.keys.lookup conn <;> simp [hub, found]

theorem away_leave {h : HubMaps} (inverse : h.hub.Inverse) (conn : Nat) (key : String) :
    conn ∉ (h.leave conn).hub.rooms key := by
  rw [leave_hub, Hub.mem_leave, inverse]
  simp

theorem away_act {h : HubMaps} {call : HubCall} {conn : Nat} (away : ∀ key, conn ∉ h.hub.rooms key)
    (elsewhere : ¬call.Enters conn) (key : String) : conn ∉ (call.act h).hub.rooms key := by
  cases call with
  | join other keys =>
    rw [HubCall.act, join_hub, Hub.mem_join]
    rintro (before | ⟨rfl, among, named⟩)
    · exact away key before
    · exact elsewhere ⟨rfl, key, among, named⟩
  | leave other =>
    rw [HubCall.act, leave_hub, Hub.mem_leave]
    exact fun still => away key still.1

theorem left_away (calls later : List HubCall) {conn : Nat} (elsewhere : ∀ call ∈ later, ¬call.Enters conn)
    (key : String) : conn ∉ (after (calls ++ .leave conn :: later)).hub.rooms key := by
  have reached : Machine.Reached HubCall.act (fun _ call => ¬call.Enters conn) ((after calls).leave conn)
      (Machine.run HubCall.act ((after calls).leave conn) later) :=
    Machine.Reached.start.run (Machine.canRun_of_forall fun call among _ => elsewhere call among)
  have away := reached.invariant (P := fun h => ∀ key, conn ∉ h.hub.rooms key)
    (away_leave (after_kept calls).1 conn) fun h call away elsewhere => away_act away elsewhere
  rw [after, Machine.run_append]
  exact away key

theorem mem_keys_after (calls : List HubCall) (conn : Nat) :
    conn ∈ (after calls).keys.keys ↔ ∃ key, conn ∈ (after calls).hub.rooms key := by
  obtain ⟨inverse, tidy⟩ := after_kept calls
  rw [Finmap.mem_keys, Finmap.mem_iff]
  constructor
  · rintro ⟨keys, found⟩
    obtain ⟨key, among⟩ := List.exists_mem_of_ne_nil keys (tidy.keys conn keys found)
    exact ⟨key, (inverse conn key).mpr (mem_hub_keys.mpr ⟨keys, found, among⟩)⟩
  · rintro ⟨key, inside⟩
    obtain ⟨keys, found, -⟩ := mem_hub_keys.mp ((inverse conn key).mp inside)
    exact ⟨keys, found⟩

/-- `Len` counts the connections that are in a room. -/
theorem len_after (calls : List HubCall) : ∃ entered : Finset Nat,
    (∀ conn, conn ∈ entered ↔ ∃ key, conn ∈ (after calls).hub.rooms key) ∧ (after calls).len = entered.card :=
  ⟨_, mem_keys_after calls, rfl⟩

theorem hub_maps_inverse (calls : List HubCall) :
    (∀ conn key, (∃ room, (after calls).rooms.lookup key = some room ∧ conn ∈ room) ↔
      ∃ keys, (after calls).keys.lookup conn = some keys ∧ key ∈ keys) ∧
    (∀ key, (after calls).rooms.lookup key ≠ some ∅) ∧
    (∀ conn, (after calls).keys.lookup conn ≠ some []) ∧
    ∀ conn later, (∀ call ∈ later, ¬HubCall.Enters conn call) → ∀ key,
      (∀ room, (after (calls ++ .leave conn :: later)).rooms.lookup key = some room → conn ∉ room) ∧
      ∀ skip, conn ∉ (after (calls ++ .leave conn :: later)).targets key skip := by
  obtain ⟨inverse, tidy⟩ := after_kept calls
  refine ⟨?_, ?_, ?_, ?_⟩
  · intro conn key
    rw [← mem_hub_rooms, ← mem_hub_keys]
    exact inverse conn key
  · exact fun key found => tidy.rooms key ∅ found rfl
  · exact fun conn found => tidy.keys conn [] found rfl
  · intro conn later elsewhere key
    have away := left_away calls later elsewhere key
    constructor
    · exact fun room found inside => away (mem_hub_rooms.mpr ⟨room, found, inside⟩)
    · intro skip
      rw [targets_hub, Hub.mem_targets]
      exact fun target => away target.1

end HubMaps

end Marketplace.Chat
