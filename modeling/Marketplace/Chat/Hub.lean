import Mathlib.Data.Finset.Erase
import Mathlib.Data.Finset.Filter
import Mathlib.Data.Finset.Insert
import Mathlib.Logic.Function.Basic

/-! The open connections of the chat service, by the rooms they are in. -/
namespace Marketplace.Chat

/-- A room that is absent from the map is empty. -/
structure Hub where
  rooms : String → Finset Nat := fun _ => ∅
  keys : Nat → List String := fun _ => []

def userKey (userID : String) : String := "user:" ++ userID

def shopKey (shopID : String) : String := "shop:" ++ shopID

theorem userKey_ne (userID shopID : String) : userKey userID ≠ shopKey shopID := by
  intro same
  have same := congrArg String.toList same
  simp [userKey, shopKey] at same

@[simp] theorem userKey_inj {a b : String} : userKey a = userKey b ↔ a = b := by simp [userKey]

@[simp] theorem shopKey_inj {a b : String} : shopKey a = shopKey b ↔ a = b := by simp [shopKey]

namespace Hub

/-- The rooms that `Join` skips. -/
def Nameless (key : String) : Prop := key = "" ∨ key = shopKey ""

instance (key : String) : Decidable (Nameless key) := inferInstanceAs (Decidable (_ ∨ _))

theorem userKey_named (userID : String) : ¬Nameless (userKey userID) := by
  have unnamed : userKey userID ≠ "" := by simp [userKey]
  simp [Nameless, userKey_ne, unnamed]

theorem shopKey_nameless {shopID : String} : Nameless (shopKey shopID) ↔ shopID = "" := by
  simp [Nameless, shopKey]

def enter (h : Hub) (conn : Nat) (key : String) : Hub where
  rooms := Function.update h.rooms key (insert conn (h.rooms key))
  keys := Function.update h.keys conn (h.keys conn ++ [key])

def join (h : Hub) (conn : Nat) (keys : List String) : Hub :=
  keys.foldl (fun h key => if Nameless key then h else h.enter conn key) h

def leaveRoom (conn : Nat) (rooms : String → Finset Nat) (key : String) : String → Finset Nat :=
  Function.update rooms key ((rooms key).erase conn)

def leave (h : Hub) (conn : Nat) : Hub where
  rooms := (h.keys conn).foldl (leaveRoom conn) h.rooms
  keys := Function.update h.keys conn []

/-- The connections that `Broadcast` sends to. -/
def targets (h : Hub) (key : String) (skip : Nat) : Finset Nat := (h.rooms key).filter (· ≠ skip)

@[simp] theorem mem_targets {h : Hub} {key : String} {skip conn : Nat} :
    conn ∈ h.targets key skip ↔ conn ∈ h.rooms key ∧ conn ≠ skip := by
  simp [targets]

theorem mem_enter {h : Hub} {conn other : Nat} {key room : String} :
    other ∈ (h.enter conn key).rooms room ↔ other ∈ h.rooms room ∨ (other = conn ∧ room = key) := by
  show other ∈ Function.update h.rooms key (insert conn (h.rooms key)) room ↔ _
  by_cases same : room = key
  · subst same
    simp [or_comm]
  · simp [same]

theorem mem_join {h : Hub} {conn other : Nat} {keys : List String} {room : String} :
    other ∈ (h.join conn keys).rooms room ↔
      other ∈ h.rooms room ∨ (other = conn ∧ room ∈ keys ∧ ¬Nameless room) := by
  unfold join
  induction keys generalizing h with
  | nil => simp
  | cons key rest ih =>
    rw [List.foldl_cons, ih]
    by_cases nameless : Nameless key
    · have skipped : ¬Nameless room → room ≠ key := fun named same => named (same ▸ nameless)
      simp only [nameless, ↓reduceIte, List.mem_cons]
      grind
    · simp only [nameless, ↓reduceIte, mem_enter, List.mem_cons]
      grind

theorem join_keys (h : Hub) (conn : Nat) (keys : List String) :
    (h.join conn keys).keys conn = h.keys conn ++ keys.filter (¬Nameless ·) := by
  unfold join
  induction keys generalizing h with
  | nil => simp
  | cons key rest ih =>
    rw [List.foldl_cons, ih]
    by_cases nameless : Nameless key
    · simp [nameless]
    · simp [nameless, enter]

theorem join_keys_other (h : Hub) {conn other : Nat} (keys : List String) (ne : other ≠ conn) :
    (h.join conn keys).keys other = h.keys other := by
  unfold join
  induction keys generalizing h with
  | nil => rfl
  | cons key rest ih =>
    rw [List.foldl_cons, ih]
    by_cases nameless : Nameless key
    · simp [nameless]
    · simp [nameless, enter, ne]

theorem mem_leaveRooms {conn other : Nat} {keys : List String} {rooms : String → Finset Nat} {room : String} :
    other ∈ keys.foldl (leaveRoom conn) rooms room ↔ other ∈ rooms room ∧ ¬(other = conn ∧ room ∈ keys) := by
  induction keys generalizing rooms with
  | nil => simp
  | cons key rest ih =>
    rw [List.foldl_cons, ih]
    have left : other ∈ leaveRoom conn rooms key room ↔ other ∈ rooms room ∧ ¬(other = conn ∧ room = key) := by
      unfold leaveRoom
      by_cases same : room = key
      · subst same
        simp [and_comm]
      · simp [same]
    rw [left, List.mem_cons]
    grind

theorem mem_leave {h : Hub} {conn other : Nat} {room : String} :
    other ∈ (h.leave conn).rooms room ↔ other ∈ h.rooms room ∧ ¬(other = conn ∧ room ∈ h.keys conn) :=
  mem_leaveRooms

end Hub

end Marketplace.Chat
