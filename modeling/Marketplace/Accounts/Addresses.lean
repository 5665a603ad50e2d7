import Marketplace.ReadCommitted.Invariant
import Marketplace.ReadCommitted.Loads
import Marketplace.ReadCommitted.Scan
import Marketplace.Shops.Schema
import Mathlib.Data.List.MinMax

/-! The addresses of a user in `UsersService`: which of them is the default one. -/
namespace Marketplace.Addresses
open ReadCommitted ReadCommitted.Tx
open Shops (Number GeocodeResult geocode)

def MAX_ADDRESSES : Nat := 10

/-- The entity. No query of the service loads its user. -/
structure Address where
  addressLine : Option String
  lat : Option Number
  lng : Option Number
  isDefault : Bool
  recipientName : Option String
  phone : Option String
  createdAt : Time
deriving DecidableEq

structure AddressRow where
  user : Option Id
  address : Address
deriving DecidableEq

/-- What a transaction leaves for the specification. -/
inductive Mark where
  /-- A new address; for the default one, with the addresses whose flag was cleared. -/
  | added (user : Id) (cleared : Option (List Id))
  /-- The address becomes the default one after the flags of others were cleared. -/
  | chosen (user id : Id) (cleared : List Id)
  /-- A save that is to set the flag has found it so or not. -/
  | raised (id : Id) (reread : Bool)
  /-- A save writes the flag that was loaded. -/
  | kept (user id : Id) (isDefault reread : Bool)
  /-- A deletion, of a row if one was found, and the address to be the default one instead. -/
  | removed (user id : Id) (deleted : Bool) (promoted : Option Id)
deriving DecidableEq

@[reducible] def Row : Id → Type := fun _ => AddressRow

abbrev Db := Rows (Table Row)
abbrev Action := Tx (Table Row) Mark Err
abbrev Request := Req (Table Row) Mark Err (Except Err Unit)

def owned (user : Id) (row : AddressRow) : Bool := row.user = some user

def ownedDefault (user : Id) (row : AddressRow) : Bool := row.user = some user ∧ row.address.isDefault = true

structure CreateAddressDto where
  addressLine : String
  lat : Option String
  lng : Option String
  recipientName : String
  phone : String
  isDefault : Option Bool
deriving DecidableEq

/-- `none` is a key that the body lacks, `some none` a `null`. -/
structure UpdateAddressDto where
  addressLine : Option (Option String)
  lat : Option (Option String)
  lng : Option (Option String)
  recipientName : Option (Option String)
  phone : Option (Option String)
  isDefault : Option (Option Bool)
deriving DecidableEq

def UpdateAddressDto.empty : UpdateAddressDto := ⟨none, none, none, none, none, none⟩

def hasCoordinate (text : Option String) : Bool := text.any (· ≠ "")

/-- The coordinates of a new address; without a pair the geocoder, whose answers `answer` gives, is asked. -/
def newCoordinates (answer : String → GeocodeResult) (dto : CreateAddressDto) :
    Except Err (Option Number × Option Number) :=
  if hasCoordinate dto.lat ≠ hasCoordinate dto.lng then
    .error (.badRequest "Vĩ độ (lat) và kinh độ (lng) phải được cung cấp đi kèm cả cặp")
  else if hasCoordinate dto.lat then .ok (dto.lat, dto.lng)
  else
    match (geocode answer (some dto.addressLine)).found with
    | some (lat, lng) => .ok (some lat, some lng)
    | none => .error (.badRequest "Không thể tự động xác định tọa độ cho địa chỉ này. Vui lòng nhập địa chỉ chi tiết hơn hoặc chọn từ gợi ý.")

def updatedCoordinates (answer : String → GeocodeResult) (dto : UpdateAddressDto) (loaded : Address) :
    Except Err (Option Number × Option Number) :=
  if hasCoordinate dto.lat.join ≠ hasCoordinate dto.lng.join then
    .error (.badRequest "Vĩ độ (lat) và kinh độ (lng) phải được cung cấp đi kèm cả cặp")
  else
    let inherited := (dto.lat.getD loaded.lat, dto.lng.getD loaded.lng)
    match dto.addressLine.join with
    | none => .ok inherited
    | some line =>
      if line = "" ∨ hasCoordinate dto.lat.join = true ∨ loaded.addressLine = some line then .ok inherited
      else
        match (geocode answer (some line)).found with
        | some (lat, lng) => .ok (some lat, some lng)
        | none => .error (.badRequest "Không thể tự động xác định tọa độ cho địa chỉ mới. Vui lòng nhập địa chỉ chi tiết hơn hoặc chọn từ gợi ý.")

def UpdateAddressDto.assign (dto : UpdateAddressDto) (loaded : Address) (lat lng : Option Number) (isDefault : Bool) : Address :=
  { loaded with
    addressLine := dto.addressLine.getD loaded.addressLine
    lat := lat
    lng := lng
    recipientName := dto.recipientName.getD loaded.recipientName
    phone := dto.phone.getD loaded.phone
    isDefault := isDefault }

section
variable (decimal : Number → Option Number)

/-- The column takes the text of a number only. -/
def storable (text : Option Number) : Bool := text.all fun t => (decimal t).isSome

def insertAddress (id : Id) (row : AddressRow) : Action Unit := do
  require (storable decimal row.address.lat = true ∧ storable decimal row.address.lng = true) .database
  insert id { row with address := { row.address with lat := row.address.lat.bind decimal, lng := row.address.lng.bind decimal } }
    (.uniqueViolation "address.id")

def writtenCoordinate (mem reread current : Option Number) : Option Number :=
  if mem = reread then current else mem.bind decimal

def writeAddress (mem reread current : Address) : Address where
  addressLine := column mem.addressLine reread.addressLine current.addressLine
  lat := writtenCoordinate decimal mem.lat reread.lat current.lat
  lng := writtenCoordinate decimal mem.lng reread.lng current.lng
  isDefault := column mem.isDefault reread.isDefault current.isDefault
  recipientName := column mem.recipientName reread.recipientName current.recipientName
  phone := column mem.phone reread.phone current.phone
  createdAt := column mem.createdAt reread.createdAt current.createdAt

/-- `save` of a loaded address. One that is gone is inserted again, and belongs to nobody. -/
def saveAddress (id : Id) (mem : Address) (marks : Address → List Mark) : Action Unit := do
  match ← select fun d => d id with
  | none => insertAddress decimal id ⟨none, mem⟩
  | some reread =>
    forM (marks reread.address) note
    if mem = reread.address then pure ()
    else do
      require ((mem.lat = reread.address.lat ∨ storable decimal mem.lat = true) ∧
        (mem.lng = reread.address.lng ∨ storable decimal mem.lng = true)) .database
      modify id (Option.map fun row => { row with address := writeAddress decimal mem reread.address row.address })

-- the ids that the uuid column can hold, in the order a scan finds them
variable (space : List Id)

/-- The row after the flag of an address that matches is cleared. -/
def cleared (p : AddressRow → Bool) (row : AddressRow) : AddressRow :=
  if p row then { row with address := { row.address with isDefault := false } } else row

/-- `manager.update(Address, criteria, { is_default: false })`; the rows are those that the statement has found. -/
def clearDefaults (p : AddressRow → Bool) : Action (List Id) := do
  let ids ← select (scan space p)
  forM ids fun id => modify id (Option.map (cleared p))
  return ids

def findOwned (user id : Id) (d : Db) : Option Address := ((d id).filter (owned user)).map (·.address)

def storeAdded (user : Id) (address : Address) (newId : Id) : Action Unit := do
  if address.isDefault then
    let ids ← clearDefaults space (owned user)
    note (.added user (some ids))
    insertAddress decimal newId ⟨some user, address⟩
  else
    note (.added user none)
    insertAddress decimal newId ⟨some user, address⟩

def addAddress (user : Id) (dto : CreateAddressDto) (answer : String → GeocodeResult) (newId : Id) (now : Time) : Request :=
  .tx (select fun d => (scan space (owned user) d).length)
    (fun count =>
      if MAX_ADDRESSES ≤ count then .done (.error (.badRequest "Bạn chỉ được lưu tối đa 10 địa chỉ"))
      else
        match newCoordinates answer dto with
        | .error e => .done (.error e)
        | .ok (lat, lng) =>
          .tx (storeAdded decimal space user
              ⟨some dto.addressLine, lat, lng, dto.isDefault.getD false || count = 0, some dto.recipientName, some dto.phone, now⟩
              newId)
            (fun _ => .done (.ok ())) fun e => .done (.error e))
    fun e => .done (.error e)

def storeUpdated (user id : Id) (chosen : Bool) (mem : Address) : Action Unit := do
  if chosen then
    let ids ← clearDefaults space (owned user)
    note (.chosen user id ids)
    saveAddress decimal id mem fun reread => [.raised id reread.isDefault]
  else saveAddress decimal id mem fun reread => [.kept user id mem.isDefault reread.isDefault]

def updateAddress (user id : Id) (dto : UpdateAddressDto) (answer : String → GeocodeResult) : Request :=
  .tx (select (findOwned user id))
    (fun
      | none => .done (.error (.notFound "Không tìm thấy địa chỉ giao hàng"))
      | some loaded =>
        match updatedCoordinates answer dto loaded with
        | .error e => .done (.error e)
        | .ok (lat, lng) =>
          match dto.isDefault with
          -- the column is not nullable, so that the save fails
          | some none => .done (.error .database)
          | some (some false) =>
            if loaded.isDefault then
              .done (.error (.badRequest "Không thể bỏ chọn địa chỉ mặc định trực tiếp. Vui lòng đặt địa chỉ khác làm mặc định thay thế."))
            else
              .tx (storeUpdated decimal space user id false (dto.assign loaded lat lng false)) (fun _ => .done (.ok ()))
                fun e => .done (.error e)
          | some (some true) =>
            .tx (storeUpdated decimal space user id true (dto.assign loaded lat lng true)) (fun _ => .done (.ok ()))
              fun e => .done (.error e)
          | none =>
            .tx (storeUpdated decimal space user id false (dto.assign loaded lat lng loaded.isDefault)) (fun _ => .done (.ok ()))
              fun e => .done (.error e))
    fun e => .done (.error e)

/-- The newest address of the user. -/
def newest (user : Id) (d : Db) : Option (Id × Address) :=
  ((scan space (owned user) d).filterMap fun id => (d id).map fun row => (id, row.address)).argmax (·.2.createdAt)

/-- `manager.delete(Address, { id })`, with whether a row was there. -/
def deleteRow (id : Id) : Action Bool := do
  let found ← select fun d => (d id).isSome
  if found then
    modify id fun _ => none
    return true
  else return false

def promote (user id : Id) (deleted : Bool) : Action Unit := do
  match ← select (newest space user) with
  | none => note (.removed user id deleted none)
  | some (next, address) =>
    note (.removed user id deleted (some next))
    saveAddress decimal next { address with isDefault := true } fun reread => [.raised next reread.isDefault]

def storeDeleted (user id : Id) (wasDefault : Bool) : Action Unit := do
  let deleted ← deleteRow id
  if wasDefault then promote decimal space user id deleted
  else note (.removed user id deleted none)

def deleteAddress (user id : Id) : Request :=
  .tx (select (findOwned user id))
    (fun
      | none => .done (.error (.notFound "Không tìm thấy địa chỉ giao hàng"))
      | some loaded =>
        .tx (storeDeleted decimal space user id loaded.isDefault) (fun _ => .done (.ok ())) fun e => .done (.error e))
    fun e => .done (.error e)

def storeDefault (user id : Id) (loaded : Address) : Action Unit := do
  let ids ← clearDefaults space (ownedDefault user)
  note (.chosen user id ids)
  saveAddress decimal id { loaded with isDefault := true } fun reread => [.raised id reread.isDefault]

def setDefaultAddress (user id : Id) : Request :=
  .tx (select (findOwned user id))
    (fun
      | none => .done (.error (.notFound "Không tìm thấy địa chỉ giao hàng"))
      | some loaded =>
        .tx (storeDefault decimal space user id loaded) (fun _ => .done (.ok ())) fun e => .done (.error e))
    fun e => .done (.error e)

inductive Asked : Request → Prop
  | add (user : Id) (dto : CreateAddressDto) (answer : String → GeocodeResult) (newId : Id) (now : Time)
      (listed : newId ∈ space) : Asked (addAddress decimal space user dto answer newId now)
  | update (user id : Id) (dto : UpdateAddressDto) (answer : String → GeocodeResult) :
      Asked (updateAddress decimal space user id dto answer)
  | delete (user id : Id) : Asked (deleteAddress decimal space user id)
  | setDefault (user id : Id) : Asked (setDefaultAddress decimal space user id)

end

section
variable (space : List Id)

/-- The row, if it is there, is the user's or nobody's. -/
def NotAnothers (d : Db) (user id : Id) : Prop := ∀ row ∈ d id, row.user = none ∨ row.user = some user

instance (d : Db) (user id : Id) : Decidable (NotAnothers d user id) := by
  unfold NotAnothers
  infer_instance

/-- What the request has found and decided on still stands. -/
def Mark.Safe (d : Db) : Mark → Prop
  | .added user none => scan space (owned user) d ≠ [] ∧ (scan space (owned user) d).length < MAX_ADDRESSES
  | .added user (some ids) =>
    (∀ other ∈ scan space (ownedDefault user) d, other ∈ ids) ∧ (scan space (owned user) d).length < MAX_ADDRESSES
  | .chosen user id ids =>
    (∀ other ∈ scan space (ownedDefault user) d, other ∈ ids ∨ other = id) ∧ NotAnothers d user id ∧
      (id ∈ scan space (owned user) d ∨ scan space (owned user) d = [])
  | .raised id reread => reread = true → ∀ row ∈ d id, row.address.isDefault = true
  | .kept user id isDefault reread =>
    NotAnothers d user id ∧ (isDefault = reread ∨ ∀ row ∈ d id, row.user = some user → row.address.isDefault = isDefault)
  | .removed user id deleted promoted =>
    NotAnothers d user id ∧ (∀ next ∈ promoted, NotAnothers d user next) ∧
      if deleted = true ∧ id ∈ scan space (ownedDefault user) d then
        (∀ other ∈ scan space (owned user) d, other = id) ∨
          ∃ next ∈ promoted, next ∈ scan space (owned user) d ∧ next ≠ id
      else ∀ next ∈ promoted, next ∈ scan space (owned user) d → next ∈ scan space (ownedDefault user) d

instance (d : Db) (e : Mark) : Decidable (e.Safe space d) := by
  unfold Mark.Safe
  split <;> infer_instance

def Safe (s : Store (Table Row) Mark) (log : List Mark) : Prop := ∀ e ∈ log, e.Safe space s.rows

instance (s : Store (Table Row) Mark) (log : List Mark) : Decidable (Safe space s log) :=
  inferInstanceAs (Decidable (∀ e ∈ log, e.Safe space s.rows))

/-- Of the addresses of the user, if there are some, exactly one is the default one; and they are not too many. -/
structure Kept (d : Db) (user : Id) : Prop where
  oneDefault : scan space (owned user) d ≠ [] → (scan space (ownedDefault user) d).length = 1
  few : (scan space (owned user) d).length ≤ MAX_ADDRESSES

def AllKept (d : Db) : Prop := ∀ user, Kept space d user

end

section
variable {space : List Id} {p : AddressRow → Bool} {c d : Db} {user id : Id}

/-- The same default one stays, whatever becomes of the others. -/
theorem Kept.of_fewer (kept : Kept space c user) (owners : ∀ k, (d k).any (owned user) = true → (c k).any (owned user) = true)
    (defaults : ∀ k ∈ space, (d k).any (ownedDefault user) = (c k).any (ownedDefault user)) : Kept space d user := by
  have fewer : (scan space (owned user) d).length ≤ (scan space (owned user) c).length := length_scan_le owners
  constructor
  · rw [scan_congr defaults]
    intro some_
    refine kept.oneDefault fun empty => some_ ?_
    rw [empty] at fewer
    exact List.eq_nil_of_length_eq_zero (Nat.le_zero.mp fewer)
  · exact Nat.le_trans fewer kept.few

theorem Kept.of_same (kept : Kept space c user) (owners : ∀ k, (d k).any (owned user) = (c k).any (owned user))
    (defaults : ∀ k, (d k).any (ownedDefault user) = (c k).any (ownedDefault user)) : Kept space d user :=
  kept.of_fewer (fun k => by rw [owners k]; exact id) fun k _ => defaults k

end

/-- The flags of the user's addresses `ids` are cleared. -/
structure Cleared (user : Id) (ids : List Id) (c d : Db) : Prop where
  owners : ∀ u k, (d k).any (owned u) = (c k).any (owned u)
  others : ∀ u k, u ≠ user → (d k).any (ownedDefault u) = (c k).any (ownedDefault u)
  mine : ∀ k, (d k).any (ownedDefault user) = (decide (k ∉ ids) && (c k).any (ownedDefault user))
  unlisted : ∀ k, k ∉ ids → d k = c k

/-- The row is saved, and its flag is as `flag` has it; or it was gone, and is nobody's. -/
def Saved (id : Id) (flag : AddressRow → Bool) (c d : Db) : Prop :=
  (c id = none ∧ ∃ address, d = Function.update c id (some ⟨none, address⟩)) ∨
  ∃ g : AddressRow → AddressRow, d = Function.update c id ((c id).map g) ∧
    ∀ row ∈ c id, (g row).user = row.user ∧ (g row).address.isDefault = flag row

section
variable {decimal : Number → Option Number} {space : List Id} {p : AddressRow → Bool} {user id : Id}

theorem cleared_user (row : AddressRow) : (cleared p row).user = row.user := by
  unfold cleared
  split <;> rfl

theorem cleared_isDefault (row : AddressRow) : (cleared p row).address.isDefault = (row.address.isDefault && !p row) := by
  unfold cleared
  split
  · rename_i matched; simp [matched]
  · rename_i unmatched; simp [unmatched]

theorem Cleared.of_map {ids : List Id} {c d : Db} (mine : ∀ row, p row = true → row.user = some user)
    (covers : ∀ row, ownedDefault user row = true → p row = true)
    (rows : ∀ k, d k = if k ∈ ids then (c k).map (cleared p) else c k) : Cleared user ids c d := by
  constructor
  · intro u k
    rw [rows k]
    split
    · simp only [Option.any_map, owned, cleared_user]
      rfl
    · rfl
  · intro u k other
    rw [rows k]
    split
    · cases c k with
      | none => rfl
      | some row =>
        simp only [Option.map_some, Option.any_some, ownedDefault, cleared_user, cleared_isDefault]
        by_cases belongs : row.user = some u
        · have unmatched : p row = false := by
            by_contra matched
            have same := mine row (by simpa using matched)
            exact other (Option.some.inj (belongs.symm.trans same))
          simp [unmatched]
        · simp [belongs]
    · rfl
  · intro k
    rw [rows k]
    split
    · rename_i listed
      cases c k with
      | none => simp
      | some row =>
        simp only [Option.map_some, Option.any_some, listed, not_true_eq_false, decide_false, Bool.false_and]
        by_cases matched : p row = true
        · simp [ownedDefault, cleared_isDefault, matched]
        · have off : ownedDefault user row = false := by
            by_contra on
            exact matched (covers row (by simpa using on))
          simpa [ownedDefault, cleared_user, cleared_isDefault, matched] using off
    · rename_i unlisted
      simp [unlisted]
  · intro k unlisted
    rw [rows k, if_neg unlisted]

section
variable {I : Isolation (Table Row) Mark} {v : View (Table Row) Mark}

variable (user) in
theorem wp_clearDefaults {Q : List Id → View (Table Row) Mark → Prop} (nodup : space.Nodup)
    (mine : ∀ row, p row = true → row.user = some user) (covers : ∀ row, ownedDefault user row = true → p row = true)
    (h : ∀ ids w, Cleared user ids v.rows w.rows → w.log = v.log → (∀ k ∈ ids, w.held k = true) → Q ids w) :
    (clearDefaults space p).wp I Q (fun _ => True) v := by
  unfold clearDefaults
  rw [wp_bind, wp_select]
  intro d m sees
  rw [wp_bind]
  refine wp_modifyRows (fun _ => Option.map (cleared p)) _ (nodup.filter _) fun w log _ held rows => ?_
  rw [wp_pure]
  exact h _ w (.of_map mine covers rows) log fun k member => by simp [held k, member]

theorem wp_insertAddress {Q : Unit → View (Table Row) Mark → Prop} {row : AddressRow}
    (h : ∀ w address, v.rows id = none → w.log = v.log → address.isDefault = row.address.isDefault →
      w.rows = Function.update v.rows id (some ⟨row.user, address⟩) → Q () w) :
    (insertAddress decimal id row).wp I Q (fun _ => True) v := by
  unfold insertAddress
  rw [wp_bind, wp_require]
  refine ⟨fun _ => ?_, fun _ => trivial⟩
  refine wp_insert (fun _ => trivial) fun w more _ free stored => ?_
  refine h w { row.address with lat := row.address.lat.bind decimal, lng := row.address.lng.bind decimal } free
    more.log_same rfl (funext fun k => ?_)
  by_cases same : k = id
  · subst same
    rw [stored, Function.update_self]
  · rw [more.rows k same, Function.update_of_ne same]

theorem wp_saveAddress {Q : Unit → View (Table Row) Mark → Prop} {mem : Address} {marks : Address → List Mark}
    (gone : ∀ w address, v.rows id = none → w.log = v.log →
      w.rows = Function.update v.rows id (some ⟨none, address⟩) → Q () w)
    (found : ∀ w d m reread g, I.Sees v d m → d id = some reread → w.log = v.log ++ marks reread.address →
      w.rows = Function.update v.rows id ((v.rows id).map g) →
      (∀ row, (g row).user = row.user ∧
        (g row).address.isDefault = column mem.isDefault reread.address.isDefault row.address.isDefault) → Q () w) :
    (saveAddress decimal id mem marks).wp I Q (fun _ => True) v := by
  unfold saveAddress
  rw [wp_bind, wp_select]
  intro d m sees
  cases read : d id with
  | none =>
    simp only
    exact wp_insertAddress fun w address free log _ rows => gone w address free log rows
  | some reread =>
    simp only
    rw [wp_bind]
    refine wp_forM_note _ ?_
    rw [wp_ite]
    refine ⟨fun same => ?_, fun _ => ?_⟩
    · refine found _ d m reread (fun row => row) sees read rfl (by simp) fun row => ⟨rfl, ?_⟩
      rw [same, column_same]
    · rw [wp_bind, wp_require]
      refine ⟨fun _ => ?_, fun _ => trivial⟩
      exact found _ d m reread (fun row => { row with address := writeAddress decimal mem reread.address row.address })
        sees read rfl rfl fun row => ⟨rfl, rfl⟩

end
end

section
variable {space : List Id} {ids : List Id} {c d e : Db} {user id : Id} {flag : AddressRow → Bool}

theorem notAnothers_iff : NotAnothers c user id ↔ ∀ u, u ≠ user → (c id).any (owned u) = false := by
  unfold NotAnothers
  cases c id with
  | none => simp
  | some row =>
    constructor
    · intro own u other
      rcases own row rfl with nobodys | same
      · simp [owned, nobodys]
      · simp [owned, same, Ne.symm other]
    · intro foreign found inside
      obtain rfl : row = found := Option.some.inj inside
      cases belongs : row.user with
      | none => exact Or.inl rfl
      | some u =>
        by_contra different
        have other : u ≠ user := fun same => different (Or.inr (congrArg some same))
        have unowned := foreign u other
        simp [owned, belongs] at unowned

theorem Cleared.notAnothers (cleared : Cleared user ids c d) (own : NotAnothers c user id) : NotAnothers d user id := by
  rw [notAnothers_iff] at own ⊢
  intro u other
  rw [cleared.owners]
  exact own u other

theorem Saved.owners (saved : Saved id flag c d) (u k : Id) : (d k).any (owned u) = (c k).any (owned u) := by
  rcases saved with ⟨free, address, rfl⟩ | ⟨g, rfl, keeps⟩
  · by_cases same : k = id
    · subst same
      simp [free, owned]
    · rw [Function.update_of_ne same]
  · by_cases same : k = id
    · subst same
      rw [Function.update_self]
      cases found : c k with
      | none => rfl
      | some row => simp [owned, (keeps row found).1]
    · rw [Function.update_of_ne same]

theorem Saved.unnamed (saved : Saved id flag c d) {k : Id} (other : k ≠ id) : d k = c k := by
  rcases saved with ⟨_, address, rfl⟩ | ⟨g, rfl, _⟩
  · rw [Function.update_of_ne other]
  · rw [Function.update_of_ne other]

theorem Saved.named (saved : Saved id flag c d) (u : Id) :
    (d id).any (ownedDefault u) = (c id).any fun row => owned u row && flag row := by
  rcases saved with ⟨free, address, rfl⟩ | ⟨g, rfl, keeps⟩
  · simp [free, ownedDefault]
  · rw [Function.update_self]
    cases found : c id with
    | none => rfl
    | some row => simp [ownedDefault, owned, keeps row found]

/-- Other users are not concerned. -/
theorem Saved.others (saved : Saved id flag c d) (own : NotAnothers c user id) (u : Id) (other : u ≠ user) (k : Id) :
    (d k).any (ownedDefault u) = (c k).any (ownedDefault u) := by
  by_cases same : k = id
  · subst same
    rw [saved.named]
    have foreign := notAnothers_iff.mp own u other
    cases found : c k with
    | none => rfl
    | some row =>
      rw [found] at foreign
      simp_all [owned, ownedDefault]
  · rw [saved.unnamed same]

/-- The save leaves the flag of the user's address as it is. -/
theorem AllKept.unflagged (kept : AllKept space c) (own : NotAnothers c user id) (saved : Saved id flag c d)
    (same : ∀ row ∈ c id, row.user = some user → flag row = row.address.isDefault) : AllKept space d := by
  intro u
  refine (kept u).of_same (saved.owners u) fun k => ?_
  by_cases other : u = user
  · subst other
    by_cases named : k = id
    · subst named
      rw [saved.named]
      cases found : c k with
      | none => rfl
      | some row =>
        by_cases belongs : row.user = some u
        · simp [owned, ownedDefault, belongs, same row found belongs]
        · simp [owned, ownedDefault, belongs]
    · rw [saved.unnamed named]
  · exact saved.others own u other k

theorem AllKept.chosen (nodup : space.Nodup) (kept : AllKept space c) (cleared : Cleared user ids c d)
    (saved : Saved id (fun _ => true) d e) (own : NotAnothers c user id)
    (covered : ∀ other ∈ scan space (ownedDefault user) c, other ∈ ids ∨ other = id)
    (member : id ∈ scan space (owned user) c ∨ scan space (owned user) c = []) : AllKept space e := by
  intro u
  have owners : ∀ k, (e k).any (owned u) = (c k).any (owned u) := fun k => (saved.owners u k).trans (cleared.owners u k)
  by_cases other : u = user
  · subst other
    constructor
    · rw [scan_congr fun k _ => owners k]
      intro some_
      obtain ⟨listed, mine⟩ := mem_scan.mp (member.resolve_right some_)
      refine (length_scan_one nodup).mpr ⟨id, listed, fun j inside => ?_⟩
      by_cases same : j = id
      · subst same
        rw [saved.named]
        simpa [cleared.owners] using mine
      · rw [saved.unnamed same, cleared.mine]
        simp only [same, iff_false, Bool.and_eq_true, decide_eq_true_eq, not_and]
        intro unlisted default_
        exact (covered j (mem_scan.mpr ⟨inside, default_⟩)).elim unlisted same
    · rw [scan_congr fun k _ => owners k]
      exact (kept u).few
  · refine (kept u).of_same owners fun k => ?_
    rw [saved.others (cleared.notAnothers own) u other k, cleared.others u k other]

/-- The address is deleted in `d`, if it was there; the promoted one, if any, is the default one in `e` if it is the user's. -/
structure Removal (user id : Id) (deleted : Bool) (promoted : Option Id) (c d e : Db) : Prop where
  deletion : d = if deleted then Function.update c id none else c
  owners : ∀ u k, (e k).any (owned u) = (d k).any (owned u)
  others : ∀ u, u ≠ user → ∀ k, (e k).any (ownedDefault u) = (d k).any (ownedDefault u)
  mine : ∀ k, (e k).any (ownedDefault user) = if k ∈ promoted then (d k).any (owned user) else (d k).any (ownedDefault user)
  own : NotAnothers c user id

section
variable {deleted : Bool} {promoted : Option Id} {u : Id}

theorem Removal.left (removal : Removal user id deleted promoted c d e) (k : Id) :
    d k = c k ∨ (k = id ∧ deleted = true ∧ d k = none) := by
  rw [removal.deletion]
  cases deleted with
  | false => exact Or.inl rfl
  | true =>
    by_cases same : k = id
    · subst same
      exact Or.inr ⟨rfl, rfl, by simp⟩
    · exact Or.inl (by simp [same])

theorem Removal.fewer (removal : Removal user id deleted promoted c d e) (k : Id) (there : (e k).any (owned u) = true) :
    (c k).any (owned u) = true := by
  rw [removal.owners u k] at there
  rcases removal.left k with same | ⟨_, _, gone⟩
  · rwa [same] at there
  · simp [gone] at there

theorem Removal.foreign (removal : Removal user id deleted promoted c d e) (kept : Kept space c u) (other : u ≠ user) :
    Kept space e u := by
  refine kept.of_fewer removal.fewer fun k _ => ?_
  rw [removal.others u other k]
  rcases removal.left k with same | ⟨rfl, _, gone⟩
  · rw [same]
  · rw [gone]
    have unowned := notAnothers_iff.mp removal.own u other
    cases found : c k with
    | none => rfl
    | some row =>
      rw [found] at unowned
      simp_all [owned, ownedDefault]

/-- The default address goes, as the last one or with another one promoted. -/
theorem Removal.replaced (removal : Removal user id true promoted c d e) (nodup : space.Nodup) (kept : Kept space c user)
    (wasDefault : id ∈ scan space (ownedDefault user) c)
    (safe : (∀ other ∈ scan space (owned user) c, other = id) ∨
      ∃ next ∈ promoted, next ∈ scan space (owned user) c ∧ next ≠ id) : Kept space e user := by
  have gone : d id = none := by rw [removal.deletion]; simp
  have stays : ∀ k, k ≠ id → d k = c k := fun k other => (removal.left k).resolve_right fun named => other named.1
  refine ⟨fun some_ => ?_, Nat.le_trans (length_scan_le removal.fewer) kept.few⟩
  obtain ⟨listed, flagged⟩ := mem_scan.mp wasDefault
  have belongs : id ∈ scan space (owned user) c := by
    refine mem_scan.mpr ⟨listed, ?_⟩
    cases found : c id with
    | none => simp [found] at flagged
    | some row => simp_all [owned, ownedDefault]
  obtain ⟨sole, _, only⟩ := (length_scan_one nodup).mp (kept.oneDefault (List.ne_nil_of_mem belongs))
  obtain rfl : id = sole := (only id listed).mp flagged
  obtain ⟨j, member⟩ := List.exists_mem_of_ne_nil _ some_
  obtain ⟨inside, there⟩ := mem_scan.mp member
  have remaining : j ≠ id := by
    rintro rfl
    simp [removal.owners, gone] at there
  rcases safe with alone | ⟨next, chosen, nextMember, different⟩
  · exact absurd (alone j (mem_scan.mpr ⟨inside, removal.fewer j there⟩)) remaining
  · obtain ⟨nextListed, nextMine⟩ := mem_scan.mp nextMember
    refine (length_scan_one nodup).mpr ⟨next, nextListed, fun k within => ?_⟩
    rw [removal.mine k]
    by_cases same : k = next
    · subst same
      simp [chosen, stays k different, nextMine]
    · have unchosen : k ∉ promoted := fun promoted_ => same (Option.mem_unique promoted_ chosen)
      simp only [unchosen, if_false, same, iff_false]
      by_cases named : k = id
      · subst named
        simp [gone]
      · rw [stays k named, only k within]
        exact named

/-- The default address stays, and is the only one that may be promoted. -/
theorem Removal.standing (removal : Removal user id deleted promoted c d e) (kept : Kept space c user)
    (unflagged : ¬ (deleted = true ∧ id ∈ scan space (ownedDefault user) c))
    (safe : ∀ next ∈ promoted, next ∈ scan space (owned user) c → next ∈ scan space (ownedDefault user) c) :
    Kept space e user := by
  refine kept.of_fewer removal.fewer fun k within => ?_
  have before : (d k).any (ownedDefault user) = (c k).any (ownedDefault user) := by
    rcases removal.left k with same | ⟨rfl, removed, gone⟩
    · rw [same]
    · have off : ¬ (c k).any (ownedDefault user) = true := fun on =>
        unflagged ⟨removed, mem_scan.mpr ⟨within, on⟩⟩
      rw [gone]
      simpa using off
  rw [removal.mine k]
  split
  · rename_i chosen
    rw [← before]
    have owned_of : (d k).any (ownedDefault user) = true → (d k).any (owned user) = true := by
      cases d k with
      | none => simp
      | some row => simp_all [owned, ownedDefault]
    rw [Bool.eq_iff_iff]
    refine ⟨fun there => ?_, owned_of⟩
    have was : (c k).any (owned user) = true := removal.fewer k (by rw [removal.owners]; exact there)
    rw [before]
    exact (mem_scan.mp (safe k chosen (mem_scan.mpr ⟨within, was⟩))).2
  · exact before

theorem AllKept.removed (nodup : space.Nodup) (kept : AllKept space c) (removal : Removal user id deleted promoted c d e)
    (safe : if deleted = true ∧ id ∈ scan space (ownedDefault user) c then
        (∀ other ∈ scan space (owned user) c, other = id) ∨
          ∃ next ∈ promoted, next ∈ scan space (owned user) c ∧ next ≠ id
      else ∀ next ∈ promoted, next ∈ scan space (owned user) c → next ∈ scan space (ownedDefault user) c) :
    AllKept space e := by
  intro u
  by_cases mine : u = user
  · subst mine
    split at safe
    · rename_i default_
      obtain ⟨rfl, wasDefault⟩ := default_
      exact removal.replaced nodup (kept u) wasDefault safe
    · rename_i unflagged
      exact removal.standing (kept u) unflagged safe
  · exact removal.foreign (kept u) mine

end

/-- A new row of the user, over rows with the same owners. -/
theorem AllKept.added {address : Address} (nodup : space.Nodup) (kept : AllKept space c) (free : d id = none)
    (same : ∀ u k, (d k).any (owned u) = (c k).any (owned u))
    (others : ∀ u k, u ≠ user → (d k).any (ownedDefault u) = (c k).any (ownedDefault u))
    (stored : e = Function.update d id (some ⟨some user, address⟩))
    (room : (scan space (owned user) c).length < MAX_ADDRESSES)
    (sole : (scan space (ownedDefault user) e).length = 1) : AllKept space e := by
  have unnamed : ∀ k, k ≠ id → e k = d k := fun k other => by rw [stored, Function.update_of_ne other]
  have named : e id = some ⟨some user, address⟩ := by rw [stored, Function.update_self]
  intro u
  by_cases mine : u = user
  · subst mine
    refine ⟨fun _ => sole, Nat.le_trans (length_scan_le_succ (k := id) (c := c) nodup fun k there => ?_) room⟩
    by_cases same_ : k = id
    · exact Or.inr same_
    · rw [unnamed k same_, same] at there
      exact Or.inl there
  · refine (kept u).of_same (fun k => ?_) fun k => ?_
    · rw [← same u k]
      by_cases same_ : k = id
      · subst same_
        simp [named, free, owned, Ne.symm mine]
      · rw [unnamed k same_]
    · rw [← others u k mine]
      by_cases same_ : k = id
      · subst same_
        simp [named, free, ownedDefault, Ne.symm mine]
      · rw [unnamed k same_]

theorem sole_of_cleared {address : Address} (nodup : space.Nodup) (listed : id ∈ space) (cleared : Cleared user ids c d)
    (default_ : address.isDefault = true) (covered : ∀ other ∈ scan space (ownedDefault user) c, other ∈ ids)
    (stored : e = Function.update d id (some ⟨some user, address⟩)) :
    (scan space (ownedDefault user) e).length = 1 := by
  subst stored
  refine (length_scan_one nodup).mpr ⟨id, listed, fun j inside => ?_⟩
  by_cases same : j = id
  · subst same
    simp [ownedDefault, default_]
  · rw [Function.update_of_ne same, cleared.mine]
    simp only [same, iff_false, Bool.and_eq_true, decide_eq_true_eq, not_and]
    exact fun unlisted on => unlisted (covered j (mem_scan.mpr ⟨inside, on⟩))

end

section
variable {decimal : Number → Option Number} {space : List Id} {user id : Id}

def sound (space : List Id) (s : Store (Table Row) Mark) : Prop := AllKept space s.rows

theorem storeAdded_keeps (nodup : space.Nodup) (address : Address) (listed : id ∈ space) :
    (storeAdded decimal space user address id).Keeps (Safe space) (sound space) fun _ _ => True := by
  intro h m kept _ _
  have kept : AllKept space h.current.rows := kept h.now (Nat.le_refl _)
  unfold storeAdded
  rw [wp_ite]
  constructor
  · intro default_
    rw [wp_bind]
    refine wp_clearDefaults user nodup (fun row mine => by simpa [owned] using mine) (fun row mine => by
      simp_all [ownedDefault, owned]) fun ids w cleared log _ => ?_
    rw [wp_bind, wp_note]
    refine wp_insertAddress fun x stored free log' flag rows _ safe => ⟨?_, trivial⟩
    obtain ⟨covered, room⟩ := safe (.added user (some ids)) (by simp [log', log])
    exact AllKept.added nodup kept free cleared.owners cleared.others rows room
      (sole_of_cleared nodup listed cleared (flag.trans default_) covered rows)
  · intro plain
    rw [wp_bind, wp_note]
    refine wp_insertAddress fun x stored free log' flag rows _ safe => ⟨?_, trivial⟩
    obtain ⟨others, room⟩ := safe (.added user none) (by simp [log'])
    refine AllKept.added nodup kept free (fun _ _ => rfl) (fun _ _ _ => rfl) rows room ?_
    change (scan space (ownedDefault user) x.rows).length = 1
    rw [rows, scan_congr (c := h.current.rows)]
    · exact (kept user).oneDefault others
    · intro k _
      by_cases same : k = id
      · subst same
        have absent : h.current.rows k = none := free
        simp [ownedDefault, absent, flag, plain]
      · rw [Function.update_of_ne same]
        rfl

/-- What a save that finds the row leaves, if it is to set the flag. -/
theorem saved_raised {c d : Db} {g : AddressRow → AddressRow} {mem : Address} {reread : AddressRow}
    (default_ : mem.isDefault = true) (rows : d = Function.update c id ((c id).map g))
    (written : ∀ row, (g row).user = row.user ∧
      (g row).address.isDefault = column mem.isDefault reread.address.isDefault row.address.isDefault)
    (stands : reread.address.isDefault = true → ∀ row ∈ c id, row.address.isDefault = true) :
    Saved id (fun _ => true) c d := by
  refine Or.inr ⟨g, rows, fun row found => ⟨(written row).1, ?_⟩⟩
  rw [(written row).2, default_]
  unfold column
  split
  · rename_i same
    exact stands same.symm row found
  · rfl

/-- The flag of the chosen row is set: either it was found cleared, or it was found set and stands. -/
theorem choose_keeps {p : AddressRow → Bool} {mem : Address} (nodup : space.Nodup)
    (mine : ∀ row, p row = true → row.user = some user) (covers : ∀ row, ownedDefault user row = true → p row = true)
    (default_ : mem.isDefault = true) :
    (do
      let ids ← clearDefaults space p
      note (.chosen user id ids)
      saveAddress decimal id mem fun reread => [.raised id reread.isDefault] : Action Unit).Keeps (Safe space) (sound space)
      fun _ _ => True := by
  intro h m kept _ _
  have kept : AllKept space h.current.rows := kept h.now (Nat.le_refl _)
  rw [wp_bind]
  refine wp_clearDefaults user nodup mine covers fun ids v cleared log held => ?_
  rw [wp_bind, wp_note]
  refine wp_saveAddress (fun w address free log' rows _ safe => ⟨?_, trivial⟩)
    fun w d n reread g sees read log' rows written _ safe => ⟨?_, trivial⟩
  · obtain ⟨covered, own, member⟩ := safe (.chosen user id ids) (by simp [log', log])
    exact AllKept.chosen nodup kept cleared (Or.inl ⟨free, address, rows⟩) own covered member
  · obtain ⟨covered, own, member⟩ := safe (.chosen user id ids) (by simp [log', log])
    have raised := safe (.raised id reread.address.isDefault) (by simp [log', log])
    refine AllKept.chosen nodup kept cleared (saved_raised default_ rows written ?_) own covered member
    intro found row stands
    by_cases named : id ∈ ids
    · -- the save has found the row as this transaction has left it
      have same : d id = v.rows id := h.isolation.held sees (held id named)
      have eq : reread = row := Option.some.inj (read.symm.trans (same.trans stands))
      rw [← eq]
      exact found
    · have before : h.current.rows id = some row := (cleared.unlisted id named).symm.trans stands
      exact raised found row before

theorem storeUpdated_keeps (nodup : space.Nodup) {chosen : Bool} {mem : Address}
    (default_ : chosen = true → mem.isDefault = true) :
    (storeUpdated decimal space user id chosen mem).Keeps (Safe space) (sound space) fun _ _ => True := by
  unfold storeUpdated
  cases chosen with
  | true =>
    exact choose_keeps nodup (fun row mine => by simpa [owned] using mine) (fun row mine => by
      simp_all [ownedDefault, owned]) (default_ rfl)
  | false =>
    intro h m kept _ _
    have kept : AllKept space h.current.rows := kept h.now (Nat.le_refl _)
    simp only [Bool.false_eq_true, if_false]
    refine wp_saveAddress (fun w address free log rows _ _ => ⟨?_, trivial⟩)
      fun w d n reread g sees read log rows written _ safe => ⟨?_, trivial⟩
    · intro u
      have saved : Saved id (fun _ => true) h.current.rows w.rows := Or.inl ⟨free, address, rows⟩
      refine (kept u).of_same (saved.owners u) fun k => ?_
      by_cases named : k = id
      · subst named
        have absent : h.current.rows k = none := free
        change (w.rows k).any _ = _
        rw [saved.named, absent]
        rfl
      · exact congrArg (Option.any _) (saved.unnamed named)
    · obtain ⟨own, stands⟩ := safe (.kept user id mem.isDefault reread.address.isDefault) (by simp [log])
      have saved : Saved id (fun row => column mem.isDefault reread.address.isDefault row.address.isDefault)
          h.current.rows w.rows := Or.inr ⟨g, rows, fun row _ => written row⟩
      refine AllKept.unflagged kept own saved fun row found belongs => ?_
      unfold column
      split
      · rfl
      · rename_i differs
        exact ((stands.resolve_left differs) row found belongs).symm

theorem storeDefault_keeps (nodup : space.Nodup) (loaded : Address) :
    (storeDefault decimal space user id loaded).Keeps (Safe space) (sound space) fun _ _ => True :=
  choose_keeps nodup (fun row mine => by simp_all [ownedDefault]) (fun _ mine => mine) rfl

theorem wp_deleteRow {I : Isolation (Table Row) Mark} {v : View (Table Row) Mark} {Q : Bool → View (Table Row) Mark → Prop}
    (h : ∀ deleted w, w.log = v.log → w.rows = (if deleted then Function.update v.rows id none else v.rows) → Q deleted w) :
    (deleteRow id).wp I Q (fun _ => True) v := by
  unfold deleteRow
  rw [wp_bind, wp_select]
  intro d m _
  rw [wp_ite]
  refine ⟨fun _ => ?_, fun _ => h false _ rfl rfl⟩
  rw [wp_bind, wp_modify]
  exact h true _ rfl rfl

theorem undeleted {c d : Db} {deleted : Bool} {k : Id} {row : AddressRow}
    (rows : d = if deleted then Function.update c id none else c) (stands : d k = some row) : c k = some row := by
  rw [rows] at stands
  split at stands
  · by_cases same : k = id
    · subst same
      simp at stands
    · rwa [Function.update_of_ne same] at stands
  · exact stands

theorem storeDeleted_keeps (nodup : space.Nodup) (wasDefault : Bool) :
    (storeDeleted decimal space user id wasDefault).Keeps (Safe space) (sound space) fun _ _ => True := by
  intro h m kept _ _
  have kept : AllKept space h.current.rows := kept h.now (Nat.le_refl _)
  unfold storeDeleted
  rw [wp_bind]
  refine wp_deleteRow fun deleted v log rows => ?_
  have alone : ∀ (w : View (Table Row) Mark), w.rows = v.rows → .removed user id deleted none ∈ w.log →
      Safe space h.current w.log → AllKept space w.rows := by
    intro w same marked safe
    obtain ⟨own, _, removal⟩ := safe _ marked
    exact AllKept.removed nodup kept ⟨rows, by simp [same], by simp [same], by simp [same], own⟩ removal
  rw [wp_ite]
  refine ⟨fun _ => ?_, fun _ => ?_⟩
  · unfold promote
    rw [wp_bind, wp_select]
    intro d n _
    cases newest space user d with
    | none =>
      simp only [wp_note]
      exact fun _ safe => ⟨alone _ rfl (by simp) safe, trivial⟩
    | some found =>
      obtain ⟨next, address⟩ := found
      simp only
      rw [wp_bind, wp_note]
      have promoted : ∀ (w : View (Table Row) Mark), Saved next (fun _ => true) v.rows w.rows →
          .removed user id deleted (some next) ∈ w.log → Safe space h.current w.log → AllKept space w.rows := by
        intro w saved marked safe
        obtain ⟨own, ownNext, removal⟩ := safe _ marked
        have ownNext : NotAnothers v.rows user next := by
          intro row stands
          exact ownNext next rfl row (undeleted rows stands)
        refine AllKept.removed nodup kept
          ⟨rows, fun u k => saved.owners u k, fun u other k => saved.others ownNext u other k, fun k => ?_, own⟩ removal
        by_cases same : k = next
        · subst same
          rw [saved.named]
          simp
        · have unchosen : k ∉ some next := fun chosen => same (Option.some.inj chosen).symm
          rw [saved.unnamed same, if_neg unchosen]
      refine wp_saveAddress (fun w stored free log' rows' _ safe => ⟨?_, trivial⟩)
        fun w e j reread g sees read log' rows' written _ safe => ⟨?_, trivial⟩
      · exact promoted w (Or.inl ⟨free, stored, rows'⟩) (by simp [log']) safe
      · have raised := safe (.raised next reread.address.isDefault) (by simp [log'])
        exact promoted w (saved_raised rfl rows' written fun found row stands => raised found row (undeleted rows stands))
          (by simp [log']) safe
  · rw [wp_note]
    exact fun _ safe => ⟨alone _ rfl (by simp) safe, trivial⟩

theorem written_keeps {body : Action Unit} (keeps : body.Keeps (Safe space) (sound space) fun _ _ => True) :
    (.tx body (fun _ => .done (.ok ())) fun e => .done (.error e) : Request).All fun _ body =>
      body.Keeps (Safe space) (sound space) fun _ _ => True :=
  .tx keeps (fun _ => .done _) fun _ => .done _

theorem asked_keeps {r : Request} (nodup : space.Nodup) (asked : Asked decimal space r) :
    r.All fun _ body => body.Keeps (Safe space) (sound space) fun _ _ => True := by
  cases asked with
  | add user dto answer newId now listed =>
    refine .tx (keeps_select _ fun _ => trivial) (fun count => ?_) fun _ => .done _
    split
    · exact .done _
    · split
      · exact .done _
      · exact written_keeps (storeAdded_keeps nodup _ listed)
  | update user id dto answer =>
    refine .tx (keeps_select _ fun _ => trivial) (fun found => ?_) fun _ => .done _
    cases found with
    | none => exact .done _
    | some loaded =>
      dsimp only
      split
      · exact .done _
      · split
        · exact .done _
        · split
          · exact .done _
          · exact written_keeps (storeUpdated_keeps nodup nofun)
        · exact written_keeps (storeUpdated_keeps nodup fun _ => rfl)
        · exact written_keeps (storeUpdated_keeps nodup nofun)
  | delete user id =>
    refine .tx (keeps_select _ fun _ => trivial) (fun found => ?_) fun _ => .done _
    cases found with
    | none => exact .done _
    | some loaded => exact written_keeps (storeDeleted_keeps nodup loaded.isDefault)
  | setDefault user id =>
    refine .tx (keeps_select _ fun _ => trivial) (fun found => ?_) fun _ => .done _
    cases found with
    | none => exact .done _
    | some loaded => exact written_keeps (storeDefault_keeps nodup loaded)

end

def home (isDefault : Bool) : CreateAddressDto :=
  ⟨"1 Quay Street", some "10.776912", some "106.700034", "An", "0901234567", some isDefault⟩

def silent : String → GeocodeResult := fun _ => ⟨none, none, false⟩

/-- A user adds two addresses, the second as the default one, and deletes the second. -/
def moving : Nat → Request
  | 0 => addAddress some [1, 2] 7 (home false) silent 1 0
  | 1 => addAddress some [1, 2] 7 (home true) silent 2 1
  | _ => deleteAddress some [1, 2] 7 2

end Marketplace.Addresses
