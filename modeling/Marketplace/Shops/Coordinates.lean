import Marketplace.ReadCommitted.Invariant
import Marketplace.Shops.Schema

/-! `updateMyShop` and `GeocodingRetryCron`: whose coordinates a shop shows as verified. -/
namespace Marketplace.Shops
open ReadCommitted ReadCommitted.Tx

inductive Key where
  | shop (id : Id)
  /-- The ids of the shops, oldest first. -/
  | shops
deriving DecidableEq

@[reducible] def Row : Key → Type
  | .shop _ => Shop
  | .shops => List Id

/-- What a transaction leaves for the specification. -/
inductive Mark where
  /-- The geocoder gave the coordinates for the address. -/
  | obtained (address : Option String) (lat lng : Number)
  /-- An update of the shop brought the coordinates with the address. -/
  | supplied (shop : Id) (address : Option String) (lat lng : Number)
  /-- An update brought coordinates alone. -/
  | pinned (shop : Id) (address : Option String) (lat lng : Number)
  | saved (shop : Id) (mem reread : Shop)
  | retried (shop : Id) (address : String)
deriving DecidableEq

abbrev Db := Rows (Table Row)
abbrev Action := Tx (Table Row) Mark Err
abbrev Request := Req (Table Row) Mark Err (Except Err Unit)

def shops (d : Db) : List (Id × Shop) :=
  (listed (d .shops)).filterMap fun id => (d (.shop id)).map fun shop => (id, shop)

def findOneByUserId (d : Db) (user : Id) : Option (Id × Shop) := (shops d).find? fun (_, shop) => shop.seller = user

/-- `none` is a key that the body lacks. -/
structure UpdateShopDto where
  name : Option String
  description : Option (Option String)
  pickupAddress : Option (Option String)
  lat : Option (Option Number)
  lng : Option (Option Number)
  logoUrl : Option (Option String)
  bannerUrl : Option (Option String)
  bankAccountInfo : Option (Option BankAccountInfo)
  categoryIds : Option (List String)
deriving DecidableEq

def UpdateShopDto.empty : UpdateShopDto := ⟨none, none, none, none, none, none, none, none, none⟩

/-- `Object.assign(shop, shopInfo)`. -/
def UpdateShopDto.assign (dto : UpdateShopDto) (shop : Shop) : Shop :=
  { shop with
    name := dto.name.getD shop.name
    description := dto.description.getD shop.description
    pickupAddress := dto.pickupAddress.getD shop.pickupAddress
    logoUrl := dto.logoUrl.getD shop.logoUrl
    bannerUrl := dto.bannerUrl.getD shop.bannerUrl
    bankAccountInfo := dto.bankAccountInfo.getD shop.bankAccountInfo }

/-- The entity to save for shop `id`, and where its coordinates come from. -/
def locate (answer : String → GeocodeResult) (id : Id) (dto : UpdateShopDto) (loaded : Shop) : Shop × List Mark :=
  let shop := dto.assign loaded
  match dto.lat.join, dto.lng.join with
  | some lat, some lng =>
    ({ shop with lat := some lat, lng := some lng, isCoordinatesVerified := true },
      if dto.pickupAddress.isSome then [.supplied id shop.pickupAddress lat lng] else [.pinned id shop.pickupAddress lat lng])
  | _, _ =>
    if dto.pickupAddress.isSome then
      match (geocode answer shop.pickupAddress).found with
      | some (lat, lng) =>
        ({ shop with lat := some lat, lng := some lng, isCoordinatesVerified := true },
          [.obtained shop.pickupAddress lat lng])
      -- the cron will try again
      | none => ({ shop with lat := none, lng := none, isCoordinatesVerified := false }, [])
    else (shop, [])

section
variable (decimal : Decimal)

/-- A coordinate after a save, in the column. -/
def writtenCoordinate (mem reread current : Option Number) : Option Number :=
  if mem = reread then current else mem.map decimal.cast

def writeShop (mem reread current : Shop) : Shop where
  seller := column mem.seller reread.seller current.seller
  name := column mem.name reread.name current.name
  logoUrl := column mem.logoUrl reread.logoUrl current.logoUrl
  bannerUrl := column mem.bannerUrl reread.bannerUrl current.bannerUrl
  description := column mem.description reread.description current.description
  bankAccountInfo := column mem.bankAccountInfo reread.bankAccountInfo current.bankAccountInfo
  pickupAddress := column mem.pickupAddress reread.pickupAddress current.pickupAddress
  lat := writtenCoordinate decimal mem.lat reread.lat current.lat
  lng := writtenCoordinate decimal mem.lng reread.lng current.lng
  isCoordinatesVerified := column mem.isCoordinatesVerified reread.isCoordinatesVerified current.isCoordinatesVerified
  status := column mem.status reread.status current.status

/-- `shopsRepository.save(shop)`. -/
def saveShop (id : Id) (mem : Shop) (marks : List Mark) : Action Unit := do
  forM marks note
  match ← select fun d => d (.shop id) with
  | none => modify (.shop id) fun _ => some { mem with lat := mem.lat.map decimal.cast, lng := mem.lng.map decimal.cast }
  | some reread =>
    note (.saved id mem reread)
    if mem = reread then pure () else modify (.shop id) (Option.map (writeShop decimal mem reread))

def saveRequest (id : Id) (shop : Shop × List Mark) : Request :=
  .tx (saveShop decimal id shop.1 shop.2) (fun _ => .done (.ok ())) fun e => .done (.error e)

/-- `answer` is the geocoder's, `rootCategories` what the check of the categories, which other tables hold, comes to. -/
def updateMyShop (user : Id) (dto : UpdateShopDto) (answer : String → GeocodeResult)
    (rootCategories : List String → Except Err Unit) : Request :=
  .tx (select fun d => findOneByUserId d user)
    (fun
      | none => .done (.error (.notFound "Không tìm thấy gian hàng của bạn"))
      | some (id, loaded) =>
        if dto = .empty then .done (.error (.badRequest "Dữ liệu cập nhật không được để trống"))
        else
          match (dto.categoryIds.elim (.ok ()) rootCategories : Except Err Unit) with
          | .error e => .done (.error e)
          | .ok _ => saveRequest decimal id (locate answer id dto loaded))
    fun e => .done (.error e)

def BATCH_SIZE : Nat := 20

def findUnverifiedShops (d : Db) (limit : Nat) : List (Id × Shop) :=
  ((shops d).filter fun (_, shop) => !shop.isCoordinatesVerified).take limit

def updateShopCoordinates (id : Id) (lat lng : Number) : Action Unit :=
  modify (.shop id) (Option.map fun row =>
    { row with lat := some (decimal.cast lat), lng := some (decimal.cast lng), isCoordinatesVerified := true })

def retryShop (id : Id) (address : String) (lat lng : Number) : Action Unit := do
  note (.obtained (some address) lat lng)
  note (.retried id address)
  updateShopCoordinates decimal id lat lng

/-- The loop of the cron. `answer n` is the geocoder's to the shop after `n` others. -/
def retryShops (answer : Nat → String → GeocodeResult) : Nat → List (Id × Shop) → Request
  | _, [] => .done (.ok ())
  | n, (id, shop) :: rest =>
    match shop.pickupAddress with
    | none => retryShops answer (n + 1) rest
    | some address =>
      match (geocode (answer n) (some address)).found with
      | none => retryShops answer (n + 1) rest
      | some (lat, lng) =>
        .tx (retryShop decimal id address lat lng) (fun _ => retryShops answer (n + 1) rest) fun e => .done (.error e)

def handleCron (answer : Nat → String → GeocodeResult) : Request :=
  .tx (select fun d => findUnverifiedShops d BATCH_SIZE) (retryShops decimal answer 0) fun e => .done (.error e)

inductive Asked : Request → Prop
  | update (user : Id) (dto : UpdateShopDto) (answer : String → GeocodeResult)
      (rootCategories : List String → Except Err Unit) : Asked (updateMyShop decimal user dto answer rootCategories)
  | cron (answer : Nat → String → GeocodeResult) : Asked (handleCron decimal answer)

end

/-- The coordinates were obtained for the address, or supplied for the shop together with it. -/
def Matched (journal : List Mark) (id : Id) (address : Option String) (lat lng : Number) : Prop :=
  .obtained address lat lng ∈ journal ∨ .supplied id address lat lng ∈ journal

instance (journal : List Mark) (id : Id) (address : Option String) (lat lng : Number) :
    Decidable (Matched journal id address lat lng) := inferInstanceAs (Decidable (_ ∨ _))

/-- A save changes neither the address nor the coordinates nor the flag; or those it does not change still stand as it
has re-read them; or the flag it writes, or leaves, is off. -/
def Settles (mem reread row : Shop) : Prop :=
  (mem.pickupAddress = reread.pickupAddress ∧ mem.lat = reread.lat ∧ mem.lng = reread.lng ∧
    mem.isCoordinatesVerified = reread.isCoordinatesVerified) ∨
  ((mem.pickupAddress = reread.pickupAddress → row.pickupAddress = reread.pickupAddress) ∧
    (mem.lat = reread.lat → row.lat = reread.lat) ∧ (mem.lng = reread.lng → row.lng = reread.lng) ∧
    (mem.isCoordinatesVerified = reread.isCoordinatesVerified → row.isCoordinatesVerified = reread.isCoordinatesVerified)) ∨
  (if mem.isCoordinatesVerified = reread.isCoordinatesVerified then row.isCoordinatesVerified
    else mem.isCoordinatesVerified) = false

instance (mem reread row : Shop) : Decidable (Settles mem reread row) := by
  unfold Settles
  infer_instance

/-- A save settles; the cron finds the address it has asked for; coordinates that come alone are known for the address. -/
def Mark.Safe (s : Store (Table Row) Mark) : Mark → Prop
  | .saved id mem reread => ∀ row ∈ s.rows (.shop id), Settles mem reread row
  | .retried id address => ∀ row ∈ s.rows (.shop id), row.pickupAddress = some address
  | .pinned id address lat lng => Matched s.journal id address lat lng
  | _ => True

instance (s : Store (Table Row) Mark) (e : Mark) : Decidable (e.Safe s) := by
  unfold Mark.Safe
  split <;> infer_instance

def Safe (s : Store (Table Row) Mark) (log : List Mark) : Prop := ∀ e ∈ log, e.Safe s

instance (s : Store (Table Row) Mark) (log : List Mark) : Decidable (Safe s log) :=
  inferInstanceAs (Decidable (∀ e ∈ log, e.Safe s))

section
variable (decimal : Decimal)

/-- A verified shop holds coordinates of its current pickup address. -/
def Located (journal : List Mark) (id : Id) (shop : Shop) : Prop :=
  shop.isCoordinatesVerified = true → ∃ lat lng, shop.lat = some (decimal.cast lat) ∧ shop.lng = some (decimal.cast lng) ∧
    Matched journal id shop.pickupAddress lat lng

def AllLocated (s : Store (Table Row) Mark) : Prop :=
  ∀ id shop, s.rows (.shop id) = some shop → Located decimal s.journal id shop

/-- The columns hold what the database gives back. -/
structure Stored (shop : Shop) : Prop where
  lat : shop.lat.map decimal.cast = shop.lat
  lng : shop.lng.map decimal.cast = shop.lng

/-- An entity to save, with the marks its transaction is to leave. -/
def Credible (journal : List Mark) (id : Id) (mem : Shop) (marks : List Mark) : Prop :=
  mem.isCoordinatesVerified = true → ∃ lat lng, mem.lat.map decimal.cast = some (decimal.cast lat) ∧
    mem.lng.map decimal.cast = some (decimal.cast lng) ∧
      (Matched (journal ++ marks) id mem.pickupAddress lat lng ∨ .pinned id mem.pickupAddress lat lng ∈ marks)

end

theorem Matched.mono {journal more : List Mark} {id : Id} {address : Option String} {lat lng : Number}
    (matched : Matched journal id address lat lng) (grown : journal ⊆ more) : Matched more id address lat lng :=
  matched.imp (fun member => grown member) fun member => grown member

section
variable {decimal : Decimal} {journal marks : List Mark} {id : Id} {mem reread row : Shop}

theorem Located.mono {more : List Mark} (located : Located decimal journal id row) (grown : journal ⊆ more) :
    Located decimal more id row := by
  intro flagged
  obtain ⟨lat, lng, west, east, matched⟩ := located flagged
  exact ⟨lat, lng, west, east, matched.mono grown⟩

theorem Credible.mono {more : List Mark} (credible : Credible decimal journal id mem marks) (grown : journal ⊆ more) :
    Credible decimal more id mem marks := by
  intro flagged
  obtain ⟨lat, lng, west, east, source⟩ := credible flagged
  refine ⟨lat, lng, west, east, source.imp_left fun matched => matched.mono ?_⟩
  exact List.append_subset.mpr ⟨fun _ member => List.mem_append_left _ (grown member), List.subset_append_right _ _⟩

/-- The entity of an update has coordinates of its address, if the loaded one has. -/
theorem credible_locate (answer : String → GeocodeResult) (dto : UpdateShopDto) (located : Located decimal journal id row) :
    Credible decimal journal id (locate answer id dto row).1 (locate answer id dto row).2 := by
  unfold locate
  dsimp only
  split
  · rename_i lat lng _ _
    refine fun _ => ⟨lat, lng, rfl, rfl, ?_⟩
    split
    · exact Or.inl (Or.inr (List.mem_append_right _ (List.mem_singleton.mpr rfl)))
    · exact Or.inr (List.mem_singleton.mpr rfl)
  · split
    · split
      · rename_i lat lng _
        exact fun _ => ⟨lat, lng, rfl, rfl, Or.inl (Or.inl (List.mem_append_right _ (List.mem_singleton.mpr rfl)))⟩
      · exact nofun
    · rename_i kept
      intro flagged
      obtain ⟨lat, lng, west, east, matched⟩ := located flagged
      have address : (dto.assign row).pickupAddress = row.pickupAddress := by
        rw [Option.not_isSome_iff_eq_none] at kept
        simp [UpdateShopDto.assign, kept]
      refine ⟨lat, lng, ?_, ?_, Or.inl ?_⟩
      · change row.lat.map decimal.cast = _
        rw [west, Option.map_some, decimal.idem]
      · change row.lng.map decimal.cast = _
        rw [east, Option.map_some, decimal.idem]
      · rw [address]
        exact matched.mono (List.subset_append_left _ _)

/-- The row after a save. -/
theorem Located.written (located : Located decimal journal id row) (stored : Stored decimal row)
    (credible : Credible decimal journal id mem marks)
    (safe : ∀ lat lng, .pinned id mem.pickupAddress lat lng ∈ marks → Matched journal id mem.pickupAddress lat lng)
    (settles : Settles mem reread row) : Located decimal (journal ++ marks) id (writeShop decimal mem reread row) := by
  rcases settles with ⟨address, west, east, flag⟩ | ⟨address, west, east, flag⟩ | off
  · -- the four columns stand
    have same : Located decimal journal id (writeShop decimal mem reread row) := by
      simp only [Located, writeShop, writtenCoordinate, address, west, east, flag, column_same, if_true]
      exact located
    exact same.mono (List.subset_append_left _ _)
  · -- the four columns are those in memory
    intro flagged
    have pickup : (writeShop decimal mem reread row).pickupAddress = mem.pickupAddress := by
      simp only [writeShop, column]
      split
      · rename_i same; rw [address same, same]
      · rfl
    have lat : (writeShop decimal mem reread row).lat = mem.lat.map decimal.cast := by
      simp only [writeShop, writtenCoordinate]
      split
      · rename_i same; rw [same, ← west same, stored.lat]
      · rfl
    have lng : (writeShop decimal mem reread row).lng = mem.lng.map decimal.cast := by
      simp only [writeShop, writtenCoordinate]
      split
      · rename_i same; rw [same, ← east same, stored.lng]
      · rfl
    have verified : mem.isCoordinatesVerified = true := by
      simp only [writeShop, column] at flagged
      split at flagged
      · rename_i same; rw [same, ← flag same, flagged]
      · exact flagged
    obtain ⟨north, south, found, beside, source⟩ := credible verified
    rw [pickup, lat, lng]
    refine ⟨north, south, found, beside, ?_⟩
    rcases source with matched | pinned
    · exact matched
    · exact (safe _ _ pinned).mono (List.subset_append_left _ _)
  · intro flagged
    simp only [writeShop, column] at flagged
    rw [off] at flagged
    cases flagged

theorem Stored.written (stored : Stored decimal row) (mem reread : Shop) : Stored decimal (writeShop decimal mem reread row) := by
  have cast_cast : ∀ coordinate : Option Number, (coordinate.map decimal.cast).map decimal.cast = coordinate.map decimal.cast := by
    intro coordinate
    rw [Option.map_map]
    exact congrArg (Option.map · coordinate) (funext decimal.idem)
  constructor
  · simp only [writeShop, writtenCoordinate]
    split
    · exact stored.lat
    · exact cast_cast _
  · simp only [writeShop, writtenCoordinate]
    split
    · exact stored.lng
    · exact cast_cast _

/-- Every row has been stored, and every verified one located. -/
def Founded (decimal : Decimal) (s : Store (Table Row) Mark) : Prop :=
  ∀ id shop, s.rows (.shop id) = some shop → Located decimal s.journal id shop ∧ Stored decimal shop

def Grows (s t : Store (Table Row) Mark) : Prop := ∃ more, t.journal = s.journal ++ more

/-- A request under way, by what it has in memory. -/
inductive UnderWay (decimal : Decimal) (journal : List Mark) : Request → Prop
  | asked {r : Request} (asked : Asked decimal r) : UnderWay decimal journal r
  | save {id : Id} {shop : Shop × List Mark} (credible : Credible decimal journal id shop.1 shop.2) :
      UnderWay decimal journal (saveRequest decimal id shop)
  | retry (answer : Nat → String → GeocodeResult) (n : Nat) (found : List (Id × Shop)) :
      UnderWay decimal journal (retryShops decimal answer n found)
  | done (out : Except Err Unit) : UnderWay decimal journal (.done out)

theorem UnderWay.mono {more : List Mark} {r : Request} (underWay : UnderWay decimal journal r) (grown : journal ⊆ more) :
    UnderWay decimal more r := by
  cases underWay with
  | asked asked => exact .asked asked
  | save credible => exact .save (credible.mono grown)
  | retry answer n found => exact .retry answer n found
  | done out => exact .done out

variable (decimal) in
/-- The rest of a batch is nothing, or the update of a shop before a shorter rest. -/
theorem retryShops_cases (answer : Nat → String → GeocodeResult) (n : Nat) (found : List (Id × Shop)) :
    retryShops decimal answer n found = .done (.ok ()) ∨ ∃ id address lat lng k rest,
      retryShops decimal answer n found =
        .tx (retryShop decimal id address lat lng) (fun _ => retryShops decimal answer k rest) fun e => .done (.error e) := by
  induction found generalizing n with
  | nil => exact Or.inl rfl
  | cons shop rest ih =>
    obtain ⟨id, row⟩ := shop
    rw [retryShops]
    split
    · exact ih (n + 1)
    · split
      · exact ih (n + 1)
      · exact Or.inr ⟨_, _, _, _, _, _, rfl⟩

variable {h : History (Table Row) Mark} {m : Nat}

/-- What a transaction that has written one shop leaves. -/
theorem founded_commit {w : View (Table Row) Mark} {id : Id} (founded : Founded decimal h.current)
    (others : ∀ other, other ≠ id → w.rows (.shop other) = h.current.rows (.shop other))
    (own : ∀ shop, w.rows (.shop id) = some shop → Located decimal (h.current.journal ++ w.log) id shop ∧ Stored decimal shop) :
    Founded decimal (h.commit w) := by
  intro other shop stands
  by_cases same : other = id
  · subst same
    exact own shop stands
  · obtain ⟨located, stored⟩ := founded other shop ((others other same).symm.trans stands)
    exact ⟨located.mono (List.subset_append_left _ _), stored⟩

theorem Founded.unchanged {w : View (Table Row) Mark} (founded : Founded decimal h.current)
    (rows : w.rows = h.current.rows) : Founded decimal (h.commit w) := by
  intro id shop stands
  obtain ⟨located, stored⟩ := founded id shop ((congrFun rows _).symm.trans stands)
  exact ⟨located.mono (List.subset_append_left _ _), stored⟩

theorem saveShop_founded (founded : Founded decimal h.current) {shop : Shop × List Mark}
    (credible : Credible decimal h.current.journal id shop.1 shop.2) :
    (saveShop decimal id shop.1 shop.2).wp h.isolation (fun _ w => Safe h.current w.log → Founded decimal (h.commit w))
      (fun _ => True) (View.start h.current.rows m) := by
  obtain ⟨mem, marks⟩ := shop
  have known : ∀ log, marks ⊆ log → Safe h.current log → ∀ lat lng, .pinned id mem.pickupAddress lat lng ∈ marks →
      Matched h.current.journal id mem.pickupAddress lat lng := by
    intro log inside safe lat lng member
    exact safe (.pinned id mem.pickupAddress lat lng) (inside member)
  unfold saveShop
  rw [wp_bind]
  refine wp_forM_note _ ?_
  rw [wp_bind, wp_select]
  intro d j _
  cases d (.shop id) with
  | none =>
    -- the row is inserted
    rw [wp_modify]
    intro safe
    refine founded_commit founded (fun other different => View.put_rows_other _ _ (by simpa using different)) ?_
    intro row stands
    rw [View.put_rows_self] at stands
    obtain rfl := Option.some.inj stands
    refine ⟨fun flagged => ?_, ?_, ?_⟩
    · obtain ⟨lat, lng, north, south, source⟩ := credible flagged
      refine ⟨lat, lng, north, south, ?_⟩
      rcases source with matched | pinned
      · exact matched
      · exact (known _ (List.Subset.refl _) safe lat lng pinned).mono (List.subset_append_left _ _)
    · simp [Option.map_map, Function.comp_def, decimal.idem]
    · simp [Option.map_map, Function.comp_def, decimal.idem]
  | some reread =>
    dsimp only
    rw [wp_bind, wp_note, wp_ite]
    refine ⟨fun _ _ => founded.unchanged rfl, fun _ => ?_⟩
    rw [wp_modify]
    intro safe
    refine founded_commit founded (fun other different => View.put_rows_other _ _ (by simpa using different)) ?_
    intro row stands
    rw [View.put_rows_self] at stands
    obtain ⟨current, standing, rfl⟩ := Option.map_eq_some_iff.mp stands
    obtain ⟨located, stored⟩ := founded id current standing
    have settles : Settles mem reread current := safe (.saved id mem reread) (by simp) current standing
    have written := located.written stored credible (known _ (List.subset_append_left _ _) safe) settles
    refine ⟨written.mono ?_, stored.written mem reread⟩
    exact List.append_subset.mpr ⟨List.subset_append_left _ _, fun e member =>
      List.mem_append_right _ (List.mem_append_left _ member)⟩

theorem retryShop_founded (founded : Founded decimal h.current) (id : Id) (address : String) (lat lng : Number) :
    (retryShop decimal id address lat lng).wp h.isolation (fun _ w => Safe h.current w.log → Founded decimal (h.commit w))
      (fun _ => True) (View.start h.current.rows m) := by
  unfold retryShop updateShopCoordinates
  rw [wp_bind, wp_note, wp_bind, wp_note, wp_modify]
  intro safe
  refine founded_commit founded (fun other different => View.put_rows_other _ _ (by simpa using different)) ?_
  intro row stands
  rw [View.put_rows_self] at stands
  obtain ⟨current, standing, rfl⟩ := Option.map_eq_some_iff.mp stands
  have asked : current.pickupAddress = some address := safe (.retried id address) (by simp) current standing
  refine ⟨fun _ => ⟨lat, lng, rfl, rfl, Or.inl ?_⟩, ?_, ?_⟩
  · rw [asked]
    simp
  · exact congrArg some (decimal.idem lat)
  · exact congrArg some (decimal.idem lng)

end

theorem findOneByUserId_row {d : Db} {user id : Id} {row : Shop} (found : findOneByUserId d user = some (id, row)) :
    d (.shop id) = some row := by
  obtain ⟨other, _, same⟩ := List.mem_filterMap.mp (List.mem_of_find?_eq_some found)
  obtain ⟨shop, stands, eq⟩ := Option.map_eq_some_iff.mp same
  cases eq
  exact stands

/-- Rows keep to their addresses, and requests to what they have read. -/
def locating (decimal : Decimal) : Invariant (Table Row) Mark Err (Except Err Unit) Safe .database where
  Inv := Founded decimal
  Le := Grows
  Ready _ s r := UnderWay decimal s.journal r
  le_refl s := ⟨[], by simp⟩
  le_trans := by
    rintro s t u ⟨early, first⟩ ⟨late, second⟩
    exact ⟨early ++ late, by rw [second, first, List.append_assoc]⟩
  ready_le := by
    rintro i s t r ⟨more, grown⟩ underWay
    exact underWay.mono (grown ▸ List.subset_append_left _ _)
  aborted := by
    intro i s α body ok err underWay
    generalize made : (Req.tx body ok err : Request) = r at underWay
    cases underWay with
    | asked asked =>
      cases asked with
      | update => cases made; exact .done _
      | cron => cases made; exact .done _
    | save => cases made; exact .done _
    | retry answer n found =>
      rcases retryShops_cases decimal answer n found with last | ⟨_, _, _, _, _, _, next⟩
      · rw [last] at made; cases made
      · rw [next] at made; cases made; exact .done _
    | done => cases made
  commits := by
    intro i α body ok err h m sound ordered small underWay
    have founded := sound h.now (Nat.le_refl _)
    have read : ∀ j ≤ h.now, ∀ id shop, (h.past j).rows (.shop id) = some shop → Located decimal h.current.journal id shop := by
      intro j earlier id shop stands
      obtain ⟨more, grown⟩ := ordered j h.now earlier (Nat.le_refl _)
      exact (sound j earlier id shop stands).1.mono (grown ▸ List.subset_append_left _ _)
    generalize made : (Req.tx body ok err : Request) = r at underWay
    cases underWay with
    | asked asked =>
      cases asked with
      | update user dto answer rootCategories =>
        cases made
        rw [wp_select]
        rintro d j ⟨_, earlier, rows⟩ _ _
        obtain rfl : d = (h.past j).rows := rows
        refine ⟨founded.unchanged rfl, ⟨_, rfl⟩, ?_⟩
        generalize loaded : findOneByUserId (h.past j).rows user = found
        cases found with
        | none => exact .done _
        | some shop =>
          obtain ⟨id, row⟩ := shop
          have there : (h.past j).rows (.shop id) = some row := findOneByUserId_row loaded
          dsimp only
          split
          · exact .done _
          · split
            · exact .done _
            · exact .save ((credible_locate answer dto (read j earlier id row there)).mono (List.subset_append_left _ _))
      | cron answer =>
        cases made
        rw [wp_select]
        intro d j _ _ _
        exact ⟨founded.unchanged rfl, ⟨_, rfl⟩, .retry answer 0 _⟩
    | @save id shop credible =>
      cases made
      have since := ordered m h.now small (Nat.le_refl _)
      obtain ⟨more, grown⟩ := since
      have credible : Credible decimal h.current.journal id shop.1 shop.2 :=
        credible.mono (grown ▸ List.subset_append_left _ _)
      refine wp_mono _ (saveShop_founded founded credible) (fun _ w saved _ safe => ?_) fun e _ => .done _
      exact ⟨saved safe, ⟨_, rfl⟩, .done _⟩
    | retry answer n found =>
      rcases retryShops_cases decimal answer n found with last | ⟨id, address, lat, lng, k, rest, next⟩
      · rw [last] at made
        cases made
      · rw [next] at made
        cases made
        refine wp_mono _ (retryShop_founded founded id address lat lng) (fun _ w saved _ safe => ?_) fun e _ => .done _
        exact ⟨saved safe, ⟨_, rfl⟩, .retry answer k rest⟩
    | done => cases made

/-- In every run whose commits are safe, a verified shop holds coordinates of its current pickup address. -/
theorem verified_located {decimal : Decimal} {r : Nat → Request} {s : Store (Table Row) Mark}
    {c : Conf (Table Row) Mark Err (Except Err Unit)} (asked : ∀ i, Asked decimal (r i)) (founded : Founded decimal s)
    (run : Moves Safe .database (Conf.start s r) c) : AllLocated decimal c.store := by
  have sound := ((locating decimal).run_safe founded (fun i => .asked (asked i)) run).1
  exact fun id shop stands => (sound id shop stands).1

/-- Texts with six decimals. -/
def sixDecimals : Decimal := ⟨fun text => text, fun _ => rfl⟩

def market : Shop :=
  ⟨7, "Market", none, none, none, none, some "1 Quay Street", none, none, false, .active⟩

def opened : Store (Table Row) Mark where
  rows
    | .shop 1 => some market
    | .shops => some [1]
    | _ => none
  journal := []

theorem opened_founded : Founded sixDecimals opened := by
  intro id shop stands
  by_cases one : id = 1
  · subst one
    cases stands
    exact ⟨nofun, rfl, rfl⟩
  · simp [opened, one] at stands

def quay (text : String) : GeocodeResult :=
  if text = "1 Quay Street" then ⟨some "10.776912", some "106.700034", true⟩ else ⟨none, none, false⟩

def move (address : String) : UpdateShopDto := { UpdateShopDto.empty with pickupAddress := some (some address) }

/-- The cron, and the seller with a new address. -/
def cronAndSeller : Nat → Request
  | 0 => handleCron sixDecimals fun _ => quay
  | _ => updateMyShop sixDecimals 7 (move "2 Hill Road") quay fun _ => .ok ()

theorem cronAndSeller_asked (i : Nat) : Asked sixDecimals (cronAndSeller i) := by
  cases i with
  | zero => exact .cron _
  | succ i => exact .update 7 (move "2 Hill Road") quay fun _ => .ok ()

theorem market_located : ∃ c : Conf (Table Row) Mark Err (Except Err Unit),
    (c.store.rows (.shop 1)).map (·.isCoordinatesVerified) = some true ∧ AllLocated sixDecimals c.store := by
  have obeys : (Conf.start opened cronAndSeller).Obeys Safe (List.replicate 3 0 ++ List.replicate 3 1 ++ List.replicate 5 0) := by
    decide +kernel
  have found : ∃ c ∈ (Conf.start opened cronAndSeller).play (List.replicate 3 0 ++ List.replicate 3 1 ++ List.replicate 5 0),
      (c.store.rows (.shop 1)).map (·.isCoordinatesVerified) = some true := by decide +kernel
  obtain ⟨c, run, verified⟩ := Conf.exists_moves Err.database obeys found
  exact ⟨c, verified, verified_located cronAndSeller_asked opened_founded run⟩

/-- Whether the coordinates of the mark are for the address. -/
def Mark.isFor (address : String) : Mark → Bool
  | .obtained other _ _ => other = some address
  | .supplied _ other _ _ => other = some address
  | _ => false

/-- The seller moves while the geocoder is asked for the old address. -/
theorem not_verified_located :
    ¬ ∀ (decimal : Decimal) (r : Nat → Request) (s : Store (Table Row) Mark)
      (c : Conf (Table Row) Mark Err (Except Err Unit)), (∀ i, Asked decimal (r i)) → Founded decimal s →
      Moves (fun _ _ => True) .database (Conf.start s r) c → AllLocated decimal c.store := by
  intro claimed
  have found : ∃ c ∈ (Conf.start opened cronAndSeller).play (List.replicate 3 0 ++ List.replicate 8 1 ++ List.replicate 5 0),
      (∃ shop ∈ c.store.rows (.shop 1), shop.isCoordinatesVerified = true ∧ shop.pickupAddress = some "2 Hill Road") ∧
        ∀ e ∈ c.store.journal, e.isFor "2 Hill Road" = false := by decide +kernel
  obtain ⟨c, run, ⟨shop, stands, verified, address⟩, none_⟩ := Conf.exists_moves Err.database (Conf.obeys_any _ _) found
  obtain ⟨lat, lng, _, _, matched⟩ := claimed _ _ _ c cronAndSeller_asked opened_founded run 1 shop stands verified
  rw [address] at matched
  rcases matched with obtained | supplied
  · exact absurd (none_ _ obtained) (by simp [Mark.isFor])
  · exact absurd (none_ _ supplied) (by simp [Mark.isFor])

end Marketplace.Shops
