import Marketplace.Accounts.Tokens

/-! `UsersService`, the guard of signed-in requests and the approval of seller shops. -/
namespace Marketplace.Accounts
open ReadCommitted ReadCommitted.Tx Base64Url

/-- The columns of a save. The password is written whenever it was selected, and only then. -/
def writeUser (selected : Bool) (mem r c : User) : User where
  username := column mem.username r.username c.username
  email := column mem.email r.email c.email
  password := if selected then mem.password else c.password
  googleId := column mem.googleId r.googleId c.googleId
  role := column mem.role r.role c.role
  status := column mem.status r.status c.status
  fullName := column mem.fullName r.fullName c.fullName
  phone := column mem.phone r.phone c.phone
  avatarUrl := column mem.avatarUrl r.avatarUrl c.avatarUrl
  passwordChangedAt := column mem.passwordChangedAt r.passwordChangedAt c.passwordChangedAt

/-- `save` of a user in memory, `selected` with its password column. `marks` records the re-read row. -/
def saveUser (id : Uuid) (selected : Bool) (mem : User) (marks : User → List Mark) : Action Unit := do
  let found ← select fun d => d (.user id)
  match found with
  | none => insert (.user id) mem .database
  | some reread =>
    forM (marks reread) note
    if selected = false ∧ { mem with password := reread.password } = reread then pure ()
    else modify (.user id) (Option.map (writeUser selected mem reread))

/-- The statuses a user's own save has seen: loaded, in memory and re-read. -/
def ownSave (id : Uuid) (loaded mem reread : User) : List Mark :=
  [.userSaved id loaded.status mem.status reread.status]

def adminSave (id : Uuid) (_ : User) : List Mark := [.adminSet id]

def REVOKED_STATUSES : List AccountStatus := [.suspended, .banned]

/-- A signed-in user, as the access token names it. -/
structure IUser where
  sub : Uuid
  iat : Nat

/-- `AccessTokenStrategy.validate`. -/
def validate (payload : IUser) : Action User := do
  let found ← select fun d => (d (.user payload.sub)).filter fun user => user.status ∉ REVOKED_STATUSES
  let user ← orFail (.unauthorized "Tài khoản không còn quyền truy cập. Vui lòng đăng nhập lại.") found
  require (∀ changed ∈ user.passwordChangedAt, changed / 1000 ≤ payload.iat)
    (.unauthorized "Mật khẩu đã được thay đổi. Vui lòng đăng nhập lại.")
  return user

/-- A request of a signed-in user. -/
def signedIn (payload : IUser) (next : Request) : Request :=
  .tx (validate payload) (fun _ => next) fun e => .done (.failed e)

/-- A request behind `@Roles(role)`. -/
def withRole (payload : IUser) (role : UserRole) (next : Request) : Request :=
  .tx (validate payload) (fun user => if user.role = role then next else .done (.failed (.forbidden "Forbidden resource")))
    fun e => .done (.failed e)

def findUserOrFail (userId : Uuid) : Action User := do
  let found ← select fun d => d (.user userId)
  orFail (.notFound "Không tìm thấy người dùng") found

def findByEmail (d : Db) (email : String) : Option (Uuid × User) :=
  (d (.userByEmail email)).bind fun id => (d (.user id)).map fun user => (id, user)

def findByUsername (d : Db) (username : String) : Option (Uuid × User) :=
  (d (.userByUsername username)).bind fun id => (d (.user id)).map fun user => (id, user)

def findByGoogleId (d : Db) (googleId : String) : Option (Uuid × User) :=
  (d (.userByGoogleId googleId)).bind fun id => (d (.user id)).map fun user => (id, user)

/-- Once a password stands, it is compared and replaced. -/
def changeUserPassword (cfg : AuthConfig) (userId : Uuid) (oldPassword newPassword salt : Bytes) (now : Time) :
    Action Unit := do
  let user ← findUserOrFail userId
  require (user.password.isSome)
    (.badRequest "Tài khoản này đăng nhập bằng Google và chưa có mật khẩu. Vui lòng dùng chức năng \"Tạo mật khẩu\".")
  require (compareHashedDataHelper cfg oldPassword user.password) (.badRequest "Mật khẩu cũ không chính xác")
  require (oldPassword ≠ newPassword) (.badRequest "Mật khẩu mới phải khác mật khẩu hiện tại")
  let mem := { user with password := some (cfg.bcrypt.hash salt newPassword), passwordChangedAt := some now }
  note (.passwordSet userId (cfg.bcrypt.hash salt newPassword))
  saveUser userId true mem (ownSave userId user mem)

def setUserPassword (cfg : AuthConfig) (userId : Uuid) (newPassword salt : Bytes) (now : Time) : Action Unit := do
  let user ← findUserOrFail userId
  require (user.password = none)
    (.badRequest "Tài khoản đã có mật khẩu. Vui lòng dùng chức năng đổi mật khẩu.")
  let mem := { user with password := some (cfg.bcrypt.hash salt newPassword), passwordChangedAt := some now }
  saveUser userId true mem (ownSave userId user mem)

/-- A field is absent or a value. -/
structure UpdateProfileDto where
  fullName : Option String
  phone : Option String

def updateProfile (userId : Uuid) (dto : UpdateProfileDto) : Action User := do
  let user ← findUserOrFail userId
  let mem := { user with fullName := dto.fullName <|> user.fullName, phone := dto.phone <|> user.phone }
  saveUser userId false mem (ownSave userId user mem)
  findUserOrFail userId

/-- The status of a user whose email address is confirmed. -/
def confirmedStatus (role : UserRole) : AccountStatus := if role = .seller then .newSeller else .active

/-- What Google tells of a profile. `avatarUrl` is the mirrored copy where there is one. -/
structure GoogleProfile where
  googleId : String
  email : String
  emailVerified : Bool
  fullName : Option String
  avatarUrl : Option String

/-- An empty text counts as none. -/
def truthy (text : Option String) : Option String := text.filter (· ≠ "")

/-- A field that is filled in only where the user has none. -/
def prefill (current offered : Option String) : Option String :=
  if (truthy current).isSome then current else truthy offered <|> current

def linkedUser (user : User) (profile : GoogleProfile) (takeoverPending : Bool) (now : Time) : User :=
  let taken := if takeoverPending then
    { user with password := none, passwordChangedAt := some now, status := confirmedStatus user.role } else user
  { taken with
    googleId := some profile.googleId
    fullName := prefill taken.fullName profile.fullName
    avatarUrl := prefill taken.avatarUrl profile.avatarUrl }

/-- The unique index on `google_id` goes with the row. -/
def forgetGoogleId (googleId : Option String) : Action Unit :=
  match googleId with
  | some old => modify (.userByGoogleId old) fun _ => none
  | none => pure ()

def linkGoogleAccount (id : Uuid) (user : User) (profile : GoogleProfile) (takeoverPending : Bool) (now : Time) :
    Action User := do
  let mem := linkedUser user profile takeoverPending now
  saveUser id true mem (ownSave id user mem)
  forgetGoogleId user.googleId
  insert (.userByGoogleId profile.googleId) id .database
  return mem

def newGoogleUser (username : String) (profile : GoogleProfile) : User :=
  ⟨username, profile.email, none, some profile.googleId, .customer, .active, truthy profile.fullName, none, none, none⟩

def createGoogleUser (newId : Uuid) (username : String) (profile : GoogleProfile) : Action User := do
  let row := newGoogleUser username profile
  insert (.user newId) row .database
  insert (.userByUsername username) newId .database
  insert (.userByEmail profile.email) newId .database
  insert (.userByGoogleId profile.googleId) newId .database
  return row

/-- The second save of a new user, once the picture is mirrored. -/
def saveAvatar (newId : Uuid) (saved : User) (avatarUrl : String) : Action User := do
  let mem := { saved with avatarUrl := some avatarUrl }
  saveUser newId true mem (ownSave newId saved mem)
  return mem

/-- `IsIn(ADMIN_SETTABLE_STATUSES)`. -/
def ADMIN_SETTABLE_STATUSES : List AccountStatus := [.active, .suspended, .banned]

def updateUserStatus (adminId targetId : Uuid) (status : AccountStatus) : Action User := do
  require (status ∈ ADMIN_SETTABLE_STATUSES)
    (.badRequest "Trạng thái chỉ được là active, suspended hoặc banned")
  require (adminId ≠ targetId) (.badRequest "Không thể tự đổi trạng thái của chính mình")
  let target ← findUserOrFail targetId
  require (target.role ≠ .admin) (.forbidden "Không thể thay đổi trạng thái của tài khoản admin khác")
  saveUser targetId false { target with status := status } (adminSave targetId)
  findUserOrFail targetId

def shopColumns : Columns Shop where
  write mem r c :=
    { seller := column mem.seller r.seller c.seller
      name := column mem.name r.name c.name
      status := column mem.status r.status c.status
      rejectReason := column mem.rejectReason r.rejectReason c.rejectReason }
  same := by intro mem c; simp
  fresh := by intro mem r; simp

def findOneByShopId (id : Id) : Action Shop := do
  let found ← select fun d => d (.shop id)
  orFail (.notFound "Không tìm thấy gian hàng") found

/-- `update(User, id, status)`: whatever the row holds. -/
def setUserStatus (mark : Mark) (id : Uuid) (status : AccountStatus) : Action Unit := do
  note mark
  modify (.user id) (Option.map fun user => { user with status := status })

/-- What an approval or a rejection writes. -/
def settleShop (id : Id) (shop : Shop) (status : AccountStatus) (rejectReason : Option String) : Action Unit := do
  save (k := Key.shop id) shopColumns { shop with status := status, rejectReason := rejectReason }
  setUserStatus (.adminSet shop.seller) shop.seller status

def approveShop (id : Id) : Action Unit := do
  let shop ← findOneByShopId id
  settleShop id shop .active shop.rejectReason

/-- `reason.trim() === ''`. -/
def rejectShop (id : Id) (reason : String) : Action Unit := do
  require (isBlank reason = false) (.badRequest "Vui lòng cung cấp lý do từ chối gian hàng để báo cho Seller.")
  let shop ← findOneByShopId id
  settleShop id shop .rejected (some reason)

def findOneByUserId (userId : Uuid) : Action (Id × Shop) := do
  let found ← select fun d => (d (.shopOf userId)).bind fun id => (d (.shop id)).map fun shop => (id, shop)
  orFail (.notFound "Không tìm thấy gian hàng của bạn") found

def rejectedShop (userId : Uuid) : Action (Id × Shop) := do
  let shop ← findOneByUserId userId
  require (shop.2.status = .rejected) (.badRequest "Gian hàng của bạn không ở trạng thái bị từ chối")
  return shop

/-- The last transaction of a re-application. -/
def submitAgain (userId : Uuid) (shop : Id × Shop) : Action Unit := do
  modify (.shop shop.1) (Option.map fun row => { row with status := .pendingApproval, rejectReason := none })
  setUserStatus (.statusSet userId) userId .pendingApproval
  let admins ← select fun d => listed (d .admins)
  note (.shopRegistered shop.1 shop.2.name true admins)

def reApplyShop (userId : Uuid) : Request :=
  .tx (rejectedShop userId) (fun shop => single (submitAgain userId shop) fun _ => .done) fun e => .done (.failed e)

end Marketplace.Accounts
