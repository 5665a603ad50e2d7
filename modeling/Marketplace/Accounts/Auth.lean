import Marketplace.Accounts.Users

/-! `AuthService` and `SessionRotationService`: sessions, mailed tokens and the rotation of refresh tokens. -/
namespace Marketplace.Accounts
open ReadCommitted ReadCommitted.Tx Base64Url

def REFRESH_ROTATION_GRACE_MS : Nat := 10000

/-- What a request draws: fresh ids, salts and the clock in milliseconds. -/
structure Draw where
  id : Uuid
  salt : Bytes
  now : Time

/-- The refresh token of a session; `expiresIn` counts from the second of the signature. -/
def createTokens (cfg : AuthConfig) (user sessionId : Uuid) (now : Time) : RefreshToken :=
  ⟨user, sessionId, now / 1000, now / 1000 + cfg.refreshTokenExpiration / 1000⟩

def hashToken (cfg : AuthConfig) (salt : Bytes) (token : RefreshToken) : Bytes :=
  cfg.bcrypt.hash salt (token.text cfg.sign)

/-- `verified` is the hash that a login has compared a password with. -/
def generateAndSaveSession (cfg : AuthConfig) (user : Uuid) (verified : Option Bytes) (draw : Draw) :
    Action RefreshToken := do
  let token := createTokens cfg user draw.id draw.now
  note (.issued token draw.now)
  note (.opened draw.id user verified)
  insert (.session draw.id)
    ⟨user, some (hashToken cfg draw.salt token), none, none, some (draw.now + cfg.refreshTokenExpiration)⟩ .database
  modify (.sessionsOf user) fun ids => some (listed ids ++ [draw.id])
  return token

def deleteSession (id : Uuid) : Action Unit := modify (.session id) fun _ => none

def deleteSessionsOf (user : Uuid) : Action Unit := do
  let ids ← select fun d => listed (d (.sessionsOf user))
  note (.purged user ids)
  forM ids deleteSession

def deleteTokensOf (user : Uuid) (type : VerificationTokenType) : Action Unit := do
  let ids ← select fun d => listed (d (.tokensOf user))
  note (.cleared user type ids)
  forM ids fun id => deleteWhere (.verificationToken id) fun row => row.type = type

def saveToken (user : Uuid) (type : VerificationTokenType) (draw : Draw) (ttl : Nat) : Action Unit := do
  note (.tokenSaved draw.id user type)
  insert (.verificationToken draw.id) ⟨user, type, draw.now + ttl⟩ .database
  modify (.tokensOf user) fun ids => some (listed ids ++ [draw.id])

/-- The mail itself is best effort. -/
def generateAndSendVerificationEmail (user : Uuid) (draw : Draw) : Action Unit :=
  saveToken user .verifyEmail draw (5 * 60 * 1000)

/-- What a refresh is judged to be. -/
inductive RotationVerdict where
  | notFound
  | expired
  | reuseDetected
  | ok (session : Session) (viaGrace : Bool)

/-- The locked session against the token presented, where `matches_` compares a text with a stored hash. -/
def judgeBy (matches_ : Bytes → Option Bytes → Bool) (session : Session) (presentedToken : Bytes) (now : Time) :
    RotationVerdict :=
  if session.expiresAt.any (· < now) then .expired
  else if matches_ presentedToken session.refreshToken then .ok session false
  else if session.rotatedAt.any (fun rotated => now - rotated ≤ REFRESH_ROTATION_GRACE_MS) ∧
      matches_ presentedToken session.previousRefreshToken then .ok session true
  else .reuseDetected

def judge (cfg : AuthConfig) (session : Session) (presentedToken : Bytes) (now : Time) : RotationVerdict :=
  judgeBy (compareHashedDataHelper cfg) session presentedToken now

def verifyAndLock (matches_ : Bytes → Option Bytes → Bool) (sessionId userId : Uuid) (presentedToken : Bytes)
    (now : Time) : Action RotationVerdict := do
  let found ← selectForUpdate (Key.session sessionId)
  match found.filter fun session => session.user = userId with
  | none => return .notFound
  | some session => return judgeBy matches_ session presentedToken now

def commitRotation (sessionId : Uuid) (session : Session) (newRefreshTokenHash : Bytes) (expiresAt now : Time) :
    Action Unit :=
  modify (.session sessionId) (Option.map fun row =>
    { row with
      previousRefreshToken := session.refreshToken
      refreshToken := some newRefreshTokenHash
      rotatedAt := some now
      expiresAt := some expiresAt })

/-- How a refresh that is not accepted fails. -/
inductive RefreshVerdict where
  | notFound | expired | reuseDetected | userGone

/-- The one transaction of a refresh; it never throws. -/
def rotateBy (matches_ : Bytes → Option Bytes → Bool) (cfg : AuthConfig) (token : RefreshToken) (draw : Draw) :
    Action (Except RefreshVerdict RefreshToken) := do
  match ← verifyAndLock matches_ token.sessionId token.sub (token.text cfg.sign) draw.now with
  | .notFound => return .error .notFound
  | .expired => return .error .expired
  | .reuseDetected =>
    note (.reuse token.sessionId)
    return .error .reuseDetected
  | .ok session _ =>
    let found ← select fun d => d (.user token.sub)
    match found with
    | none => return .error .userGone
    | some _ =>
      let new := createTokens cfg token.sub token.sessionId draw.now
      note (.issued new draw.now)
      commitRotation token.sessionId session (hashToken cfg draw.salt new)
        (draw.now + cfg.refreshTokenExpiration) draw.now
      return .ok new

def rotate (cfg : AuthConfig) (token : RefreshToken) (draw : Draw) : Action (Except RefreshVerdict RefreshToken) :=
  rotateBy (compareHashedDataHelper cfg) cfg token draw

def revokeSession (id : Uuid) (e : Err) : Request :=
  .tx (deleteSession id) (fun _ => .done (.failed e)) fun e => .done (.failed e)

def reuseError : Err :=
  .unauthorized "Refresh Token không hợp lệ. Phiên đăng nhập có thể đã bị xâm phạm!"

def sessionOver : Err := .forbidden "Phiên đăng nhập đã hết hạn. Vui lòng đăng nhập lại."

/-- After the commit: a session is revoked outside the transaction, which a throw would undo. -/
def answerRefresh (token : RefreshToken) : Except RefreshVerdict RefreshToken → Request
  | .ok new => .done (.tokens new)
  | .error .reuseDetected => revokeSession token.sessionId reuseError
  | .error .expired => revokeSession token.sessionId sessionOver
  | .error .notFound => .done (.failed sessionOver)
  | .error .userGone => .done (.failed (.unauthorized "Tài khoản người dùng không còn tồn tại!"))

/-- A refresh with a token whose signature holds; the guard turns down an expired one. -/
def handleRefreshTokenBy (matches_ : Bytes → Option Bytes → Bool) (cfg : AuthConfig) (token : RefreshToken) (draw : Draw) :
    Request :=
  if token.exp ≤ draw.now / 1000 then .done (.failed (.unauthorized "Unauthorized"))
  else .tx (rotateBy matches_ cfg token draw) (answerRefresh token) fun e => .done (.failed e)

def handleRefreshToken (cfg : AuthConfig) (token : RefreshToken) (draw : Draw) : Request :=
  handleRefreshTokenBy (compareHashedDataHelper cfg) cfg token draw

def handleLogout (token : RefreshToken) (now : Time) : Request :=
  if token.exp ≤ now / 1000 then .done .done
  else .tx (deleteSession token.sessionId) (fun _ => .done .done) fun _ => .done .done

/-- The old session goes by the id its token names, verified or not. -/
def handleLogin (cfg : AuthConfig) (user : Uuid) (verified : Option Bytes) (oldRefreshToken : Option RefreshToken)
    (draw : Draw) : Request :=
  let fresh := single (generateAndSaveSession cfg user verified draw) .tokens
  match oldRefreshToken with
  | none => fresh
  | some old => .tx (deleteSession old.sessionId) (fun _ => fresh) fun _ => fresh

def wrongLogin : Err := .unauthorized "Tài khoản hoặc mật khẩu của bạn không đúng"

def validateUser (cfg : AuthConfig) (username : String) (password : Bytes) : Action (Uuid × User) := do
  let found ← select fun d => findByUsername d username <|> findByEmail d username
  let user ← orFail wrongLogin found
  require (user.2.password.isSome) wrongLogin
  require (compareHashedDataHelper cfg password user.2.password)
    (.unauthorized "Tài khoản hoặc mật khẩu không đúng")
  return user

def unconfirmed : Err :=
  .unauthorized "Tài khoản chưa được xác thực. Vui lòng kiểm tra email của bạn để kích hoạt."

def login (cfg : AuthConfig) (username : String) (password : Bytes) (oldRefreshToken : Option RefreshToken)
    (mailed draw : Draw) : Request :=
  .tx (validateUser cfg username password)
    (fun user =>
      if user.2.status = .pendingVerification then
        .tx (generateAndSendVerificationEmail user.1 mailed) (fun _ => .done (.failed unconfirmed)) fun e => .done (.failed e)
      else handleLogin cfg user.1 user.2.password oldRefreshToken draw)
    fun e => .done (.failed e)

def LOCKED_STATUSES : List AccountStatus := [.banned, .suspended, .rejected]

/-- What `validateGoogleUser` finds under the Google id or the email address. -/
inductive GoogleMatch where
  | returning (id : Uuid) (user : User)
  | byEmail (id : Uuid) (user : User)
  | unknown

def matchGoogleUser (profile : GoogleProfile) : Action GoogleMatch := do
  require profile.emailVerified
    (.unauthorized "Email Google của bạn chưa được xác thực. Không thể đăng nhập.")
  let byGoogleId ← select fun d => findByGoogleId d profile.googleId
  match byGoogleId with
  | some user => return .returning user.1 user.2
  | none =>
    let byEmail ← select fun d => findByEmail d profile.email
    match byEmail with
    | some user => return if user.2.status ∈ LOCKED_STATUSES then .returning user.1 user.2 else .byEmail user.1 user.2
    | none => return .unknown

/-- The callback of Google: a locked account gets no session. -/
def admitGoogleUser (cfg : AuthConfig) (id : Uuid) (user : User) (oldRefreshToken : Option RefreshToken) (draw : Draw) :
    Request :=
  if user.status ∈ LOCKED_STATUSES then .done (.redirected "account_locked")
  else handleLogin cfg id none oldRefreshToken draw

def googleLogin (cfg : AuthConfig) (profile : GoogleProfile) (newId : Uuid) (username : String)
    (oldRefreshToken : Option RefreshToken) (draw : Draw) : Request :=
  .tx (matchGoogleUser profile)
    (fun found =>
      match found with
      | .returning id user => admitGoogleUser cfg id user oldRefreshToken draw
      | .byEmail id user =>
        .tx (linkGoogleAccount id user profile (user.status = .pendingVerification) draw.now)
          (fun linked => admitGoogleUser cfg id linked oldRefreshToken draw) fun e => .done (.failed e)
      | .unknown =>
        .tx (createGoogleUser newId username profile)
          (fun saved =>
            match truthy profile.avatarUrl with
            | none => admitGoogleUser cfg newId saved oldRefreshToken draw
            | some avatarUrl =>
              .tx (saveAvatar newId saved avatarUrl) (fun user => admitGoogleUser cfg newId user oldRefreshToken draw)
                fun e => .done (.failed e))
          fun e => .done (.failed e))
    fun e => .done (.failed e)

def setPassword (cfg : AuthConfig) (userId : Uuid) (newPassword : Bytes) (draw : Draw) : Request :=
  single (setUserPassword cfg userId newPassword draw.salt draw.now) fun _ => .done

/-- All sessions go once the password has changed. -/
def changePassword (cfg : AuthConfig) (userId : Uuid) (oldPassword newPassword : Bytes) (draw : Draw) : Request :=
  .tx (changeUserPassword cfg userId oldPassword newPassword draw.salt draw.now)
    (fun _ => single (deleteSessionsOf userId) fun _ => .done) fun e => .done (.failed e)

def handleForgotPassword (email : String) (draw : Draw) : Request :=
  .tx (select fun d => findByEmail d email)
    (fun found =>
      match found with
      | none => .done .done
      | some user =>
        .tx (deleteTokensOf user.1 .resetPassword)
          (fun _ => single (saveToken user.1 .resetPassword draw (15 * 60 * 1000)) fun _ => .done)
          fun e => .done (.failed e))
    fun e => .done (.failed e)

/-- Only bad requests keep their message. -/
def masked (message : String) : Err → Err
  | .badRequest m => .badRequest m
  | _ => .internal message

/-- The row of a mailed token with its user. -/
def findToken (d : Db) (token : Uuid) (type : VerificationTokenType) : Option (VerificationToken × User) :=
  ((d (.verificationToken token)).filter fun row => row.type = type).bind fun row =>
    (d (.user row.user)).map fun user => (row, user)

/-- A pending customer is activated by the reset. -/
def resetUser (cfg : AuthConfig) (user : User) (newPassword salt : Bytes) (now : Time) : User :=
  { user with
    password := some (cfg.bcrypt.hash salt newPassword)
    passwordChangedAt := some now
    status := if user.role = .customer ∧ user.status = .pendingVerification then .active else user.status }

def resetPassword (cfg : AuthConfig) (token : Uuid) (newPassword : Bytes) (draw : Draw) : Action Unit := do
  let found ← select fun d => findToken d token .resetPassword
  let (row, user) ← orFail (.badRequest "Đường dẫn khôi phục không hợp lệ hoặc đã được sử dụng.") found
  require (draw.now ≤ row.expiresAt) (.badRequest "Đường dẫn khôi phục đã hết hạn. Vui lòng yêu cầu lại.")
  let mem := resetUser cfg user newPassword draw.salt draw.now
  note (.reset token row.user)
  note (.passwordSet row.user (cfg.bcrypt.hash draw.salt newPassword))
  saveUser row.user true mem (ownSave row.user user mem)
  modify (.verificationToken token) fun _ => none
  deleteSessionsOf row.user

def alreadyActive (user : User) : Bool :=
  user.status = .active ∨ user.role = .seller ∧ (user.status = .pendingApproval ∨ user.status = .newSeller)

def activatedBefore : Err := .badRequest "Tài khoản này đã được kích hoạt từ trước."

def findInactive (email : String) : Action Uuid := do
  let found ← select fun d => findByEmail d email
  let user ← orFail (.badRequest "Tài khoản không tồn tại trong hệ thống.") found
  require (alreadyActive user.2 = false) activatedBefore
  return user.1

def resendVerificationEmail (email : String) (draw : Draw) : Request :=
  .tx (findInactive email)
    (fun user =>
      .tx (deleteTokensOf user .verifyEmail) (fun _ => single (generateAndSendVerificationEmail user draw) fun _ => .done)
        fun e => .done (.failed e))
    fun e => .done (.failed e)

def verifyEmailAndActivateUser (cfg : AuthConfig) (token : Uuid) (draw : Draw) : Action RefreshToken := do
  let found ← select fun d => findToken d token .verifyEmail
  let (row, user) ← orFail (.badRequest "Mã xác thực không hợp lệ hoặc đã được sử dụng.") found
  require (draw.now ≤ row.expiresAt) (.badRequest "Mã xác thực đã hết hạn.")
  require (alreadyActive user = false) activatedBefore
  let mem := { user with status := confirmedStatus user.role }
  note (.verified token row.user)
  saveUser row.user false mem (ownSave row.user user mem)
  modify (.verificationToken token) fun _ => none
  deleteSessionsOf row.user
  generateAndSaveSession cfg row.user none draw

/-- The calls of the accounts API. -/
inductive AuthCall where
  | login (username : String) (password : Bytes) (oldRefreshToken : Option RefreshToken) (mailed draw : Draw)
  | googleLogin (profile : GoogleProfile) (newId : Uuid) (username : String) (oldRefreshToken : Option RefreshToken)
      (draw : Draw)
  | refresh (token : RefreshToken) (draw : Draw)
  | logout (token : RefreshToken) (now : Time)
  | changePassword (user : IUser) (oldPassword newPassword : Bytes) (draw : Draw)
  | setPassword (user : IUser) (newPassword : Bytes) (draw : Draw)
  | forgotPassword (email : String) (draw : Draw)
  | resetPassword (token : Uuid) (newPassword : Bytes) (draw : Draw)
  | resendVerification (email : String) (draw : Draw)
  | verifyEmail (token : Uuid) (draw : Draw)
  | updateProfile (user : IUser) (dto : UpdateProfileDto)
  | reApplyShop (user : IUser)
  | updateUserStatus (admin : IUser) (target : Uuid) (status : AccountStatus)
  | approveShop (admin : IUser) (shop : Id)
  | rejectShop (admin : IUser) (shop : Id) (reason : String)

def AuthCall.request (cfg : AuthConfig) : AuthCall → Request
  | .login username password old mailed draw => Accounts.login cfg username password old mailed draw
  | .googleLogin profile newId username old draw => Accounts.googleLogin cfg profile newId username old draw
  | .refresh token draw => handleRefreshToken cfg token draw
  | .logout token now => handleLogout token now
  | .changePassword user old new draw => signedIn user (Accounts.changePassword cfg user.sub old new draw)
  | .setPassword user new draw => signedIn user (Accounts.setPassword cfg user.sub new draw)
  | .forgotPassword email draw => handleForgotPassword email draw
  | .resetPassword token new draw =>
    .tx (Accounts.resetPassword cfg token new draw) (fun _ => .done .done)
      fun e => .done (.failed (masked "Lỗi hệ thống khi đặt lại mật khẩu." e))
  | .resendVerification email draw => resendVerificationEmail email draw
  | .verifyEmail token draw =>
    .tx (verifyEmailAndActivateUser cfg token draw) (fun new => .done (.tokens new))
      fun e => .done (.failed (masked "Hệ thống gặp sự cố khi xác thực, vui lòng thử lại." e))
  | .updateProfile user dto => signedIn user (single (Accounts.updateProfile user.sub dto) .profile)
  | .reApplyShop user => withRole user .seller (Accounts.reApplyShop user.sub)
  | .updateUserStatus admin target status =>
    withRole admin .admin (single (Accounts.updateUserStatus admin.sub target status) .profile)
  | .approveShop admin shop => withRole admin .admin (single (Accounts.approveShop shop) fun _ => .done)
  | .rejectShop admin shop reason => withRole admin .admin (single (Accounts.rejectShop shop reason) fun _ => .done)

/-- Thread `i` runs its call once. -/
def authCalls (cfg : AuthConfig) (calls : Nat → Option AuthCall) (i : Nat) : Request :=
  match calls i with
  | some call => call.request cfg
  | none => .done .done

/-- The transactions that the calls consist of. -/
inductive Transaction (cfg : AuthConfig) : ∀ α : Type, Action α → Prop
  | validate {payload : IUser} : Transaction cfg _ (Accounts.validate payload)
  | validateUser {username : String} {password : Bytes} : Transaction cfg _ (Accounts.validateUser cfg username password)
  | saveSession {user : Uuid} {verified : Option Bytes} {draw : Draw} :
      Transaction cfg _ (generateAndSaveSession cfg user verified draw)
  | deleteSession {id : Uuid} : Transaction cfg _ (Accounts.deleteSession id)
  | deleteSessions {user : Uuid} : Transaction cfg _ (deleteSessionsOf user)
  | saveToken {user : Uuid} {type : VerificationTokenType} {draw : Draw} {ttl : Nat} :
      Transaction cfg _ (Accounts.saveToken user type draw ttl)
  | deleteTokens {user : Uuid} {type : VerificationTokenType} : Transaction cfg _ (deleteTokensOf user type)
  | matchGoogleUser {profile : GoogleProfile} : Transaction cfg _ (Accounts.matchGoogleUser profile)
  | linkGoogleAccount {id : Uuid} {user : User} {profile : GoogleProfile} {takeover : Bool} {now : Time} :
      Transaction cfg _ (Accounts.linkGoogleAccount id user profile takeover now)
  | createGoogleUser {newId : Uuid} {username : String} {profile : GoogleProfile} :
      Transaction cfg _ (Accounts.createGoogleUser newId username profile)
  | saveAvatar {newId : Uuid} {saved : User} {avatarUrl : String} :
      Transaction cfg _ (Accounts.saveAvatar newId saved avatarUrl)
  | rotate {token : RefreshToken} {draw : Draw} : Transaction cfg _ (Accounts.rotate cfg token draw)
  | changeUserPassword {id : Uuid} {oldPassword newPassword salt : Bytes} {now : Time} :
      Transaction cfg _ (Accounts.changeUserPassword cfg id oldPassword newPassword salt now)
  | setUserPassword {id : Uuid} {newPassword salt : Bytes} {now : Time} :
      Transaction cfg _ (Accounts.setUserPassword cfg id newPassword salt now)
  | findByEmail {email : String} : Transaction cfg _ (select fun d => Accounts.findByEmail d email)
  | findInactive {email : String} : Transaction cfg _ (Accounts.findInactive email)
  | resetPassword {token : Uuid} {newPassword : Bytes} {draw : Draw} :
      Transaction cfg _ (Accounts.resetPassword cfg token newPassword draw)
  | verifyEmail {token : Uuid} {draw : Draw} : Transaction cfg _ (verifyEmailAndActivateUser cfg token draw)
  | updateProfile {id : Uuid} {dto : UpdateProfileDto} : Transaction cfg _ (Accounts.updateProfile id dto)
  | rejectedShop {user : Uuid} : Transaction cfg _ (Accounts.rejectedShop user)
  | submitAgain {user : Uuid} {shop : Id × Shop} : Transaction cfg _ (Accounts.submitAgain user shop)
  | updateUserStatus {admin target : Uuid} {status : AccountStatus} :
      Transaction cfg _ (Accounts.updateUserStatus admin target status)
  | approveShop {shop : Id} : Transaction cfg _ (Accounts.approveShop shop)
  | rejectShop {shop : Id} {reason : String} : Transaction cfg _ (Accounts.rejectShop shop reason)

section
variable {cfg : AuthConfig}

theorem single_transactions {α : Type} {body : Action α} {answer : α → Answer} (only : Transaction cfg α body) :
    (single body answer).All (Transaction cfg) := .tx only (fun _ => .done _) fun _ => .done _

theorem withRole_transactions {payload : IUser} {role : UserRole} {next : Request} (rest : next.All (Transaction cfg)) :
    (withRole payload role next).All (Transaction cfg) := by
  refine .tx .validate (fun user => ?_) fun _ => .done _
  split
  · exact rest
  · exact .done _

theorem handleLogin_transactions (user : Uuid) (verified : Option Bytes) (old : Option RefreshToken) (draw : Draw) :
    (handleLogin cfg user verified old draw).All (Transaction cfg) := by
  have fresh : (single (generateAndSaveSession cfg user verified draw) .tokens).All (Transaction cfg) :=
    single_transactions .saveSession
  cases old with
  | none => exact fresh
  | some token => exact .tx .deleteSession (fun _ => fresh) fun _ => fresh

theorem admitGoogleUser_transactions (id : Uuid) (user : User) (old : Option RefreshToken) (draw : Draw) :
    (admitGoogleUser cfg id user old draw).All (Transaction cfg) := by
  unfold admitGoogleUser
  split
  · exact .done _
  · exact handleLogin_transactions id none old draw

theorem login_transactions (username : String) (password : Bytes) (old : Option RefreshToken) (mailed draw : Draw) :
    (login cfg username password old mailed draw).All (Transaction cfg) := by
  refine .tx .validateUser (fun user => ?_) fun _ => .done _
  split
  · exact .tx .saveToken (fun _ => .done _) fun _ => .done _
  · exact handleLogin_transactions _ _ old draw

theorem googleLogin_transactions (profile : GoogleProfile) (newId : Uuid) (username : String)
    (old : Option RefreshToken) (draw : Draw) :
    (googleLogin cfg profile newId username old draw).All (Transaction cfg) := by
  refine .tx .matchGoogleUser (fun found => ?_) fun _ => .done _
  cases found with
  | returning id user => exact admitGoogleUser_transactions id user old draw
  | byEmail id user =>
    exact .tx .linkGoogleAccount (fun linked => admitGoogleUser_transactions id linked old draw) fun _ => .done _
  | unknown =>
    refine .tx .createGoogleUser (fun saved => ?_) fun _ => .done _
    split
    · exact admitGoogleUser_transactions newId saved old draw
    · exact .tx .saveAvatar (fun user => admitGoogleUser_transactions newId user old draw) fun _ => .done _

theorem refresh_transactions (token : RefreshToken) (draw : Draw) :
    (handleRefreshToken cfg token draw).All (Transaction cfg) := by
  have revoke : ∀ id e, (revokeSession id e).All (Transaction cfg) := fun id e =>
    .tx .deleteSession (fun _ => .done _) fun _ => .done _
  unfold handleRefreshToken handleRefreshTokenBy
  split
  · exact .done _
  · refine .tx (T := Transaction cfg) .rotate (fun outcome => ?_) fun _ => .done _
    cases outcome with
    | ok new => exact .done _
    | error verdict =>
      cases verdict with
      | reuseDetected => exact revoke _ _
      | expired => exact revoke _ _
      | notFound => exact .done _
      | userGone => exact .done _

theorem forgotPassword_transactions (email : String) (draw : Draw) :
    (handleForgotPassword email draw).All (Transaction cfg) := by
  refine .tx .findByEmail (fun found => ?_) fun _ => .done _
  cases found with
  | none => exact .done _
  | some user => exact .tx .deleteTokens (fun _ => single_transactions .saveToken) fun _ => .done _

theorem call_transactions (call : AuthCall) : (call.request cfg).All (Transaction cfg) := by
  have signed : ∀ {payload next}, next.All (Transaction cfg) → (signedIn payload next).All (Transaction cfg) :=
    fun rest => .tx .validate (fun _ => rest) fun _ => .done _
  cases call with
  | login username password old mailed draw => exact login_transactions ..
  | googleLogin profile newId username old draw => exact googleLogin_transactions ..
  | refresh token draw => exact refresh_transactions token draw
  | logout token now =>
    change (handleLogout token now).All _
    unfold handleLogout
    split
    · exact .done _
    · exact .tx .deleteSession (fun _ => .done _) fun _ => .done _
  | changePassword user old new draw =>
    exact signed (.tx .changeUserPassword (fun _ => single_transactions .deleteSessions) fun _ => .done _)
  | setPassword user new draw => exact signed (single_transactions .setUserPassword)
  | forgotPassword email draw => exact forgotPassword_transactions email draw
  | resetPassword token new draw => exact .tx .resetPassword (fun _ => .done _) fun _ => .done _
  | resendVerification email draw =>
    exact .tx .findInactive (fun _ => .tx .deleteTokens (fun _ => single_transactions .saveToken) fun _ => .done _)
      fun _ => .done _
  | verifyEmail token draw => exact .tx .verifyEmail (fun _ => .done _) fun _ => .done _
  | updateProfile user dto => exact signed (single_transactions .updateProfile)
  | reApplyShop user =>
    exact withRole_transactions (.tx .rejectedShop (fun _ => single_transactions .submitAgain) fun _ => .done _)
  | updateUserStatus admin target status => exact withRole_transactions (single_transactions .updateUserStatus)
  | approveShop admin shop => exact withRole_transactions (single_transactions .approveShop)
  | rejectShop admin shop reason => exact withRole_transactions (single_transactions .rejectShop)

theorem authCalls_transactions (calls : Nat → Option AuthCall) (i : Nat) :
    (authCalls cfg calls i).All (Transaction cfg) := by
  unfold authCalls
  cases calls i with
  | none => exact .done _
  | some call => exact call_transactions call

end
end Marketplace.Accounts
