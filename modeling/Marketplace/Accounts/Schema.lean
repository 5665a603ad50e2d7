import Marketplace.Base64Url
import Marketplace.ReadCommitted.System
import Marketplace.Schema

/-! Tables of the accounts: users, sessions, mailed tokens and the status of a seller's shop. -/
namespace Marketplace.Accounts
open ReadCommitted Base64Url

structure Uuid where
  text : Bytes
  length : text.length = 36
deriving DecidableEq

inductive UserRole where
  | admin | customer | seller
deriving DecidableEq

inductive VerificationTokenType where
  | verifyEmail | resetPassword
deriving DecidableEq

structure User where
  username : String
  email : String
  password : Option Bytes
  googleId : Option String
  role : UserRole
  status : AccountStatus
  fullName : Option String
  phone : Option String
  avatarUrl : Option String
  passwordChangedAt : Option Time
deriving DecidableEq

/-- Both token columns hold hashes. -/
structure Session where
  user : Uuid
  refreshToken : Option Bytes
  previousRefreshToken : Option Bytes
  rotatedAt : Option Time
  expiresAt : Option Time
deriving DecidableEq

structure VerificationToken where
  user : Uuid
  type : VerificationTokenType
  expiresAt : Time
deriving DecidableEq

structure Shop where
  seller : Uuid
  name : String
  status : AccountStatus
  rejectReason : Option String
deriving DecidableEq

/-- The payload of a refresh token, in the order in which it is signed. Times are in seconds. -/
structure RefreshToken where
  sub : Uuid
  sessionId : Uuid
  iat : Nat
  exp : Nat
deriving DecidableEq

inductive Key where
  | user (id : Uuid)
  | userByUsername (username : String)
  | userByEmail (email : String)
  | userByGoogleId (googleId : String)
  | admins
  | session (id : Uuid)
  | sessionsOf (user : Uuid)
  | verificationToken (token : Uuid)
  | tokensOf (user : Uuid)
  | shop (id : Id)
  | shopOf (seller : Uuid)
deriving DecidableEq

@[reducible] def Row : Key → Type
  | .user _ => User
  | .userByUsername _ => Uuid
  | .userByEmail _ => Uuid
  | .userByGoogleId _ => Uuid
  | .admins => List Uuid
  | .session _ => Session
  | .sessionsOf _ => List Uuid
  | .verificationToken _ => VerificationToken
  | .tokensOf _ => List Uuid
  | .shop _ => Shop
  | .shopOf _ => Id

inductive Err where
  | badRequest (message : String)
  | unauthorized (message : String)
  | forbidden (message : String)
  | notFound (message : String)
  | internal (message : String)
  | database
deriving DecidableEq

/-- `shopRegistered` goes to the outbox. The others record, for the specification, which tokens were
issued and judged reused, what was done to the status of a user, which password a session was opened with,
whose password or email a mailed token has reset or verified, which tokens were mailed and which a clearing has
read, and which sessions a purge has read. -/
inductive Mark where
  | shopRegistered (shop : Id) (name : String) (isReapply : Bool) (admins : List Uuid)
  | issued (token : RefreshToken) (at_ : Time)
  | reuse (session : Uuid)
  | opened (session user : Uuid) (verified : Option Bytes)
  | reset (token user : Uuid)
  | verified (token user : Uuid)
  | tokenSaved (token user : Uuid) (type : VerificationTokenType)
  | cleared (user : Uuid) (type : VerificationTokenType) (tokens : List Uuid)
  | passwordSet (user : Uuid) (hash : Bytes)
  | purged (user : Uuid) (sessions : List Uuid)
  | userSaved (id : Uuid) (loaded mem reread : AccountStatus)
  | statusSet (id : Uuid)
  | adminSet (id : Uuid)
deriving DecidableEq

inductive Answer where
  | failed (e : Err)
  | redirected (error : String)
  | tokens (refreshToken : RefreshToken)
  | profile (user : User)
  | done
deriving DecidableEq

abbrev Db := Rows (Table Row)
abbrev Action := Tx (Table Row) Mark Err
abbrev Request := Req (Table Row) Mark Err Answer

/-- A request of one transaction. -/
def single {α : Type} (body : Action α) (answer : α → Answer) : Request :=
  .tx body (fun a => .done (answer a)) fun e => .done (.failed e)

end Marketplace.Accounts
