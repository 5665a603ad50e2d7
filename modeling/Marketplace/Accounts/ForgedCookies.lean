import Marketplace.Accounts.PasswordPurge
import Marketplace.ReadCommitted.Shadow

/-! Refresh cookies as they arrive, and the sessions that go with a forged one. -/
namespace Marketplace.Accounts
open ReadCommitted ReadCommitted.Tx Base64Url

/-- The `JwtService` of refresh tokens: what it reads in a text, and what it reads where the signature holds. Texts
whose payload names no session are none. -/
structure RefreshTokenService where
  decode : Bytes → Option RefreshToken
  verify : Bytes → Option RefreshToken
  decode_verify : ∀ {text token}, verify text = some token → decode text = some token

/-- Calls that do not look at the refresh cookie. -/
def AuthCall.Cookieless : AuthCall → Prop
  | .login .. => False
  | .googleLogin .. => False
  | .refresh .. => False
  | .logout .. => False
  | _ => True

/-- The calls with the cookie `refresh_token` of the browser. -/
inductive CookieCall where
  | login (username : String) (password : Bytes) (cookie : Option Bytes) (mailed draw : Draw)
  | googleLogin (profile : GoogleProfile) (newId : Uuid) (username : String) (cookie : Option Bytes) (draw : Draw)
  | refresh (cookie : Option Bytes) (draw : Draw)
  | logout (cookie : Option Bytes) (now : Time)
  | other (call : AuthCall) (cookieless : call.Cookieless)

/-- A login decodes its cookie; `RefreshTokenGuard` and the logout verify it. -/
def CookieCall.request (cfg : AuthConfig) (jwt : RefreshTokenService) : CookieCall → Request
  | .login username password cookie mailed draw =>
    Accounts.login cfg username password (cookie.bind jwt.decode) mailed draw
  | .googleLogin profile newId username cookie draw =>
    Accounts.googleLogin cfg profile newId username (cookie.bind jwt.decode) draw
  | .refresh cookie draw =>
    match cookie.bind jwt.verify with
    | some token => handleRefreshToken cfg token draw
    | none => .done (.failed (.unauthorized "Unauthorized"))
  | .logout cookie now =>
    match cookie.bind jwt.verify with
    | some token => handleLogout token now
    | none => .done .done
  | .other call _ => call.request cfg

/-- Thread `i` runs its call once. -/
def cookieCalls (cfg : AuthConfig) (jwt : RefreshTokenService) (calls : Nat → Option CookieCall) (i : Nat) : Request :=
  match calls i with
  | some call => call.request cfg jwt
  | none => .done .done

def CookieCall.cookie : CookieCall → Option Bytes
  | .login _ _ cookie _ _ => cookie
  | .googleLogin _ _ _ cookie _ => cookie
  | .refresh cookie _ => cookie
  | .logout cookie _ => cookie
  | .other .. => none

/-- The session whose token the call presents, with a signature that holds. -/
def CookieCall.presents (jwt : RefreshTokenService) (call : CookieCall) : Option Uuid :=
  (call.cookie.bind jwt.verify).map (·.sessionId)

/-- The cookie where its signature holds. -/
def verified (jwt : RefreshTokenService) (cookie : Option Bytes) : Option Bytes :=
  cookie.filter fun text => (jwt.verify text).isSome

/-- The call without its cookie where that is forged. -/
def CookieCall.genuine (jwt : RefreshTokenService) : CookieCall → CookieCall
  | .login username password cookie mailed draw => .login username password (verified jwt cookie) mailed draw
  | .googleLogin profile newId username cookie draw => .googleLogin profile newId username (verified jwt cookie) draw
  | .refresh cookie draw => .refresh (verified jwt cookie) draw
  | .logout cookie now => .logout (verified jwt cookie) now
  | .other call cookieless => .other call cookieless

/-- What a cookie says whose signature does not hold. -/
def forgery (jwt : RefreshTokenService) (cookie : Option Bytes) : Option RefreshToken :=
  (cookie.filter fun text => (jwt.verify text).isNone).bind jwt.decode

/-- The session that a forged cookie names. -/
def CookieCall.forged (jwt : RefreshTokenService) (call : CookieCall) : Option Uuid :=
  (forgery jwt call.cookie).map (·.sessionId)

/-- The row that a thread may delete with a forged cookie. -/
def forgedRows (jwt : RefreshTokenService) (calls : Nat → Option CookieCall) (i : Nat) : Option Key :=
  ((calls i).bind (·.forged jwt)).map .session

section
variable {cfg : AuthConfig} {jwt : RefreshTokenService}

theorem writes_require {α : Type} {p : Prop} [Decidable p] {e : Err} {rest : Unit → Action α}
    (quiet : (rest ()).writes = none) : (require p e >>= rest).writes = none := by
  unfold require
  split
  · exact quiet
  · rfl

/-- With or without its deletion of the old session. -/
theorem trims_handleLogin (user : Uuid) (hash : Option Bytes) (old : RefreshToken) (draw : Draw) :
    (handleLogin cfg user hash (some old) draw).Trims (fun k => some (Key.session old.sessionId) = some k)
      (handleLogin cfg user hash none draw) :=
  .delete rfl (.tx nofun (fun _ => .done _) fun _ => .done _)

theorem trims_admitGoogleUser (id : Uuid) (user : User) (old : RefreshToken) (draw : Draw) :
    (admitGoogleUser cfg id user (some old) draw).Trims (fun k => some (Key.session old.sessionId) = some k)
      (admitGoogleUser cfg id user none draw) := by
  unfold admitGoogleUser
  split
  · exact .done _
  · exact trims_handleLogin id none old draw

theorem trims_login (username : String) (password : Bytes) (old : RefreshToken) (mailed draw : Draw) :
    (login cfg username password (some old) mailed draw).Trims (fun k => some (Key.session old.sessionId) = some k)
      (login cfg username password none mailed draw) := by
  refine .tx nofun (fun user => ?_) fun e => .done _
  split
  · exact .tx nofun (fun _ => .done _) fun _ => .done _
  · exact trims_handleLogin _ _ old draw

theorem trims_googleLogin (profile : GoogleProfile) (newId : Uuid) (username : String) (old : RefreshToken) (draw : Draw) :
    (googleLogin cfg profile newId username (some old) draw).Trims (fun k => some (Key.session old.sessionId) = some k)
      (googleLogin cfg profile newId username none draw) := by
  refine .tx (fun k writes => ?_) (fun found => ?_) fun e => .done _
  · have quiet : (matchGoogleUser profile).writes = none := writes_require rfl
    rw [quiet] at writes
    cases writes
  · cases found with
    | returning id user => exact trims_admitGoogleUser id user old draw
    | byEmail id user => exact .tx nofun (fun linked => trims_admitGoogleUser id linked old draw) fun _ => .done _
    | unknown =>
      refine .tx nofun (fun saved => ?_) fun _ => .done _
      split
      · exact trims_admitGoogleUser newId saved old draw
      · exact .tx nofun (fun user => trims_admitGoogleUser newId user old draw) fun _ => .done _

theorem verify_verified (cookie : Option Bytes) : (verified jwt cookie).bind jwt.verify = cookie.bind jwt.verify := by
  cases cookie with
  | none => rfl
  | some text => cases found : jwt.verify text <;> simp [verified, Option.filter_some, found]

variable (jwt) in
/-- A cookie is read alike with and without its forgery, or it is a forgery. -/
theorem decode_verified (cookie : Option Bytes) :
    (verified jwt cookie).bind jwt.decode = cookie.bind jwt.decode ∧ forgery jwt cookie = none ∨
      ∃ old, cookie.bind jwt.decode = some old ∧ (verified jwt cookie).bind jwt.decode = none ∧ forgery jwt cookie = some old := by
  cases cookie with
  | none => exact Or.inl ⟨rfl, rfl⟩
  | some text =>
    cases holds : jwt.verify text with
    | some token => exact Or.inl (by simp [verified, forgery, Option.filter_some, holds])
    | none =>
      cases inside : jwt.decode text with
      | none => exact Or.inl (by simp [verified, forgery, Option.filter_some, holds, inside])
      | some old => exact Or.inr ⟨old, by simp [inside], by simp [verified, Option.filter_some, holds], by simp [forgery, Option.filter_some, holds, inside]⟩

/-- A call without its forged cookie is the call without the deletion of what that names. -/
theorem trims_call (call : CookieCall) :
    (call.request cfg jwt).Trims (fun k => (call.forged jwt).map Key.session = some k) ((call.genuine jwt).request cfg jwt) := by
  have unnamed : forgery jwt call.cookie = none → ∀ k, ¬ (call.forged jwt).map Key.session = some k := by
    intro honest k
    rw [CookieCall.forged, honest]
    exact nofun
  have named : ∀ {old}, forgery jwt call.cookie = some old → (call.forged jwt).map Key.session = some (.session old.sessionId) := by
    intro old forged
    rw [CookieCall.forged, forged]
    rfl
  cases call with
  | login username password cookie mailed draw =>
    rcases decode_verified jwt cookie with ⟨same, honest⟩ | ⟨old, reads, silent, forged⟩
    · simp only [CookieCall.request, CookieCall.genuine, same]
      exact .nothing (unnamed honest) _
    · rw [named forged]
      simp only [CookieCall.request, CookieCall.genuine, reads, silent]
      exact trims_login ..
  | googleLogin profile newId username cookie draw =>
    rcases decode_verified jwt cookie with ⟨same, honest⟩ | ⟨old, reads, silent, forged⟩
    · simp only [CookieCall.request, CookieCall.genuine, same]
      exact .nothing (unnamed honest) _
    · rw [named forged]
      simp only [CookieCall.request, CookieCall.genuine, reads, silent]
      exact trims_googleLogin ..
  | refresh cookie draw =>
    simp only [CookieCall.request, CookieCall.genuine, verify_verified]
    cases holds : cookie.bind jwt.verify with
    | none => exact .done _
    | some token =>
      obtain ⟨text, rfl, signed⟩ := Option.bind_eq_some_iff.mp holds
      exact .nothing (unnamed (by simp [forgery, CookieCall.cookie, Option.filter_some, signed])) _
  | logout cookie now =>
    simp only [CookieCall.request, CookieCall.genuine, verify_verified]
    cases holds : cookie.bind jwt.verify with
    | none => exact .done _
    | some token =>
      obtain ⟨text, rfl, signed⟩ := Option.bind_eq_some_iff.mp holds
      exact .nothing (unnamed (by simp [forgery, CookieCall.cookie, Option.filter_some, signed])) _
  | other call cookieless => exact .nothing (unnamed rfl) _

theorem trims_calls (calls : Nat → Option CookieCall) (i : Nat) :
    (cookieCalls cfg jwt calls i).Trims (named (forgedRows jwt calls) i)
      (cookieCalls cfg jwt (fun i => (calls i).map (·.genuine jwt)) i) := by
  unfold cookieCalls named forgedRows
  dsimp only
  cases found : calls i with
  | none => exact .done _
  | some call => exact trims_call call

end
/-- The sessions opened so far. -/
def sessionsOpened (journal : List Mark) : List Uuid :=
  journal.filterMap fun
    | .opened id _ _ => some id
    | _ => none

/-- The session stood at the start or was opened since. -/
def Seen (d₀ : Db) (journal : List Mark) (id : Uuid) : Prop := d₀ (.session id) ≠ none ∨ id ∈ sessionsOpened journal

/-- A session is opened under an id that no session had. -/
def Mark.fresh (d₀ : Db) (s : Store (Table Row) Mark) : Mark → Prop
  | .opened id _ _ => d₀ (.session id) = none ∧ id ∉ sessionsOpened s.journal
  | _ => True

def FreshIds (d₀ : Db) (s : Store (Table Row) Mark) (log : List Mark) : Prop := ∀ e ∈ log, e.fresh d₀ s

/-- The sessions of a user are those listed. -/
def SessionsIndexed (d : Db) : Prop :=
  ∀ user id, id ∈ listed (d (.sessionsOf user)) ↔ ∃ session, d (.session id) = some session ∧ session.user = user

/-- A session that is listed for a user is no other's. -/
structure SessionsOwned (d₀ : Db) (s : Store (Table Row) Mark) : Prop where
  stood : ∀ id session, s.rows (.session id) = some session → Seen d₀ s.journal id
  seen : ∀ user, ∀ id ∈ listed (s.rows (.sessionsOf user)), Seen d₀ s.journal id
  own : ∀ user, ∀ id ∈ listed (s.rows (.sessionsOf user)), ∀ session, s.rows (.session id) = some session →
    session.user = user

def ListsGrow (s t : Store (Table Row) Mark) : Prop :=
  ∀ user, ∀ id ∈ listed (s.rows (.sessionsOf user)), id ∈ listed (t.rows (.sessionsOf user))

section
variable {d₀ : Db} {s t : Store (Table Row) Mark} {log : List Mark}

theorem Seen.grow {journal : List Mark} {id : Uuid} (seen : Seen d₀ journal id) (more : List Mark) :
    Seen d₀ (journal ++ more) id := by
  rcases seen with first | opened
  · exact Or.inl first
  · apply Or.inr
    rw [sessionsOpened, List.filterMap_append]
    exact List.mem_append_left _ opened

/-- Sessions go or stay their user's, and at most one is new. -/
theorem SessionsOwned.next (sound : SessionsOwned d₀ s) (new : Option (Uuid × Uuid)) (grown : t.journal = s.journal ++ log)
    (rows : ∀ id session, t.rows (.session id) = some session →
      (∃ before, s.rows (.session id) = some before ∧ before.user = session.user) ∨ new = some (id, session.user))
    (lists : ∀ user, ∀ id ∈ listed (t.rows (.sessionsOf user)),
      id ∈ listed (s.rows (.sessionsOf user)) ∨ new = some (id, user))
    (opened : ∀ id user, new = some (id, user) → ∃ hash, .opened id user hash ∈ log) (fresh : FreshIds d₀ s log) :
    SessionsOwned d₀ t := by
  have unseen : ∀ {id user}, new = some (id, user) → ¬ Seen d₀ s.journal id ∧ Seen d₀ t.journal id := by
    intro id user made
    obtain ⟨hash, member⟩ := opened id user made
    obtain ⟨first, unopened⟩ := fresh _ member
    refine ⟨fun seen => seen.elim (fun stood => stood first) unopened, Or.inr ?_⟩
    rw [grown, sessionsOpened, List.filterMap_append]
    exact List.mem_append_right _ (List.mem_filterMap.mpr ⟨_, member, rfl⟩)
  constructor
  · intro id session stands
    rcases rows id session stands with ⟨before, stood, _⟩ | made
    · rw [grown]
      exact (sound.stood id before stood).grow log
    · exact (unseen made).2
  · intro user id member
    rcases lists user id member with before | made
    · rw [grown]
      exact (sound.seen user id before).grow log
    · exact (unseen made).2
  · intro user id member session stands
    rcases lists user id member with before | made
    · rcases rows id session stands with ⟨old, stood, same⟩ | made
      · exact same.symm.trans (sound.own user id before old stood)
      · exact absurd (sound.seen user id before) (unseen made).1
    · rcases rows id session stands with ⟨old, stood, _⟩ | again
      · exact absurd (sound.stood id old stood) (unseen made).1
      · exact (Prod.mk.inj (Option.some.inj (again.symm.trans made))).2

end

/-- A commit deletes a session of a user only where `right` has it. -/
def DeletesBy (right : List Mark → Uuid → Uuid → Prop) (s : Store (Table Row) Mark) (log : List Mark)
    (t : Store (Table Row) Mark) : Prop :=
  ∀ id session, s.rows (.session id) = some session → t.rows (.session id) = none → right log id session.user

abbrev KeepsSessions (d₀ : Db) (right : List Mark → Uuid → Uuid → Prop) (α : Type) (body : Action α) : Prop :=
  body.KeepsStep (FreshIds d₀) (SessionsOwned d₀) ListsGrow (DeletesBy right)

section
variable {cfg : AuthConfig} {d₀ : Db} {right : List Mark → Uuid → Uuid → Prop}

/-- Sessions as before, or gone by right. -/
theorem SessionsOwned.lose {h : History (Table Row) Mark} {w : View (Table Row) Mark} (sound : SessionsOwned d₀ h.current)
    (fresh : FreshIds d₀ h.current w.log)
    (rows : ∀ id session, w.rows (.session id) = some session →
      ∃ before, h.current.rows (.session id) = some before ∧ before.user = session.user)
    (lists : ∀ user, w.rows (.sessionsOf user) = h.current.rows (.sessionsOf user))
    (gone : ∀ id session, h.current.rows (.session id) = some session → w.rows (.session id) = none →
      right w.log id session.user) :
    SessionsOwned d₀ (h.commit w) ∧ ListsGrow h.current (h.commit w) ∧ DeletesBy right h.current w.log (h.commit w) := by
  refine ⟨sound.next none rfl (fun id session stands => Or.inl (rows id session stands)) (fun user id member => ?_)
    (fun _ _ => nofun) fresh, fun user id member => ?_, gone⟩
  · apply Or.inl
    rw [← lists]
    exact member
  · show id ∈ Marketplace.listed (w.rows (.sessionsOf user))
    rw [lists]
    exact member

theorem keepsSessions_of {α : Type} {body : Action α}
    (kept : ∀ (h : History (Table Row) Mark) (m : Nat), SessionsOwned d₀ h.current → body.wp h.isolation
      (fun _ w => FreshIds d₀ h.current w.log → SessionsOwned d₀ (h.commit w) ∧ ListsGrow h.current (h.commit w) ∧
        DeletesBy right h.current w.log (h.commit w)) (fun _ => True) (View.start h.current.rows m)) :
    KeepsSessions d₀ right α body := by
  intro h m sound _ _
  exact wp_mono _ (kept h m (sound h.now (Nat.le_refl _))) (fun _ w next _ admitted => next admitted) fun _ e => e

theorem keepsSessions_apart {α : Type} {body : Action α} (h : body.Within ApartSessions Mark.Aside) :
    KeepsSessions d₀ right α body := by
  refine keepsSessions_of fun h' m sound => wp_of_within h (fun a w more fresh => ?_) fun _ => trivial
  have kept : ∀ k, ¬ ApartSessions k → w.rows k = h'.current.rows k := more.rows
  have same : ∀ id, w.rows (.session id) = h'.current.rows (.session id) := fun id => kept _ fun apart => apart.1 id rfl
  refine sound.lose fresh (fun id session stands => ?_) (fun user => kept _ fun apart => apart.2 user rfl)
    fun id session stood gone => ?_
  · exact ⟨session, (same id).symm.trans stands, rfl⟩
  · exact absurd (gone.symm.trans ((same id).trans stood)) nofun

theorem keepsSessions_ordinary {α : Type} {body : Action α} (h : body.Within Ordinary Mark.Ordinary) :
    KeepsSessions d₀ right α body := by
  refine keepsSessions_apart (within_mono (fun k ordinary => ?_) (fun e ordinary => ?_) h)
  · cases k <;> first | exact ordinary.elim | exact ⟨fun _ => nofun, fun _ => nofun⟩
  · cases e <;> first | exact ordinary.elim | trivial

theorem keepsSessions_deleteSession {id : Uuid} (mine : ∀ log user, right log id user) :
    KeepsSessions d₀ right Unit (deleteSession id) := by
  refine keepsSessions_of fun h m sound => ?_
  unfold deleteSession
  rw [wp_modify]
  intro fresh
  have other : ∀ k, k ≠ .session id →
      ((View.start h.current.rows m : View (Table Row) Mark).put (Key.session id) fun _ => none).rows k = h.current.rows k :=
    fun k apart => View.put_rows_other _ _ apart
  refine sound.lose fresh (fun x session stands => ?_) (fun user => other _ (by simp)) fun x session stood gone => ?_
  · by_cases same : x = id
    · subst same
      rw [View.put_rows_self] at stands
      cases stands
    · exact ⟨session, (other (.session x) (by simpa using same)).symm.trans stands, rfl⟩
  · by_cases same : x = id
    · subst same
      exact mine _ _
    · rw [other (.session x) (by simpa using same), stood] at gone
      cases gone

theorem keepsSessions_rotate {token : RefreshToken} {draw : Draw} :
    KeepsSessions d₀ right _ (rotate cfg token draw) := by
  refine keepsSessions_of fun h m sound => ?_
  have same : ∀ w : View (Table Row) Mark, w.rows = h.current.rows → FreshIds d₀ h.current w.log →
      SessionsOwned d₀ (h.commit w) ∧ ListsGrow h.current (h.commit w) ∧ DeletesBy right h.current w.log (h.commit w) := by
    intro w rows fresh
    refine sound.lose fresh (fun id session stands => ⟨session, ?_, rfl⟩) (fun user => congrFun rows _)
      fun id session stood gone => ?_
    · exact (congrFun rows _).symm.trans stands
    · exact absurd (gone.symm.trans ((congrFun rows _).trans stood)) nofun
  refine wp_rotateBy (fun _ w rows _ => same w rows) (fun session w _ _ rows log => ?_)
    fun session viaGrace w new stood _ _ _ more log stored fresh => ?_
  · cases judgeBy (compareHashedDataHelper cfg) session (token.text cfg.sign) draw.now with
    | reuseDetected => exact same (w.mark (.reuse token.sessionId)) rows
    | _ => exact same w rows
  · refine sound.lose fresh (fun id other stands => ?_) (fun user => more.rows _ nofun) fun id other stands gone => ?_
    · by_cases own : id = token.sessionId
      · subst own
        obtain rfl := Option.some.inj (stored.symm.trans stands)
        exact ⟨session, stood, rfl⟩
      · exact ⟨other, (more.rows (.session id) (by simpa using own)).symm.trans stands, rfl⟩
    · by_cases own : id = token.sessionId
      · subst own
        exact absurd (gone.symm.trans stored) nofun
      · have kept := more.rows (.session id) (by simpa using own)
        exact absurd (gone.symm.trans (kept.trans stands)) nofun

/-- What a purge has looked up is listed when it commits. -/
theorem listed_now {h : History (Table Row) Mark} {v : View (Table Row) Mark} {d : Db} {m : Nat} {user : Uuid}
    (ordered : ∀ j k, j ≤ k → k ≤ h.now → ListsGrow (h.past j) (h.past k)) (sees : h.isolation.Sees v d m)
    (same : v.rows (.sessionsOf user) = h.current.rows (.sessionsOf user)) {id : Uuid}
    (member : id ∈ Marketplace.listed (d (.sessionsOf user))) : id ∈ Marketplace.listed (h.current.rows (.sessionsOf user)) := by
  rcases Isolation.row sees (.sessionsOf user) with own | ⟨j, small, old⟩
  · rw [own, same] at member
    exact member
  · rw [old] at member
    exact ordered j h.now small (Nat.le_refl _) user id member

/-- A session that a purge has deleted is one of its user. -/
theorem SessionsOwned.purged {h : History (Table Row) Mark} {w : Db} {user : Uuid} {ids : List Uuid}
    (sound : SessionsOwned d₀ h.current) (now : ∀ id ∈ ids, id ∈ Marketplace.listed (h.current.rows (.sessionsOf user)))
    (rows : ∀ id, w (.session id) = if id ∈ ids then none else h.current.rows (.session id)) {id : Uuid} {session : Session}
    (stood : h.current.rows (.session id) = some session) (gone : w (.session id) = none) : session.user = user := by
  have member : id ∈ ids := by
    by_contra spared
    rw [rows, if_neg spared, stood] at gone
    cases gone
  exact sound.own user id (now id member) session stood

theorem keepsSessions_deleteSessionsOf {user : Uuid} (mine : ∀ log id, right log id user) :
    KeepsSessions d₀ right Unit (deleteSessionsOf user) := by
  intro h m sound ordered _
  refine wp_deleteSessionsOf fun d m' ids w sees read others sessions _ _ fresh => ?_
  have current : SessionsOwned d₀ h.current := sound h.now (Nat.le_refl _)
  refine current.lose fresh (fun id session stands => ⟨session, (purge_spares sessions stands).2, rfl⟩)
    (fun u => others _ fun _ => by rintro ⟨⟩) fun id session stood gone => ?_
  have own : session.user = user :=
    current.purged (fun x member => listed_now ordered sees rfl (read ▸ member)) sessions stood gone
  rw [own]
  exact mine _ _

/-- The new session and its place on the list of its user. -/
theorem wp_saveSession {I : Isolation (Table Row) Mark} {v : View (Table Row) Mark} {user : Uuid} {hash : Option Bytes}
    {draw : Draw} {Q : RefreshToken → View (Table Row) Mark → Prop} {E : Err → Prop} (err : ∀ e, E e)
    (h : ∀ token w row, row.user = user →
      (∀ id, w.rows (.session id) = if id = draw.id then some row else v.rows (.session id)) →
      (∀ u, Marketplace.listed (w.rows (.sessionsOf u)) =
        Marketplace.listed (v.rows (.sessionsOf u)) ++ if u = user then [draw.id] else []) →
      w.log = v.log ++ [.issued token draw.now, .opened draw.id user hash] → Q token w) :
    (generateAndSaveSession cfg user hash draw).wp I Q E v := by
  unfold generateAndSaveSession
  rw [wp_bind, wp_note, wp_bind, wp_note, wp_bind]
  refine wp_insert (fun _ => err _) fun w more _ _ stored => ?_
  rw [wp_bind, wp_modify, wp_pure]
  let row : Session := ⟨user, some (hashToken cfg draw.salt (createTokens cfg user draw.id draw.now)), none, none,
    some (draw.now + cfg.refreshTokenExpiration)⟩
  refine h _ _ row rfl (fun id => ?_) (fun u => ?_) ?_
  · rw [View.put_rows_other _ _ (by simp)]
    by_cases own : id = draw.id
    · subst own
      rw [if_pos rfl]
      exact stored
    · rw [if_neg own]
      exact more.rows _ (by simpa using own)
  · have kept : ∀ u, w.rows (.sessionsOf u) = v.rows (.sessionsOf u) := fun u => more.rows (.sessionsOf u) (by simp)
    by_cases own : u = user
    · subst own
      rw [View.put_rows_self, if_pos rfl, kept]
      rfl
    · rw [View.put_rows_other _ _ (by simpa using own), if_neg own, kept, List.append_nil]
  · rw [View.put_log, more.log_same, View.mark_log, View.mark_log, List.append_assoc]
    rfl

/-- Sessions gone by right, and a new one on the list of its user. -/
theorem SessionsOwned.renew {h : History (Table Row) Mark} {w : View (Table Row) Mark} {before : Db} {id user : Uuid}
    {hash : Option Bytes} {row : Session} (sound : SessionsOwned d₀ h.current) (fresh : FreshIds d₀ h.current w.log)
    (rows : ∀ x, w.rows (.session x) = if x = id then some row else before (.session x))
    (lists : ∀ u, Marketplace.listed (w.rows (.sessionsOf u)) =
      Marketplace.listed (h.current.rows (.sessionsOf u)) ++ if u = user then [id] else [])
    (own : row.user = user) (opened : .opened id user hash ∈ w.log)
    (kept : ∀ x session, before (.session x) = some session → h.current.rows (.session x) = some session)
    (gone : ∀ x session, h.current.rows (.session x) = some session → before (.session x) = none →
      right w.log x session.user) :
    SessionsOwned d₀ (h.commit w) ∧ ListsGrow h.current (h.commit w) ∧ DeletesBy right h.current w.log (h.commit w) := by
  refine ⟨sound.next (some (id, user)) rfl (fun x session stands => ?_) (fun u x member => ?_) (fun x u made => ?_) fresh,
    fun u x member => ?_, fun x session stood lost => ?_⟩
  · change w.rows (.session x) = some session at stands
    rw [rows] at stands
    by_cases same : x = id
    · rw [if_pos same] at stands
      obtain rfl := Option.some.inj stands
      exact Or.inr (by rw [same, own])
    · rw [if_neg same] at stands
      exact Or.inl ⟨session, kept x session stands, rfl⟩
  · change x ∈ Marketplace.listed (w.rows (.sessionsOf u)) at member
    rw [lists] at member
    rcases List.mem_append.mp member with early | new
    · exact Or.inl early
    · split at new
      · rename_i mine
        obtain rfl := List.mem_singleton.mp new
        exact Or.inr (by rw [mine])
      · cases new
  · obtain ⟨rfl, rfl⟩ := Prod.mk.inj (Option.some.inj made)
    exact ⟨hash, opened⟩
  · show x ∈ Marketplace.listed (w.rows (.sessionsOf u))
    rw [lists]
    exact List.mem_append_left _ member
  · change w.rows (.session x) = none at lost
    rw [rows] at lost
    by_cases same : x = id
    · rw [if_pos same] at lost
      cases lost
    · rw [if_neg same] at lost
      exact gone x session stood lost

theorem keepsSessions_saveSession {user : Uuid} {hash : Option Bytes} {draw : Draw} :
    KeepsSessions d₀ right _ (generateAndSaveSession cfg user hash draw) := by
  refine keepsSessions_of fun h m sound => ?_
  refine wp_saveSession (fun _ => trivial) fun token w row own rows lists log fresh => ?_
  have opened : .opened draw.id user hash ∈ w.log := by simp [log]
  refine sound.renew fresh rows lists own opened (fun _ _ stands => stands) fun x session stood gone => ?_
  exact absurd (stood.symm.trans gone) (Option.some_ne_none _)

theorem keepsSessions_resetPassword {token : Uuid} {newPassword : Bytes} {draw : Draw}
    (mine : ∀ log id owner, .reset token owner ∈ log → right log id owner) :
    KeepsSessions d₀ right Unit (resetPassword cfg token newPassword draw) := by
  intro h m sound ordered _
  have current : SessionsOwned d₀ h.current := sound h.now (Nat.le_refl _)
  refine wp_resetPassword (fun w user more ids v d' m' sees same read log _ lists sessions _ fresh => ?_) fun _ => trivial
  refine current.lose fresh (fun id session stands => ⟨session, (purge_spares sessions stands).2, rfl⟩) lists
    fun id session stood gone => ?_
  have own : session.user = user :=
    current.purged (fun x member => listed_now ordered sees same (read ▸ member)) sessions stood gone
  apply mine
  rw [own, log]
  simp

theorem keepsSessions_verifyEmail {token : Uuid} {draw : Draw}
    (mine : ∀ log id owner, .verified token owner ∈ log → right log id owner) :
    KeepsSessions d₀ right _ (verifyEmailAndActivateUser cfg token draw) := by
  intro h m sound ordered _
  have current : SessionsOwned d₀ h.current := sound h.now (Nat.le_refl _)
  unfold verifyEmailAndActivateUser
  rw [wp_bind]
  refine wp_reads (within_select _) (fun found w rows log => ?_) fun _ => trivial
  rw [wp_bind]
  refine wp_reads (within_orFail _ _) (fun found w' rows' log' => ?_) fun _ => trivial
  obtain ⟨row, user⟩ := found
  simp only [wp_bind, wp_require]
  refine ⟨fun _ => ⟨fun _ => ?_, fun _ => trivial⟩, fun _ => trivial⟩
  rw [wp_note]
  refine wp_of_within (K := ApartSessions) (L := Mark.Aside) ?_ (fun _ u more => ?_) fun _ => trivial
  · exact within_saveUser ⟨fun _ => by rintro ⟨⟩, fun _ => by rintro ⟨⟩⟩ fun r e member => by
      obtain rfl := List.mem_singleton.mp member
      trivial
  · rw [wp_modify]
    have kept : ∀ k, ¬ ApartSessions k → (u.put (.verificationToken token) fun _ => none).rows k = h.current.rows k := by
      intro k out
      have other : k ≠ .verificationToken token := by
        rintro rfl
        exact out ⟨fun _ => by rintro ⟨⟩, fun _ => by rintro ⟨⟩⟩
      rw [View.put_rows_other _ _ other, more.rows k out, View.mark_rows, rows', rows]
      rfl
    refine wp_deleteSessionsOf fun d m' ids x sees read others sessions purged => ?_
    have same : ∀ id, x.rows (.session id) = if id ∈ ids then none else h.current.rows (.session id) := fun id =>
      (sessions id).trans (by rw [kept (.session id) fun apart => apart.1 id rfl])
    have lists : ∀ owner, x.rows (.sessionsOf owner) = h.current.rows (.sessionsOf owner) := fun owner =>
      (others (.sessionsOf owner) fun _ => by rintro ⟨⟩).trans (kept _ fun apart => apart.2 owner rfl)
    refine wp_saveSession (fun _ => trivial) fun new y opened own rows' lists' log'' _ fresh => ?_
    have inLog : .opened draw.id row.user none ∈ y.log := by simp [log'']
    refine current.renew fresh rows' (fun owner => ?_) own inLog
      (fun id session stands => (purge_spares same stands).2) fun id session stood gone => ?_
    · rw [lists', lists]
    · have own' : session.user = row.user :=
        current.purged (fun x member => listed_now ordered sees (kept _ fun apart => apart.2 row.user rfl) (read ▸ member))
          same stood gone
      apply mine
      obtain ⟨marks, grown, _⟩ := more.log
      rw [own', log'', purged, View.put_log, grown, View.mark_log]
      simp

theorem keepsSessions_single {α : Type} {body : Action α} {answer : α → Answer} (keeps : KeepsSessions d₀ right α body) :
    (single body answer).All (KeepsSessions d₀ right) := .tx keeps (fun _ => .done _) fun _ => .done _

theorem keepsSessions_signedIn {payload : IUser} {next : Request} (rest : next.All (KeepsSessions d₀ right)) :
    (signedIn payload next).All (KeepsSessions d₀ right) :=
  .tx (keepsSessions_apart within_validate) (fun _ => rest) fun _ => .done _

theorem keepsSessions_withRole {payload : IUser} {role : UserRole} {next : Request}
    (rest : next.All (KeepsSessions d₀ right)) : (withRole payload role next).All (KeepsSessions d₀ right) := by
  refine .tx (keepsSessions_apart within_validate) (fun user => ?_) fun _ => .done _
  split
  · exact rest
  · exact .done _

theorem keepsSessions_saveToken {user : Uuid} {type : VerificationTokenType} {draw : Draw} {ttl : Nat} :
    KeepsSessions d₀ right Unit (saveToken user type draw ttl) :=
  keepsSessions_apart (within_saveToken ⟨fun _ => nofun, fun _ => nofun⟩ ⟨fun _ => nofun, fun _ => nofun⟩ trivial)

/-- The old tokens go and a new one is mailed. -/
theorem keepsSessions_mail {user : Uuid} {type : VerificationTokenType} {draw : Draw} {ttl : Nat} :
    (Req.tx (deleteTokensOf user type) (fun _ => single (saveToken user type draw ttl) fun _ => .done)
      fun e => .done (.failed e)).All (KeepsSessions d₀ right) := by
  refine .tx (keepsSessions_apart ?_) (fun _ => keepsSessions_single keepsSessions_saveToken) fun _ => .done _
  exact within_deleteTokensOf (fun _ => ⟨fun _ => nofun, fun _ => nofun⟩) fun _ => trivial

theorem keepsSessions_handleLogin (user : Uuid) (hash : Option Bytes) (old : Option RefreshToken) (draw : Draw)
    (mine : ∀ token ∈ old, ∀ log owner, right log token.sessionId owner) :
    (handleLogin cfg user hash old draw).All (KeepsSessions d₀ right) := by
  have fresh : (single (generateAndSaveSession cfg user hash draw) .tokens).All (KeepsSessions d₀ right) :=
    keepsSessions_single keepsSessions_saveSession
  cases old with
  | none => exact fresh
  | some token => exact .tx (keepsSessions_deleteSession (mine token rfl)) (fun _ => fresh) fun _ => fresh

theorem keepsSessions_login (username : String) (password : Bytes) (old : Option RefreshToken) (mailed draw : Draw)
    (mine : ∀ token ∈ old, ∀ log owner, right log token.sessionId owner) :
    (login cfg username password old mailed draw).All (KeepsSessions d₀ right) := by
  refine .tx (keepsSessions_apart ?_) (fun user => ?_) fun _ => .done _
  · exact within_bind (within_select _) fun _ => within_bind (within_orFail _ _) fun _ =>
      within_bind (within_require _ _) fun _ => within_bind (within_require _ _) fun _ => within_pure _
  · split
    · exact .tx keepsSessions_saveToken (fun _ => .done _) fun _ => .done _
    · exact keepsSessions_handleLogin _ _ old draw mine

theorem keepsSessions_admitGoogleUser (id : Uuid) (user : User) (old : Option RefreshToken) (draw : Draw)
    (mine : ∀ token ∈ old, ∀ log owner, right log token.sessionId owner) :
    (admitGoogleUser cfg id user old draw).All (KeepsSessions d₀ right) := by
  unfold admitGoogleUser
  split
  · exact .done _
  · exact keepsSessions_handleLogin id none old draw mine

theorem within_matchGoogleUser {K : Key → Prop} {L : Mark → Prop} {profile : GoogleProfile} :
    (matchGoogleUser profile).Within K L := by
  refine within_bind (within_require _ _) fun _ => within_bind (within_select _) fun found => ?_
  cases found with
  | some user => exact within_pure _
  | none =>
    refine within_bind (within_select _) fun found => ?_
    cases found with
    | some user => exact within_pure _
    | none => exact within_pure _

theorem keepsSessions_googleLogin (profile : GoogleProfile) (newId : Uuid) (username : String) (old : Option RefreshToken)
    (draw : Draw) (mine : ∀ token ∈ old, ∀ log owner, right log token.sessionId owner) :
    (googleLogin cfg profile newId username old draw).All (KeepsSessions d₀ right) := by
  have admitted : ∀ id user, (admitGoogleUser cfg id user old draw).All (KeepsSessions d₀ right) := fun id user =>
    keepsSessions_admitGoogleUser id user old draw mine
  refine .tx (keepsSessions_apart within_matchGoogleUser) (fun found => ?_) fun _ => .done _
  cases found with
  | returning id user => exact admitted id user
  | byEmail id user =>
    exact .tx (keepsSessions_ordinary within_linkGoogleAccount) (fun linked => admitted id linked) fun _ => .done _
  | unknown =>
    refine .tx (keepsSessions_ordinary within_createGoogleUser) (fun saved => ?_) fun _ => .done _
    split
    · exact admitted newId saved
    · exact .tx (keepsSessions_ordinary within_saveAvatar) (fun user => admitted newId user) fun _ => .done _

theorem keepsSessions_refresh (token : RefreshToken) (draw : Draw) (mine : ∀ log owner, right log token.sessionId owner) :
    (handleRefreshToken cfg token draw).All (KeepsSessions d₀ right) := by
  have revoke : ∀ e, (revokeSession token.sessionId e).All (KeepsSessions d₀ right) := fun e =>
    .tx (keepsSessions_deleteSession mine) (fun _ => .done _) fun _ => .done _
  unfold handleRefreshToken handleRefreshTokenBy
  split
  · exact .done _
  · refine .tx keepsSessions_rotate (fun outcome => ?_) fun _ => .done _
    cases outcome with
    | ok new => exact .done _
    | error verdict =>
      cases verdict with
      | reuseDetected => exact revoke _
      | expired => exact revoke _
      | notFound => exact .done _
      | userGone => exact .done _

theorem keepsSessions_logout (token : RefreshToken) (now : Time) (mine : ∀ log owner, right log token.sessionId owner) :
    (handleLogout token now).All (KeepsSessions d₀ right) := by
  unfold handleLogout
  split
  · exact .done _
  · exact .tx (keepsSessions_deleteSession mine) (fun _ => .done _) fun _ => .done _

theorem keepsSessions_forgotPassword (email : String) (draw : Draw) :
    (handleForgotPassword email draw).All (KeepsSessions d₀ right) := by
  refine .tx (keepsSessions_apart (within_select _)) (fun found => ?_) fun _ => .done _
  cases found with
  | none => exact .done _
  | some user => exact keepsSessions_mail

theorem keepsSessions_resend (email : String) (draw : Draw) :
    (resendVerificationEmail email draw).All (KeepsSessions d₀ right) := by
  refine .tx (keepsSessions_apart ?_) (fun _ => keepsSessions_mail) fun _ => .done _
  refine within_bind (within_select _) fun _ => within_bind (within_orFail _ _) fun _ => ?_
  exact within_bind (within_require _ _) fun _ => within_pure _

theorem keepsSessions_reApplyShop (user : Uuid) : (reApplyShop user).All (KeepsSessions d₀ right) := by
  refine .tx (keepsSessions_apart ?_) (fun _ => keepsSessions_single (keepsSessions_ordinary within_submitAgain)) fun _ => .done _
  refine within_bind (within_bind (within_select _) fun _ => within_orFail _ _) fun _ => ?_
  exact within_bind (within_require _ _) fun _ => within_pure _

end

/-- The call presents a token of the session whose signature holds, or is the owner's own change, reset or
verification. -/
def CookieCall.Rightful (jwt : RefreshTokenService) (call : CookieCall) (log : List Mark) (id owner : Uuid) : Prop :=
  call.presents jwt = some id ∨
    match call with
    | .other (.changePassword user ..) _ => user.sub = owner
    | .other (.resetPassword token ..) _ => .reset token owner ∈ log
    | .other (.verifyEmail token ..) _ => .verified token owner ∈ log
    | _ => False

section
variable {cfg : AuthConfig} {jwt : RefreshTokenService} {d₀ : Db}

theorem presents_verified {cookie : Option Bytes} {old : RefreshToken}
    (reads : (verified jwt cookie).bind jwt.decode = some old) : (cookie.bind jwt.verify).map (·.sessionId) = some old.sessionId := by
  cases cookie with
  | none => cases reads
  | some text =>
    cases holds : jwt.verify text with
    | none => simp [verified, Option.filter_some, holds] at reads
    | some token =>
      have same : some token = some old := by
        rw [← jwt.decode_verify holds]
        simpa [verified, Option.filter_some, holds] using reads
      obtain rfl := Option.some.inj same
      simp [holds]

/-- Without forged cookies every call deletes by right. -/
theorem keepsSessions_call (call : CookieCall) :
    ((call.genuine jwt).request cfg jwt).All (KeepsSessions d₀ (call.Rightful jwt)) := by
  cases call with
  | login username password cookie mailed draw =>
    exact keepsSessions_login _ _ _ _ _ fun token reads log owner => Or.inl (presents_verified reads)
  | googleLogin profile newId username cookie draw =>
    exact keepsSessions_googleLogin _ _ _ _ _ fun token reads log owner => Or.inl (presents_verified reads)
  | refresh cookie draw =>
    simp only [CookieCall.request, CookieCall.genuine, verify_verified]
    cases holds : cookie.bind jwt.verify with
    | none => exact .done _
    | some token =>
      exact keepsSessions_refresh token draw fun log owner => Or.inl (by simp [CookieCall.presents, CookieCall.cookie, holds])
  | logout cookie now =>
    simp only [CookieCall.request, CookieCall.genuine, verify_verified]
    cases holds : cookie.bind jwt.verify with
    | none => exact .done _
    | some token =>
      exact keepsSessions_logout token now fun log owner => Or.inl (by simp [CookieCall.presents, CookieCall.cookie, holds])
  | other call cookieless =>
    cases call with
    | changePassword user old new draw =>
      refine keepsSessions_signedIn (.tx (keepsSessions_ordinary within_changeUserPassword) (fun _ => ?_) fun _ => .done _)
      exact keepsSessions_single (keepsSessions_deleteSessionsOf fun _ _ => Or.inr rfl)
    | setPassword user new draw =>
      exact keepsSessions_signedIn (keepsSessions_single (keepsSessions_ordinary within_setUserPassword))
    | forgotPassword email draw => exact keepsSessions_forgotPassword email draw
    | resetPassword token new draw =>
      exact .tx (keepsSessions_resetPassword fun _ _ _ used => Or.inr used) (fun _ => .done _) fun _ => .done _
    | resendVerification email draw => exact keepsSessions_resend email draw
    | verifyEmail token draw =>
      exact .tx (keepsSessions_verifyEmail fun _ _ _ used => Or.inr used) (fun _ => .done _) fun _ => .done _
    | updateProfile user dto =>
      exact keepsSessions_signedIn (keepsSessions_single (keepsSessions_ordinary within_updateProfile))
    | reApplyShop user => exact keepsSessions_withRole (keepsSessions_reApplyShop user.sub)
    | updateUserStatus admin target status =>
      exact keepsSessions_withRole (keepsSessions_single (keepsSessions_ordinary within_updateUserStatus))
    | approveShop admin shop => exact keepsSessions_withRole (keepsSessions_single (keepsSessions_ordinary within_approveShop))
    | rejectShop admin shop reason =>
      exact keepsSessions_withRole (keepsSessions_single (keepsSessions_ordinary within_rejectShop))
    | _ => exact cookieless.elim

end
/-- A run of the calls, where what a login does to the session of a forged cookie is out of sight. -/
abbrev CookieRun (cfg : AuthConfig) (jwt : RefreshTokenService) (d₀ : Db) (guard : Store (Table Row) Mark → List Mark → Prop)
    (harmless : Store (Table Row) Mark → Key → Prop) (fault : Err) (calls : Nat → Option CookieCall) :
    List Label → Conf (Table Row) Mark Err Answer → (Nat → Bool) → Prop :=
  Shown (named (forgedRows jwt calls)) guard harmless fault (.start ⟨d₀, []⟩ (cookieCalls cfg jwt calls))

/-- Sessions are deleted by right, and runs that differ only in forged cookies have the same sessions. -/
structure SessionsSafe (cfg : AuthConfig) (jwt : RefreshTokenService) (d₀ : Db)
    (guard : Store (Table Row) Mark → List Mark → Prop) (harmless : Store (Table Row) Mark → Key → Prop) (fault : Err) :
    Prop where
  byRight : ∀ calls labels c silent, CookieRun cfg jwt d₀ guard harmless fault calls labels c silent → ∀ l d id session,
    c.Fair (named (forgedRows jwt calls)) guard harmless silent l → c.take fault l = some d →
    c.store.rows (.session id) = some session → d.store.rows (.session id) = none →
    ∃ i log call, l = .step i ∧ c.committing i = some log ∧ calls i = some call ∧ call.Rightful jwt log id session.user
  alike : ∀ calls calls' labels c d silent silent', (∀ i, (calls i).map (·.genuine jwt) = (calls' i).map (·.genuine jwt)) →
    CookieRun cfg jwt d₀ guard harmless fault calls labels c silent →
    CookieRun cfg jwt d₀ guard harmless fault calls' labels d silent' →
    ∀ id, c.store.rows (.session id) = d.store.rows (.session id)

/-- The row does not stand. -/
def Absent (s : Store (Table Row) Mark) (k : Key) : Prop := s.rows k = none

/-- What a thread may delete. -/
def rightOf (jwt : RefreshTokenService) (calls : Nat → Option CookieCall) (i : Nat) (log : List Mark) (id owner : Uuid) : Prop :=
  ∃ call, calls i = some call ∧ call.Rightful jwt log id owner

theorem keepsSessions_calls {cfg : AuthConfig} {jwt : RefreshTokenService} {d₀ : Db} (calls : Nat → Option CookieCall)
    (i : Nat) : (cookieCalls cfg jwt (fun i => (calls i).map (·.genuine jwt)) i).All
      (KeepsSessions d₀ (rightOf jwt calls i)) := by
  unfold cookieCalls
  dsimp only
  cases found : calls i with
  | none => exact .done _
  | some call =>
    have each : ((call.genuine jwt).request cfg jwt).All (KeepsSessions d₀ (call.Rightful jwt)) := keepsSessions_call call
    refine each.mono fun α body keeps h m valid ordered small => ?_
    refine wp_mono _ (keeps h m valid ordered small) (fun a w kept free admitted => ?_) fun _ e => e
    obtain ⟨sound, grow, deletes⟩ := kept free admitted
    exact ⟨sound, grow, fun id session stood gone => ⟨call, found, deletes id session stood gone⟩⟩

/-- While no session stands that a forged cookie names when its deletion commits, sessions are safe. -/
theorem sessions_safe {cfg : AuthConfig} {jwt : RefreshTokenService} {d₀ : Db} {fault : Err}
    (indexed : SessionsIndexed d₀) : SessionsSafe cfg jwt d₀ (FreshIds d₀) Absent fault := by
  constructor
  · intro calls labels c silent run l d id session fair next stood gone
    obtain ⟨c', _, moves, shadow⟩ := Shown.shadow (shadow_start (trims_calls calls)) run
    have changed : d.store ≠ c.store := by
      intro same
      rw [same, stood] at gone
      cases gone
    by_cases hidden : c.Hidden (named (forgedRows jwt calls)) silent l
    · have after := shadow.skip hidden next (fair.hidden hidden)
      exact absurd (after.store.symm.trans shadow.store) changed
    · obtain ⟨i, log, rfl, committing⟩ := take_store next changed
      obtain ⟨d', taken, after⟩ := shadow.take hidden next
      have plain : silent i = false := by
        cases flag : silent i with
        | false => rfl
        | true => exact absurd (Or.inl flag) hidden
      have start : SessionsOwned d₀ ⟨d₀, []⟩ := by
        refine ⟨fun id session stands => Or.inl ?_, fun user id member => Or.inl ?_, fun user id member session stands => ?_⟩
        · rw [show d₀ (.session id) = some session from stands]
          exact Option.some_ne_none session
        · obtain ⟨session, stands, _⟩ := (indexed user id).mp member
          rw [stands]
          exact Option.some_ne_none session
        · obtain ⟨other, stood, own⟩ := (indexed user id).mp member
          obtain rfl := Option.some.inj (stood.symm.trans stands)
          exact own
      have deletes := keeps_step_run (fun _ _ _ member => member)
        (fun first second user id member => second user id (first user id member)) start (keepsSessions_calls calls) moves
        taken ((shadow.committing plain).trans committing) (shadow.store ▸ fair.shown hidden i rfl log committing)
      rw [shadow.store, after.store] at deletes
      obtain ⟨call, called, right⟩ := deletes id session stood gone
      exact ⟨i, log, call, rfl, committing, called, right⟩
  · intro calls calls' labels c d silent silent' same run run' id
    have trims' : ∀ i, (cookieCalls cfg jwt calls' i).Trims (named (forgedRows jwt calls') i)
        (cookieCalls cfg jwt (fun i => (calls i).map (·.genuine jwt)) i) := by
      rw [funext same]
      exact trims_calls calls'
    rw [shown_agree (trims_calls calls) trims' run run']

def eve : Uuid := sampleUuid 8

/-- Beside the customer, who is signed in, and another. -/
def signedInCustomer : Db
  | .user id => if id = eve then
      some ⟨"eve", "eve@example.com", some (sampleConfig.bcrypt.hash [] customerPassword), none, .customer, .active,
        none, none, none, none⟩ else oneCustomer (.user id)
  | .userByUsername "eve" => some eve
  | .session id => if id = sampleUuid 1 then
      some ⟨customer, some (hashToken sampleConfig [] (sampleToken 1)), none, none, some 2592060000⟩ else none
  | .sessionsOf user => if user = customer then some [sampleUuid 1] else none
  | k => oneCustomer k

theorem signedInCustomer_indexed : SessionsIndexed signedInCustomer := by
  intro user id
  have list : listed (signedInCustomer (.sessionsOf user)) = if user = customer then [sampleUuid 1] else [] := by
    by_cases same : user = customer <;> simp [signedInCustomer, same, listed]
  have row : signedInCustomer (.session id) = if id = sampleUuid 1 then
      some ⟨customer, some (hashToken sampleConfig [] (sampleToken 1)), none, none, some 2592060000⟩ else none := rfl
  rw [list, row]
  by_cases mine : user = customer
  · subst mine
    by_cases same : id = sampleUuid 1 <;> simp [same]
  · by_cases same : id = sampleUuid 1 <;> simp [same, mine, Ne.symm mine]

/-- The text of a token with an empty signature. -/
def unsigned (token : RefreshToken) : Bytes := token.signingInput ++ dot

/-- The token of a session that does not exist. -/
def strayToken : RefreshToken := createTokens sampleConfig customer (sampleUuid 7) 60000

def signedTokens : List RefreshToken := [sampleToken 1, strayToken]

/-- The service on the texts of two tokens, signed and unsigned. -/
def sampleJwt : RefreshTokenService where
  decode text := signedTokens.find? (fun token => text = token.text sampleConfig.sign) <|>
    signedTokens.find? fun token => text = unsigned token
  verify text := signedTokens.find? fun token => text = token.text sampleConfig.sign
  decode_verify signed := by
    rw [signed]
    rfl

/-- Two logins with unsigned cookies, the second of which names the session of the customer. -/
def forgedLogins : Nat → Option CookieCall
  | 0 => some (.login "eve" customerPassword (some (unsigned strayToken)) (sampleDraw 1) ⟨sampleUuid 2, [], 120000⟩)
  | 1 => some (.login "eve" customerPassword (some (unsigned (sampleToken 1))) (sampleDraw 1) ⟨sampleUuid 3, [], 120000⟩)
  | _ => none

instance decideFresh (d₀ : Db) (s : Store (Table Row) Mark) : ∀ e : Mark, Decidable (e.fresh d₀ s)
  | .opened id _ _ => inferInstanceAs (Decidable (d₀ (.session id) = none ∧ id ∉ sessionsOpened s.journal))
  | .shopRegistered .. => isTrue trivial
  | .issued .. => isTrue trivial
  | .reuse .. => isTrue trivial
  | .reset .. => isTrue trivial
  | .verified .. => isTrue trivial
  | .tokenSaved .. => isTrue trivial
  | .cleared .. => isTrue trivial
  | .passwordSet .. => isTrue trivial
  | .purged .. => isTrue trivial
  | .userSaved .. => isTrue trivial
  | .statusSet .. => isTrue trivial
  | .adminSet .. => isTrue trivial

instance (d₀ : Db) (s : Store (Table Row) Mark) (log : List Mark) : Decidable (FreshIds d₀ s log) :=
  inferInstanceAs (Decidable (∀ e ∈ log, e.fresh d₀ s))

instance (s : Store (Table Row) Mark) : ∀ k : Key, Decidable (Absent s k)
  | .session id => inferInstanceAs (Decidable (s.rows (.session id) = none))
  | k => decidable_of_iff ((s.rows k).isNone = true) (by rw [Absent, Option.isNone_iff_eq_none])

def forgedStart : Conf (Table Row) Mark Err Answer :=
  .start ⟨signedInCustomer, []⟩ (cookieCalls sampleConfig sampleJwt forgedLogins)

set_option maxRecDepth 4000 in
/-- The first login goes through, and the customer stays signed in. -/
theorem stray_login_safe :
    ∃ labels c silent, CookieRun sampleConfig sampleJwt signedInCustomer (FreshIds signedInCustomer) Absent .database
        forgedLogins labels c silent ∧ labels.length = 11 ∧ c.store.rows (.session (sampleUuid 1)) ≠ none ∧
      c.store.rows (.session (sampleUuid 2)) ≠ none ∧
      SessionsSafe sampleConfig sampleJwt signedInCustomer (FreshIds signedInCustomer) Absent .database := by
  have found : ∃ x ∈ forgedStart.show_ (forgedRows sampleJwt forgedLogins) (FreshIds signedInCustomer) Absent
      (fun _ => false) [] (List.replicate 14 0), x.1.length = 11 ∧ x.2.store.rows (.session (sampleUuid 1)) ≠ none ∧
      x.2.store.rows (.session (sampleUuid 2)) ≠ none := by
    decide +kernel
  obtain ⟨⟨labels, c⟩, played, length, stands, opened⟩ := found
  obtain ⟨silent, run⟩ := show_shown _ _ _ Err.database .start played
  exact ⟨labels, c, silent, run, length, stands, opened, sessions_safe signedInCustomer_indexed⟩

set_option maxRecDepth 4000 in
/-- The second login deletes the session of the customer, whose token it has not got. -/
theorem not_sessions_safe :
    ¬ ∀ (cfg : AuthConfig) (jwt : RefreshTokenService) (d₀ : Db), SessionsIndexed d₀ →
      SessionsSafe cfg jwt d₀ (fun _ _ => True) (fun _ _ => True) .database := by
  intro claimed
  have found : ∃ x ∈ forgedStart.show_ (forgedRows sampleJwt forgedLogins) (fun _ _ => True) (fun _ _ => True)
      (fun _ => false) [] (List.replicate 5 1), ∃ d ∈ x.2.advance 1,
      (x.2.store.rows (.session (sampleUuid 1))).isSome ∧ d.store.rows (.session (sampleUuid 1)) = none := by
    decide +kernel
  obtain ⟨⟨labels, c⟩, played, d, next, stands, gone⟩ := found
  obtain ⟨silent, run⟩ := show_shown _ _ _ Err.database .start played
  obtain ⟨session, stood⟩ := Option.isSome_iff_exists.mp stands
  have fair : c.Fair (named (forgedRows sampleJwt forgedLogins)) (fun _ _ => True) (fun _ _ => True) silent (.step 1) :=
    ⟨fun _ _ _ _ _ _ => trivial, fun _ _ _ _ _ => trivial⟩
  obtain ⟨i, log, call, same, _, called, right⟩ :=
    (claimed sampleConfig sampleJwt signedInCustomer signedInCustomer_indexed).byRight forgedLogins labels c silent run
      (.step 1) d (sampleUuid 1) session fair next stood gone
  obtain rfl := Label.step.inj same
  obtain rfl := Option.some.inj called
  rcases right with presented | no
  · exact absurd presented (by decide +kernel)
  · exact no

end Marketplace.Accounts
