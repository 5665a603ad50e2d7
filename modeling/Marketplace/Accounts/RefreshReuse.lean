import Marketplace.Accounts.Auth
import Marketplace.ReadCommitted.Rowwise
import Marketplace.ReadCommitted.Serial

/-! Which refresh tokens of a session a refresh accepts. -/
namespace Marketplace.Accounts
open ReadCommitted ReadCommitted.Tx

/-- The stored hash is one of a token of the session's user. -/
def Hashed (cfg : AuthConfig) (session : Session) : Prop :=
  ∃ salt token, session.refreshToken = some (hashToken cfg salt token) ∧ token.sub = session.user

def SessionHashed (cfg : AuthConfig) : ∀ k, Table Row k → Prop
  | .session _, found => ∀ session, found = some session → Hashed cfg session
  | _, _ => True

section
variable {cfg : AuthConfig}

/-- Rows that are not sessions. -/
def NotSession (k : Key) : Prop := ∀ id, k ≠ .session id

theorem preserves_notSession {α : Type} {t : Action α} (h : t.Within NotSession fun _ => True) :
    t.Preserves (SessionHashed cfg) := by
  refine preserves_of_within h fun k out x => ?_
  cases k with
  | session id => exact absurd rfl (out id)
  | _ => trivial

theorem within_saveUser {K : Key → Prop} {L : Mark → Prop} {id : Uuid} {selected : Bool} {mem : User}
    {marks : User → List Mark} (changed : K (.user id)) (marked : ∀ r, ∀ e ∈ marks r, L e) :
    (saveUser id selected mem marks).Within K L := by
  refine within_bind (within_select _) fun found => ?_
  cases found with
  | none => exact within_insert _ _ _ changed
  | some reread =>
    refine within_bind (within_forM _ fun e member => (within_note e).mpr (marked reread e member)) fun _ => ?_
    exact within_ite (within_pure ()) ((within_modify _ _).mpr changed)

theorem within_findUserOrFail {K : Key → Prop} {L : Mark → Prop} {id : Uuid} : (findUserOrFail id).Within K L :=
  within_bind (within_select _) fun _ => within_orFail _ _

theorem within_validate {K : Key → Prop} {L : Mark → Prop} {payload : IUser} : (validate payload).Within K L :=
  within_bind (within_select _) fun _ => within_bind (within_orFail _ _) fun _ =>
    within_bind (within_require _ _) fun _ => within_pure _

/-- Rows of users and shops and their indexes. -/
def Ordinary : Key → Prop
  | .session _ => False
  | .sessionsOf _ => False
  | .verificationToken _ => False
  | .tokensOf _ => False
  | _ => True

/-- Marks about users and shops. -/
def Mark.Ordinary : Mark → Prop
  | .passwordSet .. => True
  | .userSaved .. => True
  | .statusSet .. => True
  | .adminSet .. => True
  | .shopRegistered .. => True
  | _ => False

theorem preserves_ordinary {α : Type} {t : Action α} (h : t.Within Ordinary Mark.Ordinary) :
    t.Preserves (SessionHashed cfg) := by
  refine preserves_notSession (within_mono (fun k ordinary id same => ?_) (fun _ _ => trivial) h)
  rw [same] at ordinary
  exact ordinary

theorem within_ownSave {id : Uuid} {selected : Bool} {loaded mem : User} :
    (saveUser id selected mem (ownSave id loaded mem)).Within Ordinary Mark.Ordinary := by
  refine within_saveUser trivial fun r e member => ?_
  obtain rfl := List.mem_singleton.mp member
  trivial

theorem within_changeUserPassword {id : Uuid} {oldPassword newPassword salt : Base64Url.Bytes} {now : Time} :
    (changeUserPassword cfg id oldPassword newPassword salt now).Within Ordinary Mark.Ordinary := by
  refine within_bind within_findUserOrFail fun user => within_bind (within_require _ _) fun _ => ?_
  refine within_bind (within_require _ _) fun _ => within_bind (within_require _ _) fun _ => ?_
  exact within_bind ((within_note _).mpr trivial) fun _ => within_ownSave

theorem within_setUserPassword {id : Uuid} {newPassword salt : Base64Url.Bytes} {now : Time} :
    (setUserPassword cfg id newPassword salt now).Within Ordinary Mark.Ordinary :=
  within_bind within_findUserOrFail fun _ => within_bind (within_require _ _) fun _ => within_ownSave

theorem within_updateProfile {id : Uuid} {dto : UpdateProfileDto} :
    (updateProfile id dto).Within Ordinary Mark.Ordinary :=
  within_bind within_findUserOrFail fun _ => within_bind within_ownSave fun _ => within_findUserOrFail

theorem within_updateUserStatus {admin target : Uuid} {status : AccountStatus} :
    (updateUserStatus admin target status).Within Ordinary Mark.Ordinary := by
  refine within_bind (within_require _ _) fun _ => within_bind (within_require _ _) fun _ => ?_
  refine within_bind within_findUserOrFail fun user => within_bind (within_require _ _) fun _ => ?_
  refine within_bind (within_saveUser trivial fun r e member => ?_) fun _ => within_findUserOrFail
  obtain rfl := List.mem_singleton.mp member
  trivial

theorem within_forgetGoogleId {K : Key → Prop} {L : Mark → Prop} {googleId : Option String}
    (changed : ∀ old, K (.userByGoogleId old)) : (forgetGoogleId googleId).Within K L := by
  cases googleId with
  | none => exact within_pure ()
  | some old => exact (within_modify _ _).mpr (changed old)

theorem within_linkGoogleAccount {id : Uuid} {user : User} {profile : GoogleProfile} {takeover : Bool} {now : Time} :
    (linkGoogleAccount id user profile takeover now).Within Ordinary Mark.Ordinary := by
  refine within_bind within_ownSave fun _ => within_bind (within_forgetGoogleId fun _ => trivial) fun _ => ?_
  exact within_bind (within_insert _ _ _ trivial) fun _ => within_pure _

theorem within_createGoogleUser {newId : Uuid} {username : String} {profile : GoogleProfile} :
    (createGoogleUser newId username profile).Within Ordinary Mark.Ordinary := by
  refine within_bind (within_insert _ _ _ trivial) fun _ => within_bind (within_insert _ _ _ trivial) fun _ => ?_
  refine within_bind (within_insert _ _ _ trivial) fun _ => within_bind (within_insert _ _ _ trivial) fun _ => ?_
  exact within_pure _

theorem within_saveAvatar {newId : Uuid} {saved : User} {avatarUrl : String} :
    (saveAvatar newId saved avatarUrl).Within Ordinary Mark.Ordinary :=
  within_bind within_ownSave fun _ => within_pure _

theorem within_findOneByShopId {K : Key → Prop} {L : Mark → Prop} {id : Id} : (findOneByShopId id).Within K L :=
  within_bind (within_select _) fun _ => within_orFail _ _

theorem within_settleShop {id : Id} {shop : Shop} {status : AccountStatus} {reason : Option String} :
    (settleShop id shop status reason).Within Ordinary Mark.Ordinary := by
  refine within_bind (within_save _ _ trivial) fun _ => ?_
  exact within_bind ((within_note _).mpr trivial) fun _ => (within_modify _ _).mpr trivial

theorem within_approveShop {id : Id} : (approveShop id).Within Ordinary Mark.Ordinary :=
  within_bind within_findOneByShopId fun _ => within_settleShop

theorem within_rejectShop {id : Id} {reason : String} : (rejectShop id reason).Within Ordinary Mark.Ordinary :=
  within_bind (within_require _ _) fun _ => within_bind within_findOneByShopId fun _ => within_settleShop

theorem within_submitAgain {id : Uuid} {shop : Id × Shop} : (submitAgain id shop).Within Ordinary Mark.Ordinary := by
  refine within_bind ((within_modify _ _).mpr trivial) fun _ => within_bind ?_ fun _ => ?_
  · exact within_bind ((within_note _).mpr trivial) fun _ => (within_modify _ _).mpr trivial
  · exact within_bind (within_select _) fun _ => (within_note _).mpr trivial

theorem within_saveToken {K : Key → Prop} {L : Mark → Prop} {user : Uuid} {type : VerificationTokenType} {draw : Draw}
    {ttl : Nat} (row : K (.verificationToken draw.id)) (list : K (.tokensOf user))
    (marked : L (.tokenSaved draw.id user type)) : (saveToken user type draw ttl).Within K L :=
  within_bind ((within_note _).mpr marked) fun _ => within_bind (within_insert _ _ _ row) fun _ =>
    (within_modify _ _).mpr list

theorem within_deleteTokensOf {K : Key → Prop} {L : Mark → Prop} {user : Uuid} {type : VerificationTokenType}
    (rows : ∀ id, K (.verificationToken id)) (marked : ∀ ids, L (.cleared user type ids)) :
    (deleteTokensOf user type).Within K L :=
  within_bind (within_select _) fun _ => within_bind ((within_note _).mpr (marked _)) fun _ =>
    within_forM _ fun id _ => within_deleteWhere _ _ (rows id)

theorem within_deleteSessionsOf {K : Key → Prop} {L : Mark → Prop} {user : Uuid} (rows : ∀ id, K (.session id))
    (marked : ∀ ids, L (.purged user ids)) : (deleteSessionsOf user).Within K L :=
  within_bind (within_select _) fun ids => within_bind ((within_note _).mpr (marked ids)) fun _ =>
    within_forM _ fun id _ => (within_modify _ _).mpr (rows id)

theorem within_saveSession {K : Key → Prop} {L : Mark → Prop} {user : Uuid} {verified : Option Base64Url.Bytes} {draw : Draw}
    (row : K (.session draw.id)) (list : K (.sessionsOf user)) (issued : ∀ token at_, L (.issued token at_))
    (opened : L (.opened draw.id user verified)) : (generateAndSaveSession cfg user verified draw).Within K L := by
  refine within_bind ((within_note _).mpr (issued _ _)) fun _ => within_bind ((within_note _).mpr opened) fun _ => ?_
  refine within_bind (within_insert _ _ _ row) fun _ => within_bind ((within_modify _ _).mpr list) fun _ => ?_
  exact within_pure _

theorem wp_reads {α : Type} {t : Action α} {I : Isolation (Table Row) Mark} {v : View (Table Row) Mark}
    {Q : α → View (Table Row) Mark → Prop} {E : Err → Prop} (reads : t.Within (fun _ => False) fun _ => False)
    (h : ∀ a w, w.rows = v.rows → w.log = v.log → Q a w) (err : ∀ e, E e) : t.wp I Q E v :=
  wp_of_within reads (fun a w more => h a w more.rows_same more.log_same) err

theorem preserves_insert {k : Key} {row : Row k} (sound : SessionHashed cfg k (some row)) :
    (insert k row .database : Action Unit).Preserves (SessionHashed cfg) := by
  refine preserves_bind (fun _ _ => trivial) fun found => preserves_bind preserves_require fun _ => ?_
  exact preserves_modify fun _ _ => sound

theorem preserves_deleteSession {id : Uuid} : (deleteSession id).Preserves (SessionHashed cfg) :=
  preserves_modify fun _ _ _ => nofun

theorem preserves_deleteSessionsOf {user : Uuid} : (deleteSessionsOf user).Preserves (SessionHashed cfg) :=
  preserves_select fun _ _ => preserves_bind trivial fun _ => preserves_forM _ fun _ => preserves_deleteSession

theorem preserves_generateAndSaveSession {user : Uuid} {verified : Option Base64Url.Bytes} {draw : Draw} :
    (generateAndSaveSession cfg user verified draw).Preserves (SessionHashed cfg) := by
  refine preserves_bind trivial fun _ => preserves_bind trivial fun _ => preserves_bind (preserves_insert ?_) fun _ => ?_
  · intro session same
    obtain rfl := Option.some.inj same
    exact ⟨_, _, rfl, rfl⟩
  · exact preserves_bind (preserves_modify fun _ _ => trivial) fun _ => trivial

theorem preserves_dropToken {token : Uuid} :
    (modify (.verificationToken token) fun _ => none : Action Unit).Preserves (SessionHashed cfg) :=
  preserves_modify fun _ _ => trivial

theorem preserves_resetPassword {token : Uuid} {newPassword : Base64Url.Bytes} {draw : Draw} :
    (resetPassword cfg token newPassword draw).Preserves (SessionHashed cfg) := by
  refine preserves_select fun _ _ => preserves_bind preserves_orFail fun found => ?_
  refine preserves_bind preserves_require fun _ => preserves_bind trivial fun _ => preserves_bind trivial fun _ => ?_
  refine preserves_bind (preserves_ordinary within_ownSave) fun _ => ?_
  exact preserves_bind preserves_dropToken fun _ => preserves_deleteSessionsOf

theorem preserves_verifyEmail {token : Uuid} {draw : Draw} :
    (verifyEmailAndActivateUser cfg token draw).Preserves (SessionHashed cfg) := by
  refine preserves_select fun _ _ => preserves_bind preserves_orFail fun found => ?_
  refine preserves_bind preserves_require fun _ => preserves_bind preserves_require fun _ => ?_
  refine preserves_bind trivial fun _ => ?_
  refine preserves_bind (preserves_ordinary within_ownSave) fun _ => ?_
  refine preserves_bind preserves_dropToken fun _ => preserves_bind preserves_deleteSessionsOf fun _ => ?_
  exact preserves_generateAndSaveSession

/-- What a rotation does by the verdict on the locked session. -/
theorem wp_rotateBy {I : Isolation (Table Row) Mark} {E : Err → Prop} {v : View (Table Row) Mark}
    {matches_ : Base64Url.Bytes → Option Base64Url.Bytes → Bool} {token : RefreshToken} {draw : Draw}
    {Q : Except RefreshVerdict RefreshToken → View (Table Row) Mark → Prop}
    (gone : (∀ session, v.rows (.session token.sessionId) = some session → session.user ≠ token.sub) →
      ∀ w, w.rows = v.rows → w.log = v.log → Q (.error .notFound) w)
    (judged : ∀ session w, v.rows (.session token.sessionId) = some session → session.user = token.sub →
      w.rows = v.rows → w.log = v.log →
      match judgeBy matches_ session (token.text cfg.sign) draw.now with
      | .notFound => Q (.error .notFound) w
      | .expired => Q (.error .expired) w
      | .reuseDetected => Q (.error .reuseDetected) (w.mark (.reuse token.sessionId))
      | .ok _ _ => Q (.error .userGone) w)
    (rotated : ∀ session viaGrace w new, v.rows (.session token.sessionId) = some session → session.user = token.sub →
      judgeBy matches_ session (token.text cfg.sign) draw.now = .ok session viaGrace →
      new = createTokens cfg token.sub token.sessionId draw.now →
      v.Continues (· = .session token.sessionId) (fun _ => True) w → w.log = v.log ++ [.issued new draw.now] →
      w.rows (.session token.sessionId) = some { session with
        previousRefreshToken := session.refreshToken
        refreshToken := some (hashToken cfg draw.salt new)
        rotatedAt := some draw.now
        expiresAt := some (draw.now + cfg.refreshTokenExpiration) } → Q (.ok new) w) :
    (rotateBy matches_ cfg token draw).wp I Q E v := by
  unfold rotateBy verifyAndLock
  simp only [wp_bind]
  refine wp_selectForUpdate fun w more held => ?_
  have same : w.rows = v.rows := more.rows_same
  have unmarked : w.log = v.log := more.log_same
  cases found : (v.rows (.session token.sessionId)).filter fun session => session.user = token.sub with
  | none =>
    refine gone (fun session stands mine => ?_) w same unmarked
    rw [stands] at found
    simp [mine] at found
  | some session =>
    obtain ⟨stands, mine⟩ := Option.filter_eq_some_iff.mp found
    have own : session.user = token.sub := by simpa using mine
    have verdict := judged session w stands own same unmarked
    dsimp only
    rw [wp_pure]
    cases outcome : judgeBy matches_ session (token.text cfg.sign) draw.now with
    | notFound => simpa [outcome] using verdict
    | expired => simpa [outcome] using verdict
    | reuseDetected =>
      rw [outcome] at verdict
      exact verdict
    | ok other viaGrace =>
      obtain rfl : other = session := by
        unfold judgeBy at outcome
        split at outcome
        · cases outcome
        · split at outcome
          · cases outcome; rfl
          · split at outcome
            · cases outcome; rfl
            · cases outcome
      dsimp only
      rw [wp_bind, wp_select]
      intro d m sees
      cases d (.user token.sub) with
      | none => simpa [outcome] using judged other (w.looking m) stands own same unmarked
      | some user =>
        simp only [wp_bind, wp_note, commitRotation, wp_modify, wp_pure]
        refine rotated other viaGrace _ _ stands own outcome rfl ?_ ?_ ?_
        · exact (((more.mono (fun _ no => no.elim) fun _ no => no.elim).trans (.looking (I.forward sees))).trans
            (.mark trivial)).trans (.put rfl)
        · rw [View.put_log, View.mark_log, View.looking_log, unmarked]
        · rw [View.put_rows_self, View.mark_rows, View.looking_rows, same, stands]
          rfl

theorem rotate_keeps (token : RefreshToken) (draw : Draw) :
    (rotate cfg token draw).Keeps (fun _ _ => True) (fun s => ∀ k, SessionHashed cfg k (s.rows k)) fun _ _ => True := by
  intro h m committed _ _
  have now : ∀ k, SessionHashed cfg k (h.current.rows k) := committed h.now (Nat.le_refl _)
  refine wp_rotateBy (fun _ w same _ _ _ => ⟨fun k => ?_, trivial⟩) (fun session w _ _ same _ => ?_)
    fun session viaGrace w new stands mine _ sub more _ stored _ _ => ⟨fun k => ?_, trivial⟩
  · change SessionHashed cfg k (w.rows k)
    rw [same]
    exact now k
  · have kept : ∀ k, SessionHashed cfg k (w.rows k) := fun k => same ▸ now k
    split <;> exact fun _ _ => ⟨kept, trivial⟩
  · by_cases eq : k = .session token.sessionId
    · subst eq
      change SessionHashed cfg _ (w.rows _)
      rw [stored]
      intro s same
      obtain rfl := Option.some.inj same
      exact ⟨draw.salt, new, rfl, (congrArg RefreshToken.sub sub).trans mine.symm⟩
    · change SessionHashed cfg k (w.rows k)
      rw [more.rows k eq]
      exact now k

/-- Every transaction of the API keeps the hashes of all sessions. -/
theorem transaction_keeps {α : Type} {body : Action α} (kind : Transaction cfg α body) :
    body.Keeps (fun _ _ => True) (fun s => ∀ k, SessionHashed cfg k (s.rows k)) fun _ _ => True := by
  cases kind with
  | rotate => exact rotate_keeps _ _
  | validate => exact (preserves_notSession within_validate).keeps
  | validateUser =>
    refine Preserves.keeps (preserves_select fun _ _ => preserves_bind preserves_orFail fun user => ?_)
    exact preserves_bind preserves_require fun _ => preserves_bind preserves_require fun _ => trivial
  | saveSession => exact preserves_generateAndSaveSession.keeps
  | deleteSession => exact preserves_deleteSession.keeps
  | deleteSessions => exact preserves_deleteSessionsOf.keeps
  | saveToken => exact (preserves_notSession (within_saveToken (fun _ => nofun) (fun _ => nofun) trivial)).keeps
  | deleteTokens => exact (preserves_notSession (within_deleteTokensOf (fun _ _ => nofun) fun _ => trivial)).keeps
  | matchGoogleUser =>
    refine Preserves.keeps (preserves_bind preserves_require fun _ => preserves_select fun d _ => ?_)
    split
    · trivial
    · refine preserves_select fun d _ => ?_
      split <;> trivial
  | linkGoogleAccount => exact (preserves_ordinary within_linkGoogleAccount).keeps
  | createGoogleUser => exact (preserves_ordinary within_createGoogleUser).keeps
  | saveAvatar => exact (preserves_ordinary within_saveAvatar).keeps
  | changeUserPassword => exact (preserves_ordinary within_changeUserPassword).keeps
  | setUserPassword => exact (preserves_ordinary within_setUserPassword).keeps
  | findByEmail => exact Preserves.keeps fun _ _ => trivial
  | findInactive =>
    refine Preserves.keeps (preserves_select fun _ _ => preserves_bind preserves_orFail fun _ => ?_)
    exact preserves_bind preserves_require fun _ => trivial
  | resetPassword => exact preserves_resetPassword.keeps
  | verifyEmail => exact preserves_verifyEmail.keeps
  | updateProfile => exact (preserves_ordinary within_updateProfile).keeps
  | rejectedShop =>
    refine Preserves.keeps (preserves_bind (preserves_select fun _ _ => preserves_orFail) fun _ => ?_)
    exact preserves_bind preserves_require fun _ => trivial
  | submitAgain => exact (preserves_ordinary within_submitAgain).keeps
  | updateUserStatus => exact (preserves_ordinary within_updateUserStatus).keeps
  | approveShop => exact (preserves_ordinary within_approveShop).keeps
  | rejectShop => exact (preserves_ordinary within_rejectShop).keeps

end

/-- The tokens issued for a session and when, newest first. -/
def issuedFor (journal : List Mark) (sessionId : Uuid) : List (RefreshToken × Time) :=
  journal.reverse.filterMap fun
    | .issued token issuedAt => if token.sessionId = sessionId then some (token, issuedAt) else none
    | _ => none

/-- The newest token of its session, or the one before it within the grace of the last rotation. -/
def Acceptable (journal : List Mark) (token : RefreshToken) (now : Time) : Prop :=
  match issuedFor journal token.sessionId with
  | (newest, _) :: [] => token = newest
  | (newest, rotatedAt) :: (previous, _) :: _ =>
    token = newest ∨ token = previous ∧ now - rotatedAt ≤ REFRESH_ROTATION_GRACE_MS
  | [] => False

/-- Neither the token nor its session is over. -/
def Live (d : Db) (token : RefreshToken) (now : Time) : Prop :=
  now / 1000 < token.exp ∧ ∃ session, d (.session token.sessionId) = some session ∧ session.user = token.sub ∧
    session.expiresAt.any (· < now) = false

/-- A refresh accepts no other token, and a live one it does not accept is judged reuse and its
session revoked. -/
structure RefreshSound (cfg : AuthConfig) (s : Store (Table Row) Mark) (token : RefreshToken) (draw : Draw) : Prop where
  accepts : ∀ new, ((handleRefreshToken cfg token draw).run s).1 = .tokens new →
    Acceptable s.journal token draw.now
  revokes : Live s.rows token draw.now → ¬ Acceptable s.journal token draw.now →
    ((handleRefreshToken cfg token draw).run s).1 = .failed reuseError ∧
      ((handleRefreshToken cfg token draw).run s).2.rows (.session token.sessionId) = none

section
variable {cfg : AuthConfig} {token : RefreshToken} {draw : Draw} {s : Store (Table Row) Mark}

/-- The stored hash matches every token of the session's user. -/
theorem judge_hashed {session : Session} (hashed : Hashed cfg session) (mine : session.user = token.sub) (now : Time) :
    judge cfg session (token.text cfg.sign) now =
      if session.expiresAt.any (· < now) then .expired else .ok session false := by
  obtain ⟨salt, stored, hash, sub⟩ := hashed
  have matches_ : compareHashedDataHelper cfg (token.text cfg.sign) session.refreshToken = true := by
    rw [hash]
    exact compare_text cfg (sub.trans mine).symm salt
  unfold judge judgeBy
  rw [matches_]
  simp

/-- A refresh answers with tokens or finds no user when token and session are live, and with neither
tokens nor reuse otherwise. -/
theorem refresh_answers (hashed : ∀ k, SessionHashed cfg k (s.rows k)) :
    (Live s.rows token draw.now → ((handleRefreshToken cfg token draw).run s).1 ≠ .failed reuseError) ∧
      ∀ new, ((handleRefreshToken cfg token draw).run s).1 = .tokens new → Live s.rows token draw.now := by
  unfold handleRefreshToken handleRefreshTokenBy
  split
  · rename_i ended
    exact ⟨fun live => absurd live.1 (Nat.not_lt.mpr ended), fun _ => by rintro ⟨⟩⟩
  · rename_i open_
    have spec : (rotateBy (compareHashedDataHelper cfg) cfg token draw).wp .serial
        (fun outcome _ => (Live s.rows token draw.now → outcome = .error .userGone ∨ ∃ new, outcome = .ok new) ∧
          ∀ new, outcome = .ok new → Live s.rows token draw.now) (fun _ => False) (View.start s.rows 0) := by
      refine wp_rotateBy (fun foreign w _ _ => ⟨fun live => ?_, fun _ => by rintro ⟨⟩⟩) (fun session w stands mine _ _ => ?_)
        fun session viaGrace w new stands mine verdict _ _ _ _ => ⟨fun _ => Or.inr ⟨new, rfl⟩, fun _ _ => ?_⟩
      · obtain ⟨_, session, stands, mine, _⟩ := live
        exact absurd mine (foreign session stands)
      · rw [← judge, judge_hashed (hashed (.session token.sessionId) session stands) mine]
        split
        all_goals rename_i verdict
        all_goals split at verdict
        all_goals cases verdict
        · rename_i ended
          refine ⟨fun live => ?_, fun _ => by rintro ⟨⟩⟩
          obtain ⟨_, other, found, _, running⟩ := live
          obtain rfl := Option.some.inj (stands.symm.trans found)
          rw [running] at ended
          cases ended
        · exact ⟨fun _ => Or.inl rfl, fun _ => by rintro ⟨⟩⟩
      · rw [← judge, judge_hashed (hashed (.session token.sessionId) session stands) mine] at verdict
        split at verdict
        · cases verdict
        · rename_i running
          exact ⟨Nat.not_le.mp open_, session, stands, mine, by simpa using running⟩
    rcases Req.run_tx (answerRefresh token) (fun e => .done (.failed e)) spec with
      ⟨outcome, w, ⟨live, accepted⟩, runs⟩ | ⟨_, no, _⟩
    · rw [runs]
      cases outcome with
      | ok new => exact ⟨fun _ => by rintro ⟨⟩, fun _ _ => accepted new rfl⟩
      | error verdict =>
        cases verdict with
        | userGone => exact ⟨fun _ => by simp [answerRefresh, Req.run, reuseError], fun _ => by rintro ⟨⟩⟩
        | notFound => exact ⟨fun alive => by simpa using live alive, fun _ => by rintro ⟨⟩⟩
        | expired => exact ⟨fun alive => by simpa using live alive, fun _ => by rintro ⟨⟩⟩
        | reuseDetected => exact ⟨fun alive => by simpa using live alive, fun _ => by rintro ⟨⟩⟩
    · exact no.elim

end

/-- In every state of every run, for every signed token: a live token is taken for the newest one. -/
theorem refresh_sound_iff {cfg : AuthConfig} {calls : Nat → Option AuthCall} {fault : Err} {d₀ : Db}
    (empty : ∀ id, d₀ (.session id) = none) {c : Conf (Table Row) Mark Err Answer}
    (run : Moves (fun _ _ => True) fault (Conf.start ⟨d₀, []⟩ (authCalls cfg calls)) c) (token : RefreshToken)
    (draw : Draw) :
    RefreshSound cfg c.store token draw ↔
      (Live c.store.rows token draw.now → Acceptable c.store.journal token draw.now) := by
  have start : ∀ k, SessionHashed cfg k (d₀ k) := by
    intro k
    cases k with
    | session id =>
      intro session found
      rw [empty] at found
      cases found
    | _ => trivial
  have keeps : ∀ i, (authCalls cfg calls i).All fun _ body =>
      body.Keeps _ (fun s => ∀ k, SessionHashed cfg k (s.rows k)) fun _ _ => True :=
    fun i => (authCalls_transactions calls i).mono fun _ _ kind => transaction_keeps kind
  have hashed : ∀ k, SessionHashed cfg k (c.store.rows k) :=
    keeps_safe (fun _ => trivial) (fun _ _ => trivial) start keeps run
  obtain ⟨answers, accepted⟩ : _ ∧ ∀ new, ((handleRefreshToken cfg token draw).run c.store).1 = .tokens new → _ :=
    refresh_answers hashed
  refine ⟨fun sound live => ?_, fun allowed => ⟨fun new answered => ?_, fun live stale => ?_⟩⟩
  · by_contra stale
    exact answers live (sound.revokes live stale).1
  · exact allowed (accepted new answered)
  · exact absurd (allowed live) stale

def sampleUuid (last : UInt8) : Uuid where
  text := Base64Url.ascii "7b0e4a52-51c5-4a53-9a0e-2f6f8f1d9c1" ++ [last]
  length := by
    have constant : (Base64Url.ascii "7b0e4a52-51c5-4a53-9a0e-2f6f8f1d9c1").length = 35 := by decide +kernel
    rw [List.length_append, constant, List.length_singleton]

/-- Hashes that keep just what is compared. -/
def sampleConfig : AuthConfig where
  bcrypt :=
    { hash := fun _ plainData => plainData.take 72
      compare := fun plainData hashedData => plainData.take 72 = hashedData
      compare_hash := fun _ x y => by simp }
  sign signingInput := signingInput.reverse.take 32
  refreshTokenExpiration := 2592000000

def customer : Uuid := sampleUuid 0

def customerPassword : Base64Url.Bytes := Base64Url.ascii "Password1"

def oneCustomer : Db
  | .user id => if id = customer then
      some ⟨"lan", "lan@example.com", some (sampleConfig.bcrypt.hash [] customerPassword), none, .customer, .active,
        none, none, none, none⟩ else none
  | .userByUsername "lan" => some customer
  | .userByEmail "lan@example.com" => some customer
  | _ => none

/-- The tokens of session 1, a minute apart. -/
def sampleToken (n : Nat) : RefreshToken := createTokens sampleConfig customer (sampleUuid 1) (60000 * n)

def sampleDraw (n : Nat) : Draw := ⟨sampleUuid 1, [], 60000 * n⟩

/-- A login, and two rotations after a minute each. -/
def rotations : Nat → Option AuthCall
  | 0 => some (.login "lan" customerPassword none (sampleDraw 1) (sampleDraw 1))
  | 1 => some (.refresh (sampleToken 1) (sampleDraw 2))
  | 2 => some (.refresh (sampleToken 2) (sampleDraw 3))
  | _ => none

set_option maxRecDepth 4000 in
/-- The newest token after two rotations. -/
theorem newest_sound :
    ∃ c : Conf (Table Row) Mark Err Answer, issuedFor c.store.journal (sampleUuid 1) =
      [(sampleToken 3, 180000), (sampleToken 2, 120000), (sampleToken 1, 60000)] ∧
      RefreshSound sampleConfig c.store (sampleToken 3) (sampleDraw 4) := by
  have found : ∃ c ∈ (Conf.start ⟨oneCustomer, []⟩ (authCalls sampleConfig rotations)).play
      (List.replicate 11 0 ++ List.replicate 7 1 ++ List.replicate 7 2), issuedFor c.store.journal (sampleUuid 1) =
        [(sampleToken 3, 180000), (sampleToken 2, 120000), (sampleToken 1, 60000)] := by
    decide +kernel
  obtain ⟨c, run, issued⟩ := Conf.exists_moves Err.database (Conf.obeys_any _ _) found
  refine ⟨c, issued, (refresh_sound_iff (fun _ => rfl) run _ _).mpr fun _ => ?_⟩
  unfold Acceptable
  rw [show (sampleToken 3).sessionId = sampleUuid 1 from rfl, issued]
  exact Or.inl rfl

set_option maxRecDepth 4000 in
/-- Two rotations later the first token is still accepted. -/
theorem not_refresh_sound :
    ¬ ∀ (cfg : AuthConfig) (calls : Nat → Option AuthCall) (d₀ : Db) (c : Conf (Table Row) Mark Err Answer)
      (token : RefreshToken) (draw : Draw), (∀ id, d₀ (.session id) = none) →
      Moves (fun _ _ => True) .database (Conf.start ⟨d₀, []⟩ (authCalls cfg calls)) c →
      RefreshSound cfg c.store token draw := by
  intro claimed
  have found : ∃ c ∈ (Conf.start ⟨oneCustomer, []⟩ (authCalls sampleConfig rotations)).play
      (List.replicate 11 0 ++ List.replicate 7 1 ++ List.replicate 7 2), issuedFor c.store.journal (sampleUuid 1) =
        [(sampleToken 3, 180000), (sampleToken 2, 120000), (sampleToken 1, 60000)] ∧
      ((handleRefreshToken sampleConfig (sampleToken 1) (sampleDraw 4)).run c.store).1 = .tokens (sampleToken 4) := by
    decide +kernel
  obtain ⟨c, run, issued, accepted⟩ := Conf.exists_moves _ (Conf.obeys_any _ _) found
  have acceptable := (claimed sampleConfig rotations oneCustomer c _ _ (fun _ => rfl) run).accepts _ accepted
  unfold Acceptable at acceptable
  rw [show (sampleToken 1).sessionId = sampleUuid 1 from rfl, issued] at acceptable
  rcases acceptable with newest | ⟨previous, _⟩
  · exact absurd newest (by decide +kernel)
  · exact absurd previous (by decide +kernel)

end Marketplace.Accounts
