import Marketplace.Accounts.RefreshReuse

/-! A banned or suspended status between two acts of an admin. -/
namespace Marketplace.Accounts
open ReadCommitted ReadCommitted.Tx

def statusOf (d : Db) (user : Uuid) : Option AccountStatus := (d (.user user)).map (·.status)

/-- The user stands banned or suspended. -/
def locked (d : Db) (user : Uuid) : Bool := (statusOf d user).any (· ∈ REVOKED_STATUSES)

/-- On a locked user: a save that sets another status itself or that has loaded another status than it
re-read, or a status set outright. -/
def Mark.overrides (s : Store (Table Row) Mark) : Mark → Bool
  | .userSaved id loaded mem reread => locked s.rows id ∧ ¬ (mem = loaded ∧ loaded = reread)
  | .statusSet id => locked s.rows id
  | _ => false

def Deferring (s : Store (Table Row) Mark) (log : List Mark) : Prop := ∀ e ∈ log, e.overrides s = false

instance (s : Store (Table Row) Mark) (log : List Mark) : Decidable (Deferring s log) :=
  inferInstanceAs (Decidable (∀ e ∈ log, e.overrides s = false))

/-- A locked status stays until an admin sets the user's status. -/
def LockStays (s t : Store (Table Row) Mark) : Prop :=
  ∃ more, t.journal = s.journal ++ more ∧
    ∀ user status, status ∈ REVOKED_STATUSES → .adminSet user ∉ more → statusOf s.rows user = some status →
      statusOf t.rows user = some status

theorem LockStays.refl (s : Store (Table Row) Mark) : LockStays s s := ⟨[], by simp, fun _ _ _ _ found => found⟩

theorem LockStays.trans {s t u : Store (Table Row) Mark} (first : LockStays s t) (second : LockStays t u) :
    LockStays s u := by
  obtain ⟨early, grown, stays⟩ := first
  obtain ⟨late, again, remains⟩ := second
  refine ⟨early ++ late, by rw [again, grown, List.append_assoc], fun user status revoked none found => ?_⟩
  rw [List.mem_append, not_or] at none
  exact remains user status revoked none.2 (stays user status revoked none.1 found)

/-- The statuses of an open transaction against the store it will commit to. -/
def Locked (s : Store (Table Row) Mark) (v : View (Table Row) Mark) : Prop :=
  Deferring s v.log → ∀ user status, status ∈ REVOKED_STATUSES → .adminSet user ∉ v.log →
    statusOf s.rows user = some status → statusOf v.rows user = some status

theorem Maintains.keeps {α : Type} {t : Action α} (maintains : ∀ s, t.Maintains (Locked s)) :
    t.Keeps Deferring (fun _ => True) LockStays := by
  intro h m _ _ _
  refine wp_mono _ (maintains h.current _ _ fun _ _ _ _ _ found => found) (fun a w kept _ admitted => ?_) fun _ e => e
  exact ⟨trivial, w.log, rfl, kept admitted⟩

section
variable {s : Store (Table Row) Mark}

theorem Deferring.before {log marks : List Mark} (deferring : Deferring s (log ++ marks)) : Deferring s log :=
  fun e member => deferring e (List.mem_append_left _ member)

/-- A transaction may do anything to the rows that `touched` allows. -/
theorem Locked.next {v w : View (Table Row) Mark} (marks : List Mark) (kept : Locked s v) (log : w.log = v.log ++ marks)
    (touched : Deferring s w.log → ∀ user status, status ∈ REVOKED_STATUSES → .adminSet user ∉ marks →
      statusOf s.rows user = some status → statusOf v.rows user = some status → statusOf w.rows user = some status) :
    Locked s w := by
  intro deferring user status revoked none found
  have split := none
  rw [log, List.mem_append, not_or] at split
  have before : Deferring s v.log := (log ▸ deferring).before
  exact touched deferring user status revoked split.2 found (kept before user status revoked split.1 found)

/-- Rows that are not users. -/
def NotUser (k : Key) : Prop := ∀ id, k ≠ .user id

theorem maintains_notUser {α : Type} {t : Action α} {L : Mark → Prop} (h : t.Within NotUser L) (s : Store (Table Row) Mark) :
    t.Maintains (Locked s) := by
  refine maintains_of_within h fun v w more kept => ?_
  obtain ⟨marks, log, _⟩ := more.log
  refine kept.next _ log fun _ user status _ _ _ stands => ?_
  rw [statusOf, more.rows (.user user) fun out => out user rfl]
  exact stands

/-- A user who is inserted had no status. -/
theorem maintains_insertUser (id : Uuid) (row : User) (s : Store (Table Row) Mark) :
    (insert (.user id) row .database : Action Unit).Maintains (Locked s) := by
  intro I v kept
  refine wp_insert (fun _ => trivial) fun w more _ free _ => ?_
  refine kept.next [] (by simpa using more.log_same) fun _ user status _ _ _ stands => ?_
  by_cases same : user = id
  · subst same
    rw [statusOf, free] at stands
    cases stands
  · rw [statusOf, more.rows (.user user) (by simpa using same)]
    exact stands

/-- What a save does to statuses by its marks. -/
theorem maintains_saveUser {id : Uuid} {selected : Bool} {mem : User} {marks : User → List Mark}
    (s : Store (Table Row) Mark)
    (settles : ∀ reread status, status ∈ REVOKED_STATUSES → Deferring s (marks reread) → .adminSet id ∉ marks reread →
      statusOf s.rows id = some status → column mem.status reread.status status = status) :
    (saveUser id selected mem marks).Maintains (Locked s) := by
  intro I v kept
  unfold saveUser
  rw [wp_bind, wp_select]
  intro d m sees
  have looked : Locked s (v.looking m) := kept.next [] (by simp) fun _ _ _ _ _ _ stands => stands
  cases d (.user id) with
  | none => exact maintains_insertUser id mem s I _ looked
  | some reread =>
    dsimp only
    rw [wp_bind]
    refine wp_forM_note _ ?_
    have noted : Locked s { v.looking m with log := v.log ++ marks reread } :=
      kept.next _ rfl fun _ _ _ _ _ _ stands => stands
    rw [wp_ite]
    refine ⟨fun _ => noted, fun _ => ?_⟩
    rw [wp_modify]
    refine kept.next (marks reread) rfl fun deferring user status revoked none found stands => ?_
    by_cases same : user = id
    · subst same
      have mine : Deferring s (marks reread) := fun e member => deferring e (List.mem_append_right _ member)
      rw [statusOf, View.put_rows_self]
      obtain ⟨row, standing, rfl⟩ := Option.map_eq_some_iff.mp stands
      change Option.map (·.status) (Option.map (writeUser selected mem reread) (v.rows (.user user))) = _
      rw [standing, Option.map_some, Option.map_some]
      exact congrArg some (settles reread _ revoked mine none found)
    · rw [statusOf, View.put_rows_other _ _ (by simpa using same)]
      exact stands

theorem maintains_ownSave {id : Uuid} {selected : Bool} {loaded mem : User} (s : Store (Table Row) Mark) :
    (saveUser id selected mem (ownSave id loaded mem)).Maintains (Locked s) := by
  refine maintains_saveUser s fun reread status revoked deferring _ found => ?_
  have kept := deferring _ (List.mem_singleton.mpr rfl)
  have standing : locked s.rows id = true := by simp [locked, found, revoked]
  simp only [Mark.overrides, standing, true_and, decide_eq_false_iff_not, not_not] at kept
  rw [kept.1, kept.2, column_same]

theorem maintains_adminSave {id : Uuid} {selected : Bool} {mem : User} (s : Store (Table Row) Mark) :
    (saveUser id selected mem (adminSave id)).Maintains (Locked s) :=
  maintains_saveUser s fun _ _ _ _ absent => absurd (List.mem_singleton.mpr rfl) absent

theorem maintains_setUserStatus {mark : Mark} {id : Uuid} {new : AccountStatus} (s : Store (Table Row) Mark)
    (settles : ∀ status, status ∈ REVOKED_STATUSES → Deferring s [mark] → mark ≠ .adminSet id →
      statusOf s.rows id = some status → new = status) : (setUserStatus mark id new).Maintains (Locked s) := by
  intro I v kept
  unfold setUserStatus
  rw [wp_bind, wp_note, wp_modify]
  refine kept.next [mark] rfl fun deferring user status revoked none found stands => ?_
  by_cases same : user = id
  · subst same
    have mine : Deferring s [mark] := fun e member => deferring e (List.mem_append_right _ member)
    have other : mark ≠ .adminSet user := fun eq => none (eq ▸ List.mem_singleton.mpr rfl)
    obtain ⟨row, standing, _⟩ := Option.map_eq_some_iff.mp stands
    rw [statusOf, View.put_rows_self, View.mark_rows, standing, Option.map_some, Option.map_some]
    exact congrArg some (settles status revoked mine other found)
  · rw [statusOf, View.put_rows_other _ _ (by simpa using same)]
    exact stands

theorem maintains_settleShop {id : Id} {shop : Shop} {status : AccountStatus} {reason : Option String}
    (s : Store (Table Row) Mark) : (settleShop id shop status reason).Maintains (Locked s) := by
  refine maintains_bind (maintains_notUser (L := fun _ => True) (within_save (k := Key.shop id) _ _ fun _ => nofun) s) fun _ => ?_
  exact maintains_setUserStatus s fun _ _ _ other => absurd rfl other

theorem maintains_submitAgain {user : Uuid} {shop : Id × Shop} (s : Store (Table Row) Mark) :
    (submitAgain user shop).Maintains (Locked s) := by
  refine maintains_bind (maintains_notUser (L := fun _ => True) ((within_modify (.shop shop.1) _).mpr fun _ => nofun) s) fun _ => ?_
  refine maintains_bind (maintains_setUserStatus s fun status revoked deferring _ found => ?_) fun _ => ?_
  · have open_ := deferring _ (List.mem_singleton.mpr rfl)
    simp [Mark.overrides, locked, found, revoked] at open_
  · exact maintains_notUser (L := fun _ => True) (within_bind (within_select _) fun _ => (within_note _).mpr trivial) s

theorem notUser_deleteSessions {user : Uuid} : (deleteSessionsOf user).Within NotUser fun _ => True :=
  within_bind (within_select _) fun _ => within_bind ((within_note _).mpr trivial) fun _ => within_forM _ fun _ _ => (within_modify _ _).mpr fun _ => nofun

theorem notUser_dropToken {token : Uuid} :
    (modify (.verificationToken token) fun _ => none : Action Unit).Within NotUser fun _ => True :=
  (within_modify _ _).mpr fun _ => nofun

theorem notUser_saveSession {cfg : AuthConfig} {user : Uuid} {verified : Option Base64Url.Bytes} {draw : Draw} :
    (generateAndSaveSession cfg user verified draw).Within NotUser fun _ => True := by
  refine within_bind ((within_note _).mpr trivial) fun _ => within_bind ((within_note _).mpr trivial) fun _ => ?_
  refine within_bind (within_insert _ _ _ fun _ => nofun) fun _ => ?_
  exact within_bind ((within_modify _ _).mpr fun _ => nofun) fun _ => within_pure _

theorem notUser_rotate {cfg : AuthConfig} {token : RefreshToken} {draw : Draw} :
    (rotate cfg token draw).Within NotUser fun _ => True := by
  refine within_bind ?_ fun verdict => ?_
  · refine within_bind (within_selectForUpdate _) fun found => ?_
    split
    · exact within_pure _
    · exact within_pure _
  · cases verdict with
    | notFound => exact within_pure _
    | expired => exact within_pure _
    | reuseDetected => exact within_bind ((within_note _).mpr trivial) fun _ => within_pure _
    | ok session viaGrace =>
      refine within_bind (within_select _) fun found => ?_
      cases found with
      | none => exact within_pure _
      | some user =>
        refine within_bind ((within_note _).mpr trivial) fun _ => ?_
        exact within_bind ((within_modify _ _).mpr fun _ => nofun) fun _ => within_pure _

end

section
variable {cfg : AuthConfig} {s : Store (Table Row) Mark}

theorem maintains_reads {α : Type} {t : Action α} (reads : t.Within (fun _ => False) fun _ => True)
    (s : Store (Table Row) Mark) : t.Maintains (Locked s) :=
  maintains_notUser (within_mono (fun _ no => no.elim) (fun _ any => any) reads) s

/-- Every transaction of the API leaves a locked status, unless it overrides it. -/
theorem transaction_maintains {α : Type} {body : Action α} (kind : Transaction cfg α body)
    (s : Store (Table Row) Mark) : body.Maintains (Locked s) := by
  cases kind with
  | validate => exact maintains_reads within_validate s
  | validateUser =>
    refine maintains_reads (within_bind (within_select _) fun _ => within_bind (within_orFail _ _) fun _ => ?_) s
    exact within_bind (within_require _ _) fun _ => within_bind (within_require _ _) fun _ => within_pure _
  | saveSession => exact maintains_notUser notUser_saveSession s
  | @deleteSession id => exact maintains_notUser (L := fun _ => True) ((within_modify (.session id) _).mpr fun _ => nofun) s
  | deleteSessions => exact maintains_notUser notUser_deleteSessions s
  | saveToken =>
    exact maintains_notUser (L := fun _ => True) (within_saveToken (fun _ => nofun) (fun _ => nofun) trivial) s
  | deleteTokens =>
    exact maintains_notUser (L := fun _ => True) (within_deleteTokensOf (fun _ _ => nofun) fun _ => trivial) s
  | matchGoogleUser =>
    refine maintains_reads (within_bind (within_require _ _) fun _ => within_bind (within_select _) fun found => ?_) s
    cases found with
    | some user => exact within_pure _
    | none =>
      refine within_bind (within_select _) fun found => ?_
      cases found with
      | some user => exact within_pure _
      | none => exact within_pure _
  | linkGoogleAccount =>
    refine maintains_bind (maintains_ownSave s) fun _ => maintains_notUser (L := fun _ => True) ?_ s
    refine within_bind (within_forgetGoogleId fun _ _ => nofun) fun _ => ?_
    exact within_bind (within_insert _ _ _ fun _ => nofun) fun _ => within_pure _
  | createGoogleUser =>
    refine maintains_bind (maintains_insertUser _ _ s) fun _ => maintains_notUser (L := fun _ => True) ?_ s
    refine within_bind (within_insert _ _ _ fun _ => nofun) fun _ => within_bind (within_insert _ _ _ fun _ => nofun) fun _ => ?_
    exact within_bind (within_insert _ _ _ fun _ => nofun) fun _ => within_pure _
  | saveAvatar => exact maintains_bind (maintains_ownSave s) fun _ => maintains_reads (within_pure _) s
  | rotate => exact maintains_notUser notUser_rotate s
  | changeUserPassword =>
    refine maintains_bind (maintains_reads within_findUserOrFail s) fun user => ?_
    refine maintains_bind (maintains_reads (within_require _ _) s) fun _ => ?_
    refine maintains_bind (maintains_reads (within_require _ _) s) fun _ => ?_
    refine maintains_bind (maintains_reads (within_require _ _) s) fun _ => ?_
    exact maintains_bind (maintains_reads ((within_note _).mpr trivial) s) fun _ => maintains_ownSave s
  | setUserPassword =>
    refine maintains_bind (maintains_reads within_findUserOrFail s) fun user => ?_
    exact maintains_bind (maintains_reads (within_require _ _) s) fun _ => maintains_ownSave s
  | findByEmail => exact maintains_reads (within_select _) s
  | findInactive =>
    refine maintains_reads (within_bind (within_select _) fun _ => within_bind (within_orFail _ _) fun _ => ?_) s
    exact within_bind (within_require _ _) fun _ => within_pure _
  | resetPassword =>
    refine maintains_bind (maintains_reads (within_select _) s) fun _ => ?_
    refine maintains_bind (maintains_reads (within_orFail _ _) s) fun found => ?_
    refine maintains_bind (maintains_reads (within_require _ _) s) fun _ => ?_
    refine maintains_bind (maintains_reads ((within_note _).mpr trivial) s) fun _ => ?_
    refine maintains_bind (maintains_reads ((within_note _).mpr trivial) s) fun _ => ?_
    refine maintains_bind (maintains_ownSave s) fun _ => maintains_notUser (L := fun _ => True) ?_ s
    exact within_bind notUser_dropToken fun _ => notUser_deleteSessions
  | verifyEmail =>
    refine maintains_bind (maintains_reads (within_select _) s) fun _ => ?_
    refine maintains_bind (maintains_reads (within_orFail _ _) s) fun found => ?_
    refine maintains_bind (maintains_reads (within_require _ _) s) fun _ => ?_
    refine maintains_bind (maintains_reads (within_require _ _) s) fun _ => ?_
    refine maintains_bind (maintains_reads ((within_note _).mpr trivial) s) fun _ => ?_
    refine maintains_bind (maintains_ownSave s) fun _ => maintains_notUser (L := fun _ => True) ?_ s
    exact within_bind notUser_dropToken fun _ => within_bind notUser_deleteSessions fun _ => notUser_saveSession
  | updateProfile =>
    refine maintains_bind (maintains_reads within_findUserOrFail s) fun user => ?_
    exact maintains_bind (maintains_ownSave s) fun _ => maintains_reads within_findUserOrFail s
  | rejectedShop =>
    refine maintains_reads (within_bind (within_bind (within_select _) fun _ => within_orFail _ _) fun _ => ?_) s
    exact within_bind (within_require _ _) fun _ => within_pure _
  | submitAgain => exact maintains_submitAgain s
  | updateUserStatus =>
    refine maintains_bind (maintains_reads (within_require _ _) s) fun _ => ?_
    refine maintains_bind (maintains_reads (within_require _ _) s) fun _ => ?_
    refine maintains_bind (maintains_reads within_findUserOrFail s) fun user => ?_
    refine maintains_bind (maintains_reads (within_require _ _) s) fun _ => ?_
    exact maintains_bind (maintains_adminSave s) fun _ => maintains_reads within_findUserOrFail s
  | approveShop => exact maintains_bind (maintains_reads within_findOneByShopId s) fun _ => maintains_settleShop s
  | rejectShop =>
    refine maintains_bind (maintains_reads (within_require _ _) s) fun _ => ?_
    exact maintains_bind (maintains_reads within_findOneByShopId s) fun _ => maintains_settleShop s

end

/-- In every run whose commits defer to a locked status, it is left only where an admin sets it. -/
theorem locked_status_stays {cfg : AuthConfig} {calls : Nat → Option AuthCall} {fault : Err} {d₀ : Db}
    {c d : Conf (Table Row) Mark Err Answer}
    (run : Moves Deferring fault (Conf.start ⟨d₀, []⟩ (authCalls cfg calls)) c) (later : Moves Deferring fault c d) :
    LockStays c.store d.store := by
  have keeps : ∀ i, (authCalls cfg calls i).All fun _ body => body.Keeps Deferring (fun _ => True) LockStays :=
    fun i => (authCalls_transactions calls i).mono fun _ _ kind => Maintains.keeps (transaction_maintains kind)
  exact keeps_le LockStays.refl LockStays.trans trivial keeps run later

/-- An admin bans the customer. -/
def ban : AuthCall := .updateUserStatus ⟨sampleUuid 9, 0⟩ customer .banned

/-- The customer and an admin. -/
def withAdmin : Db
  | .user id => if id = sampleUuid 9 then
      some ⟨"admin", "admin@example.com", none, none, .admin, .active, none, none, none, none⟩ else oneCustomer (.user id)
  | k => oneCustomer k

/-- The ban, and the email address confirmed with a mail asked for afterwards. -/
def confirmedAfterBan : Nat → Option AuthCall
  | 0 => some ban
  | 1 => some (.resendVerification "lan@example.com" ⟨sampleUuid 2, [], 60000⟩)
  | 2 => some (.verifyEmail (sampleUuid 2) ⟨sampleUuid 3, [], 120000⟩)
  | _ => none

/-- The ban, and a password reset with a mail asked for afterwards. -/
def resetAfterBan : Nat → Option AuthCall
  | 0 => some ban
  | 1 => some (.forgotPassword "lan@example.com" ⟨sampleUuid 2, [], 60000⟩)
  | 2 => some (.resetPassword (sampleUuid 2) customerPassword ⟨sampleUuid 3, [], 120000⟩)
  | _ => none

set_option maxRecDepth 4000 in
/-- The reset goes through and the customer stays banned. -/
theorem banned_through_reset :
    ∃ c d : Conf (Table Row) Mark Err Answer, statusOf c.store.rows customer = some .banned ∧
      (d.store.rows (.user customer)).any (·.passwordChangedAt = some 120000) ∧ LockStays c.store d.store := by
  have obeys : (Conf.start ⟨withAdmin, []⟩ (authCalls sampleConfig resetAfterBan)).Obeys Deferring
      (List.replicate 10 0) := by decide +kernel
  have found : ∃ c ∈ (Conf.start ⟨withAdmin, []⟩ (authCalls sampleConfig resetAfterBan)).play (List.replicate 10 0),
      statusOf c.store.rows customer = some .banned ∧ c.Obeys Deferring (List.replicate 14 1 ++ List.replicate 11 2) ∧
      ∃ d ∈ c.play (List.replicate 14 1 ++ List.replicate 11 2),
        (d.store.rows (.user customer)).any (·.passwordChangedAt = some 120000) := by
    decide +kernel
  obtain ⟨c, run, banned, more, next⟩ := Conf.exists_moves Err.database obeys found
  obtain ⟨d, later, changed⟩ := Conf.exists_moves Err.database more next
  exact ⟨c, d, banned, changed, locked_status_stays run later⟩

set_option maxRecDepth 4000 in
/-- A banned customer asks for a verification mail, confirms the address and is active. -/
theorem locked_status_left :
    ¬ ∀ (cfg : AuthConfig) (calls : Nat → Option AuthCall) (d₀ : Db) (c d : Conf (Table Row) Mark Err Answer),
      Moves (fun _ _ => True) .database (Conf.start ⟨d₀, []⟩ (authCalls cfg calls)) c →
      Moves (fun _ _ => True) .database c d → LockStays c.store d.store := by
  intro claimed
  have found : ∃ c ∈ (Conf.start ⟨withAdmin, []⟩ (authCalls sampleConfig confirmedAfterBan)).play (List.replicate 10 0),
      (statusOf c.store.rows customer = some .banned ∧ c.store.journal.length = 1) ∧
      ∃ d ∈ c.play (List.replicate 14 1 ++ List.replicate 16 2),
        Mark.adminSet customer ∉ d.store.journal.drop 1 ∧ statusOf d.store.rows customer = some .active := by
    decide +kernel
  obtain ⟨c, run, ⟨banned, first⟩, next⟩ := Conf.exists_moves _ (Conf.obeys_any _ _) found
  obtain ⟨d, later, own, active⟩ := Conf.exists_moves _ (Conf.obeys_any _ _) next
  obtain ⟨more, grown, stays⟩ := claimed sampleConfig confirmedAfterBan withAdmin c d run later
  rw [grown, ← first, List.drop_left] at own
  have stayed := stays customer .banned (by decide) own banned
  rw [active] at stayed
  cases stayed

end Marketplace.Accounts
