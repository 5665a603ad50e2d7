import Mathlib.Data.List.Nodup
import Marketplace.Accounts.RefreshReuse
import Marketplace.ReadCommitted.Ledger

/-! Refreshes that present one token at the same time, where tokens are compared whole. -/
namespace Marketplace.Accounts
open ReadCommitted ReadCommitted.Tx Base64Url

/-- A text matches the hash of itself only. -/
def Exact (cfg : AuthConfig) (matches_ : Bytes → Option Bytes → Bool) : Prop :=
  ∀ x salt y, matches_ x (some (cfg.bcrypt.hash salt y)) = true ↔ x = y

/-- `n` requests refresh with one token. -/
def refreshes (matches_ : Bytes → Option Bytes → Bool) (cfg : AuthConfig) (token : RefreshToken) (n : Nat)
    (draws : Nat → Draw) (i : Nat) : Request :=
  if i < n then handleRefreshTokenBy matches_ cfg token (draws i) else .done .done

/-- The token is the current one of a live session, and the requests come within the grace. -/
structure Presented (cfg : AuthConfig) (d : Db) (token : RefreshToken) (n : Nat) (draws : Nat → Draw) : Prop where
  current : ∃ session salt, d (.session token.sessionId) = some session ∧ session.user = token.sub ∧
    session.refreshToken = some (hashToken cfg salt token) ∧
    ∀ i < n, session.expiresAt.any (· < (draws i).now) = false
  together : ∀ i < n, ∀ j < n, (draws i).now ≤ (draws j).now + REFRESH_ROTATION_GRACE_MS

/-- The token a refresh issues. -/
def renewed (cfg : AuthConfig) (token : RefreshToken) (draw : Draw) : RefreshToken :=
  createTokens cfg token.sub token.sessionId draw.now

/-- A session outlives the requests, and there are no two that change the token beside a third. -/
structure Benign (cfg : AuthConfig) (token : RefreshToken) (n : Nat) (draws : Nat → Draw) : Prop where
  outlived : ∀ i < n, ∀ j < n, (draws i).now ≤ (draws j).now + cfg.refreshTokenExpiration
  third : ∀ i < n, ∀ j < n, ∀ k < n, i ≠ j → i ≠ k → j ≠ k →
    renewed cfg token (draws i) = token ∨ renewed cfg token (draws j) = token

section
variable {cfg : AuthConfig} {matches_ : Bytes → Option Bytes → Bool} {token : RefreshToken} {n : Nat}
  {draws : Nat → Draw}

/-- The tokens of the session from the presented one on, newest first. -/
def generations (token : RefreshToken) (journal : List Mark) : List RefreshToken :=
  (issuedFor journal token.sessionId).map Prod.fst ++ [token]

/-- The session holds the newest two of its tokens. -/
structure Held (cfg : AuthConfig) (n : Nat) (draws : Nat → Draw) (tokens : List RefreshToken) (session : Session) : Prop where
  live : ∀ i < n, session.expiresAt.any (· < (draws i).now) = false
  newest : ∀ t ∈ tokens.head?, ∃ salt, session.refreshToken = some (hashToken cfg salt t)
  previous : ∀ t ∈ tokens.tail.head?, (∃ salt, session.previousRefreshToken = some (hashToken cfg salt t)) ∧
    ∀ i < n, session.rotatedAt.any (fun rotated => (draws i).now - rotated ≤ REFRESH_ROTATION_GRACE_MS) = true

def Standing (cfg : AuthConfig) (token : RefreshToken) (n : Nat) (draws : Nat → Draw) (s : Store (Table Row) Mark) : Prop :=
  .reuse token.sessionId ∉ s.journal ∧ ∃ session, s.rows (.session token.sessionId) = some session ∧ session.user = token.sub ∧
    Held cfg n draws (generations token s.journal) session

/-- Tokens issued for the session that are not the presented one. -/
def others (token : RefreshToken) (journal : List Mark) : List (RefreshToken × Time) :=
  (issuedFor journal token.sessionId).filter fun x => x.1 ≠ token

/-- A refresh has been judged reuse after two others have changed the token. -/
def Judged (token : RefreshToken) (journal : List Mark) : Prop :=
  .reuse token.sessionId ∈ journal ∧ 2 ≤ (others token journal).length

theorem issuedFor_append (journal more : List Mark) (id : Uuid) :
    issuedFor (journal ++ more) id = issuedFor more id ++ issuedFor journal id := by
  simp [issuedFor, List.reverse_append, List.filterMap_append]

theorem Judged.more {journal : List Mark} (judged : Judged token journal) (more : List Mark) :
    Judged token (journal ++ more) := by
  refine ⟨List.mem_append_left _ judged.1, ?_⟩
  rw [others, issuedFor_append, List.filter_append, List.length_append]
  exact Nat.le_trans judged.2 (Nat.le_add_left _ _)

/-- A token that is neither of the newest two has been overtaken twice. -/
theorem overtaken {journal : List Mark} (not_newest : token ∉ (generations token journal).head?)
    (not_previous : token ∉ (generations token journal).tail.head?) : 2 ≤ (others token journal).length := by
  unfold generations at not_newest not_previous
  unfold others
  cases issued : issuedFor journal token.sessionId with
  | nil => simp [issued] at not_newest
  | cons a rest =>
    cases rest with
    | nil => simp [issued] at not_previous
    | cons b rest =>
      simp [issued] at not_newest not_previous
      have first : a.1 ≠ token := not_newest
      have second : b.1 ≠ token := not_previous
      simp [first, second]

theorem generations_issued (journal : List Mark) (draw : Draw) :
    generations token (journal ++ [.issued (renewed cfg token draw) draw.now]) =
      renewed cfg token draw :: generations token journal := by
  have own : (renewed cfg token draw).sessionId = token.sessionId := rfl
  simp [generations, issuedFor, own]

/-- A held session is neither over nor unknown, and the newest two of its tokens are accepted. -/
theorem judge_held (exact_ : Exact cfg matches_) {journal : List Mark} {session : Session} {i : Nat} (mine : i < n)
    (held : Held cfg n draws (generations token journal) session) :
    (∃ viaGrace, judgeBy matches_ session (token.text cfg.sign) (draws i).now = .ok session viaGrace) ∨
      judgeBy matches_ session (token.text cfg.sign) (draws i).now = .reuseDetected ∧ 2 ≤ (others token journal).length := by
  unfold judgeBy
  rw [if_neg (by rw [held.live i mine]; exact Bool.false_ne_true)]
  split
  · exact Or.inl ⟨false, rfl⟩
  · rename_i not_current
    split
    · exact Or.inl ⟨true, rfl⟩
    · rename_i not_previous
      refine Or.inr ⟨rfl, overtaken (fun newest => ?_) fun previous => ?_⟩
      · obtain ⟨salt, stored⟩ := held.newest token newest
        rw [stored] at not_current
        exact not_current ((exact_ _ salt _).mpr rfl)
      · obtain ⟨⟨salt, stored⟩, grace⟩ := held.previous token previous
        rw [stored] at not_previous
        exact not_previous ⟨grace i mine, (exact_ _ salt _).mpr rfl⟩

/-- A rotation moves the newest token to the second place. -/
theorem Held.rotate {journal : List Mark} {session : Session} {i : Nat} (mine : i < n) (salt : Bytes)
    (together : ∀ i < n, ∀ j < n, (draws i).now ≤ (draws j).now + REFRESH_ROTATION_GRACE_MS)
    (outlived : ∀ i < n, ∀ j < n, (draws i).now ≤ (draws j).now + cfg.refreshTokenExpiration)
    (held : Held cfg n draws (generations token journal) session) :
    Held cfg n draws (generations token (journal ++ [.issued (renewed cfg token (draws i)) (draws i).now]))
      { session with
        previousRefreshToken := session.refreshToken
        refreshToken := some (hashToken cfg salt (renewed cfg token (draws i)))
        rotatedAt := some (draws i).now
        expiresAt := some ((draws i).now + cfg.refreshTokenExpiration) } := by
  rw [generations_issued]
  refine ⟨fun j other => ?_, fun t newest => ?_, fun t previous => ⟨held.newest t previous, fun j other => ?_⟩⟩
  · have alive := outlived j other i mine
    simp only [Option.any_some, decide_eq_false_iff_not]
    exact Nat.not_lt.mpr alive
  · obtain rfl := Option.some.inj newest
    exact ⟨salt, rfl⟩
  · have near := together j other i mine
    simp only [Option.any_some, decide_eq_true_eq]
    exact Nat.sub_le_iff_le_add'.mpr near

/-- A request of the run before its transaction, or answered. -/
inductive Turn (matches_ : Bytes → Option Bytes → Bool) (cfg : AuthConfig) (token : RefreshToken) (n : Nat)
    (draws : Nat → Draw) : Request → Prop
  | refresh {i : Nat} (mine : i < n) : Turn matches_ cfg token n draws
      (.tx (rotateBy matches_ cfg token (draws i)) (answerRefresh token) fun e => .done (.failed e))
  | done (out : Answer) : Turn matches_ cfg token n draws (.done out)

theorem turn_start (i : Nat) : Turn matches_ cfg token n draws (refreshes matches_ cfg token n draws i) := by
  unfold refreshes handleRefreshTokenBy
  split
  · split
    · exact .done _
    · exact .refresh ‹_›
  · exact .done _

/-- Unless a reuse is judged, the session stands and the threads are at their turns. -/
def rotationInvariant (exact_ : Exact cfg matches_)
    (together : ∀ i < n, ∀ j < n, (draws i).now ≤ (draws j).now + REFRESH_ROTATION_GRACE_MS)
    (outlived : ∀ i < n, ∀ j < n, (draws i).now ≤ (draws j).now + cfg.refreshTokenExpiration) (fault : Err) :
    Invariant (Table Row) Mark Err Answer (fun _ _ => True) fault where
  Inv s := Judged token s.journal ∨ Standing cfg token n draws s
  Le s t := ∃ more, t.journal = s.journal ++ more
  Ready _ s r := Judged token s.journal ∨ Turn matches_ cfg token n draws r
  le_refl s := ⟨[], by simp⟩
  le_trans := by
    rintro s t u ⟨early, grown⟩ ⟨late, again⟩
    exact ⟨early ++ late, by rw [again, grown, List.append_assoc]⟩
  ready_le := by
    rintro i s t r ⟨more, grown⟩ ready
    exact ready.imp_left fun judged => grown ▸ judged.more more
  aborted := by
    rintro i s α body ok err (judged | turn)
    · exact Or.inl judged
    · cases turn
      exact Or.inr (.done _)
  commits := by
    rintro i α body ok err h m valid ordered small (judged | turn)
    · obtain ⟨more, grown⟩ := ordered m h.now small (Nat.le_refl _)
      have now : Judged token h.current.journal := grown ▸ judged.more more
      refine wp_of_within (within_any body) (fun a w _ _ _ => ?_) fun e => Or.inl now
      exact ⟨Or.inl (now.more w.log), ⟨w.log, rfl⟩, Or.inl (now.more w.log)⟩
    · cases turn with
      | @refresh j mine =>
        have grows : ∀ w : View (Table Row) Mark, ∃ more, (h.commit w).journal = h.current.journal ++ more :=
          fun w => ⟨w.log, rfl⟩
        rcases valid h.now (Nat.le_refl _) with now | ⟨unjudged, session, stands, own, held⟩
        · refine wp_of_within (within_any _) (fun a w _ _ _ => ?_) fun e => Or.inl now
          exact ⟨Or.inl (now.more w.log), grows w, Or.inl (now.more w.log)⟩
        · have same : ∀ other, h.current.rows (.session token.sessionId) = some other → other = session :=
            fun other found => Option.some.inj (found.symm.trans stands)
          have kept : ∀ w : View (Table Row) Mark, w.rows = h.current.rows → w.log = [] →
              Standing cfg token n draws (h.commit w) := by
            intro w rows log
            refine ⟨?_, session, ?_, own, ?_⟩
            · show _ ∉ h.current.journal ++ w.log
              rw [log, List.append_nil]
              exact unjudged
            · show w.rows _ = _
              rw [rows]
              exact stands
            · show Held cfg n draws (generations token (h.current.journal ++ w.log)) session
              rw [log, List.append_nil]
              exact held
          refine wp_rotateBy (fun foreign => absurd own (foreign session stands)) (fun other w found _ rows log => ?_)
            fun other viaGrace w new found _ _ issued more log stored _ _ => ?_
          · obtain rfl := same other found
            rcases judge_held exact_ mine held with ⟨viaGrace, verdict⟩ | ⟨verdict, twice⟩
            · rw [verdict]
              exact fun _ _ => ⟨Or.inr (kept w rows log), grows w, Or.inr (.done _)⟩
            · rw [verdict]
              intro _ _
              have judged : Judged token (h.commit (w.mark (.reuse token.sessionId))).journal := by
                refine ⟨?_, ?_⟩
                · show _ ∈ h.current.journal ++ (w.log ++ [_])
                  simp
                · show 2 ≤ (others token (h.current.journal ++ (w.log ++ [.reuse token.sessionId]))).length
                  rw [others, issuedFor_append, List.filter_append, List.length_append]
                  exact Nat.le_trans twice (Nat.le_add_left _ _)
              exact ⟨Or.inl judged, grows _, Or.inl judged⟩
          · obtain rfl := same other found
            refine ⟨Or.inr ⟨?_, _, stored, own, ?_⟩, grows w, Or.inr (.done _)⟩
            · show _ ∉ h.current.journal ++ w.log
              rw [log, issued, List.mem_append, not_or]
              exact ⟨unjudged, fun no => nomatch List.mem_singleton.mp no⟩
            · show Held cfg n draws (generations token (h.current.journal ++ w.log)) _
              rw [log, issued]
              exact held.rotate mine _ together outlived

/-- What a request may record: the token it has issued, or a reuse. -/
def Records (cfg : AuthConfig) (token : RefreshToken) (n : Nat) (draws : Nat → Draw) (i : Nat) (log : List Mark) : Prop :=
  i < n ∧ (log = [.issued (renewed cfg token (draws i)) (draws i).now] ∨ log = [.reuse token.sessionId])

theorem once_revoke (id : Uuid) (e : Err) {M : List Mark → Prop} : (revokeSession id e).Once M := by
  refine ⟨?_, fun _ => trivial⟩
  exact (ends_modify _ _).mpr (Or.inl ⟨rfl, trivial⟩)

theorem once_answer (outcome : Except RefreshVerdict RefreshToken) {M : List Mark → Prop} :
    (answerRefresh token outcome).Once M := by
  cases outcome with
  | ok new => trivial
  | error verdict =>
    cases verdict with
    | reuseDetected => exact once_revoke _ _
    | expired => exact once_revoke _ _
    | notFound => trivial
    | userGone => trivial

theorem once_refreshes (i : Nat) : (refreshes matches_ cfg token n draws i).Once (Records cfg token n draws i) := by
  unfold refreshes handleRefreshTokenBy
  split
  · rename_i mine
    split
    · trivial
    · refine ⟨?_, fun _ => trivial⟩
      unfold rotateBy verifyAndLock
      simp only [ends_bind, ends_selectForUpdate]
      intro d
      split
      · exact Or.inl ⟨rfl, once_answer _⟩
      · simp only [ends_pure]
        split
        · exact Or.inl ⟨rfl, once_answer _⟩
        · exact Or.inl ⟨rfl, once_answer _⟩
        · exact Or.inr ⟨⟨mine, Or.inr rfl⟩, once_answer _⟩
        · simp only [ends_bind, ends_select]
          intro d
          split
          · exact Or.inl ⟨rfl, once_answer _⟩
          · exact Or.inr ⟨⟨mine, Or.inl rfl⟩, once_answer _⟩
  · trivial

/-- The request has changed the token. -/
def Changes (cfg : AuthConfig) (token : RefreshToken) (draws : Nat → Draw) (x : Nat × List Mark) : Prop :=
  x.2 = [.issued (renewed cfg token (draws x.1)) (draws x.1).now] ∧ renewed cfg token (draws x.1) ≠ token

instance (x : Nat × List Mark) : Decidable (Changes cfg token draws x) :=
  inferInstanceAs (Decidable (_ = _ ∧ _ ≠ _))

theorem others_entry {i : Nat} {log : List Mark} (made : Records cfg token n draws i log) :
    (others token log).length = if Changes cfg token draws (i, log) then 1 else 0 := by
  have own : (renewed cfg token (draws i)).sessionId = token.sessionId := rfl
  rcases made.2 with rfl | rfl
  · by_cases same : renewed cfg token (draws i) = token
    · simp [others, issuedFor, Changes, same]
    · simp [others, issuedFor, Changes, same, own]
  · simp [others, issuedFor, Changes]

theorem others_entries {entries : List (Nat × List Mark)} (made : ∀ x ∈ entries, Records cfg token n draws x.1 x.2) :
    (others token (entries.flatMap Prod.snd)).length = (entries.filter fun x => Changes cfg token draws x).length := by
  induction entries with
  | nil => rfl
  | cons x rest ih =>
    rw [List.flatMap_cons, others, issuedFor_append, List.filter_append, List.length_append]
    change (others token (rest.flatMap Prod.snd)).length + (others token x.2).length = _
    rw [ih fun y more => made y (List.mem_cons_of_mem _ more), others_entry (made x List.mem_cons_self), List.filter_cons]
    by_cases changes : Changes cfg token draws x
    · simp [changes]
    · simp [changes]

/-- A reuse takes a third request beside two that change the token. -/
theorem judged_entries {entries : List (Nat × List Mark)} (made : ∀ x ∈ entries, Records cfg token n draws x.1 x.2)
    (nodup : (entries.map Prod.fst).Nodup) (judged : Judged token (entries.flatMap Prod.snd)) :
    ∃ i < n, ∃ j < n, ∃ k < n, i ≠ j ∧ i ≠ k ∧ j ≠ k ∧ renewed cfg token (draws i) ≠ token ∧
      renewed cfg token (draws j) ≠ token := by
  obtain ⟨reuse, twice⟩ := judged
  rw [others_entries made] at twice
  obtain ⟨z, z_in, marked⟩ := List.mem_flatMap.mp reuse
  have distinct : (entries.filter fun x => Changes cfg token draws x).Pairwise fun x y => x.1 ≠ y.1 :=
    (List.pairwise_map.mp nodup).filter _
  have apart : ∀ x ∈ entries, Changes cfg token draws x → x.1 ≠ z.1 := by
    rintro x x_in ⟨issued, _⟩ same
    have equal : x = z := List.inj_on_of_nodup_map nodup x_in z_in same
    rw [← equal, issued] at marked
    simp at marked
  match found : entries.filter fun x => Changes cfg token draws x with
  | [] => simp [found] at twice
  | [x] => simp [found] at twice
  | x :: y :: rest =>
    rw [found] at distinct
    have x_kept : x ∈ entries.filter fun x => Changes cfg token draws x := by simp [found]
    have y_kept : y ∈ entries.filter fun x => Changes cfg token draws x := by simp [found]
    obtain ⟨x_in, x_changes⟩ := List.mem_filter.mp x_kept
    obtain ⟨y_in, y_changes⟩ := List.mem_filter.mp y_kept
    have x_changes := of_decide_eq_true x_changes
    have y_changes := of_decide_eq_true y_changes
    refine ⟨x.1, (made x x_in).1, y.1, (made y y_in).1, z.1, (made z z_in).1, ?_, apart x x_in x_changes,
      apart y y_in y_changes, x_changes.2, y_changes.2⟩
    exact List.rel_of_pairwise_cons distinct List.mem_cons_self

end

/-- None of the refreshes is judged reuse, and the session stands. -/
theorem concurrent_refreshes_accepted {cfg : AuthConfig} {matches_ : Bytes → Option Bytes → Bool}
    (exact_ : Exact cfg matches_) {d₀ : Db} {token : RefreshToken} {n : Nat} {draws : Nat → Draw} {fault : Err}
    (presented : Presented cfg d₀ token n draws) (benign : Benign cfg token n draws)
    {c : Conf (Table Row) Mark Err Answer}
    (run : Moves (fun _ _ => True) fault (Conf.start ⟨d₀, []⟩ (refreshes matches_ cfg token n draws)) c) :
    .reuse token.sessionId ∉ c.store.journal ∧ c.store.rows (.session token.sessionId) ≠ none := by
  obtain ⟨entries, ledger⟩ := exists_ledger once_refreshes run
  have journal : c.store.journal = entries.flatMap Prod.snd := ledger.journal
  have unjudged : ¬ Judged token c.store.journal := by
    intro judged
    rw [journal] at judged
    obtain ⟨i, i_lt, j, j_lt, k, k_lt, ij, ik, jk, first, second⟩ := judged_entries ledger.made ledger.nodup judged
    rcases benign.third i i_lt j j_lt k k_lt ij ik jk with same | same
    · exact first same
    · exact second same
  have start : Standing cfg token n draws (⟨d₀, []⟩ : Store (Table Row) Mark) := by
    obtain ⟨session, salt, stands, own, stored, live⟩ := presented.current
    refine ⟨List.not_mem_nil, session, stands, own, live, fun t newest => ?_, fun t no => absurd no (Option.not_mem_none t)⟩
    obtain rfl := Option.some.inj newest
    exact ⟨salt, stored⟩
  have safe := ((rotationInvariant exact_ presented.together benign.outlived fault).run_safe (Or.inr start)
    (fun i => Or.inr (turn_start i)) run).1
  obtain ⟨none_, session, stands, _⟩ := safe.resolve_left unjudged
  exact ⟨none_, stands ▸ Option.some_ne_none session⟩

theorem whole_hash (_ x y : Bytes) : decide (x.take 72 = y.take 72) = true ↔ x.take 72 = y.take 72 :=
  decide_eq_true_iff

/-- Hashes that keep the whole token. -/
def wholeConfig : AuthConfig where
  bcrypt :=
    { hash := fun _ plainData => plainData
      compare := fun plainData hashedData => plainData.take 72 = hashedData.take 72
      compare_hash := whole_hash }
  sign signingInput := signingInput.reverse.take 32
  refreshTokenExpiration := 2592000000

def whole (plainData : Bytes) (hashedData : Option Bytes) : Bool := hashedData = some plainData

theorem whole_exact : Exact wholeConfig whole := by
  intro x salt y
  simp only [whole, wholeConfig, Option.some.injEq, decide_eq_true_eq]
  exact eq_comm

/-- The token of session 1, as its login has issued it. -/
def firstToken : RefreshToken := createTokens wholeConfig customer (sampleUuid 1) 0

def oneSession : Db
  | .session id => if id = sampleUuid 1 then
      some ⟨customer, some (hashToken wholeConfig [] firstToken), none, none, some 2592000000⟩ else none
  | k => oneCustomer k

/-- The requests of three tabs, a second apart. -/
def tabs (i : Nat) : Draw := ⟨sampleUuid 1, [], 60000 + 1000 * i⟩

theorem tabs_presented {n : Nat} (few : n ≤ 3) : Presented wholeConfig oneSession firstToken n tabs where
  current := by
    refine ⟨_, [], rfl, rfl, rfl, fun i small => ?_⟩
    have soon : ¬ 2592000000 < 60000 + 1000 * i := by omega
    exact decide_eq_false soon
  together i _ j _ := by
    show (60000 + 1000 * i : Nat) ≤ 60000 + 1000 * j + 10000
    omega

set_option maxRecDepth 4000 in
/-- Two of the tabs. -/
theorem two_tabs_accepted : ∃ c : Conf (Table Row) Mark Err Answer,
    issuedFor c.store.journal (sampleUuid 1) =
      [(renewed wholeConfig firstToken (tabs 1), 61000), (renewed wholeConfig firstToken (tabs 0), 60000)] ∧
    .reuse (sampleUuid 1) ∉ c.store.journal ∧ c.store.rows (.session (sampleUuid 1)) ≠ none := by
  have found : ∃ c ∈ (Conf.start ⟨oneSession, []⟩ (refreshes whole wholeConfig firstToken 2 tabs)).play
      (1 :: List.replicate 7 0 ++ List.replicate 6 1), issuedFor c.store.journal (sampleUuid 1) =
        [(renewed wholeConfig firstToken (tabs 1), 61000), (renewed wholeConfig firstToken (tabs 0), 60000)] := by
    decide +kernel
  obtain ⟨c, run, issued⟩ := Conf.exists_moves Err.database (Conf.obeys_any _ _) found
  refine ⟨c, issued, concurrent_refreshes_accepted whole_exact (tabs_presented (by decide)) ⟨?_, ?_⟩ run⟩
  · intro i small j _
    show (60000 + 1000 * i : Nat) ≤ 60000 + 1000 * j + 2592000000
    omega
  · intro i hi j hj k hk
    omega

set_option maxRecDepth 4000 in
/-- The third tab presents a token that two others have changed. -/
theorem not_concurrent_refreshes_accepted :
    ¬ ∀ (cfg : AuthConfig) (matches_ : Bytes → Option Bytes → Bool) (d₀ : Db) (token : RefreshToken) (n : Nat)
      (draws : Nat → Draw) (c : Conf (Table Row) Mark Err Answer), Exact cfg matches_ → Presented cfg d₀ token n draws →
      Moves (fun _ _ => True) .database (Conf.start ⟨d₀, []⟩ (refreshes matches_ cfg token n draws)) c →
      .reuse token.sessionId ∉ c.store.journal ∧ c.store.rows (.session token.sessionId) ≠ none := by
  intro claimed
  have found : ∃ c ∈ (Conf.start ⟨oneSession, []⟩ (refreshes whole wholeConfig firstToken 3 tabs)).play
      (List.replicate 7 0 ++ List.replicate 7 1 ++ List.replicate 8 2), .reuse (sampleUuid 1) ∈ c.store.journal ∧
        c.store.rows (.session (sampleUuid 1)) = none := by
    decide +kernel
  obtain ⟨c, run, _, revoked⟩ := Conf.exists_moves Err.database (Conf.obeys_any _ _) found
  exact (claimed wholeConfig whole oneSession firstToken 3 tabs c whole_exact (tabs_presented (Nat.le_refl 3)) run).2 revoked

end Marketplace.Accounts
