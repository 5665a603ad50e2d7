import Marketplace.FormEncoding
import Marketplace.Machine
import Mathlib.Logic.Function.Basic

/-!
`request` of the browser's http client: the refresh that requests share, the retry behind it and who is logged out. The steps
of the requests, of the refreshes and of the rest of the page come in any order.
-/
namespace Marketplace.HttpClient

structure Account where
  role : String
  status : String
deriving DecidableEq

/-- `useAuthStore`, the cookies that mirror it, and what `logout` empties with it. -/
structure AuthState where
  user : Option Account
  accessToken : Option String
  isAuthenticated : Bool
  cookies : Option (String × String)
  queryCache : List String
  cart : List String
deriving DecidableEq

def AuthState.setAuth (a : AuthState) (user : Account) (token : String) : AuthState :=
  { a with
    user := some user
    accessToken := some token
    isAuthenticated := true
    cookies := some (user.role, user.status) }

def AuthState.logout (_ : AuthState) : AuthState := ⟨none, none, false, none, [], []⟩

/-- Where the browser is, where it is sent, and the flag of the warning to show there. -/
structure Page where
  pathname : String
  search : String
  href : Option String
  authSecurityWarning : Bool
deriving DecidableEq

def Page.toLogin (p : Page) (errorMessage : String) : Page :=
  if p.pathname ∈ ["/login", "/register"] then p
  else { p with
    authSecurityWarning := p.authSecurityWarning || errorMessage = "INVALID_TOKEN"
    href := some ("/login?redirect=" ++
      String.ofList (FormEncoding.encodeURIComponent (p.pathname ++ p.search).toList)) }

inductive Payload where
  | json (body : String)
  | message (text : String)
deriving DecidableEq

inductive Thrown where
  | httpError (status : Nat) (payload : Payload)
  | entityError (status : Nat) (payload : Payload)
  | failure (message : String)
deriving DecidableEq

inductive Result where
  | returned (payload : Payload)
  | thrown (error : Thrown)
deriving DecidableEq

/-- How a fetch ends. A response has a body where it is JSON. -/
inductive FetchOutcome where
  | response (status : Nat) (body : Option String)
  | abort
  | failure (message : String)
deriving DecidableEq

/-- How the fetch of `/auth/refresh` ends. The body is JSON with or without a token and a user, or fails to parse. -/
inductive RefreshOutcome where
  | response (status : Nat) (body : Except String (Option String × Option Account))
  | failure (message : String)

/-- A refresh promise. Its `then` settles it, its `finally` finishes it. -/
inductive Refresh where
  | fetching
  | settled (result : Except String String)
  | finished (result : Except String String)

/-- Where a request is. It awaits the promise that it found. -/
inductive Phase where
  | idle
  | fetching (url : String) (authorization : Option String)
  | awaiting (url : String) (promise : Option Nat)
  | retrying (url : String) (authorization : String)
  | done (result : Result)
deriving DecidableEq

/-- `waited`, `took` and `loggedOut` only record, for the specification, the refresh that a request waited for, what came of it,
and the requests that logged the user out. -/
structure State where
  auth : AuthState
  page : Page
  isRefreshing : Bool
  refreshPromise : Option Nat
  refreshes : Nat → Option Refresh
  created : Nat
  requests : Nat → Phase
  waited : Nat → Option Nat
  took : Nat → Option (Except String String)
  loggedOut : List Nat

def initial (auth : AuthState) (page : Page) : State where
  auth := auth
  page := page
  isRefreshing := false
  refreshPromise := none
  refreshes _ := none
  created := 0
  requests _ := .idle
  waited _ := none
  took _ := none
  loggedOut := []

def AUTH_API_ENDPOINTS : List String :=
  ["/auth/login", "/auth/register", "/auth/seller/register", "/auth/verify-email", "/auth/resend-verification",
    "/auth/forgot-password", "/auth/reset-password", "/auth/refresh"]

def isAuthPublicEndpoint (url : String) : Bool := AUTH_API_ENDPOINTS.any fun endpoint => endpoint.toList.isPrefixOf url.toList

def timeoutError : Thrown :=
  .httpError 408 (.message "Kết nối mạng quá hạn (Timeout). Vui lòng kiểm tra lại đường truyền!")

def ok (status : Nat) : Bool := 200 ≤ status ∧ status < 300

/-- What a response that is not refreshed comes to. -/
def interpret (url : String) (status : Nat) (body : Option String) : Result :=
  let payload := Payload.json (body.getD "\x7b\x7d")
  if ok status then .returned payload
  else if status = 422 ∨ status = 400 then .thrown (.entityError status payload)
  else if status = 401 then
    if isAuthPublicEndpoint url then .thrown (.httpError status payload)
    else .thrown (.httpError status (.message "Phiên đăng nhập đã hết hạn"))
  else .thrown (.httpError status payload)

/-- What the `then` of a refresh returns or throws. -/
def refreshed : RefreshOutcome → Except String (Account × String)
  | .failure message => .error message
  | .response status body =>
    if status = 403 then .error "SESSION_EXPIRED"
    else if status = 401 then .error "INVALID_TOKEN"
    else if !ok status then .error "Refresh failed"
    else match body with
      | .error message => .error message
      | .ok (some token, some user) => if token = "" then .error "Invalid refresh response data" else .ok (user, token)
      | .ok _ => .error "Invalid refresh response data"

namespace State

def become (s : State) (id : Nat) (phase : Phase) : State := { s with requests := Function.update s.requests id phase }

/-- `if (!isRefreshing)`: a refresh is started. -/
def ensureRefresh (s : State) : State :=
  if s.isRefreshing then s
  else { s with
    isRefreshing := true
    refreshPromise := some s.created
    refreshes := Function.update s.refreshes s.created (some .fetching)
    created := s.created + 1 }

def await (s : State) (id : Nat) (url : String) : State :=
  { s.become id (.awaiting url s.refreshPromise) with waited := Function.update s.waited id s.refreshPromise }

def answered (s : State) (client : Bool) (id : Nat) (url : String) : FetchOutcome → State
  | .abort => s.become id (.done (.thrown timeoutError))
  | .failure message => s.become id (.done (.thrown (.failure message)))
  | .response status body =>
    if status = 401 ∧ client ∧ !isAuthPublicEndpoint url then s.ensureRefresh.await id url
    else s.become id (.done (interpret url status body))

def settle (s : State) (promise : Nat) : Except String (Account × String) → State
  | .error message => { s with refreshes := Function.update s.refreshes promise (some (.settled (.error message))) }
  | .ok (user, token) =>
    { s with
      auth := s.auth.setAuth user token
      refreshes := Function.update s.refreshes promise (some (.settled (.ok token))) }

def finish (s : State) (promise : Nat) (result : Except String String) : State :=
  { s with
    isRefreshing := false
    refreshPromise := none
    refreshes := Function.update s.refreshes promise (some (.finished result)) }

/-- The outer `catch`, which a failed refresh and a failed retry both end in. -/
def caught (s : State) (id : Nat) (errorMessage : String) : State :=
  let s := if s.auth.isAuthenticated then
      { s with
        auth := s.auth.logout
        page := s.page.toLogin errorMessage
        loggedOut := s.loggedOut ++ [id] }
    else s
  s.become id (.done (.thrown (.httpError 401 (.message
    (if errorMessage = "SESSION_EXPIRED" then "Phiên đăng nhập đã hết hạn" else "Phiên đăng nhập không hợp lệ")))))

def take (s : State) (id : Nat) (result : Except String String) : State :=
  { s with took := Function.update s.took id (some result) }

/-- `await refreshPromise` comes back. Awaiting nothing gives `null`. -/
def resumed (s : State) (id : Nat) (url : String) : Option Nat → State
  | none => s.become id (.retrying url "null")
  | some promise =>
    match s.refreshes promise with
    | some (.finished (.ok token)) => (s.take id (.ok token)).become id (.retrying url token)
    | some (.finished (.error message)) => (s.take id (.error message)).caught id message
    | _ => s

/-- The message of an `HttpError` is `Http Error`. -/
def retried (s : State) (id : Nat) (url : String) : FetchOutcome → State
  | .abort => s.caught id "Http Error"
  | .failure message => s.caught id message
  | .response status body => s.become id (.done (interpret url status body))

end State

/-- The steps of `request`, then what else the page does to the session. -/
inductive Move where
  | send (id : Nat) (url : String)
  | answer (id : Nat) (outcome : FetchOutcome)
  | refresh (promise : Nat) (outcome : RefreshOutcome)
  | finish (promise : Nat)
  | resume (id : Nat)
  | retry (id : Nat) (outcome : FetchOutcome)
  | setAuth (user : Account) (token : String)
  | setAccessToken (token : String)
  | setUser (user : Account)
  | clearAuthCookies
  | logout
  | fill (queryCache cart : List String)
  | navigate (pathname search : String)

def act (client : Bool) (s : State) : Move → State
  | .send id url =>
    match s.requests id with
    | .idle => s.become id (.fetching url (s.auth.accessToken.filter (· ≠ "")))
    | _ => s
  | .answer id outcome =>
    match s.requests id with
    | .fetching url _ => s.answered client id url outcome
    | _ => s
  | .refresh promise outcome =>
    match s.refreshes promise with
    | some .fetching => s.settle promise (refreshed outcome)
    | _ => s
  | .finish promise =>
    match s.refreshes promise with
    | some (.settled result) => s.finish promise result
    | _ => s
  | .resume id =>
    match s.requests id with
    | .awaiting url promise => s.resumed id url promise
    | _ => s
  | .retry id outcome =>
    match s.requests id with
    | .retrying url _ => s.retried id url outcome
    | _ => s
  | .setAuth user token => { s with auth := s.auth.setAuth user token }
  | .setAccessToken token => { s with auth := { s.auth with accessToken := some token } }
  | .setUser user => { s with auth := { s.auth with user := some user } }
  | .clearAuthCookies => { s with auth := { s.auth with cookies := none } }
  | .logout => { s with auth := s.auth.logout }
  | .fill queryCache cart => { s with auth := { s.auth with queryCache, cart } }
  | .navigate pathname search => { s with page := { s.page with pathname, search } }

/-! ### The shared refresh -/

namespace State

/-- The refresh has not finished. -/
def Running (s : State) (promise : Nat) : Prop :=
  s.refreshes promise = some .fetching ∨ ∃ result, s.refreshes promise = some (.settled result)

/-- What is known of a request where it is. -/
def Placed (s : State) (id : Nat) : Phase → Prop
  | .idle | .fetching _ _ => s.took id = none ∧ id ∉ s.loggedOut
  | .awaiting _ promise => (∃ p, promise = some p ∧ s.waited id = some p) ∧ s.took id = none ∧ id ∉ s.loggedOut
  | .retrying _ token => s.took id = some (.ok token) ∧ id ∉ s.loggedOut
  | .done _ => True

structure Sound (s : State) : Prop where
  running : ∀ p, s.Running p → s.isRefreshing = true ∧ s.refreshPromise = some p
  refreshing : s.isRefreshing = true → ∃ p, s.refreshPromise = some p ∧ s.Running p
  fresh : ∀ p, s.created ≤ p → s.refreshes p = none
  placed : ∀ id, s.Placed id (s.requests id)
  took : ∀ id result, s.took id = some result → ∃ p, s.waited id = some p ∧ s.refreshes p = some (.finished result)

/-- No request whose refresh succeeded has logged the user out. -/
def Kept (s : State) : Prop := ∀ id token, s.took id = some (.ok token) → id ∉ s.loggedOut

end State

theorem initial_sound (auth : AuthState) (page : Page) : (initial auth page).Sound where
  running p running := by
    rcases running with fetching | ⟨result, settled⟩
    · cases fetching
    · cases settled
  refreshing set := by cases set
  fresh _ _ := rfl
  placed _ := ⟨rfl, List.not_mem_nil⟩
  took _ _ took := by cases took

theorem initial_kept (auth : AuthState) (page : Page) : (initial auth page).Kept :=
  fun _ _ took => by cases took

namespace State
variable {s : State}

/-- What is known of a request where nothing is recorded of it. -/
theorem Placed.mono {t : State} {id : Nat} {phase : Phase} (placed : s.Placed id phase) (waited : t.waited id = s.waited id)
    (took : t.took id = s.took id) (logged : id ∉ s.loggedOut → id ∉ t.loggedOut) : t.Placed id phase := by
  cases phase with
  | idle => exact ⟨took.trans placed.1, logged placed.2⟩
  | fetching url authorization => exact ⟨took.trans placed.1, logged placed.2⟩
  | awaiting url promise =>
    obtain ⟨⟨p, found, waits⟩, none_taken, absent⟩ := placed
    exact ⟨⟨p, found, waited.trans waits⟩, took.trans none_taken, logged absent⟩
  | retrying url token => exact ⟨took.trans placed.1, logged placed.2⟩
  | done result => trivial

theorem Sound.become (sound : s.Sound) {id : Nat} {phase : Phase} (placed : s.Placed id phase) : (s.become id phase).Sound where
  running := sound.running
  refreshing := sound.refreshing
  fresh := sound.fresh
  took := sound.took
  placed other := by
    show s.Placed other (Function.update s.requests id phase other)
    by_cases same : other = id
    · subst same
      rw [Function.update_self]
      exact placed
    · rw [Function.update_of_ne same]
      exact sound.placed other

/-- The rest of the page has no part in the refresh. -/
theorem Sound.session (sound : s.Sound) (auth : AuthState) (page : Page) : { s with auth, page }.Sound :=
  ⟨sound.running, sound.refreshing, sound.fresh, sound.placed, sound.took⟩

theorem Running.not_finished {p : Nat} {result : Except String String} (running : s.Running p) :
    s.refreshes p ≠ some (.finished result) := by
  rcases running with fetching | ⟨_, settled⟩
  · rw [fetching]
    exact nofun
  · rw [settled]
    exact nofun

theorem running_update {p q : Nat} {refresh : Option Refresh} (ne : q ≠ p) :
    { s with refreshes := Function.update s.refreshes p refresh }.Running q ↔ s.Running q := by
  simp only [Running, Function.update_of_ne ne]

/-- What requests took stays, when a refresh that has not finished goes on. -/
theorem Sound.took_update (sound : s.Sound) {p : Nat} (unfinished : ∀ result, s.refreshes p ≠ some (.finished result))
    (refresh : Option Refresh) (id : Nat) (result : Except String String) (took : s.took id = some result) :
    ∃ q, s.waited id = some q ∧ Function.update s.refreshes p refresh q = some (.finished result) := by
  obtain ⟨q, waited, finished⟩ := sound.took id result took
  have ne : q ≠ p := by
    rintro rfl
    exact unfinished result finished
  refine ⟨q, waited, ?_⟩
  rw [Function.update_of_ne ne]
  exact finished

theorem Sound.fresh_update (sound : s.Sound) {p : Nat} (running : s.Running p) (refresh : Option Refresh) (q : Nat)
    (above : s.created ≤ q) : Function.update s.refreshes p refresh q = none := by
  have ne : q ≠ p := by
    rintro rfl
    rcases running with fetching | ⟨_, settled⟩
    · exact nomatch (sound.fresh q above).symm.trans fetching
    · exact nomatch (sound.fresh q above).symm.trans settled
  rw [Function.update_of_ne ne]
  exact sound.fresh q above

theorem Sound.ensureRefresh (sound : s.Sound) : s.ensureRefresh.Sound ∧
    ∃ p, s.ensureRefresh.refreshPromise = some p ∧ s.ensureRefresh.Running p ∧ (∀ q, s.Running q → q = p) := by
  unfold State.ensureRefresh
  split
  · rename_i set
    obtain ⟨p, promise, running⟩ := sound.refreshing set
    refine ⟨sound, p, promise, running, ?_⟩
    intro q other
    have same := (sound.running q other).2
    rw [promise] at same
    exact (Option.some.inj same).symm
  · rename_i unset
    have none_running : ∀ q, ¬s.Running q := fun q running => unset (sound.running q running).1
    have started : ∀ q, Running { s with refreshes := Function.update s.refreshes s.created (some .fetching) } q →
        q = s.created := by
      intro q running
      by_contra ne
      exact none_running q ((running_update ne).mp running)
    have first : Running { s with refreshes := Function.update s.refreshes s.created (some .fetching) } s.created :=
      .inl (Function.update_self ..)
    refine ⟨⟨?_, ?_, ?_, sound.placed, ?_⟩, s.created, rfl, first, fun q running => absurd running (none_running q)⟩
    · intro q running
      rw [started q running]
      exact ⟨rfl, rfl⟩
    · exact fun _ => ⟨s.created, rfl, first⟩
    · intro p above
      have ne : p ≠ s.created := by
        intro same
        rw [same] at above
        exact absurd above (by show ¬(s.created + 1 ≤ s.created); omega)
      show Function.update s.refreshes s.created (some .fetching) p = none
      rw [Function.update_of_ne ne]
      exact sound.fresh p (Nat.le_of_succ_le above)
    · exact sound.took_update (fun result => by rw [sound.fresh _ (Nat.le_refl _)]; exact nofun) _

theorem Sound.await (sound : s.Sound) {p : Nat} (promise : s.refreshPromise = some p) {id : Nat} (took : s.took id = none)
    (logged : id ∉ s.loggedOut) (url : String) : (s.await id url).Sound where
  running := sound.running
  refreshing := sound.refreshing
  fresh := sound.fresh
  placed other := by
    show Placed { s with waited := Function.update s.waited id s.refreshPromise } other
      (Function.update s.requests id (.awaiting url s.refreshPromise) other)
    by_cases same : other = id
    · subst same
      rw [Function.update_self]
      exact ⟨⟨p, promise, by rw [← promise]; exact Function.update_self ..⟩, took, logged⟩
    · rw [Function.update_of_ne same]
      exact (sound.placed other).mono (Function.update_of_ne same ..) rfl fun absent => absent
  took other result found := by
    have ne : other ≠ id := by
      rintro rfl
      have none_taken : s.took other = some result := found
      rw [took] at none_taken
      cases none_taken
    obtain ⟨q, waited, finished⟩ := sound.took other result found
    refine ⟨q, ?_, finished⟩
    show Function.update s.waited id _ other = some q
    rw [Function.update_of_ne ne]
    exact waited

theorem Sound.settle (sound : s.Sound) {p : Nat} (fetching : s.refreshes p = some .fetching)
    (result : Except String (Account × String)) : (s.settle p result).Sound := by
  have at_p : s.Running p := .inl fetching
  have moved : ∀ (settled : Except String String) (auth : AuthState),
      { s with auth, refreshes := Function.update s.refreshes p (some (.settled settled)) }.Sound := by
    intro settled auth
    refine ⟨?_, ?_, ?_, sound.placed, ?_⟩
    · intro q running
      by_cases same : q = p
      · rw [same]
        exact sound.running p at_p
      · exact sound.running q ((running_update same).mp running)
    · intro set
      exact ⟨p, (sound.running p at_p).2, .inr ⟨settled, Function.update_self ..⟩⟩
    · exact sound.fresh_update at_p _
    · exact sound.took_update (fun _ => at_p.not_finished) _
  cases result with
  | error message => exact moved (.error message) s.auth
  | ok pair => exact moved (.ok pair.2) (s.auth.setAuth pair.1 pair.2)

theorem Sound.finish (sound : s.Sound) {p : Nat} {result : Except String String}
    (settled : s.refreshes p = some (.settled result)) : (s.finish p result).Sound := by
  have at_p : s.Running p := .inr ⟨result, settled⟩
  have none_running : ∀ q, ¬(s.finish p result).Running q := by
    intro q running
    by_cases same : q = p
    · subst same
      exact running.not_finished (Function.update_self ..)
    · have before := (sound.running q ((running_update same).mp running)).2
      rw [(sound.running p at_p).2] at before
      exact same (Option.some.inj before).symm
  refine ⟨fun q running => absurd running (none_running q), ?_, ?_, sound.placed, ?_⟩
  · intro set
    cases set
  · exact sound.fresh_update at_p _
  · exact sound.took_update (fun _ => at_p.not_finished) _

theorem Sound.take (sound : s.Sound) {id p : Nat} {result : Except String String} (waited : s.waited id = some p)
    (finished : s.refreshes p = some (.finished result)) {phase : Phase} (placed : (s.take id result).Placed id phase) :
    ((s.take id result).become id phase).Sound where
  running := sound.running
  refreshing := sound.refreshing
  fresh := sound.fresh
  placed other := by
    show (s.take id result).Placed other (Function.update s.requests id phase other)
    by_cases same : other = id
    · subst same
      rw [Function.update_self]
      exact placed
    · rw [Function.update_of_ne same]
      exact (sound.placed other).mono rfl (Function.update_of_ne same ..) fun absent => absent
  took other taken took := by
    have took : Function.update s.took id (some result) other = some taken := took
    by_cases same : other = id
    · subst same
      rw [Function.update_self] at took
      exact ⟨p, waited, by rw [← Option.some.inj took]; exact finished⟩
    · rw [Function.update_of_ne same] at took
      exact sound.took other taken took

theorem Sound.logged (sound : s.Sound) {id : Nat} {result : Result} (done : s.requests id = .done result) (auth : AuthState)
    (page : Page) : { s with auth, page, loggedOut := s.loggedOut ++ [id] }.Sound where
  running := sound.running
  refreshing := sound.refreshing
  fresh := sound.fresh
  took := sound.took
  placed other := by
    show Placed { s with auth, page, loggedOut := s.loggedOut ++ [id] } other (s.requests other)
    by_cases same : other = id
    · subst same
      rw [done]
      trivial
    · refine (sound.placed other).mono rfl rfl ?_
      intro absent among
      rcases List.mem_append.mp among with earlier | own
      · exact absent earlier
      · exact same (List.mem_singleton.mp own)

theorem Sound.caught (sound : s.Sound) (id : Nat) (errorMessage : String) : (s.caught id errorMessage).Sound := by
  have done : ∀ result, (s.become id (.done result)).Sound := fun _ => sound.become trivial
  unfold State.caught
  split
  · exact (done _).logged (Function.update_self ..) s.auth.logout (s.page.toLogin errorMessage)
  · exact done _

/-- Who is logged out by the catch, and what it leaves as it is. -/
theorem caught_loggedOut (s : State) (id : Nat) (errorMessage : String) :
    (s.caught id errorMessage).loggedOut = if s.auth.isAuthenticated then s.loggedOut ++ [id] else s.loggedOut := by
  unfold State.caught
  split <;> rfl

theorem caught_took (s : State) (id : Nat) (errorMessage : String) : (s.caught id errorMessage).took = s.took := by
  unfold State.caught
  split <;> rfl

theorem ensureRefresh_kept (s : State) : s.ensureRefresh.took = s.took ∧ s.ensureRefresh.loggedOut = s.loggedOut := by
  unfold State.ensureRefresh
  split <;> exact ⟨rfl, rfl⟩

end State

/-- No retry fails while somebody is signed in. -/
def RetryKept (s : State) : Move → Prop
  | .retry id outcome => ∀ url authorization, s.requests id = .retrying url authorization →
    (∃ status body, outcome = .response status body) ∨ s.auth.isAuthenticated = false
  | _ => True

theorem act_sound {s : State} (client : Bool) (sound : s.Sound) (m : Move) : (act client s m).Sound := by
  cases m with
  | send id url =>
    rw [act]
    split
    · rename_i idle
      have placed := sound.placed id
      rw [idle] at placed
      exact sound.become placed
    · exact sound
  | answer id outcome =>
    rw [act]
    split
    · rename_i url authorization fetching
      have placed := sound.placed id
      rw [fetching] at placed
      unfold State.answered
      split
      · exact sound.become trivial
      · exact sound.become trivial
      · split
        · obtain ⟨ensured, p, promise, -, -⟩ := sound.ensureRefresh
          obtain ⟨took, logged⟩ := s.ensureRefresh_kept
          exact ensured.await promise (by rw [took]; exact placed.1) (by rw [logged]; exact placed.2) url
        · exact sound.become trivial
    · exact sound
  | refresh promise outcome =>
    rw [act]
    split
    · rename_i fetching
      exact sound.settle fetching _
    · exact sound
  | finish promise =>
    rw [act]
    split
    · rename_i result settled
      exact sound.finish settled
    · exact sound
  | resume id =>
    rw [act]
    split
    · rename_i url promise awaiting
      have placed := sound.placed id
      rw [awaiting] at placed
      obtain ⟨⟨p, rfl, waited⟩, -, logged⟩ := placed
      rw [State.resumed]
      split
      · rename_i token finished
        exact sound.take waited finished ⟨Function.update_self .., logged⟩
      · rename_i message finished
        have taken : ∀ result, ((s.take id (.error message)).become id (.done result)).Sound :=
          fun _ => sound.take waited finished trivial
        unfold State.caught
        split
        · exact (taken _).logged (Function.update_self ..) s.auth.logout (s.page.toLogin message)
        · exact taken _
      · exact sound
    · exact sound
  | retry id outcome =>
    rw [act]
    split
    · unfold State.retried
      split
      · exact sound.caught id _
      · exact sound.caught id _
      · exact sound.become trivial
    · exact sound
  | navigate pathname search => exact sound.session _ _
  | _ => exact sound.session _ _

namespace State

theorem kept_congr {s t : State} (took : t.took = s.took) (loggedOut : t.loggedOut = s.loggedOut) : t.Kept ↔ s.Kept := by
  rw [Kept, Kept, took, loggedOut]

theorem kept_settle {s : State} (promise : Nat) (result : Except String (Account × String)) :
    (s.settle promise result).Kept ↔ s.Kept := by
  cases result <;> exact Iff.rfl

theorem kept_answered {s : State} (client : Bool) (id : Nat) (url : String) (outcome : FetchOutcome) :
    (s.answered client id url outcome).Kept ↔ s.Kept := by
  cases outcome with
  | response status body =>
    rw [answered]
    split
    · exact kept_congr s.ensureRefresh_kept.1 s.ensureRefresh_kept.2
    · exact Iff.rfl
  | _ => exact Iff.rfl

/-- The catch after a refresh that failed. -/
theorem Kept.refused {s : State} (kept : s.Kept) (id : Nat) (message : String) :
    ((s.take id (.error message)).caught id message).Kept := by
  intro other token took logged
  rw [caught_took] at took
  have took : Function.update s.took id (some (.error message)) other = some (.ok token) := took
  have apart : other ≠ id := by
    rintro rfl
    rw [Function.update_self] at took
    cases took
  rw [Function.update_of_ne apart] at took
  rw [caught_loggedOut] at logged
  split at logged
  · rcases List.mem_append.mp logged with earlier | own
    · exact kept other token took earlier
    · exact apart (List.mem_singleton.mp own)
  · exact kept other token took logged

/-- The catch after a retry that failed. -/
theorem kept_caught {s : State} (kept : s.Kept) {id : Nat} {token : String} (took : s.took id = some (.ok token))
    (errorMessage : String) : (s.caught id errorMessage).Kept ↔ s.auth.isAuthenticated = false := by
  constructor
  · intro still
    by_contra signed
    rw [Bool.not_eq_false] at signed
    have out := still id token (by rw [caught_took]; exact took)
    rw [caught_loggedOut, if_pos signed] at out
    exact out (List.mem_append_right _ (List.mem_singleton_self id))
  · intro out
    have loggedOut : (s.caught id errorMessage).loggedOut = s.loggedOut := by
      rw [caught_loggedOut, out]
      rfl
    exact (kept_congr (s.caught_took id errorMessage) loggedOut).mpr kept

end State

theorem kept_act {s : State} (client : Bool) (sound : s.Sound) (kept : s.Kept) (m : Move) :
    (act client s m).Kept ↔ RetryKept s m := by
  cases m with
  | retry id outcome =>
    rw [act]
    split
    · rename_i url authorization retrying
      have placed := sound.placed id
      rw [retrying] at placed
      have condition : RetryKept s (.retry id outcome) ↔
          (∃ status body, outcome = .response status body) ∨ s.auth.isAuthenticated = false :=
        ⟨fun holds => holds url authorization retrying, fun holds _ _ _ => holds⟩
      rw [condition]
      cases outcome with
      | response status body => exact iff_of_true kept (.inl ⟨status, body, rfl⟩)
      | abort => exact (State.kept_caught kept placed.1 _).trans ⟨.inr, fun either => either.resolve_left nofun⟩
      | failure message => exact (State.kept_caught kept placed.1 _).trans ⟨.inr, fun either => either.resolve_left nofun⟩
    · rename_i elsewhere
      exact iff_of_true kept fun url authorization retrying => absurd retrying (elsewhere url authorization)
  | send id url =>
    rw [act]
    split <;> exact iff_of_true kept trivial
  | answer id outcome =>
    rw [act]
    split
    · exact iff_of_true ((State.kept_answered ..).mpr kept) trivial
    · exact iff_of_true kept trivial
  | refresh promise outcome =>
    rw [act]
    split
    · exact iff_of_true ((State.kept_settle ..).mpr kept) trivial
    · exact iff_of_true kept trivial
  | finish promise =>
    rw [act]
    split <;> exact iff_of_true kept trivial
  | resume id =>
    refine iff_of_true ?_ trivial
    rw [act]
    split
    · rename_i url promise awaiting
      have placed := sound.placed id
      rw [awaiting] at placed
      obtain ⟨⟨p, rfl, waited⟩, -, logged⟩ := placed
      rw [State.resumed]
      split
      · rename_i token finished
        intro other taken took
        have took : Function.update s.took id (some (.ok token)) other = some (.ok taken) := took
        by_cases same : other = id
        · rw [same]
          exact logged
        · rw [Function.update_of_ne same] at took
          exact kept other taken took
      · exact kept.refused id _
      · exact kept
    · exact kept
  | _ => exact iff_of_true kept trivial

/-- What the client promises: one refresh at a time, shared by the requests that meet a 401 while it runs, and nobody logged out
by a request whose refresh succeeded. -/
structure Right (client : Bool) (s : State) : Prop where
  single : ∀ p q, s.Running p → s.Running q → p = q
  joins : client = true → ∀ id url authorization body p, s.requests id = .fetching url authorization →
    isAuthPublicEndpoint url = false → s.Running p →
      (act client s (.answer id (.response 401 body))).requests id = .awaiting url (some p)
  shares : ∀ id p result, s.waited id = some p → s.took id = some result → s.refreshes p = some (.finished result)
  kept : s.Kept

theorem right_iff_kept {client : Bool} {s : State} (sound : s.Sound) : Right client s ↔ s.Kept := by
  refine ⟨Right.kept, fun kept => ⟨?_, ?_, ?_, kept⟩⟩
  · intro p q first second
    have same := (sound.running p first).2
    rw [(sound.running q second).2] at same
    exact (Option.some.inj same).symm
  · intro onClient id url authorization body p fetching needed running
    obtain ⟨-, q, promise, -, same⟩ := sound.ensureRefresh
    rw [act, fetching]
    show (s.answered client id url (.response 401 body)).requests id = _
    rw [State.answered, if_pos ⟨rfl, onClient, by rw [needed]; rfl⟩]
    show Function.update s.ensureRefresh.requests id (.awaiting url s.ensureRefresh.refreshPromise) id = _
    rw [Function.update_self, promise, same p running]
  · intro id p result waited took
    obtain ⟨q, waited', finished⟩ := sound.took id result took
    rw [waited] at waited'
    obtain rfl := Option.some.inj waited'
    exact finished

theorem retry_logs_out_iff (client : Bool) (auth : AuthState) (page : Page) (moves : List Move) :
    (∀ n, Right client (Machine.run (act client) (initial auth page) (moves.take n))) ↔
      Machine.CanRun (act client) RetryKept (initial auth page) moves := by
  apply Machine.throughout_iff_canRun (I := State.Sound) (fun s m sound _ _ => act_sound client sound m)
  · intro s m sound right
    rw [right_iff_kept (act_sound client sound m)]
    exact kept_act client sound right.kept m
  · exact initial_sound auth page
  · exact (right_iff_kept (initial_sound auth page)).mpr (initial_kept auth page)

/-- Signed in on a page of orders, with something in the cart. -/
def signedIn : AuthState := ⟨some ⟨"customer", "active"⟩, some "old", true, some ("customer", "active"), [], ["shirt"]⟩

/-- The refresh succeeds and the retry runs out of time. -/
def slowRetry : List Move :=
  [.send 0 "/orders", .answer 0 (.response 401 none),
    .refresh 0 (.response 200 (.ok (some "new", some ⟨"customer", "active"⟩))), .finish 0, .resume 0, .retry 0 .abort]

theorem not_session_kept : ¬ ∀ (client : Bool) (auth : AuthState) (page : Page) (moves : List Move) (n : Nat),
    Right client (Machine.run (act client) (initial auth page) (moves.take n)) := by
  intro claimed
  have right := claimed true signedIn ⟨"/profile", "", none, false⟩ slowRetry 6
  exact right.kept 0 "new" rfl (by decide)

end Marketplace.HttpClient
