import RatingLift.Auth.AccountWrites
import RatingLift.Auth.Sessions

/-!
# Blocked addresses

While the blocklist holds an unexpired row for an address, a request from that address should neither create
or refresh a session nor get as far as comparing a password or a code.  Only `login_with_password` asks the
blocklist.  The other four operations stop exactly when something else stops them: a taken email, a provider
that does not confirm the token, an account that may not verify a code, or a refresh token that may not be
exchanged (`blocks_hold_iff`).
-/

namespace RatingLift

open Library Fallible

/-- `ip_blocklist` holds an unexpired row for the address; an empty text is no address. -/
def addressBlocked (db : Db) (now : Instant) (a : String) : Bool :=
  decide (a ≠ "") && (db.ipBlocklist.find? a).any fun row => row.expiresAt.all fun t => decide (now < t)

/-- The address that the operations which log in or refresh are called with. -/
def AuthRequest.ipAddress : AuthRequest → Option String
  | .signup req => req.client.ipAddress
  | .loginWithPassword req => req.client.ipAddress
  | .verifyMfaLogin req => req.client.ipAddress
  | .loginWithSocialProvider req => req.client.ipAddress
  | .refreshAccessToken _ ipAddress => ipAddress
  | _ => none

/-- The request of the step comes from a blocked address. -/
def fromBlocked (x : AuthStep) : Bool :=
  x.label.request.ipAddress.any fun a => addressBlocked x.before.db x.label.draw.now a

section

variable {τ : Type} (env : AuthEnv τ)

/-- The step creates and refreshes no session, and compares no password and no code. -/
structure TurnedAway (x : AuthStep) : Prop where
  sessions : x.after.db.loginSessions = x.before.db.loginSessions
  unchecked : loginCheck env x.before x.label.draw x.label.request = none

/-- Something other than the blocklist stops the request. -/
def stopped (s : AuthState) (draw : AuthDraw) : AuthRequest → Bool
  | .signup req => (getUserByEmail env s.db req.email).isSome
  | .verifyMfaLogin req => (getUserByEmail env s.db (env.lower req.email)).all fun user =>
      user.locked draw.now || !mayVerify user req.adminOnly
  | .loginWithSocialProvider req =>
    match verifyOauthToken env.lower req.reply req.provider with
    | .error _ => true
    | .ok profile => (getUserByEmail env s.db profile.email).isNone &&
        (s.db.users.first fun u => u.email == profile.email).isSome
  | .refreshAccessToken refreshToken _ => !(refreshable env s.db draw.now refreshToken).isOk
  | _ => true

variable {env} {s : AuthState} {draw : AuthDraw}

/-- The blocklist turns a password login away. -/
theorem ensureIpAllowed_of_blocked {db : Db} {now : Instant} {a : String}
    (h : addressBlocked db now a = true) :
    ∃ e, ensureIpAllowed db (some a) now = .error e := by
  unfold addressBlocked at h
  simp only [Bool.and_eq_true, decide_eq_true_eq, Option.any_eq_true] at h
  obtain ⟨hne, row, hrow, hlive⟩ := h
  have hblocked : isIpBlocked db (some a) now = (true, db) := by
    unfold isIpBlocked
    rw [Option.filter_some, if_pos (by simpa using hne), Option.bind_some, hrow]
    cases hexp : row.expiresAt with
    | none => simp [hexp]
    | some t =>
      have hnow : ¬ t ≤ now := by
        rw [hexp] at hlive
        exact not_le.mpr (by simpa using hlive)
      simp [hexp, hnow]
  unfold ensureIpAllowed
  rw [hblocked]
  exact ⟨_, rfl⟩

theorem loginWithPassword_of_blocked (env : AuthEnv τ) {req : LoginRequest} {a : String}
    (ha : req.client.ipAddress = some a) (h : addressBlocked s.db draw.now a = true) :
    (loginWithPassword env s draw req).1 = s ∧ loginCheck env s draw (.loginWithPassword req) = none := by
  obtain ⟨e, he⟩ := ensureIpAllowed_of_blocked h
  constructor
  · unfold loginWithPassword
    rw [ha, he]
  · simp [loginCheck, passwordUser, ha, he]

theorem loginCheck_verifyMfaLogin_iff {req : MfaVerifyRequest} :
    loginCheck env s draw (.verifyMfaLogin req) = none ↔ stopped env s draw (.verifyMfaLogin req) = true := by
  unfold loginCheck stopped
  dsimp only
  cases getUserByEmail env s.db (env.lower req.email) with
  | none => simp
  | some user =>
    cases hlocked : user.locked draw.now <;> cases hmay : mayVerify user req.adminOnly <;>
      simp [hlocked, hmay]

/-- A verification that compares no code leaves the sessions as they are. -/
theorem verifyMfaLogin_sessions {req : MfaVerifyRequest}
    (h : loginCheck env s draw (.verifyMfaLogin req) = none) :
    (verifyMfaLogin env s draw req).1.db.loginSessions = s.db.loginSessions := by
  have hwrite : LoginWrite env s draw (verifyMfaLogin env s draw req).1.db (.verifyMfaLogin req) :=
    verifyMfaLogin_write
  cases hwrite.sessions with
  | kept hsame => exact hsame
  | opened row hadmitted _ _ =>
    cases hadmitted with
    | created hcreated => cases hcreated
    | loggedIn user _ hcheck _ => rw [h] at hcheck; cases hcheck

/-- A social login either fails without a trace or comes to an account. -/
theorem loginWithSocialProvider_stopped (env : AuthEnv τ) (req : SocialLoginRequest)
    (hfresh : s.db.users.Fresh draw.userId) :
    (stopped env s draw (.loginWithSocialProvider req) = true ∧
      (loginWithSocialProvider env s draw req).1 = s) ∨
      stopped env s draw (.loginWithSocialProvider req) = false ∧
        ∃ row, OpensFor env s draw (loginWithSocialProvider env s draw req).1.db row := by
  cases hprofile : verifyOauthToken env.lower req.reply req.provider with
  | error e => exact Or.inl ⟨by simp [stopped, hprofile], by unfold loginWithSocialProvider; rw [hprofile]⟩
  | ok profile =>
    cases hfound : getUserByEmail env s.db profile.email with
    | some user =>
      obtain ⟨tenantId, db, haccount, _⟩ := socialAccount_of_found draw req.provider hfound
      exact Or.inr
        ⟨by simp [stopped, hprofile, hfound], _, loginWithSocialProvider_opens hprofile haccount hfresh⟩
    | none =>
      have htenantUsers : (getOrCreateTenant env s.db draw none profile.email).2.users = s.db.users :=
        getOrCreateTenant_kept.2.2
      cases htaken : (s.db.users.first fun u => u.email == profile.email).isSome with
      | true =>
        refine Or.inl ⟨by simp [stopped, hprofile, hfound, htaken], ?_⟩
        unfold loginWithSocialProvider socialAccount addUser newUser
        rw [hprofile]
        dsimp only
        rw [hfound]
        dsimp only
        rw [htenantUsers, if_pos htaken]
        rfl
      | false =>
        refine Or.inr ⟨by simp [stopped, hprofile, hfound, htaken], ?_⟩
        have haccount : ∃ account, socialAccount env draw s.db req.provider profile = .ok account := by
          unfold socialAccount addUser newUser
          rw [hfound]
          dsimp only
          rw [htenantUsers, htaken]
          exact ⟨_, rfl⟩
        obtain ⟨⟨row, db⟩, haccount⟩ := haccount
        exact ⟨_, loginWithSocialProvider_opens hprofile haccount hfresh⟩

/-- A refresh either fails without a trace or writes a session. -/
theorem refreshAccessToken_stopped {refreshToken : String} (ipAddress : Option String)
    (hjti : ∀ row ∈ s.db.loginSessions.rows, row.jti ≠ some draw.jti) :
    stopped env s draw (.refreshAccessToken refreshToken ipAddress) = true ↔
      (refreshAccessToken env s draw refreshToken ipAddress).1.db.loginSessions = s.db.loginSessions := by
  unfold stopped refreshAccessToken
  cases hfound : refreshable env s.db draw.now refreshToken with
  | error e => simp [hfound, Except.isOk, Except.toBool]
  | ok found =>
    obtain ⟨session, user⟩ := found
    have hstored : session ∈ s.db.loginSessions := (Table.find?_some (refreshable_find hfound).1).1
    simp only [hfound, Except.isOk, Except.toBool, Bool.not_true, Bool.false_eq_true, false_iff]
    intro hsame
    have hfind : (s.db.loginSessions.update (rotate env draw session user ipAddress)).find? session.id =
        some (rotate env draw session user ipAddress) := Table.find?_update_self hstored rfl
    rw [hsame] at hfind
    exact hjti _ (Table.find?_some hfind).1 rfl

/-! ### Runs -/

variable {s₀ : AuthState} {tr : List AuthStep}

/-- A new session is a change of the sessions. -/
private theorem AuthRun.sessions_ne_of_opens (h : AuthRun env s₀ tr s) {x : AuthStep}
    (hx : x ∈ tr) {row : User} (hopens : OpensFor env x.before x.label.draw x.after.db row) :
    x.after.db.loginSessions ≠ x.before.db.loginSessions := by
  obtain ⟨session, hsession, _, hnew⟩ := h.opensSession_of hx hopens
  intro hsame
  rw [hsame] at hsession
  exact hnew session hsession rfl

/-- A request that leaves the state as it is and compares nothing is turned away. -/
private theorem AuthRun.turnedAway_of_same (h : AuthRun env s₀ tr s) {x : AuthStep} (hx : x ∈ tr)
    {req : AuthRequest} (hreq : x.label.request = req)
    (hsame : (req.serve env x.before x.label.draw).1 = x.before)
    (hcheck : loginCheck env x.before x.label.draw req = none) : TurnedAway env x := by
  have hafter := h.after_eq hx
  rw [hreq, hsame] at hafter
  refine ⟨?_, ?_⟩
  · rw [← hafter]
  · rw [hreq]
    exact hcheck

/-- A request from a blocked address is turned away exactly when it is a password login or something else
stops it. -/
theorem AuthRun.turnedAway_iff (h : AuthRun env s₀ tr s) {x : AuthStep} (hx : x ∈ tr)
    (hblocked : fromBlocked x = true) :
    TurnedAway env x ↔ stopped env x.before x.label.draw x.label.request = true := by
  have hafter := h.after_eq hx
  obtain ⟨hfreshUser, _⟩ := h.fresh hx
  unfold fromBlocked at hblocked
  cases hreq : x.label.request with
  | signup req =>
    -- a signup opens a session unless the email is taken
    rw [hreq] at hafter
    cases hfound : getUserByEmail env x.before.db req.email with
    | some user =>
      have hsame : (signup env x.before x.label.draw req).1 = x.before := by
        unfold signup
        rw [hfound]
      have haway : TurnedAway env x := h.turnedAway_of_same hx hreq hsame rfl
      simp [stopped, hfound, haway]
    | none =>
      obtain ⟨row, hopens⟩ := signup_opens x.label.draw hfound
      have hopens' : OpensFor env x.before x.label.draw x.after.db row := by
        rw [← hafter]
        exact hopens
      have haway : ¬ TurnedAway env x := by
        intro haway
        exact h.sessions_ne_of_opens hx hopens' haway.sessions
      simp [stopped, hfound, haway]
  | loginWithPassword req =>
    -- the one operation that asks the blocklist
    rw [hreq] at hblocked
    obtain ⟨a, ha, haddress⟩ : ∃ a, req.client.ipAddress = some a ∧
        addressBlocked x.before.db x.label.draw.now a = true := (Option.any_eq_true _ _).mp hblocked
    obtain ⟨hsame, hcheck⟩ := loginWithPassword_of_blocked env ha haddress
    have haway : TurnedAway env x := h.turnedAway_of_same hx hreq hsame hcheck
    simp [stopped, haway]
  | verifyMfaLogin req =>
    rw [hreq] at hafter
    rw [← loginCheck_verifyMfaLogin_iff]
    constructor
    · intro haway
      rw [← hreq]
      exact haway.unchecked
    · intro hcheck
      refine ⟨?_, by rw [hreq]; exact hcheck⟩
      rw [← hafter]
      exact verifyMfaLogin_sessions hcheck
  | loginWithSocialProvider req =>
    rw [hreq] at hafter
    rcases loginWithSocialProvider_stopped env req hfreshUser with ⟨hstopped, hsame⟩ | ⟨hstopped, row, hopens⟩
    · have haway : TurnedAway env x := h.turnedAway_of_same hx hreq hsame rfl
      simp [hstopped, haway]
    · have hopens' : OpensFor env x.before x.label.draw x.after.db row := by
        rw [← hafter]
        exact hopens
      have haway : ¬ TurnedAway env x := by
        intro haway
        exact h.sessions_ne_of_opens hx hopens' haway.sessions
      simp [hstopped, haway]
  | refreshAccessToken refreshToken ipAddress =>
    -- a refresh writes a `jti` that no session has, so that it changes the sessions
    rw [hreq] at hafter
    obtain ⟨pre, post, htr⟩ := List.append_of_mem hx
    rw [refreshAccessToken_stopped ipAddress (h.split htr).2.1.jti_unused]
    have hsessions : x.after.db.loginSessions =
        (refreshAccessToken env x.before x.label.draw refreshToken ipAddress).1.db.loginSessions := by
      rw [← hafter]
      rfl
    rw [← hsessions]
    constructor
    · exact fun haway => haway.sessions
    · intro hsame
      exact ⟨hsame, by rw [hreq]; rfl⟩
  | _ =>
    rw [hreq] at hblocked
    cases hblocked

/-- In a run blocked addresses are turned away exactly when each of their requests that does not ask the
blocklist is stopped by something else. -/
theorem blocks_hold_iff (h : AuthRun env s₀ tr s) :
    (∀ x ∈ tr, fromBlocked x = true → TurnedAway env x) ↔
      ∀ x ∈ tr, fromBlocked x = true → stopped env x.before x.label.draw x.label.request = true :=
  forall₂_congr fun _ hx => forall_congr' fun hblocked => h.turnedAway_iff hx hblocked

end

/-! ### A blocked address -/

namespace BlockedAddress

def env : AuthEnv String := .sample ⟨fun _ secret => secret, fun _ _ _ => .invalid⟩

def client : ClientInfo := ⟨some "203.0.113.7", none, none⟩

/-- Twenty logins for emails that nobody has, all from one address. -/
def guesses : List AuthCall :=
  (List.range 20).map fun n =>
    ⟨.loginWithPassword ⟨"guess-" ++ toString n, "guess", false, client⟩, .numbered n⟩

/-- The last step comes from a blocked address, and `p` holds of it. -/
def blockedLast (p : AuthStep → Bool) (r : List AuthStep × AuthState) : Bool :=
  match r.1.getLast? with
  | some x => fromBlocked x && p x
  | none => false

/-- After the guesses a signup from the blocked address opens a session. -/
theorem signup_from_blocked_address :
    ∃ tr s, AuthRun env .fresh tr s ∧ ¬ ∀ x ∈ tr, fromBlocked x = true → TurnedAway env x := by
  have hreplay : (Run.replay (serveCall env) FreshDraw .fresh
      (guesses ++ [⟨.signup ⟨"eve@example.com", "Passw0rd", none, none, .OWNER, client⟩, .numbered 20⟩])).map
      (blockedLast fun x =>
        decide (x.after.db.loginSessions.rows.length ≠ x.before.db.loginSessions.rows.length)) =
        some true := by decide +kernel
  obtain ⟨tr, s, hrun, hlast⟩ := Run.exists_of_replay hreplay
  refine ⟨tr, s, hrun, ?_⟩
  intro haway
  unfold blockedLast at hlast
  split at hlast
  · rename_i x hx
    rw [Bool.and_eq_true, decide_eq_true_eq] at hlast
    exact hlast.2 (by rw [(haway x (List.mem_of_getLast? hx) hlast.1).sessions])
  · cases hlast

/-- One more login from the blocked address is turned away, as every other step of that run. -/
theorem login_from_blocked_address :
    ∃ tr s x, AuthRun env .fresh tr s ∧ x ∈ tr ∧ fromBlocked x = true ∧
      ∀ x ∈ tr, fromBlocked x = true → TurnedAway env x := by
  have hreplay : (Run.replay (serveCall env) FreshDraw .fresh
      (guesses ++ [⟨.loginWithPassword ⟨"eve@example.com", "Passw0rd", false, client⟩, .numbered 20⟩])).map
      (fun r =>
        blockedLast (fun _ => true) r && r.1.all fun x => stopped env x.before x.label.draw x.label.request) =
        some true := by decide +kernel
  obtain ⟨tr, s, hrun, hcheck⟩ := Run.exists_of_replay hreplay
  rw [Bool.and_eq_true, List.all_eq_true] at hcheck
  obtain ⟨hlast, hstopped⟩ := hcheck
  unfold blockedLast at hlast
  split at hlast
  · rename_i x hx
    rw [Bool.and_true] at hlast
    exact ⟨tr, s, x, hrun, List.mem_of_getLast? hx, hlast, (blocks_hold_iff hrun).mpr fun x hx _ =>
      hstopped x hx⟩
  · cases hlast

end BlockedAddress

end RatingLift
