import RatingLift.Auth.AccountWrites

/-!
# Inactive and locked accounts

Every way to log in should turn away a user who is inactive or locked, and no login should clear a lock that
has not expired.  The password login and the MFA verification do; the social login asks for neither, so that
the gates hold in a run exactly when its social logins happen to find users who are active and not locked
(`gates_hold_iff`).
-/

namespace RatingLift

open Library Fallible

/-- The operations that log a user in. -/
def AuthRequest.isLogin : AuthRequest → Bool
  | .loginWithPassword _ => true
  | .verifyMfaLogin _ => true
  | .loginWithSocialProvider _ => true
  | _ => false

def AuthRequest.isPasswordReset : AuthRequest → Bool
  | .resetPassword _ _ => true
  | _ => false

/-- A login creates a session for a stored user only when the user is active and not locked, and nothing but a
password reset touches a lock that has not expired. -/
structure GatesHold (x : AuthStep) : Prop where
  admits : x.label.request.isLogin = true → ∀ userId user, x.before.db.users.find? userId = some user →
    opensSession x userId → user.isActive = true ∧ user.locked x.label.draw.now = false
  keepsLock : x.label.request.isPasswordReset = false →
    ∀ userId user, x.before.db.users.find? userId = some user →
    user.locked x.label.draw.now = true →
      ∃ row, x.after.db.users.find? userId = some row ∧ row.lockedUntil = user.lockedUntil

section

variable {τ : Type} (env : AuthEnv τ)

/-- The user whom a social login finds is active and not locked. -/
def socialGated (x : AuthStep) : Bool :=
  match x.label.request with
  | .loginWithSocialProvider req =>
    (socialUser env x.before req).all fun user => user.isActive && !user.locked x.label.draw.now
  | _ => true

variable {env} {s : AuthState} {draw : AuthDraw} {db : Db}

theorem socialUser_of_profile {req : SocialLoginRequest} {profile : SocialProfile}
    (hprofile : verifyOauthToken env.lower req.reply req.provider = .ok profile) :
    socialUser env s req = getUserByEmail env s.db profile.email := by
  unfold socialUser
  rw [hprofile]

theorem socialUser_some {req : SocialLoginRequest} {user : User} (h : socialUser env s req = some user) :
    ∃ profile, verifyOauthToken env.lower req.reply req.provider = .ok profile ∧
      getUserByEmail env s.db profile.email = some user := by
  unfold socialUser at h
  cases hprofile : verifyOauthToken env.lower req.reply req.provider with
  | error e => rw [hprofile] at h; cases h
  | ok profile => rw [hprofile] at h; exact ⟨profile, rfl, h⟩

/-- A comparison is made for a user who is not locked. -/
theorem not_locked_of_check {req : AuthRequest} {user : User} {accepted : Bool}
    (huser : s.db.users.find? user.id = some user)
    (h : loginCheck env s draw req = some ⟨user.id, accepted⟩) :
    user.locked draw.now = false := by
  obtain ⟨checked, hchecked, hid, hfree, _⟩ := loginCheck_some h
  have hstored := lockChecked_some hchecked
  rw [show checked.id = user.id from hid, huser] at hstored
  rw [Option.some.inj hstored]
  exact hfree

/-- A change of the row of a locked user, other than by a password reset or a social login, keeps the lock. -/
theorem RowChange.keepsLock {user row : User} {req : AuthRequest} (h : RowChange env s draw db user req row)
    (huser : s.db.users.find? user.id = some user) (hlocked : user.locked draw.now = true)
    (hreset : req.isPasswordReset = false)
    (hsocial : ∀ social, req = .loginWithSocialProvider social → socialUser env s social ≠ some user) :
    row.lockedUntil = user.lockedUntil := by
  have hchecked : ∀ accepted, loginCheck env s draw req ≠ some ⟨user.id, accepted⟩ := by
    intro accepted hcheck
    rw [not_locked_of_check huser hcheck] at hlocked
    cases hlocked
  cases h with
  | failed hcheck => exact absurd hcheck (hchecked false)
  | challenged hcheck => exact absurd hcheck (hchecked true)
  | loggedIn hcheck _ _ => exact absurd hcheck (hchecked true)
  | social _ hprofile hfound _ _ =>
    refine absurd ?_ (hsocial _ rfl)
    rw [socialUser_of_profile hprofile]
    exact hfound
  | passwordReset _ => cases hreset
  | channelAdded hchange =>
    rcases channelChange_cases hchange with ⟨_, _, rfl⟩ | ⟨_, _, rfl⟩
    · rfl
    · rfl
  | channelVerified _ =>
    unfold markVerified
    split <;> rfl
  | _ => rfl

variable {s₀ : AuthState} {tr : List AuthStep}

/-- A social login that finds a user opens a session for that user. -/
theorem AuthRun.opensSession_of_social (h : AuthRun env s₀ tr s) {x : AuthStep} (hx : x ∈ tr)
    {req : SocialLoginRequest} {user : User} (hreq : x.label.request = .loginWithSocialProvider req)
    (hfound : socialUser env x.before req = some user) :
    x.before.db.users.find? user.id = some user ∧ opensSession x user.id := by
  obtain ⟨profile, hprofile, hemail⟩ := socialUser_some hfound
  obtain ⟨tenantId, db, haccount, _⟩ := socialAccount_of_found x.label.draw req.provider hemail
  have hopens := loginWithSocialProvider_opens hprofile haccount (h.step_users hx).2
  have hafter : (loginWithSocialProvider env x.before x.label.draw req).1 = x.after := by
    have := h.after_eq hx
    rwa [hreq] at this
  rw [hafter] at hopens
  exact ⟨getUserByEmail_some hemail, h.opensSession_of hx hopens⟩

/-- A user for whom a login opens a session has passed a comparison, or was found by a social login. -/
theorem AuthRun.loggedIn_or_social (h : AuthRun env s₀ tr s) {x : AuthStep} (hx : x ∈ tr) {user : User}
    (huser : x.before.db.users.find? user.id = some user) (hopen : opensSession x user.id) :
    (user.isActive = true ∧ user.locked x.label.draw.now = false) ∨
      ∃ req, x.label.request = .loginWithSocialProvider req ∧ socialUser env x.before req = some user := by
  obtain ⟨row, hadmitted, hrow⟩ := h.admitted hx hopen
  have hid : row.id = user.id := (Table.find?_some hrow).2
  generalize hreq : x.label.request = req at hadmitted
  cases hadmitted with
  | created hcreated =>
    -- a new user was not stored before
    have hnew : x.before.db.users.Fresh user.id := by
      rw [← hid, hcreated.id_eq]
      exact (h.step_users hx).2
    exact absurd rfl (hnew user (Table.find?_some huser).1)
  | loggedIn found hfound hcheck hactive =>
    obtain rfl : found = user := by
      rw [show found.id = user.id from hid, huser] at hfound
      exact (Option.some.inj hfound).symm
    exact Or.inl ⟨hactive, not_locked_of_check hfound hcheck⟩
  | social found tenantId hprofile hfound =>
    obtain rfl : found = user := by
      have hstored := getUserByEmail_some hfound
      rw [show found.id = user.id from hid, huser] at hstored
      exact (Option.some.inj hstored).symm
    refine Or.inr ⟨_, rfl, ?_⟩
    rw [socialUser_of_profile hprofile]
    exact hfound

/-- Which user a social login finds decides whether the step respects the gates. -/
theorem AuthRun.gates_iff (h : AuthRun env s₀ tr s) {x : AuthStep} (hx : x ∈ tr) :
    GatesHold x ↔ socialGated env x = true := by
  obtain ⟨hwrite, hfresh⟩ := h.step_users hx
  constructor
  · intro hgates
    unfold socialGated
    cases hreq : x.label.request with
    | loginWithSocialProvider req =>
      dsimp only
      cases hfound : socialUser env x.before req with
      | none => rfl
      | some user =>
        obtain ⟨huser, hopened⟩ := h.opensSession_of_social hx hreq hfound
        have hadmits := hgates.admits (by rw [hreq]; rfl) user.id user huser hopened
        simp [hadmits.1, hadmits.2]
    | _ => rfl
  · intro hsocial
    have hgated : ∀ req user, x.label.request = .loginWithSocialProvider req →
        socialUser env x.before req = some user →
        user.isActive = true ∧ user.locked x.label.draw.now = false := by
      intro req user hreq hfound
      unfold socialGated at hsocial
      rw [hreq] at hsocial
      simpa [hfound] using hsocial
    constructor
    · intro _ userId user huser hopen
      obtain rfl : user.id = userId := (Table.find?_some huser).2
      rcases h.loggedIn_or_social hx huser hopen with hfree | ⟨req, hreq, hfound⟩
      · exact hfree
      · exact hgated req user hreq hfound
    · intro hreset userId user huser hlocked
      obtain rfl : user.id = userId := (Table.find?_some huser).2
      rcases hwrite.stored hfresh huser with ⟨hrow, _⟩ | ⟨row, hrow, hchange⟩
      · exact ⟨user, hrow, rfl⟩
      · refine ⟨row, hrow, hchange.keepsLock huser hlocked hreset ?_⟩
        intro req hreq hfound
        rw [(hgated req user hreq hfound).2] at hlocked
        cases hlocked

/-- In a run the gates hold exactly when every social login finds nobody, or a user who is active and not
locked. -/
theorem gates_hold_iff (h : AuthRun env s₀ tr s) :
    (∀ x ∈ tr, GatesHold x) ↔ ∀ x ∈ tr, socialGated env x = true :=
  forall₂_congr fun _ hx => h.gates_iff hx

end

/-! ### A locked account and a social login -/

namespace SocialGate

/-- One failure locks an account, and no password is right. -/
def env : AuthEnv String :=
  { AuthEnv.sample ⟨fun _ secret => secret, fun _ _ _ => .invalid⟩ with
    settings := { accountLockoutThreshold := 1 }
    checkpw := fun _ _ => some false }

def alice : Uuid := .ofNat 201

def signupCall : AuthCall :=
  ⟨.signup ⟨"alice@example.com", "Passw0rd", none, none, .OWNER, .unknown⟩, .numbered 1⟩

def socialCall (n : Nat) : AuthCall :=
  ⟨.loginWithSocialProvider ⟨.GOOGLE, ⟨200, [("email", .str "alice@example.com")]⟩, .unknown⟩, .numbered n⟩

/-- Alice signs up and a guess at her password locks her account; then a social login comes in. -/
def lockedThenSocial : List AuthCall :=
  [signupCall, ⟨.loginWithPassword ⟨"alice@example.com", "guess", false, .unknown⟩, .numbered 2⟩,
    socialCall 3]

/-- The last step logs Alice in while she is locked. -/
def admitsLocked (r : List AuthStep × AuthState) : Bool :=
  match r.1.getLast? with
  | some x => x.label.request.isLogin && decide (opensSession x alice) &&
      (x.before.db.users.find? alice).any fun user => user.locked x.label.draw.now
  | none => false

theorem social_login_of_locked_user : ∃ tr s, AuthRun env .fresh tr s ∧ ¬ ∀ x ∈ tr, GatesHold x := by
  have hreplay :
      (Run.replay (serveCall env) FreshDraw .fresh lockedThenSocial).map admitsLocked = some true := by
    decide +kernel
  obtain ⟨tr, s, hrun, hlast⟩ := Run.exists_of_replay hreplay
  refine ⟨tr, s, hrun, ?_⟩
  intro hgates
  unfold admitsLocked at hlast
  split at hlast
  · rename_i x hx
    simp only [Bool.and_eq_true, decide_eq_true_eq, Option.any_eq_true] at hlast
    obtain ⟨⟨hlogin, hopen⟩, user, huser, hlocked⟩ := hlast
    have hadmits := (hgates x (List.mem_of_getLast? hx)).admits hlogin alice user huser hopen
    rw [hadmits.2] at hlocked
    cases hlocked
  · cases hlast

/-- Before any failure the social login passes the gates. -/
theorem social_login_of_free_user :
    ∃ tr s, AuthRun env .fresh tr s ∧ tr.length = 2 ∧ ∀ x ∈ tr, GatesHold x := by
  have hreplay : (Run.replay (serveCall env) FreshDraw .fresh [signupCall, socialCall 2]).map
      (fun r => decide (r.1.length = 2) && r.1.all (socialGated env)) = some true := by decide +kernel
  obtain ⟨tr, s, hrun, hcheck⟩ := Run.exists_of_replay hreplay
  simp only [Bool.and_eq_true, decide_eq_true_eq, List.all_eq_true] at hcheck
  exact ⟨tr, s, hrun, hcheck.1, (gates_hold_iff hrun).mpr hcheck.2⟩

end SocialGate

end RatingLift
