import RatingLift.Auth.Effects

/-!
# The passwords and codes that a login looks at

`login_with_password` compares a password and `verify_mfa_login` a one-time code, each after some checks that
may end the request first.  `loginCheck` is the comparison a request makes, if any, and whether it succeeds; a
request that makes none does not depend on the password or the code it came with
(`loginWithPassword_of_no_check`, `verifyMfaLogin_of_no_check`).
-/

namespace RatingLift

open Library

/-- A comparison of a password or a code, for the user it should belong to. -/
structure CredentialCheck where
  userId : Uuid
  accepted : Bool
deriving DecidableEq

/-- `login_with_password` and `verify_mfa_login` -/
def AuthRequest.comparesCredential : AuthRequest → Bool
  | .loginWithPassword _ => true
  | .verifyMfaLogin _ => true
  | _ => false

/-- `locked_until` is set and in the future. -/
def User.locked (user : User) (now : Instant) : Bool := user.lockedUntil.any fun t => decide (now < t)

/-- The row after a lock check that it passed: an expired lock is cleared. -/
def clearLock (user : User) : User :=
  match user.lockedUntil with
  | none => user
  | some _ => { user with lockedUntil := none, failedLoginAttempts := 0 }

section

variable {τ : Type} (env : AuthEnv τ) (s : AuthState) (draw : AuthDraw)

/-- The user whose lock `login_with_password` checks, once the blocklist and the limiter let the request
pass. -/
def passwordUser (req : LoginRequest) : Option User :=
  match ensureIpAllowed s.db req.client.ipAddress draw.now with
  | .error _ => none
  | .ok db =>
    let email := env.lower req.email
    let ip := (req.client.ipAddress.filter (· ≠ "")).getD "unknown"
    if (checkLoginRateLimit env s.redis draw (if req.adminOnly then "admin" else "user")
      (email ++ ":" ++ ip)).2 then
      getUserByEmail env db email
    else none

/-- The user on whom a login calls `_assert_not_locked`. -/
def lockChecked : AuthRequest → Option User
  | .loginWithPassword req => passwordUser env s draw req
  | .verifyMfaLogin req => getUserByEmail env s.db (env.lower req.email)
  | _ => none

/-- What stands between the lock check and the code check of `verify_mfa_login`. -/
def mayVerify (user : User) (adminOnly : Bool) : Bool :=
  (assertUserCanLogin user adminOnly).isOk && user.mfaEnabled

/-- The password or the code that a login compares. -/
def loginCheck : AuthRequest → Option CredentialCheck
  | .loginWithPassword req => (passwordUser env s draw req).bind fun user =>
      if user.locked draw.now then none else some ⟨user.id, verifyPassword env req.password user.passwordHash⟩
  | .verifyMfaLogin req => (getUserByEmail env s.db (env.lower req.email)).bind fun user =>
      if !user.locked draw.now && mayVerify user req.adminOnly then
        some ⟨user.id, (acceptCode env s.redis draw.now user req.otp).1⟩
      else none
  | _ => none

variable {env s draw}

/-! ### The lock check -/

theorem User.locked_iff {user : User} {now : Instant} :
    user.locked now = true ↔ ∃ t, user.lockedUntil = some t ∧ now < t := by
  simp [User.locked, Option.any_eq_true]

@[simp] theorem clearLock_id (user : User) : (clearLock user).id = user.id := by
  unfold clearLock; split <;> rfl

@[simp] theorem clearLock_passwordHash (user : User) : (clearLock user).passwordHash = user.passwordHash := by
  unfold clearLock; split <;> rfl

@[simp] theorem clearLock_mfaEnabled (user : User) : (clearLock user).mfaEnabled = user.mfaEnabled := by
  unfold clearLock; split <;> rfl

@[simp] theorem resetFailedLogin_clearLock (user : User) :
    resetFailedLogin (clearLock user) = resetFailedLogin user := by
  unfold clearLock; split <;> rfl

theorem assertUserCanLogin_clearLock (user : User) (adminOnly : Bool) :
    assertUserCanLogin (clearLock user) adminOnly = assertUserCanLogin user adminOnly := by
  unfold clearLock; split <;> rfl

theorem acceptCode_clearLock (redis : Redis) (now : Instant) (user : User) (code : String) :
    acceptCode env redis now (clearLock user) code = acceptCode env redis now user code := by
  unfold clearLock; split <;> rfl

theorem assertNotLocked_of_locked (db : Db) {user : User} (h : user.locked draw.now = true) :
    ∃ e, assertNotLocked db draw user = .error e := by
  obtain ⟨t, ht, hnow⟩ := User.locked_iff.mp h
  unfold assertNotLocked
  rw [ht]
  exact ⟨_, if_pos hnow⟩

/-- A stored user who is not locked passes the lock check, which clears a lock that has expired. -/
theorem assertNotLocked_of_not_locked {db : Db} {user : User} (huser : db.users.find? user.id = some user)
    (h : user.locked draw.now = false) :
    assertNotLocked db draw user =
      .ok (clearLock user, { db with users := db.users.update (clearLock user) }) := by
  unfold assertNotLocked clearLock
  cases hlock : user.lockedUntil with
  | none =>
    have hsame : db.users.update user = db.users := Table.update_of_find? huser
    simp only [hsame]
  | some t =>
    have hnow : ¬ draw.now < t := by
      intro hlt
      rw [User.locked_iff.mpr ⟨t, hlock, hlt⟩] at h
      cases h
    exact if_neg hnow

/-- A comparison is made for a stored user who is not locked, after the lock check. -/
theorem loginCheck_some {req : AuthRequest} {check : CredentialCheck}
    (h : loginCheck env s draw req = some check) :
    ∃ user, lockChecked env s draw req = some user ∧ user.id = check.userId ∧ user.locked draw.now = false ∧
      req.comparesCredential = true := by
  cases req with
  | loginWithPassword req =>
    obtain ⟨user, huser, hcheck⟩ := Option.bind_eq_some_iff.mp h
    split at hcheck
    · cases hcheck
    · rename_i hfree
      obtain rfl := Option.some.inj hcheck
      exact ⟨user, huser, rfl, by simpa using hfree, rfl⟩
  | verifyMfaLogin req =>
    obtain ⟨user, huser, hcheck⟩ := Option.bind_eq_some_iff.mp h
    split at hcheck
    · rename_i hmay
      obtain rfl := Option.some.inj hcheck
      simp only [Bool.and_eq_true, Bool.not_eq_true'] at hmay
      exact ⟨user, huser, rfl, hmay.1, rfl⟩
    · cases hcheck
  | _ => cases h

/-- The user whose lock is checked is a stored one. -/
theorem lockChecked_some {req : AuthRequest} {user : User} (h : lockChecked env s draw req = some user) :
    s.db.users.find? user.id = some user := by
  cases req with
  | loginWithPassword req =>
    change passwordUser env s draw req = some user at h
    unfold passwordUser at h
    cases hip : ensureIpAllowed s.db req.client.ipAddress draw.now with
    | error e => rw [hip] at h; cases h
    | ok db =>
      rw [hip] at h
      dsimp only at h
      generalize (checkLoginRateLimit env s.redis draw _ _).2 = allowed at h
      cases allowed with
      | false => cases h
      | true =>
        rw [← (ensureIpAllowed_ok hip).2.1]
        exact getUserByEmail_some h
  | verifyMfaLogin req => exact getUserByEmail_some h
  | _ => cases h

/-! ### Requests that compare nothing -/

/-- A login that compares no password does not depend on the password. -/
theorem loginWithPassword_of_no_check {req : LoginRequest}
    (h : loginCheck env s draw (.loginWithPassword req) = none) (password : String) :
    loginWithPassword env s draw { req with password := password } = loginWithPassword env s draw req := by
  unfold loginWithPassword
  simp only [loginCheck, passwordUser] at h
  dsimp only
  cases hip : ensureIpAllowed s.db req.client.ipAddress draw.now with
  | error e => rfl
  | ok db =>
    simp only [hip] at h
    dsimp only
    generalize checkLoginRateLimit env s.redis draw _ _ = limited at h ⊢
    obtain ⟨redis, allowed⟩ := limited
    cases allowed with
    | false => rfl
    | true =>
      simp only [↓reduceIte] at h
      simp only [Bool.not_true, Bool.false_eq_true, ↓reduceIte]
      cases hfound : getUserByEmail env db (env.lower req.email) with
      | none => rfl
      | some user =>
        have hlocked : user.locked draw.now = true := by
          rw [hfound] at h
          simpa using h
        obtain ⟨e, he⟩ := assertNotLocked_of_locked db hlocked
        simp only [he]

/-- A verification that compares no code does not depend on the code. -/
theorem verifyMfaLogin_of_no_check {req : MfaVerifyRequest}
    (h : loginCheck env s draw (.verifyMfaLogin req) = none) (otp : String) :
    verifyMfaLogin env s draw { req with otp := otp } = verifyMfaLogin env s draw req := by
  unfold verifyMfaLogin
  simp only [loginCheck] at h
  dsimp only
  cases hfound : getUserByEmail env s.db (env.lower req.email) with
  | none => rfl
  | some user =>
    rw [hfound] at h
    dsimp only
    cases hlocked : user.locked draw.now with
    | true =>
      obtain ⟨e, he⟩ := assertNotLocked_of_locked s.db hlocked
      simp only [he]
    | false =>
      simp only [assertNotLocked_of_not_locked (getUserByEmail_some hfound) hlocked,
        assertUserCanLogin_clearLock, clearLock_mfaEnabled]
      have hmay : mayVerify user req.adminOnly = false := by simpa [hlocked] using h
      unfold mayVerify at hmay
      cases hcan : assertUserCanLogin user req.adminOnly with
      | error e => rfl
      | ok _ =>
        have hmfa : user.mfaEnabled = false := by simpa [hcan, Except.isOk, Except.toBool] using hmay
        simp [hmfa]

end

end RatingLift
