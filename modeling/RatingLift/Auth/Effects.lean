import RatingLift.Auth.Account
import RatingLift.Library.Fallible
import RatingLift.Library.Run

/-!
# What a request can do

The effect of every operation of the authentication service on what its security rests on: the login sessions,
the login OTPs in Redis, and the tenants of the users.

* (`TenancyKept`) every request only adds tenants, keeps the users, and never changes the tenant of a user who
  has one;
* (`Quiet`) a request that opens, rotates and revokes no session and touches no login OTP;
* (`AuthRun`) the runs of the service, whose requests draw fresh keys;
* (`AuthEffect`, `serve_effect`) every request is quiet or does one of four things: it issues an MFA
  challenge, opens a session, rotates one, or revokes some.
-/

namespace RatingLift

open Library Fallible

/-! ### Tenants and users -/

structure TenancyKept (db db' : Db) : Prop where
  tenants : ∃ new, db'.tenants.rows = db.tenants.rows ++ new
  users : ∀ id u, db.users.find? id = some u →
    ∃ u', db'.users.find? id = some u' ∧ ∀ t, u.tenantId = some t → u'.tenantId = some t

namespace TenancyKept

variable {db db' db'' : Db}

theorem refl (db : Db) : TenancyKept db db :=
  ⟨⟨[], (List.append_nil _).symm⟩, fun _ u h => ⟨u, h, fun _ ht => ht⟩⟩

theorem trans (h : TenancyKept db db') (h' : TenancyKept db' db'') : TenancyKept db db'' := by
  obtain ⟨new, hnew⟩ := h.tenants
  obtain ⟨new', hnew'⟩ := h'.tenants
  refine ⟨⟨new ++ new', by rw [hnew', hnew, List.append_assoc]⟩, ?_⟩
  intro id u hu
  obtain ⟨u', hu', ht'⟩ := h.users id u hu
  obtain ⟨u'', hu'', ht''⟩ := h'.users id u' hu'
  exact ⟨u'', hu'', fun t ht => ht'' t (ht' t ht)⟩

/-- Writes to the other tables. -/
theorem of_eq (ht : db'.tenants = db.tenants) (hu : db'.users = db.users) : TenancyKept db db' := by
  refine ⟨⟨[], by rw [ht, List.append_nil]⟩, fun id u h => ⟨u, ?_, fun _ ht => ht⟩⟩
  rw [hu]; exact h

theorem insert_user (db : Db) (row : User) : TenancyKept db { db with users := db.users.insert row } := by
  refine ⟨⟨[], (List.append_nil _).symm⟩, fun id u h => ⟨u, ?_, fun _ ht => ht⟩⟩
  have hu := Table.find?_some h
  by_cases hfresh : db.users.Fresh row.id
  · have hne : Keyed.key row ≠ id := fun heq => hfresh u hu.1 (hu.2.trans heq.symm)
    show (db.users.insert row).find? id = some u
    rw [Table.find?_insert hfresh, if_neg hne, h]
  · show (db.users.insert row).find? id = some u
    have hsame : db.users.insert row = db.users := by
      unfold Table.insert
      rw [dif_pos]
      rw [Table.Fresh] at hfresh
      push Not at hfresh
      obtain ⟨r, hr, hkey⟩ := hfresh
      exact List.mem_map.mpr ⟨r, hr, hkey⟩
    rw [hsame, h]

/-- Writing the row of a user whose tenant, if any, stays. -/
theorem update_user {row u : User} (hrow : db.users.find? row.id = some u)
    (ht : ∀ t, u.tenantId = some t → row.tenantId = some t) :
    TenancyKept db { db with users := db.users.update row } := by
  refine ⟨⟨[], (List.append_nil _).symm⟩, ?_⟩
  intro id v hv
  show ∃ u', (db.users.update row).find? id = some u' ∧ _
  rw [Table.find?_update]
  by_cases hid : row.id = id
  · subst hid
    rw [hrow] at hv
    obtain rfl := Option.some.inj hv
    exact ⟨row, by rw [hrow]; simp [Keyed.key], ht⟩
  · exact ⟨v, by rw [hv]; simp [Keyed.key, hid], fun _ ht => ht⟩

end TenancyKept

/-! ### The private methods -/

section

variable {τ : Type} (env : AuthEnv τ) (db : Db) (draw : AuthDraw)

private theorem registerFailedAttemptForIp_frame (ipAddress : Option String) (now : Instant) :
    ∃ blocks, registerFailedAttemptForIp db ipAddress now = { db with ipBlocklist := blocks } := by
  unfold registerFailedAttemptForIp blockIp
  cases ipAddress.filter (· ≠ "") with
  | none => exact ⟨_, rfl⟩
  | some ip =>
    by_cases hfew : recentFailuresForIp db ip now < defaultFailureThreshold
    · exact ⟨db.ipBlocklist, by simp [hfew]⟩
    · simp only [hfew, ↓reduceIte]
      cases db.ipBlocklist.find? ip <;> exact ⟨_, rfl⟩

private theorem recordAuditLoginAttempt_frame (email : String) (success : Bool) (ipAddress : Option String)
    (user : Option User) (reason : Option String) :
    ∃ attempts logs blocks, recordAuditLoginAttempt env db draw email success ipAddress user reason =
      { db with loginAttempts := attempts, auditLogs := logs, ipBlocklist := blocks } := by
  unfold recordAuditLoginAttempt
  extract_lets db₁ db₂
  by_cases hfail : (!success && ipAddress.any (· ≠ "")) = true
  · obtain ⟨blocks, hblocks⟩ := registerFailedAttemptForIp_frame db₂ ipAddress draw.now
    exact ⟨db₂.loginAttempts, db₂.auditLogs, blocks, by rw [if_pos hfail, hblocks]; rfl⟩
  · exact ⟨db₂.loginAttempts, db₂.auditLogs, db₂.ipBlocklist, by rw [if_neg hfail]; rfl⟩

@[simp] theorem recordAuditLoginAttempt_loginSessions (email : String) (success : Bool)
    (ipAddress : Option String) (user : Option User) (reason : Option String) :
    (recordAuditLoginAttempt env db draw email success ipAddress user reason).loginSessions =
      db.loginSessions := by
  obtain ⟨_, _, _, h⟩ := recordAuditLoginAttempt_frame env db draw email success ipAddress user reason
  rw [h]

@[simp] theorem recordAuditLoginAttempt_users (email : String) (success : Bool) (ipAddress : Option String)
    (user : Option User) (reason : Option String) :
    (recordAuditLoginAttempt env db draw email success ipAddress user reason).users = db.users := by
  obtain ⟨_, _, _, h⟩ := recordAuditLoginAttempt_frame env db draw email success ipAddress user reason
  rw [h]

@[simp] theorem recordAuditLoginAttempt_tenants (email : String) (success : Bool) (ipAddress : Option String)
    (user : Option User) (reason : Option String) :
    (recordAuditLoginAttempt env db draw email success ipAddress user reason).tenants = db.tenants := by
  obtain ⟨_, _, _, h⟩ := recordAuditLoginAttempt_frame env db draw email success ipAddress user reason
  rw [h]

variable {env db draw}

theorem ensureIpAllowed_ok {db' : Db} {ipAddress : Option String} {now : Instant}
    (h : ensureIpAllowed db ipAddress now = .ok db') :
    db'.loginSessions = db.loginSessions ∧ db'.users = db.users ∧ db'.tenants = db.tenants := by
  have hframe : ∃ blocks, (isIpBlocked db ipAddress now).2 = { db with ipBlocklist := blocks } := by
    unfold isIpBlocked
    cases (ipAddress.filter (· ≠ "")).bind db.ipBlocklist.find? with
    | none => exact ⟨_, rfl⟩
    | some row =>
      cases hrow : row.expiresAt with
      | none => exact ⟨db.ipBlocklist, by simp [hrow]⟩
      | some t =>
        by_cases ht : t ≤ now
        · exact ⟨db.ipBlocklist.delete row.ipAddress, by simp [hrow, ht]⟩
        · exact ⟨db.ipBlocklist, by simp [hrow, ht]⟩
  obtain ⟨blocks, hblocks⟩ := hframe
  unfold ensureIpAllowed at h
  generalize isIpBlocked db ipAddress now = checked at h hblocks
  obtain ⟨blocked, db₁⟩ := checked
  cases blocked with
  | true => cases h
  | false =>
    obtain rfl := Except.ok.inj h
    subst hblocks
    exact ⟨rfl, rfl, rfl⟩

theorem getUserByEmail_some {email : String} {user : User} (h : getUserByEmail env db email = some user) :
    db.users.find? user.id = some user :=
  Table.mem_iff_find?.mp (Table.first_some h).1

/-- The user that passed the lock check is the stored one, up to an expired lock that was cleared. -/
theorem assertNotLocked_ok {db' : Db} {user user' : User} (huser : db.users.find? user.id = some user)
    (h : assertNotLocked db draw user = .ok (user', db')) :
    (∃ lockedUntil attempts,
      user' = { user with lockedUntil := lockedUntil, failedLoginAttempts := attempts }) ∧
      TenancyKept db db' ∧ db'.loginSessions = db.loginSessions ∧ db'.users.find? user.id = some user' := by
  unfold assertNotLocked at h
  cases hlock : user.lockedUntil with
  | none =>
    simp only [hlock, Except.ok.injEq, Prod.mk.injEq] at h
    obtain ⟨rfl, rfl⟩ := h
    exact ⟨⟨user.lockedUntil, user.failedLoginAttempts, rfl⟩, .refl _, rfl, huser⟩
  | some t =>
    simp only [hlock] at h
    split at h
    · cases h
    · simp only [Except.ok.injEq, Prod.mk.injEq] at h
      obtain ⟨rfl, rfl⟩ := h
      refine ⟨⟨none, 0, rfl⟩, .update_user huser fun _ ht => ht, rfl, ?_⟩
      exact Table.find?_update_self (Table.find?_some huser).1 rfl

/-- A failed login changes the failure count and the lock of the user. -/
theorem trackFailedLogin_db {redis : Redis} {user : Option User} {email : String}
    (huser : ∀ u, user = some u → db.users.find? u.id = some u) :
    TenancyKept db (trackFailedLogin env db redis draw user email).2 ∧
      (trackFailedLogin env db redis draw user email).2.loginSessions = db.loginSessions := by
  cases user with
  | none => exact ⟨.refl _, rfl⟩
  | some u =>
    have hu := huser u rfl
    show TenancyKept db (registerFailureAndMaybeLock env db draw u) ∧
      (registerFailureAndMaybeLock env db draw u).loginSessions = db.loginSessions
    unfold registerFailureAndMaybeLock
    extract_lets user₁ lockedUntil user₂
    split
    · have hkept : TenancyKept db { db with users := db.users.update user₂ } := .update_user hu fun _ ht => ht
      exact ⟨hkept.trans (.of_eq rfl rfl), rfl⟩
    · exact ⟨.update_user hu fun _ ht => ht, rfl⟩

theorem incrWithin_of_ne {redis : Redis} {key k : RedisKey} {ttlSeconds : Nat} (h : k ≠ key) :
    (incrWithin redis draw key ttlSeconds).1 k = redis k := by
  unfold incrWithin
  extract_lets attempts redis'
  have hmodify : redis' k = redis k := ExpiringStore.modify_of_ne h
  split
  · exact (ExpiringStore.expire_of_ne h).trans hmodify
  · exact hmodify

theorem getOrCreateTenant_kept {tenantName : Option String} {email : String} :
    TenancyKept db (getOrCreateTenant env db draw tenantName email).2 ∧
      (getOrCreateTenant env db draw tenantName email).2.loginSessions = db.loginSessions ∧
      (getOrCreateTenant env db draw tenantName email).2.users = db.users := by
  unfold getOrCreateTenant
  extract_lets requested tenant
  cases tenantNamed db requested with
  | some t => exact ⟨.refl _, rfl, rfl⟩
  | none =>
    refine ⟨⟨?_, fun id u hu => ⟨u, hu, fun _ ht => ht⟩⟩, rfl, rfl⟩
    show ∃ new, (db.tenants.insert tenant).rows = db.tenants.rows ++ new
    unfold Table.insert
    split
    · exact ⟨[], (List.append_nil _).symm⟩
    · exact ⟨[tenant], rfl⟩

theorem addUser_ok {db' : Db} {user : User} (h : addUser db user = .ok db') :
    db' = { db with users := db.users.insert user } := by
  unfold addUser at h
  split at h
  · cases h
  · exact (Except.ok.inj h).symm

end

/-! ### Effects -/

/-- The login OTPs of two states of Redis are the same. -/
def SameLoginOtps (redis redis' : Redis) : Prop :=
  ∀ userId, redis' (.otp LOGIN_PURPOSE userId) = redis (.otp LOGIN_PURPOSE userId)

structure Quiet (s s' : AuthState) : Prop where
  tenancy : TenancyKept s.db s'.db
  sessions : s'.db.loginSessions = s.db.loginSessions
  otps : SameLoginOtps s.redis s'.redis

namespace Quiet

variable {s s' s'' : AuthState}

theorem refl (s : AuthState) : Quiet s s := ⟨.refl _, rfl, fun _ => rfl⟩

theorem trans (h : Quiet s s') (h' : Quiet s' s'') : Quiet s s'' :=
  ⟨h.tenancy.trans h'.tenancy, h'.sessions.trans h.sessions, fun u => (h'.otps u).trans (h.otps u)⟩

/-- A write to Redis and a delivery. -/
theorem redis {redis : Redis} {outbox : List Delivery} (h : SameLoginOtps s.redis redis) :
    Quiet s { s with redis := redis, outbox := outbox } := ⟨.refl _, rfl, h⟩

/-- The commit of a request of a user whose tenant stays. -/
theorem commitUser {draw : AuthDraw} {row u : User} {action : String} {afterValue : Json}
    (hrow : s.db.users.find? row.id = some u) (ht : row.tenantId = u.tenantId) :
    Quiet s (commitUser s draw row action afterValue) := by
  have hkept : TenancyKept s.db { s.db with users := s.db.users.update row } :=
    .update_user hrow fun t h => ht.trans h
  exact ⟨hkept.trans (.of_eq rfl rfl), rfl, fun _ => rfl⟩

end Quiet

/-- The token that a request hands out. -/
def issued {τ : Type} : Except Exn (AuthReply τ) → Option τ
  | .ok (.auth response) => response.accessToken
  | _ => none

section

variable {τ : Type} (env : AuthEnv τ) (s : AuthState) (draw : AuthDraw)

/-- The user whom a TOTP code lets in through `verify_mfa_login`. -/
def totpLogin (req : MfaVerifyRequest) : Option User :=
  (getUserByEmail env s.db (env.lower req.email)).bind fun user =>
    match assertNotLocked s.db draw user with
    | .error _ => none
    | .ok (user, _) =>
      if (assertUserCanLogin user req.adminOnly).isOk && user.mfaEnabled &&
        totpAccepts env draw.now user req.otp
      then some user else none

/-- The user whom a social login finds under the email of the profile. -/
def socialUser (req : SocialLoginRequest) : Option User :=
  match verifyOauthToken env.lower req.reply req.provider with
  | .error _ => none
  | .ok profile => getUserByEmail env s.db profile.email

/-- How a request may open a session of a user, and what it leaves of the login OTPs. -/
inductive Opening (user : User) (redis' : Redis) : AuthRequest → Prop
  | signup {req : SignupRequest} : user.mfaEnabled = false → SameLoginOtps s.redis redis' →
      Opening user redis' (.signup req)
  | password {req : LoginRequest} : user.mfaEnabled = false → SameLoginOtps s.redis redis' →
      Opening user redis' (.loginWithPassword req)
  | totp {req : MfaVerifyRequest} (found : User) : totpLogin env s draw req = some found →
      found.id = user.id →
      SameLoginOtps s.redis redis' → Opening user redis' (.verifyMfaLogin req)
  | otp {req : MfaVerifyRequest} : s.redis.get draw.now (.otp LOGIN_PURPOSE user.id) = some (.text req.otp) →
      redis' = s.redis.del (.otp LOGIN_PURPOSE user.id) → Opening user redis' (.verifyMfaLogin req)
  | social {req : SocialLoginRequest} :
      (user.mfaEnabled = true → ∃ found, socialUser env s req = some found ∧ found.id = user.id ∧
        found.mfaEnabled = true) →
      SameLoginOtps s.redis redis' → Opening user redis' (.loginWithSocialProvider req)

/-- What a request does; `user` is the stored user after it. -/
inductive AuthEffect (s' : AuthState) : AuthRequest → Except Exn (AuthReply τ) → Prop
  | quiet {req : AuthRequest} {r : Except Exn (AuthReply τ)} : Quiet s s' → issued r = none →
      AuthEffect s' req r
  | challenged {req : LoginRequest} {response : AuthResponse τ} (user : User) :
      getUserByEmail env s.db (env.lower req.email) = some user →
      verifyPassword env req.password user.passwordHash = true → user.mfaEnabled = true →
      response.mfaRequired = true → response.accessToken = none →
      TenancyKept s.db s'.db → s'.db.loginSessions = s.db.loginSessions →
      (∀ userId, userId ≠ user.id →
        s'.redis (.otp LOGIN_PURPOSE userId) = s.redis (.otp LOGIN_PURPOSE userId)) →
      AuthEffect s' (.loginWithPassword req) (.ok (.auth response))
  | opened {req : AuthRequest} (user : User) (client : ClientInfo) (adminToken : Bool) :
      Opening env s draw user s'.redis req → s'.db.users.find? user.id = some user → TenancyKept s.db s'.db →
      s'.db.loginSessions = s.db.loginSessions.insert (newSession env draw user client adminToken) →
      AuthEffect s' req (.ok (.auth (grantResponse env draw user adminToken)))
  | rotated {refreshToken : String} {ipAddress : Option String} (session : LoginSession) (user : User) :
      refreshable env s.db draw.now refreshToken = .ok (session, user) → s'.db.users = s.db.users →
      TenancyKept s.db s'.db → SameLoginOtps s.redis s'.redis →
      s'.db.loginSessions = s.db.loginSessions.update (rotate env draw session user ipAddress) →
      AuthEffect s' (.refreshAccessToken refreshToken ipAddress)
        (.ok (.auth (grantResponse env draw user user.isAdmin)))
  | revoked {req : AuthRequest} {r : Except Exn (AuthReply τ)} (chosen : LoginSession → Bool) :
      TenancyKept s.db s'.db → SameLoginOtps s.redis s'.redis → issued r = none →
      (∀ sid, s'.db.loginSessions.find? sid =
        (s.db.loginSessions.find? sid).map fun row => { row with revoked := row.revoked || chosen row }) →
      AuthEffect s' req r

/-- The effect of a request with its reply. -/
abbrev HasEffect (req : AuthRequest) (out : AuthState × Except Exn (AuthReply τ)) : Prop :=
  AuthEffect env s draw out.1 req out.2

variable {env s draw}

/-- A request that fails or returns no token, and whose writes are quiet. -/
theorem AuthEffect.of_quiet {α : Type} {f : α → AuthReply τ} {out : AuthState × Except Exn α}
    {req : AuthRequest} (h : Quiet s out.1) (hf : ∀ a, issued (τ := τ) (.ok (f a)) = none) :
    HasEffect env s draw req (out.map id (Except.map f)) := by
  refine .quiet h ?_
  obtain ⟨s', r⟩ := out
  cases r with
  | error e => rfl
  | ok a => exact hf a

/-! ### The operations that open no session -/

theorem addMfaChannel_quiet {user : User} {channel destination : String}
    (huser : s.db.users.find? user.id = some user) :
    Quiet s (addMfaChannel env s draw user channel destination).1 := by
  unfold addMfaChannel
  cases hchange : channelChange env user channel destination with
  | error e => exact .refl s
  | ok change =>
    obtain ⟨row, purpose, deliver⟩ := change
    have hrow : row.id = user.id ∧ row.tenantId = user.tenantId ∧ purpose ≠ LOGIN_PURPOSE := by
      rcases channelChange_cases hchange with ⟨_, rfl, rfl⟩ | ⟨_, rfl, rfl⟩
      · exact ⟨rfl, rfl, by decide⟩
      · exact ⟨rfl, rfl, by decide⟩
    obtain ⟨hid, htenant, hpurpose⟩ := hrow
    have hredis : SameLoginOtps s.redis (generateAndStoreOtp env s.redis draw row.id purpose) := fun userId =>
      ExpiringStore.setex_of_ne fun heq => hpurpose (RedisKey.otp.inj heq).1.symm
    exact (Quiet.redis hredis).trans (.commitUser (by rw [hid]; exact huser) htenant)

theorem verifyStoredOtp_same {redis : Redis} {now : Instant} {userId : Uuid} {otp purpose : String}
    (hpurpose : purpose ≠ LOGIN_PURPOSE) :
    SameLoginOtps redis (verifyStoredOtp redis now userId otp purpose).2 := by
  intro u
  unfold verifyStoredOtp
  split
  · exact ExpiringStore.del_of_ne fun heq => hpurpose (RedisKey.otp.inj heq).1.symm
  · rfl

theorem verifyMfaChannel_quiet {user : User} {channel otp : String}
    (huser : s.db.users.find? user.id = some user) :
    Quiet s (verifyMfaChannel s draw user channel otp).1 := by
  unfold verifyMfaChannel
  cases hpurpose : channelPurpose user channel with
  | error e => exact .refl s
  | ok purpose =>
    have hne : purpose ≠ LOGIN_PURPOSE := by
      unfold channelPurpose at hpurpose
      repeat' split at hpurpose
      all_goals cases hpurpose
      all_goals decide
    have hsame : SameLoginOtps s.redis (verifyStoredOtp s.redis draw.now user.id otp purpose).2 :=
      verifyStoredOtp_same hne
    have hrow :
        (markVerified user channel).id = user.id ∧ (markVerified user channel).tenantId = user.tenantId := by
      unfold markVerified
      split <;> exact ⟨rfl, rfl⟩
    dsimp only
    generalize verifyStoredOtp s.redis draw.now user.id otp purpose = checked at hsame
    obtain ⟨accepted, redis⟩ := checked
    have hredis : Quiet s { s with redis := redis } := .redis hsame
    cases accepted with
    | false => exact hredis
    | true => exact hredis.trans (.commitUser (by rw [hrow.1]; exact huser) hrow.2)

theorem enableMfa_quiet {user : User} (huser : s.db.users.find? user.id = some user) :
    Quiet s (enableMfa s draw user).1 := by
  unfold enableMfa
  split
  · exact .refl s
  · exact .commitUser huser rfl

theorem disableMfa_quiet {user : User} (huser : s.db.users.find? user.id = some user) :
    Quiet s (disableMfa s draw user).1 := .commitUser huser rfl

theorem sendEmailVerification_quiet {user : User} : Quiet s (sendEmailVerification env s draw user) :=
  .redis fun _ => ExpiringStore.setex_of_ne RedisKey.noConfusion

theorem requestEmailVerification_quiet {user : User} :
    Quiet s (requestEmailVerification env s draw user).1 := by
  show Quiet s (if user.emailVerified then s else sendEmailVerification env s draw user)
  split
  · exact .refl s
  · exact sendEmailVerification_quiet

theorem consumeToken_same {redis : Redis} {now : Instant} {key : String → RedisKey} {token : String}
    (hkey : ∀ userId, RedisKey.otp LOGIN_PURPOSE userId ≠ key token) :
    SameLoginOtps redis (consumeToken redis now key token).2 := by
  intro u
  unfold consumeToken
  split
  · exact ExpiringStore.del_of_ne (hkey u)
  · rfl

theorem tokenUser_ok {db : Db} {userId : Option String} {user : User} (h : tokenUser db userId = .ok user) :
    db.users.find? user.id = some user := by
  unfold tokenUser at h
  split at h
  · cases h
  split at h
  · cases h
  split at h
  · cases h
  · rename_i found hfind
    obtain rfl := Except.ok.inj h
    rw [show found.id = _ from (Table.find?_some hfind).2, hfind]

theorem verifyEmailToken_quiet {token : String} : Quiet s (verifyEmailToken s draw token).1 := by
  unfold verifyEmailToken
  have hsame : SameLoginOtps s.redis (consumeToken s.redis draw.now .emailVerify token).2 :=
    consumeToken_same fun _ => RedisKey.noConfusion
  generalize consumeToken s.redis draw.now .emailVerify token = consumed at hsame
  obtain ⟨userId, redis⟩ := consumed
  have hredis : Quiet s { s with redis := redis } := .redis hsame
  dsimp only
  cases huser : tokenUser s.db userId with
  | error e => exact hredis
  | ok user =>
    have hfind : s.db.users.find? user.id = some user := tokenUser_ok huser
    exact hredis.trans (.commitUser hfind rfl)

theorem requestPasswordReset_quiet {email : String} : Quiet s (requestPasswordReset env s draw email).1 := by
  unfold requestPasswordReset
  cases getUserByEmail env s.db (env.lower email) with
  | none => exact .refl s
  | some user =>
    have hredis : SameLoginOtps s.redis
        (issueToken s.redis draw .passwordReset user.id (env.settings.passwordResetTtlMinutes * 60)) :=
      fun _ => ExpiringStore.setex_of_ne RedisKey.noConfusion
    exact ⟨.of_eq rfl rfl, rfl, hredis⟩

theorem setupTotp_quiet {user : User} (huser : s.db.users.find? user.id = some user) :
    Quiet s (setupTotp env s draw user).1 := .commitUser huser rfl

theorem verifyTotp_quiet {user : User} {code : String} (huser : s.db.users.find? user.id = some user) :
    Quiet s (verifyTotp env s draw user code).1 := by
  unfold verifyTotp
  split
  · exact .refl s
  split
  · exact .refl s
  · exact .commitUser huser rfl

theorem createAdmin_effect {actor : User} {email password : String} {fullName : Option String}
    {role : UserRole} {req : AuthRequest} :
    HasEffect env s draw req
      ((createAdmin env s draw actor email password fullName role).map id (Except.map .auth)) := by
  unfold createAdmin
  split
  · exact .quiet (.refl s) rfl
  extract_lets email'
  cases getUserByEmail env s.db email' with
  | some _ => exact .quiet (.refl s) rfl
  | none =>
    dsimp only
    cases hadd : addUser s.db (newUser draw email' fullName (getPasswordHash env draw password) role none true
        "password") with
    | error e => exact .quiet (.refl s) rfl
    | ok db =>
      have hkept : TenancyKept s.db db := by rw [addUser_ok hadd]; exact .insert_user _ _
      have hsessions : db.loginSessions = s.db.loginSessions := by rw [addUser_ok hadd]
      exact .quiet ⟨hkept.trans (.of_eq rfl rfl), hsessions, fun _ => rfl⟩ rfl

/-! ### The operations that revoke or rotate -/

theorem revokeAll_find (db : Db) (userId sid : Uuid) :
    (revokeAll db userId).loginSessions.find? sid =
      (db.loginSessions.find? sid).map fun row =>
        { row with revoked := row.revoked || row.userId == userId } := by
  unfold revokeAll
  dsimp only
  rw [Table.find?_updateWhere]
  cases db.loginSessions.find? sid with
  | none => rfl
  | some row => cases hrev : row.revoked <;> cases hu : row.userId == userId <;> cases row <;> simp_all

theorem resetPassword_effect {token newPassword : String} {req : AuthRequest} :
    HasEffect env s draw req
      ((resetPassword env s draw token newPassword).map id (Except.map fun _ => .nothing)) := by
  unfold resetPassword
  have hsame : SameLoginOtps s.redis (consumeToken s.redis draw.now .passwordReset token).2 :=
    consumeToken_same fun _ => RedisKey.noConfusion
  generalize consumeToken s.redis draw.now .passwordReset token = consumed at hsame
  obtain ⟨userId, redis⟩ := consumed
  dsimp only
  cases huser : tokenUser s.db userId with
  | error e => exact .quiet (.redis hsame) rfl
  | ok user =>
    have hfind : s.db.users.find? user.id = some user := tokenUser_ok huser
    refine .revoked (fun row => row.userId == user.id) ?_ hsame rfl fun sid => ?_
    · have hquiet : Quiet { s with db := revokeAll s.db user.id, redis := redis }
          (commitUser { s with db := revokeAll s.db user.id, redis := redis } draw { user with
            passwordHash := getPasswordHash env draw newPassword
            failedLoginAttempts := 0
            lockedUntil := none } "password_reset" .none) := .commitUser hfind rfl
      have hkept : TenancyKept s.db (revokeAll s.db user.id) := .of_eq rfl rfl
      exact hkept.trans hquiet.tenancy
    · exact revokeAll_find s.db user.id sid

theorem commitRevoked_effect {user : User} {session : LoginSession} {action : String} {req : AuthRequest}
    {r : Except Exn (AuthReply τ)} (hsession : s.db.loginSessions.find? session.id = some session)
    (hr : issued r = none) : AuthEffect env s draw (commitRevoked s draw user session action) req r := by
  refine .revoked (fun row => row.id == session.id) (.of_eq rfl rfl) (fun _ => rfl) hr ?_
  intro sid
  show (s.db.loginSessions.update { session with revoked := true }).find? sid = _
  rw [Table.find?_update]
  by_cases hid : session.id = sid
  · subst hid
    rw [hsession]
    simp [Keyed.key]
  · cases hfind : s.db.loginSessions.find? sid with
    | none => simp
    | some row =>
      have hrow : row.id ≠ session.id := by
        rw [show row.id = sid from (Table.find?_some hfind).2]
        exact Ne.symm hid
      have hfalse : (row.id == session.id) = false := beq_eq_false_iff_ne.mpr hrow
      simp [Keyed.key, hid, hfalse]

theorem logoutSession_some {user : User} {jti refreshToken : Option String} {session : LoginSession}
    (h : logoutSession env s.db user jti refreshToken = some session) :
    s.db.loginSessions.find? session.id = some session := by
  unfold logoutSession at h
  rcases Option.or_eq_some_iff.mp h with h | ⟨_, h⟩
  · obtain ⟨_, _, h⟩ := Option.bind_eq_some_iff.mp h
    exact Table.mem_iff_find?.mp (Table.first_some h).1
  · obtain ⟨_, _, h⟩ := Option.bind_eq_some_iff.mp h
    exact Table.mem_iff_find?.mp (Table.first_some h).1

theorem logout_effect {user : User} {jti refreshToken : Option String} {req : AuthRequest} :
    HasEffect env s draw req
      ((logout env s draw user jti refreshToken).map id (Except.map fun _ => .nothing)) := by
  unfold logout
  cases hsession : logoutSession env s.db user jti refreshToken with
  | none => exact .quiet (.refl s) rfl
  | some session => exact commitRevoked_effect (logoutSession_some hsession) rfl

theorem revokeSession_effect {user : User} {sessionId : String} {req : AuthRequest} :
    HasEffect env s draw req
      ((revokeSession s draw user sessionId).map id (Except.map fun _ => .nothing)) := by
  unfold revokeSession
  cases Uuid.parse sessionId with
  | none => exact .quiet (.refl s) rfl
  | some sid =>
    dsimp only
    cases hsession : s.db.loginSessions.first fun r => r.id == sid && r.userId == user.id with
    | none => exact .quiet (.refl s) rfl
    | some session => exact commitRevoked_effect (Table.mem_iff_find?.mp (Table.first_some hsession).1) rfl

theorem refreshAccessToken_effect {refreshToken : String} {ipAddress : Option String} :
    HasEffect env s draw (.refreshAccessToken refreshToken ipAddress)
      ((refreshAccessToken env s draw refreshToken ipAddress).map id (Except.map .auth)) := by
  unfold refreshAccessToken
  cases hsession : refreshable env s.db draw.now refreshToken with
  | error e => exact .quiet (.refl s) rfl
  | ok found => exact .rotated found.1 found.2 hsession rfl (.of_eq rfl rfl) (fun _ => rfl) rfl

/-! ### The operations that open a session -/

theorem openSession_effect {s₁ : AuthState} {db : Db} {user : User} {client : ClientInfo} {adminToken : Bool}
    {email : String} {req : AuthRequest} (hkept : TenancyKept s.db db)
    (hsessions : db.loginSessions = s.db.loginSessions) (huser : db.users.find? user.id = some user)
    (how : Opening env s draw (resetFailedLogin user) s₁.redis req) :
    HasEffect env s draw req
      (((openSession env s₁ draw db user client adminToken email).map id .ok).map id (Except.map .auth)) := by
  refine .opened (resetFailedLogin user) client adminToken how ?_ ?_ ?_
  · show (recordAuditLoginAttempt env _ _ _ _ _ _ _).users.find? user.id = _
    rw [recordAuditLoginAttempt_users]
    exact Table.find?_update_self (Table.find?_some huser).1 rfl
  · have hreset : TenancyKept db { db with users := db.users.update (resetFailedLogin user) } :=
      .update_user huser fun _ ht => ht
    refine (hkept.trans hreset).trans (.of_eq ?_ ?_)
    · exact recordAuditLoginAttempt_tenants ..
    · exact recordAuditLoginAttempt_users ..
  · show (recordAuditLoginAttempt env _ _ _ _ _ _ _).loginSessions = _
    rw [recordAuditLoginAttempt_loginSessions]
    show db.loginSessions.insert _ = _
    rw [hsessions]

theorem rejectLogin_quiet {s₁ : AuthState} {db : Db} {user : Option User} {trackedEmail email reason : String}
    {client : ClientInfo} (hredis : SameLoginOtps s.redis s₁.redis) (hkept : TenancyKept s.db db)
    (hsessions : db.loginSessions = s.db.loginSessions)
    (huser : ∀ u, user = some u → db.users.find? u.id = some u) :
    Quiet s (rejectLogin env s₁ draw db user trackedEmail email client reason) := by
  obtain ⟨htrack, htrackSessions⟩ :
      TenancyKept db (trackFailedLogin env db s₁.redis draw user trackedEmail).2 ∧
      (trackFailedLogin env db s₁.redis draw user trackedEmail).2.loginSessions = db.loginSessions :=
    trackFailedLogin_db huser
  refine ⟨(hkept.trans htrack).trans (.of_eq ?_ ?_), ?_, fun u => ?_⟩
  · exact recordAuditLoginAttempt_tenants ..
  · exact recordAuditLoginAttempt_users ..
  · refine (recordAuditLoginAttempt_loginSessions ..).trans (htrackSessions.trans hsessions)
  · exact (incrWithin_of_ne RedisKey.noConfusion).trans (hredis u)

theorem issueChallenge_effect {s₁ : AuthState} {db : Db} {user : User} {email : String} {req : LoginRequest}
    (hredis : SameLoginOtps s.redis s₁.redis) (hkept : TenancyKept s.db db)
    (hsessions : db.loginSessions = s.db.loginSessions) {stored : User}
    (hstored : getUserByEmail env s.db (env.lower req.email) = some stored) (hid : stored.id = user.id)
    (hpassword : verifyPassword env req.password stored.passwordHash = true)
    (hmfa : stored.mfaEnabled = true) :
    HasEffect env s draw (.loginWithPassword req)
      (((issueChallenge env s₁ draw db user email req.client).map id .ok).map id (Except.map .auth)) := by
  refine .challenged stored hstored hpassword hmfa rfl rfl ?_ ?_ fun userId hne => ?_
  · refine hkept.trans (.of_eq ?_ ?_)
    · exact recordAuditLoginAttempt_tenants ..
    · exact recordAuditLoginAttempt_users ..
  · exact (recordAuditLoginAttempt_loginSessions ..).trans hsessions
  · show (issueChallenge env s₁ draw db user email req.client).1.redis _ = _
    unfold issueChallenge
    dsimp only
    split
    · exact hredis userId
    · refine Eq.trans (ExpiringStore.setex_of_ne fun heq => hne ?_) (hredis userId)
      rw [hid, (RedisKey.otp.inj heq).2]

theorem loginWithPassword_effect {req : LoginRequest} :
    HasEffect env s draw (.loginWithPassword req)
      ((loginWithPassword env s draw req).map id (Except.map .auth)) := by
  unfold loginWithPassword
  cases hip : ensureIpAllowed s.db req.client.ipAddress draw.now with
  | error e => exact .quiet (.refl s) rfl
  | ok db =>
    obtain ⟨hsessions, husers, htenants⟩ := ensureIpAllowed_ok hip
    have hkept : TenancyKept s.db db := .of_eq htenants husers
    have hrate : SameLoginOtps s.redis
        (checkLoginRateLimit env s.redis draw (if req.adminOnly then "admin" else "user")
        (env.lower req.email ++ ":" ++ (req.client.ipAddress.filter (· ≠ "")).getD "unknown")).1 :=
      fun _ => incrWithin_of_ne RedisKey.noConfusion
    dsimp only
    generalize checkLoginRateLimit env s.redis draw _ _ = limited at hrate ⊢
    obtain ⟨redis, allowed⟩ := limited
    cases allowed with
    | false => exact .quiet (.redis hrate) rfl
    | true =>
      simp only [Bool.not_true, Bool.false_eq_true, ↓reduceIte]
      cases hfound : getUserByEmail env db (env.lower req.email) with
      | none =>
        have hquiet : Quiet s (rejectLogin env { s with redis := redis } draw db none (env.lower req.email)
            (env.lower req.email) req.client "invalid_credentials") :=
          rejectLogin_quiet hrate hkept hsessions (by simp)
        exact .quiet hquiet rfl
      | some stored =>
        have hstored : getUserByEmail env s.db (env.lower req.email) = some stored := by
          rw [← hfound]; unfold getUserByEmail; rw [husers]
        dsimp only
        cases hlock : assertNotLocked db draw stored with
        | error e => exact .quiet (.redis hrate) rfl
        | ok unlocked =>
          obtain ⟨user, db₁⟩ := unlocked
          obtain ⟨⟨lockedUntil, attempts, hsame⟩, hkept₁, hsessions₁, huser⟩ :=
            assertNotLocked_ok (getUserByEmail_some hfound) hlock
          have hid : user.id = stored.id := by rw [hsame]
          rw [← hid] at huser
          have hkept' := hkept.trans hkept₁
          have hsessions' := hsessions₁.trans hsessions
          by_cases hpassword : verifyPassword env req.password user.passwordHash = true
          · simp only [hpassword, Bool.not_true, Bool.false_eq_true, ↓reduceIte]
            cases assertUserCanLogin user req.adminOnly with
            | error e => exact .quiet (.redis hrate) rfl
            | ok _ =>
              by_cases hmfa : user.mfaEnabled = true
              · simp only [hmfa, ↓reduceIte]
                refine issueChallenge_effect hrate hkept' hsessions' hstored hid.symm ?_ ?_
                · rw [hsame] at hpassword; exact hpassword
                · rw [hsame] at hmfa; exact hmfa
              · have hmfa : user.mfaEnabled = false := by simpa using hmfa
                simp only [hmfa, Bool.false_eq_true, ↓reduceIte]
                exact openSession_effect hkept' hsessions' huser (.password hmfa hrate)
          · simp only [hpassword, Bool.not_false, ↓reduceIte]
            have hquiet :
                Quiet s (rejectLogin env { s with redis := redis } draw db₁ (some user) (env.lower req.email)
                (env.lower req.email) req.client "invalid_credentials") :=
              rejectLogin_quiet hrate hkept' hsessions' fun u hu => by
                obtain rfl := Option.some.inj hu
                exact huser
            exact .quiet hquiet rfl

theorem verifyMfaLogin_effect {req : MfaVerifyRequest} :
    HasEffect env s draw (.verifyMfaLogin req)
      ((verifyMfaLogin env s draw req).map id (Except.map .auth)) := by
  unfold verifyMfaLogin
  cases hfound : getUserByEmail env s.db (env.lower req.email) with
  | none => exact .quiet (.refl s) rfl
  | some stored =>
    dsimp only
    cases hlock : assertNotLocked s.db draw stored with
    | error e => exact .quiet (.refl s) rfl
    | ok unlocked =>
      obtain ⟨user, db⟩ := unlocked
      obtain ⟨⟨lockedUntil, attempts, hsame⟩, hkept, hsessions, huser⟩ :=
        assertNotLocked_ok (getUserByEmail_some hfound) hlock
      have hid : user.id = stored.id := by rw [hsame]
      rw [← hid] at huser
      dsimp only
      cases hcan : assertUserCanLogin user req.adminOnly with
      | error e => exact .quiet (.refl s) rfl
      | ok _ =>
        by_cases hmfa : user.mfaEnabled = true
        · simp only [hmfa, Bool.not_true, Bool.false_eq_true, ↓reduceIte]
          unfold acceptCode
          by_cases htotp : totpAccepts env draw.now user req.otp = true
          · have hlogin : totpLogin env s draw req = some user := by
              unfold totpLogin
              rw [hfound, Option.bind_some, hlock]
              simp [hcan, hmfa, htotp, Except.isOk, Except.toBool]
            simp only [htotp, ↓reduceIte]
            exact openSession_effect hkept hsessions huser (.totp user hlogin rfl fun _ => rfl)
          · simp only [htotp, Bool.false_eq_true, ↓reduceIte]
            unfold verifyStoredOtp
            by_cases hotp : s.redis.get draw.now (.otp LOGIN_PURPOSE user.id) = some (.text req.otp)
            · simp only [hotp, ↓reduceIte]
              exact openSession_effect hkept hsessions huser (.otp hotp rfl)
            · simp only [hotp, ↓reduceIte, Bool.false_eq_true]
              have hquiet :
                  Quiet s (rejectLogin env s draw db (some user) req.email (env.lower req.email) req.client
                  "invalid_otp") :=
                rejectLogin_quiet (fun _ => rfl) hkept hsessions fun u hu => by
                  obtain rfl := Option.some.inj hu
                  exact huser
              exact .quiet hquiet rfl
        · simp only [hmfa, Bool.not_false, ↓reduceIte]
          exact .quiet (.refl s) rfl

/-- A new user is stored under the drawn key. -/
theorem addUser_find {db db' : Db} {user : User} (hfresh : db.users.Fresh user.id)
    (h : addUser db user = .ok db') :
    db'.users.find? user.id = some user := by
  rw [addUser_ok h]
  show (db.users.insert user).find? user.id = some user
  rw [Table.find?_insert hfresh, if_pos (show Keyed.key user = user.id from rfl)]

theorem socialAccount_ok {db db' : Db} {provider : SocialProvider} {profile : SocialProfile} {user : User}
    (hfresh : db.users.Fresh draw.userId) (h : socialAccount env draw db provider profile = .ok (user, db')) :
    TenancyKept db db' ∧ db'.loginSessions = db.loginSessions ∧ db'.users.find? user.id = some user ∧
      (user.mfaEnabled = true → ∃ found, getUserByEmail env db profile.email = some found ∧
        found.id = user.id ∧
        found.mfaEnabled = true) := by
  obtain ⟨hkept, hsessions, husers⟩ :
      TenancyKept db (getOrCreateTenant env db draw none profile.email).2 ∧
        (getOrCreateTenant env db draw none profile.email).2.loginSessions = db.loginSessions ∧
        (getOrCreateTenant env db draw none profile.email).2.users = db.users := getOrCreateTenant_kept
  unfold socialAccount at h
  generalize getOrCreateTenant env db draw none profile.email = created at hkept hsessions husers h
  obtain ⟨tenant, db₁⟩ := created
  cases hfound : getUserByEmail env db profile.email with
  | none =>
    rw [hfound] at h
    obtain ⟨db₂, hadd, h⟩ := bind_eq_ok.mp h
    obtain ⟨rfl, rfl⟩ := Prod.mk.inj (pure_eq_ok.mp h)
    have hfresh₁ : db₁.users.Fresh draw.userId := by rw [show db₁.users = db.users from husers]; exact hfresh
    refine ⟨hkept.trans ?_, ?_, addUser_find hfresh₁ hadd, fun hmfa => by cases hmfa⟩
    · rw [addUser_ok hadd]; exact .insert_user _ _
    · rw [addUser_ok hadd]; exact hsessions
  | some stored =>
    have hstored := getUserByEmail_some hfound
    rw [hfound] at h
    -- with the tenant the user has, or with the default one
    cases htenant : stored.tenantId with
    | some tenantId =>
      simp only [htenant] at h
      obtain ⟨rfl, rfl⟩ := Prod.mk.inj (Except.ok.inj h)
      refine ⟨.update_user hstored fun t ht => ?_, rfl, Table.find?_update_of_find? hstored,
        fun hmfa => ⟨stored, rfl, rfl, hmfa⟩⟩
      exact htenant.symm.trans ht
    | none =>
      simp only [htenant] at h
      obtain ⟨rfl, rfl⟩ := Prod.mk.inj (Except.ok.inj h)
      have hstored₁ : db₁.users.find? stored.id = some stored := by
        rw [show db₁.users = db.users from husers]; exact hstored
      refine ⟨hkept.trans (.update_user hstored₁ fun t ht => ?_), hsessions,
        Table.find?_update_of_find? hstored₁,
        fun hmfa => ⟨stored, rfl, rfl, hmfa⟩⟩
      rw [htenant] at ht; cases ht

theorem loginWithSocialProvider_effect {req : SocialLoginRequest} (hfresh : s.db.users.Fresh draw.userId) :
    HasEffect env s draw (.loginWithSocialProvider req)
      ((loginWithSocialProvider env s draw req).map id (Except.map .auth)) := by
  unfold loginWithSocialProvider
  cases hprofile : verifyOauthToken env.lower req.reply req.provider with
  | error e => exact .quiet (.refl s) rfl
  | ok profile =>
    dsimp only
    cases haccount : socialAccount env draw s.db req.provider profile with
    | error e => exact .quiet (.refl s) rfl
    | ok account =>
      obtain ⟨hkept, hsessions, huser, hmfa⟩ := socialAccount_ok hfresh haccount
      have hfound : socialUser env s req = getUserByEmail env s.db profile.email := by
        unfold socialUser
        rw [hprofile]
      exact openSession_effect hkept hsessions huser (.social (by rw [hfound]; exact hmfa) fun _ => rfl)

theorem signup_effect {req : SignupRequest} (hfresh : s.db.users.Fresh draw.userId) :
    HasEffect env s draw (.signup req) ((signup env s draw req).map id (Except.map .auth)) := by
  unfold signup
  cases getUserByEmail env s.db req.email with
  | some _ => exact .quiet (.refl s) rfl
  | none =>
    obtain ⟨hkept, hsessions, husers⟩ :
        TenancyKept s.db (getOrCreateTenant env s.db draw req.tenantName req.email).2 ∧
          (getOrCreateTenant env s.db draw req.tenantName req.email).2.loginSessions = s.db.loginSessions ∧
          (getOrCreateTenant env s.db draw req.tenantName req.email).2.users = s.db.users :=
      getOrCreateTenant_kept
    generalize getOrCreateTenant env s.db draw req.tenantName req.email = created at hkept hsessions husers ⊢
    obtain ⟨tenant, db₁⟩ := created
    dsimp only
    generalize huser : newUser draw (env.lower req.email) req.fullName
      (getPasswordHash env draw req.password) req.role
      (some tenant.id) false "password" = user
    have hid : user.id = draw.userId := by rw [← huser]; rfl
    have hmfa : user.mfaEnabled = false := by rw [← huser]; rfl
    cases hadd : addUser db₁ user with
    | error e => exact .quiet (.refl s) rfl
    | ok db₂ =>
      have hfresh₁ : db₁.users.Fresh user.id := by
        rw [hid, show db₁.users = s.db.users from husers]; exact hfresh
      have hquiet : SameLoginOtps s.redis
          (issueToken s.redis draw .emailVerify user.id (env.settings.emailVerificationTtlMinutes * 60)) :=
        fun _ => ExpiringStore.setex_of_ne RedisKey.noConfusion
      refine .opened user req.client false (.signup hmfa hquiet) ?_ ?_ ?_
      · show (recordAuditLoginAttempt env _ _ _ _ _ _ _).users.find? user.id = _
        rw [recordAuditLoginAttempt_users]
        have hstored : db₂.users.find? user.id = some user := addUser_find hfresh₁ hadd
        exact hstored
      · have hinsert : TenancyKept db₁ db₂ := by rw [addUser_ok hadd]; exact .insert_user _ _
        refine (hkept.trans hinsert).trans (.of_eq ?_ ?_)
        · exact recordAuditLoginAttempt_tenants ..
        · exact recordAuditLoginAttempt_users ..
      · show (recordAuditLoginAttempt env _ _ _ _ _ _ _).loginSessions = _
        rw [recordAuditLoginAttempt_loginSessions]
        show db₂.loginSessions.insert _ = _
        rw [addUser_ok hadd, show db₁.loginSessions = s.db.loginSessions from hsessions]

/-! ### Every request -/

theorem withUser_effect {userId : Uuid} {run : User → AuthState × Except Exn (AuthReply τ)}
    {req : AuthRequest}
    (h : ∀ user, s.db.users.find? user.id = some user → HasEffect env s draw req (run user)) :
    HasEffect env s draw req (withUser s userId run) := by
  unfold withUser
  cases hfind : s.db.users.find? userId with
  | none => exact .quiet (.refl s) rfl
  | some user =>
    have hid : user.id = userId := (Table.find?_some hfind).2
    exact h user (by rw [hid]; exact hfind)

/-- Every request of the service has one of the effects. -/
theorem serve_effect (env : AuthEnv τ) (s : AuthState) (draw : AuthDraw) (req : AuthRequest)
    (hfresh : s.db.users.Fresh draw.userId) : HasEffect env s draw req (req.serve env s draw) := by
  cases req with
  | signup req => exact signup_effect hfresh
  | loginWithPassword req => exact loginWithPassword_effect
  | verifyMfaLogin req => exact verifyMfaLogin_effect
  | loginWithSocialProvider req => exact loginWithSocialProvider_effect hfresh
  | addMfaChannel userId channel destination =>
    exact withUser_effect fun _ hu => .of_quiet (addMfaChannel_quiet hu) fun _ => rfl
  | verifyMfaChannel userId channel otp =>
    exact withUser_effect fun _ hu => .of_quiet (verifyMfaChannel_quiet hu) fun _ => rfl
  | enableMfa userId => exact withUser_effect fun _ hu => .of_quiet (enableMfa_quiet hu) fun _ => rfl
  | disableMfa userId => exact withUser_effect fun _ hu => .of_quiet (disableMfa_quiet hu) fun _ => rfl
  | requestEmailVerification userId =>
    exact withUser_effect fun _ _ => .of_quiet requestEmailVerification_quiet fun _ => rfl
  | verifyEmailToken token => exact .of_quiet verifyEmailToken_quiet fun _ => rfl
  | requestPasswordReset email => exact .of_quiet requestPasswordReset_quiet fun _ => rfl
  | resetPassword token newPassword => exact resetPassword_effect
  | refreshAccessToken refreshToken ipAddress => exact refreshAccessToken_effect
  | logout userId jti refreshToken => exact withUser_effect fun _ _ => logout_effect
  | revokeSession userId sessionId => exact withUser_effect fun _ _ => revokeSession_effect
  | setupTotp userId => exact withUser_effect fun _ hu => .of_quiet (setupTotp_quiet hu) fun _ => rfl
  | verifyTotp userId code => exact withUser_effect fun _ hu => .of_quiet (verifyTotp_quiet hu) fun _ => rfl
  | createAdmin actorId email password fullName role =>
    refine withUser_effect ?_
    intro actor _
    exact createAdmin_effect

end

/-! ### Runs -/

/-- A request with what it draws. -/
structure AuthCall where
  request : AuthRequest
  draw : AuthDraw

abbrev AuthStep := Step AuthState AuthCall

/-- The keys that a request draws are not in use, its `jti` is a text that no session has and no earlier
request drew. -/
structure FreshDraw (tr : List AuthStep) (s : AuthState) (call : AuthCall) : Prop where
  tenant : s.db.tenants.Fresh call.draw.tenantId
  user : s.db.users.Fresh call.draw.userId
  session : s.db.loginSessions.Fresh call.draw.sessionId
  jti_ne : call.draw.jti ≠ ""
  jti_unused : ∀ row ∈ s.db.loginSessions.rows, row.jti ≠ some call.draw.jti
  jti_new : ∀ step ∈ tr, step.label.draw.jti ≠ call.draw.jti

instance (tr : List AuthStep) (s : AuthState) (call : AuthCall) : Decidable (FreshDraw tr s call) :=
  decidable_of_iff (s.db.tenants.Fresh call.draw.tenantId ∧ s.db.users.Fresh call.draw.userId ∧
    s.db.loginSessions.Fresh call.draw.sessionId ∧ call.draw.jti ≠ "" ∧
    (∀ row ∈ s.db.loginSessions.rows, row.jti ≠ some call.draw.jti) ∧
    ∀ step ∈ tr, step.label.draw.jti ≠ call.draw.jti)
    ⟨fun ⟨h₁, h₂, h₃, h₄, h₅, h₆⟩ => ⟨h₁, h₂, h₃, h₄, h₅, h₆⟩, fun ⟨h₁, h₂, h₃, h₄, h₅, h₆⟩ =>
      ⟨h₁, h₂, h₃, h₄, h₅, h₆⟩⟩

section

variable {τ : Type} (env : AuthEnv τ)

/-- The state after a call. -/
def serveCall (s : AuthState) (call : AuthCall) : Option AuthState :=
  some (call.request.serve env s call.draw).1

/-- What a step returned. -/
def replyOf (step : AuthStep) : Except Exn (AuthReply τ) :=
  (step.label.request.serve env step.before step.label.draw).2

/-- Runs of the service. -/
def AuthRun (s₀ : AuthState) : List AuthStep → AuthState → Prop := Run (serveCall env) FreshDraw s₀

variable {env} {s₀ s : AuthState} {tr : List AuthStep}

/-- A step of a run with what it has. -/
theorem AuthRun.step (h : AuthRun env s₀ tr s) {pre post : List AuthStep} {a : AuthStep}
    (htr : tr = pre ++ a :: post) :
    FreshDraw pre a.before a.label ∧
    AuthEffect env a.before a.label.draw a.after a.label.request (replyOf env a) := by
  obtain ⟨_, hfresh, hnext⟩ := h.split htr
  have hafter : (a.label.request.serve env a.before a.label.draw).1 = a.after := Option.some.inj hnext
  refine ⟨hfresh, ?_⟩
  have := serve_effect env a.before a.label.draw a.label.request hfresh.user
  rw [HasEffect, hafter] at this
  exact this

theorem AuthEffect.tenancy {draw : AuthDraw} {s' : AuthState} {req : AuthRequest}
    {r : Except Exn (AuthReply τ)} (h : AuthEffect env s draw s' req r) : TenancyKept s.db s'.db := by
  cases h with
  | quiet hquiet _ => exact hquiet.tenancy
  | challenged _ _ _ _ _ _ hkept _ _ => exact hkept
  | opened _ _ _ _ _ hkept _ => exact hkept
  | rotated _ _ _ _ hkept _ _ => exact hkept
  | revoked _ hkept _ _ _ => exact hkept

/-- What a step leaves of tenants and users stays. -/
theorem AuthRun.tenancy_since (h : AuthRun env s₀ tr s) {a : AuthStep} (ha : a ∈ tr) :
    TenancyKept a.after.db s.db := by
  obtain ⟨pre, post, htr⟩ := List.append_of_mem ha
  refine Run.since (J := fun _ t => TenancyKept a.after.db t.db) h htr (.refl _) ?_
  intro pre' b post' hb hkept
  have htr' : tr = (pre ++ a :: pre') ++ b :: post' := by rw [hb]; simp
  exact hkept.trans (h.step htr').2.tenancy

end

/-! ### Example runs -/

/-- Nothing is stored yet. -/
def AuthState.fresh : AuthState := ⟨.empty, .empty, []⟩

def ClientInfo.unknown : ClientInfo := ⟨none, none, none⟩

/-- What the `n`-th request draws: different requests draw different keys. -/
def AuthDraw.numbered (n : Nat) : AuthDraw where
  now := 0
  tenantId := .ofNat (100 + n)
  userId := .ofNat (200 + n)
  sessionId := .ofNat (300 + n)
  attemptId := .ofNat (400 + n)
  auditId := fun k => .ofNat (1000 * n + k)
  salt := "$2b$"
  jti := "jti-" ++ toString n
  refreshToken := "refresh-" ++ toString n
  otp := "10000" ++ toString n
  token := "token-" ++ toString n
  totpSecret := "JBSWY3DPEHPK3PXP"
  socialPassword := "x"

/-- The default settings, with a hash function that keeps texts apart and a password check that every password
passes. -/
def AuthEnv.sample {τ : Type} (jwt : Jwt τ) : AuthEnv τ where
  settings := {}
  lower := Py.asciiLower
  isdigit := fun s => s.toList.all Char.isDigit
  isoformat := fun _ => ""
  hashpw := fun _ salt => salt
  checkpw := fun _ _ => some true
  sha256 := id
  totpCheck := fun _ code _ => code == "654321"
  provisioningUri := fun _ _ => ""
  jwt := jwt

end RatingLift
