import RatingLift.Audit.Service
import RatingLift.Core.Jwt
import RatingLift.Library.ExpiringStore
import RatingLift.Security.LoginTracking

/-!
# The authentication service

The state the service works on and its private methods: tokens and sessions, the login limiter, failed logins
and locks, one-time passwords and single-use tokens in Redis, and the tenant of a registration.

A request reads one clock and draws its random values up front (`AuthDraw`).  A write to Redis and a delivered
message stay when the request fails; a change to the database stays only when the request commits.
-/

namespace RatingLift

open Library

/-- The keys of Redis, each with the text the service gives it. -/
inductive RedisKey where
  /-- `auth:rate-limit:{scope}:{identifier}` -/
  | rateLimit (scope identifier : String)
  /-- `auth:failed-login:{email}` -/
  | failedLogin (email : String)
  /-- `auth:mfa:otp:{purpose}:{user_id}` -/
  | otp (purpose : String) (userId : Uuid)
  /-- `auth:pwreset:{token}` -/
  | passwordReset (token : String)
  /-- `auth:email-verify:{token}` -/
  | emailVerify (token : String)
deriving DecidableEq

inductive RedisValue where
  | text (s : String)
  | count (n : Nat)
deriving DecidableEq

abbrev Redis := ExpiringStore RedisKey RedisValue

/-- A message that the senders deliver. -/
inductive Delivery where
  | email (destination otp purpose : String)
  | sms (destination otp purpose : String)
  | message (destination subject body : String)
deriving DecidableEq

structure AuthState where
  db : Db
  redis : Redis
  outbox : List Delivery

/-- The clock of a request and what it draws: generated keys, `gensalt()`, `new_jti()`, `new_refresh_token()`,
a code of `generate_otp_code`, a token of `_generate_token`, a secret of `create_secret` and the password
nobody knows of a social account. -/
structure AuthDraw where
  now : Instant
  tenantId : Uuid
  userId : Uuid
  sessionId : Uuid
  attemptId : Uuid
  auditId : Nat → Uuid
  salt : String
  jti : String
  refreshToken : String
  otp : String
  token : String
  totpSecret : String
  socialPassword : String

/-- What the service gets from outside: `str.lower`, `str.isdigit` and `datetime.isoformat`, bcrypt, SHA-256
in hexadecimal, the code check and the URI of the TOTP library, and the JWT library. -/
structure AuthEnv (τ : Type) where
  settings : Settings
  lower : String → String
  isdigit : String → Bool
  isoformat : Instant → String
  hashpw : Bytes → String → String
  checkpw : Bytes → String → Option Bool
  sha256 : String → String
  totpCheck : String → String → Instant → Bool
  provisioningUri : String → String → String
  jwt : Jwt τ

def LOGIN_PURPOSE : String := "login"

def CHANNEL_EMAIL_PURPOSE : String := "channel:email"

def CHANNEL_PHONE_PURPOSE : String := "channel:phone"

structure UserInfoResponse where
  id : String
  email : String
  fullName : Option String
  profilePictureUrl : Option String
  role : String
  tenantId : Option String
  isAdmin : Bool
  mfaEnabled : Bool
deriving DecidableEq

structure AuthResponse (τ : Type) where
  accessToken : Option τ := none
  tokenType : String := "bearer"
  refreshToken : Option String := none
  expiresIn : Option Nat := none
  user : Option UserInfoResponse := none
  role : Option String := none
  tenantId : Option String := none
  mfaRequired : Bool := false
  message : Option String := none

/-- The address, the device and the location of a client. -/
structure ClientInfo where
  ipAddress : Option String
  deviceInfo : Option String
  location : Option String

section

variable {τ : Type} (env : AuthEnv τ) (db : Db) (redis : Redis) (draw : AuthDraw)

/-! ### Passwords and hashes -/

/-- `_to_bytes`: bcrypt reads 72 bytes. -/
def toBytes (password : String) : Bytes := password.toUTF8.toList.take 72

/-- `get_password_hash` -/
def getPasswordHash (password : String) : String := env.hashpw (toBytes password) draw.salt

/-- `verify_password` -/
def verifyPassword (plain hashed : String) : Bool :=
  hashed ≠ "" && (env.checkpw (toBytes plain) hashed).getD false

/-- `totp.verify` -/
def totpVerify (now : Instant) (secret code : String) : Bool :=
  if secret = "" ∨ code = "" then false
  else
    let code := String.ofList ((Py.strip code).toList.filter (· ≠ ' '))
    env.isdigit code && code.toList.length == 6 && env.totpCheck secret code now

/-! ### Tokens and sessions -/

def accessExpiryMinutes (adminToken : Bool) : Nat :=
  if adminToken then env.settings.adminAccessTokenExpiryMinutes else env.settings.accessTokenExpiryMinutes

/-- The claims of `_build_access_token` -/
def accessClaims (now : Instant) (user : User) (jti : String) (adminToken : Bool) : Dict :=
  [("user_id", .str user.id.str), ("tenant_id", .ofOption (user.tenantId.map (·.str))),
    ("role", .str user.role.value),
    ("is_admin", .bool user.isAdmin), ("jti", .str jti), ("iat", .int now.timestamp),
    ("exp", .int (Instant.timestamp (now + minutes (accessExpiryMinutes env adminToken))))]

/-- The token of `_build_access_token` -/
def buildAccessToken (now : Instant) (user : User) (jti : String) (adminToken : Bool) : τ :=
  env.jwt.encode (accessClaims env now user jti adminToken)
    (if adminToken then env.settings.adminJwtSecret else env.settings.jwtSecret)

/-- The row of `_create_session` -/
def newSession (user : User) (client : ClientInfo) (adminToken : Bool) : LoginSession where
  id := draw.sessionId
  userId := user.id
  jti := some draw.jti
  refreshTokenHash := some (env.sha256 draw.refreshToken)
  refreshExpiresAt := some (draw.now + minutes env.settings.refreshTokenExpiryMinutes)
  ipAddress := client.ipAddress
  deviceInfo := client.deviceInfo
  location := client.location
  lastUsedAt := some draw.now
  expiresAt := draw.now + minutes (accessExpiryMinutes env adminToken)
  revoked := false

/-- `_create_session` -/
def createSession (user : User) (client : ClientInfo) (adminToken : Bool) : Db :=
  { db with loginSessions := db.loginSessions.insert (newSession env draw user client adminToken) }

/-- `_serialize_user` -/
def serializeUser (user : User) : UserInfoResponse where
  id := user.id.str
  email := user.email
  fullName := user.fullName
  profilePictureUrl := user.profilePictureUrl
  role := user.role.value
  tenantId := user.tenantId.map (·.str)
  isAdmin := user.isAdmin
  mfaEnabled := user.mfaEnabled

/-- The response to a login or a refresh: `_build_auth_response` over `_build_access_token`. -/
def grantResponse (user : User) (adminToken : Bool) : AuthResponse τ where
  accessToken := some (buildAccessToken env draw.now user draw.jti adminToken)
  refreshToken := some draw.refreshToken
  expiresIn := some (accessExpiryMinutes env adminToken * 60)
  user := some (serializeUser user)
  role := some user.role.value
  tenantId := user.tenantId.map (·.str)

/-! ### Limits, locks and failures -/

/-- `INCR`, with `EXPIRE` on the first -/
def incrWithin (key : RedisKey) (ttlSeconds : Nat) : Redis × Nat :=
  let attempts := match redis.get draw.now key with
    | some (.count n) => n + 1
    | _ => 1
  let redis := redis.modify draw.now key fun _ => .count attempts
  (if attempts = 1 then redis.expire draw.now (seconds ttlSeconds) key else redis, attempts)

/-- `_check_login_rate_limit`: the limiter and whether the login may go on. -/
def checkLoginRateLimit (scope identifier : String) : Redis × Bool :=
  let (redis, attempts) :=
    incrWithin redis draw (.rateLimit scope identifier) env.settings.loginRateLimitWindowSeconds
  (redis, attempts ≤ env.settings.loginRateLimitAttempts)

/-- `AuditLog(actor_id=user.id, ..., entity_id=...)` -/
def auditRow (n : Nat) (actorId : Uuid) (actorType : ActorType) (action entity : String) (entityId : Uuid)
    (afterValue : Json) : Db :=
  { db with auditLogs := db.auditLogs.insert {
      id := draw.auditId n
      actorId := some actorId
      actorType := actorType
      action := action
      entity := entity
      entityId := some entityId
      beforeValue := .none
      afterValue := afterValue
      ipAddress := none
      timestamp := draw.now } }

/-- `_assert_not_locked` on a user: an expired lock is cleared. -/
def assertNotLocked (user : User) : Except Exn (User × Db) :=
  match user.lockedUntil with
  | none => .ok (user, db)
  | some lockedUntil =>
    if draw.now < lockedUntil then
      .error (.http 423 "Account temporarily locked due to failed login attempts.")
    else
      let user := { user with lockedUntil := none, failedLoginAttempts := 0 }
      .ok (user, { db with users := db.users.update user })

/-- `_register_failure_and_maybe_lock` -/
def registerFailureAndMaybeLock (user : User) : Db :=
  let user := { user with failedLoginAttempts := user.failedLoginAttempts + 1 }
  if user.failedLoginAttempts ≥ env.settings.accountLockoutThreshold then
    let lockedUntil := draw.now + minutes env.settings.accountLockoutMinutes
    let user := { user with lockedUntil := some lockedUntil }
    auditRow { db with users := db.users.update user } draw 0 user.id .system "account_locked" "user" user.id
      (.dict [("until", .str (env.isoformat lockedUntil))])
  else { db with users := db.users.update user }

/-- `_track_failed_login` -/
def trackFailedLogin (user : Option User) (email : String) : Redis × Db :=
  let db := match user with
    | none => db
    | some user => registerFailureAndMaybeLock env db draw user
  ((incrWithin redis draw (.failedLogin (env.lower email)) (60 * 60 * 24)).1, db)

/-- `_reset_failed_login` -/
def resetFailedLogin (user : User) : User := { user with failedLoginAttempts := 0, lockedUntil := none }

/-- `_record_audit_login_attempt` -/
def recordAuditLoginAttempt (email : String) (success : Bool) (ipAddress : Option String) (user : Option User)
    (reason : Option String) : Db :=
  let db := recordLoginAttempt env.lower db draw.attemptId draw.now email ipAddress success reason
  let db :=
    logAction db (draw.auditId 1) draw.now (user.map (·.id.str)) (if user.isSome then "user" else "system")
    (if success then "login_success" else "login_failure") "auth" (user.map (·.id)) .none
    (.dict [("email", .str email), ("success", .bool success), ("reason", .ofOption reason)]) ipAddress
  if !success && ipAddress.any (· ≠ "") then registerFailedAttemptForIp db ipAddress draw.now else db

/-! ### One-time passwords and single-use tokens -/

/-- `generate_and_store_otp` -/
def generateAndStoreOtp (userId : Uuid) (purpose : String) : Redis :=
  redis.setex draw.now (seconds env.settings.mfaOtpTtlSeconds) (.otp purpose userId) (.text draw.otp)

/-- `verify_stored_otp` -/
def verifyStoredOtp (now : Instant) (userId : Uuid) (otp purpose : String) : Bool × Redis :=
  if redis.get now (.otp purpose userId) = some (.text otp) then (true, redis.del (.otp purpose userId))
  else (false, redis)

/-- `issue_token` for a kind of key -/
def issueToken (key : String → RedisKey) (userId : Uuid) (ttlSeconds : Nat) : Redis :=
  redis.setex draw.now (seconds ttlSeconds) (key draw.token) (.text userId.str)

/-- `consume_token` for a kind of key -/
def consumeToken (now : Instant) (key : String → RedisKey) (token : String) : Option String × Redis :=
  match redis.get now (key token) with
  | some (.text userId) => (some userId, redis.del (key token))
  | _ => (none, redis)

/-! ### Tenants and users -/

/-- `_tenant_name_from_email` -/
def tenantNameFromEmail (email : String) : String :=
  let base := Py.prefixOf (Py.replaceChar (Py.beforeFirst email '@') '_' '-') 30
  (if base = "" then "tenant" else base) ++ "-tenant"

/-- The name that `_get_or_create_tenant` looks for -/
def requestedName (tenantName : Option String) (email : String) : String :=
  let name := match tenantName.filter (· ≠ "") with
    | some name => name
    | none => tenantNameFromEmail email
  Py.replaceChar (env.lower (Py.strip name)) ' ' '-'

def tenantNamed (name : String) : Option Tenant := db.tenants.first fun t => t.name == name

/-- The `while` loop of `_get_or_create_tenant`, with at most `fuel` rounds. -/
def freeCandidate (requested : String) : Nat → Nat → String → String
  | 0, _, candidate => candidate
  | fuel + 1, suffix, candidate =>
    if (tenantNamed db candidate).isSome then
      freeCandidate requested fuel (suffix + 1) (requested ++ "-" ++ toString (suffix + 1))
    else candidate

/-- `_get_or_create_tenant` -/
def getOrCreateTenant (tenantName : Option String) (email : String) : Tenant × Db :=
  let requested := requestedName env tenantName email
  match tenantNamed db requested with
  | some tenant => (tenant, db)
  | none =>
    let tenant : Tenant :=
      ⟨draw.tenantId, freeCandidate db requested (db.tenants.rows.length + 1) 1 requested⟩
    (tenant, { db with tenants := db.tenants.insert tenant })

/-- `get_user_by_email` -/
def getUserByEmail (email : String) : Option User := db.users.first fun u => u.email == env.lower email

/-- `db.add(user); db.flush()` under the unique constraint on the email. -/
def addUser (user : User) : Except Exn Db :=
  if (db.users.first fun u => u.email == user.email).isSome then .error (.integrityError "users_email_key")
  else .ok { db with users := db.users.insert user }

/-- A user as `User(...)` with the defaults of the columns builds it. -/
def newUser (email : String) (fullName : Option String) (passwordHash : String) (role : UserRole)
    (tenantId : Option Uuid) (isAdmin : Bool) (authProvider : String) : User where
  id := draw.userId
  tenantId := tenantId
  email := email
  fullName := fullName
  profilePictureUrl := none
  passwordHash := passwordHash
  authProvider := authProvider
  oauthSubject := none
  role := role
  isActive := true
  isAdmin := isAdmin
  emailVerified := false
  lockedUntil := none
  mfaEnabled := false
  mfaEmail := none
  mfaPhone := none
  mfaEmailVerified := false
  mfaPhoneVerified := false
  totpSecret := none
  totpVerified := false
  failedLoginAttempts := 0

def adminRoles : List String :=
  ["SUPER_ADMIN", "FINANCE_ADMIN", "SUPPORT_ADMIN", "OPS_ADMIN", "COMPLIANCE_ADMIN"]

/-- `_assert_user_can_login` -/
def assertUserCanLogin (user : User) (adminOnly : Bool) : Except Exn Unit :=
  if !user.isActive then .error (.http 403 "User is inactive")
  else if adminOnly && !user.isAdmin then .error (.http 403 "Admin access required")
  else if adminOnly && !adminRoles.contains user.role.value then .error (.http 403 "Invalid admin role")
  else .ok ()

end

end RatingLift
