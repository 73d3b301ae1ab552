import RatingLift.Auth.Login

/-!
# Sessions, second factors and passwords of an account

The other operations of the authentication service, and the service as a whole: `AuthRequest.serve` runs any
of its operations.  The operations of a logged-in user take the row that `get_current_user` loaded.
-/

namespace RatingLift

open Library

section

variable {τ : Type} (env : AuthEnv τ) (s : AuthState) (draw : AuthDraw)

/-- The commit of a request of a user: the row and an audit row about it. -/
def commitUser (user : User) (action : String) (afterValue : Json) : AuthState :=
  let db := { s.db with users := s.db.users.update user }
  { s with db := auditRow db draw 0 user.id .user action "user" user.id afterValue }

/-! ### MFA channels -/

/-- What `add_mfa_channel` does to the row and to the outside: the new row, the purpose of the OTP and its
delivery. -/
def channelChange (user : User) (channel destination : String) :
    Except Exn (User × String × (String → Delivery)) :=
  let destination := Py.strip destination
  if destination = "" then .error (.http 400 "Destination required")
  else if channel = "email" then
    .ok ({ user with mfaEmail := some (env.lower destination), mfaEmailVerified := false },
      CHANNEL_EMAIL_PURPOSE,
      fun otp => .email destination otp CHANNEL_EMAIL_PURPOSE)
  else if channel = "phone" then
    .ok ({ user with mfaPhone := some destination, mfaPhoneVerified := false }, CHANNEL_PHONE_PURPOSE,
      fun otp => .sms destination otp CHANNEL_PHONE_PURPOSE)
  else .error (.http 400 "Unsupported channel")

variable {env} in
/-- What adding a channel makes of the row, and the purpose of the code it sends. -/
theorem channelChange_cases {user row : User} {channel destination purpose : String}
    {deliver : String → Delivery}
    (h : channelChange env user channel destination = .ok (row, purpose, deliver)) :
    (channel = "email" ∧ purpose = CHANNEL_EMAIL_PURPOSE ∧
        row = { user with mfaEmail := some (env.lower (Py.strip destination)), mfaEmailVerified := false }) ∨
      (channel = "phone" ∧ purpose = CHANNEL_PHONE_PURPOSE ∧
        row = { user with mfaPhone := some (Py.strip destination), mfaPhoneVerified := false }) := by
  unfold channelChange at h
  extract_lets dest at h
  split at h
  · cases h
  split at h
  · rename_i hchannel
    cases h
    exact Or.inl ⟨hchannel, rfl, rfl⟩
  split at h
  · rename_i hchannel
    cases h
    exact Or.inr ⟨hchannel, rfl, rfl⟩
  · cases h

/-- `add_mfa_channel` -/
def addMfaChannel (user : User) (channel destination : String) : AuthState × Except Exn String :=
  match channelChange env user channel destination with
  | .error e => (s, .error e)
  | .ok (user, purpose, deliver) =>
    let s := { s with
      redis := generateAndStoreOtp env s.redis draw user.id purpose
      outbox := s.outbox ++ [deliver draw.otp] }
    (commitUser s draw user "mfa_channel_added"
      (.dict [("channel", .str channel), ("destination", .str (Py.strip destination))]), .ok purpose)

/-- The purpose under which `verify_mfa_channel` looks for the OTP, when the channel is configured. -/
def channelPurpose (user : User) (channel : String) : Except Exn String :=
  if channel = "email" then
    if user.mfaEmail.any (· ≠ "") then .ok CHANNEL_EMAIL_PURPOSE
    else .error (.http 400 "No email channel configured")
  else if channel = "phone" then
    if user.mfaPhone.any (· ≠ "") then .ok CHANNEL_PHONE_PURPOSE
    else .error (.http 400 "No phone channel configured")
  else .error (.http 400 "Unsupported channel")

/-- The row after a channel was verified. -/
def markVerified (user : User) (channel : String) : User :=
  if channel = "email" then { user with mfaEmailVerified := true } else { user with mfaPhoneVerified := true }

@[simp] theorem markVerified_id (user : User) (channel : String) :
    (markVerified user channel).id = user.id := by
  unfold markVerified
  split <;> rfl

/-- `verify_mfa_channel` -/
def verifyMfaChannel (user : User) (channel otp : String) : AuthState × Except Exn Unit :=
  match channelPurpose user channel with
  | .error e => (s, .error e)
  | .ok purpose =>
    let (accepted, redis) := verifyStoredOtp s.redis draw.now user.id otp purpose
    let s := { s with redis := redis }
    if !accepted then (s, .error (.http 401 "Invalid or expired OTP"))
    else
      (commitUser s draw (markVerified user channel) "mfa_channel_verified"
        (.dict [("channel", .str channel)]), .ok ())

/-- `enable_mfa` -/
def enableMfa (user : User) : AuthState × Except Exn Unit :=
  if !(user.mfaEmailVerified || user.mfaPhoneVerified) then
    (s, .error (.http 400 "Verify at least one channel (email or phone) before enabling MFA."))
  else (commitUser s draw { user with mfaEnabled := true } "mfa_enabled" .none, .ok ())

/-- `disable_mfa` -/
def disableMfa (user : User) : AuthState × Except Exn Unit :=
  (commitUser s draw { user with mfaEnabled := false } "mfa_disabled" .none, .ok ())

/-! ### Email verification and password reset -/

/-- `request_email_verification` -/
def requestEmailVerification (user : User) : AuthState × Except Exn Unit :=
  (if user.emailVerified then s else sendEmailVerification env s draw user, .ok ())

/-- The user that a consumed token names. -/
def tokenUser (db : Db) (userId : Option String) : Except Exn User :=
  match userId.filter (· ≠ "") with
  | none => .error (.http 400 "Invalid or expired token")
  | some text =>
    match Uuid.parse text with
    | none => .error .valueError
    | some id =>
      match db.users.find? id with
      | none => .error (.http 404 "User not found")
      | some user => .ok user

/-- `verify_email_token` -/
def verifyEmailToken (token : String) : AuthState × Except Exn Unit :=
  let (userId, redis) := consumeToken s.redis draw.now .emailVerify token
  let s := { s with redis := redis }
  match tokenUser s.db userId with
  | .error e => (s, .error e)
  | .ok user => (commitUser s draw { user with emailVerified := true } "email_verified" .none, .ok ())

/-- `request_password_reset` -/
def requestPasswordReset (email : String) : AuthState × Except Exn Unit :=
  match getUserByEmail env s.db (env.lower email) with
  | none => (s, .ok ())
  | some user =>
    let body := "We received a request to reset your RatingLift password.\n\nReset link (valid for " ++
      toString env.settings.passwordResetTtlMinutes ++ " minutes):\n" ++
      publicLink env draw "/api/v1/auth/password/reset" ++
      "\n\nIf you didn't request this, you can safely ignore this email."
    let s := { s with
      redis := issueToken s.redis draw .passwordReset user.id (env.settings.passwordResetTtlMinutes * 60)
      outbox := s.outbox ++ [Delivery.message user.email "Reset your password" body] }
    let db := auditRow s.db draw 0 user.id .user "password_reset_requested" "user" user.id .none
    ({ s with db := db }, .ok ())

/-- The bulk update of `reset_password`: all sessions of the user are revoked. -/
def revokeAll (db : Db) (userId : Uuid) : Db :=
  { db with
    loginSessions := db.loginSessions.updateWhere (fun r => r.userId == userId && !r.revoked)
      (fun r => { r with revoked := true }) fun _ => rfl }

/-- `reset_password` -/
def resetPassword (token newPassword : String) : AuthState × Except Exn Unit :=
  let (userId, redis) := consumeToken s.redis draw.now .passwordReset token
  let s := { s with redis := redis }
  match tokenUser s.db userId with
  | .error e => (s, .error e)
  | .ok user =>
    let user := { user with
      passwordHash := getPasswordHash env draw newPassword
      failedLoginAttempts := 0
      lockedUntil := none }
    (commitUser { s with db := revokeAll s.db user.id } draw user "password_reset" .none, .ok ())

/-! ### Refresh tokens and sessions -/

/-- The session of a refresh token, when it may be exchanged at `now`. -/
def refreshable (db : Db) (now : Instant) (refreshToken : String) : Except Exn (LoginSession × User) :=
  match db.loginSessions.first fun r => r.refreshTokenHash == some (env.sha256 refreshToken) with
  | none => .error (.http 401 "Invalid refresh token")
  | some session =>
    if session.revoked then .error (.http 401 "Invalid refresh token")
    else if session.refreshExpiresAt.any fun t => decide (t ≤ now) then
      .error (.http 401 "Refresh token expired")
    else
      match db.users.find? session.userId with
      | none => .error (.http 401 "User not available")
      | some user => if !user.isActive then .error (.http 401 "User not available") else .ok (session, user)

/-- The row that `refresh_access_token` writes. -/
def rotate (session : LoginSession) (user : User) (ipAddress : Option String) : LoginSession :=
  { session with
    refreshTokenHash := some (env.sha256 draw.refreshToken)
    refreshExpiresAt := some (draw.now + minutes env.settings.refreshTokenExpiryMinutes)
    jti := some draw.jti
    lastUsedAt := some draw.now
    expiresAt := draw.now + minutes (accessExpiryMinutes env user.isAdmin)
    ipAddress := orText ipAddress session.ipAddress }

/-- `refresh_access_token` -/
def refreshAccessToken (refreshToken : String) (ipAddress : Option String) :
    AuthState × Except Exn (AuthResponse τ) :=
  match refreshable env s.db draw.now refreshToken with
  | .error e => (s, .error e)
  | .ok (session, user) =>
    let row := rotate env draw session user ipAddress
    ({ s with db := { s.db with loginSessions := s.db.loginSessions.update row } },
      .ok (grantResponse env draw user user.isAdmin))

/-- The commit of `logout` and `revoke_session`. -/
def commitRevoked (user : User) (session : LoginSession) (action : String) : AuthState :=
  let row := { session with revoked := true }
  let db := { s.db with loginSessions := s.db.loginSessions.update row }
  { s with db := auditRow db draw 0 user.id .user action "login_session" session.id .none }

/-- The session that `logout` revokes: the one of the token's `jti`, or else the one of the refresh token. -/
def logoutSession (db : Db) (user : User) (jti refreshToken : Option String) : Option LoginSession :=
  let byJti := (jti.filter (· ≠ "")).bind fun jti =>
    db.loginSessions.first fun r => r.userId == user.id && r.jti == some jti
  byJti.or ((refreshToken.filter (· ≠ "")).bind fun token =>
    db.loginSessions.first fun r => r.userId == user.id && r.refreshTokenHash == some (env.sha256 token))

/-- `logout` -/
def logout (user : User) (jti refreshToken : Option String) : AuthState × Except Exn Unit :=
  match logoutSession env s.db user jti refreshToken with
  | none => (s, .ok ())
  | some session => (commitRevoked s draw user session "logout", .ok ())

/-- `revoke_session` -/
def revokeSession (user : User) (sessionId : String) : AuthState × Except Exn Unit :=
  match Uuid.parse sessionId with
  | none => (s, .error (.http 400 "Invalid session id"))
  | some sid =>
    match s.db.loginSessions.first fun r => r.id == sid && r.userId == user.id with
    | none => (s, .error (.http 404 "Session not found"))
    | some session => (commitRevoked s draw user session "session_revoked", .ok ())

/-! ### Authenticator apps and administrators -/

/-- `setup_totp`: the secret and its URI. -/
def setupTotp (user : User) : AuthState × Except Exn (String × String) :=
  (commitUser s draw { user with totpSecret := some draw.totpSecret, totpVerified := false }
    "totp_setup" .none,
    .ok (draw.totpSecret, env.provisioningUri user.email draw.totpSecret))

/-- `verify_totp` -/
def verifyTotp (user : User) (code : String) : AuthState × Except Exn Unit :=
  match user.totpSecret.filter (· ≠ "") with
  | none => (s, .error (.http 400 "TOTP not initialized"))
  | some secret =>
    if !totpVerify env draw.now secret code then (s, .error (.http 401 "Invalid TOTP code"))
    else (commitUser s draw { user with totpVerified := true } "totp_verified" .none, .ok ())

/-- `create_admin` -/
def createAdmin (actor : User) (email password : String) (fullName : Option String) (role : UserRole) :
    AuthState × Except Exn (AuthResponse τ) :=
  if !adminRoles.contains role.value then (s, .error (.http 400 "Invalid admin role"))
  else
    let email := env.lower email
    match getUserByEmail env s.db email with
    | some _ => (s, .error (.http 409 "Email already exists"))
    | none =>
      let user := newUser draw email fullName (getPasswordHash env draw password) role none true "password"
      match addUser s.db user with
      | .error e => (s, .error e)
      | .ok db =>
        let db := auditRow db draw 0 actor.id .user "admin_created" "user" user.id
          (.dict [("email", .str email), ("role", .str role.value)])
        ({ s with db := db }, .ok {
          user := some (serializeUser user)
          role := some role.value
          message := some "Admin created successfully." })

end

/-! ### The service -/

/-- The operations of the service with their arguments; `userId` is the logged-in user. -/
inductive AuthRequest where
  | signup (req : SignupRequest)
  | loginWithPassword (req : LoginRequest)
  | verifyMfaLogin (req : MfaVerifyRequest)
  | loginWithSocialProvider (req : SocialLoginRequest)
  | addMfaChannel (userId : Uuid) (channel destination : String)
  | verifyMfaChannel (userId : Uuid) (channel otp : String)
  | enableMfa (userId : Uuid)
  | disableMfa (userId : Uuid)
  | requestEmailVerification (userId : Uuid)
  | verifyEmailToken (token : String)
  | requestPasswordReset (email : String)
  | resetPassword (token newPassword : String)
  | refreshAccessToken (refreshToken : String) (ipAddress : Option String)
  | logout (userId : Uuid) (jti refreshToken : Option String)
  | revokeSession (userId : Uuid) (sessionId : String)
  | setupTotp (userId : Uuid)
  | verifyTotp (userId : Uuid) (code : String)
  | createAdmin (actorId : Uuid) (email password : String) (fullName : Option String) (role : UserRole)

/-- What an operation returns. -/
inductive AuthReply (τ : Type) where
  | auth (response : AuthResponse τ)
  | purpose (purpose : String)
  | totpSetup (secret uri : String)
  | nothing

section

variable {τ : Type} (env : AuthEnv τ)

/-- Runs an operation of a logged-in user on the user's row. -/
def withUser (s : AuthState) (userId : Uuid) (run : User → AuthState × Except Exn (AuthReply τ)) :
    AuthState × Except Exn (AuthReply τ) :=
  match s.db.users.find? userId with
  | none => (s, .error (.http 401 "User not found"))
  | some user => run user

/-- The state after an operation and what it returns. -/
def AuthRequest.serve (s : AuthState) (draw : AuthDraw) : AuthRequest → AuthState × Except Exn (AuthReply τ)
  | signup req => (RatingLift.signup env s draw req).map id (Except.map .auth)
  | loginWithPassword req => (RatingLift.loginWithPassword env s draw req).map id (Except.map .auth)
  | verifyMfaLogin req => (RatingLift.verifyMfaLogin env s draw req).map id (Except.map .auth)
  | loginWithSocialProvider req =>
    (RatingLift.loginWithSocialProvider env s draw req).map id (Except.map .auth)
  | addMfaChannel userId channel destination => withUser s userId fun user =>
      (RatingLift.addMfaChannel env s draw user channel destination).map id (Except.map .purpose)
  | verifyMfaChannel userId channel otp => withUser s userId fun user =>
      (RatingLift.verifyMfaChannel s draw user channel otp).map id (Except.map fun _ => .nothing)
  | enableMfa userId => withUser s userId fun user =>
      (RatingLift.enableMfa s draw user).map id (Except.map fun _ => .nothing)
  | disableMfa userId => withUser s userId fun user =>
      (RatingLift.disableMfa s draw user).map id (Except.map fun _ => .nothing)
  | requestEmailVerification userId => withUser s userId fun user =>
      (RatingLift.requestEmailVerification env s draw user).map id (Except.map fun _ => .nothing)
  | verifyEmailToken token => (RatingLift.verifyEmailToken s draw token).map id (Except.map fun _ => .nothing)
  | requestPasswordReset email =>
    (RatingLift.requestPasswordReset env s draw email).map id (Except.map fun _ => .nothing)
  | resetPassword token newPassword =>
      (RatingLift.resetPassword env s draw token newPassword).map id (Except.map fun _ => .nothing)
  | refreshAccessToken refreshToken ipAddress =>
      (RatingLift.refreshAccessToken env s draw refreshToken ipAddress).map id (Except.map .auth)
  | logout userId jti refreshToken => withUser s userId fun user =>
      (RatingLift.logout env s draw user jti refreshToken).map id (Except.map fun _ => .nothing)
  | revokeSession userId sessionId => withUser s userId fun user =>
      (RatingLift.revokeSession s draw user sessionId).map id (Except.map fun _ => .nothing)
  | setupTotp userId => withUser s userId fun user =>
      (RatingLift.setupTotp env s draw user).map id (Except.map fun r => .totpSetup r.1 r.2)
  | verifyTotp userId code => withUser s userId fun user =>
      (RatingLift.verifyTotp env s draw user code).map id (Except.map fun _ => .nothing)
  | createAdmin actorId email password fullName role => withUser s actorId fun actor =>
      (RatingLift.createAdmin env s draw actor email password fullName role).map id (Except.map .auth)

end

end RatingLift
