import RatingLift.Auth.ClientAddress
import RatingLift.Auth.CurrentUser
import RatingLift.Auth.Schemas
import RatingLift.Db.Query

/-!
# The routes of authentication

The handlers under `/api/v1/auth` and `/api/v1/admin/auth`.  The dependencies of a handler are solved first,
and an `HTTPException` of one of them ends the request; then the body is read by its schema; then the handler
calls the service.  The middleware lets every request to these paths through.
-/

namespace RatingLift

open Library

/-- A request that the routers of authentication take. -/
inductive AuthPath where
  | signup | login | adminLogin | verifyMfa
  | social (provider : SocialProvider)
  | me | createAdmin
  | mfaStatus | addMfaChannel | verifyMfaChannel | enableMfa | disableMfa
  | passwordForgot | passwordReset | emailVerify | emailResend
  | refresh | logout | listSessions
  | revokeSession (sessionId : String)
  | totpSetup | totpVerify
deriving DecidableEq

/-- A request with what the framework reads from it: the credentials that `HTTPBearer` extracts and the JSON
of the body; `profile` is what the provider answers for the token of a social login. -/
structure AuthHttp (τ : Type) where
  path : AuthPath
  request : Request
  credentials : Option τ
  body : Option Json
  profile : UserInfoReply

/-- What a request ends with when it does not succeed: an exception, or the 422 of a body. -/
inductive HttpError where
  | exn (e : Exn)
  | unprocessable (errors : List FieldError)
deriving DecidableEq

structure MfaStatusResponse where
  mfaEnabled : Bool
  email : Option String
  emailVerified : Bool
  phone : Option String
  phoneVerified : Bool
deriving DecidableEq

structure MfaChannelResponse where
  channel : String
  destination : String
  verified : Bool
  message : Option String
deriving DecidableEq

structure SessionInfo where
  id : String
  ipAddress : Option String
  deviceInfo : Option String
  location : Option String
  createdAt : Option String
  lastUsedAt : Option String
  expiresAt : Option String
  refreshExpiresAt : Option String
  revoked : Bool
  current : Bool
deriving DecidableEq

structure TotpSetupResponse where
  secret : String
  otpauthUri : String
  message : String :=
    "Scan the QR code in your authenticator app, then POST the 6-digit code to /mfa/totp/verify."
deriving DecidableEq

/-- The body of a response that succeeds. -/
inductive AuthBody (τ : Type) where
  | auth (response : AuthResponse τ)
  | mfaStatus (response : MfaStatusResponse)
  | mfaChannel (response : MfaChannelResponse)
  | sessions (sessions : List SessionInfo)
  | totpSetup (response : TotpSetupResponse)
  | message (message : String)

structure AuthHttpReply (τ : Type) where
  status : Nat
  body : AuthBody τ

/-- What the routes get from outside besides the service: `str` of a JSON value, the schemas, the decoding of
a token without its expiry, and the column `created_at` of the sessions. -/
structure AuthRouteEnv (τ : Type) where
  auth : AuthEnv τ
  repr : Json → String
  emailStr : String → Option String
  boolOf : Json → Option Bool
  decodeUnexpired : τ → String → Option Dict
  createdAt : Uuid → Instant

def AuthRouteEnv.schemas {τ : Type} (env : AuthRouteEnv τ) : SchemaEnv :=
  ⟨env.auth.lower, env.emailStr, env.boolOf⟩

namespace AuthRoutes

variable {τ : Type} (env : AuthRouteEnv τ) (s : AuthState) (draw : AuthDraw) (http : AuthHttp τ)

/-! ### Dependencies -/

/-- The client of a request: `_get_client_ip`, `_device_info` and `_location`. -/
def client : ClientInfo :=
  ⟨getClientIp http.request, http.request.header "user-agent", http.request.header "x-user-location"⟩

/-- `get_current_user`, behind `HTTPBearer` -/
def currentUser : Except Exn User :=
  match http.credentials with
  | none => .error (.http 401 "Not authenticated")
  | some token => getCurrentUser env.repr s.db env.auth.jwt env.auth.settings draw.now token

/-- `require_role` -/
def requireRole (roles : List UserRole) : Except Exn User := do
  let user ← currentUser env s draw http
  if (roles.map (·.value)).contains user.role.value then return user
  else .error (.http 403 "Insufficient role")

/-- `get_current_jti`, which reads the claim of a token that may have expired. -/
def currentJti (token : τ) : Json :=
  match env.decodeUnexpired token env.auth.settings.jwtSecret with
  | some payload => Json.get payload "jti"
  | none =>
    match env.decodeUnexpired token env.auth.settings.adminJwtSecret with
    | some payload => Json.get payload "jti"
    | none => .none

/-- The `jti` as the handlers pass it on: a claim that is not a text finds no session. -/
def jtiText : Option String :=
  match http.credentials.map (currentJti env) with
  | some (.str jti) => some jti
  | _ => none

/-! ### Handlers -/

abbrev Outcome (τ : Type) := AuthState × Except HttpError (AuthHttpReply τ)

def refuse (e : Exn) : Outcome τ := (s, .error (.exn e))

/-- The response of a handler to what the service returned. -/
def respond {α : Type} (status : Nat) (body : α → AuthBody τ)
    (result : AuthState × Except Exn α) : Outcome τ :=
  (result.1, match result.2 with
    | .ok a => .ok ⟨status, body a⟩
    | .error e => .error (.exn e))

/-- A handler on the values of its body. -/
def withBody {α : Type} (parsed : Parsed α) (handler : α → Outcome τ) : Outcome τ :=
  match parsed with
  | .error errors => (s, .error (.unprocessable errors))
  | .ok payload => handler payload

/-- A handler on the user that a dependency found. -/
def withCurrent (user : Except Exn User) (handler : User → Outcome τ) : Outcome τ :=
  match user with
  | .error e => refuse s e
  | .ok user => handler user

/-- `signup` -/
def signup : Outcome τ :=
  withBody s (requiredBody http.body (SignupPayload.parse env.schemas)) fun payload =>
    respond 200 .auth (RatingLift.signup env.auth s draw
      ⟨payload.email, payload.password, payload.fullName, payload.tenantName, payload.role, client http⟩)

/-- `login` and `admin_login` -/
def login (adminOnly : Bool) : Outcome τ :=
  withBody s (requiredBody http.body (LoginPayload.parse env.schemas)) fun payload =>
    respond 200 .auth
      (loginWithPassword env.auth s draw ⟨payload.email, payload.password, adminOnly, client http⟩)

/-- `verify_mfa` -/
def verifyMfa : Outcome τ :=
  withBody s (requiredBody http.body (MfaVerifyPayload.parse env.schemas)) fun payload =>
    respond 200 .auth
      (verifyMfaLogin env.auth s draw ⟨payload.email, payload.otp, payload.isAdminLogin, client http⟩)

/-- `social_google_login`, `social_microsoft_login` and `social_facebook_login` -/
def social (provider : SocialProvider) : Outcome τ :=
  withBody s (requiredBody http.body SocialLoginPayload.parse) fun _ =>
    respond 200 .auth (loginWithSocialProvider env.auth s draw ⟨provider, http.profile, client http⟩)

/-- `current_user_profile` -/
def currentUserProfile : Outcome τ :=
  withCurrent s (currentUser env s draw http) fun user =>
    (s, .ok ⟨200, .auth {
      user := some (serializeUser user)
      role := some user.role.value
      tenantId := user.tenantId.map (·.str) }⟩)

/-- `create_admin` -/
def createAdmin : Outcome τ :=
  withCurrent s (requireRole env s draw http [.SUPER_ADMIN]) fun actor =>
    withBody s (requiredBody http.body (CreateAdminPayload.parse env.schemas)) fun payload =>
      respond 201 .auth
        (RatingLift.createAdmin env.auth s draw actor payload.email payload.password payload.fullName
        payload.role)

/-- `get_mfa_status` -/
def getMfaStatus (user : User) : MfaStatusResponse :=
  ⟨user.mfaEnabled, user.mfaEmail, user.mfaEmailVerified, user.mfaPhone, user.mfaPhoneVerified⟩

/-- `mfa_status` -/
def mfaStatus : Outcome τ :=
  withCurrent s (currentUser env s draw http) fun user => (s, .ok ⟨200, .mfaStatus (getMfaStatus user)⟩)

/-- `add_mfa_channel` -/
def addMfaChannel : Outcome τ :=
  withCurrent s (currentUser env s draw http) fun user =>
    withBody s (requiredBody http.body (MfaChannelAddPayload.parse env.schemas)) fun payload =>
      respond 200 (fun _ => .mfaChannel ⟨payload.channel, payload.destination, false,
          some "Verification OTP sent. Call /mfa/channel/verify to confirm."⟩)
        (RatingLift.addMfaChannel env.auth s draw user payload.channel payload.destination)

/-- `verify_mfa_channel` -/
def verifyMfaChannel : Outcome τ :=
  withCurrent s (currentUser env s draw http) fun user =>
    withBody s (requiredBody http.body MfaChannelVerifyPayload.parse) fun payload =>
      let destination := (if payload.channel = "email" then user.mfaEmail else user.mfaPhone).getD ""
      respond 200 (fun _ => .mfaChannel ⟨payload.channel, destination, true, some "Channel verified."⟩)
        (RatingLift.verifyMfaChannel s draw user payload.channel payload.otp)

/-- `enable_mfa` -/
def enableMfa : Outcome τ :=
  withCurrent s (currentUser env s draw http) fun user =>
    withBody s (optionalBody http.body fun _ => Except.ok ()) fun _ =>
      respond 200 (fun _ => .mfaStatus (getMfaStatus { user with mfaEnabled := true }))
        (RatingLift.enableMfa s draw user)

/-- `disable_mfa` -/
def disableMfa : Outcome τ :=
  withCurrent s (currentUser env s draw http) fun user =>
    respond 200 (fun _ => .mfaStatus (getMfaStatus { user with mfaEnabled := false }))
      (RatingLift.disableMfa s draw user)

/-- `password_forgot` -/
def passwordForgot : Outcome τ :=
  withBody s (requiredBody http.body (PasswordForgotPayload.parse env.schemas)) fun payload =>
    respond 200 (fun _ => .message "If an account exists for that email, a reset link has been sent.")
      (requestPasswordReset env.auth s draw payload.email)

/-- `password_reset` -/
def passwordReset : Outcome τ :=
  withBody s (requiredBody http.body PasswordResetPayload.parse) fun payload =>
    respond 200 (fun _ => .message "Password has been reset. Please log in again.")
      (resetPassword env.auth s draw payload.token payload.newPassword)

/-- `email_verify` -/
def emailVerify : Outcome τ :=
  withBody s (requiredBody http.body EmailVerifyPayload.parse) fun payload =>
    respond 200 (fun _ => .message "Email verified.") (verifyEmailToken s draw payload.token)

/-- `email_resend` -/
def emailResend : Outcome τ :=
  withCurrent s (currentUser env s draw http) fun user =>
    withBody s (optionalBody http.body fun _ => Except.ok ()) fun _ =>
      respond 200 (fun _ => .message "Verification email sent if required.")
        (requestEmailVerification env.auth s draw user)

/-- `refresh` -/
def refresh : Outcome τ :=
  withBody s (requiredBody http.body RefreshPayload.parse) fun payload =>
    respond 200 .auth (refreshAccessToken env.auth s draw payload.refreshToken (getClientIp http.request))

/-- `logout` -/
def logout : Outcome τ :=
  withCurrent s (currentUser env s draw http) fun user =>
    withBody s (optionalBody http.body LogoutPayload.parse) fun payload =>
      respond 200 (fun _ => .message "Logged out.")
        (RatingLift.logout env.auth s draw user (jtiText env http) (payload.bind (·.refreshToken)))

/-- `list_sessions` of the service -/
def listSessions (user : User) (jti : Option String) : List SessionInfo :=
  let rows :=
    newestFirst (fun r => env.createdAt r.id) (s.db.loginSessions.select fun r => r.userId == user.id)
  rows.map fun r => {
    id := r.id.str
    ipAddress := r.ipAddress
    deviceInfo := r.deviceInfo
    location := r.location
    createdAt := some (env.auth.isoformat (env.createdAt r.id))
    lastUsedAt := r.lastUsedAt.map env.auth.isoformat
    expiresAt := some (env.auth.isoformat r.expiresAt)
    refreshExpiresAt := r.refreshExpiresAt.map env.auth.isoformat
    revoked := r.revoked
    current := jti.any fun jti => jti ≠ "" && r.jti == some jti }

/-- `list_sessions` -/
def listSessionsRoute : Outcome τ :=
  withCurrent s (currentUser env s draw http) fun user =>
    (s, .ok ⟨200, .sessions (listSessions env s user (jtiText env http))⟩)

/-- `revoke_session` -/
def revokeSession (sessionId : String) : Outcome τ :=
  withCurrent s (currentUser env s draw http) fun user =>
    respond 200 (fun _ => .message "Session revoked.") (RatingLift.revokeSession s draw user sessionId)

/-- `totp_setup` -/
def totpSetup : Outcome τ :=
  withCurrent s (currentUser env s draw http) fun user =>
    respond 200 (fun r => .totpSetup { secret := r.1, otpauthUri := r.2 }) (setupTotp env.auth s draw user)

/-- `totp_verify` -/
def totpVerify : Outcome τ :=
  withCurrent s (currentUser env s draw http) fun user =>
    withBody s (requiredBody http.body TotpVerifyPayload.parse) fun payload =>
      respond 200 (fun _ => .mfaStatus (getMfaStatus user)) (verifyTotp env.auth s draw user payload.code)

end AuthRoutes

/-- The handler of a path. -/
def AuthHttp.handle {τ : Type} (env : AuthRouteEnv τ) (s : AuthState) (draw : AuthDraw) (http : AuthHttp τ) :
    AuthState × Except HttpError (AuthHttpReply τ) :=
  match http.path with
  | .signup => AuthRoutes.signup env s draw http
  | .login => AuthRoutes.login env s draw http false
  | .adminLogin => AuthRoutes.login env s draw http true
  | .verifyMfa => AuthRoutes.verifyMfa env s draw http
  | .social provider => AuthRoutes.social env s draw http provider
  | .me => AuthRoutes.currentUserProfile env s draw http
  | .createAdmin => AuthRoutes.createAdmin env s draw http
  | .mfaStatus => AuthRoutes.mfaStatus env s draw http
  | .addMfaChannel => AuthRoutes.addMfaChannel env s draw http
  | .verifyMfaChannel => AuthRoutes.verifyMfaChannel env s draw http
  | .enableMfa => AuthRoutes.enableMfa env s draw http
  | .disableMfa => AuthRoutes.disableMfa env s draw http
  | .passwordForgot => AuthRoutes.passwordForgot env s draw http
  | .passwordReset => AuthRoutes.passwordReset env s draw http
  | .emailVerify => AuthRoutes.emailVerify s draw http
  | .emailResend => AuthRoutes.emailResend env s draw http
  | .refresh => AuthRoutes.refresh env s draw http
  | .logout => AuthRoutes.logout env s draw http
  | .listSessions => AuthRoutes.listSessionsRoute env s draw http
  | .revokeSession sessionId => AuthRoutes.revokeSession env s draw http sessionId
  | .totpSetup => AuthRoutes.totpSetup env s draw http
  | .totpVerify => AuthRoutes.totpVerify env s draw http

end RatingLift
