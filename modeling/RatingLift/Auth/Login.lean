import RatingLift.Auth.Oauth
import RatingLift.Auth.Service

/-!
# Ways to log in

`signup`, `login_with_password`, `verify_mfa_login` and `login_with_social_provider`: the four operations that
create a login session.
-/

namespace RatingLift

open Library

structure SignupRequest where
  email : String
  password : String
  fullName : Option String
  tenantName : Option String
  role : UserRole
  client : ClientInfo

structure LoginRequest where
  email : String
  password : String
  adminOnly : Bool
  client : ClientInfo

structure MfaVerifyRequest where
  email : String
  otp : String
  adminOnly : Bool
  client : ClientInfo

/-- A social login with what the provider answers for its token. -/
structure SocialLoginRequest where
  provider : SocialProvider
  reply : UserInfoReply
  client : ClientInfo

section

variable {τ : Type} (env : AuthEnv τ) (s : AuthState) (draw : AuthDraw)

/-- The path of a link in an email. -/
def publicLink (path : String) : String :=
  Py.rstripChar env.settings.appPublicUrl '/' ++ path ++ "?token=" ++ draw.token

/-- `_send_email_verification` -/
def sendEmailVerification (user : User) : AuthState :=
  let name := match user.fullName.filter (· ≠ "") with
    | some name => name
    | none => user.email
  let body := "Hi " ++ name ++ ",\n\nConfirm your email to activate your RatingLift account:\n" ++
    publicLink env draw "/api/v1/auth/email/verify" ++ "\n\nIf you didn't sign up, you can ignore this email."
  { s with
    redis := issueToken s.redis draw .emailVerify user.id (env.settings.emailVerificationTtlMinutes * 60)
    outbox := s.outbox ++ [.message user.email "Confirm your email" body] }

/-- `_create_session` and the record of the successful login -/
def grantSession (db : Db) (user : User) (client : ClientInfo) (adminToken : Bool) (email : String) : Db :=
  recordAuditLoginAttempt env (createSession env db draw user client adminToken) draw email true
    client.ipAddress
    (some user) none

/-- `signup` -/
def signup (req : SignupRequest) : AuthState × Except Exn (AuthResponse τ) :=
  match getUserByEmail env s.db req.email with
  | some _ => (s, .error (.http 409 "Email already exists"))
  | none =>
    let (tenant, db) := getOrCreateTenant env s.db draw req.tenantName req.email
    let user :=
      newUser draw (env.lower req.email) req.fullName (getPasswordHash env draw req.password) req.role
      (some tenant.id) false "password"
    match addUser db user with
    | .error e => (s, .error e)
    | .ok db =>
      let db := grantSession env draw db user req.client false req.email
      (sendEmailVerification env { s with db := db } draw user, .ok (grantResponse env draw user false))

/-- What a failed login or verification leaves. -/
def rejectLogin (db : Db) (user : Option User) (trackedEmail email : String) (client : ClientInfo)
    (reason : String) :
    AuthState :=
  let (redis, db) := trackFailedLogin env db s.redis draw user trackedEmail
  { s with
    redis := redis
    db := recordAuditLoginAttempt env db draw email false client.ipAddress user (some reason) }

/-- A login that passed: the failures are reset and a session is created. -/
def openSession (db : Db) (user : User) (client : ClientInfo) (adminToken : Bool) (email : String) :
    AuthState × AuthResponse τ :=
  let user := resetFailedLogin user
  let db := grantSession env draw { db with users := db.users.update user } user client adminToken email
  ({ s with db := db }, grantResponse env draw user adminToken)

/-- `_dispatch_login_otp` -/
def dispatchLoginOtp (user : User) (otp : String) : List Delivery :=
  let email := match user.mfaEmail.filter (· ≠ "") with
    | some email => if user.mfaEmailVerified then [Delivery.email email otp LOGIN_PURPOSE] else []
    | none => []
  let phone := match user.mfaPhone.filter (· ≠ "") with
    | some phone => if user.mfaPhoneVerified then [Delivery.sms phone otp LOGIN_PURPOSE] else []
    | none => []
  -- fallback to the account email, so that the user is never locked out
  if email ++ phone = [] then [.email user.email otp LOGIN_PURPOSE] else email ++ phone

/-- The challenge that `login_with_password` issues to a user with MFA: a code is sent unless the user has
verified an authenticator app. -/
def issueChallenge (db : Db) (user : User) (email : String) (client : ClientInfo) :
    AuthState × AuthResponse τ :=
  let s := if user.totpVerified then s else { s with
    redis := generateAndStoreOtp env s.redis draw user.id LOGIN_PURPOSE
    outbox := s.outbox ++ dispatchLoginOtp user draw.otp }
  let message :=
    if user.totpVerified then "Enter the 6-digit code from your authenticator app at /api/v1/auth/mfa/verify."
    else "OTP sent to your verified channels. Verify at /api/v1/auth/mfa/verify."
  let db :=
    recordAuditLoginAttempt env db draw email false client.ipAddress (some user) (some "mfa_challenge_issued")
  ({ s with db := db }, { mfaRequired := true, message := some message })

/-- `login_with_password` -/
def loginWithPassword (req : LoginRequest) : AuthState × Except Exn (AuthResponse τ) :=
  match ensureIpAllowed s.db req.client.ipAddress draw.now with
  | .error e => (s, .error e)
  | .ok db =>
    let email := env.lower req.email
    let ip := (req.client.ipAddress.filter (· ≠ "")).getD "unknown"
    let (redis, allowed) :=
      checkLoginRateLimit env s.redis draw (if req.adminOnly then "admin" else "user") (email ++ ":" ++ ip)
    let s := { s with redis := redis }
    if !allowed then (s, .error (.http 429 "Too many login attempts. Please retry later."))
    else
      let invalid (db : Db) (user : Option User) : AuthState × Except Exn (AuthResponse τ) :=
        (rejectLogin env s draw db user email email req.client "invalid_credentials",
          .error (.http 401 "Invalid credentials"))
      match getUserByEmail env db email with
      | none => invalid db none
      | some user =>
        match assertNotLocked db draw user with
        | .error e => (s, .error e)
        | .ok (user, db) =>
          if !verifyPassword env req.password user.passwordHash then invalid db (some user)
          else
            match assertUserCanLogin user req.adminOnly with
            | .error e => (s, .error e)
            | .ok () =>
              if user.mfaEnabled then (issueChallenge env s draw db user email req.client).map id .ok
              else (openSession env s draw db user req.client req.adminOnly email).map id .ok

/-- The TOTP branch of the code check in `verify_mfa_login` -/
def totpAccepts (now : Instant) (user : User) (code : String) : Bool :=
  user.totpVerified && user.totpSecret.any fun secret => secret ≠ "" && totpVerify env now secret code

/-- The code check of `verify_mfa_login`: a TOTP code, or else the stored login OTP, which is used up. -/
def acceptCode (redis : Redis) (now : Instant) (user : User) (code : String) : Bool × Redis :=
  if totpAccepts env now user code then (true, redis)
  else verifyStoredOtp redis now user.id code LOGIN_PURPOSE

/-- `verify_mfa_login` -/
def verifyMfaLogin (req : MfaVerifyRequest) : AuthState × Except Exn (AuthResponse τ) :=
  match getUserByEmail env s.db (env.lower req.email) with
  | none => (s, .error (.http 404 "User not found"))
  | some user =>
    match assertNotLocked s.db draw user with
    | .error e => (s, .error e)
    | .ok (user, db) =>
      match assertUserCanLogin user req.adminOnly with
      | .error e => (s, .error e)
      | .ok () =>
        if !user.mfaEnabled then (s, .error (.http 400 "MFA is not enabled"))
        else
          let (accepted, redis) := acceptCode env s.redis draw.now user req.otp
          let s := { s with redis := redis }
          if accepted then (openSession env s draw db user req.client req.adminOnly user.email).map id .ok
          else
            (rejectLogin env s draw db (some user) req.email (env.lower req.email) req.client "invalid_otp",
            .error (.http 401 "Invalid OTP"))

/-- `a or b` on nullable texts -/
def orText (a b : Option String) : Option String := if a.any (· ≠ "") then a else b

/-- The account of a social login: a new one, or the one of that email with the profile's data. -/
def socialAccount (db : Db) (provider : SocialProvider) (profile : SocialProfile) : Except Exn (User × Db) :=
  match getUserByEmail env db profile.email with
  | none => do
    let (tenant, db) := getOrCreateTenant env db draw none profile.email
    let user :=
      { newUser draw profile.email profile.name (getPasswordHash env draw draw.socialPassword) .STAFF
      (some tenant.id) false provider.value with
        profilePictureUrl := profile.picture
        oauthSubject := profile.subject }
    return (user, ← addUser db user)
  | some user =>
    let (tenantId, db) := match user.tenantId with
      | some tenantId => (some tenantId, db)
      | none =>
        let (tenant, db) := getOrCreateTenant env db draw none profile.email
        (some tenant.id, db)
    let user := { user with
      tenantId := tenantId
      fullName := orText profile.name user.fullName
      profilePictureUrl := orText profile.picture user.profilePictureUrl
      authProvider := provider.value
      oauthSubject := orText profile.subject user.oauthSubject }
    .ok (user, { db with users := db.users.update user })

/-- `login_with_social_provider` -/
def loginWithSocialProvider (req : SocialLoginRequest) : AuthState × Except Exn (AuthResponse τ) :=
  match verifyOauthToken env.lower req.reply req.provider with
  | .error e => (s, .error e)
  | .ok profile =>
    match socialAccount env draw s.db req.provider profile with
    | .error e => (s, .error e)
    | .ok (user, db) => (openSession env s draw db user req.client false user.email).map id .ok

end

end RatingLift
