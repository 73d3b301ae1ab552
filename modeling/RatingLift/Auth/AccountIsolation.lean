import RatingLift.Auth.RouteRuns
import RatingLift.Auth.Sessions
import RatingLift.Db.Seed

/-!
# Accounts do not touch each other

The account of a user is the row, the login sessions and the one-time passwords.  An operation of the service
works for one user at most, its `subject`: the user of the bearer token, or whom an email, a profile, a
refresh token or a single-use token names.  It leaves every other account as it is (`serve_untouched`).
-/

namespace RatingLift

open Library Fallible

/-- The user whom an operation works for. -/
def AuthRequest.subject {τ : Type} (env : AuthEnv τ) (s : AuthState) (draw : AuthDraw) :
    AuthRequest → Option Uuid
  | signup _ => none
  | loginWithPassword req => (getUserByEmail env s.db (env.lower req.email)).map (·.id)
  | verifyMfaLogin req => (getUserByEmail env s.db (env.lower req.email)).map (·.id)
  | loginWithSocialProvider req => (socialUser env s req).map (·.id)
  | requestPasswordReset email => (getUserByEmail env s.db (env.lower email)).map (·.id)
  | verifyEmailToken token =>
    (tokenUser s.db (consumeToken s.redis draw.now .emailVerify token).1).toOption.map (·.id)
  | resetPassword token _ => (resetUser s draw token).toOption.map (·.id)
  | refreshAccessToken refreshToken _ => (refreshable env s.db draw.now refreshToken).toOption.map (·.2.id)
  | addMfaChannel userId _ _ | verifyMfaChannel userId _ _ | enableMfa userId | disableMfa userId
  | requestEmailVerification userId | logout userId _ _ | revokeSession userId _ | setupTotp userId
  | verifyTotp userId _ => some userId
  | createAdmin _ _ _ _ _ => none

/-- The login sessions of a user. -/
def sessionsOfUser (db : Db) (id : Uuid) : Table LoginSession :=
  db.loginSessions.restrict fun r => r.userId == id

/-- The rows of an account are the same. -/
structure SameAccount (id : Uuid) (db db' : Db) : Prop where
  row : db'.users.find? id = db.users.find? id
  sessions : sessionsOfUser db' id = sessionsOfUser db id

/-- The one-time passwords of a user are the same. -/
def SameOtps (id : Uuid) (redis redis' : Redis) : Prop :=
  ∀ purpose, redis' (.otp purpose id) = redis (.otp purpose id)

/-- An account is as it was. -/
structure Untouched (id : Uuid) (s s' : AuthState) : Prop where
  account : SameAccount id s.db s'.db
  otps : SameOtps id s.redis s'.redis

/-! ### Writes -/

section

variable {id : Uuid} {db db' db'' : Db}

namespace SameAccount

theorem refl (db : Db) : SameAccount id db db := ⟨rfl, rfl⟩

theorem trans (h : SameAccount id db db') (h' : SameAccount id db' db'') : SameAccount id db db'' :=
  ⟨h'.row.trans h.row, h'.sessions.trans h.sessions⟩

/-- Writes to the other tables. -/
theorem of_eq (husers : db'.users = db.users) (hsessions : db'.loginSessions = db.loginSessions) :
    SameAccount id db db' := by
  refine ⟨by rw [husers], ?_⟩
  unfold sessionsOfUser
  rw [hsessions]

theorem update_user {row : User} (hne : row.id ≠ id) :
    SameAccount id db { db with users := db.users.update row } :=
  ⟨Table.find?_update_of_ne hne, rfl⟩

/-- A new user gets another id. -/
theorem insert_user {row : User} (hfresh : db.users.Fresh row.id) (hid : (db.users.find? id).isSome = true) :
    SameAccount id db { db with users := db.users.insert row } := by
  obtain ⟨user, huser⟩ := Option.isSome_iff_exists.mp hid
  have hne : Keyed.key row ≠ id := by
    obtain ⟨hmem, hkey⟩ := Table.find?_some huser
    exact fun heq => hfresh user hmem (hkey.trans heq.symm)
  refine ⟨?_, rfl⟩
  show (db.users.insert row).find? id = _
  rw [Table.find?_insert hfresh, if_neg hne]

theorem insert_session {row : LoginSession} (hfresh : db.loginSessions.Fresh row.id) (hne : row.userId ≠ id) :
    SameAccount id db { db with loginSessions := db.loginSessions.insert row } := by
  refine ⟨rfl, ?_⟩
  show (db.loginSessions.insert row).restrict _ = _
  rw [Table.restrict_insert hfresh, if_neg (by simpa using hne)]
  rfl

/-- A session of another user is replaced by a session of that user. -/
theorem update_session {session row : LoginSession} (hstored : db.loginSessions.find? row.id = some session)
    (hne : session.userId ≠ id) (hsame : row.userId = session.userId) :
    SameAccount id db { db with loginSessions := db.loginSessions.update row } := by
  obtain ⟨hmem, hkey⟩ := Table.find?_some hstored
  have hother : ∀ x ∈ db.loginSessions, Keyed.key x = Keyed.key row → x = session := by
    intro x hx hxkey
    exact Table.eq_of_key_eq hx hmem (hxkey.trans hkey.symm)
  refine ⟨rfl, ?_⟩
  show (db.loginSessions.update row).restrict _ = _
  rw [Table.restrict_update fun x hx hxkey => by rw [hother x hx hxkey, hsame]]
  refine Table.update_restrict_of_out fun x hx hxid hxkey => hne ?_
  rw [← hother x hx hxkey]
  simpa using hxid

end SameAccount

end

section

variable {τ : Type} {env : AuthEnv τ} {id : Uuid} {s s' : AuthState} {draw : AuthDraw} {db db' : Db}

theorem ensureIpAllowed_same {ipAddress : Option String} {now : Instant}
    (h : ensureIpAllowed db ipAddress now = .ok db') :
    SameAccount id db db' := .of_eq (ensureIpAllowed_ok h).2.1 (ensureIpAllowed_ok h).1

theorem recordAuditLoginAttempt_same {email : String} {success : Bool} {ipAddress : Option String}
    {user : Option User} {reason : Option String} :
    SameAccount id db (recordAuditLoginAttempt env db draw email success ipAddress user reason) :=
  .of_eq (recordAuditLoginAttempt_users ..) (recordAuditLoginAttempt_loginSessions ..)

theorem assertNotLocked_same {user user' : User} (hne : user.id ≠ id)
    (h : assertNotLocked db draw user = .ok (user', db')) :
    user'.id = user.id ∧ SameAccount id db db' := by
  unfold assertNotLocked at h
  split at h
  · cases h
    exact ⟨rfl, .refl db⟩
  · split at h
    · cases h
    · cases h
      exact ⟨rfl, .update_user hne⟩

theorem trackFailedLogin_same {redis : Redis} {user : Option User} {email : String}
    (hne : ∀ u, user = some u → u.id ≠ id) :
    SameAccount id db (trackFailedLogin env db redis draw user email).2 ∧
      SameOtps id redis (trackFailedLogin env db redis draw user email).1 := by
  refine ⟨?_, fun purpose => incrWithin_of_ne RedisKey.noConfusion⟩
  cases user with
  | none => exact .refl db
  | some u =>
    show SameAccount id db (registerFailureAndMaybeLock env db draw u)
    unfold registerFailureAndMaybeLock
    extract_lets counted lockedUntil locked
    split
    · have hlocked : SameAccount id db { db with users := db.users.update locked } := .update_user (hne u rfl)
      exact hlocked.trans (.of_eq rfl rfl)
    · exact .update_user (hne u rfl)

theorem getOrCreateTenant_same {tenantName : Option String} {email : String} :
    SameAccount id db (getOrCreateTenant env db draw tenantName email).2 :=
  .of_eq getOrCreateTenant_kept.2.2 getOrCreateTenant_kept.2.1

theorem addUser_same {user : User} (hfresh : db.users.Fresh user.id) (hid : (db.users.find? id).isSome = true)
    (h : addUser db user = .ok db') : SameAccount id db db' := by
  rw [addUser_ok h]
  exact .insert_user hfresh hid

theorem grantSession_same {user : User} {client : ClientInfo} {adminToken : Bool} {email : String}
    (hfresh : db.loginSessions.Fresh draw.sessionId) (hne : user.id ≠ id) :
    SameAccount id db (grantSession env draw db user client adminToken email) := by
  have hopened : SameAccount id db (createSession env db draw user client adminToken) :=
    .insert_session hfresh hne
  exact hopened.trans recordAuditLoginAttempt_same

theorem revokeAll_same {userId : Uuid} (hne : userId ≠ id) : SameAccount id db (revokeAll db userId) := by
  refine ⟨rfl, ?_⟩
  unfold sessionsOfUser revokeAll
  dsimp only
  rw [Table.restrict_updateWhere]
  · intro r
    rfl
  · intro r _ hr
    have huser : r.userId = id := by simpa using hr
    simp [huser, Ne.symm hne]

/-! ### Operations -/

theorem Untouched.refl (s : AuthState) : Untouched id s s := ⟨.refl s.db, fun _ => rfl⟩

theorem commitUser_untouched {row : User} {action : String} {afterValue : Json} (h : Untouched id s s')
    (hne : row.id ≠ id) :
    Untouched id s (commitUser s' draw row action afterValue) := by
  have hrow : SameAccount id s'.db { s'.db with users := s'.db.users.update row } := .update_user hne
  exact ⟨(h.account.trans hrow).trans (.of_eq rfl rfl), h.otps⟩

theorem commitRevoked_untouched {user : User} {session : LoginSession} {action : String}
    (hstored : s.db.loginSessions.find? session.id = some session) (hne : session.userId ≠ id) :
    Untouched id s (commitRevoked s draw user session action) := by
  have hrevoked : SameAccount id s.db
      { s.db with loginSessions := s.db.loginSessions.update { session with revoked := true } } :=
    .update_session hstored hne rfl
  exact ⟨hrevoked.trans (.of_eq rfl rfl), fun _ => rfl⟩

theorem rejectLogin_untouched {user : Option User} {trackedEmail email reason : String} {client : ClientInfo}
    (hdb : SameAccount id s.db db) (hotps : SameOtps id s.redis s'.redis)
    (hne : ∀ u, user = some u → u.id ≠ id) :
    Untouched id s (rejectLogin env s' draw db user trackedEmail email client reason) := by
  obtain ⟨htracked, hcounted⟩ :
      SameAccount id db (trackFailedLogin env db s'.redis draw user trackedEmail).2 ∧
      SameOtps id s'.redis (trackFailedLogin env db s'.redis draw user trackedEmail).1 :=
    trackFailedLogin_same hne
  exact ⟨(hdb.trans htracked).trans recordAuditLoginAttempt_same,
    fun purpose => (hcounted purpose).trans (hotps purpose)⟩

theorem openSession_untouched {user : User} {client : ClientInfo} {adminToken : Bool} {email : String}
    (hdb : SameAccount id s.db db) (hotps : SameOtps id s.redis s'.redis)
    (hfresh : db.loginSessions.Fresh draw.sessionId) (hne : user.id ≠ id) :
    Untouched id s (openSession env s' draw db user client adminToken email).1 := by
  have hreset : SameAccount id db { db with users := db.users.update (resetFailedLogin user) } :=
    .update_user hne
  exact ⟨(hdb.trans hreset).trans (grantSession_same hfresh hne), hotps⟩

theorem issueChallenge_untouched {user : User} {email : String} {client : ClientInfo}
    (hdb : SameAccount id s.db db) (hotps : SameOtps id s.redis s'.redis) (hne : user.id ≠ id) :
    Untouched id s (issueChallenge env s' draw db user email client).1 := by
  refine ⟨hdb.trans recordAuditLoginAttempt_same, ?_⟩
  intro purpose
  show (issueChallenge env s' draw db user email client).1.redis _ = _
  unfold issueChallenge
  cases user.totpVerified with
  | true => exact hotps purpose
  | false =>
    have hkey : RedisKey.otp purpose id ≠ .otp LOGIN_PURPOSE user.id :=
      fun heq => hne (RedisKey.otp.inj heq).2.symm
    exact (ExpiringStore.setex_of_ne hkey).trans (hotps purpose)

theorem addMfaChannel_untouched {user : User} {channel destination : String} (hne : user.id ≠ id) :
    Untouched id s (addMfaChannel env s draw user channel destination).1 := by
  unfold addMfaChannel
  cases hchange : channelChange env user channel destination with
  | error e => exact .refl s
  | ok change =>
    obtain ⟨row, purpose, deliver⟩ := change
    have hrow : row.id ≠ id := by
      rw [channelChange_id hchange]
      exact hne
    have hstored : SameOtps id s.redis (generateAndStoreOtp env s.redis draw row.id purpose) := fun _ =>
      ExpiringStore.setex_of_ne fun heq => hrow (RedisKey.otp.inj heq).2.symm
    exact commitUser_untouched ⟨.refl s.db, hstored⟩ hrow

theorem verifyStoredOtp_others {redis : Redis} {now : Instant} {userId : Uuid} {otp purpose : String}
    (hne : userId ≠ id) :
    SameOtps id redis (verifyStoredOtp redis now userId otp purpose).2 := by
  intro purpose'
  unfold verifyStoredOtp
  split
  · exact ExpiringStore.del_of_ne fun heq => hne (RedisKey.otp.inj heq).2.symm
  · rfl

theorem verifyMfaChannel_untouched {user : User} {channel otp : String} (hne : user.id ≠ id) :
    Untouched id s (verifyMfaChannel s draw user channel otp).1 := by
  unfold verifyMfaChannel
  cases channelPurpose user channel with
  | error e => exact .refl s
  | ok purpose =>
    have hsame : SameOtps id s.redis (verifyStoredOtp s.redis draw.now user.id otp purpose).2 :=
      verifyStoredOtp_others hne
    dsimp only
    generalize verifyStoredOtp s.redis draw.now user.id otp purpose = verified at hsame
    obtain ⟨accepted, redis⟩ := verified
    cases accepted with
    | false => exact ⟨.refl s.db, hsame⟩
    | true => exact commitUser_untouched ⟨.refl s.db, hsame⟩ (by rw [markVerified_id]; exact hne)

/-- A single-use token is not a one-time password. -/
theorem consumeToken_otps {redis : Redis} {now : Instant} {key : String → RedisKey} {token : String}
    (hkey : ∀ purpose, RedisKey.otp purpose id ≠ key token) :
    SameOtps id redis (consumeToken redis now key token).2 := by
  intro purpose
  unfold consumeToken
  split
  · exact ExpiringStore.del_of_ne (hkey purpose)
  · rfl

theorem verifyEmailToken_untouched {token : String}
    (hne : ∀ user, tokenUser s.db (consumeToken s.redis draw.now .emailVerify token).1 = .ok user →
      user.id ≠ id) :
    Untouched id s (verifyEmailToken s draw token).1 := by
  have hsame : SameOtps id s.redis (consumeToken s.redis draw.now .emailVerify token).2 :=
    consumeToken_otps fun _ => RedisKey.noConfusion
  unfold verifyEmailToken
  generalize consumeToken s.redis draw.now .emailVerify token = consumed at hsame hne
  obtain ⟨userId, redis⟩ := consumed
  dsimp only
  cases huser : tokenUser s.db userId with
  | error e => exact ⟨.refl s.db, hsame⟩
  | ok user => exact commitUser_untouched ⟨.refl s.db, hsame⟩ (hne user huser)

theorem resetPassword_untouched {token newPassword : String}
    (hne : ∀ user, resetUser s draw token = .ok user → user.id ≠ id) :
    Untouched id s (resetPassword env s draw token newPassword).1 := by
  have hsame : SameOtps id s.redis (consumeToken s.redis draw.now .passwordReset token).2 :=
    consumeToken_otps fun _ => RedisKey.noConfusion
  unfold resetUser at hne
  unfold resetPassword
  generalize consumeToken s.redis draw.now .passwordReset token = consumed at hsame hne
  obtain ⟨userId, redis⟩ := consumed
  dsimp only
  cases huser : tokenUser s.db userId with
  | error e => exact ⟨.refl s.db, hsame⟩
  | ok user => exact commitUser_untouched ⟨revokeAll_same (hne user huser), hsame⟩ (hne user huser)

theorem requestPasswordReset_untouched {email : String} :
    Untouched id s (requestPasswordReset env s draw email).1 := by
  unfold requestPasswordReset
  split
  · exact .refl s
  · rename_i user _
    have hissued : SameOtps id s.redis
        (issueToken s.redis draw .passwordReset user.id (env.settings.passwordResetTtlMinutes * 60)) :=
      fun _ => ExpiringStore.setex_of_ne RedisKey.noConfusion
    exact ⟨.of_eq rfl rfl, hissued⟩

theorem requestEmailVerification_untouched {user : User} :
    Untouched id s (requestEmailVerification env s draw user).1 := by
  have hissued : SameOtps id s.redis
      (issueToken s.redis draw .emailVerify user.id (env.settings.emailVerificationTtlMinutes * 60)) :=
    fun _ => ExpiringStore.setex_of_ne RedisKey.noConfusion
  unfold requestEmailVerification
  cases user.emailVerified with
  | true => exact .refl s
  | false => exact ⟨.refl s.db, hissued⟩

theorem enableMfa_untouched {user : User} (hne : user.id ≠ id) :
    Untouched id s (enableMfa s draw user).1 := by
  unfold enableMfa
  split
  · exact .refl s
  · exact commitUser_untouched (.refl s) hne

theorem verifyTotp_untouched {user : User} {code : String} (hne : user.id ≠ id) :
    Untouched id s (verifyTotp env s draw user code).1 := by
  unfold verifyTotp
  split
  · exact .refl s
  split
  · exact .refl s
  · exact commitUser_untouched (.refl s) hne

/-- A session that `logout` finds is the user's. -/
theorem logoutSession_owner {user : User} {jti refreshToken : Option String} {session : LoginSession}
    (h : logoutSession env s.db user jti refreshToken = some session) : session.userId = user.id := by
  have howner : ∀ {q : LoginSession → Bool}, s.db.loginSessions.first (fun r => r.userId == user.id && q r) =
      some session →
      session.userId = user.id := by
    intro q hq
    have hboth : (session.userId == user.id && q session) = true := (Table.first_some hq).2
    simp_all
  unfold logoutSession at h
  rcases Option.or_eq_some_iff.mp h with h | ⟨_, h⟩
  · obtain ⟨_, _, h⟩ := Option.bind_eq_some_iff.mp h
    exact howner h
  · obtain ⟨_, _, h⟩ := Option.bind_eq_some_iff.mp h
    exact howner h

theorem logout_untouched {user : User} {jti refreshToken : Option String} (hne : user.id ≠ id) :
    Untouched id s (logout env s draw user jti refreshToken).1 := by
  unfold logout
  cases hsession : logoutSession env s.db user jti refreshToken with
  | none => exact .refl s
  | some session =>
    exact commitRevoked_untouched (logoutSession_some hsession)
      (by rw [logoutSession_owner hsession]; exact hne)

theorem revokeSession_untouched {user : User} {sessionId : String} (hne : user.id ≠ id) :
    Untouched id s (revokeSession s draw user sessionId).1 := by
  unfold revokeSession
  cases Uuid.parse sessionId with
  | none => exact .refl s
  | some sid =>
    dsimp only
    cases hsession : s.db.loginSessions.first fun r => r.id == sid && r.userId == user.id with
    | none => exact .refl s
    | some session =>
      obtain ⟨hmem, hboth⟩ := Table.first_some hsession
      have howner : session.userId = user.id := by simp_all
      exact commitRevoked_untouched (Table.mem_iff_find?.mp hmem) (by rw [howner]; exact hne)

theorem refreshable_owner {now : Instant} {refreshToken : String} {session : LoginSession} {user : User}
    (h : refreshable env db now refreshToken = .ok (session, user)) : user.id = session.userId := by
  unfold refreshable at h
  split at h
  · cases h
  split at h
  · cases h
  split at h
  · cases h
  split at h
  · cases h
  rename_i owner howner
  split at h
  · cases h
  obtain ⟨rfl, rfl⟩ := Prod.mk.inj (Except.ok.inj h)
  exact (Table.find?_some howner).2

theorem refreshAccessToken_untouched {refreshToken : String} {ipAddress : Option String}
    (hne : ∀ session user, refreshable env s.db draw.now refreshToken = .ok (session, user) → user.id ≠ id) :
    Untouched id s (refreshAccessToken env s draw refreshToken ipAddress).1 := by
  unfold refreshAccessToken
  cases hfound : refreshable env s.db draw.now refreshToken with
  | error e => exact .refl s
  | ok found =>
    obtain ⟨session, user⟩ := found
    have hsession : session.userId ≠ id := by
      rw [← refreshable_owner hfound]
      exact hne session user hfound
    have hrotated : SameAccount id s.db { s.db with
        loginSessions := s.db.loginSessions.update (rotate env draw session user ipAddress) } :=
      .update_session (refreshable_find hfound).1 hsession rfl
    exact ⟨hrotated, fun _ => rfl⟩

theorem createAdmin_untouched {actor : User} {email password : String} {fullName : Option String}
    {role : UserRole} (hfresh : s.db.users.Fresh draw.userId) (hid : (s.db.users.find? id).isSome = true) :
    Untouched id s (createAdmin env s draw actor email password fullName role).1 := by
  unfold createAdmin
  split
  · exact .refl s
  extract_lets email'
  cases getUserByEmail env s.db email' with
  | some _ => exact .refl s
  | none =>
    dsimp only
    split
    · exact .refl s
    rename_i db hadd
    have hadded : SameAccount id s.db db := addUser_same hfresh hid hadd
    exact ⟨hadded.trans (.of_eq rfl rfl), fun _ => rfl⟩

/-! ### Logins and registrations -/

theorem loginWithPassword_untouched {req : LoginRequest} (hfresh : s.db.loginSessions.Fresh draw.sessionId)
    (hne : ∀ user, getUserByEmail env s.db (env.lower req.email) = some user → user.id ≠ id) :
    Untouched id s (loginWithPassword env s draw req).1 := by
  unfold loginWithPassword
  cases hip : ensureIpAllowed s.db req.client.ipAddress draw.now with
  | error e => exact .refl s
  | ok db =>
    obtain ⟨hsessions, husers, _⟩ := ensureIpAllowed_ok hip
    have hallowed : SameAccount id s.db db := ensureIpAllowed_same hip
    have hrate :
        SameOtps id s.redis (checkLoginRateLimit env s.redis draw (if req.adminOnly then "admin" else "user")
        (env.lower req.email ++ ":" ++ (req.client.ipAddress.filter (· ≠ "")).getD "unknown")).1 :=
      fun _ => incrWithin_of_ne RedisKey.noConfusion
    dsimp only
    generalize checkLoginRateLimit env s.redis draw _ _ = limited at hrate ⊢
    obtain ⟨redis, allowed⟩ := limited
    cases allowed with
    | false => exact ⟨.refl s.db, hrate⟩
    | true =>
      simp only [Bool.not_true, Bool.false_eq_true, ↓reduceIte]
      cases hfound : getUserByEmail env db (env.lower req.email) with
      | none =>
        have hrejected :
            Untouched id s (rejectLogin env { s with redis := redis } draw db none (env.lower req.email)
            (env.lower req.email) req.client "invalid_credentials") :=
          rejectLogin_untouched hallowed hrate (by simp)
        exact hrejected
      | some stored =>
        have hstored : stored.id ≠ id := by
          refine hne stored ?_
          rw [← hfound]
          unfold getUserByEmail
          rw [husers]
        dsimp only
        cases hlock : assertNotLocked db draw stored with
        | error e => exact ⟨.refl s.db, hrate⟩
        | ok unlocked =>
          obtain ⟨user, db₁⟩ := unlocked
          obtain ⟨hid, hcleared⟩ : user.id = stored.id ∧ SameAccount id db db₁ :=
            assertNotLocked_same hstored hlock
          have huser : user.id ≠ id := by rw [hid]; exact hstored
          have hsame := hallowed.trans hcleared
          have hfresh₁ : db₁.loginSessions.Fresh draw.sessionId := by
            rw [(assertNotLocked_ok (getUserByEmail_some hfound) hlock).2.2.1, hsessions]
            exact hfresh
          by_cases hpassword : verifyPassword env req.password user.passwordHash = true
          · simp only [hpassword, Bool.not_true, Bool.false_eq_true, ↓reduceIte]
            cases assertUserCanLogin user req.adminOnly with
            | error e => exact ⟨.refl s.db, hrate⟩
            | ok _ =>
              cases user.mfaEnabled with
              | true => exact issueChallenge_untouched hsame hrate huser
              | false => exact openSession_untouched hsame hrate hfresh₁ huser
          · simp only [hpassword, Bool.not_false, ↓reduceIte]
            have hrejected : Untouched id s (rejectLogin env { s with redis := redis } draw db₁ (some user)
                (env.lower req.email) (env.lower req.email) req.client "invalid_credentials") := by
              refine rejectLogin_untouched hsame hrate ?_
              intro u hu
              obtain rfl := Option.some.inj hu
              exact huser
            exact hrejected

theorem verifyMfaLogin_untouched {req : MfaVerifyRequest} (hfresh : s.db.loginSessions.Fresh draw.sessionId)
    (hne : ∀ user, getUserByEmail env s.db (env.lower req.email) = some user → user.id ≠ id) :
    Untouched id s (verifyMfaLogin env s draw req).1 := by
  unfold verifyMfaLogin
  cases hfound : getUserByEmail env s.db (env.lower req.email) with
  | none => exact .refl s
  | some stored =>
    dsimp only
    cases hlock : assertNotLocked s.db draw stored with
    | error e => exact .refl s
    | ok unlocked =>
      obtain ⟨user, db⟩ := unlocked
      obtain ⟨hid, hsame⟩ : user.id = stored.id ∧ SameAccount id s.db db :=
        assertNotLocked_same (hne stored hfound) hlock
      have huser : user.id ≠ id := by rw [hid]; exact hne stored hfound
      have hfresh₁ : db.loginSessions.Fresh draw.sessionId := by
        rw [(assertNotLocked_ok (getUserByEmail_some hfound) hlock).2.2.1]
        exact hfresh
      dsimp only
      cases assertUserCanLogin user req.adminOnly with
      | error e => exact .refl s
      | ok _ =>
        dsimp only
        split
        · exact .refl s
        have hcode : SameOtps id s.redis (acceptCode env s.redis draw.now user req.otp).2 := by
          unfold acceptCode
          split
          · exact fun _ => rfl
          · exact verifyStoredOtp_others huser
        generalize acceptCode env s.redis draw.now user req.otp = checked at hcode ⊢
        obtain ⟨accepted, redis⟩ := checked
        cases accepted with
        | true => exact openSession_untouched hsame hcode hfresh₁ huser
        | false =>
          have hrejected :
              Untouched id s (rejectLogin env { s with redis := redis } draw db (some user) req.email
              (env.lower req.email) req.client "invalid_otp") := by
            refine rejectLogin_untouched hsame hcode ?_
            intro u hu
            obtain rfl := Option.some.inj hu
            exact huser
          exact hrejected

/-- A stored user does not have the id of a new one. -/
theorem new_id_ne {k : Uuid} (hfresh : db.users.Fresh k)
    (hid : (db.users.find? id).isSome = true) : k ≠ id := by
  obtain ⟨user, huser⟩ := Option.isSome_iff_exists.mp hid
  obtain ⟨hmem, hkey⟩ := Table.find?_some huser
  exact fun heq => hfresh user hmem (hkey.trans heq.symm)

theorem socialAccount_same {provider : SocialProvider} {profile : SocialProfile} {user : User}
    (hfresh : db.users.Fresh draw.userId) (hid : (db.users.find? id).isSome = true)
    (hne : ∀ user, getUserByEmail env db profile.email = some user → user.id ≠ id)
    (h : socialAccount env draw db provider profile = .ok (user, db')) :
    user.id ≠ id ∧ SameAccount id db db' := by
  have hcreated : SameAccount id db (getOrCreateTenant env db draw none profile.email).2 :=
    getOrCreateTenant_same
  obtain ⟨_, _, husers⟩ : _ ∧ _ ∧ (getOrCreateTenant env db draw none profile.email).2.users = db.users :=
    getOrCreateTenant_kept
  unfold socialAccount at h
  generalize getOrCreateTenant env db draw none profile.email = created at hcreated husers h
  obtain ⟨tenant, db₁⟩ := created
  cases hfound : getUserByEmail env db profile.email with
  | none =>
    rw [hfound] at h
    obtain ⟨db₂, hadd, h⟩ := bind_eq_ok.mp h
    obtain ⟨rfl, rfl⟩ := Prod.mk.inj (pure_eq_ok.mp h)
    have husers₁ : db₁.users = db.users := husers
    refine ⟨new_id_ne hfresh hid, hcreated.trans (addUser_same ?_ ?_ hadd)⟩
    · rw [husers₁]; exact hfresh
    · rw [husers₁]; exact hid
  | some stored =>
    have hstored := hne stored hfound
    rw [hfound] at h
    cases htenant : stored.tenantId with
    | some tenantId =>
      simp only [htenant] at h
      obtain ⟨rfl, rfl⟩ := Prod.mk.inj (Except.ok.inj h)
      exact ⟨hstored, .update_user hstored⟩
    | none =>
      simp only [htenant] at h
      obtain ⟨rfl, rfl⟩ := Prod.mk.inj (Except.ok.inj h)
      exact ⟨hstored, hcreated.trans (.update_user hstored)⟩

theorem loginWithSocialProvider_untouched {req : SocialLoginRequest} (husers : s.db.users.Fresh draw.userId)
    (hsessions : s.db.loginSessions.Fresh draw.sessionId) (hid : (s.db.users.find? id).isSome = true)
    (hne : ∀ user, socialUser env s req = some user → user.id ≠ id) :
    Untouched id s (loginWithSocialProvider env s draw req).1 := by
  unfold loginWithSocialProvider
  unfold socialUser at hne
  cases hprofile : verifyOauthToken env.lower req.reply req.provider with
  | error e => exact .refl s
  | ok profile =>
    simp only [hprofile] at hne
    dsimp only
    cases haccount : socialAccount env draw s.db req.provider profile with
    | error e => exact .refl s
    | ok account =>
      obtain ⟨user, db⟩ := account
      obtain ⟨huser, hsame⟩ : user.id ≠ id ∧ SameAccount id s.db db :=
        socialAccount_same husers hid hne haccount
      have hkept : db.loginSessions = s.db.loginSessions := (socialAccount_ok husers haccount).2.1
      exact openSession_untouched hsame (fun _ => rfl) (by rw [hkept]; exact hsessions) huser

theorem signup_untouched {req : SignupRequest} (husers : s.db.users.Fresh draw.userId)
    (hsessions : s.db.loginSessions.Fresh draw.sessionId) (hid : (s.db.users.find? id).isSome = true) :
    Untouched id s (signup env s draw req).1 := by
  unfold signup
  cases getUserByEmail env s.db req.email with
  | some _ => exact .refl s
  | none =>
    have hcreated : SameAccount id s.db (getOrCreateTenant env s.db draw req.tenantName req.email).2 :=
      getOrCreateTenant_same
    obtain ⟨_, hkeptSessions, hkeptUsers⟩ :
        _ ∧ (getOrCreateTenant env s.db draw req.tenantName req.email).2.loginSessions = s.db.loginSessions ∧
          (getOrCreateTenant env s.db draw req.tenantName req.email).2.users = s.db.users :=
      getOrCreateTenant_kept
    generalize getOrCreateTenant env s.db draw req.tenantName req.email = created
      at hcreated hkeptSessions hkeptUsers ⊢
    obtain ⟨tenant, db⟩ := created
    dsimp only
    split
    · exact .refl s
    · rename_i db₁ hadd
      have hkeptUsers : db.users = s.db.users := hkeptUsers
      have hadded : SameAccount id db db₁ :=
        addUser_same (by rw [hkeptUsers]; exact husers) (by rw [hkeptUsers]; exact hid) hadd
      have hfresh₁ : db₁.loginSessions.Fresh draw.sessionId := by
        rw [addUser_ok hadd]
        show db.loginSessions.Fresh _
        rw [show db.loginSessions = s.db.loginSessions from hkeptSessions]
        exact hsessions
      have hissued : SameOtps id s.redis
          (issueToken s.redis draw .emailVerify draw.userId
            (env.settings.emailVerificationTtlMinutes * 60)) :=
        fun _ => ExpiringStore.setex_of_ne RedisKey.noConfusion
      exact ⟨(hcreated.trans hadded).trans (grantSession_same hfresh₁ (new_id_ne husers hid)), hissued⟩

end

/-! ### Every operation -/

section

variable {τ : Type} {env : AuthEnv τ} {account : Uuid} {s : AuthState} {draw : AuthDraw}

/-- What an operation makes of its reply does not matter to the accounts. -/
theorem untouched_map {α β : Type} {f : α → β} {out : AuthState × α} (h : Untouched account s out.1) :
    Untouched account s (out.map id f).1 := h

theorem withUser_untouched {α : Type} {f : α → Except Exn (AuthReply τ)} {userId : Uuid}
    {run : User → AuthState × α} (hne : userId ≠ account)
    (h : ∀ user : User, user.id ≠ account → Untouched account s (run user).1) :
    Untouched account s (withUser s userId fun user => (run user).map id f).1 := by
  unfold withUser
  cases hfind : s.db.users.find? userId with
  | none => exact .refl s
  | some user =>
    have hid : user.id = userId := (Table.find?_some hfind).2
    exact untouched_map (h user (by rw [hid]; exact hne))

/-- An operation leaves every stored account as it is, but for the one of its subject. -/
theorem serve_untouched {req : AuthRequest} (husers : s.db.users.Fresh draw.userId)
    (hsessions : s.db.loginSessions.Fresh draw.sessionId) (hid : (s.db.users.find? account).isSome = true)
    (hother : req.subject env s draw ≠ some account) : Untouched account s (req.serve env s draw).1 := by
  have hmapped : ∀ {o : Option User}, o.map (·.id) ≠ some account → ∀ user, o = some user →
      user.id ≠ account := by
    rintro _ hne user rfl heq
    exact hne (congrArg some heq)
  cases req with
  | signup req => exact untouched_map (signup_untouched husers hsessions hid)
  | loginWithPassword req => exact untouched_map (loginWithPassword_untouched hsessions (hmapped hother))
  | verifyMfaLogin req => exact untouched_map (verifyMfaLogin_untouched hsessions (hmapped hother))
  | loginWithSocialProvider req =>
    exact untouched_map (loginWithSocialProvider_untouched husers hsessions hid (hmapped hother))
  | addMfaChannel userId channel destination =>
    exact withUser_untouched (fun heq => hother (congrArg some heq)) fun _ hne => addMfaChannel_untouched hne
  | verifyMfaChannel userId channel otp =>
    exact withUser_untouched (fun heq => hother (congrArg some heq)) fun _ hne =>
      verifyMfaChannel_untouched hne
  | enableMfa userId =>
    exact withUser_untouched (fun heq => hother (congrArg some heq)) fun _ hne => enableMfa_untouched hne
  | disableMfa userId =>
    exact withUser_untouched (fun heq => hother (congrArg some heq)) fun _ hne =>
      commitUser_untouched (.refl s) hne
  | requestEmailVerification userId =>
    exact withUser_untouched (fun heq => hother (congrArg some heq)) fun _ _ =>
      requestEmailVerification_untouched
  | verifyEmailToken token =>
    refine untouched_map (verifyEmailToken_untouched ?_)
    intro user huser
    exact hmapped hother user (Fallible.toOption_eq_some.mpr huser)
  | requestPasswordReset email => exact untouched_map requestPasswordReset_untouched
  | resetPassword token newPassword =>
    refine untouched_map (resetPassword_untouched ?_)
    intro user huser
    exact hmapped hother user (Fallible.toOption_eq_some.mpr huser)
  | refreshAccessToken refreshToken ipAddress =>
    refine untouched_map (refreshAccessToken_untouched ?_)
    intro session user hfound heq
    refine hother ?_
    show Option.map _ (Except.toOption _) = _
    rw [hfound]
    exact congrArg some heq
  | logout userId jti refreshToken =>
    exact withUser_untouched (fun heq => hother (congrArg some heq)) fun _ hne => logout_untouched hne
  | revokeSession userId sessionId =>
    exact withUser_untouched (fun heq => hother (congrArg some heq)) fun _ hne => revokeSession_untouched hne
  | setupTotp userId =>
    exact withUser_untouched (fun heq => hother (congrArg some heq)) fun _ hne =>
      commitUser_untouched (.refl s) hne
  | verifyTotp userId code =>
    exact withUser_untouched (fun heq => hother (congrArg some heq)) fun _ hne => verifyTotp_untouched hne
  | createAdmin actorId email password fullName role =>
    show Untouched account s
      (withUser s actorId fun actor => (RatingLift.createAdmin env s draw actor email password
      fullName role).map id (Except.map .auth)).1
    unfold withUser
    cases s.db.users.find? actorId with
    | none => exact .refl s
    | some actor => exact untouched_map (createAdmin_untouched husers hid)

theorem Untouched.trans {s s' s'' : AuthState} {id : Uuid} (h : Untouched id s s')
    (h' : Untouched id s' s'') :
    Untouched id s s'' :=
  ⟨h.account.trans h'.account, fun purpose => (h'.otps purpose).trans (h.otps purpose)⟩

end

end RatingLift
