import RatingLift.Auth.UserRows

/-!
# What a login writes

Each of the four operations that may open a session either leaves the sessions as they are or opens one for
the user it admitted, and writes at most that user's row (`LoginWrite`).
-/

namespace RatingLift

open Library Fallible

section

variable {τ : Type} {env : AuthEnv τ} {s : AuthState} {draw : AuthDraw}

/-! ### The logins -/

theorem registerFailure_users (db : Db) (user : User) :
    (registerFailureAndMaybeLock env db draw user).users = db.users.update (countFailure env draw user) := by
  unfold registerFailureAndMaybeLock countFailure
  extract_lets counted lockedUntil lockedUser
  split <;> rfl

theorem registerFailure_loginSessions (db : Db) (user : User) :
    (registerFailureAndMaybeLock env db draw user).loginSessions = db.loginSessions := by
  unfold registerFailureAndMaybeLock
  extract_lets counted lockedUntil lockedUser
  split <;> rfl

theorem rejectLogin_users {db : Db} {user : User} {trackedEmail email reason : String} {client : ClientInfo} :
    (rejectLogin env s draw db (some user) trackedEmail email client reason).db.users =
      db.users.update (countFailure env draw user) := by
  show (recordAuditLoginAttempt env _ _ _ _ _ _ _).users = _
  rw [recordAuditLoginAttempt_users]
  exact registerFailure_users db user

theorem rejectLogin_loginSessions {db : Db} {user : Option User} {trackedEmail email reason : String}
    {client : ClientInfo} :
    (rejectLogin env s draw db user trackedEmail email client reason).db.loginSessions =
      db.loginSessions := by
  show (recordAuditLoginAttempt env _ _ _ _ _ _ _).loginSessions = _
  rw [recordAuditLoginAttempt_loginSessions]
  cases user with
  | none => rfl
  | some user => exact registerFailure_loginSessions db user

theorem openSession_users {db : Db} {user : User} {client : ClientInfo} {adminToken : Bool} {email : String} :
    (openSession env s draw db user client adminToken email).1.db.users =
      db.users.update (resetFailedLogin user) := by
  show (recordAuditLoginAttempt env _ _ _ _ _ _ _).users = _
  rw [recordAuditLoginAttempt_users]
  rfl

theorem openSession_loginSessions {db : Db} {user : User} {client : ClientInfo} {adminToken : Bool}
    {email : String} :
    (openSession env s draw db user client adminToken email).1.db.loginSessions =
      db.loginSessions.insert (newSession env draw (resetFailedLogin user) client adminToken) := by
  show (recordAuditLoginAttempt env _ _ _ _ _ _ _).loginSessions = _
  rw [recordAuditLoginAttempt_loginSessions]
  rfl

/-- A login that ends before it compares anything, or that is turned away afterwards. -/
private theorem kept_login {req : AuthRequest} {db : Db} {check : Option CredentialCheck}
    (hcheck : loginCheck env s draw req = check) (hpassed : ∀ c, check = some c → c.accepted = true)
    (husers : db.users = s.db.users) (hsessions : db.loginSessions = s.db.loginSessions) :
    LoginWrite env s draw db req :=
  ⟨.unwritten hcheck hpassed husers, .kept hsessions⟩

/-- A failed comparison after the lock check writes the row once. -/
private theorem failed_login {req : AuthRequest} {user : User} {db : Db}
    (huser : s.db.users.find? user.id = some user)
    (hcheck : loginCheck env s draw req = some ⟨user.id, false⟩)
    (husers : db.users = (s.db.users.update (clearLock user)).update (countFailure env draw (clearLock user)))
    (hsessions : db.loginSessions = s.db.loginSessions) : LoginWrite env s draw db req := by
  have hkey : Keyed.key (clearLock user) = Keyed.key (countFailure env draw (clearLock user)) :=
    (countFailure_id (clearLock user)).symm
  rw [Table.update_update hkey] at husers
  exact ⟨.update user _ huser (.failed hcheck) husers, .kept hsessions⟩

private theorem opened_login {req : AuthRequest} {user : User} {db : Db}
    (huser : s.db.users.find? user.id = some user) (hcheck : loginCheck env s draw req = some ⟨user.id, true⟩)
    (hactive : user.isActive = true)
    (husers : db.users = (s.db.users.update (clearLock user)).update (resetFailedLogin (clearLock user)))
    (hopens : OpensFor env s draw db (resetFailedLogin (clearLock user))) :
    LoginWrite env s draw db req := by
  have hkey : Keyed.key (clearLock user) = Keyed.key (resetFailedLogin user) := clearLock_id user
  rw [resetFailedLogin_clearLock] at husers hopens
  rw [Table.update_update hkey] at husers
  constructor
  · exact .update user _ huser (.loggedIn hcheck hactive hopens) husers
  · refine .opened (resetFailedLogin user) (.loggedIn user huser hcheck hactive) ?_ hopens
    rw [husers]
    exact Table.find?_update_of_find? huser

theorem assertUserCanLogin_active {user : User} {adminOnly : Bool}
    (h : assertUserCanLogin user adminOnly = .ok ()) : user.isActive = true := by
  unfold assertUserCanLogin at h
  split at h
  · cases h
  · rename_i hactive
    simpa using hactive

theorem loginWithPassword_write {req : LoginRequest} :
    LoginWrite env s draw (loginWithPassword env s draw req).1.db (.loginWithPassword req) := by
  unfold loginWithPassword
  cases hip : ensureIpAllowed s.db req.client.ipAddress draw.now with
  | error e =>
    have hcheck : loginCheck env s draw (.loginWithPassword req) = none := by
      simp [loginCheck, passwordUser, hip]
    exact kept_login hcheck (by simp) rfl rfl
  | ok db =>
    obtain ⟨hsessions, husers, _⟩ := ensureIpAllowed_ok hip
    have hpassed : passwordUser env s draw req =
        if (checkLoginRateLimit env s.redis draw (if req.adminOnly then "admin" else "user")
          (env.lower req.email ++ ":" ++ (req.client.ipAddress.filter (· ≠ "")).getD "unknown")).2 then
          getUserByEmail env db (env.lower req.email) else none := by
      unfold passwordUser
      rw [hip]
    dsimp only
    generalize checkLoginRateLimit env s.redis draw _ _ = limited at hpassed ⊢
    obtain ⟨redis, allowed⟩ := limited
    cases allowed with
    | false =>
      have hcheck : loginCheck env s draw (.loginWithPassword req) = none := by simp [loginCheck, hpassed]
      exact kept_login hcheck (by simp) rfl rfl
    | true =>
      simp only [↓reduceIte] at hpassed
      simp only [Bool.not_true, Bool.false_eq_true, ↓reduceIte]
      cases hfound : getUserByEmail env db (env.lower req.email) with
      | none =>
        have hcheck : loginCheck env s draw (.loginWithPassword req) = none := by
          simp [loginCheck, hpassed, hfound]
        refine kept_login hcheck (by simp) ?_ (rejectLogin_loginSessions.trans hsessions)
        show (recordAuditLoginAttempt env _ _ _ _ _ _ _).users = _
        rw [recordAuditLoginAttempt_users]
        exact husers
      | some user =>
        have hstored : db.users.find? user.id = some user := getUserByEmail_some hfound
        have huser : s.db.users.find? user.id = some user := by rw [← husers]; exact hstored
        rw [hfound] at hpassed
        dsimp only
        cases hlocked : user.locked draw.now with
        | true =>
          obtain ⟨e, he⟩ := assertNotLocked_of_locked db hlocked
          have hcheck : loginCheck env s draw (.loginWithPassword req) = none := by
            simp [loginCheck, hpassed, hlocked]
          rw [he]
          exact kept_login hcheck (by simp) rfl rfl
        | false =>
          have hcheck : loginCheck env s draw (.loginWithPassword req) =
              some ⟨user.id, verifyPassword env req.password user.passwordHash⟩ := by
            simp [loginCheck, hpassed, hlocked]
          -- a lock that has expired is cleared before the password is compared
          rw [assertNotLocked_of_not_locked hstored hlocked, husers]
          dsimp only
          rw [clearLock_passwordHash, assertUserCanLogin_clearLock, clearLock_mfaEnabled]
          cases hpassword : verifyPassword env req.password user.passwordHash with
          | false =>
            rw [hpassword] at hcheck
            simp only [Bool.not_false, ↓reduceIte]
            exact failed_login huser hcheck rejectLogin_users (rejectLogin_loginSessions.trans hsessions)
          | true =>
            rw [hpassword] at hcheck
            simp only [Bool.not_true, Bool.false_eq_true, ↓reduceIte]
            cases hcan : assertUserCanLogin user req.adminOnly with
            | error e => exact kept_login hcheck (by simp) rfl rfl
            | ok _ =>
              cases hmfa : user.mfaEnabled with
              | true =>
                have hwritten : (issueChallenge env { s with redis := redis } draw
                    { db with users := s.db.users.update (clearLock user) } (clearLock user)
                      (env.lower req.email)
                    req.client).1.db.users = s.db.users.update (clearLock user) :=
                      recordAuditLoginAttempt_users ..
                exact ⟨.update user _ huser (.challenged hcheck) hwritten,
                  .kept ((recordAuditLoginAttempt_loginSessions ..).trans hsessions)⟩
              | false =>
                simp only [Bool.false_eq_true, ↓reduceIte]
                refine opened_login huser hcheck (assertUserCanLogin_active hcan) openSession_users
                  ⟨req.client, req.adminOnly, openSession_loginSessions.trans ?_⟩
                show db.loginSessions.insert _ = _
                rw [hsessions]

theorem verifyMfaLogin_write {req : MfaVerifyRequest} :
    LoginWrite env s draw (verifyMfaLogin env s draw req).1.db (.verifyMfaLogin req) := by
  unfold verifyMfaLogin
  cases hfound : getUserByEmail env s.db (env.lower req.email) with
  | none =>
    have hcheck : loginCheck env s draw (.verifyMfaLogin req) = none := by simp [loginCheck, hfound]
    exact kept_login hcheck (by simp) rfl rfl
  | some user =>
    have huser : s.db.users.find? user.id = some user := getUserByEmail_some hfound
    dsimp only
    cases hlocked : user.locked draw.now with
    | true =>
      obtain ⟨e, he⟩ := assertNotLocked_of_locked s.db hlocked
      have hcheck : loginCheck env s draw (.verifyMfaLogin req) = none := by
        simp [loginCheck, hfound, hlocked]
      rw [he]
      exact kept_login hcheck (by simp) rfl rfl
    | false =>
      -- a lock that has expired is cleared before the code is compared
      rw [assertNotLocked_of_not_locked huser hlocked]
      dsimp only
      rw [assertUserCanLogin_clearLock, clearLock_mfaEnabled, acceptCode_clearLock]
      have hcheck : loginCheck env s draw (.verifyMfaLogin req) =
          if mayVerify user req.adminOnly then
            some ⟨user.id, (acceptCode env s.redis draw.now user req.otp).1⟩ else none := by
        simp [loginCheck, hfound, hlocked]
      cases hcan : assertUserCanLogin user req.adminOnly with
      | error e =>
        have hmay : mayVerify user req.adminOnly = false := by
          simp [mayVerify, hcan, Except.isOk, Except.toBool]
        rw [hmay] at hcheck
        exact kept_login hcheck (by simp) rfl rfl
      | ok _ =>
        have hmay : mayVerify user req.adminOnly = user.mfaEnabled := by
          simp [mayVerify, hcan, Except.isOk, Except.toBool]
        rw [hmay] at hcheck
        cases hmfa : user.mfaEnabled with
        | false =>
          rw [hmfa] at hcheck
          exact kept_login hcheck (by simp) rfl rfl
        | true =>
          rw [hmfa] at hcheck
          simp only [Bool.not_true, Bool.false_eq_true, ↓reduceIte]
          generalize acceptCode env s.redis draw.now user req.otp = accepted at hcheck ⊢
          obtain ⟨accepted, redis⟩ := accepted
          cases accepted with
          | true =>
            exact opened_login huser hcheck (assertUserCanLogin_active hcan) openSession_users
              ⟨req.client, req.adminOnly, openSession_loginSessions⟩
          | false =>
            exact failed_login huser hcheck rejectLogin_users rejectLogin_loginSessions

/-! ### The logins that find or make an account -/

/-- `getOrCreateTenant` writes neither users nor sessions. -/
private theorem getOrCreateTenant_frame (env : AuthEnv τ) (draw : AuthDraw) (db : Db)
    (tenantName : Option String) (email : String) :
    (getOrCreateTenant env db draw tenantName email).2.users = db.users ∧
      (getOrCreateTenant env db draw tenantName email).2.loginSessions = db.loginSessions :=
  ⟨getOrCreateTenant_kept.2.2, getOrCreateTenant_kept.2.1⟩

private theorem Created.find?_insert {row : User} {req : AuthRequest} (h : Created env s draw req row)
    (hfresh : s.db.users.Fresh draw.userId) : (s.db.users.insert row).find? row.id = some row := by
  have hnew : s.db.users.Fresh (Keyed.key row) := by
    rw [show Keyed.key row = draw.userId from h.id_eq]
    exact hfresh
  rw [Table.find?_insert hnew]
  exact if_pos rfl

private theorem social_login {req : SocialLoginRequest} {profile : SocialProfile} {user : User}
    {tenantId : Uuid} {db : Db} (hprofile : verifyOauthToken env.lower req.reply req.provider = .ok profile)
    (hfound : getUserByEmail env s.db profile.email = some user)
    (htenant : ∀ t, user.tenantId = some t → tenantId = t)
    (husers : db.users = (s.db.users.update (linkSocial user (some tenantId) req.provider profile)).update
      (resetFailedLogin (linkSocial user (some tenantId) req.provider profile)))
    (hopens :
      OpensFor env s draw db (resetFailedLogin (linkSocial user (some tenantId) req.provider profile))) :
    LoginWrite env s draw db (.loginWithSocialProvider req) := by
  have huser : s.db.users.find? user.id = some user := getUserByEmail_some hfound
  have hkey : Keyed.key (linkSocial user (some tenantId) req.provider profile) =
      Keyed.key (resetFailedLogin (linkSocial user (some tenantId) req.provider profile)) := rfl
  rw [Table.update_update hkey] at husers
  constructor
  · exact .update user _ huser (.social tenantId hprofile hfound htenant hopens) husers
  · refine .opened _ (.social user tenantId hprofile hfound) ?_ hopens
    rw [husers]
    exact Table.find?_update_of_find? huser

/-- A stored user is given the data of the profile, and the default tenant unless it has one. -/
theorem socialAccount_of_found (draw : AuthDraw) (provider : SocialProvider) {profile : SocialProfile}
    {user : User} (hfound : getUserByEmail env s.db profile.email = some user) :
    ∃ tenantId db, socialAccount env draw s.db provider profile =
        .ok (linkSocial user (some tenantId) provider profile, db) ∧
      db.users = s.db.users.update (linkSocial user (some tenantId) provider profile) ∧
      db.loginSessions = s.db.loginSessions ∧ ∀ t, user.tenantId = some t → tenantId = t := by
  obtain ⟨htenantUsers, htenantSessions⟩ := getOrCreateTenant_frame env draw s.db none profile.email
  unfold socialAccount
  generalize getOrCreateTenant env s.db draw none profile.email = created at htenantUsers htenantSessions ⊢
  obtain ⟨tenant, db⟩ := created
  replace htenantUsers : db.users = s.db.users := htenantUsers
  replace htenantSessions : db.loginSessions = s.db.loginSessions := htenantSessions
  rw [hfound]
  cases htenant : user.tenantId with
  | some tenantId =>
    simp only [htenant]
    refine ⟨tenantId,
      { s.db with users := s.db.users.update (linkSocial user (some tenantId) provider profile) }, rfl, rfl,
      rfl, ?_⟩
    intro t ht
    exact Option.some.inj ht
  | none =>
    simp only [htenant]
    refine ⟨tenant.id,
      { db with users := db.users.update (linkSocial user (some tenant.id) provider profile) }, rfl, ?_,
      htenantSessions, nofun⟩
    rw [htenantUsers]

theorem loginWithSocialProvider_write {req : SocialLoginRequest} (hfresh : s.db.users.Fresh draw.userId) :
    LoginWrite env s draw (loginWithSocialProvider env s draw req).1.db (.loginWithSocialProvider req) := by
  have hkept : LoginWrite env s draw s.db (.loginWithSocialProvider req) :=
    kept_login rfl (fun _ h => by cases h) rfl rfl
  unfold loginWithSocialProvider
  cases hprofile : verifyOauthToken env.lower req.reply req.provider with
  | error e => exact hkept
  | ok profile =>
    dsimp only
    cases hfound : getUserByEmail env s.db profile.email with
    | none =>
      unfold socialAccount
      obtain ⟨htenantUsers, htenantSessions⟩ := getOrCreateTenant_frame env draw s.db none profile.email
      generalize getOrCreateTenant env s.db draw none profile.email = created
        at htenantUsers htenantSessions ⊢
      obtain ⟨tenant, db⟩ := created
      replace htenantUsers : db.users = s.db.users := htenantUsers
      replace htenantSessions : db.loginSessions = s.db.loginSessions := htenantSessions
      rw [hfound]
      dsimp only
      generalize hrow : ({ newUser draw profile.email profile.name
        (getPasswordHash env draw draw.socialPassword) .STAFF
          (some tenant.id) false req.provider.value with
        profilePictureUrl := profile.picture
        oauthSubject := profile.subject } : User) = row
      cases hadd : addUser db row with
      | error e => exact hkept
      | ok db' =>
        have hcreated : Created env s draw (.loginWithSocialProvider req) row := by
          rw [← hrow]
          exact .social tenant.id hprofile hfound
        have hstored := hcreated.find?_insert hfresh
        have hreset : resetFailedLogin row = row := by rw [← hrow]; rfl
        have husers : (openSession env s draw db' row req.client false row.email).1.db.users =
            s.db.users.insert row := by
          rw [openSession_users, addUser_ok hadd, hreset, ← htenantUsers]
          rw [← htenantUsers] at hstored
          exact Table.update_of_find? hstored
        refine ⟨.insert row hcreated husers, .opened row (.created hcreated) ?_ ⟨req.client, false, ?_⟩⟩
        · show (openSession env s draw db' row req.client false row.email).1.db.users.find? row.id = some row
          rw [husers]
          exact hstored
        · refine openSession_loginSessions.trans ?_
          rw [hreset, addUser_ok hadd, ← htenantSessions]
    | some user =>
      -- neither `is_active` nor the lock is asked
      obtain ⟨tenantId, db, haccount, husers, hsessions, htenant⟩ :=
        socialAccount_of_found draw req.provider hfound
      rw [haccount]
      refine social_login hprofile hfound htenant ?_ ⟨req.client, false, ?_⟩
      · rw [← husers]
        exact openSession_users
      · rw [← hsessions]
        exact openSession_loginSessions

/-- What a social login writes to a stored user. -/
theorem loginWithSocialProvider_users (draw : AuthDraw) {req : SocialLoginRequest} {profile : SocialProfile}
    {user : User} (hprofile : verifyOauthToken env.lower req.reply req.provider = .ok profile)
    (hfound : getUserByEmail env s.db profile.email = some user) :
    ∃ tenantId, (loginWithSocialProvider env s draw req).1.db.users =
      s.db.users.update (resetFailedLogin (linkSocial user (some tenantId) req.provider profile)) := by
  obtain ⟨tenantId, db, haccount, husers, _⟩ := socialAccount_of_found draw req.provider hfound
  have hkey : Keyed.key (linkSocial user (some tenantId) req.provider profile) =
      Keyed.key (resetFailedLogin (linkSocial user (some tenantId) req.provider profile)) := rfl
  refine ⟨tenantId, ?_⟩
  unfold loginWithSocialProvider
  rw [hprofile]
  dsimp only
  rw [haccount, ← Table.update_update hkey, ← husers]
  exact openSession_users

/-- A social login that comes to an account opens a session. -/
theorem loginWithSocialProvider_opens {req : SocialLoginRequest} {profile : SocialProfile}
    {row : User} {db : Db} (hprofile : verifyOauthToken env.lower req.reply req.provider = .ok profile)
    (haccount : socialAccount env draw s.db req.provider profile = .ok (row, db))
    (hfresh : s.db.users.Fresh draw.userId) :
    OpensFor env s draw (loginWithSocialProvider env s draw req).1.db (resetFailedLogin row) := by
  obtain ⟨_, hsessions, _, _⟩ := socialAccount_ok hfresh haccount
  unfold loginWithSocialProvider
  rw [hprofile]
  dsimp only
  rw [haccount]
  refine ⟨req.client, false, openSession_loginSessions.trans ?_⟩
  rw [hsessions]

theorem signup_write {req : SignupRequest} (hfresh : s.db.users.Fresh draw.userId) :
    LoginWrite env s draw (signup env s draw req).1.db (.signup req) := by
  have hkept : LoginWrite env s draw s.db (.signup req) := kept_login rfl (fun _ h => by cases h) rfl rfl
  unfold signup
  cases hfound : getUserByEmail env s.db req.email with
  | some _ => exact hkept
  | none =>
    obtain ⟨htenantUsers, htenantSessions⟩ :=
      getOrCreateTenant_frame env draw s.db req.tenantName req.email
    generalize getOrCreateTenant env s.db draw req.tenantName req.email = created
      at htenantUsers htenantSessions ⊢
    obtain ⟨tenant, db⟩ := created
    replace htenantUsers : db.users = s.db.users := htenantUsers
    replace htenantSessions : db.loginSessions = s.db.loginSessions := htenantSessions
    dsimp only
    generalize hrow : newUser draw (env.lower req.email) req.fullName
      (getPasswordHash env draw req.password) req.role
      (some tenant.id) false "password" = row
    cases hadd : addUser db row with
    | error e => exact hkept
    | ok db' =>
      have hcreated : Created env s draw (.signup req) row := by
        rw [← hrow]
        exact .signup tenant.id hfound
      have husers :
          (grantSession env draw db' row req.client false req.email).users = s.db.users.insert row := by
        unfold grantSession
        rw [recordAuditLoginAttempt_users]
        show db'.users = _
        rw [addUser_ok hadd, ← htenantUsers]
      have hsessions : (grantSession env draw db' row req.client false req.email).loginSessions =
          s.db.loginSessions.insert (newSession env draw row req.client false) := by
        unfold grantSession
        rw [recordAuditLoginAttempt_loginSessions]
        show db'.loginSessions.insert _ = _
        rw [addUser_ok hadd, ← htenantSessions]
      refine ⟨.insert row hcreated husers, .opened row (.created hcreated) ?_ ⟨req.client, false, hsessions⟩⟩
      show (grantSession env draw db' row req.client false req.email).users.find? row.id = some row
      rw [husers]
      exact hcreated.find?_insert hfresh

/-- A signup with an email that nobody has opens a session. -/
theorem signup_opens (draw : AuthDraw) {req : SignupRequest}
    (hfound : getUserByEmail env s.db req.email = none) :
    ∃ row, OpensFor env s draw (signup env s draw req).1.db row := by
  obtain ⟨htenantUsers, htenantSessions⟩ :=
    getOrCreateTenant_frame env draw s.db req.tenantName req.email
  unfold signup
  rw [hfound]
  generalize getOrCreateTenant env s.db draw req.tenantName req.email = created
    at htenantUsers htenantSessions ⊢
  obtain ⟨tenant, db⟩ := created
  replace htenantUsers : db.users = s.db.users := htenantUsers
  replace htenantSessions : db.loginSessions = s.db.loginSessions := htenantSessions
  dsimp only
  generalize hrow : newUser draw (env.lower req.email) req.fullName
    (getPasswordHash env draw req.password) req.role
    (some tenant.id) false "password" = row
  have hadd : addUser db row = .ok { db with users := db.users.insert row } := by
    have hemail : row.email = env.lower req.email := by rw [← hrow]; rfl
    unfold addUser
    rw [htenantUsers, hemail]
    unfold getUserByEmail at hfound
    rw [hfound]
    rfl
  rw [hadd]
  refine ⟨row, req.client, false, ?_⟩
  show (grantSession env draw _ row req.client false req.email).loginSessions = _
  unfold grantSession
  rw [recordAuditLoginAttempt_loginSessions]
  show db.loginSessions.insert _ = _
  rw [htenantSessions]

end

end RatingLift
