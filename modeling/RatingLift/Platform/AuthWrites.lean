import RatingLift.Auth.Registration
import RatingLift.Auth.RouteRuns
import RatingLift.Auth.Sessions
import RatingLift.Platform.Writes

/-!
# The writes of the authentication service

Every operation of the service is a sequence of the writes of the platform (`serve_writes`), and so are the
bootstrap of a startup (`seedAdminsUntil_writes`) and a request to the routes (`AuthHttp.handle_writes`).
-/

namespace RatingLift

open Library Fallible

/-- The keys and the `jti` that a request draws are not in use. -/
structure AuthDraw.Unused (draw : AuthDraw) (db : Db) : Prop where
  tenant : db.tenants.Fresh draw.tenantId
  user : db.users.Fresh draw.userId
  session : db.loginSessions.Fresh draw.sessionId
  jti : ∀ row ∈ db.loginSessions, row.jti ≠ some draw.jti

instance AuthDraw.decidableUnused (draw : AuthDraw) (db : Db) : Decidable (draw.Unused db) :=
  decidable_of_iff (db.tenants.Fresh draw.tenantId ∧ db.users.Fresh draw.userId ∧
    db.loginSessions.Fresh draw.sessionId ∧
    ∀ row ∈ db.loginSessions.rows, row.jti ≠ some draw.jti)
    ⟨fun ⟨htenant, huser, hsession, hjti⟩ => ⟨htenant, huser, hsession, hjti⟩,
      fun ⟨htenant, huser, hsession, hjti⟩ => ⟨htenant, huser, hsession, hjti⟩⟩

def Domain.OfAuth (now : Instant) : Domain → Prop
  | account | blocklist => True
  | loginAttempt timestamp => timestamp = now
  | auditLog entity timestamp => ¬ Traced entity ∧ timestamp = now
  | _ => False

/-- What the authentication service writes to. -/
def authDomains (now : Instant) : Set Domain := {d | d.OfAuth now}

abbrev AuthWrites (now : Instant) : Db → Db → Prop := DbWrites (authDomains now)

def Domain.OfSeeding (moments : Set Instant) : Domain → Prop
  | account => True
  | auditLog entity timestamp => ¬ Traced entity ∧ timestamp ∈ moments
  | _ => False

/-- What the bootstrap of the administrators writes to. -/
def seedDomains (moments : Set Instant) : Set Domain := {d | d.OfSeeding moments}

/-- The moments at which the administrators are seeded. -/
def seedMoments (entries : List (AdminSeed × AuthDraw)) : Set Instant :=
  {now | ∃ entry ∈ entries, entry.2.now = now}

section

variable {τ : Type} {env : AuthEnv τ} {s : AuthState} {draw : AuthDraw} {db db' : Db}

theorem AuthDraw.Unused.of_eq (h : draw.Unused db) (htenants : db'.tenants = db.tenants)
    (husers : db'.users = db.users) (hsessions : db'.loginSessions = db.loginSessions) : draw.Unused db' := by
  obtain ⟨htenant, huser, hsession, hjti⟩ := h
  rw [← htenants] at htenant
  rw [← husers] at huser
  rw [← hsessions] at hsession hjti
  exact ⟨htenant, huser, hsession, hjti⟩

/-! ### The steps of an operation -/

/-- A write of the row of a stored user that keeps the tenant. -/
theorem user_writes {moment : Instant} {old row : User} (hold : db.users.find? row.id = some old)
    (hfollows : old.Follows row) (htenant : row.tenantId = old.tenantId) :
    AuthWrites moment db { db with users := db.users.update row } :=
  .single (.user old row hold hfollows (Or.inl htenant)) trivial

theorem auditRow_writes {n : Nat} {actorId : Uuid} {actorType : ActorType} {action entity : String}
    {entityId : Uuid} {afterValue : Json} (hentity : ¬ Traced entity) :
    AuthWrites draw.now db (auditRow db draw n actorId actorType action entity entityId afterValue) :=
  .single (.auditLog _) ⟨hentity, rfl⟩

theorem commitUser_writes {old row : User} {action : String} {afterValue : Json}
    (hold : s.db.users.find? row.id = some old) (hfollows : old.Follows row)
    (htenant : row.tenantId = old.tenantId) :
    AuthWrites draw.now s.db (commitUser s draw row action afterValue).db :=
  (user_writes hold hfollows htenant).trans (auditRow_writes (by decide))

theorem commitRevoked_writes {user : User} {session : LoginSession} {action : String}
    (hsession : s.db.loginSessions.find? session.id = some session) :
    AuthWrites draw.now s.db (commitRevoked s draw user session action).db := by
  have hrevoked : AuthWrites draw.now s.db
      { s.db with loginSessions := s.db.loginSessions.update { session with revoked := true } } :=
    .single (.session session _ hsession ⟨rfl, fun _ => rfl⟩ (Or.inl rfl)) trivial
  exact hrevoked.trans (auditRow_writes (by decide))

theorem ensureIpAllowed_writes {ipAddress : Option String} {moment now : Instant}
    (h : ensureIpAllowed db ipAddress now = .ok db') : AuthWrites moment db db' := by
  have hchecked : AuthWrites moment db (isIpBlocked db ipAddress now).2 := by
    unfold isIpBlocked
    split
    · exact .refl
    split
    · exact .refl
    split
    · exact .single (.blocklist _) trivial
    · exact .refl
  unfold ensureIpAllowed at h
  generalize isIpBlocked db ipAddress now = checked at h hchecked
  obtain ⟨blocked, db₁⟩ := checked
  cases blocked with
  | true => cases h
  | false =>
    cases h
    exact hchecked

theorem registerFailedAttemptForIp_writes {ipAddress : Option String} {moment now : Instant} :
    AuthWrites moment db (registerFailedAttemptForIp db ipAddress now) := by
  unfold registerFailedAttemptForIp
  split
  · exact .refl
  dsimp only
  split
  · exact .refl
  · unfold blockIp
    dsimp only
    split <;> exact .single (.blocklist _) trivial

theorem recordAuditLoginAttempt_writes {email : String} {success : Bool} {ipAddress : Option String}
    {user : Option User} {reason : Option String} :
    AuthWrites draw.now db (recordAuditLoginAttempt env db draw email success ipAddress user reason) := by
  have hrecorded :
      AuthWrites draw.now db
        (recordLoginAttempt env.lower db draw.attemptId draw.now email ipAddress success reason) :=
    .single (.loginAttempt _) rfl
  unfold recordAuditLoginAttempt
  extract_lets recorded logged
  have hlogged : AuthWrites draw.now db logged :=
    hrecorded.trans (DbWrites.single (.auditLog _) ⟨show ¬ Traced "auth" by decide, rfl⟩)
  split
  · exact hlogged.trans registerFailedAttemptForIp_writes
  · exact hlogged

theorem assertNotLocked_writes {user user' : User} (hstored : db.users.find? user.id = some user)
    (h : assertNotLocked db draw user = .ok (user', db')) : AuthWrites draw.now db db' := by
  unfold assertNotLocked at h
  split at h
  · cases h
    exact .refl
  · split at h
    · cases h
    · cases h
      exact user_writes hstored ⟨rfl, rfl, rfl, fun _ ht => ht⟩ rfl

theorem trackFailedLogin_writes {redis : Redis} {user : Option User} {email : String}
    (hstored : ∀ u, user = some u → db.users.find? u.id = some u) :
    AuthWrites draw.now db (trackFailedLogin env db redis draw user email).2 := by
  cases user with
  | none => exact .refl
  | some u =>
    show AuthWrites draw.now db (registerFailureAndMaybeLock env db draw u)
    unfold registerFailureAndMaybeLock
    extract_lets counted lockedUntil locked
    split
    · have hlocked : AuthWrites draw.now db { db with users := db.users.update locked } :=
        user_writes (hstored u rfl) ⟨rfl, rfl, rfl, fun _ ht => ht⟩ rfl
      exact hlocked.trans (auditRow_writes (by decide))
    · exact user_writes (hstored u rfl) ⟨rfl, rfl, rfl, fun _ ht => ht⟩ rfl

/-- The tenant is there afterwards, and a new one has a new name. -/
theorem getOrCreateTenant_writes {tenantName : Option String} {email : String}
    (hfresh : db.tenants.Fresh draw.tenantId) :
    AuthWrites draw.now db (getOrCreateTenant env db draw tenantName email).2 ∧
      (getOrCreateTenant env db draw tenantName email).1 ∈
        (getOrCreateTenant env db draw tenantName email).2.tenants := by
  unfold getOrCreateTenant
  extract_lets requested tenant
  cases hfound : tenantNamed db requested with
  | some t => exact ⟨.refl, (Table.first_some hfound).1⟩
  | none =>
    have hname : tenant.name = requested := freeCandidate_of_unused hfound
    refine ⟨.single (.newTenant tenant hfresh ?_) trivial, (Table.mem_insert hfresh).mpr (Or.inr rfl)⟩
    intro t ht heq
    have hunused := Table.first_eq_none.mp hfound t ht
    simp [heq, hname] at hunused

theorem addUser_writes {moment : Instant} {user : User} (hfresh : db.users.Fresh user.id)
    (htenant : ∀ t, user.tenantId = some t → ∃ tenant ∈ db.tenants, tenant.id = t)
    (h : addUser db user = .ok db') :
    AuthWrites moment db db' := by
  unfold addUser at h
  split at h
  · cases h
  · rename_i hemail
    cases h
    refine .single (.newUser user hfresh ?_ htenant) trivial
    intro u hu heq
    have hnone : db.users.first (fun u => u.email == user.email) = none := by simpa using hemail
    have hfalse := Table.first_eq_none.mp hnone u hu
    simp [heq] at hfalse

theorem grantSession_writes {user : User} {client : ClientInfo} {adminToken : Bool} {email : String}
    (hsession : db.loginSessions.Fresh draw.sessionId)
    (hjti : ∀ row ∈ db.loginSessions, row.jti ≠ some draw.jti) (huser : ∃ u ∈ db.users, u.id = user.id) :
    AuthWrites draw.now db (grantSession env draw db user client adminToken email) := by
  have hopened : AuthWrites draw.now db (createSession env db draw user client adminToken) := by
    refine .single (.newSession (newSession env draw user client adminToken) hsession huser ?_) trivial
    intro jti heq
    cases heq
    exact hjti
  exact hopened.trans recordAuditLoginAttempt_writes

/-! ### How a login ends -/

theorem rejectLogin_writes {s₁ : AuthState} {user : Option User} {trackedEmail email reason : String}
    {client : ClientInfo} (hdb : AuthWrites draw.now s.db db)
    (hstored : ∀ u, user = some u → db.users.find? u.id = some u) :
    AuthWrites draw.now s.db (rejectLogin env s₁ draw db user trackedEmail email client reason).db := by
  have htracked : AuthWrites draw.now db (trackFailedLogin env db s₁.redis draw user trackedEmail).2 :=
    trackFailedLogin_writes hstored
  exact (hdb.trans htracked).trans recordAuditLoginAttempt_writes

theorem issueChallenge_writes {s₁ : AuthState} {user : User} {email : String} {client : ClientInfo}
    (hdb : AuthWrites draw.now s.db db) :
    AuthWrites draw.now s.db (issueChallenge env s₁ draw db user email client).1.db :=
  hdb.trans recordAuditLoginAttempt_writes

theorem openSession_writes {s₁ : AuthState} {user : User} {client : ClientInfo} {adminToken : Bool}
    {email : String} (hdb : AuthWrites draw.now s.db db) (hstored : db.users.find? user.id = some user)
    (hsession : db.loginSessions.Fresh draw.sessionId)
    (hjti : ∀ row ∈ db.loginSessions, row.jti ≠ some draw.jti) :
    AuthWrites draw.now s.db (openSession env s₁ draw db user client adminToken email).1.db := by
  have hreset : AuthWrites draw.now db { db with users := db.users.update (resetFailedLogin user) } :=
    user_writes hstored ⟨rfl, rfl, rfl, fun _ ht => ht⟩ rfl
  have hfound : (db.users.update (resetFailedLogin user)).find? user.id = some (resetFailedLogin user) :=
    Table.find?_update_of_find? hstored
  refine (hdb.trans hreset).trans (grantSession_writes hsession hjti ?_)
  exact ⟨resetFailedLogin user, (Table.find?_some hfound).1, rfl⟩

/-! ### Operations -/

theorem loginWithPassword_writes {req : LoginRequest} (hnew : draw.Unused s.db) :
    AuthWrites draw.now s.db (loginWithPassword env s draw req).1.db := by
  unfold loginWithPassword
  cases hip : ensureIpAllowed s.db req.client.ipAddress draw.now with
  | error e => exact .refl
  | ok db =>
    obtain ⟨hsessions, _, _⟩ := ensureIpAllowed_ok hip
    have hallowed : AuthWrites draw.now s.db db := ensureIpAllowed_writes hip
    dsimp only
    generalize checkLoginRateLimit env s.redis draw _ _ = limited
    obtain ⟨redis, allowed⟩ := limited
    cases allowed with
    | false => exact .refl
    | true =>
      simp only [Bool.not_true, Bool.false_eq_true, ↓reduceIte]
      cases hfound : getUserByEmail env db (env.lower req.email) with
      | none => exact rejectLogin_writes hallowed (by simp)
      | some stored =>
        dsimp only
        cases hlock : assertNotLocked db draw stored with
        | error e => exact .refl
        | ok unlocked =>
          obtain ⟨user, db₁⟩ := unlocked
          have hstored := getUserByEmail_some hfound
          obtain ⟨⟨lockedUntil, attempts, hsame⟩, _, hsessions₁, huser⟩ := assertNotLocked_ok hstored hlock
          have hid : user.id = stored.id := by rw [hsame]
          rw [← hid] at huser
          have hcleared : AuthWrites draw.now s.db db₁ :=
            hallowed.trans (assertNotLocked_writes hstored hlock)
          have hsessions' : db₁.loginSessions = s.db.loginSessions := hsessions₁.trans hsessions
          by_cases hpassword : verifyPassword env req.password user.passwordHash = true
          · simp only [hpassword, Bool.not_true, Bool.false_eq_true, ↓reduceIte]
            cases assertUserCanLogin user req.adminOnly with
            | error e => exact .refl
            | ok _ =>
              cases user.mfaEnabled with
              | true => exact issueChallenge_writes hcleared
              | false =>
                refine openSession_writes hcleared huser ?_ ?_
                · rw [hsessions']; exact hnew.session
                · rw [hsessions']; exact hnew.jti
          · simp only [hpassword, Bool.not_false, ↓reduceIte]
            refine rejectLogin_writes hcleared ?_
            intro u hu
            obtain rfl := Option.some.inj hu
            exact huser

theorem verifyMfaLogin_writes {req : MfaVerifyRequest} (hnew : draw.Unused s.db) :
    AuthWrites draw.now s.db (verifyMfaLogin env s draw req).1.db := by
  unfold verifyMfaLogin
  cases hfound : getUserByEmail env s.db (env.lower req.email) with
  | none => exact .refl
  | some stored =>
    dsimp only
    cases hlock : assertNotLocked s.db draw stored with
    | error e => exact .refl
    | ok unlocked =>
      obtain ⟨user, db⟩ := unlocked
      have hstored := getUserByEmail_some hfound
      obtain ⟨⟨lockedUntil, attempts, hsame⟩, _, hsessions, huser⟩ := assertNotLocked_ok hstored hlock
      have hid : user.id = stored.id := by rw [hsame]
      rw [← hid] at huser
      have hcleared : AuthWrites draw.now s.db db := assertNotLocked_writes hstored hlock
      dsimp only
      cases assertUserCanLogin user req.adminOnly with
      | error e => exact .refl
      | ok _ =>
        dsimp only
        split
        · exact .refl
        generalize acceptCode env s.redis draw.now user req.otp = checked
        obtain ⟨accepted, redis⟩ := checked
        cases accepted with
        | true =>
          refine openSession_writes hcleared huser ?_ ?_
          · rw [hsessions]; exact hnew.session
          · rw [hsessions]; exact hnew.jti
        | false =>
          refine rejectLogin_writes hcleared ?_
          intro u hu
          obtain rfl := Option.some.inj hu
          exact huser

theorem socialAccount_writes {provider : SocialProvider} {profile : SocialProfile} {user : User}
    (hnew : draw.Unused db) (h : socialAccount env draw db provider profile = .ok (user, db')) :
    AuthWrites draw.now db db' := by
  obtain ⟨hcreated, htenant⟩ : AuthWrites draw.now db (getOrCreateTenant env db draw none profile.email).2 ∧
      (getOrCreateTenant env db draw none profile.email).1 ∈
        (getOrCreateTenant env db draw none profile.email).2.tenants := getOrCreateTenant_writes hnew.tenant
  obtain ⟨_, _, husers⟩ : _ ∧ _ ∧ (getOrCreateTenant env db draw none profile.email).2.users = db.users :=
    getOrCreateTenant_kept
  unfold socialAccount at h
  generalize getOrCreateTenant env db draw none profile.email = created at hcreated htenant husers h
  obtain ⟨tenant, db₁⟩ := created
  have husers : db₁.users = db.users := husers
  cases hfound : getUserByEmail env db profile.email with
  | none =>
    rw [hfound] at h
    obtain ⟨db₂, hadd, h⟩ := bind_eq_ok.mp h
    obtain ⟨rfl, rfl⟩ := Prod.mk.inj (pure_eq_ok.mp h)
    refine hcreated.trans (addUser_writes ?_ ?_ hadd)
    · rw [husers]; exact hnew.user
    · intro t ht
      exact ⟨tenant, htenant, Option.some.inj ht⟩
  | some stored =>
    have hstored := getUserByEmail_some hfound
    rw [hfound] at h
    cases hold : stored.tenantId with
    | some tenantId =>
      simp only [hold] at h
      obtain ⟨rfl, rfl⟩ := Prod.mk.inj (Except.ok.inj h)
      exact user_writes hstored ⟨rfl, rfl, rfl, fun t ht => hold.symm.trans ht⟩ hold.symm
    | none =>
      simp only [hold] at h
      obtain ⟨rfl, rfl⟩ := Prod.mk.inj (Except.ok.inj h)
      have hstored₁ : db₁.users.find? stored.id = some stored := by rw [husers]; exact hstored
      refine hcreated.trans
        (DbWrites.single
          (.user stored _ hstored₁ ⟨rfl, rfl, rfl, ?_⟩ (Or.inr ⟨tenant, htenant, rfl⟩)) trivial)
      intro t ht
      rw [hold] at ht
      cases ht

theorem loginWithSocialProvider_writes {req : SocialLoginRequest} (hnew : draw.Unused s.db) :
    AuthWrites draw.now s.db (loginWithSocialProvider env s draw req).1.db := by
  unfold loginWithSocialProvider
  cases verifyOauthToken env.lower req.reply req.provider with
  | error e => exact .refl
  | ok profile =>
    dsimp only
    cases haccount : socialAccount env draw s.db req.provider profile with
    | error e => exact .refl
    | ok account =>
      obtain ⟨user, db⟩ := account
      obtain ⟨_, hsessions, huser, _⟩ := socialAccount_ok hnew.user haccount
      have hsessions : db.loginSessions = s.db.loginSessions := hsessions
      refine openSession_writes (socialAccount_writes hnew haccount) huser ?_ ?_
      · rw [hsessions]; exact hnew.session
      · rw [hsessions]; exact hnew.jti

theorem signup_writes {req : SignupRequest} (hnew : draw.Unused s.db) :
    AuthWrites draw.now s.db (signup env s draw req).1.db := by
  unfold signup
  cases getUserByEmail env s.db req.email with
  | some _ => exact .refl
  | none =>
    obtain ⟨hcreated, htenant⟩ :
        AuthWrites draw.now s.db (getOrCreateTenant env s.db draw req.tenantName req.email).2 ∧
        (getOrCreateTenant env s.db draw req.tenantName req.email).1 ∈
          (getOrCreateTenant env s.db draw req.tenantName req.email).2.tenants :=
      getOrCreateTenant_writes hnew.tenant
    obtain ⟨_, hsessions, husers⟩ :
        _ ∧ (getOrCreateTenant env s.db draw req.tenantName req.email).2.loginSessions = s.db.loginSessions ∧
          (getOrCreateTenant env s.db draw req.tenantName req.email).2.users = s.db.users :=
      getOrCreateTenant_kept
    generalize getOrCreateTenant env s.db draw req.tenantName req.email = created
      at hcreated htenant hsessions husers ⊢
    obtain ⟨tenant, db⟩ := created
    have husers : db.users = s.db.users := husers
    have hsessions : db.loginSessions = s.db.loginSessions := hsessions
    dsimp only
    split
    · exact .refl
    · rename_i db₁ hadd
      have hfresh : db.users.Fresh draw.userId := by rw [husers]; exact hnew.user
      have hadded : AuthWrites draw.now db db₁ :=
        addUser_writes hfresh (fun t ht => ⟨tenant, htenant, Option.some.inj ht⟩) hadd
      have hfound := addUser_find hfresh hadd
      have hsessions₁ : db₁.loginSessions = s.db.loginSessions := by
        rw [addUser_ok hadd]
        exact hsessions
      refine (hcreated.trans hadded).trans (grantSession_writes ?_ ?_ ⟨_, (Table.find?_some hfound).1, rfl⟩)
      · rw [hsessions₁]; exact hnew.session
      · rw [hsessions₁]; exact hnew.jti

theorem addMfaChannel_writes {user : User} {channel destination : String}
    (hstored : s.db.users.find? user.id = some user) :
    AuthWrites draw.now s.db (addMfaChannel env s draw user channel destination).1.db := by
  unfold addMfaChannel
  cases hchange : channelChange env user channel destination with
  | error e => exact .refl
  | ok change =>
    obtain ⟨row, purpose, deliver⟩ := change
    have hrow : user.Follows row ∧ row.id = user.id ∧ row.tenantId = user.tenantId := by
      rcases channelChange_cases hchange with ⟨_, _, rfl⟩ | ⟨_, _, rfl⟩
      · exact ⟨⟨rfl, rfl, rfl, fun _ ht => ht⟩, rfl, rfl⟩
      · exact ⟨⟨rfl, rfl, rfl, fun _ ht => ht⟩, rfl, rfl⟩
    obtain ⟨hfollows, hid, htenant⟩ := hrow
    have hold : s.db.users.find? row.id = some user := by rw [hid]; exact hstored
    exact commitUser_writes (s := { s with
      redis := generateAndStoreOtp env s.redis draw row.id purpose
      outbox := s.outbox ++ [deliver draw.otp] }) hold hfollows htenant

theorem verifyMfaChannel_writes {user : User} {channel otp : String}
    (hstored : s.db.users.find? user.id = some user) :
    AuthWrites draw.now s.db (verifyMfaChannel s draw user channel otp).1.db := by
  unfold verifyMfaChannel
  cases channelPurpose user channel with
  | error e => exact .refl
  | ok purpose =>
    dsimp only
    generalize verifyStoredOtp s.redis draw.now user.id otp purpose = verified
    obtain ⟨accepted, redis⟩ := verified
    cases accepted with
    | false => exact .refl
    | true =>
      have hold : s.db.users.find? (markVerified user channel).id = some user := by
        rw [markVerified_id]
        exact hstored
      have hfollows : user.Follows (markVerified user channel) ∧
          (markVerified user channel).tenantId = user.tenantId := by
        unfold markVerified
        split <;> exact ⟨⟨rfl, rfl, rfl, fun _ ht => ht⟩, rfl⟩
      exact commitUser_writes (s := { s with redis := redis }) hold hfollows.1 hfollows.2

theorem enableMfa_writes {user : User} (hstored : s.db.users.find? user.id = some user) :
    AuthWrites draw.now s.db (enableMfa s draw user).1.db := by
  unfold enableMfa
  split
  · exact .refl
  · exact commitUser_writes hstored ⟨rfl, rfl, rfl, fun _ ht => ht⟩ rfl

theorem disableMfa_writes {user : User} (hstored : s.db.users.find? user.id = some user) :
    AuthWrites draw.now s.db (disableMfa s draw user).1.db :=
  commitUser_writes hstored ⟨rfl, rfl, rfl, fun _ ht => ht⟩ rfl

theorem requestEmailVerification_writes {user : User} :
    AuthWrites draw.now s.db (requestEmailVerification env s draw user).1.db := by
  unfold requestEmailVerification
  cases user.emailVerified <;> exact .refl

theorem verifyEmailToken_writes {token : String} :
    AuthWrites draw.now s.db (verifyEmailToken s draw token).1.db := by
  unfold verifyEmailToken
  generalize consumeToken s.redis draw.now .emailVerify token = consumed
  obtain ⟨userId, redis⟩ := consumed
  dsimp only
  cases huser : tokenUser s.db userId with
  | error e => exact .refl
  | ok user =>
    have hstored : s.db.users.find? user.id = some user := tokenUser_ok huser
    exact commitUser_writes (s := { s with redis := redis }) hstored ⟨rfl, rfl, rfl, fun _ ht => ht⟩ rfl

theorem requestPasswordReset_writes {email : String} :
    AuthWrites draw.now s.db (requestPasswordReset env s draw email).1.db := by
  unfold requestPasswordReset
  split
  · exact .refl
  · exact auditRow_writes (by decide)

theorem resetPassword_writes {token newPassword : String} :
    AuthWrites draw.now s.db (resetPassword env s draw token newPassword).1.db := by
  unfold resetPassword
  generalize consumeToken s.redis draw.now .passwordReset token = consumed
  obtain ⟨userId, redis⟩ := consumed
  dsimp only
  cases huser : tokenUser s.db userId with
  | error e => exact .refl
  | ok user =>
    have hstored : s.db.users.find? user.id = some user := tokenUser_ok huser
    have hrevoked : AuthWrites draw.now s.db (revokeAll s.db user.id) := .single (.revokeAll user.id) trivial
    exact hrevoked.trans
      (commitUser_writes (s := { s with db := revokeAll s.db user.id, redis := redis }) hstored
      ⟨rfl, rfl, rfl, fun _ ht => ht⟩ rfl)

theorem refreshAccessToken_writes {refreshToken : String} {ipAddress : Option String}
    (hnew : draw.Unused s.db) :
    AuthWrites draw.now s.db (refreshAccessToken env s draw refreshToken ipAddress).1.db := by
  unfold refreshAccessToken
  cases hfound : refreshable env s.db draw.now refreshToken with
  | error e => exact .refl
  | ok found =>
    obtain ⟨session, user⟩ := found
    refine .single (.session session (rotate env draw session user ipAddress) (refreshable_find hfound).1
      ⟨rfl, fun h => h⟩ (Or.inr ?_)) trivial
    intro jti heq
    cases heq
    exact hnew.jti

theorem logout_writes {user : User} {jti refreshToken : Option String} :
    AuthWrites draw.now s.db (logout env s draw user jti refreshToken).1.db := by
  unfold logout
  cases hsession : logoutSession env s.db user jti refreshToken with
  | none => exact .refl
  | some session => exact commitRevoked_writes (logoutSession_some hsession)

theorem revokeSession_writes {user : User} {sessionId : String} :
    AuthWrites draw.now s.db (revokeSession s draw user sessionId).1.db := by
  unfold revokeSession
  cases Uuid.parse sessionId with
  | none => exact .refl
  | some sid =>
    dsimp only
    cases hsession : s.db.loginSessions.first fun r => r.id == sid && r.userId == user.id with
    | none => exact .refl
    | some session => exact commitRevoked_writes (Table.mem_iff_find?.mp (Table.first_some hsession).1)

theorem setupTotp_writes {user : User} (hstored : s.db.users.find? user.id = some user) :
    AuthWrites draw.now s.db (setupTotp env s draw user).1.db :=
  commitUser_writes hstored ⟨rfl, rfl, rfl, fun _ ht => ht⟩ rfl

theorem verifyTotp_writes {user : User} {code : String} (hstored : s.db.users.find? user.id = some user) :
    AuthWrites draw.now s.db (verifyTotp env s draw user code).1.db := by
  unfold verifyTotp
  split
  · exact .refl
  split
  · exact .refl
  · exact commitUser_writes hstored ⟨rfl, rfl, rfl, fun _ ht => ht⟩ rfl

theorem createAdmin_writes {actor : User} {email password : String} {fullName : Option String}
    {role : UserRole} (hnew : draw.Unused s.db) :
    AuthWrites draw.now s.db (createAdmin env s draw actor email password fullName role).1.db := by
  unfold createAdmin
  split
  · exact .refl
  extract_lets email'
  cases getUserByEmail env s.db email' with
  | some _ => exact .refl
  | none =>
    dsimp only
    split
    · exact .refl
    · rename_i db hadd
      have hadded : AuthWrites draw.now s.db db := addUser_writes hnew.user (fun t ht => by cases ht) hadd
      exact hadded.trans (auditRow_writes (by decide))

/-! ### Every operation -/

/-- What an operation makes of its reply does not matter to the database. -/
theorem writes_map {α β : Type} {f : α → β} {out : AuthState × α} (h : AuthWrites draw.now s.db out.1.db) :
    AuthWrites draw.now s.db (out.map id f).1.db := h

theorem withUser_writes {α : Type} {f : α → Except Exn (AuthReply τ)} {userId : Uuid}
    {run : User → AuthState × α}
    (h : ∀ user : User, s.db.users.find? user.id = some user → AuthWrites draw.now s.db (run user).1.db) :
    AuthWrites draw.now s.db (withUser s userId fun user => (run user).map id f).1.db := by
  unfold withUser
  cases hfind : s.db.users.find? userId with
  | none => exact .refl
  | some user =>
    have hid : user.id = userId := (Table.find?_some hfind).2
    exact writes_map (h user (by rw [hid]; exact hfind))

/-- An operation of the service is a sequence of writes. -/
theorem serve_writes {req : AuthRequest} (hnew : draw.Unused s.db) :
    AuthWrites draw.now s.db (req.serve env s draw).1.db := by
  cases req with
  | signup req => exact writes_map (signup_writes hnew)
  | loginWithPassword req => exact writes_map (loginWithPassword_writes hnew)
  | verifyMfaLogin req => exact writes_map (verifyMfaLogin_writes hnew)
  | loginWithSocialProvider req => exact writes_map (loginWithSocialProvider_writes hnew)
  | addMfaChannel userId channel destination =>
    exact withUser_writes fun _ hstored => addMfaChannel_writes hstored
  | verifyMfaChannel userId channel otp =>
    exact withUser_writes fun _ hstored => verifyMfaChannel_writes hstored
  | enableMfa userId => exact withUser_writes fun _ hstored => enableMfa_writes hstored
  | disableMfa userId => exact withUser_writes fun _ hstored => disableMfa_writes hstored
  | requestEmailVerification userId => exact withUser_writes fun _ _ => requestEmailVerification_writes
  | verifyEmailToken token => exact writes_map verifyEmailToken_writes
  | requestPasswordReset email => exact writes_map requestPasswordReset_writes
  | resetPassword token newPassword => exact writes_map resetPassword_writes
  | refreshAccessToken refreshToken ipAddress => exact writes_map (refreshAccessToken_writes hnew)
  | logout userId jti refreshToken => exact withUser_writes fun _ _ => logout_writes
  | revokeSession userId sessionId => exact withUser_writes fun _ _ => revokeSession_writes
  | setupTotp userId => exact withUser_writes fun _ hstored => setupTotp_writes hstored
  | verifyTotp userId code => exact withUser_writes fun _ hstored => verifyTotp_writes hstored
  | createAdmin actorId email password fullName role =>
    exact withUser_writes fun _ _ => createAdmin_writes hnew

/-! ### Startups and routes -/

theorem seedOne_writes {moments : Set Instant} (hnow : draw.now ∈ moments) {entry : AdminSeed} :
    DbWrites (seedDomains moments) db (seedOne env db draw entry).2 := by
  unfold seedOne
  extract_lets email
  split
  · exact .refl
  split
  · exact .refl
  rename_i role _
  split
  · exact .refl
  · rename_i hnone
    extract_lets admin added
    have hadded : DbWrites (seedDomains moments) db added := by
      by_cases hfresh : db.users.Fresh admin.id
      · refine .single (.newUser admin hfresh ?_ fun t ht => by cases ht) trivial
        intro u hu heq
        have hfalse := Table.first_eq_none.mp hnone u hu
        have hemail : admin.email = email := rfl
        simp [heq, hemail] at hfalse
      · -- a key in use, which the database never generates, adds no row
        obtain ⟨user, huser⟩ := Option.ne_none_iff_exists'.mp fun h => hfresh (Table.fresh_iff_find?.mpr h)
        have hsame : added = db := by
          show { db with users := db.users.insert admin } = db
          rw [Table.insert_of_find? huser]
        rw [hsame]
    exact hadded.trans (DbWrites.single (.auditLog _) ⟨show ¬ Traced "user" by decide, hnow⟩)

theorem seedAdminsUntil_writes (fault : AdminSeed → Option SeedFault)
    (entries : List (AdminSeed × AuthDraw)) :
    ∀ (seen : List String) (db : Db),
      DbWrites (seedDomains (seedMoments entries)) db (seedAdminsUntil env fault seen db entries).1 := by
  induction entries with
  | nil => exact fun _ _ => .refl
  | cons x entries ih =>
    have hrest : ∀ d ∈ seedDomains (seedMoments entries), d ∈ seedDomains (seedMoments (x :: entries)) := by
      intro d hd
      cases d with
      | auditLog entity timestamp =>
        obtain ⟨hentity, entry, hmem, hnow⟩ := hd
        exact ⟨hentity, entry, List.mem_cons_of_mem _ hmem, hnow⟩
      | _ => exact hd
    have hnow : x.2.now ∈ seedMoments (x :: entries) := ⟨x, List.mem_cons_self, rfl⟩
    intro seen db
    unfold seedAdminsUntil
    split
    · exact (ih seen db).mono hrest
    split
    · exact .refl
    · rename_i db' hstep
      obtain ⟨_, rfl⟩ := seedAdmin_ok hstep
      exact (seedOne_writes hnow).trans ((ih _ _).mono hrest)

end

/-- A request to the routes is a sequence of writes. -/
theorem AuthHttp.handle_writes {τ : Type} {env : AuthRouteEnv τ} {s : AuthState} {draw : AuthDraw}
    {http : AuthHttp τ} (hnew : draw.Unused s.db) :
    AuthWrites draw.now s.db (http.handle env s draw).1.db := by
  rw [handle_state]
  cases http.operation env s draw with
  | none => exact .refl
  | some req => exact serve_writes hnew

end RatingLift
