import RatingLift.Auth.IpBlocks
import RatingLift.Security.IpBlocking

/-!
# What counts against an address

Only the two operations that compare a credential record failures and write the blocklist
(`serve_recordsNoFailure`). `verify_mfa_login` counts a wrong code; it does not look up the address before
(`verifyMfaLogin_records`). `login_with_password` counts a wrong password, and a right one for which it issues
an MFA challenge (`loginWithPassword_counts`).
-/

namespace RatingLift

open Library

theorem addressBlocked_iff {db : Db} {now : Instant} {a : String} :
    addressBlocked db now a = true ↔ Expiry.at now < blockedUntil db a := by
  unfold addressBlocked blockedUntil
  by_cases ha : a = ""
  · simp [ha]
  · cases db.ipBlocklist.find? a with
    | none => simp [ha]
    | some row =>
      cases hexpires : row.expiresAt with
      | none => simp [ha, hexpires, IpBlocklist.expiry, Expiry.at_lt_top]
      | some t => simp [ha, hexpires, IpBlocklist.expiry, Expiry.at_lt_at]

section

variable {τ : Type} {env : AuthEnv τ} {db : Db} {s : AuthState} {draw : AuthDraw}

/-! ### Requests that leave the blocklist as it is -/

/-- The blocklist stays, and so do the failed attempts of every address. -/
structure RecordsNoFailure (db db' : Db) : Prop where
  blocks : db'.ipBlocklist = db.ipBlocklist
  failures : ∀ a, failureTimes db' a = failureTimes db a

theorem RecordsNoFailure.of_eq {db' : Db} (hblocks : db'.ipBlocklist = db.ipBlocklist)
    (hattempts : db'.loginAttempts = db.loginAttempts) : RecordsNoFailure db db' :=
  ⟨hblocks, fun _ => failureTimes_congr hattempts⟩

theorem getOrCreateTenant_quiet (env : AuthEnv τ) (db : Db) (draw : AuthDraw) (tenantName : Option String)
    (email : String) :
    (getOrCreateTenant env db draw tenantName email).2.ipBlocklist = db.ipBlocklist ∧
      (getOrCreateTenant env db draw tenantName email).2.loginAttempts = db.loginAttempts := by
  unfold getOrCreateTenant
  extract_lets requested tenant
  cases tenantNamed db requested with
  | some t => exact ⟨rfl, rfl⟩
  | none => exact ⟨rfl, rfl⟩

theorem socialAccount_quiet {db' : Db} {provider : SocialProvider} {profile : SocialProfile} {user : User}
    (h : socialAccount env draw db provider profile = .ok (user, db')) :
    db'.ipBlocklist = db.ipBlocklist ∧ db'.loginAttempts = db.loginAttempts := by
  have hcreated := getOrCreateTenant_quiet env db draw none profile.email
  unfold socialAccount at h
  generalize getOrCreateTenant env db draw none profile.email = created at hcreated h
  obtain ⟨tenant, db₁⟩ := created
  cases hfound : getUserByEmail env db profile.email with
  | none =>
    rw [hfound] at h
    obtain ⟨db₂, hadd, h⟩ := Fallible.bind_eq_ok.mp h
    obtain ⟨rfl, rfl⟩ := Prod.mk.inj (Fallible.pure_eq_ok.mp h)
    rw [addUser_ok hadd]
    exact hcreated
  | some stored =>
    rw [hfound] at h
    cases htenant : stored.tenantId with
    | some tenantId =>
      simp only [htenant] at h
      obtain ⟨rfl, rfl⟩ := Prod.mk.inj (Except.ok.inj h)
      exact ⟨rfl, rfl⟩
    | none =>
      simp only [htenant] at h
      obtain ⟨rfl, rfl⟩ := Prod.mk.inj (Except.ok.inj h)
      exact hcreated

/-- A session is granted with the record of a success. -/
theorem grantSession_recordsNoFailure {db₁ : Db} (user : User) (client : ClientInfo) (adminToken : Bool)
    (email : String) (hblocks : db₁.ipBlocklist = db.ipBlocklist)
    (hattempts : db₁.loginAttempts = db.loginAttempts) (hfresh : db.loginAttempts.Fresh draw.attemptId) :
    RecordsNoFailure db (grantSession env draw db₁ user client adminToken email) := by
  refine ⟨hblocks, ?_⟩
  intro a
  have hfresh₁ : db₁.loginAttempts.Fresh draw.attemptId := by
    rw [hattempts]
    exact hfresh
  have hsuccess : failureTimes
      (recordLoginAttempt env.lower db₁ draw.attemptId draw.now email client.ipAddress true none) a =
      failureTimes db₁ a := failureTimes_success hfresh₁
  exact hsuccess.trans (failureTimes_congr hattempts)

theorem withUser_recordsNoFailure {α : Type} {userId : Uuid} {run : User → AuthState × Except Exn α}
    {reply : Except Exn α → Except Exn (AuthReply τ)} (h : ∀ user, RecordsNoFailure s.db (run user).1.db) :
    RecordsNoFailure s.db (withUser s userId fun user => (run user).map id reply).1.db := by
  unfold withUser
  cases s.db.users.find? userId with
  | none => exact .of_eq rfl rfl
  | some user => exact h user

theorem signup_recordsNoFailure (req : SignupRequest) (hfresh : s.db.loginAttempts.Fresh draw.attemptId) :
    RecordsNoFailure s.db (signup env s draw req).1.db := by
  have hcreated := getOrCreateTenant_quiet env s.db draw req.tenantName req.email
  unfold signup
  cases getUserByEmail env s.db req.email with
  | some _ => exact .of_eq rfl rfl
  | none =>
    generalize getOrCreateTenant env s.db draw req.tenantName req.email = created at hcreated
    obtain ⟨tenant, db⟩ := created
    dsimp only
    generalize newUser draw (env.lower req.email) req.fullName
      (getPasswordHash env draw req.password) req.role
      (some tenant.id) false "password" = user
    cases hadd : addUser db user with
    | error e => exact .of_eq rfl rfl
    | ok db' =>
      rw [addUser_ok hadd]
      exact grantSession_recordsNoFailure user req.client false req.email hcreated.1 hcreated.2 hfresh

theorem loginWithSocialProvider_recordsNoFailure (req : SocialLoginRequest)
    (hfresh : s.db.loginAttempts.Fresh draw.attemptId) :
    RecordsNoFailure s.db (loginWithSocialProvider env s draw req).1.db := by
  unfold loginWithSocialProvider
  cases verifyOauthToken env.lower req.reply req.provider with
  | error e => exact .of_eq rfl rfl
  | ok profile =>
    dsimp only
    cases haccount : socialAccount env draw s.db req.provider profile with
    | error e => exact .of_eq rfl rfl
    | ok account =>
      obtain ⟨user, db⟩ := account
      obtain ⟨hblocks, hattempts⟩ := socialAccount_quiet haccount
      exact grantSession_recordsNoFailure (resetFailedLogin user) req.client false user.email hblocks
        hattempts hfresh

theorem verifyMfaChannel_recordsNoFailure (user : User) (channel otp : String) :
    RecordsNoFailure s.db (verifyMfaChannel s draw user channel otp).1.db := by
  unfold verifyMfaChannel
  cases channelPurpose user channel with
  | error e => exact .of_eq rfl rfl
  | ok purpose =>
    dsimp only
    by_cases haccepted : (verifyStoredOtp s.redis draw.now user.id otp purpose).1 = true
    · simp only [haccepted, Bool.not_true, Bool.false_eq_true, ↓reduceIte]
      exact .of_eq rfl rfl
    · simp only [haccepted, Bool.not_false, ↓reduceIte]
      exact .of_eq rfl rfl

theorem revokeSession_recordsNoFailure (user : User) (sessionId : String) :
    RecordsNoFailure s.db (revokeSession s draw user sessionId).1.db := by
  unfold revokeSession
  cases Uuid.parse sessionId with
  | none => exact .of_eq rfl rfl
  | some sid =>
    dsimp only
    cases s.db.loginSessions.first fun r => r.id == sid && r.userId == user.id with
    | none => exact .of_eq rfl rfl
    | some session => exact .of_eq rfl rfl

theorem createAdmin_recordsNoFailure (actor : User) (email password : String) (fullName : Option String)
    (role : UserRole) :
    RecordsNoFailure s.db (createAdmin env s draw actor email password fullName role).1.db := by
  unfold createAdmin
  split
  · exact .of_eq rfl rfl
  · extract_lets email' user
    cases getUserByEmail env s.db email' with
    | some _ => exact .of_eq rfl rfl
    | none =>
      dsimp only
      cases hadd : addUser s.db user with
      | error e => exact .of_eq rfl rfl
      | ok db =>
        rw [addUser_ok hadd]
        exact .of_eq rfl rfl

/-- Only a login that compares a password or a code records a failure or writes the blocklist. -/
theorem serve_recordsNoFailure {req : AuthRequest} (h : req.comparesCredential = false)
    (hfresh : s.db.loginAttempts.Fresh draw.attemptId) :
    RecordsNoFailure s.db (req.serve env s draw).1.db := by
  cases req with
  | signup req => exact signup_recordsNoFailure req hfresh
  | loginWithPassword req => cases h
  | verifyMfaLogin req => cases h
  | loginWithSocialProvider req => exact loginWithSocialProvider_recordsNoFailure req hfresh
  | addMfaChannel userId channel destination =>
    refine withUser_recordsNoFailure ?_
    intro user
    unfold addMfaChannel
    cases channelChange env user channel destination with
    | error e => exact .of_eq rfl rfl
    | ok change => exact .of_eq rfl rfl
  | verifyMfaChannel userId channel otp =>
    exact withUser_recordsNoFailure fun user => verifyMfaChannel_recordsNoFailure user channel otp
  | enableMfa userId =>
    refine withUser_recordsNoFailure ?_
    intro user
    unfold enableMfa
    split
    · exact .of_eq rfl rfl
    · exact .of_eq rfl rfl
  | disableMfa userId =>
    refine withUser_recordsNoFailure ?_
    intro user
    exact .of_eq rfl rfl
  | requestEmailVerification userId =>
    refine withUser_recordsNoFailure ?_
    intro user
    unfold requestEmailVerification
    split
    · exact .of_eq rfl rfl
    · exact .of_eq rfl rfl
  | verifyEmailToken token =>
    show RecordsNoFailure s.db (verifyEmailToken s draw token).1.db
    unfold verifyEmailToken
    dsimp only
    cases tokenUser s.db _ with
    | error e => exact .of_eq rfl rfl
    | ok user => exact .of_eq rfl rfl
  | requestPasswordReset email =>
    show RecordsNoFailure s.db (requestPasswordReset env s draw email).1.db
    unfold requestPasswordReset
    cases getUserByEmail env s.db (env.lower email) with
    | none => exact .of_eq rfl rfl
    | some user => exact .of_eq rfl rfl
  | resetPassword token newPassword =>
    show RecordsNoFailure s.db (resetPassword env s draw token newPassword).1.db
    unfold resetPassword
    dsimp only
    cases tokenUser s.db _ with
    | error e => exact .of_eq rfl rfl
    | ok user => exact .of_eq rfl rfl
  | refreshAccessToken refreshToken ipAddress =>
    show RecordsNoFailure s.db (refreshAccessToken env s draw refreshToken ipAddress).1.db
    unfold refreshAccessToken
    cases refreshable env s.db draw.now refreshToken with
    | error e => exact .of_eq rfl rfl
    | ok found => exact .of_eq rfl rfl
  | logout userId jti refreshToken =>
    refine withUser_recordsNoFailure ?_
    intro user
    unfold logout
    cases logoutSession env s.db user jti refreshToken with
    | none => exact .of_eq rfl rfl
    | some session => exact .of_eq rfl rfl
  | revokeSession userId sessionId =>
    exact withUser_recordsNoFailure fun user => revokeSession_recordsNoFailure user sessionId
  | setupTotp userId =>
    refine withUser_recordsNoFailure ?_
    intro user
    exact .of_eq rfl rfl
  | verifyTotp userId code =>
    refine withUser_recordsNoFailure ?_
    intro user
    unfold verifyTotp
    cases user.totpSecret.filter (· ≠ "") with
    | none => exact .of_eq rfl rfl
    | some secret =>
      dsimp only
      split
      · exact .of_eq rfl rfl
      · exact .of_eq rfl rfl
  | createAdmin actorId email password fullName role =>
    exact withUser_recordsNoFailure fun actor =>
      createAdmin_recordsNoFailure actor email password fullName role

/-! ### What a recorded failure leaves -/

variable {db' : Db} {ip : Option String}

/-- A failure of one address was recorded; it blocks the address where it reaches the threshold. -/
structure RecordsFailure (db db' : Db) (ip : Option String) (now : Instant) : Prop where
  failures : ∀ b, failureTimes db' b = failureTimes db b ++ if ip = some b then [now] else []
  listed : ∀ b, ip = some b → b ≠ "" → defaultFailureThreshold ≤ recentFailuresForIp db b now + 1 →
    ∃ row, row.expiry = Expiry.at (now + seconds blockDurationSeconds) ∧ db'.ipBlocklist.find? b = some row
  kept : ∀ b, (ip = some b → b ≠ "" → recentFailuresForIp db b now + 1 < defaultFailureThreshold) →
    db'.ipBlocklist.find? b = db.ipBlocklist.find? b

theorem recordFailure_effect (env : AuthEnv τ) (email : String) (ip : Option String) (user : Option User)
    (reason : Option String) (hfresh : db.loginAttempts.Fresh draw.attemptId) :
    RecordsFailure db (recordAuditLoginAttempt env db draw email false ip user reason) ip draw.now := by
  unfold recordAuditLoginAttempt
  extract_lets db₁ db₂
  have hfailures : ∀ b, failureTimes db₂ b = failureTimes db b ++ if ip = some b then [draw.now] else [] := by
    intro b
    exact failureTimes_record hfresh
  have hcount : ∀ b, ip = some b →
      recentFailuresForIp db₂ b draw.now = recentFailuresForIp db b draw.now + 1 := by
    rintro b rfl
    exact recentFailuresForIp_record hfresh
  by_cases hip : ip.any (· ≠ "") = true
  · simp only [hip, Bool.not_false, Bool.and_self, ↓reduceIte]
    have hattempts : (registerFailedAttemptForIp db₂ ip draw.now).loginAttempts = db₂.loginAttempts :=
      registerFailedAttemptForIp_loginAttempts
    refine ⟨fun b => (failureTimes_congr hattempts).trans (hfailures b), ?_, ?_⟩
    · rintro b rfl hb hmany
      obtain ⟨row, hexpiry, hfind⟩ := registerFailedAttemptForIp_listed hb ((hcount b rfl).symm ▸ hmany)
      exact ⟨row, hexpiry, (hfind b).trans (if_pos rfl)⟩
    · intro b hfew
      by_cases hmany : ∀ c, ip = some c → c ≠ "" →
        recentFailuresForIp db₂ c draw.now < defaultFailureThreshold
      · rw [registerFailedAttemptForIp_of_few hmany]
        rfl
      · push Not at hmany
        obtain ⟨c, rfl, hc, hmany⟩ := hmany
        obtain ⟨row, _, hfind⟩ := registerFailedAttemptForIp_listed hc hmany
        have hbc : b ≠ c := by
          rintro rfl
          have := hfew rfl hc
          have := hcount b rfl
          omega
        exact (hfind b).trans (if_neg hbc)
  · rw [if_neg (by simpa using hip)]
    refine ⟨hfailures, ?_, fun _ _ => rfl⟩
    rintro b rfl hb
    exact absurd (by simpa using hb) hip

/-- A failure that reaches the threshold blocks its address for an hour from now, however long the address was
blocked; other addresses stay as they are. -/
theorem RecordsFailure.blockedUntil {now : Instant} (h : RecordsFailure db db' ip now) (b : String) :
    RatingLift.blockedUntil db' b =
      if ip = some b ∧ b ≠ "" ∧ defaultFailureThreshold ≤ recentFailuresForIp db b now + 1
      then Expiry.at (now + seconds blockDurationSeconds) else RatingLift.blockedUntil db b := by
  by_cases hmany : ip = some b ∧ b ≠ "" ∧ defaultFailureThreshold ≤ recentFailuresForIp db b now + 1
  · rw [if_pos hmany]
    obtain ⟨hip, hb, hmany⟩ := hmany
    obtain ⟨row, hexpiry, hrow⟩ := h.listed b hip hb hmany
    rw [blockedUntil_of_find? hb hrow, hexpiry]
  · rw [if_neg hmany]
    refine blockedUntil_congr (h.kept b ?_)
    intro hip hb
    by_contra hfew
    exact hmany ⟨hip, hb, not_lt.mp hfew⟩

/-- What the lock check or the tracking of a user writes first does not matter. -/
theorem RecordsFailure.of_kept {db₁ : Db} {now : Instant} (h : RecordsFailure db₁ db' ip now)
    (hblocks : db₁.ipBlocklist = db.ipBlocklist) (hattempts : db₁.loginAttempts = db.loginAttempts) :
    RecordsFailure db db' ip now := by
  have hcount : ∀ b, recentFailuresForIp db₁ b now = recentFailuresForIp db b now := by
    intro b
    unfold recentFailuresForIp
    rw [hattempts]
  refine ⟨?_, ?_, ?_⟩
  · intro b
    rw [h.failures, failureTimes_congr hattempts]
  · intro b hb hne hmany
    exact h.listed b hb hne ((hcount b).symm ▸ hmany)
  · intro b hfew
    rw [h.kept b fun hb hne => (hcount b).symm ▸ hfew hb hne, hblocks]

theorem trackFailedLogin_kept (env : AuthEnv τ) (db : Db) (redis : Redis) (draw : AuthDraw)
    (user : Option User) (email : String) :
    (trackFailedLogin env db redis draw user email).2.ipBlocklist = db.ipBlocklist ∧
      (trackFailedLogin env db redis draw user email).2.loginAttempts = db.loginAttempts := by
  cases user with
  | none => exact ⟨rfl, rfl⟩
  | some user =>
    show (registerFailureAndMaybeLock env db draw user).ipBlocklist = db.ipBlocklist ∧
      (registerFailureAndMaybeLock env db draw user).loginAttempts = db.loginAttempts
    unfold registerFailureAndMaybeLock
    extract_lets user₁ lockedUntil user₂
    split
    · exact ⟨rfl, rfl⟩
    · exact ⟨rfl, rfl⟩

theorem rejectLogin_effect (env : AuthEnv τ) (s : AuthState) (user : Option User)
    (trackedEmail email : String) (client : ClientInfo) (reason : String)
    (hfresh : db.loginAttempts.Fresh draw.attemptId) :
    RecordsFailure db (rejectLogin env s draw db user trackedEmail email client reason).db client.ipAddress
      draw.now := by
  obtain ⟨hblocks, hattempts⟩ := trackFailedLogin_kept env db s.redis draw user trackedEmail
  unfold rejectLogin
  generalize trackFailedLogin env db s.redis draw user trackedEmail = tracked at hblocks hattempts
  obtain ⟨redis, db₁⟩ := tracked
  have hfresh₁ : db₁.loginAttempts.Fresh draw.attemptId := by
    rw [show db₁.loginAttempts = db.loginAttempts from hattempts]
    exact hfresh
  exact (recordFailure_effect env email client.ipAddress user (some reason) hfresh₁).of_kept hblocks hattempts

/-! ### The two logins -/

/-- A login gets as far as its credentials and finds no such user, or another password. -/
def wrongPassword (env : AuthEnv τ) (s : AuthState) (draw : AuthDraw) (req : LoginRequest) : Bool :=
  match ensureIpAllowed s.db req.client.ipAddress draw.now with
  | .error _ => false
  | .ok db =>
    let email := env.lower req.email
    let ip := (req.client.ipAddress.filter (· ≠ "")).getD "unknown"
    (checkLoginRateLimit env s.redis draw (if req.adminOnly then "admin" else "user")
      (email ++ ":" ++ ip)).2 &&
      (getUserByEmail env db email).all fun user =>
        !user.locked draw.now && !verifyPassword env req.password user.passwordHash

/-- A login finds the right password of a user with MFA. -/
def issuesChallenge (env : AuthEnv τ) (s : AuthState) (draw : AuthDraw) (req : LoginRequest) : Bool :=
  (passwordUser env s draw req).any fun user =>
    !user.locked draw.now && verifyPassword env req.password user.passwordHash && mayVerify user req.adminOnly

/-- A verification compares a code, which is wrong. -/
def wrongCode (env : AuthEnv τ) (s : AuthState) (draw : AuthDraw) (req : MfaVerifyRequest) : Bool :=
  (getUserByEmail env s.db (env.lower req.email)).any fun user =>
    !user.locked draw.now && mayVerify user req.adminOnly && !(acceptCode env s.redis draw.now user req.otp).1

/-- The check of an address drops no other row than that of the address. -/
structure AddressChecked (db db₁ : Db) (ip : Option String) : Prop where
  attempts : db₁.loginAttempts = db.loginAttempts
  rows : ∀ k row, db₁.ipBlocklist.find? k = some row → db.ipBlocklist.find? k = some row
  elsewhere : ∀ k, ip ≠ some k → db₁.ipBlocklist.find? k = db.ipBlocklist.find? k

theorem AddressChecked.refl (db : Db) (ip : Option String) : AddressChecked db db ip :=
  ⟨rfl, fun _ _ hrow => hrow, fun _ _ => rfl⟩

theorem isIpBlocked_checked (db : Db) (ip : Option String) (now : Instant) :
    AddressChecked db (isIpBlocked db ip now).2 ip := by
  unfold isIpBlocked
  cases hfound : (ip.filter (· ≠ "")).bind db.ipBlocklist.find? with
  | none => exact .refl db ip
  | some row =>
    obtain ⟨a, ha, hrow⟩ := Option.bind_eq_some_iff.mp hfound
    have hkey : row.ipAddress = a := (Table.find?_some hrow).2
    have hip : ip = some a := (Option.filter_eq_some_iff.mp ha).1
    cases hexpires : row.expiresAt with
    | none => simpa only [hexpires] using AddressChecked.refl db ip
    | some t =>
      by_cases ht : t ≤ now
      · -- the block has expired
        simp only [hexpires, ht, ↓reduceIte]
        refine ⟨rfl, ?_, ?_⟩
        · intro k r hr
          rw [Table.find?_delete] at hr
          split at hr
          · cases hr
          · exact hr
        · intro k hk
          have hne : k ≠ row.ipAddress := by
            rintro rfl
            exact hk (hkey ▸ hip)
          rw [Table.find?_delete, if_neg hne]
      · simpa only [hexpires, ht, ↓reduceIte] using AddressChecked.refl db ip

theorem ensureIpAllowed_checked {db₁ : Db} {now : Instant} (h : ensureIpAllowed db ip now = .ok db₁) :
    AddressChecked db db₁ ip := by
  have hchecked := isIpBlocked_checked db ip now
  unfold ensureIpAllowed at h
  generalize isIpBlocked db ip now = checked at h hchecked
  obtain ⟨blocked, db₂⟩ := checked
  cases blocked with
  | true => cases h
  | false =>
    obtain rfl := Except.ok.inj h
    exact hchecked

/-- What a login leaves: a failure of its address, where it counts one, and no other block. -/
structure Counts (counted : Bool) (db db' : Db) (ip : Option String) (now : Instant) : Prop where
  failures : ∀ b, failureTimes db' b = failureTimes db b ++ if counted = true ∧ ip = some b then [now] else []
  listed : ∀ b, counted = true → ip = some b → b ≠ "" →
    defaultFailureThreshold ≤ recentFailuresForIp db b now + 1 →
    ∃ row, row.expiry = Expiry.at (now + seconds blockDurationSeconds) ∧ db'.ipBlocklist.find? b = some row
  kept : ∀ b,
    (counted = true → ip = some b → b ≠ "" → recentFailuresForIp db b now + 1 < defaultFailureThreshold) →
    ∀ row, db'.ipBlocklist.find? b = some row → db.ipBlocklist.find? b = some row
  elsewhere : ∀ b, ip ≠ some b → db'.ipBlocklist.find? b = db.ipBlocklist.find? b

theorem RecordsFailure.counts {now : Instant} (h : RecordsFailure db db' ip now) :
    Counts true db db' ip now where
  failures b := by simpa using h.failures b
  listed b _ := h.listed b
  kept b hfew row hrow := h.kept b (hfew rfl) ▸ hrow
  elsewhere b hb := h.kept b fun hip => absurd hip hb

theorem RecordsNoFailure.counts (h : RecordsNoFailure db db') (ip : Option String) (now : Instant) :
    Counts false db db' ip now where
  failures b := by simpa using h.failures b
  listed _ hcounted := by cases hcounted
  kept b _ row hrow := h.blocks ▸ hrow
  elsewhere b _ := by rw [h.blocks]

theorem Counts.of_checked {db₁ : Db} {counted : Bool} {now : Instant} (h : Counts counted db₁ db' ip now)
    (hchecked : AddressChecked db db₁ ip) : Counts counted db db' ip now := by
  have hcount : ∀ b, recentFailuresForIp db₁ b now = recentFailuresForIp db b now := by
    intro b
    unfold recentFailuresForIp
    rw [hchecked.attempts]
  refine ⟨?_, ?_, ?_, ?_⟩
  · intro b
    rw [h.failures, failureTimes_congr hchecked.attempts]
  · intro b hcounted hb hne hmany
    exact h.listed b hcounted hb hne ((hcount b).symm ▸ hmany)
  · intro b hfew row hrow
    refine hchecked.rows b row (h.kept b ?_ row hrow)
    intro hcounted hb hne
    exact (hcount b).symm ▸ hfew hcounted hb hne
  · intro b hb
    rw [h.elsewhere b hb, hchecked.elsewhere b hb]

/-- A password login counts a failure exactly when the password is wrong or a challenge is issued. -/
theorem loginWithPassword_counts (env : AuthEnv τ) (s : AuthState) (req : LoginRequest)
    (hfresh : s.db.loginAttempts.Fresh draw.attemptId) :
    Counts (wrongPassword env s draw req || issuesChallenge env s draw req) s.db
      (loginWithPassword env s draw req).1.db
      req.client.ipAddress draw.now := by
  have hstay : Counts false s.db s.db req.client.ipAddress draw.now :=
    (RecordsNoFailure.of_eq rfl rfl).counts _ _
  unfold loginWithPassword wrongPassword issuesChallenge passwordUser
  cases hip : ensureIpAllowed s.db req.client.ipAddress draw.now with
  | error e => exact hstay
  | ok db =>
    have hchecked := ensureIpAllowed_checked hip
    have hfresh₁ : db.loginAttempts.Fresh draw.attemptId := by
      rw [hchecked.attempts]
      exact hfresh
    dsimp only
    generalize checkLoginRateLimit env s.redis draw _ _ = limited
    obtain ⟨redis, allowed⟩ := limited
    cases allowed with
    | false => exact hstay
    | true =>
      simp only [Bool.not_true, Bool.false_eq_true, ↓reduceIte, Bool.true_and]
      cases hfound : getUserByEmail env db (env.lower req.email) with
      | none => exact ((rejectLogin_effect _ _ _ _ _ _ _ hfresh₁).counts).of_checked hchecked
      | some stored =>
        dsimp only
        cases hlocked : stored.locked draw.now with
        | true =>
          obtain ⟨e, he⟩ := assertNotLocked_of_locked db hlocked
          simp only [he, Option.all_some, Option.any_some, hlocked, Bool.not_true, Bool.false_and,
            Bool.or_false]
          exact hstay
        | false =>
          rw [assertNotLocked_of_not_locked (getUserByEmail_some hfound) hlocked]
          dsimp only
          rw [clearLock_passwordHash, assertUserCanLogin_clearLock, clearLock_mfaEnabled]
          simp only [Option.all_some, Option.any_some, hlocked, Bool.not_false, Bool.true_and]
          unfold mayVerify
          cases verifyPassword env req.password stored.passwordHash with
          | false =>
            simp only [Bool.not_false, Bool.true_or, ↓reduceIte]
            refine Counts.of_checked ?_ hchecked
            refine RecordsFailure.counts ?_
            exact RecordsFailure.of_kept (rejectLogin_effect _ _ _ _ _ _ _ (by exact hfresh₁)) rfl rfl
          | true =>
            simp only [Bool.not_true, Bool.false_or, Bool.false_eq_true, ↓reduceIte, Bool.true_and]
            cases assertUserCanLogin stored req.adminOnly with
            | error e => exact hstay
            | ok _ =>
              cases stored.mfaEnabled with
              | true =>
                -- the challenge is recorded as a failure
                refine Counts.of_checked ?_ hchecked
                show Counts true db
                  (recordAuditLoginAttempt env { db with users := db.users.update (clearLock stored) } draw
                  (env.lower req.email) false req.client.ipAddress (some (clearLock stored))
                    (some "mfa_challenge_issued")) _ _
                refine RecordsFailure.counts ?_
                exact RecordsFailure.of_kept (recordFailure_effect _ _ _ _ _ (by exact hfresh₁)) rfl rfl
              | false =>
                have hgranted : RecordsNoFailure db (grantSession env draw
                    { db with users :=
                      (db.users.update (clearLock stored)).update (resetFailedLogin (clearLock stored)) }
                    (resetFailedLogin (clearLock stored)) req.client req.adminOnly (env.lower req.email)) :=
                  grantSession_recordsNoFailure _ _ _ _ rfl rfl hfresh₁
                exact (hgranted.counts _ _).of_checked hchecked

/-- A verification counts a failure exactly when its code is wrong; it does not look up its address before. -/
theorem verifyMfaLogin_records (env : AuthEnv τ) (s : AuthState) (req : MfaVerifyRequest)
    (hfresh : s.db.loginAttempts.Fresh draw.attemptId) :
    (wrongCode env s draw req = true ∧
        RecordsFailure s.db (verifyMfaLogin env s draw req).1.db req.client.ipAddress draw.now) ∨
      wrongCode env s draw req = false ∧ RecordsNoFailure s.db (verifyMfaLogin env s draw req).1.db := by
  have hstay : RecordsNoFailure s.db s.db := .of_eq rfl rfl
  unfold verifyMfaLogin wrongCode
  cases hfound : getUserByEmail env s.db (env.lower req.email) with
  | none => exact Or.inr ⟨rfl, hstay⟩
  | some stored =>
    rw [Option.any_some]
    dsimp only
    cases hlocked : stored.locked draw.now with
    | true =>
      obtain ⟨e, he⟩ := assertNotLocked_of_locked s.db hlocked
      simp only [he, Bool.not_true, Bool.false_and]
      exact Or.inr ⟨trivial, hstay⟩
    | false =>
      rw [assertNotLocked_of_not_locked (getUserByEmail_some hfound) hlocked]
      dsimp only
      rw [assertUserCanLogin_clearLock, clearLock_mfaEnabled, acceptCode_clearLock]
      unfold mayVerify
      cases assertUserCanLogin stored req.adminOnly with
      | error e => exact Or.inr ⟨rfl, hstay⟩
      | ok _ =>
        cases stored.mfaEnabled with
        | false => exact Or.inr ⟨rfl, hstay⟩
        | true =>
          generalize acceptCode env s.redis draw.now stored req.otp = checked
          obtain ⟨accepted, redis⟩ := checked
          cases accepted with
          | true =>
            have hgranted : RecordsNoFailure s.db (grantSession env draw
                { s.db with users :=
                  (s.db.users.update (clearLock stored)).update (resetFailedLogin (clearLock stored)) }
                (resetFailedLogin (clearLock stored)) req.client req.adminOnly (clearLock stored).email) :=
              grantSession_recordsNoFailure _ _ _ _ rfl rfl hfresh
            exact Or.inr ⟨rfl, hgranted⟩
          | false =>
            refine Or.inl ⟨rfl, ?_⟩
            exact RecordsFailure.of_kept (rejectLogin_effect _ _ _ _ _ _ _ (by exact hfresh)) rfl rfl

theorem verifyMfaLogin_counts (env : AuthEnv τ) (s : AuthState) (req : MfaVerifyRequest)
    (hfresh : s.db.loginAttempts.Fresh draw.attemptId) :
    Counts (wrongCode env s draw req) s.db (verifyMfaLogin env s draw req).1.db req.client.ipAddress
      draw.now := by
  rcases verifyMfaLogin_records env s req hfresh with ⟨hwrong, hrecords⟩ | ⟨hright, hrecords⟩
  · rw [hwrong]
    exact hrecords.counts
  · rw [hright]
    exact hrecords.counts _ _

end

end RatingLift
