import RatingLift.Auth.Checks

/-!
# What a request does to the rows of users

A request writes at most one row of the table of users: `RowChange` lists the changes of a stored row with the
request and the condition under which it makes them, `Created` the rows that are added, and `UserWrite` says
that the table is as before or got one of these writes.  `Admitted` lists the users for whom a request opens a
session.
-/

namespace RatingLift

open Library Fallible

section

variable {τ : Type} (env : AuthEnv τ) (s : AuthState) (draw : AuthDraw) (db : Db)

/-- The row after a failed comparison. -/
def countFailure (user : User) : User :=
  let user := { user with failedLoginAttempts := user.failedLoginAttempts + 1 }
  if user.failedLoginAttempts ≥ env.settings.accountLockoutThreshold then
    { user with lockedUntil := some (draw.now + minutes env.settings.accountLockoutMinutes) }
  else user

/-- The row of a stored user after a social login found it. -/
def linkSocial (user : User) (tenantId : Option Uuid) (provider : SocialProvider)
    (profile : SocialProfile) : User :=
  { user with
    tenantId := tenantId
    fullName := orText profile.name user.fullName
    profilePictureUrl := orText profile.picture user.profilePictureUrl
    authProvider := provider.value
    oauthSubject := orText profile.subject user.oauthSubject }

/-- The row that `reset_password` writes. -/
def withPassword (user : User) (newPassword : String) : User :=
  { user with
    passwordHash := getPasswordHash env draw newPassword
    failedLoginAttempts := 0
    lockedUntil := none }

/-- The user whose password a token resets. -/
def resetUser (token : String) : Except Exn User :=
  tokenUser s.db (consumeToken s.redis draw.now .passwordReset token).1

/-- The only change of the sessions is a new one of the user. -/
def OpensFor (row : User) : Prop :=
  ∃ client adminToken,
    db.loginSessions = s.db.loginSessions.insert (newSession env draw row client adminToken)

/-- A request, after which the database is `db`, changes the row of a stored user to another row. -/
inductive RowChange (user : User) : AuthRequest → User → Prop
  | failed {req : AuthRequest} : loginCheck env s draw req = some ⟨user.id, false⟩ →
      RowChange user req (countFailure env draw (clearLock user))
  | challenged {req : LoginRequest} : loginCheck env s draw (.loginWithPassword req) = some ⟨user.id, true⟩ →
      RowChange user (.loginWithPassword req) (clearLock user)
  | loggedIn {req : AuthRequest} : loginCheck env s draw req = some ⟨user.id, true⟩ → user.isActive = true →
      OpensFor env s draw db (resetFailedLogin user) → RowChange user req (resetFailedLogin user)
  | social {req : SocialLoginRequest} {profile : SocialProfile} (tenantId : Uuid) :
      verifyOauthToken env.lower req.reply req.provider = .ok profile →
      getUserByEmail env s.db profile.email = some user → (∀ t, user.tenantId = some t → tenantId = t) →
      OpensFor env s draw db (resetFailedLogin (linkSocial user (some tenantId) req.provider profile)) →
      RowChange user (.loginWithSocialProvider req)
        (resetFailedLogin (linkSocial user (some tenantId) req.provider profile))
  | passwordReset {token newPassword : String} : resetUser s draw token = .ok user →
      RowChange user (.resetPassword token newPassword) (withPassword env draw user newPassword)
  | emailVerified {token : String} :
      RowChange user (.verifyEmailToken token) { user with emailVerified := true }
  | channelAdded {channel destination purpose : String} {row : User} {deliver : String → Delivery} :
      channelChange env user channel destination = .ok (row, purpose, deliver) →
      RowChange user (.addMfaChannel user.id channel destination) row
  | channelVerified {channel otp purpose : String} : channelPurpose user channel = .ok purpose →
      RowChange user (.verifyMfaChannel user.id channel otp) (markVerified user channel)
  | mfaEnabled : (user.mfaEmailVerified || user.mfaPhoneVerified) = true →
      RowChange user (.enableMfa user.id) { user with mfaEnabled := true }
  | mfaDisabled : RowChange user (.disableMfa user.id) { user with mfaEnabled := false }
  | totpSetup : RowChange user (.setupTotp user.id) { user with
      totpSecret := some draw.totpSecret
      totpVerified := false }
  | totpVerified {code : String} : user.totpSecret.any (· ≠ "") = true →
      RowChange user (.verifyTotp user.id code) { user with totpVerified := true }

/-- A request adds a user. -/
inductive Created : AuthRequest → User → Prop
  | signup {req : SignupRequest} (tenantId : Uuid) : getUserByEmail env s.db req.email = none →
      Created (.signup req)
        (newUser draw (env.lower req.email) req.fullName (getPasswordHash env draw req.password)
        req.role (some tenantId) false "password")
  | social {req : SocialLoginRequest} {profile : SocialProfile} (tenantId : Uuid) :
      verifyOauthToken env.lower req.reply req.provider = .ok profile →
      getUserByEmail env s.db profile.email = none →
      Created (.loginWithSocialProvider req) { newUser draw profile.email profile.name
          (getPasswordHash env draw draw.socialPassword) .STAFF (some tenantId) false req.provider.value with
        profilePictureUrl := profile.picture
        oauthSubject := profile.subject }
  | admin {actorId : Uuid} {email password : String} {fullName : Option String} {role : UserRole} :
      adminRoles.contains role.value = true →
      Created (.createAdmin actorId email password fullName role)
        (newUser draw (env.lower email) fullName (getPasswordHash env draw password) role none
          true "password")

/-- The users after a request. -/
inductive UserWrite (req : AuthRequest) : Prop
  | kept : (∀ userId, loginCheck env s draw req ≠ some ⟨userId, false⟩) → db.users = s.db.users →
      UserWrite req
  | update (user row : User) : s.db.users.find? user.id = some user → RowChange env s draw db user req row →
      db.users = s.db.users.update row → UserWrite req
  | insert (row : User) : Created env s draw req row → db.users = s.db.users.insert row → UserWrite req

/-- How a request comes to open a session; the row is that of its user afterwards. -/
inductive Admitted : AuthRequest → User → Prop
  | created {req : AuthRequest} {row : User} : Created env s draw req row → Admitted req row
  | loggedIn {req : AuthRequest} (user : User) : s.db.users.find? user.id = some user →
      loginCheck env s draw req = some ⟨user.id, true⟩ → user.isActive = true →
      Admitted req (resetFailedLogin user)
  | social {req : SocialLoginRequest} {profile : SocialProfile} (user : User) (tenantId : Uuid) :
      verifyOauthToken env.lower req.reply req.provider = .ok profile →
      getUserByEmail env s.db profile.email = some user →
      Admitted (.loginWithSocialProvider req)
        (resetFailedLogin (linkSocial user (some tenantId) req.provider profile))

/-- The sessions after a request that may open one. -/
inductive SessionWrite (req : AuthRequest) : Prop
  | kept : db.loginSessions = s.db.loginSessions → SessionWrite req
  | opened (row : User) : Admitted env s draw req row → db.users.find? row.id = some row →
      OpensFor env s draw db row → SessionWrite req

/-- What a request that may open a session writes. -/
structure LoginWrite (req : AuthRequest) : Prop where
  users : UserWrite env s draw db req
  sessions : SessionWrite env s draw db req

variable {env s draw db}

/-! ### Rows -/

@[simp] theorem countFailure_id (user : User) : (countFailure env draw user).id = user.id := by
  unfold countFailure
  extract_lets counted
  split <;> rfl

theorem channelChange_id {user row : User} {channel destination purpose : String}
    {deliver : String → Delivery}
    (h : channelChange env user channel destination = .ok (row, purpose, deliver)) : row.id = user.id := by
  rcases channelChange_cases h with ⟨_, _, rfl⟩ | ⟨_, _, rfl⟩
  · rfl
  · rfl

theorem RowChange.id_eq {user row : User} {req : AuthRequest} (h : RowChange env s draw db user req row) :
    row.id = user.id := by
  cases h with
  | failed _ => rw [countFailure_id, clearLock_id]
  | challenged _ => exact clearLock_id user
  | channelAdded hchange => exact channelChange_id hchange
  | channelVerified _ => exact markVerified_id user _
  | _ => rfl

theorem Created.id_eq {row : User} {req : AuthRequest} (h : Created env s draw req row) :
    row.id = draw.userId := by
  cases h <;> rfl

namespace UserWrite

variable {req : AuthRequest}

/-- A request that compares nothing, or succeeds in its comparison, may leave the users as they are. -/
theorem unwritten {check : Option CredentialCheck} (h : loginCheck env s draw req = check)
    (hpassed : ∀ c, check = some c → c.accepted = true) (husers : db.users = s.db.users) :
    UserWrite env s draw db req := by
  refine .kept ?_ husers
  intro userId heq
  have hfalse := hpassed _ (h.symm.trans heq)
  cases hfalse

/-- A stored user after a request: as before, without a failed comparison, or changed. -/
theorem stored (h : UserWrite env s draw db req) (hfresh : s.db.users.Fresh draw.userId) {id : Uuid}
    {user : User} (huser : s.db.users.find? id = some user) :
    (db.users.find? id = some user ∧ loginCheck env s draw req ≠ some ⟨id, false⟩) ∨
      ∃ row, db.users.find? id = some row ∧ RowChange env s draw db user req row := by
  have hid : user.id = id := (Table.find?_some huser).2
  cases h with
  | kept hcheck husers => exact Or.inl ⟨by rw [husers]; exact huser, hcheck id⟩
  | update changed row hchanged hchange husers =>
    have hrow : row.id = changed.id := hchange.id_eq
    rw [husers]
    -- the row that was written is that of the user, or of another one
    by_cases hsame : changed.id = id
    · obtain rfl : changed = user := by
        rw [hsame, huser] at hchanged
        exact (Option.some.inj hchanged).symm
      refine Or.inr ⟨row, ?_, hchange⟩
      rw [Table.find?_update, if_pos (show Keyed.key row = id from hrow.trans hid), huser]
      rfl
    · refine Or.inl ⟨?_, fun hcheck => hsame ?_⟩
      · rw [Table.find?_update_of_ne (show Keyed.key row ≠ id
          from fun heq => hsame (hrow.symm.trans heq)), huser]
      · cases hchange with
        | failed hfailed => exact (CredentialCheck.mk.inj (Option.some.inj (hfailed.symm.trans hcheck))).1
        | challenged hpassed => rw [hpassed] at hcheck; cases hcheck
        | loggedIn hpassed _ _ => rw [hpassed] at hcheck; cases hcheck
        | _ => cases hcheck
  | insert row hcreated husers =>
    rw [husers]
    refine Or.inl ⟨?_, fun hcheck => ?_⟩
    · have hnew : s.db.users.Fresh (Keyed.key row) := by
        rw [show Keyed.key row = draw.userId from hcreated.id_eq]
        exact hfresh
      rw [Table.find?_insert hnew, if_neg fun heq =>
        hnew user (Table.find?_some huser).1 (hid.trans heq.symm), huser]
    · cases hcreated <;> cases hcheck

/-- A user that was not stored before a request was added by it. -/
theorem new (h : UserWrite env s draw db req) (hfresh : s.db.users.Fresh draw.userId) {id : Uuid} {row : User}
    (hnone : s.db.users.find? id = none) (hrow : db.users.find? id = some row) :
    Created env s draw req row := by
  cases h with
  | kept _ husers => rw [husers, hnone] at hrow; cases hrow
  | update changed row' hchanged hchange husers =>
    rw [husers, Table.find?_update, hnone] at hrow
    split at hrow <;> cases hrow
  | insert row' hcreated husers =>
    have hnew : s.db.users.Fresh (Keyed.key row') := by
      rw [show Keyed.key row' = draw.userId from hcreated.id_eq]
      exact hfresh
    rw [husers, Table.find?_insert hnew, hnone] at hrow
    split at hrow
    · obtain rfl := Option.some.inj hrow
      exact hcreated
    · cases hrow

/-- What holds of the users before a request, of those it adds, and is kept by its changes holds of the users
after it. -/
theorem forall_users {p : User → Prop} (h : UserWrite env s draw db req)
    (hfresh : s.db.users.Fresh draw.userId) (hcreated : ∀ row, Created env s draw req row → p row)
    (hchange : ∀ user row, s.db.users.find? user.id = some user → RowChange env s draw db user req row →
      p user → p row)
    (hbefore : ∀ user ∈ s.db.users, p user) : ∀ row ∈ db.users, p row := by
  intro row hrow
  have hfind : db.users.find? row.id = some row := Table.mem_iff_find?.mp hrow
  cases huser : s.db.users.find? row.id with
  | none => exact hcreated row (h.new hfresh huser hfind)
  | some user =>
    obtain ⟨hmem, hid⟩ := Table.find?_some huser
    rcases h.stored hfresh huser with ⟨hsame, _⟩ | ⟨row', hrow', hwritten⟩
    · obtain rfl : user = row := Option.some.inj (hsame.symm.trans hfind)
      exact hbefore user hmem
    · obtain rfl : row' = row := Option.some.inj (hrow'.symm.trans hfind)
      exact hchange user row' (Table.mem_iff_find?.mp hmem) hwritten (hbefore user hmem)

end UserWrite

end

end RatingLift
