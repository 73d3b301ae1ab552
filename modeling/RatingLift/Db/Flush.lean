import RatingLift.Db.Models

/-!
# What a commit writes

An object that was loaded and then changed is written back at the commit, and the `UPDATE` names only the
columns whose value differs from the loaded one.  The other columns keep what the database holds by then,
which is what another request may have committed since the load.

* (`User.flush_of_loaded`, `LoginSession.flush_of_loaded`, `Connector.flush_of_loaded`) without such a request
  the row is the object.
-/

namespace RatingLift

/-- A column of the stored row after the `UPDATE`. -/
def flushColumn {α : Type} [DecidableEq α] (loaded written stored : α) : α :=
  if written = loaded then stored else written

variable {α : Type} [DecidableEq α]

@[simp] theorem flushColumn_same (loaded stored : α) : flushColumn loaded loaded stored = stored := by
  unfold flushColumn
  rw [if_pos rfl]

@[simp] theorem flushColumn_loaded (loaded written : α) : flushColumn loaded written loaded = written := by
  unfold flushColumn
  split
  · rename_i h; exact h.symm
  · rfl

/-- A stored user after the commit of a request that loaded `loaded` and made `written` of it. -/
def User.flush (loaded written stored : User) : User where
  id := stored.id
  tenantId := flushColumn loaded.tenantId written.tenantId stored.tenantId
  email := flushColumn loaded.email written.email stored.email
  fullName := flushColumn loaded.fullName written.fullName stored.fullName
  profilePictureUrl := flushColumn loaded.profilePictureUrl written.profilePictureUrl stored.profilePictureUrl
  passwordHash := flushColumn loaded.passwordHash written.passwordHash stored.passwordHash
  authProvider := flushColumn loaded.authProvider written.authProvider stored.authProvider
  oauthSubject := flushColumn loaded.oauthSubject written.oauthSubject stored.oauthSubject
  role := flushColumn loaded.role written.role stored.role
  isActive := flushColumn loaded.isActive written.isActive stored.isActive
  isAdmin := flushColumn loaded.isAdmin written.isAdmin stored.isAdmin
  emailVerified := flushColumn loaded.emailVerified written.emailVerified stored.emailVerified
  lockedUntil := flushColumn loaded.lockedUntil written.lockedUntil stored.lockedUntil
  mfaEnabled := flushColumn loaded.mfaEnabled written.mfaEnabled stored.mfaEnabled
  mfaEmail := flushColumn loaded.mfaEmail written.mfaEmail stored.mfaEmail
  mfaPhone := flushColumn loaded.mfaPhone written.mfaPhone stored.mfaPhone
  mfaEmailVerified := flushColumn loaded.mfaEmailVerified written.mfaEmailVerified stored.mfaEmailVerified
  mfaPhoneVerified := flushColumn loaded.mfaPhoneVerified written.mfaPhoneVerified stored.mfaPhoneVerified
  totpSecret := flushColumn loaded.totpSecret written.totpSecret stored.totpSecret
  totpVerified := flushColumn loaded.totpVerified written.totpVerified stored.totpVerified
  failedLoginAttempts :=
    flushColumn loaded.failedLoginAttempts written.failedLoginAttempts stored.failedLoginAttempts

theorem User.flush_of_loaded {loaded written : User} (hid : written.id = loaded.id) :
    loaded.flush written loaded = written := by
  simp [User.flush, ← hid]

/-- A stored session after the commit of a request that loaded `loaded` and made `written` of it. -/
def LoginSession.flush (loaded written stored : LoginSession) : LoginSession where
  id := stored.id
  userId := flushColumn loaded.userId written.userId stored.userId
  jti := flushColumn loaded.jti written.jti stored.jti
  refreshTokenHash := flushColumn loaded.refreshTokenHash written.refreshTokenHash stored.refreshTokenHash
  refreshExpiresAt := flushColumn loaded.refreshExpiresAt written.refreshExpiresAt stored.refreshExpiresAt
  ipAddress := flushColumn loaded.ipAddress written.ipAddress stored.ipAddress
  deviceInfo := flushColumn loaded.deviceInfo written.deviceInfo stored.deviceInfo
  location := flushColumn loaded.location written.location stored.location
  lastUsedAt := flushColumn loaded.lastUsedAt written.lastUsedAt stored.lastUsedAt
  expiresAt := flushColumn loaded.expiresAt written.expiresAt stored.expiresAt
  revoked := flushColumn loaded.revoked written.revoked stored.revoked

theorem LoginSession.flush_of_loaded {loaded written : LoginSession} (hid : written.id = loaded.id) :
    loaded.flush written loaded = written := by
  simp [LoginSession.flush, ← hid]

/-- A stored connector after the commit of a request that loaded `loaded` and made `written` of it. -/
def Connector.flush (loaded written stored : Connector) : Connector where
  id := stored.id
  name := flushColumn loaded.name written.name stored.name
  logoUrl := flushColumn loaded.logoUrl written.logoUrl stored.logoUrl
  logoSha256 := flushColumn loaded.logoSha256 written.logoSha256 stored.logoSha256
  isActive := flushColumn loaded.isActive written.isActive stored.isActive
  isDeleted := flushColumn loaded.isDeleted written.isDeleted stored.isDeleted
  deletedAt := flushColumn loaded.deletedAt written.deletedAt stored.deletedAt
  displayOrder := flushColumn loaded.displayOrder written.displayOrder stored.displayOrder

theorem Connector.flush_of_loaded {loaded written : Connector} (hid : written.id = loaded.id) :
    loaded.flush written loaded = written := by
  simp [Connector.flush, ← hid]

end RatingLift
