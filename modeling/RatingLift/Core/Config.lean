import RatingLift.Python.Str

/-!
# Settings

The settings that the modelled functions read, with the defaults of the source.
-/

namespace RatingLift

structure Settings where
  jwtSecret : String := "change-me-jwt-secret"
  adminJwtSecret : String := "change-me-admin-jwt-secret"
  accessTokenExpiryMinutes : Nat := 60
  adminAccessTokenExpiryMinutes : Nat := 30
  mfaOtpTtlSeconds : Nat := 300
  loginRateLimitAttempts : Nat := 5
  loginRateLimitWindowSeconds : Nat := 60
  accountLockoutThreshold : Nat := 10
  accountLockoutMinutes : Nat := 15
  refreshTokenExpiryMinutes : Nat := 60 * 24 * 14
  passwordResetTtlMinutes : Nat := 30
  emailVerificationTtlMinutes : Nat := 60 * 24
  connectorLogoMaxBytes : Nat := 2 * 1024 * 1024
  connectorLogoMaxPixels : Nat := 2000
  mediaUrlPrefix : String := "/media"
  appPublicUrl : String := "http://localhost:8000"

end RatingLift
