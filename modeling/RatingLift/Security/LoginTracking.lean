import RatingLift.Db.Models

/-!
# Login tracking and IP blocking

Every login attempt is a row of `login_attempts`; an address with too many failures in the window is put on
`ip_blocklist` for an hour.
-/

namespace RatingLift

open Library

variable (lower : String → String) (db : Db)

/-- `record_login_attempt`.  The source raises the error of a flush that fails; the INSERT is taken to
succeed. -/
def recordLoginAttempt (id : Uuid) (now : Instant) (email : String) (ipAddress : Option String)
    (success : Bool) (reason : Option String) : Db :=
  { db with loginAttempts := db.loginAttempts.insert {
      id := id
      email := lower email
      ipAddress := ipAddress
      success := success
      reason := reason
      timestamp := now } }

/-- `recent_failures_for_ip` with its default window -/
def recentFailuresForIp (ipAddress : String) (now : Instant) : Nat :=
  (db.loginAttempts.select fun a =>
    a.ipAddress == some ipAddress && !a.success && decide (now ≤ a.timestamp + minutes 15)).length

def defaultFailureThreshold : Nat := 20

def blockDurationSeconds : Nat := 60 * 60

/-- `is_ip_blocked`: the answer, and the database without a block that has expired. -/
def isIpBlocked (ipAddress : Option String) (now : Instant) : Bool × Db :=
  match (ipAddress.filter (· ≠ "")).bind db.ipBlocklist.find? with
  | none => (false, db)
  | some row =>
    match row.expiresAt with
    | none => (true, db)
    | some expiresAt =>
      if expiresAt ≤ now then (false, { db with ipBlocklist := db.ipBlocklist.delete row.ipAddress })
      else (true, db)

def ipBlockedDetail : String :=
  "Your IP address has been temporarily blocked due to repeated failed sign-in attempts. " ++
    "Please wait and try again later, or contact support if you believe this is a mistake."

/-- `ensure_ip_allowed` -/
def ensureIpAllowed (ipAddress : Option String) (now : Instant) : Except Exn Db :=
  let (blocked, db) := isIpBlocked db ipAddress now
  if blocked then .error (.http 403 ipBlockedDetail) else .ok db

/-- `block_ip` with its default duration -/
def blockIp (ipAddress reason : String) (failedAttempts : Nat) (now : Instant) : Db :=
  let expiresAt := some (now + seconds blockDurationSeconds)
  match db.ipBlocklist.find? ipAddress with
  | some row =>
    { db with ipBlocklist := db.ipBlocklist.update { row with
        reason := some reason
        failedAttempts := max row.failedAttempts failedAttempts
        blockedAt := now
        expiresAt := expiresAt } }
  | none =>
    { db with ipBlocklist := db.ipBlocklist.insert {
        ipAddress := ipAddress
        reason := some reason
        failedAttempts := failedAttempts
        blockedAt := now
        expiresAt := expiresAt } }

/-- `register_failed_attempt_for_ip` with its default threshold and reason -/
def registerFailedAttemptForIp (ipAddress : Option String) (now : Instant) : Db :=
  match ipAddress.filter (· ≠ "") with
  | none => db
  | some ip =>
    let failures := recentFailuresForIp db ip now
    if failures < defaultFailureThreshold then db
    else blockIp db ip "failed_login_threshold_exceeded" failures now

end RatingLift
