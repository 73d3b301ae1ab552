import RatingLift.Library.Table
import RatingLift.Python.Json
import RatingLift.Python.Uuid

/-!
# The database

The rows of the tables the service works on and the database as the tuple of its tables.  A timestamp is a
number of microseconds; a missing value of a nullable column is `none`.  Primary keys are built into the
tables (`Library.Table`); the other constraints are predicates on a table and a candidate row, which the
functions that write the row check at the flush.

The order in which an unordered scan returns the rows is part of the state; where a list is read page by page,
every page has an order of its own (`Listing.Pages`).  A statement fails for the constraints that are declared
and for nothing else: texts hold no NUL and stay within the limits of an index row, and the time zone of the
sessions is UTC.
-/

namespace RatingLift

open Library

/-- A `timestamptz`, in microseconds. -/
abbrev Instant := Nat

/-- `timedelta(seconds=n)` -/
def seconds (n : Nat) : Nat := n * 1000000

/-- `timedelta(minutes=n)` -/
def minutes (n : Nat) : Nat := seconds (n * 60)

/-- `int(t.timestamp())` -/
def Instant.timestamp (t : Instant) : Nat := t / 1000000

inductive UserRole where
  | OWNER | MANAGER | STAFF
  | SUPER_ADMIN | FINANCE_ADMIN | SUPPORT_ADMIN | OPS_ADMIN | COMPLIANCE_ADMIN
deriving DecidableEq

def UserRole.value : UserRole → String
  | .OWNER => "OWNER"
  | .MANAGER => "MANAGER"
  | .STAFF => "STAFF"
  | .SUPER_ADMIN => "SUPER_ADMIN"
  | .FINANCE_ADMIN => "FINANCE_ADMIN"
  | .SUPPORT_ADMIN => "SUPPORT_ADMIN"
  | .OPS_ADMIN => "OPS_ADMIN"
  | .COMPLIANCE_ADMIN => "COMPLIANCE_ADMIN"

structure Tenant where
  id : Uuid
  name : String
deriving DecidableEq

structure User where
  id : Uuid
  tenantId : Option Uuid
  email : String
  fullName : Option String
  profilePictureUrl : Option String
  passwordHash : String
  authProvider : String
  oauthSubject : Option String
  role : UserRole
  isActive : Bool
  isAdmin : Bool
  emailVerified : Bool
  lockedUntil : Option Instant
  mfaEnabled : Bool
  mfaEmail : Option String
  mfaPhone : Option String
  mfaEmailVerified : Bool
  mfaPhoneVerified : Bool
  totpSecret : Option String
  totpVerified : Bool
  failedLoginAttempts : Nat
deriving DecidableEq

structure LoginSession where
  id : Uuid
  userId : Uuid
  jti : Option String
  refreshTokenHash : Option String
  refreshExpiresAt : Option Instant
  ipAddress : Option String
  deviceInfo : Option String
  location : Option String
  lastUsedAt : Option Instant
  expiresAt : Instant
  revoked : Bool
deriving DecidableEq

structure LoginAttempt where
  id : Uuid
  email : String
  ipAddress : Option String
  success : Bool
  reason : Option String
  timestamp : Instant
deriving DecidableEq

structure IpBlocklist where
  ipAddress : String
  reason : Option String
  failedAttempts : Nat
  blockedAt : Instant
  expiresAt : Option Instant
deriving DecidableEq

structure Property where
  id : Uuid
  tenantId : Uuid
  name : String
  googlePlaceId : Option String
  googleMapsUrl : Option String
  isActive : Bool
  createdAt : Instant
  updatedAt : Instant
deriving DecidableEq

structure Connector where
  id : Uuid
  name : String
  logoUrl : Option String
  logoSha256 : Option String
  isActive : Bool
  isDeleted : Bool
  deletedAt : Option Instant
  displayOrder : Nat
deriving DecidableEq

@[ext] structure PropertyConnector where
  id : Uuid
  propertyId : Uuid
  connectorId : Uuid
  apiKey : String
  apiSecret : Option String
  scopes : Option (List String)
  config : Option Dict
  baseUrl : Option String
  isActive : Bool
  createdAt : Instant

inductive ActorType where
  | user | system
deriving DecidableEq

structure AuditLog where
  id : Uuid
  actorId : Option Uuid
  actorType : ActorType
  action : String
  entity : String
  entityId : Option Uuid
  beforeValue : Json
  afterValue : Json
  ipAddress : Option String
  timestamp : Instant

structure AdminActionLog where
  id : Uuid
  adminId : Uuid
  action : String
  targetEntity : Option String
  targetId : Option Uuid
  targetTenantId : Option Uuid
  beforeValue : Json
  afterValue : Json
  ipAddress : Option String
  timestamp : Instant

instance : Keyed Tenant Uuid := ⟨Tenant.id⟩
instance : Keyed User Uuid := ⟨User.id⟩
instance : Keyed LoginSession Uuid := ⟨LoginSession.id⟩
instance : Keyed LoginAttempt Uuid := ⟨LoginAttempt.id⟩
instance : Keyed IpBlocklist String := ⟨IpBlocklist.ipAddress⟩
instance : Keyed Property Uuid := ⟨Property.id⟩
instance : Keyed Connector Uuid := ⟨Connector.id⟩
instance : Keyed PropertyConnector Uuid := ⟨PropertyConnector.id⟩
instance : Keyed AuditLog Uuid := ⟨AuditLog.id⟩
instance : Keyed AdminActionLog Uuid := ⟨AdminActionLog.id⟩

@[ext] structure Db where
  tenants : Table Tenant
  users : Table User
  loginSessions : Table LoginSession
  loginAttempts : Table LoginAttempt
  ipBlocklist : Table IpBlocklist
  properties : Table Property
  connectors : Table Connector
  propertyConnectors : Table PropertyConnector
  auditLogs : Table AuditLog
  adminActionLogs : Table AdminActionLog

def Db.empty : Db :=
  ⟨.empty, .empty, .empty, .empty, .empty, .empty, .empty, .empty, .empty, .empty⟩

/-- What a request draws from outside: its clock, the primary keys the database generates for the rows it
inserts, and the initialisation vector of an encryption. -/
structure Draw where
  now : Instant
  id : Nat → Uuid
  auditId : Nat → Uuid
  adminLogId : Uuid
  iv : Nat

/-- What a request ends with when it does not return: an `HTTPException`, which becomes the response, or an
exception that nothing handles, which becomes a 500. -/
inductive Exn where
  | http (status : Nat) (detail : String)
  | integrityError (constraint : String)
  | dataError
  | valueError
  | attributeError
deriving DecidableEq

/-- An id as a caller supplies it: already a `UUID`, or a text. -/
inductive RawId where
  | uuid (u : Uuid)
  | text (s : String)

/-- `_coerce_uuid(value, detail=...)` -/
def coerceUuid (value : RawId) (detail : String) : Except Exn Uuid :=
  match value with
  | .uuid u => .ok u
  | .text s =>
    match Uuid.parse s with
    | some u => .ok u
    | none => .error (.http 400 detail)

end RatingLift
