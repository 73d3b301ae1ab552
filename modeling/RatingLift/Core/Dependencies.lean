import RatingLift.Core.Middleware

/-!
# Request dependencies

The context of an authenticated request (`getCurrentContext`, `requireTenantContext`) and the tenant filter
that every tenant-scoped query passes through (`filterByTenant`).
-/

namespace RatingLift

structure RequestContext where
  userId : String
  tenantId : Option String
  role : Json
  isAdmin : Bool

/-- `get_current_context` -/
def getCurrentContext (repr : Json → String) (state : RequestState) : Except Exn RequestContext :=
  if !state.userId.truthy then .error (.http 401 "Authentication required")
  else .ok {
    userId := state.userId.toStr repr
    tenantId := if state.tenantIdFromToken.truthy then some (state.tenantIdFromToken.toStr repr) else none
    role := state.role
    isAdmin := state.isAdmin }

/-- `require_tenant_context` -/
def requireTenantContext (repr : Json → String) (request : Request) (state : RequestState) :
    Except Exn RequestContext := do
  let ctx ← getCurrentContext repr state
  if ctx.isAdmin then
    match request.queryParam "tenant_id" with
    | none => .error (.http 403 "Admin must specify tenant_id query parameter for tenant routes")
    | some override =>
      if override = "" then
        .error (.http 403 "Admin must specify tenant_id query parameter for tenant routes")
      else .ok { userId := ctx.userId, tenantId := some override, role := ctx.role, isAdmin := true }
  else
    match ctx.tenantId with
    | none => .error (.http 403 "tenant_id is required")
    | some tenantId => if tenantId = "" then .error (.http 403 "tenant_id is required") else .ok ctx

/-- The functions outside the repository that the tenant services rely on: how the database reads a text as a
`uuid`, lower-cases a text for `ILIKE` and orders texts, and the cipher, keyed by the settings, under an
initialisation vector. -/
structure PlatformEnv where
  pgUuid : String → Option Uuid
  pgLower : String → String
  pgLe : String → String → Bool
  encryptSecret : Nat → String → String

/-- `filter_by_tenant(query, model, tenant_id)`: the tenant whose rows the query keeps.  The text goes to the
database as it is, and `pgUuid` is how the database reads a text as a `uuid`. -/
def filterByTenant (pgUuid : String → Option Uuid) (tenantId : Option String) : Except Exn Uuid :=
  match tenantId with
  | none => .error (.http 403 "tenant_id is required")
  | some text =>
    match pgUuid text with
    | none => .error .dataError
    | some t => .ok t

end RatingLift
