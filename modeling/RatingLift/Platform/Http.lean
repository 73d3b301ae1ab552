import RatingLift.Auth.Routes
import RatingLift.Connectors.CatalogueTrail
import RatingLift.Core.TenantContext
import RatingLift.Platform.AuthWrites
import RatingLift.Platform.TenantWrites
import RatingLift.Security.IpBlocking

/-!
# Requests to the platform

The routers that `main` includes, as far as they change anything.  A request passes both middlewares, then the
dependencies of its route: `require_tenant_context` on the tenant routes, `require_role` on the admin routes.
What comes out is a call of the handler with the principal filled in (`PlatformHttp.call`), or the exception
that answers the request.
-/

namespace RatingLift

open Library

/-! ### Routes -/

/-- `ADMIN_ROLES` of the connector routes -/
def connectorRoles : List UserRole := [.SUPER_ADMIN, .OPS_ADMIN]

/-- `MUTATE_ROLES` -/
def mutateRoles : List UserRole := [.SUPER_ADMIN, .COMPLIANCE_ADMIN]

/-- A route under `/api/v1/tenant/properties/{property_id}/connectors`, with its body. -/
inductive BindingRoute where
  | activateConnectorEndpoint (propertyId : Uuid) (payload : ActivateConnector)
  | listConnectorsEndpoint (propertyId : Uuid)
  | updateConnectorEndpoint (propertyId propertyConnectorId : Uuid) (payload : UpdateConnector)
  | deactivateConnectorEndpoint (propertyId propertyConnectorId : Uuid)
  | reactivateConnectorEndpoint (propertyId propertyConnectorId : Uuid)

/-- A route under `/api/v1/admin/property-connectors`, with its body. -/
inductive AdminBindingRoute where
  | listPropertyConnectors (filter : BindingFilter) (limit offset : Nat)
  | adminActivateConnector (propertyId : Uuid) (payload : ActivateConnector)
  | adminUpdateConnector (propertyConnectorId : Uuid) (payload : UpdateConnector)
  | adminDeactivateConnector (propertyConnectorId : Uuid)
  | adminReactivateConnector (propertyConnectorId : Uuid)

/-- A request to the admin routes of the catalogue; running the seeder is none. -/
abbrev CatalogueRoute := { request : CatalogueRequest // ∀ id, request ≠ .seed id }

inductive PlatformRoute where
  | auth (path : AuthPath)
  | property (request : PropertyRequest)
  | binding (route : BindingRoute)
  | adminBinding (route : AdminBindingRoute)
  | catalogue (route : CatalogueRoute)
  | manuallyBlockIp (payload : IpBlockCreateRequest)
  | manuallyUnblockIp (ipAddress : String)

def BindingRoute.request (ctx : RequestContext) : BindingRoute → BindingRequest
  | activateConnectorEndpoint propertyId payload => .activateConnectorEndpoint ctx propertyId payload
  | listConnectorsEndpoint propertyId => .listConnectorsEndpoint ctx propertyId
  | updateConnectorEndpoint propertyId id payload => .updateConnectorEndpoint ctx propertyId id payload
  | deactivateConnectorEndpoint propertyId id => .deactivateConnectorEndpoint ctx propertyId id
  | reactivateConnectorEndpoint propertyId id => .reactivateConnectorEndpoint ctx propertyId id

def AdminBindingRoute.request (adminId : Uuid) : AdminBindingRoute → BindingRequest
  | listPropertyConnectors filter limit offset => .listPropertyConnectors filter limit offset
  | adminActivateConnector propertyId payload => .adminActivateConnector adminId propertyId payload
  | adminUpdateConnector id payload => .adminUpdateConnector adminId id payload
  | adminDeactivateConnector id => .adminDeactivateConnector adminId id
  | adminReactivateConnector id => .adminReactivateConnector adminId id

/-- The path under which the router of a route is mounted. -/
def PlatformRoute.mount : PlatformRoute → String
  | auth .adminLogin | auth .createAdmin => "/api/v1/admin/auth"
  | auth _ => "/api/v1/auth"
  | property _ | binding _ => "/api/v1/tenant/properties"
  | adminBinding _ => "/api/v1/admin/property-connectors"
  | catalogue _ => "/api/v1/admin/connectors"
  | manuallyBlockIp _ | manuallyUnblockIp _ => "/api/v1/admin/ip-blocklist"

/-! ### State and environment -/

/-- What the platform keeps: the database, Redis and the messages sent, and the media. -/
structure PlatformState where
  auth : AuthState
  storage : Storage

/-- What the platform gets from outside. -/
structure BackendEnv where
  routes : AuthRouteEnv String
  tenants : PlatformEnv
  connectors : ConnectorEnv

/-- What a request draws, for the authentication service and for the others. -/
structure PlatformDraw where
  auth : AuthDraw
  tenant : Draw

namespace PlatformState

variable (s : PlatformState)

def db : Db := s.auth.db

def media : MediaWorld := ⟨s.db, s.storage⟩

def withDb (db : Db) : PlatformState := { s with auth := { s.auth with db := db } }

def withMedia (w : MediaWorld) : PlatformState := { auth := { s.auth with db := w.db }, storage := w.storage }

end PlatformState

/-! ### Who asks -/

/-- A request with what the framework reads from it; `profile` is what the provider answers for a social
login. -/
structure PlatformHttp where
  request : Request
  credentials : Option String
  body : Option Json
  profile : UserInfoReply
  route : PlatformRoute

/-- A call of a handler. -/
inductive PlatformCall where
  | auth (http : AuthHttp String)
  | tenant (request : AuditedRequest)
  | catalogue (adminId : Uuid) (route : CatalogueRoute)
  | manuallyBlockIp (adminId : Uuid) (payload : IpBlockCreateRequest)
  | manuallyUnblockIp (adminId : Uuid) (ipAddress : String)

namespace PlatformHttp

variable (env : BackendEnv) (s : PlatformState) (draw : AuthDraw) (http : PlatformHttp)

/-- The request as the routes of authentication read it. -/
def authHttp (path : AuthPath) : AuthHttp String :=
  ⟨path, http.request, http.credentials, http.body, http.profile⟩

/-- The state of a request that a router takes and that both middlewares let through. -/
def passed (now : Instant) : Except Exn RequestState :=
  if !Py.startsWith http.request.path http.route.mount then .error (.http 404 "Not Found")
  else
    match middleware env.routes.auth.jwt env.routes.auth.settings now http.request with
    | .respond status detail => .error (.http status detail)
    | .next state => .ok state

/-- The context of a tenant route, which also depends on `oauth2_scheme`. -/
def context (now : Instant) : Except Exn RequestContext := do
  let state ← http.passed env now
  if http.credentials.isNone then .error (.http 401 "Not authenticated")
  else requireTenantContext env.routes.repr http.request state

/-- The admin of an admin route. -/
def admin (roles : List UserRole) : Except Exn User := do
  let _ ← http.passed env draw.now
  AuthRoutes.requireRole env.routes s.auth draw (http.authHttp .me) roles

/-- The call that a request leads to. -/
def call : Except Exn PlatformCall :=
  match http.route with
  | .auth path => do
    let _ ← http.passed env draw.now
    return .auth (http.authHttp path)
  | .property request => do
    let ctx ← http.context env draw.now
    return .tenant (.property ctx request)
  | .binding route => do
    let ctx ← http.context env draw.now
    return .tenant (.binding (route.request ctx))
  | .adminBinding route => do
    let admin ← http.admin env s draw connectorRoles
    return .tenant (.binding (route.request admin.id))
  | .catalogue route => do
    let admin ← http.admin env s draw connectorRoles
    return .catalogue admin.id route
  | .manuallyBlockIp payload => do
    let admin ← http.admin env s draw mutateRoles
    return .manuallyBlockIp admin.id payload
  | .manuallyUnblockIp ipAddress => do
    let admin ← http.admin env s draw mutateRoles
    return .manuallyUnblockIp admin.id ipAddress

end PlatformHttp

/-! ### What a call leaves -/

/-- The state after a call, whose answer is left out; `ipAddress` is the address that the middleware found. -/
def PlatformCall.next (env : BackendEnv) (s : PlatformState) (draw : PlatformDraw)
    (ipAddress : Option String) :
    PlatformCall → PlatformState
  | auth http => { s with auth := (http.handle env.routes s.auth draw.auth).1 }
  | tenant request => s.withDb (request.next env.tenants s.db draw.tenant ipAddress)
  | catalogue adminId route => s.withMedia (route.1.handle env.routes.auth.isoformat env.connectors
      env.routes.auth.settings s.media draw.tenant adminId ipAddress)
  | manuallyBlockIp adminId payload =>
    s.withDb (RatingLift.manuallyBlockIp s.db draw.tenant ipAddress adminId payload).2
  | manuallyUnblockIp adminId address =>
    s.withDb (RatingLift.manuallyUnblockIp s.db draw.tenant ipAddress adminId address).2

/-- The keys that a call draws are not in use. -/
def PlatformCall.Fresh (db : Db) (draw : PlatformDraw) : PlatformCall → Prop
  | auth _ => draw.auth.Unused db
  | tenant request => draw.tenant.New request.drawn db
  | catalogue _ _ | manuallyBlockIp _ _ | manuallyUnblockIp _ _ =>
    db.adminActionLogs.Fresh draw.tenant.adminLogId

instance Draw.decidableNew (draw : Draw) (n : Nat) (db : Db) : Decidable (draw.New n db) :=
  decidable_of_iff (db.properties.NewKeys draw.id 0 n ∧ db.propertyConnectors.NewKeys draw.id 0 n ∧
    db.auditLogs.NewKeys draw.auditId 0 n)
    ⟨fun ⟨hproperties, hbindings, hlogs⟩ => ⟨hproperties, hbindings, hlogs⟩,
      fun ⟨hproperties, hbindings, hlogs⟩ => ⟨hproperties, hbindings, hlogs⟩⟩

instance PlatformCall.decidableFresh (db : Db) (draw : PlatformDraw) (call : PlatformCall) :
    Decidable (call.Fresh db draw) :=
  match call with
  | auth _ => inferInstanceAs (Decidable (draw.auth.Unused db))
  | tenant request => inferInstanceAs (Decidable (draw.tenant.New request.drawn db))
  | catalogue _ _ => inferInstanceAs (Decidable (db.adminActionLogs.Fresh draw.tenant.adminLogId))
  | manuallyBlockIp _ _ => inferInstanceAs (Decidable (db.adminActionLogs.Fresh draw.tenant.adminLogId))
  | manuallyUnblockIp _ _ => inferInstanceAs (Decidable (db.adminActionLogs.Fresh draw.tenant.adminLogId))

/-! ### Runs -/

/-- A startup, with what its seeders meet and draw, or a request. -/
inductive PlatformEvent where
  | startup (fault : AdminSeed → Option SeedFault) (entries : List (AdminSeed × AuthDraw)) (id : Nat → Uuid)
  | request (http : PlatformHttp) (draw : PlatformDraw)

namespace PlatformEvent

variable (env : BackendEnv) (s : PlatformState)

def next : PlatformEvent → PlatformState
  | startup fault entries id => s.withDb (runSeeders env.routes.auth fault env.connectors s.db entries id)
  | request http draw =>
    match http.call env s draw.auth with
    | .error _ => s
    | .ok call => call.next env s draw (clientIp http.request)

/-- The keys that an event draws are not in use. -/
def Fresh : PlatformEvent → Prop
  | startup _ _ _ => True
  | request http draw => ∀ call, http.call env s draw.auth = .ok call → call.Fresh s.db draw

instance decidableFresh (event : PlatformEvent) : Decidable (event.Fresh env s) :=
  match event with
  | startup _ _ _ => inferInstanceAs (Decidable True)
  | request http draw =>
    decidable_of_iff (∀ call ∈ (http.call env s draw.auth).toOption, call.Fresh s.db draw)
      (forall_congr' fun _ => imp_congr_left Fallible.toOption_eq_some)

end PlatformEvent

abbrev PlatformStep := Step PlatformState PlatformEvent

/-- Startups and requests to all routers, in any order, one at a time. -/
abbrev PlatformRun (env : BackendEnv) :=
  Run (fun s (event : PlatformEvent) => some (event.next env s)) fun _ s event => event.Fresh env s

end RatingLift
