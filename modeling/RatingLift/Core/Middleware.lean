import RatingLift.Core.Jwt

/-!
# The HTTP middleware

A request, the state that `TenantContextMiddleware` and `RequestContextMiddleware` attach to it, and their
`dispatch`.  `TenantContextMiddleware` runs first; it either answers the request itself or hands it on.
-/

namespace RatingLift

structure Request where
  path : String
  /-- names in lower case, in the order received -/
  headers : List (String × String)
  queryParams : List (String × String)
  client : Option String

/-- `request.headers.get(name)`: the first header of that name. -/
def Request.header (request : Request) (name : String) : Option String :=
  (request.headers.find? fun h => h.1 == name).map (·.2)

/-- `request.query_params.get(name)`: the last value given. -/
def Request.queryParam (request : Request) (name : String) : Option String :=
  (request.queryParams.reverse.find? fun p => p.1 == name).map (·.2)

/-- The attributes of `request.state`; an attribute that was never set reads as `None` through `getattr`. -/
structure RequestState where
  userId : Json := .none
  role : Json := .none
  isAdmin : Bool := false
  jwtPayload : Option Dict := none
  tenantIdFromToken : Json := .none
  tenantId : Json := .none
  ipAddress : Option String := none

/-- What a middleware does with a request: answer it, or pass it on with this state. -/
inductive Dispatch where
  | respond (status : Nat) (detail : String)
  | next (state : RequestState)

def adminPathPrefix : String := "/api/v1/admin"

def tenantPathPrefix : String := "/api/v1"

def publicPathPrefixes : List String :=
  ["/api/v1/auth", "/api/v1/admin/auth", "/docs", "/redoc", "/openapi.json", "/health", "/ready",
    "/live", "/media"]

def publicExactPaths : List String := ["/", "/docs", "/redoc", "/openapi.json", "/health", "/ready", "/live"]

/-- `_extract_bearer` -/
def extractBearer (request : Request) : Option String :=
  match request.header "authorization" with
  | none => none
  | some header =>
    if header = "" then none
    else match Py.splitOnce header with
      | [scheme, rest] =>
        if Py.asciiLower scheme ≠ "bearer" then none
        else
          let token := Py.strip rest
          if token = "" then none else some token
      | _ => none

/-- `_client_ip` -/
def clientIp (request : Request) : Option String :=
  let realIp : Option String :=
    match request.header "x-real-ip" with
    | some ip => if ip ≠ "" then some (Py.strip ip) else request.client
    | none => request.client
  match request.header "x-forwarded-for" with
  | some xff =>
    let first := Py.strip (Py.beforeFirst xff ',')
    if xff ≠ "" ∧ first ≠ "" then some first else realIp
  | none => realIp

/-- `TenantContextMiddleware._is_public` -/
def isPublic (path : String) : Bool :=
  publicExactPaths.contains path || publicPathPrefixes.any (Py.startsWith path)

section

variable (jwt : Jwt String) (settings : Settings) (now : Instant)

/-- The state after the token of the request was decoded. -/
def tokenState (request : Request) (state : RequestState) : RequestState :=
  let state := { state with
    userId := .none, role := .none, isAdmin := false, jwtPayload := none, tenantIdFromToken := .none }
  match extractBearer request with
  | none => state
  | some token =>
    match decodeJwt jwt settings now token with
    | none => state
    | some payload =>
      { state with
        userId := Json.get payload "user_id"
        role := Json.get payload "role"
        isAdmin := (Json.get payload "is_admin").truthy
        tenantIdFromToken := Json.get payload "tenant_id"
        jwtPayload := some payload
        tenantId :=
          if (Json.get payload "tenant_id").truthy then Json.get payload "tenant_id" else state.tenantId }

/-- `TenantContextMiddleware.dispatch` -/
def TenantContextMiddleware.dispatch (request : Request) (state : RequestState) : Dispatch :=
  let path := request.path
  let state := tokenState jwt settings now request state
  if isPublic path then .next state
  else
    let isAdminPath := Py.startsWith path adminPathPrefix
    let isTenantPath := Py.startsWith path tenantPathPrefix && !isAdminPath
    if !state.userId.truthy then .respond 401 "Authentication required"
    else if isAdminPath && !state.isAdmin then .respond 403 "Admin privileges required"
    else if isTenantPath && state.isAdmin then
      match request.queryParam "tenant_id" with
      | none => .respond 403 "Admin must specify ?tenant_id=<uuid> when calling tenant routes"
      | some override =>
        if override = "" then .respond 403 "Admin must specify ?tenant_id=<uuid> when calling tenant routes"
        else .next { state with tenantId := .str override, tenantIdFromToken := .str override }
    else .next state

/-- `RequestContextMiddleware.dispatch`, up to the call of the application -/
def RequestContextMiddleware.dispatch (request : Request) (state : RequestState) : RequestState :=
  let legacy := (request.header "x-tenant-id").getD "anonymous"
  { state with
    ipAddress := clientIp request
    tenantId := if !state.tenantId.truthy || Json.pyEq state.tenantId (.str "anonymous") then .str legacy
      else state.tenantId }

/-- Both middlewares, in the order the application stacks them. -/
def middleware (request : Request) : Dispatch :=
  match TenantContextMiddleware.dispatch jwt settings now request {} with
  | .respond status detail => .respond status detail
  | .next state => .next (RequestContextMiddleware.dispatch request state)

end

end RatingLift
