import RatingLift.Core.Dependencies
import RatingLift.Db.Query

/-!
# The connector catalogue

`listConnectors` of the connector service and the tenant route over it, which adds the binding state of one
property of the tenant.
-/

namespace RatingLift

open Library

/-- `ORDER BY display_order ASC, name ASC` -/
def catalogueLe (pgLe : String → String → Bool) (a b : Connector) : Bool :=
  a.displayOrder < b.displayOrder || (a.displayOrder == b.displayOrder && pgLe a.name b.name)

/-- `list_connectors` of the connector service: the page and the number of all rows. -/
def listCatalogue (env : PlatformEnv) (db : Db) (isActive : Option Bool) (includeDeleted : Bool)
    (limit offset : Nat) :
    List Connector × Nat :=
  let rows := db.connectors.select fun c =>
    (includeDeleted || !c.isDeleted) && isActive.all fun b => c.isActive == b
  (((rows.insertionSort fun a b => catalogueLe env.pgLe a b).drop offset).take limit, rows.length)

/-- `_LogoSerializer`: a logo served by the application gets an absolute address. -/
def absLogoUrl (settings : Settings) (value : Option String) : Option String :=
  match value with
  | none => none
  | some url =>
    if url = "" then none
    else if Py.startsWith url "http://" || Py.startsWith url "https://" then some url
    else if Py.startsWith url settings.mediaUrlPrefix then
      some (Py.rstripChar settings.appPublicUrl '/' ++ url)
    else some url

structure TenantConnectorResponse where
  id : Uuid
  name : String
  logoUrl : Option String
  displayOrder : Nat
  propertyConnectorId : Option Uuid
  isConnected : Bool

structure TenantConnectorList where
  total : Nat
  limit : Nat
  offset : Nat
  items : List TenantConnectorResponse

/-- An item of the list: the connector, enriched with its binding. -/
def TenantConnectorResponse.ofRow (settings : Settings) (c : Connector) (pc : Option PropertyConnector) :
    TenantConnectorResponse where
  id := c.id
  name := c.name
  logoUrl := absLogoUrl settings c.logoUrl
  displayOrder := c.displayOrder
  propertyConnectorId := pc.map (·.id)
  isConnected := pc.any (·.isActive)

/-- The entry of `{pc.connector_id: pc for pc in pcs}` for a connector: the last row wins. -/
def bindingOf (pcs : List PropertyConnector) (connectorId : Uuid) : Option PropertyConnector :=
  pcs.reverse.find? fun pc => pc.connectorId == connectorId

/-- The bindings that `list_active_connectors` loads for a property of the tenant. -/
def catalogueBindings (env : PlatformEnv) (db : Db) (ctx : RequestContext) (connectorIds : List Uuid)
    (propertyId : Option Uuid) : Except Exn (List PropertyConnector) :=
  match propertyId with
  | none => .ok []
  | some pid => do
    let tenant ← filterByTenant env.pgUuid ctx.tenantId
    match db.properties.first fun p => p.tenantId == tenant && p.id == pid with
    | none => .error (.http 404 "Property not found")
    | some _ =>
      .ok
        (db.propertyConnectors.select fun pc => pc.propertyId == pid && connectorIds.contains pc.connectorId)

/-- `list_active_connectors` -/
def listActiveConnectors (env : PlatformEnv) (settings : Settings) (db : Db) (ctx : RequestContext)
    (limit offset : Nat) (propertyId : Option Uuid) : Except Exn TenantConnectorList := do
  let (rows, total) := listCatalogue env db (some true) false limit offset
  let pcs ← catalogueBindings env db ctx (rows.map (·.id)) propertyId
  return ⟨total, limit, offset, rows.map fun c => .ofRow settings c (bindingOf pcs c.id)⟩

end RatingLift
