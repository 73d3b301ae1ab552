import RatingLift.Core.Dependencies
import RatingLift.Db.Query

/-!
# The report of all bindings

`list_bindings` of the admin service and the route over it: the bindings of every tenant with their property
and connector, filtered, counted and paged.
-/

namespace RatingLift

open Library

/-- A row of `_base_query`, which is also the schema of the response. -/
structure AdminPropertyConnectorRow where
  id : Uuid
  isActive : Bool
  createdAt : Instant
  scopes : Option (List String)
  config : Option Dict
  baseUrl : Option String
  tenantId : Uuid
  tenantName : String
  propertyId : Uuid
  propertyName : String
  connectorId : Uuid
  connectorName : String
  connectorLogoUrl : Option String

structure AdminPropertyConnectorList where
  total : Nat
  limit : Nat
  offset : Nat
  items : List AdminPropertyConnectorRow

/-- The filters of `list_bindings`. -/
structure BindingFilter where
  tenantId : Option Uuid
  propertyId : Option Uuid
  connectorId : Option Uuid
  isActive : Option Bool

def BindingFilter.accepts (filter : BindingFilter) (row : AdminPropertyConnectorRow) : Bool :=
  filter.tenantId.all (row.tenantId == ·) && filter.propertyId.all (row.propertyId == ·) &&
    filter.connectorId.all (row.connectorId == ·) && filter.isActive.all (row.isActive == ·)

section

variable (env : PlatformEnv) (db : Db)

/-- The row of a binding; the inner joins drop a binding whose property, tenant or connector is missing. -/
def baseRow (pc : PropertyConnector) : Option AdminPropertyConnectorRow := do
  let prop ← db.properties.find? pc.propertyId
  let tenant ← db.tenants.find? prop.tenantId
  let connector ← db.connectors.find? pc.connectorId
  return {
    id := pc.id
    isActive := pc.isActive
    createdAt := pc.createdAt
    scopes := pc.scopes
    config := pc.config
    baseUrl := pc.baseUrl
    tenantId := tenant.id
    tenantName := tenant.name
    propertyId := prop.id
    propertyName := prop.name
    connectorId := connector.id
    connectorName := connector.name
    connectorLogoUrl := connector.logoUrl }

/-- Orders by a text first, and where the texts are equal by the rest. -/
def textThen (a b : String) (rest : Bool) : Bool :=
  if env.pgLe a b && env.pgLe b a then rest else env.pgLe a b

/-- `ORDER BY tenants.name, properties.name, connectors.name` -/
def reportLe (a b : AdminPropertyConnectorRow) : Bool :=
  textThen env a.tenantName b.tenantName <| textThen env a.propertyName b.propertyName <|
    env.pgLe a.connectorName b.connectorName

/-- `list_bindings`: the page and the number of all rows. -/
def listBindings (filter : BindingFilter) (limit offset : Nat) : List AdminPropertyConnectorRow × Nat :=
  let rows := (db.propertyConnectors.rows.filterMap (baseRow db)).filter filter.accepts
  (((rows.insertionSort fun a b => reportLe env a b).drop offset).take limit, rows.length)

/-- `list_property_connectors`: the header `X-Total-Count` and the body. -/
def listPropertyConnectors (filter : BindingFilter) (limit offset : Nat) :
    String × AdminPropertyConnectorList :=
  let (rows, total) := listBindings env db filter limit offset
  (toString total, ⟨total, limit, offset, rows⟩)

end

end RatingLift
