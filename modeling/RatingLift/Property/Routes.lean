import RatingLift.Audit.Service
import RatingLift.Library.Run
import RatingLift.Property.Service

/-!
# The property routes

The routes under `/api/v1/tenant/properties` that change properties.  A route returns its response together
with the database as committed: where it does not commit, that is the database as it was.
-/

namespace RatingLift

open Library PropertyService

structure PropertyResponse where
  id : Uuid
  name : String
  googlePlaceId : Option String
  googleMapsUrl : Option String
  isActive : Bool
  createdAt : Instant
  updatedAt : Instant

/-- `PropertyResponse.model_validate` -/
def PropertyResponse.ofRow (prop : Property) : PropertyResponse where
  id := prop.id
  name := prop.name
  googlePlaceId := prop.googlePlaceId
  googleMapsUrl := prop.googleMapsUrl
  isActive := prop.isActive
  createdAt := prop.createdAt
  updatedAt := prop.updatedAt

structure PropertyBulkCreateResultItem where
  index : Nat
  ok : Bool
  property : Option PropertyResponse
  error : Option String
  status : Option Nat

structure PropertyBulkCreateResponse where
  created : Nat
  failed : Nat
  results : List PropertyBulkCreateResultItem

structure PropertyBulkDeactivateResultItem where
  id : String
  ok : Bool
  changed : Option Bool
  error : Option String
  status : Option Nat

structure PropertyBulkDeactivateResponse where
  deactivated : Nat
  unchanged : Nat
  failed : Nat
  results : List PropertyBulkDeactivateResultItem

section

variable (env : PlatformEnv) (db : Db) (draw : Draw) (ipAddress : Option String) (ctx : RequestContext)

/-- `log_action` as the property routes call it, with the `n`-th of the ids drawn for audit rows. -/
def logPropertyChange (n : Nat) (db : Db) (action : String) (id : Uuid) (before : Json) (after : Dict) : Db :=
  logAction db (draw.auditId n) draw.now (some ctx.userId) "tenant" action "property" (some id) before
    (.dict after)
    ipAddress

/-- `create_property_endpoint` -/
def createPropertyEndpoint (payload : PropertyCreate) : Except Exn (PropertyResponse × Db) := do
  let (prop, flushed) ← createProperty db ctx draw payload
  return (.ofRow prop,
    logPropertyChange draw ipAddress ctx 0 flushed "property.create" prop.id .none prop.snapshot)

/-- `update_property_endpoint` -/
def updatePropertyEndpoint (propertyId : Uuid) (payload : PropertyUpdate) :
    Except Exn (PropertyResponse × Db) := do
  let ((prop, before, after), flushed) ← updateProperty env db ctx draw (.uuid propertyId) payload
  return (.ofRow prop,
    logPropertyChange draw ipAddress ctx 0 flushed "property.update" prop.id (.dict before) after)

/-- The end of the two routes that commit only a change. -/
def endPropertyRoute (action : String) (r : (Property × Dict × Dict × Bool) × Db) : PropertyResponse × Db :=
  let (prop, before, after, changed) := r.1
  (.ofRow prop,
    if changed then logPropertyChange draw ipAddress ctx 0 r.2 action prop.id (.dict before) after else db)

/-- `deactivate_property_endpoint` -/
def deactivatePropertyEndpoint (propertyId : Uuid) : Except Exn (PropertyResponse × Db) := do
  let r ← deactivateProperty env db ctx draw (.uuid propertyId)
  return endPropertyRoute db draw ipAddress ctx "property.deactivate" r

/-- `activate_property_endpoint` -/
def activatePropertyEndpoint (propertyId : Uuid) : Except Exn (PropertyResponse × Db) := do
  let r ← activateProperty env db ctx draw (.uuid propertyId)
  return endPropertyRoute db draw ipAddress ctx "property.activate" r

/-! ### Bulk operations -/

/-- One turn of the loop over the results of `bulk_create_properties`. -/
def reportCreated (acc : PropertyBulkCreateResponse × Db) (r : BulkCreateResult) :
    PropertyBulkCreateResponse × Db :=
  match r with
  | .created index prop after =>
    ({ acc.1 with
        created := acc.1.created + 1
        results := acc.1.results ++ [⟨index, true, some (.ofRow prop), none, none⟩] },
      logPropertyChange draw ipAddress ctx acc.1.created acc.2 "property.create" prop.id .none after)
  | .failed index error status =>
    ({ acc.1 with
        failed := acc.1.failed + 1
        results := acc.1.results ++ [⟨index, false, none, some error, some status⟩] }, acc.2)

/-- `bulk_create_properties_endpoint`, which always commits. -/
def bulkCreatePropertiesEndpoint (items : List PropertyCreate) :
    Except Exn (PropertyBulkCreateResponse × Db) := do
  let (raw, flushed) ← bulkCreateProperties db ctx draw items
  return raw.foldl (reportCreated draw ipAddress ctx) (⟨0, 0, []⟩, flushed)

/-- One turn of the loop over the results of `bulk_deactivate_properties`. -/
def reportDeactivated (acc : PropertyBulkDeactivateResponse × Db) (r : BulkDeactivateResult) :
    PropertyBulkDeactivateResponse × Db :=
  match r with
  | .failed id error status =>
    ({ acc.1 with
        failed := acc.1.failed + 1
        results := acc.1.results ++ [⟨id, false, none, some error, some status⟩] }, acc.2)
  | .done id changed prop before after =>
    if changed then
      ({ acc.1 with
          deactivated := acc.1.deactivated + 1
          results := acc.1.results ++ [⟨id, true, some true, none, none⟩] },
        logPropertyChange draw ipAddress ctx acc.1.deactivated acc.2 "property.deactivate" prop.id
          (.dict before) after)
    else
      ({ acc.1 with
          unchanged := acc.1.unchanged + 1
          results := acc.1.results ++ [⟨id, true, some false, none, none⟩] }, acc.2)

/-- `bulk_deactivate_properties_endpoint`.  `audited` holds exactly when some property was deactivated. -/
def bulkDeactivatePropertiesEndpoint (ids : List Uuid) :
    Except Exn (PropertyBulkDeactivateResponse × Db) := do
  let (raw, flushed) ← bulkDeactivateProperties env ctx draw db (ids.map fun i => .text i.str)
  let (response, logged) := raw.foldl (reportDeactivated draw ipAddress ctx) (⟨0, 0, 0, []⟩, flushed)
  return (response, if response.deactivated ≠ 0 ∨ response.unchanged ≠ 0 then logged else db)

end

/-- A request to one of these routes that has passed its schema and the dependencies of the router. -/
inductive PropertyRequest where
  | createPropertyEndpoint (payload : PropertyCreate)
  | updatePropertyEndpoint (propertyId : Uuid) (payload : PropertyUpdate)
  | deactivatePropertyEndpoint (propertyId : Uuid)
  | activatePropertyEndpoint (propertyId : Uuid)
  | bulkCreatePropertiesEndpoint (items : List PropertyCreate)
  | bulkDeactivatePropertiesEndpoint (ids : List Uuid)

inductive PropertyBody where
  | property (response : PropertyResponse)
  | bulkCreated (response : PropertyBulkCreateResponse)
  | bulkDeactivated (response : PropertyBulkDeactivateResponse)

section

variable (env : PlatformEnv) (db : Db) (draw : Draw) (ipAddress : Option String) (ctx : RequestContext)

/-- The status and the body a route answers with, and the database as committed. -/
def PropertyRequest.serve : PropertyRequest → Except Exn ((Nat × PropertyBody) × Db)
  | createPropertyEndpoint payload =>
    (RatingLift.createPropertyEndpoint db draw ipAddress ctx payload).map fun r => ((201, .property r.1), r.2)
  | updatePropertyEndpoint propertyId payload =>
    (RatingLift.updatePropertyEndpoint env db draw ipAddress ctx propertyId payload).map fun r =>
      ((200, .property r.1), r.2)
  | deactivatePropertyEndpoint propertyId =>
    (RatingLift.deactivatePropertyEndpoint env db draw ipAddress ctx propertyId).map fun r =>
      ((200, .property r.1), r.2)
  | activatePropertyEndpoint propertyId =>
    (RatingLift.activatePropertyEndpoint env db draw ipAddress ctx propertyId).map fun r =>
      ((200, .property r.1), r.2)
  | bulkCreatePropertiesEndpoint items =>
    (RatingLift.bulkCreatePropertiesEndpoint db draw ipAddress ctx items).map fun r =>
      ((207, .bulkCreated r.1), r.2)
  | bulkDeactivatePropertiesEndpoint ids =>
    (RatingLift.bulkDeactivatePropertiesEndpoint env db draw ipAddress ctx ids).map fun r =>
      ((207, .bulkDeactivated r.1), r.2)

end

end RatingLift
