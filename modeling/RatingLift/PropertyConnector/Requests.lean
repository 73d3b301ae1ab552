import RatingLift.Library.Run
import RatingLift.PropertyConnector.AdminReport
import RatingLift.PropertyConnector.Routes

/-!
# Runs of the binding routes

The requests on bindings, of tenants and of admins, served one at a time.
-/

namespace RatingLift

open Library

/-- A request that has passed the schemas and the dependencies of its route. -/
inductive BindingRequest where
  | activateConnectorEndpoint (ctx : RequestContext) (propertyId : Uuid) (payload : ActivateConnector)
  | listConnectorsEndpoint (ctx : RequestContext) (propertyId : Uuid)
  | updateConnectorEndpoint (ctx : RequestContext) (propertyId propertyConnectorId : Uuid)
      (payload : UpdateConnector)
  | deactivateConnectorEndpoint (ctx : RequestContext) (propertyId propertyConnectorId : Uuid)
  | reactivateConnectorEndpoint (ctx : RequestContext) (propertyId propertyConnectorId : Uuid)
  | listPropertyConnectors (filter : BindingFilter) (limit offset : Nat)
  | adminActivateConnector (adminId propertyId : Uuid) (payload : ActivateConnector)
  | adminUpdateConnector (adminId propertyConnectorId : Uuid) (payload : UpdateConnector)
  | adminDeactivateConnector (adminId propertyConnectorId : Uuid)
  | adminReactivateConnector (adminId propertyConnectorId : Uuid)

inductive BindingBody where
  | binding (response : ConnectorResponse)
  | list (total : Nat) (items : List ConnectorResponse)
  | report (totalCount : String) (list : AdminPropertyConnectorList)

structure BindingReply where
  status : Nat
  body : BindingBody

/-- The reply of a route whose body is a binding. -/
def bindingReply (status : Nat) (r : ConnectorResponse × Db) : BindingReply × Db :=
  (⟨status, .binding r.1⟩, r.2)

section

variable (env : PlatformEnv) (db : Db) (draw : Draw) (ipAddress : Option String)

/-- What a route replies, and the database as committed. -/
def BindingRequest.serve : BindingRequest → Except Exn (BindingReply × Db)
  | activateConnectorEndpoint ctx propertyId payload =>
    (RatingLift.activateConnectorEndpoint env db draw ipAddress ctx propertyId payload).map (bindingReply 201)
  | listConnectorsEndpoint ctx propertyId =>
    (RatingLift.listConnectorsEndpoint env db ctx propertyId).map fun r => (⟨200, .list r.1 r.2⟩, db)
  | updateConnectorEndpoint ctx propertyId id payload =>
    (RatingLift.updateConnectorEndpoint env db draw ipAddress ctx propertyId id payload).map
      (bindingReply 200)
  | deactivateConnectorEndpoint ctx propertyId id =>
    (RatingLift.deactivateConnectorEndpoint env db draw ipAddress ctx propertyId id).map (bindingReply 200)
  | reactivateConnectorEndpoint ctx propertyId id =>
    (RatingLift.reactivateConnectorEndpoint env db draw ipAddress ctx propertyId id).map (bindingReply 200)
  | listPropertyConnectors filter limit offset =>
    let (totalCount, list) := RatingLift.listPropertyConnectors env db filter limit offset
    .ok (⟨200, .report totalCount list⟩, db)
  | adminActivateConnector adminId propertyId payload =>
    (RatingLift.adminActivateConnector env db draw ipAddress adminId propertyId payload).map
      (bindingReply 201)
  | adminUpdateConnector adminId id payload =>
    (RatingLift.adminUpdateConnector env db draw ipAddress adminId id payload).map (bindingReply 200)
  | adminDeactivateConnector adminId id =>
    (RatingLift.adminDeactivateConnector env db draw ipAddress adminId id).map (bindingReply 200)
  | adminReactivateConnector adminId id =>
    (RatingLift.adminReactivateConnector env db draw ipAddress adminId id).map (bindingReply 200)

end

/-- A request, where it comes from and what it draws. -/
structure RoutedRequest where
  request : BindingRequest
  ipAddress : Option String
  draw : Draw

section

variable (env : PlatformEnv) (db : Db) (r : RoutedRequest)

def RoutedRequest.serve : Except Exn (BindingReply × Db) := r.request.serve env db r.draw r.ipAddress

/-- The reply to a request, or the exception it ends with, which is also a response. -/
def RoutedRequest.reply : Except Exn BindingReply := (r.serve env db).map (·.1)

/-- The database after a request: a request that fails commits nothing. -/
def RoutedRequest.next : Db :=
  match r.serve env db with
  | .ok (_, db') => db'
  | .error _ => db

end

abbrev RoutedStep := Step Db RoutedRequest

/-- Any requests, one at a time. -/
abbrev RoutedRun (env : PlatformEnv) (ok : List RoutedStep → Db → RoutedRequest → Prop) :=
  Run (fun db r => some (RoutedRequest.next env db r)) ok

end RatingLift
