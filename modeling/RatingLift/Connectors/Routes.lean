import RatingLift.Connectors.LogoIntegrity

/-!
# The admin routes of the connector master

The routes under `/api/v1/admin/connectors` that change the catalogue, and the seeder.  A route loads its row
with `get_connector_or_404`, which finds no deleted one; only the restore route loads deleted rows.  The audit
rows that the routes add to other tables are left out.
-/

namespace RatingLift

open Library Logos

/-- `_DEFAULTS` of the seeder -/
def defaultConnectors : List String :=
  ["Google Reviews", "Yelp", "TripAdvisor", "Facebook", "Instagram", "DoorDash", "Uber Eats"]

section

variable (env : ConnectorEnv) (db : Db)

/-- The row of a connector that is new in the catalogue. -/
def newConnector (id : Uuid) (name : String) : Connector where
  id := id
  name := name
  logoUrl := none
  logoSha256 := none
  isActive := true
  isDeleted := false
  deletedAt := none
  displayOrder := 0

/-- One turn of the loop of `seed_connectors`, whose lookup includes deleted rows. -/
def seedConnector (id : Uuid) (name : String) : Except Exn Db :=
  match db.connectors.first fun c => env.pgLower c.name == env.lower name with
  | some _ => .ok db
  | none => addConnector env db (newConnector id name)

/-- The loop of `seed_connectors`; the `n`-th name gets the `n`-th of the ids that the database generates. -/
def seedConnectorsFrom (id : Nat → Uuid) (db : Db) (n : Nat) : List String → Except Exn Db
  | [] => .ok db
  | name :: names => do
    let db ← seedConnector env db (id n) name
    seedConnectorsFrom id db (n + 1) names

/-- `seed_connectors`, which commits where it has created a row. -/
def seedConnectors (id : Nat → Uuid) : Except Exn Db := seedConnectorsFrom env id db 0 defaultConnectors

/-- The assignments of `reorder_connectors`. -/
def assignOrders (db : Db) : List (Uuid × Int) → Except Exn Db
  | [] => .ok db
  | (id, order) :: items =>
    if order < 0 then .error (.http 400 "display_order must be ≥ 0")
    else
      match db.connectors.find? id with
      | none => assignOrders db items
      | some row =>
        assignOrders
          { db with connectors := db.connectors.update { row with displayOrder := order.toNat } } items

/-- `db.flush()` after the assignments; no unique index covers `display_order`. -/
def flushOrders (assigned : Db) : Except Exn Db :=
  if assigned.connectors.rows.all (orderFits db.connectors) then .ok assigned else .error .dataError

/-- `reorder_connectors` -/
def reorderConnectors (items : List (Uuid × Int)) : Except Exn Db :=
  let missing := items.filter fun item => (db.connectors.first fun c => !c.isDeleted && c.id == item.1).isNone
  if missing ≠ [] then
    .error (.http 404 ("Connector(s) not found: " ++ ", ".intercalate (missing.map fun item => item.1.str)))
  else do
    let assigned ← assignOrders db items
    flushOrders db assigned

end

/-- A request to the admin routes that has passed its schema, or a run of the seeder. -/
inductive CatalogueRequest where
  | create (id : Uuid) (name : String) (file : Option UploadFile)
  | update (connectorId : Uuid) (name : Option String) (isActive : Option Bool) (displayOrder : Option Nat)
  | delete (connectorId : Uuid) (now : Instant)
  | restore (connectorId : Uuid)
  | activate (connectorId : Uuid)
  | deactivate (connectorId : Uuid)
  | reorder (items : List (Uuid × Nat))
  | uploadLogo (connectorId : Uuid) (file : UploadFile)
  | clearLogo (connectorId : Uuid)
  | seed (id : Nat → Uuid)

section

variable (env : ConnectorEnv) (settings : Settings) (w : MediaWorld)

/-- A route on a row that is not deleted. -/
def MediaWorld.onLive (connectorId : Uuid) (route : Connector → Storage × Except Exn Db) :
    Storage × Except Exn Db :=
  match getConnectorOr404 w.db connectorId with
  | .error e => (w.storage, .error e)
  | .ok row => route row

/-- `_set_active` -/
def MediaWorld.setActive (connectorId : Uuid) (activate : Bool) : Storage × Except Exn Db :=
  w.onLive connectorId fun row =>
    if row.isActive == activate then (w.storage, .ok w.db)
    else updateConnectorMaster env w.db w.storage row none none (some activate) none

/-- What a request leaves: the storage, and the database to commit or the error. -/
def CatalogueRequest.serve : CatalogueRequest → Storage × Except Exn Db
  | create id name file => createWithLogo env settings w id name file
  | update connectorId name isActive displayOrder =>
    w.onLive connectorId fun row =>
      updateConnectorMaster env w.db w.storage row name none isActive (displayOrder.map Int.ofNat)
  | delete connectorId now => w.onLive connectorId fun row =>
    (w.storage, softDeleteConnector env w.db now row)
  | restore connectorId =>
    (w.storage, do
      let row ← getConnectorIncludingDeletedOr404 w.db connectorId
      restoreConnector env w.db row)
  | activate connectorId => w.setActive env connectorId true
  | deactivate connectorId => w.setActive env connectorId false
  | reorder items => (w.storage, reorderConnectors w.db (items.map fun item => (item.1, Int.ofNat item.2)))
  | uploadLogo connectorId file => w.onLive connectorId fun row =>
    saveConnectorLogo env settings w.db w.storage row file
  | clearLogo connectorId => w.onLive connectorId fun row => clearConnectorLogo env w.db w.storage row
  | seed id => (w.storage, seedConnectors env w.db id)

/-- The ids that the database generates for new rows are new. -/
def CatalogueRequest.Fresh (db : Db) : CatalogueRequest → Prop
  | create id _ _ => db.connectors.Fresh id
  | seed id => db.connectors.NewKeys id 0 defaultConnectors.length
  | _ => True

instance (db : Db) (request : CatalogueRequest) : Decidable (request.Fresh db) := by
  unfold CatalogueRequest.Fresh; split <;> infer_instance

end

abbrev CatalogueStep := Step MediaWorld CatalogueRequest

/-- Requests to the admin routes and runs of the seeder, in any order, one at a time. -/
abbrev CatalogueRun (env : ConnectorEnv) (settings : Settings) :=
  Run (fun (w : MediaWorld) (request : CatalogueRequest) => some (w.commit (request.serve env settings w)))
    fun _ w request => request.Fresh w.db

end RatingLift
