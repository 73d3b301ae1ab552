import RatingLift.Audit.Service
import RatingLift.Connectors.CatalogueEffects

/-!
# What the admin routes of the catalogue log

A route under `/api/v1/admin/connectors` takes a snapshot of its connector before and after its service call
and logs both with `log_admin_action`, in the transaction of the change.  Creating a connector has no snapshot
before; reordering logs the orders that the body asks for, in one entry for the whole batch.
-/

namespace RatingLift

open Library Fallible

/-- `snapshot` -/
def Connector.snapshot (isoformat : Instant → String) (c : Connector) : Dict :=
  [("id", .str c.id.str),
    ("name", .str c.name),
    ("logo_url", .ofOption c.logoUrl),
    ("logo_sha256", .ofOption c.logoSha256),
    ("is_active", .bool c.isActive),
    ("is_deleted", .bool c.isDeleted),
    ("deleted_at", .ofOption (c.deletedAt.map isoformat)),
    ("display_order", .int c.displayOrder)]

/-- What a route passes to `log_admin_action`, its target entity `connector` apart. -/
structure AdminEntry where
  action : String
  targetId : Option Uuid
  beforeValue : Json
  afterValue : Json

/-- The body of a reorder request as the route logs it. -/
def orderJson (items : List (Uuid × Nat)) : Json :=
  .dict
    [("order", .list (items.map fun item => .dict [("id", .str item.1.str), ("display_order", .int item.2)]))]

section

variable (isoformat : Instant → String)

/-- The snapshot of a row, null where there is none. -/
def catalogueSnapshot (t : Table Connector) (id : Uuid) : Json :=
  (t.find? id).elim .none fun c => .dict (c.snapshot isoformat)

/-- The entry of a route on one connector, whose snapshots are those of its row before and after the service
call. -/
def rowEntry (action : String) (t t' : Table Connector) (id : Uuid) : AdminEntry :=
  ⟨action, some id, catalogueSnapshot isoformat t id, catalogueSnapshot isoformat t' id⟩

/-- `_set_active` logs only where the switch was the other way. -/
def toggleEntry (activate : Bool) (t t' : Table Connector) (id : Uuid) : Option AdminEntry :=
  if (t.find? id).any (·.isActive == activate) then none
  else some (rowEntry isoformat (if activate then "connector_activated" else "connector_deactivated") t t' id)

/-- What a route logs that has made the rows `t'` of the rows `t`. -/
def CatalogueRequest.entry (t t' : Table Connector) : CatalogueRequest → Option AdminEntry
  | create id _ _ => some ⟨"connector_created", some id, .none, catalogueSnapshot isoformat t' id⟩
  | update id _ _ _ => some (rowEntry isoformat "connector_updated" t t' id)
  | delete id _ => some (rowEntry isoformat "connector_deleted" t t' id)
  | restore id => some (rowEntry isoformat "connector_restored" t t' id)
  | activate id => toggleEntry isoformat true t t' id
  | deactivate id => toggleEntry isoformat false t t' id
  | reorder items => some ⟨"connector_reordered", none, .none, orderJson items⟩
  | uploadLogo id _ => some (rowEntry isoformat "connector_logo_uploaded" t t' id)
  | clearLogo id => some (rowEntry isoformat "connector_logo_cleared" t t' id)
  | seed _ => none

/-- `log_admin_action` with the target entity `connector` -/
def logConnectorAction (db : Db) (draw : Draw) (adminId : Uuid) (ipAddress : Option String) :
    Option AdminEntry → Db
  | none => db
  | some e => logAdminAction db draw adminId e.action (some "connector") e.targetId none e.beforeValue
      e.afterValue ipAddress

/-- A route: the service call, and the entry that is committed with what it changed. -/
def CatalogueRequest.handle (env : ConnectorEnv) (settings : Settings) (w : MediaWorld) (draw : Draw)
    (adminId : Uuid) (ipAddress : Option String) (request : CatalogueRequest) : MediaWorld :=
  match request.serve env settings w with
  | (storage, .error _) => ⟨w.db, storage⟩
  | (storage, .ok db) =>
    ⟨logConnectorAction db draw adminId ipAddress
      (request.entry isoformat w.db.connectors db.connectors), storage⟩

end

/-! ### The log of the catalogue -/

def AdminActionLog.connectorEntry (a : AdminActionLog) : Option AdminEntry :=
  if a.targetEntity = some "connector" then some ⟨a.action, a.targetId, a.beforeValue, a.afterValue⟩ else none

/-- What `admin_action_logs` says about connectors, in the order written. -/
def Db.connectorEntries (db : Db) : List AdminEntry :=
  db.adminActionLogs.rows.filterMap AdminActionLog.connectorEntry

/-- An entry about something else. -/
theorem connectorEntries_insert_other {db : Db} {row : AdminActionLog}
    (h : row.targetEntity ≠ some "connector") :
    ({ db with adminActionLogs := db.adminActionLogs.insert row } : Db).connectorEntries =
      db.connectorEntries := by
  unfold Db.connectorEntries
  dsimp only
  by_cases hfresh : db.adminActionLogs.Fresh row.id
  · have hnone : row.connectorEntry = none := if_neg h
    rw [Table.rows_insert hfresh, List.filterMap_append, List.filterMap_cons_none hnone, List.filterMap_nil,
      List.append_nil]
  · obtain ⟨a, ha⟩ := Option.ne_none_iff_exists'.mp fun hnone => hfresh (Table.fresh_iff_find?.mpr hnone)
    rw [Table.insert_of_find? ha]

/-- The entry of a route is the last one. -/
theorem connectorEntries_logged {db : Db} {draw : Draw} {adminId : Uuid} {ipAddress : Option String}
    {e : Option AdminEntry} (h : db.adminActionLogs.Fresh draw.adminLogId) :
    (logConnectorAction db draw adminId ipAddress e).connectorEntries = db.connectorEntries ++ e.toList := by
  cases e with
  | none => exact (List.append_nil _).symm
  | some e =>
    unfold logConnectorAction logAdminAction logAction Db.connectorEntries
    dsimp only
    rw [Table.rows_insert h, List.filterMap_append]
    rfl

/-! ### What a service call changes -/

section

variable {env : ConnectorEnv} {settings : Settings} {w : MediaWorld} {db db' : Db}
  {request : CatalogueRequest}

/-- Nothing but the connectors changed. -/
def ConnectorsOnly (db db' : Db) : Prop := db' = { db with connectors := db'.connectors }

theorem ConnectorsOnly.refl (db : Db) : ConnectorsOnly db db := rfl

theorem ConnectorsOnly.trans {db'' : Db} (h : ConnectorsOnly db db') (h' : ConnectorsOnly db' db'') :
    ConnectorsOnly db db'' := by
  unfold ConnectorsOnly at h h' ⊢
  rw [h', h]

/-- The call wrote the row of one connector. -/
structure Wrote (db db' : Db) (id : Uuid) : Prop where
  only : ConnectorsOnly db db'
  row : ∃ c, db'.connectors.find? id = some c
  others : ∀ k, k ≠ id → db'.connectors.find? k = db.connectors.find? k

theorem flushConnector_wrote {c row : Connector} (hc : db.connectors.find? row.id = some c)
    (h : flushConnector env db row = .ok db') : Wrote db db' row.id := by
  have hrows := (put_of_flush hc h).rows
  refine ⟨?_, ⟨row, (hrows row.id).trans (if_pos rfl)⟩, fun k hk => (hrows k).trans (if_neg hk)⟩
  obtain ⟨_, _, rfl⟩ := flushConnector_ok h
  rfl

theorem addConnector_wrote {row : Connector} (h : addConnector env db row = .ok db') :
    Wrote db db' row.id := by
  obtain ⟨_, hfresh, rfl⟩ := addConnector_ok h
  have hrows := Table.find?_insert_fresh hfresh
  exact ⟨rfl, ⟨row, (hrows row.id).trans (if_pos rfl)⟩, fun k hk => (hrows k).trans (if_neg hk)⟩

theorem createWithLogo_wrote {id : Uuid} {name : String} {file : Option UploadFile}
    (h : (createWithLogo env settings w id name file).2 = .ok db') :
    w.db.connectors.find? id = none ∧ Wrote w.db db' id := by
  unfold createWithLogo at h
  split at h
  · cases h
  · rename_i row db₁ hcreate
    obtain ⟨rfl, hadd⟩ := createConnector_row hcreate
    obtain ⟨hfresh, hput⟩ := put_of_add (Nat.zero_le _) hadd
    have hadded : Wrote w.db db₁ id := addConnector_wrote hadd
    refine ⟨Table.fresh_iff_find?.mp hfresh, ?_⟩
    split at h
    · cases h
      exact hadded
    · obtain ⟨logo, _, hflush⟩ := saveConnectorLogo_ok h
      have hfound : db₁.connectors.find? id = some (newConnector id (Py.strip name)) :=
        (hput.rows id).trans (if_pos rfl)
      have hflushed : Wrote db₁ db' id := flushConnector_wrote hfound hflush
      exact ⟨hadded.only.trans hflushed.only, hflushed.row,
        fun k hk => (hflushed.others k hk).trans (hadded.others k hk)⟩

/-- The call wrote the row of a connector that was there. -/
structure Rewrote (db db' : Db) (id : Uuid) : Prop extends Wrote db db' id where
  found : ∃ c, db.connectors.find? id = some c

/-- A flush of the row of a stored connector. -/
theorem flushConnector_rewrote {c row : Connector} (hc : db.connectors.find? c.id = some c)
    (hid : row.id = c.id) (h : flushConnector env db row = .ok db') : Rewrote db db' c.id := by
  rw [← hid] at hc ⊢
  exact ⟨flushConnector_wrote hc h, c, hc⟩

/-- A route on a live row that flushes a row of the same connector. -/
theorem onLive_rewrote (env : ConnectorEnv) {id : Uuid} {route : Connector → Storage × Except Exn Db}
    (h : (w.onLive id route).2 = .ok db')
    (hroute : ∀ c, c.isDeleted = false → (route c).2 = .ok db' →
      ∃ row, row.id = c.id ∧ flushConnector env w.db row = .ok db') : Rewrote w.db db' id := by
  obtain ⟨c, rfl, hc, hlive, h⟩ := onLive_ok h
  obtain ⟨row, hrow, hflush⟩ := hroute c hlive h
  exact flushConnector_rewrote hc hrow hflush

/-- `_set_active` leaves everything as it is, or the switch was the other way and the row is written. -/
theorem setActive_cases {id : Uuid} {activate : Bool} (h : (w.setActive env id activate).2 = .ok db') :
    ((w.db.connectors.find? id).any (·.isActive == activate) = true ∧ db' = w.db) ∨
      ((w.db.connectors.find? id).any (·.isActive == activate) = false ∧ Rewrote w.db db' id) := by
  obtain ⟨c, rfl, hc, hlive, hroute⟩ := onLive_ok h
  rw [hc, Option.any_some]
  split at hroute
  · rename_i hsame
    cases hroute
    exact Or.inl ⟨hsame, rfl⟩
  · rename_i hother
    refine Or.inr ⟨by simpa using hother, ?_⟩
    have hupdate : (updateConnectorMaster env w.db w.storage c none none (some activate)
        ((none : Option Nat).map Int.ofNat)).2 = .ok db' := hroute
    obtain ⟨row, hflush, hsame⟩ := updateConnectorMaster_ok hupdate
    exact flushConnector_rewrote hc hsame.id hflush

theorem restore_rewrote {id : Uuid} (h : ((CatalogueRequest.restore id).serve env settings w).2 = .ok db') :
    Rewrote w.db db' id := by
  obtain ⟨c, hfound, h⟩ := bind_eq_ok.mp h
  obtain ⟨_, hflush⟩ := restoreConnector_ok h
  unfold getConnectorIncludingDeletedOr404 at hfound
  split at hfound
  · cases hfound
  · rename_i row hrow
    cases hfound
    obtain ⟨hm, hp⟩ := Table.first_some hrow
    obtain rfl : c.id = id := by simpa using hp
    have hsame : ({ c with isDeleted := false, deletedAt := none } : Connector).id = c.id := rfl
    exact flushConnector_rewrote (Table.mem_iff_find?.mp hm) hsame hflush

end

end RatingLift
