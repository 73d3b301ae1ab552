import RatingLift.Connectors.Service
import RatingLift.Db.Flush
import RatingLift.Library.Fallible
import RatingLift.Library.Interleaving
import RatingLift.PropertyConnector.Service

/-!
# The requests on bindings and their connectors, step by step

`activate_connector`, `deactivate_connector`, `reactivate_connector`, `soft_delete_connector` and
`restore_connector`, served by several workers.  Every `SELECT` reads what is committed by then.  A write is
sent to the database before it is committed: until then nobody sees it, but a write to the same row, or one
that a unique index would hold against it, waits.

* (`bindingProg_alone`) the steps of a request that is not interrupted commit what the service function
  leaves.
-/

namespace RatingLift

open Library Fallible PropertyConnectorService

/-- What a tenant does to a binding. -/
inductive BindingChange where
  | activate (payload : ActivateConnector)
  | deactivate (propertyConnectorId : RawId)
  | reactivate (propertyConnectorId : RawId)

inductive BindingCall where
  | change (ctx : RequestContext) (propertyId : RawId) (change : BindingChange)
  | softDelete (connectorId : Uuid)
  | restore (connectorId : Uuid)

/-- A write that was sent, with what the request has read and decided on. -/
inductive BindingWrite where
  /-- The `INSERT` of `activate_connector`, which has selected the connector. -/
  | insert (connector : Connector) (pc : PropertyConnector)
  | update (loaded written : PropertyConnector)
  /-- The `UPDATE` of `soft_delete_connector`, which has counted the bindings. -/
  | delete (attached : Nat) (loaded written : Connector)
  | restore (loaded written : Connector)

/-- The committed database and the writes that were sent and not yet committed. -/
structure BindingDb where
  db : Db
  pending : List BindingWrite

/-- How far a request has come, with the rows it has loaded. -/
inductive BindingLocal where
  | idle
  /-- The property was found. -/
  | owned (change : BindingChange) (prop : Property)
  /-- `activate_connector` has selected the connector. -/
  | available (payload : ActivateConnector) (prop : Property) (connector : Connector)
  /-- `activate_connector` has found no binding. -/
  | binding (payload : ActivateConnector) (prop : Property) (connector : Connector)
  /-- `activate_connector` has found an inactive binding. -/
  | refreshing (payload : ActivateConnector) (existing : PropertyConnector)
  | switching (pc : PropertyConnector) (isActive : Bool)
  /-- `soft_delete_connector` is called. -/
  | counting (connector : Connector)
  | deleting (connector : Connector) (attached : Nat)
  /-- `restore_connector` is called. -/
  | naming (connector : Connector)
  /-- `restore_connector` has found no other connector of the name. -/
  | hashing (connector : Connector) (digest : String)
  | restoring (connector : Connector)
  | sent (w : BindingWrite)
  | done

inductive BindingAction where
  | select (call : BindingCall)
  /-- The next `SELECT` of the request. -/
  | selectNext
  | write (draw : Draw)
  | commit
  /-- The session is closed without a commit. -/
  | rollback

/-- A stored binding after the commit of a request that loaded `loaded` and made `written` of it. -/
def PropertyConnector.flushInto (loaded written stored : PropertyConnector) : PropertyConnector where
  id := stored.id
  propertyId := flushColumn loaded.propertyId written.propertyId stored.propertyId
  connectorId := flushColumn loaded.connectorId written.connectorId stored.connectorId
  apiKey := flushColumn loaded.apiKey written.apiKey stored.apiKey
  apiSecret := flushColumn loaded.apiSecret written.apiSecret stored.apiSecret
  scopes := flushColumn loaded.scopes written.scopes stored.scopes
  config := if optDictEq loaded.config written.config then stored.config else written.config
  baseUrl := flushColumn loaded.baseUrl written.baseUrl stored.baseUrl
  isActive := flushColumn loaded.isActive written.isActive stored.isActive
  createdAt := flushColumn loaded.createdAt written.createdAt stored.createdAt

theorem PropertyConnector.flushInto_of_loaded {loaded written : PropertyConnector}
    (hid : written.id = loaded.id) :
    loaded.flushInto written loaded = loaded.flush written := by
  simp [PropertyConnector.flushInto, PropertyConnector.flush, PropertyConnector.writtenConfig, ← hid]

section

variable (env : PlatformEnv) (catalogue : ConnectorEnv) (db : Db)

/-- The `SELECT` of `_get_owned_property_connector` after the property was found. -/
def selectBinding (prop : Property) (propertyConnectorId : RawId) :
    Except Exn (PropertyConnector × Option Connector) := do
  let pcId ← coerceUuid propertyConnectorId "Invalid property_connector id"
  match db.propertyConnectors.first fun pc => pc.id == pcId && pc.propertyId == prop.id with
  | none => .error (.http 404 "Property connector not found")
  | some pc => .ok (pc, db.connectors.find? pc.connectorId)

/-- The number of bindings of a connector, active or not. -/
def attachedTo (connectorId : Uuid) : Nat :=
  (db.propertyConnectors.select fun pc => pc.connectorId == connectorId).length

/-- The `UPDATE` of a connector. -/
def writeConnector (loaded written : Connector) : Except Exn Db :=
  match db.connectors.find? loaded.id with
  | none => .ok db
  | some stored => flushConnector catalogue db (loaded.flush written stored)

namespace BindingWrite

/-- The row that a write is on: no property has two bindings of a connector. -/
def target : BindingWrite → (Uuid × Uuid) ⊕ Uuid
  | insert _ pc => .inl (pc.propertyId, pc.connectorId)
  | update loaded _ => .inl (loaded.propertyId, loaded.connectorId)
  | delete _ loaded _ | restore loaded _ => .inr loaded.id

/-- A write waits for another one that is on the same row, or that may free or take the name or the logo of a
restored connector.  The foreign key of a binding does not make it wait, as a soft delete changes no key. -/
def waitsFor (w v : BindingWrite) : Bool :=
  w.target == v.target ||
    match w, v with
    | restore _ row, delete _ loaded written | restore _ row, restore loaded written =>
      conflict catalogue row loaded || conflict catalogue row written
    | _, _ => false

/-- The statement, with the indexes and keys that it is checked against. -/
def execute : BindingWrite → Except Exn Db
  | insert _ pc =>
    if (db.propertyConnectors.find? pc.id).isSome then .error (.integrityError "property_connectors_pkey")
    else insertBinding db pc
  | update loaded written =>
    match db.propertyConnectors.find? loaded.id with
    | none => .ok db
    | some stored =>
      .ok { db with propertyConnectors := db.propertyConnectors.update (loaded.flushInto written stored) }
  | delete _ loaded written | restore loaded written => writeConnector catalogue db loaded written

end BindingWrite

/-- A request sends its write, unless it has to wait. -/
def BindingDb.send (s : BindingDb) (w : BindingWrite) : Option (BindingLocal × BindingDb) :=
  if s.pending.any (w.waitsFor catalogue) then none
  else
    match w.execute catalogue s.db with
    | .error _ => some (.done, s)
    | .ok _ => some (.sent w, { s with pending := w :: s.pending })

/-- The transaction of a write ends, and leaves the database `db`. -/
def BindingDb.finish (s : BindingDb) (w : BindingWrite) (db : Db) : BindingDb :=
  ⟨db, s.pending.filter fun v => !decide (v.target = w.target)⟩

/-- The steps of the five requests. -/
def bindingProg : BindingAction → BindingLocal → BindingDb → Option (BindingLocal × BindingDb)
  | .select (.change ctx propertyId change), .idle, s =>
    match getOwnedProperty env s.db ctx propertyId with
    | .error _ => some (.done, s)
    | .ok prop => some (.owned change prop, s)
  | .select (.softDelete connectorId), .idle, s =>
    match getConnectorOr404 s.db connectorId with
    | .error _ => some (.done, s)
    | .ok connector => some (.counting connector, s)
  | .select (.restore connectorId), .idle, s =>
    match getConnectorIncludingDeletedOr404 s.db connectorId with
    | .error _ => some (.done, s)
    | .ok connector => if connector.isDeleted then some (.naming connector, s) else some (.done, s)
  | .selectNext, .owned (.activate payload) prop, s =>
    match getActiveConnector s.db payload.connectorId with
    | .error _ => some (.done, s)
    | .ok connector => some (.available payload prop connector, s)
  | .selectNext, .owned (.deactivate propertyConnectorId) prop, s =>
    match selectBinding s.db prop propertyConnectorId with
    | .error _ => some (.done, s)
    | .ok (pc, _) => if pc.isActive then some (.switching pc false, s) else some (.done, s)
  | .selectNext, .owned (.reactivate propertyConnectorId) prop, s =>
    match selectBinding s.db prop propertyConnectorId with
    | .error _ => some (.done, s)
    | .ok (pc, connector) =>
      if !pc.isActive && connector.any (fun c => c.isActive && !c.isDeleted) then some (.switching pc true, s)
      else some (.done, s)
  | .selectNext, .available payload prop connector, s =>
    match existingBinding s.db prop.id connector.id with
    | none => some (.binding payload prop connector, s)
    | some existing => if existing.isActive then some (.done, s) else some (.refreshing payload existing, s)
  | .selectNext, .counting connector, s =>
    let attached := attachedTo s.db connector.id
    if attached ≠ 0 then some (.done, s) else some (.deleting connector attached, s)
  | .selectNext, .naming connector, s =>
    match assertUniqueName catalogue s.db connector.name (some connector.id) with
    | .error _ => some (.done, s)
    | .ok _ =>
      match connector.logoSha256.filter (· ≠ "") with
      | none => some (.restoring connector, s)
      | some digest => some (.hashing connector digest, s)
  | .selectNext, .hashing connector digest, s =>
    match assertUniqueLogoHash s.db digest (some connector.id) with
    | .error _ => some (.done, s)
    | .ok _ => some (.restoring connector, s)
  | .write draw, .binding payload prop connector, s =>
    s.send catalogue (.insert connector
      (newBinding draw payload (env.encryptSecret draw.iv payload.apiSecret) prop.id connector.id))
  | .write draw, .refreshing payload existing, s =>
    s.send catalogue
      (.update existing (refreshed payload (env.encryptSecret draw.iv payload.apiSecret) existing))
  | .write _, .switching pc isActive, s => s.send catalogue (.update pc { pc with isActive := isActive })
  | .write draw, .deleting connector attached, s =>
    s.send catalogue (.delete attached connector
      { connector with isDeleted := true, deletedAt := some draw.now, isActive := false })
  | .write _, .restoring connector, s =>
    s.send catalogue (.restore connector { connector with isDeleted := false, deletedAt := none })
  | .commit, .sent w, s =>
    match w.execute catalogue s.db with
    | .error _ => some (.done, s.finish w s.db)
    | .ok db => some (.done, s.finish w db)
  | .rollback, .sent w, s => some (.done, s.finish w s.db)
  | _, _, _ => none

variable {env catalogue db}

/-! ### Requests without interference -/

/-- The actions of a request. -/
def BindingCall.actions (call : BindingCall) (draw : Draw) : List BindingAction :=
  [.select call, .selectNext, .selectNext, .write draw, .commit]

variable (env catalogue db) in
/-- The service function that a request calls, with the lookup of its route, and the database after the
commit. -/
def BindingCall.serve (draw : Draw) : BindingCall → Except Exn Db
  | .change ctx propertyId (.activate payload) =>
    (activateConnector env db ctx draw propertyId payload).map (·.2)
  | .change ctx propertyId (.deactivate id) => (deactivateConnector env db ctx propertyId id).map (·.2)
  | .change ctx propertyId (.reactivate id) => (reactivateConnector env db ctx propertyId id).map (·.2)
  | .softDelete connectorId => getConnectorOr404 db connectorId >>= softDeleteConnector catalogue db draw.now
  | .restore connectorId => getConnectorIncludingDeletedOr404 db connectorId >>= restoreConnector catalogue db

/-- The database that a request leaves: the one it committed, or the old one where it failed. -/
def committed (db : Db) (outcome : Except Exn Db) : Db :=
  match outcome with
  | .ok db => db
  | .error _ => db

@[simp] theorem committed_error (e : Exn) : committed db (.error e) = db := rfl

theorem getConnectorOr404_ok {connectorId : Uuid} {connector : Connector}
    (h : getConnectorOr404 db connectorId = .ok connector) :
    connector ∈ db.connectors ∧ connector.isDeleted = false := by
  unfold getConnectorOr404 at h
  split at h
  · cases h
  · rename_i hfirst
    cases h
    obtain ⟨hmem, hfound⟩ := Table.first_some hfirst
    simp only [Bool.and_eq_true, Bool.not_eq_true'] at hfound
    exact ⟨hmem, hfound.1⟩

theorem getConnectorIncludingDeletedOr404_mem {connectorId : Uuid} {connector : Connector}
    (h : getConnectorIncludingDeletedOr404 db connectorId = .ok connector) : connector ∈ db.connectors := by
  unfold getConnectorIncludingDeletedOr404 at h
  split at h
  · cases h
  · rename_i hfirst
    cases h
    exact (Table.first_some hfirst).1

theorem getOwnedPropertyConnector_eq (ctx : RequestContext) (propertyId propertyConnectorId : RawId) :
    getOwnedPropertyConnector env db ctx propertyId propertyConnectorId =
      (getOwnedProperty env db ctx propertyId >>= fun prop => selectBinding db prop propertyConnectorId) :=
  rfl

variable {draw : Draw}

theorem alone_done {actions : List BindingAction} {s : BindingDb} :
    Config.alone (bindingProg env catalogue) actions .done s = (.done, s) := by
  refine Config.alone_of_stuck ?_
  intro a _
  cases a with
  | select call => cases call <;> rfl
  | selectNext => rfl
  | write draw => rfl
  | commit => rfl
  | rollback => rfl

/-- The last two steps of a request when nobody else has sent a write. -/
theorem alone_write {m : BindingLocal} {w : BindingWrite}
    (hwrite : bindingProg env catalogue (.write draw) m ⟨db, []⟩ = BindingDb.send catalogue ⟨db, []⟩ w) :
    (Config.alone (bindingProg env catalogue) [.write draw, .commit] m ⟨db, []⟩).2.db =
      committed db (w.execute catalogue db) := by
  have hsend : BindingDb.send catalogue ⟨db, []⟩ w =
      match w.execute catalogue db with
      | .error _ => some (.done, ⟨db, []⟩)
      | .ok _ => some (.sent w, ⟨db, [w]⟩) := rfl
  cases hexecute : w.execute catalogue db with
  | error e =>
    rw [hexecute] at hsend
    rw [Config.alone_cons_some (hwrite.trans hsend), alone_done]
    rfl
  | ok db' =>
    rw [hexecute] at hsend
    have hcommit : bindingProg env catalogue .commit (.sent w) ⟨db, [w]⟩ =
        some (.done, BindingDb.finish ⟨db, [w]⟩ w db') := by
      unfold bindingProg
      simp only [hexecute]
    rw [Config.alone_cons_some (hwrite.trans hsend), Config.alone_cons_some hcommit, alone_done]
    rfl

theorem execute_insert {connector : Connector} {pc : PropertyConnector} :
    committed db ((BindingWrite.insert connector pc).execute catalogue db) =
      committed db (insertBinding db pc) := by
  unfold BindingWrite.execute
  dsimp only
  split
  · rename_i htaken
    obtain ⟨row, hrow⟩ := Option.isSome_iff_exists.mp htaken
    have hrefused : db.propertyConnectors.insert pc = db.propertyConnectors := Table.insert_of_find? hrow
    unfold insertBinding
    rw [hrefused]
    split <;> rfl
  · rfl

theorem execute_update {loaded written : PropertyConnector} (hloaded : loaded ∈ db.propertyConnectors)
    (hid : written.id = loaded.id) :
    (BindingWrite.update loaded written).execute catalogue db =
      .ok { db with propertyConnectors := db.propertyConnectors.update (loaded.flush written) } := by
  have hstored : db.propertyConnectors.find? loaded.id = some loaded := Table.mem_iff_find?.mp hloaded
  unfold BindingWrite.execute
  simp only [hstored]
  rw [PropertyConnector.flushInto_of_loaded hid]

theorem writeConnector_of_loaded {loaded written : Connector} (hloaded : loaded ∈ db.connectors)
    (hid : written.id = loaded.id) :
    writeConnector catalogue db loaded written = flushConnector catalogue db written := by
  have hstored : db.connectors.find? loaded.id = some loaded := Table.mem_iff_find?.mp hloaded
  unfold writeConnector
  simp only [hstored]
  rw [Connector.flush_of_loaded hid]

/-- A request whose next step only reads and ends it. -/
theorem alone_end {a : BindingAction} {actions : List BindingAction} {m : BindingLocal} {s : BindingDb}
    (h : bindingProg env catalogue a m s = some (.done, s)) :
    (Config.alone (bindingProg env catalogue) (a :: actions) m s).2 = s := by
  rw [Config.alone_cons_some h, alone_done]

theorem activate_alone {ctx : RequestContext} {propertyId : RawId} {prop : Property}
    (payload : ActivateConnector) (hprop : getOwnedProperty env db ctx propertyId = .ok prop) :
    (Config.alone (bindingProg env catalogue) [.selectNext, .selectNext, .write draw, .commit]
        (.owned (.activate payload) prop) ⟨db, []⟩).2.db =
      committed db ((activateConnector env db ctx draw propertyId payload).map (·.2)) := by
  unfold activateConnector
  rw [hprop, ok_bind]
  cases hconnector : getActiveConnector db payload.connectorId with
  | error e =>
    rw [alone_end (by unfold bindingProg; simp only [hconnector])]
    rfl
  | ok connector =>
    have hfound : bindingProg env catalogue .selectNext (.owned (.activate payload) prop) ⟨db, []⟩ =
        some (.available payload prop connector, ⟨db, []⟩) := by
      unfold bindingProg
      simp only [hconnector]
    rw [Config.alone_cons_some hfound, ok_bind]
    cases hexisting : existingBinding db prop.id connector.id with
    | none =>
      have hnone : bindingProg env catalogue .selectNext (.available payload prop connector) ⟨db, []⟩ =
          some (.binding payload prop connector, ⟨db, []⟩) := by
        unfold bindingProg
        simp only [hexisting]
      rw [Config.alone_cons_some hnone, alone_write rfl, execute_insert]
      dsimp only
      cases insertBinding db (newBinding draw payload (env.encryptSecret draw.iv payload.apiSecret) prop.id
        connector.id) with
      | error e => rfl
      | ok db' => rfl
    | some existing =>
      obtain ⟨hmem, _⟩ := Table.first_some hexisting
      dsimp only
      cases hactive : existing.isActive with
      | true =>
        rw [alone_end (by unfold bindingProg; simp only [hexisting, hactive, ↓reduceIte])]
        rfl
      | false =>
        have hsome : bindingProg env catalogue .selectNext (.available payload prop connector) ⟨db, []⟩ =
            some (.refreshing payload existing, ⟨db, []⟩) := by
          unfold bindingProg
          simp only [hexisting, hactive, Bool.false_eq_true, ↓reduceIte]
        have hid :
            (refreshed payload (env.encryptSecret draw.iv payload.apiSecret) existing).id = existing.id := rfl
        rw [Config.alone_cons_some hsome, alone_write rfl, execute_update hmem hid]
        rfl

theorem switching_alone {pc : PropertyConnector} (hmem : pc ∈ db.propertyConnectors) (isActive : Bool) :
    (Config.alone (bindingProg env catalogue) [.selectNext, .write draw, .commit] (.switching pc isActive)
        ⟨db, []⟩).2.db =
      { db with propertyConnectors := db.propertyConnectors.update { pc with isActive := isActive } } := by
  have hstay : bindingProg env catalogue .selectNext (.switching pc isActive) ⟨db, []⟩ = none := rfl
  have hid : ({ pc with isActive := isActive } : PropertyConnector).id = pc.id := rfl
  have hflush : pc.flush { pc with isActive := isActive } = { pc with isActive := isActive } := by
    simp [PropertyConnector.flush, PropertyConnector.writtenConfig]
  rw [Config.alone_cons_none hstay, alone_write rfl, execute_update hmem hid, hflush]
  rfl

theorem selectBinding_mem {prop : Property} {propertyConnectorId : RawId} {pc : PropertyConnector}
    {connector : Option Connector} (h : selectBinding db prop propertyConnectorId = .ok (pc, connector)) :
    pc ∈ db.propertyConnectors := by
  obtain ⟨pcId, _, h⟩ := bind_eq_ok.mp h
  split at h
  · cases h
  · rename_i hfirst
    cases h
    exact (Table.first_some hfirst).1

theorem deactivate_alone {ctx : RequestContext} {propertyId : RawId} {prop : Property} (id : RawId)
    (hprop : getOwnedProperty env db ctx propertyId = .ok prop) :
    (Config.alone (bindingProg env catalogue) [.selectNext, .selectNext, .write draw, .commit]
        (.owned (.deactivate id) prop) ⟨db, []⟩).2.db =
      committed db ((deactivateConnector env db ctx propertyId id).map (·.2)) := by
  unfold deactivateConnector
  rw [getOwnedPropertyConnector_eq, hprop, ok_bind]
  cases hselect : selectBinding db prop id with
  | error e =>
    rw [alone_end (by unfold bindingProg; simp only [hselect])]
    rfl
  | ok found =>
    obtain ⟨pc, connector⟩ := found
    cases hactive : pc.isActive with
    | false =>
      rw [alone_end (by unfold bindingProg; simp only [hselect, hactive, Bool.false_eq_true, ↓reduceIte])]
      simp only [ok_bind, hactive, Bool.not_false, ↓reduceIte]
      rfl
    | true =>
      have hswitch : bindingProg env catalogue .selectNext (.owned (.deactivate id) prop) ⟨db, []⟩ =
          some (.switching pc false, ⟨db, []⟩) := by
        unfold bindingProg
        simp only [hselect, hactive, ↓reduceIte]
      rw [Config.alone_cons_some hswitch, switching_alone (selectBinding_mem hselect)]
      simp only [ok_bind, hactive, Bool.not_true, Bool.false_eq_true, ↓reduceIte]
      rfl

theorem reactivate_alone {ctx : RequestContext} {propertyId : RawId} {prop : Property} (id : RawId)
    (hprop : getOwnedProperty env db ctx propertyId = .ok prop) :
    (Config.alone (bindingProg env catalogue) [.selectNext, .selectNext, .write draw, .commit]
        (.owned (.reactivate id) prop) ⟨db, []⟩).2.db =
      committed db ((reactivateConnector env db ctx propertyId id).map (·.2)) := by
  unfold reactivateConnector
  rw [getOwnedPropertyConnector_eq, hprop, ok_bind]
  cases hselect : selectBinding db prop id with
  | error e =>
    rw [alone_end (by unfold bindingProg; simp only [hselect])]
    rfl
  | ok found =>
    obtain ⟨pc, connector⟩ := found
    cases hactive : pc.isActive with
    | true =>
      rw [alone_end (by unfold bindingProg; simp [hselect, hactive])]
      simp only [ok_bind, hactive, ↓reduceIte]
      rfl
    | false =>
      cases husable : connector.any fun c => c.isActive && !c.isDeleted with
      | false =>
        rw [alone_end (by unfold bindingProg; simp [hselect, hactive, husable])]
        simp only [ok_bind, hactive, Bool.false_eq_true, ↓reduceIte]
        cases connector with
        | none => rfl
        | some connector =>
          have hgone : (!connector.isActive || connector.isDeleted) = true := by
            simpa [Bool.or_eq_true, or_iff_not_imp_left] using husable
          simp only [hgone, ↓reduceIte]
          rfl
      | true =>
        have hswitch : bindingProg env catalogue .selectNext (.owned (.reactivate id) prop) ⟨db, []⟩ =
            some (.switching pc true, ⟨db, []⟩) := by
          unfold bindingProg
          simp only [hselect, hactive, husable, Bool.not_false, Bool.and_self, ↓reduceIte]
        rw [Config.alone_cons_some hswitch, switching_alone (selectBinding_mem hselect)]
        simp only [ok_bind, hactive, Bool.false_eq_true, ↓reduceIte]
        cases connector with
        | none => cases husable
        | some connector =>
          have husable : (!connector.isActive || connector.isDeleted) = false := by
            simpa using husable
          simp only [husable, Bool.false_eq_true, ↓reduceIte]
          rfl

theorem softDelete_alone (connectorId : Uuid) :
    (Config.alone (bindingProg env catalogue) ((BindingCall.softDelete connectorId).actions draw) .idle
      ⟨db, []⟩).2.db =
      committed db (getConnectorOr404 db connectorId >>= softDeleteConnector catalogue db draw.now) := by
  unfold BindingCall.actions
  cases hfound : getConnectorOr404 db connectorId with
  | error e =>
    rw [alone_end (by unfold bindingProg; simp only [hfound])]
    rfl
  | ok connector =>
    have hselect : bindingProg env catalogue (.select (.softDelete connectorId)) .idle ⟨db, []⟩ =
        some (.counting connector, ⟨db, []⟩) := by
      unfold bindingProg
      simp only [hfound]
    obtain ⟨hmem, hdeleted⟩ := getConnectorOr404_ok hfound
    have hservice : softDeleteConnector catalogue db draw.now connector =
        if attachedTo db connector.id ≠ 0 then
          .error (.http 409 (attachedDetail (attachedTo db connector.id)))
        else flushConnector catalogue db
          { connector with isDeleted := true, deletedAt := some draw.now, isActive := false } := by
      unfold softDeleteConnector
      rw [hdeleted]
      rfl
    have hid :
        ({ connector with isDeleted := true, deletedAt := some draw.now, isActive := false } : Connector).id =
        connector.id := rfl
    rw [Config.alone_cons_some hselect, ok_bind, hservice]
    by_cases hattached : attachedTo db connector.id = 0
    · have hcount : bindingProg env catalogue .selectNext (.counting connector) ⟨db, []⟩ =
          some (.deleting connector (attachedTo db connector.id), ⟨db, []⟩) := by
        unfold bindingProg
        simp only [hattached, ne_eq, not_true_eq_false, ↓reduceIte]
      have hstay :
          bindingProg env catalogue .selectNext (.deleting connector (attachedTo db connector.id)) ⟨db, []⟩ =
          none := rfl
      rw [Config.alone_cons_some hcount, Config.alone_cons_none hstay, alone_write rfl,
        if_neg (not_not.mpr hattached)]
      show committed db (writeConnector catalogue db connector _) = _
      rw [writeConnector_of_loaded hmem hid]
    · rw [alone_end (by unfold bindingProg; simp only [hattached, ne_eq, not_false_eq_true, ↓reduceIte]),
        if_pos hattached]
      rfl

theorem restoring_alone {connector : Connector} (hmem : connector ∈ db.connectors) :
    (Config.alone (bindingProg env catalogue) [.write draw, .commit] (.restoring connector) ⟨db, []⟩).2.db =
      committed db
        (flushConnector catalogue db { connector with isDeleted := false, deletedAt := none }) := by
  have hid : ({ connector with isDeleted := false, deletedAt := none } : Connector).id = connector.id := rfl
  rw [alone_write rfl]
  show committed db (writeConnector catalogue db connector _) = _
  rw [writeConnector_of_loaded hmem hid]

theorem restore_alone (connectorId : Uuid) :
    (Config.alone (bindingProg env catalogue) ((BindingCall.restore connectorId).actions draw) .idle
      ⟨db, []⟩).2.db =
      committed db (getConnectorIncludingDeletedOr404 db connectorId >>= restoreConnector catalogue db) := by
  unfold BindingCall.actions
  cases hfound : getConnectorIncludingDeletedOr404 db connectorId with
  | error e =>
    rw [alone_end (by unfold bindingProg; simp only [hfound])]
    rfl
  | ok connector =>
    have hmem : connector ∈ db.connectors := getConnectorIncludingDeletedOr404_mem hfound
    rw [ok_bind]
    unfold restoreConnector
    cases hdeleted : connector.isDeleted with
    | false =>
      rw [alone_end (by unfold bindingProg; simp only [hfound, hdeleted, Bool.false_eq_true, ↓reduceIte])]
      rfl
    | true =>
      have hselect : bindingProg env catalogue (.select (.restore connectorId)) .idle ⟨db, []⟩ =
          some (.naming connector, ⟨db, []⟩) := by
        unfold bindingProg
        simp only [hfound, hdeleted, ↓reduceIte]
      rw [Config.alone_cons_some hselect]
      simp only [Bool.not_true, Bool.false_eq_true, ↓reduceIte]
      cases hname : assertUniqueName catalogue db connector.name (some connector.id) with
      | error e =>
        rw [alone_end (by unfold bindingProg; simp only [hname])]
        rfl
      | ok _ =>
        rw [ok_bind]
        cases hdigest : connector.logoSha256.filter (· ≠ "") with
        | none =>
          have hnext : bindingProg env catalogue .selectNext (.naming connector) ⟨db, []⟩ =
              some (.restoring connector, ⟨db, []⟩) := by
            unfold bindingProg
            simp only [hname, hdigest]
          have hstay : bindingProg env catalogue .selectNext (.restoring connector) ⟨db, []⟩ = none := rfl
          rw [Config.alone_cons_some hnext, Config.alone_cons_none hstay, restoring_alone hmem]
        | some digest =>
          have hnext : bindingProg env catalogue .selectNext (.naming connector) ⟨db, []⟩ =
              some (.hashing connector digest, ⟨db, []⟩) := by
            unfold bindingProg
            simp only [hname, hdigest]
          rw [Config.alone_cons_some hnext]
          cases hhash : assertUniqueLogoHash db digest (some connector.id) with
          | error e =>
            rw [alone_end (by unfold bindingProg; simp only [hhash])]
            simp [hhash]
          | ok _ =>
            have hlast : bindingProg env catalogue .selectNext (.hashing connector digest) ⟨db, []⟩ =
                some (.restoring connector, ⟨db, []⟩) := by
              unfold bindingProg
              simp only [hhash]
            rw [Config.alone_cons_some hlast, restoring_alone hmem]
            simp only [hhash]
            rfl

/-- The steps of a request that is not interrupted commit what the service function leaves. -/
theorem bindingProg_alone (call : BindingCall) (draw : Draw) :
    (Config.alone (bindingProg env catalogue) (call.actions draw) .idle ⟨db, []⟩).2.db =
      committed db (call.serve env catalogue db draw) := by
  cases call with
  | change ctx propertyId change =>
    unfold BindingCall.actions
    cases hprop : getOwnedProperty env db ctx propertyId with
    | error e =>
      have hfail : (BindingCall.change ctx propertyId change).serve env catalogue db draw = .error e := by
        cases change <;>
          simp only [BindingCall.serve, activateConnector, deactivateConnector, reactivateConnector,
          getOwnedPropertyConnector_eq, hprop, error_bind] <;> rfl
      rw [alone_end (by unfold bindingProg; simp only [hprop]), hfail]
      rfl
    | ok prop =>
      have hselect : bindingProg env catalogue (.select (.change ctx propertyId change)) .idle ⟨db, []⟩ =
          some (.owned change prop, ⟨db, []⟩) := by
        unfold bindingProg
        simp only [hprop]
      rw [Config.alone_cons_some hselect]
      cases change with
      | activate payload => exact activate_alone payload hprop
      | deactivate id => exact deactivate_alone id hprop
      | reactivate id => exact reactivate_alone id hprop
  | softDelete connectorId => exact softDelete_alone connectorId
  | restore connectorId => exact restore_alone connectorId

end

end RatingLift
