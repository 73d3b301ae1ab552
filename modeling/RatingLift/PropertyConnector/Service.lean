import RatingLift.Core.Dependencies
import RatingLift.Db.Query

/-!
# Connector bindings of a property

The service behind the binding routes: a tenant activates, lists, deactivates, reactivates and updates the
bindings between one of its properties and the connectors of the catalogue.  A function returns what it read
and the database its transaction has flushed; whether that is committed is the caller's decision.
-/

namespace RatingLift

open Library

structure ActivateConnector where
  connectorId : Uuid
  apiKey : String
  apiSecret : String
  scopes : Option (List String)
  config : Option Dict
  baseUrl : Option String

/-- A partial update.  A field that was not set is `none`; a field set to null is `some none`. -/
structure UpdateConnector where
  apiKey : Option (Option String) := none
  apiSecret : Option (Option String) := none
  scopes : Option (Option (List String)) := none
  config : Option (Option Dict) := none
  baseUrl : Option (Option String) := none

/-- `not payload.model_dump(exclude_unset=True)` -/
def UpdateConnector.isEmpty (payload : UpdateConnector) : Bool :=
  payload.apiKey.isNone && payload.apiSecret.isNone && payload.scopes.isNone && payload.config.isNone &&
    payload.baseUrl.isNone

namespace PropertyConnector

def scopesJson (scopes : Option (List String)) : Json :=
  match scopes with
  | none => .none
  | some xs => .list (xs.map .str)

def configJson (config : Option Dict) : Json :=
  match config with
  | none => .none
  | some d => .dict d

/-- `_snapshot` -/
def snapshot (pc : PropertyConnector) : Dict :=
  [("id", .str pc.id.str), ("property_id", .str pc.propertyId.str), ("connector_id", .str pc.connectorId.str),
    ("is_active", .bool pc.isActive), ("scopes", scopesJson pc.scopes), ("config", configJson pc.config),
    ("base_url", Json.ofOption pc.baseUrl)]

/-- The `config` column after a flush: a column is written when its value compares unequal to the loaded one,
so a value that is only equal as a Python object leaves the stored form. -/
def writtenConfig (loaded assigned : Option Dict) : Option Dict :=
  if optDictEq loaded assigned then loaded else assigned

/-- What the UPDATE of a flush leaves in the row; the other columns compare equal only when they are. -/
def flush (loaded pc : PropertyConnector) : PropertyConnector :=
  { pc with config := writtenConfig loaded.config pc.config }

@[simp] theorem optDictEq_writtenConfig (c c' : Option Dict) :
    optDictEq c (writtenConfig c c') = optDictEq c c' := by
  unfold writtenConfig
  cases h : optDictEq c c' <;> simp [h]

/-- What is stored compares equal to what was assigned. -/
theorem optDictEq_writtenConfig_assigned {c c' : Option Dict} : optDictEq (writtenConfig c c') c' = true := by
  unfold writtenConfig
  cases h : optDictEq c c' <;> simp [h]

theorem writtenConfig_eq_iff {c c' : Option Dict} :
    writtenConfig c c' = c' ↔ (optDictEq c c' = true → c' = c) := by
  unfold writtenConfig
  cases h : optDictEq c c' <;> simp [eq_comm]

theorem writtenConfig_self {c : Option Dict} : writtenConfig c c = c := by
  unfold writtenConfig
  split <;> rfl

theorem writtenConfig_none {c : Option Dict} : writtenConfig none c = c := by
  cases c <;> rfl

theorem pyEq_scopesJson (xs ys : Option (List String)) :
    Json.pyEq (scopesJson xs) (scopesJson ys) = true ↔ xs = ys := by
  have texts : ∀ xs ys : List String, Json.pyEqList (xs.map .str) (ys.map .str) = true ↔ xs = ys := by
    intro xs
    induction xs with
    | nil => intro ys; cases ys <;> simp [Json.pyEqList]
    | cons x xs ih =>
      intro ys
      cases ys with
      | nil => simp [Json.pyEqList]
      | cons y ys => simp [Json.pyEqList, Json.pyEq, ih]
  cases xs with
  | none => cases ys <;> simp [scopesJson, Json.pyEq]
  | some xs =>
    cases ys with
    | none => simp [scopesJson, Json.pyEq]
    | some ys => simpa [scopesJson, Json.pyEq] using texts xs ys

theorem pyEq_configJson (c c' : Option Dict) : Json.pyEq (configJson c) (configJson c') = optDictEq c c' := by
  cases c <;> cases c' <;> simp [configJson, optDictEq, Json.pyEq]

/-- Snapshots of one binding compare equal when the columns they show do; the credentials are not among
them. -/
theorem pyEq_snapshot (pc pc' : PropertyConnector) (hid : pc'.id = pc.id)
    (hp : pc'.propertyId = pc.propertyId) (hc : pc'.connectorId = pc.connectorId)
    (ha : pc'.isActive = pc.isActive) :
    Json.pyEq (.dict pc.snapshot) (.dict pc'.snapshot) = true ↔
      pc.scopes = pc'.scopes ∧ optDictEq pc.config pc'.config = true ∧ pc.baseUrl = pc'.baseUrl := by
  rw [← pyEq_scopesJson, ← pyEq_configJson, ← Json.pyEq_ofOption]
  simp [snapshot, Json.pyEq, Json.pyEqDict, Json.pyEqEntry, hid, hp, hc, ha, Json.num?]

end PropertyConnector

/-- A binding with the name and logo of its connector, which `_annotate` attaches for the response. -/
structure AnnotatedConnector where
  pc : PropertyConnector
  connectorName : Option String
  connectorLogoUrl : Option String

/-- `_annotate` -/
def annotate (pc : PropertyConnector) (connector : Option Connector) : AnnotatedConnector :=
  ⟨pc, connector.map (·.name), connector.bind (·.logoUrl)⟩

/-- `ConnectorResponse` -/
structure ConnectorResponse where
  id : Uuid
  propertyId : Uuid
  connectorId : Uuid
  connectorName : Option String
  connectorLogoUrl : Option String
  config : Option Dict
  baseUrl : Option String
  isActive : Bool
  createdAt : Instant

/-- `ConnectorResponse.model_validate` -/
def ConnectorResponse.ofAnnotated (a : AnnotatedConnector) : ConnectorResponse where
  id := a.pc.id
  propertyId := a.pc.propertyId
  connectorId := a.pc.connectorId
  connectorName := a.connectorName
  connectorLogoUrl := a.connectorLogoUrl
  config := a.pc.config
  baseUrl := a.pc.baseUrl
  isActive := a.pc.isActive
  createdAt := a.pc.createdAt

namespace PropertyConnectorService

variable (env : PlatformEnv) (db : Db) (ctx : RequestContext)

/-- `_get_owned_property` -/
def getOwnedProperty (propertyId : RawId) : Except Exn Property := do
  let pid ← coerceUuid propertyId "Invalid property id"
  let tenant ← filterByTenant env.pgUuid ctx.tenantId
  match db.properties.first fun p => p.tenantId == tenant && p.id == pid with
  | none => .error (.http 404 "Property not found")
  | some prop => .ok prop

/-- `_get_active_connector` -/
def getActiveConnector (connectorId : Uuid) : Except Exn Connector :=
  match db.connectors.first fun c => c.id == connectorId && !c.isDeleted with
  | none => .error (.http 404 "Connector not found")
  | some connector =>
    if !connector.isActive then .error (.http 400 "Connector is not active") else .ok connector

/-- The binding of a property to a connector, as `activate_connector` looks it up. -/
def existingBinding (propertyId connectorId : Uuid) : Option PropertyConnector :=
  db.propertyConnectors.first fun pc => pc.propertyId == propertyId && pc.connectorId == connectorId

/-- The INSERT of a binding under the unique constraint on property and connector.  Properties and connectors
are never deleted, so the foreign keys of a row that was just looked up hold. -/
def insertBinding (pc : PropertyConnector) : Except Exn Db :=
  match existingBinding db pc.propertyId pc.connectorId with
  | some _ => .error (.integrityError "uq_property_connectors_property_connector")
  | none => .ok { db with propertyConnectors := db.propertyConnectors.insert pc }

theorem insertBinding_of_none {db : Db} {pc : PropertyConnector}
    (h : existingBinding db pc.propertyId pc.connectorId = none) :
    insertBinding db pc = .ok { db with propertyConnectors := db.propertyConnectors.insert pc } := by
  unfold insertBinding
  rw [h]

/-- The row as `activate_connector` refreshes it. -/
def refreshed (payload : ActivateConnector) (secret : String) (existing : PropertyConnector) :
    PropertyConnector :=
  { existing with
    apiKey := payload.apiKey, apiSecret := some secret, scopes := payload.scopes, config := payload.config,
    baseUrl := payload.baseUrl, isActive := true }

/-- The row of a first activation. -/
def newBinding (draw : Draw) (payload : ActivateConnector) (secret : String) (propertyId connectorId : Uuid) :
    PropertyConnector where
  id := draw.id 0
  propertyId := propertyId
  connectorId := connectorId
  apiKey := payload.apiKey
  apiSecret := some secret
  scopes := payload.scopes
  config := payload.config
  baseUrl := payload.baseUrl
  isActive := true
  createdAt := draw.now

/-- `activate_connector` -/
def activateConnector (draw : Draw) (propertyId : RawId) (payload : ActivateConnector) :
    Except Exn ((AnnotatedConnector × Option Dict × Dict) × Db) := do
  let prop ← getOwnedProperty env db ctx propertyId
  let connector ← getActiveConnector db payload.connectorId
  let encryptedSecret := env.encryptSecret draw.iv payload.apiSecret
  match existingBinding db prop.id connector.id with
  | some existing =>
    if existing.isActive then .error (.http 409 "Connector is already active for this property")
    else
      let row := existing.flush (refreshed payload encryptedSecret existing)
      .ok ((annotate row (some connector), some existing.snapshot, row.snapshot),
        { db with propertyConnectors := db.propertyConnectors.update row })
  | none =>
    let pc := newBinding draw payload encryptedSecret prop.id connector.id
    let db ← insertBinding db pc
    .ok ((annotate pc (some connector), none, pc.snapshot), db)

/-- `list_connectors` -/
def listConnectors (propertyId : RawId) : Except Exn (List AnnotatedConnector) := do
  let prop ← getOwnedProperty env db ctx propertyId
  let rows := db.propertyConnectors.select fun pc => pc.propertyId == prop.id
  -- the join drops a binding whose connector is missing
  let joined := rows.filterMap fun pc => (db.connectors.find? pc.connectorId).map fun c => (pc, c)
  return (newestFirst (fun r => r.1.createdAt) joined).map fun r => annotate r.1 (some r.2)

/-- `_get_owned_property_connector` -/
def getOwnedPropertyConnector (propertyId propertyConnectorId : RawId) :
    Except Exn (PropertyConnector × Option Connector) := do
  let prop ← getOwnedProperty env db ctx propertyId
  let pcId ← coerceUuid propertyConnectorId "Invalid property_connector id"
  match db.propertyConnectors.first fun pc => pc.id == pcId && pc.propertyId == prop.id with
  | none => .error (.http 404 "Property connector not found")
  | some pc => .ok (pc, db.connectors.find? pc.connectorId)

/-- What the functions that change a binding return: the annotated row, the snapshots before and after, and
whether anything changed. -/
structure Change where
  row : AnnotatedConnector
  before : Dict
  after : Dict
  changed : Bool

/-- `deactivate_connector` -/
def deactivateConnector (propertyId propertyConnectorId : RawId) : Except Exn (Change × Db) := do
  let (pc, connector) ← getOwnedPropertyConnector env db ctx propertyId propertyConnectorId
  let before := pc.snapshot
  if !pc.isActive then return (⟨annotate pc connector, before, before, false⟩, db)
  let pc := { pc with isActive := false }
  return (⟨annotate pc connector, before, pc.snapshot, true⟩,
    { db with propertyConnectors := db.propertyConnectors.update pc })

/-- `reactivate_connector` -/
def reactivateConnector (propertyId propertyConnectorId : RawId) : Except Exn (Change × Db) := do
  let (pc, connector) ← getOwnedPropertyConnector env db ctx propertyId propertyConnectorId
  let before := pc.snapshot
  if pc.isActive then return (⟨annotate pc connector, before, before, false⟩, db)
  match connector with
  | none => .error (.http 400 "Connector is no longer available")
  | some connector =>
    if !connector.isActive || connector.isDeleted then .error (.http 400 "Connector is no longer available")
    else
      let pc := { pc with isActive := true }
      return (⟨annotate pc (some connector), before, pc.snapshot, true⟩,
        { db with propertyConnectors := db.propertyConnectors.update pc })

/-- The assignments of `update_connector`: the row with the supplied fields applied. -/
def applyUpdate (encryptSecret : String → String) (payload : UpdateConnector) (pc : PropertyConnector) :
    PropertyConnector :=
  { pc with
    apiKey := (payload.apiKey.getD none).getD pc.apiKey
    apiSecret := match payload.apiSecret.getD none with
      | some secret => some (encryptSecret secret)
      | none => pc.apiSecret
    scopes := payload.scopes.getD pc.scopes
    config := payload.config.getD pc.config
    baseUrl := payload.baseUrl.getD pc.baseUrl }

/-- `update_connector` -/
def updateConnector (draw : Draw) (propertyId propertyConnectorId : RawId) (payload : UpdateConnector) :
    Except Exn (Change × Db) := do
  let (pc, connector) ← getOwnedPropertyConnector env db ctx propertyId propertyConnectorId
  if payload.isEmpty then .error (.http 400 "No fields provided to update")
  else
    let before := pc.snapshot
    let pc := pc.flush (applyUpdate (env.encryptSecret draw.iv) payload pc)
    let after := pc.snapshot
    let changed := (payload.apiSecret.getD none).isSome || !Json.pyEq (.dict before) (.dict after)
    return (⟨annotate pc connector, before, after, changed⟩,
      { db with propertyConnectors := db.propertyConnectors.update pc })

end PropertyConnectorService

end RatingLift
