import RatingLift.Audit.Service
import RatingLift.Library.Fallible
import RatingLift.PropertyConnector.Service

/-!
# The binding routes

The tenant routes under a property and the admin routes that act on any tenant's binding.  A route returns its
response together with the database as committed: what the service flushed and the audit rows where the route
commits, and the database as it was where it does not, since closing the session discards the flush.

* (`Caller.put_spec`) what the two update routes commit;
* (`put_commits_payload_iff`) when the committed row is the previous one with the supplied fields applied.
-/

namespace RatingLift

open Library PropertyConnectorService

section

variable (env : PlatformEnv) (db : Db) (draw : Draw) (ipAddress : Option String)

/-! ### The tenant routes -/

section

variable (ctx : RequestContext) (propertyId : Uuid)

/-- `log_action` as the tenant routes call it, and the commit. -/
def commitTenantChange (flushed : Db) (action : String) (id : Uuid) (before : Json) (after : Dict) : Db :=
  logAction flushed (draw.auditId 0) draw.now (some ctx.userId) "tenant" action "property_connector"
    (some id) before
    (.dict after) ipAddress

/-- The end of a tenant route that commits only a change. -/
def endTenantRoute (action : String) (r : Change × Db) : ConnectorResponse × Db :=
  (.ofAnnotated r.1.row,
    if r.1.changed then
      commitTenantChange draw ipAddress ctx r.2 action r.1.row.pc.id (.dict r.1.before) r.1.after
    else db)

/-- `activate_connector_endpoint` -/
def activateConnectorEndpoint (payload : ActivateConnector) : Except Exn (ConnectorResponse × Db) := do
  let ((row, before, after), flushed) ← activateConnector env db ctx draw (.uuid propertyId) payload
  return (.ofAnnotated row, commitTenantChange draw ipAddress ctx flushed "connector_activated" row.pc.id
    (PropertyConnector.configJson before) after)

/-- `list_connectors_endpoint` -/
def listConnectorsEndpoint : Except Exn (Nat × List ConnectorResponse) := do
  let rows ← listConnectors env db ctx (.uuid propertyId)
  let items := rows.map .ofAnnotated
  return (items.length, items)

/-- `update_connector_endpoint` -/
def updateConnectorEndpoint (propertyConnectorId : Uuid) (payload : UpdateConnector) :
    Except Exn (ConnectorResponse × Db) := do
  let r ← updateConnector env db ctx draw (.uuid propertyId) (.uuid propertyConnectorId) payload
  return endTenantRoute db draw ipAddress ctx "connector_updated" r

/-- `deactivate_connector_endpoint` -/
def deactivateConnectorEndpoint (propertyConnectorId : Uuid) : Except Exn (ConnectorResponse × Db) := do
  let r ← deactivateConnector env db ctx (.uuid propertyId) (.uuid propertyConnectorId)
  return endTenantRoute db draw ipAddress ctx "connector_deactivated" r

/-- `reactivate_connector_endpoint` -/
def reactivateConnectorEndpoint (propertyConnectorId : Uuid) : Except Exn (ConnectorResponse × Db) := do
  let r ← reactivateConnector env db ctx (.uuid propertyId) (.uuid propertyConnectorId)
  return endTenantRoute db draw ipAddress ctx "connector_activated" r

end

/-! ### The admin routes -/

section

variable (adminId : Uuid)

/-- The context that an admin gets for a property: the property's own tenant. -/
def adminContext (prop : Property) : RequestContext where
  userId := adminId.str
  tenantId := some prop.tenantId.str
  role := .str "SUPER_ADMIN"
  isAdmin := true

/-- `admin_context_for_property` -/
def adminContextForProperty (propertyId : RawId) : Except Exn (RequestContext × Uuid × Uuid) := do
  let pid ← coerceUuid propertyId "Invalid property id"
  match db.properties.find? pid with
  | none => .error (.http 404 "Property not found")
  | some prop => .ok (adminContext adminId prop, prop.id, prop.tenantId)

/-- `admin_context_for_binding` -/
def adminContextForBinding (propertyConnectorId : RawId) : Except Exn (RequestContext × Uuid × Uuid) := do
  let pcId ← coerceUuid propertyConnectorId "Invalid property_connector id"
  -- an inner join: the binding's property must exist too
  match (db.propertyConnectors.find? pcId).bind fun pc =>
      (db.properties.find? pc.propertyId).map fun prop => (pc, prop) with
  | none => .error (.http 404 "Property connector not found")
  | some (pc, prop) => .ok (adminContext adminId prop, pc.propertyId, prop.tenantId)

/-- `log_admin_action` as the admin routes call it, and the commit. -/
def commitAdminChange (flushed : Db) (action : String) (id tenantId : Uuid) (before : Json)
    (after : Dict) : Db :=
  logAdminAction flushed draw adminId action (some "property_connector") (some id) (some tenantId) before
    (.dict after)
    ipAddress

/-- The end of an admin route that commits only a change. -/
def endAdminRoute (action : String) (tenantId : Uuid) (r : Change × Db) : ConnectorResponse × Db :=
  (.ofAnnotated r.1.row,
    if r.1.changed then
      commitAdminChange draw ipAddress adminId r.2 action r.1.row.pc.id tenantId (.dict r.1.before) r.1.after
    else db)

/-- `admin_activate_connector` -/
def adminActivateConnector (propertyId : Uuid) (payload : ActivateConnector) :
    Except Exn (ConnectorResponse × Db) := do
  let (ctx, pid, tenantId) ← adminContextForProperty db adminId (.uuid propertyId)
  let ((row, before, after), flushed) ← activateConnector env db ctx draw (.uuid pid) payload
  return (.ofAnnotated row,
    commitAdminChange draw ipAddress adminId flushed "connector_activated" row.pc.id tenantId
    (PropertyConnector.configJson before) after)

/-- `admin_update_connector` -/
def adminUpdateConnector (propertyConnectorId : Uuid) (payload : UpdateConnector) :
    Except Exn (ConnectorResponse × Db) := do
  let (ctx, pid, tenantId) ← adminContextForBinding db adminId (.uuid propertyConnectorId)
  let r ← updateConnector env db ctx draw (.uuid pid) (.uuid propertyConnectorId) payload
  return endAdminRoute db draw ipAddress adminId "connector_updated" tenantId r

/-- `admin_deactivate_connector` -/
def adminDeactivateConnector (propertyConnectorId : Uuid) : Except Exn (ConnectorResponse × Db) := do
  let (ctx, pid, tenantId) ← adminContextForBinding db adminId (.uuid propertyConnectorId)
  let r ← deactivateConnector env db ctx (.uuid pid) (.uuid propertyConnectorId)
  return endAdminRoute db draw ipAddress adminId "connector_deactivated" tenantId r

/-- `admin_reactivate_connector` -/
def adminReactivateConnector (propertyConnectorId : Uuid) : Except Exn (ConnectorResponse × Db) := do
  let (ctx, pid, tenantId) ← adminContextForBinding db adminId (.uuid propertyConnectorId)
  let r ← reactivateConnector env db ctx (.uuid pid) (.uuid propertyConnectorId)
  return endAdminRoute db draw ipAddress adminId "connector_activated" tenantId r

end

end

/-! ### What an update commits -/

/-- Who sends the update: a tenant, through the route of one of its properties, or an admin. -/
inductive Caller where
  | tenant (ctx : RequestContext) (propertyId : Uuid)
  | admin (adminId : Uuid)

section

variable (env : PlatformEnv) (db : Db) (draw : Draw) (ipAddress : Option String)

/-- The PUT route the caller reaches. -/
def Caller.put (caller : Caller) (propertyConnectorId : Uuid) (payload : UpdateConnector) :
    Except Exn (ConnectorResponse × Db) :=
  match caller with
  | .tenant ctx propertyId =>
    updateConnectorEndpoint env db draw ipAddress ctx propertyId propertyConnectorId payload
  | .admin adminId => adminUpdateConnector env db draw ipAddress adminId propertyConnectorId payload

/-- `changed` as `update_connector` computes it for the row `pc`. -/
def updateChanged (payload : UpdateConnector) (pc : PropertyConnector) : Bool :=
  (payload.apiSecret.getD none).isSome ||
    !Json.pyEq (.dict pc.snapshot)
      (.dict (pc.flush (applyUpdate (env.encryptSecret draw.iv) payload pc)).snapshot)

variable {env db draw ipAddress}

theorem getOwnedPropertyConnector_row {ctx : RequestContext} {propertyId : RawId} {id : Uuid}
    {pc : PropertyConnector} {connector : Option Connector}
    (h : getOwnedPropertyConnector env db ctx propertyId (.uuid id) = .ok (pc, connector)) :
    db.propertyConnectors.find? id = some pc := by
  unfold getOwnedPropertyConnector at h
  obtain ⟨prop, _, h⟩ := Fallible.bind_eq_ok.mp h
  simp only [coerceUuid, Fallible.ok_bind] at h
  split at h
  · cases h
  · rename_i pc' hf
    cases h
    obtain ⟨hm, hp⟩ := Table.first_some hf
    simp only [Bool.and_eq_true, beq_iff_eq] at hp
    exact Table.find?_eq_some.mpr ⟨hm, hp.1⟩

/-- A successful `update_connector`: the row it found, and the flushed row it leaves. -/
theorem updateConnector_spec {ctx : RequestContext} {propertyId : RawId} {id : Uuid}
    {payload : UpdateConnector} {c : Change} {db' : Db}
    (h : updateConnector env db ctx draw propertyId (.uuid id) payload = .ok (c, db')) :
    ∃ pc, db.propertyConnectors.find? id = some pc ∧ c.changed = updateChanged env draw payload pc ∧
      db'.propertyConnectors =
        db.propertyConnectors.update (pc.flush (applyUpdate (env.encryptSecret draw.iv) payload pc)) := by
  unfold updateConnector at h
  obtain ⟨⟨pc, connector⟩, hpc, h⟩ := Fallible.bind_eq_ok.mp h
  simp only at h
  split at h
  · cases h
  · simp only [Fallible.pure_eq_ok, Prod.mk.injEq] at h
    obtain ⟨rfl, rfl⟩ := h
    exact ⟨pc, getOwnedPropertyConnector_row hpc, rfl, rfl⟩

/-- What an update route commits: the flushed row where the service reported a change, nothing otherwise. -/
theorem Caller.put_spec {caller : Caller} {id : Uuid} {payload : UpdateConnector}
    {response : ConnectorResponse} {db' : Db}
    (h : caller.put env db draw ipAddress id payload = .ok (response, db')) :
    ∃ pc, db.propertyConnectors.find? id = some pc ∧
      db'.propertyConnectors =
        if updateChanged env draw payload pc then
          db.propertyConnectors.update (pc.flush (applyUpdate (env.encryptSecret draw.iv) payload pc))
        else db.propertyConnectors := by
  cases caller with
  | tenant ctx propertyId =>
    obtain ⟨⟨c, flushed⟩, hu, h⟩ := Fallible.bind_eq_ok.mp h
    obtain ⟨pc, hpc, hc, hf⟩ := updateConnector_spec hu
    simp only [endTenantRoute, Fallible.pure_eq_ok, Prod.mk.injEq] at h
    obtain ⟨_, rfl⟩ := h
    refine ⟨pc, hpc, ?_⟩
    rw [hc]
    split
    · exact hf
    · rfl
  | admin adminId =>
    obtain ⟨⟨ctx, pid, tenantId⟩, _, h⟩ := Fallible.bind_eq_ok.mp h
    obtain ⟨⟨c, flushed⟩, hu, h⟩ := Fallible.bind_eq_ok.mp h
    obtain ⟨pc, hpc, hc, hf⟩ := updateConnector_spec hu
    simp only [endAdminRoute, Fallible.pure_eq_ok, Prod.mk.injEq] at h
    obtain ⟨_, rfl⟩ := h
    refine ⟨pc, hpc, ?_⟩
    rw [hc]
    split
    · exact hf
    · rfl

/-- The payload carries an API key other than the stored one. -/
def RotatesKey (payload : UpdateConnector) (pc : PropertyConnector) : Prop :=
  ∃ k, payload.apiKey = some (some k) ∧ k ≠ pc.apiKey

/-- The payload carries a secret, or a value for `scopes`, `config` or `base_url` that compares unequal to the
stored one. -/
def ShowsChange (payload : UpdateConnector) (pc : PropertyConnector) : Prop :=
  (∃ secret, payload.apiSecret = some (some secret)) ∨ (∃ xs, payload.scopes = some xs ∧ xs ≠ pc.scopes) ∨
    (∃ c, payload.config = some c ∧ optDictEq pc.config c = false) ∨ ∃ url, payload.baseUrl = some url ∧
    url ≠ pc.baseUrl

/-- The payload gives no `config` that Python takes for the stored one while its JSON text is another:
`{"a": true}` for `{"a": 1}`, or the same keys in another order. -/
def ConfigDistinct (payload : UpdateConnector) (pc : PropertyConnector) : Prop :=
  ∀ c, payload.config = some c → optDictEq pc.config c = true → c = pc.config

theorem updateChanged_iff {payload : UpdateConnector} {pc : PropertyConnector} :
    updateChanged env draw payload pc = true ↔ ShowsChange payload pc := by
  have hsecret : (payload.apiSecret.getD none).isSome = true ↔
      ∃ secret, payload.apiSecret = some (some secret) := by
    rcases payload.apiSecret with _ | _ | secret <;> simp
  have hscopes : pc.scopes = payload.scopes.getD pc.scopes ↔
      ¬ ∃ xs, payload.scopes = some xs ∧ xs ≠ pc.scopes := by
    cases payload.scopes with
    | none => simp
    | some xs => simp [eq_comm]
  have hconfig : optDictEq pc.config (payload.config.getD pc.config) = true ↔
      ¬ ∃ c, payload.config = some c ∧ optDictEq pc.config c = false := by
    cases payload.config <;> simp
  have hurl : pc.baseUrl = payload.baseUrl.getD pc.baseUrl ↔
      ¬ ∃ u, payload.baseUrl = some u ∧ u ≠ pc.baseUrl := by
    cases payload.baseUrl with
    | none => simp
    | some u => simp [eq_comm]
  have hsnap := PropertyConnector.pyEq_snapshot pc
    (pc.flush (applyUpdate (env.encryptSecret draw.iv) payload pc)) rfl rfl rfl rfl
  unfold updateChanged ShowsChange
  rw [Bool.or_eq_true, Bool.not_eq_true', ← Bool.not_eq_true, hsnap, hsecret]
  simp only [PropertyConnector.flush, PropertyConnector.optDictEq_writtenConfig, applyUpdate]
  rw [hscopes, hconfig, hurl, not_and_or, not_and_or, not_not, not_not, not_not]

/-- A flush stores what was assigned unless the assigned `config` only compares equal to the loaded one. -/
theorem flush_applyUpdate_eq_iff {encryptSecret : String → String} {payload : UpdateConnector}
    {pc : PropertyConnector} :
    pc.flush (applyUpdate encryptSecret payload pc) = applyUpdate encryptSecret payload pc ↔
      ConfigDistinct payload pc := by
  have hconfig : PropertyConnector.writtenConfig pc.config (payload.config.getD pc.config) =
      payload.config.getD pc.config ↔ ConfigDistinct payload pc := by
    rw [PropertyConnector.writtenConfig_eq_iff]
    unfold ConfigDistinct
    cases payload.config <;> simp
  rw [← hconfig, PropertyConnector.ext_iff]
  simp [PropertyConnector.flush, applyUpdate]

/-- A payload that leaves the row as it is, where no secret is given. -/
theorem applyUpdate_eq_self {encryptSecret : String → String} {payload : UpdateConnector}
    {pc : PropertyConnector} (hkey : ¬ RotatesKey payload pc) (hchange : ¬ ShowsChange payload pc)
    (hconfig : ConfigDistinct payload pc) :
    applyUpdate encryptSecret payload pc = pc := by
  unfold ShowsChange at hchange
  push Not at hchange
  obtain ⟨hsecret, hscopes, hdict, hurl⟩ := hchange
  have h1 : (payload.apiKey.getD none).getD pc.apiKey = pc.apiKey := by
    rcases hk : payload.apiKey with _ | _ | k
    · rfl
    · rfl
    · by_contra hne
      exact hkey ⟨k, hk, hne⟩
  have h2 : payload.apiSecret.getD none = none := by
    rcases hs : payload.apiSecret with _ | _ | secret
    · rfl
    · rfl
    · exact absurd hs (hsecret secret)
  have h3 : payload.scopes.getD pc.scopes = pc.scopes := by
    cases hx : payload.scopes with
    | none => rfl
    | some xs => exact hscopes xs hx
  have h4 : payload.config.getD pc.config = pc.config := by
    cases hc : payload.config with
    | none => rfl
    | some c => exact hconfig c hc (by simpa using hdict c hc)
  have h5 : payload.baseUrl.getD pc.baseUrl = pc.baseUrl := by
    cases hu : payload.baseUrl with
    | none => rfl
    | some u => exact hurl u hu
  unfold applyUpdate
  rw [h1, h2, h3, h4, h5]

/-- A new API key always changes the row. -/
theorem applyUpdate_ne_self {encryptSecret : String → String} {payload : UpdateConnector}
    {pc : PropertyConnector} (hkey : RotatesKey payload pc) : applyUpdate encryptSecret payload pc ≠ pc := by
  obtain ⟨k, hk, hne⟩ := hkey
  intro h
  have := congrArg PropertyConnector.apiKey h
  simp only [applyUpdate, hk, Option.getD_some] at this
  exact hne this

/-- An update route commits the previous row with the supplied fields applied exactly when a new API key comes
with another change that the snapshots show, and no new `config` merely compares equal to the stored one. -/
theorem put_commits_payload_iff {caller : Caller} {id : Uuid} {payload : UpdateConnector}
    {response : ConnectorResponse} {db' : Db}
    (h : caller.put env db draw ipAddress id payload = .ok (response, db')) :
    ∃ pc, db.propertyConnectors.find? id = some pc ∧
      (db'.propertyConnectors.find? id = some (applyUpdate (env.encryptSecret draw.iv) payload pc) ↔
        (RotatesKey payload pc → ShowsChange payload pc) ∧ ConfigDistinct payload pc) := by
  obtain ⟨pc, hpc, hdb⟩ := Caller.put_spec h
  refine ⟨pc, hpc, ?_⟩
  have hrow := Table.find?_some hpc
  by_cases hchanged : ShowsChange payload pc
  · have hwritten : db'.propertyConnectors.find? id =
        some (pc.flush (applyUpdate (env.encryptSecret draw.iv) payload pc)) := by
      rw [hdb, if_pos (updateChanged_iff.mpr hchanged), ← hrow.2]
      exact Table.find?_update_self hrow.1 rfl
    rw [hwritten, Option.some_inj, flush_applyUpdate_eq_iff]
    exact ⟨fun hc => ⟨fun _ => hchanged, hc⟩, fun hc => hc.2⟩
  · have hkept : db'.propertyConnectors.find? id = some pc := by
      rw [hdb, if_neg (fun hc => hchanged (updateChanged_iff.mp hc)), hpc]
    rw [hkept, Option.some_inj, eq_comm]
    constructor
    · intro hself
      refine ⟨fun hkey => absurd hself (applyUpdate_ne_self hkey), ?_⟩
      intro c hc _
      have := congrArg PropertyConnector.config hself
      simpa [applyUpdate, hc] using this
    · rintro ⟨hkey, hconfig⟩
      exact applyUpdate_eq_self (fun hk => hchanged (hkey hk)) hchanged hconfig

end

/-! ### A key rotation -/

namespace KeyRotation

def property : Property where
  id := .ofNat 1
  tenantId := .ofNat 2
  name := "Acme Coffee"
  googlePlaceId := none
  googleMapsUrl := none
  isActive := true
  createdAt := 0
  updatedAt := 0

def binding : PropertyConnector where
  id := .ofNat 3
  propertyId := property.id
  connectorId := .ofNat 4
  apiKey := "pk_live_1"
  apiSecret := none
  scopes := none
  config := none
  baseUrl := none
  isActive := true
  createdAt := 0

def db : Db :=
  { Db.empty with
    properties := Table.empty.insert property
    propertyConnectors := Table.empty.insert binding }

def env : PlatformEnv where
  pgUuid := Uuid.parse
  pgLower := Py.asciiLower
  pgLe := fun s t => decide (s ≤ t)
  encryptSecret := fun iv secret => toString iv ++ secret

def draw : Draw where
  now := 0
  id := fun n => .ofNat (10 + n)
  auditId := fun n => .ofNat (20 + n)
  adminLogId := .ofNat 30
  iv := 0

def tenant : Caller :=
  .tenant ⟨(Uuid.ofNat 5).str, some property.tenantId.str, .str "OWNER", false⟩ property.id

/-- Only the API key is rotated. -/
def newKey : UpdateConnector := { apiKey := some (some "pk_live_2") }

/-- The request for a new key is answered, and the committed row keeps the old one. -/
theorem new_key_is_lost :
    ∃ response db', tenant.put env db draw none binding.id newKey = .ok (response, db') ∧
    db'.propertyConnectors.find? binding.id = some binding ∧
    db'.propertyConnectors.find? binding.id ≠
      some (applyUpdate (env.encryptSecret draw.iv) newKey binding) := by
  refine ⟨_, _, rfl, rfl, ?_⟩
  intro h
  have := congrArg (Option.map PropertyConnector.apiKey) h
  exact absurd this (by decide)

/-- A key rotated together with the secret. -/
def newCredentials : UpdateConnector :=
  { apiKey := some (some "pk_live_2"), apiSecret := some (some "sk_live_2") }

theorem put_commits_newCredentials_iff :
    ∃ response db', tenant.put env db draw none binding.id newCredentials = .ok (response, db') ∧
      ∃ pc, db.propertyConnectors.find? binding.id = some pc ∧
        (db'.propertyConnectors.find? binding.id =
            some (applyUpdate (env.encryptSecret draw.iv) newCredentials pc) ↔
          (RotatesKey newCredentials pc → ShowsChange newCredentials pc) ∧
            ConfigDistinct newCredentials pc) := by
  obtain ⟨response, db', h⟩ : ∃ response db', tenant.put env db draw none binding.id newCredentials =
      .ok (response, db') := ⟨_, _, rfl⟩
  exact ⟨response, db', h, put_commits_payload_iff h⟩

end KeyRotation

end RatingLift
