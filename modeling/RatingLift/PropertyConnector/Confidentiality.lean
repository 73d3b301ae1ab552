import RatingLift.PropertyConnector.Requests

/-!
# Credentials do not leak

No request on bindings replies or logs anything that depends on an API key or a secret: a request without its
credentials, on a database without credentials, has the same reply and leaves the same database, but for
credentials (`serve_redacted`).  Two runs of requests that differ in credentials only therefore reply and log
the same (`credentials_noninterference`).
-/

namespace RatingLift

open Library Fallible PropertyConnectorService

/-! ### Without credentials -/

def PropertyConnector.redacted (pc : PropertyConnector) : PropertyConnector :=
  { pc with apiKey := "", apiSecret := none }

theorem PropertyConnector.key_redacted (pc : PropertyConnector) : Keyed.key pc.redacted = Keyed.key pc := rfl

theorem PropertyConnector.redacted_redacted (pc : PropertyConnector) :
    pc.redacted.redacted = pc.redacted := rfl

/-- The payload with other credentials. -/
def ActivateConnector.redacted (payload : ActivateConnector) : ActivateConnector :=
  { payload with apiKey := "", apiSecret := "" }

/-- The payload with other credentials, where it has any: what is null or not set stays so. -/
def UpdateConnector.redacted (payload : UpdateConnector) : UpdateConnector :=
  { payload with
    apiKey := payload.apiKey.map fun key => key.map fun _ => ""
    apiSecret := payload.apiSecret.map fun secret => secret.map fun _ => "" }

def BindingRequest.redacted : BindingRequest → BindingRequest
  | activateConnectorEndpoint ctx propertyId payload =>
    .activateConnectorEndpoint ctx propertyId payload.redacted
  | updateConnectorEndpoint ctx propertyId id payload =>
    .updateConnectorEndpoint ctx propertyId id payload.redacted
  | adminActivateConnector adminId propertyId payload =>
    .adminActivateConnector adminId propertyId payload.redacted
  | adminUpdateConnector adminId id payload => .adminUpdateConnector adminId id payload.redacted
  | request => request

/-- The draw without the randomness of the cipher. -/
def Draw.redacted (draw : Draw) : Draw := { draw with iv := 0 }

def RoutedRequest.redacted (r : RoutedRequest) : RoutedRequest :=
  ⟨r.request.redacted, r.ipAddress, r.draw.redacted⟩

def AnnotatedConnector.redacted (a : AnnotatedConnector) : AnnotatedConnector :=
  { a with pc := a.pc.redacted }

namespace Db

def redacted (db : Db) : Db :=
  { db with propertyConnectors :=
    db.propertyConnectors.map PropertyConnector.redacted PropertyConnector.key_redacted }

variable {db : Db}

@[simp] theorem redacted_redacted : db.redacted.redacted = db.redacted := by
  unfold redacted
  dsimp only
  rw [Table.map_map PropertyConnector.redacted_redacted]

theorem redacted_update {pc pc' : PropertyConnector} (h : pc'.redacted = pc.redacted) :
    { db.redacted with propertyConnectors := db.redacted.propertyConnectors.update pc' }.redacted =
      { db with propertyConnectors := db.propertyConnectors.update pc }.redacted := by
  unfold redacted
  dsimp only
  rw [Table.map_update, Table.map_update, Table.map_map PropertyConnector.redacted_redacted, h]

theorem redacted_insert {pc pc' : PropertyConnector} (h : pc'.redacted = pc.redacted) :
    { db.redacted with propertyConnectors := db.redacted.propertyConnectors.insert pc' }.redacted =
      { db with propertyConnectors := db.propertyConnectors.insert pc }.redacted := by
  unfold redacted
  dsimp only
  rw [Table.map_insert, Table.map_insert, Table.map_map PropertyConnector.redacted_redacted, h]

end Db

/-! ### The service -/

section

variable {env : PlatformEnv} {db : Db} {ctx : RequestContext} {draw : Draw}

theorem existingBinding_redacted (propertyId connectorId : Uuid) :
    existingBinding db.redacted propertyId connectorId =
      (existingBinding db propertyId connectorId).map PropertyConnector.redacted := by
  have hrows : db.redacted.propertyConnectors =
      db.propertyConnectors.map PropertyConnector.redacted PropertyConnector.key_redacted := rfl
  unfold existingBinding
  rw [hrows]
  exact Table.first_map fun _ => rfl

/-- What an activation returns, without credentials. -/
def redactActivation (r : (AnnotatedConnector × Option Dict × Dict) × Db) :
    (AnnotatedConnector × Option Dict × Dict) × Db :=
  ((r.1.1.redacted, r.1.2), r.2.redacted)

/-- What a change returns, without credentials. -/
def redactChange (r : Change × Db) : Change × Db := ({ r.1 with row := r.1.row.redacted }, r.2.redacted)

theorem activateConnector_redacted (propertyId : RawId) (payload : ActivateConnector) :
    (activateConnector env db.redacted ctx draw.redacted propertyId payload.redacted).map redactActivation =
      (activateConnector env db ctx draw propertyId payload).map redactActivation := by
  -- the lookups of the property and of the connector see no bindings
  have hprop : getOwnedProperty env db.redacted ctx propertyId = getOwnedProperty env db ctx propertyId := rfl
  have hconnector : getActiveConnector db.redacted payload.redacted.connectorId =
      getActiveConnector db payload.connectorId := rfl
  unfold activateConnector
  rw [hprop]
  cases getOwnedProperty env db ctx propertyId with
  | error e => rfl
  | ok prop =>
    rw [ok_bind, ok_bind, hconnector]
    cases getActiveConnector db payload.connectorId with
    | error e => rfl
    | ok connector =>
      rw [ok_bind, ok_bind, existingBinding_redacted]
      cases hexisting : existingBinding db prop.id connector.id with
      | none =>
        have hnone : existingBinding db.redacted prop.id connector.id = none := by
          rw [existingBinding_redacted, hexisting]
          rfl
        have hrow : (newBinding draw.redacted payload.redacted (env.encryptSecret draw.redacted.iv
            payload.redacted.apiSecret) prop.id connector.id).redacted =
            (newBinding draw payload (env.encryptSecret draw.iv payload.apiSecret) prop.id
              connector.id).redacted := rfl
        rw [Option.map_none]
        dsimp only
        rw [insertBinding_of_none hnone, insertBinding_of_none hexisting]
        simp only [ok_bind, Except.map, redactActivation]
        rw [Db.redacted_insert hrow]
        rfl
      | some existing =>
        rw [Option.map_some]
        dsimp only
        cases hactive : existing.isActive with
        | true => simp [hactive, PropertyConnector.redacted]
        | false =>
          have hrow : (existing.redacted.flush (refreshed payload.redacted (env.encryptSecret draw.redacted.iv
              payload.redacted.apiSecret) existing.redacted)).redacted =
              (existing.flush
                (refreshed payload (env.encryptSecret draw.iv payload.apiSecret) existing)).redacted := rfl
          have hactive' : existing.redacted.isActive = false := hactive
          simp only [hactive', Bool.false_eq_true, ↓reduceIte, Except.map, redactActivation]
          rw [Db.redacted_update hrow]
          rfl

/-- A lookup under a property finds the same binding, but for its credentials. -/
def redactOwned (r : PropertyConnector × Option Connector) : PropertyConnector × Option Connector :=
  (r.1.redacted, r.2)

theorem getOwnedPropertyConnector_redacted (propertyId propertyConnectorId : RawId) :
    getOwnedPropertyConnector env db.redacted ctx propertyId propertyConnectorId =
      (getOwnedPropertyConnector env db ctx propertyId propertyConnectorId).map redactOwned := by
  have hprop : getOwnedProperty env db.redacted ctx propertyId = getOwnedProperty env db ctx propertyId := rfl
  unfold getOwnedPropertyConnector
  rw [hprop]
  cases getOwnedProperty env db ctx propertyId with
  | error e => rfl
  | ok prop =>
    cases coerceUuid propertyConnectorId "Invalid property_connector id" with
    | error e => rfl
    | ok pcId =>
      have hrows : db.redacted.propertyConnectors =
          db.propertyConnectors.map PropertyConnector.redacted PropertyConnector.key_redacted := rfl
      have hfirst :
          (db.redacted.propertyConnectors.first fun pc => pc.id == pcId && pc.propertyId == prop.id) =
          (db.propertyConnectors.first fun pc => pc.id == pcId && pc.propertyId == prop.id).map
            PropertyConnector.redacted := by
        rw [hrows]
        exact Table.first_map fun _ => rfl
      simp only [ok_bind]
      rw [hfirst]
      cases db.propertyConnectors.first fun pc => pc.id == pcId && pc.propertyId == prop.id with
      | none => rfl
      | some pc => rfl

/-- What follows the lookup of a binding may be compared with the binding at hand. -/
theorem bind_owned_redacted {f g : PropertyConnector × Option Connector → Except Exn (Change × Db)}
    {propertyId propertyConnectorId : RawId} (h : ∀ found, (f (redactOwned found)).map redactChange =
      (g found).map redactChange) :
    (getOwnedPropertyConnector env db.redacted ctx propertyId propertyConnectorId >>= f).map redactChange =
      (getOwnedPropertyConnector env db ctx propertyId propertyConnectorId >>= g).map redactChange := by
  rw [getOwnedPropertyConnector_redacted]
  cases getOwnedPropertyConnector env db ctx propertyId propertyConnectorId with
  | error e => rfl
  | ok found => exact h found

/-- A change that has written a row. -/
theorem redactChange_update {pc pc' : PropertyConnector} (h : pc'.redacted = pc.redacted)
    {connector : Option Connector} {before after : Dict} {changed : Bool} :
    redactChange (⟨annotate pc' connector, before, after, changed⟩,
        { db.redacted with propertyConnectors := db.redacted.propertyConnectors.update pc' }) =
      redactChange (⟨annotate pc connector, before, after, changed⟩,
        { db with propertyConnectors := db.propertyConnectors.update pc }) := by
  have hrow : (annotate pc' connector).redacted = (annotate pc connector).redacted := by
    unfold annotate AnnotatedConnector.redacted
    dsimp only
    rw [h]
  unfold redactChange
  dsimp only
  rw [hrow, Db.redacted_update h]

/-- A change that has written nothing. -/
theorem redactChange_same {pc : PropertyConnector} {connector : Option Connector} {before after : Dict}
    {changed : Bool} :
    redactChange (⟨annotate pc.redacted connector, before, after, changed⟩, db.redacted) =
      redactChange (⟨annotate pc connector, before, after, changed⟩, db) := by
  unfold redactChange
  rw [Db.redacted_redacted]
  rfl

theorem deactivateConnector_redacted (propertyId propertyConnectorId : RawId) :
    (deactivateConnector env db.redacted ctx propertyId propertyConnectorId).map redactChange =
      (deactivateConnector env db ctx propertyId propertyConnectorId).map redactChange := by
  refine bind_owned_redacted ?_
  intro found
  obtain ⟨pc, connector⟩ := found
  have hrow : ({ pc.redacted with isActive := false } : PropertyConnector).redacted =
      ({ pc with isActive := false } : PropertyConnector).redacted := rfl
  have hactive' : pc.redacted.isActive = pc.isActive := rfl
  simp only [redactOwned, hactive']
  cases pc.isActive with
  | false => exact congrArg Except.ok redactChange_same
  | true => exact congrArg Except.ok (redactChange_update hrow)

theorem reactivateConnector_redacted (propertyId propertyConnectorId : RawId) :
    (reactivateConnector env db.redacted ctx propertyId propertyConnectorId).map redactChange =
      (reactivateConnector env db ctx propertyId propertyConnectorId).map redactChange := by
  refine bind_owned_redacted ?_
  intro found
  obtain ⟨pc, connector⟩ := found
  have hrow : ({ pc.redacted with isActive := true } : PropertyConnector).redacted =
      ({ pc with isActive := true } : PropertyConnector).redacted := rfl
  have hactive' : pc.redacted.isActive = pc.isActive := rfl
  simp only [redactOwned, hactive']
  cases pc.isActive with
  | true => exact congrArg Except.ok redactChange_same
  | false =>
    cases connector with
    | none => rfl
    | some connector =>
      simp only [Bool.false_eq_true, ↓reduceIte]
      split
      · rfl
      · exact congrArg Except.ok (redactChange_update hrow)

theorem updateConnector_redacted (propertyId propertyConnectorId : RawId) (payload : UpdateConnector) :
    (updateConnector env db.redacted ctx draw.redacted propertyId propertyConnectorId payload.redacted).map
      redactChange =
      (updateConnector env db ctx draw propertyId propertyConnectorId payload).map redactChange := by
  have hempty : payload.redacted.isEmpty = payload.isEmpty := by
    simp [UpdateConnector.redacted, UpdateConnector.isEmpty]
  have hsecret : (payload.redacted.apiSecret.getD none).isSome = (payload.apiSecret.getD none).isSome := by
    rcases hs : payload.apiSecret with _ | _ | secret <;> simp [UpdateConnector.redacted, hs]
  refine bind_owned_redacted ?_
  intro found
  obtain ⟨pc, connector⟩ := found
  have hrow :
      (pc.redacted.flush
        (applyUpdate (env.encryptSecret draw.redacted.iv) payload.redacted pc.redacted)).redacted =
      (pc.flush (applyUpdate (env.encryptSecret draw.iv) payload pc)).redacted := rfl
  simp only [redactOwned, hempty, hsecret]
  split
  · rfl
  · exact congrArg Except.ok (redactChange_update hrow)

/-- A row of the join of `list_connectors`. -/
def redactJoined (r : PropertyConnector × Connector) : PropertyConnector × Connector := (r.1.redacted, r.2)

theorem listConnectors_redacted (propertyId : RawId) : listConnectors env db.redacted ctx propertyId =
    (listConnectors env db ctx propertyId).map fun rows => rows.map AnnotatedConnector.redacted := by
  have hprop : getOwnedProperty env db.redacted ctx propertyId = getOwnedProperty env db ctx propertyId := rfl
  unfold listConnectors
  rw [hprop]
  cases getOwnedProperty env db ctx propertyId with
  | error e => rfl
  | ok prop =>
    have hrows : db.redacted.propertyConnectors =
        db.propertyConnectors.map PropertyConnector.redacted PropertyConnector.key_redacted := rfl
    have hselect : (db.redacted.propertyConnectors.select fun pc => pc.propertyId == prop.id) =
        (db.propertyConnectors.select fun pc => pc.propertyId == prop.id).map PropertyConnector.redacted := by
      rw [hrows]
      exact Table.select_map fun _ => rfl
    -- neither the join nor the order depends on credentials
    have hjoined : ((db.propertyConnectors.select fun pc => pc.propertyId == prop.id).map
        PropertyConnector.redacted).filterMap
          (fun pc => (db.connectors.find? pc.connectorId).map fun c => (pc, c)) =
        ((db.propertyConnectors.select fun pc => pc.propertyId == prop.id).filterMap fun pc =>
          (db.connectors.find? pc.connectorId).map fun c => (pc, c)).map redactJoined := by
      rw [List.filterMap_map, List.map_filterMap]
      congr 1
      funext pc
      show (db.connectors.find? pc.connectorId).map _ = ((db.connectors.find? pc.connectorId).map _).map _
      rw [Option.map_map]
      rfl
    have hconnectors : db.redacted.connectors = db.connectors := rfl
    simp only [ok_bind]
    have hage :
        ∀ r : PropertyConnector × Connector, (redactJoined r).1.createdAt = r.1.createdAt := fun _ => rfl
    rw [hselect, hconnectors, hjoined, newestFirst_map hage, List.map_map]
    show Except.ok (List.map _ _) = Except.ok (List.map _ (List.map _ _))
    rw [List.map_map]
    rfl

end

/-! ### The routes -/

section

variable {env : PlatformEnv} {db db' : Db} {draw : Draw} {ipAddress : Option String}

/-- What a route returns, with the credentials of the database left out. -/
def redactRoute {α : Type} (r : α × Db) : α × Db := (r.1, r.2.redacted)

theorem ofAnnotated_congr {row row' : AnnotatedConnector} (h : row'.redacted = row.redacted) :
    ConnectorResponse.ofAnnotated row' = .ofAnnotated row ∧ row'.pc.id = row.pc.id := by
  have hresponse :
      ∀ a : AnnotatedConnector, ConnectorResponse.ofAnnotated a = .ofAnnotated a.redacted := fun _ => rfl
  have hid : ∀ a : AnnotatedConnector, a.pc.id = a.redacted.pc.id := fun _ => rfl
  rw [hresponse row', hresponse row, hid row', hid row, h]
  exact ⟨rfl, rfl⟩

/-- What a route sees of activations that are the same but for credentials. -/
theorem redactActivation_eq {row' row : AnnotatedConnector} {before' before : Option Dict}
    {after' after : Dict} {flushed' flushed : Db}
    (h : redactActivation ((row', before', after'), flushed') =
      redactActivation ((row, before, after), flushed)) :
    ConnectorResponse.ofAnnotated row' = .ofAnnotated row ∧ row'.pc.id = row.pc.id ∧ before' = before ∧
    after' = after ∧
      flushed'.redacted = flushed.redacted := by
  simp only [redactActivation, Prod.mk.injEq] at h
  obtain ⟨⟨hrow, hbefore, hafter⟩, hflushed⟩ := h
  obtain ⟨hresponse, hid⟩ := ofAnnotated_congr hrow
  exact ⟨hresponse, hid, hbefore, hafter, hflushed⟩

/-- What a route sees of changes that are the same but for credentials. -/
theorem redactChange_eq {r' r : Change × Db} (h : redactChange r' = redactChange r) :
    ConnectorResponse.ofAnnotated r'.1.row = .ofAnnotated r.1.row ∧ r'.1.row.pc.id = r.1.row.pc.id ∧
      r'.1.before = r.1.before ∧ r'.1.after = r.1.after ∧ r'.1.changed = r.1.changed ∧
      r'.2.redacted = r.2.redacted := by
  simp only [redactChange, Prod.mk.injEq, Change.mk.injEq] at h
  obtain ⟨⟨hrow, hbefore, hafter, hchanged⟩, hflushed⟩ := h
  obtain ⟨hresponse, hid⟩ := ofAnnotated_congr hrow
  exact ⟨hresponse, hid, hbefore, hafter, hchanged, hflushed⟩

section

variable {ctx : RequestContext} {propertyId : Uuid}

theorem commitTenantChange_redacted (h : db'.redacted = db.redacted) (action : String) (id : Uuid)
    (before : Json) (after : Dict) :
    (commitTenantChange draw.redacted ipAddress ctx db' action id before after).redacted =
      (commitTenantChange draw ipAddress ctx db action id before after).redacted := by
  have hcommit : ∀ (draw : Draw) (db : Db),
      (commitTenantChange draw ipAddress ctx db action id before after).redacted =
      commitTenantChange draw ipAddress ctx db.redacted action id before after := fun _ _ => rfl
  rw [hcommit, hcommit, h]
  rfl

theorem activateConnectorEndpoint_redacted (payload : ActivateConnector) :
    (activateConnectorEndpoint env db.redacted draw.redacted ipAddress ctx propertyId payload.redacted).map
      redactRoute =
      (activateConnectorEndpoint env db draw ipAddress ctx propertyId payload).map redactRoute := by
  refine bind_map_congr (activateConnector_redacted _ payload) ?_
  rintro ⟨⟨row', before', after'⟩, flushed'⟩ ⟨⟨row, before, after⟩, flushed⟩ h
  obtain ⟨hresponse, hid, rfl, rfl, hflushed⟩ := redactActivation_eq h
  show Except.ok (redactRoute (_, _)) = Except.ok (redactRoute (_, _))
  unfold redactRoute
  dsimp only
  rw [hresponse, hid, commitTenantChange_redacted hflushed]

/-- The end of a tenant route after a change. -/
theorem endTenantRoute_redacted (action : String) (r' r : Change × Db)
    (h : redactChange r' = redactChange r) :
    redactRoute (endTenantRoute db.redacted draw.redacted ipAddress ctx action r') =
      redactRoute (endTenantRoute db draw ipAddress ctx action r) := by
  obtain ⟨hresponse, hid, hbefore, hafter, hchanged, hflushed⟩ := redactChange_eq h
  unfold redactRoute endTenantRoute
  dsimp only
  rw [hresponse, hid, hbefore, hafter, hchanged]
  cases r.1.changed with
  | true => exact congrArg _ (commitTenantChange_redacted hflushed ..)
  | false => exact congrArg _ Db.redacted_redacted

theorem updateConnectorEndpoint_redacted (propertyConnectorId : Uuid) (payload : UpdateConnector) :
    (updateConnectorEndpoint env db.redacted draw.redacted ipAddress ctx propertyId propertyConnectorId
        payload.redacted).map redactRoute =
      (updateConnectorEndpoint env db draw ipAddress ctx propertyId propertyConnectorId payload).map
        redactRoute :=
  bind_map_congr (updateConnector_redacted _ _ payload) fun r' r h =>
    congrArg Except.ok (endTenantRoute_redacted _ r' r h)

theorem deactivateConnectorEndpoint_redacted (propertyConnectorId : Uuid) :
    (deactivateConnectorEndpoint env db.redacted draw.redacted ipAddress ctx propertyId
      propertyConnectorId).map
        redactRoute =
      (deactivateConnectorEndpoint env db draw ipAddress ctx propertyId propertyConnectorId).map
        redactRoute :=
  bind_map_congr (deactivateConnector_redacted _ _) fun r' r h =>
    congrArg Except.ok (endTenantRoute_redacted _ r' r h)

theorem reactivateConnectorEndpoint_redacted (propertyConnectorId : Uuid) :
    (reactivateConnectorEndpoint env db.redacted draw.redacted ipAddress ctx propertyId
      propertyConnectorId).map
        redactRoute =
      (reactivateConnectorEndpoint env db draw ipAddress ctx propertyId propertyConnectorId).map
        redactRoute :=
  bind_map_congr (reactivateConnector_redacted _ _) fun r' r h =>
    congrArg Except.ok (endTenantRoute_redacted _ r' r h)

theorem listConnectorsEndpoint_redacted :
    listConnectorsEndpoint env db.redacted ctx propertyId = listConnectorsEndpoint env db ctx propertyId := by
  unfold listConnectorsEndpoint
  rw [listConnectors_redacted]
  cases listConnectors env db ctx (.uuid propertyId) with
  | error e => rfl
  | ok rows =>
    have hitems : (rows.map AnnotatedConnector.redacted).map ConnectorResponse.ofAnnotated =
        rows.map ConnectorResponse.ofAnnotated := by
      rw [List.map_map]
      rfl
    show Except.ok (_, _) = Except.ok (_, _)
    rw [hitems]

end

section

variable {adminId : Uuid}

theorem adminContextForBinding_redacted (propertyConnectorId : RawId) :
    adminContextForBinding db.redacted adminId propertyConnectorId =
      adminContextForBinding db adminId propertyConnectorId := by
  unfold adminContextForBinding
  cases coerceUuid propertyConnectorId "Invalid property_connector id" with
  | error e => rfl
  | ok pcId =>
    have hfind : db.redacted.propertyConnectors.find? pcId =
        (db.propertyConnectors.find? pcId).map PropertyConnector.redacted := by
      show (db.propertyConnectors.map _ PropertyConnector.key_redacted).find? pcId = _
      exact Table.find?_map pcId
    have hproperties : db.redacted.properties = db.properties := rfl
    simp only [ok_bind]
    rw [hfind, hproperties]
    cases db.propertyConnectors.find? pcId with
    | none => rfl
    | some pc =>
      have hid : pc.redacted.propertyId = pc.propertyId := rfl
      simp only [Option.map_some, Option.bind_some, hid]
      cases db.properties.find? pc.propertyId with
      | none => rfl
      | some prop => rfl

theorem commitAdminChange_redacted (h : db'.redacted = db.redacted) (action : String) (id tenantId : Uuid)
    (before : Json) (after : Dict) :
    (commitAdminChange draw.redacted ipAddress adminId db' action id tenantId before after).redacted =
      (commitAdminChange draw ipAddress adminId db action id tenantId before after).redacted := by
  have hcommit : ∀ (draw : Draw) (db : Db),
      (commitAdminChange draw ipAddress adminId db action id tenantId before after).redacted =
        commitAdminChange draw ipAddress adminId db.redacted action id tenantId before after := fun _ _ => rfl
  rw [hcommit, hcommit, h]
  rfl

theorem adminActivateConnector_redacted (propertyId : Uuid) (payload : ActivateConnector) :
    (adminActivateConnector env db.redacted draw.redacted ipAddress adminId propertyId payload.redacted).map
      redactRoute =
      (adminActivateConnector env db draw ipAddress adminId propertyId payload).map redactRoute := by
  have hcontext : adminContextForProperty db.redacted adminId (.uuid propertyId) =
      adminContextForProperty db adminId (.uuid propertyId) := rfl
  unfold adminActivateConnector
  rw [hcontext]
  cases adminContextForProperty db adminId (.uuid propertyId) with
  | error e => rfl
  | ok found =>
    obtain ⟨ctx, pid, tenantId⟩ := found
    rw [ok_bind, ok_bind]
    refine bind_map_congr (activateConnector_redacted (.uuid pid) payload) ?_
    rintro ⟨⟨row', before', after'⟩, flushed'⟩ ⟨⟨row, before, after⟩, flushed⟩ h
    obtain ⟨hresponse, hid, rfl, rfl, hflushed⟩ := redactActivation_eq h
    show Except.ok (redactRoute (_, _)) = Except.ok (redactRoute (_, _))
    unfold redactRoute
    dsimp only
    rw [hresponse, hid, commitAdminChange_redacted hflushed]

/-- The end of an admin route after a change. -/
theorem endAdminRoute_redacted (action : String) (tenantId : Uuid) (r' r : Change × Db)
    (h : redactChange r' = redactChange r) :
    redactRoute (endAdminRoute db.redacted draw.redacted ipAddress adminId action tenantId r') =
      redactRoute (endAdminRoute db draw ipAddress adminId action tenantId r) := by
  obtain ⟨hresponse, hid, hbefore, hafter, hchanged, hflushed⟩ := redactChange_eq h
  unfold redactRoute endAdminRoute
  dsimp only
  rw [hresponse, hid, hbefore, hafter, hchanged]
  cases r.1.changed with
  | true => exact congrArg _ (commitAdminChange_redacted hflushed ..)
  | false => exact congrArg _ Db.redacted_redacted

/-- What follows the lookup of the tenant of a binding. -/
theorem bind_binding_redacted {f' f : RequestContext × Uuid × Uuid → Except Exn (ConnectorResponse × Db)}
    {propertyConnectorId : RawId} (h : ∀ found, (f' found).map redactRoute = (f found).map redactRoute) :
    (adminContextForBinding db.redacted adminId propertyConnectorId >>= f').map redactRoute =
      (adminContextForBinding db adminId propertyConnectorId >>= f).map redactRoute := by
  rw [adminContextForBinding_redacted]
  cases adminContextForBinding db adminId propertyConnectorId with
  | error e => rfl
  | ok found => exact h found

theorem adminUpdateConnector_redacted (propertyConnectorId : Uuid) (payload : UpdateConnector) :
    (adminUpdateConnector env db.redacted draw.redacted ipAddress adminId propertyConnectorId
      payload.redacted).map
        redactRoute =
      (adminUpdateConnector env db draw ipAddress adminId propertyConnectorId payload).map redactRoute :=
  bind_binding_redacted fun _ => bind_map_congr (updateConnector_redacted _ _ payload) fun r' r h =>
    congrArg Except.ok (endAdminRoute_redacted _ _ r' r h)

theorem adminDeactivateConnector_redacted (propertyConnectorId : Uuid) :
    (adminDeactivateConnector env db.redacted draw.redacted ipAddress adminId propertyConnectorId).map
      redactRoute =
      (adminDeactivateConnector env db draw ipAddress adminId propertyConnectorId).map redactRoute :=
  bind_binding_redacted fun _ => bind_map_congr (deactivateConnector_redacted _ _) fun r' r h =>
    congrArg Except.ok (endAdminRoute_redacted _ _ r' r h)

theorem adminReactivateConnector_redacted (propertyConnectorId : Uuid) :
    (adminReactivateConnector env db.redacted draw.redacted ipAddress adminId propertyConnectorId).map
      redactRoute =
      (adminReactivateConnector env db draw ipAddress adminId propertyConnectorId).map redactRoute :=
  bind_binding_redacted fun _ => bind_map_congr (reactivateConnector_redacted _ _) fun r' r h =>
    congrArg Except.ok (endAdminRoute_redacted _ _ r' r h)

theorem listPropertyConnectors_redacted (filter : BindingFilter) (limit offset : Nat) :
    listPropertyConnectors env db.redacted filter limit offset =
      listPropertyConnectors env db filter limit offset := by
  have hrows : db.redacted.propertyConnectors.rows.filterMap (baseRow db.redacted) =
      db.propertyConnectors.rows.filterMap (baseRow db) := by
    show (db.propertyConnectors.rows.map PropertyConnector.redacted).filterMap (baseRow db.redacted) = _
    rw [List.filterMap_map]
    rfl
  unfold listPropertyConnectors listBindings
  rw [hrows]

end

theorem bindingReply_redacted {status : Nat} {x' x : Except Exn (ConnectorResponse × Db)}
    (h : x'.map redactRoute = x.map redactRoute) :
    (x'.map (bindingReply status)).map redactRoute = (x.map (bindingReply status)).map redactRoute := by
  have hcomm : ∀ x : Except Exn (ConnectorResponse × Db), (x.map (bindingReply status)).map redactRoute =
      (x.map redactRoute).map (bindingReply status) := by
    intro x
    cases x with
    | error e => rfl
    | ok r => rfl
  rw [hcomm, hcomm, h]

/-- A request without its credentials, on a database without credentials, is answered in the same way and
leaves the same database, but for credentials. -/
theorem serve_redacted (request : BindingRequest) :
    (request.redacted.serve env db.redacted draw.redacted ipAddress).map redactRoute =
      (request.serve env db draw ipAddress).map redactRoute := by
  cases request with
  | activateConnectorEndpoint ctx propertyId payload =>
    exact bindingReply_redacted (activateConnectorEndpoint_redacted payload)
  | listConnectorsEndpoint ctx propertyId =>
    unfold BindingRequest.redacted BindingRequest.serve
    dsimp only
    rw [listConnectorsEndpoint_redacted]
    cases RatingLift.listConnectorsEndpoint env db ctx propertyId with
    | error e => rfl
    | ok r => exact congrArg (fun db => Except.ok (_, db)) Db.redacted_redacted
  | updateConnectorEndpoint ctx propertyId id payload =>
    exact bindingReply_redacted (updateConnectorEndpoint_redacted id payload)
  | deactivateConnectorEndpoint ctx propertyId id =>
    exact bindingReply_redacted (deactivateConnectorEndpoint_redacted id)
  | reactivateConnectorEndpoint ctx propertyId id =>
    exact bindingReply_redacted (reactivateConnectorEndpoint_redacted id)
  | listPropertyConnectors filter limit offset =>
    unfold BindingRequest.redacted BindingRequest.serve
    dsimp only
    rw [listPropertyConnectors_redacted]
    exact congrArg (fun db => Except.ok (_, db)) Db.redacted_redacted
  | adminActivateConnector adminId propertyId payload =>
    exact bindingReply_redacted (adminActivateConnector_redacted propertyId payload)
  | adminUpdateConnector adminId id payload =>
    exact bindingReply_redacted (adminUpdateConnector_redacted id payload)
  | adminDeactivateConnector adminId id => exact bindingReply_redacted (adminDeactivateConnector_redacted id)
  | adminReactivateConnector adminId id => exact bindingReply_redacted (adminReactivateConnector_redacted id)

/-! ### Runs -/

theorem next_redacted (r : RoutedRequest) :
    (r.redacted.next env db.redacted).redacted = (r.next env db).redacted ∧
      r.redacted.reply env db.redacted = r.reply env db := by
  have hserve : (r.redacted.serve env db.redacted).map redactRoute = (r.serve env db).map redactRoute :=
    serve_redacted r.request
  unfold RoutedRequest.next RoutedRequest.reply
  cases h : r.serve env db with
  | error e =>
    rw [h] at hserve
    cases h' : r.redacted.serve env db.redacted with
    | error e' => rw [h'] at hserve; cases hserve; exact ⟨Db.redacted_redacted, rfl⟩
    | ok out' => rw [h'] at hserve; cases hserve
  | ok out =>
    rw [h] at hserve
    cases h' : r.redacted.serve env db.redacted with
    | error e' => rw [h'] at hserve; cases hserve
    | ok out' =>
      rw [h'] at hserve
      obtain ⟨hreply, hdb⟩ := Prod.mk.inj (Except.ok.inj hserve)
      exact ⟨hdb, congrArg Except.ok hreply⟩

/-- What a run shows to those who see no credentials: each request, its reply and the database, without
them. -/
def RoutedStep.redacted (x : RoutedStep) : RoutedStep :=
  ⟨x.before.redacted, x.label.redacted, x.after.redacted⟩

variable {ok ok₁ ok₂ : List RoutedStep → Db → RoutedRequest → Prop} {db₁ db₂ s s₁ s₂ : Db}
  {tr tr₁ tr₂ : List RoutedStep}

/-- A run without credentials is a run of the requests without credentials. -/
theorem RoutedRun.redacted (h : RoutedRun env ok db tr s) :
    Run (fun db r => some (RoutedRequest.next env db r).redacted) (fun _ _ _ => True) db.redacted
      (tr.map RoutedStep.redacted) s.redacted := by
  refine Run.map Db.redacted (fun x => x.label.redacted) h ?_
  intro x hx
  obtain ⟨pre, post, htr⟩ := List.append_of_mem hx
  rw [← Option.some.inj (Run.split h htr).2.2]
  exact congrArg some (next_redacted x.label).1

/-- Two runs of requests that differ in the credentials that they supply, on databases that differ in stored
credentials, answer every request in the same way and log the same. -/
theorem credentials_noninterference (h₁ : RoutedRun env ok₁ db₁ tr₁ s₁) (h₂ : RoutedRun env ok₂ db₂ tr₂ s₂)
    (hstart : db₁.redacted = db₂.redacted)
    (hrequests : tr₁.map (·.label.redacted) = tr₂.map (·.label.redacted)) :
    tr₁.map (fun x => x.label.reply env x.before) = tr₂.map (fun x => x.label.reply env x.before) ∧
      s₁.auditLogs = s₂.auditLogs ∧ s₁.adminActionLogs = s₂.adminActionLogs := by
  -- without credentials the two runs take the same requests from the same database
  have hlabels :
      (tr₁.map RoutedStep.redacted).map Step.label = (tr₂.map RoutedStep.redacted).map Step.label := by
    rw [List.map_map, List.map_map]
    exact hrequests
  have hrun₂ := RoutedRun.redacted h₂
  rw [← hstart] at hrun₂
  obtain ⟨htr, hs⟩ := Run.deterministic (RoutedRun.redacted h₁) hrun₂ hlabels
  have hreplies : ∀ tr : List RoutedStep, tr.map (fun x => x.label.reply env x.before) =
      (tr.map RoutedStep.redacted).map fun x => x.label.reply env x.before := by
    intro tr
    rw [List.map_map]
    exact List.map_congr_left fun x _ => (next_redacted x.label).2.symm
  have haudit : s₁.redacted.auditLogs = s₂.redacted.auditLogs := congrArg Db.auditLogs hs
  have hadmin : s₁.redacted.adminActionLogs = s₂.redacted.adminActionLogs := congrArg Db.adminActionLogs hs
  exact ⟨by rw [hreplies tr₁, hreplies tr₂, htr], haudit, hadmin⟩

end

/-! ### Two sets of credentials -/

namespace TwoCredentials

open KeyRotation (property draw tenant)

def connector : Connector where
  id := .ofNat 4
  name := "Google"
  logoUrl := none
  logoSha256 := none
  isActive := true
  isDeleted := false
  deletedAt := none
  displayOrder := 0

/-- A property of a tenant without bindings. -/
def db : Db :=
  { Db.empty with
    tenants := Table.empty.insert ⟨property.tenantId, "acme"⟩
    properties := Table.empty.insert property
    connectors := Table.empty.insert connector }

def ctx : RequestContext := ⟨(Uuid.ofNat 5).str, some property.tenantId.str, .str "OWNER", false⟩

/-- The tenant binds the connector and rotates the key, and an admin rotates the secret and looks at the
report. -/
def requests (key secret key' secret' : String) : List RoutedRequest :=
  [⟨.activateConnectorEndpoint ctx property.id ⟨connector.id, key, secret, none, none, none⟩, none, draw⟩,
    ⟨.updateConnectorEndpoint ctx property.id (draw.id 0) { apiKey := some (some key') }, none, draw⟩,
    ⟨.adminUpdateConnector (.ofNat 6) (draw.id 0) { apiSecret := some (some secret') }, none, draw⟩,
    ⟨.listPropertyConnectors ⟨none, none, none, none⟩ 50 0, none, draw⟩]

theorem rotations_look_the_same : ∃ tr₁ s₁ tr₂ s₂,
    RoutedRun KeyRotation.env (fun _ _ _ => True) db tr₁ s₁ ∧ RoutedRun KeyRotation.env
      (fun _ _ _ => True) db tr₂ s₂ ∧
      tr₁.map Step.label = requests "pk_1" "sk_1" "pk_2" "sk_2" ∧
      tr₂.map Step.label = requests "pk_3" "sk_3" "pk_4" "sk_4" ∧
      tr₁.map (fun x => x.label.reply KeyRotation.env x.before) =
        tr₂.map (fun x => x.label.reply KeyRotation.env x.before) ∧
      s₁.auditLogs = s₂.auditLogs ∧ s₁.adminActionLogs = s₂.adminActionLogs := by
  obtain ⟨tr₁, s₁, h₁, hlabels₁⟩ :=
    Run.exists_of_total (f := fun db r => RoutedRequest.next KeyRotation.env db r) db
    (requests "pk_1" "sk_1" "pk_2" "sk_2")
  obtain ⟨tr₂, s₂, h₂, hlabels₂⟩ :=
    Run.exists_of_total (f := fun db r => RoutedRequest.next KeyRotation.env db r) db
    (requests "pk_3" "sk_3" "pk_4" "sk_4")
  have hrequests : tr₁.map (·.label.redacted) = tr₂.map (·.label.redacted) := by
    have hmap :
        ∀ tr : List RoutedStep, tr.map (·.label.redacted) = (tr.map Step.label).map RoutedRequest.redacted :=
      fun tr => by rw [List.map_map]; rfl
    rw [hmap, hmap, hlabels₁, hlabels₂]
    rfl
  exact ⟨tr₁, s₁, tr₂, s₂, h₁, h₂, hlabels₁, hlabels₂, credentials_noninterference h₁ h₂ rfl hrequests⟩

end TwoCredentials

end RatingLift
