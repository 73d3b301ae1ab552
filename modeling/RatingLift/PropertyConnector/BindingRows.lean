import RatingLift.PropertyConnector.Requests

/-!
# What the binding routes do to a row

A request that answers with a binding has written its row, switched it on or off, or left it alone, and no
other row changes (`BindingRowChange`).  An update that the route does not commit would have written what the
row holds already, but for its API key.
-/

namespace RatingLift

open Library Fallible PropertyConnectorService

/-- What an activation or an update supplies for a row. -/
structure Assignment where
  secret : Option String
  scopes : Option (Option (List String))
  config : Option (Option Dict)
  baseUrl : Option (Option String)

def ActivateConnector.assignment (payload : ActivateConnector) : Assignment :=
  ⟨some payload.apiSecret, some payload.scopes, some payload.config, some payload.baseUrl⟩

def UpdateConnector.assignment (payload : UpdateConnector) : Assignment :=
  ⟨payload.apiSecret.getD none, payload.scopes, payload.config, payload.baseUrl⟩

def BindingRequest.assignment : BindingRequest → Option Assignment
  | activateConnectorEndpoint _ _ payload | adminActivateConnector _ _ payload => some payload.assignment
  | updateConnectorEndpoint _ _ _ payload | adminUpdateConnector _ _ payload => some payload.assignment
  | _ => none

/-- The row `new` holds what `a` supplies, and otherwise what the row `old` held. -/
structure Assigned (encryptSecret : String → String) (a : Assignment) (old : Option PropertyConnector)
    (new : PropertyConnector) : Prop where
  secret : ∀ secret, a.secret = some secret → new.apiSecret = some (encryptSecret secret)
  sameSecret : a.secret = none → ∃ pc, old = some pc ∧ new.apiSecret = pc.apiSecret
  scopes : ∀ scopes, a.scopes = some scopes → new.scopes = scopes
  sameScopes : a.scopes = none → ∃ pc, old = some pc ∧ new.scopes = pc.scopes
  config : ∀ config, a.config = some config →
    new.config = (old.map fun pc => PropertyConnector.writtenConfig pc.config config).getD config
  sameConfig : a.config = none → ∃ pc, old = some pc ∧ new.config = pc.config
  baseUrl : ∀ baseUrl, a.baseUrl = some baseUrl → new.baseUrl = baseUrl
  sameBaseUrl : a.baseUrl = none → ∃ pc, old = some pc ∧ new.baseUrl = pc.baseUrl

section

variable (encryptSecret : String → String) (db : Db) (rows : Table PropertyConnector)

/-- What a request on the binding `id` with the assignment `a` makes of the rows. -/
inductive BindingRowChange (id : Uuid) (a : Option Assignment) : Prop where
  | same (pc : PropertyConnector) (hpc : db.propertyConnectors.find? id = some pc) (ha : a = none)
      (hrows : ∀ b, rows.find? b = db.propertyConnectors.find? b)
  | switched (pc : PropertyConnector) (isActive : Bool) (hpc : db.propertyConnectors.find? id = some pc)
      (ha : a = none)
      (hrows : ∀ b, rows.find? b = if b = id then some { pc with isActive := isActive } else
        db.propertyConnectors.find? b)
  | assigned (assignment : Assignment) (new : PropertyConnector) (ha : a = some assignment)
      (hnew : Assigned encryptSecret assignment (db.propertyConnectors.find? id) new)
      (hprop : ∀ pc, db.propertyConnectors.find? id = some pc → new.propertyId = pc.propertyId)
      (hcreated : db.propertyConnectors.find? id = none →
        ∃ prop, db.properties.find? new.propertyId = some prop)
      (hrows : ∀ b, rows.find? b = if b = id then some new else db.propertyConnectors.find? b)

end

section

variable {env : PlatformEnv} {db : Db} {ctx : RequestContext} {draw : Draw}

theorem update_find? {t : Table PropertyConnector} {id : Uuid} {pc new : PropertyConnector}
    (hpc : t.find? id = some pc) (hid : new.id = pc.id) (b : Uuid) :
    (t.update new).find? b = if b = id then some new else t.find? b := by
  have hkey : Keyed.key new = id := hid.trans (Table.find?_some hpc).2
  subst hkey
  exact Table.find?_update_found hpc b

theorem BindingRowChange.of_stored {encryptSecret : String → String} {rows : Table PropertyConnector}
    {pc new : PropertyConnector} {id : Uuid} {a : Assignment} (hpc : db.propertyConnectors.find? id = some pc)
    (hnew : Assigned encryptSecret a (some pc) new) (hprop : new.propertyId = pc.propertyId)
    (hrows : ∀ b, rows.find? b = if b = id then some new else db.propertyConnectors.find? b) :
    BindingRowChange encryptSecret db rows id (some a) := by
  refine .assigned a new rfl (hpc.symm ▸ hnew) ?_ ?_ hrows
  · intro pc' hfound
    obtain rfl := Option.some.inj (hpc.symm.trans hfound)
    exact hprop
  · intro hnone
    exact absurd (hpc.symm.trans hnone) nofun

theorem getOwnedProperty_find {propertyId : RawId} {prop : Property}
    (h : getOwnedProperty env db ctx propertyId = .ok prop) : db.properties.find? prop.id = some prop := by
  unfold getOwnedProperty at h
  obtain ⟨pid, _, h⟩ := bind_eq_ok.mp h
  obtain ⟨tenant, _, h⟩ := bind_eq_ok.mp h
  split at h
  · cases h
  · rename_i found hfound
    cases h
    exact Table.mem_iff_find?.mp (Table.first_some hfound).1

theorem refreshed_assigned {payload : ActivateConnector} {encryptSecret : String → String}
    {existing : PropertyConnector} :
    Assigned encryptSecret payload.assignment (some existing)
      (existing.flush (refreshed payload (encryptSecret payload.apiSecret) existing)) where
  secret := by rintro _ ⟨⟩; rfl
  sameSecret := nofun
  scopes := by rintro _ ⟨⟩; rfl
  sameScopes := nofun
  config := by rintro _ ⟨⟩; rfl
  sameConfig := nofun
  baseUrl := by rintro _ ⟨⟩; rfl
  sameBaseUrl := nofun

theorem newBinding_assigned {payload : ActivateConnector} {encryptSecret : String → String}
    {propertyId connectorId : Uuid} :
    Assigned encryptSecret payload.assignment none
      (newBinding draw payload (encryptSecret payload.apiSecret) propertyId connectorId) where
  secret := by rintro _ ⟨⟩; rfl
  sameSecret := nofun
  scopes := by rintro _ ⟨⟩; rfl
  sameScopes := nofun
  config := by rintro _ ⟨⟩; rfl
  sameConfig := nofun
  baseUrl := by rintro _ ⟨⟩; rfl
  sameBaseUrl := nofun

theorem activateConnector_rows {propertyId : RawId} {payload : ActivateConnector} {row : AnnotatedConnector}
    {before : Option Dict} {after : Dict} {flushed : Db} (hfresh : db.propertyConnectors.Fresh (draw.id 0))
    (h : activateConnector env db ctx draw propertyId payload = .ok ((row, before, after), flushed)) :
    flushed.properties = db.properties ∧
    BindingRowChange (env.encryptSecret draw.iv) db flushed.propertyConnectors row.pc.id
      (some payload.assignment) := by
  unfold activateConnector at h
  obtain ⟨prop, hprop, h⟩ := bind_eq_ok.mp h
  obtain ⟨connector, _, h⟩ := bind_eq_ok.mp h
  dsimp only at h
  split at h
  · -- a binding that was switched off is refreshed
    rename_i existing hexisting
    have hpc : db.propertyConnectors.find? existing.id = some existing :=
      Table.mem_iff_find?.mp (Table.first_some hexisting).1
    split at h
    · cases h
    cases h
    exact ⟨rfl, .of_stored hpc refreshed_assigned rfl (update_find? hpc rfl)⟩
  · -- a first activation inserts a row under the drawn id
    obtain ⟨db', hinsert, h⟩ := bind_eq_ok.mp h
    have hnone : db.propertyConnectors.find? (draw.id 0) = none := Table.fresh_iff_find?.mp hfresh
    unfold insertBinding at hinsert
    split at hinsert
    · cases hinsert
    cases hinsert
    cases h
    refine ⟨rfl, .assigned payload.assignment (newBinding draw payload
      (env.encryptSecret draw.iv payload.apiSecret) prop.id connector.id) rfl ?_ ?_ ?_
        (Table.find?_insert_fresh hfresh)⟩
    · show Assigned _ _ (db.propertyConnectors.find? (draw.id 0)) _
      rw [hnone]
      exact newBinding_assigned
    · intro pc hfound
      exact absurd (hnone.symm.trans hfound) nofun
    · exact fun _ => ⟨prop, getOwnedProperty_find hprop⟩

/-- What the table of bindings is once the route has decided on the commit. -/
def committedRows (db : Db) (r : Change × Db) : Table PropertyConnector :=
  if r.1.changed then r.2.propertyConnectors else db.propertyConnectors

/-- What a change makes of the bindings once the route has decided on the commit. -/
def ChangeRows (encryptSecret : String → String) (db : Db) (a : Option Assignment) (r : Change × Db) : Prop :=
  r.2.properties = db.properties ∧ BindingRowChange encryptSecret db (committedRows db r) r.1.row.pc.id a

variable {propertyId : RawId} {id : Uuid} {r : Change × Db} {encryptSecret : String → String}

/-- A request that finds the binding as it wants it. -/
theorem ChangeRows.of_same {pc : PropertyConnector} {connector : Option Connector} {before after : Dict}
    (hpc : db.propertyConnectors.find? id = some pc) :
    ChangeRows encryptSecret db none (⟨annotate pc connector, before, after, false⟩, db) := by
  obtain ⟨_, rfl⟩ := Table.find?_some hpc
  exact ⟨rfl, .same pc hpc rfl fun _ => rfl⟩

/-- A request that switches a binding on or off. -/
theorem ChangeRows.of_switched {pc : PropertyConnector} {connector : Option Connector} {before after : Dict}
    {isActive : Bool} (hpc : db.propertyConnectors.find? id = some pc) :
    ChangeRows encryptSecret db none
      (⟨annotate { pc with isActive := isActive } connector, before, after, true⟩,
      { db with propertyConnectors := db.propertyConnectors.update { pc with isActive := isActive } }) := by
  obtain ⟨_, rfl⟩ := Table.find?_some hpc
  exact ⟨rfl, .switched pc isActive hpc rfl (update_find? hpc rfl)⟩

theorem deactivateConnector_rows (h : deactivateConnector env db ctx propertyId (.uuid id) = .ok r) :
    ChangeRows encryptSecret db none r := by
  unfold deactivateConnector at h
  obtain ⟨⟨pc, connector⟩, hfound, h⟩ := bind_eq_ok.mp h
  have hpc := getOwnedPropertyConnector_row hfound
  dsimp only at h
  split at h
  · cases h
    exact .of_same hpc
  · cases h
    exact .of_switched hpc

theorem reactivateConnector_rows (h : reactivateConnector env db ctx propertyId (.uuid id) = .ok r) :
    ChangeRows encryptSecret db none r := by
  unfold reactivateConnector at h
  obtain ⟨⟨pc, connector⟩, hfound, h⟩ := bind_eq_ok.mp h
  have hpc := getOwnedPropertyConnector_row hfound
  dsimp only at h
  split at h
  · cases h
    exact .of_same hpc
  · split at h
    · cases h
    · split at h
      · cases h
      · cases h
        exact .of_switched hpc

/-- An update of a row, whether or not it is committed, leaves in it what the payload supplies. -/
theorem updated_assigned {payload : UpdateConnector} {pc new : PropertyConnector}
    (hnew : new.apiSecret = (applyUpdate encryptSecret payload pc).apiSecret ∧
      new.scopes = payload.scopes.getD pc.scopes ∧
      new.config = PropertyConnector.writtenConfig pc.config (payload.config.getD pc.config) ∧
      new.baseUrl = payload.baseUrl.getD pc.baseUrl) :
    Assigned encryptSecret payload.assignment (some pc) new := by
  obtain ⟨hsecret, hscopes, hconfig, hurl⟩ := hnew
  constructor
  · intro secret hs
    rw [hsecret]
    unfold applyUpdate
    dsimp only
    rw [show payload.apiSecret.getD none = some secret from hs]
  · intro hs
    refine ⟨pc, rfl, ?_⟩
    rw [hsecret]
    unfold applyUpdate
    dsimp only
    rw [show payload.apiSecret.getD none = none from hs]
  · intro scopes hs
    rw [hscopes, show payload.scopes = some scopes from hs]
    rfl
  · intro hs
    rw [hscopes, show payload.scopes = none from hs]
    exact ⟨pc, rfl, rfl⟩
  · intro config hs
    rw [hconfig, show payload.config = some config from hs]
    rfl
  · intro hs
    refine ⟨pc, rfl, ?_⟩
    rw [hconfig, show payload.config = none from hs]
    exact PropertyConnector.writtenConfig_self
  · intro baseUrl hs
    rw [hurl, show payload.baseUrl = some baseUrl from hs]
    rfl
  · intro hs
    rw [hurl, show payload.baseUrl = none from hs]
    exact ⟨pc, rfl, rfl⟩

/-- What an update leaves in the row `pc` once the route has decided on the commit. -/
theorem uncommitted_assigned {payload : UpdateConnector} {pc : PropertyConnector}
    (h : ¬ ShowsChange payload pc) :
    Assigned encryptSecret payload.assignment (some pc) pc := by
  unfold ShowsChange at h
  push Not at h
  obtain ⟨hsecret, hscopes, hconfig, hurl⟩ := h
  refine updated_assigned ⟨?_, ?_, ?_, ?_⟩
  · unfold applyUpdate
    dsimp only
    rcases hs : payload.apiSecret with _ | _ | secret
    · rfl
    · rfl
    · exact absurd hs (hsecret secret)
  · cases hx : payload.scopes with
    | none => rfl
    | some xs => exact (hscopes xs hx).symm
  · cases hc : payload.config with
    | none => exact PropertyConnector.writtenConfig_self.symm
    | some c =>
      unfold PropertyConnector.writtenConfig
      rw [if_pos (by simpa using hconfig c hc)]
  · cases hu : payload.baseUrl with
    | none => rfl
    | some url => exact (hurl url hu).symm

theorem updateConnector_rows {payload : UpdateConnector}
    (h : updateConnector env db ctx draw propertyId (.uuid id) payload = .ok r) :
    ChangeRows (env.encryptSecret draw.iv) db (some payload.assignment) r := by
  unfold updateConnector at h
  obtain ⟨⟨pc, connector⟩, hfound, h⟩ := bind_eq_ok.mp h
  have hpc : db.propertyConnectors.find? pc.id = some pc := by
    have hmem := (Table.find?_some (getOwnedPropertyConnector_row hfound)).1
    exact Table.mem_iff_find?.mp hmem
  dsimp only at h
  split at h
  · cases h
  cases h
  -- the route drops the flush when the snapshots show no change
  by_cases hchanged : updateChanged env draw payload pc = true
  · have hnew : Assigned (env.encryptSecret draw.iv) payload.assignment (some pc)
        (pc.flush (applyUpdate (env.encryptSecret draw.iv) payload pc)) :=
      updated_assigned ⟨rfl, rfl, rfl, rfl⟩
    have hid : (pc.flush (applyUpdate (env.encryptSecret draw.iv) payload pc)).id = pc.id := rfl
    refine ⟨rfl, .of_stored hpc hnew rfl ?_⟩
    intro b
    refine (congrArg (fun t : Table PropertyConnector => t.find? b) (if_pos hchanged)).trans ?_
    exact update_find? hpc hid b
  · have hnew : Assigned (env.encryptSecret draw.iv) payload.assignment (some pc) pc :=
      uncommitted_assigned fun hshows => hchanged (updateChanged_iff.mpr hshows)
    refine ⟨rfl, .of_stored hpc hnew rfl ?_⟩
    intro b
    refine (congrArg (fun t : Table PropertyConnector => t.find? b) (if_neg hchanged)).trans ?_
    by_cases hb : b = pc.id
    · rw [hb, hpc]
      exact (if_pos rfl).symm
    · exact (if_neg hb).symm

/-! ### The routes -/

/-- What a route that replies with a binding makes of the rows: the row of the binding it replies with. -/
def RouteRows (encryptSecret : String → String) (db : Db) (a : Option Assignment)
    (r : ConnectorResponse × Db) : Prop :=
  r.2.properties = db.properties ∧ BindingRowChange encryptSecret db r.2.propertyConnectors r.1.id a

variable {ipAddress : Option String} {action : String} {a : Option Assignment} {adminId tenantId : Uuid}

theorem endTenantRoute_rows (h : ChangeRows encryptSecret db a r) :
    RouteRows encryptSecret db a (endTenantRoute db draw ipAddress ctx action r) := by
  obtain ⟨hproperties, hrows⟩ := h
  unfold committedRows at hrows
  unfold RouteRows endTenantRoute
  by_cases hchanged : r.1.changed = true
  · rw [if_pos hchanged] at hrows ⊢
    exact ⟨hproperties, hrows⟩
  · rw [if_neg hchanged] at hrows ⊢
    exact ⟨rfl, hrows⟩

theorem endAdminRoute_rows (h : ChangeRows encryptSecret db a r) :
    RouteRows encryptSecret db a (endAdminRoute db draw ipAddress adminId action tenantId r) := by
  obtain ⟨hproperties, hrows⟩ := h
  unfold committedRows at hrows
  unfold RouteRows endAdminRoute
  by_cases hchanged : r.1.changed = true
  · rw [if_pos hchanged] at hrows ⊢
    exact ⟨hproperties, hrows⟩
  · rw [if_neg hchanged] at hrows ⊢
    exact ⟨rfl, hrows⟩

end

section

variable {env : PlatformEnv} {db : Db} {draw : Draw} {ipAddress : Option String} {r : ConnectorResponse × Db}
  {encryptSecret : String → String}

section

variable {ctx : RequestContext} {propertyId id : Uuid}

theorem activateConnectorEndpoint_rows {payload : ActivateConnector}
    (hfresh : db.propertyConnectors.Fresh (draw.id 0))
    (h : activateConnectorEndpoint env db draw ipAddress ctx propertyId payload = .ok r) :
    RouteRows (env.encryptSecret draw.iv) db (some payload.assignment) r := by
  obtain ⟨⟨⟨row, before, after⟩, flushed⟩, hservice, h⟩ := bind_eq_ok.mp h
  cases h
  have hrows := activateConnector_rows hfresh hservice
  exact hrows

theorem updateConnectorEndpoint_rows {payload : UpdateConnector}
    (h : updateConnectorEndpoint env db draw ipAddress ctx propertyId id payload = .ok r) :
    RouteRows (env.encryptSecret draw.iv) db (some payload.assignment) r := by
  obtain ⟨change, hservice, h⟩ := bind_eq_ok.mp h
  cases h
  exact endTenantRoute_rows (updateConnector_rows hservice)

theorem deactivateConnectorEndpoint_rows
    (h : deactivateConnectorEndpoint env db draw ipAddress ctx propertyId id = .ok r) :
    RouteRows encryptSecret db none r := by
  obtain ⟨change, hservice, h⟩ := bind_eq_ok.mp h
  cases h
  exact endTenantRoute_rows (deactivateConnector_rows hservice)

theorem reactivateConnectorEndpoint_rows
    (h : reactivateConnectorEndpoint env db draw ipAddress ctx propertyId id = .ok r) :
    RouteRows encryptSecret db none r := by
  obtain ⟨change, hservice, h⟩ := bind_eq_ok.mp h
  cases h
  exact endTenantRoute_rows (reactivateConnector_rows hservice)

end

section

variable {adminId propertyId id : Uuid}

theorem adminActivateConnector_rows {payload : ActivateConnector}
    (hfresh : db.propertyConnectors.Fresh (draw.id 0))
    (h : adminActivateConnector env db draw ipAddress adminId propertyId payload = .ok r) :
    RouteRows (env.encryptSecret draw.iv) db (some payload.assignment) r := by
  obtain ⟨⟨ctx, pid, tenantId⟩, _, h⟩ := bind_eq_ok.mp h
  obtain ⟨⟨⟨row, before, after⟩, flushed⟩, hservice, h⟩ := bind_eq_ok.mp h
  cases h
  have hrows := activateConnector_rows hfresh hservice
  exact hrows

theorem adminUpdateConnector_rows {payload : UpdateConnector}
    (h : adminUpdateConnector env db draw ipAddress adminId id payload = .ok r) :
    RouteRows (env.encryptSecret draw.iv) db (some payload.assignment) r := by
  obtain ⟨⟨ctx, pid, tenantId⟩, _, h⟩ := bind_eq_ok.mp h
  obtain ⟨change, hservice, h⟩ := bind_eq_ok.mp h
  cases h
  exact endAdminRoute_rows (updateConnector_rows hservice)

theorem adminDeactivateConnector_rows
    (h : adminDeactivateConnector env db draw ipAddress adminId id = .ok r) :
    RouteRows encryptSecret db none r := by
  obtain ⟨⟨ctx, pid, tenantId⟩, _, h⟩ := bind_eq_ok.mp h
  obtain ⟨change, hservice, h⟩ := bind_eq_ok.mp h
  cases h
  exact endAdminRoute_rows (deactivateConnector_rows hservice)

theorem adminReactivateConnector_rows
    (h : adminReactivateConnector env db draw ipAddress adminId id = .ok r) :
    RouteRows encryptSecret db none r := by
  obtain ⟨⟨ctx, pid, tenantId⟩, _, h⟩ := bind_eq_ok.mp h
  obtain ⟨change, hservice, h⟩ := bind_eq_ok.mp h
  cases h
  exact endAdminRoute_rows (reactivateConnector_rows hservice)

end

end

/-! ### A request -/

/-- The binding that a reply carries. -/
def BindingReply.bindingId (reply : BindingReply) : Option Uuid :=
  match reply.body with
  | .binding response => some response.id
  | _ => none

/-- What an answered request makes of the bindings: of the one in its reply, or of none. -/
inductive ServedRows (encryptSecret : String → String) (db db' : Db) (a : Option Assignment) :
    Option Uuid → Prop where
  | nothing (hrows : db'.propertyConnectors = db.propertyConnectors) : ServedRows encryptSecret db db' a none
  | binding (id : Uuid) (hrows : BindingRowChange encryptSecret db db'.propertyConnectors id a) :
      ServedRows encryptSecret db db' a (some id)

theorem serve_rows {env : PlatformEnv} {db db' : Db} {r : RoutedRequest} {reply : BindingReply}
    (hfresh : db.propertyConnectors.Fresh (r.draw.id 0)) (h : r.serve env db = .ok (reply, db')) :
    db'.properties = db.properties ∧
      ServedRows (env.encryptSecret r.draw.iv) db db' r.request.assignment reply.bindingId := by
  -- the routes that reply with a binding
  have hbinding : ∀ {x : Except Exn (ConnectorResponse × Db)} {status : Nat} {a : Option Assignment},
      (∀ res, x = .ok res → RouteRows (env.encryptSecret r.draw.iv) db a res) →
        x.map (bindingReply status) = .ok (reply, db') →
          db'.properties = db.properties ∧
          ServedRows (env.encryptSecret r.draw.iv) db db' a reply.bindingId := by
    intro x status a hroute hx
    cases x with
    | error e => cases hx
    | ok res =>
      cases hx
      obtain ⟨hproperties, hrows⟩ := hroute res rfl
      exact ⟨hproperties, .binding _ hrows⟩
  obtain ⟨request, ipAddress, draw⟩ := r
  cases request with
  | activateConnectorEndpoint ctx propertyId payload =>
    exact hbinding (fun _ => activateConnectorEndpoint_rows hfresh) h
  | listConnectorsEndpoint ctx propertyId =>
    unfold RoutedRequest.serve BindingRequest.serve at h
    dsimp only at h
    cases hlist : RatingLift.listConnectorsEndpoint env db ctx propertyId with
    | error e => rw [hlist] at h; cases h
    | ok list =>
      rw [hlist] at h
      cases h
      exact ⟨rfl, .nothing rfl⟩
  | updateConnectorEndpoint ctx propertyId id payload =>
    exact hbinding (fun _ => updateConnectorEndpoint_rows) h
  | deactivateConnectorEndpoint ctx propertyId id =>
    exact hbinding (fun _ => deactivateConnectorEndpoint_rows) h
  | reactivateConnectorEndpoint ctx propertyId id =>
    exact hbinding (fun _ => reactivateConnectorEndpoint_rows) h
  | listPropertyConnectors filter limit offset =>
    cases h
    exact ⟨rfl, .nothing rfl⟩
  | adminActivateConnector adminId propertyId payload =>
    exact hbinding (fun _ => adminActivateConnector_rows hfresh) h
  | adminUpdateConnector adminId id payload => exact hbinding (fun _ => adminUpdateConnector_rows) h
  | adminDeactivateConnector adminId id => exact hbinding (fun _ => adminDeactivateConnector_rows) h
  | adminReactivateConnector adminId id => exact hbinding (fun _ => adminReactivateConnector_rows) h

end RatingLift
