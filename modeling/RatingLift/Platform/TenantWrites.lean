import RatingLift.Audit.TrailRuns
import RatingLift.Platform.Writes
import RatingLift.PropertyConnector.BindingRows

/-!
# The writes of the tenant services

The property routes and the binding routes, of tenants and of admins: what a request commits is a sequence of
the writes of the platform, for the tenants that its context reaches (`AuditedRequest.next_writes`).
-/

namespace RatingLift

open Library Fallible PropertyService PropertyConnectorService

/-- The tenants that a context reaches, as the database reads its text and as Python does. -/
def RequestContext.reach (env : PlatformEnv) (ctx : RequestContext) : Set Uuid :=
  {t | filterByTenant env.pgUuid ctx.tenantId = .ok t ∨ tenantUuid ctx = .ok t}

/-- The tenants that a request reaches; an admin route looks its tenant up with the property or the
binding. -/
def BindingRequest.reach (env : PlatformEnv) (db : Db) : BindingRequest → Set Uuid
  | activateConnectorEndpoint ctx _ _ | listConnectorsEndpoint ctx _ | updateConnectorEndpoint ctx _ _ _
  | deactivateConnectorEndpoint ctx _ _ | reactivateConnectorEndpoint ctx _ _ => ctx.reach env
  | listPropertyConnectors _ _ _ => ∅
  | adminActivateConnector adminId propertyId _ =>
    {t | ∃ found, adminContextForProperty db adminId (.uuid propertyId) = .ok found ∧ t ∈ found.1.reach env}
  | adminUpdateConnector adminId id _ | adminDeactivateConnector adminId id
  | adminReactivateConnector adminId id =>
    {t | ∃ found, adminContextForBinding db adminId (.uuid id) = .ok found ∧ t ∈ found.1.reach env}

/-- The admin in whose name a request writes. -/
def BindingRequest.admins : BindingRequest → Set Uuid
  | adminActivateConnector adminId _ _ | adminUpdateConnector adminId _ _ | adminDeactivateConnector adminId _
  | adminReactivateConnector adminId _ => {adminId}
  | _ => ∅

/-- The tenants that a request reaches. -/
def AuditedRequest.reach (env : PlatformEnv) (db : Db) : AuditedRequest → Set Uuid
  | property ctx _ => ctx.reach env
  | binding request => request.reach env db

def AuditedRequest.admins : AuditedRequest → Set Uuid
  | property _ _ => ∅
  | binding request => request.admins

/-- What a request for some tenants, in the name of some admins, writes to. -/
def Domain.In (tenants admins : Set Uuid) (now : Instant) : Domain → Prop
  | tenant id => id ∈ tenants
  | admin id timestamp => id ∈ admins ∧ timestamp = now
  | auditLog _ timestamp => timestamp = now
  | _ => False

def requestDomains (tenants admins : Set Uuid) (now : Instant) : Set Domain := {d | d.In tenants admins now}

abbrev TenantWrites (tenants admins : Set Uuid) (now : Instant) : Db → Db → Prop :=
  DbWrites (requestDomains tenants admins now)

section

variable {env : PlatformEnv} {tenants admins : Set Uuid} {db db' flushed : Db} {ctx : RequestContext}
  {draw : Draw}
  {ipAddress : Option String}

theorem TenantWrites.owned {t : Uuid} (ht : t ∈ tenants) (h : DbWrite db (.tenant t) db') :
    TenantWrites tenants admins draw.now db db' :=
  DbWrites.single h ht

theorem TenantWrites.mono {tenants' : Set Uuid} (hsub : ∀ t ∈ tenants, t ∈ tenants')
    (h : TenantWrites tenants admins draw.now db db') :
    TenantWrites tenants' admins draw.now db db' := by
  refine DbWrites.mono ?_ h
  intro d hd
  cases d with
  | tenant id => exact hsub id hd
  | _ => exact hd

/-! ### Properties -/

/-- An INSERT that goes through adds a property that the constraints admit. -/
theorem insertProperty_writes {prop : Property} (hfresh : db.properties.Fresh prop.id)
    (ht : prop.tenantId ∈ tenants) (h : insertProperty db prop = .ok flushed) :
    TenantWrites tenants admins draw.now db flushed := by
  unfold insertProperty at h
  split at h
  · cases h
  rename_i hplace
  split at h
  · cases h
  rename_i htenant
  cases h
  obtain ⟨tenant, hfound⟩ : ∃ tenant, db.tenants.find? prop.tenantId = some tenant := by
    cases hfind : db.tenants.find? prop.tenantId with
    | none => simp [hfind] at htenant
    | some tenant => exact ⟨tenant, rfl⟩
  exact .owned ht (.newProperty prop hfresh ⟨tenant, Table.find?_some hfound⟩ (by simpa using hplace))

theorem createProperty_writes {payload : PropertyCreate} {prop : Property}
    (hfresh : db.properties.Fresh (draw.id 0))
    (h : createProperty db ctx draw payload = .ok (prop, flushed)) :
    TenantWrites (ctx.reach env) admins draw.now db flushed := by
  obtain ⟨tenant, htenant, h⟩ := bind_eq_ok.mp h
  dsimp only at h
  split at h
  · cases h
  · rename_i db' hinsert
    cases h
    exact insertProperty_writes hfresh (Or.inr htenant) hinsert

theorem touch_follows {loaded prop : Property} {now : Instant} (h : loaded.Follows prop) :
    loaded.Follows (loaded.touch now prop) := by
  unfold Property.touch
  split
  · exact .refl loaded
  · exact ⟨h.tenantId, h.createdAt⟩

theorem getPropertyById_reach {propertyId : RawId} {prop : Property}
    (h : getPropertyById env db ctx propertyId = .ok prop) : prop.tenantId ∈ ctx.reach env := by
  obtain ⟨pid, _, h⟩ := bind_eq_ok.mp h
  obtain ⟨tenant, htenant, h⟩ := bind_eq_ok.mp h
  split at h
  · cases h
  · rename_i found hfound
    cases h
    rw [← (findOwned_some hfound).2.1] at htenant
    exact Or.inl htenant

theorem updateProperty_writes {propertyId : RawId} {payload : PropertyUpdate} {r : Property × Dict × Dict}
    (h : updateProperty env db ctx draw propertyId payload = .ok (r, flushed)) :
    TenantWrites (ctx.reach env) admins draw.now db flushed := by
  obtain ⟨loaded, hloaded, h⟩ := bind_eq_ok.mp h
  dsimp only at h
  split at h
  · cases h
  split at h
  · cases h
  · rename_i hplace
    cases h
    have hid : (loaded.touch draw.now (loaded.assign payload)).id = loaded.id := Property.touch_id rfl
    have hold : db.properties.find? (loaded.touch draw.now (loaded.assign payload)).id = some loaded := by
      rw [hid]
      exact getPropertyById_stored hloaded
    exact .owned (getPropertyById_reach hloaded)
      (.property loaded _ hold (touch_follows ⟨rfl, rfl⟩) (Or.inr (by simpa using hplace)))

/-- Switching a property on or off leaves its place id. -/
theorem withActive_writes {prop : Property} {now : Instant} {active : Bool}
    (hold : db.properties.find? prop.id = some prop) (ht : prop.tenantId ∈ tenants) :
    TenantWrites tenants admins draw.now db
      { db with properties := db.properties.update (prop.withActive now active) } :=
  .owned ht (.property prop _ hold ⟨rfl, rfl⟩ (Or.inl rfl))

theorem setActive_writes {active : Bool} {propertyId : RawId} {r : Property × Dict × Dict × Bool}
    (h : setActive env db ctx active draw propertyId = .ok (r, flushed)) :
    TenantWrites (ctx.reach env) admins draw.now db flushed := by
  obtain ⟨loaded, hloaded, h⟩ := bind_eq_ok.mp h
  dsimp only at h
  split at h
  · cases h
    exact .refl
  · cases h
    exact withActive_writes (getPropertyById_stored hloaded) (getPropertyById_reach hloaded)

theorem bulkCreateItem_writes {tenant : Uuid} {index : Nat} {payload : PropertyCreate} (ht : tenant ∈ tenants)
    (hfresh : db.properties.Fresh (draw.id index)) :
    TenantWrites tenants admins draw.now db (bulkCreateItem tenant draw db index payload).2 := by
  unfold bulkCreateItem
  dsimp only
  split
  · rename_i db' hinsert
    exact insertProperty_writes hfresh ht hinsert
  · split <;> exact .refl

theorem bulkCreateFrom_writes {tenant : Uuid} (ht : tenant ∈ tenants) (payloads : List PropertyCreate) :
    ∀ {index : Nat} {db : Db}, db.properties.NewKeys draw.id index (index + payloads.length) →
      TenantWrites tenants admins draw.now db (bulkCreateFrom tenant draw db index payloads).2 := by
  induction payloads with
  | nil => intro index db _; exact .refl
  | cons payload payloads ih =>
    intro index db hkeys
    rw [List.length_cons] at hkeys
    have hfirst : TenantWrites tenants admins draw.now db (bulkCreateItem tenant draw db index payload).2 :=
      bulkCreateItem_writes ht (hkeys.head (by omega))
    have hrest := bulkCreateItem_newKeys tenant payload hkeys
    refine hfirst.trans (ih ?_)
    rwa [show index + 1 + payloads.length = index + (payloads.length + 1) by omega]

theorem bulkDeactivateItem_writes {rawId : RawId} {result : BulkDeactivateResult}
    (h : bulkDeactivateItem env db ctx draw rawId = .ok (result, flushed)) :
    TenantWrites (ctx.reach env) admins draw.now db flushed := by
  unfold bulkDeactivateItem at h
  split at h
  · cases h
    exact .refl
  obtain ⟨tenant, htenant, h⟩ := bind_eq_ok.mp h
  split at h
  · cases h
    exact .refl
  rename_i prop hprop
  split at h
  · cases h
    exact .refl
  · cases h
    obtain ⟨hmem, hpt, _⟩ := findOwned_some hprop
    rw [← hpt] at htenant
    exact withActive_writes (Table.mem_iff_find?.mp hmem) (Or.inl htenant)

theorem bulkDeactivateProperties_writes (ids : List RawId) :
    ∀ {db flushed : Db} {results : List BulkDeactivateResult},
    bulkDeactivateProperties env ctx draw db ids = .ok (results, flushed) →
    TenantWrites (ctx.reach env) admins draw.now db flushed := by
  induction ids with
  | nil =>
    intro db flushed results h
    cases h
    exact .refl
  | cons id ids ih =>
    intro db flushed results h
    obtain ⟨⟨result, db₁⟩, hitem, h⟩ := bind_eq_ok.mp h
    obtain ⟨⟨rest, db₂⟩, hrest, h⟩ := bind_eq_ok.mp h
    cases h
    exact (bulkDeactivateItem_writes hitem).trans (ih hrest)

/-! ### The property routes -/

theorem logPropertyChange_writes {n : Nat} {action : String} {id : Uuid} {before : Json} {after : Dict} :
    TenantWrites tenants admins draw.now db
      (logPropertyChange draw ipAddress ctx n db action id before after) :=
  .single (.auditLog _) rfl

theorem endPropertyRoute_writes {action : String} {r : (Property × Dict × Dict × Bool) × Db}
    (h : TenantWrites tenants admins draw.now db r.2) :
    TenantWrites tenants admins draw.now db (endPropertyRoute db draw ipAddress ctx action r).2 := by
  show TenantWrites tenants admins draw.now db (if r.1.2.2.2 then _ else db)
  split
  · exact h.trans logPropertyChange_writes
  · exact .refl

/-- A loop that only logs. -/
theorem foldl_writes {ρ γ : Type} (turn : γ × Db → ρ → γ × Db)
    (hturn : ∀ acc r, TenantWrites tenants admins draw.now acc.2 (turn acc r).2) (raw : List ρ) :
    ∀ acc : γ × Db, TenantWrites tenants admins draw.now acc.2 (raw.foldl turn acc).2 := by
  induction raw with
  | nil => intro acc; exact .refl
  | cons r raw ih => intro acc; exact (hturn acc r).trans (ih (turn acc r))

theorem bulkCreatePropertiesEndpoint_writes {items : List PropertyCreate}
    {r : PropertyBulkCreateResponse × Db} (hfresh : db.properties.NewKeys draw.id 0 items.length)
    (h : bulkCreatePropertiesEndpoint db draw ipAddress ctx items = .ok r) :
    TenantWrites (ctx.reach env) admins draw.now db r.2 := by
  obtain ⟨⟨raw, flushed⟩, hservice, h⟩ := bind_eq_ok.mp h
  obtain ⟨tenant, htenant, hservice⟩ := bind_eq_ok.mp hservice
  have hloop : bulkCreateFrom tenant draw db 0 items = (raw, flushed) := Except.ok.inj hservice
  cases h
  rw [← Nat.zero_add items.length] at hfresh
  have hcreated : TenantWrites (ctx.reach env) admins draw.now db (bulkCreateFrom tenant draw db 0 items).2 :=
    bulkCreateFrom_writes (Or.inr htenant) items hfresh
  rw [hloop] at hcreated
  refine hcreated.trans (foldl_writes (reportCreated draw ipAddress ctx) ?_ raw (⟨0, 0, []⟩, flushed))
  intro acc result
  cases result with
  | failed index error status => exact .refl
  | created index prop after => exact logPropertyChange_writes

theorem bulkDeactivatePropertiesEndpoint_writes {ids : List Uuid} {r : PropertyBulkDeactivateResponse × Db}
    (h : bulkDeactivatePropertiesEndpoint env db draw ipAddress ctx ids = .ok r) :
    TenantWrites (ctx.reach env) admins draw.now db r.2 := by
  obtain ⟨⟨raw, flushed⟩, hservice, h⟩ := bind_eq_ok.mp h
  cases h
  split
  · have hdeactivated : TenantWrites (ctx.reach env) admins draw.now db flushed :=
      bulkDeactivateProperties_writes _ hservice
    refine hdeactivated.trans
      (foldl_writes (reportDeactivated draw ipAddress ctx) ?_ raw (⟨0, 0, 0, []⟩, flushed))
    intro acc result
    cases result with
    | failed id error status => exact .refl
    | done id changed prop before after =>
      cases changed with
      | false => exact .refl
      | true => exact logPropertyChange_writes
  · exact .refl

theorem PropertyRequest.serve_writes {request : PropertyRequest} {reply : Nat × PropertyBody}
    (hnew : db.properties.NewKeys draw.id 0 (AuditedRequest.property ctx request).drawn)
    (h : request.serve env db draw ipAddress ctx = .ok (reply, flushed)) :
    TenantWrites (ctx.reach env) admins draw.now db flushed := by
  have hroute : ∀ {α : Type} {x : Except Exn (α × Db)} {f : α × Db → (Nat × PropertyBody) × Db},
      x.map f = .ok (reply, flushed) → (∀ r, (f r).2 = r.2) →
      (∀ r, x = .ok r → TenantWrites (ctx.reach env) admins draw.now db r.2) →
        TenantWrites (ctx.reach env) admins draw.now db flushed := by
    intro α x f hmap hf hx
    cases x with
    | error e => cases hmap
    | ok r =>
      have hr : f r = (reply, flushed) := Except.ok.inj hmap
      have hdb : flushed = r.2 := (congrArg Prod.snd hr).symm.trans (hf r)
      rw [hdb]
      exact hx r rfl
  unfold PropertyRequest.serve at h
  cases request with
  | createPropertyEndpoint payload =>
    refine hroute h (fun _ => rfl) fun r hr => ?_
    obtain ⟨⟨prop, created⟩, hservice, hr⟩ := bind_eq_ok.mp hr
    cases hr
    have hcreated : TenantWrites (ctx.reach env) admins draw.now db created :=
      createProperty_writes (hnew.head Nat.one_pos) hservice
    exact hcreated.trans logPropertyChange_writes
  | updatePropertyEndpoint propertyId payload =>
    refine hroute h (fun _ => rfl) fun r hr => ?_
    obtain ⟨⟨⟨prop, before, after⟩, updated⟩, hservice, hr⟩ := bind_eq_ok.mp hr
    cases hr
    have hupdated : TenantWrites (ctx.reach env) admins draw.now db updated := updateProperty_writes hservice
    exact hupdated.trans logPropertyChange_writes
  | deactivatePropertyEndpoint propertyId =>
    refine hroute h (fun _ => rfl) fun r hr => ?_
    obtain ⟨c, hservice, hr⟩ := bind_eq_ok.mp hr
    cases hr
    exact endPropertyRoute_writes (setActive_writes hservice)
  | activatePropertyEndpoint propertyId =>
    refine hroute h (fun _ => rfl) fun r hr => ?_
    obtain ⟨c, hservice, hr⟩ := bind_eq_ok.mp hr
    cases hr
    exact endPropertyRoute_writes (setActive_writes hservice)
  | bulkCreatePropertiesEndpoint items =>
    refine hroute h (fun _ => rfl) fun r hr => ?_
    exact bulkCreatePropertiesEndpoint_writes hnew hr
  | bulkDeactivatePropertiesEndpoint ids =>
    refine hroute h (fun _ => rfl) fun r hr => ?_
    exact bulkDeactivatePropertiesEndpoint_writes hr

/-! ### Bindings -/

theorem getOwnedProperty_reach {propertyId : RawId} {prop : Property}
    (h : getOwnedProperty env db ctx propertyId = .ok prop) : prop.tenantId ∈ ctx.reach env := by
  obtain ⟨pid, _, h⟩ := bind_eq_ok.mp h
  obtain ⟨tenant, htenant, h⟩ := bind_eq_ok.mp h
  split at h
  · cases h
  · rename_i found hfound
    cases h
    have hp := (Table.first_some hfound).2
    rw [Bool.and_eq_true, beq_iff_eq, beq_iff_eq] at hp
    rw [← hp.1] at htenant
    exact Or.inl htenant

/-- A binding that the context finds is one of a property of a tenant that it reaches. -/
theorem getOwnedPropertyConnector_reach {propertyId : RawId} {id : Uuid} {pc : PropertyConnector}
    {connector : Option Connector}
    (h : getOwnedPropertyConnector env db ctx propertyId (.uuid id) = .ok (pc, connector)) :
    ∃ prop, db.properties.find? pc.propertyId = some prop ∧ prop.tenantId ∈ ctx.reach env := by
  obtain ⟨prop, hprop, h⟩ := bind_eq_ok.mp h
  refine ⟨prop, ?_, getOwnedProperty_reach hprop⟩
  simp only [coerceUuid, ok_bind] at h
  split at h
  · cases h
  · rename_i found hfound
    cases h
    have hp := (Table.first_some hfound).2
    rw [Bool.and_eq_true, beq_iff_eq, beq_iff_eq] at hp
    rw [hp.2]
    exact getOwnedProperty_find hprop

/-- A write of a stored binding that stays one of the same property and connector. -/
theorem binding_writes {prop : Property} {old row : PropertyConnector} (hold : old ∈ db.propertyConnectors)
    (hid : row.id = old.id) (hfollows : old.Follows row)
    (hprop : db.properties.find? old.propertyId = some prop) (ht : prop.tenantId ∈ tenants) :
    TenantWrites tenants admins draw.now db
      { db with propertyConnectors := db.propertyConnectors.update row } := by
  have hstored : db.propertyConnectors.find? row.id = some old := by
    rw [hid]
    exact Table.mem_iff_find?.mp hold
  exact .owned ht (.binding prop old row hstored hfollows hprop)

theorem activateConnector_writes {propertyId : RawId} {payload : ActivateConnector}
    {r : AnnotatedConnector × Option Dict × Dict} (hfresh : db.propertyConnectors.Fresh (draw.id 0))
    (h : activateConnector env db ctx draw propertyId payload = .ok (r, flushed)) :
    TenantWrites (ctx.reach env) admins draw.now db flushed := by
  obtain ⟨prop, hprop, h⟩ := bind_eq_ok.mp h
  obtain ⟨connector, hconnector, h⟩ := bind_eq_ok.mp h
  have hreach := getOwnedProperty_reach hprop
  have hstored := getOwnedProperty_find hprop
  dsimp only at h
  split at h
  · rename_i existing hexisting
    obtain ⟨hmem, hp⟩ := Table.first_some hexisting
    rw [Bool.and_eq_true, beq_iff_eq, beq_iff_eq] at hp
    rw [← hp.1] at hstored
    split at h
    · cases h
    · cases h
      exact binding_writes hmem rfl ⟨rfl, rfl, rfl⟩ hstored hreach
  · rename_i hnone
    rw [insertBinding_of_none hnone] at h
    cases h
    refine .owned hreach (.newBinding prop _ hfresh hstored ⟨connector, ?_, rfl⟩ hnone)
    unfold getActiveConnector at hconnector
    split at hconnector
    · cases hconnector
    · rename_i found hfound
      split at hconnector
      · cases hconnector
      · cases hconnector
        exact (Table.first_some hfound).1

variable {propertyId : RawId} {id : Uuid} {r : Change × Db}

theorem updateConnector_writes {payload : UpdateConnector}
    (h : updateConnector env db ctx draw propertyId (.uuid id) payload = .ok r) :
    TenantWrites (ctx.reach env) admins draw.now db r.2 := by
  obtain ⟨⟨pc, connector⟩, hfound, h⟩ := bind_eq_ok.mp h
  have hpc := (Table.find?_some (getOwnedPropertyConnector_row hfound)).1
  obtain ⟨prop, hprop, ht⟩ := getOwnedPropertyConnector_reach hfound
  dsimp only at h
  split at h
  · cases h
  · cases h
    exact binding_writes hpc rfl ⟨rfl, rfl, rfl⟩ hprop ht

theorem deactivateConnector_writes (h : deactivateConnector env db ctx propertyId (.uuid id) = .ok r) :
    TenantWrites (ctx.reach env) admins draw.now db r.2 := by
  obtain ⟨⟨pc, connector⟩, hfound, h⟩ := bind_eq_ok.mp h
  have hpc := (Table.find?_some (getOwnedPropertyConnector_row hfound)).1
  obtain ⟨prop, hprop, ht⟩ := getOwnedPropertyConnector_reach hfound
  dsimp only at h
  split at h
  · cases h
    exact .refl
  · cases h
    exact binding_writes hpc rfl ⟨rfl, rfl, rfl⟩ hprop ht

theorem reactivateConnector_writes (h : reactivateConnector env db ctx propertyId (.uuid id) = .ok r) :
    TenantWrites (ctx.reach env) admins draw.now db r.2 := by
  obtain ⟨⟨pc, connector⟩, hfound, h⟩ := bind_eq_ok.mp h
  have hpc := (Table.find?_some (getOwnedPropertyConnector_row hfound)).1
  obtain ⟨prop, hprop, ht⟩ := getOwnedPropertyConnector_reach hfound
  dsimp only at h
  split at h
  · cases h
    exact .refl
  · split at h
    · cases h
    · split at h
      · cases h
      · cases h
        exact binding_writes hpc rfl ⟨rfl, rfl, rfl⟩ hprop ht

/-! ### The binding routes -/

variable {action : String} {adminId tenantId : Uuid} {before : Json} {after : Dict}

theorem commitTenantChange_writes :
    TenantWrites tenants admins draw.now db
      (commitTenantChange draw ipAddress ctx db action id before after) :=
  .single (.auditLog _) rfl

theorem logAdminAction_writes {domains : Set Domain} {targetEntity : Option String}
    {targetId targetTenantId : Option Uuid} {beforeValue afterValue : Json}
    (h : targetEntity ≠ some "connector") (hadmin : .admin adminId draw.now ∈ domains)
    (haudit : .auditLog (targetEntity.getD "admin") draw.now ∈ domains) :
    DbWrites domains db
      (logAdminAction db draw adminId action targetEntity targetId targetTenantId beforeValue afterValue
      ipAddress) :=
  (DbWrites.single
    (.adminActionLog ⟨draw.adminLogId, adminId, action, targetEntity, targetId, targetTenantId, beforeValue,
    afterValue, ipAddress, draw.now⟩ h) hadmin).trans (DbWrites.single (.auditLog _) haudit)

theorem endTenantRoute_writes (h : TenantWrites tenants admins draw.now db r.2) :
    TenantWrites tenants admins draw.now db (endTenantRoute db draw ipAddress ctx action r).2 := by
  show TenantWrites tenants admins draw.now db (if r.1.changed then _ else db)
  split
  · exact h.trans commitTenantChange_writes
  · exact .refl

theorem endAdminRoute_writes (hadmin : adminId ∈ admins) (h : TenantWrites tenants admins draw.now db r.2) :
    TenantWrites tenants admins draw.now db
      (endAdminRoute db draw ipAddress adminId action tenantId r).2 := by
  show TenantWrites tenants admins draw.now db (if r.1.changed then _ else db)
  split
  · exact h.trans (logAdminAction_writes (by decide) ⟨hadmin, rfl⟩ rfl)
  · exact .refl

/-- Writes for the tenants of the context that an admin route has looked up. -/
theorem looked_up_writes {found : RequestContext × Uuid × Uuid}
    {lookup : Except Exn (RequestContext × Uuid × Uuid)} (hfound : lookup = .ok found)
    (h : TenantWrites (found.1.reach env) admins draw.now db flushed) :
    TenantWrites {t | ∃ found, lookup = .ok found ∧ t ∈ found.1.reach env} admins draw.now db flushed :=
  h.mono fun _ ht => ⟨found, hfound, ht⟩

theorem BindingRequest.serve_writes {request : BindingRequest} {reply : BindingReply}
    (hfresh : db.propertyConnectors.Fresh (draw.id 0))
    (h : request.serve env db draw ipAddress = .ok (reply, flushed)) :
    TenantWrites (request.reach env db) request.admins draw.now db flushed := by
  have hroute : ∀ {x : Except Exn (ConnectorResponse × Db)} {status : Nat},
      (∀ r, x = .ok r → TenantWrites (request.reach env db) request.admins draw.now db r.2) →
      x.map (bindingReply status) = .ok (reply, flushed) →
        TenantWrites (request.reach env db) request.admins draw.now db flushed := by
    intro x status hx hmap
    cases x with
    | error e => cases hmap
    | ok r =>
      cases hmap
      exact hx r rfl
  cases request with
  | activateConnectorEndpoint ctx propertyId payload =>
    refine hroute (fun r hr => ?_) h
    obtain ⟨⟨⟨row, before, after⟩, activated⟩, hservice, hr⟩ := bind_eq_ok.mp hr
    cases hr
    have hactivated : TenantWrites (ctx.reach env) ∅ draw.now db activated :=
      activateConnector_writes hfresh hservice
    exact hactivated.trans commitTenantChange_writes
  | listConnectorsEndpoint ctx propertyId =>
    unfold BindingRequest.serve at h
    dsimp only at h
    cases hlist : RatingLift.listConnectorsEndpoint env db ctx propertyId with
    | error e => rw [hlist] at h; cases h
    | ok list =>
      rw [hlist] at h
      cases h
      exact .refl
  | updateConnectorEndpoint ctx propertyId id payload =>
    refine hroute (fun r hr => ?_) h
    obtain ⟨c, hservice, hr⟩ := bind_eq_ok.mp hr
    cases hr
    exact endTenantRoute_writes (updateConnector_writes hservice)
  | deactivateConnectorEndpoint ctx propertyId id =>
    refine hroute (fun r hr => ?_) h
    obtain ⟨c, hservice, hr⟩ := bind_eq_ok.mp hr
    cases hr
    exact endTenantRoute_writes (deactivateConnector_writes hservice)
  | reactivateConnectorEndpoint ctx propertyId id =>
    refine hroute (fun r hr => ?_) h
    obtain ⟨c, hservice, hr⟩ := bind_eq_ok.mp hr
    cases hr
    exact endTenantRoute_writes (reactivateConnector_writes hservice)
  | listPropertyConnectors filter limit offset =>
    cases h
    exact .refl
  | adminActivateConnector adminId propertyId payload =>
    refine hroute (fun r hr => ?_) h
    obtain ⟨⟨ctx, pid, tenantId⟩, hlookup, hr⟩ := bind_eq_ok.mp hr
    obtain ⟨⟨⟨row, before, after⟩, activated⟩, hservice, hr⟩ := bind_eq_ok.mp hr
    cases hr
    have hactivated : TenantWrites (ctx.reach env) {adminId} draw.now db activated :=
      activateConnector_writes hfresh hservice
    refine (looked_up_writes hlookup hactivated).trans (logAdminAction_writes (by decide) ?_ rfl)
    exact ⟨Set.mem_singleton adminId, rfl⟩
  | adminUpdateConnector adminId id payload =>
    refine hroute (fun r hr => ?_) h
    obtain ⟨⟨ctx, pid, tenantId⟩, hlookup, hr⟩ := bind_eq_ok.mp hr
    obtain ⟨c, hservice, hr⟩ := bind_eq_ok.mp hr
    cases hr
    exact endAdminRoute_writes rfl (looked_up_writes hlookup (updateConnector_writes hservice))
  | adminDeactivateConnector adminId id =>
    refine hroute (fun r hr => ?_) h
    obtain ⟨⟨ctx, pid, tenantId⟩, hlookup, hr⟩ := bind_eq_ok.mp hr
    obtain ⟨c, hservice, hr⟩ := bind_eq_ok.mp hr
    cases hr
    exact endAdminRoute_writes rfl (looked_up_writes hlookup (deactivateConnector_writes hservice))
  | adminReactivateConnector adminId id =>
    refine hroute (fun r hr => ?_) h
    obtain ⟨⟨ctx, pid, tenantId⟩, hlookup, hr⟩ := bind_eq_ok.mp hr
    obtain ⟨c, hservice, hr⟩ := bind_eq_ok.mp hr
    cases hr
    exact endAdminRoute_writes rfl (looked_up_writes hlookup (reactivateConnector_writes hservice))

/-- A request to the property routes or the binding routes is a sequence of writes for the tenants that it
reaches. -/
theorem AuditedRequest.next_writes {request : AuditedRequest} (hnew : draw.New request.drawn db) :
    TenantWrites (request.reach env db) request.admins draw.now db (request.next env db draw ipAddress) := by
  cases request with
  | property ctx request =>
    unfold AuditedRequest.next
    dsimp only
    split
    · rename_i h
      exact PropertyRequest.serve_writes hnew.properties h
    · exact .refl
  | binding request =>
    unfold AuditedRequest.next
    dsimp only
    split
    · rename_i h
      exact BindingRequest.serve_writes (hnew.bindings.head Nat.one_pos) h
    · exact .refl

end

/-! ### What has a trail -/

section

variable {env : ConnectorEnv} {db db' : Db} {d : Domain} {domains : Set Domain}

/-- Neither what the tenants own nor the log about it. -/
def Domain.Untraced : Domain → Prop
  | tenant _ => False
  | auditLog entity _ => ¬ Traced entity
  | _ => True

/-- What the audit trails are about, and what they say. -/
def Db.traced (db : Db) : Table Property × Table PropertyConnector × List (JournalEntry Audited Json) :=
  (db.properties, db.propertyConnectors, db.journal)

theorem journal_insert_untraced {row : AuditLog} (h : ¬ Traced row.entity) :
    ({ db with auditLogs := db.auditLogs.insert row } : Db).journal = db.journal := by
  have hentry : row.journalEntry = none := by
    unfold Traced at h
    obtain ⟨hproperty, hbinding⟩ := not_or.mp h
    unfold AuditLog.journalEntry Audited.of
    rw [if_neg hproperty, if_neg hbinding]
    rfl
  unfold Db.journal Table.insert
  dsimp only
  split
  · rfl
  · rw [List.filterMap_append, List.filterMap_cons_none hentry, List.filterMap_nil, List.append_nil]

theorem DbWrite.traced (h : DbWrite db d db') (hd : d.Untraced) : db'.traced = db.traced := by
  cases h with
  | newProperty | property | newBinding | binding => cases hd
  | auditLog row =>
    unfold Db.traced
    rw [journal_insert_untraced hd]
  | _ => rfl

theorem CatalogueWrite.traced (h : CatalogueWrite env db d db') : db'.traced = db.traced := by
  cases h <;> rfl

theorem PlatformWrites.traced (h : PlatformWrites env domains db db') (hd : ∀ d ∈ domains, d.Untraced) :
    db'.traced = db.traced := by
  refine h.keeps (P := fun x => x.traced = db.traced) ?_ ?_ rfl
  · exact fun d hmem _ _ hw hP => (hw.traced (hd d hmem)).trans hP
  · exact fun _ _ _ _ hw hP => hw.traced.trans hP

/-- Writes elsewhere keep the log a journal of the properties and the bindings. -/
theorem PlatformWrites.journalled (h : PlatformWrites env domains db db') (hd : ∀ d ∈ domains, d.Untraced)
    (hdb : Journalled db) : Journalled db' := by
  have htraced := h.traced hd
  have hjournal : db'.journal = db.journal := congrArg (·.2.2) htraced
  have hsnapshot : db'.snapshot = db.snapshot := by
    funext k
    cases k with
    | property id =>
      exact congrArg (fun x => PropertyConnector.configJson ((x.1.find? id).map Property.snapshot)) htraced
    | binding id =>
      exact congrArg
        (fun x => PropertyConnector.configJson ((x.2.1.find? id).map PropertyConnector.snapshot)) htraced
  unfold Journalled
  rw [hjournal, hsnapshot]
  exact hdb

end

end RatingLift
