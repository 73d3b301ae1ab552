import RatingLift.Tenancy.View

/-!
# Tenant isolation

Every request of the tenant services, made with a context of some tenant, depends only on the view of that
tenant and keeps the frame (`TenantRequest.confined`).  Two databases that agree on the rows of the tenant
therefore give the same answers and keep agreeing, and nothing of another tenant changes
(`tenant_noninterference`).
-/

namespace RatingLift

open Library

/-- The requests of the tenant services. -/
inductive TenantRequest where
  | createProperty (payload : PropertyCreate)
  | getProperty (propertyId : RawId)
  | listProperties (isActive : Option Bool) (q : Option String) (limit offset : Int)
  | updateProperty (propertyId : RawId) (payload : PropertyUpdate)
  | deactivateProperty (propertyId : RawId)
  | activateProperty (propertyId : RawId)
  | bulkCreateProperties (payloads : List PropertyCreate)
  | bulkDeactivateProperties (propertyIds : List RawId)
  | propertyAuditLogs (propertyId : RawId) (limit offset : Int)
  | activateConnector (propertyId : RawId) (payload : ActivateConnector)
  | listConnectors (propertyId : RawId)
  | updateConnector (propertyId propertyConnectorId : RawId) (payload : UpdateConnector)
  | deactivateConnector (propertyId propertyConnectorId : RawId)
  | reactivateConnector (propertyId propertyConnectorId : RawId)
  | listCatalogue (limit offset : Nat) (propertyId : Option Uuid)

/-- What the services answer. -/
inductive TenantResponse where
  | property (prop : Property)
  | properties (page : List Property) (total : Nat)
  | propertyChange (prop : Property) (before after : Dict) (changed : Bool)
  | bulkCreated (results : List PropertyService.BulkCreateResult)
  | bulkDeactivated (results : List PropertyService.BulkDeactivateResult)
  | auditLogs (page : List AuditLog) (total : Nat)
  | activated (row : AnnotatedConnector) (before : Option Dict) (after : Dict)
  | connectors (rows : List AnnotatedConnector)
  | connectorChange (change : PropertyConnectorService.Change)
  | catalogue (list : TenantConnectorList)

section

variable (env : PlatformEnv) (settings : Settings) (draw : Draw) (ctx : RequestContext)

open PropertyService PropertyConnectorService

/-- Runs a request: the answer and the database the service leaves. -/
def TenantRequest.run (request : TenantRequest) (db : Db) : Except Exn (TenantResponse × Db) :=
  match request with
  | .createProperty payload => (PropertyService.createProperty db ctx draw payload).map fun r =>
    (.property r.1, r.2)
  | .getProperty id => (getPropertyById env db ctx id).map fun p => (.property p, db)
  | .listProperties isActive q limit offset =>
    (getProperties env db ctx isActive q limit offset).map fun r => (.properties r.1 r.2, db)
  | .updateProperty id payload =>
    (PropertyService.updateProperty env db ctx draw id payload).map fun r =>
      (.propertyChange r.1.1 r.1.2.1 r.1.2.2 true, r.2)
  | .deactivateProperty id =>
    (PropertyService.deactivateProperty env db ctx draw id).map fun r =>
      (.propertyChange r.1.1 r.1.2.1 r.1.2.2.1 r.1.2.2.2, r.2)
  | .activateProperty id =>
    (PropertyService.activateProperty env db ctx draw id).map fun r =>
      (.propertyChange r.1.1 r.1.2.1 r.1.2.2.1 r.1.2.2.2, r.2)
  | .bulkCreateProperties payloads =>
    (PropertyService.bulkCreateProperties db ctx draw payloads).map fun r => (.bulkCreated r.1, r.2)
  | .bulkDeactivateProperties ids =>
    (PropertyService.bulkDeactivateProperties env ctx draw db ids).map fun r => (.bulkDeactivated r.1, r.2)
  | .propertyAuditLogs id limit offset =>
    (getPropertyAuditLogs env db ctx id limit offset).map fun r => (.auditLogs r.1 r.2, db)
  | .activateConnector id payload =>
    (PropertyConnectorService.activateConnector env db ctx draw id payload).map fun r =>
      (.activated r.1.1 r.1.2.1 r.1.2.2, r.2)
  | .listConnectors id => (PropertyConnectorService.listConnectors env db ctx id).map fun rows =>
    (.connectors rows, db)
  | .updateConnector id pcId payload =>
    (PropertyConnectorService.updateConnector env db ctx draw id pcId payload).map fun r =>
      (.connectorChange r.1, r.2)
  | .deactivateConnector id pcId =>
    (PropertyConnectorService.deactivateConnector env db ctx id pcId).map fun r => (.connectorChange r.1, r.2)
  | .reactivateConnector id pcId =>
    (PropertyConnectorService.reactivateConnector env db ctx id pcId).map fun r => (.connectorChange r.1, r.2)
  | .listCatalogue limit offset propertyId =>
    (listActiveConnectors env settings db ctx limit offset propertyId).map fun list => (.catalogue list, db)

end

/-- The context's `tenant_id` is a text of that tenant's id, for the database and for Python. -/
def RequestContext.IsOf (env : PlatformEnv) (ctx : RequestContext) (tenant : Uuid) : Prop :=
  ∃ text, ctx.tenantId = some text ∧ env.pgUuid text = some tenant ∧
  ∀ t, Uuid.parse text = some t → t = tenant

/-- How many ids of new rows a request may draw. -/
def TenantRequest.drawn : TenantRequest → Nat
  | .bulkCreateProperties payloads => payloads.length
  | _ => 1

/-- The ids numbered from `k` to below `n` are pairwise different and occur nowhere in the database. -/
structure Draw.Fresh (draw : Draw) (k n : Nat) (db : Db) : Prop where
  inj : ∀ i j, k ≤ i → i < j → j < n → draw.id i ≠ draw.id j
  property : ∀ i, k ≤ i → i < n → db.properties.Fresh (draw.id i)
  binding : ∀ i, k ≤ i → i < n → db.propertyConnectors.Fresh (draw.id i)
  bindingRef : ∀ i, k ≤ i → i < n → ∀ pc ∈ db.propertyConnectors, pc.propertyId ≠ draw.id i
  auditRef : ∀ i, k ≤ i → i < n → ∀ a ∈ db.auditLogs, a.entityId ≠ some (draw.id i)

section

variable {env : PlatformEnv} {settings : Settings} {draw : Draw} {ctx : RequestContext}
  {tenant : Uuid} {db : Db}

/-! ### Queries -/

theorem RequestContext.IsOf.filter (h : ctx.IsOf env tenant) :
    filterByTenant env.pgUuid ctx.tenantId = .ok tenant := by
  obtain ⟨text, h1, h2, _⟩ := h
  simp [filterByTenant, h1, h2]

theorem RequestContext.IsOf.tenantUuid (h : ctx.IsOf env tenant) {t : Uuid}
    (ht : PropertyService.tenantUuid ctx = .ok t) : t = tenant := by
  obtain ⟨text, h1, _, h3⟩ := h
  unfold PropertyService.tenantUuid coerceUuid at ht
  rw [h1] at ht
  simp only [Option.getD_some] at ht
  split at ht
  · rename_i u hu
    cases ht
    exact h3 _ hu
  · cases ht

open PropertyService PropertyConnectorService

/-- A query filtered by the tenant finds the same row in the view. -/
private theorem first_owned {q : Property → Bool} (hq : ∀ p, q p = true → p.tenantId = tenant) :
    (db.view tenant).properties.first q = db.properties.first q :=
  Table.first_restrict fun p _ h => by simpa using hq p h

theorem findOwned_view (pid : Uuid) : findOwned (db.view tenant) tenant pid = findOwned db tenant pid :=
  first_owned fun p h => by simp at h; exact h.1

theorem getPropertyById_view (h : ctx.IsOf env tenant) (id : RawId) :
    getPropertyById env (db.view tenant) ctx id = getPropertyById env db ctx id := by
  unfold getPropertyById
  simp only [h.filter, Fallible.ok_bind, findOwned_view]

theorem getPropertyById_owned (h : ctx.IsOf env tenant) {id : RawId} {p : Property}
    (hp : getPropertyById env db ctx id = .ok p) :
    p ∈ db.properties ∧ p.tenantId = tenant ∧ coerceUuid id "Invalid property id" = .ok p.id := by
  unfold getPropertyById at hp
  obtain ⟨pid, hid, hp⟩ := Fallible.bind_eq_ok.mp hp
  simp only [h.filter, Fallible.ok_bind] at hp
  split at hp
  · cases hp
  · rename_i p' hf
    cases hp
    obtain ⟨h1, h2, rfl⟩ := findOwned_some hf
    exact ⟨h1, h2, hid⟩

theorem placeTaken_view {prop : Property} (ht : prop.tenantId = tenant) :
    placeTaken (db.view tenant) prop = placeTaken db prop := by
  unfold placeTaken
  rw [first_owned]
  intro p hp
  simp only [Bool.and_eq_true, beq_iff_eq] at hp
  exact hp.1.2.trans ht

/-- A row of the bindings that a query by an owned property finds is in the view. -/
private theorem first_ownedBinding {q : PropertyConnector → Bool} {pid : Uuid}
    (ho : db.owns tenant pid = true) (hq : ∀ pc, q pc = true → pc.propertyId = pid) :
    (db.view tenant).propertyConnectors.first q = db.propertyConnectors.first q :=
  Table.first_restrict fun pc _ h => by rw [hq pc h]; exact ho

private theorem select_ownedBinding {q : PropertyConnector → Bool} {pid : Uuid}
    (ho : db.owns tenant pid = true) (hq : ∀ pc, q pc = true → pc.propertyId = pid) :
    (db.view tenant).propertyConnectors.select q = db.propertyConnectors.select q :=
  Table.select_restrict fun pc _ h => by rw [hq pc h]; exact ho

theorem existingBinding_view {pid cid : Uuid} (ho : db.owns tenant pid = true) :
    existingBinding (db.view tenant) pid cid = existingBinding db pid cid :=
  first_ownedBinding ho fun pc h => by simp at h; exact h.1

theorem getOwnedPropertyConnector_view (h : ctx.IsOf env tenant) (id pcId : RawId) :
    getOwnedPropertyConnector env (db.view tenant) ctx id pcId =
      getOwnedPropertyConnector env db ctx id pcId := by
  show (getPropertyById env (db.view tenant) ctx id >>= _) = (getPropertyById env db ctx id >>= _)
  rw [getPropertyById_view h]
  cases hp : getPropertyById env db ctx id with
  | error e => rfl
  | ok prop =>
    have ho := getPropertyById_owned h hp
    simp only [Fallible.ok_bind]
    cases hc : coerceUuid pcId "Invalid property_connector id" with
    | error e => rfl
    | ok id' =>
      simp only [Fallible.ok_bind]
      rw [first_ownedBinding (Db.owns_of_mem ho.1 ho.2.1)]
      · rfl
      · intro pc hq; simp at hq; exact hq.2

theorem getOwnedPropertyConnector_owned (h : ctx.IsOf env tenant) {id pcId : RawId} {pc : PropertyConnector}
    {connector : Option Connector} (hp : getOwnedPropertyConnector env db ctx id pcId = .ok (pc, connector)) :
    pc ∈ db.propertyConnectors ∧ db.owns tenant pc.propertyId = true := by
  obtain ⟨prop, hprop, hp⟩ := Fallible.bind_eq_ok.mp hp
  obtain ⟨pid, _, hp⟩ := Fallible.bind_eq_ok.mp hp
  have ho : prop ∈ db.properties ∧ prop.tenantId = tenant ∧ _ := getPropertyById_owned h hprop
  split at hp
  · cases hp
  · rename_i pc' hf
    cases hp
    have hm := Table.first_some hf
    simp only [Bool.and_eq_true, beq_iff_eq] at hm
    refine ⟨hm.1, ?_⟩
    rw [hm.2.2]
    exact Db.owns_of_mem ho.1 ho.2.1

/-! ### Properties -/

/-- The operation depends on the view of the tenant only and keeps the frame. -/
abbrev TenantConfined {α : Type} (tenant : Uuid) (f : Db → Except Exn (α × Db)) (db : Db) : Prop :=
  Confined (Db.view tenant) (Db.frame tenant) f db

private theorem write_property {α : Type} (a : α) (prop : Property) {p : Property}
    (hp : p ∈ db.properties ∧ p.tenantId = tenant) (hid : prop.id = p.id) (ht : prop.tenantId = tenant) :
    TenantConfined tenant (fun db => .ok (a, { db with properties := db.properties.update prop })) db := by
  have hw := Db.view_updateProperty hp.1 hp.2 hid ht
  exact Confined.write a (w := fun d : Db => d.updateProperty prop) hw.1 hw.2

private theorem write_binding {α : Type} (a : α) (pc : PropertyConnector) {row : PropertyConnector}
    (hrow : row ∈ db.propertyConnectors ∧ db.owns tenant row.propertyId = true) (hid : pc.id = row.id)
    (hp : pc.propertyId = row.propertyId) :
    TenantConfined tenant
      (fun db => .ok (a, { db with propertyConnectors := db.propertyConnectors.update pc })) db := by
  have hw := Db.view_updateBinding hrow.1 hid hp hrow.2
  exact Confined.write a (w := fun d : Db => d.updateBinding pc) hw.1 hw.2

theorem setActive_confined (h : ctx.IsOf env tenant) (active : Bool) (id : RawId) :
    TenantConfined tenant (fun db => setActive env db ctx active draw id) db := by
  refine Confined.read (getPropertyById_view h id) ?_
  intro prop hprop
  have ho := getPropertyById_owned h hprop
  by_cases ha : (prop.isActive == active) = true
  · simp only [ha]
    exact Confined.ok _
  · simp only [ha]
    exact write_property _ (prop.withActive draw.now active) ⟨ho.1, ho.2.1⟩ rfl ho.2.1

theorem updateProperty_confined (h : ctx.IsOf env tenant) (id : RawId) (payload : PropertyUpdate) :
    TenantConfined tenant (fun db => PropertyService.updateProperty env db ctx draw id payload) db := by
  refine Confined.read (getPropertyById_view h id) ?_
  intro prop hprop
  have ho := getPropertyById_owned h hprop
  by_cases he : payload.isEmpty = true
  · simp only [he]
    exact Confined.error _
  · simp only [he]
    have hid : (prop.touch draw.now (prop.assign payload)).id = prop.id := Property.touch_id rfl
    have ht : (prop.touch draw.now (prop.assign payload)).tenantId = prop.tenantId :=
      Property.touch_tenantId rfl
    rw [ho.2.1] at ht
    exact Confined.cond (c := fun d : Db => placeTaken d (prop.touch draw.now (prop.assign payload)))
      (placeTaken_view ht) (fun _ => Confined.error _) fun _ => write_property _ _ ⟨ho.1, ho.2.1⟩ hid ht

/-- The INSERT of a property of the tenant: refused for a taken place id, written otherwise. -/
theorem insertProperty_eq {prop : Property} (ht : prop.tenantId = tenant)
    (htenant : (db.tenants.find? tenant).isSome = true) :
    insertProperty db prop =
      if placeTaken db prop then .error (.integrityError "ux_properties_tenant_place")
      else .ok (db.insertProperty prop) :=
  insertProperty_of_tenant prop (ht ▸ htenant)

private theorem tenant_view : ((db.view tenant).tenants.find? tenant).isSome = true := by
  have : (db.view tenant).tenants.find? tenant = some ⟨tenant, ""⟩ := by
    refine Table.find?_eq_some.mpr ⟨?_, rfl⟩
    exact (Table.mem_insert (fun _ h => absurd h (Table.not_mem_empty _))).mpr (Or.inr rfl)
  rw [this]; rfl

/-- A property row of the tenant under an id drawn by the request. -/
private theorem insert_newProperty (t : Uuid) {k n : Nat} (hf : draw.Fresh k n db) (hn : k < n)
    (name : String) (place url : Option String) :
    (db.view t).insertProperty (newProperty draw k t name place url) =
        (db.insertProperty (newProperty draw k t name place url)).view t ∧
      (db.insertProperty (newProperty draw k t name place url)).frame t = db.frame t :=
  Db.view_insertProperty rfl (hf.property k (Nat.le_refl k) hn) (hf.bindingRef k (Nat.le_refl k) hn)
    (hf.auditRef k (Nat.le_refl k) hn)

private theorem insertProperty_new (d : Db) (htenant : (d.tenants.find? tenant).isSome = true) {k : Nat}
    {name : String} {place url : Option String} :
    insertProperty d (newProperty draw k tenant name place url) =
      if placeTaken d (newProperty draw k tenant name place url) then
        .error (.integrityError "ux_properties_tenant_place")
      else .ok (d.insertProperty (newProperty draw k tenant name place url)) :=
  insertProperty_eq rfl htenant

private theorem placeTaken_new {k : Nat} {name : String} {place url : Option String} :
    placeTaken (db.view tenant) (newProperty draw k tenant name place url) =
      placeTaken db (newProperty draw k tenant name place url) :=
  placeTaken_view rfl

theorem createProperty_confined (h : ctx.IsOf env tenant) (hf : draw.Fresh 0 1 db)
    (htenant : (db.tenants.find? tenant).isSome = true) (payload : PropertyCreate) :
    TenantConfined tenant (fun db => PropertyService.createProperty db ctx draw payload) db := by
  refine Confined.read (r := fun _ : Db => PropertyService.tenantUuid ctx) rfl ?_
  intro t ht
  obtain rfl := h.tenantUuid ht
  let prop := newProperty draw 0 t payload.name payload.googlePlaceId payload.googleMapsUrl
  have hw := insert_newProperty t hf Nat.one_pos payload.name payload.googlePlaceId payload.googleMapsUrl
  have hcond : TenantConfined t
      (fun d => if placeTaken d prop then .error (.http 409 duplicatePlaceIdDetail) else
      .ok (prop, d.insertProperty prop)) db :=
    Confined.cond (c := fun d : Db => placeTaken d prop) placeTaken_new (fun _ => Confined.error _)
      fun _ => Confined.write (w := fun d : Db => d.insertProperty prop) _ hw.1 hw.2
  refine Confined.congr ?_ ?_ hcond
  · dsimp only
    rw [insertProperty_new db htenant]
    cases placeTaken db prop <;> rfl
  · dsimp only
    rw [insertProperty_new (db.view t) tenant_view]
    cases placeTaken (db.view t) prop <;> rfl

theorem Draw.Fresh.tail {k n : Nat} (hf : draw.Fresh k n db) : draw.Fresh (k + 1) n db where
  inj i j hi := hf.inj i j (by omega)
  property i hi := hf.property i (by omega)
  binding i hi := hf.binding i (by omega)
  bindingRef i hi := hf.bindingRef i (by omega)
  auditRef i hi := hf.auditRef i (by omega)

/-- A property row under the first of the drawn ids leaves the others fresh. -/
theorem Draw.Fresh.insertProperty {k n : Nat} (hf : draw.Fresh k n db) {prop : Property}
    (hid : prop.id = draw.id k) :
    draw.Fresh (k + 1) n (db.insertProperty prop) := by
  have ht := hf.tail
  refine ⟨ht.inj, ?_, ht.binding, ht.bindingRef, ht.auditRef⟩
  intro i hi hn x hx hxi
  rcases Table.mem_of_mem_insert hx with hx | rfl
  · exact ht.property i hi hn x hx hxi
  · exact hf.inj k i (Nat.le_refl k) hi hn (hid.symm.trans hxi)

/-- One item of a bulk creation: it reads and writes the view of the tenant only. -/
theorem bulkCreateItem_spec {k n : Nat} (hf : draw.Fresh k n db) (hn : k < n)
    (htenant : (db.tenants.find? tenant).isSome = true) (payload : PropertyCreate) :
    bulkCreateItem tenant draw (db.view tenant) k payload =
        ((bulkCreateItem tenant draw db k payload).1,
          (bulkCreateItem tenant draw db k payload).2.view tenant) ∧
      (bulkCreateItem tenant draw db k payload).2.frame tenant = db.frame tenant ∧
      (bulkCreateItem tenant draw db k payload).2.tenants = db.tenants ∧
      draw.Fresh (k + 1) n (bulkCreateItem tenant draw db k payload).2 := by
  have hw := insert_newProperty tenant hf hn payload.name payload.googlePlaceId none
  unfold bulkCreateItem
  simp only
  rw [insertProperty_new db htenant, insertProperty_new (db.view tenant) tenant_view, placeTaken_new]
  cases placeTaken db (newProperty draw k tenant payload.name payload.googlePlaceId none) with
  | true => exact ⟨rfl, rfl, rfl, hf.tail⟩
  | false => exact ⟨Prod.ext rfl hw.1, hw.2, rfl, hf.insertProperty rfl⟩

theorem bulkCreateFrom_spec (payloads : List PropertyCreate) : ∀ {k : Nat} {db : Db},
    draw.Fresh k (k + payloads.length) db → (db.tenants.find? tenant).isSome = true →
    bulkCreateFrom tenant draw (db.view tenant) k payloads =
        ((bulkCreateFrom tenant draw db k payloads).1,
          (bulkCreateFrom tenant draw db k payloads).2.view tenant) ∧
      (bulkCreateFrom tenant draw db k payloads).2.frame tenant = db.frame tenant := by
  induction payloads with
  | nil => intro k db _ _; exact ⟨rfl, rfl⟩
  | cons payload payloads ih =>
    intro k db hf htenant
    rw [List.length_cons] at hf
    obtain ⟨h1, h2, h3, h4⟩ := bulkCreateItem_spec hf (by omega) htenant payload
    rw [show k + (payloads.length + 1) = k + 1 + payloads.length by omega] at h4
    obtain ⟨i1, i2⟩ := ih h4 (by rw [h3]; exact htenant)
    refine ⟨?_, i2.trans h2⟩
    simp only [bulkCreateFrom]
    rw [h1]
    simp only
    rw [i1]

theorem bulkCreateProperties_confined (h : ctx.IsOf env tenant) (payloads : List PropertyCreate)
    (hf : draw.Fresh 0 payloads.length db) (htenant : (db.tenants.find? tenant).isSome = true) :
    TenantConfined tenant (fun db => PropertyService.bulkCreateProperties db ctx draw payloads) db := by
  refine Confined.read (r := fun _ : Db => PropertyService.tenantUuid ctx) rfl ?_
  intro t ht
  obtain rfl := h.tenantUuid ht
  rw [← Nat.zero_add payloads.length] at hf
  obtain ⟨h1, h2⟩ := bulkCreateFrom_spec payloads hf htenant
  constructor
  · show Except.ok _ = Except.ok _
    rw [h1]
  · intro a db' hr
    rw [Except.ok.inj hr] at h2
    exact h2

theorem bulkDeactivateItem_confined (h : ctx.IsOf env tenant) (rawId : RawId) :
    TenantConfined tenant (fun db => bulkDeactivateItem env db ctx draw rawId) db := by
  unfold bulkDeactivateItem
  cases coerceUuid rawId "Invalid property id" with
  | error e => exact Confined.ok _
  | ok pid =>
    simp only [h.filter, Fallible.ok_bind]
    cases hp : findOwned db tenant pid with
    | none =>
      refine Confined.congr ?_ ?_ (Confined.ok (BulkDeactivateResult.failed pid.str "Property not found" 404))
      · simp only [hp]
      · simp only [findOwned_view, hp]
    | some prop =>
      have ho := findOwned_some hp
      cases ha : prop.isActive with
      | true =>
        refine Confined.congr ?_ ?_
          (write_property (BulkDeactivateResult.done pid.str true (prop.withActive draw.now false)
          prop.snapshot (prop.withActive draw.now false).snapshot) (prop.withActive draw.now false)
            ⟨ho.1, ho.2.1⟩ rfl
            ho.2.1)
        · simp only [hp, ha, Bool.not_true, Bool.false_eq_true, ↓reduceIte]
        · simp only [findOwned_view, hp, ha, Bool.not_true, Bool.false_eq_true, ↓reduceIte]
      | false =>
        refine Confined.congr ?_ ?_
          (Confined.ok (BulkDeactivateResult.done pid.str false prop prop.snapshot prop.snapshot))
        · simp only [hp, ha, Bool.not_false, ↓reduceIte]
        · simp only [findOwned_view, hp, ha, Bool.not_false, ↓reduceIte]

theorem bulkDeactivateProperties_confined (h : ctx.IsOf env tenant) (rawIds : List RawId) : ∀ db : Db,
    TenantConfined tenant (fun db => PropertyService.bulkDeactivateProperties env ctx draw db rawIds) db := by
  induction rawIds with
  | nil => intro db; exact Confined.ok _
  | cons rawId rawIds ih =>
    intro db
    refine Confined.seq
      (g := fun result d => PropertyService.bulkDeactivateProperties env ctx draw d rawIds >>= fun r =>
      .ok (result :: r.1, r.2)) (bulkDeactivateItem_confined h rawId) fun result db' _ => ?_
    exact Confined.seq (g := fun results d => .ok (result :: results, d)) (ih db') fun _ _ _ => Confined.ok _

theorem getPropertyAuditLogs_view (h : ctx.IsOf env tenant) (id : RawId) (limit offset : Int) :
    getPropertyAuditLogs env (db.view tenant) ctx id limit offset =
      getPropertyAuditLogs env db ctx id limit offset := by
  unfold getPropertyAuditLogs
  rw [getPropertyById_view h]
  cases hp : getPropertyById env db ctx id with
  | error e => rfl
  | ok prop =>
    obtain ⟨h1, h2, hid⟩ := getPropertyById_owned h hp
    simp only [hid, Fallible.ok_bind]
    rw [show (db.view tenant).auditLogs = db.auditLogs.restrict (db.auditOf tenant)
      from rfl, Table.select_restrict]
    intro a _ ha
    simp only [Bool.and_eq_true, beq_iff_eq] at ha
    simp [Db.auditOf, ha.1, ha.2, Db.owns_of_mem h1 h2]

theorem getProperties_view (h : ctx.IsOf env tenant) (isActive : Option Bool) (q : Option String)
    (limit offset : Int) :
    getProperties env (db.view tenant) ctx isActive q limit offset =
      getProperties env db ctx isActive q limit offset := by
  unfold getProperties
  simp only [h.filter, Fallible.ok_bind]
  rw [show (db.view tenant).properties = db.properties.restrict fun p => p.tenantId == tenant from rfl,
    Table.select_restrict]
  intro p _ hp
  simp only [Bool.and_eq_true] at hp
  exact hp.1.1

/-! ### Bindings -/

theorem activateConnector_confined (h : ctx.IsOf env tenant) (hf : draw.Fresh 0 1 db) (id : RawId)
    (payload : ActivateConnector) :
    TenantConfined tenant
      (fun db => PropertyConnectorService.activateConnector env db ctx draw id payload) db := by
  refine Confined.read (getPropertyById_view h id) ?_
  intro prop hprop
  obtain ⟨hm, ht, _⟩ := getPropertyById_owned h hprop
  have ho := Db.owns_of_mem hm ht
  refine Confined.read (r := fun d : Db => getActiveConnector d payload.connectorId) rfl ?_
  intro connector _
  have hview :
      existingBinding (db.view tenant) prop.id connector.id = existingBinding db prop.id connector.id :=
    existingBinding_view ho
  let secret := env.encryptSecret draw.iv payload.apiSecret
  cases he : existingBinding db prop.id connector.id with
  | none =>
    let pc := newBinding draw payload secret prop.id connector.id
    have hw : (db.view tenant).insertBinding pc = (db.insertBinding pc).view tenant ∧
        (db.insertBinding pc).frame tenant = db.frame tenant :=
      Db.view_insertBinding ho (hf.binding 0 (Nat.le_refl 0) Nat.one_pos)
    refine Confined.congr ?_ ?_ (Confined.write (w := fun d : Db => d.insertBinding pc)
      (annotate pc (some connector), none, pc.snapshot) hw.1 hw.2)
    · simp only [he]
      show (PropertyConnectorService.insertBinding db pc >>= _) = _
      rw [insertBinding_of_none he]
      rfl
    · simp only [hview, he]
      show (PropertyConnectorService.insertBinding (db.view tenant) pc >>= _) = _
      rw [insertBinding_of_none (hview.trans he)]
      rfl
  | some existing =>
    have hrow := Table.first_some he
    simp only [Bool.and_eq_true, beq_iff_eq] at hrow
    cases ha : existing.isActive with
    | true =>
      refine Confined.congr ?_ ?_ (Confined.error (.http 409 "Connector is already active for this property"))
      · simp only [he, ha, ↓reduceIte]
      · simp only [hview, he, ha, ↓reduceIte]
    | false =>
      let row := existing.flush (refreshed payload secret existing)
      have hrow' : existing ∈ db.propertyConnectors ∧ db.owns tenant existing.propertyId = true :=
        ⟨hrow.1, by rw [hrow.2.1]; exact ho⟩
      refine Confined.congr ?_ ?_
        (write_binding (annotate row (some connector), some existing.snapshot, row.snapshot) row
        hrow' rfl rfl)
      · simp only [he, ha, Bool.false_eq_true, ↓reduceIte]
        rfl
      · simp only [hview, he, ha, Bool.false_eq_true, ↓reduceIte]
        rfl

theorem listConnectors_view (h : ctx.IsOf env tenant) (id : RawId) :
    PropertyConnectorService.listConnectors env (db.view tenant) ctx id =
      PropertyConnectorService.listConnectors env db ctx id := by
  show (getPropertyById env (db.view tenant) ctx id >>= _) = (getPropertyById env db ctx id >>= _)
  rw [getPropertyById_view h]
  cases hp : getPropertyById env db ctx id with
  | error e => rfl
  | ok prop =>
    obtain ⟨h1, h2, _⟩ := getPropertyById_owned h hp
    simp only [Fallible.ok_bind]
    rw [select_ownedBinding (Db.owns_of_mem h1 h2)]
    · rfl
    · intro pc hq; simpa using hq

theorem deactivateConnector_confined (h : ctx.IsOf env tenant) (id pcId : RawId) :
    TenantConfined tenant (fun db => PropertyConnectorService.deactivateConnector env db ctx id pcId) db := by
  refine Confined.read (getOwnedPropertyConnector_view h id pcId) ?_
  intro r hr
  obtain ⟨pc, connector⟩ := r
  have ho := getOwnedPropertyConnector_owned h hr
  cases ha : pc.isActive with
  | true =>
    simp only [ha]
    exact write_binding _ { pc with isActive := false } ho rfl rfl
  | false =>
    simp only [ha]
    exact Confined.ok _

theorem reactivateConnector_confined (h : ctx.IsOf env tenant) (id pcId : RawId) :
    TenantConfined tenant (fun db => PropertyConnectorService.reactivateConnector env db ctx id pcId) db := by
  refine Confined.read (getOwnedPropertyConnector_view h id pcId) ?_
  intro r hr
  obtain ⟨pc, connector⟩ := r
  have ho := getOwnedPropertyConnector_owned h hr
  cases ha : pc.isActive with
  | true =>
    simp only [ha]
    exact Confined.ok _
  | false =>
    simp only [ha]
    cases connector with
    | none => exact Confined.error _
    | some connector =>
      by_cases hc : (!connector.isActive || connector.isDeleted) = true
      · simp only [hc]
        exact Confined.error _
      · simp only [hc]
        exact write_binding _ { pc with isActive := true } ho rfl rfl

theorem updateConnector_confined (h : ctx.IsOf env tenant) (id pcId : RawId) (payload : UpdateConnector) :
    TenantConfined tenant
      (fun db => PropertyConnectorService.updateConnector env db ctx draw id pcId payload) db := by
  refine Confined.read (getOwnedPropertyConnector_view h id pcId) ?_
  intro r hr
  obtain ⟨pc, connector⟩ := r
  have ho := getOwnedPropertyConnector_owned h hr
  by_cases he : payload.isEmpty = true
  · simp only [he]
    exact Confined.error _
  · simp only [he]
    exact write_binding _ (pc.flush (applyUpdate (env.encryptSecret draw.iv) payload pc)) ho rfl rfl

theorem listActiveConnectors_view (h : ctx.IsOf env tenant) (limit offset : Nat) (propertyId : Option Uuid) :
    listActiveConnectors env settings (db.view tenant) ctx limit offset propertyId =
      listActiveConnectors env settings db ctx limit offset propertyId := by
  have hbindings : ∀ ids, catalogueBindings env (db.view tenant) ctx ids propertyId =
      catalogueBindings env db ctx ids propertyId := by
    intro ids
    unfold catalogueBindings
    cases propertyId with
    | none => rfl
    | some pid =>
      simp only [h.filter, Fallible.ok_bind]
      have hview : ((db.view tenant).properties.first fun p => p.tenantId == tenant && p.id == pid) =
          findOwned db tenant pid := findOwned_view pid
      have hown :
          (db.properties.first fun p => p.tenantId == tenant && p.id == pid) = findOwned db tenant pid := rfl
      rw [hview, hown]
      cases hp : findOwned db tenant pid with
      | none => rfl
      | some prop =>
        obtain ⟨h1, h2, rfl⟩ := findOwned_some hp
        simp only
        rw [select_ownedBinding (Db.owns_of_mem h1 h2)]
        intro pc hq
        simp only [Bool.and_eq_true, beq_iff_eq] at hq
        exact hq.1
  unfold listActiveConnectors
  simp only [hbindings]
  rfl

/-! ### Any request -/

/-- Every request with a context of the tenant depends on the view of the tenant only and keeps the frame. -/
theorem TenantRequest.confined (h : ctx.IsOf env tenant) (htenant : (db.tenants.find? tenant).isSome = true)
    (request : TenantRequest) (hf : draw.Fresh 0 request.drawn db) :
    TenantConfined tenant (request.run env settings draw ctx) db := by
  cases request with
  | createProperty payload => exact (createProperty_confined h hf htenant payload).map TenantResponse.property
  | getProperty id => exact Confined.query TenantResponse.property (getPropertyById_view h id)
  | listProperties isActive q limit offset =>
    exact Confined.query (fun r : List Property × Nat => TenantResponse.properties r.1 r.2)
      (getProperties_view h isActive q limit offset)
  | updateProperty id payload =>
    exact (updateProperty_confined h id payload).map fun r =>
      TenantResponse.propertyChange r.1 r.2.1 r.2.2 true
  | deactivateProperty id =>
    exact (setActive_confined h false id).map fun r => TenantResponse.propertyChange r.1 r.2.1 r.2.2.1 r.2.2.2
  | activateProperty id =>
    exact (setActive_confined h true id).map fun r => TenantResponse.propertyChange r.1 r.2.1 r.2.2.1 r.2.2.2
  | bulkCreateProperties payloads =>
    exact (bulkCreateProperties_confined h payloads hf htenant).map TenantResponse.bulkCreated
  | bulkDeactivateProperties ids =>
    exact (bulkDeactivateProperties_confined h ids db).map TenantResponse.bulkDeactivated
  | propertyAuditLogs id limit offset =>
    exact Confined.query (fun r : List AuditLog × Nat => TenantResponse.auditLogs r.1 r.2)
      (getPropertyAuditLogs_view h id limit offset)
  | activateConnector id payload =>
    exact (activateConnector_confined h hf id payload).map fun r => TenantResponse.activated r.1 r.2.1 r.2.2
  | listConnectors id => exact Confined.query TenantResponse.connectors (listConnectors_view h id)
  | updateConnector id pcId payload =>
    exact (updateConnector_confined h id pcId payload).map TenantResponse.connectorChange
  | deactivateConnector id pcId =>
    exact (deactivateConnector_confined h id pcId).map TenantResponse.connectorChange
  | reactivateConnector id pcId =>
    exact (reactivateConnector_confined h id pcId).map TenantResponse.connectorChange
  | listCatalogue limit offset propertyId =>
    exact Confined.query TenantResponse.catalogue (listActiveConnectors_view h limit offset propertyId)

end

/-- Two databases agree on the rows of the tenant (its properties, their bindings and their audit rows) and on
the catalogue, and also on the order in which a scan returns these. -/
structure Db.Agree (tenant : Uuid) (db₁ db₂ : Db) : Prop where
  properties : db₁.properties.restrict (fun p => p.tenantId == tenant) =
    db₂.properties.restrict (fun p => p.tenantId == tenant)
  bindings : db₁.propertyConnectors.restrict (fun pc => db₁.owns tenant pc.propertyId) =
    db₂.propertyConnectors.restrict (fun pc => db₂.owns tenant pc.propertyId)
  auditLogs : db₁.auditLogs.restrict (db₁.auditOf tenant) = db₂.auditLogs.restrict (db₂.auditOf tenant)
  catalogue : db₁.connectors = db₂.connectors

theorem Db.agree_iff_view {tenant : Uuid} {db₁ db₂ : Db} :
    Db.Agree tenant db₁ db₂ ↔ db₁.view tenant = db₂.view tenant := by
  constructor
  · rintro ⟨h1, h2, h3, h4⟩
    exact Db.ext rfl rfl rfl rfl rfl h1 h4 h2 h3 rfl
  · intro h
    have hcatalogue := congrArg Db.connectors h
    exact ⟨congrArg Db.properties h, congrArg Db.propertyConnectors h, congrArg Db.auditLogs h, hcatalogue⟩

/-- From two databases that agree on the rows of a tenant and on the catalogue, a request with a context of
that tenant gives the same answer or the same error; the databases it leaves agree again, and nothing outside
the rows of the tenant has changed in either. -/
theorem tenant_noninterference {env : PlatformEnv} {settings : Settings} {draw : Draw} {ctx : RequestContext}
    {tenant : Uuid} {db₁ db₂ : Db} (request : TenantRequest) (hctx : ctx.IsOf env tenant)
    (htenant₁ : (db₁.tenants.find? tenant).isSome = true)
    (htenant₂ : (db₂.tenants.find? tenant).isSome = true) (hfresh₁ : draw.Fresh 0 request.drawn db₁)
    (hfresh₂ : draw.Fresh 0 request.drawn db₂) (hagree : Db.Agree tenant db₁ db₂) :
    (∃ e, request.run env settings draw ctx db₁ = .error e ∧
      request.run env settings draw ctx db₂ = .error e) ∨
      ∃ response db₁' db₂', request.run env settings draw ctx db₁ = .ok (response, db₁') ∧
        request.run env settings draw ctx db₂ = .ok (response, db₂') ∧ Db.Agree tenant db₁' db₂' ∧
        db₁'.frame tenant = db₁.frame tenant ∧ db₂'.frame tenant = db₂.frame tenant := by
  have h₁ : TenantConfined tenant (request.run env settings draw ctx) db₁ :=
    TenantRequest.confined hctx htenant₁ request hfresh₁
  have h₂ : TenantConfined tenant (request.run env settings draw ctx) db₂ :=
    TenantRequest.confined hctx htenant₂ request hfresh₂
  rcases Confined.noninterference (Db.agree_iff_view.mp hagree) h₁ h₂
    with h | ⟨response, db₁', db₂', h1, h2, hview, hframe⟩
  · exact Or.inl h
  · exact Or.inr ⟨response, db₁', db₂', h1, h2, Db.agree_iff_view.mpr hview, hframe⟩

/-! ### Two databases that agree on a tenant -/

namespace TwoDatabases

def tenant : Uuid := .ofNat 1

def ownProperty : Property := ⟨.ofNat 2, tenant, "Acme Coffee", some "ChIJN1t_tDeuEmsR", none, true, 0, 0⟩

def otherProperty : Property := ⟨.ofNat 4, .ofNat 3, "Bolt Tea", some "ChIJN1t_tDeuEmsR", none, true, 0, 0⟩

/-- The tenant alone. -/
def db₁ : Db :=
  { Db.empty with
    tenants := Table.empty.insert ⟨tenant, "acme"⟩
    properties := Table.empty.insert ownProperty }

/-- The tenant next to another one, which has a property with the same place id. -/
def db₂ : Db :=
  { Db.empty with
    tenants := (Table.empty.insert ⟨.ofNat 3, "bolt"⟩).insert ⟨tenant, "acme"⟩
    properties := (Table.empty.insert otherProperty).insert ownProperty }

def env : PlatformEnv := ⟨Uuid.parse, Py.asciiLower, fun s t => decide (s ≤ t), fun _ secret => secret⟩

def draw : Draw := ⟨5, fun n => .ofNat (10 + n), fun n => .ofNat (20 + n), .ofNat 30, 0⟩

def ctx : RequestContext := ⟨(Uuid.ofNat 7).str, some tenant.str, .str "OWNER", false⟩

/-- The place id of the new property is taken by the tenant's own one. -/
def request : TenantRequest := .createProperty ⟨"Acme Airport", some "ChIJN1t_tDeuEmsR", none⟩

private theorem fresh (db : Db) (hp : db.properties.find? (draw.id 0) = none)
    (hpc : db.propertyConnectors.rows = []) (ha : db.auditLogs.rows = []) : draw.Fresh 0 1 db where
  inj i j _ _ _ := by omega
  property i _ hi := by
    obtain rfl : i = 0 := by omega
    exact Table.fresh_iff_find?.mpr hp
  binding i _ _ := by intro r hr; rw [← Table.mem_rows, hpc] at hr; cases hr
  bindingRef i _ _ := by intro r hr; rw [← Table.mem_rows, hpc] at hr; cases hr
  auditRef i _ _ := by intro r hr; rw [← Table.mem_rows, ha] at hr; cases hr

theorem request_noninterference :
    (∃ e, request.run env {} draw ctx db₁ = .error e ∧ request.run env {} draw ctx db₂ = .error e) ∨
      ∃ response db₁' db₂', request.run env {} draw ctx db₁ = .ok (response, db₁') ∧
        request.run env {} draw ctx db₂ = .ok (response, db₂') ∧ Db.Agree tenant db₁' db₂' ∧
        db₁'.frame tenant = db₁.frame tenant ∧ db₂'.frame tenant = db₂.frame tenant :=
  tenant_noninterference request
    ⟨tenant.str, rfl, Uuid.parse_str tenant, fun t ht => by
      rw [Uuid.parse_str] at ht
      exact (Option.some.inj ht).symm⟩
    rfl rfl (fresh db₁ rfl rfl rfl) (fresh db₂ rfl rfl rfl) ⟨rfl, rfl, rfl, rfl⟩

end TwoDatabases

end RatingLift
