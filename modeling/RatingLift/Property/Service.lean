import RatingLift.Core.Dependencies
import RatingLift.Db.Query
import RatingLift.Library.Fallible

/-!
# Properties of a tenant

The service behind the property routes.  Every query passes through `filterByTenant`; the constraints of the
table are checked where a row is flushed.
-/

namespace RatingLift

open Library

structure PropertyCreate where
  name : String
  googlePlaceId : Option String
  googleMapsUrl : Option String

/-- A partial update.  A field that was not set is `none`; a field set to null is `some none`. -/
structure PropertyUpdate where
  name : Option (Option String) := none
  googlePlaceId : Option (Option String) := none
  googleMapsUrl : Option (Option String) := none
  isActive : Option (Option Bool) := none

/-- `not payload.model_dump(exclude_unset=True)` -/
def PropertyUpdate.isEmpty (payload : PropertyUpdate) : Bool :=
  payload.name.isNone && payload.googlePlaceId.isNone && payload.googleMapsUrl.isNone &&
  payload.isActive.isNone

namespace Property

/-- `_snapshot` -/
def snapshot (prop : Property) : Dict :=
  [("id", .str prop.id.str), ("tenant_id", .str prop.tenantId.str), ("name", .str prop.name),
    ("google_place_id", Json.ofOption prop.googlePlaceId),
    ("google_maps_url", Json.ofOption prop.googleMapsUrl),
    ("is_active", .bool prop.isActive)]

/-- The assignments of `update_property`. -/
def assign (prop : Property) (payload : PropertyUpdate) : Property :=
  { prop with
    name := (payload.name.getD none).getD prop.name
    googlePlaceId := payload.googlePlaceId.getD prop.googlePlaceId
    googleMapsUrl := payload.googleMapsUrl.getD prop.googleMapsUrl
    isActive := (payload.isActive.getD none).getD prop.isActive }

/-- The UPDATE of a flush sets `updated_at`; where no column changed there is no UPDATE. -/
def touch (loaded : Property) (now : Instant) (prop : Property) : Property :=
  if prop = loaded then loaded else { prop with updatedAt := now }

theorem touch_id {now : Instant} {loaded prop : Property} (h : prop.id = loaded.id) :
    (loaded.touch now prop).id = loaded.id := by
  unfold touch
  split
  · rfl
  · exact h

theorem touch_tenantId {now : Instant} {loaded prop : Property} (h : prop.tenantId = loaded.tenantId) :
    (loaded.touch now prop).tenantId = loaded.tenantId := by
  unfold touch
  split
  · rfl
  · exact h

/-- The row with `is_active` flipped to `active`. -/
def withActive (prop : Property) (now : Instant) (active : Bool) : Property :=
  { prop with isActive := active, updatedAt := now }

end Property

namespace PropertyService

def duplicatePlaceIdDetail : String := "A property with this google_place_id already exists for this tenant"

variable (env : PlatformEnv) (db : Db) (ctx : RequestContext)

/-- The tenant id of the context as `_coerce_uuid` reads it; `str(None)` is `"None"`. -/
def tenantUuid : Except Exn Uuid := coerceUuid (.text (ctx.tenantId.getD "None")) "Invalid property id"

/-- The row violates `ux_properties_tenant_place`: another property of the tenant has its place id. -/
def placeTaken (prop : Property) : Bool :=
  prop.googlePlaceId.isSome &&
    (db.properties.first fun p =>
      p.id != prop.id && p.tenantId == prop.tenantId && p.googlePlaceId == prop.googlePlaceId).isSome

/-- The INSERT of a property, under the unique index and the foreign key to its tenant. -/
def insertProperty (prop : Property) : Except Exn Db :=
  if placeTaken db prop then .error (.integrityError "ux_properties_tenant_place")
  else if (db.tenants.find? prop.tenantId).isNone then .error (.integrityError "properties_tenant_id_fkey")
  else .ok { db with properties := db.properties.insert prop }

theorem insertProperty_ok {db db' : Db} {prop : Property} (h : insertProperty db prop = .ok db') :
    db' = { db with properties := db.properties.insert prop } := by
  unfold insertProperty at h
  split at h
  · cases h
  · split at h
    · cases h
    · exact (Except.ok.inj h).symm

/-- Under a tenant that exists, an INSERT fails on the place id only. -/
theorem insertProperty_of_tenant {db : Db} (prop : Property)
    (h : (db.tenants.find? prop.tenantId).isSome = true) :
    insertProperty db prop =
      if placeTaken db prop then .error (.integrityError "ux_properties_tenant_place")
      else .ok { db with properties := db.properties.insert prop } := by
  unfold insertProperty
  rw [Option.isNone_eq_false_iff.mpr h]
  rfl

/-- `_flush_or_conflict`: the unique violation becomes a 409, any other passes on. -/
def conflict (e : Exn) : Exn :=
  if e = .integrityError "ux_properties_tenant_place" then .http 409 duplicatePlaceIdDetail else e

/-- The row of a new property: active, under an id the database generates. -/
def newProperty (draw : Draw) (n : Nat) (tenantId : Uuid) (name : String)
    (googlePlaceId googleMapsUrl : Option String) :
    Property where
  id := draw.id n
  tenantId := tenantId
  name := name
  googlePlaceId := googlePlaceId
  googleMapsUrl := googleMapsUrl
  isActive := true
  createdAt := draw.now
  updatedAt := draw.now

/-- `create_property` -/
def createProperty (draw : Draw) (payload : PropertyCreate) : Except Exn (Property × Db) := do
  let tenantId ← tenantUuid ctx
  let prop := newProperty draw 0 tenantId payload.name payload.googlePlaceId payload.googleMapsUrl
  match insertProperty db prop with
  | .error e => .error (conflict e)
  | .ok db => .ok (prop, db)

/-- `get_properties`: the page and the number of all rows. -/
def getProperties (isActive : Option Bool) (q : Option String) (limit offset : Int) :
    Except Exn (List Property × Nat) := do
  let tenant ← filterByTenant env.pgUuid ctx.tenantId
  let matches_ (p : Property) : Bool :=
    match q with
    | none => true
    | some q =>
      let pattern := "%" ++ Py.strip q ++ "%"
      q == "" || ilike env.pgLower p.name pattern || p.googlePlaceId.any fun g => ilike env.pgLower g pattern
  let rows := db.properties.select fun p =>
    p.tenantId == tenant && (isActive.all fun b => p.isActive == b) && matches_ p
  return (page limit offset (newestFirst Property.createdAt rows), rows.length)

/-- `admin_search_properties`, which has no tenant filter of its own. -/
def adminSearchProperties (db : Db) (tenantId : Option RawId) (isActive : Option Bool) (q : Option String)
    (limit offset : Int) : Except Exn (List Property × Nat) := do
  let tenant ← tenantId.mapM fun id => coerceUuid id "Invalid property id"
  let matches_ (p : Property) : Bool :=
    match q with
    | none => true
    | some q =>
      let pattern := "%" ++ Py.strip q ++ "%"
      q == "" || ilike env.pgLower p.name pattern || p.googlePlaceId.any fun g => ilike env.pgLower g pattern
  let rows := db.properties.select fun p =>
    (tenant.all fun t => p.tenantId == t) && (isActive.all fun b => p.isActive == b) && matches_ p
  return (page limit offset (newestFirst Property.createdAt rows), rows.length)

/-- The tenant-scoped lookup by id. -/
def findOwned (tenant pid : Uuid) : Option Property :=
  db.properties.first fun p => p.tenantId == tenant && p.id == pid

theorem findOwned_eq_some {db : Db} {tenant pid : Uuid} {p : Property} :
    findOwned db tenant pid = some p ↔ p ∈ db.properties ∧ p.tenantId = tenant ∧ p.id = pid := by
  constructor
  · intro h
    have hfirst := Table.first_some h
    simpa using hfirst
  · rintro ⟨hp, rfl, rfl⟩
    refine Table.first_eq_some_of_unique hp (by simp) ?_
    intro q hq hkeys
    simp only [Bool.and_eq_true, beq_iff_eq] at hkeys
    exact Table.eq_of_key_eq hq hp hkeys.2

theorem findOwned_some {db : Db} {tenant pid : Uuid} {p : Property} (h : findOwned db tenant pid = some p) :
    p ∈ db.properties ∧ p.tenantId = tenant ∧ p.id = pid := findOwned_eq_some.mp h

/-- `get_property_by_id` -/
def getPropertyById (propertyId : RawId) : Except Exn Property := do
  let pid ← coerceUuid propertyId "Invalid property id"
  let tenant ← filterByTenant env.pgUuid ctx.tenantId
  match findOwned db tenant pid with
  | none => .error (.http 404 "Property not found")
  | some prop => .ok prop

theorem getPropertyById_stored {env : PlatformEnv} {db : Db} {ctx : RequestContext} {propertyId : RawId}
    {prop : Property} (h : getPropertyById env db ctx propertyId = .ok prop) :
    db.properties.find? prop.id = some prop := by
  obtain ⟨pid, _, h⟩ := Fallible.bind_eq_ok.mp h
  obtain ⟨tenant, _, h⟩ := Fallible.bind_eq_ok.mp h
  split at h
  · cases h
  · rename_i found hfound
    cases h
    exact Table.mem_iff_find?.mp (Table.first_some hfound).1

/-- `update_property` -/
def updateProperty (draw : Draw) (propertyId : RawId) (payload : PropertyUpdate) :
    Except Exn ((Property × Dict × Dict) × Db) := do
  let prop ← getPropertyById env db ctx propertyId
  if payload.isEmpty then .error (.http 400 "No fields provided to update")
  else
    let row := prop.touch draw.now (prop.assign payload)
    if placeTaken db row then .error (.http 409 duplicatePlaceIdDetail)
    else .ok ((row, prop.snapshot, row.snapshot), { db with properties := db.properties.update row })

/-- `deactivate_property` and `activate_property`, which set `is_active` to `active`; the last component says
whether anything changed. -/
def setActive (active : Bool) (draw : Draw) (propertyId : RawId) :
    Except Exn ((Property × Dict × Dict × Bool) × Db) := do
  let prop ← getPropertyById env db ctx propertyId
  if prop.isActive == active then .ok ((prop, prop.snapshot, prop.snapshot, false), db)
  else
    let row := prop.withActive draw.now active
    .ok ((row, prop.snapshot, row.snapshot, true), { db with properties := db.properties.update row })

/-- `deactivate_property` -/
def deactivateProperty (draw : Draw) (propertyId : RawId) :
    Except Exn ((Property × Dict × Dict × Bool) × Db) :=
  setActive env db ctx false draw propertyId

/-- `activate_property` -/
def activateProperty (draw : Draw) (propertyId : RawId) : Except Exn ((Property × Dict × Dict × Bool) × Db) :=
  setActive env db ctx true draw propertyId

/-! ### Bulk operations -/

inductive BulkCreateResult where
  | created (index : Nat) (property : Property) (after : Dict)
  | failed (index : Nat) (error : String) (status : Nat)

/-- One item of `bulk_create_properties`, inside its savepoint. -/
def bulkCreateItem (tenant : Uuid) (draw : Draw) (db : Db) (index : Nat) (payload : PropertyCreate) :
    BulkCreateResult × Db :=
  let prop := newProperty draw index tenant payload.name payload.googlePlaceId none
  match insertProperty db prop with
  | .ok db => (.created index prop prop.snapshot, db)
  | .error e =>
    if e = .integrityError "ux_properties_tenant_place" then (.failed index duplicatePlaceIdDetail 409, db)
    else (.failed index "integrity_error" 400, db)

/-- The loop of `bulk_create_properties`. -/
def bulkCreateFrom (tenant : Uuid) (draw : Draw) (db : Db) (index : Nat) : List PropertyCreate →
    List BulkCreateResult × Db
  | [] => ([], db)
  | payload :: payloads =>
    let (result, db) := bulkCreateItem tenant draw db index payload
    let (results, db) := bulkCreateFrom tenant draw db (index + 1) payloads
    (result :: results, db)

/-- `bulk_create_properties` -/
def bulkCreateProperties (draw : Draw) (payloads : List PropertyCreate) :
    Except Exn (List BulkCreateResult × Db) := do
  let tenant ← tenantUuid ctx
  return bulkCreateFrom tenant draw db 0 payloads

inductive BulkDeactivateResult where
  | done (id : String) (changed : Bool) (property : Property) (before after : Dict)
  | failed (id : String) (error : String) (status : Nat)

/-- The text of an id in a result: `str(raw_id)`. -/
def rawText : RawId → String
  | .uuid u => u.str
  | .text s => s

/-- One item of `bulk_deactivate_properties`. -/
def bulkDeactivateItem (draw : Draw) (rawId : RawId) : Except Exn (BulkDeactivateResult × Db) :=
  match coerceUuid rawId "Invalid property id" with
  | .error _ => .ok (.failed (rawText rawId) "Invalid property id" 400, db)
  | .ok pid => do
    let tenant ← filterByTenant env.pgUuid ctx.tenantId
    match findOwned db tenant pid with
    | none => .ok (.failed pid.str "Property not found" 404, db)
    | some prop =>
      if !prop.isActive then .ok (.done pid.str false prop prop.snapshot prop.snapshot, db)
      else
        let row := prop.withActive draw.now false
        .ok (.done pid.str true row prop.snapshot row.snapshot,
          { db with properties := db.properties.update row })

/-- `bulk_deactivate_properties` -/
def bulkDeactivateProperties (draw : Draw) (db : Db) :
    List RawId → Except Exn (List BulkDeactivateResult × Db)
  | [] => .ok ([], db)
  | rawId :: rawIds => do
    let (result, db) ← bulkDeactivateItem env db ctx draw rawId
    let (results, db) ← bulkDeactivateProperties draw db rawIds
    return (result :: results, db)

/-- `get_property_audit_logs`: the page and the number of all rows. -/
def getPropertyAuditLogs (propertyId : RawId) (limit offset : Int) : Except Exn (List AuditLog × Nat) := do
  let _ ← getPropertyById env db ctx propertyId
  let pid ← coerceUuid propertyId "Invalid property id"
  let rows := db.auditLogs.select fun a => a.entity == "property" && a.entityId == some pid
  return (page limit offset (newestFirst AuditLog.timestamp rows), rows.length)

end PropertyService

end RatingLift
