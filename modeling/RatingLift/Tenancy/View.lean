import RatingLift.Connectors.Catalogue
import RatingLift.Library.Noninterference
import RatingLift.Property.Service
import RatingLift.PropertyConnector.Service

/-!
# What belongs to a tenant

The rows of a tenant are its properties, the bindings of these, and the audit rows about them.  `Db.view`
keeps these and the catalogue, and nothing else of the database; `Db.frame` keeps the rest.  The writes of the
tenant services change the view in the same way as the database and keep the frame (`view_insertProperty`,
`view_updateProperty`, `view_insertBinding`, `view_updateBinding`), and their queries find the same rows in
both.
-/

namespace RatingLift

open Library

namespace Db

variable (tenant : Uuid) (db : Db)

/-- The property `pid` belongs to the tenant. -/
def owns (pid : Uuid) : Bool := (db.properties.find? pid).any fun p => p.tenantId == tenant

/-- The row is about a property of the tenant. -/
def auditOf (a : AuditLog) : Bool := a.entity == "property" && a.entityId.any (db.owns tenant)

/-- The part of the database a tenant may see and change, with the catalogue. -/
def view : Db :=
  { Db.empty with
    tenants := Table.empty.insert ⟨tenant, ""⟩
    properties := db.properties.restrict fun p => p.tenantId == tenant
    connectors := db.connectors
    propertyConnectors := db.propertyConnectors.restrict fun pc => db.owns tenant pc.propertyId
    auditLogs := db.auditLogs.restrict (db.auditOf tenant) }

/-- The part of the database that does not belong to the tenant. -/
def frame : Db :=
  { db with
    properties := db.properties.restrict fun p => !(p.tenantId == tenant)
    propertyConnectors := db.propertyConnectors.restrict fun pc => !db.owns tenant pc.propertyId
    auditLogs := db.auditLogs.restrict fun a => !db.auditOf tenant a }

def insertProperty (prop : Property) : Db := { db with properties := db.properties.insert prop }

def updateProperty (prop : Property) : Db := { db with properties := db.properties.update prop }

def insertBinding (pc : PropertyConnector) : Db :=
  { db with propertyConnectors := db.propertyConnectors.insert pc }

def updateBinding (pc : PropertyConnector) : Db :=
  { db with propertyConnectors := db.propertyConnectors.update pc }

variable {tenant db}

theorem owns_of_mem {p : Property} (hp : p ∈ db.properties) (ht : p.tenantId = tenant) :
    db.owns tenant p.id = true := by
  have hf : db.properties.find? p.id = some p := Table.mem_iff_find?.mp hp
  simp [owns, hf, ht]

/-! ### Writes -/

/-- A write of the properties that leaves their owners, as far as bindings and audit rows name them, changes
the view and the frame in the properties only. -/
private theorem owner_congr (tenant : Uuid) (db db' : Db)
    (hpc : db'.propertyConnectors = db.propertyConnectors) (haudit : db'.auditLogs = db.auditLogs)
    (hb : ∀ pc ∈ db.propertyConnectors, db'.owns tenant pc.propertyId = db.owns tenant pc.propertyId)
    (ha : ∀ a ∈ db.auditLogs, ∀ id, a.entityId = some id → db'.owns tenant id = db.owns tenant id) :
    (db'.view tenant).propertyConnectors = (db.view tenant).propertyConnectors ∧
      (db'.view tenant).auditLogs = (db.view tenant).auditLogs ∧
      (db'.frame tenant).propertyConnectors = (db.frame tenant).propertyConnectors ∧
      (db'.frame tenant).auditLogs = (db.frame tenant).auditLogs := by
  have haudit' : ∀ a ∈ db.auditLogs, db'.auditOf tenant a = db.auditOf tenant a := by
    intro a hm
    unfold auditOf
    cases he : a.entityId with
    | none => rfl
    | some id => simp [ha a hm id he]
  simp only [view, frame, hpc, haudit]
  refine ⟨Table.restrict_congr hb, Table.restrict_congr haudit', Table.restrict_congr ?_,
    Table.restrict_congr ?_⟩
  · intro pc hm; rw [hb pc hm]
  · intro a hm; rw [haudit' a hm]

/-- A new property of the tenant, under an id that occurs nowhere. -/
theorem view_insertProperty {prop : Property} (ht : prop.tenantId = tenant)
    (hfresh : db.properties.Fresh prop.id) (hb : ∀ pc ∈ db.propertyConnectors, pc.propertyId ≠ prop.id)
    (ha : ∀ a ∈ db.auditLogs, a.entityId ≠ some prop.id) :
    (db.view tenant).insertProperty prop = (db.insertProperty prop).view tenant ∧
      (db.insertProperty prop).frame tenant = db.frame tenant := by
  have howns : ∀ pid, pid ≠ prop.id → (db.insertProperty prop).owns tenant pid = db.owns tenant pid := by
    intro pid hne
    unfold owns insertProperty
    rw [Table.find?_insert hfresh, if_neg (fun h => hne h.symm)]
  obtain ⟨h1, h2, h3, h4⟩ := owner_congr tenant db (db.insertProperty prop) rfl rfl
    (fun pc hm => howns _ (hb pc hm)) (fun a hm id he => howns _ (fun h => ha a hm (h ▸ he)))
  constructor
  · refine Db.ext rfl rfl rfl rfl rfl ?_ rfl h1.symm h2.symm rfl
    show (db.properties.restrict _).insert prop = (db.properties.insert prop).restrict _
    rw [Table.restrict_insert hfresh, if_pos (by simp [ht])]
  · refine Db.ext rfl rfl rfl rfl rfl ?_ rfl h3 h4 rfl
    show (db.properties.insert prop).restrict _ = db.properties.restrict _
    rw [Table.restrict_insert hfresh, if_neg (by simp [ht])]

/-- A property of the tenant gets a new row under the same id and tenant. -/
theorem view_updateProperty {p prop : Property} (hp : p ∈ db.properties) (hpt : p.tenantId = tenant)
    (hid : prop.id = p.id) (ht : prop.tenantId = tenant) :
    (db.view tenant).updateProperty prop = (db.updateProperty prop).view tenant ∧
      (db.updateProperty prop).frame tenant = db.frame tenant := by
  have hsame : ∀ x ∈ db.properties, x.id = prop.id → x.tenantId = tenant := by
    intro x hx hxid
    rw [Table.eq_of_key_eq hx hp (hxid.trans hid)]
    exact hpt
  have howns : ∀ pid, (db.updateProperty prop).owns tenant pid = db.owns tenant pid := by
    intro pid
    by_cases hpid : prop.id = pid
    · have h1 : (db.updateProperty prop).owns tenant pid = true := by
        have hm : prop ∈ db.properties.update prop := Table.mem_update.mpr (Or.inl ⟨rfl, p, hp, hid.symm⟩)
        rw [← hpid]
        exact owns_of_mem (show prop ∈ (db.updateProperty prop).properties from hm) ht
      have h2 : db.owns tenant pid = true := by
        rw [← hpid, hid]
        exact owns_of_mem hp hpt
      rw [h1, h2]
    · have : (db.properties.update prop).find? pid = db.properties.find? pid := Table.find?_update_of_ne hpid
      simp [owns, updateProperty, this]
  obtain ⟨h1, h2, h3, h4⟩ := owner_congr tenant db (db.updateProperty prop) rfl rfl
    (fun pc _ => howns _) (fun a _ id _ => howns _)
  constructor
  · refine Db.ext rfl rfl rfl rfl rfl ?_ rfl h1.symm h2.symm rfl
    refine (Table.restrict_update ?_).symm
    intro x hx hk
    rw [hsame x hx hk, ht]
  · refine Db.ext rfl rfl rfl rfl rfl ?_ rfl h3 h4 rfl
    show (db.properties.update prop).restrict _ = db.properties.restrict _
    rw [Table.restrict_update (fun x hx hk => by rw [hsame x hx hk, ht])]
    refine Table.update_restrict_of_out ?_
    intro x hx hxp hk
    rw [hsame x hx hk] at hxp
    simp at hxp

/-- A new binding of one of the tenant's properties. -/
theorem view_insertBinding {pc : PropertyConnector} (ho : db.owns tenant pc.propertyId = true)
    (hfresh : db.propertyConnectors.Fresh pc.id) :
    (db.view tenant).insertBinding pc = (db.insertBinding pc).view tenant ∧
      (db.insertBinding pc).frame tenant = db.frame tenant := by
  constructor
  · refine Db.ext rfl rfl rfl rfl rfl rfl rfl ?_ rfl rfl
    show (db.propertyConnectors.restrict _).insert pc =
      (db.propertyConnectors.insert pc).restrict fun x => db.owns tenant x.propertyId
    rw [Table.restrict_insert hfresh, if_pos ho]
  · refine Db.ext rfl rfl rfl rfl rfl rfl rfl ?_ rfl rfl
    show (db.propertyConnectors.insert pc).restrict (fun x => !db.owns tenant x.propertyId) =
      db.propertyConnectors.restrict _
    rw [Table.restrict_insert hfresh, if_neg (by simp [ho])]

/-- A binding of one of the tenant's properties gets a new row under the same id and property. -/
theorem view_updateBinding {row pc : PropertyConnector} (hrow : row ∈ db.propertyConnectors)
    (hid : pc.id = row.id) (hp : pc.propertyId = row.propertyId) (ho : db.owns tenant row.propertyId = true) :
    (db.view tenant).updateBinding pc = (db.updateBinding pc).view tenant ∧
      (db.updateBinding pc).frame tenant = db.frame tenant := by
  have hsame : ∀ x ∈ db.propertyConnectors, x.id = pc.id → x.propertyId = pc.propertyId := by
    intro x hx hxid
    rw [Table.eq_of_key_eq hx hrow (hxid.trans hid), hp]
  constructor
  · refine Db.ext rfl rfl rfl rfl rfl rfl rfl ?_ rfl rfl
    refine (Table.restrict_update (p := fun x : PropertyConnector => db.owns tenant x.propertyId) ?_).symm
    intro x hx hk
    rw [hsame x hx hk]
  · refine Db.ext rfl rfl rfl rfl rfl rfl rfl ?_ rfl rfl
    show (db.propertyConnectors.update pc).restrict (fun x => !db.owns tenant x.propertyId) =
      db.propertyConnectors.restrict _
    rw [Table.restrict_update (fun x hx hk => by rw [hsame x hx hk])]
    refine Table.update_restrict_of_out ?_
    intro x hx hxp hk
    rw [hsame x hx hk, hp, ho] at hxp
    simp at hxp

end Db

end RatingLift
