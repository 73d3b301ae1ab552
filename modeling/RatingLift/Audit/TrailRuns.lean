import RatingLift.Audit.Trail
import RatingLift.Property.BulkCreate

/-!
# The audit trail of a run

A route first flushes its changes and then logs them: `Changed` says how the snapshots changed, `Logged` that
the same entries were added to `audit_logs`.  Both hold of every route, bulk loops included, so the log stays
a journal of the tables (`serve_journalled`) and every trail is complete after every run (`trails_complete`).
-/

namespace RatingLift

open Library Fallible PropertyService PropertyConnectorService

section

variable {db flushed db' : Db} {es es' : List (JournalEntry Audited Json)}

/-- The snapshots changed as `es` says, and nothing was logged. -/
structure Changed (db flushed : Db) (es : List (JournalEntry Audited Json)) : Prop where
  auditLogs : flushed.auditLogs = db.auditLogs
  snapshots : Replays db.snapshot es flushed.snapshot

/-- The entries `es` were logged, and no snapshot changed. -/
structure Logged (flushed db' : Db) (es : List (JournalEntry Audited Json)) : Prop where
  journal : db'.journal = flushed.journal ++ es
  snapshots : db'.snapshot = flushed.snapshot

theorem Changed.nothing : Changed db db [] := ⟨rfl, rfl⟩

theorem Changed.append (h : Changed db flushed es) (h' : Changed flushed db' es') :
    Changed db db' (es ++ es') :=
  ⟨h'.auditLogs.trans h.auditLogs, h.snapshots.append h'.snapshots⟩

theorem Logged.nothing : Logged flushed flushed [] := ⟨(List.append_nil _).symm, rfl⟩

theorem Logged.append (h : Logged flushed db es) (h' : Logged db db' es') : Logged flushed db' (es ++ es') :=
  ⟨by rw [h'.journal, h.journal, List.append_assoc], h'.snapshots.trans h.snapshots⟩

theorem Journalled.step (h : Journalled db) (hchanged : Changed db flushed es)
    (hlogged : Logged flushed db' es) :
    Journalled db' := by
  have hjournal : flushed.journal = db.journal := by
    unfold Db.journal
    rw [hchanged.auditLogs]
  unfold Journalled
  rw [hlogged.journal, hlogged.snapshots, hjournal]
  exact Replays.append h hchanged.snapshots

/-! ### Writing one row -/

theorem changed_property {rows : Table Property} (row : Property)
    (hrows : ∀ id, rows.find? id = if id = row.id then some row else db.properties.find? id) :
    Changed db { db with properties := rows }
      [⟨.property row.id, PropertyConnector.configJson ((db.properties.find? row.id).map Property.snapshot),
        .dict row.snapshot⟩] := by
  have hsnapshot : ({ db with properties := rows } : Db).snapshot =
      Function.update db.snapshot (.property row.id) (.dict row.snapshot) := by
    funext k
    cases k with
    | property id =>
      dsimp only [Db.snapshot]
      rw [hrows]
      by_cases hid : id = row.id
      · rw [if_pos hid, hid, Function.update_self]
        rfl
      · rw [if_neg hid, Function.update_of_ne (by simpa using hid)]
        rfl
    | binding id => rw [Function.update_of_ne (by simp)]; rfl
  refine ⟨rfl, ?_⟩
  rw [hsnapshot]
  exact Replays.single rfl

theorem changed_binding {rows : Table PropertyConnector} (row : PropertyConnector)
    (hrows : ∀ id, rows.find? id = if id = row.id then some row else db.propertyConnectors.find? id) :
    Changed db { db with propertyConnectors := rows }
      [⟨.binding row.id,
        PropertyConnector.configJson ((db.propertyConnectors.find? row.id).map PropertyConnector.snapshot),
        .dict row.snapshot⟩] := by
  have hsnapshot : ({ db with propertyConnectors := rows } : Db).snapshot =
      Function.update db.snapshot (.binding row.id) (.dict row.snapshot) := by
    funext k
    cases k with
    | property id => rw [Function.update_of_ne (by simp)]; rfl
    | binding id =>
      dsimp only [Db.snapshot]
      rw [hrows]
      by_cases hid : id = row.id
      · rw [if_pos hid, hid, Function.update_self]
        rfl
      · rw [if_neg hid, Function.update_of_ne (by simpa using hid)]
        rfl
  refine ⟨rfl, ?_⟩
  rw [hsnapshot]
  exact Replays.single rfl

theorem changed_updateProperty {prop row : Property}
    (h : db.properties.find? row.id = some prop) :
    Changed db { db with properties := db.properties.update row }
      [⟨.property row.id, .dict prop.snapshot, .dict row.snapshot⟩] := by
  have hchanged := changed_property row (Table.find?_update_found h)
  rw [h] at hchanged
  exact hchanged

theorem changed_insertProperty {prop : Property} (h : db.properties.Fresh prop.id) :
    Changed db { db with properties := db.properties.insert prop }
      [⟨.property prop.id, .none, .dict prop.snapshot⟩] := by
  have hchanged := changed_property prop (Table.find?_insert_fresh h)
  rw [Table.fresh_iff_find?.mp h] at hchanged
  exact hchanged

theorem changed_updateBinding {pc row : PropertyConnector}
    (h : db.propertyConnectors.find? row.id = some pc) :
    Changed db { db with propertyConnectors := db.propertyConnectors.update row }
      [⟨.binding row.id, .dict pc.snapshot, .dict row.snapshot⟩] := by
  have hchanged := changed_binding row (Table.find?_update_found h)
  rw [h] at hchanged
  exact hchanged

theorem changed_insertBinding {pc : PropertyConnector} (h : db.propertyConnectors.Fresh pc.id) :
    Changed db { db with propertyConnectors := db.propertyConnectors.insert pc }
      [⟨.binding pc.id, .none, .dict pc.snapshot⟩] := by
  have hchanged := changed_binding pc (Table.find?_insert_fresh h)
  rw [Table.fresh_iff_find?.mp h] at hchanged
  exact hchanged

/-! ### Logging -/

theorem logged_logAction {k : Audited} {id : Uuid} {now : Instant} {actorId : Option String}
    {actorType action : String} {before after : Json} {ipAddress : Option String}
    (h : db.auditLogs.Fresh id) :
    Logged db (logAction db id now actorId actorType action k.entity (some k.id) before after ipAddress)
      [⟨k, before, after⟩] := by
  refine ⟨?_, rfl⟩
  unfold Db.journal logAction
  dsimp only
  rw [Table.rows_insert h, List.filterMap_append]
  have hof :
      Audited.of ⟨id, actorId.bind Uuid.parse, coerceActorType actorType, action, k.entity, some k.id, before,
      after, ipAddress, now⟩ = some k := Audited.of_eq_some.mpr ⟨rfl, rfl⟩
  rw [List.filterMap_cons_some (b := ⟨k, before, after⟩) (by unfold AuditLog.journalEntry; rw [hof]; rfl)]
  rfl

/-! ### The property service -/

variable {env : PlatformEnv} {ctx : RequestContext} {draw : Draw} {ipAddress : Option String}

theorem createProperty_changed {payload : PropertyCreate} {prop : Property}
    (hfresh : db.properties.Fresh (draw.id 0))
    (h : createProperty db ctx draw payload = .ok (prop, flushed)) :
    Changed db flushed [⟨.property prop.id, .none, .dict prop.snapshot⟩] := by
  obtain ⟨tenant, _, h⟩ := bind_eq_ok.mp h
  dsimp only at h
  split at h
  · cases h
  · rename_i db' hinsert
    cases h
    rw [insertProperty_ok hinsert]
    exact changed_insertProperty hfresh

theorem updateProperty_changed {propertyId : RawId} {payload : PropertyUpdate} {prop : Property}
    {before after : Dict}
    (h : updateProperty env db ctx draw propertyId payload = .ok ((prop, before, after), flushed)) :
    Changed db flushed [⟨.property prop.id, .dict before, .dict after⟩] := by
  obtain ⟨loaded, hloaded, h⟩ := bind_eq_ok.mp h
  dsimp only at h
  split at h
  · cases h
  · split at h
    · cases h
    · cases h
      have hid : (loaded.touch draw.now (loaded.assign payload)).id = loaded.id := Property.touch_id rfl
      exact changed_updateProperty (hid ▸ getPropertyById_stored hloaded)

theorem setActive_changed {active : Bool} {propertyId : RawId} {prop : Property} {before after : Dict}
    {changed : Bool}
    (h : setActive env db ctx active draw propertyId = .ok ((prop, before, after, changed), flushed)) :
    changed = true → Changed db flushed [⟨.property prop.id, .dict before, .dict after⟩] := by
  obtain ⟨loaded, hloaded, h⟩ := bind_eq_ok.mp h
  dsimp only at h
  split at h
  · cases h
    intro hchanged
    cases hchanged
  · cases h
    intro _
    exact changed_updateProperty (getPropertyById_stored hloaded)

/-- What the route logs for a result. -/
def createdEntry : BulkCreateResult → Option (JournalEntry Audited Json)
  | .created _ prop after => some ⟨.property prop.id, .none, .dict after⟩
  | .failed _ _ _ => none

theorem bulkCreateItem_changed (tenant : Uuid) {index : Nat} (payload : PropertyCreate)
    (hfresh : db.properties.Fresh (draw.id index)) :
    Changed db (bulkCreateItem tenant draw db index payload).2
      (createdEntry (bulkCreateItem tenant draw db index payload).1).toList := by
  unfold bulkCreateItem
  dsimp only
  cases hinsert : insertProperty db
    (newProperty draw index tenant payload.name payload.googlePlaceId none) with
  | ok db' =>
    rw [insertProperty_ok hinsert]
    exact changed_insertProperty hfresh
  | error e =>
    dsimp only
    split
    · exact .nothing
    · exact .nothing

theorem bulkCreateItem_newKeys (tenant : Uuid) {index n : Nat} (payload : PropertyCreate)
    (h : db.properties.NewKeys draw.id index n) :
    (bulkCreateItem tenant draw db index payload).2.properties.NewKeys draw.id (index + 1) n := by
  unfold bulkCreateItem
  dsimp only
  cases hinsert : insertProperty db
    (newProperty draw index tenant payload.name payload.googlePlaceId none) with
  | ok db' =>
    rw [insertProperty_ok hinsert]
    exact h.insert rfl
  | error e =>
    dsimp only
    split
    · exact h.tail
    · exact h.tail

theorem bulkCreateFrom_changed (tenant : Uuid) (payloads : List PropertyCreate) : ∀ {index : Nat} {db : Db},
    db.properties.NewKeys draw.id index (index + payloads.length) →
    Changed db (bulkCreateFrom tenant draw db index payloads).2
      ((bulkCreateFrom tenant draw db index payloads).1.filterMap createdEntry) := by
  induction payloads with
  | nil => intro index db _; exact .nothing
  | cons payload payloads ih =>
    intro index db h
    rw [List.length_cons] at h
    have hitem := bulkCreateItem_changed tenant payload (h.head (by omega))
    have hkeys := bulkCreateItem_newKeys tenant payload h
    rw [show index + (payloads.length + 1) = index + 1 + payloads.length by omega] at hkeys
    have hall := hitem.append (ih hkeys)
    simp only [bulkCreateFrom]
    rw [List.filterMap_cons]
    cases hentry : createdEntry (bulkCreateItem tenant draw db index payload).1 with
    | none =>
      rw [hentry] at hall
      exact hall
    | some e =>
      rw [hentry] at hall
      exact hall

/-- What the route logs for a result. -/
def deactivatedEntry : BulkDeactivateResult → Option (JournalEntry Audited Json)
  | .done _ true prop before after => some ⟨.property prop.id, .dict before, .dict after⟩
  | _ => none

theorem bulkDeactivateItem_changed {rawId : RawId} {result : BulkDeactivateResult}
    (h : bulkDeactivateItem env db ctx draw rawId = .ok (result, flushed)) :
    Changed db flushed (deactivatedEntry result).toList := by
  unfold bulkDeactivateItem at h
  split at h
  · cases h
    exact .nothing
  · obtain ⟨tenant, _, h⟩ := bind_eq_ok.mp h
    dsimp only at h
    split at h
    · cases h
      exact .nothing
    · rename_i prop hprop
      split at h
      · cases h
        exact .nothing
      · cases h
        exact changed_updateProperty (Table.mem_iff_find?.mp (Table.first_some hprop).1)

theorem bulkDeactivateProperties_changed (ids : List RawId) :
    ∀ {db flushed : Db} {results : List BulkDeactivateResult},
    bulkDeactivateProperties env ctx draw db ids = .ok (results, flushed) →
    Changed db flushed (results.filterMap deactivatedEntry) := by
  induction ids with
  | nil =>
    intro db flushed results h
    cases h
    exact .nothing
  | cons rawId ids ih =>
    intro db flushed results h
    obtain ⟨⟨result, db₁⟩, hitem, h⟩ := bind_eq_ok.mp h
    obtain ⟨⟨rest, db₂⟩, hrest, h⟩ := bind_eq_ok.mp h
    cases h
    have hall := (bulkDeactivateItem_changed hitem).append (ih hrest)
    rw [List.filterMap_cons]
    cases hentry : deactivatedEntry result with
    | none =>
      rw [hentry] at hall
      exact hall
    | some e =>
      rw [hentry] at hall
      exact hall

/-! ### The property routes -/

theorem logPropertyChange_logged {n : Nat} {action : String} {id : Uuid} {before : Json} {after : Dict}
    (h : db.auditLogs.Fresh (draw.auditId n)) :
    Logged db (logPropertyChange draw ipAddress ctx n db action id before after)
      [⟨.property id, before, .dict after⟩] :=
  logged_logAction (k := .property id) h

theorem createPropertyEndpoint_journalled {payload : PropertyCreate} {r : PropertyResponse × Db}
    (h : Journalled db) (hfresh : db.properties.Fresh (draw.id 0))
    (hlog : db.auditLogs.Fresh (draw.auditId 0))
    (hr : createPropertyEndpoint db draw ipAddress ctx payload = .ok r) : Journalled r.2 := by
  obtain ⟨⟨prop, flushed⟩, hservice, hr⟩ := bind_eq_ok.mp hr
  cases hr
  have hchanged := createProperty_changed hfresh hservice
  have hlog : flushed.auditLogs.Fresh (draw.auditId 0) := hchanged.auditLogs ▸ hlog
  exact h.step hchanged (logPropertyChange_logged hlog)

theorem updatePropertyEndpoint_journalled {propertyId : Uuid} {payload : PropertyUpdate}
    {r : PropertyResponse × Db} (h : Journalled db) (hlog : db.auditLogs.Fresh (draw.auditId 0))
    (hr : updatePropertyEndpoint env db draw ipAddress ctx propertyId payload = .ok r) : Journalled r.2 := by
  obtain ⟨⟨⟨prop, before, after⟩, flushed⟩, hservice, hr⟩ := bind_eq_ok.mp hr
  cases hr
  have hchanged := updateProperty_changed hservice
  have hlog : flushed.auditLogs.Fresh (draw.auditId 0) := hchanged.auditLogs ▸ hlog
  exact h.step hchanged (logPropertyChange_logged hlog)

/-- The two routes that log and commit only a change. -/
theorem setActive_journalled {active : Bool} {propertyId : Uuid} {action : String}
    {r : (Property × Dict × Dict × Bool) × Db} (h : Journalled db)
    (hlog : db.auditLogs.Fresh (draw.auditId 0))
    (hr : setActive env db ctx active draw (.uuid propertyId) = .ok r) :
    Journalled (endPropertyRoute db draw ipAddress ctx action r).2 := by
  obtain ⟨⟨prop, before, after, changed⟩, flushed⟩ := r
  cases changed with
  | false => exact h
  | true =>
    have hchanged := setActive_changed hr rfl
    have hlog : flushed.auditLogs.Fresh (draw.auditId 0) := hchanged.auditLogs ▸ hlog
    exact h.step hchanged (logPropertyChange_logged hlog)

/-- One turn of a loop that logs the changed rows, of which `count` were logged so far. -/
inductive LogTurn (draw : Draw) (ipAddress : Option String) (ctx : RequestContext) (count count' : Nat)
    (db : Db) : Option (JournalEntry Audited Json) → Db → Prop
  | nothing (h : count' = count) : LogTurn draw ipAddress ctx count count' db none db
  | change (action : String) (id : Uuid) (before : Json) (after : Dict) (h : count' = count + 1) :
    LogTurn draw ipAddress ctx count count' db (some ⟨.property id, before, .dict after⟩)
      (logPropertyChange draw ipAddress ctx count db action id before after)

theorem foldl_logged {ρ γ : Type} (count : γ → Nat) (entry : ρ → Option (JournalEntry Audited Json))
    (turn : γ × Db → ρ → γ × Db)
    (hturn : ∀ acc r, LogTurn draw ipAddress ctx (count acc.1) (count (turn acc r).1) acc.2
      (entry r) (turn acc r).2) {n : Nat} (raw : List ρ) :
    ∀ acc : γ × Db, acc.2.auditLogs.NewKeys draw.auditId (count acc.1) n → count acc.1 + raw.length ≤ n →
    Logged acc.2 (raw.foldl turn acc).2 (raw.filterMap entry) := by
  induction raw with
  | nil => intro acc _ _; exact .nothing
  | cons r raw ih =>
    intro acc hkeys hn
    rw [List.length_cons] at hn
    rw [List.filterMap_cons, List.foldl_cons]
    have hr := hturn acc r
    have hrest := ih (turn acc r)
    generalize hentry : entry r = e at hr
    generalize hafter : turn acc r = acc' at hr hrest ⊢
    obtain ⟨state, after⟩ := acc'
    cases hr with
    | nothing hcount =>
      dsimp only at hcount
      exact hrest (hcount ▸ hkeys) (by dsimp only; omega)
    | change action id before after hcount =>
      dsimp only at hcount
      refine (logPropertyChange_logged (hkeys.head (by omega))).append (hrest ?_ (by dsimp only; omega))
      dsimp only
      rw [hcount]
      exact hkeys.insert rfl

theorem length_bulkCreateFrom (draw : Draw) (tenant : Uuid) (payloads : List PropertyCreate) :
    ∀ (index : Nat) (db : Db),
    (bulkCreateFrom tenant draw db index payloads).1.length = payloads.length := by
  induction payloads with
  | nil => intro index db; rfl
  | cons payload payloads ih => intro index db; simp only [bulkCreateFrom, List.length_cons, ih]

theorem length_bulkDeactivateProperties (ids : List RawId) :
    ∀ {db flushed : Db} {results : List BulkDeactivateResult},
    bulkDeactivateProperties env ctx draw db ids = .ok (results, flushed) → results.length = ids.length := by
  induction ids with
  | nil =>
    intro db flushed results h
    cases h
    rfl
  | cons rawId ids ih =>
    intro db flushed results h
    obtain ⟨⟨result, db₁⟩, _, h⟩ := bind_eq_ok.mp h
    obtain ⟨⟨rest, db₂⟩, hrest, h⟩ := bind_eq_ok.mp h
    cases h
    rw [List.length_cons, List.length_cons, ih hrest]

theorem bulkCreatePropertiesEndpoint_journalled {items : List PropertyCreate}
    {r : PropertyBulkCreateResponse × Db} (h : Journalled db)
    (hfresh : db.properties.NewKeys draw.id 0 items.length)
    (hlog : db.auditLogs.NewKeys draw.auditId 0 items.length)
    (hr : bulkCreatePropertiesEndpoint db draw ipAddress ctx items = .ok r) : Journalled r.2 := by
  obtain ⟨⟨raw, flushed⟩, hservice, hr⟩ := bind_eq_ok.mp hr
  obtain ⟨tenant, _, hservice⟩ := bind_eq_ok.mp hservice
  have hloop : bulkCreateFrom tenant draw db 0 items = (raw, flushed) := Except.ok.inj hservice
  cases hr
  rw [← Nat.zero_add items.length] at hfresh
  have hchanged := bulkCreateFrom_changed tenant items hfresh
  have hlength := length_bulkCreateFrom draw tenant items 0 db
  rw [hloop] at hchanged hlength
  rw [← hchanged.auditLogs] at hlog
  have hturn : ∀ acc result, LogTurn draw ipAddress ctx acc.1.created
      (reportCreated draw ipAddress ctx acc result).1.created acc.2 (createdEntry result)
      (reportCreated draw ipAddress ctx acc result).2 := by
    intro acc result
    cases result with
    | failed index error status => exact .nothing rfl
    | created index prop after => exact .change _ _ _ _ rfl
  have hlogged :=
    foldl_logged PropertyBulkCreateResponse.created createdEntry (reportCreated draw ipAddress ctx) hturn
    raw (⟨0, 0, []⟩, flushed) hlog (Nat.le_of_eq ((Nat.zero_add _).trans hlength))
  exact h.step hchanged hlogged

theorem bulkDeactivatePropertiesEndpoint_journalled {ids : List Uuid}
    {r : PropertyBulkDeactivateResponse × Db} (h : Journalled db)
    (hlog : db.auditLogs.NewKeys draw.auditId 0 ids.length)
    (hr : bulkDeactivatePropertiesEndpoint env db draw ipAddress ctx ids = .ok r) : Journalled r.2 := by
  obtain ⟨⟨raw, flushed⟩, hservice, hr⟩ := bind_eq_ok.mp hr
  cases hr
  split
  · have hchanged := bulkDeactivateProperties_changed _ hservice
    have hlength := length_bulkDeactivateProperties _ hservice
    rw [List.length_map] at hlength
    rw [← hchanged.auditLogs] at hlog
    have hturn : ∀ acc result, LogTurn draw ipAddress ctx acc.1.deactivated
        (reportDeactivated draw ipAddress ctx acc result).1.deactivated acc.2 (deactivatedEntry result)
        (reportDeactivated draw ipAddress ctx acc result).2 := by
      intro acc result
      cases result with
      | failed id error status => exact .nothing rfl
      | done id changed prop before after =>
        cases changed with
        | false => exact .nothing rfl
        | true => exact .change _ _ _ _ rfl
    have hlogged := foldl_logged PropertyBulkDeactivateResponse.deactivated deactivatedEntry
      (reportDeactivated draw ipAddress ctx) hturn raw (⟨0, 0, 0, []⟩, flushed) hlog
      (Nat.le_of_eq ((Nat.zero_add _).trans hlength))
    exact h.step hchanged hlogged
  · exact h

/-! ### The binding service -/

theorem activateConnector_changed {propertyId : RawId} {payload : ActivateConnector}
    {row : AnnotatedConnector} {before : Option Dict} {after : Dict}
    (hfresh : db.propertyConnectors.Fresh (draw.id 0))
    (h : activateConnector env db ctx draw propertyId payload = .ok ((row, before, after), flushed)) :
    Changed db flushed [⟨.binding row.pc.id, PropertyConnector.configJson before, .dict after⟩] := by
  obtain ⟨prop, _, h⟩ := bind_eq_ok.mp h
  obtain ⟨connector, _, h⟩ := bind_eq_ok.mp h
  dsimp only at h
  split at h
  · rename_i existing hexisting
    split at h
    · cases h
    · cases h
      exact changed_updateBinding (Table.mem_iff_find?.mp (Table.first_some hexisting).1)
  · rename_i hnone
    rw [insertBinding_of_none hnone] at h
    cases h
    exact changed_insertBinding hfresh

/-- What a change of a binding reports is what it did. -/
def Reported (db : Db) (r : Change × Db) : Prop :=
  r.1.changed = true → Changed db r.2 [⟨.binding r.1.row.pc.id, .dict r.1.before, .dict r.1.after⟩]

variable {propertyId : RawId} {id : Uuid} {r : Change × Db}

theorem deactivateConnector_reported (h : deactivateConnector env db ctx propertyId (.uuid id) = .ok r) :
    Reported db r := by
  obtain ⟨⟨pc, connector⟩, hfound, h⟩ := bind_eq_ok.mp h
  have hpc := (Table.find?_some (getOwnedPropertyConnector_row hfound)).1
  dsimp only at h
  split at h
  · cases h
    exact nofun
  · cases h
    exact fun _ => changed_updateBinding (Table.mem_iff_find?.mp hpc)

theorem reactivateConnector_reported (h : reactivateConnector env db ctx propertyId (.uuid id) = .ok r) :
    Reported db r := by
  obtain ⟨⟨pc, connector⟩, hfound, h⟩ := bind_eq_ok.mp h
  have hpc := (Table.find?_some (getOwnedPropertyConnector_row hfound)).1
  dsimp only at h
  split at h
  · cases h
    exact nofun
  · split at h
    · cases h
    · split at h
      · cases h
      · cases h
        exact fun _ => changed_updateBinding (Table.mem_iff_find?.mp hpc)

theorem updateConnector_reported {payload : UpdateConnector}
    (h : updateConnector env db ctx draw propertyId (.uuid id) payload = .ok r) : Reported db r := by
  obtain ⟨⟨pc, connector⟩, hfound, h⟩ := bind_eq_ok.mp h
  have hpc := (Table.find?_some (getOwnedPropertyConnector_row hfound)).1
  dsimp only at h
  split at h
  · cases h
  · cases h
    exact fun _ => changed_updateBinding (Table.mem_iff_find?.mp hpc)

/-! ### The binding routes -/

variable {action : String} {adminId tenantId : Uuid} {before : Json} {after : Dict}

theorem commitTenantChange_logged (hlog : db.auditLogs.Fresh (draw.auditId 0)) :
    Logged db (commitTenantChange draw ipAddress ctx db action id before after)
      [⟨.binding id, before, .dict after⟩] :=
  logged_logAction (k := .binding id) hlog

/-- An admin's change is mirrored into `audit_logs`. -/
theorem commitAdminChange_logged (hlog : db.auditLogs.Fresh (draw.auditId 0)) :
    Logged db (commitAdminChange draw ipAddress adminId db action id tenantId before after)
      [⟨.binding id, before, .dict after⟩] := by
  obtain ⟨hjournal, hsnapshots⟩ :
      Logged _ (commitAdminChange draw ipAddress adminId db action id tenantId before after)
      [⟨.binding id, before, .dict after⟩] := logged_logAction (k := .binding id) hlog
  exact ⟨hjournal, hsnapshots⟩

theorem endTenantRoute_journalled (h : Journalled db) (hlog : db.auditLogs.Fresh (draw.auditId 0))
    (hr : Reported db r) : Journalled (endTenantRoute db draw ipAddress ctx action r).2 := by
  unfold endTenantRoute
  by_cases hc : r.1.changed = true
  · have hchanged := hr hc
    simp only [if_pos hc]
    exact h.step hchanged (commitTenantChange_logged (hchanged.auditLogs ▸ hlog))
  · simp only [if_neg hc]
    exact h

theorem endAdminRoute_journalled (h : Journalled db) (hlog : db.auditLogs.Fresh (draw.auditId 0))
    (hr : Reported db r) : Journalled (endAdminRoute db draw ipAddress adminId action tenantId r).2 := by
  unfold endAdminRoute
  by_cases hc : r.1.changed = true
  · have hchanged := hr hc
    simp only [if_pos hc]
    exact h.step hchanged (commitAdminChange_logged (hchanged.auditLogs ▸ hlog))
  · simp only [if_neg hc]
    exact h

end

/-! ### Requests -/

/-- A request to a route that changes properties or bindings. -/
inductive AuditedRequest where
  | property (ctx : RequestContext) (request : PropertyRequest)
  | binding (request : BindingRequest)

/-- How many rows a request may add to a table. -/
def AuditedRequest.drawn : AuditedRequest → Nat
  | property _ (.bulkCreatePropertiesEndpoint items) => items.length
  | property _ (.bulkDeactivatePropertiesEndpoint ids) => ids.length
  | _ => 1

/-- The first `n` of the ids that the database generates for a request are new. -/
structure Draw.New (draw : Draw) (n : Nat) (db : Db) : Prop where
  properties : db.properties.NewKeys draw.id 0 n
  bindings : db.propertyConnectors.NewKeys draw.id 0 n
  auditLogs : db.auditLogs.NewKeys draw.auditId 0 n

section

variable (env : PlatformEnv) (db : Db) (draw : Draw) (ipAddress : Option String)

/-- The database after a request: a request that ends in an error commits nothing. -/
def AuditedRequest.next : AuditedRequest → Db
  | property ctx request =>
    match request.serve env db draw ipAddress ctx with
    | .ok (_, db') => db'
    | .error _ => db
  | binding request =>
    match request.serve env db draw ipAddress with
    | .ok (_, db') => db'
    | .error _ => db

end

section

variable {env : PlatformEnv} {db db' : Db} {draw : Draw} {ipAddress : Option String}

theorem PropertyRequest.serve_journalled {ctx : RequestContext} {request : PropertyRequest}
    {reply : Nat × PropertyBody} (h : Journalled db)
    (hnew : draw.New (AuditedRequest.property ctx request).drawn db)
    (hr : request.serve env db draw ipAddress ctx = .ok (reply, db')) : Journalled db' := by
  have hroute : ∀ {α : Type} {x : Except Exn (α × Db)} {f : α × Db → (Nat × PropertyBody) × Db},
      x.map f = .ok (reply, db') → (∀ r, (f r).2 = r.2) → (∀ r, x = .ok r → Journalled r.2) →
      Journalled db' := by
    intro α x f hmap hf hx
    cases x with
    | error e => cases hmap
    | ok r =>
      have hr : f r = (reply, db') := Except.ok.inj hmap
      have hdb : db' = r.2 := (congrArg Prod.snd hr).symm.trans (hf r)
      rw [hdb]
      exact hx r rfl
  unfold PropertyRequest.serve at hr
  cases request with
  | createPropertyEndpoint payload =>
    refine hroute hr (fun _ => rfl) fun r => ?_
    exact createPropertyEndpoint_journalled h (hnew.properties.head Nat.one_pos)
      (hnew.auditLogs.head Nat.one_pos)
  | updatePropertyEndpoint propertyId payload =>
    refine hroute hr (fun _ => rfl) fun r => ?_
    exact updatePropertyEndpoint_journalled h (hnew.auditLogs.head Nat.one_pos)
  | deactivatePropertyEndpoint propertyId =>
    refine hroute hr (fun _ => rfl) fun r hr => ?_
    obtain ⟨c, hservice, hr⟩ := bind_eq_ok.mp hr
    cases hr
    exact setActive_journalled h (hnew.auditLogs.head Nat.one_pos) hservice
  | activatePropertyEndpoint propertyId =>
    refine hroute hr (fun _ => rfl) fun r hr => ?_
    obtain ⟨c, hservice, hr⟩ := bind_eq_ok.mp hr
    cases hr
    exact setActive_journalled h (hnew.auditLogs.head Nat.one_pos) hservice
  | bulkCreatePropertiesEndpoint items =>
    refine hroute hr (fun _ => rfl) fun r => ?_
    exact bulkCreatePropertiesEndpoint_journalled h hnew.properties hnew.auditLogs
  | bulkDeactivatePropertiesEndpoint ids =>
    refine hroute hr (fun _ => rfl) fun r => ?_
    exact bulkDeactivatePropertiesEndpoint_journalled h hnew.auditLogs

theorem BindingRequest.serve_journalled {request : BindingRequest} {reply : BindingReply}
    (h : Journalled db) (hfresh : db.propertyConnectors.Fresh (draw.id 0))
    (hlog : db.auditLogs.Fresh (draw.auditId 0))
    (hr : request.serve env db draw ipAddress = .ok (reply, db')) : Journalled db' := by
  have hroute : ∀ {x : Except Exn (ConnectorResponse × Db)} {status : Nat},
      (∀ r, x = .ok r → Journalled r.2) → x.map (bindingReply status) = .ok (reply, db') →
      Journalled db' := by
    intro x status hx hmap
    cases x with
    | error e => cases hmap
    | ok r =>
      cases hmap
      exact hx r rfl
  cases request with
  | activateConnectorEndpoint ctx propertyId payload =>
    refine hroute (fun r hr => ?_) hr
    obtain ⟨⟨⟨row, before, after⟩, flushed⟩, hservice, hr⟩ := bind_eq_ok.mp hr
    cases hr
    have hchanged := activateConnector_changed hfresh hservice
    exact h.step hchanged (commitTenantChange_logged (hchanged.auditLogs ▸ hlog))
  | listConnectorsEndpoint ctx propertyId =>
    unfold BindingRequest.serve at hr
    dsimp only at hr
    cases hlist : RatingLift.listConnectorsEndpoint env db ctx propertyId with
    | error e => rw [hlist] at hr; cases hr
    | ok list =>
      rw [hlist] at hr
      cases hr
      exact h
  | updateConnectorEndpoint ctx propertyId id payload =>
    refine hroute (fun r hr => ?_) hr
    obtain ⟨c, hservice, hr⟩ := bind_eq_ok.mp hr
    cases hr
    exact endTenantRoute_journalled h hlog (updateConnector_reported hservice)
  | deactivateConnectorEndpoint ctx propertyId id =>
    refine hroute (fun r hr => ?_) hr
    obtain ⟨c, hservice, hr⟩ := bind_eq_ok.mp hr
    cases hr
    exact endTenantRoute_journalled h hlog (deactivateConnector_reported hservice)
  | reactivateConnectorEndpoint ctx propertyId id =>
    refine hroute (fun r hr => ?_) hr
    obtain ⟨c, hservice, hr⟩ := bind_eq_ok.mp hr
    cases hr
    exact endTenantRoute_journalled h hlog (reactivateConnector_reported hservice)
  | listPropertyConnectors filter limit offset =>
    cases hr
    exact h
  | adminActivateConnector adminId propertyId payload =>
    refine hroute (fun r hr => ?_) hr
    obtain ⟨⟨ctx, pid, tenantId⟩, _, hr⟩ := bind_eq_ok.mp hr
    obtain ⟨⟨⟨row, before, after⟩, flushed⟩, hservice, hr⟩ := bind_eq_ok.mp hr
    cases hr
    have hchanged := activateConnector_changed hfresh hservice
    exact h.step hchanged (commitAdminChange_logged (hchanged.auditLogs ▸ hlog))
  | adminUpdateConnector adminId id payload =>
    refine hroute (fun r hr => ?_) hr
    obtain ⟨⟨ctx, pid, tenantId⟩, _, hr⟩ := bind_eq_ok.mp hr
    obtain ⟨c, hservice, hr⟩ := bind_eq_ok.mp hr
    cases hr
    exact endAdminRoute_journalled h hlog (updateConnector_reported hservice)
  | adminDeactivateConnector adminId id =>
    refine hroute (fun r hr => ?_) hr
    obtain ⟨⟨ctx, pid, tenantId⟩, _, hr⟩ := bind_eq_ok.mp hr
    obtain ⟨c, hservice, hr⟩ := bind_eq_ok.mp hr
    cases hr
    exact endAdminRoute_journalled h hlog (deactivateConnector_reported hservice)
  | adminReactivateConnector adminId id =>
    refine hroute (fun r hr => ?_) hr
    obtain ⟨⟨ctx, pid, tenantId⟩, _, hr⟩ := bind_eq_ok.mp hr
    obtain ⟨c, hservice, hr⟩ := bind_eq_ok.mp hr
    cases hr
    exact endAdminRoute_journalled h hlog (reactivateConnector_reported hservice)

/-- A request keeps the log a journal of the tables. -/
theorem AuditedRequest.next_journalled {request : AuditedRequest} (h : Journalled db)
    (hnew : draw.New request.drawn db) : Journalled (request.next env db draw ipAddress) := by
  cases request with
  | property ctx request =>
    unfold AuditedRequest.next
    dsimp only
    split
    · rename_i hr
      exact PropertyRequest.serve_journalled h hnew hr
    · exact h
  | binding request =>
    unfold AuditedRequest.next
    dsimp only
    split
    · rename_i hr
      exact BindingRequest.serve_journalled h (hnew.bindings.head Nat.one_pos)
        (hnew.auditLogs.head Nat.one_pos) hr
    · exact h

end

/-! ### Runs -/

/-- A step of a run: a request to one of the routes, or whatever the rest of the service does in between. -/
inductive AuditedStep where
  | request (request : AuditedRequest) (ipAddress : Option String) (draw : Draw)
  | elsewhere (db : Db)

def AuditedStep.next (env : PlatformEnv) (db : Db) : AuditedStep → Db
  | request r ipAddress draw => r.next env db draw ipAddress
  | elsewhere db' => db'

/-- The ids that a request draws are new.  The rest of the service leaves the properties, the bindings and
their audit entries alone. -/
def AuditedStep.Ok (db : Db) : AuditedStep → Prop
  | request r _ draw => draw.New r.drawn db
  | elsewhere db' =>
    db'.properties = db.properties ∧ db'.propertyConnectors = db.propertyConnectors ∧ db'.journal = db.journal

/-- Requests to the routes in any order, one at a time. -/
abbrev AuditedRun (env : PlatformEnv) :=
  Run (fun db step => some (AuditedStep.next env db step)) fun _ db step => step.Ok db

section

variable {env : PlatformEnv} {db₀ db : Db} {tr : List (Step Db AuditedStep)}

theorem AuditedStep.next_journalled {step : AuditedStep} (h : Journalled db) (hok : step.Ok db) :
    Journalled (step.next env db) := by
  cases step with
  | request r ipAddress draw => exact AuditedRequest.next_journalled h hok
  | elsewhere db' =>
    obtain ⟨hproperties, hbindings, hjournal⟩ := hok
    have hsnapshot : db'.snapshot = db.snapshot := by
      funext k
      cases k with
      | property id => dsimp only [Db.snapshot]; rw [hproperties]
      | binding id => dsimp only [Db.snapshot]; rw [hbindings]
    show Replays _ db'.journal db'.snapshot
    rw [hjournal, hsnapshot]
    exact h

/-- A database without properties, bindings and entries about them. -/
structure NoHistory (db : Db) : Prop where
  properties : db.properties = Table.empty
  bindings : db.propertyConnectors = Table.empty
  journal : db.journal = []

theorem NoHistory.journalled (h : NoHistory db) : Journalled db := by
  have hsnapshot : db.snapshot = fun _ => Json.none := by
    funext k
    cases k with
    | property id => dsimp only [Db.snapshot]; rw [h.properties]; rfl
    | binding id => dsimp only [Db.snapshot]; rw [h.bindings]; rfl
  unfold Journalled
  rw [h.journal, hsnapshot]
  exact rfl

/-- After every run the audit entries of every property and every binding lead from null to its current
snapshot. -/
theorem trails_complete (hinit : NoHistory db₀) (hrun : AuditedRun env db₀ tr db) : TrailsComplete db := by
  refine Journalled.trailsComplete ?_
  refine hrun.invariant (I := fun _ db => Journalled db) hinit.journalled ?_
  intro tr s step s' _ hs hok hnext
  cases hnext
  exact AuditedStep.next_journalled hs hok

end

/-! ### A property that is created and deactivated twice in one batch -/

namespace ClosedBranch

open KeyRotation (env)
open DroppedLink (db ctx downtown)

def drawAt (n : Nat) : Draw where
  now := n
  id := fun k => .ofNat (100 * n + k)
  auditId := fun k => .ofNat (100 * n + 10 + k)
  adminLogId := .ofNat (100 * n + 20)
  iv := n

def branch : Uuid := (drawAt 1).id 0

def create : AuditedStep := .request (.property ctx (.createPropertyEndpoint downtown)) none (drawAt 1)

def close : AuditedStep :=
  .request (.property ctx (.bulkDeactivatePropertiesEndpoint [branch, branch])) none (drawAt 2)

theorem trail_of_branch :
    ∃ tr s, AuditedRun env db tr s ∧ (s.trail "property" branch).length = 2 ∧ TrailsComplete s := by
  have hcreate : create.Ok db := ⟨by decide, by decide, by decide⟩
  have hclose : close.Ok (create.next env db) := ⟨by decide +kernel, by decide +kernel, by decide +kernel⟩
  have hrun : AuditedRun env db _ (close.next env (create.next env db)) :=
    (Run.nil.snoc hcreate rfl).snoc hclose rfl
  exact ⟨_, _, hrun, by decide +kernel, trails_complete ⟨rfl, rfl, rfl⟩ hrun⟩

end ClosedBranch

end RatingLift
