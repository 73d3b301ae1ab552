import RatingLift.Connectors.AdminRoutes
import RatingLift.Db.Seed
import RatingLift.Library.Constraints
import RatingLift.Property.Service
import RatingLift.PropertyConnector.Service
import RatingLift.Tenancy.View

/-!
# The writes of the platform

`DbWrite` lists what the code ever does to the database outside the catalogue, each write with the checks that
the code makes before it: a row that refers to others is written while these exist, a row with a unique value
when no other row has it, and a row that is written over keeps what it is about.  `CatalogueWrite` is what the
routes and the seeder of the catalogue do.  A write is labelled with its `Domain`: a property or a binding
belongs to a tenant, an entry of the admin log to the admin it names.

* (`Sound`, `SchemaHolds`) a write keeps the constraints of the schema;
* (`Continues`) it loses nothing: no row of the business tables goes away, and the three logs only grow;
* (`PlatformWrites.tenantRows`) writes for some tenants leave the rows of the others alone;
* (`PlatformWrites.accounts`, `PlatformWrites.catalogue`) so do they with the tables of every other domain.
-/

namespace RatingLift

open Library PropertyService PropertyConnectorService

/-! ### Rows over time -/

/-- A later row of a user. -/
structure User.Follows (old row : User) : Prop where
  email : row.email = old.email
  role : row.role = old.role
  isAdmin : row.isAdmin = old.isAdmin
  tenantId : ∀ t, old.tenantId = some t → row.tenantId = some t

structure LoginSession.Follows (old row : LoginSession) : Prop where
  userId : row.userId = old.userId
  revoked : old.revoked = true → row.revoked = true

structure Property.Follows (old row : Property) : Prop where
  tenantId : row.tenantId = old.tenantId
  createdAt : row.createdAt = old.createdAt

structure PropertyConnector.Follows (old row : PropertyConnector) : Prop where
  propertyId : row.propertyId = old.propertyId
  connectorId : row.connectorId = old.connectorId
  createdAt : row.createdAt = old.createdAt

theorem User.Follows.refl (user : User) : user.Follows user := ⟨rfl, rfl, rfl, fun _ h => h⟩

theorem User.Follows.trans {a b c : User} (h : a.Follows b) (h' : b.Follows c) : a.Follows c :=
  ⟨h'.email.trans h.email, h'.role.trans h.role, h'.isAdmin.trans h.isAdmin,
    fun t ht => h'.tenantId t (h.tenantId t ht)⟩

theorem LoginSession.Follows.refl (row : LoginSession) : row.Follows row := ⟨rfl, fun h => h⟩

theorem LoginSession.Follows.trans {a b c : LoginSession} (h : a.Follows b) (h' : b.Follows c) :
    a.Follows c :=
  ⟨h'.userId.trans h.userId, fun ha => h'.revoked (h.revoked ha)⟩

theorem Property.Follows.refl (prop : Property) : prop.Follows prop := ⟨rfl, rfl⟩

theorem Property.Follows.trans {a b c : Property} (h : a.Follows b) (h' : b.Follows c) : a.Follows c :=
  ⟨h'.tenantId.trans h.tenantId, h'.createdAt.trans h.createdAt⟩

theorem PropertyConnector.Follows.refl (pc : PropertyConnector) : pc.Follows pc := ⟨rfl, rfl, rfl⟩

theorem PropertyConnector.Follows.trans {a b c : PropertyConnector} (h : a.Follows b) (h' : b.Follows c) :
    a.Follows c :=
  ⟨h'.propertyId.trans h.propertyId, h'.connectorId.trans h.connectorId, h'.createdAt.trans h.createdAt⟩

/-! ### Writes -/

/-- What a write is to. -/
inductive Domain where
  /-- the tenants, the users and their sessions -/
  | account
  | loginAttempt (timestamp : Instant)
  | blocklist
  | auditLog (entity : String) (timestamp : Instant)
  | catalogue
  | tenant (id : Uuid)
  | admin (id : Uuid) (timestamp : Instant)

/-- Properties and bindings have an audit trail. -/
def Traced (entity : String) : Prop := entity = "property" ∨ entity = "property_connector"

instance : DecidablePred Traced := fun _ => inferInstanceAs (Decidable (_ ∨ _))

/-- One write outside the catalogue, with what the code has checked before it. -/
inductive DbWrite (db : Db) : Domain → Db → Prop
  | newTenant (row : Tenant) : db.tenants.Fresh row.id → (∀ t ∈ db.tenants, t.name ≠ row.name) →
      DbWrite db .account { db with tenants := db.tenants.insert row }
  | newUser (row : User) : db.users.Fresh row.id → (∀ u ∈ db.users, u.email ≠ row.email) →
      (∀ t, row.tenantId = some t → ∃ tenant ∈ db.tenants, tenant.id = t) →
      DbWrite db .account { db with users := db.users.insert row }
  | user (old row : User) : db.users.find? row.id = some old → old.Follows row →
      (row.tenantId = old.tenantId ∨ ∃ tenant ∈ db.tenants, row.tenantId = some tenant.id) →
      DbWrite db .account { db with users := db.users.update row }
  | newSession (row : LoginSession) : db.loginSessions.Fresh row.id →
      (∃ user ∈ db.users, user.id = row.userId) →
      (∀ jti, row.jti = some jti → ∀ x ∈ db.loginSessions, x.jti ≠ some jti) →
      DbWrite db .account { db with loginSessions := db.loginSessions.insert row }
  | session (old row : LoginSession) : db.loginSessions.find? row.id = some old → old.Follows row →
      (row.jti = old.jti ∨ ∀ jti, row.jti = some jti → ∀ x ∈ db.loginSessions, x.jti ≠ some jti) →
      DbWrite db .account { db with loginSessions := db.loginSessions.update row }
  | revokeAll (userId : Uuid) : DbWrite db .account (RatingLift.revokeAll db userId)
  | loginAttempt (row : LoginAttempt) :
      DbWrite db (.loginAttempt row.timestamp) { db with loginAttempts := db.loginAttempts.insert row }
  | auditLog (row : AuditLog) :
      DbWrite db (.auditLog row.entity row.timestamp) { db with auditLogs := db.auditLogs.insert row }
  | adminActionLog (row : AdminActionLog) : row.targetEntity ≠ some "connector" →
      DbWrite db (.admin row.adminId row.timestamp)
        { db with adminActionLogs := db.adminActionLogs.insert row }
  | blocklist (rows : Table IpBlocklist) : DbWrite db .blocklist { db with ipBlocklist := rows }
  | newProperty (row : Property) : db.properties.Fresh row.id →
      (∃ tenant ∈ db.tenants, tenant.id = row.tenantId) →
      placeTaken db row = false →
      DbWrite db (.tenant row.tenantId) { db with properties := db.properties.insert row }
  | property (old row : Property) : db.properties.find? row.id = some old → old.Follows row →
      (row.googlePlaceId = old.googlePlaceId ∨ placeTaken db row = false) →
      DbWrite db (.tenant old.tenantId) { db with properties := db.properties.update row }
  | newBinding (prop : Property) (row : PropertyConnector) : db.propertyConnectors.Fresh row.id →
      db.properties.find? row.propertyId = some prop → (∃ c ∈ db.connectors, c.id = row.connectorId) →
      existingBinding db row.propertyId row.connectorId = none →
      DbWrite db (.tenant prop.tenantId) { db with propertyConnectors := db.propertyConnectors.insert row }
  | binding (prop : Property) (old row : PropertyConnector) : db.propertyConnectors.find? row.id = some old →
      old.Follows row → db.properties.find? old.propertyId = some prop →
      DbWrite db (.tenant prop.tenantId) { db with propertyConnectors := db.propertyConnectors.update row }

/-- One write of the catalogue: its rows, or an entry of its log. -/
inductive CatalogueWrite (env : ConnectorEnv) (db : Db) : Domain → Db → Prop
  | connectors (rows : Table Connector) (request : CatalogueRequest) :
      CatalogueEffect env db.connectors rows request →
      CatalogueWrite env db .catalogue { db with connectors := rows }
  | adminActionLog (row : AdminActionLog) : row.targetEntity = some "connector" →
      CatalogueWrite env db (.admin row.adminId row.timestamp)
        { db with adminActionLogs := db.adminActionLogs.insert row }

/-- Some writes outside the catalogue, one after another, to these domains. -/
abbrev DbWrites (domains : Set Domain) : Db → Db → Prop :=
  Relation.ReflTransGen fun db db' => ∃ d ∈ domains, DbWrite db d db'

/-- Some writes, one after another, of the catalogue too. -/
abbrev PlatformWrites (env : ConnectorEnv) (domains : Set Domain) : Db → Db → Prop :=
  Relation.ReflTransGen fun db db' => ∃ d ∈ domains, DbWrite db d db' ∨ CatalogueWrite env db d db'

/-! ### What a write keeps -/

/-- The constraints of the schema: its unique columns and its foreign keys. -/
structure Sound (env : ConnectorEnv) (db : Db) : Prop where
  tenantNames : db.tenants.UniqueOn fun t => some t.name
  emails : db.users.UniqueOn fun u => some u.email
  userTenants : db.users.References (fun u => u.tenantId) db.tenants
  jtis : db.loginSessions.UniqueOn fun r => r.jti
  sessionUsers : db.loginSessions.References (fun r => some r.userId) db.users
  propertyTenants : db.properties.References (fun p => some p.tenantId) db.tenants
  places : db.properties.UniqueOn fun p => p.googlePlaceId.map fun place => (p.tenantId, place)
  bindingProperties : db.propertyConnectors.References (fun pc => some pc.propertyId) db.properties
  bindingConnectors : db.propertyConnectors.References (fun pc => some pc.connectorId) db.connectors
  pairs : db.propertyConnectors.UniqueOn fun pc => some (pc.propertyId, pc.connectorId)
  connectors : IndexesHold env db.connectors

/-- The constraints, and the range of the one `Integer` column that requests set. -/
structure SchemaHolds (env : ConnectorEnv) (db : Db) : Prop extends Sound env db where
  orders : OrdersFit db.connectors

/-- Nothing is lost: every row is still there about the same things, and the logs have only grown. -/
structure Continues (db db' : Db) : Prop where
  tenants : db.tenants.rows <+: db'.tenants.rows
  users : db.users.Evolves User.Follows db'.users
  sessions : db.loginSessions.Evolves LoginSession.Follows db'.loginSessions
  properties : db.properties.Evolves Property.Follows db'.properties
  bindings : db.propertyConnectors.Evolves PropertyConnector.Follows db'.propertyConnectors
  connectors : db.connectors.Evolves (fun _ _ => True) db'.connectors
  loginAttempts : db.loginAttempts.rows <+: db'.loginAttempts.rows
  auditLogs : db.auditLogs.rows <+: db'.auditLogs.rows
  adminActionLogs : db.adminActionLogs.rows <+: db'.adminActionLogs.rows

theorem Sound.empty (env : ConnectorEnv) : Sound env .empty where
  tenantNames := Table.uniqueOn_empty _
  emails := Table.uniqueOn_empty _
  userTenants := Table.references_empty _ _
  jtis := Table.uniqueOn_empty _
  sessionUsers := Table.references_empty _ _
  propertyTenants := Table.references_empty _ _
  places := Table.uniqueOn_empty _
  bindingProperties := Table.references_empty _ _
  bindingConnectors := Table.references_empty _ _
  pairs := Table.uniqueOn_empty _
  connectors := fun a ha => absurd ha (Table.not_mem_empty a)

theorem SchemaHolds.empty (env : ConnectorEnv) : SchemaHolds env .empty where
  toSound := .empty env
  orders := fun a ha => absurd ha (Table.not_mem_empty a)

section

variable {env : ConnectorEnv} {db db' db'' : Db} {d : Domain} {domains : Set Domain}

theorem Continues.refl (db : Db) : Continues db db where
  tenants := List.prefix_rfl
  users := .refl User.Follows.refl _
  sessions := .refl LoginSession.Follows.refl _
  properties := .refl Property.Follows.refl _
  bindings := .refl PropertyConnector.Follows.refl _
  connectors := .refl (fun _ => trivial) _
  loginAttempts := List.prefix_rfl
  auditLogs := List.prefix_rfl
  adminActionLogs := List.prefix_rfl

theorem Continues.trans (h : Continues db db') (h' : Continues db' db'') : Continues db db'' where
  tenants := h.tenants.trans h'.tenants
  users := h.users.trans (fun _ _ _ => User.Follows.trans) h'.users
  sessions := h.sessions.trans (fun _ _ _ => LoginSession.Follows.trans) h'.sessions
  properties := h.properties.trans (fun _ _ _ => Property.Follows.trans) h'.properties
  bindings := h.bindings.trans (fun _ _ _ => PropertyConnector.Follows.trans) h'.bindings
  connectors := h.connectors.trans (fun _ _ _ _ _ => trivial) h'.connectors
  loginAttempts := h.loginAttempts.trans h'.loginAttempts
  auditLogs := h.auditLogs.trans h'.auditLogs
  adminActionLogs := h.adminActionLogs.trans h'.adminActionLogs

theorem Orders.evolves {t t' : Table Connector} (h : Orders t t') : t.Evolves (fun _ _ => True) t' := by
  intro c hc
  obtain ⟨c', hc', hsame⟩ := h.kept c hc
  exact ⟨c', hc', hsame.id_eq, trivial⟩

theorem Put.puts {t t' : Table Connector} {row : Connector} (h : Put env t t' row) : t.Puts t' row :=
  Table.puts_of_find? h.rows

theorem Put.evolves {t t' : Table Connector} {row : Connector} (h : Put env t t' row) :
    t.Evolves (fun _ _ => True) t' :=
  h.puts.evolves (fun _ => trivial) fun _ _ _ => trivial

/-- No request removes a connector. -/
theorem CatalogueEffect.evolves {t t' : Table Connector} {r : CatalogueRequest}
    (h : CatalogueEffect env t t' r) :
    t.Evolves (fun _ _ => True) t' := by
  cases h with
  | same h =>
    rw [h]
    exact .refl (fun _ => trivial) t
  | created hput => exact hput.evolves
  | edited _ hput => exact hput.evolves
  | deleted _ _ hput => exact hput.evolves
  | restored _ _ hput => exact hput.evolves
  | reordered h => exact h.evolves
  | seeded h =>
    induction h with
    | refl => exact .refl (fun _ => trivial) t
    | tail _ hstep ih =>
      obtain ⟨_, _, _, _, _, hput⟩ := hstep
      exact ih.trans (fun _ _ _ _ _ => trivial) hput.evolves

theorem revokeAll_evolves (userId : Uuid) :
    db.loginSessions.Evolves LoginSession.Follows (RatingLift.revokeAll db userId).loginSessions := by
  unfold RatingLift.revokeAll
  refine Table.evolves_updateWhere ?_ LoginSession.Follows.refl ?_
  · exact fun _ => rfl
  · exact fun _ => ⟨rfl, fun _ => rfl⟩

theorem revokeAll_restates (userId : Uuid) :
    db.loginSessions.Restates (fun r r' => r'.jti = r.jti ∧ r'.userId = r.userId)
      (RatingLift.revokeAll db userId).loginSessions := by
  unfold RatingLift.revokeAll
  refine Table.restates_updateWhere ?_ (fun _ => ⟨rfl, rfl⟩) ?_
  · exact fun _ => rfl
  · exact fun _ => ⟨rfl, rfl⟩

/-- A write loses nothing. -/
theorem DbWrite.continues (h : DbWrite db d db') : Continues db db' := by
  cases h with
  | newTenant row _ _ => exact { Continues.refl db with tenants := prefix_insert _ _ }
  | newUser row hfresh _ _ =>
    exact { Continues.refl db with users := (Table.puts_insert hfresh).evolves_new User.Follows.refl hfresh }
  | user old row hold hfollows _ =>
    exact { Continues.refl db with users :=
      (Table.puts_update hold).evolves_stored User.Follows.refl hold hfollows }
  | newSession row hfresh _ _ =>
    exact { Continues.refl db with
      sessions := (Table.puts_insert hfresh).evolves_new LoginSession.Follows.refl hfresh }
  | session old row hold hfollows _ =>
    exact { Continues.refl db with
      sessions := (Table.puts_update hold).evolves_stored LoginSession.Follows.refl hold hfollows }
  | revokeAll userId => exact { Continues.refl db with sessions := revokeAll_evolves userId }
  | loginAttempt row => exact { Continues.refl db with loginAttempts := prefix_insert _ _ }
  | auditLog row => exact { Continues.refl db with auditLogs := prefix_insert _ _ }
  | adminActionLog row _ => exact { Continues.refl db with adminActionLogs := prefix_insert _ _ }
  | blocklist rows => exact { Continues.refl db with }
  | newProperty row hfresh _ _ =>
    exact { Continues.refl db with
      properties := (Table.puts_insert hfresh).evolves_new Property.Follows.refl hfresh }
  | property old row hold hfollows _ =>
    exact { Continues.refl db with
      properties := (Table.puts_update hold).evolves_stored Property.Follows.refl hold hfollows }
  | newBinding prop row hfresh _ _ _ =>
    exact { Continues.refl db with
      bindings := (Table.puts_insert hfresh).evolves_new PropertyConnector.Follows.refl hfresh }
  | binding prop old row hold hfollows _ =>
    exact { Continues.refl db with
      bindings := (Table.puts_update hold).evolves_stored PropertyConnector.Follows.refl hold hfollows }

theorem CatalogueWrite.continues (h : CatalogueWrite env db d db') : Continues db db' := by
  cases h with
  | connectors rows request heffect => exact { Continues.refl db with connectors := heffect.evolves }
  | adminActionLog row _ => exact { Continues.refl db with adminActionLogs := prefix_insert _ _ }

/-- No other property of the tenant has the place id. -/
theorem placeTaken_eq_false {row : Property} (h : placeTaken db row = false) (v : Uuid × String)
    (hv : (row.googlePlaceId.map fun place => (row.tenantId, place)) = some v) :
    ∀ x ∈ db.properties, (x.googlePlaceId.map fun place => (x.tenantId, place)) = some v → x.id = row.id := by
  intro x hx hxv
  obtain ⟨place, hplace, rfl⟩ := Option.map_eq_some_iff.mp hv
  obtain ⟨place', hplace', heq⟩ := Option.map_eq_some_iff.mp hxv
  obtain ⟨htenant, rfl⟩ := Prod.mk.inj heq
  by_contra hne
  have hfound : (db.properties.first fun p =>
      p.id != row.id && p.tenantId == row.tenantId &&
        p.googlePlaceId == row.googlePlaceId).isSome = true := by
    rw [Option.isSome_iff_ne_none]
    intro hnone
    have hfalse := Table.first_eq_none.mp hnone x hx
    simp [hne, htenant, hplace, hplace'] at hfalse
  have hsome : row.googlePlaceId.isSome = true := by rw [hplace]; rfl
  unfold placeTaken at h
  rw [hsome, hfound] at h
  cases h

/-- The pair of a new binding is free. -/
theorem existingBinding_eq_none {propertyId connectorId : Uuid}
    (h : existingBinding db propertyId connectorId = none) :
    ∀ x ∈ db.propertyConnectors, (x.propertyId, x.connectorId) ≠ (propertyId, connectorId) := by
  intro x hx heq
  obtain ⟨rfl, rfl⟩ := Prod.mk.inj heq
  have hfalse := Table.first_eq_none.mp h x hx
  simp at hfalse

/-- A write keeps the constraints of the schema. -/
theorem DbWrite.sound (h : DbWrite db d db') (hsound : Sound env db) : Sound env db' := by
  -- what refers to a table is not hurt by what the write does there
  have hcontinues := h.continues
  cases h with
  | newTenant row hfresh hname =>
    have hputs := Table.puts_insert hfresh
    have hkeys : db.tenants.Evolves (fun _ _ => True) (db.tenants.insert row) :=
      hputs.evolves_new (fun _ => trivial) hfresh
    exact { hsound with
      tenantNames := hputs.uniqueOn hsound.tenantNames fun v hv t ht htv =>
        absurd (Option.some.inj (htv.trans hv.symm)) (hname t ht)
      userTenants := hsound.userTenants.evolves hkeys
      propertyTenants := hsound.propertyTenants.evolves hkeys }
  | newUser row hfresh hemail htenant =>
    have hputs := Table.puts_insert hfresh
    exact { hsound with
      emails := hputs.uniqueOn hsound.emails fun v hv u hu huv =>
        absurd (Option.some.inj (huv.trans hv.symm)) (hemail u hu)
      userTenants := hputs.references hsound.userTenants htenant
      sessionUsers := hsound.sessionUsers.evolves hcontinues.users }
  | user old row hold hfollows htenant =>
    have hputs := Table.puts_update hold
    refine { hsound with
      emails := hputs.uniqueOn_same hsound.emails hold (congrArg some hfollows.email)
      userTenants := ?_
      sessionUsers := hsound.sessionUsers.evolves hcontinues.users }
    rcases htenant with hsame | ⟨tenant, hmem, heq⟩
    · exact hputs.references_same hsound.userTenants hold hsame
    · refine hputs.references hsound.userTenants ?_
      intro k hk
      exact ⟨tenant, hmem, Option.some.inj (heq.symm.trans hk)⟩
  | newSession row hfresh huser hjti =>
    have hputs := Table.puts_insert hfresh
    exact { hsound with
      jtis := hputs.uniqueOn hsound.jtis fun v hv x hx hxv => absurd hxv (hjti v hv x hx)
      sessionUsers := hputs.references hsound.sessionUsers fun k hk => by
        cases hk
        exact huser }
  | session old row hold hfollows hjti =>
    have hputs := Table.puts_update hold
    refine { hsound with
      jtis := ?_
      sessionUsers := hputs.references_same hsound.sessionUsers hold (congrArg some hfollows.userId) }
    rcases hjti with hsame | hunused
    · exact hputs.uniqueOn_same hsound.jtis hold hsame
    · exact hputs.uniqueOn hsound.jtis fun v hv x hx hxv => absurd hxv (hunused v hv x hx)
  | revokeAll userId =>
    exact { hsound with
      jtis := (revokeAll_restates userId).uniqueOn (fun _ _ h => h.1) hsound.jtis
      sessionUsers := (revokeAll_restates userId).references
        (fun _ _ h => congrArg some h.2) hsound.sessionUsers }
  | loginAttempt row => exact { hsound with }
  | auditLog row => exact { hsound with }
  | adminActionLog row _ => exact { hsound with }
  | blocklist rows => exact { hsound with }
  | newProperty row hfresh htenant hplace =>
    have hputs := Table.puts_insert hfresh
    exact { hsound with
      propertyTenants := hputs.references hsound.propertyTenants fun k hk => by
        cases hk
        exact htenant
      places := hputs.uniqueOn hsound.places (placeTaken_eq_false hplace)
      bindingProperties := hsound.bindingProperties.evolves hcontinues.properties }
  | property old row hold hfollows hplace =>
    have hputs := Table.puts_update hold
    refine { hsound with
      propertyTenants := hputs.references_same hsound.propertyTenants hold (congrArg some hfollows.tenantId)
      places := ?_
      bindingProperties := hsound.bindingProperties.evolves hcontinues.properties }
    rcases hplace with hsame | hfree
    · exact hputs.uniqueOn_same hsound.places hold (by rw [hsame, hfollows.tenantId])
    · exact hputs.uniqueOn hsound.places (placeTaken_eq_false hfree)
  | newBinding prop row hfresh hprop hconnector hpair =>
    have hputs := Table.puts_insert hfresh
    exact { hsound with
      bindingProperties := hputs.references hsound.bindingProperties fun k hk => by
        cases hk
        exact ⟨prop, Table.find?_some hprop⟩
      bindingConnectors := hputs.references hsound.bindingConnectors fun k hk => by
        cases hk
        exact hconnector
      pairs := hputs.uniqueOn hsound.pairs fun v hv x hx hxv =>
        absurd (Option.some.inj (hxv.trans hv.symm)) (existingBinding_eq_none hpair x hx) }
  | binding prop old row hold hfollows _ =>
    have hputs := Table.puts_update hold
    have hpair : some (row.propertyId, row.connectorId) = some (old.propertyId, old.connectorId) := by
      rw [hfollows.propertyId, hfollows.connectorId]
    exact { hsound with
      bindingProperties :=
        hputs.references_same hsound.bindingProperties hold (congrArg some hfollows.propertyId)
      bindingConnectors :=
        hputs.references_same hsound.bindingConnectors hold (congrArg some hfollows.connectorId)
      pairs := hputs.uniqueOn_same hsound.pairs hold hpair }

theorem CatalogueWrite.sound (h : CatalogueWrite env db d db') (hsound : Sound env db) : Sound env db' := by
  have hcontinues := h.continues
  cases h with
  | connectors rows request heffect =>
    exact { hsound with
      bindingConnectors := hsound.bindingConnectors.evolves hcontinues.connectors
      connectors := heffect.indexes hsound.connectors }
  | adminActionLog row _ => exact { hsound with }

theorem CatalogueWrite.ordersFit (h : CatalogueWrite env db d db') (hfit : OrdersFit db.connectors) :
    OrdersFit db'.connectors := by
  cases h with
  | connectors rows request heffect => exact heffect.ordersFit hfit
  | adminActionLog row _ => exact hfit

/-- Outside the catalogue nothing is written to the connectors, and nothing is logged about them. -/
theorem DbWrite.catalogue (h : DbWrite db d db') :
    db'.connectors = db.connectors ∧ db'.connectorEntries = db.connectorEntries := by
  cases h with
  | adminActionLog row hrow => exact ⟨rfl, connectorEntries_insert_other hrow⟩
  | _ => exact ⟨rfl, rfl⟩

/-! ### Many writes -/

theorem DbWrites.single (h : DbWrite db d db') (hd : d ∈ domains) : DbWrites domains db db' :=
  Relation.ReflTransGen.single ⟨d, hd, h⟩

theorem DbWrites.mono {domains' : Set Domain} (hsub : ∀ d ∈ domains, d ∈ domains')
    (h : DbWrites domains db db') :
    DbWrites domains' db db' := by
  induction h with
  | refl => exact .refl
  | tail _ hwrite ih =>
    obtain ⟨d, hd, hwrite⟩ := hwrite
    exact ih.tail ⟨d, hsub d hd, hwrite⟩

theorem DbWrites.platform (h : DbWrites domains db db') : PlatformWrites env domains db db' := by
  induction h with
  | refl => exact .refl
  | tail _ hwrite ih =>
    obtain ⟨d, hd, hwrite⟩ := hwrite
    exact ih.tail ⟨d, hd, Or.inl hwrite⟩

theorem DbWrites.catalogue (h : DbWrites domains db db') :
    db'.connectors = db.connectors ∧ db'.connectorEntries = db.connectorEntries := by
  induction h with
  | refl => exact ⟨rfl, rfl⟩
  | tail _ hwrite ih =>
    obtain ⟨_, _, hwrite⟩ := hwrite
    exact ⟨hwrite.catalogue.1.trans ih.1, hwrite.catalogue.2.trans ih.2⟩

theorem PlatformWrites.single (h : CatalogueWrite env db d db') (hd : d ∈ domains) :
    PlatformWrites env domains db db' :=
  Relation.ReflTransGen.single ⟨d, hd, Or.inr h⟩

theorem PlatformWrites.mono {domains' : Set Domain} (h : PlatformWrites env domains db db')
    (hsub : ∀ d ∈ domains, d ∈ domains') : PlatformWrites env domains' db db' := by
  induction h with
  | refl => exact .refl
  | tail _ hwrite ih =>
    obtain ⟨d, hd, hwrite⟩ := hwrite
    exact ih.tail ⟨d, hsub d hd, hwrite⟩

/-- What the writes to the domains keep. -/
theorem PlatformWrites.keeps {P : Db → Prop} (h : PlatformWrites env domains db db')
    (hdb : ∀ d ∈ domains, ∀ db db', DbWrite db d db' → P db → P db')
    (hcatalogue : ∀ d ∈ domains, ∀ db db', CatalogueWrite env db d db' → P db → P db')
    (hP : P db) : P db' := by
  induction h with
  | refl => exact hP
  | tail _ hwrite ih =>
    obtain ⟨d, hd, hwrite⟩ := hwrite
    rcases hwrite with hwrite | hwrite
    · exact hdb d hd _ _ hwrite ih
    · exact hcatalogue d hd _ _ hwrite ih

theorem PlatformWrites.continues (h : PlatformWrites env domains db db') : Continues db db' :=
  h.keeps (P := Continues db) (fun _ _ _ _ hw hP => hP.trans hw.continues)
    (fun _ _ _ _ hw hP => hP.trans hw.continues) (.refl db)

theorem PlatformWrites.sound (h : PlatformWrites env domains db db') (hsound : Sound env db) :
    Sound env db' :=
  h.keeps (fun _ _ _ _ hw hP => hw.sound hP) (fun _ _ _ _ hw hP => hw.sound hP) hsound

theorem PlatformWrites.ordersFit (h : PlatformWrites env domains db db') (hfit : OrdersFit db.connectors) :
    OrdersFit db'.connectors := by
  refine h.keeps (P := fun x => OrdersFit x.connectors) ?_ ?_ hfit
  · intro _ _ _ _ hw hP
    rw [hw.catalogue.1]
    exact hP
  · exact fun _ _ _ _ hw hP => hw.ordersFit hP

theorem PlatformWrites.schemaHolds (h : PlatformWrites env domains db db') (hholds : SchemaHolds env db) :
    SchemaHolds env db' :=
  ⟨h.sound hholds.toSound, h.ordersFit hholds.orders⟩

/-! ### What the writes to other domains leave alone -/

/-- The tables of the accounts. -/
def Db.accounts (db : Db) : Table Tenant × Table User × Table LoginSession :=
  (db.tenants, db.users, db.loginSessions)

theorem DbWrite.accounts (h : DbWrite db d db') (hd : d ≠ .account) : db'.accounts = db.accounts := by
  cases h with
  | newTenant | newUser | user | newSession | session | revokeAll => exact absurd rfl hd
  | _ => rfl

theorem DbWrite.loginAttempts (h : DbWrite db d db') (hd : ∀ timestamp, d ≠ .loginAttempt timestamp) :
    db'.loginAttempts = db.loginAttempts := by
  cases h with
  | loginAttempt row => exact absurd rfl (hd row.timestamp)
  | _ => rfl

theorem DbWrite.ipBlocklist (h : DbWrite db d db') (hd : d ≠ .blocklist) :
    db'.ipBlocklist = db.ipBlocklist := by
  cases h with
  | blocklist rows => exact absurd rfl hd
  | _ => rfl

theorem PlatformWrites.accounts (h : PlatformWrites env domains db db') (hd : .account ∉ domains) :
    db'.accounts = db.accounts := by
  refine h.keeps (P := fun x => x.accounts = db.accounts) ?_ ?_ rfl
  · intro d hmem _ _ hw hP
    exact (hw.accounts fun heq => hd (heq ▸ hmem)).trans hP
  · intro d _ _ _ hw hP
    cases hw <;> exact hP

theorem PlatformWrites.loginAttempts (h : PlatformWrites env domains db db')
    (hd : ∀ timestamp, .loginAttempt timestamp ∉ domains) : db'.loginAttempts = db.loginAttempts := by
  refine h.keeps (P := fun x => x.loginAttempts = db.loginAttempts) ?_ ?_ rfl
  · intro d hmem _ _ hw hP
    exact (hw.loginAttempts fun timestamp heq => hd timestamp (heq ▸ hmem)).trans hP
  · intro d _ _ _ hw hP
    cases hw <;> exact hP

theorem PlatformWrites.ipBlocklist (h : PlatformWrites env domains db db') (hd : .blocklist ∉ domains) :
    db'.ipBlocklist = db.ipBlocklist := by
  refine h.keeps (P := fun x => x.ipBlocklist = db.ipBlocklist) ?_ ?_ rfl
  · intro d hmem _ _ hw hP
    exact (hw.ipBlocklist fun heq => hd (heq ▸ hmem)).trans hP
  · intro d _ _ _ hw hP
    cases hw <;> exact hP

theorem PlatformWrites.connectors (h : PlatformWrites env domains db db') (hd : .catalogue ∉ domains) :
    db'.connectors = db.connectors := by
  refine h.keeps (P := fun x => x.connectors = db.connectors) ?_ ?_ rfl
  · exact fun _ _ _ _ hw hP => hw.catalogue.1.trans hP
  · intro d hmem _ _ hw hP
    cases hw with
    | connectors rows request heffect => exact absurd hmem hd
    | adminActionLog row hrow => exact hP

/-! ### The rows of a tenant -/

/-- The properties of a tenant and the bindings of these. -/
def Db.tenantRows (db : Db) (tenant : Uuid) : Table Property × Table PropertyConnector :=
  (db.properties.restrict fun p => p.tenantId == tenant,
    db.propertyConnectors.restrict fun pc => db.owns tenant pc.propertyId)

/-- Whether a tenant owns a property depends on the rows of the property. -/
theorem owns_congr {t pid : Uuid} {row : Property} {rows : Table Property}
    (hrows : ∀ k, rows.find? k = if k = row.id then some row else db.properties.find? k)
    (hsame : db.owns t row.id = (row.tenantId == t)) :
    (rows.find? pid).any (fun p => p.tenantId == t) = (db.properties.find? pid).any
      (fun p => p.tenantId == t) := by
  by_cases hid : pid = row.id
  · subst hid
    rw [(hrows row.id).trans (if_pos rfl), Option.any_some]
    exact hsame.symm
  · rw [(hrows pid).trans (if_neg hid)]

/-- A write for another tenant leaves what the tenant owns. -/
theorem DbWrite.owns {t : Uuid} (h : DbWrite db d db') (hother : d ≠ .tenant t) (pid : Uuid) :
    db'.owns t pid = db.owns t pid := by
  cases h with
  | newProperty row hfresh _ _ =>
    refine owns_congr (Table.find?_insert_fresh hfresh) ?_
    have hnone : db.properties.find? row.id = none := Table.fresh_iff_find?.mp hfresh
    have hother : (row.tenantId == t) = false := by simpa using fun heq => hother (congrArg Domain.tenant heq)
    unfold Db.owns
    rw [hnone, hother]
    rfl
  | property old row hold hfollows _ =>
    refine owns_congr (Table.find?_update_found hold) ?_
    unfold Db.owns
    rw [hold, hfollows.tenantId]
    rfl
  | _ => rfl

theorem DbWrite.tenantRows {t : Uuid} (h : DbWrite db d db') (hother : d ≠ .tenant t) :
    db'.tenantRows t = db.tenantRows t := by
  have howns := h.owns hother
  unfold Db.tenantRows
  simp only [howns]
  cases h with
  | newProperty row hfresh _ _ =>
    have hother : ¬ (row.tenantId == t) = true := by
      simpa using fun heq => hother (congrArg Domain.tenant heq)
    rw [Table.restrict_insert hfresh, if_neg hother]
  | property old row hold hfollows _ =>
    have hother : old.tenantId ≠ t := fun heq => hother (congrArg Domain.tenant heq)
    have hsame : ∀ x ∈ db.properties, x.id = row.id → x = old := by
      intro x hx hid
      rw [← hid] at hold
      exact Option.some.inj ((Table.mem_iff_find?.mp hx).symm.trans hold)
    have hupdate : (db.properties.update row).restrict (fun p => p.tenantId == t) =
        (db.properties.restrict fun p => p.tenantId == t).update row := by
      refine Table.restrict_update ?_
      intro x hx hid
      rw [hsame x hx hid, hfollows.tenantId]
    rw [hupdate, Table.update_restrict_of_out]
    intro x hx ht hid
    rw [hsame x hx hid] at ht
    exact hother (by simpa using ht)
  | newBinding prop row hfresh hprop _ _ =>
    have hother : ¬ db.owns t row.propertyId = true := by
      unfold Db.owns
      rw [hprop]
      simpa using fun heq => hother (congrArg Domain.tenant heq)
    rw [Table.restrict_insert hfresh, if_neg hother]
  | binding prop old row hold hfollows hprop =>
    have hother : ¬ db.owns t old.propertyId = true := by
      unfold Db.owns
      rw [hprop]
      simpa using fun heq => hother (congrArg Domain.tenant heq)
    have hsame : ∀ x ∈ db.propertyConnectors, x.id = row.id → x = old := by
      intro x hx hid
      rw [← hid] at hold
      exact Option.some.inj ((Table.mem_iff_find?.mp hx).symm.trans hold)
    have hupdate : (db.propertyConnectors.update row).restrict (fun pc => db.owns t pc.propertyId) =
        (db.propertyConnectors.restrict fun pc => db.owns t pc.propertyId).update row := by
      refine Table.restrict_update ?_
      intro x hx hid
      rw [hsame x hx hid, hfollows.propertyId]
    rw [hupdate, Table.update_restrict_of_out]
    intro x hx ht hid
    rw [hsame x hx hid] at ht
    exact hother ht
  | _ => rfl

theorem CatalogueWrite.tenantRows {t : Uuid} (h : CatalogueWrite env db d db') :
    db'.tenantRows t = db.tenantRows t := by
  cases h <;> rfl

/-- Writes for some tenants leave the rows of the others alone. -/
theorem PlatformWrites.tenantRows {t : Uuid} (h : PlatformWrites env domains db db')
    (ht : .tenant t ∉ domains) :
    db'.tenantRows t = db.tenantRows t := by
  refine h.keeps (P := fun x => x.tenantRows t = db.tenantRows t) ?_ ?_ rfl
  · intro d hmem _ _ hw hP
    exact (hw.tenantRows fun heq => ht (heq ▸ hmem)).trans hP
  · exact fun _ _ _ _ hw hP => hw.tenantRows.trans hP

/-! ### The logs -/

theorem DbWrite.adminLog (h : DbWrite db d db') :
    ∀ row ∈ db'.adminActionLogs, row ∈ db.adminActionLogs ∨ d = .admin row.adminId row.timestamp := by
  cases h with
  | adminActionLog entry _ =>
    intro row hrow
    rcases Table.mem_of_mem_insert hrow with hrow | rfl
    · exact Or.inl hrow
    · exact Or.inr rfl
  | _ => exact fun row hrow => Or.inl hrow

theorem CatalogueWrite.adminLog (h : CatalogueWrite env db d db') :
    ∀ row ∈ db'.adminActionLogs, row ∈ db.adminActionLogs ∨ d = .admin row.adminId row.timestamp := by
  cases h with
  | connectors rows request heffect => exact fun row hrow => Or.inl hrow
  | adminActionLog entry _ =>
    intro row hrow
    rcases Table.mem_of_mem_insert hrow with hrow | rfl
    · exact Or.inl hrow
    · exact Or.inr rfl

/-- The log names the admins in whose name the writes are. -/
theorem PlatformWrites.adminLog (h : PlatformWrites env domains db db') :
    ∀ row ∈ db'.adminActionLogs, row ∈ db.adminActionLogs ∨ .admin row.adminId row.timestamp ∈ domains := by
  refine h.keeps (P := fun x => ∀ row ∈ x.adminActionLogs,
    row ∈ db.adminActionLogs ∨ .admin row.adminId row.timestamp ∈ domains) ?_ ?_ fun row hrow => Or.inl hrow
  · intro d hmem _ _ hw hP row hrow
    rcases hw.adminLog row hrow with hold | rfl
    · exact hP row hold
    · exact Or.inr hmem
  · intro d hmem _ _ hw hP row hrow
    rcases hw.adminLog row hrow with hold | rfl
    · exact hP row hold
    · exact Or.inr hmem

/-- The writes to a domain log nothing up to a moment. -/
def Domain.After (moment : Instant) : Domain → Prop
  | loginAttempt timestamp | auditLog _ timestamp | admin _ timestamp => moment < timestamp
  | _ => True

/-- The entries of the three logs up to a moment. -/
def Db.loggedUpTo (db : Db) (moment : Instant) : List AuditLog × List AdminActionLog × List LoginAttempt :=
  (db.auditLogs.select fun r => decide (r.timestamp ≤ moment),
    db.adminActionLogs.select fun r => decide (r.timestamp ≤ moment),
    db.loginAttempts.select fun r => decide (r.timestamp ≤ moment))

theorem DbWrite.loggedUpTo {moment : Instant} (h : DbWrite db d db') (hd : d.After moment) :
    db'.loggedUpTo moment = db.loggedUpTo moment := by
  unfold Db.loggedUpTo
  cases h with
  | auditLog row =>
    rw [Table.select_insert_of_out]
    exact decide_eq_false (Nat.not_le.mpr hd)
  | adminActionLog row _ =>
    rw [Table.select_insert_of_out]
    exact decide_eq_false (Nat.not_le.mpr hd)
  | loginAttempt row =>
    rw [Table.select_insert_of_out]
    exact decide_eq_false (Nat.not_le.mpr hd)
  | _ => rfl

theorem CatalogueWrite.loggedUpTo {moment : Instant} (h : CatalogueWrite env db d db') (hd : d.After moment) :
    db'.loggedUpTo moment = db.loggedUpTo moment := by
  unfold Db.loggedUpTo
  cases h with
  | connectors rows request heffect => rfl
  | adminActionLog row _ =>
    rw [Table.select_insert_of_out]
    exact decide_eq_false (Nat.not_le.mpr hd)

/-- Later writes leave what is logged up to a moment. -/
theorem PlatformWrites.loggedUpTo {moment : Instant} (h : PlatformWrites env domains db db')
    (hd : ∀ d ∈ domains, d.After moment) : db'.loggedUpTo moment = db.loggedUpTo moment := by
  refine h.keeps (P := fun x => x.loggedUpTo moment = db.loggedUpTo moment) ?_ ?_ rfl
  · exact fun d hmem _ _ hw hP => (hw.loggedUpTo (hd d hmem)).trans hP
  · exact fun d hmem _ _ hw hP => (hw.loggedUpTo (hd d hmem)).trans hP

end

end RatingLift
