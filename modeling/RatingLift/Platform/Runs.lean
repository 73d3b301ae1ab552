import RatingLift.Auth.AccountIsolation
import RatingLift.Platform.Http

/-!
# Runs of the platform

Every startup and every request is a sequence of the writes of the platform, to the domains that its gates
have let it through to (`PlatformEvent.next_writes`).  So over every run

* (`schema_holds`) the constraints of the schema hold;
* (`nothing_lost`) no row of the business tables goes away, and the logs only grow;
* (`catalogue_accounted`) the admin log tells how the catalogue came to be what it is;
* (`trails_accounted`) the audit log tells how every property and every binding came to be what it is;
* (`tenant_untouched`) the rows of a tenant stay as they are while nobody acts for the tenant;
* (`access_controlled`) what the tenants share changes only as its guards allow;
* (`admins_attributed`) every entry of the admin log names an admin whose token was checked.
-/

namespace RatingLift

open Library Fallible

section

variable {env : BackendEnv} {s : PlatformState} {draw : PlatformDraw} {ipAddress : Option String} {db : Db}

/-! ### Writes -/

theorem seedConnectors_writes {cenv : ConnectorEnv} {id : Nat → Uuid} {db' : Db} {domains : Set Domain}
    (hcatalogue : .catalogue ∈ domains) (h : seedConnectors cenv db id = .ok db') :
    PlatformWrites cenv domains db db' := by
  have honly : ConnectorsOnly db db' := seedConnectors_only h
  have heffect : CatalogueEffect cenv db.connectors db'.connectors (.seed id) :=
    .seeded (seedConnectorsFrom_seeded _ (fun _ hname => hname) h)
  rw [honly]
  exact .single (.connectors _ _ heffect) hcatalogue

/-- Startup seeds the admins, and after them the connectors unless an admin could not be written. -/
theorem runSeeders_either {τ : Type} {aenv : AuthEnv τ} {cenv : ConnectorEnv}
    (fault : AdminSeed → Option SeedFault) (entries : List (AdminSeed × AuthDraw)) (id : Nat → Uuid) :
    runSeeders aenv fault cenv db entries id = (seedAdminsUntil aenv fault [] db entries).1 ∨
      seedConnectors cenv (seedAdminsUntil aenv fault [] db entries).1 id =
        .ok (runSeeders aenv fault cenv db entries id) := by
  unfold runSeeders
  generalize seedAdminsUntil aenv fault [] db entries = admins
  obtain ⟨dbA, outcome⟩ := admins
  split
  · rename_i h
    cases h
    exact Or.inl rfl
  · rename_i h
    cases h
    split
    · rename_i hok
      exact Or.inr hok
    · exact Or.inl rfl

def Domain.OfStartup (moments : Set Instant) : Domain → Prop
  | account | catalogue => True
  | auditLog entity timestamp => ¬ Traced entity ∧ timestamp ∈ moments
  | _ => False

/-- What a startup writes to. -/
def startupDomains (entries : List (AdminSeed × AuthDraw)) : Set Domain :=
  {d | d.OfStartup (seedMoments entries)}

theorem runSeeders_writes {τ : Type} {aenv : AuthEnv τ} {cenv : ConnectorEnv}
    (fault : AdminSeed → Option SeedFault) (entries : List (AdminSeed × AuthDraw)) (id : Nat → Uuid) :
    PlatformWrites cenv (startupDomains entries) db (runSeeders aenv fault cenv db entries id) := by
  have hadmins :
      PlatformWrites cenv (startupDomains entries) db (seedAdminsUntil aenv fault [] db entries).1 := by
    refine (seedAdminsUntil_writes fault entries [] db).platform.mono ?_
    intro d hd
    cases d with
    | account => trivial
    | auditLog entity timestamp => exact hd
    | _ => cases hd
  rcases runSeeders_either fault entries id with hsame | hseeded
  · rw [hsame]
    exact hadmins
  · exact hadmins.trans (seedConnectors_writes trivial hseeded)

theorem blockIpWith_writes {domains : Set Domain} (hblocklist : .blocklist ∈ domains) {address : String}
    {reason : Option String} {failedAttempts durationSeconds : Nat} {now : Instant} :
    DbWrites domains db (blockIpWith db address reason failedAttempts durationSeconds now).2 := by
  unfold blockIpWith
  extract_lets expiresAt new
  split <;> exact .single (.blocklist _) hblocklist

/-- What an admin's request about the addresses writes to. -/
def blockDomains (adminId : Uuid) (now : Instant) : Set Domain :=
  {.blocklist, .admin adminId now, .auditLog "ip" now}

theorem manuallyBlockIp_writes {adminId : Uuid} {payload : IpBlockCreateRequest} {draw : Draw} :
    DbWrites (blockDomains adminId draw.now) db (manuallyBlockIp db draw ipAddress adminId payload).2 :=
  (blockIpWith_writes (by simp [blockDomains])).trans
    (logAdminAction_writes (by decide) (by simp [blockDomains]) (by simp [blockDomains]))

theorem manuallyUnblockIp_writes {adminId : Uuid} {address : String} {draw : Draw} :
    DbWrites (blockDomains adminId draw.now) db (manuallyUnblockIp db draw ipAddress adminId address).2 := by
  unfold manuallyUnblockIp
  split
  · exact .refl
  unfold unblockIp
  cases db.ipBlocklist.find? address with
  | none => exact .refl
  | some row =>
    have hdeleted :
        DbWrites (blockDomains adminId draw.now) db
          { db with ipBlocklist := db.ipBlocklist.delete row.ipAddress } :=
      .single (.blocklist _) (by simp [blockDomains])
    exact hdeleted.trans (logAdminAction_writes (by decide) (by simp [blockDomains]) (by simp [blockDomains]))

/-- What an admin's request to the catalogue writes to. -/
def catalogueDomains (adminId : Uuid) (now : Instant) : Set Domain :=
  {.catalogue, .admin adminId now, .auditLog "connector" now}

theorem logConnectorAction_writes {cenv : ConnectorEnv} {adminId : Uuid} {draw : Draw}
    (entry : Option AdminEntry) :
    PlatformWrites cenv (catalogueDomains adminId draw.now) db
      (logConnectorAction db draw adminId ipAddress entry) := by
  cases entry with
  | none => exact .refl
  | some e =>
    have hlogged :
        PlatformWrites cenv (catalogueDomains adminId draw.now) db { db with adminActionLogs := _ } :=
      .single (.adminActionLog ⟨draw.adminLogId, adminId, e.action, some "connector", e.targetId, none,
        e.beforeValue,
        e.afterValue, ipAddress, draw.now⟩ rfl) (by simp [catalogueDomains])
    exact hlogged.trans (DbWrites.single (.auditLog _) (by simp [catalogueDomains])).platform

theorem CatalogueRequest.handle_writes {isoformat : Instant → String} {cenv : ConnectorEnv}
    {settings : Settings} {w : MediaWorld} {adminId : Uuid} {draw : Draw} (request : CatalogueRequest) :
    PlatformWrites cenv (catalogueDomains adminId draw.now) w.db
      (request.handle isoformat cenv settings w draw adminId ipAddress).db := by
  unfold handle
  split
  · exact .refl
  rename_i storage served hserve
  have hok : (request.serve cenv settings w).2 = .ok served := congrArg Prod.snd hserve
  have honly : ConnectorsOnly w.db served :=
    (CatalogueRequest.serve_accounted hok : Accounted isoformat w.db served _).only
  have hserved : PlatformWrites cenv (catalogueDomains adminId draw.now) w.db served := by
    have heffect := request.serve_effect hok
    rw [honly]
    exact .single (.connectors _ _ heffect) (by simp [catalogueDomains])
  exact hserved.trans (logConnectorAction_writes _)

/-! ### The calls -/

/-- What a call writes to. -/
def PlatformCall.domains (env : BackendEnv) (db : Db) (draw : PlatformDraw) : PlatformCall → Set Domain
  | auth _ => authDomains draw.auth.now
  | tenant request => requestDomains (request.reach env.tenants db) request.admins draw.tenant.now
  | catalogue adminId _ => catalogueDomains adminId draw.tenant.now
  | manuallyBlockIp adminId _ | manuallyUnblockIp adminId _ => blockDomains adminId draw.tenant.now

theorem PlatformCall.next_writes {call : PlatformCall} (hfresh : call.Fresh s.db draw) :
    PlatformWrites env.connectors (call.domains env s.db draw) s.db (call.next env s draw ipAddress).db := by
  cases call with
  | auth http => exact (AuthHttp.handle_writes hfresh).platform
  | tenant request => exact (AuditedRequest.next_writes hfresh).platform
  | catalogue adminId route => exact CatalogueRequest.handle_writes (w := s.media) route.1
  | manuallyBlockIp adminId payload => exact manuallyBlockIp_writes.platform
  | manuallyUnblockIp adminId address => exact manuallyUnblockIp_writes.platform

/-! ### Gates -/

theorem PlatformHttp.passed_next {http : PlatformHttp} {now : Instant} {state : RequestState}
    (h : http.passed env now = .ok state) :
    middleware env.routes.auth.jwt env.routes.auth.settings now http.request = .next state := by
  unfold passed at h
  split at h
  · cases h
  split at h
  · cases h
  · rename_i hnext
    cases h
    exact hnext

/-- The context of a tenant route is the one that the token and, for an admin, `?tenant_id=` make. -/
theorem PlatformHttp.context_eq {http : PlatformHttp} {now : Instant} {ctx : RequestContext}
    (h : http.context env now = .ok ctx) :
    tenantContext env.routes.repr env.routes.auth.jwt env.routes.auth.settings now http.request =
      .ok ctx := by
  obtain ⟨state, hpassed, h⟩ := bind_eq_ok.mp h
  split at h
  · cases h
  unfold tenantContext
  rw [http.passed_next hpassed]
  exact h

/-- The token of the request names the tenant; that of an admin leaves it to `?tenant_id=`. -/
def PlatformHttp.Names (env : BackendEnv) (now : Instant) (http : PlatformHttp) (t : Uuid) : Prop :=
  ∃ claims ∈ tokenClaims env.routes.auth.jwt env.routes.auth.settings now http.request,
    ∃ text ∈ if (Json.get claims "is_admin").truthy then http.request.queryParam "tenant_id"
        else some ((Json.get claims "tenant_id").toStr env.routes.repr),
      env.tenants.pgUuid text = some t ∨ Uuid.parse text = some t

instance (env : BackendEnv) (now : Instant) (http : PlatformHttp) (t : Uuid) :
    Decidable (http.Names env now t) :=
  inferInstanceAs (Decidable (∃ claims ∈ _, ∃ text ∈ _, _ ∨ _))

theorem coerceUuid_text {text detail : String} {t : Uuid} (h : coerceUuid (.text text) detail = .ok t) :
    Uuid.parse text = some t := by
  unfold coerceUuid at h
  dsimp only at h
  split at h
  · rename_i hparse
    cases h
    exact hparse
  · cases h

/-- A context reaches the tenants that the token names. -/
theorem PlatformHttp.context_names {http : PlatformHttp} {now : Instant} {ctx : RequestContext} {t : Uuid}
    (h : http.context env now = .ok ctx) (ht : t ∈ ctx.reach env.tenants) : http.Names env now t := by
  have hcontext := http.context_eq h
  rw [tenantContext_eq] at hcontext
  obtain ⟨claims, hclaims, hadmin, hcases⟩ := claimsContext_ok hcontext
  have hread : ∀ text, ctx.tenantId = some text → env.tenants.pgUuid text = some t ∨
      Uuid.parse text = some t := by
    intro text htext
    rcases ht with hfilter | hcoerce
    · unfold filterByTenant at hfilter
      rw [htext] at hfilter
      dsimp only at hfilter
      split at hfilter
      · cases hfilter
      · rename_i hpg
        cases hfilter
        exact Or.inl hpg
    · unfold PropertyService.tenantUuid at hcoerce
      rw [htext] at hcoerce
      exact Or.inr (coerceUuid_text hcoerce)
  rcases hcases with ⟨huser, _, htenant, _⟩ | ⟨hisAdmin, text, hoverride, _, htenant⟩
  · refine ⟨claims, hclaims, _, ?_, hread _ htenant⟩
    rw [← hadmin, huser]
    rfl
  · refine ⟨claims, hclaims, text, ?_, hread text htenant⟩
    rw [← hadmin, hisAdmin]
    exact hoverride

/-- The request acts for a tenant: its token names the tenant, or it is an admin's on a binding or a property
of the tenant. -/
def PlatformHttp.ActsFor (env : BackendEnv) (s : PlatformState) (draw : AuthDraw) (http : PlatformHttp)
    (t : Uuid) : Prop :=
  http.Names env draw.now t ∨ ∃ route admin, http.route = .adminBinding route ∧
    http.admin env s draw connectorRoles = .ok admin ∧ t ∈ (route.request admin.id).reach env.tenants s.db

theorem BindingRoute.reach_request (route : BindingRoute) (env : PlatformEnv) (db : Db)
    (ctx : RequestContext) :
    (route.request ctx).reach env db = ctx.reach env := by
  cases route <;> rfl

/-- The bearer token of the request is one of an admin with one of the roles. -/
structure PlatformHttp.AskedBy (env : BackendEnv) (s : PlatformState) (draw : AuthDraw) (http : PlatformHttp)
    (roles : List UserRole) (admin : User) : Prop where
  token : AuthRoutes.currentUser env.routes s.auth draw (http.authHttp .me) = .ok admin
  stored : s.db.users.find? admin.id = some admin
  role : admin.role ∈ roles

theorem UserRole.value_injective : Function.Injective UserRole.value := by
  intro a b h
  cases a <;> cases b <;> simp_all [UserRole.value]

theorem PlatformHttp.admin_askedBy {http : PlatformHttp} {draw : AuthDraw} {roles : List UserRole}
    {admin : User} (h : http.admin env s draw roles = .ok admin) : http.AskedBy env s draw roles admin := by
  obtain ⟨_, _, h⟩ := bind_eq_ok.mp h
  obtain ⟨hcurrent, hrole⟩ := requireRole_ok h
  refine ⟨hcurrent, currentUser_stored hcurrent, ?_⟩
  rw [List.contains_iff_mem, List.mem_map] at hrole
  obtain ⟨role, hmem, heq⟩ := hrole
  rwa [UserRole.value_injective heq] at hmem

/-! ### Who may write what -/

/-- What a request entitles to: a route of authentication to the accounts, the login attempts and the
blocklist, an admin of the right role to the catalogue or the blocklist, and everybody to the rows of the
tenants that the request acts for and to the log in the admin's own name.  What is logged is logged at the
time of the request. -/
def PlatformHttp.MayWrite (env : BackendEnv) (s : PlatformState) (draw : PlatformDraw) (http : PlatformHttp) :
    Domain → Prop
  | .account => ∃ path, http.route = .auth path
  | .loginAttempt timestamp => (∃ path, http.route = .auth path) ∧ timestamp = draw.auth.now
  | .blocklist => (∃ path, http.route = .auth path) ∨ ∃ admin, http.AskedBy env s draw.auth mutateRoles admin
  | .auditLog _ timestamp => timestamp = draw.auth.now ∨ timestamp = draw.tenant.now
  | .catalogue => ∃ admin, http.AskedBy env s draw.auth connectorRoles admin
  | .tenant t => http.ActsFor env s draw.auth t
  | .admin a timestamp => (∃ roles ∈ [connectorRoles, mutateRoles], ∃ admin,
      http.AskedBy env s draw.auth roles admin ∧ admin.id = a) ∧ timestamp = draw.tenant.now

/-- A call writes only what its request entitles to. -/
theorem PlatformHttp.call_mayWrite {http : PlatformHttp} {call : PlatformCall}
    (h : http.call env s draw.auth = .ok call) :
    ∀ d ∈ call.domains env s.db draw, http.MayWrite env s draw d := by
  intro d hd
  have hasked : ∀ {roles : List UserRole} {admin : User}, http.admin env s draw.auth roles = .ok admin →
      roles ∈ [connectorRoles, mutateRoles] → http.MayWrite env s draw (.admin admin.id draw.tenant.now) :=
    fun hadmin hroles => ⟨⟨_, hroles, _, http.admin_askedBy hadmin, rfl⟩, rfl⟩
  unfold PlatformHttp.call at h
  split at h
  · rename_i path hroute
    obtain ⟨_, _, h⟩ := bind_eq_ok.mp h
    cases h
    cases d with
    | account => exact ⟨path, hroute⟩
    | loginAttempt timestamp => exact ⟨⟨path, hroute⟩, hd⟩
    | blocklist => exact Or.inl ⟨path, hroute⟩
    | auditLog entity timestamp => exact Or.inl hd.2
    | _ => cases hd
  · obtain ⟨ctx, hctx, h⟩ := bind_eq_ok.mp h
    cases h
    cases d with
    | auditLog entity timestamp => exact Or.inr hd
    | tenant t => exact Or.inl (http.context_names hctx hd)
    | admin a timestamp => exact absurd hd.1 (Set.notMem_empty a)
    | _ => cases hd
  · rename_i route _
    obtain ⟨ctx, hctx, h⟩ := bind_eq_ok.mp h
    cases h
    cases d with
    | auditLog entity timestamp => exact Or.inr hd
    | tenant t =>
      have hreach : t ∈ (route.request ctx).reach env.tenants s.db := hd
      rw [route.reach_request] at hreach
      exact Or.inl (http.context_names hctx hreach)
    | admin a timestamp =>
      have hname : a ∈ (route.request ctx).admins := hd.1
      cases route <;> cases hname
    | _ => cases hd
  · rename_i route hroute
    obtain ⟨admin, hadmin, h⟩ := bind_eq_ok.mp h
    cases h
    cases d with
    | auditLog entity timestamp => exact Or.inr hd
    | tenant t => exact Or.inr ⟨route, admin, hroute, hadmin, hd⟩
    | admin a timestamp =>
      obtain ⟨hname, rfl⟩ : a ∈ (route.request admin.id).admins ∧ timestamp = draw.tenant.now := hd
      cases route with
      | listPropertyConnectors filter limit offset => cases hname
      | _ =>
        rw [Set.mem_singleton_iff.mp hname]
        exact hasked hadmin (by simp)
    | _ => cases hd
  · obtain ⟨admin, hadmin, h⟩ := bind_eq_ok.mp h
    cases h
    rcases hd with rfl | rfl | rfl
    · exact ⟨admin, http.admin_askedBy hadmin⟩
    · exact hasked hadmin (by simp)
    · exact Or.inr rfl
  · obtain ⟨admin, hadmin, h⟩ := bind_eq_ok.mp h
    cases h
    rcases hd with rfl | rfl | rfl
    · exact Or.inr ⟨admin, http.admin_askedBy hadmin⟩
    · exact hasked hadmin (by simp)
    · exact Or.inr rfl
  · obtain ⟨admin, hadmin, h⟩ := bind_eq_ok.mp h
    cases h
    rcases hd with rfl | rfl | rfl
    · exact Or.inr ⟨admin, http.admin_askedBy hadmin⟩
    · exact hasked hadmin (by simp)
    · exact Or.inr rfl

/-- A startup seeds the accounts and the catalogue; a request writes what it is entitled to. -/
def PlatformEvent.MayWrite (env : BackendEnv) (s : PlatformState) : PlatformEvent → Domain → Prop
  | startup _ entries _ => Domain.OfStartup (seedMoments entries)
  | request http draw => http.MayWrite env s draw

/-- Every event is a sequence of writes that it is entitled to. -/
theorem PlatformEvent.next_writes {event : PlatformEvent} (hfresh : event.Fresh env s) :
    PlatformWrites env.connectors {d | event.MayWrite env s d} s.db (event.next env s).db := by
  cases event with
  | startup fault entries id => exact runSeeders_writes fault entries id
  | request http draw =>
    unfold PlatformEvent.next
    dsimp only
    split
    · exact .refl
    · rename_i call hcall
      exact (PlatformCall.next_writes (hfresh call hcall)).mono (http.call_mayWrite hcall)

/-! ### Events -/

/-- The tenants that a request acts for. -/
def PlatformEvent.ActsFor (env : BackendEnv) (s : PlatformState) (t : Uuid) : PlatformEvent → Prop
  | startup _ _ _ => False
  | request http draw => http.ActsFor env s draw.auth t

/-- The admin whose token a request carries. -/
def PlatformEvent.AskedBy (env : BackendEnv) (s : PlatformState) (a : Uuid) : PlatformEvent → Prop
  | startup _ _ _ => False
  | request http draw =>
    ∃ roles ∈ [connectorRoles, mutateRoles], ∃ admin, http.AskedBy env s draw.auth roles admin ∧ admin.id = a

theorem PlatformEvent.actsFor_of_mayWrite {event : PlatformEvent} {t : Uuid}
    (h : event.MayWrite env s (.tenant t)) :
    event.ActsFor env s t := by
  cases event with
  | startup fault entries id => exact h
  | request http draw => exact h

theorem PlatformEvent.askedBy_of_mayWrite {event : PlatformEvent} {a : Uuid} {timestamp : Instant}
    (h : event.MayWrite env s (.admin a timestamp)) : event.AskedBy env s a := by
  cases event with
  | startup fault entries id => cases h
  | request http draw => exact h.1

theorem PlatformEvent.next_told {event : PlatformEvent} (hfresh : event.Fresh env s)
    (h : CatalogueTold env.routes.auth.isoformat s.db) :
    CatalogueTold env.routes.auth.isoformat (event.next env s).db := by
  -- outside the catalogue neither the connectors nor their entries change
  have helsewhere : ∀ {db : Db} {domains : Set Domain}, DbWrites domains s.db db →
      CatalogueTold env.routes.auth.isoformat db := by
    intro db domains hwrites
    unfold CatalogueTold
    rw [hwrites.catalogue.1, hwrites.catalogue.2]
    exact h
  cases event with
  | startup fault entries id =>
    have hadmins :
        CatalogueTold env.routes.auth.isoformat (seedAdminsUntil env.routes.auth fault [] s.db entries).1 :=
      helsewhere (seedAdminsUntil_writes fault entries [] s.db)
    show CatalogueTold _ (runSeeders env.routes.auth fault env.connectors s.db entries id)
    rcases runSeeders_either fault entries id with hsame | hseeded
    · rw [hsame]
      exact hadmins
    · have hentries : (runSeeders env.routes.auth fault env.connectors s.db entries id).connectorEntries =
          (seedAdminsUntil env.routes.auth fault [] s.db entries).1.connectorEntries := by
        rw [seedConnectors_only hseeded]
        rfl
      unfold CatalogueTold
      rw [hentries]
      exact Told.silently hadmins (seedConnectors_snapshots hseeded)
  | request http draw =>
    unfold PlatformEvent.next
    dsimp only
    split
    · exact h
    rename_i call hcall
    have hnew := hfresh call hcall
    cases call with
    | auth http => exact helsewhere (AuthHttp.handle_writes hnew)
    | tenant request => exact helsewhere (AuditedRequest.next_writes hnew)
    | catalogue adminId route => exact CatalogueRequest.handle_told (w := s.media) h hnew
    | manuallyBlockIp adminId payload => exact helsewhere manuallyBlockIp_writes
    | manuallyUnblockIp adminId address => exact helsewhere manuallyUnblockIp_writes

/-- Only the requests of tenants, and those of admins on their bindings, write what has an audit trail. -/
theorem PlatformCall.domains_untraced {call : PlatformCall} (hother : ∀ request, call ≠ .tenant request) :
    ∀ d ∈ call.domains env db draw, d.Untraced := by
  intro d hd
  cases call with
  | auth http =>
    cases d with
    | auditLog entity timestamp => exact hd.1
    | tenant t => cases hd
    | _ => trivial
  | tenant request => exact absurd rfl (hother request)
  | catalogue adminId route =>
    rcases hd with rfl | rfl | rfl
    · trivial
    · trivial
    · show ¬ Traced "connector"
      decide
  | manuallyBlockIp adminId payload | manuallyUnblockIp adminId address =>
    rcases hd with rfl | rfl | rfl
    · trivial
    · trivial
    · show ¬ Traced "ip"
      decide

theorem PlatformEvent.next_journalled {event : PlatformEvent} (hfresh : event.Fresh env s)
    (h : Journalled s.db) :
    Journalled (event.next env s).db := by
  cases event with
  | startup fault entries id =>
    have hwrites : PlatformWrites env.connectors (startupDomains entries) s.db
        ((PlatformEvent.startup fault entries id).next env s).db := runSeeders_writes fault entries id
    refine hwrites.journalled ?_ h
    intro d hd
    cases d with
    | auditLog entity timestamp => exact hd.1
    | tenant t => cases hd
    | _ => trivial
  | request http draw =>
    unfold PlatformEvent.next
    dsimp only
    split
    · exact h
    rename_i call hcall
    have hnew := hfresh call hcall
    by_cases hother : ∀ request, call ≠ .tenant request
    · exact (PlatformCall.next_writes hnew).journalled (PlatformCall.domains_untraced hother) h
    · obtain ⟨request, rfl⟩ := not_forall_not.mp hother
      exact AuditedRequest.next_journalled h hnew

/-! ### Runs -/

variable {s₀ : PlatformState} {tr : List PlatformStep}

/-- What the writes of every event keep holds of every run. -/
theorem PlatformRun.writes {P : Db → Prop} (hrun : PlatformRun env s₀ tr s)
    (hstep : ∀ x ∈ tr, ∀ db,
      PlatformWrites env.connectors {d | x.label.MayWrite env x.before d} x.before.db db →
      P x.before.db → P db)
    (h : P s₀.db) : P s.db := by
  induction hrun with
  | nil => exact h
  | @snoc tr t t' event _ hfresh hnext ih =>
    cases hnext
    have hbefore : P t.db := ih fun x hx => hstep x (by simp [hx])
    exact hstep ⟨t, event, event.next env t⟩ (by simp) _ (PlatformEvent.next_writes hfresh) hbefore

/-- No request and no startup breaks a constraint of the schema: tenant names, emails, session ids, the places
of a tenant and the pairs of the bindings stay unique, no reference dangles, and the unique indexes on the
connectors and the range of their order hold. -/
theorem schema_holds (hrun : PlatformRun env s₀ tr s) (h : SchemaHolds env.connectors s₀.db) :
    SchemaHolds env.connectors s.db :=
  hrun.writes (fun _ _ _ hwrites hholds => hwrites.schemaHolds hholds) h

/-- No request and no startup loses a row. -/
theorem nothing_lost (hrun : PlatformRun env s₀ tr s) : Continues s₀.db s.db :=
  hrun.writes (fun _ _ _ hwrites h => h.trans hwrites.continues) (.refl _)

/-- The properties of a tenant and their bindings are as they were, unless a request was made for the
tenant. -/
theorem tenant_untouched {t : Uuid} (hrun : PlatformRun env s₀ tr s)
    (hothers : ∀ x ∈ tr, ¬ x.label.ActsFor env x.before t) : s.db.tenantRows t = s₀.db.tenantRows t :=
  hrun.writes (P := fun db => db.tenantRows t = s₀.db.tenantRows t)
    (fun x hx _ hwrites h =>
      (hwrites.tenantRows fun ht => hothers x hx (PlatformEvent.actsFor_of_mayWrite ht)).trans h) rfl

/-- Every entry that a run adds to the log of the admins names an admin whose token some request of the run
carried. -/
theorem admins_attributed (hrun : PlatformRun env s₀ tr s) :
    ∀ row ∈ s.db.adminActionLogs, row ∈ s₀.db.adminActionLogs ∨
    ∃ x ∈ tr, x.label.AskedBy env x.before row.adminId := by
  refine hrun.writes (P := fun db => ∀ row ∈ db.adminActionLogs,
    row ∈ s₀.db.adminActionLogs ∨ ∃ x ∈ tr, x.label.AskedBy env x.before row.adminId) ?_
      fun row hrow => Or.inl hrow
  intro x hx db hwrites h row hrow
  rcases hwrites.adminLog row hrow with hold | hnew
  · exact h row hold
  · exact Or.inr ⟨x, hx, PlatformEvent.askedBy_of_mayWrite hnew⟩

/-! ### Guarded resources -/

def PlatformEvent.isStartup : PlatformEvent → Prop
  | startup _ _ _ => True
  | request _ _ => False

/-- A request to a route of authentication. -/
def PlatformEvent.Authenticates : PlatformEvent → Prop
  | startup _ _ _ => False
  | request http _ => ∃ path, http.route = .auth path

/-- A request that carries the token of an admin with one of the roles. -/
def PlatformEvent.HasRole (env : BackendEnv) (s : PlatformState) (roles : List UserRole) :
    PlatformEvent → Prop
  | startup _ _ _ => False
  | request http draw => ∃ admin, http.AskedBy env s draw.auth roles admin

/-- What the tenants share changes only at a startup, through the routes of authentication, or on behalf of an
admin of the right role. -/
structure Guarded (env : BackendEnv) (x : PlatformStep) : Prop where
  accounts : x.after.db.accounts ≠ x.before.db.accounts → x.label.isStartup ∨ x.label.Authenticates
  redis : x.after.auth.redis ≠ x.before.auth.redis → x.label.Authenticates
  outbox : x.after.auth.outbox ≠ x.before.auth.outbox → x.label.Authenticates
  loginAttempts : x.after.db.loginAttempts ≠ x.before.db.loginAttempts → x.label.Authenticates
  blocklist : x.after.db.ipBlocklist ≠ x.before.db.ipBlocklist →
    x.label.Authenticates ∨ x.label.HasRole env x.before mutateRoles
  connectors : x.after.db.connectors ≠ x.before.db.connectors →
    x.label.isStartup ∨ x.label.HasRole env x.before connectorRoles
  media : x.after.storage ≠ x.before.storage → x.label.HasRole env x.before connectorRoles

/-- Outside the database the routes of authentication change Redis and send messages, and those of the
catalogue change the media. -/
theorem PlatformEvent.next_outside (env : BackendEnv) (s : PlatformState) (event : PlatformEvent) :
    ((event.next env s).auth.redis = s.auth.redis ∧ (event.next env s).auth.outbox = s.auth.outbox ∨
        event.Authenticates) ∧
      ((event.next env s).storage = s.storage ∨ event.HasRole env s connectorRoles) := by
  cases event with
  | startup fault entries id => exact ⟨Or.inl ⟨rfl, rfl⟩, Or.inl rfl⟩
  | request http draw =>
    unfold PlatformEvent.next
    dsimp only
    split
    · exact ⟨Or.inl ⟨rfl, rfl⟩, Or.inl rfl⟩
    rename_i call hcall
    unfold PlatformHttp.call at hcall
    split at hcall
    · rename_i path hroute
      obtain ⟨_, _, hcall⟩ := bind_eq_ok.mp hcall
      cases hcall
      exact ⟨Or.inr ⟨path, hroute⟩, Or.inl rfl⟩
    · obtain ⟨_, _, hcall⟩ := bind_eq_ok.mp hcall
      cases hcall
      exact ⟨Or.inl ⟨rfl, rfl⟩, Or.inl rfl⟩
    · obtain ⟨_, _, hcall⟩ := bind_eq_ok.mp hcall
      cases hcall
      exact ⟨Or.inl ⟨rfl, rfl⟩, Or.inl rfl⟩
    · obtain ⟨_, _, hcall⟩ := bind_eq_ok.mp hcall
      cases hcall
      exact ⟨Or.inl ⟨rfl, rfl⟩, Or.inl rfl⟩
    · obtain ⟨admin, hadmin, hcall⟩ := bind_eq_ok.mp hcall
      cases hcall
      exact ⟨Or.inl ⟨rfl, rfl⟩, Or.inr ⟨admin, http.admin_askedBy hadmin⟩⟩
    · obtain ⟨_, _, hcall⟩ := bind_eq_ok.mp hcall
      cases hcall
      exact ⟨Or.inl ⟨rfl, rfl⟩, Or.inl rfl⟩
    · obtain ⟨_, _, hcall⟩ := bind_eq_ok.mp hcall
      cases hcall
      exact ⟨Or.inl ⟨rfl, rfl⟩, Or.inl rfl⟩

theorem PlatformEvent.mayWrite_shared (env : BackendEnv) (s : PlatformState) (event : PlatformEvent) :
    (event.MayWrite env s .account → event.isStartup ∨ event.Authenticates) ∧
      (∀ timestamp, event.MayWrite env s (.loginAttempt timestamp) → event.Authenticates) ∧
      (event.MayWrite env s .blocklist → event.Authenticates ∨ event.HasRole env s mutateRoles) ∧
      (event.MayWrite env s .catalogue → event.isStartup ∨ event.HasRole env s connectorRoles) := by
  cases event with
  | startup fault entries id => exact ⟨Or.inl, fun _ => False.elim, False.elim, Or.inl⟩
  | request http draw => exact ⟨Or.inr, fun _ h => h.1, id, Or.inr⟩

theorem PlatformEvent.next_guarded {event : PlatformEvent} (hfresh : event.Fresh env s) :
    Guarded env ⟨s, event, event.next env s⟩ := by
  have hwrites := event.next_writes hfresh
  obtain ⟨hsent, hmedia⟩ := event.next_outside env s
  obtain ⟨haccount, hattempt, hblocklist, hcatalogue⟩ := event.mayWrite_shared env s
  exact {
    accounts := fun hne => haccount (by_contra fun hno => hne (hwrites.accounts hno))
    redis := fun hne => hsent.resolve_left fun h => hne h.1
    outbox := fun hne => hsent.resolve_left fun h => hne h.2
    loginAttempts := fun hne => by_contra fun hno =>
      hne (hwrites.loginAttempts fun timestamp h => hno (hattempt timestamp h))
    blocklist := fun hne => hblocklist (by_contra fun hno => hne (hwrites.ipBlocklist hno))
    connectors := fun hne => hcatalogue (by_contra fun hno => hne (hwrites.connectors hno))
    media := fun hne => hmedia.resolve_left hne }

/-- Over every run what the tenants share changes only as its guards allow. -/
theorem access_controlled (hrun : PlatformRun env s₀ tr s) : ∀ x ∈ tr, Guarded env x := by
  intro x hx
  obtain ⟨pre, post, htr⟩ := List.append_of_mem hx
  obtain ⟨_, hfresh, hnext⟩ := hrun.split htr
  obtain ⟨before, event, after⟩ := x
  obtain rfl : event.next env before = after := Option.some.inj hnext
  exact PlatformEvent.next_guarded hfresh

/-- At every moment the log of the admins tells how the catalogue came to be what it is. -/
theorem catalogue_accounted (hrun : PlatformRun env s₀ tr s)
    (h : CatalogueTold env.routes.auth.isoformat s₀.db) :
    CatalogueTold env.routes.auth.isoformat s.db := by
  induction hrun with
  | nil => exact h
  | snoc _ hfresh hnext ih =>
    cases hnext
    exact PlatformEvent.next_told hfresh ih

/-- At every moment the audit log tells how the properties and the bindings came to be what they are: the
entries about each lead from null to its current snapshot. -/
theorem trails_accounted (hrun : PlatformRun env s₀ tr s) (h : Journalled s₀.db) :
    Journalled s.db ∧ TrailsComplete s.db := by
  have hjournalled : Journalled s.db := by
    refine hrun.invariant (I := fun _ s => Journalled s.db) h ?_
    intro _ _ _ _ _ hs hfresh hnext
    cases hnext
    exact PlatformEvent.next_journalled hfresh hs
  exact ⟨hjournalled, hjournalled.trailsComplete⟩

end

/-! ### A tenant and an admin -/

namespace SamplePlatform

/-- The token of the admin `a…`, and of a user of the tenant `t…`. -/
def decode (token : String) : Decoded :=
  match token.toList with
  | 'a' :: admin => .payload [("user_id", .str (String.ofList admin)), ("is_admin", .bool true)]
  | 't' :: tenant =>
    .payload [("user_id", .str "owner"), ("role", .str "OWNER"), ("tenant_id", .str (String.ofList tenant))]
  | _ => .invalid

def env : BackendEnv where
  routes := { SampleApi.env with auth := .sample ⟨fun _ secret => secret, fun token _ _ => decode token⟩ }
  tenants := KeyRotation.env
  connectors := SharedSlug.env

def empty : PlatformState := ⟨.fresh, .ofLocal "media", .empty⟩

def draw (n : Nat) : PlatformDraw := ⟨.numbered n, ClosedBranch.drawAt n⟩

def http (url token : String) (body : Option Json) (route : PlatformRoute) : PlatformHttp :=
  ⟨⟨url, [("authorization", "Bearer " ++ token)], [], none⟩, some token, body, ⟨200, []⟩, route⟩

def request (url token : String) (body : Option Json) (route : PlatformRoute) (n : Nat) : PlatformEvent :=
  .request (http url token body route) (draw n)

def startup : PlatformEvent :=
  .startup (fun _ => none) [(⟨"root@example.com", "a long secret", "Root", "SUPER_ADMIN"⟩, .numbered 1)]
    fun k => .ofNat (k + 1)

def signup (email : String) (n : Nat) : PlatformEvent :=
  request "/api/v1/auth/signup" "" (some (.dict [("email", .str email), ("password", .str "Passw0rd-1234")]))
    (.auth .signup) n

/-- The `n`-th request, of the tenant that signed up in the `owner`-th. -/
def openShop (owner : Nat) (place : String) (n : Nat) : PlatformEvent :=
  request "/api/v1/tenant/properties" ("t" ++ (draw owner).auth.tenantId.str) none
    (.property (.createPropertyEndpoint ⟨"Shop", some place, none⟩)) n

/-- The administrator that the startup seeds adds a connector. -/
def addConnector (name : String) (n : Nat) : PlatformEvent :=
  request "/api/v1/admin/connectors" ("a" ++ (Uuid.ofNat 201).str) none
    (.catalogue ⟨.create (.ofNat (50 + n)) name none, nofun⟩) n

def block (address : String) (h : 2 ≤ address.length ∧ address.length ≤ 64) (n : Nat) : PlatformEvent :=
  request "/api/v1/admin/ip-blocklist" ("a" ++ (Uuid.ofNat 201).str) none
    (.manuallyBlockIp ⟨address, some "abuse", 60, h, by decide, by decide⟩) n

def day : List PlatformEvent :=
  [startup, signup "ann@example.com" 2, openShop 2 "ChIJ_abc" 3, addConnector "Foo" 4,
    block "10.0.0.1" (by decide) 5]

/-- What a day leaves: properties, connectors, and the actions of the admins. -/
def summary (db : Db) : Nat × Nat × List String :=
  (db.properties.rows.length, db.connectors.rows.length, db.adminActionLogs.rows.map (·.action))

def evening : Nat × Nat × List String := (1, 8, ["connector_created", "ip.block"])

theorem day_run : ∃ tr s, PlatformRun env empty tr s ∧ summary s.db = evening := by
  have hreplay : (Run.replay (fun s (event : PlatformEvent) => some (event.next env s))
      (fun _ s event => event.Fresh env s)
      empty day).map (fun r => decide (summary r.2.db = evening)) = some true := by
    decide +kernel
  obtain ⟨tr, s, hrun, hcheck⟩ := Run.exists_of_replay hreplay
  exact ⟨tr, s, hrun, of_decide_eq_true hcheck⟩

theorem day_sound : ∃ s : PlatformState, summary s.db = evening ∧ SchemaHolds env.connectors s.db := by
  obtain ⟨_, s, hrun, hs⟩ := day_run
  exact ⟨s, hs, schema_holds hrun (.empty _)⟩

theorem day_continues : ∃ s : PlatformState, summary s.db = evening ∧ Continues empty.db s.db := by
  obtain ⟨_, s, hrun, hs⟩ := day_run
  exact ⟨s, hs, nothing_lost hrun⟩

theorem day_accounted : ∃ s : PlatformState, summary s.db = evening ∧
    CatalogueTold env.routes.auth.isoformat s.db := by
  obtain ⟨_, s, hrun, hs⟩ := day_run
  exact ⟨s, hs, catalogue_accounted hrun (.empty _)⟩

theorem day_attributed : ∃ (tr : List PlatformStep) (s : PlatformState), summary s.db = evening ∧
    ∀ row ∈ s.db.adminActionLogs, row ∈ empty.db.adminActionLogs ∨
    ∃ x ∈ tr, x.label.AskedBy env x.before row.adminId := by
  obtain ⟨tr, s, hrun, hs⟩ := day_run
  exact ⟨tr, s, hs, admins_attributed hrun⟩

theorem day_guarded :
    ∃ (tr : List PlatformStep) (s : PlatformState), summary s.db = evening ∧ ∀ x ∈ tr, Guarded env x := by
  obtain ⟨tr, s, hrun, hs⟩ := day_run
  exact ⟨tr, s, hs, access_controlled hrun⟩

theorem day_trailed :
    ∃ s : PlatformState, summary s.db = evening ∧ Journalled s.db ∧ TrailsComplete s.db := by
  obtain ⟨_, s, hrun, hs⟩ := day_run
  exact ⟨s, hs, trails_accounted hrun (NoHistory.journalled ⟨rfl, rfl, rfl⟩)⟩

/-- The shop of the first tenant is not touched when another opens one at the same place. -/
theorem first_shop_untouched :
    ∃ s₀ s : PlatformState, (s₀.db.tenantRows (draw 2).auth.tenantId).1.rows.length = 1 ∧
    s.db.properties.rows.length = 2 ∧
    s.db.tenantRows (draw 2).auth.tenantId = s₀.db.tenantRows (draw 2).auth.tenantId := by
  let s₀ : PlatformState :=
    [signup "ann@example.com" 2, openShop 2 "ChIJ_abc" 3, signup "bob@example.com" 6].foldl
    (fun s event => event.next env s) empty
  let event : PlatformEvent := openShop 6 "ChIJ_abc" 7
  have hrun : PlatformRun env s₀ [⟨s₀, event, event.next env s₀⟩] (event.next env s₀) :=
    Run.nil.snoc (by decide +kernel) rfl
  refine ⟨s₀, event.next env s₀, by decide +kernel, by decide +kernel, tenant_untouched hrun ?_⟩
  intro x hx
  rw [List.mem_singleton.mp hx]
  rintro (hnames | ⟨route, _, hroute, _⟩)
  · exact absurd hnames (by decide +kernel)
  · cases hroute

end SamplePlatform

end RatingLift
