import RatingLift.Audit.Lists
import RatingLift.Platform.Runs
import RatingLift.PropertyConnector.Offers

/-!
# Lists over runs of the platform

* (`offer_kept`) what the tenant's list of the catalogue offers, the platform does, and the list then shows
  it;
* (`log_read`) an administrator who reads a log page by page, while the platform goes on, sees every entry
  exactly once.
-/

namespace RatingLift

open Library Fallible

section

variable {env : BackendEnv} {s s₀ : PlatformState} {tr : List PlatformStep} {db db' : Db}

/-! ### Offers -/

/-- In every state that the platform reaches, a request that presses a button of the list is served, and the
list then shows the connector the other way round and the other connectors as before. -/
theorem offer_kept {settings : Settings} {ctx : RequestContext} {limit offset : Nat} {propertyId : Uuid}
    {list : TenantConnectorList} {item : TenantConnectorResponse} {payload : ActivateConnector}
    {http : PlatformHttp} {draw : PlatformDraw} (hrun : PlatformRun env s₀ tr s)
    (hsound : Sound env.connectors s₀.db)
    (hlist : listActiveConnectors env.tenants settings s.db ctx limit offset (some propertyId) = .ok list)
    (hitem : item ∈ list.items)
    (hcall : http.call env s draw.auth = .ok (.tenant (.binding (item.offer ctx propertyId payload))))
    (hfresh : (PlatformEvent.request http draw).Fresh env s) :
    listActiveConnectors env.tenants settings ((PlatformEvent.request http draw).next env s).db
      ctx limit offset
        (some propertyId) =
      .ok { list with items := list.items.map fun i =>
        if i.id = item.id then i.pressed (draw.tenant.id 0) else i } := by
  have hpairs : PairsUnique s.db :=
    (hrun.writes (P := Sound env.connectors) (fun _ _ _ hwrites h => hwrites.sound h) hsound).pairs
  have hnew : draw.tenant.New _ s.db := hfresh _ hcall
  obtain ⟨reply, db', hserved, hshown⟩ := offer_served payload draw.tenant (clientIp http.request) hpairs
    (hnew.bindings.head Nat.one_pos) hlist hitem
  have hnext : ((PlatformEvent.request http draw).next env s).db = db' := by
    unfold PlatformEvent.next
    dsimp only
    rw [hcall]
    show AuditedRequest.next env.tenants s.db draw.tenant (clientIp http.request) (.binding _) = db'
    unfold AuditedRequest.next
    dsimp only
    rw [hserved]
  rw [hnext]
  exact hshown

/-! ### Logs -/

/-- The moments of an event, by the clocks of what it calls. -/
def PlatformEvent.moments : PlatformEvent → Set Instant
  | startup _ entries _ => seedMoments entries
  | request _ draw => {draw.auth.now, draw.tenant.now}

def PlatformEvent.After (moment : Instant) (event : PlatformEvent) : Prop :=
  ∀ now ∈ event.moments, moment < now

theorem PlatformEvent.After.mayWrite {event : PlatformEvent} {moment : Instant}
    (h : event.After moment) {d : Domain} (hd : event.MayWrite env s d) : d.After moment := by
  cases event with
  | startup fault entries id =>
    cases d with
    | auditLog entity timestamp => exact h timestamp hd.2
    | loginAttempt timestamp => cases hd
    | admin a timestamp => cases hd
    | _ => trivial
  | request http draw =>
    cases d with
    | auditLog entity timestamp => exact h timestamp hd
    | loginAttempt timestamp => exact h timestamp (Or.inl hd.2)
    | admin a timestamp => exact h timestamp (Or.inr hd.2)
    | _ => trivial

/-- What is logged up to a moment stays so. -/
theorem PlatformRun.loggedUpTo {moment : Instant} (hrun : PlatformRun env s₀ tr s)
    (hafter : ∀ x ∈ tr, x.label.After moment) : s.db.loggedUpTo moment = s₀.db.loggedUpTo moment :=
  hrun.writes (P := fun db => db.loggedUpTo moment = s₀.db.loggedUpTo moment)
    (fun x hx _ hwrites h => (hwrites.loggedUpTo fun _ hd => (hafter x hx).mayWrite hd).trans h) rfl

/-- The entries of a list with `until` are among those that are logged up to it. -/
theorem LogQuery.entries_congr {lower : String → String} {since : Option Instant} {moment : Instant}
    (h : db'.loggedUpTo moment = db.loggedUpTo moment) (query : LogQuery) :
    query.entries lower db' since (some moment) = query.entries lower db since (some moment) := by
  have hentries : ∀ (db : Db), query.entries lower db since (some moment) = ((query.log db).filter fun r =>
      decide (query.timestamp r ≤ moment)).filter fun r =>
        query.accepts lower r && since.all fun t => t ≤ query.timestamp r := by
    intro db
    rw [List.filter_filter]
    unfold entries withinTimes
    simp [Bool.and_assoc]
  rw [hentries, hentries]
  congr 1
  obtain ⟨haudit, hadmin, hlogin⟩ : _ ∧ _ ∧ _ := ⟨congrArg (·.1) h, congrArg (·.2.1) h, congrArg (·.2.2) h⟩
  cases query with
  | listAuditLogs => exact haudit
  | listAdminActions => exact hadmin
  | listLoginAttempts => exact hlogin

/-- An administrator reads a log page by page, each page at another state of the platform and under another
order of the scan, with an `until` before all that happens meanwhile.  The pages hold every entry exactly
once, as many as each of them says, exactly when no entries of one moment straddle a multiple of the page
size. -/
theorem log_read (query : LogQuery) (since : Option Instant) (moment : Instant) {limit : Nat}
    (hlimit : 1 ≤ limit) :
    (∀ (states : Nat → PlatformState) (scans : Nat → Db),
        (∀ k, ∃ tr, PlatformRun env s₀ tr (states k) ∧ ∀ x ∈ tr, x.label.After moment) →
        (∀ k, LogRescan (states k).db (scans k)) →
        (∀ k, (query.run env.routes.auth.lower (scans k) since (some moment) limit (k * limit)).total =
          (query.entries env.routes.auth.lower s₀.db since (some moment)).length) ∧
        ∀ n, (query.entries env.routes.auth.lower s₀.db since (some moment)).length ≤ n * limit →
          ((List.range n).flatMap fun k =>
            (query.run env.routes.auth.lower (scans k) since (some moment) limit (k * limit)).items).Perm
              (query.entries env.routes.auth.lower s₀.db since (some moment))) ↔
      TiesWithinPages query.le limit (query.entries env.routes.auth.lower s₀.db since (some moment)) := by
  constructor
  · intro hread
    refine LogQuery.ties_of_pages hlimit ?_
    intro scans hscans
    exact (hread (fun _ => s₀) scans (fun _ => ⟨[], .nil, by simp⟩) hscans).2
  · intro hties states scans hstates hscans
    refine LogQuery.pages_perm hlimit hties ?_
    intro k
    obtain ⟨tr, hrun, hafter⟩ := hstates k
    rw [← query.entries_congr (hrun.loggedUpTo hafter)]
    exact (LogQuery.log_rescan (hscans k) query).filter _

end

/-! ### In the evening -/

namespace SamplePlatform

/-- The tenant connects the shop to the connector that the administrator added. -/
def connect : PlatformHttp :=
  http "/api/v1/tenant/properties" ("t" ++ (draw 2).auth.tenantId.str) none
    (.binding
      (.activateConnectorEndpoint ((draw 3).tenant.id 0) ⟨.ofNat 54, "key", "secret", none, none, none⟩))

/-- The tenant's list of the catalogue, for the shop. -/
def catalogue (s : PlatformState) (ctx : RequestContext) : Except Exn TenantConnectorList :=
  listActiveConnectors env.tenants env.routes.auth.settings s.db ctx 50 0 (some ((draw 3).tenant.id 0))

theorem connect_kept :
    ∃ s ctx list item, catalogue s ctx = .ok list ∧ item ∈ list.items ∧ item.isConnected = false ∧
    catalogue ((PlatformEvent.request connect (draw 6)).next env s) ctx =
      .ok { list with items := list.items.map fun i =>
        if i.id = item.id then i.pressed ((draw 6).tenant.id 0) else i } := by
  have hreplay : (Run.replay (fun s (event : PlatformEvent) => some (event.next env s))
      (fun _ s event => event.Fresh env s)
      empty day).map (fun r => decide ((PlatformEvent.request connect (draw 6)).Fresh env r.2) &&
        (connect.context env (draw 6).auth.now).toOption.any fun ctx =>
          (catalogue r.2 ctx).toOption.any fun list =>
          list.items.any fun i => i.id == .ofNat 54 && i.propertyConnectorId.isNone && !i.isConnected) =
            some true := by
    decide +kernel
  obtain ⟨_, s, hrun, hcheck⟩ := Run.exists_of_replay hreplay
  simp only [Bool.and_eq_true, decide_eq_true_iff, Option.any_eq_true, List.any_eq_true, beq_iff_eq,
    Option.isNone_iff_eq_none, Bool.not_eq_true'] at hcheck
  obtain ⟨hfresh, ctx, hctx, list, hlist, item, hitem, ⟨hid, hfree⟩, hoff⟩ := hcheck
  rw [toOption_eq_some] at hctx hlist
  refine ⟨s, ctx, list, item, hlist, hitem, hoff, ?_⟩
  have hcall : connect.call env s (draw 6).auth =
      .ok
        (.tenant
          (.binding
            (item.offer ctx ((draw 3).tenant.id 0) ⟨.ofNat 54, "key", "secret", none, none, none⟩))) := by
    unfold TenantConnectorResponse.offer
    rw [hfree, hid]
    show (connect.context env (draw 6).auth.now >>= fun ctx => _) = _
    rw [hctx]
    rfl
  exact offer_kept hrun (.empty _) hlist hitem hcall hfresh

def auditLog : LogQuery := .listAuditLogs none none none

/-- The entries of the audit log up to the end of the day. -/
def dayLog (s : PlatformState) : List auditLog.Row :=
  auditLog.entries env.routes.auth.lower s.db none (some 5)

/-- While the platform goes on, two pages of at most three entries show the five of the day. -/
theorem day_read : ∃ tr s, PlatformRun env empty tr s ∧ (dayLog s).length = 5 ∧
    ∀ (states : Nat → PlatformState) (scans : Nat → Db),
      (∀ k, ∃ tr, PlatformRun env s tr (states k) ∧ ∀ x ∈ tr, x.label.After 5) →
      (∀ k, LogRescan (states k).db (scans k)) →
      ((List.range 2).flatMap fun k =>
        (auditLog.run env.routes.auth.lower (scans k) none (some 5) 3 (k * 3)).items).Perm (dayLog s) := by
  have hreplay : (Run.replay (fun s (event : PlatformEvent) => some (event.next env s))
      (fun _ s event => event.Fresh env s)
      empty day).map (fun r : List PlatformStep × PlatformState => decide ((dayLog r.2).length = 5 ∧
        ∀ x ∈ dayLog r.2, 3 ≤ countBefore auditLog.le x (dayLog r.2) ∨
          countUpTo auditLog.le x (dayLog r.2) ≤ 3)) =
          some true := by
    decide +kernel
  obtain ⟨tr, s, hrun, hcheck⟩ := Run.exists_of_replay hreplay
  obtain ⟨hlength, hboundary⟩ := of_decide_eq_true hcheck
  replace hlength : (dayLog s).length = 5 := hlength
  have hties : TiesWithinPages auditLog.le 3 (dayLog s) := by
    intro x hx k
    have hle : countUpTo auditLog.le x (dayLog s) ≤ (dayLog s).length := List.countP_le_length
    -- the only boundary inside the log is the one between the two pages
    obtain rfl | rfl | hk : k = 0 ∨ k = 1 ∨ 2 ≤ k := by omega
    · exact Or.inl (by omega)
    · simpa using hboundary x hx
    · exact Or.inr (by omega)
  refine ⟨tr, s, hrun, hlength, ?_⟩
  intro states scans hstates hscans
  have hpages : (dayLog s).length ≤ 2 * 3 := by omega
  exact ((log_read auditLog none 5 (by decide)).mpr hties states scans hstates hscans).2 2 hpages

end SamplePlatform

end RatingLift
