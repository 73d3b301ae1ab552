import RatingLift.Listing.Pages

/-!
# The lists of the logs

The routes by which an administrator reads `audit_logs`, `admin_action_logs` and `login_attempts`: filters, a
range of time, the newest first, one page at a time.  The clock of the database does not tell all entries
apart, so that the pages at the multiples of `limit` hold every entry exactly once, whatever the scans are,
when no entries of one moment straddle such a multiple (`pages_perm`), and only then (`ties_of_pages`).
-/

namespace RatingLift

open Library

/-- The answer of a list; the items show the fields of the rows. -/
structure LogPage (ρ : Type) where
  total : Nat
  limit : Nat
  offset : Nat
  items : List ρ

section

variable (lower : String → String) (db : Db) (since until_ : Option Instant) (limit offset : Nat)

/-- The filters on the time of an entry. -/
def withinTimes (timestamp : Instant) : Bool :=
  since.all (fun t => t ≤ timestamp) && until_.all fun t => timestamp ≤ t

/-- The count and the page of the entries that pass the filters. -/
def logPage {ρ κ : Type} [Keyed ρ κ] (log : Table ρ) (timestamp : ρ → Instant)
    (accepts : ρ → Bool) : LogPage ρ :=
  let rows := log.select fun r => accepts r && withinTimes since until_ (timestamp r)
  ⟨rows.length, limit, offset, ((newestFirst timestamp rows).drop offset).take limit⟩

/-- A filter on a text; an empty text asks for nothing. -/
def textFilter (asked : Option String) (column : Option String) : Bool :=
  asked.all fun text => text == "" || column == some text

/-- The filters of `list_audit_logs` -/
def auditLogFilter (actorId : Option Uuid) (entity action : Option String) (r : AuditLog) : Bool :=
  (actorId.all fun id => r.actorId == some id) && textFilter entity (some r.entity) &&
  textFilter action (some r.action)

/-- `list_audit_logs` -/
def listAuditLogs (actorId : Option Uuid) (entity action : Option String) : LogPage AuditLog :=
  logPage since until_ limit offset db.auditLogs AuditLog.timestamp (auditLogFilter actorId entity action)

/-- The filters of `list_admin_actions` -/
def adminActionFilter (adminId : Option Uuid) (action targetEntity : Option String)
    (targetTenantId : Option Uuid) (r : AdminActionLog) : Bool :=
  (adminId.all fun id => r.adminId == id) && textFilter action (some r.action) &&
  textFilter targetEntity r.targetEntity &&
    targetTenantId.all fun id => r.targetTenantId == some id

/-- `list_admin_actions` -/
def listAdminActions (adminId : Option Uuid) (action targetEntity : Option String)
    (targetTenantId : Option Uuid) :
    LogPage AdminActionLog :=
  logPage since until_ limit offset db.adminActionLogs AdminActionLog.timestamp
    (adminActionFilter adminId action targetEntity targetTenantId)

/-- The filters of `list_login_attempts` -/
def loginAttemptFilter (email ipAddress : Option String) (success : Option Bool) (r : LoginAttempt) : Bool :=
  (email.all fun text => text == "" || r.email == lower text) && textFilter ipAddress r.ipAddress &&
    success.all fun b => r.success == b

/-- `list_login_attempts` -/
def listLoginAttempts (email ipAddress : Option String) (success : Option Bool) : LogPage LoginAttempt :=
  logPage since until_ limit offset db.loginAttempts LoginAttempt.timestamp
    (loginAttemptFilter lower email ipAddress success)

end

/-- A list with its filters. -/
inductive LogQuery where
  | listAuditLogs (actorId : Option Uuid) (entity action : Option String)
  | listAdminActions (adminId : Option Uuid) (action targetEntity : Option String)
      (targetTenantId : Option Uuid)
  | listLoginAttempts (email ipAddress : Option String) (success : Option Bool)

/-- The same logs under another order of the scan. -/
structure LogRescan (db db' : Db) : Prop where
  auditLogs : db'.auditLogs.rows.Perm db.auditLogs.rows
  adminActionLogs : db'.adminActionLogs.rows.Perm db.adminActionLogs.rows
  loginAttempts : db'.loginAttempts.rows.Perm db.loginAttempts.rows

namespace LogQuery

/-- What the list is one of. -/
abbrev Row : LogQuery → Type
  | listAuditLogs .. => AuditLog
  | listAdminActions .. => AdminActionLog
  | listLoginAttempts .. => LoginAttempt

def timestamp : (query : LogQuery) → query.Row → Instant
  | listAuditLogs .. => AuditLog.timestamp
  | listAdminActions .. => AdminActionLog.timestamp
  | listLoginAttempts .. => LoginAttempt.timestamp

/-- `ORDER BY timestamp DESC` -/
def le (query : LogQuery) (a b : query.Row) : Prop := query.timestamp b ≤ query.timestamp a

instance (query : LogQuery) : DecidableRel query.le := fun a b =>
  inferInstanceAs (Decidable (query.timestamp b ≤ query.timestamp a))

variable (lower : String → String) (db : Db) (since until_ : Option Instant)

def accepts : (query : LogQuery) → query.Row → Bool
  | listAuditLogs actorId entity action => auditLogFilter actorId entity action
  | listAdminActions adminId action targetEntity targetTenantId =>
    adminActionFilter adminId action targetEntity targetTenantId
  | listLoginAttempts email ipAddress success => loginAttemptFilter lower email ipAddress success

/-- The log, in the order of the scan. -/
def log : (query : LogQuery) → List query.Row
  | listAuditLogs .. => db.auditLogs.rows
  | listAdminActions .. => db.adminActionLogs.rows
  | listLoginAttempts .. => db.loginAttempts.rows

/-- The entries that pass the filters, in the order of the scan. -/
def entries (query : LogQuery) : List query.Row :=
  (query.log db).filter fun r => query.accepts lower r && withinTimes since until_ (query.timestamp r)

/-- One page and the total. -/
def run (limit offset : Nat) : (query : LogQuery) → LogPage query.Row
  | listAuditLogs actorId entity action =>
    RatingLift.listAuditLogs db since until_ limit offset actorId entity action
  | listAdminActions adminId action targetEntity targetTenantId =>
    RatingLift.listAdminActions db since until_ limit offset adminId action targetEntity targetTenantId
  | listLoginAttempts email ipAddress success =>
    RatingLift.listLoginAttempts lower db since until_ limit offset email ipAddress success

variable {lower} {db db' : Db} {since until_} {limit : Nat}

theorem run_eq (query : LogQuery) (limit k : Nat) : query.run lower db since until_ limit (k * limit) =
    ⟨(query.entries lower db since until_).length, limit, k * limit,
      pageOf limit k ((query.entries lower db since until_).insertionSort query.le)⟩ := by
  cases query <;> rfl

instance (query : LogQuery) : Std.Total query.le := ⟨fun _ _ => Nat.le_total _ _⟩

instance (query : LogQuery) : IsTrans query.Row query.le := ⟨fun _ _ _ hab hbc => Nat.le_trans hbc hab⟩

/-! ### Scans -/

theorem nodup_log (query : LogQuery) : (query.log db).Nodup := by
  cases query with
  | listAuditLogs => exact List.Nodup.of_map _ db.auditLogs.nodup
  | listAdminActions => exact List.Nodup.of_map _ db.adminActionLogs.nodup
  | listLoginAttempts => exact List.Nodup.of_map _ db.loginAttempts.nodup

theorem log_rescan (h : LogRescan db db') (query : LogQuery) : (query.log db').Perm (query.log db) := by
  cases query with
  | listAuditLogs => exact h.auditLogs
  | listAdminActions => exact h.adminActionLogs
  | listLoginAttempts => exact h.loginAttempts

/-- Every order of the log is that of some scan. -/
theorem exists_rescan {query : LogQuery} {rows : List query.Row} (hperm : rows.Perm (query.log db)) :
    ∃ db', LogRescan db db' ∧ query.log db' = rows := by
  cases query with
  | listAuditLogs =>
    exact ⟨{ db with auditLogs := PagedQuery.reordered db.auditLogs rows hperm },
      ⟨hperm, .refl _, .refl _⟩, rfl⟩
  | listAdminActions =>
    exact ⟨{ db with adminActionLogs := PagedQuery.reordered db.adminActionLogs rows hperm },
      ⟨.refl _, hperm, .refl _⟩, rfl⟩
  | listLoginAttempts =>
    exact ⟨{ db with loginAttempts := PagedQuery.reordered db.loginAttempts rows hperm },
      ⟨.refl _, .refl _, hperm⟩, rfl⟩

/-- The answers that the scans allow are those that show the entries in an order that the times allow. -/
theorem exists_rescan_of_sorted {query : LogQuery} {ans : List query.Row}
    (h : SortedAnswer query.le (query.entries lower db since until_) ans) :
    ∃ db', LogRescan db db' ∧ (query.entries lower db' since until_).insertionSort query.le = ans := by
  obtain ⟨rows, hrows, hfilter⟩ := exists_perm_filter h.perm
  obtain ⟨db', hrescan, rfl⟩ := exists_rescan hrows
  refine ⟨db', hrescan, ?_⟩
  unfold entries
  rw [hfilter]
  exact h.sorted.insertionSort_eq

/-! ### Pages -/

variable {query : LogQuery}

/-- Scans that find the same entries: where no entries of one moment straddle a multiple of the page size, the
pages hold every entry exactly once, as many as each of them says. -/
theorem pages_perm (hlimit : 1 ≤ limit)
    (hties : TiesWithinPages query.le limit (query.entries lower db since until_)) {scans : Nat → Db}
    (hscans : ∀ k, (query.entries lower (scans k) since until_).Perm (query.entries lower db since until_)) :
    (∀ k, (query.run lower (scans k) since until_ limit (k * limit)).total =
      (query.entries lower db since until_).length) ∧
      ∀ n, (query.entries lower db since until_).length ≤ n * limit →
        ((List.range n).flatMap fun k =>
          (query.run lower (scans k) since until_ limit (k * limit)).items).Perm
          (query.entries lower db since until_) := by
  have hnodup : (query.entries lower db since until_).Nodup := (nodup_log query).filter _
  have hanswers : ∀ k, SortedAnswer query.le (query.entries lower db since until_)
      ((query.entries lower (scans k) since until_).insertionSort query.le) :=
    fun k => ⟨(List.perm_insertionSort _ _).trans (hscans k), List.pairwise_insertionSort _ _⟩
  simp only [run_eq]
  exact ⟨fun k => (hscans k).length_eq, (pages_perm_iff hlimit hnodup).mpr hties _ hanswers⟩

/-- If the pages hold every entry exactly once whatever the scans are, no entries of one moment straddle a
multiple of the page size. -/
theorem ties_of_pages (hlimit : 1 ≤ limit)
    (hpages : ∀ scans : Nat → Db, (∀ k, LogRescan db (scans k)) → ∀ n,
      (query.entries lower db since until_).length ≤ n * limit →
        ((List.range n).flatMap fun k =>
          (query.run lower (scans k) since until_ limit (k * limit)).items).Perm
          (query.entries lower db since until_)) :
    TiesWithinPages query.le limit (query.entries lower db since until_) := by
  have hnodup : (query.entries lower db since until_).Nodup := (nodup_log query).filter _
  refine (pages_perm_iff hlimit hnodup).mp ?_
  intro ans hans
  choose scans hscans hsorted using fun k => exists_rescan_of_sorted (hans k)
  have hall := hpages scans hscans
  simp only [run_eq, hsorted] at hall
  exact hall

end LogQuery

end RatingLift
