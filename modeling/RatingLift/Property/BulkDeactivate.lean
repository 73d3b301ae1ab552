import Mathlib.Data.Finset.Card
import Mathlib.Data.Finset.Filter
import RatingLift.Property.Routes

/-!
# Bulk deactivation against single deactivation

`bulk_deactivate_properties` looks up, compares and writes each property on its own instead of calling
`deactivate_property`.  Item by item it does the same (`bulkDeactivateItem_outcome`), so the batch is the fold
of the single operation (`bulkDeactivate_outcomes`).  What a batch changes is what `Deactivates` says of one
item; the counts of the response and the audit entries follow by induction on the batch.
-/

namespace RatingLift

open Library PropertyService

/-- What a call of `deactivate_property` returns or raises. -/
abbrev DeactivateOutcome := Except Exn (Property × Dict × Dict × Bool)

/-- Goes on after a 400 or a 404, with the database as it was. -/
def ignoring (db : Db) (call : Except Exn ((Property × Dict × Dict × Bool) × Db)) :
    Except Exn (DeactivateOutcome × Db) :=
  match call with
  | .ok (returned, db) => .ok (.ok returned, db)
  | .error (.http 400 detail) => .ok (.error (.http 400 detail), db)
  | .error (.http 404 detail) => .ok (.error (.http 404 detail), db)
  | .error e => .error e

/-- `deactivate_property` on the ids one after the other. -/
def deactivateEach (env : PlatformEnv) (ctx : RequestContext) (draw : Draw) (db : Db) :
    List RawId → Except Exn (List DeactivateOutcome × Db)
  | [] => .ok ([], db)
  | rawId :: rawIds => do
    let (outcome, db) ← ignoring db (deactivateProperty env db ctx draw rawId)
    let (outcomes, db) ← deactivateEach env ctx draw db rawIds
    return (outcome :: outcomes, db)

namespace PropertyService.BulkDeactivateResult

/-- The outcome of the single call that a result reports. -/
def outcome : BulkDeactivateResult → DeactivateOutcome
  | .done _ changed prop before after => .ok (prop, before, after, changed)
  | .failed _ error status => .error (.http status error)

def isChanged : BulkDeactivateResult → Bool
  | .done _ changed _ _ _ => changed
  | .failed _ _ _ => false

def isUnchanged : BulkDeactivateResult → Bool
  | .done _ changed _ _ _ => !changed
  | .failed _ _ _ => false

def isFailed : BulkDeactivateResult → Bool
  | .done _ _ _ _ _ => false
  | .failed _ _ _ => true

/-- The item of the response. -/
def item : BulkDeactivateResult → PropertyBulkDeactivateResultItem
  | .done id changed _ _ _ => ⟨id, true, some changed, none, none⟩
  | .failed id error status => ⟨id, false, none, some error, some status⟩

end PropertyService.BulkDeactivateResult

/-- An item of the response says what the single call did. -/
def PropertyBulkDeactivateResultItem.Reports (item : PropertyBulkDeactivateResultItem)
    (outcome : DeactivateOutcome) :
    Prop :=
  (∀ returned, outcome = .ok returned → item.ok = true ∧ item.changed = some returned.2.2.2 ∧
    item.status = none) ∧
  ∀ status detail, outcome = .error (.http status detail) →
    item.ok = false ∧ item.changed = none ∧ item.status = some status ∧ item.error = some detail

section

variable {env : PlatformEnv} {ctx : RequestContext} {draw : Draw} {db db' : Db}

/-! ### The fold of the single operation -/

theorem coerceUuid_error {rawId : RawId} {detail : String} {e : Exn}
    (h : coerceUuid rawId detail = .error e) :
    e = .http 400 detail := by
  cases rawId with
  | uuid u => cases h
  | text s =>
    unfold coerceUuid at h
    dsimp only at h
    split at h
    · cases h
    · exact (Except.error.inj h).symm

/-- A context without a tenant is not one of the errors that the batch goes on after. -/
theorem ignoring_filterByTenant {tenantId : Option String} {e : Exn}
    (h : filterByTenant env.pgUuid tenantId = .error e) :
    ignoring db (.error e) = .error e := by
  unfold filterByTenant at h
  split at h
  · cases h
    rfl
  · split at h
    · cases h
      rfl
    · cases h

/-- One item does what the single call does. -/
theorem bulkDeactivateItem_outcome (rawId : RawId) :
    (bulkDeactivateItem env db ctx draw rawId).map (fun r => (r.1.outcome, r.2)) =
      ignoring db (deactivateProperty env db ctx draw rawId) := by
  unfold bulkDeactivateItem deactivateProperty setActive getPropertyById
  cases hpid : coerceUuid rawId "Invalid property id" with
  | error e =>
    obtain rfl := coerceUuid_error hpid
    rfl
  | ok pid =>
    simp only [Fallible.ok_bind]
    cases htenant : filterByTenant env.pgUuid ctx.tenantId with
    | error e =>
      simp only [Fallible.error_bind, ignoring_filterByTenant htenant]
      rfl
    | ok tenant =>
      simp only [Fallible.ok_bind]
      cases findOwned db tenant pid with
      | none => rfl
      | some prop =>
        simp only [Fallible.ok_bind]
        cases hactive : prop.isActive with
        | false => rfl
        | true => rfl

/-- The batch is the fold of the single operation. -/
theorem bulkDeactivate_outcomes (rawIds : List RawId) :
    (bulkDeactivateProperties env ctx draw db rawIds).map (fun r => (r.1.map (·.outcome), r.2)) =
      deactivateEach env ctx draw db rawIds := by
  induction rawIds generalizing db with
  | nil => rfl
  | cons rawId rawIds ih =>
    unfold bulkDeactivateProperties deactivateEach
    rw [← bulkDeactivateItem_outcome]
    cases bulkDeactivateItem env db ctx draw rawId with
    | error e => rfl
    | ok r =>
      obtain ⟨result, db₁⟩ := r
      simp only [Fallible.ok_bind, Except.map, ← ih]
      cases bulkDeactivateProperties env ctx draw db₁ rawIds with
      | error e => rfl
      | ok r => rfl

/-! ### What a batch changes -/

/-- The tenant of the request has an active property with that id. -/
def ownsActive (env : PlatformEnv) (ctx : RequestContext) (db : Db) (pid : Uuid) : Bool :=
  match filterByTenant env.pgUuid ctx.tenantId with
  | .error _ => false
  | .ok tenant => (findOwned db tenant pid).any (·.isActive)

theorem ownsActive_iff {pid : Uuid} : ownsActive env ctx db pid = true ↔
    ∃ p ∈ db.properties, filterByTenant env.pgUuid ctx.tenantId = .ok p.tenantId ∧ p.id = pid ∧
    p.isActive = true := by
  unfold ownsActive
  cases filterByTenant env.pgUuid ctx.tenantId with
  | error e => simp
  | ok tenant =>
    simp only [Option.any_eq_true, findOwned_eq_some]
    constructor
    · rintro ⟨p, ⟨hp, rfl, hid⟩, hactive⟩
      exact ⟨p, hp, rfl, hid, hactive⟩
    · rintro ⟨p, hp, htenant, hid, hactive⟩
      exact ⟨p, ⟨hp, (Except.ok.inj htenant).symm, hid⟩, hactive⟩

/-- The UUID that an id is read as. -/
def RawId.parsed (rawId : RawId) : Option Uuid := (coerceUuid rawId "Invalid property id").toOption

theorem RawId.parsed_eq_some {rawId : RawId} {pid : Uuid} :
    rawId.parsed = some pid ↔ coerceUuid rawId "Invalid property id" = .ok pid := Fallible.toOption_eq_some

/-- What one item does: nothing, or it deactivates an active property of the tenant. -/
inductive Deactivates (env : PlatformEnv) (ctx : RequestContext) (draw : Draw) (db : Db) (rawId : RawId)
    (result : BulkDeactivateResult) : Db → Prop
  | nothing (hchanged : result.isChanged = false)
      (hid : ∀ pid, rawId.parsed = some pid → ownsActive env ctx db pid = false) :
      Deactivates env ctx draw db rawId result db
  | deactivated (hchanged : result.isChanged = true) (prop : Property) (hid : rawId.parsed = some prop.id)
      (hprop : prop ∈ db.properties)
      (htenant : filterByTenant env.pgUuid ctx.tenantId = .ok prop.tenantId)
        (hactive : prop.isActive = true) :
      Deactivates env ctx draw db rawId result
        { db with properties := db.properties.update (prop.withActive draw.now false) }

theorem bulkDeactivateItem_deactivates {rawId : RawId} {result : BulkDeactivateResult}
    (h : bulkDeactivateItem env db ctx draw rawId = .ok (result, db')) :
    Deactivates env ctx draw db rawId result db' ∧
      (rawId.parsed.isSome = true → ∃ tenant, filterByTenant env.pgUuid ctx.tenantId = .ok tenant) := by
  unfold bulkDeactivateItem at h
  cases hpid : coerceUuid rawId "Invalid property id" with
  | error e =>
    have hnone : rawId.parsed = none := by simp [RawId.parsed, hpid, Except.toOption]
    rw [hpid] at h
    cases h
    refine ⟨.nothing rfl ?_, ?_⟩
    · intro pid hid
      rw [hnone] at hid
      cases hid
    · intro hsome
      rw [hnone] at hsome
      cases hsome
  | ok pid =>
    have hparsed : rawId.parsed = some pid := RawId.parsed_eq_some.mpr hpid
    rw [hpid] at h
    obtain ⟨tenant, htenant, h⟩ := Fallible.bind_eq_ok.mp h
    refine ⟨?_, fun _ => ⟨tenant, htenant⟩⟩
    have howns : ∀ pid', rawId.parsed = some pid' →
        ownsActive env ctx db pid' = (findOwned db tenant pid).any (·.isActive) := by
      intro pid' hpid'
      obtain rfl : pid = pid' := Option.some.inj (hparsed.symm.trans hpid')
      unfold ownsActive
      rw [htenant]
    cases hfound : findOwned db tenant pid with
    | none =>
      rw [hfound] at h howns
      cases h
      exact .nothing rfl howns
    | some prop =>
      rw [hfound] at h howns
      obtain ⟨hprop, rfl, rfl⟩ := findOwned_some hfound
      cases hactive : prop.isActive with
      | false =>
        simp only [hactive, Option.any_some] at h howns
        cases h
        exact .nothing rfl howns
      | true =>
        simp only [hactive] at h
        cases h
        exact .deactivated rfl prop hparsed hprop htenant hactive

/-- An item succeeds in any database as long as the context has a tenant. -/
theorem bulkDeactivateItem_ok {rawId : RawId} (db : Db) (draw : Draw)
    (h : rawId.parsed.isSome = true → ∃ tenant, filterByTenant env.pgUuid ctx.tenantId = .ok tenant) :
    ∃ r, bulkDeactivateItem env db ctx draw rawId = .ok r := by
  unfold bulkDeactivateItem
  cases hpid : coerceUuid rawId "Invalid property id" with
  | error e => exact ⟨_, rfl⟩
  | ok pid =>
    obtain ⟨tenant, htenant⟩ := h (by rw [RawId.parsed_eq_some.mpr hpid]; rfl)
    simp only [htenant, Fallible.ok_bind]
    cases findOwned db tenant pid with
    | none => exact ⟨_, rfl⟩
    | some prop =>
      dsimp only
      split
      · exact ⟨_, rfl⟩
      · exact ⟨_, rfl⟩

/-- The ids of a batch that are UUIDs, each once. -/
def parsedIds (rawIds : List RawId) : Finset Uuid := (rawIds.filterMap RawId.parsed).toFinset

/-- The active properties of the tenant that a batch names. -/
def namedActive (env : PlatformEnv) (ctx : RequestContext) (db : Db) (rawIds : List RawId) : Finset Uuid :=
  (parsedIds rawIds).filter fun pid => ownsActive env ctx db pid = true

theorem mem_parsedIds {rawIds : List RawId} {pid : Uuid} :
    pid ∈ parsedIds rawIds ↔ ∃ rawId ∈ rawIds, rawId.parsed = some pid := by
  simp [parsedIds]

theorem mem_parsedIds_cons {rawId : RawId} {rawIds : List RawId} {pid : Uuid} :
    pid ∈ parsedIds (rawId :: rawIds) ↔ rawId.parsed = some pid ∨ pid ∈ parsedIds rawIds := by
  simp [mem_parsedIds]

/-- After an item its property is no longer active, and every other one is as before. -/
theorem Deactivates.ownsActive_iff {rawId : RawId} {result : BulkDeactivateResult}
    (h : Deactivates env ctx draw db rawId result db') (pid : Uuid) :
    ownsActive env ctx db' pid = true ↔ ownsActive env ctx db pid = true ∧ rawId.parsed ≠ some pid := by
  cases h with
  | nothing hchanged hid =>
    refine ⟨fun howns => ⟨howns, ?_⟩, And.left⟩
    intro hparsed
    rw [hid pid hparsed] at howns
    cases howns
  | deactivated hchanged prop hid hprop htenant hactive =>
    rw [RatingLift.ownsActive_iff, RatingLift.ownsActive_iff, hid]
    constructor
    · rintro ⟨p, hp, hp', rfl, hpactive⟩
      rcases Table.mem_update.mp hp with ⟨rfl, _⟩ | ⟨hp, hne⟩
      · cases hpactive
      · exact ⟨⟨p, hp, hp', rfl, hpactive⟩, fun heq => hne (Option.some.inj heq).symm⟩
    · rintro ⟨⟨p, hp, hp', rfl, hpactive⟩, hne⟩
      exact ⟨p, Table.mem_update.mpr (Or.inr ⟨hp, fun heq => hne (congrArg some heq.symm)⟩), hp',
        rfl, hpactive⟩

/-- An item changes something when it names an active property of the tenant, which later items then find
inactive. -/
theorem Deactivates.card {rawId : RawId} {result : BulkDeactivateResult}
    (h : Deactivates env ctx draw db rawId result db') (rawIds : List RawId) :
    (namedActive env ctx db (rawId :: rawIds)).card =
      (namedActive env ctx db' rawIds).card + if result.isChanged = true then 1 else 0 := by
  have hlater : ∀ pid, pid ∈ namedActive env ctx db' rawIds ↔
      pid ∈ parsedIds rawIds ∧ ownsActive env ctx db pid = true ∧ rawId.parsed ≠ some pid := by
    intro pid
    rw [namedActive, Finset.mem_filter, h.ownsActive_iff]
  cases h with
  | nothing hchanged hid =>
    rw [hchanged, if_neg (by simp), Nat.add_zero]
    congr 1
    ext pid
    rw [namedActive, namedActive, Finset.mem_filter, Finset.mem_filter, mem_parsedIds_cons]
    refine and_congr_left fun howns => ⟨fun hp => hp.resolve_left ?_, Or.inr⟩
    intro hparsed
    rw [hid pid hparsed] at howns
    cases howns
  | deactivated hchanged prop hid hprop htenant hactive =>
    have howns : ownsActive env ctx db prop.id = true :=
      RatingLift.ownsActive_iff.mpr ⟨prop, hprop, htenant, rfl, hactive⟩
    rw [hchanged, if_pos rfl, ← Finset.card_insert_of_notMem (a := prop.id)]
    · congr 1
      ext pid
      rw [Finset.mem_insert, hlater, namedActive, Finset.mem_filter, mem_parsedIds_cons, hid, ne_eq,
        Option.some.injEq]
      by_cases heq : prop.id = pid
      · subst heq
        simp [howns]
      · simp [heq, Ne.symm heq]
    · rw [hlater]
      exact fun hp => hp.2.2 hid

theorem Deactivates.rest {rawId : RawId} {result : BulkDeactivateResult}
    (h : Deactivates env ctx draw db rawId result db') : db' = { db with properties := db'.properties } := by
  cases h with
  | nothing => rfl
  | deactivated => rfl

/-- What a batch leaves: none of the properties it names active, as many changes as it named active ones, and
every other table as it was. -/
structure BatchEffect (env : PlatformEnv) (ctx : RequestContext) (db : Db) (rawIds : List RawId)
    (results : List BulkDeactivateResult) (db' : Db) : Prop where
  length : results.length = rawIds.length
  changed : results.countP (·.isChanged) = (namedActive env ctx db rawIds).card
  ownsActive_iff : ∀ pid, ownsActive env ctx db' pid = true ↔
    ownsActive env ctx db pid = true ∧ pid ∉ parsedIds rawIds
  rest : db' = { db with properties := db'.properties }
  same : results.countP (·.isChanged) = 0 → db' = db
  tenant : ∀ rawId ∈ rawIds, rawId.parsed.isSome = true →
    ∃ tenant, filterByTenant env.pgUuid ctx.tenantId = .ok tenant

theorem bulkDeactivate_effect {rawIds : List RawId} {results : List BulkDeactivateResult}
    (h : bulkDeactivateProperties env ctx draw db rawIds = .ok (results, db')) :
    BatchEffect env ctx db rawIds results db' := by
  induction rawIds generalizing db results with
  | nil =>
    cases h
    exact ⟨rfl, rfl, by simp [parsedIds], rfl, fun _ => rfl, nofun⟩
  | cons rawId rawIds ih =>
    obtain ⟨⟨result, db₁⟩, hitem, h⟩ := Fallible.bind_eq_ok.mp h
    obtain ⟨⟨results', db₂⟩, hrest, h⟩ := Fallible.bind_eq_ok.mp h
    cases h
    obtain ⟨hfirst, htenant⟩ := bulkDeactivateItem_deactivates hitem
    have hlater := ih hrest
    refine ⟨?_, ?_, ?_, ?_, ?_, ?_⟩
    · rw [List.length_cons, List.length_cons, hlater.length]
    · rw [List.countP_cons, hlater.changed, hfirst.card]
    · intro pid
      rw [hlater.ownsActive_iff, hfirst.ownsActive_iff, mem_parsedIds_cons, not_or, and_assoc]
    · have hrest₂ := hlater.rest
      rw [hfirst.rest] at hrest₂
      exact hrest₂
    · intro hnone
      rw [List.countP_cons] at hnone
      have hsame : db₁ = db := by
        cases hfirst with
        | nothing => rfl
        | deactivated hchanged =>
          rw [if_pos hchanged] at hnone
          omega
      rw [hlater.same (by omega), hsame]
    · intro rawId' hmem
      rcases List.mem_cons.mp hmem with rfl | hmem
      · exact htenant
      · exact hlater.tenant rawId' hmem

/-- A batch succeeds in any database as long as the context has a tenant. -/
theorem bulkDeactivate_ok {rawIds : List RawId} (db : Db) (draw : Draw)
    (h : ∀ rawId ∈ rawIds, rawId.parsed.isSome = true →
      ∃ tenant, filterByTenant env.pgUuid ctx.tenantId = .ok tenant) :
    ∃ r, bulkDeactivateProperties env ctx draw db rawIds = .ok r := by
  induction rawIds generalizing db with
  | nil => exact ⟨_, rfl⟩
  | cons rawId rawIds ih =>
    obtain ⟨⟨result, db₁⟩, hitem⟩ := bulkDeactivateItem_ok db draw (h rawId List.mem_cons_self)
    obtain ⟨⟨results, db₂⟩, hrest⟩ := ih db₁ fun rawId' hmem => h rawId' (List.mem_cons_of_mem _ hmem)
    unfold bulkDeactivateProperties
    simp only [hitem, hrest, Fallible.ok_bind]
    exact ⟨_, rfl⟩

/-- The same batch again finds nothing to change. -/
theorem bulkDeactivate_again {rawIds : List RawId} {results : List BulkDeactivateResult}
    (h : bulkDeactivateProperties env ctx draw db rawIds = .ok (results, db')) {db₁ : Db}
    (howns : ∀ pid, ownsActive env ctx db₁ pid = ownsActive env ctx db' pid) (draw' : Draw) :
    ∃ results', bulkDeactivateProperties env ctx draw' db₁ rawIds = .ok (results', db₁) ∧
      results'.countP (·.isChanged) = 0 := by
  have heffect := bulkDeactivate_effect h
  obtain ⟨⟨results', db₂⟩, hagain⟩ := bulkDeactivate_ok db₁ draw' heffect.tenant
  have heffect' := bulkDeactivate_effect hagain
  have hnone : results'.countP (·.isChanged) = 0 := by
    rw [heffect'.changed, Finset.card_eq_zero, namedActive, Finset.filter_eq_empty_iff]
    intro pid hpid
    rw [howns, heffect.ownsActive_iff]
    exact fun hactive => hactive.2 hpid
  refine ⟨results', ?_, hnone⟩
  rw [hagain, heffect'.same hnone]

/-! ### The response -/

theorem item_reports (r : BulkDeactivateResult) : r.item.Reports r.outcome := by
  cases r with
  | done id changed prop before after =>
    refine ⟨?_, nofun⟩
    intro returned h
    cases h
    exact ⟨rfl, rfl, rfl⟩
  | failed id error status =>
    refine ⟨nofun, ?_⟩
    intro status' detail h
    cases h
    exact ⟨rfl, rfl, rfl, rfl⟩

/-- Every result is of one of the three kinds. -/
theorem countP_kinds (raw : List BulkDeactivateResult) :
    raw.countP (·.isChanged) + raw.countP (·.isUnchanged) + raw.countP (·.isFailed) = raw.length := by
  induction raw with
  | nil => rfl
  | cons r raw ih =>
    rw [List.countP_cons, List.countP_cons, List.countP_cons, List.length_cons]
    have hkind : ((if r.isChanged = true then 1 else 0) + (if r.isUnchanged = true then 1 else 0) +
        (if r.isFailed = true then 1 else 0) : Nat) = 1 := by
      cases r with
      | failed => rfl
      | done id changed =>
        cases changed with
        | false => rfl
        | true => rfl
    omega

/-- What the loop of the route makes of the results: the counts, the items, and one audit entry for each
change. -/
structure BatchReported (raw : List BulkDeactivateResult)
    (acc out : PropertyBulkDeactivateResponse × Db) : Prop where
  deactivated : out.1.deactivated = acc.1.deactivated + raw.countP (·.isChanged)
  unchanged : out.1.unchanged = acc.1.unchanged + raw.countP (·.isUnchanged)
  failed : out.1.failed = acc.1.failed + raw.countP (·.isFailed)
  results : out.1.results = acc.1.results ++ raw.map (·.item)
  rest : out.2 = { acc.2 with auditLogs := out.2.auditLogs }
  audited : ∃ entries, out.2.auditLogs.rows = acc.2.auditLogs.rows ++ entries ∧
    entries.length = raw.countP (·.isChanged)

theorem BatchReported.unchanged_db {raw : List BulkDeactivateResult}
    {acc out : PropertyBulkDeactivateResponse × Db} (h : BatchReported raw acc out)
    (hnone : raw.countP (·.isChanged) = 0) : out.2 = acc.2 := by
  obtain ⟨entries, hentries, hmany⟩ := h.audited
  rw [hnone, List.length_eq_zero_iff] at hmany
  rw [hmany, List.append_nil] at hentries
  rw [h.rest, Table.ext hentries]

variable (ipAddress : Option String)

/-- One turn of the loop. -/
theorem reportDeactivated_reported {acc : PropertyBulkDeactivateResponse × Db} {n : Nat}
    (r : BulkDeactivateResult) (hids : acc.2.auditLogs.NewKeys draw.auditId acc.1.deactivated n)
    (hn : acc.1.deactivated + (if r.isChanged = true then 1 else 0) ≤ n) :
    BatchReported [r] acc (reportDeactivated draw ipAddress ctx acc r) ∧
      (reportDeactivated draw ipAddress ctx acc r).2.auditLogs.NewKeys draw.auditId
        (reportDeactivated draw ipAddress ctx acc r).1.deactivated n := by
  cases r with
  | failed id error status => exact ⟨⟨rfl, rfl, rfl, rfl, rfl, [], by simp [reportDeactivated], rfl⟩, hids⟩
  | done id changed prop before after =>
    cases changed with
    | false => exact ⟨⟨rfl, rfl, rfl, rfl, rfl, [], by simp [reportDeactivated], rfl⟩, hids⟩
    | true =>
      refine ⟨⟨rfl, rfl, rfl, rfl, rfl, ?_⟩, hids.insert rfl⟩
      exact ⟨[_], Table.rows_insert (hids.head hn), rfl⟩

theorem foldl_reported {raw : List BulkDeactivateResult} {acc : PropertyBulkDeactivateResponse × Db} {n : Nat}
    (hids : acc.2.auditLogs.NewKeys draw.auditId acc.1.deactivated n)
    (hn : acc.1.deactivated + raw.countP (·.isChanged) ≤ n) :
    BatchReported raw acc (raw.foldl (reportDeactivated draw ipAddress ctx) acc) := by
  induction raw generalizing acc with
  | nil => exact ⟨rfl, rfl, rfl, by simp, rfl, [], by simp, rfl⟩
  | cons r raw ih =>
    rw [List.countP_cons] at hn
    obtain ⟨hfirst, hids'⟩ := reportDeactivated_reported ipAddress r hids (by omega)
    have hdeactivated := hfirst.deactivated
    have hunchanged := hfirst.unchanged
    have hfailed := hfirst.failed
    rw [List.countP_singleton] at hdeactivated hunchanged hfailed
    have hlater := ih hids' (by omega)
    obtain ⟨entry, hentry, hone⟩ := hfirst.audited
    obtain ⟨entries, hentries, hmany⟩ := hlater.audited
    rw [List.countP_singleton] at hone
    rw [List.foldl_cons]
    refine ⟨?_, ?_, ?_, ?_, ?_, entry ++ entries, ?_, ?_⟩
    · rw [hlater.deactivated, List.countP_cons]
      omega
    · rw [hlater.unchanged, List.countP_cons]
      omega
    · rw [hlater.failed, List.countP_cons]
      omega
    · rw [hlater.results, hfirst.results, List.append_assoc]
      rfl
    · have hrest := hlater.rest
      rw [hfirst.rest] at hrest
      exact hrest
    · rw [hentries, hentry, List.append_assoc]
    · rw [List.length_append, hone, hmany, List.countP_cons]
      omega

/-- The ids as the route passes them on. -/
def textIds (ids : List Uuid) : List RawId := ids.map fun i => .text i.str

theorem parsed_textIds (ids : List Uuid) : parsedIds (textIds ids) = ids.toFinset := by
  have hparsed : ∀ i : Uuid, RawId.parsed (.text i.str) = some i := fun i => by
    simp [RawId.parsed, coerceUuid, Except.toOption]
  unfold parsedIds textIds
  rw [List.filterMap_map]
  simp [hparsed]

/-- The route commits what the batch and the loop over its results leave. -/
theorem bulkDeactivateEndpoint_reported {ids : List Uuid} {raw : List BulkDeactivateResult}
    {flushed : Db} {n : Nat}
    (hbulk : bulkDeactivateProperties env ctx draw db (textIds ids) = .ok (raw, flushed))
    (hids : db.auditLogs.NewKeys draw.auditId 0 n) (hn : raw.countP (·.isChanged) ≤ n) :
    ∃ out, bulkDeactivatePropertiesEndpoint env db draw ipAddress ctx ids = .ok out ∧
      BatchReported raw (⟨0, 0, 0, []⟩, flushed) out := by
  have heffect := bulkDeactivate_effect hbulk
  have hflushed : flushed.auditLogs = db.auditLogs := by rw [heffect.rest]
  have hreported : BatchReported raw (⟨0, 0, 0, []⟩, flushed)
      (raw.foldl (reportDeactivated draw ipAddress ctx) (⟨0, 0, 0, []⟩, flushed)) :=
    foldl_reported ipAddress (hflushed ▸ hids) (by simpa using hn)
  refine ⟨_, ?_, hreported⟩
  unfold bulkDeactivatePropertiesEndpoint
  show (bulkDeactivateProperties env ctx draw db (textIds ids) >>= _) = _
  rw [hbulk, Fallible.ok_bind]
  dsimp only
  generalize raw.foldl (reportDeactivated draw ipAddress ctx) (⟨0, 0, 0, []⟩, flushed) = out at hreported
  show Except.ok (out.1, if out.1.deactivated ≠ 0 ∨ out.1.unchanged ≠ 0 then out.2 else db) = .ok out
  split
  · rfl
  · -- nothing was changed, so that there is nothing to commit
    rename_i hzero
    have hnone : raw.countP (·.isChanged) = 0 := by
      have hcount := hreported.deactivated
      simp only [Nat.zero_add] at hcount
      omega
    have hsame : out.2 = flushed := hreported.unchanged_db hnone
    rw [← heffect.same hnone, ← hsame]

theorem bulkDeactivateEndpoint_error {ids : List Uuid} {e : Exn}
    (hbulk : bulkDeactivateProperties env ctx draw db (textIds ids) = .error e) :
    bulkDeactivatePropertiesEndpoint env db draw ipAddress ctx ids = .error e := by
  unfold bulkDeactivatePropertiesEndpoint
  show (bulkDeactivateProperties env ctx draw db (textIds ids) >>= _) = _
  rw [hbulk, Fallible.error_bind]

/-- What the route answers and commits, against the single calls. -/
structure RouteRefines (env : PlatformEnv) (db : Db) (draw : Draw) (ctx : RequestContext) (ids : List Uuid)
    (response : PropertyBulkDeactivateResponse) (committed : Db) : Prop where
  fold : ∃ outcomes single, deactivateEach env ctx draw db (textIds ids) = .ok (outcomes, single) ∧
    committed.properties = single.properties ∧
    List.Forall₂ PropertyBulkDeactivateResultItem.Reports response.results outcomes
  total : response.deactivated + response.unchanged + response.failed = ids.length
  count : response.deactivated = (ids.toFinset.filter fun pid => ownsActive env ctx db pid = true).card
  audited : ∃ entries, committed.auditLogs.rows = db.auditLogs.rows ++ entries ∧
    entries.length = response.deactivated
  again : ∀ (draw' : Draw) (ipAddress' : Option String), ∃ response',
    bulkDeactivatePropertiesEndpoint env committed draw' ipAddress' ctx ids = .ok (response', committed)

theorem routeRefines_of_bulk {ids : List Uuid} (hids : db.auditLogs.NewKeys draw.auditId 0 ids.length)
    {response : PropertyBulkDeactivateResponse} {committed : Db} {raw : List BulkDeactivateResult}
    {flushed : Db} (hbulk : bulkDeactivateProperties env ctx draw db (textIds ids) = .ok (raw, flushed))
    (h : bulkDeactivatePropertiesEndpoint env db draw ipAddress ctx ids = .ok (response, committed)) :
    RouteRefines env db draw ctx ids response committed := by
  have heffect := bulkDeactivate_effect hbulk
  have hlength : raw.length = ids.length := heffect.length.trans (List.length_map _)
  have hmost : raw.countP (·.isChanged) ≤ ids.length := List.countP_le_length.trans_eq hlength
  obtain ⟨out, hout, hreported⟩ := bulkDeactivateEndpoint_reported ipAddress hbulk hids hmost
  cases h.symm.trans hout
  have hrest : committed = { flushed with auditLogs := committed.auditLogs } := hreported.rest
  have hdeactivated : response.deactivated = raw.countP (·.isChanged) :=
    hreported.deactivated.trans (Nat.zero_add _)
  refine ⟨?_, ?_, ?_, ?_, ?_⟩
  · refine ⟨raw.map (·.outcome), flushed, ?_, ?_, ?_⟩
    · rw [← bulkDeactivate_outcomes, hbulk]
      rfl
    · rw [hrest]
    · have hresults : response.results = raw.map (·.item) := hreported.results
      rw [hresults, List.forall₂_map_left_iff, List.forall₂_map_right_iff, List.forall₂_same]
      exact fun r _ => item_reports r
  · have hunchanged : response.unchanged = raw.countP (·.isUnchanged) :=
      hreported.unchanged.trans (Nat.zero_add _)
    have hfailed : response.failed = raw.countP (·.isFailed) := hreported.failed.trans (Nat.zero_add _)
    rw [hdeactivated, hunchanged, hfailed, countP_kinds, hlength]
  · rw [hdeactivated, heffect.changed, namedActive, parsed_textIds]
  · rw [hdeactivated]
    have hlogs : flushed.auditLogs = db.auditLogs := by rw [heffect.rest]
    rw [← hlogs]
    exact hreported.audited
  · intro draw' ipAddress'
    have howns : ∀ pid, ownsActive env ctx committed pid = ownsActive env ctx flushed pid := by
      intro pid
      rw [hrest]
      rfl
    obtain ⟨raw', hbulk', hnone⟩ := bulkDeactivate_again hbulk howns draw'
    obtain ⟨out', hout', hreported'⟩ := bulkDeactivateEndpoint_reported ipAddress' hbulk'
      (n := 0) ⟨by omega, by omega⟩ (by omega)
    refine ⟨out'.1, ?_⟩
    have hsame : out'.2 = committed := hreported'.unchanged_db hnone
    rw [hout', ← hsame]

/-- The batch is the single operation folded over the list, its response counts what it did, and it does
nothing a second time. -/
theorem bulk_deactivate_refines (env : PlatformEnv) (ctx : RequestContext) (draw : Draw) (db : Db) :
    (∀ rawIds, (bulkDeactivateProperties env ctx draw db rawIds).map (fun r => (r.1.map (·.outcome), r.2)) =
      deactivateEach env ctx draw db rawIds) ∧
    (∀ rawIds results db', bulkDeactivateProperties env ctx draw db rawIds = .ok (results, db') →
      ∀ draw' : Draw,
      ∃ results', bulkDeactivateProperties env ctx draw' db' rawIds = .ok (results', db')) ∧
    ∀ (ids : List Uuid) (ipAddress : Option String), db.auditLogs.NewKeys draw.auditId 0 ids.length →
      (∀ e, bulkDeactivatePropertiesEndpoint env db draw ipAddress ctx ids = .error e ↔
        deactivateEach env ctx draw db (textIds ids) = .error e) ∧
      ∀ response committed,
        bulkDeactivatePropertiesEndpoint env db draw ipAddress ctx ids = .ok (response, committed) →
          RouteRefines env db draw ctx ids response committed := by
  refine ⟨bulkDeactivate_outcomes, ?_, ?_⟩
  · intro rawIds results db' h draw'
    obtain ⟨results', hagain, -⟩ := bulkDeactivate_again h (fun _ => rfl) draw'
    exact ⟨results', hagain⟩
  · intro ids ipAddress hids
    rw [← bulkDeactivate_outcomes]
    cases hbulk : bulkDeactivateProperties env ctx draw db (textIds ids) with
    | error e =>
      rw [bulkDeactivateEndpoint_error ipAddress hbulk]
      refine ⟨fun e' => ⟨fun h => ?_, fun h => ?_⟩, nofun⟩
      · cases h
        rfl
      · cases h
        rfl
    | ok r =>
      obtain ⟨raw, flushed⟩ := r
      refine ⟨?_, fun response committed h => routeRefines_of_bulk ipAddress hids hbulk h⟩
      intro e
      have heffect := bulkDeactivate_effect hbulk
      have hmost : raw.countP (·.isChanged) ≤ ids.length :=
        List.countP_le_length.trans_eq (heffect.length.trans (List.length_map _))
      obtain ⟨out, hout, -⟩ := bulkDeactivateEndpoint_reported ipAddress hbulk hids hmost
      rw [hout]
      exact ⟨nofun, nofun⟩

end

/-! ### A branch that is named twice -/

namespace ClosingBranch

def env : PlatformEnv := ⟨Uuid.parse, Py.asciiLower, fun s t => decide (s ≤ t), fun _ secret => secret⟩

def tenant : Tenant := ⟨.ofNat 1, "Acme"⟩

def ctx : RequestContext := ⟨(Uuid.ofNat 2).str, some tenant.id.str, .str "OWNER", false⟩

def draw : Draw where
  now := 5
  id := fun n => .ofNat (10 + n)
  auditId := fun n => .ofNat (20 + n)
  adminLogId := .ofNat 30
  iv := 0

/-- The tenant with two branches. -/
def db : Db :=
  (bulkCreateFrom tenant.id { draw with now := 0 } { Db.empty with tenants := Table.empty.insert tenant } 0
    [⟨"Acme Harbour", none, none⟩, ⟨"Acme Station", none, none⟩]).2

/-- The first branch twice, and a property that does not exist. -/
def ids : List Uuid := [.ofNat 10, .ofNat 10, .ofNat 99]

theorem named_twice : ∃ response committed,
    bulkDeactivatePropertiesEndpoint env db draw none ctx ids = .ok (response, committed) ∧
      response.deactivated = 1 ∧ response.unchanged = 1 ∧ response.failed = 1 ∧
      RouteRefines env db draw ctx ids response committed := by
  have hids : db.auditLogs.NewKeys draw.auditId 0 ids.length := by decide
  exact ⟨_, _, rfl, rfl, rfl, rfl, ((bulk_deactivate_refines env ctx draw db).2.2 ids none hids).2 _ _ rfl⟩

end ClosingBranch

end RatingLift
