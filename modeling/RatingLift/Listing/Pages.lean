import RatingLift.Connectors.Catalogue
import RatingLift.Library.Paging
import RatingLift.Property.Service
import RatingLift.PropertyConnector.AdminReport

/-!
# The pages of the lists

`get_properties`, `admin_search_properties`, `list_bindings` and `list_connectors` sort by columns that do not
tell all rows apart, and the database returns rows that agree on them in the order of its scan, which may be
another one at each query. The pages of one list hold every row exactly once, whatever the scans are, exactly
when no group of such rows straddles a multiple of the page size (`pages_partition_iff`).
-/

namespace RatingLift

open Library PropertyService

/-- The same rows under another order of the scan. -/
structure Rescan (db db' : Db) : Prop where
  tenants : db'.tenants.rows.Perm db.tenants.rows
  properties : db'.properties.rows.Perm db.properties.rows
  connectors : db'.connectors.rows.Perm db.connectors.rows
  propertyConnectors : db'.propertyConnectors.rows.Perm db.propertyConnectors.rows

/-- A list with its filters. -/
inductive PagedQuery where
  | getProperties (ctx : RequestContext) (isActive : Option Bool) (q : Option String)
  | adminSearchProperties (tenantId : Option RawId) (isActive : Option Bool) (q : Option String)
  | listBindings (filter : BindingFilter)
  | listConnectors (isActive : Option Bool) (includeDeleted : Bool)

/-- The order of the database on texts. -/
structure Collates (pgLe : String → String → Bool) : Prop where
  total : ∀ a b, pgLe a b = true ∨ pgLe b a = true
  trans : ∀ a b c, pgLe a b = true → pgLe b c = true → pgLe a c = true

namespace PagedQuery

/-- What the list is one of. -/
abbrev Row : PagedQuery → Type
  | getProperties .. => Property
  | adminSearchProperties .. => Property
  | listBindings .. => AdminPropertyConnectorRow
  | listConnectors .. => Connector

variable (env : PlatformEnv)

/-- One page and the total. -/
def run (db : Db) (limit offset : Nat) : (query : PagedQuery) → Except Exn (List query.Row × Nat)
  | getProperties ctx isActive q => PropertyService.getProperties env db ctx isActive q limit offset
  | adminSearchProperties tenantId isActive q =>
    PropertyService.adminSearchProperties env db tenantId isActive q limit offset
  | listBindings filter => .ok (RatingLift.listBindings env db filter limit offset)
  | listConnectors isActive includeDeleted => .ok (listCatalogue env db isActive includeDeleted limit offset)

/-- The filter on properties. -/
def acceptsProperty (tenant : Option Uuid) (isActive : Option Bool) (q : Option String)
    (p : Property) : Bool :=
  (tenant.all fun t => p.tenantId == t) && (isActive.all fun b => p.isActive == b) &&
    q.all fun q => q == "" || ilike env.pgLower p.name ("%" ++ Py.strip q ++ "%") ||
      p.googlePlaceId.any fun g => ilike env.pgLower g ("%" ++ Py.strip q ++ "%")

/-- The filter on connectors. -/
def acceptsConnector (isActive : Option Bool) (includeDeleted : Bool) (c : Connector) : Bool :=
  (includeDeleted || !c.isDeleted) && isActive.all fun b => c.isActive == b

/-- The rows that pass the filters, in the order of the scan. -/
def matching (db : Db) : (query : PagedQuery) → Except Exn (List query.Row)
  | getProperties ctx isActive q =>
    (filterByTenant env.pgUuid ctx.tenantId).map fun tenant =>
      db.properties.select (acceptsProperty env (some tenant) isActive q)
  | adminSearchProperties tenantId isActive q =>
    (tenantId.mapM fun id => coerceUuid id "Invalid property id").map fun tenant =>
      db.properties.select (acceptsProperty env tenant isActive q)
  | listBindings filter => .ok ((db.propertyConnectors.rows.filterMap (baseRow db)).filter filter.accepts)
  | listConnectors isActive includeDeleted =>
    .ok (db.connectors.select (acceptsConnector isActive includeDeleted))

/-- `ORDER BY` of the list: one row may come before the other. -/
def le : (query : PagedQuery) → query.Row → query.Row → Prop
  | getProperties .. => fun a b : Property => b.createdAt ≤ a.createdAt
  | adminSearchProperties .. => fun a b : Property => b.createdAt ≤ a.createdAt
  | listBindings .. => fun a b => reportLe env a b = true
  | listConnectors .. => fun a b => catalogueLe env.pgLe a b = true

instance : (query : PagedQuery) → DecidableRel (query.le env)
  | getProperties .. => fun a b : Property => inferInstanceAs (Decidable (b.createdAt ≤ a.createdAt))
  | adminSearchProperties .. => fun a b : Property => inferInstanceAs (Decidable (b.createdAt ≤ a.createdAt))
  | listBindings .. => fun a b => inferInstanceAs (Decidable (reportLe env a b = true))
  | listConnectors .. => fun a b => inferInstanceAs (Decidable (catalogueLe env.pgLe a b = true))

/-- The pages at the multiples of `limit` hold every matching row exactly once, as many as each of them says,
whatever the order of the scan of each query. -/
def PagesPartition (db : Db) (limit : Nat) (query : PagedQuery) : Prop :=
  ∀ rows, query.matching env db = .ok rows → ∀ scans : Nat → Db, (∀ k, Rescan db (scans k)) →
    ∃ pages : Nat → List query.Row,
      (∀ k, query.run env (scans k) limit (k * limit) = .ok (pages k, rows.length)) ∧
      ∀ n, rows.length ≤ n * limit →
        ((List.range n).flatMap pages).Perm rows ∧
        ((List.range n).map fun k => (pages k).length).sum = rows.length

/-- No group of matching rows with equal keys straddles a multiple of `limit`. -/
def TiesFit (db : Db) (limit : Nat) (query : PagedQuery) : Prop :=
  ∀ rows, query.matching env db = .ok rows → TiesWithinPages (query.le env) limit rows

variable {env} {db db' : Db} {limit : Nat}

/-! ### A query as a page of its sorted rows -/

theorem page_eq_pageOf {ρ : Type} (rows : List ρ) (k : Nat) (hpos : 1 ≤ limit) (hbound : limit ≤ 500) :
    page (limit : Int) ((k * limit : Nat) : Int) rows = pageOf limit k rows := by
  have hoffset : (max ((k * limit : Nat) : Int) 0).toNat = k * limit := by omega
  have hlimit : (max (min (limit : Int) 500) 1).toNat = limit := by omega
  unfold page pageOf
  rw [hoffset, hlimit]

/-- Each list is a page of its rows, sorted from the order of the scan. -/
theorem run_eq (query : PagedQuery) (db : Db) (k : Nat) (hpos : 1 ≤ limit) (hbound : limit ≤ 500) :
    query.run env db limit (k * limit) =
      (query.matching env db).map fun rows =>
        (pageOf limit k (rows.insertionSort (query.le env)), rows.length) := by
  cases query with
  | getProperties ctx isActive q =>
    dsimp only [run, matching]
    unfold PropertyService.getProperties
    cases filterByTenant env.pgUuid ctx.tenantId with
    | error e => rfl
    | ok tenant =>
      simp only [Fallible.ok_bind, page_eq_pageOf _ _ hpos hbound]
      cases q with
      | none => rfl
      | some q => rfl
  | adminSearchProperties tenantId isActive q =>
    dsimp only [run, matching]
    unfold PropertyService.adminSearchProperties
    cases tenantId.mapM fun id => coerceUuid id "Invalid property id" with
    | error e => rfl
    | ok tenant =>
      simp only [Fallible.ok_bind, page_eq_pageOf _ _ hpos hbound]
      cases q with
      | none => rfl
      | some q => rfl
  | listBindings filter => rfl
  | listConnectors isActive includeDeleted => rfl

/-! ### The orders -/

theorem textThen_iff {a b : String} {rest : Bool} :
    textThen env a b rest = true ↔ env.pgLe a b = true ∧ (env.pgLe b a = true → rest = true) := by
  unfold textThen
  by_cases hab : env.pgLe a b = true
  · by_cases hba : env.pgLe b a = true
    · simp [hab, hba]
    · simp [hab, hba]
  · simp [hab]

theorem textThen_total (h : Collates env.pgLe) {a b : String} {r₁ r₂ : Bool} (hr : r₁ = true ∨ r₂ = true) :
    textThen env a b r₁ = true ∨ textThen env b a r₂ = true := by
  rw [textThen_iff, textThen_iff]
  by_cases hab : env.pgLe a b = true
  · by_cases hba : env.pgLe b a = true
    · exact hr.imp (fun h₁ => ⟨hab, fun _ => h₁⟩) fun h₂ => ⟨hba, fun _ => h₂⟩
    · exact Or.inl ⟨hab, fun h => absurd h hba⟩
  · exact Or.inr ⟨(h.total a b).resolve_left hab, fun h => absurd h hab⟩

/-- Where the first and the last text are equal, so is the one between. -/
theorem textThen_trans (h : Collates env.pgLe) {a b c : String} {r₁ r₂ r₃ : Bool}
    (h₁ : textThen env a b r₁ = true) (h₂ : textThen env b c r₂ = true)
    (hr : r₁ = true → r₂ = true → r₃ = true) : textThen env a c r₃ = true := by
  rw [textThen_iff] at h₁ h₂ ⊢
  refine ⟨h.trans a b c h₁.1 h₂.1, ?_⟩
  intro hca
  exact hr (h₁.2 (h.trans b c a h₂.1 hca)) (h₂.2 (h.trans c a b hca h₁.1))

theorem catalogueLe_iff {a b : Connector} : catalogueLe env.pgLe a b = true ↔
    a.displayOrder < b.displayOrder ∨ a.displayOrder = b.displayOrder ∧ env.pgLe a.name b.name = true := by
  simp [catalogueLe]

theorem total_le (h : Collates env.pgLe) (query : PagedQuery) (a b : query.Row) :
    query.le env a b ∨ query.le env b a := by
  cases query with
  | getProperties => exact Nat.le_total _ _
  | adminSearchProperties => exact Nat.le_total _ _
  | listBindings => exact textThen_total h (textThen_total h (h.total _ _))
  | listConnectors =>
    simp only [le, catalogueLe_iff]
    rcases Nat.lt_trichotomy a.displayOrder b.displayOrder with hlt | heq | hgt
    · exact Or.inl (Or.inl hlt)
    · exact (h.total a.name b.name).imp (fun hn => Or.inr ⟨heq, hn⟩) fun hn => Or.inr ⟨heq.symm, hn⟩
    · exact Or.inr (Or.inl hgt)

theorem trans_le (h : Collates env.pgLe) (query : PagedQuery) (a b c : query.Row) (hab : query.le env a b)
    (hbc : query.le env b c) : query.le env a c := by
  cases query with
  | getProperties => exact Nat.le_trans hbc hab
  | adminSearchProperties => exact Nat.le_trans hbc hab
  | listBindings =>
    exact textThen_trans h hab hbc fun hab hbc =>
      textThen_trans h hab hbc fun hab hbc => h.trans _ _ _ hab hbc
  | listConnectors =>
    simp only [le, catalogueLe_iff] at hab hbc ⊢
    rcases hab with hab | ⟨hab, hname⟩
    · rcases hbc with hbc | ⟨hbc, _⟩
      · exact Or.inl (by omega)
      · exact Or.inl (by omega)
    · rcases hbc with hbc | ⟨hbc, hname'⟩
      · exact Or.inl (by omega)
      · exact Or.inr ⟨by omega, h.trans _ _ _ hname hname'⟩

/-! ### Scans -/

theorem baseRow_id {pc : PropertyConnector} {row : AdminPropertyConnectorRow} (h : baseRow db pc = some row) :
    row.id = pc.id := by
  simp only [baseRow, Option.bind_eq_bind, Option.bind_eq_some_iff] at h
  obtain ⟨_, _, _, _, _, _, h⟩ := h
  cases h
  rfl

theorem baseRow_rescan (h : Rescan db db') : baseRow db' = baseRow db := by
  funext pc
  unfold baseRow
  simp only [Table.find?_eq_of_perm h.properties, Table.find?_eq_of_perm h.tenants,
    Table.find?_eq_of_perm h.connectors]

theorem nodup_select {ρ κ : Type} [Keyed ρ κ] (t : Table ρ) (p : ρ → Bool) : (t.select p).Nodup :=
  (List.Nodup.of_map _ t.nodup).filter p

/-- No row matches twice. -/
theorem nodup_matching {query : PagedQuery} {rows : List query.Row} (h : query.matching env db = .ok rows) :
    rows.Nodup := by
  cases query with
  | getProperties ctx isActive q =>
    obtain ⟨tenant, _, rfl⟩ := Fallible.map_eq_ok.mp h
    exact nodup_select _ _
  | adminSearchProperties tenantId isActive q =>
    obtain ⟨tenant, _, rfl⟩ := Fallible.map_eq_ok.mp h
    exact nodup_select _ _
  | listBindings filter =>
    cases h
    have hids : db.propertyConnectors.rows.Pairwise fun pc pc' => pc.id ≠ pc'.id :=
      List.pairwise_map.mp db.propertyConnectors.nodup
    refine List.Nodup.filter _ (hids.filterMap (baseRow db) ?_)
    intro pc pc' hid row hrow row' hrow' heq
    rw [← baseRow_id hrow, ← baseRow_id hrow', heq] at hid
    exact hid rfl
  | listConnectors isActive includeDeleted =>
    cases h
    exact nodup_select _ _

/-- Another scan finds the same rows. -/
theorem matching_rescan (h : Rescan db db') {query : PagedQuery} {rows : List query.Row}
    (hrows : query.matching env db = .ok rows) :
    ∃ rows', query.matching env db' = .ok rows' ∧ rows'.Perm rows := by
  cases query with
  | getProperties ctx isActive q =>
    obtain ⟨tenant, htenant, rfl⟩ := Fallible.map_eq_ok.mp hrows
    exact ⟨_, Fallible.map_eq_ok.mpr ⟨tenant, htenant, rfl⟩, h.properties.filter _⟩
  | adminSearchProperties tenantId isActive q =>
    obtain ⟨tenant, htenant, rfl⟩ := Fallible.map_eq_ok.mp hrows
    exact ⟨_, Fallible.map_eq_ok.mpr ⟨tenant, htenant, rfl⟩, h.properties.filter _⟩
  | listBindings filter =>
    cases hrows
    refine ⟨_, rfl, ?_⟩
    rw [baseRow_rescan h]
    exact (h.propertyConnectors.filterMap _).filter _
  | listConnectors isActive includeDeleted =>
    cases hrows
    exact ⟨_, rfl, h.connectors.filter _⟩

/-- The table with its rows in another order. -/
def reordered {ρ κ : Type} [Keyed ρ κ] (t : Table ρ) (rows : List ρ) (h : rows.Perm t.rows) : Table ρ :=
  ⟨rows, (h.map _).nodup_iff.mpr t.nodup⟩

/-- Every order of the matching rows is that of some scan. -/
theorem exists_rescan {query : PagedQuery} {rows rows' : List query.Row}
    (hrows : query.matching env db = .ok rows) (hperm : rows'.Perm rows) :
    ∃ db', Rescan db db' ∧ query.matching env db' = .ok rows' := by
  cases query with
  | getProperties ctx isActive q =>
    obtain ⟨tenant, htenant, rfl⟩ := Fallible.map_eq_ok.mp hrows
    obtain ⟨scan, hscan, rfl⟩ := exists_perm_filter hperm
    refine ⟨{ db with properties := reordered db.properties scan hscan },
      ⟨.refl _, hscan, .refl _, .refl _⟩, ?_⟩
    exact Fallible.map_eq_ok.mpr ⟨tenant, htenant, rfl⟩
  | adminSearchProperties tenantId isActive q =>
    obtain ⟨tenant, htenant, rfl⟩ := Fallible.map_eq_ok.mp hrows
    obtain ⟨scan, hscan, rfl⟩ := exists_perm_filter hperm
    refine ⟨{ db with properties := reordered db.properties scan hscan },
      ⟨.refl _, hscan, .refl _, .refl _⟩, ?_⟩
    exact Fallible.map_eq_ok.mpr ⟨tenant, htenant, rfl⟩
  | listBindings filter =>
    cases hrows
    rw [List.filter_filterMap] at hperm
    obtain ⟨scan, hscan, rfl⟩ := exists_perm_filterMap hperm
    refine ⟨{ db with propertyConnectors := reordered db.propertyConnectors scan hscan },
      ⟨.refl _, .refl _, .refl _, hscan⟩, ?_⟩
    rw [← List.filter_filterMap]
    rfl
  | listConnectors isActive includeDeleted =>
    cases hrows
    obtain ⟨scan, hscan, rfl⟩ := exists_perm_filter hperm
    exact ⟨{ db with connectors := reordered db.connectors scan hscan },
      ⟨.refl _, .refl _, hscan, .refl _⟩, rfl⟩

/-! ### The pages of a list -/

/-- What the scans of the pages make of the rows, and every way to sort the rows is one of them. -/
theorem pagesPartition_iff_answers (h : Collates env.pgLe) (hpos : 1 ≤ limit) (hbound : limit ≤ 500)
    {query : PagedQuery} {rows : List query.Row} (hrows : query.matching env db = .ok rows) :
    query.PagesPartition env db limit ↔
      ∀ ans : Nat → List query.Row, (∀ k, SortedAnswer (query.le env) rows (ans k)) →
      ∀ n, rows.length ≤ n * limit →
        ((List.range n).flatMap fun k => pageOf limit k (ans k)).Perm rows := by
  have : Std.Total (query.le env) := ⟨total_le h query⟩
  have : IsTrans query.Row (query.le env) := ⟨trans_le h query⟩
  constructor
  · intro hpages ans hans n hn
    choose scans hscans hmatching using fun k => exists_rescan hrows (hans k).perm
    obtain ⟨pages, hrun, hall⟩ := hpages rows hrows scans hscans
    have hpage : ∀ k, pages k = pageOf limit k (ans k) := by
      intro k
      have hk := hrun k
      rw [run_eq query _ k hpos hbound, hmatching k] at hk
      have hsorted : (ans k).insertionSort (query.le env) = ans k := (hans k).sorted.insertionSort_eq
      rw [← hsorted]
      exact (congrArg Prod.fst (Except.ok.inj hk)).symm
    have hperm := (hall n hn).1
    rwa [funext hpage] at hperm
  · intro hans rows' hrows' scans hscans
    obtain rfl : rows' = rows := Except.ok.inj (hrows'.symm.trans hrows)
    choose found hfound hperm using fun k => matching_rescan (hscans k) hrows
    have hsorted : ∀ k, SortedAnswer (query.le env) rows' ((found k).insertionSort (query.le env)) := by
      intro k
      exact ⟨(List.perm_insertionSort _ _).trans (hperm k), List.pairwise_insertionSort _ _⟩
    refine ⟨fun k => pageOf limit k ((found k).insertionSort (query.le env)), ?_, ?_⟩
    · intro k
      rw [run_eq query _ k hpos hbound, hfound k, ← (hperm k).length_eq]
      rfl
    · intro n hn
      have hall := hans _ hsorted n hn
      refine ⟨hall, ?_⟩
      rw [← hall.length_eq, List.length_flatMap]

theorem pagesPartition_iff_ties (h : Collates env.pgLe) (hpos : 1 ≤ limit) (hbound : limit ≤ 500)
    {query : PagedQuery} {rows : List query.Row} (hrows : query.matching env db = .ok rows) :
    query.PagesPartition env db limit ↔ TiesWithinPages (query.le env) limit rows := by
  have : Std.Total (query.le env) := ⟨total_le h query⟩
  have : IsTrans query.Row (query.le env) := ⟨trans_le h query⟩
  exact (pagesPartition_iff_answers h hpos hbound hrows).trans (pages_perm_iff hpos (nodup_matching hrows))

/-- The pages hold every matching row exactly once, whatever the scans, exactly when ties stay within
pages. -/
theorem pages_partition_iff (h : Collates env.pgLe) (db : Db) (query : PagedQuery) (hpos : 1 ≤ limit)
    (hbound : limit ≤ 500) : query.PagesPartition env db limit ↔ query.TiesFit env db limit := by
  constructor
  · intro hpages rows hrows
    exact (pagesPartition_iff_ties h hpos hbound hrows).mp hpages
  · intro hties rows hrows
    exact (pagesPartition_iff_ties h hpos hbound hrows).mpr (hties rows hrows) rows hrows

end PagedQuery

/-! ### Two properties of one bulk request -/

namespace BranchPages

open PagedQuery

def env : PlatformEnv := ⟨Uuid.parse, Py.asciiLower, fun s t => decide (s ≤ t), fun _ secret => secret⟩

theorem collates : Collates env.pgLe where
  total a b := by simpa [env] using String.le_total a b
  trans a b c hab hbc := by
    simp only [env, decide_eq_true_eq] at hab hbc ⊢
    exact String.le_trans hab hbc

def tenant : Tenant := ⟨.ofNat 1, "Acme"⟩

def ctx : RequestContext := ⟨(Uuid.ofNat 2).str, some tenant.id.str, .str "OWNER", false⟩

def draw : Draw where
  now := 0
  id := fun n => .ofNat (10 + n)
  auditId := fun n => .ofNat (20 + n)
  adminLogId := .ofNat 30
  iv := 0

/-- The database after the tenant created two branches in one request, which gives them one `created_at`. -/
def db : Db :=
  (bulkCreateFrom tenant.id draw { Db.empty with tenants := Table.empty.insert tenant } 0
    [⟨"Acme Harbour", none, none⟩, ⟨"Acme Station", none, none⟩]).2

/-- All properties. -/
def query : PagedQuery := .adminSearchProperties none none none

/-- On pages of one row, one branch may come twice and the other not at all. -/
theorem branch_comes_twice :
    (bulkCreateProperties { Db.empty with tenants := Table.empty.insert tenant } ctx draw
      [⟨"Acme Harbour", none, none⟩, ⟨"Acme Station", none, none⟩]).map Prod.snd = .ok db ∧
    ¬ query.PagesPartition env db 1 := by
  constructor
  · have htenant : tenantUuid ctx = .ok tenant.id := by simp [tenantUuid, ctx, coerceUuid]
    unfold bulkCreateProperties
    rw [htenant]
    rfl
  · intro hpages
    have hmatching : query.matching env db = .ok db.properties.rows := rfl
    have hties := (pagesPartition_iff_ties collates (by decide) (by decide) hmatching).mp hpages
    have hstraddle := hties (newProperty draw 0 tenant.id "Acme Harbour" none none) (.head _) 1
    revert hstraddle
    decide

/-- On pages of two rows they share the first page. -/
theorem branches_on_one_page : query.PagesPartition env db 2 := by
  refine (pages_partition_iff collates db query (by decide) (by decide)).mpr ?_
  intro rows hrows x hx k
  obtain rfl : db.properties.rows = rows := Except.ok.inj hrows
  have hfew : ∀ x ∈ db.properties.rows, countBefore (query.le env) x db.properties.rows = 0 ∧
    countUpTo (query.le env) x db.properties.rows = 2 := by decide
  have hcounts := hfew x hx
  omega

end BranchPages

end RatingLift
