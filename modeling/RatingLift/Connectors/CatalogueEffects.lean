import Mathlib.Logic.Relation
import RatingLift.Connectors.Routes

/-!
# What a request does to the catalogue

Every request to the admin routes and every run of the seeder that succeeds is one of the `CatalogueEffect`s:
it creates, edits, deletes or restores one row, orders some rows anew, or adds default connectors
(`CatalogueRequest.serve_effect`).  The unique indexes hold after it if they held before
(`CatalogueEffect.indexes`), and so does the range of `display_order` (`CatalogueEffect.ordersFit`).
-/

namespace RatingLift

open Library Logos Fallible

section

variable (env : ConnectorEnv)

/-- Writing one row, new or stored, which its column and the unique indexes accept. -/
structure Put (t t' : Table Connector) (row : Connector) : Prop where
  rows : ∀ k, t'.find? k = if k = row.id then some row else t.find? k
  accepted : indexesAccept env t row = true
  fits : orderFits t row = true

/-- One turn of the seeder that creates a row. -/
def Seeded (t t' : Table Connector) : Prop :=
  ∃ id, ∃ name ∈ defaultConnectors, (∀ c ∈ t, env.pgLower c.name ≠ env.lower name) ∧ t.Fresh id ∧
    Put env t t' (newConnector id name)

/-- A row that keeps everything but, if it is not deleted, its place in the order. -/
def Reordered (c c' : Connector) : Prop :=
  c' = c ∨ (c.isDeleted = false ∧ ∃ n, c' = { c with displayOrder := n })

/-- The same rows, some of them in a new order. -/
structure Orders (t t' : Table Connector) : Prop where
  kept : ∀ c ∈ t, ∃ c' ∈ t', Reordered c c'
  only : ∀ c' ∈ t', ∃ c ∈ t, Reordered c c'

/-- What a request makes of the table. -/
inductive CatalogueEffect (t t' : Table Connector) : CatalogueRequest → Prop where
  | same {r : CatalogueRequest} (h : t' = t) : CatalogueEffect t t' r
  | created {row : Connector} {r : CatalogueRequest} (hput : Put env t t' row) (hnew : t.find? row.id = none)
      (hlive : row.isDeleted = false) (hat : row.deletedAt = none) : CatalogueEffect t t' r
  | edited {c row : Connector} {r : CatalogueRequest} (hc : t.find? row.id = some c) (hput : Put env t t' row)
      (hlive : c.isDeleted = false) (hlive' : row.isDeleted = false) (hat : row.deletedAt = c.deletedAt) :
      CatalogueEffect t t' r
  | deleted {c : Connector} {now : Instant} {r : CatalogueRequest} (hc : t.find? c.id = some c)
      (hlive : c.isDeleted = false)
      (hput : Put env t t' { c with isDeleted := true, deletedAt := some now, isActive := false }) :
      CatalogueEffect t t' r
  | restored {c : Connector} (hc : t.find? c.id = some c) (hdeleted : c.isDeleted = true)
      (hput : Put env t t' { c with isDeleted := false, deletedAt := none }) :
      CatalogueEffect t t' (.restore c.id)
  | reordered {r : CatalogueRequest} (h : Orders t t') (hfits : ∀ c ∈ t', orderFits t c = true) :
      CatalogueEffect t t' r
  | seeded {id : Nat → Uuid} (h : Relation.ReflTransGen (Seeded env) t t') : CatalogueEffect t t' (.seed id)

end

section

variable {env : ConnectorEnv} {settings : Settings} {w : MediaWorld} {db db' : Db} {t t' : Table Connector}

/-! ### The service functions -/

theorem put_of_flush {c row : Connector} (hc : db.connectors.find? row.id = some c)
    (h : flushConnector env db row = .ok db') : Put env db.connectors db'.connectors row := by
  obtain ⟨hfits, hacc, rfl⟩ := flushConnector_ok h
  exact ⟨Table.find?_update_found hc, hacc, hfits⟩

theorem put_of_add {row : Connector} (horder : row.displayOrder ≤ maxInteger)
    (h : addConnector env db row = .ok db') :
    db.connectors.Fresh row.id ∧ Put env db.connectors db'.connectors row := by
  obtain ⟨hacc, hfresh, rfl⟩ := addConnector_ok h
  exact ⟨hfresh, Table.find?_insert_fresh hfresh, hacc, orderFits_of_le horder⟩

/-- A row found by `get_connector_or_404`. -/
theorem getConnectorOr404_live {id : Uuid} {c : Connector} (h : getConnectorOr404 db id = .ok c) :
    c.id = id ∧ db.connectors.find? c.id = some c ∧ c.isDeleted = false := by
  unfold getConnectorOr404 at h
  split at h
  · cases h
  · rename_i row hrow
    cases h
    obtain ⟨hm, hp⟩ := Table.first_some hrow
    simp only [Bool.and_eq_true, Bool.not_eq_true', beq_iff_eq] at hp
    exact ⟨hp.2, Table.mem_iff_find?.mp hm, hp.1⟩

/-- Rows of one connector that differ in the name and the logo only. -/
structure SameRow (c row : Connector) : Prop where
  id : row.id = c.id
  isDeleted : row.isDeleted = c.isDeleted
  deletedAt : row.deletedAt = c.deletedAt
  logoSha256 : row.logoSha256 = c.logoSha256

theorem applyName_row {storage storage' : Storage} {c row : Connector} {name : Option String}
    (h : applyName env db storage c name = .ok (storage', row)) : SameRow c row := by
  cases name with
  | none =>
    cases h
    exact ⟨rfl, rfl, rfl, rfl⟩
  | some n =>
    unfold applyName at h
    dsimp only [Option.map_some] at h
    split at h
    · cases h
      exact ⟨rfl, rfl, rfl, rfl⟩
    · obtain ⟨_, _, h⟩ := bind_eq_ok.mp h
      unfold renameLogoToMatchName at h
      split at h
      · cases h
        exact ⟨rfl, rfl, rfl, rfl⟩
      · cases h
        exact ⟨rfl, rfl, rfl, rfl⟩

/-- What `update_connector` flushes. -/
theorem updateConnectorMaster_ok {storage : Storage} {c : Connector} {name : Option String}
    {isActive : Option Bool} {displayOrder : Option Nat}
    (h :
      (updateConnectorMaster env db storage c name none isActive (displayOrder.map Int.ofNat)).2 = .ok db') :
    ∃ row, flushConnector env db row = .ok db' ∧ SameRow c row := by
  unfold updateConnectorMaster at h
  split at h
  · cases h
  · rename_i storage' row happly
    have hsame := applyName_row happly
    dsimp only at h
    rw [applyAttributes_eq] at h
    exact ⟨_, h, ⟨hsame.id, hsame.isDeleted, hsame.deletedAt, hsame.logoSha256⟩⟩

/-- What `save_connector_logo` flushes. -/
theorem saveConnectorLogo_ok {storage : Storage} {c : Connector} {file : UploadFile}
    (h : (saveConnectorLogo env settings db storage c file).2 = .ok db') :
    ∃ logo, checkLogo env settings db c file = .ok logo ∧
    flushConnector env db (logo.row storage c) = .ok db' := by
  unfold saveConnectorLogo at h
  split at h
  · cases h
  · rename_i logo hlogo
    exact ⟨logo, hlogo, h⟩

theorem softDeleteConnector_ok {now : Instant} {c : Connector} (hlive : c.isDeleted = false)
    (h : softDeleteConnector env db now c = .ok db') :
    flushConnector env db { c with isDeleted := true, deletedAt := some now, isActive := false } =
      .ok db' := by
  unfold softDeleteConnector at h
  rw [if_neg (by simp [hlive])] at h
  dsimp only at h
  split at h
  · cases h
  · exact h

theorem restoreConnector_ok {c : Connector} (h : restoreConnector env db c = .ok db') :
    c.isDeleted = true ∧ flushConnector env db { c with isDeleted := false, deletedAt := none } =
      .ok db' := by
  unfold restoreConnector at h
  split at h
  · cases h
  · rename_i hdeleted
    obtain ⟨_, _, h⟩ := bind_eq_ok.mp h
    have hdeleted : c.isDeleted = true := by simpa using hdeleted
    refine ⟨hdeleted, ?_⟩
    split at h
    · exact h
    · obtain ⟨_, _, h⟩ := bind_eq_ok.mp h
      exact h

theorem createConnector_row {id : Uuid} {name : String} {row : Connector}
    (h : createConnector env db id name none = .ok (row, db')) :
    row = newConnector id (Py.strip name) ∧ addConnector env db row = .ok db' := by
  obtain ⟨_, _, h⟩ := bind_eq_ok.mp h
  obtain ⟨db₁, hadd, h⟩ := bind_eq_ok.mp h
  obtain ⟨rfl, rfl⟩ := Prod.mk.inj (pure_eq_ok.mp h)
  exact ⟨rfl, hadd⟩

/-! ### The requests -/

theorem Put.mem_iff {row : Connector} (h : Put env t t' row) {c : Connector} :
    c ∈ t' ↔ c = row ∨ (c ∈ t ∧ c.id ≠ row.id) := by
  have hkey : ∀ c : Connector, Keyed.key c = c.id := fun _ => rfl
  rw [Table.mem_iff_find?, Table.mem_iff_find?, hkey, h.rows]
  by_cases hid : c.id = row.id
  · rw [if_pos hid]
    simp [hid, eq_comm]
  · rw [if_neg hid]
    constructor
    · exact fun hc => Or.inr ⟨hc, hid⟩
    · rintro (rfl | ⟨hc, _⟩)
      · exact absurd rfl hid
      · exact hc

/-- A new row that is written a second time. -/
theorem Put.again {row row' : Connector} (h : Put env t t' row) {t'' : Table Connector}
    (h' : Put env t' t'' row') (hid : row'.id = row.id) : Put env t t'' row' := by
  refine ⟨?_, ?_, ?_⟩
  · intro k
    rw [h'.rows]
    by_cases hk : k = row'.id
    · rw [if_pos hk, if_pos hk]
    · rw [if_neg hk, if_neg hk, h.rows, if_neg (hid ▸ hk)]
  · rw [indexesAccept_iff]
    intro c hc hne
    exact indexesAccept_iff.mp h'.accepted c (h.mem_iff.mpr (Or.inr ⟨hc, hid ▸ hne⟩)) hne
  · have hstored : t'.find? row'.id = some row := (h.rows row'.id).trans (if_pos hid)
    have hfits := h'.fits
    unfold orderFits at hfits
    rw [hstored, Option.any_some] at hfits
    rcases Bool.or_eq_true_iff.mp hfits with hle | hsame
    · exact orderFits_of_le (of_decide_eq_true hle)
    · rw [orderFits_congr hid (beq_iff_eq.mp hsame).symm]
      exact h.fits

theorem createWithLogo_effect {id : Uuid} {name : String} {file : Option UploadFile} {r : CatalogueRequest}
    (h : (createWithLogo env settings w id name file).2 = .ok db') :
    CatalogueEffect env w.db.connectors db'.connectors r := by
  unfold createWithLogo at h
  split at h
  · cases h
  · rename_i row db₁ hcreate
    obtain ⟨rfl, hadd⟩ := createConnector_row hcreate
    obtain ⟨hfresh, hput⟩ := put_of_add (Nat.zero_le _) hadd
    have hnew : w.db.connectors.find? id = none := Table.fresh_iff_find?.mp hfresh
    split at h
    · cases h
      exact .created hput hnew rfl rfl
    · obtain ⟨logo, _, hflush⟩ := saveConnectorLogo_ok h
      have hfound : db₁.connectors.find? id = some (newConnector id (Py.strip name)) :=
        (hput.rows id).trans (if_pos rfl)
      have hagain := hput.again (put_of_flush hfound hflush) rfl
      exact .created hagain hnew rfl rfl

/-- A route on a row that is not deleted succeeds on such a row only. -/
theorem onLive_ok {id : Uuid} {route : Connector → Storage × Except Exn Db}
    (h : (w.onLive id route).2 = .ok db') :
    ∃ c, c.id = id ∧ w.db.connectors.find? c.id = some c ∧ c.isDeleted = false ∧ (route c).2 = .ok db' := by
  unfold MediaWorld.onLive at h
  split at h
  · cases h
  · rename_i c hc
    obtain ⟨hid, hfound, hlive⟩ := getConnectorOr404_live hc
    exact ⟨c, hid, hfound, hlive, h⟩

/-- A flush of a live row. -/
theorem edited_effect {c : Connector} (row : Connector) {r : CatalogueRequest}
    (hc : db.connectors.find? c.id = some c) (hlive : c.isDeleted = false)
    (hsame : row.id = c.id ∧ row.isDeleted = c.isDeleted ∧ row.deletedAt = c.deletedAt)
    (h : flushConnector env db row = .ok db') : CatalogueEffect env db.connectors db'.connectors r := by
  obtain ⟨hid, hdeleted, hat⟩ := hsame
  rw [← hid] at hc
  exact .edited hc (put_of_flush hc h) hlive (hdeleted.trans hlive) hat

theorem update_effect {c : Connector} {name : Option String} {isActive : Option Bool}
    {displayOrder : Option Nat} {r : CatalogueRequest} (hc : w.db.connectors.find? c.id = some c)
    (hlive : c.isDeleted = false)
    (h :
      (updateConnectorMaster env w.db w.storage c name none isActive
        (displayOrder.map Int.ofNat)).2 = .ok db') :
    CatalogueEffect env w.db.connectors db'.connectors r := by
  obtain ⟨row, hflush, hsame⟩ := updateConnectorMaster_ok h
  exact edited_effect row hc hlive ⟨hsame.id, hsame.isDeleted, hsame.deletedAt⟩ hflush

theorem setActive_effect {id : Uuid} {activate : Bool} {r : CatalogueRequest}
    (h : (w.setActive env id activate).2 = .ok db') :
    CatalogueEffect env w.db.connectors db'.connectors r := by
  obtain ⟨c, _, hc, hlive, h⟩ := onLive_ok h
  split at h
  · cases h
    exact .same rfl
  · have hupdate : (updateConnectorMaster env w.db w.storage c none none (some activate)
        ((none : Option Nat).map Int.ofNat)).2 = .ok db' := h
    exact update_effect hc hlive hupdate

/-! ### Orders -/

theorem Reordered.trans {c c' c'' : Connector} (h : Reordered c c') (h' : Reordered c' c'') :
    Reordered c c'' := by
  rcases h with rfl | ⟨hlive, n, rfl⟩
  · exact h'
  · rcases h' with rfl | ⟨_, m, rfl⟩
    · exact Or.inr ⟨hlive, n, rfl⟩
    · exact Or.inr ⟨hlive, m, rfl⟩

theorem Orders.refl (t : Table Connector) : Orders t t :=
  ⟨fun c hc => ⟨c, hc, Or.inl rfl⟩, fun c hc => ⟨c, hc, Or.inl rfl⟩⟩

theorem Orders.trans {t'' : Table Connector} (h : Orders t t') (h' : Orders t' t'') : Orders t t'' := by
  constructor
  · intro c hc
    obtain ⟨c', hc', hr⟩ := h.kept c hc
    obtain ⟨c'', hc'', hr'⟩ := h'.kept c' hc'
    exact ⟨c'', hc'', hr.trans hr'⟩
  · intro c'' hc''
    obtain ⟨c', hc', hr'⟩ := h'.only c'' hc''
    obtain ⟨c, hc, hr⟩ := h.only c' hc'
    exact ⟨c, hc, hr.trans hr'⟩

/-- Giving a row that is not deleted a place in the order. -/
theorem orders_update {c : Connector} (hc : c ∈ t) (hlive : c.isDeleted = false) (n : Nat) :
    Orders t (t.update { c with displayOrder := n }) := by
  constructor
  · intro x hx
    by_cases hid : x.id = c.id
    · have hxc : x = c := Table.eq_of_key_eq hx hc hid
      refine ⟨{ c with displayOrder := n }, Table.mem_update.mpr (Or.inl ⟨rfl, c, hc, rfl⟩), ?_⟩
      exact Or.inr ⟨hxc ▸ hlive, n, by rw [hxc]⟩
    · exact ⟨x, Table.mem_update.mpr (Or.inr ⟨hx, hid⟩), Or.inl rfl⟩
  · intro x hx
    rcases Table.mem_update.mp hx with ⟨rfl, _⟩ | ⟨hx, _⟩
    · exact ⟨c, hc, Or.inr ⟨hlive, n, rfl⟩⟩
    · exact ⟨x, hx, Or.inl rfl⟩

theorem assignOrders_orders (items : List (Uuid × Int)) : ∀ {db : Db},
    (∀ item ∈ items, ∀ c ∈ db.connectors, c.id = item.1 → c.isDeleted = false) →
    assignOrders db items = .ok db' → Orders db.connectors db'.connectors := by
  induction items with
  | nil =>
    intro db _ h
    cases h
    exact .refl _
  | cons item items ih =>
    intro db hlive h
    unfold assignOrders at h
    split at h
    · cases h
    · split at h
      · exact ih (fun i hi => hlive i (List.mem_cons_of_mem _ hi)) h
      · rename_i row hrow
        obtain ⟨hmem, hid⟩ := Table.find?_some hrow
        have hstep := orders_update hmem (hlive item List.mem_cons_self row hmem hid) item.2.toNat
        refine hstep.trans (ih ?_ h)
        intro i hi c hc hci
        obtain ⟨c₀, hc₀, hr⟩ := hstep.only c hc
        rcases hr with rfl | ⟨hlive₀, n, rfl⟩
        · exact hlive i (List.mem_cons_of_mem _ hi) c hc₀ hci
        · exact hlive₀

theorem flushOrders_ok {assigned : Db} (h : flushOrders db assigned = .ok db') :
    db' = assigned ∧ ∀ c ∈ assigned.connectors, orderFits db.connectors c = true := by
  unfold flushOrders at h
  split at h
  · rename_i hfits
    exact ⟨(Except.ok.inj h).symm, List.all_eq_true.mp hfits⟩
  · cases h

theorem reorderConnectors_ok {items : List (Uuid × Int)} (h : reorderConnectors db items = .ok db') :
    assignOrders db items = .ok db' ∧ ∀ c ∈ db'.connectors, orderFits db.connectors c = true := by
  unfold reorderConnectors at h
  dsimp only at h
  split at h
  · cases h
  · obtain ⟨assigned, hassigned, hflush⟩ := bind_eq_ok.mp h
    obtain ⟨rfl, hfits⟩ := flushOrders_ok hflush
    exact ⟨hassigned, hfits⟩

theorem reorderConnectors_orders {items : List (Uuid × Int)} (h : reorderConnectors db items = .ok db') :
    Orders db.connectors db'.connectors := by
  have hassigned := (reorderConnectors_ok h).1
  unfold reorderConnectors at h
  dsimp only at h
  split at h
  · cases h
  · rename_i hmissing
    refine assignOrders_orders items ?_ hassigned
    intro item hitem c hc hid
    have hall : items.filter (fun item =>
        (db.connectors.first fun c => !c.isDeleted && c.id == item.1).isNone) = [] := by simpa using hmissing
    have hsome := List.filter_eq_nil_iff.mp hall item hitem
    rw [Option.isNone_iff_eq_none] at hsome
    obtain ⟨x, hx⟩ := Option.ne_none_iff_exists'.mp hsome
    obtain ⟨hxm, hxp⟩ := Table.first_some hx
    simp only [Bool.and_eq_true, Bool.not_eq_true', beq_iff_eq] at hxp
    have hxc : x = c := Table.eq_of_key_eq hxm hc (hxp.2.trans hid.symm)
    exact hxc ▸ hxp.1

/-! ### The seeder -/

theorem seedConnector_seeded {id : Uuid} {name : String} (hname : name ∈ defaultConnectors)
    (h : seedConnector env db id name = .ok db') :
    Relation.ReflTransGen (Seeded env) db.connectors db'.connectors := by
  unfold seedConnector at h
  split at h
  · cases h
    exact .refl
  · rename_i hnone
    obtain ⟨hfresh, hput⟩ := put_of_add (Nat.zero_le _) h
    refine .single ⟨id, name, hname, ?_, hfresh, hput⟩
    intro c hc heq
    have := Table.first_eq_none.mp hnone c hc
    simp [heq] at this

theorem seedConnectorsFrom_seeded {id : Nat → Uuid} (names : List String) : ∀ {db : Db} {n : Nat},
    (∀ name ∈ names, name ∈ defaultConnectors) → seedConnectorsFrom env id db n names = .ok db' →
    Relation.ReflTransGen (Seeded env) db.connectors db'.connectors := by
  induction names with
  | nil =>
    intro db n _ h
    cases h
    exact .refl
  | cons name names ih =>
    intro db n hnames h
    obtain ⟨db₁, hfirst, h⟩ := bind_eq_ok.mp h
    exact (seedConnector_seeded (hnames name List.mem_cons_self) hfirst).trans
      (ih (fun x hx => hnames x (List.mem_cons_of_mem _ hx)) h)

/-- What a request that succeeds makes of the catalogue. -/
theorem CatalogueRequest.serve_effect {r : CatalogueRequest} (h : (r.serve env settings w).2 = .ok db') :
    CatalogueEffect env w.db.connectors db'.connectors r := by
  cases r with
  | create id name file => exact createWithLogo_effect h
  | update id name isActive displayOrder =>
    obtain ⟨c, _, hc, hlive, h⟩ := onLive_ok h
    exact update_effect hc hlive h
  | delete id now =>
    obtain ⟨c, _, hc, hlive, h⟩ := onLive_ok h
    exact .deleted hc hlive (put_of_flush hc (softDeleteConnector_ok hlive h))
  | restore id =>
    obtain ⟨c, hfound, h⟩ := bind_eq_ok.mp h
    obtain ⟨hdeleted, hflush⟩ := restoreConnector_ok h
    unfold getConnectorIncludingDeletedOr404 at hfound
    split at hfound
    · cases hfound
    · rename_i row hrow
      cases hfound
      obtain ⟨hm, hp⟩ := Table.first_some hrow
      have hid : c.id = id := by simpa using hp
      subst hid
      have hc : w.db.connectors.find? c.id = some c := Table.mem_iff_find?.mp hm
      exact .restored hc hdeleted (put_of_flush hc hflush)
  | activate id => exact setActive_effect h
  | deactivate id => exact setActive_effect h
  | reorder items => exact .reordered (reorderConnectors_orders h) (reorderConnectors_ok h).2
  | uploadLogo id file =>
    obtain ⟨c, _, hc, hlive, h⟩ := onLive_ok h
    obtain ⟨logo, _, hflush⟩ := saveConnectorLogo_ok h
    exact edited_effect (logo.row w.storage c) hc hlive ⟨rfl, rfl, rfl⟩ hflush
  | clearLogo id =>
    obtain ⟨c, _, hc, hlive, h⟩ := onLive_ok h
    exact edited_effect { c with logoUrl := none, logoSha256 := none } hc hlive ⟨rfl, rfl, rfl⟩ h
  | seed id => exact .seeded (seedConnectorsFrom_seeded _ (fun _ h => h) h)

/-! ### The unique indexes -/

theorem Put.indexes {row : Connector} (h : Put env t t' row) (hindexes : IndexesHold env t) :
    IndexesHold env t' :=
  hindexes.write h.accepted fun _ hc => h.mem_iff.mp hc

theorem Reordered.conflict_eq {a a' b b' : Connector} (ha : Reordered a a') (hb : Reordered b b') :
    conflict env a' b' = conflict env a b := by
  rcases ha with rfl | ⟨_, n, rfl⟩
  · rcases hb with rfl | ⟨_, m, rfl⟩
    · rfl
    · rfl
  · rcases hb with rfl | ⟨_, m, rfl⟩
    · rfl
    · rfl

theorem Reordered.id_eq {c c' : Connector} (h : Reordered c c') : c'.id = c.id := by
  rcases h with rfl | ⟨_, n, rfl⟩
  · rfl
  · rfl

/-- A request keeps the unique indexes. -/
theorem CatalogueEffect.indexes {r : CatalogueRequest} (h : CatalogueEffect env t t' r)
    (hindexes : IndexesHold env t) : IndexesHold env t' := by
  cases h with
  | same h => exact h ▸ hindexes
  | created hput => exact hput.indexes hindexes
  | edited _ hput => exact hput.indexes hindexes
  | deleted _ _ hput => exact hput.indexes hindexes
  | restored _ _ hput => exact hput.indexes hindexes
  | reordered h _ =>
    intro a' ha' b' hb' hne
    obtain ⟨a, ha, hra⟩ := h.only a' ha'
    obtain ⟨b, hb, hrb⟩ := h.only b' hb'
    rw [hra.conflict_eq hrb]
    exact hindexes a ha b hb (by rwa [hra.id_eq, hrb.id_eq] at hne)
  | seeded h =>
    induction h with
    | refl => exact hindexes
    | tail _ hstep ih =>
      obtain ⟨id, name, _, _, _, hput⟩ := hstep
      exact hput.indexes ih

/-! ### The range of the column -/

/-- Every stored `display_order` is one that its column holds. -/
def OrdersFit (t : Table Connector) : Prop := ∀ c ∈ t, c.displayOrder ≤ maxInteger

theorem Put.ordersFit {row : Connector} (h : Put env t t' row) (hstored : OrdersFit t) : OrdersFit t' := by
  intro c hc
  rcases h.mem_iff.mp hc with rfl | ⟨hc, _⟩
  · exact le_of_orderFits h.fits hstored
  · exact hstored c hc

/-- A request keeps the orders within their column. -/
theorem CatalogueEffect.ordersFit {r : CatalogueRequest} (h : CatalogueEffect env t t' r)
    (hstored : OrdersFit t) :
    OrdersFit t' := by
  cases h with
  | same h => exact h ▸ hstored
  | created hput => exact hput.ordersFit hstored
  | edited _ hput => exact hput.ordersFit hstored
  | deleted _ _ hput => exact hput.ordersFit hstored
  | restored _ _ hput => exact hput.ordersFit hstored
  | reordered _ hfits => exact fun c hc => le_of_orderFits (hfits c hc) hstored
  | seeded h =>
    induction h with
    | refl => exact hstored
    | tail _ hstep ih =>
      obtain ⟨id, name, _, _, _, hput⟩ := hstep
      exact hput.ordersFit ih

end

end RatingLift
