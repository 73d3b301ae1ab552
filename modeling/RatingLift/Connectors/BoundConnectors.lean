import RatingLift.Connectors.BindingRequests

/-!
# Bindings of soft-deleted connectors

`soft_delete_connector` counts the bindings of a connector and then sets its flag; `activate_connector` checks
the flag and then inserts a binding.  Neither takes a lock on what it has read, and the foreign key does not
look at the flag.

* (`deletedUnbound_iff_readsHold`) in an interleaving of the requests, no committed binding references a
  soft-deleted connector in any state, exactly when every first activation finds the flag at its commit as it
  has selected it, and every soft delete the number of bindings that it has counted;
* (`ActivationRace.deleted_and_bound`) an activation and a soft delete that both check before either commits.
-/

namespace RatingLift

open Library Fallible PropertyConnectorService

section

variable {env : PlatformEnv} {catalogue : ConnectorEnv} {π : Type}

abbrev BindingStep (π : Type) := Step (Config π BindingDb BindingLocal) (π × BindingAction)

/-- No binding references a connector with `is_deleted` set. -/
def DeletedUnbound (db : Db) : Prop :=
  ∀ pc ∈ db.propertyConnectors, ∀ c ∈ db.connectors, c.id = pc.connectorId → c.isDeleted = false

/-- What a request has read, and decided on, is still so. -/
def BindingWrite.ReadsHold (db : Db) : BindingWrite → Prop
  | .insert connector _ =>
    ∀ row, db.connectors.find? connector.id = some row → row.isDeleted = connector.isDeleted
  | .delete attached loaded _ => attachedTo db loaded.id = attached
  | .update _ _ | .restore _ _ => True

/-- The write that an action commits. -/
def BindingAction.commits : BindingAction → BindingLocal → Option BindingWrite
  | .commit, .sent w => some w
  | _, _ => none

variable (catalogue) in
/-- When a step commits a write, what its request has read is still so. -/
def ReadsHold (c : Config π BindingDb BindingLocal) (l : π × BindingAction) : Prop :=
  ∀ w, l.2.commits (c.locals l.1) = some w → ∀ db, w.execute catalogue c.shared.db = .ok db →
  w.ReadsHold c.shared.db

/-! ### What the requests know -/

def StoredConnector (db : Db) (connectorId : Uuid) : Prop := ∃ row, db.connectors.find? connectorId = some row

/-- What a write was decided on. -/
def BindingWrite.Decided (db : Db) : BindingWrite → Prop
  | .insert connector pc => connector.isDeleted = false ∧ pc.connectorId = connector.id
  | .update loaded written => written.connectorId = loaded.connectorId
  | .delete attached loaded written =>
    attached = 0 ∧ loaded.isDeleted = false ∧ written.isDeleted = true ∧ StoredConnector db loaded.id
  | .restore _ written => written.isDeleted = false

def BindingLocal.Decided (db : Db) : BindingLocal → Prop
  | .available _ _ connector | .binding _ _ connector => connector.isDeleted = false
  | .counting connector => connector.isDeleted = false ∧ StoredConnector db connector.id
  | .deleting connector attached =>
    attached = 0 ∧ connector.isDeleted = false ∧ StoredConnector db connector.id
  | .sent w => w.Decided db
  | _ => True

variable {db db' : Db} {s s' : BindingDb} {a : BindingAction} {m m' : BindingLocal} {w : BindingWrite}

theorem BindingLocal.Decided.mono (h : m.Decided db)
    (hstored : ∀ connectorId, StoredConnector db connectorId → StoredConnector db' connectorId) :
    m.Decided db' := by
  cases m with
  | counting connector => exact ⟨h.1, hstored _ h.2⟩
  | deleting connector attached => exact ⟨h.1, h.2.1, hstored _ h.2.2⟩
  | sent w =>
    cases w with
    | delete attached loaded written => exact ⟨h.1, h.2.1, h.2.2.1, hstored _ h.2.2.2⟩
    | insert connector pc => exact h
    | update loaded written => exact h
    | restore loaded written => exact h
  | _ => exact h

theorem getActiveConnector_ok {connectorId : Uuid} {connector : Connector}
    (h : getActiveConnector db connectorId = .ok connector) : connector.isDeleted = false := by
  unfold getActiveConnector at h
  split at h
  · cases h
  · rename_i hfirst
    split at h
    · cases h
    · cases h
      have hfound := (Table.first_some hfirst).2
      simp only [Bool.and_eq_true, Bool.not_eq_true'] at hfound
      exact hfound.2

theorem send_inv (h : s.send catalogue w = some (m', s')) : s'.db = s.db ∧ (m' = .done ∨ m' = .sent w) := by
  unfold BindingDb.send at h
  split at h
  · cases h
  · split at h
    · obtain ⟨rfl, rfl⟩ := Prod.mk.inj (Option.some.inj h)
      exact ⟨rfl, Or.inl rfl⟩
    · obtain ⟨rfl, rfl⟩ := Prod.mk.inj (Option.some.inj h)
      exact ⟨rfl, Or.inr rfl⟩

variable (catalogue) in
/-- A step after which the committed database is the same. -/
structure Uncommitted (a : BindingAction) (m m' : BindingLocal) (s s' : BindingDb) : Prop where
  db : s'.db = s.db
  decided : m'.Decided s.db
  refused : ∀ w, a.commits m = some w → ∀ db, w.execute catalogue s.db ≠ .ok db

/-- A step either leaves the committed database, or commits a write. -/
theorem bindingProg_inv (hm : m.Decided s.db) (h : bindingProg env catalogue a m s = some (m', s')) :
    Uncommitted catalogue a m m' s s' ∨
      ∃ w, a = .commit ∧ m = .sent w ∧ m' = .done ∧ w.execute catalogue s.db = .ok s'.db := by
  have reads : ∀ {m₁}, some (m₁, s) = some (m', s') → a.commits m = none → m₁.Decided s.db →
      Uncommitted catalogue a m m' s s' := by
    intro m₁ heq hnone hdecided
    obtain ⟨rfl, rfl⟩ := Prod.mk.inj (Option.some.inj heq)
    exact ⟨rfl, hdecided, fun w hw => by rw [hnone] at hw; cases hw⟩
  have sends : ∀ {w}, s.send catalogue w = some (m', s') → a.commits m = none → w.Decided s.db →
      Uncommitted catalogue a m m' s s' := by
    intro w heq hnone hdecided
    obtain ⟨hdb, rfl | rfl⟩ := send_inv heq
    · exact ⟨hdb, trivial, fun w hw => by rw [hnone] at hw; cases hw⟩
    · exact ⟨hdb, hdecided, fun w hw => by rw [hnone] at hw; cases hw⟩
  unfold bindingProg at h
  split at h
  · split at h
    · exact Or.inl (reads h rfl trivial)
    · exact Or.inl (reads h rfl trivial)
  · -- the route of a soft delete selects the connector
    split at h
    · exact Or.inl (reads h rfl trivial)
    · rename_i connector hfound
      obtain ⟨hmem, hdeleted⟩ := getConnectorOr404_ok hfound
      exact Or.inl (reads h rfl ⟨hdeleted, connector, Table.mem_iff_find?.mp hmem⟩)
  · split at h
    · exact Or.inl (reads h rfl trivial)
    · split at h
      · exact Or.inl (reads h rfl trivial)
      · exact Or.inl (reads h rfl trivial)
  · -- an activation selects the connector
    split at h
    · exact Or.inl (reads h rfl trivial)
    · rename_i hfound
      exact Or.inl (reads h rfl (getActiveConnector_ok hfound))
  · split at h
    · exact Or.inl (reads h rfl trivial)
    · split at h
      · exact Or.inl (reads h rfl trivial)
      · exact Or.inl (reads h rfl trivial)
  · split at h
    · exact Or.inl (reads h rfl trivial)
    · split at h
      · exact Or.inl (reads h rfl trivial)
      · exact Or.inl (reads h rfl trivial)
  · split at h
    · exact Or.inl (reads h rfl hm)
    · split at h
      · exact Or.inl (reads h rfl trivial)
      · exact Or.inl (reads h rfl trivial)
  · -- a soft delete counts the bindings
    dsimp only at h
    split at h
    · exact Or.inl (reads h rfl trivial)
    · rename_i hzero
      exact Or.inl (reads h rfl ⟨not_not.mp hzero, hm⟩)
  · split at h
    · exact Or.inl (reads h rfl trivial)
    · split at h
      · exact Or.inl (reads h rfl trivial)
      · exact Or.inl (reads h rfl trivial)
  · split at h
    · exact Or.inl (reads h rfl trivial)
    · exact Or.inl (reads h rfl trivial)
  · -- the writes
    exact Or.inl (sends h rfl ⟨hm, rfl⟩)
  · exact Or.inl (sends h rfl rfl)
  · exact Or.inl (sends h rfl rfl)
  · exact Or.inl (sends h rfl ⟨hm.1, hm.2.1, rfl, hm.2.2⟩)
  · exact Or.inl (sends h rfl rfl)
  · rename_i w
    split at h
    · rename_i e hexecute
      obtain ⟨rfl, rfl⟩ := Prod.mk.inj (Option.some.inj h)
      refine Or.inl ⟨rfl, trivial, ?_⟩
      rintro _ ⟨⟩ db hok
      rw [hexecute] at hok
      cases hok
    · rename_i db hexecute
      obtain ⟨rfl, rfl⟩ := Prod.mk.inj (Option.some.inj h)
      exact Or.inr ⟨w, rfl, rfl, rfl, hexecute⟩
  · obtain ⟨rfl, rfl⟩ := Prod.mk.inj (Option.some.inj h)
    exact Or.inl ⟨rfl, trivial, fun w hw => by cases hw⟩
  · cases h

/-! ### What a committed write changes -/

theorem insert_commits {connector : Connector} {pc : PropertyConnector}
    (h : (BindingWrite.insert connector pc).execute catalogue db = .ok db') :
    db'.connectors = db.connectors ∧ ∀ x, x ∈ db'.propertyConnectors ↔
      x ∈ db.propertyConnectors ∨ x = pc := by
  simp only [BindingWrite.execute] at h
  split at h
  · cases h
  · rename_i hfree
    have hfresh : db.propertyConnectors.Fresh pc.id := by
      rw [Table.fresh_iff_find?, ← Option.not_isSome_iff_eq_none]
      exact hfree
    unfold insertBinding at h
    split at h
    · cases h
    · cases h
      exact ⟨rfl, fun x => Table.mem_insert hfresh⟩

theorem update_commits {loaded written : PropertyConnector} (hsame : written.connectorId = loaded.connectorId)
    (h : (BindingWrite.update loaded written).execute catalogue db = .ok db') :
    db'.connectors = db.connectors ∧
      ∀ x ∈ db'.propertyConnectors, ∃ y ∈ db.propertyConnectors, y.connectorId = x.connectorId := by
  simp only [BindingWrite.execute] at h
  split at h
  · cases h
    exact ⟨rfl, fun x hx => ⟨x, hx, rfl⟩⟩
  · rename_i stored hstored
    cases h
    refine ⟨rfl, ?_⟩
    intro x hx
    rcases Table.mem_update.mp hx with ⟨rfl, _⟩ | ⟨hold, _⟩
    · refine ⟨stored, (Table.find?_some hstored).1, ?_⟩
      show _ = flushColumn loaded.connectorId written.connectorId stored.connectorId
      rw [hsame, flushColumn_same]
    · exact ⟨x, hold, rfl⟩

theorem writeConnector_commits {loaded written : Connector}
    (h : writeConnector catalogue db loaded written = .ok db') :
    db'.propertyConnectors = db.propertyConnectors ∧ ∀ connectorId, db'.connectors.find? connectorId =
      if connectorId = loaded.id then (db.connectors.find? connectorId).map (loaded.flush written)
      else db.connectors.find? connectorId := by
  unfold writeConnector at h
  split at h
  · rename_i hnone
    cases h
    refine ⟨rfl, ?_⟩
    intro connectorId
    by_cases hid : connectorId = loaded.id
    · rw [if_pos hid, hid, hnone]
      rfl
    · rw [if_neg hid]
  · rename_i stored hstored
    have hkey : Keyed.key (loaded.flush written stored) = loaded.id := (Table.find?_some hstored).2
    obtain ⟨_, _, rfl⟩ := flushConnector_ok h
    refine ⟨rfl, ?_⟩
    intro connectorId
    show (db.connectors.update (loaded.flush written stored)).find? connectorId = _
    by_cases hid : connectorId = loaded.id
    · subst hid
      rw [if_pos rfl, Table.find?_update, if_pos hkey, hstored]
      rfl
    · rw [if_neg hid]
      exact Table.find?_update_of_ne fun heq => hid (heq.symm.trans hkey)

/-- A connector stays in the catalogue. -/
theorem execute_storedConnector {connectorId : Uuid} (hdecided : w.Decided db)
    (h : w.execute catalogue db = .ok db') (hstored : StoredConnector db connectorId) :
    StoredConnector db' connectorId := by
  have hrow : ∀ loaded written : Connector, writeConnector catalogue db loaded written = .ok db' →
      StoredConnector db' connectorId := by
    intro loaded written hwrite
    obtain ⟨row, hrow⟩ := hstored
    unfold StoredConnector
    rw [(writeConnector_commits hwrite).2 connectorId, hrow]
    split
    · exact ⟨_, rfl⟩
    · exact ⟨_, rfl⟩
  unfold StoredConnector at hstored ⊢
  cases w with
  | insert connector pc =>
    rw [(insert_commits h).1]
    exact hstored
  | update loaded written =>
    rw [(update_commits hdecided h).1]
    exact hstored
  | delete attached loaded written => exact hrow loaded written h
  | restore loaded written => exact hrow loaded written h

theorem deletedUnbound_iff : DeletedUnbound db ↔
    ∀ pc ∈ db.propertyConnectors, ∀ c, db.connectors.find? pc.connectorId = some c → c.isDeleted = false := by
  refine forall_congr' fun pc => forall_congr' fun _ => forall_congr' ?_
  intro c
  constructor
  · intro h hfind
    obtain ⟨hmem, hid⟩ := Table.find?_some hfind
    exact h hmem hid
  · intro h hmem hid
    exact h (Table.find?_eq_some.mpr ⟨hmem, hid⟩)

theorem attachedTo_eq_zero {connectorId : Uuid} :
    attachedTo db connectorId = 0 ↔ ∀ pc ∈ db.propertyConnectors, pc.connectorId ≠ connectorId := by
  unfold attachedTo
  rw [List.length_eq_zero_iff, List.eq_nil_iff_forall_not_mem]
  refine forall_congr' ?_
  intro pc
  rw [Table.mem_select, beq_iff_eq, not_and]

/-- The commit of a write keeps the bindings off the soft-deleted connectors exactly when what was read is
still so. -/
theorem execute_deletedUnbound_iff (hunbound : DeletedUnbound db) (hdecided : w.Decided db)
    (h : w.execute catalogue db = .ok db') : DeletedUnbound db' ↔ w.ReadsHold db := by
  rw [deletedUnbound_iff] at hunbound ⊢
  cases w with
  | insert connector pc =>
    obtain ⟨hconnectors, hbindings⟩ := insert_commits h
    obtain ⟨hflag, href⟩ := hdecided
    rw [hconnectors]
    constructor
    · intro hafter row hrow
      rw [hflag]
      exact hafter pc ((hbindings pc).mpr (Or.inr rfl)) row (by rw [href]; exact hrow)
    · intro hreads x hx c hc
      rcases (hbindings x).mp hx with hold | rfl
      · exact hunbound x hold c hc
      · rw [hreads c (by rw [← href]; exact hc), hflag]
  | update loaded written =>
    obtain ⟨hconnectors, hbindings⟩ := update_commits hdecided h
    refine iff_of_true ?_ trivial
    intro x hx c hc
    obtain ⟨y, hy, hsame⟩ := hbindings x hx
    rw [hconnectors] at hc
    exact hunbound y hy c (by rw [hsame]; exact hc)
  | delete attached loaded written =>
    obtain ⟨hbindings, hconnectors⟩ := writeConnector_commits h
    obtain ⟨rfl, hflag, hset, row, hrow⟩ := hdecided
    rw [hbindings]
    constructor
    · intro hafter
      refine attachedTo_eq_zero.mpr ?_
      intro pc hpc hid
      have hdeleted : (loaded.flush written row).isDeleted = true := by
        show flushColumn loaded.isDeleted written.isDeleted row.isDeleted = true
        rw [hflag, hset]
        rfl
      have hfound : db'.connectors.find? pc.connectorId = some (loaded.flush written row) := by
        rw [hconnectors, if_pos hid, hid, hrow]
        rfl
      rw [hafter pc hpc _ hfound] at hdeleted
      cases hdeleted
    · intro hreads pc hpc c hc
      rw [hconnectors, if_neg (attachedTo_eq_zero.mp hreads pc hpc)] at hc
      exact hunbound pc hpc c hc
  | restore loaded written =>
    obtain ⟨hbindings, hconnectors⟩ := writeConnector_commits h
    rw [hbindings]
    refine iff_of_true ?_ trivial
    intro pc hpc c hc
    rw [hconnectors] at hc
    split at hc
    · obtain ⟨row, hrow, rfl⟩ := Option.map_eq_some_iff.mp hc
      show flushColumn loaded.isDeleted written.isDeleted row.isDeleted = false
      unfold flushColumn
      split
      · exact hunbound pc hpc row hrow
      · exact hdecided
    · exact hunbound pc hpc c hc

/-! ### Runs -/

variable [DecidableEq π] {init c : Config π BindingDb BindingLocal} {tr : List (BindingStep π)}

theorem run_decided (hrun : Run (Config.step (bindingProg env catalogue)) (fun _ _ _ => True) init tr c)
    (hidle : ∀ p, init.locals p = .idle) (p : π) : (c.locals p).Decided c.shared.db := by
  have hinv :=
    Config.invariant (I := fun _ _ => True) (L := fun _ (s : BindingDb) m => m.Decided s.db)
      trivial ?_ ?_ hrun
  · exact hinv.2 p
  · intro q
    rw [hidle]
    trivial
  · intro tr c p a m s _ hlocals _ hprog
    refine ⟨trivial, ?_⟩
    rcases bindingProg_inv (hlocals p) hprog with ⟨hdb, hdecided, _⟩ | ⟨w, rfl, hlocal, rfl, hexecute⟩
    · rw [hdb]
      exact ⟨hdecided, fun q _ => hlocals q⟩
    · have hw := hlocals p
      rw [hlocal] at hw
      exact ⟨trivial, fun q _ => (hlocals q).mono fun _ => execute_storedConnector hw hexecute⟩

omit [DecidableEq π] in
theorem step_deletedUnbound_iff {p : π} {s : BindingDb} (hunbound : DeletedUnbound c.shared.db)
    (hdecided : (c.locals p).Decided c.shared.db)
    (hprog : bindingProg env catalogue a (c.locals p) c.shared = some (m, s)) :
    DeletedUnbound s.db ↔ ReadsHold catalogue c (p, a) := by
  rcases bindingProg_inv hdecided hprog with ⟨hdb, _, hrefused⟩ | ⟨w, rfl, hlocal, _, hexecute⟩
  · rw [hdb]
    exact iff_of_true hunbound fun w hw db hok => absurd hok (hrefused w hw db)
  · rw [hlocal] at hdecided
    rw [execute_deletedUnbound_iff hunbound hdecided hexecute]
    unfold ReadsHold
    simp only [hlocal]
    constructor
    · rintro hreads _ ⟨⟩ _ _
      exact hreads
    · intro hreads
      exact hreads w rfl _ hexecute

theorem run_deletedUnbound
    (hrun : Run (Config.step (bindingProg env catalogue)) (fun _ _ _ => True) init tr c)
    (hstart : DeletedUnbound init.shared.db) (hafter : ∀ x ∈ tr, DeletedUnbound x.after.shared.db) :
    DeletedUnbound c.shared.db := by
  cases hrun with
  | nil => exact hstart
  | snoc _ _ _ => exact hafter _ (List.mem_append_right _ (List.mem_singleton.mpr rfl))

/-- In every interleaving of the steps of any number of requests, no committed binding references a
soft-deleted connector in any state, exactly when every first activation finds the flag of its connector at
its commit as it has selected it, and every soft delete the number of bindings that it has counted. -/
theorem deletedUnbound_iff_readsHold (env : PlatformEnv) (catalogue : ConnectorEnv)
    {init c : Config π BindingDb BindingLocal} {tr : List (BindingStep π)}
    (hrun : Run (Config.step (bindingProg env catalogue)) (fun _ _ _ => True) init tr c)
    (hidle : ∀ p, init.locals p = .idle) (hstart : DeletedUnbound init.shared.db) :
    (∀ x ∈ tr, DeletedUnbound x.after.shared.db) ↔ ∀ x ∈ tr, ReadsHold catalogue x.before x.label := by
  refine Run.invariant (I := fun tr _ => (∀ x ∈ tr, DeletedUnbound x.after.shared.db) ↔
    ∀ x ∈ tr, ReadsHold catalogue x.before x.label) (by simp) ?_ hrun
  rintro tr c ⟨p, a⟩ c' hrun ih _ hnext
  obtain ⟨m, s, hprog, rfl⟩ := Config.step_eq_some hnext
  have hsplit : ∀ P : BindingStep π → Prop, (∀ x ∈ tr ++ [⟨c, (p, a), c.act p m s⟩], P x) ↔
      (∀ x ∈ tr, P x) ∧ P ⟨c, (p, a), c.act p m s⟩ := by
    intro P
    simp [or_imp, forall_and]
  rw [hsplit, hsplit, ← ih]
  refine and_congr_right ?_
  intro hafter
  exact step_deletedUnbound_iff (run_deletedUnbound hrun hstart hafter) (run_decided hrun hidle p) hprog

end

/-! ### An activation and a soft delete at the same time -/

namespace ActivationRace

def env : PlatformEnv where
  pgUuid := fun text => if text = "2" then some (.ofNat 2) else none
  pgLower := Py.asciiLower
  pgLe := fun s t => decide (s ≤ t)
  encryptSecret := fun iv secret => toString iv ++ secret

def catalogue : ConnectorEnv where
  schema := .migrations
  lower := Py.asciiLower
  pgLower := Py.asciiLower
  nfkd := id
  sha256 := fun _ => ""
  imageVerify := fun _ => false
  imageOpen := fun _ => none

def property : Property where
  id := .ofNat 1
  tenantId := .ofNat 2
  name := "Acme Coffee"
  googlePlaceId := none
  googleMapsUrl := none
  isActive := true
  createdAt := 0
  updatedAt := 0

def connector : Connector where
  id := .ofNat 3
  name := "Google"
  logoUrl := none
  logoSha256 := none
  isActive := true
  isDeleted := false
  deletedAt := none
  displayOrder := 0

/-- Who sends a request. -/
inductive Party where
  | tenant | admin
deriving DecidableEq

def start : Config Party BindingDb BindingLocal :=
  ⟨⟨{ Db.empty with
      properties := Table.empty.insert property
      connectors := Table.empty.insert connector }, []⟩, fun _ => .idle⟩

def draw : Draw where
  now := 0
  id := fun n => .ofNat (10 + n)
  auditId := fun n => .ofNat (20 + n)
  adminLogId := .ofNat 30
  iv := 0

def activate : BindingCall :=
  .change ⟨"4", some "2", .str "OWNER", false⟩ (.uuid property.id)
    (.activate ⟨connector.id, "pk_live_1", "sk_live_1", none, none, none⟩)

def softDelete : BindingCall := .softDelete connector.id

/-- The tenant's request has selected the connector, and the admin's has counted no binding, when the first of
them commits. -/
def race : List (Party × BindingAction) :=
  [(.tenant, .select activate), (.tenant, .selectNext), (.admin, .select softDelete), (.admin, .selectNext),
    (.tenant, .selectNext), (.admin, .write draw), (.tenant, .write draw), (.admin, .commit),
      (.tenant, .commit)]

/-- The admin's request comes after the activation, and is refused. -/
def inTurn : List (Party × BindingAction) :=
  [(.tenant, .select activate), (.tenant, .selectNext), (.tenant, .selectNext), (.tenant, .write draw),
    (.tenant, .commit), (.admin, .select softDelete), (.admin, .selectNext)]

/-- The ids of the bindings, and of the connectors that are soft-deleted. -/
def bindings (db : Db) : List Uuid × List Uuid :=
  (db.propertyConnectors.rows.map (·.connectorId), (db.connectors.rows.filter (·.isDeleted)).map (·.id))

/-- The soft-deleted connector has a binding. -/
theorem deleted_and_bound : DeletedUnbound start.shared.db ∧ ∃ tr c,
    Run (Config.step (bindingProg env catalogue)) (fun _ _ _ => True) start tr c ∧
    ¬ DeletedUnbound c.shared.db := by
  have hreplay : (Run.replay (Config.step (bindingProg env catalogue)) (fun _ _ _ => True) start race).map
      (fun r => bindings r.2.shared.db == ([connector.id], [connector.id])) = some true := by decide +kernel
  obtain ⟨tr, c, hrun, hbindings⟩ := Run.exists_of_replay hreplay
  refine ⟨fun pc hpc => absurd hpc (Table.not_mem_empty pc), tr, c, hrun, ?_⟩
  intro hunbound
  obtain ⟨hbound, hdeleted⟩ := Prod.mk.inj (beq_iff_eq.mp hbindings)
  obtain ⟨pc, hpc, href⟩ : ∃ pc ∈ c.shared.db.propertyConnectors.rows, pc.connectorId = connector.id := by
    rw [← List.mem_map, hbound]
    exact List.mem_singleton.mpr rfl
  obtain ⟨row, hrow, hid⟩ : ∃ row ∈ c.shared.db.connectors.rows.filter (·.isDeleted),
      row.id = connector.id := by
    rw [← List.mem_map, hdeleted]
    exact List.mem_singleton.mpr rfl
  obtain ⟨hmem, hflag⟩ := List.mem_filter.mp hrow
  have hfalse : row.isDeleted = false := hunbound pc hpc row hmem (hid.trans href.symm)
  rw [hfalse] at hflag
  cases hflag

theorem inTurn_deletedUnbound_iff : ∃ tr c,
    Run (Config.step (bindingProg env catalogue)) (fun _ _ _ => True) start tr c ∧
      bindings c.shared.db = ([connector.id], []) ∧
      ((∀ x ∈ tr, DeletedUnbound x.after.shared.db) ↔ ∀ x ∈ tr, ReadsHold catalogue x.before x.label) := by
  have hreplay : (Run.replay (Config.step (bindingProg env catalogue)) (fun _ _ _ => True) start inTurn).map
      (fun r => bindings r.2.shared.db == ([connector.id], [])) = some true := by decide +kernel
  obtain ⟨tr, c, hrun, hbindings⟩ := Run.exists_of_replay hreplay
  refine ⟨tr, c, hrun, beq_iff_eq.mp hbindings, ?_⟩
  exact deletedUnbound_iff_readsHold env catalogue hrun (fun _ => rfl)
    (fun pc hpc => absurd hpc (Table.not_mem_empty pc))

end ActivationRace

end RatingLift
