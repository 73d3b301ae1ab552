import RatingLift.Connectors.BindingRequests
import RatingLift.Library.CheckThenAct

/-!
# Concurrent activations of one connector

Requests to `activate_connector_endpoint` for the same property and connector, served in parallel
transactions.  A request looks for a binding and then inserts one, or refreshes the inactive one that it has
found.

* (`activationProg_alone`) a request that is not interrupted answers as `activate_connector` ends;
* (`activationProg_effect`) what a step does where others may have committed: nothing locks the row that was
  looked for, so that an `INSERT` may come too late, and an `UPDATE` goes through whatever the row holds by
  then.
-/

namespace RatingLift

open Library Fallible PropertyConnectorService

/-- The arguments of a request. -/
structure Activation where
  ctx : RequestContext
  propertyId : RawId
  payload : ActivateConnector

def Activation.call (request : Activation) : BindingCall :=
  .change request.ctx request.propertyId (.activate request.payload)

/-- The SQL steps of a request; the session is not closed before the commit. -/
inductive ActivationAction where
  | select
  | selectNext
  | write (draw : Draw)
  | commit

def ActivationAction.binding (request : Activation) : ActivationAction → BindingAction
  | select => .select request.call
  | selectNext => .selectNext
  | write draw => .write draw
  | commit => .commit

/-- A request, how far it has come, and what it has answered: `ok` is the 201. -/
structure Activating where
  request : Activation
  stage : BindingLocal
  answer : Option (Except Exn Unit)

/-- The answer to a request that finds an active binding. -/
def alreadyActive : Exn := .http 409 "Connector is already active for this property"

section

variable (env : PlatformEnv) (catalogue : ConnectorEnv)

/-- What a request answers to in a step, if the step ends it.  No handler maps the error of a statement to a
status, so that an `IntegrityError` is a 500. -/
def activationAnswer (s : BindingDb) : BindingAction → BindingLocal → Option (Except Exn Unit)
  | .select (.change ctx propertyId _), .idle =>
    match getOwnedProperty env s.db ctx propertyId with
    | .error e => some (.error e)
    | .ok _ => none
  | .selectNext, .owned (.activate payload) _ =>
    match getActiveConnector s.db payload.connectorId with
    | .error e => some (.error e)
    | .ok _ => none
  | .selectNext, .available _ prop connector =>
    match existingBinding s.db prop.id connector.id with
    | none => none
    | some existing => if existing.isActive then some (.error alreadyActive) else none
  | .write draw, .binding payload prop connector =>
    match (BindingWrite.insert connector
        (newBinding draw payload (env.encryptSecret draw.iv payload.apiSecret) prop.id connector.id)).execute
        catalogue s.db with
    | .error e => some (.error e)
    | .ok _ => none
  | .write draw, .refreshing payload existing =>
    match (BindingWrite.update existing
        (refreshed payload (env.encryptSecret draw.iv payload.apiSecret) existing)).execute
          catalogue s.db with
    | .error e => some (.error e)
    | .ok _ => none
  | .commit, .sent w =>
    match w.execute catalogue s.db with
    | .error e => some (.error e)
    | .ok _ => some (.ok ())
  | _, _ => none

/-- The steps of a request with its answer. -/
def activationProg (a : ActivationAction) (m : Activating) (s : BindingDb) :
    Option (Activating × BindingDb) :=
  (bindingProg env catalogue (a.binding m.request) m.stage s).map fun r =>
    (⟨m.request, r.1, activationAnswer env catalogue s (a.binding m.request) m.stage⟩, r.2)

abbrev ActivationStep (π : Type) := Step (Config π BindingDb Activating) (π × ActivationAction)

/-- The binding that an `INSERT` would store gets a new key. -/
def FreshInsert {π : Type} (_ : List (ActivationStep π)) (c : Config π BindingDb Activating)
    (l : π × ActivationAction) :
    Prop :=
  match l.2 with
  | .write draw => c.shared.db.propertyConnectors.Fresh (draw.id 0)
  | _ => True

instance {π : Type} (tr : List (ActivationStep π)) (c : Config π BindingDb Activating)
    (l : π × ActivationAction) :
    Decidable (FreshInsert tr c l) :=
  match l with
  | (_, .write draw) => inferInstanceAs (Decidable (c.shared.db.propertyConnectors.Fresh (draw.id 0)))
  | (_, .select) => isTrue trivial
  | (_, .selectNext) => isTrue trivial
  | (_, .commit) => isTrue trivial

end

/-- No request has begun. -/
def beginning {π : Type} (db : Db) (requests : π → Activation) : Config π BindingDb Activating :=
  ⟨⟨db, []⟩, fun p => ⟨requests p, .idle, none⟩⟩

/-! ### A request without interference -/

section

variable {env : PlatformEnv} {catalogue : ConnectorEnv} {db : Db} {request : Activation} {draw : Draw}

/-- A request that has ended takes no more steps. -/
theorem answered_alone {actions : List ActivationAction} {answer : Option (Except Exn Unit)} {s : BindingDb} :
    (Config.alone (activationProg env catalogue) actions ⟨request, .done, answer⟩ s).1.answer = answer := by
  rw [Config.alone_of_stuck]
  intro a _
  cases a <;> rfl

/-- The last two steps, when nobody else has sent a write. -/
theorem written_alone {stage : BindingLocal} {w : BindingWrite}
    (hwrite : bindingProg env catalogue (.write draw) stage ⟨db, []⟩ = BindingDb.send catalogue ⟨db, []⟩ w)
    (hanswer : activationAnswer env catalogue ⟨db, []⟩ (.write draw) stage =
      match w.execute catalogue db with
      | .error e => some (.error e)
      | .ok _ => none) :
    (Config.alone (activationProg env catalogue) [.write draw, .commit] ⟨request, stage, none⟩
      ⟨db, []⟩).1.answer =
      some ((w.execute catalogue db).map fun _ => ()) := by
  have hsend : BindingDb.send catalogue ⟨db, []⟩ w =
      match w.execute catalogue db with
      | .error _ => some (.done, ⟨db, []⟩)
      | .ok _ => some (.sent w, ⟨db, [w]⟩) := rfl
  cases hexecute : w.execute catalogue db with
  | error e =>
    rw [hexecute] at hsend hanswer
    have hstep : activationProg env catalogue (.write draw) ⟨request, stage, none⟩ ⟨db, []⟩ =
        some (⟨request, .done, some (.error e)⟩, ⟨db, []⟩) := by
      unfold activationProg
      simp only [ActivationAction.binding, hwrite.trans hsend, hanswer, Option.map_some]
    rw [Config.alone_cons_some hstep, answered_alone]
    rfl
  | ok db' =>
    rw [hexecute] at hsend hanswer
    have hstep : activationProg env catalogue (.write draw) ⟨request, stage, none⟩ ⟨db, []⟩ =
        some (⟨request, .sent w, none⟩, ⟨db, [w]⟩) := by
      unfold activationProg
      simp only [ActivationAction.binding, hwrite.trans hsend, hanswer, Option.map_some]
    have hcommit : activationProg env catalogue .commit ⟨request, .sent w, none⟩ ⟨db, [w]⟩ =
        some (⟨request, .done, some (.ok ())⟩, BindingDb.finish ⟨db, [w]⟩ w db') := by
      unfold activationProg
      simp only [ActivationAction.binding, bindingProg, activationAnswer, hexecute, Option.map_some]
    rw [Config.alone_cons_some hstep, Config.alone_cons_some hcommit, answered_alone]
    rfl

/-- A request that is not interrupted answers as `activate_connector` ends. -/
theorem activationProg_alone (hfresh : db.propertyConnectors.Fresh (draw.id 0)) :
    (Config.alone (activationProg env catalogue) [.select, .selectNext, .selectNext, .write draw, .commit]
        ⟨request, .idle, none⟩ ⟨db, []⟩).1.answer =
      some ((activateConnector env db request.ctx draw request.propertyId request.payload).map
        fun _ => ()) := by
  unfold activateConnector
  cases hprop : getOwnedProperty env db request.ctx request.propertyId with
  | error e =>
    have hstep : activationProg env catalogue .select ⟨request, .idle, none⟩ ⟨db, []⟩ =
        some (⟨request, .done, some (.error e)⟩, ⟨db, []⟩) := by
      unfold activationProg
      simp only [ActivationAction.binding, Activation.call, bindingProg, activationAnswer, hprop,
        Option.map_some]
    rw [Config.alone_cons_some hstep, answered_alone]
    rfl
  | ok prop =>
    have hstep : activationProg env catalogue .select ⟨request, .idle, none⟩ ⟨db, []⟩ =
        some (⟨request, .owned (.activate request.payload) prop, none⟩, ⟨db, []⟩) := by
      unfold activationProg
      simp only [ActivationAction.binding, Activation.call, bindingProg, activationAnswer, hprop,
        Option.map_some]
    rw [Config.alone_cons_some hstep, ok_bind]
    cases hconnector : getActiveConnector db request.payload.connectorId with
    | error e =>
      have hstep :
          activationProg env catalogue .selectNext ⟨request, .owned (.activate request.payload) prop, none⟩
          ⟨db, []⟩ = some (⟨request, .done, some (.error e)⟩, ⟨db, []⟩) := by
        unfold activationProg
        simp only [ActivationAction.binding, bindingProg, activationAnswer, hconnector, Option.map_some]
      rw [Config.alone_cons_some hstep, answered_alone]
      rfl
    | ok connector =>
      have hstep :
          activationProg env catalogue .selectNext ⟨request, .owned (.activate request.payload) prop, none⟩
          ⟨db, []⟩ = some (⟨request, .available request.payload prop connector, none⟩, ⟨db, []⟩) := by
        unfold activationProg
        simp only [ActivationAction.binding, bindingProg, activationAnswer, hconnector, Option.map_some]
      rw [Config.alone_cons_some hstep, ok_bind]
      cases hexisting : existingBinding db prop.id connector.id with
      | none =>
        have hstep : activationProg env catalogue .selectNext
            ⟨request, .available request.payload prop connector, none⟩
            ⟨db, []⟩ = some (⟨request, .binding request.payload prop connector, none⟩, ⟨db, []⟩) := by
          unfold activationProg
          simp only [ActivationAction.binding, bindingProg, activationAnswer, hexisting, Option.map_some]
        rw [Config.alone_cons_some hstep, written_alone rfl rfl]
        have hkey : db.propertyConnectors.find? (newBinding draw request.payload
            (env.encryptSecret draw.iv request.payload.apiSecret) prop.id connector.id).id = none :=
          Table.fresh_iff_find?.mp hfresh
        unfold BindingWrite.execute
        simp only [hkey, Option.isSome_none, Bool.false_eq_true, ↓reduceIte]
        cases insertBinding db
          (newBinding draw request.payload (env.encryptSecret draw.iv request.payload.apiSecret)
          prop.id connector.id) with
        | error e => rfl
        | ok db' => rfl
      | some existing =>
        obtain ⟨hmem, _⟩ := Table.first_some hexisting
        cases hactive : existing.isActive with
        | true =>
          have hstep : activationProg env catalogue .selectNext
              ⟨request, .available request.payload prop connector, none⟩ ⟨db, []⟩ =
                some (⟨request, .done, some (.error alreadyActive)⟩, ⟨db, []⟩) := by
            unfold activationProg
            simp only [ActivationAction.binding, bindingProg, activationAnswer, hexisting,
              hactive, ↓reduceIte, Option.map_some]
          rw [Config.alone_cons_some hstep, answered_alone]
          simp only [hactive, ↓reduceIte]
          rfl
        | false =>
          have hstep : activationProg env catalogue .selectNext
              ⟨request, .available request.payload prop connector, none⟩ ⟨db, []⟩ =
                some (⟨request, .refreshing request.payload existing, none⟩, ⟨db, []⟩) := by
            unfold activationProg
            simp only [ActivationAction.binding, bindingProg, activationAnswer, hexisting, hactive,
              Bool.false_eq_true, ↓reduceIte, Option.map_some]
          have hid :
              (refreshed request.payload (env.encryptSecret draw.iv request.payload.apiSecret) existing).id =
              existing.id := rfl
          rw [Config.alone_cons_some hstep, written_alone rfl rfl, execute_update hmem hid]
          simp only [hactive, Bool.false_eq_true, ↓reduceIte]
          rfl

end

/-! ### The binding of a property and a connector -/

/-- `row` is the one binding of the property and the connector. -/
def OnlyBinding (db : Db) (propertyId connectorId : Uuid) (row : PropertyConnector) : Prop :=
  ∀ pc, (pc ∈ db.propertyConnectors ∧ pc.propertyId = propertyId ∧ pc.connectorId = connectorId) ↔ pc = row

/-- The columns that a tenant supplies are those of the payload; a `config` may be stored as a value that
compares equal. -/
structure StoresPayload (env : PlatformEnv) (payload : ActivateConnector)
    (row : PropertyConnector) : Prop where
  apiKey : row.apiKey = payload.apiKey
  apiSecret : ∃ iv, row.apiSecret = some (env.encryptSecret iv payload.apiSecret)
  scopes : row.scopes = payload.scopes
  config : optDictEq row.config payload.config = true
  baseUrl : row.baseUrl = payload.baseUrl

section

variable {env : PlatformEnv} {catalogue : ConnectorEnv} {db : Db} {propertyId connectorId : Uuid}
  {row existing : PropertyConnector}

theorem OnlyBinding.self (h : OnlyBinding db propertyId connectorId row) :
    row ∈ db.propertyConnectors ∧ row.propertyId = propertyId ∧ row.connectorId = connectorId :=
  (h row).mpr rfl

theorem OnlyBinding.found (h : OnlyBinding db propertyId connectorId row) :
    existingBinding db propertyId connectorId = some row := by
  obtain ⟨hmem, hprop, hconnector⟩ := h.self
  refine Table.first_eq_some_of_unique hmem (by simp [hprop, hconnector]) ?_
  intro pc hpc hpair
  simp only [Bool.and_eq_true, beq_iff_eq] at hpair
  exact (h pc).mp ⟨hpc, hpair.1, hpair.2⟩

/-- After the first insertion there is one binding. -/
theorem onlyBinding_insert (pc : PropertyConnector)
    (hnone : existingBinding db pc.propertyId pc.connectorId = none)
    (hfresh : db.propertyConnectors.Fresh pc.id) :
    OnlyBinding { db with propertyConnectors := db.propertyConnectors.insert pc } pc.propertyId
      pc.connectorId pc := by
  have habsent := Table.first_eq_none.mp hnone
  intro x
  show x ∈ db.propertyConnectors.insert pc ∧ _ ↔ _
  rw [Table.mem_insert hfresh]
  constructor
  · rintro ⟨hx | hx, hprop, hconnector⟩
    · have hother := habsent x hx
      simp [hprop, hconnector] at hother
    · exact hx
  · rintro rfl
    exact ⟨Or.inr rfl, rfl, rfl⟩

/-- Writing the one binding leaves one. -/
theorem OnlyBinding.update (h : OnlyBinding db propertyId connectorId existing) (row : PropertyConnector)
    (hid : row.id = existing.id) (hprop : row.propertyId = existing.propertyId)
    (hconnector : row.connectorId = existing.connectorId) :
    OnlyBinding { db with propertyConnectors := db.propertyConnectors.update row } propertyId
      connectorId row := by
  obtain ⟨hmem, hprop', hconnector'⟩ := h.self
  intro x
  show x ∈ db.propertyConnectors.update row ∧ _ ↔ _
  rw [Table.mem_update]
  constructor
  · rintro ⟨⟨rfl, _⟩ | ⟨hx, hne⟩, hp, hc⟩
    · rfl
    · obtain rfl := (h x).mp ⟨hx, hp, hc⟩
      exact absurd hid.symm hne
  · rintro rfl
    exact ⟨Or.inl ⟨rfl, existing, hmem, hid.symm⟩, hprop.trans hprop', hconnector.trans hconnector'⟩

end

/-! ### Competing requests -/

/-- The requests are for one property, which is their tenant's, and one connector, which is active; the two
have no binding, or an inactive one. -/
structure Competing {π : Type} (env : PlatformEnv) (db : Db) (prop : Property) (connector : Connector)
    (requests : π → Activation) : Prop where
  owned : ∀ p, getOwnedProperty env db (requests p).ctx (requests p).propertyId = .ok prop
  available : ∀ p, getActiveConnector db (requests p).payload.connectorId = .ok connector
  unbound : existingBinding db prop.id connector.id = none ∨
    ∃ existing, OnlyBinding db prop.id connector.id existing ∧ existing.isActive = false

/-- The request has found no active binding and has not answered. -/
def BindingLocal.hasDecided : BindingLocal → Bool
  | .binding .. | .refreshing .. | .sent _ => true
  | _ => false

/-- The next step is the `SELECT` of the binding. -/
def selectsBinding (a : ActivationAction) (m : Activating) : Bool :=
  match a, m.stage with
  | .selectNext, .available .. => true
  | _, _ => false

/-- How far a request has come in competing for the binding. -/
def Activating.acting (m : Activating) : Acting :=
  match m.answer with
  | none => if m.stage.hasDecided then .decided else .ready
  | some (.ok _) => .won
  | some (.error e) => if e = alreadyActive then .refused else .failed

section

variable (env : PlatformEnv) (catalogue : ConnectorEnv) (db : Db) (prop : Property) (connector : Connector)

/-- The binding is active. -/
def bound (s : BindingDb) : Bool := (existingBinding s.db prop.id connector.id).any (·.isActive)

/-- What has become of the database once a request has committed: the one binding is active, in the row of the
inactive one if there was one. -/
structure Taken (db' : Db) : Prop where
  active : ∃ row, OnlyBinding db' prop.id connector.id row ∧ row.isActive = true ∧
    ∀ existing, OnlyBinding db prop.id connector.id existing → row.id = existing.id
  properties : db'.properties = db.properties
  connectors : db'.connectors = db.connectors

/-- Where a request may stand, and what it has read by then. -/
inductive Placed (request : Activation) : Activating → Prop where
  | idle : Placed request ⟨request, .idle, none⟩
  | owned : Placed request ⟨request, .owned (.activate request.payload) prop, none⟩
  | available : Placed request ⟨request, .available request.payload prop connector, none⟩
  | binding : existingBinding db prop.id connector.id = none →
      Placed request ⟨request, .binding request.payload prop connector, none⟩
  | refreshing {existing : PropertyConnector} : OnlyBinding db prop.id connector.id existing →
      existing.isActive = false → Placed request ⟨request, .refreshing request.payload existing, none⟩
  | inserting {draw : Draw} : existingBinding db prop.id connector.id = none →
      db.propertyConnectors.Fresh (draw.id 0) →
      Placed request ⟨request, .sent (.insert connector (newBinding draw request.payload
        (env.encryptSecret draw.iv request.payload.apiSecret) prop.id connector.id)), none⟩
  | updating {draw : Draw} {existing : PropertyConnector} : OnlyBinding db prop.id connector.id existing →
      existing.isActive = false →
      Placed request ⟨request, .sent (.update existing (refreshed request.payload
        (env.encryptSecret draw.iv request.payload.apiSecret) existing)), none⟩
  | answered (answer : Except Exn Unit) : Placed request ⟨request, .done, some answer⟩

/-- What a step of a request does. -/
inductive ActivationEffect (request : Activation) (a : ActivationAction) (m : Activating) (s : BindingDb) :
    Activating → BindingDb → Prop where
  | passed {m' : Activating} {s' : BindingDb} : selectsBinding a m = false → s'.db = s.db → m'.answer = none →
      m'.acting = m.acting → Placed env db prop connector request m' → ActivationEffect request a m s m' s'
  | free {m' : Activating} : selectsBinding a m = true → s.db = db → m'.answer = none → m.acting = .ready →
      m'.acting = .decided → Placed env db prop connector request m' → ActivationEffect request a m s m' s
  | refused : selectsBinding a m = true → Taken db prop connector s.db → m.acting = .ready →
      ActivationEffect request a m s ⟨request, .done, some (.error alreadyActive)⟩ s
  | failed {e : Exn} {s' : BindingDb} : selectsBinding a m = false → Taken db prop connector s.db →
      m.acting = .decided → s'.db = s.db → e ≠ alreadyActive →
      ActivationEffect request a m s ⟨request, .done, some (.error e)⟩ s'
  | won {s' : BindingDb} : selectsBinding a m = false → m.acting = .decided → Taken db prop connector s'.db →
      (s.db = db → ∃ row, OnlyBinding s'.db prop.id connector.id row ∧
        StoresPayload env request.payload row) →
      ActivationEffect request a m s ⟨request, .done, some (.ok ())⟩ s'

variable {env catalogue db prop connector}

/-! ### The statements -/

theorem getOwnedProperty_congr {db' : Db} {ctx : RequestContext} {propertyId : RawId}
    (h : db'.properties = db.properties) :
    getOwnedProperty env db' ctx propertyId = getOwnedProperty env db ctx propertyId := by
  unfold getOwnedProperty
  rw [h]

theorem getActiveConnector_congr {db' : Db} {connectorId : Uuid} (h : db'.connectors = db.connectors) :
    getActiveConnector db' connectorId = getActiveConnector db connectorId := by
  unfold getActiveConnector
  rw [h]

variable (catalogue connector) in
/-- The first `INSERT` succeeds. -/
theorem execute_insert_first (pc : PropertyConnector)
    (hnone : existingBinding db pc.propertyId pc.connectorId = none)
    (hfresh : db.propertyConnectors.Fresh pc.id) :
    (BindingWrite.insert connector pc).execute catalogue db =
      .ok { db with propertyConnectors := db.propertyConnectors.insert pc } := by
  unfold BindingWrite.execute
  simp only [Table.fresh_iff_find?.mp hfresh, Option.isSome_none, Bool.false_eq_true, ↓reduceIte]
  exact insertBinding_of_none hnone

variable (catalogue) in
/-- A later one violates a unique constraint. -/
theorem execute_insert_again {db' : Db} (htaken : Taken db prop connector db') (draw : Draw)
    (payload : ActivateConnector) (secret : String) :
    ∃ e, (BindingWrite.insert connector (newBinding draw payload secret prop.id connector.id)).execute
      catalogue db' =
      .error e ∧ e ≠ alreadyActive := by
  obtain ⟨row, honly, _⟩ := htaken.active
  have hpair : existingBinding db' (newBinding draw payload secret prop.id connector.id).propertyId
      (newBinding draw payload secret prop.id connector.id).connectorId = some row := honly.found
  unfold BindingWrite.execute
  by_cases hkey : (db'.propertyConnectors.find?
    (newBinding draw payload secret prop.id connector.id).id).isSome = true
  · simp only [hkey, ↓reduceIte]
    exact ⟨_, rfl, Exn.noConfusion⟩
  · simp only [hkey, Bool.false_eq_true, ↓reduceIte]
    unfold insertBinding
    rw [hpair]
    exact ⟨_, rfl, Exn.noConfusion⟩

variable (catalogue) in
/-- An `UPDATE` always finds its row, which is the loaded one unless a request has committed since. -/
theorem execute_refresh {s : BindingDb} {existing : PropertyConnector}
    (hdb : s.db = db ∨ Taken db prop connector s.db) (honly : OnlyBinding db prop.id connector.id existing)
    (written : PropertyConnector) :
    ∃ stored, OnlyBinding s.db prop.id connector.id stored ∧ stored.id = existing.id ∧
    (s.db = db → stored = existing) ∧
      (BindingWrite.update existing written).execute catalogue s.db =
        .ok { s.db with propertyConnectors :=
          s.db.propertyConnectors.update (existing.flushInto written stored) } := by
  obtain ⟨stored, hstored, hid, hsame⟩ : ∃ stored, OnlyBinding s.db prop.id connector.id stored ∧
      stored.id = existing.id ∧ (s.db = db → stored = existing) := by
    rcases hdb with hdb | htaken
    · rw [hdb]
      exact ⟨existing, honly, rfl, fun _ => rfl⟩
    · obtain ⟨row, hrow, hactive, hid⟩ := htaken.active
      refine ⟨row, hrow, hid existing honly, ?_⟩
      intro hdb
      rw [hdb] at hrow
      exact (honly row).mp hrow.self
  have hfound : s.db.propertyConnectors.find? existing.id = some stored :=
    Table.find?_eq_some.mpr ⟨hstored.self.1, hid⟩
  refine ⟨stored, hstored, hid, hsame, ?_⟩
  unfold BindingWrite.execute
  simp only [hfound]

/-- The first `INSERT` makes the binding active and stores the payload. -/
theorem taken_insert {draw : Draw} {payload : ActivateConnector} {secret : String}
    (hnone : existingBinding db prop.id connector.id = none)
    (hfresh : db.propertyConnectors.Fresh (draw.id 0)) :
    Taken db prop connector { db with
      propertyConnectors :=
        db.propertyConnectors.insert (newBinding draw payload secret prop.id connector.id) } := by
  refine ⟨⟨_, onlyBinding_insert _ hnone hfresh, rfl, ?_⟩, rfl,
    rfl⟩
  intro existing honly
  rw [honly.found] at hnone
  cases hnone

/-- An `UPDATE` that sets `is_active` makes the binding active, whatever is stored in the row. -/
theorem taken_update {db' : Db} {existing stored : PropertyConnector} {payload : ActivateConnector}
    {secret : String} (hexisting : OnlyBinding db prop.id connector.id existing)
    (hinactive : existing.isActive = false) (hstored : OnlyBinding db' prop.id connector.id stored)
    (hid : stored.id = existing.id) (hproperties : db'.properties = db.properties)
    (hconnectors : db'.connectors = db.connectors) :
    Taken db prop connector { db' with
      propertyConnectors :=
        db'.propertyConnectors.update (existing.flushInto (refreshed payload secret existing) stored) } ∧
    OnlyBinding { db' with
      propertyConnectors :=
        db'.propertyConnectors.update (existing.flushInto (refreshed payload secret existing) stored) }
      prop.id connector.id (existing.flushInto (refreshed payload secret existing) stored) := by
  have honly := hstored.update (existing.flushInto (refreshed payload secret existing) stored) rfl
    (flushColumn_same _ _) (flushColumn_same _ _)
  refine ⟨⟨⟨_, honly, ?_, ?_⟩, hproperties, hconnectors⟩, honly⟩
  · show flushColumn existing.isActive true stored.isActive = true
    rw [hinactive]
    rfl
  · intro existing' honly'
    rw [(hexisting existing').mp (honly'.self)]
    exact hid

/-- On the row that was loaded the `UPDATE` stores the payload. -/
theorem storesPayload_flush {existing : PropertyConnector} {payload : ActivateConnector} {iv : Nat} :
    StoresPayload env payload
      (existing.flushInto (refreshed payload (env.encryptSecret iv payload.apiSecret) existing)
        existing) := by
  have hid : (refreshed payload (env.encryptSecret iv payload.apiSecret) existing).id = existing.id := rfl
  rw [PropertyConnector.flushInto_of_loaded hid]
  exact ⟨rfl, ⟨iv, rfl⟩, rfl, PropertyConnector.optDictEq_writtenConfig_assigned, rfl⟩

/-! ### One step of a request -/

theorem bound_of_start {π : Type} {requests : π → Activation}
    (hstart : Competing env db prop connector requests) {s : BindingDb} (hs : s.db = db) :
    bound prop connector s = false := by
  unfold bound
  rw [hs]
  rcases hstart.unbound with hnone | ⟨existing, honly, hinactive⟩
  · rw [hnone]
    rfl
  · rw [honly.found]
    exact hinactive

theorem Taken.bound {s : BindingDb} (h : Taken db prop connector s.db) : bound prop connector s = true := by
  obtain ⟨row, honly, hactive, _⟩ := h.active
  unfold RatingLift.bound
  rw [honly.found]
  exact hactive

/-- A write that was sent succeeds, or meets a binding that has become active. -/
theorem send_some {s s' : BindingDb} {w : BindingWrite} {stage : BindingLocal}
    (h : s.send catalogue w = some (stage, s')) :
    s'.db = s.db ∧ ((∃ db', w.execute catalogue s.db = .ok db' ∧ stage = .sent w) ∨
      ∃ e, w.execute catalogue s.db = .error e ∧ stage = .done) := by
  unfold BindingDb.send at h
  split at h
  · cases h
  · cases hexecute : w.execute catalogue s.db with
    | error e =>
      rw [hexecute] at h
      cases h
      exact ⟨rfl, Or.inr ⟨e, rfl, rfl⟩⟩
    | ok db' =>
      rw [hexecute] at h
      cases h
      exact ⟨rfl, Or.inl ⟨db', rfl, rfl⟩⟩

variable {request : Activation} {m' : Activating} {s s' : BindingDb}

/-- The `SELECT` of the binding finds nobody ahead, or the request is refused. -/
theorem available_effect {π : Type} {requests : π → Activation}
    (hstart : Competing env db prop connector requests) (hdb : s.db = db ∨ Taken db prop connector s.db)
    (h : activationProg env catalogue .selectNext
      ⟨request, .available request.payload prop connector, none⟩ s =
      some (m', s')) :
    ActivationEffect env db prop connector request .selectNext
      ⟨request, .available request.payload prop connector, none⟩
      s m' s' := by
  unfold activationProg at h
  rcases hdb with hdb | htaken
  · rcases hstart.unbound with hnone | ⟨existing, honly, hinactive⟩
    · have hfound : existingBinding s.db prop.id connector.id = none := by
        rw [hdb]
        exact hnone
      simp only [ActivationAction.binding, bindingProg, activationAnswer, hfound, Option.map_some] at h
      cases h
      exact .free rfl hdb rfl rfl rfl (.binding hnone)
    · have hfound : existingBinding s.db prop.id connector.id = some existing := by
        rw [hdb]
        exact honly.found
      simp only [ActivationAction.binding, bindingProg, activationAnswer, hfound, hinactive,
        Bool.false_eq_true, ↓reduceIte, Option.map_some] at h
      cases h
      exact .free rfl hdb rfl rfl rfl (.refreshing honly hinactive)
  · obtain ⟨row, honly, hactive, _⟩ := htaken.active
    simp only [ActivationAction.binding, bindingProg, activationAnswer, honly.found, hactive, ↓reduceIte,
      Option.map_some] at h
    cases h
    exact .refused rfl htaken rfl

/-- An `INSERT` is sent, which fails at once where another request has committed. -/
theorem binding_effect {draw : Draw} (hnone : existingBinding db prop.id connector.id = none)
    (hdb : s.db = db ∨ Taken db prop connector s.db) (hfresh : s.db.propertyConnectors.Fresh (draw.id 0))
    (h : activationProg env catalogue (.write draw)
      ⟨request, .binding request.payload prop connector, none⟩ s =
      some (m', s')) :
    ActivationEffect env db prop connector request (.write draw)
      ⟨request, .binding request.payload prop connector, none⟩
      s m' s' := by
  unfold activationProg at h
  obtain ⟨⟨stage, s₁⟩, hsend, heq⟩ := Option.map_eq_some_iff.mp h
  obtain ⟨hsame, hsent⟩ := send_some hsend
  rcases hsent with ⟨db', hexecute, rfl⟩ | ⟨e, hexecute, rfl⟩
  · -- the write meets no binding, so nobody has committed
    rcases hdb with hdb | htaken
    · have hkey : db.propertyConnectors.Fresh (draw.id 0) := by
        rw [← hdb]
        exact hfresh
      simp only [ActivationAction.binding, activationAnswer, hexecute] at heq
      cases heq
      exact .passed rfl hsame rfl rfl (.inserting hnone hkey)
    · obtain ⟨e, herror, _⟩ := execute_insert_again catalogue htaken draw request.payload
        (env.encryptSecret draw.iv request.payload.apiSecret)
      rw [hexecute] at herror
      cases herror
  · simp only [ActivationAction.binding, activationAnswer, hexecute] at heq
    cases heq
    rcases hdb with hdb | htaken
    · have hkey : db.propertyConnectors.Fresh (draw.id 0) := by
        rw [← hdb]
        exact hfresh
      rw [hdb, execute_insert_first catalogue connector _ hnone hkey] at hexecute
      cases hexecute
    · obtain ⟨e', herror, hne⟩ := execute_insert_again catalogue htaken draw request.payload
        (env.encryptSecret draw.iv request.payload.apiSecret)
      rw [hexecute] at herror
      cases herror
      exact .failed rfl htaken rfl hsame hne

/-- The commit of an `INSERT` wins where nobody has committed before. -/
theorem inserting_effect {draw : Draw} (hnone : existingBinding db prop.id connector.id = none)
    (hkey : db.propertyConnectors.Fresh (draw.id 0)) (hdb : s.db = db ∨ Taken db prop connector s.db)
    (h : activationProg env catalogue .commit
      ⟨request, .sent (.insert connector (newBinding draw request.payload
      (env.encryptSecret draw.iv request.payload.apiSecret) prop.id connector.id)), none⟩ s = some (m', s')) :
    ActivationEffect env db prop connector request .commit
      ⟨request, .sent (.insert connector (newBinding draw request.payload
      (env.encryptSecret draw.iv request.payload.apiSecret) prop.id connector.id)), none⟩ s m' s' := by
  unfold activationProg at h
  rcases hdb with hdb | htaken
  · have hexecute := execute_insert_first catalogue connector
      (newBinding draw request.payload (env.encryptSecret draw.iv request.payload.apiSecret) prop.id
        connector.id) hnone hkey
    simp only [ActivationAction.binding, bindingProg, activationAnswer, hdb, hexecute, Option.map_some] at h
    cases h
    refine .won rfl rfl (taken_insert hnone hkey) ?_
    intro _
    exact ⟨_, onlyBinding_insert _ hnone hkey, rfl, ⟨draw.iv, rfl⟩, rfl, optDictEq_refl _, rfl⟩
  · obtain ⟨e, herror, hne⟩ := execute_insert_again catalogue htaken draw request.payload
      (env.encryptSecret draw.iv request.payload.apiSecret)
    simp only [ActivationAction.binding, bindingProg, activationAnswer, herror, Option.map_some] at h
    cases h
    exact .failed rfl htaken rfl rfl hne

/-- The commit of an `UPDATE` always wins. -/
theorem updating_effect {draw : Draw} {existing : PropertyConnector}
    (honly : OnlyBinding db prop.id connector.id existing) (hinactive : existing.isActive = false)
    (hdb : s.db = db ∨ Taken db prop connector s.db) (hproperties : s.db.properties = db.properties)
    (hconnectors : s.db.connectors = db.connectors)
    (h : activationProg env catalogue .commit ⟨request, .sent (.update existing (refreshed request.payload
      (env.encryptSecret draw.iv request.payload.apiSecret) existing)), none⟩ s = some (m', s')) :
    ActivationEffect env db prop connector request .commit
      ⟨request, .sent (.update existing (refreshed request.payload
      (env.encryptSecret draw.iv request.payload.apiSecret) existing)), none⟩ s m' s' := by
  unfold activationProg at h
  obtain ⟨stored, hstored, hid, hsame, hexecute⟩ := execute_refresh catalogue hdb honly
    (refreshed request.payload (env.encryptSecret draw.iv request.payload.apiSecret) existing)
  simp only [ActivationAction.binding, bindingProg, activationAnswer, hexecute, Option.map_some] at h
  cases h
  obtain ⟨htaken, hrow⟩ := taken_update honly hinactive hstored hid hproperties hconnectors
  refine .won rfl rfl htaken ?_
  intro hdb
  refine ⟨_, hrow, ?_⟩
  rw [hsame hdb]
  exact storesPayload_flush

theorem activationProg_effect {π : Type} {requests : π → Activation}
    (hstart : Competing env db prop connector requests) {p : π} {a : ActivationAction} {m m' : Activating}
    {s s' : BindingDb} (hplaced : Placed env db prop connector (requests p) m)
    (hdb : s.db = db ∨ Taken db prop connector s.db)
    (hfresh : ∀ draw, a = .write draw → s.db.propertyConnectors.Fresh (draw.id 0))
    (h : activationProg env catalogue a m s = some (m', s')) :
    ActivationEffect env db prop connector (requests p) a m s m' s' := by
  have hproperties : s.db.properties = db.properties := by
    rcases hdb with hdb | htaken
    · rw [hdb]
    · exact htaken.properties
  have hconnectors : s.db.connectors = db.connectors := by
    rcases hdb with hdb | htaken
    · rw [hdb]
    · exact htaken.connectors
  cases hplaced with
  | idle =>
    cases a with
    | select =>
      unfold activationProg at h
      have howned : getOwnedProperty env s.db (requests p).ctx (requests p).propertyId = .ok prop := by
        rw [getOwnedProperty_congr hproperties]
        exact hstart.owned p
      simp only [ActivationAction.binding, Activation.call, bindingProg, activationAnswer, howned,
        Option.map_some] at h
      cases h
      exact .passed rfl rfl rfl rfl .owned
    | _ => cases h
  | owned =>
    cases a with
    | selectNext =>
      unfold activationProg at h
      have havailable : getActiveConnector s.db (requests p).payload.connectorId = .ok connector := by
        rw [getActiveConnector_congr hconnectors]
        exact hstart.available p
      simp only [ActivationAction.binding, bindingProg, activationAnswer, havailable, Option.map_some] at h
      cases h
      exact .passed rfl rfl rfl rfl .available
    | _ => cases h
  | available =>
    cases a with
    | selectNext => exact available_effect hstart hdb h
    | _ => cases h
  | binding hnone =>
    cases a with
    | write draw => exact binding_effect hnone hdb (hfresh draw rfl) h
    | _ => cases h
  | @refreshing existing honly hinactive =>
    cases a with
    | write draw =>
      unfold activationProg at h
      obtain ⟨⟨stage, s₁⟩, hsend, heq⟩ := Option.map_eq_some_iff.mp h
      obtain ⟨hsame, hsent⟩ := send_some hsend
      obtain ⟨stored, _, _, _, hupdate⟩ := execute_refresh catalogue hdb honly
        (refreshed (requests p).payload (env.encryptSecret draw.iv (requests p).payload.apiSecret) existing)
      rcases hsent with ⟨db', hexecute, rfl⟩ | ⟨e, hexecute, rfl⟩
      · simp only [ActivationAction.binding, activationAnswer, hexecute] at heq
        cases heq
        exact .passed rfl hsame rfl rfl (.updating honly hinactive)
      · rw [hupdate] at hexecute
        cases hexecute
    | _ => cases h
  | @inserting draw hnone hkey =>
    cases a with
    | commit => exact inserting_effect hnone hkey hdb h
    | _ => cases h
  | @updating draw existing honly hinactive =>
    cases a with
    | commit => exact updating_effect honly hinactive hdb hproperties hconnectors h
    | _ => cases h
  | answered answer =>
    cases a <;> cases h

end

end RatingLift
