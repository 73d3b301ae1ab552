import RatingLift.Connectors.LogoCalls

/-!
# Logo operations that fail

The database and the storage share no transaction.  A request that stops half way is rolled back in the
database only, and `LocalFilesystemStorage` swallows the errors of `delete` and `move`.  Here one step of a
request fails: a storage call raises, or does nothing without saying so, or the commit fails.

* (`Attempt.callAll_raises`, `Attempt.callAll_silent`) which of a list of calls are made where one fails;
* (`serveFailing_none`) where nothing fails this is the service of `LogoIntegrity`.
-/

namespace RatingLift

open Library Logos Fallible

/-- The step that fails: the storage call after `call` others, or the final flush or commit.  A silent failure
is that of a call which swallows its errors. -/
inductive Fault where
  | storage (call : Nat) (silent : Bool)
  | commit

/-- `LocalFilesystemStorage` returns as if nothing was wrong when the call cannot be made. -/
def StorageCall.swallowsErrors (backend : Backend) : StorageCall → Bool
  | .delete _ | .move _ _ => match backend with
    | .localFiles _ => true
    | .s3 _ _ => false
  | _ => false

/-- The storage while a request runs: what is due to fail, and whether a call has raised. -/
structure Attempt where
  storage : Storage
  due : Option (Nat × Bool)
  raised : Bool

namespace Attempt

/-- Where nothing fails in the storage. -/
def sound (storage : Storage) : Attempt := ⟨storage, none, false⟩

/-- One call.  After a call has raised no other is made. -/
def call (a : Attempt) (c : StorageCall) : Attempt :=
  if a.raised then a
  else
    match a.due with
    | none => { a with storage := c.apply a.storage }
    | some (n + 1, silent) => ⟨c.apply a.storage, some (n, silent), false⟩
    | some (0, false) => ⟨a.storage, none, true⟩
    | some (0, true) =>
      if c.swallowsErrors a.storage.backend then ⟨a.storage, none, false⟩
      else { a with storage := c.apply a.storage }

def callAll (a : Attempt) (calls : List StorageCall) : Attempt := calls.foldl call a

/-- `save_connector_logo` after its checks, up to the flush -/
def upload (db : Db) (connector : Connector) (logo : CheckedLogo) (file : UploadFile)
    (a : Attempt) : Attempt :=
  let a := a.callAll (deleteCalls db a.storage connector)
  let a := a.callAll (purgeCalls db a.storage connector logo.slug (logo.slug ++ "." ++ logo.ext))
  a.callAll [logo.saveCall file]

end Attempt

/-- The storage before a request. -/
def attemptWith (fault : Option Fault) (storage : Storage) : Attempt :=
  match fault with
  | some (.storage n silent) => ⟨storage, some (n, silent), false⟩
  | _ => .sound storage

section

variable (env : ConnectorEnv) (settings : Settings)

/-- `save_connector_logo` -/
def uploadAttempt (db : Db) (connector : Connector) (file : UploadFile) (a : Attempt) :
    Attempt × Except Exn Db :=
  match checkLogo env settings db connector file with
  | .error e => (a, .error e)
  | .ok logo => (a.upload db connector logo file, flushConnector env db (logo.row a.storage connector))

/-- The storage calls of `update_connector`. -/
def nameCalls (storage : Storage) (connector : Connector) (name : Option String) : List StorageCall :=
  match name.map Py.strip with
  | none => []
  | some newName =>
    if newName = connector.name then [] else renameCalls storage { connector with name := newName } env

/-- `update_connector`; the row gets its new URL whatever the move did. -/
def updateAttempt (db : Db) (connector : Connector) (name : Option String) (isActive : Option Bool)
    (displayOrder : Option Int) (a : Attempt) : Attempt × Except Exn Db :=
  match applyName env db a.storage connector name with
  | .error e => (a, .error e)
  | .ok (_, row) => (a.callAll (nameCalls env a.storage connector name),
      do flushConnector env db (← applyAttributes row none isActive displayOrder))

/-- The service function that a request calls on a row. -/
def LogoRequest.attempt (db : Db) (row : Connector) (a : Attempt) : LogoRequest → Attempt × Except Exn Db
  | .create _ _ _ => (a, .ok db)
  | .saveLogo _ file => uploadAttempt env settings db row file a
  | .clearLogo _ =>
    (a.callAll (deleteCalls db a.storage row),
      flushConnector env db { row with logoUrl := none, logoSha256 := none })
  | .update _ name isActive displayOrder =>
    updateAttempt env db row name isActive (displayOrder.map Int.ofNat) a
  | .softDelete _ now => (a, softDeleteConnector env db now row)
  | .restore _ => (a, restoreConnector env db row)

/-- The end of a request, and whether just the one step failed. -/
def MediaWorld.finish (w : MediaWorld) (fault : Option Fault) (outcome : Attempt × Except Exn Db) :
    MediaWorld × Bool :=
  let (a, flushed) := outcome
  if a.raised then (⟨w.db, a.storage⟩, true)
  else
    match fault, flushed with
    | some .commit, _ => (⟨w.db, a.storage⟩, true)
    | _, .error _ => (⟨w.db, a.storage⟩, false)
    | _, .ok db => (⟨db, a.storage⟩, fault.isSome && a.due.isNone)

/-- A request on any connector, deleted or not, one step of which may fail. -/
def MediaWorld.serveFailing (w : MediaWorld) (fault : Option Fault) (request : LogoRequest) :
    MediaWorld × Bool :=
  match request with
  | .create id name file =>
    match createConnector env w.db id name none with
    | .error _ => (w, false)
    | .ok (row, db) =>
      match attachedFile file with
      | none => w.finish fault (attemptWith fault w.storage, .ok db)
      | some file => w.finish fault (uploadAttempt env settings db row file (attemptWith fault w.storage))
  | request =>
    match w.db.connectors.find? request.connectorId with
    | none => (w, false)
    | some row => w.finish fault (request.attempt env settings w.db row (attemptWith fault w.storage))

end

/-! ### Calls that fail -/

namespace Attempt

variable {storage : Storage}

theorem callAll_append (a : Attempt) (calls calls' : List StorageCall) :
    a.callAll (calls ++ calls') = (a.callAll calls).callAll calls' := List.foldl_append

@[simp] theorem callAll_raised (storage : Storage) (due : Option (Nat × Bool)) (calls : List StorageCall) :
    callAll ⟨storage, due, true⟩ calls = ⟨storage, due, true⟩ := by
  induction calls with
  | nil => rfl
  | cons c calls ih => exact ih

@[simp] theorem callAll_sound (storage : Storage) (calls : List StorageCall) :
    (sound storage).callAll calls = sound (StorageCall.applyAll storage calls) := by
  induction calls generalizing storage with
  | nil => rfl
  | cons c calls ih => exact ih (c.apply storage)

/-- The call that is due to fail silently does, or it swallows no errors and is made. -/
theorem call_silent (c : StorageCall) : call ⟨storage, some (0, true), false⟩ c =
    if c.swallowsErrors storage.backend then ⟨storage, none, false⟩
    else ⟨c.apply storage, some (0, true), false⟩ := rfl

/-- Calls of which one raises. -/
theorem callAll_raises (n : Nat) (calls : List StorageCall) :
    callAll ⟨storage, some (n, false), false⟩ calls =
      if n < calls.length then ⟨StorageCall.applyAll storage (calls.take n), none, true⟩
      else ⟨StorageCall.applyAll storage calls, some (n - calls.length, false), false⟩ := by
  induction calls generalizing storage n with
  | nil => rfl
  | cons c calls ih =>
    cases n with
    | zero => exact callAll_raised storage none calls
    | succ n =>
      show callAll ⟨c.apply storage, some (n, false), false⟩ calls = _
      rw [ih]
      simp [Nat.add_sub_add_right]

/-- Calls of which one fails silently: some of them are made, and none raises. -/
theorem callAll_silent (storage : Storage) (due : Option (Nat × Bool)) (hdue : ∀ d, due = some d → d.2 = true)
    (calls : List StorageCall) :
    ∃ made due', callAll ⟨storage, due, false⟩ calls = ⟨StorageCall.applyAll storage made, due', false⟩ ∧
      made.Sublist calls ∧ (∀ d, due' = some d → d.2 = true) ∧
        (due ≠ none → due' = none → ∃ c ∈ calls, c.swallowsErrors storage.backend = true) := by
  induction calls generalizing storage due with
  | nil => exact ⟨[], due, rfl, List.Sublist.slnil, hdue, fun hsome hnone => absurd hnone hsome⟩
  | cons c calls ih =>
    have step : ∀ due', call ⟨storage, due, false⟩ c = ⟨c.apply storage, due', false⟩ →
        (∀ d, due' = some d → d.2 = true) →
        (due ≠ none → due' ≠ none) → ∃ made due', callAll ⟨storage, due, false⟩ (c :: calls) =
          ⟨StorageCall.applyAll storage made, due', false⟩ ∧ made.Sublist (c :: calls) ∧
          (∀ d, due' = some d → d.2 = true) ∧
            (due ≠ none → due' = none → ∃ c' ∈ c :: calls, c'.swallowsErrors storage.backend = true) := by
      intro due' hcall hdue' hsome
      obtain ⟨made, due'', hmade, hsub, hsilent, hswallow⟩ := ih (c.apply storage) due' hdue'
      refine ⟨c :: made, due'', ?_, hsub.cons_cons c, hsilent, ?_⟩
      · show callAll (call ⟨storage, due, false⟩ c) calls = _
        rw [hcall, hmade]
        rfl
      · intro hdue hnone
        obtain ⟨c', hc', hswallows⟩ := hswallow (hsome hdue) hnone
        exact ⟨c', List.mem_cons_of_mem c hc', by simpa using hswallows⟩
    rcases due with _ | ⟨n, silent⟩
    · exact step none rfl hdue id
    · obtain rfl : silent = true := hdue _ rfl
      cases n with
      | succ n => exact step (some (n, true)) rfl (by simp) (by simp)
      | zero =>
        by_cases hswallows : c.swallowsErrors storage.backend = true
        · -- the call that fails
          obtain ⟨made, due', hmade, hsub, hsilent, _⟩ := ih storage none (by simp)
          refine ⟨made, due', ?_, hsub.cons c, hsilent, fun _ _ => ⟨c, List.mem_cons_self, hswallows⟩⟩
          show callAll (call ⟨storage, some (0, true), false⟩ c) calls = _
          rw [call_silent, if_pos hswallows, hmade]
        · exact step (some (0, true)) (by rw [call_silent, if_neg hswallows]) (by simp) (by simp)

/-- An upload in which nothing fails silently makes the calls of `CheckedLogo.calls`. -/
theorem upload_eq_callAll (due : Option (Nat × Bool)) (hdue : ∀ d, due = some d → d.2 = false) (db : Db)
    (connector : Connector) (logo : CheckedLogo) (file : UploadFile) :
    upload db connector logo file ⟨storage, due, false⟩ =
      callAll ⟨storage, due, false⟩ (logo.calls db storage connector file) := by
  unfold upload CheckedLogo.calls
  extract_lets a₁ a₂ deletes
  rw [callAll_append, callAll_append]
  show (a₁.callAll _).callAll _ = (a₁.callAll _).callAll _
  -- the deletion either raised or was made
  have hmade : a₁.raised = true ∨ a₁.storage = StorageCall.applyAll storage deletes := by
    rcases due with _ | ⟨n, silent⟩
    · right
      show (callAll (sound storage) deletes).storage = _
      rw [callAll_sound]
      rfl
    · obtain rfl : silent = false := hdue _ rfl
      show (callAll _ deletes).raised = true ∨ (callAll _ deletes).storage = _
      rw [callAll_raises]
      split
      · exact Or.inl rfl
      · exact Or.inr rfl
  rcases hmade with hraised | hstorage
  · obtain ⟨storage₁, due₁, raised₁⟩ := a₁
    obtain rfl : raised₁ = true := hraised
    simp only [callAll_raised]
  · rw [hstorage]

end Attempt

section

variable {env : ConnectorEnv} {settings : Settings} {w : MediaWorld}

/-! ### Where nothing fails -/

theorem finish_none (w : MediaWorld) (storage : Storage) (outcome : Except Exn Db) :
    w.finish none (.sound storage, outcome) = (w.commit (storage, outcome), false) := by
  cases outcome <;> rfl

theorem uploadAttempt_none (w : MediaWorld) (db : Db) (row : Connector) (file : UploadFile) :
    w.finish none (uploadAttempt env settings db row file (attemptWith none w.storage)) =
      (w.commit (saveConnectorLogo env settings db w.storage row file), false) := by
  unfold uploadAttempt saveConnectorLogo
  cases hcheck : checkLogo env settings db row file with
  | error e => exact finish_none w w.storage (.error e)
  | ok logo =>
    have hcalls : Attempt.upload db row logo file (attemptWith none w.storage) =
        .sound (logo.store db w.storage row file.data) := by
      rw [← upload_applies hcheck, ← Attempt.callAll_sound]
      exact Attempt.upload_eq_callAll none (by simp) db row logo file
    dsimp only
    rw [hcalls, finish_none]
    rfl

/-- The storage after the calls of an update whose name is accepted. -/
theorem nameCalls_applies {db : Db} {storage storage' : Storage} {c row : Connector} {name : Option String}
    (h : applyName env db storage c name = .ok (storage', row)) :
    StorageCall.applyAll storage (nameCalls env storage c name) = storage' := by
  unfold applyName at h
  unfold nameCalls
  cases hname : name.map Py.strip with
  | none =>
    rw [hname] at h
    exact (Prod.mk.inj (Except.ok.inj h)).1
  | some newName =>
    rw [hname] at h
    dsimp only at h ⊢
    split at h
    · rename_i hsame
      rw [if_pos hsame]
      exact (Prod.mk.inj (Except.ok.inj h)).1
    · rename_i hdiffers
      rw [if_neg hdiffers, rename_applies]
      obtain ⟨_, _, h⟩ := bind_eq_ok.mp h
      rw [pure_eq_ok.mp h]

theorem attempt_none (w : MediaWorld) (row : Connector) (request : LogoRequest) :
    w.finish none (request.attempt env settings w.db row (attemptWith none w.storage)) =
      (w.commit (request.on env settings w row), false) := by
  cases request with
  | create id name file => rfl
  | saveLogo id file => exact uploadAttempt_none w w.db row file
  | clearLogo id =>
    show w.finish none ((Attempt.sound w.storage).callAll (deleteCalls w.db w.storage row), _) = _
    rw [Attempt.callAll_sound, clear_applies, finish_none]
    rfl
  | update id name isActive displayOrder =>
    show w.finish none
      (updateAttempt env w.db row name isActive (displayOrder.map Int.ofNat) (.sound w.storage)) =
      (w.commit
        (updateConnectorMaster env w.db w.storage row name none isActive (displayOrder.map Int.ofNat)), false)
    unfold updateAttempt updateConnectorMaster
    show w.finish none (match applyName env w.db w.storage row name with
      | .error e => _
      | .ok (_, row') => _) = _
    cases hname : applyName env w.db w.storage row name with
    | error e => exact finish_none w w.storage (.error e)
    | ok named =>
      obtain ⟨storage', row'⟩ := named
      show w.finish none ((Attempt.sound w.storage).callAll (nameCalls env w.storage row name), _) = _
      rw [Attempt.callAll_sound, nameCalls_applies hname, finish_none]
  | softDelete id now => exact finish_none w w.storage _
  | restore id => exact finish_none w w.storage _

/-- Where nothing fails a request does what `MediaWorld.serve` does. -/
theorem serveFailing_none (w : MediaWorld) (request : LogoRequest) :
    w.serveFailing env settings none request = (w.serve env settings request, false) := by
  have onRow : ∀ run : Connector → MediaWorld, (∀ row, w.finish none
      (request.attempt env settings w.db row (attemptWith none w.storage)) = (run row, false)) →
      (match w.db.connectors.find? request.connectorId with
        | none => (w, false)
        | some row => w.finish none (request.attempt env settings w.db row (attemptWith none w.storage))) =
      (match w.db.connectors.find? request.connectorId with
        | none => w
        | some row => run row, false) := by
    intro run hrun
    cases w.db.connectors.find? request.connectorId with
    | none => rfl
    | some row => exact hrun row
  cases request with
  | create id name file =>
    show (match createConnector env w.db id name none with
      | .error _ => (w, false)
      | .ok (row, db) => _) = (w.commit (createWithLogo env settings w id name file), false)
    unfold createWithLogo
    cases hcreate : createConnector env w.db id name none with
    | error e => rfl
    | ok created =>
      obtain ⟨row, db⟩ := created
      dsimp only
      cases hfile : attachedFile file with
      | none => exact finish_none w w.storage (.ok db)
      | some f => exact uploadAttempt_none w db row f
  | _ => exact onRow _ fun row => attempt_none w row _

end

end RatingLift
