import RatingLift.Connectors.LogoCalls
import RatingLift.Connectors.Names

/-!
# The check of logo hashes before the flush

`_assert_unique_logo_hash` looks at the rows that are not deleted, as the index of the migrations does.  The
column of the model is unique over all rows.  Under the indexes of the migrations an upload that passes its
checks is always flushed (`upload_complete_of_migrations`).  Under the metadata it is flushed exactly when no
deleted connector has its hash (`hash_check_complete_iff`); it is refused only after the storage calls.  A
restore changes no hash.
-/

namespace RatingLift

open Library Logos Fallible

/-- A call whose checks look at the hash of a logo. -/
inductive HashCall where
  | upload (connector : Connector) (file : UploadFile)
  | restore (connector : Connector)

/-- The row that the call is made on. -/
def HashCall.connector : HashCall → Connector
  | upload connector _ => connector
  | restore connector => connector

section

variable (env : ConnectorEnv) (settings : Settings) (db : Db) (storage : Storage)

/-- `save_connector_logo` or `restore_connector` -/
def HashCall.serve : HashCall → Storage × Except Exn Db
  | upload connector file => saveConnectorLogo env settings db storage connector file
  | restore connector => (storage, restoreConnector env db connector)

/-- The call is refused by a check before any storage call, or it succeeds and the unique indexes hold. -/
def CheckedOrServed (out : Storage × Except Exn Db) : Prop :=
  (out.1 = storage ∧ Rejected out.2) ∨ ∃ db', out.2 = .ok db' ∧ IndexesHold env db'.connectors

/-- No deleted connector has the hash of an upload that passes its checks. -/
def HashFree : HashCall → Prop
  | .upload connector file => (checkLogo env settings db connector file).isOk = true →
      ∀ c ∈ db.connectors, c.isDeleted = true → c.id ≠ connector.id →
      c.logoSha256 ≠ some (env.sha256 file.data)
  | .restore _ => True

end

section

variable {env : ConnectorEnv} {settings : Settings} {db : Db} {storage : Storage} {connector : Connector}
  {file : UploadFile} {logo : CheckedLogo}

/-! ### The checks -/

theorem safeExtension_error {lower : String → String} {filename contentType : Option String} {e : Exn}
    (h : safeExtension lower filename contentType = .error e) : ∃ status detail, e = .http status detail := by
  unfold safeExtension at h
  extract_lets byType suffix at h
  cases hbyType : byType with
  | some ext =>
    rw [hbyType] at h
    cases h
  | none =>
    rw [hbyType] at h
    dsimp only at h
    split at h
    · cases h
    · exact ⟨415, _, (Except.error.inj h).symm⟩

theorem validateImageBytes_error {data : Bytes} {ext : String} {e : Exn}
    (h : validateImageBytes env settings data ext = .error e) : ∃ status detail, e = .http status detail := by
  unfold validateImageBytes at h
  extract_lets head at h
  repeat' split at h
  all_goals cases h
  all_goals exact ⟨_, _, rfl⟩

/-- An upload passes its checks, with the hash of the file, or is refused with an HTTP error. -/
theorem checkLogo_cases (env : ConnectorEnv) (settings : Settings) (db : Db) (connector : Connector)
    (file : UploadFile) :
    (∃ logo, checkLogo env settings db connector file = .ok logo ∧ logo.digest = env.sha256 file.data ∧
        assertUniqueLogoHash db (env.sha256 file.data) (some connector.id) = .ok ()) ∨
      ∃ status detail, checkLogo env settings db connector file = .error (.http status detail) := by
  unfold checkLogo
  split
  · exact Or.inr ⟨_, _, rfl⟩
  split
  · exact Or.inr ⟨_, _, rfl⟩
  cases hext : safeExtension env.lower file.filename file.contentType with
  | error e =>
    obtain ⟨status, detail, rfl⟩ := safeExtension_error hext
    exact Or.inr ⟨_, _, rfl⟩
  | ok ext =>
    rw [ok_bind]
    cases hvalid : validateImageBytes env settings file.data ext with
    | error e =>
      obtain ⟨status, detail, rfl⟩ := validateImageBytes_error hvalid
      exact Or.inr ⟨_, _, rfl⟩
    | ok actualExt =>
      rw [ok_bind]
      extract_lets digest slug
      rcases assertUniqueLogoHash_cases digest (some connector.id) with hunique | ⟨detail, htaken⟩
      · rw [hunique, ok_bind]
        split
        · exact Or.inl ⟨_, rfl, rfl, rfl⟩
        · exact Or.inr ⟨_, _, rfl⟩
      · rw [htaken]
        exact Or.inr ⟨_, _, rfl⟩

/-! ### The flush -/

theorem conflict_metadata (hschema : env.schema = .metadata) (a b : Connector) :
    conflict env a b = true ↔ a.logoSha256 ≠ none ∧ a.logoSha256 = b.logoSha256 := by
  unfold conflict
  rw [hschema]
  simp [sameHash]

/-- Under the metadata the indexes accept a hash that no other row has, deleted or not. -/
theorem accept_hash_iff (hschema : env.schema = .metadata) {row : Connector} {digest : String}
    (hdigest : row.logoSha256 = some digest) :
    indexesAccept env db.connectors row = true ↔ ∀ c ∈ db.connectors, c.id ≠ row.id →
    c.logoSha256 ≠ some digest := by
  rw [indexesAccept_iff]
  refine forall₃_congr fun c _ _ => ?_
  rw [← Bool.not_eq_true, conflict_metadata hschema, hdigest]
  constructor
  · rintro hfree heq
    exact hfree ⟨by rw [heq]; simp, heq⟩
  · rintro hne ⟨_, heq⟩
    exact hne heq

/-- A flush of an order that fits is served where the indexes accept the row, and otherwise refused by one of
them. -/
theorem Flushed.checkedOrServed_iff {row : Connector} {out : Except Exn Db} (h : Flushed env db row out)
    (hfits : orderFits db.connectors row = true) (hholds : IndexesHold env db.connectors)
    (storage' : Storage) :
    CheckedOrServed env storage (storage', out) ↔ indexesAccept env db.connectors row = true := by
  cases h with
  | written hput => exact iff_of_true (Or.inr ⟨_, rfl, hput.indexes hholds⟩) hput.accepted
  | overflowed hno => exact absurd (hfits.symm.trans hno) nofun
  | refused _ hrefused =>
    refine iff_of_false ?_ (by rw [hrefused]; simp)
    rintro (⟨_, status, detail, hrejected⟩ | ⟨db', hok, _⟩)
    · cases hrejected
    · cases hok

/-! ### The two calls -/

theorem upload_cases (settings : Settings) (storage : Storage) (file : UploadFile)
    (hstored : db.connectors.find? connector.id = some connector) (hholds : IndexesHold env db.connectors) :
    ((checkLogo env settings db connector file).isOk = false ∧
        CheckedOrServed env storage (saveConnectorLogo env settings db storage connector file)) ∨
      ((checkLogo env settings db connector file).isOk = true ∧
        (∀ c ∈ db.connectors, c.isDeleted = false → c.id ≠ connector.id →
          c.logoSha256 ≠ some (env.sha256 file.data)) ∧
        ∃ row, row.id = connector.id ∧ row.name = connector.name ∧ row.isDeleted = connector.isDeleted ∧
          row.logoSha256 = some (env.sha256 file.data) ∧
          (CheckedOrServed env storage (saveConnectorLogo env settings db storage connector file) ↔
            indexesAccept env db.connectors row = true)) := by
  unfold saveConnectorLogo
  rcases checkLogo_cases env settings db connector file with ⟨logo, hcheck, hdigest, hunique⟩
    | ⟨status, detail, hcheck⟩
  · right
    rw [hcheck]
    refine ⟨rfl, assertUniqueLogoHash_ok.mp hunique, logo.row storage connector, rfl, rfl, rfl,
      congrArg some hdigest, ?_⟩
    have hflushed :
        Flushed env db (logo.row storage connector) (flushConnector env db (logo.row storage connector)) :=
      flushed_of_flush (c := connector) hstored
    have hfits : orderFits db.connectors (logo.row storage connector) = true :=
      orderFits_of_stored (Table.find?_some hstored).1 rfl rfl
    exact hflushed.checkedOrServed_iff hfits hholds _
  · left
    rw [hcheck]
    exact ⟨rfl, Or.inl ⟨rfl, status, detail, rfl⟩⟩

/-- A restored row keeps its hash, which no other row has. -/
theorem restore_complete (hschema : env.schema = .metadata) (hholds : IndexesHold env db.connectors)
    (hstored : db.connectors.find? connector.id = some connector) :
    CheckedOrServed env storage (storage, restoreConnector env db connector) := by
  rcases restore_outcome hstored with ⟨_, _, _, hflushed⟩ | ⟨_, hrejected⟩
  · have haccept :
        indexesAccept env db.connectors { connector with isDeleted := false, deletedAt := none } = true := by
      refine hholds.accept (Table.find?_some hstored).1 rfl ?_
      intro x hx
      rw [← Bool.not_eq_true, conflict_metadata hschema] at hx ⊢
      exact hx
    have hfits : orderFits db.connectors { connector with isDeleted := false, deletedAt := none } = true :=
      orderFits_of_stored (Table.find?_some hstored).1 rfl rfl
    exact (hflushed.checkedOrServed_iff hfits hholds storage).mpr haccept
  · exact Or.inl ⟨rfl, hrejected⟩

/-- Under the metadata a call that passes its checks is flushed exactly when no deleted connector has the hash
of the upload. -/
theorem hash_check_complete_iff (hschema : env.schema = .metadata) (hholds : IndexesHold env db.connectors)
    (call : HashCall) (hstored : db.connectors.find? call.connector.id = some call.connector) :
    CheckedOrServed env storage (call.serve env settings db storage) ↔ HashFree env settings db call := by
  cases call with
  | restore connector => exact iff_of_true (restore_complete hschema hholds hstored) trivial
  | upload connector file =>
    replace hstored : db.connectors.find? connector.id = some connector := hstored
    rcases upload_cases settings storage file hstored hholds with
      ⟨hcheck, hserved⟩ | ⟨hcheck, hlive, row, hid, _, _, hdigest, hiff⟩
    · refine iff_of_true hserved ?_
      intro hok
      rw [hcheck] at hok
      cases hok
    · refine hiff.trans ?_
      rw [accept_hash_iff hschema hdigest, hid]
      constructor
      · intro hfree _ c hc _ hne
        exact hfree c hc hne
      · intro hfree c hc hne
        cases hdeleted : c.isDeleted with
        | false => exact hlive c hc hdeleted hne
        | true => exact hfree hcheck c hc hdeleted hne

/-- Under the indexes of the migrations an upload that passes its checks is always flushed, also where a
deleted connector has its hash. -/
theorem upload_complete_of_migrations (hschema : env.schema = .migrations)
    (hholds : IndexesHold env db.connectors) (hstored : db.connectors.find? connector.id = some connector) :
    CheckedOrServed env storage (saveConnectorLogo env settings db storage connector file) := by
  rcases upload_cases settings storage file hstored hholds with
    ⟨_, hserved⟩ | ⟨_, hlive, row, hid, hname, hdeleted, hdigest, hiff⟩
  · exact hserved
  · rw [hiff, indexesAccept_iff]
    intro c hc hne
    have hstays : conflict env c connector = false :=
      hholds c hc connector (Table.find?_some hstored).1 (hid ▸ hne)
    unfold conflict at hstays ⊢
    rw [hschema] at hstays ⊢
    dsimp only at hstays ⊢
    rw [hname, hdeleted]
    cases hc' : c.isDeleted with
    | true => rfl
    | false =>
      have hother : sameHash c row = false := by
        have := hlive c hc hc' (hid ▸ hne)
        simp [sameHash, hdigest, this]
      rw [hc'] at hstays
      rw [hother]
      cases hlive' : connector.isDeleted with
      | true => rfl
      | false =>
        rw [hlive'] at hstays
        simp only [Bool.not_false, Bool.and_self, Bool.true_and, Bool.or_eq_false_iff,
          Bool.or_false] at hstays ⊢
        exact hstays.1

end

instance (t : Table Connector) : Decidable (IndexesHold env t) :=
  inferInstanceAs (Decidable (∀ a ∈ t.rows, ∀ b ∈ t.rows, a.id ≠ b.id → conflict env a b = false))

/-! ### The logo of a deleted connector -/

namespace DeletedLogo

/-- Tables that the metadata built. -/
def env : ConnectorEnv := { SharedSlug.env with schema := .metadata }

/-- A connector is deleted with its logo, and another has none. -/
def requests : List CatalogueRequest :=
  [.create (.ofNat 1) "Foo" (some (SharedSlug.svg "a")), .delete (.ofNat 1) 5, .create (.ofNat 2) "Bar" none]

/-- The catalogue after the requests, where `p` holds of the second connector. -/
theorem exists_catalogue (p : MediaWorld → Connector → Bool)
    (hreplay : (Run.replay
      (fun (w : MediaWorld) (request : CatalogueRequest) => some (w.commit (request.serve env {} w)))
      (fun _ w request => request.Fresh w.db) SharedSlug.catalogue requests).map
      (fun r => decide (IndexesHold env r.2.db.connectors) &&
        (r.2.db.connectors.find? (.ofNat 2)).any (p r.2)) = some true) :
    ∃ tr w c, CatalogueRun env {} SharedSlug.catalogue tr w ∧ IndexesHold env w.db.connectors ∧
      w.db.connectors.find? c.id = some c ∧ p w c = true := by
  obtain ⟨tr, w, hrun, hcheck⟩ := Run.exists_of_replay hreplay
  rw [Bool.and_eq_true, decide_eq_true_eq] at hcheck
  obtain ⟨hholds, hcheck⟩ := hcheck
  obtain ⟨c, hc, hp⟩ := (Option.any_eq_true _ _).mp hcheck
  refine ⟨tr, w, c, hrun, hholds, ?_, hp⟩
  rw [show c.id = .ofNat 2 from (Table.find?_some hc).2]
  exact hc

def uploadRefused (w : MediaWorld) (c : Connector) : Bool :=
  refusedByIndex (saveConnectorLogo env {} w.db w.storage c (SharedSlug.svg "a")).2

/-- The image of the deleted connector passes the check and is refused by the index. -/
theorem refused_after_check :
    ∃ tr w c, CatalogueRun env {} SharedSlug.catalogue tr w ∧ IndexesHold env w.db.connectors ∧
    w.db.connectors.find? c.id = some c ∧
    ¬ CheckedOrServed env w.storage
      ((HashCall.upload c (SharedSlug.svg "a")).serve env {} w.db w.storage) := by
  obtain ⟨tr, w, c, hrun, hholds, hc, hout⟩ := exists_catalogue uploadRefused (by decide)
  refine ⟨tr, w, c, hrun, hholds, hc, ?_⟩
  have hrefused : ((HashCall.upload c (SharedSlug.svg "a")).serve env {} w.db w.storage).2 = _ :=
    refusedByIndex_iff.mp hout
  rintro (⟨_, status, detail, hrejected⟩ | ⟨db', hok, _⟩)
  · rw [hrefused] at hrejected
    cases hrejected
  · rw [hrefused] at hok
    cases hok

def imageUnused (w : MediaWorld) (_ : Connector) : Bool :=
  w.db.connectors.rows.all fun c => c.logoSha256 != some (env.sha256 (SharedSlug.svg "b").data)

/-- Another image is accepted. -/
theorem other_image_served : ∃ tr w c, CatalogueRun env {} SharedSlug.catalogue tr w ∧
    CheckedOrServed env w.storage ((HashCall.upload c (SharedSlug.svg "b")).serve env {} w.db w.storage) := by
  obtain ⟨tr, w, c, hrun, hholds, hc, hunused⟩ := exists_catalogue imageUnused (by decide)
  refine ⟨tr, w, c, hrun, (hash_check_complete_iff rfl hholds (.upload c (SharedSlug.svg "b")) hc).mpr ?_⟩
  intro _ x hx _ _
  simpa using List.all_eq_true.mp hunused x hx

end DeletedLogo

end RatingLift
