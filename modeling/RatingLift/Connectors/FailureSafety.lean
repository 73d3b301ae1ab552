import RatingLift.Connectors.LogoFailures

/-!
# What a failed logo operation loses

When one step of a request fails, the rows that had a logo should still have one.  What is deleted or moved
before the failure is not brought back by the rollback.

* (`failureSafe_iff`) every logo still resolves exactly when the request is `Spared`: nothing that a row names
  is deleted or moved before the step that fails;
* (`LostLogo.renamed_points_nowhere`) a rename whose move failed silently commits the URL of a file that is
  not there.
-/

namespace RatingLift

open Library Logos Fallible

/-- The logo URL of the connector is internal and names the key. -/
def NamesKey (backend : Backend) (c : Connector) (key : String) : Prop :=
  c.logoUrl.bind backend.keyFromUrl = some key

/-- The row has an internal logo URL, and the object that it names is stored. -/
def Resolves (storage : Storage) (c : Connector) : Prop :=
  ∃ key, NamesKey storage.backend c key ∧ (storage.get key).isSome = true

/-- Every internal logo URL names a stored object. -/
def EveryLogoResolves (w : MediaWorld) : Prop :=
  ∀ c ∈ w.db.connectors, ∀ key, NamesKey w.storage.backend c key → (w.storage.get key).isSome = true

/-- Some row names the key. -/
def Named (db : Db) (backend : Backend) (key : String) : Prop := ∃ c ∈ db.connectors, NamesKey backend c key

def LogoRequest.isUpdate : LogoRequest → Bool
  | .update _ _ _ _ => true
  | _ => false

/-- A row that had a logo has one, unless the request cleared it; and an update that moved nothing leaves the
URLs. -/
structure FailureSafe (w w' : MediaWorld) (request : LogoRequest) : Prop where
  resolves : ∀ c ∈ w.db.connectors, Resolves w.storage c →
    ∃ c' ∈ w'.db.connectors, c'.id = c.id ∧
      (Resolves w'.storage c' ∨ (request = .clearLogo c.id ∧ c'.logoUrl = none))
  untouched : request.isUpdate = true → w'.storage = w.storage →
    ∀ c ∈ w.db.connectors, ∀ c' ∈ w'.db.connectors, c'.id = c.id → c'.logoUrl = c.logoUrl

section

variable (env : ConnectorEnv) (settings : Settings)

/-- An upload fails before it deletes the logo of a row.  A silent failure spares a file that was to be
deleted. -/
def UploadSpared (db : Db) (storage : Storage) (row : Connector) (logo : CheckedLogo) : Fault → Prop
  | .storage _ true => True
  | .storage n false =>
    (deletedLogo db row storage.backend = none ∨ n = 0) ∧
      ∀ key ∈ (purgedSiblings db storage row logo.slug (logo.slug ++ "." ++ logo.ext)).take (n - 1),
        ¬ Named db storage.backend key
  | .commit =>
    (∀ key, deletedLogo db row storage.backend = some key → key = logoKey logo.slug logo.ext) ∧
      ∀ key ∈ purgedSiblings db storage row logo.slug (logo.slug ++ "." ++ logo.ext),
      ¬ Named db storage.backend key

/-- An update moves no logo, or the move raises. -/
def UpdateSpared (db : Db) (storage : Storage) (row : Connector) (name : Option String)
    (fault : Fault) : Prop :=
  (∃ n, fault = .storage n false) ∨
    ∀ newName, name.map Py.strip = some newName → newName ≠ row.name →
      assertUniqueName env db newName (some row.id) = .ok () →
      renameTarget env storage { row with name := newName } = none

/-- The step that fails comes before anything that a row names was deleted or moved. -/
def Spared (w : MediaWorld) (fault : Fault) : LogoRequest → Prop
  | .create id name file =>
    ∀ row db f logo, createConnector env w.db id name none = .ok (row, db) → attachedFile file = some f →
      checkLogo env settings db row f = .ok logo → UploadSpared db w.storage row logo fault
  | .saveLogo id file =>
    ∀ row logo, w.db.connectors.find? id = some row → checkLogo env settings w.db row file = .ok logo →
      UploadSpared w.db w.storage row logo fault
  | .clearLogo id =>
    ∀ row, w.db.connectors.find? id = some row → fault = .commit →
    deletedLogo w.db row w.storage.backend = none
  | .update id name _ _ =>
    ∀ row, w.db.connectors.find? id = some row → UpdateSpared env w.db w.storage row name fault
  | _ => True

end

/-! ### Objects that a row of calls leaves -/

namespace StorageCall

/-- The key whose object is gone after the call. -/
def removes : StorageCall → Option String
  | .delete key => some key
  | .move src _ => some src
  | _ => none

variable {storage : Storage} {k : String}

/-- An object stays where no call removes it. -/
theorem isSome_get_applyAll {calls : List StorageCall} (h : (storage.get k).isSome = true)
    (hcalls : ∀ c ∈ calls, c.removes ≠ some k) : ((applyAll storage calls).get k).isSome = true := by
  induction calls generalizing storage with
  | nil => exact h
  | cons c calls ih =>
    refine ih ?_ fun c' hc' => hcalls c' (List.mem_cons_of_mem c hc')
    have hc := hcalls c List.mem_cons_self
    cases c with
    | delete key =>
      have hne : k ≠ key := fun heq => hc (by rw [heq]; rfl)
      rw [apply, Storage.get_delete, if_neg hne]
      exact h
    | listPrefix start => exact h
    | save key data contentType =>
      rw [apply, Storage.get_save]
      split
      · rfl
      · exact h
    | move src dst =>
      have hne : k ≠ src := fun heq => hc (by rw [heq]; rfl)
      cases hsrc : storage.get src with
      | none => rwa [apply, Storage.move, hsrc]
      | some data =>
        by_cases hsame : src = dst
        · rw [apply, Storage.move, hsrc]
          simpa [hsame] using h
        · rw [apply, Storage.get_move hsrc hsame, if_neg hne]
          split
          · rfl
          · exact h

/-- What deletions have removed, and listings have not touched, is gone. -/
theorem get_applyAll_eq_none {calls : List StorageCall} (h : storage.get k = none)
    (hcalls : ∀ c ∈ calls, (∃ key, c = .delete key) ∨ ∃ start, c = .listPrefix start) :
    (applyAll storage calls).get k = none := by
  induction calls generalizing storage with
  | nil => exact h
  | cons c calls ih =>
    refine ih ?_ fun c' hc' => hcalls c' (List.mem_cons_of_mem c hc')
    rcases hcalls c List.mem_cons_self with ⟨key, rfl⟩ | ⟨start, rfl⟩
    · rw [apply, Storage.get_delete]
      split
      · rfl
      · exact h
    · exact h

end StorageCall

section

variable {env : ConnectorEnv} {settings : Settings} {w : MediaWorld} {fault : Fault}

/-- A request that failed although no storage call raised has failed silently, and is committed. -/
theorem finish_failed {a : Attempt} {flushed : Except Exn Db} {n : Nat} {silent : Bool}
    (hraised : a.raised = false) (h : (w.finish (some (.storage n silent)) (a, flushed)).2 = true) :
    ∃ db, a.due = none ∧ flushed = .ok db ∧
      (w.finish (some (.storage n silent)) (a, flushed)).1 = ⟨db, a.storage⟩ := by
  unfold MediaWorld.finish at h ⊢
  dsimp only at h ⊢
  rw [hraised] at h ⊢
  cases flushed with
  | error e => cases h
  | ok db =>
    have hdue : a.due = none := by simpa using h
    exact ⟨db, hdue, rfl, rfl⟩

/-- Where the rows are kept, the request was safe exactly when the named objects are. -/
theorem failureSafe_of_rolledBack (hall : EveryLogoResolves w) {storage : Storage}
    (hbackend : storage.backend = w.storage.backend) (request : LogoRequest) :
    FailureSafe w ⟨w.db, storage⟩ request ↔
      ∀ key, Named w.db w.storage.backend key → (storage.get key).isSome = true := by
  constructor
  · rintro hsafe key ⟨c, hc, hnames⟩
    obtain ⟨c', hc', hid, hkept⟩ := hsafe.resolves c hc ⟨key, hnames, hall c hc key hnames⟩
    obtain rfl : c' = c := Table.eq_of_key_eq hc' hc hid
    rcases hkept with ⟨key', hnames', hstored⟩ | ⟨_, hnone⟩
    · rw [hbackend] at hnames'
      obtain rfl : key = key' := Option.some.inj (hnames.symm.trans hnames')
      exact hstored
    · simp [NamesKey, hnone] at hnames
  · intro hkept
    refine ⟨?_, ?_⟩
    · rintro c hc ⟨key, hnames, _⟩
      refine ⟨c, hc, rfl, Or.inl ⟨key, ?_, hkept key ⟨c, hc, hnames⟩⟩⟩
      rw [hbackend]
      exact hnames
    · intro _ _ c hc c' hc' hid
      rw [Table.eq_of_key_eq hc' hc hid]

theorem failureSafe_self (hall : EveryLogoResolves w) (request : LogoRequest) : FailureSafe w w request := by
  rw [show w = ⟨w.db, w.storage⟩ from rfl, failureSafe_of_rolledBack hall rfl]
  rintro key ⟨c, hc, hnames⟩
  exact hall c hc key hnames

/-! ### Uploads -/

/-- The rows are those committed and the one that an upload is on, which is committed too or has no logo. -/
structure UploadRow (w : MediaWorld) (db : Db) (row : Connector) : Prop where
  rows : ∀ c, c ∈ db.connectors ↔ c ∈ w.db.connectors ∨ c = row
  own : row ∈ w.db.connectors ∨ row.logoUrl = none

section

variable {db : Db} {row : Connector} {logo : CheckedLogo} {file : UploadFile}

theorem mem_purgedSiblings_of_delete {storage : Storage} {slug keep key k : String} :
    key ∈ purgedSiblings db (storage.delete k) row slug keep ↔
      key ∈ purgedSiblings db storage row slug keep ∧ key ≠ k := by
  have hkeys :
      ((storage.delete k).objects.rows.map (·.key)) = (storage.objects.rows.map (·.key)).filter (· ≠ k) := by
    show (storage.objects.rows.filter _).map _ = _
    rw [List.filter_map]
    congr 1
    apply List.filter_congr
    intro x _
    simp [Keyed.key]
  unfold purgedSiblings Storage.listPrefix
  rw [hkeys, Storage.delete_backend]
  cases storage.backend <;> simp only [List.mem_filter] <;> grind

/-- The calls of an upload that deletes no logo first. -/
theorem calls_of_none (logo : CheckedLogo) (file : UploadFile) {storage : Storage}
    (hnone : deletedLogo db row storage.backend = none) :
    logo.calls db storage row file = .listPrefix (siblingStart logo.slug) ::
      ((purgedSiblings db storage row logo.slug (logo.slug ++ "." ++ logo.ext)).map .delete ++
        [logo.saveCall file]) := by
  unfold CheckedLogo.calls purgeCalls
  simp [deleteCalls, hnone]

/-- The calls of an upload that deletes a logo first. -/
theorem calls_of_some (logo : CheckedLogo) (file : UploadFile) {storage : Storage} {key : String}
    (hsome : deletedLogo db row storage.backend = some key) :
    logo.calls db storage row file = .delete key :: .listPrefix (siblingStart logo.slug) ::
      ((purgedSiblings db (storage.delete key) row logo.slug (logo.slug ++ "." ++ logo.ext)).map .delete ++
        [logo.saveCall file]) := by
  unfold CheckedLogo.calls purgeCalls
  simp [deleteCalls, hsome, StorageCall.apply]

namespace UploadRow

theorem of_mem (hmem : row ∈ w.db.connectors) : UploadRow w w.db row := by
  refine ⟨fun c => ⟨Or.inl, ?_⟩, Or.inl hmem⟩
  rintro (hc | rfl)
  · exact hc
  · exact hmem

theorem named_iff (hrow : UploadRow w db row) {backend : Backend} {key : String} :
    Named db backend key ↔ Named w.db backend key := by
  constructor
  · rintro ⟨c, hc, hnames⟩
    rcases (hrow.rows c).mp hc with hc | rfl
    · exact ⟨c, hc, hnames⟩
    · rcases hrow.own with hc | hnone
      · exact ⟨c, hc, hnames⟩
      · simp [NamesKey, hnone] at hnames
  · rintro ⟨c, hc, hnames⟩
    exact ⟨c, (hrow.rows c).mpr (Or.inl hc), hnames⟩

/-- The logo that an upload deletes first is the one of its row. -/
theorem named_of_deletedLogo (hrow : UploadRow w db row) {backend : Backend} {key : String}
    (h : deletedLogo db row backend = some key) : Named db backend key := by
  unfold deletedLogo at h
  split at h
  · cases h
  obtain ⟨url, hurl, hkey⟩ := Option.bind_eq_some_iff.mp h
  obtain ⟨hurl, _⟩ := Option.filter_eq_some_iff.mp hurl
  refine ⟨row, (hrow.rows row).mpr (Or.inr rfl), ?_⟩
  rw [NamesKey, hurl]
  exact hkey

/-- An upload that raises leaves every named object exactly when it is spared. -/
theorem kept_iff_of_raised (hrow : UploadRow w db row) (hall : EveryLogoResolves w) {n : Nat}
    (hn : n < (logo.calls db w.storage row file).length) :
    (∀ key, Named db w.storage.backend key →
        ((StorageCall.applyAll w.storage
          ((logo.calls db w.storage row file).take n)).get key).isSome = true) ↔
      UploadSpared db w.storage row logo (.storage n false) := by
  have hstored : ∀ key, Named db w.storage.backend key → (w.storage.get key).isSome = true := by
    intro key hkey
    obtain ⟨c, hc, hnames⟩ := hrow.named_iff.mp hkey
    exact hall c hc key hnames
  unfold UploadSpared
  cases n with
  | zero => simpa using hstored
  | succ n =>
    cases hdeleted : deletedLogo db row w.storage.backend with
    | none =>
      -- the listing comes first, then the deletions of the siblings
      have hcalls := calls_of_none logo file hdeleted
      have hle : n ≤ (purgedSiblings db w.storage row logo.slug (logo.slug ++ "." ++ logo.ext)).length := by
        rw [hcalls] at hn
        simp only [List.length_cons, List.length_append, List.length_map, List.length_nil] at hn
        omega
      have htake : (logo.calls db w.storage row file).take (n + 1) = .listPrefix (siblingStart logo.slug) ::
          ((purgedSiblings db w.storage row logo.slug (logo.slug ++ "." ++ logo.ext)).take n).map
            .delete := by
        rw [hcalls, List.take_succ_cons, List.take_append_of_le_length (by simpa using hle), List.map_take]
      rw [htake, StorageCall.applyAll_cons]
      simp only [StorageCall.apply, StorageCall.get_applyAll_delete, Nat.add_sub_cancel, true_or, true_and]
      constructor
      · intro hkept key hkey hnamed
        have hlost := hkept key hnamed
        rw [if_pos hkey] at hlost
        cases hlost
      · intro hspared key hnamed
        rw [if_neg fun hkey => hspared key hkey hnamed]
        exact hstored key hnamed
    | some key =>
      -- the logo of the row is deleted, and nothing is stored afterwards
      have hcalls := calls_of_some logo file hdeleted
      have hlost :
          ((StorageCall.applyAll w.storage ((logo.calls db w.storage row file).take (n + 1))).get
            key) = none := by
        rw [hcalls, List.take_succ_cons, StorageCall.applyAll_cons]
        refine StorageCall.get_applyAll_eq_none ?_ ?_
        · rw [StorageCall.apply, Storage.get_delete, if_pos rfl]
        · intro c hc
          rw [hcalls] at hn
          cases n with
          | zero => cases hc
          | succ n =>
            rw [List.take_succ_cons] at hc
            rw [List.take_append_of_le_length (Nat.le_of_lt_succ (by simpa using hn))] at hc
            rcases List.mem_cons.mp hc with rfl | hc
            · exact Or.inr ⟨_, rfl⟩
            · obtain ⟨key', _, rfl⟩ := List.mem_map.mp (List.mem_of_mem_take hc)
              exact Or.inl ⟨key', rfl⟩
      constructor
      · intro hkept
        have := hkept key (hrow.named_of_deletedLogo hdeleted)
        rw [hlost] at this
        cases this
      · rintro ⟨hfirst, _⟩
        rcases hfirst with hfirst | hfirst <;> cases hfirst

/-- The key of an upload is none of the siblings that it deletes. -/
theorem logoKey_not_purged {storage : Storage} :
    logoKey logo.slug logo.ext ∉ purgedSiblings db storage row logo.slug (logo.slug ++ "." ++ logo.ext) := by
  intro h
  have hpurges := (List.mem_filter.mp h).2
  have hkey : logoKey logo.slug logo.ext = "connectors/" ++ (logo.slug ++ "." ++ logo.ext) := by
    simp [logoKey, String.append_assoc]
  simp [purges, hkey] at hpurges

/-- The objects after all calls of an upload. -/
theorem get_applyAll_calls {storage : Storage} (k : String) :
    (StorageCall.applyAll storage (logo.calls db storage row file)).get k =
      if k = logoKey logo.slug logo.ext then some file.data
      else if deletedLogo db row storage.backend = some k ∨
        k ∈ purgedSiblings db storage row logo.slug (logo.slug ++ "." ++ logo.ext) then none
      else storage.get k := by
  cases hdeleted : deletedLogo db row storage.backend with
  | none =>
    rw [calls_of_none _ _ hdeleted, StorageCall.applyAll_cons, StorageCall.applyAll_append]
    simp only [StorageCall.apply, StorageCall.applyAll_cons, StorageCall.applyAll_nil, CheckedLogo.saveCall,
      Storage.get_save, StorageCall.get_applyAll_delete, reduceCtorEq, false_or]
  | some key =>
    rw [calls_of_some _ _ hdeleted, StorageCall.applyAll_cons, StorageCall.applyAll_cons,
      StorageCall.applyAll_append]
    simp only [StorageCall.apply, StorageCall.applyAll_cons, StorageCall.applyAll_nil, CheckedLogo.saveCall,
      Storage.get_save, StorageCall.get_applyAll_delete, mem_purgedSiblings_of_delete, Storage.get_delete,
        Option.some_inj]
    split
    · rfl
    · by_cases hk : k = key
      · simp [hk]
      · simp [hk, Ne.symm hk]

/-- An upload whose commit fails leaves every named object exactly when it is spared. -/
theorem kept_iff_of_uncommitted (hrow : UploadRow w db row) (hall : EveryLogoResolves w) :
    (∀ key, Named db w.storage.backend key →
        ((StorageCall.applyAll w.storage (logo.calls db w.storage row file)).get key).isSome = true) ↔
      UploadSpared db w.storage row logo .commit := by
  simp only [get_applyAll_calls]
  constructor
  · intro hkept
    refine ⟨?_, ?_⟩
    · intro key hdeleted
      by_contra hne
      have hlost := hkept key (hrow.named_of_deletedLogo hdeleted)
      rw [if_neg hne, if_pos (Or.inl hdeleted)] at hlost
      cases hlost
    · intro key hkey hnamed
      have hne : key ≠ logoKey logo.slug logo.ext := fun heq => logoKey_not_purged (heq ▸ hkey)
      have hlost := hkept key hnamed
      rw [if_neg hne, if_pos (Or.inr hkey)] at hlost
      cases hlost
  · rintro ⟨hdeleted, hsiblings⟩ key hnamed
    split
    · rfl
    · rename_i hne
      rw [if_neg fun hlost => hlost.elim (fun h => hne (hdeleted key h)) fun h => hsiblings key h hnamed]
      obtain ⟨c, hc, hnames⟩ := hrow.named_iff.mp hnamed
      exact hall c hc key hnames

end UploadRow

/-! ### Silent failures -/

/-- On the local backend the logo URL of a row determines its key and back. -/
theorem logoUrl_of_namesKey {urlPrefix key : String} {c : Connector}
    (h : NamesKey (.localFiles urlPrefix) c key) :
    c.logoUrl = some (urlPrefix ++ "/" ++ key) := by
  obtain ⟨url, hurl, hkey⟩ := Option.bind_eq_some_iff.mp h
  rw [hurl, Py.dropPrefix?_eq_some.mp hkey]

/-- On the local backend no call of an upload removes the logo of another row. -/
theorem removes_ne_of_other {storage : Storage} {urlPrefix : String}
    (hlocal : storage.backend = .localFiles urlPrefix) {c : Connector} (hc : c ∈ db.connectors)
    (hne : c.id ≠ row.id) {key : String} (hnames : NamesKey storage.backend c key) (slug keep : String) :
    (∀ call ∈ deleteCalls db storage row, call.removes ≠ some key) ∧
      ∀ storage' : Storage, storage'.backend = storage.backend →
        ∀ call ∈ purgeCalls db storage' row slug keep, call.removes ≠ some key := by
  rw [hlocal] at hnames
  have hurl := logoUrl_of_namesKey hnames
  have hempty : urlPrefix ++ "/" ++ key ≠ "" := by
    intro h
    have := congrArg (fun s : String => s.toList.length) h
    simp at this
  constructor
  · intro call hcall hremoves
    obtain ⟨key', hkey', rfl⟩ := List.mem_map.mp hcall
    obtain rfl : key' = key := Option.some.inj hremoves
    have hdeleted := Option.mem_toList.mp hkey'
    unfold deletedLogo at hdeleted
    split at hdeleted
    · cases hdeleted
    · rename_i href
      obtain ⟨url, hrow, hread⟩ := Option.bind_eq_some_iff.mp hdeleted
      obtain ⟨hrow, _⟩ := Option.filter_eq_some_iff.mp hrow
      have hread : Py.dropPrefix? url (urlPrefix ++ "/") = some key' := by rw [hlocal] at hread; exact hread
      rw [hrow, Py.dropPrefix?_eq_some.mp hread] at href
      exact href (isLogoReferencedByOthers_of_url hc hne hurl hempty _)
  · intro storage' hbackend call hcall hremoves
    rcases List.mem_cons.mp hcall with rfl | hcall
    · cases hremoves
    obtain ⟨key', hkey', rfl⟩ := List.mem_map.mp hcall
    obtain rfl : key' = key := Option.some.inj hremoves
    obtain ⟨hlisted, hpurges⟩ := List.mem_filter.mp hkey'
    -- a listed key has no leading slash, so that its URL is the one of the row
    have hplain : Py.lstripChar key' '/' = key' := by
      apply Py.lstripChar_eq_self
      unfold Storage.listPrefix at hlisted
      rw [hbackend, hlocal] at hlisted
      obtain ⟨_, hstart⟩ := List.mem_filter.mp hlisted
      obtain ⟨rest, hrest, _⟩ := (Option.any_eq_true _ _).mp hstart
      rw [Py.dropPrefix?_eq_some.mp hrest]
      simp [siblingStart]
    have href := isLogoReferencedByOthers_of_url hc hne hurl hempty none
    rw [hbackend, hlocal] at hpurges
    simp [purges, Backend.urlFor, hplain, href] at hpurges

theorem exists_localFiles {c : StorageCall} {backend : Backend} (h : c.swallowsErrors backend = true) :
    ∃ urlPrefix, backend = .localFiles urlPrefix := by
  cases backend with
  | localFiles urlPrefix => exact ⟨urlPrefix, rfl⟩
  | s3 urlBase keyPrefix => cases c <;> cases h

/-- An upload in which a call fails silently: some of the deletions are made, and the file is stored. -/
theorem upload_silent (storage : Storage) (n : Nat) (db : Db) (row : Connector) (logo : CheckedLogo)
    (file : UploadFile) :
    ∃ made made' storage' due, Attempt.upload db row logo file ⟨storage, some (n, true), false⟩ =
        ⟨(StorageCall.applyAll (StorageCall.applyAll storage made) made').save
          (logoKey logo.slug logo.ext) file.data,
          due, false⟩ ∧
      made.Sublist (deleteCalls db storage row) ∧ storage'.backend = storage.backend ∧
      made'.Sublist (purgeCalls db storage' row logo.slug (logo.slug ++ "." ++ logo.ext)) ∧
      (due = none → ∃ urlPrefix, storage.backend = .localFiles urlPrefix) := by
  obtain ⟨made, due₁, hmade, hsub, hdue₁, hswallow₁⟩ := Attempt.callAll_silent storage (some (n, true))
    (by simp) (deleteCalls db storage row)
  obtain ⟨made', due₂, hmade', hsub', hdue₂, hswallow₂⟩ := Attempt.callAll_silent
    (StorageCall.applyAll storage made) due₁ hdue₁
    (purgeCalls db (StorageCall.applyAll storage made) row logo.slug (logo.slug ++ "." ++ logo.ext))
  have hsave : ∀ storage', Attempt.callAll ⟨storage', due₂, false⟩ [logo.saveCall file] =
      ⟨storage'.save (logoKey logo.slug logo.ext) file.data, due₂, false⟩ ∨
        ∃ m, due₂ = some (m + 1, true) ∧ Attempt.callAll ⟨storage', due₂, false⟩ [logo.saveCall file] =
          ⟨storage'.save (logoKey logo.slug logo.ext) file.data, some (m, true), false⟩ := by
    intro storage'
    rcases due₂ with _ | ⟨m, silent⟩
    · exact Or.inl rfl
    · obtain rfl : silent = true := hdue₂ _ rfl
      cases m with
      | zero => exact Or.inl rfl
      | succ m => exact Or.inr ⟨m, rfl, rfl⟩
  have hlocal : due₂ = none → ∃ urlPrefix, storage.backend = .localFiles urlPrefix := by
    intro hnone
    by_cases hdue : due₁ = none
    · obtain ⟨c, _, hc⟩ := hswallow₁ (by simp) hdue
      exact exists_localFiles hc
    · obtain ⟨c, _, hc⟩ := hswallow₂ hdue hnone
      rw [StorageCall.applyAll_backend] at hc
      exact exists_localFiles hc
  have hupload : Attempt.upload db row logo file ⟨storage, some (n, true), false⟩ = Attempt.callAll
      ⟨StorageCall.applyAll (StorageCall.applyAll storage made) made', due₂, false⟩ [logo.saveCall file] := by
    unfold Attempt.upload
    dsimp only
    rw [hmade, hmade']
  rcases hsave (StorageCall.applyAll (StorageCall.applyAll storage made) made') with hsave | ⟨m, _, hsave⟩
  · exact ⟨made, made', _, due₂, hupload.trans hsave, hsub, by simp, hsub', hlocal⟩
  · exact ⟨made, made', _, some (m, true), hupload.trans hsave, hsub, by simp, hsub', by simp⟩

/-- The rows after a flush: the others as they were, and the one that was written. -/
theorem rows_of_flush {db' : Db} {row' : Connector} (h : flushConnector env db row' = .ok db')
    (hrow : row ∈ db.connectors) (hid : row'.id = row.id) :
    row' ∈ db'.connectors ∧ ∀ c ∈ db.connectors, c.id ≠ row.id → c ∈ db'.connectors := by
  obtain ⟨_, _, rfl⟩ := flushConnector_ok h
  refine ⟨Table.mem_update.mpr (Or.inl ⟨rfl, row, hrow, hid.symm⟩), ?_⟩
  intro c hc hne
  exact Table.mem_update.mpr (Or.inr ⟨hc, fun heq => hne (heq.trans hid)⟩)

/-- An upload one storage call of which failed silently has lost nothing. -/
theorem UploadRow.failureSafe_of_silent (hrow : UploadRow w db row) {n : Nat} {db' : Db}
    (hdue : (Attempt.upload db row logo file ⟨w.storage, some (n, true), false⟩).due = none)
    (hflush : flushConnector env db (logo.row w.storage row) = .ok db') {request : LogoRequest}
    (hrequest : request.isUpdate = false) :
    FailureSafe w ⟨db', (Attempt.upload db row logo file ⟨w.storage, some (n, true), false⟩).storage⟩
      request := by
  obtain ⟨made, made', storage', due, hupload, hsub, hbackend, hsub', hlocal⟩ :=
    upload_silent w.storage n db row logo file
  rw [hupload] at hdue ⊢
  obtain ⟨urlPrefix, hlocal⟩ := hlocal hdue
  have hmem : row ∈ db.connectors := (hrow.rows row).mpr (Or.inr rfl)
  obtain ⟨hwritten, hothers⟩ := rows_of_flush hflush hmem rfl
  refine ⟨?_, fun hupdate => by rw [hrequest] at hupdate; cases hupdate⟩
  rintro c hc ⟨key, hnames, hstored⟩
  have hc' : c ∈ db.connectors := (hrow.rows c).mpr (Or.inl hc)
  by_cases hid : c.id = row.id
  · -- the row of the upload
    refine ⟨_, hwritten, hid.symm, Or.inl ⟨logoKey logo.slug logo.ext, ?_, ?_⟩⟩
    · show NamesKey (Storage.save _ _ _).backend _ _
      simp only [Storage.save_backend, StorageCall.applyAll_backend]
      exact w.storage.backend.keyFromUrl_urlFor (logoKey_plain _ _)
    · rw [Storage.get_save, if_pos rfl]
      rfl
  · obtain ⟨hdeletes, hpurges⟩ :=
      removes_ne_of_other hlocal hc' hid hnames logo.slug (logo.slug ++ "." ++ logo.ext)
    refine ⟨c, hothers c hc' hid, rfl, Or.inl ⟨key, ?_, ?_⟩⟩
    · simp only [Storage.save_backend, StorageCall.applyAll_backend]
      exact hnames
    · rw [Storage.get_save]
      split
      · rfl
      · refine StorageCall.isSome_get_applyAll (StorageCall.isSome_get_applyAll hstored ?_) ?_
        · exact fun call hcall => hdeletes call (hsub.subset hcall)
        · exact fun call hcall => hpurges storage' hbackend call (hsub'.subset hcall)

/-- An upload one step of which failed has lost nothing exactly when it is spared. -/
theorem UploadRow.upload_failureSafe_iff (hrow : UploadRow w db row) (hall : EveryLogoResolves w)
    (hcheck : checkLogo env settings db row file = .ok logo) {request : LogoRequest}
    (hrequest : request.isUpdate = false)
    (hfailed :
      (w.finish (some fault)
        (uploadAttempt env settings db row file (attemptWith (some fault) w.storage))).2 = true) :
    FailureSafe w
      (w.finish (some fault) (uploadAttempt env settings db row file (attemptWith (some fault) w.storage))).1
        request ↔
      UploadSpared db w.storage row logo fault := by
  have hattempt : uploadAttempt env settings db row file (attemptWith (some fault) w.storage) =
      (Attempt.upload db row logo file (attemptWith (some fault) w.storage),
        flushConnector env db (logo.row (attemptWith (some fault) w.storage).storage row)) := by
    unfold uploadAttempt
    rw [hcheck]
  rw [hattempt] at hfailed ⊢
  have hnamed : ∀ storage : Storage,
      (∀ key, Named w.db w.storage.backend key → (storage.get key).isSome = true) ↔
      ∀ key, Named db w.storage.backend key → (storage.get key).isSome = true := by
    intro storage
    simp only [hrow.named_iff]
  cases fault with
  | commit =>
    have hcalls : Attempt.upload db row logo file (attemptWith (some .commit) w.storage) =
        .sound (StorageCall.applyAll w.storage (logo.calls db w.storage row file)) := by
      rw [← Attempt.callAll_sound]
      exact Attempt.upload_eq_callAll none (by simp) db row logo file
    rw [hcalls]
    show FailureSafe w ⟨w.db, StorageCall.applyAll w.storage (logo.calls db w.storage row file)⟩ request ↔ _
    rw [failureSafe_of_rolledBack hall (by simp), hnamed]
    exact hrow.kept_iff_of_uncommitted hall
  | storage n silent =>
    cases silent with
    | true =>
      obtain ⟨made, made', storage', due, hupload, _⟩ := upload_silent w.storage n db row logo file
      have hraised :
          (Attempt.upload db row logo file (attemptWith (some (.storage n true)) w.storage)).raised =
            false := by
        show (Attempt.upload db row logo file ⟨w.storage, some (n, true), false⟩).raised = false
        rw [hupload]
      refine iff_of_true ?_ trivial
      obtain ⟨db', hdue, hflush, hworld⟩ := finish_failed hraised hfailed
      rw [hworld]
      exact hrow.failureSafe_of_silent hdue hflush hrequest
    | false =>
      have hcalls : Attempt.upload db row logo file (attemptWith (some (.storage n false)) w.storage) =
          Attempt.callAll ⟨w.storage, some (n, false), false⟩ (logo.calls db w.storage row file) :=
        Attempt.upload_eq_callAll _ (by simp) db row logo file
      rw [hcalls, Attempt.callAll_raises] at hfailed ⊢
      by_cases hn : n < (logo.calls db w.storage row file).length
      · rw [if_pos hn]
        show FailureSafe w
          ⟨w.db, StorageCall.applyAll w.storage ((logo.calls db w.storage row file).take n)⟩ request ↔ _
        rw [failureSafe_of_rolledBack hall (by simp), hnamed]
        exact hrow.kept_iff_of_raised hall hn
      · -- the failure was not reached
        rw [if_neg hn] at hfailed
        obtain ⟨_, hdue, _⟩ := finish_failed rfl hfailed
        cases hdue

end

/-! ### Clearing and renaming -/

section

variable {row : Connector}

/-- A request that makes no storage calls fails at its commit, if at all. -/
theorem failureSafe_of_noCalls (hall : EveryLogoResolves w) {flushed : Except Exn Db} {request : LogoRequest}
    (hfailed : (w.finish (some fault) (attemptWith (some fault) w.storage, flushed)).2 = true) :
    fault = .commit ∧
    FailureSafe w (w.finish (some fault) (attemptWith (some fault) w.storage, flushed)).1 request := by
  cases fault with
  | commit => exact ⟨rfl, failureSafe_self hall request⟩
  | storage n silent =>
    obtain ⟨_, hdue, _⟩ := finish_failed rfl hfailed
    cases hdue

/-- A clearing one step of which failed has lost nothing exactly when the commit did not fail after a
deletion. -/
theorem clear_failureSafe_iff (hall : EveryLogoResolves w) (hmem : row ∈ w.db.connectors)
    (hfailed :
      (w.finish (some fault) (LogoRequest.attempt env settings w.db row (attemptWith (some fault) w.storage)
      (.clearLogo row.id))).2 = true) :
    FailureSafe w
      (w.finish (some fault) (LogoRequest.attempt env settings w.db row (attemptWith (some fault) w.storage)
        (.clearLogo row.id))).1 (.clearLogo row.id) ↔
      (fault = .commit → deletedLogo w.db row w.storage.backend = none) := by
  have hrow := UploadRow.of_mem hmem
  have hlength : (deleteCalls w.db w.storage row).length ≤ 1 := by
    unfold deleteCalls
    cases deletedLogo w.db row w.storage.backend <;> simp
  cases fault with
  | commit =>
    have hbegin : LogoRequest.attempt env settings w.db row (attemptWith (some .commit) w.storage)
        (.clearLogo row.id) =
        (.sound (StorageCall.applyAll w.storage (deleteCalls w.db w.storage row)),
          flushConnector env w.db { row with logoUrl := none, logoSha256 := none }) := by
      rw [← Attempt.callAll_sound]
      rfl
    rw [hbegin]
    show FailureSafe w ⟨w.db, StorageCall.applyAll w.storage (deleteCalls w.db w.storage row)⟩ _ ↔ _
    rw [failureSafe_of_rolledBack hall (by simp)]
    unfold deleteCalls
    simp only [StorageCall.get_applyAll_delete, Option.mem_toList, forall_const]
    constructor
    · intro hkept
      by_contra hsome
      obtain ⟨key, hkey⟩ := Option.ne_none_iff_exists'.mp hsome
      have hlost := hkept key (hrow.named_of_deletedLogo hkey)
      rw [if_pos hkey] at hlost
      cases hlost
    · rintro hnone key ⟨c, hc, hnames⟩
      rw [hnone, if_neg (by simp)]
      exact hall c hc key hnames
  | storage n silent =>
    refine iff_of_true ?_ fun h => by cases h
    have hbegin : LogoRequest.attempt env settings w.db row (attemptWith (some (.storage n silent)) w.storage)
        (.clearLogo row.id) =
          (Attempt.callAll ⟨w.storage, some (n, silent), false⟩ (deleteCalls w.db w.storage row),
          flushConnector env w.db { row with logoUrl := none, logoSha256 := none }) := rfl
    rw [hbegin] at hfailed ⊢
    cases silent with
    | false =>
      rw [Attempt.callAll_raises] at hfailed ⊢
      by_cases hn : n < (deleteCalls w.db w.storage row).length
      · rw [if_pos hn]
        obtain rfl : n = 0 := by omega
        exact failureSafe_self hall _
      · rw [if_neg hn] at hfailed
        obtain ⟨_, hdue, _⟩ := finish_failed rfl hfailed
        cases hdue
    | true =>
      obtain ⟨made, due, hmade, hsub, _, hswallow⟩ := Attempt.callAll_silent w.storage (some (n, true))
        (by simp) (deleteCalls w.db w.storage row)
      rw [hmade] at hfailed ⊢
      obtain ⟨db', hdue, hflush, hworld⟩ := finish_failed rfl hfailed
      rw [hworld]
      obtain ⟨call, _, hcall⟩ := hswallow (by simp) hdue
      obtain ⟨urlPrefix, hlocal⟩ := exists_localFiles hcall
      obtain ⟨hwritten, hothers⟩ := rows_of_flush hflush hmem rfl
      refine ⟨?_, fun hupdate => by cases hupdate⟩
      rintro c hc ⟨key, hnames, hstored⟩
      by_cases hid : c.id = row.id
      · exact ⟨_, hwritten, hid.symm, Or.inr ⟨by rw [hid], rfl⟩⟩
      · obtain ⟨hdeletes, _⟩ := removes_ne_of_other hlocal hc hid hnames "" ""
        refine ⟨c, hothers c hc hid, rfl, Or.inl ⟨key, ?_, ?_⟩⟩
        · rw [StorageCall.applyAll_backend]
          exact hnames
        · exact StorageCall.isSome_get_applyAll hstored fun call hcall => hdeletes call (hsub.subset hcall)

/-- The storage calls of an update whose name is accepted: none, or one move that comes with a new URL. -/
theorem nameCalls_cases {storage storage' : Storage} {name : Option String} {db : Db} {row' : Connector}
    (h : applyName env db storage row name = .ok (storage', row')) :
    (nameCalls env storage row name = [] ∧ ∀ newName, name.map Py.strip = some newName → newName ≠ row.name →
        renameTarget env storage { row with name := newName } = none) ∨
      ∃ newName src dst, name.map Py.strip = some newName ∧ newName ≠ row.name ∧
        assertUniqueName env db newName (some row.id) = .ok () ∧
        renameTarget env storage { row with name := newName } = some (src, dst) ∧
        nameCalls env storage row name = [.move src dst] ∧ row'.id = row.id ∧
        row'.logoUrl = some (storage.backend.urlFor dst) := by
  unfold applyName at h
  unfold nameCalls
  cases hname : name.map Py.strip with
  | none => exact Or.inl ⟨rfl, by simp⟩
  | some newName =>
    rw [hname] at h
    dsimp only at h ⊢
    by_cases hsame : newName = row.name
    · exact Or.inl ⟨if_pos hsame, fun n hn hne => absurd (Option.some.inj hn ▸ hsame) hne⟩
    rw [if_neg hsame] at h ⊢
    obtain ⟨_, hunique, h⟩ := bind_eq_ok.mp h
    have hrow := pure_eq_ok.mp h
    unfold renameCalls
    unfold renameLogoToMatchName at hrow
    cases htarget : renameTarget env storage { row with name := newName } with
    | none => exact Or.inl ⟨rfl, fun n hn _ => Option.some.inj hn ▸ htarget⟩
    | some target =>
      obtain ⟨src, dst⟩ := target
      rw [htarget] at hrow
      obtain ⟨_, rfl⟩ := Prod.mk.inj hrow
      exact Or.inr ⟨newName, src, dst, rfl, hsame, hunique, htarget, rfl, rfl, rfl⟩

/-- An update one step of which failed has lost nothing exactly when it moves no logo or the move raises. -/
theorem update_failureSafe_iff (hall : EveryLogoResolves w) (hmem : row ∈ w.db.connectors)
    {request : LogoRequest} (hrequest : request.isUpdate = true) (name : Option String)
    (isActive : Option Bool) (displayOrder : Option Nat)
    (hfailed : (w.finish (some fault) (updateAttempt env w.db row name isActive (displayOrder.map Int.ofNat)
      (attemptWith (some fault) w.storage))).2 = true) :
    FailureSafe w
      (w.finish (some fault) (updateAttempt env w.db row name isActive (displayOrder.map Int.ofNat)
        (attemptWith (some fault) w.storage))).1 request ↔
      UpdateSpared env w.db w.storage row name fault := by
  have hstorage : (attemptWith (some fault) w.storage).storage = w.storage := by cases fault <;> rfl
  unfold updateAttempt at hfailed ⊢
  rw [hstorage] at hfailed ⊢
  cases hname : applyName env w.db w.storage row name with
  | error e =>
    rw [hname] at hfailed
    refine iff_of_true (failureSafe_of_noCalls hall hfailed).2 (Or.inr ?_)
    intro newName hnew hne hunique
    simp [applyName, hnew, hne, hunique, pure, Except.pure] at hname
  | ok named =>
    obtain ⟨storage', row'⟩ := named
    rw [hname] at hfailed
    simp only [applyAttributes_eq, ok_bind] at hfailed ⊢
    rcases nameCalls_cases hname
      with ⟨hnone, htarget⟩ | ⟨newName, src, dst, hnew, hne, hunique, htarget, hcalls, hid, hurl⟩
    · rw [hnone] at hfailed ⊢
      exact iff_of_true (failureSafe_of_noCalls hall hfailed).2 (Or.inr fun n hn hne _ => htarget n hn hne)
    rw [hcalls] at hfailed ⊢
    obtain ⟨url, ext, hrowUrl, hsrc, hdst, hmoved⟩ := renameTarget_some htarget
    have hnames : NamesKey w.storage.backend row src := by
      rw [NamesKey, show row.logoUrl = some url from hrowUrl]
      exact hsrc
    have hmoves : ¬ ∀ newName', name.map Py.strip = some newName' → newName' ≠ row.name →
        assertUniqueName env w.db newName' (some row.id) = .ok () →
          renameTarget env w.storage { row with name := newName' } = none := by
      intro hspared
      rw [hspared newName hnew hne hunique] at htarget
      cases htarget
    cases fault with
    | commit =>
      -- the file was moved and the row keeps its old URL
      refine iff_of_false ?_ (fun hspared => hspared.elim (Exists.rec fun _ h => by cases h) hmoves)
      show ¬ FailureSafe w ⟨w.db, ((Attempt.sound w.storage).callAll [.move src dst]).storage⟩ request
      rw [Attempt.callAll_sound, failureSafe_of_rolledBack hall (by simp [Attempt.sound])]
      intro hkept
      have hlost := hkept src ⟨row, hmem, hnames⟩
      obtain ⟨data, hdata⟩ := Option.isSome_iff_exists.mp (hall row hmem src hnames)
      have hgone : (w.storage.move src dst).get src = none := by
        rw [Storage.get_move hdata hmoved, if_pos rfl]
      rw [show (Attempt.sound (StorageCall.applyAll w.storage [.move src dst])).storage =
        w.storage.move src dst from rfl,
        hgone] at hlost
      cases hlost
    | storage n silent =>
      have hbegin : Attempt.callAll (attemptWith (some (.storage n silent)) w.storage) [.move src dst] =
          Attempt.call ⟨w.storage, some (n, silent), false⟩ (.move src dst) := rfl
      rw [hbegin] at hfailed ⊢
      cases n with
      | succ n =>
        -- there is one call only
        obtain ⟨_, hdue, _⟩ := finish_failed rfl hfailed
        cases hdue
      | zero =>
        cases silent with
        | false => exact iff_of_true (failureSafe_self hall request) (Or.inl ⟨0, rfl⟩)
        | true =>
          refine iff_of_false ?_ (fun hspared => hspared.elim (Exists.rec fun _ h => by cases h) hmoves)
          have hraised :
              (Attempt.call ⟨w.storage, some (0, true), false⟩ (.move src dst)).raised = false := by
            rw [Attempt.call_silent]
            split <;> rfl
          obtain ⟨db', hdue, hflush, hworld⟩ := finish_failed hraised hfailed
          -- nothing was moved, and the row has the new URL
          have hsame :
              (Attempt.call ⟨w.storage, some (0, true), false⟩ (.move src dst)).storage = w.storage := by
            rw [Attempt.call_silent] at hdue ⊢
            split at hdue
            · rename_i hswallows
              rw [if_pos hswallows]
            · cases hdue
          rw [hworld, hsame]
          intro hsafe
          obtain ⟨hwritten, _⟩ := rows_of_flush hflush hmem hid
          have huntouched := hsafe.untouched hrequest rfl row hmem _ hwritten hid
          have hread := w.storage.backend.keyFromUrl_urlFor (hdst.symm ▸ logoKey_plain _ _)
          have hkey : w.storage.backend.keyFromUrl (w.storage.backend.urlFor dst) = some src := by
            rw [NamesKey, ← huntouched, show _ = some (w.storage.backend.urlFor dst) from hurl] at hnames
            exact hnames
          exact hmoved (Option.some.inj (hkey.symm.trans hread))

/-- A request on a connector that is there. -/
theorem failureSafe_onRow {request : LogoRequest} (spared : Connector → Prop)
    (out : Connector → MediaWorld × Bool) (hserve : w.serveFailing env settings (some fault) request =
      (w.db.connectors.find? request.connectorId).elim (w, false) out)
    (hfailed : (w.serveFailing env settings (some fault) request).2 = true)
    (hout : ∀ row, w.db.connectors.find? request.connectorId = some row → (out row).2 = true →
      (FailureSafe w (out row).1 request ↔ spared row)) :
    FailureSafe w (w.serveFailing env settings (some fault) request).1 request ↔
      ∀ row, w.db.connectors.find? request.connectorId = some row → spared row := by
  rw [hserve] at hfailed ⊢
  cases hfind : w.db.connectors.find? request.connectorId with
  | none =>
    rw [hfind] at hfailed
    cases hfailed
  | some row =>
    rw [hfind] at hfailed
    simpa using hout row hfind hfailed

/-- Every request but a creation looks up its connector. -/
theorem serveFailing_eq_elim (request : LogoRequest)
    (hcreate : ∀ id name file, request ≠ .create id name file) :
    w.serveFailing env settings (some fault) request =
      (w.db.connectors.find? request.connectorId).elim (w, false) fun row =>
        w.finish (some fault)
          (request.attempt env settings w.db row (attemptWith (some fault) w.storage)) := by
  unfold MediaWorld.serveFailing
  cases request with
  | create id name file => exact absurd rfl (hcreate id name file)
  | saveLogo | clearLogo | update | softDelete | restore =>
    dsimp only
    split
    · next hfind => rw [hfind]; rfl
    · next hfind => rw [hfind]; rfl

/-- A request one step of which failed has lost nothing exactly when the step comes before anything that a row
names was deleted or moved. -/
theorem failureSafe_iff (hall : EveryLogoResolves w) (request : LogoRequest)
    (hfailed : (w.serveFailing env settings (some fault) request).2 = true) :
    FailureSafe w (w.serveFailing env settings (some fault) request).1 request ↔
      Spared env settings w fault request := by
  cases request with
  | create id name file =>
    unfold MediaWorld.serveFailing at hfailed ⊢
    dsimp only at hfailed ⊢
    unfold Spared
    cases hcreate : createConnector env w.db id name none with
    | error e =>
      rw [hcreate] at hfailed
      cases hfailed
    | ok created =>
      obtain ⟨row, db⟩ := created
      rw [hcreate] at hfailed
      dsimp only at hfailed ⊢
      cases hfile : attachedFile file with
      | none =>
        rw [hfile] at hfailed
        exact iff_of_true (failureSafe_of_noCalls hall hfailed).2 (by simp)
      | some f =>
        rw [hfile] at hfailed
        dsimp only at hfailed ⊢
        obtain ⟨rfl, hnone, hadd⟩ := createConnector_ok hcreate
        obtain ⟨_, hfresh, hdb⟩ := addConnector_ok hadd
        have hrow : UploadRow w db row := ⟨fun c => by rw [hdb]; exact Table.mem_insert hfresh, Or.inr hnone⟩
        cases hcheck : checkLogo env settings db row f with
        | error e =>
          unfold uploadAttempt at hfailed ⊢
          rw [hcheck] at hfailed ⊢
          refine iff_of_true (failureSafe_of_noCalls hall hfailed).2 ?_
          intro row' db' f' logo hcreate' hfile' hlogo
          obtain ⟨rfl, rfl⟩ := Prod.mk.inj (Except.ok.inj (hcreate.symm.trans hcreate'))
          obtain rfl := Option.some.inj hfile'
          rw [hcheck] at hlogo
          cases hlogo
        | ok logo =>
          rw [hrow.upload_failureSafe_iff hall hcheck rfl hfailed]
          constructor
          · intro hspared row' db' f' logo' hcreate' hfile' hlogo
            obtain ⟨rfl, rfl⟩ := Prod.mk.inj (Except.ok.inj (hcreate.symm.trans hcreate'))
            obtain rfl := Option.some.inj hfile'
            rw [hcheck] at hlogo
            rw [← Except.ok.inj hlogo]
            exact hspared
          · intro hspared
            exact hspared row db f logo hcreate rfl hcheck
  | saveLogo id file =>
    have hspared : Spared env settings w fault (.saveLogo id file) ↔
        ∀ row, w.db.connectors.find? id = some row →
        ∀ logo, checkLogo env settings w.db row file = .ok logo →
        UploadSpared w.db w.storage row logo fault :=
      ⟨fun h row hfind logo hlogo => h row logo hfind hlogo, fun h row logo hfind hlogo =>
        h row hfind logo hlogo⟩
    rw [hspared]
    refine failureSafe_onRow _ _ (serveFailing_eq_elim _ nofun) hfailed ?_
    intro row hfind hfailed
    have hmem := (Table.find?_some hfind).1
    have hrow := UploadRow.of_mem hmem
    cases hcheck : checkLogo env settings w.db row file with
    | error e =>
      unfold LogoRequest.attempt uploadAttempt at hfailed ⊢
      dsimp only at hfailed ⊢
      rw [hcheck] at hfailed ⊢
      exact iff_of_true (failureSafe_of_noCalls hall hfailed).2 (by simp)
    | ok logo =>
      rw [show (∀ logo', Except.ok logo = Except.ok logo' → UploadSpared w.db w.storage row logo' fault) ↔
        UploadSpared w.db w.storage row logo fault by simp]
      exact hrow.upload_failureSafe_iff hall hcheck rfl hfailed
  | clearLogo id =>
    refine failureSafe_onRow _ _ (serveFailing_eq_elim _ nofun) hfailed ?_
    intro row hfind hfailed
    obtain ⟨hmem, hid⟩ := Table.find?_some hfind
    obtain rfl : row.id = id := hid
    exact clear_failureSafe_iff hall hmem hfailed
  | update id name isActive displayOrder =>
    refine failureSafe_onRow _ _ (serveFailing_eq_elim _ nofun) hfailed ?_
    intro row hfind hfailed
    exact update_failureSafe_iff hall (Table.find?_some hfind).1 rfl name isActive displayOrder hfailed
  | softDelete id now =>
    unfold Spared
    rw [iff_true]
    refine (failureSafe_onRow
      (fun _ => True) _ (serveFailing_eq_elim (.softDelete id now) nofun) hfailed ?_).mpr fun _ _ => trivial
    intro row _ hfailed
    exact iff_of_true (failureSafe_of_noCalls hall hfailed).2 trivial
  | restore id =>
    unfold Spared
    rw [iff_true]
    refine (failureSafe_onRow (fun _ => True) _ (serveFailing_eq_elim (.restore id) nofun) hfailed ?_).mpr
      fun _ _ => trivial
    intro row _ hfailed
    exact iff_of_true (failureSafe_of_noCalls hall hfailed).2 trivial

end

end

/-! ### A logo that is renamed -/

theorem resolves_iff {storage : Storage} {c : Connector} :
    Resolves storage c ↔
      ((c.logoUrl.bind storage.backend.keyFromUrl).any fun key => (storage.get key).isSome) = true := by
  simp [Resolves, NamesKey, Option.any_eq_true]

instance (storage : Storage) (c : Connector) : Decidable (Resolves storage c) :=
  decidable_of_iff _ resolves_iff.symm

theorem everyLogoResolves_iff {w : MediaWorld} : EveryLogoResolves w ↔
    ∀ c ∈ w.db.connectors.rows, ((c.logoUrl.bind w.storage.backend.keyFromUrl).all fun key =>
      (w.storage.get key).isSome) = true := by
  simp only [EveryLogoResolves, NamesKey, Option.all_eq_true]
  rfl

instance (w : MediaWorld) : Decidable (EveryLogoResolves w) := decidable_of_iff _ everyLogoResolves_iff.symm

namespace LostLogo

/-- A connector with a logo. -/
def catalogue : MediaWorld :=
  SharedSlug.catalogue.serve SharedSlug.env {} (.create (.ofNat 1) "Foo" (some (SharedSlug.svg "a")))

def rename : LogoRequest := .update (.ofNat 1) (some "Bar") none none

/-- The move of the rename does nothing without saying so. -/
def renamed : MediaWorld × Bool := catalogue.serveFailing SharedSlug.env {} (some (.storage 0 true)) rename

/-- The file stays where it was, and the row points to where it was to go. -/
theorem renamed_points_nowhere :
    EveryLogoResolves catalogue ∧ renamed.2 = true ∧ ¬ FailureSafe catalogue renamed.1 rename := by
  refine ⟨by decide, by decide, ?_⟩
  intro hsafe
  have hrow : ∀ c ∈ catalogue.db.connectors.rows, Resolves catalogue.storage c := by decide
  obtain ⟨c, hc⟩ : ∃ c, c ∈ catalogue.db.connectors.rows := List.exists_mem_of_ne_nil _ (by decide)
  obtain ⟨c', hc', _, hkept⟩ := hsafe.resolves c hc (hrow c hc)
  have hlost : ∀ c' ∈ renamed.1.db.connectors.rows, ¬ Resolves renamed.1.storage c' := by decide
  rcases hkept with hkept | ⟨hclear, _⟩
  · exact hlost c' hc' hkept
  · cases hclear

/-- A rename whose move raises is rolled back. -/
theorem raised_move_is_safe : FailureSafe catalogue
    (catalogue.serveFailing SharedSlug.env {} (some (.storage 0 false)) rename).1 rename := by
  refine (failureSafe_iff (by decide) rename (by decide)).mpr ?_
  intro row _
  exact Or.inl ⟨0, rfl⟩

end LostLogo

end RatingLift
