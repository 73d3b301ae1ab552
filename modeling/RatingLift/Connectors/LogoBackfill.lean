import RatingLift.Core.StorageContract
import RatingLift.Core.StorageUrls
import RatingLift.Db.Query

/-!
# The backfill of the logos

The script that copies the logos of the local storage to S3 and rewrites their URLs.  It works out the prefix
of the local URLs and the path of a file on its own, with a `LIKE` pattern and `Path.resolve`, and not as
`LocalFilesystemStorage` does.

* (`backfillRows_rows`, `object_copies`) what the loop leaves in the table and in the bucket;
* (`backfill_preserves_iff`) the run preserves what every logo shows, and a second one changes nothing,
  exactly when the script finds the files that the local storage has (`Covered`);
* (`covered_of_plain`) it does where the URL prefix of the settings is written as the local storage writes it,
  without wildcards, and the URLs under it are those of plain keys.
-/

namespace RatingLift

open Library Py

namespace LogoBackfill

/-- What the script reads: two settings, and the attributes of the `S3Storage`. -/
structure Config where
  mediaRoot : PathParts
  mediaUrlPrefix : String
  urlBase : String
  keyPrefix : String

namespace Config

variable (cfg : Config)

/-- `legacy_prefix` -/
def legacyPrefix : String :=
  rstripChar (if cfg.mediaUrlPrefix = "" then "/media" else cfg.mediaUrlPrefix) '/' ++ "/"

/-- `local_root` -/
def localRoot : PathParts := resolve cfg.mediaRoot

/-- The backend before and after the switch. -/
def localBackend : Backend := .ofLocal cfg.mediaUrlPrefix

def s3Backend : Backend := .s3 cfg.urlBase cfg.keyPrefix

/-- `Connector.logo_url.like(f"{legacy_prefix}%")` -/
def selected (url : String) : Bool := like (cfg.legacyPrefix ++ "%").toList url.toList

/-- `row.logo_url[len(legacy_prefix):]` -/
def rel (url : String) : String := String.ofList (url.toList.drop cfg.legacyPrefix.toList.length)

variable (tree : Tree)

/-- The bytes at `src`, where that is a file below `local_root`. -/
def source (rel : String) : Option Bytes :=
  (relativeTo (resolve (divide cfg.localRoot rel)) cfg.localRoot).bind (LocalFilesystemStorage.read tree)

/-- The key and the bytes that the script saves for a URL; it selects the row and finds the file. -/
def copied (url : String) : Option (String × Bytes) :=
  if cfg.selected url then (cfg.source tree (cfg.rel url)).map fun data => (cfg.rel url, data) else none

/-- What the local storage has for a URL. -/
def localLogo (url : String) : Option Bytes :=
  (cfg.localBackend.keyFromUrl url).bind fun key =>
    (LocalFilesystemStorage.localPath key).bind (LocalFilesystemStorage.read tree)

end Config

section

variable {σ : Type} (cfg : Config) (tree : Tree) (store : ObjectStore σ)

/-- The loop over the rows, where the save after the first `fault` ones raises. -/
def backfillRows (fault : Option Nat) (moved : Nat) (t : Table Connector) (s : σ) :
    List Connector → Option (Table Connector × σ)
  | [] => some (t, s)
  | row :: rows =>
    match row.logoUrl.bind (cfg.copied tree) with
    | none => backfillRows fault moved t s rows
    | some (rel, data) =>
      if fault = some moved then none
      else
        backfillRows fault (moved + 1) (t.update { row with logoUrl := some (cfg.s3Backend.urlFor rel) })
          (S3Storage.save store cfg.keyPrefix s rel data) rows

/-- `main`: its result, `none` where it raises, and the table as committed. -/
def main (fault : Option Nat) (t : Table Connector) (s : σ) : Option (Nat × σ) × Table Connector :=
  match backfillRows cfg tree store fault 0 t s (t.select fun row => row.logoUrl.any cfg.selected) with
  | none => (none, t)
  | some (t', s') => (some (0, s'), t')

end

/-! ### The loop -/

section

variable {σ : Type} {cfg : Config} {tree : Tree} {store : ObjectStore σ}

/-- What the script copies for a row. -/
def Config.job (cfg : Config) (tree : Tree) (row : Connector) : Option (String × Bytes) :=
  row.logoUrl.bind (cfg.copied tree)

/-- The row after the run. -/
def Config.relogo (cfg : Config) (tree : Tree) (row : Connector) : Connector :=
  match cfg.job tree row with
  | none => row
  | some job => { row with logoUrl := some (cfg.s3Backend.urlFor job.1) }

theorem relogo_of_none {row : Connector} (h : cfg.job tree row = none) : cfg.relogo tree row = row := by
  unfold Config.relogo
  rw [h]

theorem relogo_of_some {row : Connector} {job : String × Bytes} (h : cfg.job tree row = some job) :
    cfg.relogo tree row = { row with logoUrl := some (cfg.s3Backend.urlFor job.1) } := by
  unfold Config.relogo
  rw [h]

theorem relogo_id (row : Connector) : (cfg.relogo tree row).id = row.id := by
  unfold Config.relogo
  split
  · rfl
  · rfl

/-- The bucket after the saves. -/
def copies (cfg : Config) (store : ObjectStore σ) (s : σ) (jobs : List (String × Bytes)) : σ :=
  jobs.foldl (fun s job => S3Storage.save store cfg.keyPrefix s job.1 job.2) s

theorem backfillRows_none {fault : Option Nat} {moved : Nat} {t : Table Connector} {s : σ} {row : Connector}
    {rows : List Connector} (h : cfg.job tree row = none) :
    backfillRows cfg tree store fault moved t s (row :: rows) =
      backfillRows cfg tree store fault moved t s rows := by
  unfold Config.job at h
  conv_lhs => unfold backfillRows
  rw [h]

theorem backfillRows_some {fault : Option Nat} {moved : Nat} {t : Table Connector} {s : σ} {row : Connector}
    {rows : List Connector} {job : String × Bytes} (h : cfg.job tree row = some job) :
    backfillRows cfg tree store fault moved t s (row :: rows) =
      if fault = some moved then none
      else backfillRows cfg tree store fault (moved + 1) (t.update (cfg.relogo tree row))
        (S3Storage.save store cfg.keyPrefix s job.1 job.2) rows := by
  rw [relogo_of_some h]
  unfold Config.job at h
  conv_lhs => unfold backfillRows
  rw [h]

/-- Without a fault every listed row gets its URL and every file its object. -/
theorem backfillRows_rows {rows : List Connector} (moved : Nat) (t : Table Connector) (s : σ)
    (hrows : ∀ row ∈ rows, row ∈ t) (hids : (rows.map (·.id)).Nodup) :
    ∃ t', backfillRows cfg tree store none moved t s rows =
      some (t', copies cfg store s (rows.filterMap (cfg.job tree))) ∧
      t'.rows = t.rows.map fun c => if c.id ∈ rows.map (·.id) then cfg.relogo tree c else c := by
  induction rows generalizing moved t s with
  | nil => exact ⟨t, rfl, by simp⟩
  | cons row rows ih =>
    rw [List.map_cons, List.nodup_cons] at hids
    have hrow := hrows row List.mem_cons_self
    have hlater : ∀ r ∈ rows, r ∈ t := fun r hr => hrows r (List.mem_cons_of_mem _ hr)
    cases hjob : cfg.job tree row with
    | none =>
      obtain ⟨t', hrun, ht'⟩ := ih moved t s hlater hids.2
      refine ⟨t', ?_, ?_⟩
      · rw [backfillRows_none hjob, hrun, List.filterMap_cons_none hjob]
      · rw [ht']
        refine List.map_congr_left fun c hc => ?_
        by_cases hid : c.id = row.id
        · obtain rfl : c = row := Table.eq_of_key_eq hc hrow hid
          simp [hids.1, relogo_of_none hjob]
        · simp [hid]
    | some job =>
      have hupdated : ∀ r ∈ rows, r ∈ t.update (cfg.relogo tree row) := by
        intro r hr
        refine Table.mem_update.mpr (Or.inr ⟨hlater r hr, fun hid => hids.1 ?_⟩)
        exact List.mem_map.mpr ⟨r, hr, hid.trans (relogo_id row)⟩
      obtain ⟨t', hrun, ht'⟩ := ih (moved + 1) (t.update (cfg.relogo tree row))
        (S3Storage.save store cfg.keyPrefix s job.1 job.2) hupdated hids.2
      refine ⟨t', ?_, ?_⟩
      · rw [backfillRows_some hjob, if_neg nofun, hrun, List.filterMap_cons_some hjob]
        rfl
      · rw [ht', Table.update, List.map_map]
        refine List.map_congr_left fun c hc => ?_
        rw [Function.comp_apply]
        by_cases hid : c.id = row.id
        · obtain rfl : c = row := Table.eq_of_key_eq hc hrow hid
          simp [Keyed.key, relogo_id, hids.1]
        · simp [Keyed.key, relogo_id, hid]

/-- A save that raises ends the loop. -/
theorem backfillRows_fault {rows : List Connector} {fault moved : Nat} (t : Table Connector) (s : σ)
    (hle : moved ≤ fault) (hlt : fault < moved + (rows.filterMap (cfg.job tree)).length) :
    backfillRows cfg tree store (some fault) moved t s rows = none := by
  induction rows generalizing moved t s with
  | nil =>
    simp only [List.filterMap_nil, List.length_nil] at hlt
    omega
  | cons row rows ih =>
    cases hjob : cfg.job tree row with
    | none =>
      rw [List.filterMap_cons_none hjob] at hlt
      rw [backfillRows_none hjob]
      exact ih t s hle hlt
    | some job =>
      rw [List.filterMap_cons_some hjob, List.length_cons] at hlt
      rw [backfillRows_some hjob]
      by_cases hnow : fault = moved
      · rw [if_pos (congrArg some hnow)]
      · rw [if_neg fun heq => hnow (Option.some.inj heq)]
        exact ih _ _ (by omega) (by omega)

/-- A run that does not raise is the run without a fault. -/
theorem backfillRows_of_some {rows : List Connector} {fault : Option Nat} {moved : Nat}
    {t t' : Table Connector} {s s' : σ}
    (h : backfillRows cfg tree store fault moved t s rows = some (t', s')) :
    backfillRows cfg tree store none moved t s rows = some (t', s') := by
  induction rows generalizing moved t s with
  | nil => exact h
  | cons row rows ih =>
    cases hjob : cfg.job tree row with
    | none =>
      rw [backfillRows_none hjob] at h ⊢
      exact ih h
    | some job =>
      rw [backfillRows_some hjob] at h ⊢
      rw [if_neg nofun]
      split at h
      · cases h
      · exact ih h

theorem job_of_not_selected {row : Connector} (h : row.logoUrl.any cfg.selected = false) :
    cfg.job tree row = none := by
  unfold Config.job
  cases hurl : row.logoUrl with
  | none => rfl
  | some url =>
    rw [hurl, Option.any_some] at h
    unfold Config.copied
    rw [Option.bind_some, h, if_neg nofun]

/-- What the run saves, in the order of the rows. -/
def jobs (cfg : Config) (tree : Tree) (t : Table Connector) : List (String × Bytes) :=
  t.rows.filterMap (cfg.job tree)

/-- The table after the run. -/
def migrated (cfg : Config) (tree : Tree) (t : Table Connector) : Table Connector :=
  t.map (cfg.relogo tree) relogo_id

theorem jobs_selected (t : Table Connector) :
    (t.select fun row => row.logoUrl.any cfg.selected).filterMap (cfg.job tree) = jobs cfg tree t := by
  unfold Table.select jobs
  rw [List.filterMap_filter]
  refine List.filterMap_congr fun row _ => ?_
  split
  · rfl
  · rename_i hno
    exact (job_of_not_selected (by simpa using hno)).symm

/-- The run without a fault. -/
theorem main_eq (t : Table Connector) (s : σ) :
    main cfg tree store none t s = (some (0, copies cfg store s (jobs cfg tree t)), migrated cfg tree t) := by
  have hids : ((t.select fun row => row.logoUrl.any cfg.selected).map (·.id)).Nodup :=
    t.nodup.sublist (List.filter_sublist.map _)
  have hrows : ∀ row ∈ t.select fun row => row.logoUrl.any cfg.selected, row ∈ t :=
    fun row hrow => (Table.mem_select.mp hrow).1
  obtain ⟨t', hrun, ht'⟩ :
      ∃ t', backfillRows cfg tree store none 0 t s (t.select fun row => row.logoUrl.any cfg.selected) =
        some (t', _) ∧ _ :=
    backfillRows_rows 0 t s hrows hids
  have htable : t' = migrated cfg tree t := by
    refine Table.ext (ht'.trans (List.map_congr_left fun c hc => ?_))
    by_cases hselected : c.logoUrl.any cfg.selected = true
    · exact if_pos (List.mem_map.mpr ⟨c, Table.mem_select.mpr ⟨hc, hselected⟩, rfl⟩)
    · rw [relogo_of_none (job_of_not_selected (by simpa using hselected))]
      split
      · rfl
      · rfl
  unfold main
  rw [hrun, jobs_selected, htable]

/-- A save that raises leaves the table as it was. -/
theorem main_fault {fault : Nat} (t : Table Connector) (s : σ) (h : fault < (jobs cfg tree t).length) :
    main cfg tree store (some fault) t s = (none, t) := by
  unfold main
  rw [backfillRows_fault t s (Nat.zero_le _) (by rwa [Nat.zero_add, jobs_selected])]

theorem main_of_none {fault : Option Nat} {t : Table Connector} {s : σ}
    (h : (main cfg tree store fault t s).1 = none) : (main cfg tree store fault t s).2 = t := by
  unfold main at h ⊢
  split
  · rfl
  · rename_i t' s' hrun
    rw [hrun] at h
    cases h

theorem main_of_some {fault : Option Nat} {t : Table Connector} {s : σ} {result : Nat × σ}
    (h : (main cfg tree store fault t s).1 = some result) :
    main cfg tree store fault t s =
      (some (0, copies cfg store s (jobs cfg tree t)), migrated cfg tree t) := by
  rw [← main_eq]
  unfold main at h ⊢
  cases hrun : backfillRows cfg tree store fault 0 t s (t.select fun row => row.logoUrl.any cfg.selected) with
  | none =>
    rw [hrun] at h
    cases h
  | some run =>
    obtain ⟨t', s'⟩ := run
    rw [backfillRows_of_some hrun]

/-- Where there is nothing to migrate, a run changes no row. -/
theorem main_of_migrated {fault : Option Nat} {t : Table Connector} {s : σ} (h : migrated cfg tree t = t) :
    (main cfg tree store fault t s).2 = t := by
  cases hresult : (main cfg tree store fault t s).1 with
  | none => exact main_of_none hresult
  | some result => rw [main_of_some hresult, h]

/-! ### The bucket -/

/-- The bytes of the last copy to an object. -/
def lastCopy (cfg : Config) (jobs : List (String × Bytes)) (object : String) : Option Bytes :=
  (jobs.reverse.find? fun job => Backend.full cfg.keyPrefix job.1 == object).map Prod.snd

theorem object_copies (hlaw : store.Lawful) (s : σ) (jobs : List (String × Bytes)) (object : String) :
    store.object (copies cfg store s jobs) object =
      (lastCopy cfg jobs object).or (store.object s object) := by
  induction jobs using List.reverseRecOn with
  | nil => rfl
  | append_singleton jobs job ih =>
    have hlast : store.object (copies cfg store s (jobs ++ [job])) object =
        if object = Backend.full cfg.keyPrefix job.1 then some job.2
        else store.object (copies cfg store s jobs) object := by
      unfold copies
      rw [List.foldl_append, List.foldl_cons, List.foldl_nil]
      exact hlaw.put _ _ _ _
    rw [hlast, ih]
    unfold lastCopy
    rw [List.reverse_append, List.reverse_singleton, List.singleton_append]
    by_cases hsame : object = Backend.full cfg.keyPrefix job.1
    · rw [if_pos hsame, List.find?_cons_of_pos (by simp [hsame])]
      rfl
    · rw [if_neg hsame, List.find?_cons_of_neg (by simpa using Ne.symm hsame)]

/-- A row that is copied has a copy to its object. -/
theorem lastCopy_isSome (cfg : Config) {jobs : List (String × Bytes)} {job : String × Bytes}
    (h : job ∈ jobs) :
    (lastCopy cfg jobs (Backend.full cfg.keyPrefix job.1)).isSome = true := by
  unfold lastCopy
  rw [Option.isSome_map, List.find?_isSome]
  exact ⟨job, List.mem_reverse.mpr h, by simp⟩

theorem full_lstripChar (keyPrefix key : String) :
    Backend.full keyPrefix (lstripChar key '/') = Backend.full keyPrefix key := by
  unfold Backend.full
  rw [lstripChar_eq_self (head?_lstripChar key '/')]

/-- The URL of a key is read as a key of the same object. -/
theorem keyFromUrl_urlFor_s3 (rel : String) :
    cfg.s3Backend.keyFromUrl (cfg.s3Backend.urlFor rel) = some (lstripChar rel '/') := by
  have hurl : cfg.s3Backend.urlFor rel = cfg.s3Backend.urlFor (lstripChar rel '/') := by
    unfold Config.s3Backend Backend.urlFor
    dsimp only
    rw [full_lstripChar]
  rw [hurl, Backend.keyFromUrl_urlFor _ (head?_lstripChar rel '/')]

/-! ### What the run preserves -/

/-- The table and the bucket after a run that returns: every logo of the local storage is an object of the
bucket, and another run changes no row. -/
structure Preserved (cfg : Config) (tree : Tree) (store : ObjectStore σ) (t t' : Table Connector)
    (s' : σ) : Prop where
  kept : ∀ c ∈ t, ∀ url data, c.logoUrl = some url → cfg.localLogo tree url = some data →
    ∃ url' key, { c with logoUrl := some url' } ∈ t' ∧ cfg.s3Backend.keyFromUrl url' = some key ∧
      store.object s' (Backend.full cfg.keyPrefix key) = some data
  others : ∀ c ∈ t, c.logoUrl.bind (cfg.localLogo tree) = none → c ∈ t'
  again : ∀ fault, (main cfg tree store fault t' s').2 = t'

/-- Every run of the script, with or without a fault. -/
structure Preserves (cfg : Config) (tree : Tree) (store : ObjectStore σ) (t : Table Connector)
    (s : σ) : Prop where
  returned : ∀ fault t' s', main cfg tree store fault t s = (some (0, s'), t') →
    Preserved cfg tree store t t' s'
  failed : ∀ fault, (main cfg tree store fault t s).1 = none → (main cfg tree store fault t s).2 = t

/-- The script finds the files of the table's URLs that the local storage has, and no others; where two keys
have the same object, the later row has the file of both; and it does not find a file for the URLs that it
makes. -/
structure Covered (cfg : Config) (tree : Tree) (t : Table Connector) : Prop where
  found : ∀ c ∈ t, ∀ url data, c.logoUrl = some url → cfg.localLogo tree url = some data →
    ∃ job, cfg.copied tree url = some job ∧
      lastCopy cfg (jobs cfg tree t) (Backend.full cfg.keyPrefix job.1) = some data
  others : ∀ c ∈ t, ∀ url job, c.logoUrl = some url → cfg.localLogo tree url = none →
    cfg.copied tree url = some job →
    cfg.s3Backend.urlFor job.1 = url
  settled : ∀ c ∈ t, ∀ url job job', c.logoUrl = some url → cfg.copied tree url = some job →
    cfg.copied tree (cfg.s3Backend.urlFor job.1) = some job' →
      cfg.s3Backend.urlFor job'.1 = cfg.s3Backend.urlFor job.1

variable {t : Table Connector} {s : σ}

theorem job_eq {c : Connector} {url : String} (h : c.logoUrl = some url) :
    cfg.job tree c = cfg.copied tree url := by
  unfold Config.job
  rw [h, Option.bind_some]

/-- A migrated row is the row of its id. -/
theorem eq_relogo {c c' : Connector} (hc : c ∈ t) (hc' : c' ∈ migrated cfg tree t) (hid : c'.id = c.id) :
    c' = cfg.relogo tree c :=
  Table.eq_of_key_eq hc' (List.mem_map.mpr ⟨c, hc, rfl⟩) (hid.trans (relogo_id c).symm)

/-- What the local URLs start with. -/
def Config.localSpace (cfg : Config) : String := cfg.localBackend.urlSpace

theorem head?_localSpace (cfg : Config) (key : String) : (cfg.localSpace ++ key).toList.head? = some '/' := by
  unfold Config.localSpace Config.localBackend Backend.ofLocal Backend.urlSpace
  dsimp only
  split
  · simp
  · simp

/-- A URL that starts with a slash is not below an `http` base. -/
theorem startsWith_base_eq_false (hbase : startsWith cfg.urlBase "http" = true) {url : String}
    (hhead : url.toList.head? = some '/') : startsWith url (cfg.urlBase ++ "/") = false := by
  obtain ⟨host, hhost⟩ := startsWith_iff.mp hbase
  rw [Bool.eq_false_iff]
  intro hstart
  obtain ⟨rest, rfl⟩ := startsWith_iff.mp hstart
  rw [hhost] at hhead
  simp at hhead

/-- The bucket has no key for a local URL. -/
theorem keyFromUrl_s3_of_local (hbase : startsWith cfg.urlBase "http" = true) {url : String} {data : Bytes}
    (h : cfg.localLogo tree url = some data) : cfg.s3Backend.keyFromUrl url = none := by
  obtain ⟨key, hkey, _⟩ := Option.bind_eq_some_iff.mp h
  have hhead : url.toList.head? = some '/' := by
    obtain rfl := dropPrefix?_eq_some.mp hkey
    exact head?_localSpace cfg key
  unfold Config.s3Backend Backend.keyFromUrl
  dsimp only
  rw [dropPrefix?_eq_none.mpr (startsWith_base_eq_false hbase hhead)]

/-- A row that is found again gets the URL that it has. -/
theorem relogo_relogo {c : Connector} (h : ∀ job job', cfg.job tree c = some job →
    cfg.copied tree (cfg.s3Backend.urlFor job.1) = some job' →
      cfg.s3Backend.urlFor job'.1 = cfg.s3Backend.urlFor job.1) :
    cfg.relogo tree (cfg.relogo tree c) = cfg.relogo tree c := by
  cases hjob : cfg.job tree c with
  | none => rw [relogo_of_none hjob, relogo_of_none hjob]
  | some job =>
    rw [relogo_of_some hjob]
    have hagain : cfg.job tree { c with logoUrl := some (cfg.s3Backend.urlFor job.1) } =
        cfg.copied tree (cfg.s3Backend.urlFor job.1) := job_eq rfl
    cases hjob' : cfg.copied tree (cfg.s3Backend.urlFor job.1) with
    | none => rw [relogo_of_none (hagain.trans hjob')]
    | some job' => rw [relogo_of_some (hagain.trans hjob'), h job job' hjob hjob']

theorem covered_of_preserves (hlaw : store.Lawful) (hbase : startsWith cfg.urlBase "http" = true)
    (h : Preserves cfg tree store t s) : Covered cfg tree t := by
  have hrun := h.returned none _ _ (main_eq t s)
  refine ⟨?_, ?_, ?_⟩
  · intro c hc url data hurl hlocal
    obtain ⟨url', key, hc', hkey, hobject⟩ := hrun.kept c hc url data hurl hlocal
    have hrelogo := eq_relogo hc hc' rfl
    cases hjob : cfg.copied tree url with
    | none =>
      rw [relogo_of_none ((job_eq hurl).trans hjob)] at hrelogo
      have hsame : some url' = some url := (congrArg Connector.logoUrl hrelogo).trans hurl
      rw [Option.some.inj hsame, keyFromUrl_s3_of_local hbase hlocal] at hkey
      cases hkey
    | some job =>
      rw [relogo_of_some ((job_eq hurl).trans hjob)] at hrelogo
      have hsame : some url' = some (cfg.s3Backend.urlFor job.1) := congrArg Connector.logoUrl hrelogo
      rw [Option.some.inj hsame, keyFromUrl_urlFor_s3] at hkey
      have hcopied : job ∈ jobs cfg tree t := List.mem_filterMap.mpr ⟨c, hc, (job_eq hurl).trans hjob⟩
      rw [← Option.some.inj hkey, full_lstripChar, object_copies hlaw,
        Option.or_of_isSome (lastCopy_isSome cfg hcopied)] at hobject
      exact ⟨job, rfl, hobject⟩
  · intro c hc url job hurl hlocal hjob
    have hsame := hrun.others c hc (by rw [hurl, Option.bind_some, hlocal])
    have hrelogo := eq_relogo hc hsame rfl
    rw [relogo_of_some ((job_eq hurl).trans hjob)] at hrelogo
    have hlogo := (congrArg Connector.logoUrl hrelogo).symm.trans hurl
    exact Option.some.inj hlogo
  · intro c hc url job job' hurl hjob hjob'
    have hagain := hrun.again none
    rw [main_eq] at hagain
    change migrated cfg tree (migrated cfg tree t) = migrated cfg tree t at hagain
    have hc' : cfg.relogo tree c ∈ migrated cfg tree t := List.mem_map.mpr ⟨c, hc, rfl⟩
    have hc'' : cfg.relogo tree c ∈ migrated cfg tree (migrated cfg tree t) := hagain.symm ▸ hc'
    have hrelogo := eq_relogo hc' hc'' rfl
    rw [relogo_of_some ((job_eq hurl).trans hjob), relogo_of_some ((job_eq rfl).trans hjob')] at hrelogo
    exact (Option.some.inj (congrArg Connector.logoUrl hrelogo)).symm

theorem preserves_of_covered (hlaw : store.Lawful) (h : Covered cfg tree t) :
    Preserves cfg tree store t s := by
  refine ⟨?_, fun fault => main_of_none⟩
  intro fault t' s' hmain
  have hsome : (main cfg tree store fault t s).1 = some (0, s') := by rw [hmain]
  rw [main_of_some hsome, Prod.mk.injEq, Option.some.injEq, Prod.mk.injEq] at hmain
  obtain ⟨⟨-, rfl⟩, rfl⟩ := hmain
  refine ⟨?_, ?_, ?_⟩
  · intro c hc url data hurl hlocal
    obtain ⟨job, hjob, hlast⟩ := h.found c hc url data hurl hlocal
    refine ⟨cfg.s3Backend.urlFor job.1, _, ?_, keyFromUrl_urlFor_s3 job.1, ?_⟩
    · exact List.mem_map.mpr ⟨c, hc, relogo_of_some ((job_eq hurl).trans hjob)⟩
    · rw [full_lstripChar, object_copies hlaw, hlast]
      rfl
  · intro c hc hlocal
    refine List.mem_map.mpr ⟨c, hc, ?_⟩
    cases hjob : cfg.job tree c with
    | none => exact relogo_of_none hjob
    | some job =>
      obtain ⟨url, hurl, hcopied⟩ := Option.bind_eq_some_iff.mp hjob
      rw [hurl, Option.bind_some] at hlocal
      rw [relogo_of_some hjob, h.others c hc url job hurl hlocal hcopied, ← hurl]
  · have hsettled : migrated cfg tree (migrated cfg tree t) = migrated cfg tree t := by
      refine Table.ext ((List.map_congr_left ?_).trans (List.map_id _))
      intro c' hc'
      obtain ⟨c, hc, rfl⟩ := List.mem_map.mp hc'
      refine relogo_relogo fun job job' hjob hjob' => ?_
      obtain ⟨url, hurl, hcopied⟩ := Option.bind_eq_some_iff.mp hjob
      exact h.settled c hc url job job' hurl hcopied hjob'
    exact fun fault => main_of_migrated hsettled

/-- The run preserves what every logo shows, and a second one changes nothing, exactly when the script finds
the files of the local storage. -/
theorem backfill_preserves_iff (hlaw : store.Lawful) (hbase : startsWith cfg.urlBase "http" = true)
    (t : Table Connector) (s : σ) :
    Preserves cfg tree store t s ↔ Covered cfg tree t :=
  ⟨covered_of_preserves hlaw hbase, preserves_of_covered hlaw⟩

/-! ### Plain settings -/

/-- The prefix of the settings is the one of the local URLs, without wildcards, and the local URLs are those
of plain keys. -/
structure Plain (cfg : Config) (t : Table Connector) : Prop where
  sameSpace : cfg.legacyPrefix = cfg.localSpace
  noWildcard : plainText cfg.legacyPrefix = true
  keys : ∀ c ∈ t, ∀ url, c.logoUrl = some url → startsWith url cfg.localSpace = true →
    ∃ key, PlainPath key ∧ url = cfg.localSpace ++ key

theorem Plain.selected_iff (h : Plain cfg t) (url : String) :
    cfg.selected url = startsWith url cfg.localSpace := by
  have hplain : ∀ c ∈ cfg.legacyPrefix.toList, isWildcard c = false := by simpa [plainText] using h.noWildcard
  unfold Config.selected startsWith
  rw [Bool.eq_iff_iff, String.toList_append, List.isPrefixOf_iff_prefix, ← h.sameSpace]
  exact like_prefix_iff hplain

/-- The path of a plain key is the one of the local storage. -/
theorem source_of_plain {key : String} (hkey : PlainPath key) :
    cfg.source tree key = LocalFilesystemStorage.read tree (segments key) := by
  have hself : (segments key).filter (fun part => part ≠ [] ∧ part ≠ ['.']) = segments key := by
    rw [List.filter_eq_self]
    intro part hpart
    obtain ⟨hempty, hdot, _⟩ := hkey.segment part hpart
    simp [hempty, hdot]
  have hdots : ['.', '.'] ∉ segments key := fun hmem => (hkey.segment _ hmem).2.2 rfl
  unfold Config.source divide
  rw [if_neg (head?_ne_slash_of_plain hkey), hself, resolve_append hdots, Config.localRoot, resolve_resolve,
    relativeTo_append, Option.bind_some]

theorem localLogo_of_plain {key : String} (hkey : PlainPath key) :
    cfg.localLogo tree (cfg.localSpace ++ key) = LocalFilesystemStorage.read tree (segments key) := by
  have hread : cfg.localBackend.keyFromUrl (cfg.localSpace ++ key) = some key := dropPrefix?_append _ _
  unfold Config.localLogo
  rw [hread, Option.bind_some, LocalFilesystemStorage.localPath_plain hkey, Option.bind_some]

theorem Plain.copied_eq (h : Plain cfg t) {key : String} (hkey : PlainPath key) :
    cfg.copied tree (cfg.localSpace ++ key) =
      (LocalFilesystemStorage.read tree (segments key)).map fun data => (key, data) := by
  have hselected : cfg.selected (cfg.localSpace ++ key) = true := by
    rw [h.selected_iff]
    exact startsWith_iff.mpr ⟨key, rfl⟩
  have hrel : cfg.rel (cfg.localSpace ++ key) = key := by
    unfold Config.rel
    rw [h.sameSpace, String.toList_append, List.drop_left, String.ofList_toList]
  unfold Config.copied
  rw [if_pos hselected, hrel, source_of_plain hkey]

theorem selected_of_copied {url : String} {job : String × Bytes} (h : cfg.copied tree url = some job) :
    cfg.selected url = true := by
  by_contra hno
  unfold Config.copied at h
  rw [if_neg hno] at h
  cases h

/-- What the script copies are the files of plain keys. -/
theorem Plain.of_copied (h : Plain cfg t) {c : Connector} (hc : c ∈ t) {url : String}
    (hurl : c.logoUrl = some url) {job : String × Bytes} (hcopied : cfg.copied tree url = some job) :
    PlainPath job.1 ∧ url = cfg.localSpace ++ job.1 ∧
    LocalFilesystemStorage.read tree (segments job.1) = some job.2 := by
  obtain ⟨key, hkey, rfl⟩ := h.keys c hc url hurl (h.selected_iff url ▸ selected_of_copied hcopied)
  rw [h.copied_eq hkey] at hcopied
  obtain ⟨data, hread, rfl⟩ := Option.map_eq_some_iff.mp hcopied
  exact ⟨hkey, rfl, hread⟩

theorem Plain.mem_jobs (h : Plain cfg t) {job : String × Bytes} (hjob : job ∈ jobs cfg tree t) :
    PlainPath job.1 ∧ LocalFilesystemStorage.read tree (segments job.1) = some job.2 := by
  obtain ⟨c, hc, hjob⟩ := List.mem_filterMap.mp hjob
  obtain ⟨url, hurl, hcopied⟩ := Option.bind_eq_some_iff.mp hjob
  obtain ⟨hplain, _, hfile⟩ := h.of_copied hc hurl hcopied
  exact ⟨hplain, hfile⟩

/-- The last copy to an object is of the same key, and so of the same file. -/
theorem Plain.lastCopy_eq (h : Plain cfg t) {job : String × Bytes} (hjob : job ∈ jobs cfg tree t) :
    lastCopy cfg (jobs cfg tree t) (Backend.full cfg.keyPrefix job.1) = some job.2 := by
  obtain ⟨data, hlast⟩ := Option.isSome_iff_exists.mp (lastCopy_isSome cfg hjob)
  obtain ⟨last, hfound, rfl⟩ := Option.map_eq_some_iff.mp hlast
  obtain ⟨hplain, hfile⟩ := h.mem_jobs hjob
  obtain ⟨hplain', hfile'⟩ := h.mem_jobs (List.mem_reverse.mp (List.mem_of_find?_eq_some hfound))
  have hobject : Backend.full cfg.keyPrefix last.1 = Backend.full cfg.keyPrefix job.1 := by
    simpa using List.find?_some hfound
  rw [S3Storage.full_of_plain _ hplain', S3Storage.full_of_plain _ hplain,
    S3Storage.inNamespace_eq_iff] at hobject
  rw [hobject, hfile] at hfile'
  rw [hlast, hfile']

theorem covered_of_plain (hbase : startsWith cfg.urlBase "http" = true) (h : Plain cfg t) :
    Covered cfg tree t := by
  refine ⟨?_, ?_, ?_⟩
  · intro c hc url data hurl hlocal
    obtain ⟨key, hread, _⟩ := Option.bind_eq_some_iff.mp hlocal
    have hspace : startsWith url cfg.localSpace = true :=
      startsWith_iff.mpr ⟨key, dropPrefix?_eq_some.mp hread⟩
    obtain ⟨key, hkey, rfl⟩ := h.keys c hc url hurl hspace
    rw [localLogo_of_plain hkey] at hlocal
    have hcopied : cfg.copied tree (cfg.localSpace ++ key) = some (key, data) := by
      rw [h.copied_eq hkey, hlocal]
      rfl
    refine ⟨(key, data), hcopied, ?_⟩
    exact h.lastCopy_eq (List.mem_filterMap.mpr ⟨c, hc, (job_eq hurl).trans hcopied⟩)
  · intro c hc url job hurl hlocal hcopied
    obtain ⟨hplain, rfl, hfile⟩ := h.of_copied hc hurl hcopied
    rw [localLogo_of_plain hplain, hfile] at hlocal
    cases hlocal
  · intro c hc url job job' hurl hcopied hagain
    -- a URL of the bucket is not selected
    have hselected := selected_of_copied hagain
    rw [h.selected_iff] at hselected
    obtain ⟨key, hkey⟩ := startsWith_iff.mp hselected
    have hbucket : startsWith (cfg.s3Backend.urlFor job.1) (cfg.urlBase ++ "/") = true :=
      startsWith_iff.mpr ⟨Backend.full cfg.keyPrefix job.1, rfl⟩
    rw [startsWith_base_eq_false hbase (hkey ▸ head?_localSpace cfg key)] at hbucket
    cases hbucket

end

def bucketConfig (mediaUrlPrefix : String) : Config where
  mediaRoot := ["srv".toList, "media".toList]
  mediaUrlPrefix := mediaUrlPrefix
  urlBase := "https://cdn.example.com"
  keyPrefix := "ratinglift"

def acmeLogo : Tree :=
  ⟨Table.empty.insert ⟨["connectors".toList, "acme.png".toList], [1]⟩, [["connectors".toList]]⟩

/-- A connector with a logo of the local storage, and one with a logo from elsewhere. -/
def tiles : Table Connector where
  rows := [
    ⟨⟨1, by decide⟩, "Acme", some "/media/connectors/acme.png", none, true, false, none, 0⟩,
    ⟨⟨2, by decide⟩, "Globex", some "https://globex.example.com/logo.svg", none, true, false, none, 1⟩]
  nodup := by decide

theorem tiles_plain : Plain (bucketConfig "/media") tiles where
  sameSpace := by decide
  noWildcard := by decide
  keys := by
    intro c hc url hurl hspace
    rcases List.mem_cons.mp hc with rfl | hc
    · exact ⟨"connectors/acme.png", by decide, (Option.some.inj hurl).symm⟩
    · obtain rfl := List.mem_singleton.mp hc
      obtain rfl := Option.some.inj hurl
      exact absurd hspace (by decide)

theorem acme_preserved : Preserves (bucketConfig "/media") acmeLogo TwoStorages.bucketTable tiles .empty :=
  (backfill_preserves_iff TwoStorages.bucketTable_lawful (by decide) tiles .empty).mpr
    (covered_of_plain (by decide) tiles_plain)

/-- Without its first slash the prefix of the settings serves the same URLs, but the script does not find
them. -/
theorem acme_left_behind :
    ¬ Preserves (bucketConfig "media") acmeLogo TwoStorages.bucketTable tiles .empty := by
  intro h
  have hlocal : (bucketConfig "media").localLogo acmeLogo "/media/connectors/acme.png" = some [1] := by decide
  have hcovered := covered_of_preserves TwoStorages.bucketTable_lawful (by decide) h
  obtain ⟨job, hjob, _⟩ := hcovered.found _ List.mem_cons_self _ _ rfl hlocal
  have hnot : (bucketConfig "media").copied acmeLogo "/media/connectors/acme.png" = none := by decide
  rw [hnot] at hjob
  cases hjob

end LogoBackfill

end RatingLift
