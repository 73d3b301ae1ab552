import RatingLift.Core.LocalStorage
import RatingLift.Core.S3Storage
import RatingLift.Library.Run

/-!
# One contract, two storages

Both storages are given the same calls, and beside them a map records what is stored under each key.  They
hold what the map says throughout and answer alike, except that `list_prefix` of the local one looks into a
single directory and reads a pattern where the caller means a text, and that of S3 drops leading slashes.

* (`localListSafe_iff`, `s3ListSafe_iff`) when a listing finds the stored keys that start with the prefix;
* (`storage_contract_iff`) the law over runs;
* (`TwoStorages.directory_not_listed`) a prefix that ends in a slash finds nothing in the local storage.
-/

namespace RatingLift

open Library Py

universe u

/-- The two storages and the map of what is stored. -/
structure BothStorages (σ : Type u) where
  tree : Tree
  bucket : σ
  stored : String → Option Bytes

section

variable {σ : Type u} (store : ObjectStore σ) (keyPrefix : String) (rootName : List Char)
  (family : LocalFilesystemStorage.KeyFamily)

/-- Both storages and the map take the call. -/
def BothStorages.serve (w : BothStorages σ) (call : StoreCall String Bytes String) : BothStorages σ where
  tree := (LocalFilesystemStorage.serve w.tree rootName call).1
  bucket := (S3Storage.serve store keyPrefix w.bucket call).1
  stored := call.apply w.stored

abbrev StorageStep (σ : Type u) := Step (BothStorages σ) (StoreCall String Bytes String)

/-- Calls on keys of the family, in any order. -/
abbrev StorageRun :=
  Run (fun (w : BothStorages σ) (call : StoreCall String Bytes String) =>
    some (w.serve store keyPrefix rootName call))
    fun _ _ call => ∀ key ∈ call.names, family.keys key

/-- A listing is asked for the keys that start with the text. -/
def Lists (start key : String) : Prop := startsWith key start = true

/-- For a plain prefix: no stored key that starts with it goes on past another slash.  For any other: the
pattern is not refused, and the files it matches in its directory happen to be those of the keys that start
with the prefix. -/
def LocalListSafe (w : BothStorages σ) (start : String) : Prop :=
  if LocalFilesystemStorage.PlainPrefix start then
    ∀ key rest, w.stored key ≠ none → key = start ++ rest → '/' ∉ rest.toList
  else
    ¬ LocalFilesystemStorage.Refused w.tree rootName start ∧ ∀ key, w.stored key ≠ none →
      (startsWith key start = true ↔ LocalFilesystemStorage.Globbed rootName start key)

/-- The prefix has no leading slash, or no stored key starts with what follows its leading slashes. -/
def S3ListSafe (w : BothStorages σ) (start : String) : Prop :=
  start.toList.head? ≠ some '/' ∨ ∀ key, w.stored key ≠ none → startsWith key (lstripChar start '/') = false

def CallSafe (w : BothStorages σ) : StoreCall String Bytes String → Prop
  | .list start => LocalListSafe rootName w start ∧ S3ListSafe w start
  | _ => True

/-- Both storages answer the call as the contract says. -/
def AnswersAgree (w : BothStorages σ) (call : StoreCall String Bytes String) : Prop :=
  call.Answers Lists w.stored (LocalFilesystemStorage.serve w.tree rootName call).2 ∧
    call.Answers Lists w.stored (S3Storage.serve store keyPrefix w.bucket call).2

/-- Both storages hold under each key what is stored there. -/
def ContentsAgree (w : BothStorages σ) : Prop :=
  ∀ key, family.keys key → LocalFilesystemStorage.read w.tree (segments key) = w.stored key ∧
    store.object w.bucket (Backend.full keyPrefix key) = w.stored key

/-- Both storages hold what is stored and nothing else. -/
structure BothHold (w : BothStorages σ) : Prop where
  files : LocalFilesystemStorage.Holds family w.tree w.stored
  objects : S3Storage.Holds store keyPrefix w.bucket w.stored

end

section

variable {σ : Type u} {store : ObjectStore σ} {keyPrefix : String} {rootName : List Char}
  {family : LocalFilesystemStorage.KeyFamily} {w : BothStorages σ}

theorem BothHold.contents (h : BothHold store keyPrefix family w) :
    ContentsAgree store keyPrefix family w := by
  intro key hkey
  refine ⟨h.files.files key, ?_⟩
  rw [S3Storage.full_of_plain keyPrefix (family.plain key hkey)]
  exact h.objects key

theorem BothHold.step (hlaw : store.Lawful) (h : BothHold store keyPrefix family w)
    {call : StoreCall String Bytes String} (hkeys : ∀ key ∈ call.names, family.keys key) :
    BothHold store keyPrefix family (w.serve store keyPrefix rootName call) := by
  refine ⟨h.files.step rootName hkeys, h.objects.step hlaw ?_⟩
  exact fun key hkey => family.plain key (hkeys key hkey)

/-! ### Listings -/

theorem localListSafe_iff (h : BothHold store keyPrefix family w) (start : String) :
    LocalListSafe rootName w start ↔
      (StoreCall.list start).Answers Lists w.stored
        (LocalFilesystemStorage.serve w.tree rootName (.list start)).2 := by
  by_cases hrefused : LocalFilesystemStorage.Refused w.tree rootName start
  · have hplain : ¬ LocalFilesystemStorage.PlainPrefix start :=
      fun hplain => hplain.not_refused rootName hrefused
    unfold LocalListSafe
    rw [if_neg hplain]
    simp only [LocalFilesystemStorage.serve, LocalFilesystemStorage.listPrefix_refused hrefused,
      LocalFilesystemStorage.listed, StoreCall.Answers]
    exact iff_of_false (fun h => h.1 hrefused) id
  · obtain ⟨keys, hlist, hkeys⟩ := h.files.listPrefix_ok hrefused
    simp only [LocalFilesystemStorage.serve, hlist, LocalFilesystemStorage.listed, StoreCall.Answers, hkeys]
    have hanswers : (∀ key, w.stored key ≠ none ∧ LocalFilesystemStorage.Globbed rootName start key ↔
        w.stored key ≠ none ∧ Lists start key) ↔ ∀ key, w.stored key ≠ none →
          (startsWith key start = true ↔ LocalFilesystemStorage.Globbed rootName start key) := by
      refine forall_congr' ?_
      intro key
      rw [and_congr_right_iff]
      exact imp_congr_right fun _ => Iff.comm
    rw [hanswers]
    unfold LocalListSafe
    split
    · rename_i hplain
      refine forall_congr' ?_
      intro key
      rw [hplain.globbed_iff rootName key, startsWith_iff]
      constructor
      · intro hone hstored
        constructor
        · rintro ⟨rest, hrest⟩
          exact ⟨rest, hrest, hone rest hstored hrest⟩
        · rintro ⟨rest, hrest, _⟩
          exact ⟨rest, hrest⟩
      · intro hiff rest hstored hrest
        obtain ⟨rest', hrest', hslash⟩ := (hiff hstored).mp ⟨rest, hrest⟩
        obtain rfl : rest = rest' := String.toList_injective (by
          have := congrArg String.toList (hrest.symm.trans hrest')
          simpa using this)
        exact hslash
    · rw [and_iff_right hrefused]

theorem s3ListSafe_iff (hlaw : store.Lawful) (h : BothHold store keyPrefix family w) (start : String) :
    S3ListSafe w start ↔
      (StoreCall.list start).Answers Lists w.stored
        (S3Storage.serve store keyPrefix w.bucket (.list start)).2 := by
  have hanswers : (StoreCall.list start).Answers Lists w.stored
      (S3Storage.serve store keyPrefix w.bucket (.list start)).2 ↔
        ∀ key, w.stored key ≠ none →
        (startsWith key (lstripChar start '/') = true ↔ startsWith key start = true) := by
    refine forall_congr' ?_
    intro key
    rw [S3Storage.mem_listPrefix hlaw, h.objects key, and_congr_right_iff]
    rfl
  rw [hanswers]
  unfold S3ListSafe
  by_cases hslash : start.toList.head? = some '/'
  · refine (or_iff_right (by simpa using hslash)).trans (forall₂_congr ?_)
    intro key hstored
    have hno : startsWith key start = false := by
      by_contra hstart
      obtain ⟨rest, rfl⟩ := startsWith_iff.mp (by simpa using hstart)
      refine head?_ne_slash_of_plain (family.plain _ (h.files.known _ hstored)) ?_
      rw [String.toList_append, List.head?_append, hslash]
      rfl
    simp [hno]
  · rw [lstripChar_eq_self hslash]
    simp [hslash]

/-- On plain prefixes without a leading slash `Storage.listPrefix` lists what the two storages list. -/
theorem mem_listPrefix_of_plain (hlaw : store.Lawful) (h : BothHold store keyPrefix family w)
    {storage : Storage} (hget : ∀ key, storage.get key = w.stored key) {start : String}
    (hplain : LocalFilesystemStorage.PlainPrefix start) (key : String) :
    key ∈ storage.listPrefix start ↔
      match storage.backend with
      | .localFiles _ =>
        ∃ keys, LocalFilesystemStorage.listPrefix w.tree rootName start = .ok keys ∧ key ∈ keys
      | .s3 _ _ => key ∈ S3Storage.listPrefix store keyPrefix w.bucket start := by
  have hstored : key ∈ storage.objects.rows.map (·.key) ↔ w.stored key ≠ none := by
    rw [← hget key]
    unfold Storage.get
    rw [List.mem_map, ne_eq, Option.map_eq_none_iff, Table.find?_eq_none]
    constructor
    · rintro ⟨object, hobject, rfl⟩ hall
      exact hall object hobject rfl
    · intro hfound
      by_contra hno
      exact hfound fun object hobject hkey => hno ⟨object, hobject, hkey⟩
  unfold Storage.listPrefix
  dsimp only
  cases storage.backend with
  | localFiles urlPrefix =>
    obtain ⟨keys, hlist, hkeys⟩ := h.files.listPrefix_ok (hplain.not_refused rootName)
    rw [List.mem_filter, hstored]
    dsimp only
    rw [hlist]
    have hkey := hkeys key
    rw [hplain.globbed_iff rootName key] at hkey
    constructor
    · rintro ⟨hsome, hrest⟩
      obtain ⟨rest, hdrop, hslash⟩ := (Option.any_eq_true _ _).mp hrest
      exact ⟨keys, rfl, hkey.mpr ⟨hsome, rest, dropPrefix?_eq_some.mp hdrop, by simpa using hslash⟩⟩
    · rintro ⟨_, hok, hmem⟩
      obtain rfl := Except.ok.inj hok
      obtain ⟨hsome, rest, hrest, hslash⟩ := hkey.mp hmem
      exact ⟨hsome, (Option.any_eq_true _ _).mpr ⟨rest, dropPrefix?_eq_some.mpr hrest, by simpa using hslash⟩⟩
  | s3 urlBase objectPrefix =>
    rw [List.mem_filter, hstored]
    dsimp only
    rw [S3Storage.mem_listPrefix hlaw, h.objects key,
      lstripChar_eq_self (head?_ne_slash_of_plain hplain.path)]

/-! ### Runs -/

theorem callSafe_iff (hlaw : store.Lawful) (h : BothHold store keyPrefix family w)
    {call : StoreCall String Bytes String} (hkeys : ∀ key ∈ call.names, family.keys key) :
    CallSafe rootName w call ↔ AnswersAgree store keyPrefix rootName w call := by
  have hplain : ∀ key ∈ call.names, PlainPath key := fun key hkey => family.plain key (hkeys key hkey)
  by_cases hlist : ∃ start, call = .list start
  · obtain ⟨start, rfl⟩ := hlist
    exact and_congr (localListSafe_iff h start) (s3ListSafe_iff hlaw h start)
  · have hne : ∀ start, call ≠ .list start := fun start heq => hlist ⟨start, heq⟩
    have hlocal := h.files.answer rootName hkeys hne Lists
    have hs3 := h.objects.answer hplain hne Lists
    refine iff_of_true ?_ ⟨hlocal, hs3⟩
    cases call with
    | list start => exact absurd rfl (hne start)
    | save _ _ | delete _ | has _ | move _ _ => simp only [CallSafe]

/-- Storages that are empty, the bucket at least below the key prefix. -/
def BothStorages.empty (bucket : σ) : BothStorages σ := ⟨⟨.empty, []⟩, bucket, fun _ => none⟩

theorem bothHold_empty {bucket : σ}
    (hempty : ∀ key, store.object bucket (S3Storage.inNamespace keyPrefix key) = none) :
    BothHold store keyPrefix family (.empty bucket) :=
  ⟨⟨fun _ => rfl, fun _ h => absurd rfl h, fun _ h => absurd rfl h, nofun, fun _ h => absurd rfl h⟩, hempty⟩

theorem bothHold_run {bucket : σ} {tr : List (StorageStep σ)} (hlaw : store.Lawful)
    (hempty : ∀ key, store.object bucket (S3Storage.inNamespace keyPrefix key) = none)
    (hrun : StorageRun store keyPrefix rootName family (.empty bucket) tr w) :
    BothHold store keyPrefix family w := by
  induction hrun with
  | nil => exact bothHold_empty hempty
  | snoc hr hkeys hn ih =>
    obtain rfl := Option.some.inj hn
    exact ih.step hlaw hkeys

/-- In a run from empty storages both answer every call as the contract says, and hold what it says, exactly
when every listing is safe in the state it is asked for. -/
theorem storage_contract_iff {bucket : σ} {tr : List (StorageStep σ)} (hlaw : store.Lawful)
    (hempty : ∀ key, store.object bucket (S3Storage.inNamespace keyPrefix key) = none)
    (hrun : StorageRun store keyPrefix rootName family (.empty bucket) tr w) :
    (∀ x ∈ tr, CallSafe rootName x.before x.label) ↔
      ∀ x ∈ tr, AnswersAgree store keyPrefix rootName x.before x.label ∧
        ContentsAgree store keyPrefix family x.after := by
  refine forall₂_congr ?_
  intro x hx
  obtain ⟨pre, post, htr⟩ := List.append_of_mem hx
  obtain ⟨hbefore, hkeys, _⟩ := hrun.split htr
  have hcontents : ContentsAgree store keyPrefix family x.after :=
    (bothHold_run hlaw hempty (hrun.upto htr)).contents
  rw [callSafe_iff hlaw (bothHold_run hlaw hempty hbefore) hkeys, and_iff_left hcontents]

end

namespace TwoStorages

/-- A bucket as a table of its objects. -/
def bucketTable : ObjectStore (Table StoredObject) where
  object s key := (s.find? key).map (·.data)
  putObject s key data := (s.delete key).insert ⟨key, data⟩
  deleteObject s key := s.delete key
  copyObject s src dst := (s.find? src).map fun object => (s.delete dst).insert ⟨dst, object.data⟩
  listObjects s start := (s.rows.map (·.key)).filter fun key => startsWith key start

theorem bucketTable_lawful : bucketTable.Lawful := by
  have hput : ∀ (s : Table StoredObject) key data k,
      ((s.delete key).insert ⟨key, data⟩).find? k = if k = key then some ⟨key, data⟩ else s.find? k :=
    fun s key data k => Table.find?_delete_insert k
  constructor
  · intro s key data k
    show (((s.delete key).insert ⟨key, data⟩).find? k).map _ = _
    rw [hput]
    split
    · rfl
    · rfl
  · intro s key k
    show ((s.delete key).find? k).map _ = _
    rw [Table.find?_delete]
    split
    · rfl
    · rfl
  · intro s src dst hmissing
    have hmissing : s.find? src = none := by simpa [bucketTable] using hmissing
    show (s.find? src).map _ = none
    rw [hmissing]
    rfl
  · intro s src dst data hfound
    obtain ⟨object, hobject, rfl⟩ := Option.map_eq_some_iff.mp hfound
    refine ⟨(s.delete dst).insert ⟨dst, object.data⟩, ?_, ?_⟩
    · show (s.find? src).map _ = _
      rw [hobject]
      rfl
    · intro k
      show (((s.delete dst).insert ⟨dst, object.data⟩).find? k).map _ = _
      rw [hput]
      split
      · rfl
      · rfl
  · intro s start key
    show key ∈ (s.rows.map (·.key)).filter _ ↔ (s.find? key).map _ ≠ none ∧ _
    rw [List.mem_filter, List.mem_map]
    refine and_congr_left fun _ => ?_
    rw [ne_eq, Option.map_eq_none_iff, Table.find?_eq_none]
    constructor
    · rintro ⟨object, hobject, rfl⟩ hall
      exact hall object hobject rfl
    · intro hfound
      by_contra hno
      exact hfound fun object hobject hkey => hno ⟨object, hobject, hkey⟩

def logoKeys : LocalFilesystemStorage.KeyFamily where
  keys key := key = "connectors/acme.png"
  plain := by
    rintro key rfl
    decide
  apart := by
    rintro key key' rfl rfl _
    rfl

theorem bucket_empty (key : String) :
    bucketTable.object .empty (S3Storage.inNamespace "ratinglift" key) = none := rfl

/-- Both storages after one call. -/
def next (w : BothStorages (Table StoredObject)) (call : StoreCall String Bytes String) :
    BothStorages (Table StoredObject) := w.serve bucketTable "ratinglift" "media".toList call

def logoCall : StoreCall String Bytes String := .save "connectors/acme.png" [1]

/-- A logo is saved. -/
def saved : BothStorages (Table StoredObject) := next (.empty .empty) logoCall

def saveAndList (start : String) : List (StorageStep (Table StoredObject)) :=
  [⟨.empty .empty, logoCall, saved⟩, ⟨saved, .list start, next saved (.list start)⟩]

theorem saveAndList_run (start : String) :
    StorageRun bucketTable "ratinglift" "media".toList logoKeys (.empty .empty) (saveAndList start)
      (next saved (.list start)) := by
  have hsave : ∀ key ∈ logoCall.names, logoKeys.keys key := by
    intro key hkey
    exact List.mem_singleton.mp hkey
  exact Run.snoc (Run.snoc .nil hsave rfl) nofun rfl

/-- The logos of a slug are listed, as the service does it. -/
theorem slug_listed :
    (LocalFilesystemStorage.serve saved.tree "media".toList (.list "connectors/acme.")).2 =
      .keys ["connectors/acme.png"] ∧
    ∀ x ∈ saveAndList "connectors/acme.",
      AnswersAgree bucketTable "ratinglift" "media".toList x.before x.label ∧
        ContentsAgree bucketTable "ratinglift" logoKeys x.after := by
  have hrun := saveAndList_run "connectors/acme."
  refine ⟨by decide, (storage_contract_iff bucketTable_lawful bucket_empty hrun).mp ?_⟩
  intro x hx
  rcases List.mem_cons.mp hx with rfl | hx
  · trivial
  · obtain rfl := List.mem_singleton.mp hx
    have hplain : LocalFilesystemStorage.PlainPrefix "connectors/acme." := by decide
    refine ⟨?_, Or.inl (by decide)⟩
    show LocalListSafe "media".toList saved "connectors/acme."
    unfold LocalListSafe
    rw [if_pos hplain]
    intro key rest hstored hrest
    have hkey : key = "connectors/acme.png" := by
      by_contra hne
      exact hstored (Function.update_of_ne hne _ _)
    have hpng : rest.toList = "png".toList := by
      have := congrArg String.toList (hrest.symm.trans hkey)
      rw [String.toList_append] at this
      exact List.append_cancel_left (this.trans (by decide : _ = "connectors/acme.".toList ++ "png".toList))
    rw [hpng]
    decide

/-- The directory of the logos is asked for with a slash at its end: the local storage looks beside it, not
into it. -/
theorem directory_not_listed :
    bucketTable.Lawful ∧ (∀ key, bucketTable.object .empty (S3Storage.inNamespace "ratinglift" key) = none) ∧
      ¬ ∀ tr w, StorageRun bucketTable "ratinglift" "media".toList logoKeys (.empty .empty) tr w →
        ∀ x ∈ tr, AnswersAgree bucketTable "ratinglift" "media".toList x.before x.label ∧
          ContentsAgree bucketTable "ratinglift" logoKeys x.after := by
  refine ⟨bucketTable_lawful, bucket_empty, ?_⟩
  intro h
  have hagree := (h _ _ (saveAndList_run "connectors/") _ (List.mem_cons_of_mem _ List.mem_cons_self)).1.1
  have hnone :
      (LocalFilesystemStorage.serve saved.tree "media".toList (.list "connectors/")).2 = .keys [] := by
    decide
  have hanswer : (StoreCall.list "connectors/").Answers Lists saved.stored
      (LocalFilesystemStorage.serve saved.tree "media".toList (.list "connectors/")).2 := hagree
  rw [hnone] at hanswer
  have hmem := (hanswer "connectors/acme.png").mpr ⟨by decide, by unfold Lists; decide⟩
  cases hmem

end TwoStorages

end RatingLift
