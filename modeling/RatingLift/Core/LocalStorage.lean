import RatingLift.Library.Table
import RatingLift.Library.KeyValue
import RatingLift.Python.Paths

/-!
# The local file storage

`LocalFilesystemStorage` keeps the object of a key in a file below its root directory.  The tree holds what
lies below the root: the files and the directories, each under the components of its relative path.
Directories are created where a file needs one and stay when the file goes.  `list_prefix` looks into one
directory, and reads the last component of the prefix as a pattern.

* (`localPath_plain`) a plain key names the file of its components.
-/

namespace RatingLift

open Library Py

structure TreeFile where
  path : PathParts
  data : Bytes
deriving DecidableEq

instance : Keyed TreeFile PathParts := ⟨TreeFile.path⟩

/-- The files and directories below the root. -/
structure Tree where
  files : Table TreeFile
  dirs : List PathParts

inductive PathError where
  | valueError | osError
deriving DecidableEq

namespace LocalFilesystemStorage

/-- `_path`: the components below the root, `none` where it raises `ValueError`. -/
def localPath (key : String) : Option PathParts :=
  let clean := lstripChar (replaceChar key '\\' '/') '/'
  if clean = "" ∨ ['.', '.'] ∈ segments clean ∨ '\x00' ∈ clean.toList then none
  else some ((segments clean).filter fun part => part ≠ [] ∧ part ≠ ['.'])

variable (t : Tree)

/-- `Path.is_file` -/
def isFile (path : PathParts) : Bool := (t.files.find? path).isSome

/-- `Path.is_dir`; the root always is one. -/
def isDir (path : PathParts) : Bool := path = [] || t.dirs.contains path

/-- `path.mkdir(parents=True, exist_ok=True)` -/
def mkdir (path : PathParts) : Except PathError Tree :=
  if path.inits.any fun dir => isFile t dir then .error .osError
  else .ok { t with dirs := path.inits ++ t.dirs }

/-- `path.write_bytes(data)` -/
def writeBytes (path : PathParts) (data : Bytes) : Except PathError Tree :=
  if isDir t path then .error .osError else .ok { t with files := (t.files.delete path).insert ⟨path, data⟩ }

/-- `save`, up to the URL it returns -/
def save (key : String) (data : Bytes) : Except PathError Tree :=
  match localPath key with
  | none => .error .valueError
  | some path => do writeBytes (← mkdir t path.dropLast) path data

/-- `delete` -/
def delete (key : String) : Tree :=
  match localPath key with
  | none => t
  | some path => { t with files := t.files.delete path }

/-- `exists` -/
def exists' (key : String) : Bool :=
  match localPath key with
  | none => false
  | some path => isFile t path

/-- `src.rename(dst)` once an old file at `dst` is unlinked; an error there is passed over. -/
def rename (src dst : PathParts) : Tree :=
  match t.files.find? src with
  | none => t
  | some file =>
    if isDir t dst then t else { t with files := ((t.files.delete dst).insert ⟨dst, file.data⟩).delete src }

/-- `move` -/
def move (srcKey dstKey : String) : Except PathError Tree :=
  match localPath srcKey, localPath dstKey with
  | some src, some dst =>
    if !isFile t src || src == dst then .ok t else do return rename (← mkdir t dst.dropLast) src dst
  | _, _ => .ok t

/-- The `base` of `list_prefix`, below the root; a prefix without a slash is not normalised. -/
def listBase (start : String) : Option PathParts :=
  if '/' ∈ start.toList then localPath start
  else if start = "" ∨ start = "." then some []
  else some [start.toList]

/-- The directory that `list_prefix` looks into and the text its pattern starts with: for the root itself
these are the root and its own name. -/
def listPlace (rootName : List Char) (base : PathParts) : PathParts × List Char :=
  match base.getLast? with
  | none => ([], rootName)
  | some name => (base.dropLast, name)

/-- Two stars next to each other, which `Path.glob` refuses within a component. -/
def hasDoubleStar : List Char → Bool
  | '*' :: '*' :: _ => true
  | _ :: l => hasDoubleStar l
  | [] => false

/-- The files that `dir.glob(pattern)` yields; the pattern `**` yields directories only. -/
def glob (dir : PathParts) (pattern : List Char) : Except PathError (List PathParts) :=
  if pattern = ['*', '*'] then .ok []
  else if hasDoubleStar pattern then .error .valueError
  else .ok ((t.files.rows.map (·.path)).filter fun path =>
    path.dropLast == dir && path.getLast?.any fun name => fnmatch name pattern)

/-- `list_prefix` -/
def listPrefix (rootName : List Char) (start : String) : Except PathError (List String) :=
  match listBase start with
  | none => .ok []
  | some base =>
    let (dir, name) := listPlace rootName base
    if !isDir t dir then .ok [] else do return (← glob t dir (name ++ ['*'])).map joinPath

/-- An exception leaves the files as they were. -/
def answered : Except PathError Tree → Tree × StoreAnswer String
  | .ok t' => (t', .done)
  | .error _ => (t, .raised)

def listed : Except PathError (List String) → StoreAnswer String
  | .ok keys => .keys keys
  | .error _ => .raised

/-- A call and its answer. -/
def serve (rootName : List Char) : StoreCall String Bytes String → Tree × StoreAnswer String
  | .save key data => answered t (save t key data)
  | .delete key => (delete t key, .done)
  | .has key => (t, .found (exists' t key))
  | .move src dst => answered t (move t src dst)
  | .list start => (t, listed (listPrefix t rootName start))

theorem localPath_plain {key : String} (h : PlainPath key) : localPath key = some (segments key) := by
  have hreplace : replaceChar key '\\' '/' = key := replaceChar_eq_self h.noBackslash
  have hstrip : lstripChar key '/' = key := lstripChar_eq_self (head?_ne_slash_of_plain h)
  have hne : key ≠ "" := by
    rintro rfl
    exact (h.segment [] (by decide)).1 rfl
  have hdots : ['.', '.'] ∉ segments key := fun hmem => (h.segment _ hmem).2.2 rfl
  unfold localPath
  rw [hreplace, hstrip, if_neg (by simp [hne, hdots, h.noNull])]
  congr 1
  rw [List.filter_eq_self]
  intro part hpart
  obtain ⟨hempty, hdot, _⟩ := h.segment part hpart
  simp [hempty, hdot]

/-! ### The stored files -/

/-- The contents of a file. -/
def read (path : PathParts) : Option Bytes := (t.files.find? path).map (·.data)

/-- The keys that callers use: plain ones, none of which lies below another. -/
structure KeyFamily where
  keys : String → Prop
  plain : ∀ key, keys key → PlainPath key
  apart : ∀ key key', keys key → keys key' → segments key <+: segments key' → key = key'

/-- The tree holds what is stored and no other file, in directories that lie above keys. -/
structure Holds (family : KeyFamily) (t : Tree) (stored : String → Option Bytes) : Prop where
  files : ∀ key, read t (segments key) = stored key
  only : ∀ path, read t path ≠ none → ∃ key, segments key = path
  known : ∀ key, stored key ≠ none → family.keys key
  dirs : ∀ dir ∈ t.dirs, dir ≠ [] → ∃ key, family.keys key ∧ dir <+: segments key ∧ dir ≠ segments key
  parents : ∀ key, stored key ≠ none → isDir t (segments key).dropLast = true

variable {t} {family : KeyFamily} {stored : String → Option Bytes}

theorem isFile_iff {path : PathParts} : isFile t path = true ↔ read t path ≠ none := by
  unfold isFile read
  cases t.files.find? path with
  | none => simp
  | some file => simp

theorem isDir_iff {path : PathParts} : isDir t path = true ↔ path = [] ∨ path ∈ t.dirs := by
  simp [isDir]

theorem read_put (path : PathParts) (data : Bytes) (dirs : List PathParts) (p : PathParts) :
    read ⟨(t.files.delete path).insert ⟨path, data⟩, dirs⟩ p = if p = path then some data else read t p := by
  unfold read
  have hfind : ((t.files.delete path).insert ⟨path, data⟩).find? p =
      if p = path then some ⟨path, data⟩ else t.files.find? p := Table.find?_delete_insert p
  rw [hfind]
  split
  · rfl
  · rfl

theorem read_remove (path : PathParts) (dirs : List PathParts) (p : PathParts) :
    read ⟨t.files.delete path, dirs⟩ p = if p = path then none else read t p := by
  unfold read
  rw [Table.find?_delete]
  split
  · rfl
  · rfl

theorem not_prefix_dropLast {path dir : PathParts} (hne : path ≠ []) (h : path <+: dir) :
    ¬ dir <+: path.dropLast := by
  intro hdir
  have hle := (h.trans hdir).length_le
  have hpos : 0 < path.length := List.length_pos_of_ne_nil hne
  rw [List.length_dropLast] at hle
  omega

/-- The directory of a key can be made, -/
theorem Holds.mkdir_eq (h : Holds family t stored) {key : String} (hkey : family.keys key) :
    mkdir t (segments key).dropLast = .ok { t with dirs := (segments key).dropLast.inits ++ t.dirs } := by
  have hno : ((segments key).dropLast.inits.any fun dir => isFile t dir) = false := by
    rw [List.any_eq_false]
    intro dir hdir hfile
    obtain ⟨key', rfl⟩ := h.only dir (isFile_iff.mp hfile)
    have hstored : stored key' ≠ none := by
      rw [← h.files key']
      exact isFile_iff.mp hfile
    have hstart : segments key' <+: (segments key).dropLast := (List.mem_inits _ _).mp hdir
    obtain rfl := family.apart key' key (h.known key' hstored) hkey (hstart.trans (List.dropLast_prefix _))
    exact not_prefix_dropLast (segments_ne_nil key') List.prefix_rfl hstart
  unfold mkdir
  rw [if_neg (by rw [hno]; exact nofun)]

/-- and then the key itself names no directory. -/
theorem Holds.not_isDir (h : Holds family t stored) {key : String} (hkey : family.keys key) :
    isDir { t with dirs := (segments key).dropLast.inits ++ t.dirs } (segments key) = false := by
  by_contra hdir
  rcases isDir_iff.mp (by simpa using hdir) with hnil | hmem
  · exact segments_ne_nil key hnil
  · rcases List.mem_append.mp hmem with hnew | hold
    · exact not_prefix_dropLast (segments_ne_nil key) List.prefix_rfl ((List.mem_inits _ _).mp hnew)
    · obtain ⟨key', hkey', hstart, hne⟩ := h.dirs _ hold (segments_ne_nil key)
      exact hne (congrArg segments (family.apart key key' hkey hkey' hstart))

/-- More directories above a key. -/
theorem Holds.dirs_append (h : Holds family t stored) {key : String} (hkey : family.keys key) :
    ∀ dir ∈ (segments key).dropLast.inits ++ t.dirs, dir ≠ [] →
      ∃ key, family.keys key ∧ dir <+: segments key ∧ dir ≠ segments key := by
  intro dir hmem hne
  rcases List.mem_append.mp hmem with hnew | hold
  · have hstart : dir <+: (segments key).dropLast := (List.mem_inits _ _).mp hnew
    refine ⟨key, hkey, hstart.trans (List.dropLast_prefix _), ?_⟩
    rintro rfl
    exact not_prefix_dropLast (segments_ne_nil key) List.prefix_rfl hstart
  · exact h.dirs dir hold hne

/-- Writing one key, and whatever happens to the others, under new directories above it. -/
theorem Holds.rewrite (h : Holds family t stored) {t' : Tree} {stored' : String → Option Bytes} {key : String}
    (hkey : family.keys key) (hdirs : t'.dirs = (segments key).dropLast.inits ++ t.dirs)
    (hread : ∀ path, read t' path ≠ none → path = segments key ∨ read t path ≠ none)
    (hfiles : ∀ k, read t' (segments k) = stored' k) : Holds family t' stored' := by
  have hold : ∀ k, stored' k ≠ none → k = key ∨ stored k ≠ none := by
    intro k hk
    rw [← hfiles k] at hk
    rcases hread _ hk with heq | hk
    · exact Or.inl (segments_injective heq)
    · exact Or.inr (h.files k ▸ hk)
  refine ⟨hfiles, ?_, ?_, ?_, ?_⟩
  · intro path hpath
    rcases hread path hpath with rfl | hpath
    · exact ⟨key, rfl⟩
    · exact h.only path hpath
  · intro k hk
    rcases hold k hk with rfl | hk
    · exact hkey
    · exact h.known k hk
  · rw [hdirs]
    exact h.dirs_append hkey
  · intro k hk
    rw [isDir_iff, hdirs]
    rcases hold k hk with rfl | hk
    · exact Or.inr (List.mem_append_left _ ((List.mem_inits _ _).mpr List.prefix_rfl))
    · rcases isDir_iff.mp (h.parents k hk) with hroot | hdir
      · exact Or.inl hroot
      · exact Or.inr (List.mem_append_right _ hdir)

theorem Holds.save (h : Holds family t stored) {key : String} (hkey : family.keys key) (data : Bytes) :
    ∃ t', save t key data = .ok t' ∧ Holds family t' (Function.update stored key (some data)) := by
  have hsave : LocalFilesystemStorage.save t key data =
      .ok ⟨(t.files.delete (segments key)).insert ⟨segments key, data⟩,
        (segments key).dropLast.inits ++ t.dirs⟩ := by
    unfold LocalFilesystemStorage.save
    rw [localPath_plain (family.plain key hkey)]
    dsimp only
    rw [h.mkdir_eq hkey]
    show writeBytes _ _ _ = _
    unfold writeBytes
    rw [h.not_isDir hkey]
    rfl
  refine ⟨_, hsave, h.rewrite hkey rfl ?_ ?_⟩
  · intro path hpath
    rw [read_put] at hpath
    by_cases heq : path = segments key
    · exact Or.inl heq
    · rw [if_neg heq] at hpath
      exact Or.inr hpath
  · intro k
    rw [read_put, Function.update_apply, h.files k]
    simp only [segments_injective.eq_iff]

theorem Holds.delete (h : Holds family t stored) {key : String} (hkey : family.keys key) :
    Holds family (delete t key) (Function.update stored key none) := by
  have hdelete : LocalFilesystemStorage.delete t key = ⟨t.files.delete (segments key), t.dirs⟩ := by
    unfold LocalFilesystemStorage.delete
    rw [localPath_plain (family.plain key hkey)]
  have hold : ∀ k, Function.update stored key none k ≠ none → stored k ≠ none := by
    intro k hk
    rw [Function.update_apply] at hk
    split at hk
    · exact absurd rfl hk
    · exact hk
  rw [hdelete]
  refine ⟨?_, ?_, fun k hk => h.known k (hold k hk), h.dirs, fun k hk => h.parents k (hold k hk)⟩
  · intro k
    rw [read_remove, Function.update_apply, h.files k]
    simp only [segments_injective.eq_iff]
  · intro path hpath
    rw [read_remove] at hpath
    split at hpath
    · exact absurd rfl hpath
    · exact h.only path hpath

theorem Holds.isFile_eq (h : Holds family t stored) (key : String) :
    isFile t (segments key) = (stored key).isSome := by
  have hread := h.files key
  unfold read at hread
  unfold isFile
  rw [← hread, Option.isSome_map]

theorem Holds.move (h : Holds family t stored) {src dst : String} (hsrc : family.keys src)
    (hdst : family.keys dst) :
    ∃ t', move t src dst = .ok t' ∧
      Holds family t' ((StoreCall.move src dst : StoreCall String Bytes String).apply stored) := by
  unfold LocalFilesystemStorage.move
  rw [localPath_plain (family.plain src hsrc), localPath_plain (family.plain dst hdst)]
  dsimp only
  by_cases hself : stored src = none ∨ src = dst
  · have hskip : (!isFile t (segments src) || segments src == segments dst) = true := by
      rw [h.isFile_eq src]
      rcases hself with hnone | rfl
      · simp [hnone]
      · simp
    rw [if_pos hskip, StoreCall.apply_move_self hself]
    exact ⟨t, rfl, h⟩
  · rw [not_or] at hself
    obtain ⟨data, hdata⟩ := Option.ne_none_iff_exists'.mp hself.1
    have hgo : (!isFile t (segments src) || segments src == segments dst) = false := by
      rw [h.isFile_eq src, hdata]
      simpa using segments_injective.ne hself.2
    have hread : read t (segments src) = some data := (h.files src).trans hdata
    obtain ⟨file, hfile, rfl⟩ := Option.map_eq_some_iff.mp hread
    have hrename :
        rename { t with dirs := (segments dst).dropLast.inits ++ t.dirs } (segments src) (segments dst) =
        ⟨((t.files.delete (segments dst)).insert ⟨segments dst, file.data⟩).delete (segments src),
          (segments dst).dropLast.inits ++ t.dirs⟩ := by
      unfold rename
      dsimp only
      rw [hfile]
      dsimp only
      rw [h.not_isDir hdst]
      rfl
    rw [hgo, h.mkdir_eq hdst]
    refine ⟨_, rfl, ?_⟩
    rw [hrename]
    have hafter : ∀ path,
        read ⟨((t.files.delete (segments dst)).insert ⟨segments dst, file.data⟩).delete (segments src),
        (segments dst).dropLast.inits ++ t.dirs⟩ path =
          if path = segments src then none else if path = segments dst then some file.data
          else read t path := by
      intro path
      have hremove := read_remove (t := ⟨(t.files.delete (segments dst)).insert ⟨segments dst, file.data⟩,
        (segments dst).dropLast.inits ++ t.dirs⟩) (segments src)
          ((segments dst).dropLast.inits ++ t.dirs) path
      rw [hremove, read_put]
    refine h.rewrite hdst rfl ?_ ?_
    · intro path hpath
      rw [hafter] at hpath
      by_cases heq : path = segments dst
      · exact Or.inl heq
      · rw [if_neg heq] at hpath
        split at hpath
        · exact absurd rfl hpath
        · exact Or.inr hpath
    · intro k
      rw [hafter, StoreCall.apply_move hdata hself.2, h.files k]
      simp only [segments_injective.eq_iff]

/-! ### Listings -/

/-- The key lies in the directory that `list_prefix` looks into and its last component matches the pattern. -/
def Globbed (rootName : List Char) (start key : String) : Prop :=
  ∃ base, listBase start = some base ∧ ∃ x, segments key = (listPlace rootName base).1 ++ [x] ∧
    (listPlace rootName base).2 ≠ ['*'] ∧ fnmatch x ((listPlace rootName base).2 ++ ['*']) = true

/-- `Path.glob` refuses the pattern; it is not called where the directory does not exist. -/
def Refused (t : Tree) (rootName : List Char) (start : String) : Prop :=
  ∃ base, listBase start = some base ∧ isDir t (listPlace rootName base).1 = true ∧
    (listPlace rootName base).2 ≠ ['*'] ∧ hasDoubleStar ((listPlace rootName base).2 ++ ['*']) = true

theorem concat_star_eq {name : List Char} : name ++ ['*'] = ['*', '*'] ↔ name = ['*'] := by
  rw [show (['*', '*'] : List Char) = ['*'] ++ ['*'] from rfl, List.append_left_inj]

theorem listPrefix_refused {rootName : List Char} {start : String} (h : Refused t rootName start) :
    listPrefix t rootName start = .error .valueError := by
  obtain ⟨base, hbase, hdir, hname, hstars⟩ := h
  unfold listPrefix glob
  rw [hbase]
  dsimp only
  rw [hdir, if_neg (by simp), if_neg (concat_star_eq.not.mpr hname), if_pos hstars]
  rfl

theorem mem_paths_iff {path : PathParts} : path ∈ t.files.rows.map (·.path) ↔ read t path ≠ none := by
  rw [List.mem_map]
  unfold read
  constructor
  · rintro ⟨file, hfile, rfl⟩
    have hfound : t.files.find? file.path = some file := Table.mem_iff_find?.mp hfile
    simp [hfound]
  · intro hread
    obtain ⟨data, hdata⟩ := Option.ne_none_iff_exists'.mp hread
    obtain ⟨file, hfile, _⟩ := Option.map_eq_some_iff.mp hdata
    obtain ⟨hmem, hpath⟩ := Table.find?_some hfile
    exact ⟨file, hmem, hpath⟩

/-- The keys of the files in a directory whose names match. -/
theorem Holds.mem_matching (h : Holds family t stored) {dir : PathParts} {pattern : List Char}
    {key : String} :
    key ∈ ((t.files.rows.map (·.path)).filter fun path =>
        path.dropLast == dir && path.getLast?.any fun name => fnmatch name pattern).map joinPath ↔
      stored key ≠ none ∧ ∃ x, segments key = dir ++ [x] ∧ fnmatch x pattern = true := by
  rw [List.mem_map]
  constructor
  · rintro ⟨path, hpath, rfl⟩
    obtain ⟨hmem, hmatch⟩ := List.mem_filter.mp hpath
    have hread := mem_paths_iff.mp hmem
    obtain ⟨key, rfl⟩ := h.only path hread
    rw [joinPath_segments, ← h.files key]
    obtain ⟨hdir, hname⟩ := Bool.and_eq_true_iff.mp hmatch
    obtain ⟨x, hlast, hx⟩ := (Option.any_eq_true _ _).mp hname
    obtain ⟨init, hinit⟩ := List.getLast?_eq_some_iff.mp hlast
    rw [hinit, List.dropLast_concat] at hdir
    exact ⟨hread, x, by rw [hinit, eq_of_beq hdir], hx⟩
  · rintro ⟨hstored, x, hkey, hx⟩
    refine ⟨segments key, List.mem_filter.mpr ⟨mem_paths_iff.mpr ?_, ?_⟩, joinPath_segments key⟩
    · rw [h.files key]
      exact hstored
    · rw [hkey]
      simp [hx]

/-- Where the pattern is not refused, the stored keys that it matches are found. -/
theorem Holds.listPrefix_ok (h : Holds family t stored) {rootName : List Char} {start : String}
    (hno : ¬ Refused t rootName start) :
    ∃ keys, listPrefix t rootName start = .ok keys ∧
      ∀ key, key ∈ keys ↔ stored key ≠ none ∧ Globbed rootName start key := by
  unfold listPrefix
  cases hbase : listBase start with
  | none =>
    refine ⟨[], rfl, ?_⟩
    intro key
    refine iff_of_false List.not_mem_nil ?_
    rintro ⟨_, base, hsome, _⟩
    rw [hbase] at hsome
    cases hsome
  | some base =>
    dsimp only
    cases hdir : isDir t (listPlace rootName base).1 with
    | false =>
      refine ⟨[], rfl, ?_⟩
      intro key
      refine iff_of_false List.not_mem_nil ?_
      rintro ⟨hstored, base', hsome, x, hkey, _⟩
      rw [hbase] at hsome
      obtain rfl := Option.some.inj hsome
      have hparent := h.parents key hstored
      rw [hkey, List.dropLast_concat, hdir] at hparent
      cases hparent
    | true =>
      rw [if_neg (by simp)]
      unfold glob
      by_cases hname : (listPlace rootName base).2 = ['*']
      · rw [if_pos (concat_star_eq.mpr hname)]
        refine ⟨[], rfl, ?_⟩
        intro key
        refine iff_of_false List.not_mem_nil ?_
        rintro ⟨_, base', hsome, x, _, hname', _⟩
        rw [hbase] at hsome
        obtain rfl := Option.some.inj hsome
        exact hname' hname
      · have hstars : hasDoubleStar ((listPlace rootName base).2 ++ ['*']) = false := by
          by_contra hstars
          exact hno ⟨base, hbase, hdir, hname, by simpa using hstars⟩
        rw [if_neg (concat_star_eq.not.mpr hname), hstars, if_neg nofun]
        refine ⟨_, rfl, ?_⟩
        intro key
        rw [h.mem_matching]
        refine and_congr_right fun _ => ?_
        constructor
        · rintro ⟨x, hkey, hx⟩
          exact ⟨base, hbase, x, hkey, hname, hx⟩
        · rintro ⟨base', hsome, x, hkey, _, hx⟩
          rw [hbase] at hsome
          obtain rfl := Option.some.inj hsome
          exact ⟨x, hkey, hx⟩

/-- A plain path whose last component has no character with a meaning in patterns. -/
structure PlainPrefix (start : String) : Prop where
  path : PlainPath start
  name : ∀ name, (segments start).getLast? = some name → ∀ c ∈ name, globSpecial c = false

instance (start : String) : Decidable (PlainPrefix start) :=
  decidable_of_iff
    (PlainPath start ∧ ((segments start).getLast?.all fun name => name.all fun c => !globSpecial c) = true)
    ⟨fun h => ⟨h.1, by simpa [Option.all_eq_true] using h.2⟩,
      fun h => ⟨h.1, by simpa [Option.all_eq_true] using h.2⟩⟩

theorem listBase_plain {start : String} (h : PlainPath start) : listBase start = some (segments start) := by
  unfold listBase
  by_cases hslash : '/' ∈ start.toList
  · rw [if_pos hslash]
    exact localPath_plain h
  · have hsegments : segments start = [start.toList] := List.splitOn_eq_singleton hslash
    have hpart := h.segment start.toList (by rw [hsegments]; exact List.mem_cons_self)
    have hne : ¬ (start = "" ∨ start = ".") := by
      rintro (rfl | rfl)
      · exact hpart.1 rfl
      · exact hpart.2.1 rfl
    rw [if_neg hslash, if_neg hne, hsegments]

theorem hasDoubleStar_concat {l : List Char} (h : ∀ c ∈ l, globSpecial c = false) :
    hasDoubleStar (l ++ ['*']) = false := by
  induction l with
  | nil => rfl
  | cons c l ih =>
    have hc := h c List.mem_cons_self
    simp only [globSpecial, Bool.or_eq_false_iff, beq_eq_false_iff_ne] at hc
    have hrest := ih fun x hx => h x (List.mem_cons_of_mem _ hx)
    rw [List.cons_append]
    unfold hasDoubleStar
    split
    · rename_i heq
      exact absurd (List.cons.inj heq).1 hc.1.1
    · rename_i heq
      obtain ⟨rfl, rfl⟩ := List.cons.inj heq
      exact hrest
    · rfl

/-- The directory and the text of a plain prefix. -/
theorem PlainPrefix.place {start : String} (h : PlainPrefix start) (rootName : List Char) :
    ∃ dir name, segments start = dir ++ [name] ∧ listPlace rootName (segments start) = (dir, name) ∧
      ∀ c ∈ name, globSpecial c = false := by
  rcases List.eq_nil_or_concat (segments start) with hnil | ⟨dir, name, hconcat⟩
  · exact absurd hnil (segments_ne_nil start)
  · rw [List.concat_eq_append] at hconcat
    have hlast : (segments start).getLast? = some name := by rw [hconcat, List.getLast?_concat]
    refine ⟨dir, name, hconcat, ?_, h.name name hlast⟩
    unfold listPlace
    rw [hlast]
    dsimp only
    rw [hconcat, List.dropLast_concat]

theorem PlainPrefix.not_refused {start : String} (h : PlainPrefix start) (rootName : List Char) :
    ¬ Refused t rootName start := by
  rintro ⟨base, hbase, _, _, hstars⟩
  rw [listBase_plain h.path] at hbase
  obtain rfl := Option.some.inj hbase
  obtain ⟨dir, name, _, hplace, hspecial⟩ := h.place rootName
  rw [hplace, hasDoubleStar_concat hspecial] at hstars
  cases hstars

/-- A plain prefix finds the keys that go on after it without a slash. -/
theorem PlainPrefix.globbed_iff {start : String} (h : PlainPrefix start) (rootName : List Char)
    (key : String) :
    Globbed rootName start key ↔ ∃ rest, key = start ++ rest ∧ '/' ∉ rest.toList := by
  obtain ⟨dir, name, hsegments, hplace, hspecial⟩ := h.place rootName
  rw [append_iff_segments hsegments]
  unfold Globbed
  rw [listBase_plain h.path]
  constructor
  · rintro ⟨base, hbase, x, hkey, _, hx⟩
    obtain rfl := Option.some.inj hbase
    rw [hplace] at hkey hx
    exact ⟨x, hkey, (fnmatch_star_iff hspecial).mp hx⟩
  · rintro ⟨x, hkey, hx⟩
    refine ⟨segments start, rfl, x, ?_⟩
    rw [hplace]
    refine ⟨hkey, ?_, (fnmatch_star_iff hspecial).mpr hx⟩
    rintro rfl
    have := hspecial '*' List.mem_cons_self
    cases this

/-! ### Calls -/

/-- Calls on keys of the family do to the files what the contract says. -/
theorem Holds.step (h : Holds family t stored) (rootName : List Char) {call : StoreCall String Bytes String}
    (hkeys : ∀ key ∈ call.names, family.keys key) :
    Holds family (serve t rootName call).1 (call.apply stored) := by
  cases call with
  | save key data =>
    obtain ⟨t', hsave, hholds⟩ := h.save (hkeys key List.mem_cons_self) data
    simp only [serve, hsave]
    exact hholds
  | delete key =>
    simp only [serve, StoreCall.apply]
    exact h.delete (hkeys key List.mem_cons_self)
  | has _ => exact h
  | move src dst =>
    obtain ⟨t', hmove, hholds⟩ :=
      h.move (hkeys src List.mem_cons_self) (hkeys dst (by simp [StoreCall.names]))
    simp only [serve, hmove]
    exact hholds
  | list start => exact h

/-- No call on keys of the family but a listing raises. -/
theorem Holds.answer_eq (h : Holds family t stored) (rootName : List Char)
    {call : StoreCall String Bytes String} (hkeys : ∀ key ∈ call.names, family.keys key) :
    match call with
    | .save _ _ | .delete _ | .move _ _ => (serve t rootName call).2 = .done
    | .has key => (serve t rootName call).2 = .found (stored key).isSome
    | .list _ => True := by
  cases call with
  | save key data =>
    obtain ⟨t', hsave, _⟩ := h.save (hkeys key List.mem_cons_self) data
    simp only [serve, hsave, answered]
  | delete _ => simp only [serve]
  | has key =>
    simp only [serve, exists']
    rw [localPath_plain (family.plain key (hkeys key List.mem_cons_self))]
    exact congrArg _ (h.isFile_eq key)
  | move src dst =>
    obtain ⟨t', hmove, _⟩ := h.move (hkeys src List.mem_cons_self) (hkeys dst (by simp [StoreCall.names]))
    simp only [serve, hmove, answered]
  | list start => trivial

/-- Apart from a listing, the answer is what the contract says. -/
theorem Holds.answer (h : Holds family t stored) (rootName : List Char) {call : StoreCall String Bytes String}
    (hkeys : ∀ key ∈ call.names, family.keys key) (hlist : ∀ start, call ≠ .list start)
    (selects : String → String → Prop) : call.Answers selects stored (serve t rootName call).2 := by
  have hanswer := h.answer_eq rootName hkeys
  cases call with
  | save _ _ | delete _ | move _ _ | has _ =>
    dsimp only at hanswer
    rw [hanswer]
    simp only [StoreCall.Answers]
  | list start => exact absurd rfl (hlist start)

end LocalFilesystemStorage

end RatingLift
