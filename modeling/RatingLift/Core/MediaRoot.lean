import RatingLift.Core.LocalStorage
import RatingLift.Library.Fallible

/-!
# What the local storage touches

The operations of `LocalFilesystemStorage` on absolute paths, with every path that they hand to the file
system.  A key that would resolve outside the root is refused (`localPath_of_outside`), and `_path` gives
paths below the root (`absolutePath_eq`), but a key may name the root itself, and then `save` and `move` make
its parent directory (`staysInside_iff`).
-/

namespace RatingLift

open Library Py LocalFilesystemStorage

namespace MediaRoot

section

variable (root : PathParts) (t : Tree)

/-- The key with its slashes normalised. -/
def cleanKey (key : String) : String := lstripChar (replaceChar key '\\' '/') '/'

/-- `_path` -/
def absolutePath (key : String) : Option PathParts :=
  let clean := cleanKey key
  if clean = "" ∨ (segments clean).contains ['.', '.'] then none
  else if '\x00' ∈ clean.toList then none
  else
    let path := resolve (divide root clean)
    (relativeTo path root).map fun _ => path

/-- A key whose path is not below the root. -/
def ResolvesOutside (key : String) : Prop := ¬ root <+: resolve (divide root (cleanKey key))

/-- The last component of the root. -/
def rootName : List Char := root.getLast?.getD []

/-! ### The file system -/

def isFileAt (path : PathParts) : Bool := (relativeTo path root).any (isFile t)

/-- The directories above the root exist. -/
def isDirAt (path : PathParts) : Bool := path.isPrefixOf root || (relativeTo path root).any (isDir t)

/-- The paths that `path.mkdir(parents=True, exist_ok=True)` tries to make, for the components of the path
from the last to the first: it goes up as long as the parent is missing. -/
def mkdirPaths : List (List Char) → List PathParts
  | [] => [[]]
  | name :: up =>
    (name :: up).reverse ::
      if isDirAt root t up.reverse || isFileAt root t up.reverse then [] else mkdirPaths up

/-- What is touched for a file at `path`: the directories that are made for it, and the file unless one of
them is a file. -/
def writePaths (path : PathParts) : List PathParts :=
  mkdirPaths root t path.dropLast.reverse ++
    if path.dropLast.inits.any (isFileAt root t) then [] else [path]

/-- What `parent.glob(pattern)` reads and yields: `**` goes through all directories below. -/
def globPaths (parent : PathParts) (pattern : List Char) : List PathParts :=
  if pattern = ['*', '*'] then (t.dirs.map (root ++ ·)).filter (parent.isPrefixOf ·)
  else if hasDoubleStar pattern then []
  else (t.files.rows.map (root ++ ·.path)).filter fun path =>
    path.dropLast == parent && path.getLast?.any fun name => fnmatch name pattern

/-- The `base` of `list_prefix`. -/
def absoluteBase (start : String) : Option PathParts :=
  if '/' ∈ start.toList then absolutePath root start else some (divide root start)

/-- `base.parent if base.parent != self.root.parent else self.root` -/
def listParent (base : PathParts) : PathParts := if base.dropLast ≠ root.dropLast then base.dropLast else root

/-- The paths that a call hands to the file system. -/
def accesses : StoreCall String Bytes String → List PathParts
  | .save key _ =>
    match absolutePath root key with
    | none => []
    | some path => writePaths root t path
  | .delete key | .has key =>
    match absolutePath root key with
    | none => []
    | some path => [path]
  | .move srcKey dstKey =>
    match absolutePath root srcKey, absolutePath root dstKey with
    | some src, some dst => src :: if !isFileAt root t src || src == dst then [] else writePaths root t dst
    | _, _ => []
  | .list start =>
    match absoluteBase root start with
    | none => []
    | some base =>
      let parent := listParent root base
      parent :: if isDirAt root t parent then globPaths root t parent (base.getLast?.getD [] ++ ['*']) else []

end

/-! ### Paths below the root -/

section

variable {dir root : PathParts} {t : Tree} {key : String}

theorem head?_cleanKey (key : String) : (cleanKey key).toList.head? ≠ some '/' := head?_lstripChar _ '/'

/-- What follows the root has no `..`, so that resolving it does not leave the root. -/
theorem resolve_divide (hroot : ['.', '.'] ∉ root) (hkey : ['.', '.'] ∉ segments (cleanKey key)) :
    resolve (divide root (cleanKey key)) =
      root ++ (segments (cleanKey key)).filter fun part => part ≠ [] ∧ part ≠ ['.'] := by
  have hself : resolve ([] ++ root) = [] ++ root := resolve_append hroot
  rw [List.nil_append] at hself
  unfold divide
  rw [if_neg (head?_cleanKey key), resolve_append fun hmem => hkey (List.mem_of_mem_filter hmem), hself]

theorem localPath_eq (key : String) : localPath key =
    if cleanKey key = "" ∨ ['.', '.'] ∈ segments (cleanKey key) ∨ '\x00' ∈ (cleanKey key).toList then none
    else some ((segments (cleanKey key)).filter fun part => part ≠ [] ∧ part ≠ ['.']) := rfl

/-- The path of a key is the root followed by the components that `localPath` gives. -/
theorem absolutePath_eq (hroot : ['.', '.'] ∉ root) (key : String) :
    absolutePath root key = (localPath key).map (root ++ ·) := by
  unfold absolutePath
  simp only [List.contains_iff_mem]
  rw [localPath_eq]
  by_cases hempty : cleanKey key = ""
  · rw [if_pos (Or.inl hempty), if_pos (Or.inl hempty)]
    rfl
  · by_cases hdots : ['.', '.'] ∈ segments (cleanKey key)
    · rw [if_pos (Or.inr hdots), if_pos (Or.inr (Or.inl hdots))]
      rfl
    · rw [if_neg (by simp [hempty, hdots])]
      by_cases hnull : '\x00' ∈ (cleanKey key).toList
      · rw [if_pos hnull, if_pos (Or.inr (Or.inr hnull))]
        rfl
      · rw [if_neg hnull, if_neg (by simp [hempty, hdots, hnull]), resolve_divide hroot hdots,
          relativeTo_append, Option.map_some, Option.map_some]

/-- A key that would resolve outside the root is not a path. -/
theorem localPath_of_outside (hroot : ['.', '.'] ∉ root) (h : ResolvesOutside root key) :
    localPath key = none := by
  by_cases hdots : ['.', '.'] ∈ segments (cleanKey key)
  · rw [localPath_eq, if_pos (Or.inr (Or.inl hdots))]
  · refine absurd ?_ h
    rw [resolve_divide hroot hdots]
    exact List.prefix_append _ _

/-! ### Directories -/

/-- Below an existing root no directory above it is made. -/
theorem prefix_mkdirPaths (rel : PathParts) :
    ∀ path ∈ mkdirPaths root t (root ++ rel).reverse, root <+: path := by
  induction rel using List.reverseRecOn with
  | nil =>
    rw [List.append_nil]
    cases hup : root.reverse with
    | nil =>
      intro path hpath
      obtain rfl : root = [] := List.reverse_eq_nil_iff.mp hup
      exact List.nil_prefix
    | cons name up =>
      have hroot : root = up.reverse ++ [name] := by
        rw [← List.reverse_reverse root, hup, List.reverse_cons]
      have habove : isDirAt root t up.reverse = true := by
        unfold isDirAt
        rw [List.isPrefixOf_iff_prefix.mpr (hroot ▸ List.prefix_append _ _)]
        rfl
      intro path hpath
      unfold mkdirPaths at hpath
      rw [habove, Bool.true_or, if_pos rfl, List.mem_singleton, List.reverse_cons] at hpath
      rw [hpath, ← hroot]
  | append_singleton rel part ih =>
    rw [← List.append_assoc, List.reverse_append, List.reverse_singleton, List.singleton_append]
    intro path hpath
    unfold mkdirPaths at hpath
    rcases List.mem_cons.mp hpath with rfl | hpath
    · rw [List.reverse_cons, List.reverse_reverse, List.append_assoc]
      exact List.prefix_append _ _
    · split at hpath
      · cases hpath
      · exact ih path hpath

/-- For the root itself its parent is made. -/
theorem parent_mem_mkdirPaths : root.dropLast ∈ mkdirPaths root t root.dropLast.reverse := by
  cases hup : root.dropLast.reverse with
  | nil =>
    rw [List.reverse_eq_nil_iff.mp hup]
    exact List.mem_cons_self
  | cons name up =>
    rw [← List.reverse_reverse root.dropLast, hup]
    exact List.mem_cons_self

theorem prefix_writePaths {rel : PathParts} (hrel : root = [] ∨ rel ≠ []) :
    ∀ path ∈ writePaths root t (root ++ rel), root <+: path := by
  intro path hpath
  unfold writePaths at hpath
  rcases List.mem_append.mp hpath with hpath | hpath
  · rcases hrel with rfl | hrel
    · exact List.nil_prefix
    · rw [List.dropLast_append_of_ne_nil hrel] at hpath
      exact prefix_mkdirPaths rel.dropLast path hpath
  · split at hpath
    · cases hpath
    · obtain rfl := List.mem_singleton.mp hpath
      exact List.prefix_append _ _

/-- A file at the root itself: the parent of the root is touched. -/
theorem parent_mem_writePaths : root.dropLast ∈ writePaths root t root :=
  List.mem_append_left _ parent_mem_mkdirPaths

theorem not_prefix_parent (h : root ≠ []) : ¬ root <+: root.dropLast := by
  intro hprefix
  have hle := hprefix.length_le
  rw [List.length_dropLast] at hle
  have hpos : 0 < root.length := List.length_pos_iff.mpr h
  omega

/-! ### Listings -/

/-- The directory and the text of a listing, as `listPlace` gives them below the root. -/
theorem listParent_eq (base : PathParts) :
    listParent root (root ++ base) = root ++ (listPlace (rootName root) base).1 ∧
    (root ++ base).getLast?.getD [] = (listPlace (rootName root) base).2 := by
  unfold listParent listPlace
  rcases List.eq_nil_or_concat base with rfl | ⟨above, name, rfl⟩
  · simp [rootName]
  · rw [List.concat_eq_append, List.getLast?_concat, ← List.append_assoc, List.dropLast_concat,
      List.getLast?_concat]
    refine ⟨?_, rfl⟩
    dsimp only
    rw [List.dropLast_concat]
    by_cases hsame : root ++ above = root.dropLast
    · -- only where the root is the whole file system
      have hlength := congrArg List.length hsame
      rw [List.length_append, List.length_dropLast] at hlength
      have hroot : root = [] := List.length_eq_zero_iff.mp (by omega)
      have habove : above = [] := List.length_eq_zero_iff.mp (by omega)
      rw [hroot, habove]
      rfl
    · rw [if_pos hsame]

theorem absoluteBase_eq (hroot : ['.', '.'] ∉ root) (start : String) :
    absoluteBase root start = (listBase start).map (root ++ ·) := by
  unfold absoluteBase listBase
  by_cases hslash : '/' ∈ start.toList
  · rw [if_pos hslash, if_pos hslash, absolutePath_eq hroot]
  · have hhead : start.toList.head? ≠ some '/' := fun hhead => hslash (List.mem_of_mem_head? hhead)
    have hsegments : segments start = [start.toList] := List.splitOn_eq_singleton hslash
    rw [if_neg hslash, if_neg hslash, divide, if_neg hhead, hsegments]
    by_cases hplain : start = "" ∨ start = "."
    · rw [if_pos hplain]
      rcases hplain with rfl | rfl
      · rfl
      · rfl
    · rw [if_neg hplain]
      rw [not_or] at hplain
      have hne : start.toList ≠ [] := fun h => hplain.1 (String.toList_injective h)
      have hdot : start.toList ≠ ['.'] := fun h => hplain.2 (String.toList_injective h)
      simp [hne, hdot]

theorem isDirAt_append (rel : PathParts) : isDirAt root t (root ++ rel) = isDir t rel := by
  unfold isDirAt isDir
  rw [relativeTo_append]
  cases rel with
  | nil => simp
  | cons part rel =>
    have hlonger : (root ++ part :: rel).isPrefixOf root = false := by
      rw [← Bool.not_eq_true, List.isPrefixOf_iff_prefix]
      intro hprefix
      have hle := hprefix.length_le
      rw [List.length_append, List.length_cons] at hle
      omega
    rw [hlonger]
    rfl

theorem isFileAt_append (rel : PathParts) : isFileAt root t (root ++ rel) = isFile t rel := by
  unfold isFileAt
  rw [relativeTo_append]
  rfl

/-- What a pattern finds lies in the directory that it is looked for in. -/
theorem prefix_globPaths {above : PathParts} {pattern : List Char} :
    ∀ path ∈ globPaths root t (root ++ above) pattern, root <+: path := by
  intro path hpath
  unfold globPaths at hpath
  split at hpath
  · obtain ⟨hmem, _⟩ := List.mem_filter.mp hpath
    obtain ⟨dir, _, rfl⟩ := List.mem_map.mp hmem
    exact List.prefix_append _ _
  · split at hpath
    · cases hpath
    · obtain ⟨hmem, _⟩ := List.mem_filter.mp hpath
      obtain ⟨file, _, rfl⟩ := List.mem_map.mp hmem
      exact List.prefix_append _ _

/-- What the pattern finds in the tree it finds on the disk. -/
theorem mem_globPaths {above rel : PathParts} {pattern : List Char} {paths : List PathParts}
    (h : glob t above pattern = .ok paths) (hrel : rel ∈ paths) :
    root ++ rel ∈ globPaths root t (root ++ above) pattern := by
  unfold glob at h
  unfold globPaths
  split at h
  · cases h
    cases hrel
  · rename_i hstars
    rw [if_neg hstars]
    split at h
    · cases h
    · rename_i hdouble
      cases h
      rw [if_neg hdouble]
      obtain ⟨hmem, hmatch⟩ := List.mem_filter.mp hrel
      obtain ⟨file, hfile, rfl⟩ := List.mem_map.mp hmem
      refine List.mem_filter.mpr ⟨List.mem_map.mpr ⟨file, hfile, rfl⟩, ?_⟩
      have hne : file.path ≠ [] := by
        intro hnil
        rw [hnil] at hmatch
        simp at hmatch
      rw [List.dropLast_append_of_ne_nil hne, List.getLast?_append_of_ne_nil _ hne]
      simpa using hmatch

/-! ### Calls -/

/-- The call writes a file at the root itself. -/
def WritesRoot (t : Tree) : StoreCall String Bytes String → Prop
  | .save key _ => localPath key = some []
  | .move srcKey dstKey =>
    localPath dstKey = some [] ∧ ∃ src, localPath srcKey = some src ∧ src ≠ [] ∧ isFile t src = true
  | .delete _ | .has _ | .list _ => False

/-- The answer to a key that is not a path. -/
def refusal : StoreCall String Bytes String → StoreAnswer String
  | .save _ _ => .raised
  | .delete _ | .move _ _ => .done
  | .has _ => .found false
  | .list _ => .keys []

/-- Every path that a call touches or returns is inside the root, and a key that would resolve outside is
refused and touches nothing. -/
structure StaysInside (root : PathParts) (t : Tree) (call : StoreCall String Bytes String) : Prop where
  inside : ∀ path ∈ accesses root t call, root <+: path
  returned : ∀ keys, (serve t (rootName root) call).2 = .keys keys →
    ∀ key ∈ keys, ∃ rel, key = joinPath rel ∧ root ++ rel ∈ accesses root t call
  refused : ∀ key ∈ call.names, ResolvesOutside root key →
    accesses root t call = [] ∧ serve t (rootName root) call = (t, refusal call)

theorem accesses_save (data : Bytes) :
    accesses root t (.save key data) = (absolutePath root key).elim [] (writePaths root t) := by
  unfold accesses
  dsimp only
  cases absolutePath root key with
  | none => rfl
  | some path => rfl

theorem accesses_delete : accesses root t (.delete key) = (absolutePath root key).toList := by
  unfold accesses
  dsimp only
  cases absolutePath root key with
  | none => rfl
  | some path => rfl

theorem accesses_has : accesses root t (.has key) = (absolutePath root key).toList := by
  unfold accesses
  dsimp only
  cases absolutePath root key with
  | none => rfl
  | some path => rfl

theorem accesses_move {srcKey dstKey : String} : accesses root t (.move srcKey dstKey) =
    (absolutePath root srcKey).elim [] fun src => (absolutePath root dstKey).elim [] fun dst =>
      src :: if !isFileAt root t src || src == dst then [] else writePaths root t dst := by
  unfold accesses
  dsimp only
  cases absolutePath root srcKey with
  | none => rfl
  | some src =>
    cases absolutePath root dstKey with
    | none => rfl
    | some dst => rfl

theorem accesses_list {start : String} : accesses root t (.list start) =
    (absoluteBase root start).elim [] fun base => listParent root base ::
      if isDirAt root t (listParent root base) then
        globPaths root t (listParent root base) (base.getLast?.getD [] ++ ['*'])
      else [] := by
  unfold accesses
  dsimp only
  cases absoluteBase root start with
  | none => rfl
  | some base => rfl

theorem accesses_of_none (hroot : ['.', '.'] ∉ root) {call : StoreCall String Bytes String}
    (hkey : key ∈ call.names) (h : localPath key = none) :
    accesses root t call = [] ∧ serve t (rootName root) call = (t, refusal call) := by
  have habsolute : absolutePath root key = none := by
    rw [absolutePath_eq hroot, h]
    rfl
  refine ⟨?_, ?_⟩
  · cases call with
    | save key' data =>
      obtain rfl := List.mem_singleton.mp hkey
      rw [accesses_save, habsolute]
      rfl
    | delete key' =>
      obtain rfl := List.mem_singleton.mp hkey
      rw [accesses_delete, habsolute]
      rfl
    | has key' =>
      obtain rfl := List.mem_singleton.mp hkey
      rw [accesses_has, habsolute]
      rfl
    | move srcKey dstKey =>
      rw [accesses_move]
      rcases List.mem_cons.mp hkey with rfl | hkey
      · rw [habsolute]
        rfl
      · obtain rfl := List.mem_singleton.mp hkey
        rw [habsolute]
        cases absolutePath root srcKey with
        | none => rfl
        | some src => rfl
    | list start => cases hkey
  · cases call with
    | save key' data =>
      obtain rfl := List.mem_singleton.mp hkey
      show answered t (save t key data) = _
      unfold save
      rw [h]
      rfl
    | delete key' =>
      obtain rfl := List.mem_singleton.mp hkey
      show (LocalFilesystemStorage.delete t key, StoreAnswer.done) = _
      unfold LocalFilesystemStorage.delete
      rw [h]
      rfl
    | has key' =>
      obtain rfl := List.mem_singleton.mp hkey
      show (t, StoreAnswer.found (exists' t key)) = _
      unfold exists'
      rw [h]
      rfl
    | move srcKey dstKey =>
      show answered t (move t srcKey dstKey) = _
      unfold move
      rcases List.mem_cons.mp hkey with rfl | hkey
      · rw [h]
        rfl
      · obtain rfl := List.mem_singleton.mp hkey
        rw [h]
        cases localPath srcKey with
        | none => rfl
        | some src => rfl
    | list start => cases hkey

theorem answered_ne_keys (result : Except PathError Tree) (keys : List String) :
    (answered t result).2 ≠ .keys keys := by
  cases result with
  | error e => nofun
  | ok t' => nofun

/-- What a listing returns is among what its pattern finds. -/
theorem listed_accessed (hroot : ['.', '.'] ∉ root) {start : String} {keys : List String}
    (h : listPrefix t (rootName root) start = .ok keys) :
    ∀ key ∈ keys, ∃ rel, key = joinPath rel ∧ root ++ rel ∈ accesses root t (.list start) := by
  unfold listPrefix at h
  cases hbase : listBase start with
  | none =>
    rw [hbase] at h
    cases h
    nofun
  | some base =>
    obtain ⟨hparent, hname⟩ := @listParent_eq root base
    rw [hbase] at h
    dsimp only at h
    split at h
    · cases h
      nofun
    · rename_i hdir
      obtain ⟨paths, hpaths, h⟩ := Fallible.bind_eq_ok.mp h
      cases h
      intro key hkey
      obtain ⟨rel, hrel, rfl⟩ := List.mem_map.mp hkey
      refine ⟨rel, rfl, ?_⟩
      have hexists : isDir t (listPlace (rootName root) base).1 = true := by simpa using hdir
      simp only [accesses_list, absoluteBase_eq hroot, hbase, Option.elim_some, Option.map_some, hparent,
        hname, isDirAt_append, hexists, if_true]
      exact List.mem_cons_of_mem _ (mem_globPaths hpaths hrel)

/-- Apart from a file at the root itself, everything is below the root. -/
theorem inside_of_not_writesRoot (hroot : ['.', '.'] ∉ root) {call : StoreCall String Bytes String}
    (h : root = [] ∨ ¬ WritesRoot t call) : ∀ path ∈ accesses root t call, root <+: path := by
  intro path hpath
  cases call with
  | save key data =>
    simp only [accesses_save, absolutePath_eq hroot] at hpath
    cases hkey : localPath key with
    | none =>
      rw [hkey] at hpath
      cases hpath
    | some rel =>
      rw [hkey] at hpath
      refine prefix_writePaths (h.imp_right fun hno hrel => hno ?_) path hpath
      rw [WritesRoot, hkey, hrel]
  | delete key | has key =>
    simp only [accesses_delete, accesses_has, absolutePath_eq hroot] at hpath
    cases hkey : localPath key with
    | none =>
      rw [hkey] at hpath
      cases hpath
    | some rel =>
      rw [hkey] at hpath
      rw [List.mem_singleton.mp hpath]
      exact List.prefix_append _ _
  | move srcKey dstKey =>
    simp only [accesses_move, absolutePath_eq hroot] at hpath
    cases hsrc : localPath srcKey with
    | none =>
      rw [hsrc] at hpath
      cases hpath
    | some src =>
      cases hdst : localPath dstKey with
      | none =>
        rw [hsrc, hdst] at hpath
        cases hpath
      | some dst =>
        rw [hsrc, hdst] at hpath
        simp only [Option.map_some, Option.elim_some, isFileAt_append] at hpath
        rcases List.mem_cons.mp hpath with rfl | hpath
        · exact List.prefix_append _ _
        · split at hpath
          · cases hpath
          · rename_i hgo
            refine prefix_writePaths (h.imp_right fun hno hrel => hno ?_) path hpath
            subst hrel
            rw [Bool.or_eq_true, not_or, beq_iff_eq, List.append_right_inj] at hgo
            exact ⟨hdst, src, hsrc, hgo.2, by simpa using hgo.1⟩
  | list start =>
    simp only [accesses_list, absoluteBase_eq hroot] at hpath
    cases hbase : listBase start with
    | none =>
      rw [hbase] at hpath
      cases hpath
    | some base =>
      rw [hbase] at hpath
      simp only [Option.map_some, Option.elim_some, (listParent_eq base).1] at hpath
      rcases List.mem_cons.mp hpath with rfl | hpath
      · exact List.prefix_append _ _
      · split at hpath
        · exact prefix_globPaths path hpath
        · cases hpath

theorem writesRoot_outside (hroot : ['.', '.'] ∉ root) (hne : root ≠ [])
    {call : StoreCall String Bytes String} (h : WritesRoot t call) :
    ∃ path ∈ accesses root t call, ¬ root <+: path := by
  refine ⟨root.dropLast, ?_, not_prefix_parent hne⟩
  cases call with
  | save key data =>
    rw [WritesRoot] at h
    simp only [accesses_save, absolutePath_eq hroot, h, Option.map_some, Option.elim_some, List.append_nil]
    exact parent_mem_writePaths
  | move srcKey dstKey =>
    obtain ⟨hdst, src, hsrc, hsrcNe, hfile⟩ := h
    have hdiffer : (root ++ src == root ++ []) = false := by
      rw [beq_eq_false_iff_ne, ne_eq, List.append_right_inj]
      exact hsrcNe
    simp only [accesses_move, absolutePath_eq hroot, hsrc, hdst, Option.map_some, Option.elim_some,
      isFileAt_append, hfile, hdiffer]
    rw [List.append_nil]
    exact List.mem_cons_of_mem _ parent_mem_writePaths
  | delete key | has key | list start => cases h

/-- On every tree a call stays inside the root exactly when it does not write a file at the root itself, or
the root is the whole file system. -/
theorem staysInside_iff (dir : PathParts) (t : Tree) (call : StoreCall String Bytes String) :
    StaysInside (resolve dir) t call ↔ resolve dir = [] ∨ ¬ WritesRoot t call := by
  have hroot := not_mem_resolve dir
  constructor
  · intro h
    by_contra hboth
    rw [not_or, not_not] at hboth
    obtain ⟨path, hpath, houtside⟩ := writesRoot_outside hroot hboth.1 hboth.2
    exact houtside (h.inside path hpath)
  · intro h
    refine ⟨inside_of_not_writesRoot hroot h, ?_, ?_⟩
    · intro keys hkeys
      cases call with
      | list start =>
        cases hfound : listPrefix t (rootName (resolve dir)) start with
        | error e =>
          rw [serve, hfound] at hkeys
          cases hkeys
        | ok found =>
          rw [serve, hfound] at hkeys
          cases hkeys
          exact listed_accessed hroot hfound
      | save key data =>
        rw [serve] at hkeys
        exact absurd hkeys (answered_ne_keys _ keys)
      | delete key => cases hkeys
      | has key => cases hkeys
      | move srcKey dstKey =>
        rw [serve] at hkeys
        exact absurd hkeys (answered_ne_keys _ keys)
    · intro key hkey houtside
      exact accesses_of_none hroot hkey (localPath_of_outside hroot houtside)

end

/-- An empty tree under `/srv/media`. -/
def srvMedia : PathParts := ["srv".toList, "media".toList]

/-- Saving under the key `.` goes to the directory above the root. -/
theorem dot_leaves_root : ¬ StaysInside (resolve srvMedia) ⟨.empty, []⟩ (.save "." []) := by
  intro h
  have hparent : ["srv".toList] ∈ accesses (resolve srvMedia) ⟨.empty, []⟩ (.save "." []) := by decide
  exact absurd (h.inside _ hparent) (by decide)

end MediaRoot

end RatingLift
