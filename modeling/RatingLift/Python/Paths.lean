import Mathlib.Data.List.Infix
import RatingLift.Python.Str

/-!
# Paths and glob patterns

A relative path as the list of its components, and the file name patterns of `fnmatch`: `*` stands for any
text, `?` for any character, `[seq]` for a character of `seq`, where `a-z` is a range, and `[!seq]` for any
other one.

* (`segments_joinPath`, `joinPath_segments`) a path and its components determine each other;
* (`resolve_append`) components without `..` do not leave the directory that they are resolved in;
* (`fnmatch_star_iff`) a plain text followed by `*` matches what starts with the text.
-/

namespace RatingLift

namespace Py

/-! ### Components -/

/-- The components of a path, each the list of its characters. -/
abbrev PathParts := List (List Char)

/-- `s.split("/")` -/
def segments (s : String) : PathParts := s.toList.splitOn '/'

/-- `"/".join(parts)` -/
def joinPath (parts : PathParts) : String := String.ofList (['/'].intercalate parts)

/-- A relative path without empty, `.` or `..` components and without characters that a component cannot
have. -/
structure PlainPath (s : String) : Prop where
  segment : ∀ part ∈ segments s, part ≠ [] ∧ part ≠ ['.'] ∧ part ≠ ['.', '.']
  noBackslash : '\\' ∉ s.toList
  noNull : '\x00' ∉ s.toList

instance (s : String) : Decidable (PlainPath s) :=
  decidable_of_iff ((∀ part ∈ segments s, part ≠ [] ∧ part ≠ ['.'] ∧ part ≠ ['.', '.']) ∧ '\\' ∉ s.toList ∧
    '\x00' ∉ s.toList) ⟨fun h => ⟨h.1, h.2.1, h.2.2⟩, fun h => ⟨h.1, h.2, h.3⟩⟩

@[simp] theorem joinPath_segments (s : String) : joinPath (segments s) = s := by
  unfold joinPath segments
  rw [List.intercalate_splitOn, String.ofList_toList]

theorem segments_joinPath {parts : PathParts} (hne : parts ≠ []) (h : ∀ part ∈ parts, '/' ∉ part) :
    segments (joinPath parts) = parts := by
  unfold joinPath segments
  rw [String.toList_ofList, List.splitOn_intercalate '/' h hne]

theorem segments_injective : Function.Injective segments := by
  intro s t h
  rw [← joinPath_segments s, h, joinPath_segments]

@[simp] theorem segments_ne_nil (s : String) : segments s ≠ [] := List.splitOn_ne_nil '/' s.toList

theorem not_slash_of_mem_splitOn {l part : List Char} (h : part ∈ l.splitOn '/') : '/' ∉ part := by
  induction l generalizing part with
  | nil =>
    obtain rfl : part = [] := by simpa using h
    exact List.not_mem_nil
  | cons c l ih =>
    rw [List.splitOn_cons_eq_if_modifyHead] at h
    split at h
    · rcases List.mem_cons.mp h with rfl | h
      · exact List.not_mem_nil
      · exact ih h
    · rename_i hc
      cases hl : l.splitOn '/' with
      | nil => exact absurd hl (List.splitOn_ne_nil '/' l)
      | cons first rest =>
        rw [hl] at h ih
        rcases List.mem_cons.mp h with rfl | h
        · intro hmem
          rcases List.mem_cons.mp hmem with hslash | hmem
          · exact hc (by simp [← hslash])
          · exact ih List.mem_cons_self hmem
        · exact ih (List.mem_cons_of_mem _ h)

theorem not_slash_of_mem_segments {s : String} {part : List Char} (h : part ∈ segments s) : '/' ∉ part :=
  not_slash_of_mem_splitOn h

/-- More text after the last component, without a slash. -/
theorem joinPath_concat_append (dir : PathParts) (name rest : List Char) :
    joinPath (dir ++ [name ++ rest]) = joinPath (dir ++ [name]) ++ String.ofList rest := by
  apply String.toList_injective
  unfold joinPath
  rw [String.toList_append, String.toList_ofList, String.toList_ofList, String.toList_ofList]
  induction dir with
  | nil => simp
  | cons part dir ih =>
    rw [List.cons_append, List.cons_append, List.intercalate_cons_of_ne_nil (by simp),
      List.intercalate_cons_of_ne_nil (by simp), ih]
    simp

theorem head?_ne_slash_of_plain {s : String} (h : PlainPath s) : s.toList.head? ≠ some '/' := by
  intro hhead
  cases hs : s.toList with
  | nil =>
    rw [hs] at hhead
    cases hhead
  | cons c l =>
    rw [hs] at hhead
    obtain rfl : c = '/' := by simpa using hhead
    have hmem : [] ∈ segments s := by
      unfold segments
      rw [hs, List.splitOn_cons_eq_if_modifyHead]
      simp
    exact (h.segment [] hmem).1 rfl

/-- What a path is followed by in its directory. -/
theorem append_iff_segments {p k : String} {dir : PathParts} {name : List Char}
    (hp : segments p = dir ++ [name]) :
    (∃ rest, k = p ++ rest ∧ '/' ∉ rest.toList) ↔ ∃ x, segments k = dir ++ [x] ∧ name <+: x := by
  have hjoin : joinPath (dir ++ [name]) = p := by rw [← hp, joinPath_segments]
  constructor
  · rintro ⟨rest, rfl, hrest⟩
    refine ⟨name ++ rest.toList, ?_, List.prefix_append _ _⟩
    have hk : p ++ rest = joinPath (dir ++ [name ++ rest.toList]) := by
      rw [joinPath_concat_append, hjoin, String.ofList_toList]
    rw [hk]
    refine segments_joinPath (by simp) ?_
    intro part hpart
    rcases List.mem_append.mp hpart with hdir | hlast
    · exact not_slash_of_mem_segments (hp ▸ List.mem_append_left _ hdir)
    · obtain rfl := List.mem_singleton.mp hlast
      have hname : '/' ∉ name := not_slash_of_mem_segments (hp ▸ List.mem_append_right _ List.mem_cons_self)
      simp [hname, hrest]
  · rintro ⟨x, hk, rest, rfl⟩
    refine ⟨String.ofList rest, ?_, ?_⟩
    · rw [← joinPath_segments k, hk, joinPath_concat_append, hjoin]
    · have hx : '/' ∉ name ++ rest :=
        not_slash_of_mem_segments (hk ▸ List.mem_append_right _ List.mem_cons_self)
      rw [String.toList_ofList]
      exact fun hmem => hx (List.mem_append_right _ hmem)

/-! ### Absolute paths -/

/-- `base / s`: empty and `.` components are dropped, and an absolute `s` replaces `base`. -/
def divide (base : PathParts) (s : String) : PathParts :=
  let parts := (segments s).filter fun part => part ≠ [] ∧ part ≠ ['.']
  if s.toList.head? = some '/' then parts else base ++ parts

/-- `path.resolve()` where nothing is a symbolic link: a `..` takes away the component before it. -/
def resolve (parts : PathParts) : PathParts :=
  parts.foldl (fun done part => if part = ['.', '.'] then done.dropLast else done ++ [part]) []

/-- `path.relative_to(root)` -/
def relativeTo (path root : PathParts) : Option PathParts :=
  if root <+: path then some (path.drop root.length) else none

theorem relativeTo_eq_some {path root rel : PathParts} :
    relativeTo path root = some rel ↔ path = root ++ rel := by
  unfold relativeTo
  split
  · rename_i hprefix
    obtain ⟨rest, rfl⟩ := hprefix
    simp
  · rename_i hprefix
    constructor
    · nofun
    · rintro rfl
      exact absurd (List.prefix_append root rel) hprefix

theorem relativeTo_append (root rel : PathParts) : relativeTo (root ++ rel) root = some rel :=
  relativeTo_eq_some.mpr rfl

/-- Components without `..` stay behind what comes before them. -/
theorem resolve_append {base parts : PathParts} (h : ['.', '.'] ∉ parts) :
    resolve (base ++ parts) = resolve base ++ parts := by
  induction parts using List.reverseRecOn with
  | nil => simp
  | append_singleton parts part ih =>
    rw [List.mem_append, not_or, List.mem_singleton] at h
    have hpart : part ≠ ['.', '.'] := fun heq => h.2 heq.symm
    have hstep : resolve (base ++ parts ++ [part]) = resolve (base ++ parts) ++ [part] := by
      unfold resolve
      rw [List.foldl_append, List.foldl_cons, List.foldl_nil, if_neg hpart]
    rw [← List.append_assoc, hstep, ih h.1, List.append_assoc]

/-- A resolved path has no `..`. -/
theorem not_mem_resolve (parts : PathParts) : ['.', '.'] ∉ resolve parts := by
  induction parts using List.reverseRecOn with
  | nil => exact List.not_mem_nil
  | append_singleton parts part ih =>
    unfold resolve at ih ⊢
    rw [List.foldl_append, List.foldl_cons, List.foldl_nil]
    split
    · exact fun hmem => ih (List.dropLast_subset _ hmem)
    · rename_i hpart
      rw [List.mem_append, not_or, List.mem_singleton]
      exact ⟨ih, fun heq => hpart heq.symm⟩

theorem resolve_resolve (parts : PathParts) : resolve (resolve parts) = resolve parts := by
  have happend : resolve ([] ++ resolve parts) = [] ++ resolve parts := resolve_append (not_mem_resolve parts)
  rwa [List.nil_append] at happend

/-! ### Patterns -/

inductive GlobItem where
  | star
  | any
  | set (negated : Bool) (ranges : List (Char × Char))
  | lit (c : Char)
deriving DecidableEq

/-- The characters and ranges of `seq`. -/
def seqRanges : List Char → List (Char × Char)
  | lo :: '-' :: hi :: rest => (lo, hi) :: seqRanges rest
  | c :: rest => (c, c) :: seqRanges rest
  | [] => []

/-- What stands between a `[` and its `]`, and what follows; a `]` right after `[` or `[!` is part of the
set. -/
def bracket? (l : List Char) : Option (GlobItem × List Char) :=
  let (negated, l) := match l with
    | '!' :: rest => (true, rest)
    | l => (false, l)
  let (first, l) := match l with
    | ']' :: rest => ([']'], rest)
    | l => ([], l)
  match l.span (· ≠ ']') with
  | (seq, _ :: rest) => some (.set negated (seqRanges (first ++ seq)), rest)
  | (_, []) => none

/-- Reads a pattern, of which every turn uses up a character; a `[` without its `]` stands for itself. -/
def globItems : Nat → List Char → List GlobItem
  | 0, _ => []
  | _, [] => []
  | n + 1, c :: l =>
    if c = '*' then .star :: globItems n l
    else if c = '?' then .any :: globItems n l
    else if c = '[' then
      match bracket? l with
      | some (item, rest) => item :: globItems n rest
      | none => .lit c :: globItems n l
    else .lit c :: globItems n l

def GlobItem.matches (c : Char) : GlobItem → Bool
  | star => false
  | any => true
  | set negated ranges => (ranges.any fun range => range.1 ≤ c && c ≤ range.2) != negated
  | lit d => d == c

def matchItems : List GlobItem → List Char → Bool
  | [], name => name.isEmpty
  | .star :: items, name => name.tails.any fun rest => matchItems items rest
  | item :: items, c :: name => item.matches c && matchItems items name
  | _ :: _, [] => false

/-- `fnmatch.fnmatchcase(name, pattern)` -/
def fnmatch (name pattern : List Char) : Bool := matchItems (globItems pattern.length pattern) name

/-- The characters that a pattern gives a meaning to. -/
def globSpecial (c : Char) : Bool := c == '*' || c == '?' || c == '['

theorem globItems_cons (n : Nat) (c : Char) (l : List Char) :
    globItems (n + 1) (c :: l) =
      if c = '*' then .star :: globItems n l
      else if c = '?' then .any :: globItems n l
      else if c = '[' then
        match bracket? l with
        | some (item, rest) => item :: globItems n rest
        | none => .lit c :: globItems n l
      else .lit c :: globItems n l := rfl

theorem globItems_plain {l rest : List Char} (h : ∀ c ∈ l, globSpecial c = false) (n : Nat) :
    globItems (l.length + n) (l ++ rest) = l.map .lit ++ globItems n rest := by
  induction l with
  | nil => simp
  | cons c l ih =>
    have hc := h c List.mem_cons_self
    simp only [globSpecial, Bool.or_eq_false_iff, beq_eq_false_iff_ne] at hc
    have hlen : (c :: l).length + n = (l.length + n) + 1 := by rw [List.length_cons]; omega
    rw [hlen, List.cons_append, globItems_cons]
    rw [if_neg hc.1.1, if_neg hc.1.2, if_neg hc.2, ih fun x hx => h x (List.mem_cons_of_mem _ hx)]
    rfl

theorem matchItems_lits {l x : List Char} {items : List GlobItem} :
    matchItems (l.map .lit ++ items) x = true ↔ ∃ rest, x = l ++ rest ∧ matchItems items rest = true := by
  induction l generalizing x with
  | nil => simp
  | cons c l ih =>
    cases x with
    | nil => simp [matchItems]
    | cons d x =>
      show (GlobItem.matches d (.lit c) && matchItems (l.map .lit ++ items) x) = true ↔ _
      rw [Bool.and_eq_true, ih]
      constructor
      · rintro ⟨hcd, rest, rfl, hrest⟩
        obtain rfl : c = d := by simpa [GlobItem.matches] using hcd
        exact ⟨rest, rfl, hrest⟩
      · rintro ⟨rest, hx, hrest⟩
        obtain ⟨rfl, rfl⟩ := List.cons.inj hx
        exact ⟨by simp [GlobItem.matches], rest, rfl, hrest⟩

/-- A text without special characters, followed by `*`. -/
theorem fnmatch_star_iff {name x : List Char} (h : ∀ c ∈ name, globSpecial c = false) :
    fnmatch x (name ++ ['*']) = true ↔ name <+: x := by
  have hitems : globItems (name ++ ['*']).length (name ++ ['*']) = name.map .lit ++ [.star] := by
    rw [List.length_append]
    exact globItems_plain h 1
  unfold fnmatch
  rw [hitems, matchItems_lits]
  constructor
  · rintro ⟨rest, rfl, _⟩
    exact List.prefix_append _ _
  · rintro ⟨rest, rfl⟩
    refine ⟨rest, rfl, ?_⟩
    show rest.tails.any (fun rest => matchItems [] rest) = true
    rw [List.any_eq_true]
    exact ⟨[], (List.mem_tails [] rest).mpr List.nil_suffix, rfl⟩

end Py

end RatingLift
