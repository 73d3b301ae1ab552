import Mathlib.Data.List.Basic
import Mathlib.Data.List.DropRight

/-!
# Python strings

The operations of `str` that the service calls, on the characters of a string.  White space is the set of
`str.isspace`.  `str.lower` follows the Unicode tables and is a parameter wherever it is used; `asciiLower` is
its value on ASCII text.
-/

namespace RatingLift

/-- A value of type `bytes`. -/
abbrev Bytes := List UInt8

namespace Py

/-- `str.isspace` of one character. -/
def isSpace (c : Char) : Bool :=
  let n := c.toNat
  (0x09 ≤ n && n ≤ 0x0D) || (0x1C ≤ n && n ≤ 0x20) || n == 0x85 || n == 0xA0 || n == 0x1680 ||
    (0x2000 ≤ n && n ≤ 0x200A) || n == 0x2028 || n == 0x2029 || n == 0x202F || n == 0x205F || n == 0x3000

/-- Drops the characters of `p` at both ends. -/
def stripChars (p : Char → Bool) (l : List Char) : List Char :=
  ((l.dropWhile p).reverse.dropWhile p).reverse

/-- `s.strip()` -/
def strip (s : String) : String := String.ofList (stripChars isSpace s.toList)

/-- `s.replace(old, new)` for one-character arguments. -/
def replaceChar (s : String) (old new : Char) : String :=
  String.ofList (s.toList.map fun c => if c = old then new else c)

/-- `s.replace(c, "")` for one character. -/
def removeChar (s : String) (c : Char) : String := String.ofList (s.toList.filter (· ≠ c))

/-- `s.split(sep, 1)[0]` for a one-character separator. -/
def beforeFirst (s : String) (sep : Char) : String :=
  String.ofList (s.toList.takeWhile (· ≠ sep))

/-- `s[:n]` -/
def prefixOf (s : String) (n : Nat) : String := String.ofList (s.toList.take n)

/-- `s.startswith(p)` -/
def startsWith (s p : String) : Bool := p.toList.isPrefixOf s.toList

/-- `s[len(p):]` where `s.startswith(p)` -/
def dropPrefix? (s p : String) : Option String :=
  if startsWith s p then some (String.ofList (s.toList.drop p.toList.length)) else none

/-- `s.endswith(p)` -/
def endsWith (s p : String) : Bool := p.toList.isSuffixOf s.toList

/-- `s.strip(c)` for one character. -/
def stripChar (s : String) (c : Char) : String := String.ofList (stripChars (· = c) s.toList)

/-- `s.rsplit(c, 1)[-1]` where `c` occurs in `s`: what follows the last `c`. -/
def afterLast? (s : String) (c : Char) : Option String :=
  if s.toList.contains c then some (String.ofList (s.toList.reverse.takeWhile (· ≠ c)).reverse) else none

/-- `s.rpartition(c)` without the separator: what stands before and after the last `c`. -/
def rpartition (s : String) (c : Char) : String × String :=
  (String.ofList (s.toList.reverse.dropWhile (· ≠ c)).tail.reverse,
    String.ofList (s.toList.reverse.takeWhile (· ≠ c)).reverse)

/-- `s.lstrip(c)` for one character. -/
def lstripChar (s : String) (c : Char) : String := String.ofList (s.toList.dropWhile (· = c))

/-- `s.rstrip(c)` for one character. -/
def rstripChar (s : String) (c : Char) : String := String.ofList (s.toList.reverse.dropWhile (· = c)).reverse

/-- `s.split(None, 1)`: the first word and what follows the white space after it. -/
def splitOnce (s : String) : List String :=
  let l := s.toList.dropWhile isSpace
  let rest := (l.dropWhile fun c => !isSpace c).dropWhile isSpace
  if l.isEmpty then []
  else if rest.isEmpty then [String.ofList (l.takeWhile fun c => !isSpace c)]
  else [String.ofList (l.takeWhile fun c => !isSpace c), String.ofList rest]

/-- Removes every occurrence of the non-empty text `pat`, left to right, as `s.replace(pat, "")` does. -/
def removeAll (pat : List Char) (l : List Char) : List Char := go l.length l where
  go : Nat → List Char → List Char
    | 0, l => l
    | _ + 1, [] => []
    | fuel + 1, c :: l =>
      if pat.isPrefixOf (c :: l) then go fuel ((c :: l).drop pat.length) else c :: go fuel l

/-- `str.lower` on ASCII text. -/
def asciiLower (s : String) : String := String.ofList (s.toList.map Char.toLower)

/-- `lower` is `asciiLower` on ASCII texts. -/
def LowersAscii (lower : String → String) : Prop :=
  ∀ s : String, (∀ c ∈ s.toList, c.toNat < 128) → lower s = asciiLower s

theorem replaceChar_eq_self {s : String} {old new : Char} (h : old ∉ s.toList) :
    replaceChar s old new = s := by
  have hmap : s.toList.map (fun c => if c = old then new else c) = s.toList.map id := by
    refine List.map_congr_left ?_
    intro c hc
    have hne : c ≠ old := fun heq => h (heq ▸ hc)
    exact if_neg hne
  unfold replaceChar
  rw [hmap, List.map_id, String.ofList_toList]

theorem removeChar_eq_self {s : String} {c : Char} (h : c ∉ s.toList) : removeChar s c = s := by
  have hkept : s.toList.filter (· ≠ c) = s.toList := by
    rw [List.filter_eq_self]
    intro d hd
    have hne : d ≠ c := fun hd' => h (hd' ▸ hd)
    simpa using hne
  unfold removeChar
  rw [hkept, String.ofList_toList]

theorem mem_removeChar {s : String} {c d : Char} : d ∈ (removeChar s c).toList ↔ d ∈ s.toList ∧ d ≠ c := by
  unfold removeChar
  rw [String.toList_ofList, List.mem_filter]
  simp

theorem stripChars_infix (p : Char → Bool) (l : List Char) : stripChars p l <:+: l :=
  (List.rdropWhile_prefix p (l.dropWhile p)).isInfix.trans (List.dropWhile_suffix p).isInfix

theorem head?_stripChars {p : Char → Bool} {l : List Char} {c : Char} (h : (stripChars p l).head? = some c) :
    p c = false := by
  have hstart : (stripChars p l).dropWhile p = stripChars p l := by
    have htwice := List.dropWhile_idempotent p l
    have hpre : stripChars p l <+: l.dropWhile p := List.rdropWhile_prefix p (l.dropWhile p)
    rw [List.dropWhile_eq_self_iff] at htwice ⊢
    intro hl
    rw [hpre.getElem hl]
    exact htwice _
  have hnot := List.head?_dropWhile_not p (stripChars p l)
  rw [hstart, h] at hnot
  simpa using hnot

theorem getLast?_stripChars {p : Char → Bool} {l : List Char} {c : Char}
    (h : (stripChars p l).getLast? = some c) :
    p c = false := by
  have hnot := List.head?_dropWhile_not p (l.dropWhile p).reverse
  unfold stripChars at h
  rw [List.getLast?_reverse] at h
  rw [h] at hnot
  simpa using hnot

/-- Nothing is stripped where neither the first nor the last character is. -/
theorem stripChars_eq_self_of_ends {p : Char → Bool} {l : List Char} (hhead : ∀ c ∈ l.head?, p c = false)
    (hlast : ∀ c ∈ l.getLast?, p c = false) : stripChars p l = l := by
  have drop : ∀ m : List Char, (∀ c ∈ m.head?, p c = false) → m.dropWhile p = m := by
    intro m hm
    cases m with
    | nil => rfl
    | cons a m => simp [hm a rfl]
  unfold stripChars
  rw [drop l hhead, drop l.reverse, List.reverse_reverse]
  rw [List.head?_reverse]
  exact hlast

theorem stripChars_eq_self {p : Char → Bool} {l : List Char} (h : ∀ c ∈ l, p c = false) :
    stripChars p l = l :=
  stripChars_eq_self_of_ends (fun c hc => h c (List.mem_of_head? hc))
    (fun c hc => h c (List.mem_of_getLast? hc))

theorem stripChars_eq_nil {p : Char → Bool} {l : List Char} : stripChars p l = [] ↔ ∀ c ∈ l, p c = true := by
  unfold stripChars
  rw [List.reverse_eq_nil_iff, List.dropWhile_eq_nil_iff]
  constructor
  · intro h c hc
    rw [← List.takeWhile_append_dropWhile (p := p) (l := l), List.mem_append] at hc
    rcases hc with hc | hc
    · exact List.mem_takeWhile_imp hc
    · exact h c (List.mem_reverse.mpr hc)
  · intro h c hc
    exact h c ((List.dropWhile_suffix p).subset (List.mem_reverse.mp hc))

/-- A text is blank when it is white space throughout. -/
theorem strip_eq_empty {s : String} : strip s = "" ↔ ∀ c ∈ s.toList, isSpace c = true := by
  unfold strip
  rw [← stripChars_eq_nil]
  constructor
  · intro h
    simpa using congrArg String.toList h
  · intro h
    rw [h]

theorem stripChars_stripChars (p : Char → Bool) (l : List Char) :
    stripChars p (stripChars p l) = stripChars p l :=
  stripChars_eq_self_of_ends (fun _ h => head?_stripChars h) (fun _ h => getLast?_stripChars h)

@[simp] theorem strip_strip (s : String) : strip (strip s) = strip s := by
  unfold strip
  rw [String.toList_ofList, stripChars_stripChars]

@[simp] theorem dropPrefix?_append (p s : String) : dropPrefix? (p ++ s) p = some s := by
  have h : p.toList.isPrefixOf (p ++ s).toList = true := by
    rw [List.isPrefixOf_iff_prefix, String.toList_append]
    exact List.prefix_append _ _
  unfold dropPrefix? startsWith
  rw [if_pos h, String.toList_append, List.drop_left, String.ofList_toList]

theorem startsWith_iff {s p : String} : startsWith s p = true ↔ ∃ t, s = p ++ t := by
  unfold startsWith
  rw [List.isPrefixOf_iff_prefix]
  constructor
  · rintro ⟨l, hl⟩
    refine ⟨String.ofList l, ?_⟩
    apply String.toList_injective
    rw [String.toList_append, String.toList_ofList, hl]
  · rintro ⟨t, rfl⟩
    rw [String.toList_append]
    exact List.prefix_append _ _

theorem dropPrefix?_eq_some {s p t : String} : dropPrefix? s p = some t ↔ s = p ++ t := by
  constructor
  · intro h
    have hp : startsWith s p = true := by
      by_contra hp
      rw [dropPrefix?, if_neg hp] at h
      cases h
    obtain ⟨t', rfl⟩ := startsWith_iff.mp hp
    rw [dropPrefix?_append] at h
    rw [Option.some.inj h]
  · rintro rfl
    exact dropPrefix?_append p t

theorem dropPrefix?_eq_none {s p : String} : dropPrefix? s p = none ↔ startsWith s p = false := by
  unfold dropPrefix?
  split
  · rename_i h
    simp [h]
  · rename_i h
    simpa using h

theorem lstripChar_eq_self {s : String} {c : Char} (h : s.toList.head? ≠ some c) : lstripChar s c = s := by
  have : s.toList.dropWhile (· = c) = s.toList := by
    cases hs : s.toList with
    | nil => rfl
    | cons a l =>
      rw [hs] at h
      have ha : a ≠ c := by simpa using h
      simp [ha]
  unfold lstripChar
  rw [this, String.ofList_toList]

theorem head?_lstripChar (s : String) (c : Char) : (lstripChar s c).toList.head? ≠ some c := by
  unfold lstripChar
  rw [String.toList_ofList]
  intro hhead
  have hnot := List.head?_dropWhile_not (· = c) s.toList
  rw [hhead] at hnot
  simp at hnot

theorem rstripChar_prefix (s : String) (c : Char) : (rstripChar s c).toList <+: s.toList := by
  unfold rstripChar
  rw [String.toList_ofList]
  exact List.rdropWhile_prefix (· = c) s.toList

theorem getLast?_rstripChar (s : String) (c : Char) : (rstripChar s c).toList.getLast? ≠ some c := by
  unfold rstripChar
  rw [String.toList_ofList, List.getLast?_reverse]
  intro hlast
  have hnot := List.head?_dropWhile_not (· = c) s.toList.reverse
  rw [hlast] at hnot
  simp at hnot

theorem rstripChar_eq_self {s : String} {c : Char} (h : s.toList.getLast? ≠ some c) : rstripChar s c = s := by
  have hkept : s.toList.reverse.dropWhile (· = c) = s.toList.reverse := by
    rw [← List.head?_reverse] at h
    cases hs : s.toList.reverse with
    | nil => rfl
    | cons a l =>
      rw [hs] at h
      have ha : a ≠ c := by simpa using h
      simp [ha]
  unfold rstripChar
  rw [hkept, List.reverse_reverse, String.ofList_toList]

theorem removeAll_eq_self {p l : List Char} {c : Char} (hp : c ∈ p) (hl : c ∉ l) : removeAll p l = l := by
  have go : ∀ (n : Nat) (l : List Char), c ∉ l → removeAll.go p n l = l := by
    intro n
    induction n with
    | zero => intro l _; rfl
    | succ n ih =>
      intro l hl
      cases l with
      | nil => rfl
      | cons a l =>
        have hno : ¬ p.isPrefixOf (a :: l) = true := by
          rw [List.isPrefixOf_iff_prefix]
          exact fun h => hl (h.subset hp)
        rw [removeAll.go, if_neg hno, ih l (fun h => hl (List.mem_cons_of_mem _ h))]
  exact go l.length l hl

end Py

end RatingLift
