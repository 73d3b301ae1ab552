import RatingLift.Connectors.Logos
import RatingLift.Library.XmlProlog

/-!
# SVG logos

What `_validate_image_bytes` says of the root element of a file that it takes for an SVG image.  It looks at
the first bytes after the white space and for `<svg` anywhere in the first four kilobytes; an XML declaration
at the beginning is enough for the first of the two.

* (`validateImageBytes_svg`) the two tests;
* (`svg_root_iff`) a file is refused or has the root element `svg` exactly when it is not disguised
  (`Undisguised`).
-/

namespace RatingLift

open Library Logos

namespace SvgLogos

/-- The first kilobyte of the file begins so, after white space and in letters of any case. -/
def opensWith (tag : String) (file : Bytes) : Bool :=
  (ascii tag).isPrefixOf (bytesLower (bytesLstrip (file.take 1024)))

/-- There is an `<svg` in the first four kilobytes. -/
def mentionsSvg (file : Bytes) : Bool :=
  (bytesLower (file.take 4096)).tails.any fun t => (ascii "<svg").isPrefixOf t

/-- The text begins with a start tag of the element `svg`. -/
def SvgTag (text : Bytes) : Prop :=
  ∃ rest : Bytes, text = ascii "<svg" ++ rest ∧
    rest.head?.all (fun b => XmlProlog.isSpace b || b == 0x2F || b == 0x3E) = true

/-- The first start tag after the prolog is that of the root element `svg`. -/
def SvgRoot (file : Bytes) : Prop := SvgTag (XmlProlog.root file)

/-- What the tests let through for an SVG image is one: a tag at the beginning is a whole start tag, in small
letters, and an XML declaration there is followed by other items of a prolog, if any, and then by the start
tag. -/
structure Undisguised (file : Bytes) : Prop where
  bare : opensWith "<svg" file = true → SvgTag (bytesLstrip file)
  declared : opensWith "<?xml" file = true → mentionsSvg file = true →
    ∃ (items : List Bytes) (rest : Bytes), (∀ t ∈ items, XmlProlog.misc.Item t) ∧
    file = items.flatten ++ rest ∧ SvgTag rest

variable {env : ConnectorEnv} {settings : Settings} {file : Bytes} {ext : String}

theorem validateImageBytes_svg : validateImageBytes env settings file "svg" = .ok ext ↔
    ext = "svg" ∧ (opensWith "<?xml" file = true ∨ opensWith "<svg" file = true) ∧
    mentionsSvg file = true := by
  have hcode : validateImageBytes env settings file "svg" =
      if !(opensWith "<?xml" file || opensWith "<svg" file) then
        .error (.http 415 "File does not look like a valid SVG image")
      else if !mentionsSvg file then .error (.http 415 "File does not look like a valid SVG image")
      else .ok "svg" := rfl
  rw [hcode, ← Bool.or_eq_true]
  by_cases hopens : (opensWith "<?xml" file || opensWith "<svg" file) = true
  · by_cases hmentions : mentionsSvg file = true
    · simp [hopens, hmentions, eq_comm]
    · simp [hopens, hmentions]
  · simp [hopens]

/-! ### The first bytes -/

theorem bytesLstrip_take_prefix (n : Nat) (file : Bytes) :
    bytesLstrip (file.take n) <+: bytesLstrip file := by
  have happend : bytesLstrip (file.take n ++ file.drop n) =
      if (bytesLstrip (file.take n)).isEmpty then bytesLstrip (file.drop n)
      else bytesLstrip (file.take n) ++ file.drop n := List.dropWhile_append
  rw [List.take_append_drop] at happend
  rw [happend]
  split
  · rename_i hempty
    rw [List.isEmpty_iff.mp hempty]
    exact List.nil_prefix
  · exact List.prefix_append _ _

theorem opensWith_iff {tag : String} :
    opensWith tag file = true ↔ ascii tag <+: bytesLower (bytesLstrip (file.take 1024)) :=
  List.isPrefixOf_iff_prefix

/-- The second byte of such a file is a letter. -/
theorem opensWith_svg (h : opensWith "<svg" file = true) : ∃ a b rest, bytesLstrip file = a :: b :: rest ∧
    b ≠ XmlProlog.byte '!' ∧ b ≠ XmlProlog.byte '?' := by
  obtain ⟨rest, hrest⟩ := opensWith_iff.mp h
  obtain ⟨more, hmore⟩ := bytesLstrip_take_prefix 1024 file
  rw [← hmore]
  unfold bytesLower at hrest
  cases hhead : bytesLstrip (file.take 1024) with
  | nil =>
    rw [hhead] at hrest
    cases hrest
  | cons a head =>
    cases head with
    | nil =>
      rw [hhead] at hrest
      obtain ⟨_, hrest⟩ := List.cons.inj hrest
      cases hrest
    | cons b head =>
      rw [hhead, List.map_cons, List.map_cons] at hrest
      obtain ⟨_, hrest⟩ := List.cons.inj hrest
      obtain ⟨hletter, _⟩ := List.cons.inj hrest
      refine ⟨a, b, head ++ more, rfl, ?_, ?_⟩
      · rintro rfl
        exact absurd hletter (by decide)
      · rintro rfl
        exact absurd hletter (by decide)

/-- White space at the beginning of a file is items of the prolog. -/
theorem spaces_append (file : Bytes) : ∃ items : List Bytes, (∀ t ∈ items, XmlProlog.misc.Item t) ∧
    file = items.flatten ++ bytesLstrip file := by
  refine ⟨(file.takeWhile XmlProlog.isSpace).map fun b => [b], ?_, ?_⟩
  · intro t ht
    obtain ⟨b, hb, rfl⟩ := List.mem_map.mp ht
    exact XmlProlog.item_space (List.mem_takeWhile_imp hb)
  · rw [← List.flatMap_def, List.flatMap_singleton']
    exact List.takeWhile_append_dropWhile.symm

theorem head?_bytesLstrip {a : UInt8} {rest : Bytes} (h : bytesLstrip file = a :: rest) :
    XmlProlog.isSpace a = false := by
  have hnot := List.head?_dropWhile_not XmlProlog.isSpace file
  rw [show file.dropWhile XmlProlog.isSpace = a :: rest from h] at hnot
  simpa using hnot

/-- A file that opens with a tag has no prolog. -/
theorem root_of_opensWith (h : opensWith "<svg" file = true) : XmlProlog.root file = bytesLstrip file := by
  obtain ⟨a, b, rest, hstrip, hbang, hquestion⟩ := opensWith_svg h
  refine Scanner.skip_eq_iff.mpr ⟨spaces_append file, ?_⟩
  rw [hstrip]
  exact XmlProlog.read_tag (head?_bytesLstrip hstrip) hbang hquestion

theorem mentionsSvg_of_opensWith (h : opensWith "<svg" file = true) : mentionsSvg file = true := by
  obtain ⟨before, hbefore⟩ : bytesLstrip (file.take 1024) <:+ file.take 1024 := List.dropWhile_suffix _
  obtain ⟨after, hafter⟩ : file.take 1024 <+: file.take 4096 := List.take_prefix_take_left (by omega)
  have htake : file.take 4096 = before ++ (bytesLstrip (file.take 1024) ++ after) := by
    rw [← hafter, ← List.append_assoc, hbefore]
  have hbytes : bytesLower (file.take 4096) =
      bytesLower before ++ (bytesLower (bytesLstrip (file.take 1024)) ++ bytesLower after) := by
    unfold bytesLower
    rw [htake, List.map_append, List.map_append]
  refine List.any_eq_true.mpr ⟨bytesLower (bytesLstrip (file.take 1024)) ++ bytesLower after, ?_, ?_⟩
  · rw [List.mem_tails, hbytes]
    exact List.suffix_append _ _
  · exact List.isPrefixOf_iff_prefix.mpr ((opensWith_iff.mp h).trans (List.prefix_append _ _))

/-- A start tag is the root element. -/
theorem read_svgTag {text : Bytes} (h : SvgTag text) : XmlProlog.misc.read text = none := by
  obtain ⟨rest, rfl, _⟩ := h
  exact XmlProlog.read_tag (by decide) (by decide) (by decide)

/-! ### The root element -/

/-- The root element stands behind items of a prolog. -/
theorem svgRoot_iff :
    SvgRoot file ↔ ∃ (items : List Bytes) (rest : Bytes), (∀ t ∈ items, XmlProlog.misc.Item t) ∧
    file = items.flatten ++ rest ∧ SvgTag rest := by
  constructor
  · intro h
    obtain ⟨⟨items, hitems, hfile⟩, _⟩ :=
      Scanner.skip_eq_iff.mp (rfl : XmlProlog.misc.skip file = XmlProlog.root file)
    exact ⟨items, _, hitems, hfile, h⟩
  · rintro ⟨items, rest, hitems, hfile, htag⟩
    have hroot : XmlProlog.root file = rest :=
      Scanner.skip_eq_iff.mpr ⟨⟨items, hitems, hfile⟩, read_svgTag htag⟩
    unfold SvgRoot
    rwa [hroot]

/-- A file that is taken for an SVG image has the root element `svg`, unless it is disguised. -/
theorem svg_root_iff (env : ConnectorEnv) (settings : Settings) (file : Bytes) :
    (∀ ext, validateImageBytes env settings file "svg" = .ok ext → SvgRoot file) ↔ Undisguised file := by
  constructor
  · intro h
    refine ⟨?_, ?_⟩
    · intro hopens
      have hroot := h "svg" (validateImageBytes_svg.mpr ⟨rfl, Or.inr hopens, mentionsSvg_of_opensWith hopens⟩)
      unfold SvgRoot at hroot
      rwa [root_of_opensWith hopens] at hroot
    · intro hopens hmentions
      exact svgRoot_iff.mp (h "svg" (validateImageBytes_svg.mpr ⟨rfl, Or.inl hopens, hmentions⟩))
  · intro h ext haccepted
    obtain ⟨_, hopens, hmentions⟩ := validateImageBytes_svg.mp haccepted
    rcases hopens with hdeclared | hbare
    · exact svgRoot_iff.mpr (h.declared hdeclared hmentions)
    · unfold SvgRoot
      rw [root_of_opensWith hbare]
      exact h.bare hbare

/-- A page behind an XML declaration. -/
def htmlPage : Bytes := ascii "<?xml version='1.0'?><html><script>alert(1)</script><svg/></html>"

theorem html_accepted :
    (∀ env settings, validateImageBytes env settings htmlPage "svg" = .ok "svg") ∧ ¬ SvgRoot htmlPage := by
  have hroot : XmlProlog.root htmlPage = ascii "<html><script>alert(1)</script><svg/></html>" := by decide
  refine ⟨?_, ?_⟩
  · intro env settings
    exact validateImageBytes_svg.mpr ⟨rfl, Or.inl (by decide), by decide⟩
  · unfold SvgRoot
    rw [hroot]
    rintro ⟨rest, hrest, _⟩
    have htag : ascii "<svg" <+: ascii "<html><script>alert(1)</script><svg/></html>" := ⟨rest, hrest.symm⟩
    exact absurd htag (by decide)

end SvgLogos

end RatingLift
