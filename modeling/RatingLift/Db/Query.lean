import Mathlib.Data.List.Sort
import RatingLift.Db.Models
import RatingLift.Library.Wildcard

/-!
# Queries

The parts of a query beyond its filter: `ORDER BY ... DESC`, `OFFSET ... LIMIT ...` and `ILIKE`.  Rows that
compare equal keep the order of the scan.
-/

namespace RatingLift

open Library

/-- `ORDER BY at DESC` -/
def newestFirst {ρ : Type} (at_ : ρ → Instant) (rows : List ρ) : List ρ :=
  rows.insertionSort fun a b => at_ b ≤ at_ a

theorem newestFirst_map {ρ : Type} {at_ : ρ → Instant} {f : ρ → ρ} (h : ∀ r, at_ (f r) = at_ r)
    (rows : List ρ) :
    newestFirst at_ (rows.map f) = (newestFirst at_ rows).map f := by
  refine (List.map_insertionSort _ _ f rows ?_).symm
  intro a _ b _
  rw [h, h]

/-- `query.offset(max(offset, 0)).limit(max(min(limit, 500), 1))` -/
def page {ρ : Type} (limit offset : Int) (rows : List ρ) : List ρ :=
  (rows.drop (max offset 0).toNat).take (max (min limit 500) 1).toNat

/-- `text LIKE pattern`: `%` stands for any text, `_` for any character, a backslash takes the next character
as it is. -/
def like : List Char → List Char → Bool
  | [], text => text.isEmpty
  | '%' :: pattern, text => text.tails.any fun rest => like pattern rest
  | '_' :: pattern, text =>
    match text with
    | [] => false
    | _ :: text => like pattern text
  | '\\' :: c :: pattern, text =>
    match text with
    | [] => false
    | d :: text => c == d && like pattern text
  | c :: pattern, text =>
    match text with
    | [] => false
    | d :: text => c == d && like pattern text

/-- `column ILIKE pattern` -/
def ilike (lower : String → String) (column : String) (pattern : String) : Bool :=
  like (lower pattern).toList (lower column).toList

/-- The symbols of a pattern. -/
def likeSymbols : List Char → List (Symbol Char)
  | [] => []
  | '%' :: pattern => .text :: likeSymbols pattern
  | '_' :: pattern => .one :: likeSymbols pattern
  | '\\' :: c :: pattern => .letter c :: likeSymbols pattern
  | c :: pattern => .letter c :: likeSymbols pattern

/-- `LIKE` matches the symbols. -/
theorem like_iff (pattern text : List Char) :
    like pattern text = true ↔ Matches (likeSymbols pattern) text := by
  induction pattern using likeSymbols.induct generalizing text with
  | case1 => simp [like, likeSymbols, Matches.nil_iff]
  | case2 pattern ih =>
    simp only [like, likeSymbols, Matches.text_cons, List.any_eq_true, List.mem_tails, ih]
  | case3 pattern ih =>
    simp only [likeSymbols, Matches.one_cons]
    cases text with
    | nil => simp [like]
    | cons d text => simp [like, ih]
  | case4 c pattern ih =>
    rw [likeSymbols, Matches.letter_cons]
    cases text with
    | nil => simp [like]
    | cons d text =>
      rw [like, Bool.and_eq_true, beq_iff_eq, ih]
      simp [eq_comm]
  | case5 c pattern hany hone hescape ih =>
    rw [likeSymbols, Matches.letter_cons]
    · cases text with
      | nil => simp [like]
      | cons d text =>
        rw [like, Bool.and_eq_true, beq_iff_eq, ih]
        · simp [eq_comm]
        · exact hany
        · exact hone
        · exact hescape
    · exact hany
    · exact hone
    · exact hescape

/-- The characters that `LIKE` does not take as themselves. -/
def isWildcard (c : Char) : Bool := c == '%' || c == '_' || c == '\\'

/-- The text has no such character. -/
def plainText (s : String) : Bool := s.toList.all fun c => !isWildcard c

theorem likeSymbols_plain {w : List Char} (h : ∀ c ∈ w, isWildcard c = false) (p : List Char) :
    likeSymbols (w ++ p) = w.map .letter ++ likeSymbols p := by
  induction w with
  | nil => rfl
  | cons c w ih =>
    have hc := h c List.mem_cons_self
    simp only [isWildcard, Bool.or_eq_false_iff, beq_eq_false_iff_ne] at hc
    rw [List.cons_append, likeSymbols, ih fun d hd => h d (List.mem_cons_of_mem _ hd)]
    · rfl
    · exact hc.1.1
    · exact hc.1.2
    · intro d p' hd _
      exact hc.2 hd

/-- A pattern of plain letters and a last `%`: the texts that start with the letters. -/
theorem like_prefix_iff {w text : List Char} (h : ∀ c ∈ w, isWildcard c = false) :
    like (w ++ ['%']) text = true ↔ w <+: text := by
  have hlast : likeSymbols ['%'] = [.text] := rfl
  rw [like_iff, likeSymbols_plain h, hlast, Matches.letters_append]
  constructor
  · rintro ⟨v, rfl, _⟩
    exact List.prefix_append w v
  · rintro ⟨v, rfl⟩
    exact ⟨v, rfl, .text_nil⟩

example : like "%a\\%b_".toList "xxa%bc".toList = true := by decide

end RatingLift
