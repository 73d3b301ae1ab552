import Mathlib.Data.List.Infix

/-!
# Wildcard patterns

Patterns made of letters, of a symbol for any one letter and of a symbol for any text, and the texts that they
match.

* (`Matches.letters_append`, `Matches.text_cons`) what the beginning of a pattern says of the text;
* (`Matches.between`) letters between two symbols for any text: the texts that contain the letters;
* (`matches_shortest`) leaving out what may be empty gives a text that matches; it has the letters of the
  pattern only, besides the one that stands for any letter (`mem_shortest`).
-/

namespace Library

universe u

inductive Symbol (α : Type u) where
  | text
  | one
  | letter (a : α)

variable {α : Type u}

/-- The pattern matches the text. -/
inductive Matches : List (Symbol α) → List α → Prop
  | nil : Matches [] []
  | text {p : List (Symbol α)} {v : List α} (u : List α) : Matches p v → Matches (.text :: p) (u ++ v)
  | one {p : List (Symbol α)} {v : List α} (a : α) : Matches p v → Matches (.one :: p) (a :: v)
  | letter {p : List (Symbol α)} {v : List α} (a : α) : Matches p v → Matches (.letter a :: p) (a :: v)

namespace Matches

variable {p : List (Symbol α)} {t w : List α} {a : α}

theorem nil_iff : Matches ([] : List (Symbol α)) t ↔ t = [] := by
  constructor
  · intro h
    cases h
    rfl
  · rintro rfl
    exact .nil

theorem text_cons : Matches (.text :: p) t ↔ ∃ v, v <:+ t ∧ Matches p v := by
  constructor
  · intro h
    cases h with
    | text u h => exact ⟨_, List.suffix_append u _, h⟩
  · rintro ⟨v, ⟨u, rfl⟩, h⟩
    exact .text u h

theorem one_cons : Matches (.one :: p) t ↔ ∃ a v, t = a :: v ∧ Matches p v := by
  constructor
  · intro h
    cases h with
    | one a h => exact ⟨a, _, rfl, h⟩
  · rintro ⟨a, v, rfl, h⟩
    exact .one a h

theorem letter_cons : Matches (.letter a :: p) t ↔ ∃ v, t = a :: v ∧ Matches p v := by
  constructor
  · intro h
    cases h with
    | letter _ h => exact ⟨_, rfl, h⟩
  · rintro ⟨v, rfl, h⟩
    exact .letter a h

/-- Letters match themselves. -/
theorem letters_append : Matches (w.map .letter ++ p) t ↔ ∃ v, t = w ++ v ∧ Matches p v := by
  induction w generalizing t with
  | nil => simp
  | cons a w ih =>
    rw [List.map_cons, List.cons_append, letter_cons]
    simp only [ih]
    constructor
    · rintro ⟨_, rfl, v, rfl, h⟩
      exact ⟨v, rfl, h⟩
    · rintro ⟨v, rfl, h⟩
      exact ⟨w ++ v, rfl, v, rfl, h⟩

/-- Any text at the end matches everything. -/
theorem text_nil : Matches [.text] t := by
  rw [text_cons]
  exact ⟨[], List.nil_suffix, .nil⟩

/-- Letters with any text before and after them: the texts that contain the letters. -/
theorem between : Matches (.text :: (w.map .letter ++ [.text])) t ↔ w <:+: t := by
  rw [text_cons]
  simp only [letters_append, text_nil, and_true]
  constructor
  · rintro ⟨_, ⟨u, rfl⟩, v, rfl⟩
    exact ⟨u, v, by simp⟩
  · rintro ⟨u, v, rfl⟩
    exact ⟨w ++ v, ⟨u, by simp⟩, v, rfl⟩

end Matches

/-! ### A shortest text -/

/-- The text that leaves out what may be empty and takes `a` for any letter. -/
def shortest (a : α) : List (Symbol α) → List α
  | [] => []
  | .text :: p => shortest a p
  | .one :: p => a :: shortest a p
  | .letter b :: p => b :: shortest a p

theorem matches_shortest (a : α) (p : List (Symbol α)) : Matches p (shortest a p) := by
  induction p with
  | nil => exact .nil
  | cons s p ih =>
    cases s with
    | text => exact .text [] ih
    | one => exact .one a ih
    | letter b => exact .letter b ih

/-- Its letters are those of the pattern and `a`. -/
theorem mem_shortest {a b : α} {p : List (Symbol α)} (h : b ∈ shortest a p) : b = a ∨ .letter b ∈ p := by
  induction p with
  | nil => cases h
  | cons s p ih =>
    cases s with
    | text => exact (ih h).imp_right (List.mem_cons_of_mem _)
    | one =>
      rcases List.mem_cons.mp h with rfl | h
      · exact Or.inl rfl
      · exact (ih h).imp_right (List.mem_cons_of_mem _)
    | letter c =>
      rcases List.mem_cons.mp h with rfl | h
      · exact Or.inr List.mem_cons_self
      · exact (ih h).imp_right (List.mem_cons_of_mem _)

end Library
