import Mathlib.Data.List.Chain

/-!
# Words joined by single separators

`collapse sep` turns every run of the separator into one, which leaves no two in a row.  A list over an
alphabet and the separator that has none first or last and no two in a row is a sequence of words of the
alphabet, joined by single separators (`Separated.joined`), and `collapse` leaves it as it is
(`collapse_eq_self`).
-/

namespace Library

variable {α : Type*} {sep : α}

/-- No two separators in a row. -/
def SingleSeps (sep : α) (l : List α) : Prop := l.IsChain fun a b => a ≠ sep ∨ b ≠ sep

/-- Letters of `p` and separators, no separator first or last and no two in a row. -/
structure Separated (p : α → Bool) (sep : α) (l : List α) : Prop where
  mem : ∀ a ∈ l, a = sep ∨ p a = true
  single : SingleSeps sep l
  head : l.head? ≠ some sep
  last : l.getLast? ≠ some sep

/-- Words of `p`, at least one, joined by single separators. -/
def Joined (p : α → Bool) (sep : α) (l : List α) : Prop :=
  ∃ words : List (List α), words ≠ [] ∧ (∀ w ∈ words, w ≠ [] ∧ ∀ a ∈ w, p a = true) ∧
  l = [sep].intercalate words

/-- Letters of `p` before something that begins a word, or goes on with one after a separator. -/
private theorem Joined.cons {p : α → Bool} {a : α} {l : List α} (hp : p a = true) (h : Joined p sep l) :
    Joined p sep (a :: l) ∧ Joined p sep (a :: sep :: l) := by
  obtain ⟨words, hne, hwords, rfl⟩ := h
  refine ⟨?_, [a] :: words, by simp, ?_, ?_⟩
  · cases words with
    | nil => exact absurd rfl hne
    | cons w words =>
      refine ⟨(a :: w) :: words, by simp, ?_, by rw [List.intercalate_cons_cons_left]⟩
      intro v hv
      rcases List.mem_cons.mp hv with rfl | hv
      · refine ⟨by simp, ?_⟩
        intro c hc
        rcases List.mem_cons.mp hc with rfl | hc
        · exact hp
        · exact (hwords w (by simp)).2 c hc
      · exact hwords v (List.mem_cons_of_mem _ hv)
  · intro w hw
    rcases List.mem_cons.mp hw with rfl | hw
    · simp [hp]
    · exact hwords w hw
  · rw [List.intercalate_cons_of_ne_nil hne]
    simp

/-- What ends with a letter and has single separators is words, perhaps after one separator. -/
private theorem joined_or_cons {p : α → Bool} {l : List α} (hmem : ∀ a ∈ l, a = sep ∨ p a = true)
    (hsingle : SingleSeps sep l) (hlast : l.getLast? ≠ some sep) :
    l = [] ∨ Joined p sep l ∨ ∃ l', l = sep :: l' ∧ Joined p sep l' := by
  induction l with
  | nil => exact Or.inl rfl
  | cons a l ih =>
    right
    have hlast' : l.getLast? ≠ some sep := by
      intro hl
      rw [List.getLast?_cons, hl] at hlast
      simp at hlast
    have hletter : a ≠ sep → p a = true := (hmem a List.mem_cons_self).resolve_left
    rcases ih (fun b hb => hmem b (List.mem_cons_of_mem _ hb)) hsingle.tail hlast'
      with rfl | hl | ⟨l', rfl, hl⟩
    · have ha : a ≠ sep := by simpa using hlast
      exact Or.inl ⟨[[a]], by simp, by simp [hletter ha], by simp⟩
    · by_cases ha : a = sep
      · exact Or.inr ⟨l, by rw [ha], hl⟩
      · exact Or.inl (hl.cons (hletter ha)).1
    · have ha : a ≠ sep := by
        rintro rfl
        have := hsingle.rel_head? (y := a) (by simp)
        simp at this
      exact Or.inl (hl.cons (hletter ha)).2

/-- Single separators make words. -/
theorem Separated.joined {p : α → Bool} {l : List α} (hne : l ≠ []) (h : Separated p sep l) :
    Joined p sep l := by
  rcases joined_or_cons h.mem h.single h.last with rfl | hl | ⟨l', rfl, _⟩
  · exact absurd rfl hne
  · exact hl
  · exact absurd rfl h.head

section Collapse

variable [DecidableEq α]

/-- `collapse` from a position on; `inRun` says whether the element before it is a separator. -/
def collapseFrom (sep : α) : Bool → List α → List α
  | _, [] => []
  | inRun, a :: l =>
    if a ≠ sep then a :: collapseFrom sep false l
    else if inRun then collapseFrom sep true l
    else sep :: collapseFrom sep true l

/-- Every run of `sep` becomes a single `sep`. -/
def collapse (sep : α) (l : List α) : List α := collapseFrom sep false l

theorem mem_of_mem_collapseFrom {l : List α} :
    ∀ {inRun : Bool} {a : α}, a ∈ collapseFrom sep inRun l → a ∈ l := by
  induction l with
  | nil => intro inRun a h; exact h
  | cons b l ih =>
    intro inRun a h
    unfold collapseFrom at h
    by_cases hb : b = sep
    · subst hb
      cases inRun with
      | true =>
        simp only [ne_eq, not_true_eq_false, ↓reduceIte] at h
        exact List.mem_cons_of_mem _ (ih h)
      | false =>
        simp only [ne_eq, not_true_eq_false, Bool.false_eq_true, ↓reduceIte, List.mem_cons] at h
        rcases h with rfl | h
        · exact List.mem_cons_self
        · exact List.mem_cons_of_mem _ (ih h)
    · simp only [ne_eq, hb, not_false_eq_true, ↓reduceIte, List.mem_cons] at h
      rcases h with rfl | h
      · exact List.mem_cons_self
      · exact List.mem_cons_of_mem _ (ih h)

private theorem collapseFrom_single (l : List α) : ∀ inRun : Bool, SingleSeps sep (collapseFrom sep inRun l) ∧
    (inRun = true → (collapseFrom sep inRun l).head? ≠ some sep) := by
  induction l with
  | nil => intro inRun; exact ⟨.nil, by simp [collapseFrom]⟩
  | cons b l ih =>
    intro inRun
    unfold collapseFrom
    by_cases hb : b = sep
    · subst hb
      obtain ⟨hsingle, hhead⟩ := ih true
      cases inRun with
      | true => simpa using ⟨hsingle, hhead rfl⟩
      | false =>
        simp only [ne_eq, not_true_eq_false, Bool.false_eq_true, ↓reduceIte, false_implies, and_true]
        refine hsingle.cons ?_
        intro a ha
        right
        rintro rfl
        exact hhead rfl ha
    · simp only [ne_eq, hb, not_false_eq_true, ↓reduceIte, List.head?_cons, Option.some.injEq,
        implies_true, and_true]
      refine (ih false).1.cons ?_
      intro a _
      exact Or.inl hb

theorem singleSeps_collapse (l : List α) : SingleSeps sep (collapse sep l) := (collapseFrom_single l false).1

theorem collapse_eq_self {l : List α} (h : SingleSeps sep l) : collapse sep l = l := by
  have go : ∀ (l : List α) (inRun : Bool), SingleSeps sep l → (inRun = true → l.head? ≠ some sep) →
      collapseFrom sep inRun l = l := by
    intro l
    induction l with
    | nil => intro inRun _ _; rfl
    | cons b l ih =>
      intro inRun hsingle hhead
      have hl : SingleSeps sep l := hsingle.tail
      unfold collapseFrom
      by_cases hb : b = sep
      · subst hb
        have hrun : inRun = false := by
          cases inRun with
          | true => exact (hhead rfl rfl).elim
          | false => rfl
        have hnext : l.head? ≠ some b := by
          intro ha
          have := hsingle.rel_head? ha
          simp at this
        simp [hrun, ih true hl (fun _ => hnext)]
      · simp [hb, ih false hl (fun h => by cases h)]
  exact go l false h (fun h => by cases h)

end Collapse

end Library
