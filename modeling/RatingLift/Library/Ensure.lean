import Mathlib.Data.List.Forall2

/-!
# Making sure of a list of things

`ensureAll f s l` goes through `l` and does for each element what is missing.  It stops at the first step that
fails and keeps what the steps before it did.

* (`ensureAll_keeps`) what every step keeps is kept;
* (`ensureAll_again`) where a step settles its element, no step unsettles another and a step on a settled
  element changes nothing, a second pass over the same elements changes nothing and ends in the same way.
-/

namespace Library

variable {σ τ α β ε : Type*} {f : σ → α → Except ε σ} {g : τ → β → Except ε τ}

/-- The state that the loop leaves, and the failure that stopped it. -/
def ensureAll (f : σ → α → Except ε σ) (s : σ) : List α → σ × Option ε
  | [] => (s, none)
  | a :: l =>
    match f s a with
    | .error e => (s, some e)
    | .ok s' => ensureAll f s' l

theorem ensureAll_cons_ok {s s' : σ} {a : α} {l : List α} (h : f s a = .ok s') :
    ensureAll f s (a :: l) = ensureAll f s' l := by
  rw [ensureAll, h]

theorem ensureAll_cons_error {s : σ} {a : α} {l : List α} {e : ε} (h : f s a = .error e) :
    ensureAll f s (a :: l) = (s, some e) := by
  rw [ensureAll, h]

/-- What every f keeps is kept by the loop. -/
theorem ensureAll_keeps {P : σ → Prop} {l : List α} (hstep : ∀ s a s', a ∈ l → f s a = .ok s' → P s → P s') :
    ∀ {s : σ}, P s → P (ensureAll f s l).1 := by
  induction l with
  | nil => intro s hs; exact hs
  | cons a l ih =>
    intro s hs
    cases ha : f s a with
    | error e =>
      rw [ensureAll_cons_error ha]
      exact hs
    | ok s' =>
      rw [ensureAll_cons_ok ha]
      exact ih
        (fun s b s' hb => hstep s b s' (List.mem_cons_of_mem _ hb)) (hstep s a s' List.mem_cons_self ha hs)

/-- A loop none of whose steps fails is finished. -/
theorem ensureAll_finished {I : σ → List α → Prop} {l : List α}
    (hstep : ∀ s a l, I s (a :: l) → ∃ s', f s a = .ok s' ∧ I s' l) :
    ∀ {s : σ}, I s l → (ensureAll f s l).2 = none := by
  induction l with
  | nil => intro s _; rfl
  | cons a l ih =>
    intro s hs
    obtain ⟨s', ha, hs'⟩ := hstep s a l hs
    rw [ensureAll_cons_ok ha]
    exact ih hs'

/-- The second pass, over elements that `R` relates to those of the first, from a state `t` on which a f does
what it does on the state `final` that the first pass left.  `I s l` is what the first pass needs of a state
before the elements `l`. -/
theorem ensureAll_again {D : σ → α → Prop} {I : σ → List α → Prop} {R : α → β → Prop} {final : σ}
    {outcome : Option ε} {t : τ}
    (hdone : ∀ s a l s', I s (a :: l) → f s a = .ok s' → D s' a ∧ I s' l)
    (hstay : ∀ s a b s', f s b = .ok s' → D s a → D s' a)
    (hfix : ∀ a b, R a b → D final a → g t b = .ok t)
    (hfail : ∀ a b e, R a b → outcome = some e → f final a = .error e → g t b = .error e)
    {l : List α} {l' : List β} (hsame : List.Forall₂ R l l') :
    ∀ {s : σ}, I s l → ensureAll f s l = (final, outcome) → ensureAll g t l' = (t, outcome) := by
  induction hsame with
  | nil =>
    intro s _ hpass
    obtain ⟨_, rfl⟩ := Prod.mk.inj hpass
    rfl
  | @cons a b l l' hab _ ih =>
    intro s hs hpass
    cases ha : f s a with
    | error e =>
      rw [ensureAll_cons_error ha] at hpass
      obtain ⟨rfl, rfl⟩ := Prod.mk.inj hpass
      exact ensureAll_cons_error (hfail a b e hab rfl ha)
    | ok s' =>
      obtain ⟨hset, hs'⟩ := hdone s a l s' hs ha
      rw [ensureAll_cons_ok ha] at hpass
      have hend : D (ensureAll f s' l).1 a := ensureAll_keeps (fun s c s' _ hc => hstay s a c s' hc) hset
      rw [hpass] at hend
      rw [ensureAll_cons_ok (hfix a b hab hend)]
      exact ih hs' hpass

end Library
