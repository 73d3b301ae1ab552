import RatingLift.Library.Fallible

/-!
# Operations confined to a view

A state has a part that an operation may depend on and change, `view s`, itself a state, and a part that it
must leave alone, `frame s`.  An operation `f` is confined in `s` (`Confined`) when running it in the view of
`s` gives the same answer and the view of the state it leaves, and it keeps the frame.

The rules `ok`, `error`, `query`, `read`, `cond`, `lookup`, `write`, `map` and `seq` follow the shape of an
operation.  Confined operations do not interfere: from two states with the same view an operation gives the
same answer or the same error and leaves the same view (`Confined.noninterference`).
-/

namespace Library

universe u

variable {σ φ ε α β : Type u}

/-- `f`, run in the view of `s`, answers as in `s` and leaves the view of what it leaves in `s`; and it keeps
the frame. -/
structure Confined (view : σ → σ) (frame : σ → φ) (f : σ → Except ε (α × σ)) (s : σ) : Prop where
  view_eq : f (view s) = (f s).map fun r => (r.1, view r.2)
  frame_eq : ∀ a s', f s = .ok (a, s') → frame s' = frame s

namespace Confined

variable {view : σ → σ} {frame : σ → φ} {s : σ}

theorem ok (a : α) : Confined view frame (fun s => (.ok (a, s) : Except ε (α × σ))) s where
  view_eq := rfl
  frame_eq := by rintro _ _ h; cases h; rfl

theorem error (e : ε) : Confined view frame (fun _ => (.error e : Except ε (α × σ))) s where
  view_eq := rfl
  frame_eq := by rintro _ _ h; cases h

/-- A write of the view that keeps the frame. -/
theorem write (a : α) {w : σ → σ} (hview : w (view s) = view (w s)) (hframe : frame (w s) = frame s) :
    Confined view frame (fun s => (.ok (a, w s) : Except ε (α × σ))) s where
  view_eq := by rw [hview]; rfl
  frame_eq := by rintro _ _ h; cases h; exact hframe

theorem congr {f g : σ → Except ε (α × σ)} (hs : f s = g s) (hview : f (view s) = g (view s))
    (h : Confined view frame g s) : Confined view frame f s where
  view_eq := by rw [hview, hs]; exact h.view_eq
  frame_eq := by rw [hs]; exact h.frame_eq

/-- The answer, computed further without the state. -/
theorem map {f : σ → Except ε (β × σ)} (g : β → α) (h : Confined view frame f s) :
    Confined view frame (fun s => (f s).map fun r => (g r.1, r.2)) s := by
  constructor
  · rw [h.view_eq]
    cases f s <;> rfl
  · intro a s' hr
    cases hf : f s with
    | error e => rw [hf] at hr; cases hr
    | ok r =>
      rw [hf] at hr
      cases hr
      exact h.frame_eq r.1 r.2 hf

/-- A read that only depends on the view, as an operation. -/
theorem query {r : σ → Except ε β} (g : β → α) (hr : r (view s) = r s) :
    Confined view frame (fun s => (r s).map fun b => (g b, s)) s := by
  constructor
  · rw [hr]
    cases r s <;> rfl
  · intro a s' h
    cases hb : r s with
    | error e => rw [hb] at h; cases h
    | ok b => rw [hb] at h; cases h; rfl

/-- A read that only depends on the view, and what follows it. -/
theorem read {r : σ → Except ε β} {f : β → σ → Except ε (α × σ)} (hr : r (view s) = r s)
    (hf : ∀ b, r s = .ok b → Confined view frame (f b) s) :
    Confined view frame (fun s => r s >>= fun b => f b s) s := by
  cases hb : r s with
  | error e =>
    constructor
    · rw [hr, hb]; rfl
    · intro a s' h; rw [hb] at h; cases h
  | ok b =>
    have hc := hf b hb
    constructor
    · rw [hr, hb]; exact hc.view_eq
    · intro a s' h; rw [hb] at h; exact hc.frame_eq a s' h

theorem cond {c : σ → Bool} {f g : σ → Except ε (α × σ)} (hc : c (view s) = c s)
    (hf : c s = true → Confined view frame f s) (hg : c s = false → Confined view frame g s) :
    Confined view frame (fun s => if c s then f s else g s) s := by
  cases hb : c s with
  | true =>
    have h := hf hb
    constructor
    · simp only [hc, hb, ↓reduceIte]; exact h.view_eq
    · simp only [hb, ↓reduceIte]; exact h.frame_eq
  | false =>
    have h := hg hb
    constructor
    · simp only [hc, hb, Bool.false_eq_true, ↓reduceIte]; exact h.view_eq
    · simp only [hb, Bool.false_eq_true, ↓reduceIte]; exact h.frame_eq

/-- One confined operation after the other. -/
theorem seq {f : σ → Except ε (β × σ)} {g : β → σ → Except ε (α × σ)} (hf : Confined view frame f s)
    (hg : ∀ b s', f s = .ok (b, s') → Confined view frame (g b) s') :
    Confined view frame (fun s => f s >>= fun r => g r.1 r.2) s := by
  cases hr : f s with
  | error e =>
    constructor
    · rw [hf.view_eq, hr]; rfl
    · intro a s' h; rw [hr] at h; cases h
  | ok r =>
    have hc := hg r.1 r.2 hr
    constructor
    · rw [hf.view_eq, hr]; exact hc.view_eq
    · intro a s' h
      rw [hr] at h
      rw [hc.frame_eq a s' h, hf.frame_eq r.1 r.2 hr]

/-- Two runs of a confined operation from states with the same view. -/
theorem noninterference {f : σ → Except ε (α × σ)} {s₁ s₂ : σ} (h : view s₁ = view s₂)
    (h₁ : Confined view frame f s₁) (h₂ : Confined view frame f s₂) :
    (∃ e, f s₁ = .error e ∧ f s₂ = .error e) ∨
      ∃ a s₁' s₂', f s₁ = .ok (a, s₁') ∧ f s₂ = .ok (a, s₂') ∧ view s₁' = view s₂' ∧ frame s₁' = frame s₁ ∧
        frame s₂' = frame s₂ := by
  have hv := h₁.view_eq
  rw [h, h₂.view_eq] at hv
  cases hr : f s₁ with
  | error e =>
    cases hr' : f s₂ with
    | error e' =>
      rw [hr, hr'] at hv
      cases hv
      exact Or.inl ⟨e, rfl, rfl⟩
    | ok r' => rw [hr, hr'] at hv; cases hv
  | ok r =>
    cases hr' : f s₂ with
    | error e' => rw [hr, hr'] at hv; cases hv
    | ok r' =>
      rw [hr, hr'] at hv
      simp only [Except.map, Except.ok.injEq, Prod.mk.injEq] at hv
      refine Or.inr ⟨r.1, r.2, r'.2, rfl, ?_, hv.2.symm, h₁.frame_eq r.1 r.2 hr, h₂.frame_eq r'.1 r'.2 hr'⟩
      rw [← hv.1]

end Confined

end Library
