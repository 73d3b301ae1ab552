import RatingLift.Library.Table

/-!
# Constraints on tables

The constraints of a relational schema, stated for tables and kept by writes of one row.

* (`UniqueOn`) no two rows have the same value in a column, where nulls count as different;
* (`References`) the values of a column are keys of another table;
* (`Evolves`) every row is still there, in a form that a relation allows, so keys are never lost;
* (`Puts`) the write of one row, new or stored; the lemmas say under which condition it keeps each constraint;
* (`Restates`) a bulk write that adds no row.
-/

namespace Library

universe u v w

open Keyed (key)

namespace Table

variable {ρ : Type u} {κ : Type v} [Keyed ρ κ] {ρ' : Type u} {κ' : Type v} [Keyed ρ' κ'] {β : Type w}
variable {t t' t'' : Table ρ} {s s' : Table ρ'}

/-- No two rows have the same value; a null is no value. -/
def UniqueOn (t : Table ρ) (f : ρ → Option β) : Prop :=
  ∀ a ∈ t, ∀ b ∈ t, ∀ v, f a = some v → f b = some v → a = b

/-- Every value is a key of the other table. -/
def References (t : Table ρ) (f : ρ → Option κ') (s : Table ρ') : Prop :=
  ∀ a ∈ t, ∀ k, f a = some k → ∃ b ∈ s, key b = k

/-- Every row is still there, changed as `R` allows. -/
def Evolves (R : ρ → ρ → Prop) (t t' : Table ρ) : Prop := ∀ a ∈ t, ∃ b ∈ t', key b = key a ∧ R a b

/-- The row is written, and the rows under other keys stay. -/
def Puts (t t' : Table ρ) (row : ρ) : Prop := ∀ x, x ∈ t' ↔ x = row ∨ (x ∈ t ∧ key x ≠ key row)

/-- Every row was there before, in a form that `R` relates to it. -/
def Restates (R : ρ → ρ → Prop) (t t' : Table ρ) : Prop := ∀ b ∈ t', ∃ a ∈ t, key b = key a ∧ R a b

theorem uniqueOn_empty (f : ρ → Option β) : (empty : Table ρ).UniqueOn f :=
  fun a ha => absurd ha (not_mem_empty a)

theorem references_empty (f : ρ → Option κ') (s : Table ρ') : (empty : Table ρ).References f s :=
  fun a ha => absurd ha (not_mem_empty a)

/-! ### Evolution -/

section

variable {R R' : ρ → ρ → Prop}

theorem Evolves.refl (hR : ∀ a, R a a) (t : Table ρ) : Evolves R t t := fun a ha => ⟨a, ha, rfl, hR a⟩

theorem Evolves.trans (hR : ∀ a b c, R a b → R b c → R a c) (h : Evolves R t t') (h' : Evolves R t' t'') :
    Evolves R t t'' := by
  intro a ha
  obtain ⟨b, hb, hkey, hab⟩ := h a ha
  obtain ⟨c, hc, hkey', hbc⟩ := h' b hb
  exact ⟨c, hc, hkey'.trans hkey, hR a b c hab hbc⟩

theorem Evolves.mono (hR : ∀ a b, R a b → R' a b) (h : Evolves R t t') : Evolves R' t t' := by
  intro a ha
  obtain ⟨b, hb, hkey, hab⟩ := h a ha
  exact ⟨b, hb, hkey, hR a b hab⟩

/-- References into a table stay good while it evolves. -/
theorem References.evolves {f : ρ → Option κ'} {S : ρ' → ρ' → Prop} (h : t.References f s)
    (hs : Evolves S s s') :
    t.References f s' := by
  intro a ha k hk
  obtain ⟨b, hb, hkey⟩ := h a ha k hk
  obtain ⟨b', hb', hkey', _⟩ := hs b hb
  exact ⟨b', hb', hkey'.trans hkey⟩

end

/-! ### Writing one row -/

section

variable {row : ρ}

theorem Puts.uniqueOn {f : ρ → Option β} (h : Puts t t' row) (ht : t.UniqueOn f)
    (hrow : ∀ v, f row = some v → ∀ x ∈ t, f x = some v → key x = key row) : t'.UniqueOn f := by
  intro a ha b hb v hav hbv
  rcases (h a).mp ha with rfl | ⟨ha, hane⟩ <;> rcases (h b).mp hb with rfl | ⟨hb, hbne⟩
  · rfl
  · exact absurd (hrow v hav b hb hbv) hbne
  · exact absurd (hrow v hbv a ha hav) hane
  · exact ht a ha b hb v hav hbv

theorem Puts.references {f : ρ → Option κ'} (h : Puts t t' row) (ht : t.References f s)
    (hrow : ∀ k, f row = some k → ∃ b ∈ s, key b = k) : t'.References f s := by
  intro a ha k hk
  rcases (h a).mp ha with rfl | ⟨ha, _⟩
  · exact hrow k hk
  · exact ht a ha k hk

theorem Puts.evolves {R : ρ → ρ → Prop} (hR : ∀ a, R a a) (h : Puts t t' row)
    (hrow : ∀ a ∈ t, key a = key row → R a row) : Evolves R t t' := by
  intro a ha
  by_cases hk : key a = key row
  · exact ⟨row, (h row).mpr (Or.inl rfl), hk.symm, hrow a ha hk⟩
  · exact ⟨a, (h a).mpr (Or.inr ⟨ha, hk⟩), rfl, hR a⟩

theorem Puts.evolves_new {R : ρ → ρ → Prop} (hR : ∀ a, R a a) (h : Puts t t' row)
    (hfresh : t.Fresh (key row)) :
    Evolves R t t' :=
  h.evolves hR fun a ha hk => absurd hk (hfresh a ha)

end

section

variable [DecidableEq κ] {row old : ρ}

theorem puts_insert (h : t.Fresh (key row)) : Puts t (t.insert row) row := by
  intro x
  rw [mem_insert h]
  constructor
  · rintro (hx | rfl)
    · exact Or.inr ⟨hx, h x hx⟩
    · exact Or.inl rfl
  · rintro (rfl | ⟨hx, _⟩)
    · exact Or.inr rfl
    · exact Or.inl hx

theorem puts_update (h : t.find? (key row) = some old) : Puts t (t.update row) row := by
  obtain ⟨hold, hkey⟩ := find?_some h
  intro x
  rw [mem_update]
  constructor
  · rintro (⟨rfl, _⟩ | hx)
    · exact Or.inl rfl
    · exact Or.inr hx
  · rintro (rfl | hx)
    · exact Or.inl ⟨rfl, old, hold, hkey⟩
    · exact Or.inr hx

/-- The write as the lookups show it. -/
theorem puts_of_find? (h : ∀ k, t'.find? k = if k = key row then some row else t.find? k) :
    Puts t t' row := by
  intro x
  rw [mem_iff_find?, mem_iff_find?, h]
  by_cases hk : key x = key row
  · rw [if_pos hk]
    simp [hk, eq_comm]
  · rw [if_neg hk]
    have hne : x ≠ row := fun heq => hk (by rw [heq])
    simp [hk, hne]

/-- A stored row keeps its value. -/
theorem Puts.uniqueOn_same {f : ρ → Option β} (h : Puts t t' row) (ht : t.UniqueOn f)
    (hold : t.find? (key row) = some old) (hsame : f row = f old) : t'.UniqueOn f := by
  obtain ⟨hmem, hkey⟩ := find?_some hold
  refine h.uniqueOn ht ?_
  intro v hv x hx hxv
  rw [ht x hx old hmem v hxv (hsame.symm.trans hv), hkey]

theorem Puts.references_same {f : ρ → Option κ'} (h : Puts t t' row) (ht : t.References f s)
    (hold : t.find? (key row) = some old) (hsame : f row = f old) : t'.References f s := by
  refine h.references ht ?_
  intro k hk
  exact ht old (find?_some hold).1 k (hsame.symm.trans hk)

theorem Puts.evolves_stored {R : ρ → ρ → Prop} (hR : ∀ a, R a a) (h : Puts t t' row)
    (hold : t.find? (key row) = some old) (hrow : R old row) : Evolves R t t' := by
  obtain ⟨hmem, hkey⟩ := find?_some hold
  refine h.evolves hR ?_
  intro a ha hk
  rw [eq_of_key_eq ha hmem (hk.trans hkey.symm)]
  exact hrow

end

/-! ### Bulk writes -/

section

variable {R : ρ → ρ → Prop} {p : ρ → Bool} {f : ρ → ρ}

theorem restates_updateWhere (hf : ∀ r, key (f r) = key r) (hR : ∀ a, R a a) (hp : ∀ a, R a (f a)) :
    Restates R t (t.updateWhere p f hf) := by
  intro b hb
  obtain ⟨a, ha, rfl⟩ := mem_updateWhere.mp hb
  refine ⟨a, ha, ?_⟩
  split
  · exact ⟨hf a, hp a⟩
  · exact ⟨rfl, hR a⟩

theorem evolves_updateWhere (hf : ∀ r, key (f r) = key r) (hR : ∀ a, R a a) (hp : ∀ a, R a (f a)) :
    Evolves R t (t.updateWhere p f hf) := by
  intro a ha
  refine ⟨_, mem_updateWhere.mpr ⟨a, ha, rfl⟩, ?_⟩
  split
  · exact ⟨hf a, hp a⟩
  · exact ⟨rfl, hR a⟩

theorem Restates.uniqueOn {g : ρ → Option β} (h : Restates R t t') (hR : ∀ a b, R a b → g b = g a)
    (ht : t.UniqueOn g) :
    t'.UniqueOn g := by
  intro a' ha' b' hb' v hav hbv
  obtain ⟨a, ha, hka, hra⟩ := h a' ha'
  obtain ⟨b, hb, hkb, hrb⟩ := h b' hb'
  rw [hR a a' hra] at hav
  rw [hR b b' hrb] at hbv
  have heq : a = b := ht a ha b hb v hav hbv
  exact eq_of_key_eq ha' hb' (hka.trans (heq ▸ hkb.symm))

theorem Restates.references {g : ρ → Option κ'} (h : Restates R t t') (hR : ∀ a b, R a b → g b = g a)
    (ht : t.References g s) : t'.References g s := by
  intro b hb k hk
  obtain ⟨a, ha, _, hab⟩ := h b hb
  exact ht a ha k ((hR a b hab).symm.trans hk)

end

end Table

end Library
