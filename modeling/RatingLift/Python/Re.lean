import RatingLift.Python.Str

/-!
# Regular expressions

The character classes and the anchor `$` of `re` on `str`.  `\d` is every decimal digit of Unicode 14.0, and
`$` stands at the end and also before a line break that ends the text.
-/

namespace RatingLift

namespace Py

/-- `[a-z0-9]` -/
def isLowerAlnum (c : Char) : Bool := (0x61 ≤ c.toNat && c.toNat ≤ 0x7A) || (0x30 ≤ c.toNat && c.toNat ≤ 0x39)

/-- `[0-9]` -/
def isAsciiDigit (c : Char) : Bool := 0x30 ≤ c.toNat && c.toNat ≤ 0x39

/-- The zeros of the scripts: the characters of category Nd come in runs of ten. -/
def decimalZeros : List Nat :=
  [0x0030, 0x0660, 0x06F0, 0x07C0, 0x0966, 0x09E6, 0x0A66, 0x0AE6, 0x0B66, 0x0BE6, 0x0C66, 0x0CE6, 0x0D66,
    0x0DE6, 0x0E50, 0x0ED0, 0x0F20, 0x1040, 0x1090, 0x17E0, 0x1810, 0x1946, 0x19D0, 0x1A80, 0x1A90, 0x1B50,
    0x1BB0, 0x1C40, 0x1C50, 0xA620, 0xA8D0, 0xA900, 0xA9D0, 0xA9F0, 0xAA50, 0xABF0, 0xFF10, 0x104A0, 0x10D30,
    0x11066, 0x110F0, 0x11136, 0x111D0, 0x112F0, 0x11450, 0x114D0, 0x11650, 0x116C0, 0x11730,
    0x118E0, 0x11950,
    0x11C50, 0x11D50, 0x11DA0, 0x16A60, 0x16AC0, 0x16B50, 0x1D7CE, 0x1D7D8, 0x1D7E2, 0x1D7EC,
    0x1D7F6, 0x1E140,
    0x1E2F0, 0x1E950, 0x1FBF0]

/-- `\d` -/
def isDecimal (c : Char) : Bool := decimalZeros.any fun z => z ≤ c.toNat && c.toNat < z + 10

/-- `p` up to `$`. -/
def upToEnd (p : List Char → Bool) (l : List Char) : Bool := p l || (l.getLast? == some '\n' && p l.dropLast)

theorem isLowerAlnum_iff {c : Char} : isLowerAlnum c = true ↔
    (0x61 ≤ c.toNat ∧ c.toNat ≤ 0x7A) ∨ (0x30 ≤ c.toNat ∧ c.toNat ≤ 0x39) := by
  simp [isLowerAlnum]

theorem isAsciiDigit_iff {c : Char} : isAsciiDigit c = true ↔ 0x30 ≤ c.toNat ∧ c.toNat ≤ 0x39 := by
  simp [isAsciiDigit]

theorem toLower_of_isLowerAlnum {c : Char} (h : isLowerAlnum c = true) : c.toLower = c := by
  rw [isLowerAlnum_iff] at h
  have hupper : ¬ (c.val ≥ 'A'.val ∧ c.val ≤ 'Z'.val) := by
    intro hu
    have h1 : 65 ≤ c.toNat := hu.1
    have h2 : c.toNat ≤ 90 := hu.2
    omega
  unfold Char.toLower
  rw [dif_neg hupper]

theorem isSpace_of_isLowerAlnum {c : Char} (h : isLowerAlnum c = true) : isSpace c = false := by
  rw [isLowerAlnum_iff] at h
  simp only [isSpace, Bool.or_eq_false_iff, Bool.and_eq_false_iff, decide_eq_false_iff_not,
    beq_eq_false_iff_ne]
  omega

/-- On ASCII characters `\d` is `[0-9]`. -/
theorem isDecimal_ascii {c : Char} (h : c.toNat < 0x80) : isDecimal c = isAsciiDigit c := by
  have hothers : (decimalZeros.tail.all fun z => 0x80 ≤ z) = true := by decide
  have hnone : (decimalZeros.tail.any fun z => z ≤ c.toNat && c.toNat < z + 10) = false := by
    rw [List.any_eq_false]
    intro z hz
    have hz' : 0x80 ≤ z := by simpa using List.all_eq_true.mp hothers z hz
    simp only [Bool.and_eq_true, decide_eq_true_eq, not_and, not_lt]
    omega
  have hsplit : decimalZeros = 0x30 :: decimalZeros.tail := rfl
  unfold isDecimal
  rw [hsplit, List.any_cons, hnone, Bool.or_false, Bool.eq_iff_iff, isAsciiDigit_iff]
  simp only [Bool.and_eq_true, decide_eq_true_eq]
  omega

end Py

end RatingLift
