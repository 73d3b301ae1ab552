import Mathlib.Tactic.Ring
import RatingLift.Python.Str

/-!
# UUIDs

`uuid.UUID` is a 128-bit number.  `str` is its canonical text and `parse` the constructor on a text, for ASCII
digits.  The text of a UUID names that UUID (`parse_str`).
-/

namespace RatingLift

structure Uuid where
  int : Nat
  lt : int < 2 ^ 128
deriving DecidableEq

namespace Uuid

def ofNat (n : Nat) : Uuid := ⟨n % 2 ^ 128, Nat.mod_lt _ (by decide)⟩

def hexDigit (n : Nat) : Char := Char.ofNat (if n < 10 then 48 + n else 87 + n)

/-- The last `k` hexadecimal digits of `n < 16 ^ k`. -/
def digits : Nat → Nat → List Char
  | 0, _ => []
  | k + 1, n => hexDigit (n / 16 ^ k) :: digits k (n % 16 ^ k)

/-- `'%032x' % self.int` -/
def hex (u : Uuid) : List Char := digits 32 u.int

/-- `str(u)` -/
def str (u : Uuid) : String :=
  let h := u.hex
  String.ofList (h.take 8 ++ '-' :: (h.drop 8).take 4 ++ '-' :: (h.drop 12).take 4 ++
    '-' :: (h.drop 16).take 4 ++ '-' :: h.drop 20)

def hexVal (c : Char) : Option Nat :=
  if '0' ≤ c ∧ c ≤ '9' then some (c.toNat - 48)
  else if 'a' ≤ c ∧ c ≤ 'f' then some (c.toNat - 87)
  else if 'A' ≤ c ∧ c ≤ 'F' then some (c.toNat - 55)
  else none

/-- Digits of `int(text, 16)`, with single underscores between them; `prev` says whether a digit came just
before. -/
def hexDigits : Nat → Bool → List Char → Option Nat
  | acc, prev, [] => if prev then some acc else none
  | acc, prev, c :: cs =>
    if c = '_' then (if prev then hexDigits acc false cs else none)
    else match hexVal c with
      | some d => hexDigits (16 * acc + d) true cs
      | none => none

/-- `int(text, 16)` of a text without a minus sign. -/
def intBase16 (l : List Char) : Option Nat :=
  let l := Py.stripChars Py.isSpace l
  let l := match l with
    | '+' :: r => r
    | r => r
  match l with
  | '0' :: 'x' :: '_' :: r => hexDigits 0 false r
  | '0' :: 'X' :: '_' :: r => hexDigits 0 false r
  | '0' :: 'x' :: r => hexDigits 0 false r
  | '0' :: 'X' :: r => hexDigits 0 false r
  | r => hexDigits 0 false r

/-- `UUID(text)`, `none` where it raises `ValueError`. -/
def parse (s : String) : Option Uuid :=
  let h := Py.removeAll "uuid:".toList (Py.removeAll "urn:".toList s.toList)
  let h := (Py.stripChars (fun c => c = '{' || c = '}') h).filter (· ≠ '-')
  if h.length = 32 then
    match intBase16 h with
    | some n => if hn : n < 2 ^ 128 then some ⟨n, hn⟩ else none
    | none => none
  else none

/-- A character that `hexDigit` produces. -/
private def IsHex (c : Char) : Prop := ∃ n, n < 16 ∧ c = hexDigit n

private theorem hexVal_hexDigit {n : Nat} (h : n < 16) : hexVal (hexDigit n) = some n := by
  have : ∀ n : Fin 16, hexVal (hexDigit n.val) = some n.val := by decide
  exact this ⟨n, h⟩

private theorem IsHex.ne {c d : Char} (h : IsHex c) (hd : ∀ n : Fin 16, hexDigit n.val ≠ d) : c ≠ d := by
  obtain ⟨n, hn, rfl⟩ := h
  exact hd ⟨n, hn⟩

private theorem IsHex.not_space {c : Char} (h : IsHex c) : Py.isSpace c = false := by
  obtain ⟨n, hn, rfl⟩ := h
  have : ∀ n : Fin 16, Py.isSpace (hexDigit n.val) = false := by decide
  exact this ⟨n, hn⟩

private theorem length_digits (k n : Nat) : (digits k n).length = k := by
  induction k generalizing n with
  | zero => rfl
  | succ k ih => rw [digits, List.length_cons, ih]

private theorem div_lt_of_lt_pow {k n : Nat} (h : n < 16 ^ (k + 1)) : n / 16 ^ k < 16 := by
  rw [Nat.div_lt_iff_lt_mul (Nat.pow_pos (by decide))]
  rw [pow_succ] at h; omega

private theorem isHex_digits {k : Nat} : ∀ {n : Nat}, n < 16 ^ k → ∀ c ∈ digits k n, IsHex c := by
  induction k with
  | zero => intro n _ c hc; cases hc
  | succ k ih =>
    intro n hn c hc
    rcases List.mem_cons.mp hc with rfl | hc
    · exact ⟨n / 16 ^ k, div_lt_of_lt_pow hn, rfl⟩
    · exact ih (Nat.mod_lt _ (Nat.pow_pos (by decide))) c hc

/-- Reading the digits of a number back gives the number. -/
private theorem hexDigits_digits {k : Nat} : ∀ {n : Nat}, n < 16 ^ k → ∀ acc prev, 0 < k ∨ prev = true →
    hexDigits acc prev (digits k n) = some (acc * 16 ^ k + n) := by
  induction k with
  | zero =>
    intro n hn acc prev h
    obtain rfl : prev = true := h.resolve_left (Nat.lt_irrefl 0)
    obtain rfl : n = 0 := by simpa using hn
    simp [digits, hexDigits]
  | succ k ih =>
    intro n hn acc prev _
    have hd : n / 16 ^ k < 16 := div_lt_of_lt_pow hn
    have hne : hexDigit (n / 16 ^ k) ≠ '_' := IsHex.ne ⟨_, hd, rfl⟩ (by decide)
    rw [digits, hexDigits, if_neg hne, hexVal_hexDigit hd]
    have hm : n % 16 ^ k < 16 ^ k := Nat.mod_lt _ (Nat.pow_pos (by decide))
    show hexDigits (16 * acc + n / 16 ^ k) true (digits k (n % 16 ^ k)) = _
    rw [ih hm _ true (Or.inr rfl)]
    have hdiv := Nat.div_add_mod n (16 ^ k)
    congr 1
    calc (16 * acc + n / 16 ^ k) * 16 ^ k + n % 16 ^ k
        = acc * 16 ^ (k + 1) + (16 ^ k * (n / 16 ^ k) + n % 16 ^ k) := by ring
      _ = acc * 16 ^ (k + 1) + n := by rw [hdiv]

private theorem intBase16_digits {k n : Nat} (hk : 2 ≤ k) (hn : n < 16 ^ k) :
    intBase16 (digits k n) = some n := by
  have hx := isHex_digits hn
  have hstrip : Py.stripChars Py.isSpace (digits k n) = digits k n :=
    Py.stripChars_eq_self fun c hc => (hx c hc).not_space
  have hread := hexDigits_digits hn 0 false (Or.inl (by omega))
  obtain ⟨a, b, l, hl⟩ : ∃ a b l, digits k n = a :: b :: l := by
    have := length_digits k n
    match h : digits k n, this with
    | a :: b :: l, _ => exact ⟨a, b, l, rfl⟩
    | [_], h' => simp at h'; omega
    | [], h' => simp at h'; omega
  have ha : a ≠ '+' := (hx a (by simp [hl])).ne (by decide)
  have hb1 : b ≠ 'x' := (hx b (by simp [hl])).ne (by decide)
  have hb2 : b ≠ 'X' := (hx b (by simp [hl])).ne (by decide)
  unfold intBase16
  rw [hstrip]
  simp only [hl] at hread ⊢
  split <;> (rename_i heq; split at heq)
  all_goals simp_all

private theorem pieces (h : List Char) :
    h.take 8 ++ ((h.drop 8).take 4 ++ ((h.drop 12).take 4 ++ ((h.drop 16).take 4 ++ h.drop 20))) = h := by
  conv => rhs; rw [← List.take_append_drop 8 h, ← List.take_append_drop 4 (h.drop 8), List.drop_drop,
    ← List.take_append_drop 4 (h.drop (8 + 4)), List.drop_drop,
    ← List.take_append_drop 4 (h.drop (8 + 4 + 4)),
    List.drop_drop]

/-- The canonical text of a UUID is read back as that UUID. -/
@[simp] theorem parse_str (u : Uuid) : parse u.str = some u := by
  have hx : ∀ c ∈ u.hex, IsHex c := isHex_digits (lt_of_lt_of_le u.lt (by norm_num))
  have hlen : u.hex.length = 32 := length_digits 32 u.int
  have hmem : ∀ c ∈ u.str.toList, IsHex c ∨ c = '-' := by
    intro c hc
    simp only [str, String.toList_ofList, List.mem_append, List.mem_cons] at hc
    rcases hc with (((hc | hc | hc) | hc | hc) | hc | hc) | hc | hc <;>
      first
      | exact Or.inr hc
      | exact Or.inl (hx c (List.mem_of_mem_take hc))
      | exact Or.inl (hx c (List.mem_of_mem_drop (List.mem_of_mem_take hc)))
      | exact Or.inl (hx c (List.mem_of_mem_drop hc))
  have hno : ∀ d, (∀ n : Fin 16, hexDigit n.val ≠ d) → d ≠ '-' → d ∉ u.str.toList := fun d hd hd' hm =>
    (hmem d hm).elim (fun h => h.ne hd rfl) hd'
  have hfilter : u.str.toList.filter (· ≠ '-') = u.hex := by
    have keep : ∀ l : List Char, (∀ c ∈ l, c ∈ u.hex) → l.filter (· ≠ '-') = l := fun l hl =>
      List.filter_eq_self.mpr fun c hc => by simpa using (hx c (hl c hc)).ne (by decide)
    conv => rhs; rw [← pieces u.hex]
    simp only [str, String.toList_ofList, List.filter_append, List.filter_cons, List.append_assoc]
    rw [keep _ fun c hc => List.mem_of_mem_take hc,
      keep _ fun c hc => List.mem_of_mem_drop (List.mem_of_mem_take hc),
      keep _ fun c hc => List.mem_of_mem_drop (List.mem_of_mem_take hc),
      keep _ fun c hc => List.mem_of_mem_drop (List.mem_of_mem_take hc),
      keep _ fun c hc => List.mem_of_mem_drop hc]
    simp
  have hstrip : Py.stripChars (fun c => c = '{' || c = '}') u.str.toList = u.str.toList := by
    apply Py.stripChars_eq_self
    intro c hc
    have h1 : c ≠ '{' := fun h => hno '{' (by decide) (by decide) (h ▸ hc)
    have h2 : c ≠ '}' := fun h => hno '}' (by decide) (by decide) (h ▸ hc)
    simp [h1, h2]
  have hcolon : ':' ∉ u.str.toList := hno ':' (by decide) (by decide)
  unfold parse
  rw [Py.removeAll_eq_self (p := "urn:".toList) (c := ':') (by decide) hcolon,
    Py.removeAll_eq_self (p := "uuid:".toList) (c := ':') (by decide) hcolon]
  simp only [hstrip, hfilter, hlen, ↓reduceIte]
  rw [hex, intBase16_digits (by decide) (lt_of_lt_of_le u.lt (by norm_num))]
  exact dif_pos u.lt

example : (ofNat 0x1f3a4b6c12344abc9def0123456789ab).str = "1f3a4b6c-1234-4abc-9def-0123456789ab" := by decide

end Uuid

end RatingLift
