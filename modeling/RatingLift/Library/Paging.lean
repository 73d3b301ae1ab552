import Mathlib.Data.List.Sort

/-!
# Pages of a sorted answer

A query with `ORDER BY`, `OFFSET` and `LIMIT` may return rows with equal keys in any order, and another order
each time. `le` compares the keys of rows, so that distinct rows may be `le` in both directions.

* (`filter_eq_take`) the rows below a bound stand at the front of a sorted answer;
* (`SortedAnswer.take_perm`) where no group of equal keys straddles a multiple of the page size, the front of
  an answer holds the same rows in every answer;
* (`pages_perm_iff`) the pages taken from different answers hold every row exactly once, whatever the answers
  are, exactly when no group of equal keys straddles a multiple of the page size.
-/

namespace Library

universe u

variable {α : Type u}

/-- The `k`-th page of an answer. -/
def pageOf (limit k : Nat) (a : List α) : List α := (a.drop (k * limit)).take limit

section

variable (le : α → α → Prop)

/-- A list that the query may answer with: the rows, in some order that the keys allow. -/
structure SortedAnswer (rows a : List α) : Prop where
  perm : a.Perm rows
  sorted : a.Pairwise le

variable [DecidableRel le]

/-- The rows whose key comes strictly before that of `x`. -/
def countBefore (x : α) (rows : List α) : Nat := rows.countP fun y => decide (le y x ∧ ¬ le x y)

/-- The rows whose key comes before that of `x` or is equal to it. -/
def countUpTo (x : α) (rows : List α) : Nat := rows.countP fun y => decide (le y x)

/-- No group of equal keys straddles a multiple of the page size. -/
def TiesWithinPages (limit : Nat) (rows : List α) : Prop :=
  ∀ x ∈ rows, ∀ k, k * limit ≤ countBefore le x rows ∨ countUpTo le x rows ≤ k * limit

end

variable {le : α → α → Prop} {rows a a' : List α} {limit : Nat}

/-! ### Scans -/

/-- The rows that a scan finds come in any order for some order of the scan. -/
theorem exists_perm_filterMap {β : Type*} {f : β → Option α} {l : List β} (h : a.Perm (l.filterMap f)) :
    ∃ l' : List β, l'.Perm l ∧ l'.filterMap f = a := by
  induction a generalizing l with
  | nil => exact ⟨l, List.Perm.refl l, List.nil_perm.mp h⟩
  | cons x a ih =>
    obtain ⟨c, hc, hx⟩ := List.mem_filterMap.mp (h.mem_iff.mp List.mem_cons_self)
    obtain ⟨front, back, rfl⟩ := List.append_of_mem hc
    rw [List.filterMap_append, List.filterMap_cons_some hx] at h
    have hrest : a.Perm ((front ++ back).filterMap f) := by
      rw [List.filterMap_append]
      exact (h.trans List.perm_middle).cons_inv
    obtain ⟨l', hperm, hl'⟩ := ih hrest
    refine ⟨c :: l', (hperm.cons c).trans List.perm_middle.symm, ?_⟩
    rw [List.filterMap_cons_some hx, hl']

theorem exists_perm_filter {p : α → Bool} {l : List α} (h : a.Perm (l.filter p)) :
    ∃ l' : List α, l'.Perm l ∧ l'.filter p = a := by
  rw [← List.filterMap_eq_filter] at h
  obtain ⟨l', hperm, hl'⟩ := exists_perm_filterMap h
  rw [List.filterMap_eq_filter] at hl'
  exact ⟨l', hperm, hl'⟩

/-! ### The front of an answer -/

/-- The rows below a bound stand at the front of a sorted answer. -/
theorem filter_eq_take {p : α → Bool} (hp : ∀ y z, le y z → p z = true → p y = true) (ha : a.Pairwise le) :
    a.filter p = a.take (a.countP p) := by
  induction a with
  | nil => rfl
  | cons x a ih =>
    rw [List.pairwise_cons] at ha
    by_cases hx : p x = true
    · rw [List.filter_cons_of_pos hx, List.countP_cons_of_pos hx, List.take_succ_cons, ih ha.2]
    · have hnone : ∀ y ∈ a, ¬ p y = true := fun y hy hpy => hx (hp x y (ha.1 y hy) hpy)
      rw [List.filter_cons_of_neg hx, List.countP_cons_of_neg hx, List.filter_eq_nil_iff.mpr hnone,
        List.countP_eq_zero.mpr hnone, List.take_zero]

/-- No row behind that front is below the bound. -/
theorem not_of_mem_drop {p : α → Bool} (hp : ∀ y z, le y z → p z = true → p y = true)
    (ha : a.Pairwise le) {x : α} (hx : x ∈ a.drop (a.countP p)) : ¬ p x = true := by
  have hfront : (a.take (a.countP p)).countP p = a.countP p := by
    rw [← filter_eq_take hp ha, List.countP_filter]
    simp
  have hsplit : a.countP p = (a.take (a.countP p)).countP p + (a.drop (a.countP p)).countP p := by
    rw [← List.countP_append, List.take_append_drop]
  have hnone : (a.drop (a.countP p)).countP p = 0 := by omega
  exact List.countP_eq_zero.mp hnone x hx

/-- Positions of a page. -/
theorem getElem_mem_pageOf {i k : Nat} (hi : i < a.length) (hle : k * limit ≤ i)
    (hlt : i < k * limit + limit) :
    a[i] ∈ pageOf limit k a := by
  unfold pageOf
  rw [List.mem_take_iff_getElem]
  have hdrop : i - k * limit < min limit (a.drop (k * limit)).length := by
    rw [List.length_drop]
    omega
  refine ⟨i - k * limit, hdrop, ?_⟩
  rw [List.getElem_drop]
  congr 1
  omega

/-- Neighbours with equal keys may change places. -/
theorem pairwise_swap {front back : List α} {x y : α} (h : (front ++ x :: y :: back).Pairwise le)
    (hyx : le y x) :
    (front ++ y :: x :: back).Pairwise le := by
  rw [List.pairwise_append, List.pairwise_cons, List.pairwise_cons] at h ⊢
  obtain ⟨hfront, ⟨hx, hy, hback⟩, hacross⟩ := h
  refine ⟨hfront, ⟨?_, ?_, hback⟩, ?_⟩
  · intro z hz
    rcases List.mem_cons.mp hz with rfl | hz
    · exact hyx
    · exact hy z hz
  · exact fun z hz => hx z (List.mem_cons_of_mem y hz)
  · intro z hz w hw
    refine hacross z hz w ?_
    rw [List.mem_cons, List.mem_cons] at hw ⊢
    rcases hw with rfl | rfl | hw
    · exact Or.inr (Or.inl rfl)
    · exact Or.inl rfl
    · exact Or.inr (Or.inr hw)

/-- The first rows up to a page, and that page. -/
theorem pageOf_succ (k : Nat) (a : List α) :
    a.take ((k + 1) * limit) = a.take (k * limit) ++ pageOf limit k a := by
  rw [Nat.add_mul, Nat.one_mul, List.take_add]
  rfl

section

variable [DecidableRel le] [Std.Total le]

/-- More than `i` rows come up to the row at position `i`. -/
theorem lt_countUpTo_getElem (ha : a.Pairwise le) {i : Nat} (hi : i < a.length) :
    i < countUpTo le a[i] a := by
  have hall : ∀ y ∈ a.take (i + 1), decide (le y a[i]) = true := by
    intro y hy
    rw [List.mem_take_iff_getElem] at hy
    obtain ⟨j, hj, rfl⟩ := hy
    rw [decide_eq_true_iff]
    rcases Nat.lt_or_ge j i with hji | hji
    · exact List.pairwise_iff_getElem.mp ha j i (by omega) hi hji
    · have hij : j = i := by omega
      subst hij
      exact (Std.Total.total a[j] a[j]).elim id id
  have hfront : (a.take (i + 1)).countP (fun y => decide (le y a[i])) = (a.take (i + 1)).length :=
    List.countP_eq_length.mpr hall
  have hsub : (a.take (i + 1)).countP (fun y => decide (le y a[i])) ≤ countUpTo le a[i] a :=
    (List.take_sublist (i + 1) a).countP_le
  rw [List.length_take] at hfront
  omega

end

section

variable [DecidableRel le] [IsTrans α le]

/-- What comes before a row that comes strictly before `x` does so too. -/
theorem before_of_le {x : α} (y z : α) (hyz : le y z) (hz : decide (le z x ∧ ¬ le x z) = true) :
    decide (le y x ∧ ¬ le x y) = true := by
  rw [decide_eq_true_iff] at hz ⊢
  exact ⟨trans_of le hyz hz.1, fun hxy => hz.2 (trans_of le hxy hyz)⟩

theorem upTo_of_le {x : α} (y z : α) (hyz : le y z) (hz : decide (le z x) = true) :
    decide (le y x) = true := by
  rw [decide_eq_true_iff] at hz ⊢
  exact trans_of le hyz hz

theorem filter_before (ha : a.Pairwise le) (x : α) :
    a.filter (fun y => decide (le y x ∧ ¬ le x y)) = a.take (countBefore le x a) :=
  filter_eq_take before_of_le ha

theorem filter_upTo (ha : a.Pairwise le) (x : α) :
    a.filter (fun y => decide (le y x)) = a.take (countUpTo le x a) := filter_eq_take upTo_of_le ha

/-- At most `i` rows come strictly before the row at position `i`. -/
theorem countBefore_getElem_le (ha : a.Pairwise le) {i : Nat} (hi : i < a.length) :
    countBefore le a[i] a ≤ i := by
  by_contra hlt
  have hmem : a[i] ∈ a.take (countBefore le a[i] a) := by
    rw [List.mem_take_iff_getElem]
    exact ⟨i, by omega, rfl⟩
  rw [← filter_before ha, List.mem_filter, decide_eq_true_iff] at hmem
  exact hmem.2.2 hmem.2.1

/-- Rows that stand up to the bound given by the key of `z` have at most that key. -/
theorem le_of_lt_countUpTo (ha : a.Pairwise le) {z : α} {i : Nat} (hi : i < a.length)
    (hlt : i < countUpTo le z a) :
    le a[i] z := by
  have hmem : a[i] ∈ a.take (countUpTo le z a) := by
    rw [List.mem_take_iff_getElem]
    exact ⟨i, by omega, rfl⟩
  rw [← filter_upTo ha, List.mem_filter, decide_eq_true_iff] at hmem
  exact hmem.2

/-- Rows behind those that come strictly before `z`, but not after it, have the key of `z`. -/
theorem le_of_countBefore_le (ha : a.Pairwise le) {z : α} {i : Nat} (hi : i < a.length)
    (hle : countBefore le z a ≤ i) (hlt : i < countUpTo le z a) : le z a[i] := by
  have hmem : a[i] ∈ a.drop (countBefore le z a) := by
    rw [List.mem_drop_iff_getElem]
    refine ⟨i - countBefore le z a, by omega, ?_⟩
    congr 1
    omega
  have hnot := not_of_mem_drop before_of_le ha hmem
  rw [decide_eq_true_iff] at hnot
  by_contra hfrom
  exact hnot ⟨le_of_lt_countUpTo ha hi hlt, hfrom⟩

/-- Where ties stay within pages, all answers hold the same rows up to a multiple of the page size. -/
theorem SortedAnswer.take_perm [Std.Total le] (h : SortedAnswer le rows a) (h' : SortedAnswer le rows a')
    (hties : TiesWithinPages le limit rows) (k : Nat) : (a.take (k * limit)).Perm (a'.take (k * limit)) := by
  have hlength : a.length = a'.length := h.perm.length_eq.trans h'.perm.length_eq.symm
  by_cases hi : k * limit < a.length
  · -- the row at the boundary decides where the boundary lies
    have hmem : a[k * limit] ∈ rows := h.perm.mem_iff.mp (List.getElem_mem hi)
    have hbefore : countBefore le a[k * limit] a = k * limit := by
      have hle := countBefore_getElem_le h.sorted hi
      have hlt := lt_countUpTo_getElem h.sorted hi
      have heq : countBefore le a[k * limit] a = countBefore le a[k * limit] rows := h.perm.countP_eq _
      have heq' : countUpTo le a[k * limit] a = countUpTo le a[k * limit] rows := h.perm.countP_eq _
      rcases hties _ hmem k with hfew | hmany
      · omega
      · omega
    have hbefore' : countBefore le a[k * limit] a' = k * limit :=
      ((h'.perm.trans h.perm.symm).countP_eq _).trans hbefore
    have hfront := filter_before h.sorted a[k * limit]
    have hfront' := filter_before h'.sorted a[k * limit]
    rw [hbefore] at hfront
    rw [hbefore'] at hfront'
    rw [← hfront, ← hfront']
    exact (h.perm.trans h'.perm.symm).filter _
  · rw [List.take_of_length_le (by omega), List.take_of_length_le (by omega)]
    exact h.perm.trans h'.perm.symm

/-! ### Pages -/

/-- The first pages of different answers hold the rows of the front of any answer. -/
theorem flatMap_pages_perm [Std.Total le] (hties : TiesWithinPages le limit rows)
    (ha : SortedAnswer le rows a) {ans : Nat → List α} (hans : ∀ k, SortedAnswer le rows (ans k)) (n : Nat) :
    ((List.range n).flatMap fun k => pageOf limit k (ans k)).Perm (a.take (n * limit)) := by
  induction n with
  | zero => simp
  | succ n ih =>
    rw [List.range_succ, List.flatMap_append, List.flatMap_singleton]
    have hfront : (a.take (n * limit)).Perm ((ans n).take (n * limit)) := ha.take_perm (hans n) hties n
    have hnext : ((ans n).take ((n + 1) * limit)).Perm (a.take ((n + 1) * limit)) :=
      (hans n).take_perm ha hties (n + 1)
    rw [pageOf_succ] at hnext
    exact ((ih.trans hfront).append_right _).trans hnext

/-- A group of equal keys that straddles a boundary has a row at each side of it, which may change places. -/
theorem exists_straddle [Std.Total le] (ha : SortedAnswer le rows a)
    (hties : ¬ TiesWithinPages le limit rows) :
    ∃ k front x y back, k * limit = front.length + 1 ∧ a = front ++ x :: y :: back ∧
      SortedAnswer le rows (front ++ y :: x :: back) := by
  unfold TiesWithinPages at hties
  push Not at hties
  obtain ⟨z, hz, k, hbefore, hupTo⟩ := hties
  have hbefore' : countBefore le z a = countBefore le z rows := ha.perm.countP_eq _
  have hupTo' : countUpTo le z a = countUpTo le z rows := ha.perm.countP_eq _
  have hlength : countUpTo le z a ≤ a.length := List.countP_le_length
  obtain ⟨i, hi⟩ : ∃ i, k * limit = i + 1 := ⟨k * limit - 1, by omega⟩
  have hi₀ : i < a.length := by omega
  have hi₁ : i + 1 < a.length := by omega
  have hsplit : a = a.take i ++ a[i] :: a[i + 1] :: a.drop (i + 2) := by
    rw [← List.drop_eq_getElem_cons, ← List.drop_eq_getElem_cons, List.take_append_drop]
  -- both rows have the key of `z`
  have hupTo₀ : le a[i] z := le_of_lt_countUpTo ha.sorted hi₀ (by omega)
  have hupTo₁ : le a[i + 1] z := le_of_lt_countUpTo ha.sorted hi₁ (by omega)
  have hfrom : le z a[i] := le_of_countBefore_le ha.sorted hi₀ (by omega) (by omega)
  have hback : le a[i + 1] a[i] := trans_of le hupTo₁ hfrom
  refine ⟨k, a.take i, a[i], a[i + 1], a.drop (i + 2), ?_, hsplit, ?_, ?_⟩
  · rw [List.length_take]
    omega
  · have hswap : (a.take i ++ a[i + 1] :: a[i] :: a.drop (i + 2)).Perm
        (a.take i ++ a[i] :: a[i + 1] :: a.drop (i + 2)) := (List.Perm.swap _ _ _).append_left _
    rw [← hsplit] at hswap
    exact hswap.trans ha.perm
  · have hsorted := ha.sorted
    rw [hsplit] at hsorted
    exact pairwise_swap hsorted hback

/-- The pages of any answers hold every row exactly once, exactly when ties stay within pages. -/
theorem pages_perm_iff [Std.Total le] (hlimit : 0 < limit) (hnodup : rows.Nodup) :
    (∀ ans : Nat → List α, (∀ k, SortedAnswer le rows (ans k)) → ∀ n, rows.length ≤ n * limit →
        ((List.range n).flatMap fun k => pageOf limit k (ans k)).Perm rows) ↔
          TiesWithinPages le limit rows := by
  have hsorted : SortedAnswer le rows (rows.insertionSort le) :=
    ⟨List.perm_insertionSort le rows, List.pairwise_insertionSort le rows⟩
  constructor
  · intro hpages
    by_contra hties
    obtain ⟨k, front, x, y, back, hk, ha, hswapped⟩ := exists_straddle hsorted hties
    -- the two rows change places between the page before the boundary and the page after it
    obtain ⟨j, rfl⟩ : ∃ j, k = j + 1 := by
      cases k with
      | zero => omega
      | succ j => exact ⟨j, rfl⟩
    have hans :
        ∀ i, SortedAnswer le rows (if i ≤ j then front ++ x :: y :: back else front ++ y :: x :: back) := by
      intro i
      split
      · exact ha ▸ hsorted
      · exact hswapped
    have hk' := hk
    rw [Nat.add_mul, Nat.one_mul] at hk'
    have hbound : rows.length ≤ (j + 2 + rows.length) * limit :=
      (Nat.le_add_left _ _).trans (Nat.le_mul_of_pos_right _ hlimit)
    have hdistinct := (hpages _ hans (j + 2 + rows.length) hbound).nodup_iff.mpr hnodup
    rw [List.nodup_flatMap] at hdistinct
    have hfirst : x ∈ pageOf limit j (front ++ x :: y :: back) := by
      have hi : front.length < (front ++ x :: y :: back).length := by simp
      have hmem := getElem_mem_pageOf hi (by omega : j * limit ≤ front.length) (by omega)
      simpa using hmem
    have hsecond : x ∈ pageOf limit (j + 1) (front ++ y :: x :: back) := by
      have hi : front.length + 1 < (front ++ y :: x :: back).length := by simp
      have hmem := getElem_mem_pageOf hi (by omega : (j + 1) * limit ≤ front.length + 1) (by omega)
      simpa using hmem
    have hapart :=
      List.pairwise_iff_getElem.mp hdistinct.2 j (j + 1) (by simp; omega) (by simp; omega) (by omega)
    rw [List.getElem_range, List.getElem_range] at hapart
    apply @hapart x
    · simpa using hfirst
    · have hlater : ¬ j + 1 ≤ j := by omega
      simpa [hlater] using hsecond
  · intro hties ans hans n hn
    have hpages := flatMap_pages_perm hties hsorted hans n
    rw [List.take_of_length_le (by rw [hsorted.perm.length_eq]; exact hn)] at hpages
    exact hpages.trans hsorted.perm

end

end Library
