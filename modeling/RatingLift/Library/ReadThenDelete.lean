import RatingLift.Library.ExpiringStore
import RatingLift.Library.Interleaving

/-!
# Values that are read and then deleted

Any number of callers take values out of an expiring store, each with two commands: a `GET`, and a `DEL` when
the value is one that the call accepts.  A call that has read its value returns it, whatever the `DEL` finds.
A key may be set again at any time; `issues` counts how often it was, and no caller reads that number, which
only tells one value that a key has had from the next.

* (`accepted_nodup`) no value is returned twice when no call reads one that another call has read and not yet
  deleted;
* (`undisturbed_of_nodup`) and once no call is left between its two commands, only then.
-/

namespace Library

universe u v w x

structure Issues (κ : Type u) (ν : Type v) where
  store : ExpiringStore κ ν
  issues : κ → Nat

/-- How far a caller has come. -/
inductive Taking (γ : Type w) (ν : Type v) where
  | ready
  /-- The call has read the value, which was the `issue`-th of its key. -/
  | found (call : γ) (value : ν) (issue : Nat)
  | answered (call : γ) (answer : Option ν)
deriving DecidableEq

inductive TakingCommand (κ : Type u) (ν : Type v) (γ : Type w) where
  | setex (now ttl : Nat) (k : κ) (v : ν)
  | get (now : Nat) (call : γ)
  | del

namespace Taking

section

variable {κ : Type u} {ν : Type v} {γ : Type w} (key : γ → κ) (accepts : γ → ν → Bool)

/-- The value that a call finds and accepts. -/
def wanted (store : ExpiringStore κ ν) (now : Nat) (call : γ) : Option ν :=
  (store.get now (key call)).filter (accepts call)

/-- What a call has read and is about to delete: the key and the number of the issue. -/
def pending : Taking γ ν → Option (κ × Nat)
  | found call _ issue => some (key call, issue)
  | _ => none

variable [DecidableEq κ]

/-- Where a call stands after its `GET`. -/
def afterGet (s : Issues κ ν) (now : Nat) (call : γ) : Taking γ ν :=
  match wanted key accepts s.store now call with
  | some value => .found call value (s.issues (key call))
  | none => .answered call none

def prog : TakingCommand κ ν γ → Taking γ ν → Issues κ ν → Option (Taking γ ν × Issues κ ν)
  | .del, .found call value _, s => some (.answered call (some value), ⟨s.store.del (key call), s.issues⟩)
  -- a caller that has read a value issues nothing and starts no other call before its `DEL`
  | _, .found .., _ => none
  | .setex now ttl k v, m, s =>
    some (m, ⟨s.store.setex now ttl k v, Function.update s.issues k (s.issues k + 1)⟩)
  | .get now call, _, s => some (afterGet key accepts s now call, s)
  | .del, _, _ => none

/-- What one command does. -/
inductive Effect (m : Taking γ ν) (s : Issues κ ν) :
    TakingCommand κ ν γ → Taking γ ν → Issues κ ν → Prop where
  | issued {now ttl : Nat} {k : κ} {v : ν} (hfree : m.pending key = none) :
      Effect m s (.setex now ttl k v) m
        ⟨s.store.setex now ttl k v, Function.update s.issues k (s.issues k + 1)⟩
  | read {now : Nat} {call : γ} {value : ν} (hfree : m.pending key = none)
      (hfound : wanted key accepts s.store now call = some value) :
      Effect m s (.get now call) (.found call value (s.issues (key call))) s
  | refused {now : Nat} {call : γ} (hfree : m.pending key = none)
      (hnone : wanted key accepts s.store now call = none) :
      Effect m s (.get now call) (.answered call none) s
  | deleted {call : γ} {value : ν} {issue : Nat} (hfound : m = .found call value issue) :
      Effect m s .del (.answered call (some value)) ⟨s.store.del (key call), s.issues⟩

variable {key accepts}

theorem afterGet_effect {m : Taking γ ν} {s : Issues κ ν} {now : Nat} {call : γ}
    (hfree : m.pending key = none) :
    Effect key accepts m s (.get now call) (afterGet key accepts s now call) s := by
  unfold afterGet
  split
  · rename_i value hfound
    exact .read hfree hfound
  · rename_i hnone
    exact .refused hfree hnone

theorem prog_effect {cmd : TakingCommand κ ν γ} {m m' : Taking γ ν} {s s' : Issues κ ν}
    (h : prog key accepts cmd m s = some (m', s')) : Effect key accepts m s cmd m' s' := by
  cases m with
  | found call value issue =>
    cases cmd with
    | del => cases h; exact .deleted rfl
    | setex _ _ _ _ => cases h
    | get _ _ => cases h
  | ready =>
    cases cmd with
    | del => cases h
    | setex now ttl k v => cases h; exact .issued rfl
    | get now call => cases h; exact afterGet_effect rfl
  | answered _ _ =>
    cases cmd with
    | del => cases h
    | setex now ttl k v => cases h; exact .issued rfl
    | get now call => cases h; exact afterGet_effect rfl

end

/-! ### Runs -/

section

variable {κ : Type u} {ν : Type v} {γ : Type w} {π : Type x} (key : γ → κ) (accepts : γ → ν → Bool)

/-- One command of one caller. -/
abbrev TakingStep (π : Type x) (κ : Type u) (ν : Type v) (γ : Type w) :=
  Step (Config π (Issues κ ν) (Taking γ ν)) (π × TakingCommand κ ν γ)

/-- What a step returns: the `DEL` of a call ends it. -/
def acceptedBy (a : TakingStep π κ ν γ) : Option (κ × Nat) :=
  match a.label.2 with
  | .del => (a.before.locals a.label.1).pending key
  | _ => none

/-- The issues that calls have returned, in the order of their deletes. -/
def accepted (tr : List (TakingStep π κ ν γ)) : List (κ × Nat) := tr.filterMap (acceptedBy key)

/-- No call reads what another call has read and not yet deleted. -/
def Undisturbed (c : Config π (Issues κ ν) (Taking γ ν)) (l : π × TakingCommand κ ν γ) : Prop :=
  ∀ now call, l.2 = .get now call → (wanted key accepts c.shared.store now call).isSome →
    ∀ q, (c.locals q).pending key ≠ some (key call, c.shared.issues (key call))

/-- What has been returned is gone, and what is pending has been read by one caller and not been returned. -/
structure TakenOnce (tr : List (TakingStep π κ ν γ)) (c : Config π (Issues κ ν) (Taking γ ν)) : Prop where
  once : (accepted key tr).Nodup
  spent : ∀ i ∈ accepted key tr, i.2 < c.shared.issues i.1 ∨ i.2 = c.shared.issues i.1 ∧
    c.shared.store i.1 = none
  unspent : ∀ q i, (c.locals q).pending key = some i → i ∉ accepted key tr ∧ i.2 ≤ c.shared.issues i.1
  apart : ∀ q r i, (c.locals q).pending key = some i → (c.locals r).pending key = some i → q = r

variable {key accepts} {tr : List (TakingStep π κ ν γ)} {a : TakingStep π κ ν γ}
  {c c' : Config π (Issues κ ν) (Taking γ ν)} {i : κ × Nat}

theorem accepted_concat_none (h : acceptedBy key a = none) : accepted key (tr ++ [a]) = accepted key tr := by
  simp [accepted, h]

theorem accepted_concat_some (h : acceptedBy key a = some i) :
    accepted key (tr ++ [a]) = accepted key tr ++ [i] := by
  simp [accepted, h]

/-- Two steps of a run without repetition that return the same value are one. -/
theorem eq_of_accepted_nodup {a b : TakingStep π κ ν γ} (h : (accepted key tr).Nodup) (ha : a ∈ tr)
    (hb : b ∈ tr) (hai : acceptedBy key a = some i) (hbi : acceptedBy key b = some i) : a = b := by
  induction tr with
  | nil => cases ha
  | cons x tr ih =>
    have htail : (accepted key tr).Nodup := h.sublist (List.Sublist.filterMap _ (List.sublist_cons_self x tr))
    -- what the first step returns is returned by no other one
    have hfirst : acceptedBy key x = some i → ∀ y ∈ tr, acceptedBy key y ≠ some i := by
      intro hx y hy hyi
      unfold accepted at h
      rw [List.filterMap_cons_some hx] at h
      exact (List.nodup_cons.mp h).1 (List.mem_filterMap.mpr ⟨y, hy, hyi⟩)
    rcases List.mem_cons.mp ha with hax | ha'
    · rcases List.mem_cons.mp hb with hbx | hb'
      · rw [hax, hbx]
      · exact absurd hbi (hfirst (hax ▸ hai) b hb')
    · rcases List.mem_cons.mp hb with hbx | hb'
      · exact absurd hai (hfirst (hbx ▸ hbi) a ha')
      · exact ih htail ha' hb'

/-- A value that can be read has not been returned. -/
theorem TakenOnce.of_wanted {now : Nat} {call : γ} (h : TakenOnce key tr c)
    (hfound : (wanted key accepts c.shared.store now call).isSome) :
    (key call, c.shared.issues (key call)) ∉ accepted key tr := by
  intro hmem
  rcases h.spent _ hmem with hlt | ⟨_, hnone⟩
  · exact Nat.lt_irrefl _ hlt
  · obtain ⟨value, hvalue⟩ := Option.isSome_iff_exists.mp hfound
    obtain ⟨e, he, _⟩ := ExpiringStore.isSome_of_get (Option.filter_eq_some_iff.mp hvalue).1
    rw [hnone] at he
    cases he

/-- A step that returns nothing, reads nothing and deletes nothing. -/
private theorem TakenOnce.keep (h : TakenOnce key tr c) (hnone : acceptedBy key a = none)
    (hspent : ∀ k, c.shared.issues k < c'.shared.issues k ∨
      c'.shared.issues k = c.shared.issues k ∧ c'.shared.store k = c.shared.store k)
    (hpending : ∀ q i, (c'.locals q).pending key = some i → (c.locals q).pending key = some i) :
    TakenOnce key (tr ++ [a]) c' := by
  refine ⟨?_, ?_, ?_, fun q r i hq hr => h.apart q r i (hpending q i hq) (hpending r i hr)⟩
  · rw [accepted_concat_none hnone]
    exact h.once
  · intro i hi
    rw [accepted_concat_none hnone] at hi
    rcases hspent i.1 with hmore | ⟨hissues, hstore⟩
    · have := h.spent i hi
      omega
    · rw [hissues, hstore]
      exact h.spent i hi
  · intro q i hq
    obtain ⟨hnew, hle⟩ := h.unspent q i (hpending q i hq)
    rw [accepted_concat_none hnone]
    refine ⟨hnew, ?_⟩
    have := hspent i.1
    omega

end

section

variable {κ : Type u} {ν : Type v} {γ : Type w} {π : Type x} [DecidableEq κ] [DecidableEq π]
  {key : γ → κ} {accepts : γ → ν → Bool} {tr : List (TakingStep π κ ν γ)}
    {c : Config π (Issues κ ν) (Taking γ ν)}
  {p : π} {cmd : TakingCommand κ ν γ} {m : Taking γ ν} {s : Issues κ ν} {i : κ × Nat}

omit [DecidableEq κ] in
/-- What is pending after a step of `p` is pending for `p` now, or was for another caller. -/
theorem pending_act {q : π} (h : ((c.act p m s).locals q).pending key = some i) :
    (q = p ∧ m.pending key = some i) ∨ (q ≠ p ∧ (c.locals q).pending key = some i) :=
  Config.of_locals_act (P := fun m : Taking γ ν => m.pending key = some i) h

omit [DecidableEq κ] in
/-- A call that reads a value that nobody has read and not yet deleted. -/
private theorem TakenOnce.read {a : TakingStep π κ ν γ} {now : Nat} {call : γ} {value : ν}
    (h : TakenOnce key tr c) (hnone : acceptedBy key a = none)
    (hsome : (wanted key accepts c.shared.store now call).isSome)
    (hothers : ∀ q, (c.locals q).pending key ≠ some (key call, c.shared.issues (key call))) :
    TakenOnce key (tr ++ [a]) (c.act p (.found call value (c.shared.issues (key call))) c.shared) := by
  refine ⟨?_, ?_, ?_, ?_⟩
  · rw [accepted_concat_none hnone]
    exact h.once
  · intro i hi
    rw [accepted_concat_none hnone] at hi
    exact h.spent i hi
  · intro q i hq
    rw [accepted_concat_none hnone]
    rcases pending_act hq with ⟨_, hown⟩ | ⟨_, hold⟩
    · obtain rfl := Option.some.inj hown
      exact ⟨h.of_wanted hsome, Nat.le_refl _⟩
    · exact h.unspent q i hold
  · intro q r i hq hr
    rcases pending_act hq with ⟨hqp, hown⟩ | ⟨_, hold⟩
    · rcases pending_act hr with ⟨hrp, _⟩ | ⟨_, hold'⟩
      · rw [hqp, hrp]
      · obtain rfl := Option.some.inj hown
        exact absurd hold' (hothers r)
    · rcases pending_act hr with ⟨_, hown⟩ | ⟨_, hold'⟩
      · obtain rfl := Option.some.inj hown
        exact absurd hold (hothers q)
      · exact h.apart q r i hold hold'

/-- A call that deletes the value that it has read, and returns it. -/
private theorem TakenOnce.deleted {a : TakingStep π κ ν γ} {call : γ} {value : ν} {issue : Nat}
    (h : TakenOnce key tr c) (haccepted : acceptedBy key a = some (key call, issue))
    (hown : (c.locals p).pending key = some (key call, issue)) :
    TakenOnce key (tr ++ [a])
      (c.act p (.answered call (some value)) ⟨c.shared.store.del (key call), c.shared.issues⟩) := by
  obtain ⟨hnew, hle⟩ := h.unspent p _ hown
  -- the caller has nothing pending any more
  have hpending : ∀ q i, ((c.act p (.answered call (some value))
      ⟨c.shared.store.del (key call), c.shared.issues⟩).locals q).pending key = some i →
        q ≠ p ∧ (c.locals q).pending key = some i := by
    intro q i hq
    rcases pending_act hq with ⟨_, hnone⟩ | hold
    · cases hnone
    · exact hold
  refine ⟨?_, ?_, ?_, ?_⟩
  · rw [accepted_concat_some haccepted, List.nodup_append]
    refine ⟨h.once, by simp, ?_⟩
    intro j hj j' hj' heq
    rw [heq, List.mem_singleton.mp hj'] at hj
    exact hnew hj
  · intro i hi
    rw [accepted_concat_some haccepted, List.mem_append, List.mem_singleton] at hi
    rcases hi with hi | rfl
    · rcases h.spent i hi with hlt | ⟨heq, hnone⟩
      · exact Or.inl hlt
      · refine Or.inr ⟨heq, ?_⟩
        by_cases hk : i.1 = key call
        · simp [hk]
        · simpa [hk] using hnone
    · rcases Nat.lt_or_eq_of_le hle with hlt | heq
      · exact Or.inl hlt
      · exact Or.inr ⟨heq, by simp⟩
  · intro q i hq
    obtain ⟨hqp, hold⟩ := hpending q i hq
    obtain ⟨hi, hile⟩ := h.unspent q i hold
    refine ⟨?_, hile⟩
    rw [accepted_concat_some haccepted, List.mem_append, List.mem_singleton]
    rintro (hmem | rfl)
    · exact hi hmem
    · exact hqp (h.apart q p _ hold hown)
  · intro q r i hq hr
    exact h.apart q r i (hpending q i hq).2 (hpending r i hr).2

/-- One command that reads nothing that is pending keeps the values apart. -/
theorem TakenOnce.step (h : TakenOnce key tr c) (hquiet : Undisturbed key accepts c (p, cmd))
    (heffect : Effect key accepts (c.locals p) c.shared cmd m s) :
    TakenOnce key (tr ++ [⟨c, (p, cmd), c.act p m s⟩]) (c.act p m s) := by
  cases heffect with
  | @issued now ttl k v hfree =>
    refine h.keep rfl ?_ ?_
    · intro k'
      by_cases hk : k' = k
      · subst hk
        exact Or.inl (by simp)
      · exact Or.inr ⟨by simp [hk], ExpiringStore.setex_of_ne hk⟩
    · intro q i hq
      rcases pending_act hq with ⟨hqp, hown⟩ | ⟨_, hold⟩
      · rw [hqp]
        exact hown
      · exact hold
  | refused hfree hnone =>
    refine h.keep rfl (fun k => Or.inr ⟨rfl, rfl⟩) ?_
    intro q i hq
    rcases pending_act hq with ⟨_, hown⟩ | ⟨_, hold⟩
    · cases hown
    · exact hold
  | @read now call value hfree hfound =>
    have hsome : (wanted key accepts c.shared.store now call).isSome := by rw [hfound]; rfl
    exact h.read rfl hsome (hquiet now call rfl hsome)
  | @deleted call value issue hfound =>
    have hown : (c.locals p).pending key = some (key call, issue) := by rw [hfound]; rfl
    exact h.deleted hown hown

variable {init : Config π (Issues κ ν) (Taking γ ν)} {ok : List (TakingStep π κ ν γ) →
  Config π (Issues κ ν) (Taking γ ν) → π × TakingCommand κ ν γ → Prop}

/-- No value is returned twice when no call reads what another has read and not yet deleted. -/
theorem accepted_nodup (h : Run (Config.step (prog key accepts)) ok init tr c)
    (hstart : ∀ q, (init.locals q).pending key = none)
    (hquiet : ∀ x ∈ tr, Undisturbed key accepts x.before x.label) : (accepted key tr).Nodup := by
  have hrun := h.and_of_forall hquiet
  suffices hsound : TakenOnce key tr c from hsound.once
  refine Run.invariant (I := fun tr c => TakenOnce key tr c) ⟨List.nodup_nil, ?_, ?_, ?_⟩ ?_ hrun
  · intro i hi
    cases hi
  · intro q i hq
    rw [hstart] at hq
    cases hq
  · intro q r i hq _
    rw [hstart] at hq
    cases hq
  · rintro tr c ⟨p, cmd⟩ c' _ ih ⟨_, hok⟩ hnext
    obtain ⟨m, s, hprog, rfl⟩ := Config.step_eq_some hnext
    exact ih.step hok (prog_effect hprog)

/-- A call that has read a value is still about to delete it, or has returned it. -/
theorem pending_or_accepted {pre post : List (TakingStep π κ ν γ)} {a : TakingStep π κ ν γ} {q : π}
    (h : Run (Config.step (prog key accepts)) ok init tr c) (htr : tr = pre ++ a :: post)
    (hq : (a.after.locals q).pending key = some i) :
    (c.locals q).pending key = some i ∨ ∃ b ∈ post, b.label.1 = q ∧ acceptedBy key b = some i := by
  refine Run.since (J := fun post t => (t.locals q).pending key = some i ∨
    ∃ b ∈ post, b.label.1 = q ∧ acceptedBy key b = some i) h htr (Or.inl hq) ?_
  rintro pre' b post' hb (hpending | ⟨b', hmem, hb'⟩)
  · have htr' : tr = (pre ++ a :: pre') ++ b :: post' := by rw [hb]; simp
    obtain ⟨_, _, hnext⟩ := h.split htr'
    obtain ⟨m, s, hprog, hafter⟩ := Config.step_eq_some (p := b.label.1) (a := b.label.2) hnext
    by_cases hqp : b.label.1 = q
    · -- the one command that a caller between its two commands may send is its `DEL`
      refine Or.inr ⟨b, by simp, hqp, ?_⟩
      rw [← hqp] at hpending
      have heffect := prog_effect hprog
      unfold acceptedBy
      generalize b.label.2 = cmd at heffect
      cases heffect with
      | issued hfree => rw [hfree] at hpending; cases hpending
      | read hfree _ => rw [hfree] at hpending; cases hpending
      | refused hfree _ => rw [hfree] at hpending; cases hpending
      | deleted _ => exact hpending
    · refine Or.inl ?_
      rw [hafter, Config.act_locals_of_ne (Ne.symm hqp)]
      exact hpending
  · exact Or.inr ⟨b', by simp [hmem], hb'⟩

/-- Once no call is left between its two commands: if no value was returned twice, no call read what another
had read and not yet deleted. -/
theorem undisturbed_of_nodup (h : Run (Config.step (prog key accepts)) ok init tr c)
    (hdone : ∀ q, (c.locals q).pending key = none) (honce : (accepted key tr).Nodup) :
    ∀ x ∈ tr, Undisturbed key accepts x.before x.label := by
  intro x hx now call hlabel hsome q hq
  obtain ⟨pre, post, htr⟩ := List.append_of_mem hx
  obtain ⟨_, _, hnext⟩ := h.split htr
  obtain ⟨m, s, hprog, hafter⟩ := Config.step_eq_some (p := x.label.1) (a := x.label.2) hnext
  obtain ⟨hfree, hm⟩ : (x.before.locals x.label.1).pending key = none ∧
      m.pending key = some (key call, x.before.shared.issues (key call)) := by
    have heffect := prog_effect hprog
    rw [hlabel] at heffect
    cases heffect with
    | read hfree _ => exact ⟨hfree, rfl⟩
    | refused _ hnone => rw [hnone] at hsome; cases hsome
  have hqp : q ≠ x.label.1 := by
    rintro rfl
    rw [hfree] at hq
    cases hq
  -- both calls go on to delete the value and to return it
  have hreturns : ∀ r, (x.after.locals r).pending key = some (key call, x.before.shared.issues (key call)) →
      ∃ b ∈ post, b.label.1 = r ∧ acceptedBy key b = some (key call, x.before.shared.issues (key call)) := by
    intro r hr
    rcases pending_or_accepted h htr hr with hpending | hreturned
    · rw [hdone] at hpending
      cases hpending
    · exact hreturned
  obtain ⟨b, hb, hbx, hba⟩ := hreturns x.label.1 (by rw [hafter, Config.act_locals_self]; exact hm)
  obtain ⟨b', hb', hbq, hba'⟩ := hreturns q (by rw [hafter, Config.act_locals_of_ne hqp]; exact hq)
  have hne : b ≠ b' := by
    rintro rfl
    exact hqp (hbq.symm.trans hbx)
  have hpost : (accepted key post).Nodup := by
    refine List.Nodup.sublist ?_ honce
    rw [htr]
    exact List.Sublist.filterMap _ (List.sublist_append_of_sublist_right (List.sublist_cons_self _ _))
  exact hne (eq_of_accepted_nodup hpost hb hb' hba hba')

end

end Taking

end Library
