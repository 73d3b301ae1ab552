import RatingLift.Connectors.CatalogueEffects

/-!
# The life of a connector

A connector is live, then deleted, then perhaps restored.  The columns that record this agree with one another
after any requests, whatever their order, and so do the logo hashes of the live rows; a deleted row keeps its
name and its hash, which a live one may take over meanwhile, and only the restore route writes to it.

* (`CatalogueEffect.lifecycle`) a request keeps the columns in agreement;
* (`CatalogueEffect.keepsDeleted`) unless it is a restore it leaves the deleted rows alone;
* (`lifecycle_invariant`) the law over runs.
-/

namespace RatingLift

open Library

/-- The columns that say whether the row is deleted agree. -/
structure Connector.LifecycleAgrees (c : Connector) : Prop where
  deleted : c.isDeleted = true → c.isActive = false ∧ c.deletedAt ≠ none
  live : c.isDeleted = false → c.deletedAt = none

/-- No two live rows have the same logo hash. -/
def LiveHashesDistinct (t : Table Connector) : Prop :=
  ∀ a ∈ t, ∀ b ∈ t, a.isDeleted = false → b.isDeleted = false → a.id ≠ b.id → a.logoSha256 ≠ none →
    a.logoSha256 ≠ b.logoSha256

/-- The catalogue as its routes leave it. -/
structure LifecycleHolds (env : ConnectorEnv) (t : Table Connector) : Prop where
  indexes : IndexesHold env t
  agrees : ∀ c ∈ t, c.LifecycleAgrees

section

variable {env : ConnectorEnv} {settings : Settings} {t t' : Table Connector} {r : CatalogueRequest}

/-- Either schema keeps the hashes of live rows apart. -/
theorem IndexesHold.liveHashesDistinct (h : IndexesHold env t) : LiveHashesDistinct t := by
  intro a ha b hb hliveA hliveB hne hsome heq
  have hsame : sameHash a b = true := by simp [sameHash, ← heq, hsome]
  have hno := h a ha b hb hne
  unfold conflict at hno
  cases hschema : env.schema with
  | metadata =>
    rw [hschema] at hno
    exact absurd (hsame.symm.trans hno) nofun
  | migrations =>
    rw [hschema] at hno
    simp [hliveA, hliveB, hsame] at hno

/-! ### One request -/

theorem Put.agrees {row : Connector} (h : Put env t t' row) (hrow : row.LifecycleAgrees)
    (ht : ∀ c ∈ t, c.LifecycleAgrees) : ∀ c ∈ t', c.LifecycleAgrees := by
  intro c hc
  rcases h.mem_iff.mp hc with rfl | ⟨hc, _⟩
  · exact hrow
  · exact ht c hc

/-- A live row with no deletion time agrees. -/
theorem Connector.LifecycleAgrees.of_live {c : Connector} (hlive : c.isDeleted = false)
    (hat : c.deletedAt = none) :
    c.LifecycleAgrees :=
  ⟨fun h => absurd (hlive.symm.trans h) nofun, fun _ => hat⟩

theorem Reordered.agrees {c c' : Connector} (h : Reordered c c') (hc : c.LifecycleAgrees) :
    c'.LifecycleAgrees := by
  rcases h with rfl | ⟨hlive, n, rfl⟩
  · exact hc
  · exact .of_live hlive (hc.live hlive)

theorem CatalogueEffect.agrees (h : CatalogueEffect env t t' r) (ht : ∀ c ∈ t, c.LifecycleAgrees) :
    ∀ c ∈ t', c.LifecycleAgrees := by
  cases h with
  | same h => exact h ▸ ht
  | created hput hnew hlive hat => exact hput.agrees (.of_live hlive hat) ht
  | edited hc hput hlive hlive' hat =>
    have hold := (ht _ (Table.find?_some hc).1).live hlive
    exact hput.agrees (.of_live hlive' (hat.trans hold)) ht
  | deleted hc hlive hput => exact hput.agrees ⟨fun _ => ⟨rfl, nofun⟩, nofun⟩ ht
  | restored hc hdeleted hput => exact hput.agrees (.of_live rfl rfl) ht
  | reordered h =>
    intro c' hc'
    obtain ⟨c, hc, hr⟩ := h.only c' hc'
    exact hr.agrees (ht c hc)
  | seeded h =>
    induction h with
    | refl => exact ht
    | tail _ hstep ih =>
      obtain ⟨id, name, _, _, _, hput⟩ := hstep
      exact hput.agrees (.of_live rfl rfl) ih

theorem CatalogueEffect.lifecycle (h : CatalogueEffect env t t' r) (ht : LifecycleHolds env t) :
    LifecycleHolds env t' :=
  ⟨h.indexes ht.indexes, h.agrees ht.agrees⟩

/-- Writing a row that is not the one asked about. -/
theorem Put.keeps {row c : Connector} (h : Put env t t' row) (hc : t.find? c.id = some c)
    (hne : c.id ≠ row.id) :
    t'.find? c.id = some c := by
  rw [h.rows, if_neg hne]
  exact hc

/-- A stored row that is live is no deleted one. -/
theorem ne_of_live {a c : Connector} {id : Uuid} (ha : t.find? id = some a) (hlive : a.isDeleted = false)
    (hc : t.find? c.id = some c) (hdeleted : c.isDeleted = true) : c.id ≠ id := by
  rintro rfl
  obtain rfl : a = c := Option.some.inj (ha.symm.trans hc)
  exact absurd (hlive.symm.trans hdeleted) nofun

/-- A request that is no restore changes no column of a deleted row. -/
theorem CatalogueEffect.keepsDeleted (h : CatalogueEffect env t t' r) (hr : ∀ id, r ≠ .restore id)
    {c : Connector} (hc : t.find? c.id = some c) (hdeleted : c.isDeleted = true) :
    t'.find? c.id = some c := by
  cases h with
  | same h => exact h ▸ hc
  | created hput hnew _ _ =>
    refine hput.keeps hc ?_
    intro hid
    rw [← hid, hc] at hnew
    cases hnew
  | edited hold hput hlive _ _ => exact hput.keeps hc (ne_of_live hold hlive hc hdeleted)
  | deleted hold hlive hput => exact hput.keeps hc (ne_of_live hold hlive hc hdeleted)
  | restored _ _ _ => exact absurd rfl (hr _)
  | reordered h =>
    obtain ⟨c', hc', hreordered⟩ := h.kept c (Table.mem_iff_find?.mpr hc)
    rcases hreordered with rfl | ⟨hlive, _⟩
    · exact Table.mem_iff_find?.mp hc'
    · exact absurd (hlive.symm.trans hdeleted) nofun
  | seeded h =>
    induction h with
    | refl => exact hc
    | tail _ hstep ih =>
      obtain ⟨id, name, _, _, hfresh, hput⟩ := hstep
      refine hput.keeps ih ?_
      intro hid
      have hnew := Table.fresh_iff_find?.mp hfresh
      rw [← show c.id = id from hid, ih] at hnew
      cases hnew

/-! ### Runs -/

/-- A request leaves the catalogue as it was or has an effect on it. -/
theorem CatalogueRequest.commit_effect (w : MediaWorld) (r : CatalogueRequest) :
    CatalogueEffect env w.db.connectors (w.commit (r.serve env settings w)).db.connectors r := by
  rcases hserve : r.serve env settings w with ⟨storage, e | db'⟩
  · exact .same rfl
  · have hout : (r.serve env settings w).2 = .ok db' := by rw [hserve]
    exact CatalogueRequest.serve_effect hout

/-- Every step of a run has an effect on the catalogue. -/
theorem catalogueStep_effect {w s : MediaWorld} {tr : List CatalogueStep}
    (hrun : CatalogueRun env settings w tr s) {x : CatalogueStep} (hx : x ∈ tr) :
    CatalogueEffect env x.before.db.connectors x.after.db.connectors x.label := by
  obtain ⟨pre, post, htr⟩ := List.append_of_mem hx
  obtain ⟨_, _, hnext⟩ := hrun.split htr
  rw [← Option.some.inj hnext]
  exact x.label.commit_effect x.before

theorem lifecycle_run {w s : MediaWorld} {tr : List CatalogueStep} (hrun : CatalogueRun env settings w tr s)
    (hinit : LifecycleHolds env w.db.connectors) : LifecycleHolds env s.db.connectors := by
  induction hrun with
  | nil => exact hinit
  | snoc hr hok hn ih =>
    obtain rfl := Option.some.inj hn
    exact (CatalogueRequest.commit_effect _ _).lifecycle ih

/-- In every state that requests and seeder runs lead to, the columns of every row agree and the live logo
hashes are distinct; and no step but a restore has changed a column of a row that was deleted. -/
theorem lifecycle_invariant {w s : MediaWorld} {tr : List CatalogueStep}
    (hrun : CatalogueRun env settings w tr s) (hinit : LifecycleHolds env w.db.connectors) :
    (∀ c ∈ s.db.connectors, (c.isDeleted = true → c.isActive = false ∧ c.deletedAt ≠ none) ∧
      (c.isDeleted = false → c.deletedAt = none)) ∧
    LiveHashesDistinct s.db.connectors ∧
    ∀ x ∈ tr, (∀ id, x.label ≠ .restore id) → ∀ c ∈ x.before.db.connectors, c.isDeleted = true →
      x.after.db.connectors.find? c.id = some c := by
  have hlast := lifecycle_run hrun hinit
  refine ⟨?_, hlast.indexes.liveHashesDistinct, ?_⟩
  · intro c hc
    exact ⟨(hlast.agrees c hc).deleted, (hlast.agrees c hc).live⟩
  · intro x hx hlabel c hc hdeleted
    exact (catalogueStep_effect hrun hx).keepsDeleted hlabel (Table.mem_iff_find?.mp hc) hdeleted

theorem lifecycle_of_empty {t : Table Connector} (h : ∀ c, c ∉ t) : LifecycleHolds env t :=
  ⟨fun c hc => absurd hc (h c), fun c hc => absurd hc (h c)⟩

end

namespace SharedSlug

/-- A connector is deleted, another takes over its name and its logo, and the restore of the first is
refused. -/
def takenOver : List CatalogueRequest :=
  [.create (.ofNat 1) "Foo" (some (svg "a")), .delete (.ofNat 1) 5, .create (.ofNat 2) "foo" (some (svg "a")),
    .restore (.ofNat 1)]

theorem takenOver_lifecycle :
    ∃ tr w, CatalogueRun env {} catalogue tr w ∧
    (w.db.connectors.rows.map fun c => c.isDeleted) = [true, false] ∧
      LiveHashesDistinct w.db.connectors := by
  have hreplay : (Run.replay
      (fun (w : MediaWorld) (request : CatalogueRequest) => some (w.commit (request.serve env {} w)))
      (fun _ w request => request.Fresh w.db) catalogue takenOver).map
      (fun r => r.2.db.connectors.rows.map (fun c => c.isDeleted) == [true, false]) = some true := by decide
  obtain ⟨tr, w, hrun, hw⟩ := Run.exists_of_replay hreplay
  exact ⟨tr, w, hrun,
    by simpa using hw, (lifecycle_invariant hrun (lifecycle_of_empty Table.not_mem_empty)).2.1⟩

end SharedSlug

end RatingLift
