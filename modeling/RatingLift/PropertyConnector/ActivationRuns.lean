import RatingLift.Connectors.BoundConnectors
import RatingLift.PropertyConnector.Activations

/-!
# Runs of concurrent activations

Of any number of activations of one connector on one property, one should answer 201 and the others 409, and
the one binding should store what the successful request supplied.

* (`Rivals`) what holds in every run: nothing is committed until a request has answered 201, and the binding
  is active from then on;
* (`ActivationEffect.acts`) each step is one of competing for a place that nothing holds between check and
  act;
* (`one_activation_iff`) the property holds of an interleaving exactly when no request selects the binding
  while another one has found it not active and not yet answered.
-/

namespace RatingLift

open Library PropertyConnectorService

section

variable (env : PlatformEnv) (db : Db) (prop : Property) (connector : Connector) {π : Type}
  (requests : π → Activation)

/-- One request has answered 201 and the others 409, and the one binding is active and stores what that one
supplied. -/
def OneActivation (c : Config π BindingDb Activating) : Prop :=
  ∃ p, (c.locals p).answer = some (.ok ()) ∧
  (∀ q, q ≠ p → (c.locals q).answer = some (.error alreadyActive)) ∧
    ∃ row, OnlyBinding c.shared.db prop.id connector.id row ∧ row.isActive = true ∧
      StoresPayload env (requests p).payload row

/-- No request selects the binding while another one has found it not active and not yet answered. -/
def SelectsAlone (x : ActivationStep π) : Prop :=
  selectsBinding x.label.2 (x.before.locals x.label.1) = true →
  ∀ q, (x.before.locals q).stage.hasDecided = false

/-- What holds in every run. -/
structure Rivals (c : Config π BindingDb Activating) : Prop where
  placed : ∀ p, Placed env db prop connector (requests p) (c.locals p)
  committed : (c.shared.db = db ∧ ∀ p, (c.locals p).acting ≠ .won) ∨
    (Taken db prop connector c.shared.db ∧ ∃ p, (c.locals p).acting = .won)
  stored : ∀ p, (c.locals p).acting = .won → (∀ q, (c.locals q).acting = .won → q = p) →
    ∃ row, OnlyBinding c.shared.db prop.id connector.id row ∧ StoresPayload env (requests p).payload row

/-- A step of a request as one of competing for the binding. -/
def actingCommand (a : ActivationAction) (m m' : Activating) : ActingCommand :=
  if selectsBinding a m then .check
  else
    match m'.answer with
    | none => .pass
    | some (.ok _) => .act true
    | some (.error _) => .act false

variable {env db prop connector requests} {catalogue : ConnectorEnv}

theorem Activating.answer_of_won {m : Activating} : m.acting = .won ↔ m.answer = some (.ok ()) := by
  unfold acting
  cases m.answer with
  | none => cases m.stage.hasDecided <;> simp
  | some answer =>
    cases answer with
    | error e => by_cases he : e = alreadyActive <;> simp [he]
    | ok _ => simp

theorem Activating.answer_of_refused {m : Activating} :
    m.acting = .refused ↔ m.answer = some (.error alreadyActive) := by
  unfold acting
  cases m.answer with
  | none => cases m.stage.hasDecided <;> simp
  | some answer =>
    cases answer with
    | error e => by_cases he : e = alreadyActive <;> simp [he]
    | ok _ => simp

theorem Activating.answered_iff {m : Activating} : m.acting.answered = true ↔ m.answer.isSome = true := by
  unfold acting
  cases m.answer with
  | none => cases m.stage.hasDecided <;> simp [Acting.answered]
  | some answer =>
    cases answer with
    | error e => by_cases he : e = alreadyActive <;> simp [he, Acting.answered]
    | ok _ => simp [Acting.answered]

/-- Between its check and its answer a request has decided. -/
theorem Placed.decided_iff {request : Activation} {m : Activating}
    (h : Placed env db prop connector request m) :
    m.acting = .decided ↔ m.stage.hasDecided = true := by
  cases h with
  | answered answer =>
    have hstage : (⟨request, .done, some answer⟩ : Activating).stage.hasDecided = false := rfl
    rw [hstage]
    cases answer with
    | error e => by_cases he : e = alreadyActive <;> simp [Activating.acting, he]
    | ok _ => simp [Activating.acting]
  | _ => simp [Activating.acting, BindingLocal.hasDecided]

variable {request : Activation} {a : ActivationAction} {m m' : Activating} {s s' : BindingDb}

theorem ActivationEffect.placed (h : ActivationEffect env db prop connector request a m s m' s') :
    Placed env db prop connector request m' := by
  cases h with
  | passed _ _ _ _ hplaced => exact hplaced
  | free _ _ _ _ _ hplaced => exact hplaced
  | refused _ _ _ => exact .answered _
  | failed _ _ _ _ _ => exact .answered _
  | won _ _ _ _ => exact .answered _

/-- A step commits exactly where the request answers 201. -/
theorem ActivationEffect.committed (h : ActivationEffect env db prop connector request a m s m' s') :
    (s'.db = s.db ∧ m.acting ≠ .won ∧ m'.acting ≠ .won) ∨
      (m.acting = .decided ∧ m'.acting = .won ∧ Taken db prop connector s'.db ∧
        (s.db = db → ∃ row, OnlyBinding s'.db prop.id connector.id row ∧
          StoresPayload env request.payload row)) := by
  cases h with
  | passed _ hdb hanswer hacting _ =>
    have hother : m'.acting ≠ .won := by
      intro hwon
      rw [Activating.answer_of_won, hanswer] at hwon
      cases hwon
    exact Or.inl ⟨hdb, by rw [← hacting]; exact hother, hother⟩
  | free _ _ _ hready hdecided _ => exact Or.inl ⟨rfl, by rw [hready]; simp, by rw [hdecided]; simp⟩
  | refused _ _ hready => exact Or.inl ⟨rfl, by rw [hready]; simp, by simp [Activating.acting]⟩
  | failed _ _ hdecided hdb hne =>
    exact Or.inl ⟨hdb, by rw [hdecided]; simp, by simp [Activating.acting, hne]⟩
  | won _ hdecided htaken hstores => exact Or.inr ⟨hdecided, rfl, htaken, hstores⟩

/-- Each step competes for a place that nothing holds between check and act. -/
theorem ActivationEffect.acts (hstart : Competing env db prop connector requests)
    (h : ActivationEffect env db prop connector request a m s m' s') :
    Acting.prog (actingCommand a m m') m.acting (bound prop connector s) =
      some (m'.acting, bound prop connector s') := by
  unfold actingCommand
  cases h with
  | passed hselects hdb hanswer hacting _ =>
    have hbound : bound prop connector s' = bound prop connector s := by
      unfold bound
      rw [hdb]
    simp only [hselects, hanswer, hacting, hbound, Bool.false_eq_true, ↓reduceIte]
    rfl
  | free hselects hdb _ hready hdecided _ =>
    simp only [hselects, hready, hdecided, bound_of_start hstart hdb, ↓reduceIte]
    rfl
  | refused hselects htaken hready =>
    simp only [hselects, hready, htaken.bound, ↓reduceIte]
    rfl
  | failed hselects htaken hdecided hdb hne =>
    have hbound : bound prop connector s' = true := by
      have hsame : bound prop connector s' = bound prop connector s := by
        unfold bound
        rw [hdb]
      rw [hsame, htaken.bound]
    have hfailed : ∀ e : Exn, e ≠ alreadyActive →
        (⟨request, .done, some (.error e)⟩ : Activating).acting = .failed := by
      intro e he
      simp [Activating.acting, he]
    rw [hfailed _ hne]
    simp only [hselects, hdecided, htaken.bound, hbound, Bool.false_eq_true, ↓reduceIte]
    rfl
  | won hselects hdecided htaken _ =>
    simp only [hselects, hdecided, htaken.bound, Bool.false_eq_true, ↓reduceIte]
    rfl

/-! ### Runs -/

theorem rivals_beginning (requests : π → Activation) :
    Rivals env db prop connector requests (beginning db requests) := by
  have hready : ∀ p, ((beginning db requests).locals p).acting = .ready := fun _ => rfl
  refine ⟨fun _ => .idle, Or.inl ⟨rfl, ?_⟩, ?_⟩
  · intro p
    rw [hready]
    simp
  · intro p hwon
    rw [hready] at hwon
    cases hwon

variable [DecidableEq π] {tr : List (ActivationStep π)} {c : Config π BindingDb Activating}

/-- What a step does to the acting request, the others keep. -/
theorem Rivals.step (h : Rivals env db prop connector requests c) {p : π}
    (heffect : ActivationEffect env db prop connector (requests p) a (c.locals p) c.shared m s) :
    Rivals env db prop connector requests (c.act p m s) := by
  have hplaced : ∀ q, Placed env db prop connector (requests q) ((c.act p m s).locals q) := by
    intro q
    by_cases hq : q = p
    · subst hq
      rw [Config.act_locals_self]
      exact heffect.placed
    · rw [Config.act_locals_of_ne hq]
      exact h.placed q
  rcases heffect.committed with ⟨hdb, hbefore, hafter⟩ | ⟨hdecided, hwon, htaken, hstores⟩
  · -- nothing is committed, and the winners are the same
    have hwinners : ∀ q, ((c.act p m s).locals q).acting = .won ↔ (c.locals q).acting = .won := by
      intro q
      by_cases hq : q = p
      · subst hq
        rw [Config.act_locals_self]
        exact iff_of_false hafter hbefore
      · rw [Config.act_locals_of_ne hq]
    refine ⟨hplaced, ?_, ?_⟩
    · rw [Config.act_shared, hdb]
      simp only [hwinners, ne_eq]
      exact h.committed
    · rw [Config.act_shared, hdb]
      simp only [hwinners]
      exact h.stored
  · have hwinner : ((c.act p m s).locals p).acting = .won := by
      rw [Config.act_locals_self]
      exact hwon
    refine ⟨hplaced, Or.inr ⟨htaken, p, hwinner⟩, ?_⟩
    intro q hq honly
    have hpq : p = q := honly p hwinner
    subst hpq
    -- a sole winner is the first one, and has found the database as it was
    rcases h.committed with ⟨hdb, _⟩ | ⟨_, r, hr⟩
    · exact hstores hdb
    · have hrp : r ≠ p := by
        rintro rfl
        rw [hdecided] at hr
        cases hr
      have hr' : ((c.act p m s).locals r).acting = .won := by
        rw [Config.act_locals_of_ne hrp]
        exact hr
      exact absurd (honly r hr') hrp

/-- A step of a run with what holds before it. -/
theorem activation_split (hstart : Competing env db prop connector requests)
    (h : Run (Config.step (activationProg env catalogue)) FreshInsert (beginning db requests) tr c) :
    Rivals env db prop connector requests c ∧ ∀ x ∈ tr, Rivals env db prop connector requests x.before ∧
      ∃ m s, x.after = x.before.act x.label.1 m s ∧
        ActivationEffect env db prop connector (requests x.label.1) x.label.2 (x.before.locals x.label.1)
          x.before.shared
          m s := by
  refine h.invariant (I := fun tr c => Rivals env db prop connector requests c ∧ ∀ x ∈ tr,
    Rivals env db prop connector requests x.before ∧ ∃ m s, x.after = x.before.act x.label.1 m s ∧
      ActivationEffect env db prop connector (requests x.label.1) x.label.2 (x.before.locals x.label.1)
        x.before.shared
        m s) ⟨rivals_beginning requests, by simp⟩ ?_
  rintro tr c ⟨p, a⟩ c' _ ⟨hrivals, hsteps⟩ hfresh hnext
  obtain ⟨m, s, hprog, rfl⟩ := Config.step_eq_some hnext
  have hdb : c.shared.db = db ∨ Taken db prop connector c.shared.db :=
    hrivals.committed.imp And.left And.left
  have hkey : ∀ draw, a = .write draw → c.shared.db.propertyConnectors.Fresh (draw.id 0) := by
    rintro draw rfl
    exact hfresh
  have heffect := activationProg_effect hstart (hrivals.placed p) hdb hkey hprog
  refine ⟨hrivals.step heffect, ?_⟩
  intro x hx
  rcases List.mem_append.mp hx with hx | hx
  · exact hsteps x hx
  · obtain rfl := List.mem_singleton.mp hx
    exact ⟨hrivals, m, s, rfl, heffect⟩

/-- The whole as requests that compete for one place. -/
def contest (prop : Property) (connector : Connector) (c : Config π BindingDb Activating) :
    Config π Bool Acting :=
  c.view (bound prop connector) Activating.acting

/-- A step as one of competing. -/
def contestLabel (x : ActivationStep π) : π × ActingCommand :=
  (x.label.1, actingCommand x.label.2 (x.before.locals x.label.1) (x.after.locals x.label.1))

theorem contest_run (hstart : Competing env db prop connector requests)
    (h : Run (Config.step (activationProg env catalogue)) FreshInsert (beginning db requests) tr c) :
    Run (Config.step Acting.prog) (fun _ _ _ => True) (contest prop connector (beginning db requests))
      (tr.map fun x => ⟨contest prop connector x.before, contestLabel x, contest prop connector x.after⟩)
      (contest prop connector c) := by
  refine h.map (contest prop connector) contestLabel ?_
  intro x hx
  obtain ⟨_, m, s, hafter, heffect⟩ := (activation_split hstart h).2 x hx
  have hacts := heffect.acts hstart
  unfold contestLabel Config.step
  rw [hafter, Config.act_locals_self]
  show (Acting.prog (actingCommand x.label.2 (x.before.locals x.label.1) m) (x.before.locals x.label.1).acting
    (bound prop connector x.before.shared)).map _ = _
  rw [hacts, Option.map_some]
  exact congrArg some (Config.view_act x.before x.label.1 m s).symm

omit [DecidableEq π] in
theorem unhurried_iff {x : ActivationStep π} (hrivals : Rivals env db prop connector requests x.before) :
    Acting.Unhurried (contest prop connector x.before) (contestLabel x) ↔ SelectsAlone x := by
  have hcheck : (contestLabel x).2 = .check ↔
      selectsBinding x.label.2 (x.before.locals x.label.1) = true := by
    unfold contestLabel actingCommand
    cases hselects : selectsBinding x.label.2 (x.before.locals x.label.1) with
    | true => simp
    | false =>
      dsimp only
      rcases (x.after.locals x.label.1).answer with _ | _ | _ <;> simp
  have hdecided : ∀ q, (contest prop connector x.before).locals q ≠ .decided ↔
      (x.before.locals q).stage.hasDecided = false := by
    intro q
    rw [← Bool.not_eq_true, ← (hrivals.placed q).decided_iff]
    rfl
  unfold Acting.Unhurried SelectsAlone
  rw [hcheck]
  simp only [hdecided]

/-- One winner in the end is one activation: what the winner supplied is what is stored. -/
theorem oneActivation_iff (h : Rivals env db prop connector requests c) :
    OneActivation env prop connector requests c ↔ Acting.OneWinner (contest prop connector c).locals := by
  constructor
  · rintro ⟨p, hp, hothers, _⟩
    exact ⟨p, Activating.answer_of_won.mpr hp, fun q hq => Activating.answer_of_refused.mpr (hothers q hq)⟩
  · rintro ⟨p, hp, hothers⟩
    have hsole : ∀ q, (c.locals q).acting = .won → q = p := by
      intro q hq
      by_contra hne
      have hrefused : (c.locals q).acting = .refused := hothers q hne
      rw [hq] at hrefused
      cases hrefused
    obtain ⟨row, honly, hstores⟩ := h.stored p hp hsole
    refine ⟨p, Activating.answer_of_won.mp hp, fun q hq => Activating.answer_of_refused.mp (hothers q hq),
      row, honly, ?_,
      hstores⟩
    rcases h.committed with ⟨_, hnone⟩ | ⟨htaken, _⟩
    · exact absurd hp (hnone p)
    · obtain ⟨row', honly', hactive, _⟩ := htaken.active
      rw [(honly' row).mp honly.self]
      exact hactive

/-- Once any number of activations of one connector on one property have answered, in any order of their
steps: one has answered 201 and the others 409, and the one binding stores what that one supplied, exactly
when no request has selected the binding while another one had found it not active and not yet answered. -/
theorem one_activation_iff [Nonempty π] (hstart : Competing env db prop connector requests)
    (h : Run (Config.step (activationProg env catalogue)) FreshInsert (beginning db requests) tr c)
    (hdone : ∀ p, (c.locals p).answer.isSome = true) :
    OneActivation env prop connector requests c ↔ ∀ x ∈ tr, SelectsAlone x := by
  obtain ⟨hrivals, hsteps⟩ := activation_split hstart h
  have hready : ∀ p, (contest prop connector (beginning db requests)).locals p = .ready := fun _ => rfl
  have hfree : (contest prop connector (beginning db requests)).shared = false := bound_of_start hstart rfl
  have hanswered : ∀ p, ((contest prop connector c).locals p).answered = true :=
    fun p => Activating.answered_iff.mpr (hdone p)
  rw [oneActivation_iff hrivals, Acting.oneWinner_iff (contest_run hstart h) hready hfree hanswered,
    List.forall_mem_map]
  exact forall₂_congr fun x hx => unhurried_iff (hsteps x hx).1

end

/-! ### Progress -/

section

variable {env : PlatformEnv} {catalogue : ConnectorEnv} {db : Db} {prop : Property}
  {connector : Connector} {π : Type}
  {requests : π → Activation} [DecidableEq π] {tr : List (ActivationStep π)}
    {c : Config π BindingDb Activating}

/-- A write that was sent and not committed is one that a request is about to commit. -/
def PendingSent (c : Config π BindingDb Activating) : Prop :=
  ∀ w ∈ c.shared.pending, ∃ q, (c.locals q).stage = .sent w

/-- A step that sends no write and ends none. -/
theorem PendingSent.keep (h : PendingSent c) {p : π} {m : Activating} {s : BindingDb}
    (hpending : s.pending = c.shared.pending) (hsent : ∀ w, (c.locals p).stage ≠ .sent w) :
    PendingSent (c.act p m s) := by
  intro w hw
  rw [Config.act_shared, hpending] at hw
  obtain ⟨q, hq⟩ := h w hw
  have hqp : q ≠ p := by
    rintro rfl
    exact hsent w hq
  exact Config.exists_locals_act hq hqp

theorem PendingSent.send (h : PendingSent c) {p : π} {m : Activating} {s : BindingDb} {w : BindingWrite}
    (hsent : ∀ v, (c.locals p).stage ≠ .sent v) (hsend : c.shared.send catalogue w = some (m.stage, s)) :
    PendingSent (c.act p m s) := by
  unfold BindingDb.send at hsend
  split at hsend
  · cases hsend
  · cases hexecute : w.execute catalogue c.shared.db with
    | error e =>
      rw [hexecute] at hsend
      obtain ⟨_, rfl⟩ := Prod.mk.inj (Option.some.inj hsend)
      exact h.keep rfl hsent
    | ok db' =>
      rw [hexecute] at hsend
      obtain ⟨hstage, rfl⟩ := Prod.mk.inj (Option.some.inj hsend)
      intro v hv
      rcases List.mem_cons.mp hv with rfl | hv
      · exact ⟨p, by rw [Config.act_locals_self]; exact hstage.symm⟩
      · obtain ⟨q, hq⟩ := h v hv
        have hqp : q ≠ p := by
          rintro rfl
          exact hsent v hq
        exact Config.exists_locals_act hq hqp

theorem PendingSent.finish (h : PendingSent c) {p : π} {m : Activating} {db' : Db} {w : BindingWrite}
    (hsent : (c.locals p).stage = .sent w) : PendingSent (c.act p m (c.shared.finish w db')) := by
  intro v hv
  obtain ⟨hv, hother⟩ := List.mem_filter.mp hv
  obtain ⟨q, hq⟩ := h v hv
  have hqp : q ≠ p := by
    rintro rfl
    rw [hsent] at hq
    cases hq
    simp at hother
  exact Config.exists_locals_act hq hqp

/-- A `SELECT` leaves the database and the writes that were sent. -/
theorem activationProg_reads {request : Activation} {a : ActivationAction} {m m' : Activating}
    {s s' : BindingDb} (hplaced : Placed env db prop connector request m) (hread : m.stage.hasDecided = false)
    (h : activationProg env catalogue a m s = some (m', s')) : s' = s := by
  obtain ⟨⟨stage, s₁⟩, hprog, heq⟩ := Option.map_eq_some_iff.mp h
  cases heq
  cases hplaced with
  | idle =>
    cases a with
    | select =>
      simp only [ActivationAction.binding, Activation.call, bindingProg] at hprog
      cases hprop : getOwnedProperty env s.db request.ctx request.propertyId with
      | error e => rw [hprop] at hprog; cases hprog; rfl
      | ok prop => rw [hprop] at hprog; cases hprog; rfl
    | _ => cases hprog
  | owned =>
    cases a with
    | selectNext =>
      simp only [ActivationAction.binding, bindingProg] at hprog
      cases hconnector : getActiveConnector s.db request.payload.connectorId with
      | error e => rw [hconnector] at hprog; cases hprog; rfl
      | ok connector => rw [hconnector] at hprog; cases hprog; rfl
    | _ => cases hprog
  | available =>
    cases a with
    | selectNext =>
      simp only [ActivationAction.binding, bindingProg] at hprog
      cases hexisting : existingBinding s.db prop.id connector.id with
      | none => rw [hexisting] at hprog; cases hprog; rfl
      | some existing =>
        simp only [hexisting] at hprog
        cases hactive : existing.isActive with
        | true => rw [hactive] at hprog; cases hprog; rfl
        | false => rw [hactive] at hprog; cases hprog; rfl
    | _ => cases hprog
  | answered answer => cases a <;> cases hprog
  | _ => cases hread

theorem PendingSent.step (h : PendingSent c) {p : π} {a : ActivationAction} {m : Activating} {s : BindingDb}
    (hplaced : Placed env db prop connector (requests p) (c.locals p))
    (hprog : activationProg env catalogue a (c.locals p) c.shared = some (m, s)) :
    PendingSent (c.act p m s) := by
  by_cases hread : (c.locals p).stage.hasDecided = false
  · obtain rfl := activationProg_reads hplaced hread hprog
    refine h.keep rfl ?_
    intro w hw
    rw [hw] at hread
    cases hread
  · obtain ⟨⟨stage, s₁⟩, hstep, heq⟩ := Option.map_eq_some_iff.mp hprog
    cases heq
    generalize hlocal : c.locals p = m₀ at hplaced hread hstep
    cases hplaced with
    | binding hnone =>
      cases a with
      | write draw => exact h.send (by rw [hlocal]; simp) hstep
      | _ => cases hstep
    | refreshing honly hinactive =>
      cases a with
      | write draw => exact h.send (by rw [hlocal]; simp) hstep
      | _ => cases hstep
    | inserting hnone hkey =>
      cases a with
      | commit =>
        simp only [ActivationAction.binding, bindingProg] at hstep
        split at hstep
        · cases hstep
          exact h.finish (by rw [hlocal])
        · cases hstep
          exact h.finish (by rw [hlocal])
      | _ => cases hstep
    | updating honly hinactive =>
      cases a with
      | commit =>
        simp only [ActivationAction.binding, bindingProg] at hstep
        split at hstep
        · cases hstep
          exact h.finish (by rw [hlocal])
        · cases hstep
          exact h.finish (by rw [hlocal])
      | _ => cases hstep
    | _ => exact absurd rfl hread

/-- A write that was sent can be committed. -/
theorem commit_enabled {q : π} {w : BindingWrite} (hq : (c.locals q).stage = .sent w) :
    (Config.step (activationProg env catalogue) c (q, .commit)).isSome = true := by
  unfold Config.step activationProg
  simp only [Option.isSome_map, ActivationAction.binding, hq, bindingProg]
  split <;> rfl

/-- A write goes out, or another request can commit. -/
theorem send_or_commit (hpending : PendingSent c) {p : π} {draw : Draw} {w : BindingWrite}
    (hwrite : bindingProg env catalogue (.write draw) (c.locals p).stage c.shared =
      c.shared.send catalogue w) :
    ∃ q a, (a = .write draw ∨ a = .commit) ∧
    (Config.step (activationProg env catalogue) c (q, a)).isSome = true := by
  by_cases hwaits : c.shared.pending.any (w.waitsFor catalogue) = true
  · obtain ⟨v, hv, _⟩ := List.any_eq_true.mp hwaits
    obtain ⟨q, hq⟩ := hpending v hv
    exact ⟨q, .commit, Or.inr rfl, commit_enabled hq⟩
  · refine ⟨p, .write draw, Or.inl rfl, ?_⟩
    unfold Config.step activationProg
    simp only [Option.isSome_map, ActivationAction.binding]
    rw [hwrite]
    unfold BindingDb.send
    rw [if_neg hwaits]
    split <;> rfl

/-- While a request has not answered, some step is possible, whatever `draw` an `INSERT` would take its key
from. -/
theorem activation_progress (hstart : Competing env db prop connector requests)
    (h : Run (Config.step (activationProg env catalogue)) FreshInsert (beginning db requests) tr c) {p : π}
    (hp : (c.locals p).answer = none) (draw : Draw) :
    ∃ q a, (∀ draw', a = .write draw' → draw' = draw) ∧
      (Config.step (activationProg env catalogue) c (q, a)).isSome = true := by
  obtain ⟨hrivals, hsteps⟩ := activation_split hstart h
  have hpending : PendingSent c := by
    suffices hinv : Rivals env db prop connector requests c ∧ PendingSent c from hinv.2
    refine Run.invariant (I := fun _ c => Rivals env db prop connector requests c ∧ PendingSent c)
      ⟨rivals_beginning requests, fun w hw => by cases hw⟩ ?_ h
    rintro tr c ⟨p, a⟩ c' hrun ⟨hrivals, hpending⟩ hok hnext
    have hafter := activation_split hstart (hrun.snoc hok hnext)
    obtain ⟨m, s, hprog, rfl⟩ := Config.step_eq_some hnext
    exact ⟨hafter.1, hpending.step (hrivals.placed p) hprog⟩
  have hwrites : ∀ {w : BindingWrite},
      bindingProg env catalogue (.write draw) (c.locals p).stage c.shared = c.shared.send catalogue w →
        ∃ q a, (∀ draw', a = .write draw' → draw' = draw) ∧
          (Config.step (activationProg env catalogue) c (q, a)).isSome = true := by
    intro w hwrite
    obtain ⟨q, a, ha, hstep⟩ := send_or_commit hpending hwrite
    refine ⟨q, a, ?_, hstep⟩
    rintro draw' rfl
    rcases ha with ha | ha
    · exact ActivationAction.write.inj ha
    · cases ha
  have hplaced := hrivals.placed p
  generalize hlocal : c.locals p = m₀ at hplaced hp hwrites
  cases hplaced with
  | idle =>
    refine ⟨p, .select, by simp, ?_⟩
    unfold Config.step activationProg
    simp only [Option.isSome_map, hlocal, ActivationAction.binding, Activation.call, bindingProg]
    split <;> rfl
  | owned =>
    refine ⟨p, .selectNext, by simp, ?_⟩
    unfold Config.step activationProg
    simp only [Option.isSome_map, hlocal, ActivationAction.binding, bindingProg]
    split <;> rfl
  | available =>
    refine ⟨p, .selectNext, by simp, ?_⟩
    unfold Config.step activationProg
    simp only [Option.isSome_map, hlocal, ActivationAction.binding, bindingProg]
    split
    · rfl
    · split <;> rfl
  | binding hnone => exact hwrites rfl
  | refreshing honly hinactive => exact hwrites rfl
  | inserting hnone hkey => exact ⟨p, .commit, by simp, commit_enabled (by rw [hlocal])⟩
  | updating honly hinactive => exact ⟨p, .commit, by simp, commit_enabled (by rw [hlocal])⟩
  | answered answer => cases hp

end

/-! ### Two requests -/

namespace TwoActivations

open ActivationRace (env catalogue property connector draw)

inductive Worker where
  | first | second
deriving DecidableEq

/-- The binding as it was deactivated. -/
def inactive : PropertyConnector where
  id := .ofNat 5
  propertyId := property.id
  connectorId := connector.id
  apiKey := "pk_live_0"
  apiSecret := some "0sk_live_0"
  scopes := none
  config := none
  baseUrl := none
  isActive := false
  createdAt := 0

def unbound : Db := { Db.empty with
  properties := Table.empty.insert property
  connectors := Table.empty.insert connector }

def deactivated : Db := { unbound with propertyConnectors := Table.empty.insert inactive }

/-- The second request supplies a new secret with the key that the binding had. -/
def requests : Worker → Activation
  | .first =>
    ⟨⟨"4", some "2", .str "OWNER", false⟩, .uuid property.id, connector.id, "pk_live_1", "sk_live_1",
      none, none, none⟩
  | .second =>
    ⟨⟨"6", some "2", .str "MANAGER", false⟩, .uuid property.id, connector.id, "pk_live_0", "sk_live_2",
      none, none, none⟩

theorem owned_and_available (p : Worker) (db : Db) (hproperties : db.properties = unbound.properties)
    (hconnectors : db.connectors = unbound.connectors) :
    getOwnedProperty env db (requests p).ctx (requests p).propertyId = .ok property ∧
      getActiveConnector db (requests p).payload.connectorId = .ok connector := by
  rw [getOwnedProperty_congr hproperties, getActiveConnector_congr hconnectors]
  cases p <;> exact ⟨rfl, rfl⟩

theorem competing_unbound : Competing env unbound property connector requests :=
  ⟨fun p => (owned_and_available p unbound rfl rfl).1,
    fun p => (owned_and_available p unbound rfl rfl).2, Or.inl rfl⟩

theorem competing_deactivated : Competing env deactivated property connector requests := by
  refine ⟨fun p => (owned_and_available p deactivated rfl rfl).1,
    fun p => (owned_and_available p deactivated rfl rfl).2,
    Or.inr ⟨inactive, ?_, rfl⟩⟩
  intro pc
  constructor
  · rintro ⟨hpc, _⟩
    exact List.mem_singleton.mp hpc
  · rintro rfl
    exact ⟨List.mem_singleton.mpr rfl, rfl, rfl⟩

/-- Both requests find the inactive binding before one of them commits. -/
def overlapping : List (Worker × ActivationAction) :=
  [(.first, .select), (.first, .selectNext), (.first, .selectNext), (.second, .select),
    (.second, .selectNext),
    (.second, .selectNext), (.first, .write draw), (.first, .commit), (.second, .write draw),
      (.second, .commit)]

/-- The second request comes after the first one. -/
def inTurn : List (Worker × ActivationAction) :=
  [(.first, .select), (.first, .selectNext), (.first, .selectNext), (.first, .write draw), (.first, .commit),
    (.second, .select), (.second, .selectNext), (.second, .selectNext)]

def answers (c : Config Worker BindingDb Activating) : Option (Except Exn Unit) × Option (Except Exn Unit) :=
  ((c.locals .first).answer, (c.locals .second).answer)

/-- Both requests answer 201, and the binding is left with the key of the first and the secret of the
second. -/
theorem both_created : Competing env deactivated property connector requests ∧ ∃ tr c,
    Run (Config.step (activationProg env catalogue)) FreshInsert
    (beginning deactivated requests) tr c ∧ (∀ p, (c.locals p).answer.isSome = true) ∧
      ¬ OneActivation env property connector requests c := by
  have hreplay :
      (Run.replay (Config.step (activationProg env catalogue)) FreshInsert (beginning deactivated requests)
      overlapping).map (fun r => decide (answers r.2 = (some (.ok ()), some (.ok ())) ∧
        r.2.shared.db.propertyConnectors.rows.map (fun pc => (pc.apiKey, pc.apiSecret)) =
          [("pk_live_1", some "0sk_live_2")])) = some true := by decide +kernel
  obtain ⟨tr, c, hrun, hanswers⟩ := Run.exists_of_replay hreplay
  rw [decide_eq_true_eq] at hanswers
  obtain ⟨hfirst, hsecond⟩ := Prod.mk.inj hanswers.1
  refine ⟨competing_deactivated, tr, c, hrun, ?_, ?_⟩
  · intro p
    cases p with
    | first => rw [show (c.locals .first).answer = some (.ok ()) from hfirst]; rfl
    | second => rw [show (c.locals .second).answer = some (.ok ()) from hsecond]; rfl
  · rintro ⟨p, _, hothers, _⟩
    cases p with
    | first =>
      have hrefused := hothers .second (by decide)
      rw [show (c.locals .second).answer = some (.ok ()) from hsecond] at hrefused
      cases hrefused
    | second =>
      have hrefused := hothers .first (by decide)
      rw [show (c.locals .first).answer = some (.ok ()) from hfirst] at hrefused
      cases hrefused

/-- No request has decided when one selects the binding. -/
def alone (x : ActivationStep Worker) : Bool :=
  !selectsBinding x.label.2 (x.before.locals x.label.1) ||
    (!(x.before.locals .first).stage.hasDecided && !(x.before.locals .second).stage.hasDecided)

theorem selectsAlone_of_alone {x : ActivationStep Worker} (h : alone x = true) : SelectsAlone x := by
  intro hselects q
  unfold alone at h
  rw [hselects] at h
  simp only [Bool.not_true, Bool.false_or, Bool.and_eq_true, Bool.not_eq_true'] at h
  cases q with
  | first => exact h.1
  | second => exact h.2

/-- In turn the first request answers 201 and the second one 409. -/
theorem inTurn_oneActivation : ∃ tr c, Run (Config.step (activationProg env catalogue)) FreshInsert
    (beginning unbound requests) tr c ∧ OneActivation env property connector requests c := by
  have hreplay :
      (Run.replay (Config.step (activationProg env catalogue)) FreshInsert (beginning unbound requests)
      inTurn).map
        (fun r => decide (answers r.2 = (some (.ok ()), some (.error alreadyActive))) && r.1.all alone) =
        some true := by decide +kernel
  obtain ⟨tr, c, hrun, hcheck⟩ := Run.exists_of_replay hreplay
  rw [Bool.and_eq_true, decide_eq_true_eq, List.all_eq_true] at hcheck
  obtain ⟨hanswers, halone⟩ := hcheck
  obtain ⟨hfirst, hsecond⟩ := Prod.mk.inj hanswers
  have hdone : ∀ p, (c.locals p).answer.isSome = true := by
    intro p
    cases p with
    | first => rw [show (c.locals .first).answer = some (.ok ()) from hfirst]; rfl
    | second => rw [show (c.locals .second).answer = some (.error alreadyActive) from hsecond]; rfl
  have : Nonempty Worker := ⟨.first⟩
  exact ⟨tr, c, hrun, (one_activation_iff competing_unbound hrun hdone).mpr fun x hx =>
    selectsAlone_of_alone (halone x hx)⟩

end TwoActivations

end RatingLift
