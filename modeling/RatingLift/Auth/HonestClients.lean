import RatingLift.Auth.BlockRuns

/-!
# Blocks of honest clients

Only a wrong password or a wrong code should count against an address.  `login_with_password` also records a
failure when the password is right and it issues an MFA challenge, so that the challenges of an address count
against it (`BlockRun.failureTimes_eq`).  An address whose passwords and codes are all right is therefore
blocked exactly when enough challenges are issued to it within a quarter of an hour (`honest_unblocked_iff`).
-/

namespace RatingLift

open Library

section

variable {τ : Type} {env : AuthEnv τ} {a : String} {x : BlockStep} {s₀ s : AuthState} {tr : List BlockStep}

/-! ### Steps -/

/-- The step comes from the address with a wrong password or a wrong code. -/
def failsFrom (env : AuthEnv τ) (a : String) (x : BlockStep) : Bool :=
  match x.label with
  | .auth ⟨.loginWithPassword req, draw⟩ =>
    decide (req.client.ipAddress = some a) && wrongPassword env x.before draw req
  | .auth ⟨.verifyMfaLogin req, draw⟩ =>
    decide (req.client.ipAddress = some a) && wrongCode env x.before draw req
  | _ => false

/-- The step comes from the address with the right password of a user with MFA. -/
def challengesFrom (env : AuthEnv τ) (a : String) (x : BlockStep) : Bool :=
  match x.label with
  | .auth ⟨.loginWithPassword req, draw⟩ =>
    decide (req.client.ipAddress = some a) && issuesChallenge env x.before draw req
  | _ => false

/-- The authentication service creates a row of the blocklist for the address. -/
def BlocksAddress (a : String) (x : BlockStep) : Prop :=
  (∃ call, x.label = .auth call) ∧
    ∃ row, x.after.db.ipBlocklist.find? a = some row ∧ x.before.db.ipBlocklist.find? a ≠ some row

/-- A request counts a failure of an address exactly when it comes from there with a wrong credential, or is
challenged. -/
theorem auth_counts {call : AuthCall} {before after : AuthState}
    (hfresh : before.db.loginAttempts.Fresh call.draw.attemptId)
    (hnext : serveCall env before call = some after) :
    ∃ counted ip, Counts counted before.db after.db ip call.draw.now ∧
      ∀ a, (counted = true ∧ ip = some a ↔
        (failsFrom env a ⟨before, .auth call, after⟩ ||
          challengesFrom env a ⟨before, .auth call, after⟩) = true) := by
  obtain ⟨req, draw⟩ := call
  obtain rfl : (req.serve env before draw).1 = after := Option.some.inj hnext
  by_cases hquiet : req.comparesCredential = false
  · refine ⟨false, none, (serve_recordsNoFailure hquiet hfresh).counts _ _, ?_⟩
    intro a
    cases req with
    | loginWithPassword req => cases hquiet
    | verifyMfaLogin req => cases hquiet
    | _ => simp [failsFrom, challengesFrom]
  · cases req with
    | loginWithPassword req =>
      refine ⟨_, _, loginWithPassword_counts env before req hfresh, ?_⟩
      intro a
      simp only [failsFrom, challengesFrom, ← Bool.and_or_distrib_left, Bool.and_eq_true,
        decide_eq_true_eq, and_comm]
    | verifyMfaLogin req =>
      refine ⟨_, _, verifyMfaLogin_counts env before req hfresh, ?_⟩
      intro a
      simp only [failsFrom, challengesFrom, Bool.or_false, Bool.and_eq_true, decide_eq_true_eq, and_comm]
    | _ => exact absurd rfl hquiet

/-- A challenge is issued to an address that is not blocked. -/
theorem not_blocked_of_challenge {x : BlockStep} (h : challengesFrom env a x = true) :
    blockedUntil x.before.db a ≤ Expiry.at x.label.now := by
  obtain ⟨before, label, after⟩ := x
  unfold challengesFrom at h
  split at h
  case h_2 => cases h
  rename_i req draw hlabel
  obtain rfl : label = .auth ⟨.loginWithPassword req, draw⟩ := hlabel
  rw [Bool.and_eq_true, decide_eq_true_eq] at h
  obtain ⟨hip, h⟩ := h
  by_contra hblocked
  have hcheck := (loginWithPassword_of_blocked env hip (addressBlocked_iff.mpr (not_le.mp hblocked))).2
  unfold issuesChallenge at h
  obtain ⟨user, huser, hright⟩ := (Option.any_eq_true _ _).mp h
  simp only [Bool.and_eq_true, Bool.not_eq_true'] at hright
  simp [loginCheck, huser, hright.1.1] at hcheck

theorem failureTimes_step (hfresh : FreshAttempt tr x.before x.label)
    (hnext : serveBlockCall env x.before x.label = some x.after) (hhonest : failsFrom env a x = false) :
    failureTimes x.after.db a =
      failureTimes x.before.db a ++ if challengesFrom env a x = true then [x.label.now] else [] := by
  obtain ⟨before, label, after⟩ := x
  cases label with
  | auth call =>
    obtain ⟨counted, ip, hcounts, hwhen⟩ := auth_counts hfresh hnext
    rw [hcounts.failures]
    have hiff := hwhen a
    rw [hhonest, Bool.false_or] at hiff
    simp only [hiff]
    rfl
  | manuallyBlockIp draw clientIp adminId payload =>
    have hafter : { before with db := (manuallyBlockIp before.db draw clientIp adminId payload).2 } = after :=
      Option.some.inj hnext
    subst hafter
    exact (failureTimes_congr (manuallyBlockIp_loginAttempts ..)).trans (List.append_nil _).symm
  | manuallyUnblockIp draw clientIp adminId ipAddress =>
    have hafter : { before with db := (manuallyUnblockIp before.db draw clientIp adminId ipAddress).2 } =
        after := Option.some.inj hnext
    subst hafter
    exact (failureTimes_congr (manuallyUnblockIp_loginAttempts ..)).trans (List.append_nil _).symm

/-- Where the credentials of an address are right, a step blocks it exactly when it is challenged and the
challenge reaches the threshold. -/
theorem blocksAddress_iff (hfresh : FreshAttempt tr x.before x.label)
    (hnext : serveBlockCall env x.before x.label = some x.after) (hhonest : failsFrom env a x = false) :
    BlocksAddress a x ↔ challengesFrom env a x = true ∧ a ≠ "" ∧
      defaultFailureThreshold ≤ recentFailuresForIp x.before.db a x.label.now + 1 := by
  obtain ⟨before, label, after⟩ := x
  cases label with
  | auth call =>
    obtain ⟨counted, ip, hcounts, hwhen⟩ := auth_counts hfresh hnext
    have hiff := hwhen a
    rw [hhonest, Bool.false_or] at hiff
    constructor
    · rintro ⟨_, row, hrow, hnew⟩
      by_contra hnot
      refine hnew (hcounts.kept a ?_ row hrow)
      intro hcounted hip hne
      have hchallenge := hiff.mp ⟨hcounted, hip⟩
      by_contra hmany
      exact hnot ⟨hchallenge, hne, not_lt.mp hmany⟩
    · rintro ⟨hchallenge, hne, hmany⟩
      obtain ⟨hcounted, hip⟩ := hiff.mpr hchallenge
      obtain ⟨row, hexpiry, hrow⟩ := hcounts.listed a hcounted hip hne hmany
      refine ⟨⟨call, rfl⟩, row, hrow, ?_⟩
      intro hbefore
      -- the row would have blocked the request
      have hfree := not_blocked_of_challenge hchallenge
      rw [blockedUntil_of_find? hne hbefore, hexpiry] at hfree
      have hlater : call.draw.now + seconds blockDurationSeconds ≤ call.draw.now := Expiry.at_le_at.mp hfree
      have hhour : 0 < seconds blockDurationSeconds := by decide
      exact absurd hlater (not_le.mpr (Nat.lt_add_of_pos_right hhour))
  | manuallyBlockIp draw clientIp adminId payload =>
    refine iff_of_false ?_ ?_
    · rintro ⟨⟨call, hcall⟩, _⟩
      cases hcall
    · rintro ⟨hchallenge, _⟩
      cases hchallenge
  | manuallyUnblockIp draw clientIp adminId ipAddress =>
    refine iff_of_false ?_ ?_
    · rintro ⟨⟨call, hcall⟩, _⟩
      cases hcall
    · rintro ⟨hchallenge, _⟩
      cases hchallenge

/-! ### Runs -/

/-- The challenges issued to an address within the window that ends now. -/
def recentChallenges (env : AuthEnv τ) (a : String) (tr : List BlockStep) (now : Instant) : Nat :=
  tr.countP fun x => challengesFrom env a x && decide (now ≤ x.label.now + minutes 15)

/-- Each challenge of the address comes while the failures from before the run and the challenges of the
window stay below the threshold. -/
def ChallengesSpared (env : AuthEnv τ) (s₀ : AuthState) (a : String) (tr : List BlockStep) : Prop :=
  ∀ pre x post, tr = pre ++ x :: post → challengesFrom env a x = true → a ≠ "" →
    recentFailuresForIp s₀.db a x.label.now + recentChallenges env a pre x.label.now + 1 <
      defaultFailureThreshold

/-- In a run where the credentials of an address are right, its failures are its challenges. -/
theorem BlockRun.failureTimes_eq (h : BlockRun env s₀ tr s) (hhonest : ∀ x ∈ tr, failsFrom env a x = false) :
    failureTimes s.db a = failureTimes s₀.db a ++ (tr.filter (challengesFrom env a)).map fun x =>
      x.label.now := by
  induction h with
  | nil => simp
  | @snoc tr t t' l hrun hfresh hnext ih =>
    have hlast : failsFrom env a ⟨t, l, t'⟩ = false := hhonest _ (by simp)
    have hstep := failureTimes_step (x := ⟨t, l, t'⟩) hfresh hnext hlast
    rw [show failureTimes t'.db a = _ from hstep, ih fun x hx => hhonest x (by simp [hx]), List.filter_append,
      List.map_append, List.append_assoc]
    by_cases hchallenge : challengesFrom env a ⟨t, l, t'⟩ = true
    · simp [hchallenge]
    · simp [hchallenge]

theorem BlockRun.recentFailuresForIp_eq (h : BlockRun env s₀ tr s)
    (hhonest : ∀ x ∈ tr, failsFrom env a x = false) (now : Instant) :
    recentFailuresForIp s.db a now = recentFailuresForIp s₀.db a now + recentChallenges env a tr now := by
  rw [RatingLift.recentFailuresForIp_eq, RatingLift.recentFailuresForIp_eq, h.failureTimes_eq hhonest,
    List.countP_append, List.countP_map, recentChallenges, List.countP_filter]
  congr 2
  funext x
  exact Bool.and_comm _ _

/-- In a run where every password and every code of an address is right, the service blocks the address
nowhere exactly when its challenges stay below the threshold. -/
theorem honest_unblocked_iff (h : BlockRun env s₀ tr s) (hhonest : ∀ x ∈ tr, failsFrom env a x = false) :
    (∀ x ∈ tr, ¬ BlocksAddress a x) ↔ ChallengesSpared env s₀ a tr := by
  have hstep : ∀ pre x post, tr = pre ++ x :: post →
      (BlocksAddress a x ↔ challengesFrom env a x = true ∧ a ≠ "" ∧
      defaultFailureThreshold ≤ recentFailuresForIp s₀.db a x.label.now + recentChallenges env a pre
        x.label.now + 1) := by
    intro pre x post htr
    obtain ⟨hrun, hfresh, hnext⟩ := h.split htr
    rw [blocksAddress_iff hfresh hnext (hhonest x (by rw [htr]; simp)),
      BlockRun.recentFailuresForIp_eq hrun fun y hy => hhonest y (by rw [htr]; simp [hy])]
  constructor
  · intro hnone pre x post htr hchallenge hne
    by_contra hmany
    exact hnone x (by rw [htr]; simp) ((hstep pre x post htr).mpr ⟨hchallenge, hne, not_lt.mp hmany⟩)
  · intro hspared x hx hblocks
    obtain ⟨pre, post, htr⟩ := List.append_of_mem hx
    obtain ⟨hchallenge, hne, hmany⟩ := (hstep pre x post htr).mp hblocks
    exact absurd (hspared pre x post htr hchallenge hne) (not_lt.mpr hmany)

end

/-! ### A user with MFA -/

namespace ChallengedAddress

def env : AuthEnv String := LongBlock.env

def address : String := LongBlock.address

/-- `n` logins with the right password, five every two minutes. -/
def logins (n : Nat) : List BlockCall :=
  (List.range n).map fun k =>
    .auth ⟨.loginWithPassword ⟨"eve@example.com", "Passw0rd", false, LongBlock.client⟩,
    { AuthDraw.numbered (30 + k) with now := minutes (2 * (k / 5)) }⟩

/-- A new user turns MFA on and then logs in. -/
def calls (n : Nat) : List BlockCall := LongBlock.enrolment ++ logins n

def honest (r : List BlockStep × AuthState) : Bool := r.1.all fun x => !failsFrom env address x

theorem failsFrom_of_honest {r : List BlockStep × AuthState} (h : honest r = true) :
    ∀ x ∈ r.1, failsFrom env address x = false := by
  intro x hx
  simpa using List.all_eq_true.mp h x hx

/-- The last step finds no row of the address and leaves one. -/
def blockedLast (r : List BlockStep × AuthState) : Bool :=
  r.1.getLast?.any fun x =>
    (x.before.db.ipBlocklist.find? address).isNone && (x.after.db.ipBlocklist.find? address).isSome &&
    x.label.manualTarget.isNone

/-- Twenty logins with the right password block the address. -/
theorem blocked_by_challenges :
    ∃ tr s, BlockRun env .fresh tr s ∧ (∀ x ∈ tr, failsFrom env address x = false) ∧
    ¬ ∀ x ∈ tr, ¬ BlocksAddress address x := by
  have hreplay : (Run.replay (serveBlockCall env) FreshAttempt .fresh (calls 20)).map
      (fun r => honest r && blockedLast r) = some true := by decide +kernel
  obtain ⟨tr, s, hrun, hcheck⟩ := Run.exists_of_replay hreplay
  rw [Bool.and_eq_true] at hcheck
  refine ⟨tr, s, hrun, failsFrom_of_honest hcheck.1, ?_⟩
  intro hnone
  obtain ⟨x, hx, hblocked⟩ := (Option.any_eq_true _ _).mp hcheck.2
  simp only [Bool.and_eq_true, Option.isNone_iff_eq_none] at hblocked
  obtain ⟨⟨hbefore, hafter⟩, hauth⟩ := hblocked
  obtain ⟨row, hrow⟩ := Option.isSome_iff_exists.mp hafter
  refine hnone x (List.mem_of_getLast? hx) ⟨?_, row, hrow, by rw [hbefore]; simp⟩
  cases hlabel : x.label with
  | auth call => exact ⟨call, rfl⟩
  | manuallyBlockIp => rw [hlabel] at hauth; cases hauth
  | manuallyUnblockIp => rw [hlabel] at hauth; cases hauth

/-- Fewer steps than the threshold hold fewer challenges. -/
theorem challengesSpared_of_short {s₀ : AuthState} {a : String} {tr : List BlockStep}
    (hstart : ∀ now, recentFailuresForIp s₀.db a now = 0) (hshort : tr.length < defaultFailureThreshold) :
    ChallengesSpared env s₀ a tr := by
  intro pre x post htr _ _
  have hcount : recentChallenges env a pre x.label.now ≤ pre.length := List.countP_le_length
  rw [htr] at hshort
  simp only [List.length_append, List.length_cons] at hshort
  rw [hstart]
  omega

/-- Five logins do not. -/
theorem free_after_five :
    ∃ tr s, BlockRun env .fresh tr s ∧ tr.length = 9 ∧ ∀ x ∈ tr, ¬ BlocksAddress address x := by
  have hreplay : (Run.replay (serveBlockCall env) FreshAttempt .fresh (calls 5)).map
      (fun r => honest r && decide (r.1.length = 9)) = some true := by decide +kernel
  obtain ⟨tr, s, hrun, hcheck⟩ := Run.exists_of_replay hreplay
  rw [Bool.and_eq_true, decide_eq_true_eq] at hcheck
  obtain ⟨hhonest, hlength⟩ := hcheck
  have hlength : tr.length = 9 := hlength
  exact ⟨tr, s, hrun, hlength, (honest_unblocked_iff hrun (failsFrom_of_honest hhonest)).mpr
    (challengesSpared_of_short (fun _ => rfl) (by rw [hlength]; decide))⟩

end ChallengedAddress

end RatingLift
