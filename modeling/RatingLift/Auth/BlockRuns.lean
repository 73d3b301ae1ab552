import RatingLift.Auth.FailureCounts

/-!
# Blocks over a run

An automatic block should never make the block of an address end earlier; only an administrator should.  A
password login asks the blocklist first, so that its failures count against addresses that are not blocked
(`loginWithPassword_keeps`).  A verification does not ask, and a wrong code that reaches the threshold writes
the block again, for an hour from now (`blockedUntil_verifyMfaLogin`).  In a run blocks are therefore kept
exactly when no such code meets a block that lasts for more than an hour (`blocks_kept_iff`).
-/

namespace RatingLift

open Library

section

variable {τ : Type} {env : AuthEnv τ} {s : AuthState} {draw : AuthDraw}

/-- A password login writes no other row of the blocklist than that of its own address. -/
theorem blockedUntil_loginWithPassword {req : LoginRequest} {b : String} (hb : req.client.ipAddress ≠ some b)
    (hfresh : s.db.loginAttempts.Fresh draw.attemptId) :
    blockedUntil (loginWithPassword env s draw req).1.db b = blockedUntil s.db b :=
  blockedUntil_congr ((loginWithPassword_counts env s req hfresh).elsewhere b hb)

/-- A wrong code is a failure of its address. -/
theorem blockedUntil_verifyMfaLogin {req : MfaVerifyRequest} (b : String)
    (hfresh : s.db.loginAttempts.Fresh draw.attemptId) :
    blockedUntil (verifyMfaLogin env s draw req).1.db b =
      if wrongCode env s draw req = true ∧ req.client.ipAddress = some b ∧ b ≠ "" ∧
        defaultFailureThreshold ≤ recentFailuresForIp s.db b draw.now + 1
      then Expiry.at (draw.now + seconds blockDurationSeconds) else blockedUntil s.db b := by
  rcases verifyMfaLogin_records env s req hfresh with ⟨hwrong, hrecords⟩ | ⟨hright, hrecords⟩
  · rw [hrecords.blockedUntil, hwrong]
    simp only [true_and]
  · rw [hright, if_neg (by simp)]
    exact blockedUntil_congr (by rw [hrecords.blocks])

end

/-! ### Runs -/

/-- A request to the authentication service, or one of the operations of an administrator on the blocklist. -/
inductive BlockCall where
  | auth (call : AuthCall)
  | manuallyBlockIp (draw : Draw) (clientIp : Option String) (adminId : Uuid) (payload : IpBlockCreateRequest)
  | manuallyUnblockIp (draw : Draw) (clientIp : Option String) (adminId : Uuid) (ipAddress : String)

namespace BlockCall

/-- The clock of the call. -/
def now : BlockCall → Instant
  | auth call => call.draw.now
  | manuallyBlockIp draw _ _ _ => draw.now
  | manuallyUnblockIp draw _ _ _ => draw.now

/-- The address that an administrator blocks or unblocks. -/
def manualTarget : BlockCall → Option String
  | auth _ => none
  | manuallyBlockIp _ _ _ payload => some payload.ipAddress
  | manuallyUnblockIp _ _ _ ipAddress => some ipAddress

end BlockCall

abbrev BlockStep := Step AuthState BlockCall

/-- The login attempt that a request may record gets a new key. -/
def FreshAttempt (_ : List BlockStep) (s : AuthState) : BlockCall → Prop
  | .auth call => s.db.loginAttempts.Fresh call.draw.attemptId
  | _ => True

instance (tr : List BlockStep) (s : AuthState) (call : BlockCall) : Decidable (FreshAttempt tr s call) :=
  match call with
  | .auth call => inferInstanceAs (Decidable (s.db.loginAttempts.Fresh call.draw.attemptId))
  | .manuallyBlockIp .. => isTrue trivial
  | .manuallyUnblockIp .. => isTrue trivial

section

variable {τ : Type} (env : AuthEnv τ)

/-- The state after a call. -/
def serveBlockCall (s : AuthState) : BlockCall → Option AuthState
  | .auth call => serveCall env s call
  | .manuallyBlockIp draw clientIp adminId payload =>
    some { s with db := (manuallyBlockIp s.db draw clientIp adminId payload).2 }
  | .manuallyUnblockIp draw clientIp adminId ipAddress =>
    some { s with db := (manuallyUnblockIp s.db draw clientIp adminId ipAddress).2 }

/-- Runs of the service with its administrators. -/
def BlockRun (s₀ : AuthState) : List BlockStep → AuthState → Prop := Run (serveBlockCall env) FreshAttempt s₀

/-- A block that is still on lasts as long after the step, unless the step is an administrator's and about its
address. -/
def KeepsBlocks (x : BlockStep) : Prop :=
  ∀ a, x.label.manualTarget ≠ some a → Expiry.at x.label.now < blockedUntil x.before.db a →
    blockedUntil x.before.db a ≤ blockedUntil x.after.db a

/-- A wrong code from an address that is blocked for more than an hour leaves its failures below the
threshold. -/
def SparesLongBlocks (x : BlockStep) : Prop :=
  match x.label with
  | .auth ⟨.verifyMfaLogin req, draw⟩ =>
    wrongCode env x.before draw req = true → ∀ a, req.client.ipAddress = some a →
      Expiry.at (draw.now + seconds blockDurationSeconds) < blockedUntil x.before.db a →
        recentFailuresForIp x.before.db a draw.now + 1 < defaultFailureThreshold
  | _ => True

variable {env} {s₀ s : AuthState} {tr : List BlockStep}

theorem loginWithPassword_keeps {draw : AuthDraw} {req : LoginRequest}
    (hfresh : s.db.loginAttempts.Fresh draw.attemptId) {a : String}
    (ha : Expiry.at draw.now < blockedUntil s.db a) :
    blockedUntil (loginWithPassword env s draw req).1.db a = blockedUntil s.db a := by
  by_cases hip : req.client.ipAddress = some a
  · rw [(loginWithPassword_of_blocked env hip (addressBlocked_iff.mpr ha)).1]
  · exact blockedUntil_loginWithPassword hip hfresh

/-- A verification cuts a block short exactly when its code is wrong, its address is blocked for more than an
hour and the failure reaches the threshold. -/
theorem verifyMfaLogin_keeps_iff {draw : AuthDraw} {req : MfaVerifyRequest}
    (hfresh : s.db.loginAttempts.Fresh draw.attemptId) :
    (∀ a, Expiry.at draw.now < blockedUntil s.db a →
        blockedUntil s.db a ≤ blockedUntil (verifyMfaLogin env s draw req).1.db a) ↔
      (wrongCode env s draw req = true → ∀ a, req.client.ipAddress = some a →
        Expiry.at (draw.now + seconds blockDurationSeconds) < blockedUntil s.db a →
          recentFailuresForIp s.db a draw.now + 1 < defaultFailureThreshold) := by
  constructor
  · intro hkeeps hwrong a ha hlong
    by_contra hmany
    have hlater : Expiry.at draw.now < blockedUntil s.db a :=
      lt_of_le_of_lt (Expiry.at_le_at.mpr (Nat.le_add_right _ _)) hlong
    have hne : a ≠ "" := by
      rintro rfl
      exact absurd hlater (by simp [blockedUntil])
    have hafter := hkeeps a hlater
    rw [blockedUntil_verifyMfaLogin a hfresh, if_pos ⟨hwrong, ha, hne, not_lt.mp hmany⟩] at hafter
    exact absurd hlong (not_lt.mpr hafter)
  · intro hspares a _
    rw [blockedUntil_verifyMfaLogin a hfresh]
    by_cases hcounts : wrongCode env s draw req = true ∧ req.client.ipAddress = some a ∧ a ≠ "" ∧
        defaultFailureThreshold ≤ recentFailuresForIp s.db a draw.now + 1
    · rw [if_pos hcounts]
      obtain ⟨hwrong, ha, _, hmany⟩ := hcounts
      by_contra hlong
      have hfew := hspares hwrong a ha (not_le.mp hlong)
      omega
    · rw [if_neg hcounts]

/-- A step keeps the blocks exactly when it spares the long ones. -/
theorem keepsBlocks_iff {before after : AuthState} {label : BlockCall} (hfresh : FreshAttempt tr before label)
    (hnext : serveBlockCall env before label = some after) :
    KeepsBlocks ⟨before, label, after⟩ ↔ SparesLongBlocks env ⟨before, label, after⟩ := by
  unfold KeepsBlocks SparesLongBlocks
  cases label with
  | auth call =>
    obtain ⟨req, draw⟩ := call
    have hafter : (req.serve env before draw).1 = after := Option.some.inj hnext
    subst hafter
    replace hfresh : before.db.loginAttempts.Fresh draw.attemptId := hfresh
    by_cases hquiet : req.comparesCredential = false
    · -- the blocklist stays
      have hsame : ∀ a, blockedUntil (req.serve env before draw).1.db a = blockedUntil before.db a := by
        intro a
        exact blockedUntil_congr (by rw [(serve_recordsNoFailure hquiet hfresh).blocks])
      have hspares : SparesLongBlocks env ⟨before, .auth ⟨req, draw⟩, (req.serve env before draw).1⟩ := by
        cases req with
        | verifyMfaLogin req => cases hquiet
        | _ => trivial
      refine iff_of_true ?_ hspares
      intro a _ _
      exact (hsame a).ge
    · cases req with
      | loginWithPassword req =>
        refine iff_of_true ?_ trivial
        intro a _ ha
        exact (loginWithPassword_keeps hfresh ha).ge
      | verifyMfaLogin req =>
        refine Iff.trans ?_ (verifyMfaLogin_keeps_iff hfresh)
        constructor
        · intro hkeeps a
          exact hkeeps a (by simp [BlockCall.manualTarget])
        · intro hkeeps a _
          exact hkeeps a
      | _ => exact absurd rfl hquiet
  | manuallyBlockIp draw clientIp adminId payload =>
    have hafter : { before with db := (manuallyBlockIp before.db draw clientIp adminId payload).2 } = after :=
      Option.some.inj hnext
    subst hafter
    refine iff_of_true ?_ trivial
    intro a ha _
    have hother : a ≠ payload.ipAddress := by
      rintro rfl
      exact ha rfl
    exact (blockedUntil_manuallyBlockIp hother).ge
  | manuallyUnblockIp draw clientIp adminId ipAddress =>
    have hafter :
        { before with db := (manuallyUnblockIp before.db draw clientIp adminId ipAddress).2 } = after :=
      Option.some.inj hnext
    subst hafter
    refine iff_of_true ?_ trivial
    intro a ha _
    have hother : a ≠ ipAddress := by
      rintro rfl
      exact ha rfl
    exact (blockedUntil_manuallyUnblockIp hother).ge

theorem BlockRun.keepsBlocks_iff (h : BlockRun env s₀ tr s) {x : BlockStep} (hx : x ∈ tr) :
    KeepsBlocks x ↔ SparesLongBlocks env x := by
  obtain ⟨pre, post, htr⟩ := List.append_of_mem hx
  obtain ⟨_, hfresh, hnext⟩ := h.split htr
  exact RatingLift.keepsBlocks_iff hfresh hnext

/-- In a run no automatic block cuts a block short exactly when no wrong code counts against an address that
is blocked for more than an hour, where the failure reaches the threshold. -/
theorem blocks_kept_iff (h : BlockRun env s₀ tr s) :
    (∀ x ∈ tr, KeepsBlocks x) ↔ ∀ x ∈ tr, SparesLongBlocks env x :=
  forall₂_congr fun _ hx => h.keepsBlocks_iff hx

/-- In such a run a block of an address that no administrator touches lasts to its end. -/
theorem BlockRun.blocked_since (h : BlockRun env s₀ tr s) (hspares : ∀ x ∈ tr, SparesLongBlocks env x)
    {x : BlockStep} {pre post : List BlockStep} (htr : tr = pre ++ x :: post) {a : String}
    (hmanual : ∀ y ∈ post, y.label.manualTarget ≠ some a)
    (hclock : ∀ y ∈ post, Expiry.at y.label.now < blockedUntil x.after.db a) :
    blockedUntil x.after.db a ≤ blockedUntil s.db a := by
  refine Run.since (J := fun _ t => blockedUntil x.after.db a ≤ blockedUntil t.db a) h htr le_rfl ?_
  intro pre' y post' htr' hlasts
  have hy : y ∈ tr := by
    rw [htr']
    simp
  have hpost : y ∈ post := by
    have hsame : x :: post = x :: (pre' ++ y :: post') := List.append_cancel_left (htr ▸ htr')
    rw [(List.cons.inj hsame).2]
    simp
  have hkeeps : KeepsBlocks y := (h.keepsBlocks_iff hy).mpr (hspares y hy)
  exact hlasts.trans (hkeeps a (hmanual y hpost) ((hclock y hpost).trans_le hlasts))

end

/-! ### A block of thirty days -/

namespace LongBlock

def env : AuthEnv String := BlockedAddress.env

def client : ClientInfo := BlockedAddress.client

def address : String := "203.0.113.7"

/-- `n` logins for emails that nobody has, all from one address. -/
def guesses (n : Nat) : List BlockCall :=
  (List.range n).map fun k =>
    .auth ⟨.loginWithPassword ⟨"guess-" ++ toString k, "guess", false, client⟩, .numbered k⟩

/-- A new user turns MFA on. -/
def enrolment : List BlockCall :=
  [.auth ⟨.signup ⟨"eve@example.com", "Passw0rd", none, none, .OWNER, .unknown⟩, .numbered 20⟩,
    .auth ⟨.addMfaChannel (.ofNat 220) "email" "eve@example.com", .numbered 21⟩,
    .auth ⟨.verifyMfaChannel (.ofNat 220) "email" "1000021", .numbered 22⟩,
    .auth ⟨.enableMfa (.ofNat 220), .numbered 23⟩]

def thirtyDays : IpBlockCreateRequest :=
  ⟨address, none, 60 * 60 * 24 * 30, by decide, by simp, by decide⟩

/-- An administrator blocks the address for thirty days; then a wrong code comes from it. -/
def wrongCodeWhileBlocked : List BlockCall :=
  [.manuallyBlockIp ⟨0, fun _ => .ofNat 0, fun _ => .ofNat 9000, .ofNat 9100, 0⟩ none (.ofNat 1) thirtyDays,
    .auth ⟨.verifyMfaLogin ⟨"eve@example.com", "000000", false, client⟩, .numbered 24⟩]

/-- What the last step makes of the expiry of the address. -/
def lastExpiries (r : List BlockStep × AuthState) : Option (Option Instant × Option Instant) :=
  r.1.getLast?.map fun x => ((x.before.db.ipBlocklist.find? address).bind (·.expiresAt),
    (x.after.db.ipBlocklist.find? address).bind (·.expiresAt))

theorem blockedUntil_of_expiresAt {db : Db} {t : Instant}
    (h : (db.ipBlocklist.find? address).bind (·.expiresAt) = some t) : blockedUntil db address = .at t := by
  obtain ⟨row, hrow, hexpires⟩ := Option.bind_eq_some_iff.mp h
  rw [blockedUntil_of_find? (by decide) hrow]
  unfold IpBlocklist.expiry
  rw [hexpires]

/-- After nineteen guesses the wrong code cuts the block of thirty days down to an hour. -/
theorem cut_to_an_hour : ∃ tr s, BlockRun env .fresh tr s ∧ ¬ ∀ x ∈ tr, KeepsBlocks x := by
  have hreplay : (Run.replay (serveBlockCall env) FreshAttempt .fresh
      (guesses 19 ++ enrolment ++ wrongCodeWhileBlocked)).map
      (fun r => decide (lastExpiries r = some (some (seconds (60 * 60 * 24 * 30)), some (seconds (60 * 60))) ∧
        (r.1.getLast?.map fun x => x.label.now) = some 0 ∧
        (r.1.getLast?.bind fun x => x.label.manualTarget) = none)) = some true := by decide +kernel
  obtain ⟨tr, s, hrun, hcheck⟩ := Run.exists_of_replay hreplay
  rw [decide_eq_true_eq] at hcheck
  obtain ⟨hexpiries, hnow, hmanual⟩ := hcheck
  refine ⟨tr, s, hrun, ?_⟩
  intro hkept
  cases hlast : tr.getLast? with
  | none =>
    unfold lastExpiries at hexpiries
    rw [hlast] at hexpiries
    cases hexpiries
  | some x =>
    unfold lastExpiries at hexpiries
    rw [hlast] at hexpiries hnow hmanual
    obtain ⟨hbefore, hafter⟩ := Prod.mk.inj (Option.some.inj hexpiries)
    have hlasts :=
      hkept x (List.mem_of_getLast? hlast) address
        (by rw [show x.label.manualTarget = none from hmanual]; simp)
    rw [blockedUntil_of_expiresAt hbefore, blockedUntil_of_expiresAt hafter,
      show x.label.now = 0 from Option.some.inj hnow] at hlasts
    exact absurd (Expiry.at_le_at.mp (hlasts (Expiry.at_lt_at.mpr (by decide)))) (by decide)

/-- The failures of the address of a verification stay below the threshold. -/
def belowThreshold (x : BlockStep) : Bool :=
  match x.label with
  | .auth ⟨.verifyMfaLogin req, draw⟩ => req.client.ipAddress.all fun a =>
      decide (recentFailuresForIp x.before.db a draw.now + 1 < defaultFailureThreshold)
  | _ => true

theorem spares_of_belowThreshold {x : BlockStep} (h : belowThreshold x = true) : SparesLongBlocks env x := by
  unfold belowThreshold at h
  unfold SparesLongBlocks
  split
  · rename_i req draw hlabel
    intro _ a ha _
    rw [hlabel] at h
    simpa [ha] using h
  · trivial

/-- After three guesses the same wrong code leaves the block of thirty days. -/
theorem kept_after_three :
    ∃ tr s, BlockRun env .fresh tr s ∧ blockedUntil s.db address = .at (seconds (60 * 60 * 24 * 30)) ∧
    ∀ x ∈ tr, KeepsBlocks x := by
  have hreplay : (Run.replay (serveBlockCall env) FreshAttempt .fresh
      (guesses 3 ++ enrolment ++ wrongCodeWhileBlocked)).map
      (fun r =>
        decide ((r.2.db.ipBlocklist.find? address).bind (·.expiresAt) = some (seconds (60 * 60 * 24 * 30))) &&
        r.1.all belowThreshold) = some true := by decide +kernel
  obtain ⟨tr, s, hrun, hcheck⟩ := Run.exists_of_replay hreplay
  rw [Bool.and_eq_true, decide_eq_true_eq, List.all_eq_true] at hcheck
  exact ⟨tr, s, hrun, blockedUntil_of_expiresAt hcheck.1,
    (blocks_kept_iff hrun).mpr fun x hx => spares_of_belowThreshold (hcheck.2 x hx)⟩

end LongBlock

end RatingLift
