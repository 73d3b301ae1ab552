import RatingLift.Auth.AccountWrites
import RatingLift.Library.Lockout

/-!
# The account lockout

The failures and the lock of a user follow the lockout machine of the library (`AuthRun.account_run`): a
failed comparison is a failed attempt, a session or a password reset sets the count to zero, and whatever else
a login finds out is an attempt that passed or was dropped.  So between two events that zero the counter at
most as many passwords and codes fail as the threshold allows (`lockout_bounds_failures`), and while the lock
holds nothing is compared and no session is created.
-/

namespace RatingLift

open Library Fallible

/-- What the counter and the lock of a user are; a user who does not exist has none. -/
def accountOf (db : Db) (userId : Uuid) : Account :=
  match db.users.find? userId with
  | none => .zero
  | some user => ⟨user.failedLoginAttempts, user.lockedUntil⟩

section

variable {τ : Type} (env : AuthEnv τ) (userId : Uuid)

/-- The step evaluates a wrong password or code of the user. -/
def wrongCredential (x : AuthStep) : Bool :=
  decide (loginCheck env x.before x.label.draw x.label.request = some ⟨userId, false⟩)

/-- The step checks the lock of the user. -/
def checksLock (x : AuthStep) : Bool :=
  (lockChecked env x.before x.label.draw x.label.request).any fun user => decide (user.id = userId)

/-- The step checks the lock of the user and finds that it has expired. -/
def findsExpired (x : AuthStep) : Bool :=
  checksLock env userId x && (accountOf x.before.db userId).lapsed x.label.draw.now

/-- A session of the user is created or the password is reset. -/
def startsOver (x : AuthStep) : Bool := decide (opensSession x userId) || resetsPassword userId x

/-- An earlier step found that the lock the user has now has expired. -/
def expirySeen (tr : List AuthStep) : Bool :=
  tr.foldl
    (fun seen x =>
      !startsOver userId x && !wrongCredential env userId x && (seen || findsExpired env userId x))
    false

/-- The step zeroes the failure counter: a session is created, the password is reset, or it is the first check
after a lock expired. -/
def zeroesCounter (tr : List AuthStep) (x : AuthStep) : Bool :=
  startsOver userId x || (findsExpired env userId x && !expirySeen env userId tr)

/-! ### The lockout machine of a user -/

/-- What a step is to the lockout machine of the user. -/
def lockoutEvent (x : AuthStep) : Lockout.Event :=
  if startsOver userId x then .reset
  else if checksLock env userId x then
    .attempt x.label.draw.now
      (if wrongCredential env userId x then .failed
      else if accountOf x.after.db userId = accountOf x.before.db userId then .dropped
      else .passed)
  else .idle

def lockoutStep (x : AuthStep) : Lockout.AccountStep :=
  ⟨accountOf x.before.db userId, lockoutEvent env userId x, accountOf x.after.db userId⟩

variable {env} {userId} {s : AuthState} {draw : AuthDraw} {db : Db}

theorem accountOf_some {user : User} (h : db.users.find? userId = some user) :
    accountOf db userId = ⟨user.failedLoginAttempts, user.lockedUntil⟩ := by
  unfold accountOf
  rw [h]

theorem accountOf_locked {user : User} (h : db.users.find? userId = some user) (now : Instant) :
    (accountOf db userId).locked now = user.locked now := by
  rw [accountOf_some h]
  rfl

private theorem accountOf_clearLock (user : User) :
    (⟨(clearLock user).failedLoginAttempts, (clearLock user).lockedUntil⟩ : Account) =
      Account.cleared ⟨user.failedLoginAttempts, user.lockedUntil⟩ := by
  unfold clearLock Account.cleared
  cases hlock : user.lockedUntil <;> simp [Account.zero, hlock]

private theorem accountOf_countFailure (user : User) :
    (⟨(countFailure env draw user).failedLoginAttempts, (countFailure env draw user).lockedUntil⟩ : Account) =
      Account.fail env.settings.accountLockoutThreshold (minutes env.settings.accountLockoutMinutes) draw.now
        ⟨user.failedLoginAttempts, user.lockedUntil⟩ := by
  unfold countFailure Account.fail
  dsimp only
  split <;> rfl

/-- What a change of a row does to the failures and the lock: nothing, without a failed comparison; it clears
them after a comparison that passed; it counts a failed one; or it starts over. -/
private theorem RowChange.account {user row : User} {req : AuthRequest}
    (h : RowChange env s draw db user req row) :
    ((∀ id, loginCheck env s draw req ≠ some ⟨id, false⟩) ∧
        (⟨row.failedLoginAttempts, row.lockedUntil⟩ : Account) =
          ⟨user.failedLoginAttempts, user.lockedUntil⟩) ∨
      (loginCheck env s draw req = some ⟨user.id, true⟩ ∧
        (⟨row.failedLoginAttempts, row.lockedUntil⟩ : Account) =
          Account.cleared ⟨user.failedLoginAttempts, user.lockedUntil⟩) ∨
      (loginCheck env s draw req = some ⟨user.id, false⟩ ∧
        (⟨row.failedLoginAttempts, row.lockedUntil⟩ : Account) =
          Account.fail env.settings.accountLockoutThreshold
            (minutes env.settings.accountLockoutMinutes) draw.now
            (Account.cleared ⟨user.failedLoginAttempts, user.lockedUntil⟩)) ∨
      OpensFor env s draw db row ∨
      ∃ token newPassword, req = .resetPassword token newPassword ∧ resetUser s draw token = .ok user := by
  cases h with
  | failed hcheck =>
    refine Or.inr (Or.inr (Or.inl ⟨hcheck, ?_⟩))
    rw [accountOf_countFailure, accountOf_clearLock]
  | challenged hcheck => exact Or.inr (Or.inl ⟨hcheck, accountOf_clearLock user⟩)
  | loggedIn _ _ hopens => exact Or.inr (Or.inr (Or.inr (Or.inl hopens)))
  | social _ _ _ _ hopens => exact Or.inr (Or.inr (Or.inr (Or.inl hopens)))
  | passwordReset hok => exact Or.inr (Or.inr (Or.inr (Or.inr ⟨_, _, rfl, hok⟩)))
  | channelAdded hchange =>
    refine Or.inl ⟨nofun, ?_⟩
    rcases channelChange_cases hchange with ⟨_, _, rfl⟩ | ⟨_, _, rfl⟩
    · rfl
    · rfl
  | channelVerified _ =>
    refine Or.inl ⟨nofun, ?_⟩
    unfold markVerified
    split <;> rfl
  | _ => exact Or.inl ⟨nofun, rfl⟩

/-! ### Runs -/

variable {s₀ : AuthState} {tr : List AuthStep}

/-- A wrong credential is found out after the lock check, while the user is not locked. -/
private theorem wrongCredential_iff {x : AuthStep} : wrongCredential env userId x = true ↔
    loginCheck env x.before x.label.draw x.label.request = some ⟨userId, false⟩ := decide_eq_true_iff

theorem checksLock_of_check {x : AuthStep} {accepted : Bool}
    (h : loginCheck env x.before x.label.draw x.label.request = some ⟨userId, accepted⟩) :
    checksLock env userId x = true ∧ (accountOf x.before.db userId).locked x.label.draw.now = false := by
  obtain ⟨user, hchecked, hid, hfree, _⟩ := loginCheck_some h
  have huser : x.before.db.users.find? userId = some user := by
    have := lockChecked_some hchecked
    rwa [show user.id = userId from hid] at this
  refine ⟨?_, ?_⟩
  · unfold checksLock
    rw [hchecked]
    exact decide_eq_true hid
  · rw [accountOf_locked huser]
    exact hfree

/-- A step that starts over leaves neither failures nor a lock. -/
private theorem AuthRun.account_of_startsOver (h : AuthRun env s₀ tr s) {x : AuthStep} (hx : x ∈ tr)
    (hover : startsOver userId x = true) : accountOf x.after.db userId = .zero := by
  unfold startsOver at hover
  rw [Bool.or_eq_true, decide_eq_true_eq] at hover
  rcases hover with hopen | hreset
  · obtain ⟨row, hadmitted, hrow⟩ := h.admitted hx hopen
    obtain ⟨hfailures, hlock⟩ := hadmitted.cleared
    rw [accountOf_some hrow, hfailures, hlock]
    rfl
  · have hafter := h.after_eq hx
    obtain ⟨token, newPassword, user, hreq, huser, hid⟩ := resetsPassword_iff.mp hreset
    rw [hreq] at hafter
    have husers :
        x.after.db.users = x.before.db.users.update (withPassword env x.label.draw user newPassword) := by
      rw [← hafter]
      exact resetPassword_of_ok huser
    have hrow : x.after.db.users.find? userId = some (withPassword env x.label.draw user newPassword) := by
      have hstored : x.before.db.users.find? user.id = some user := tokenUser_ok huser
      rw [husers, ← hid]
      exact Table.find?_update_of_find? hstored
    rw [accountOf_some hrow]
    rfl

/-- A step that does not start over writes the failures and the lock of the user only after the lock check. -/
private theorem AuthRun.account_of_not_startsOver (h : AuthRun env s₀ tr s) {x : AuthStep} (hx : x ∈ tr)
    (hover : startsOver userId x = false) :
    (accountOf x.after.db userId = accountOf x.before.db userId ∧ wrongCredential env userId x = false) ∨
    (checksLock env userId x = true ∧ (accountOf x.before.db userId).locked x.label.draw.now = false ∧
      wrongCredential env userId x = false ∧
      accountOf x.after.db userId = (accountOf x.before.db userId).cleared) ∨
    (checksLock env userId x = true ∧ (accountOf x.before.db userId).locked x.label.draw.now = false ∧
      wrongCredential env userId x = true ∧
      accountOf x.after.db userId =
        (accountOf x.before.db userId).cleared.fail env.settings.accountLockoutThreshold
        (minutes env.settings.accountLockoutMinutes) x.label.draw.now) := by
  unfold startsOver at hover
  rw [Bool.or_eq_false_iff, decide_eq_false_iff_not] at hover
  obtain ⟨hclosed, hreset⟩ := hover
  obtain ⟨hwrite, hfresh⟩ := h.step_users hx
  cases hbefore : x.before.db.users.find? userId with
  | none =>
    -- a user who is added has no failures
    have hzero : accountOf x.before.db userId = .zero := by unfold accountOf; rw [hbefore]
    refine Or.inl ⟨?_, ?_⟩
    · cases hrow : x.after.db.users.find? userId with
      | none => unfold accountOf; rw [hbefore, hrow]
      | some row =>
        rw [hzero, accountOf_some hrow]
        have hcreated := hwrite.new hfresh hbefore hrow
        generalize x.label.request = req at hcreated
        cases hcreated <;> rfl
    · rw [Bool.eq_false_iff]
      intro hwrong
      obtain ⟨user, hchecked, hid, _⟩ := loginCheck_some (wrongCredential_iff.mp hwrong)
      have huser := lockChecked_some hchecked
      rw [show user.id = userId from hid, hbefore] at huser
      cases huser
  | some user =>
    have hid : user.id = userId := (Table.find?_some hbefore).2
    rcases hwrite.stored hfresh hbefore with ⟨hafter, hcheck⟩ | ⟨row, hafter, hchange⟩
    · refine Or.inl ⟨by rw [accountOf_some hafter, accountOf_some hbefore], ?_⟩
      rw [Bool.eq_false_iff]
      exact fun hwrong => hcheck (wrongCredential_iff.mp hwrong)
    · have hfree : ∀ {accepted}, loginCheck env x.before x.label.draw x.label.request =
          some ⟨user.id, accepted⟩ →
          checksLock env userId x = true ∧
          (accountOf x.before.db userId).locked x.label.draw.now = false := by
        intro accepted hcheck
        rw [hid] at hcheck
        exact checksLock_of_check hcheck
      have hrow : row.id = userId := hchange.id_eq.trans hid
      rcases hchange.account with ⟨hnone, hsame⟩ | ⟨hpassed, hcleared⟩ | ⟨hfailed, hcounted⟩ | hopens |
        ⟨token, newPassword, hreq, huser⟩
      · refine Or.inl ⟨?_, ?_⟩
        · rw [accountOf_some hafter, accountOf_some hbefore, hsame]
        · rw [Bool.eq_false_iff]
          exact fun hwrong => hnone userId (wrongCredential_iff.mp hwrong)
      · obtain ⟨hchecks, hunlocked⟩ := hfree hpassed
        refine Or.inr (Or.inl ⟨hchecks, hunlocked, ?_, ?_⟩)
        · rw [Bool.eq_false_iff]
          intro hwrong
          rw [wrongCredential_iff, hpassed] at hwrong
          cases hwrong
        · rw [accountOf_some hafter, accountOf_some hbefore, hcleared]
      · obtain ⟨hchecks, hunlocked⟩ := hfree hfailed
        refine Or.inr (Or.inr ⟨hchecks, hunlocked, wrongCredential_iff.mpr (hid ▸ hfailed), ?_⟩)
        rw [accountOf_some hafter, accountOf_some hbefore, hcounted]
      · exact absurd (hrow ▸ h.opensSession_of hx hopens) hclosed
      · rw [resetsPassword_iff.mpr ⟨token, newPassword, user, hreq, huser, hid⟩] at hreset
        cases hreset

/-- Every step of a run is a step of the lockout machine. -/
theorem AuthRun.lockout_step (h : AuthRun env s₀ tr s) {x : AuthStep} (hx : x ∈ tr) :
    Lockout.next env.settings.accountLockoutThreshold (minutes env.settings.accountLockoutMinutes)
      (accountOf x.before.db userId) (lockoutEvent env userId x) = some (accountOf x.after.db userId) := by
  unfold lockoutEvent
  cases hover : startsOver userId x with
  | true =>
    rw [h.account_of_startsOver hx hover]
    rfl
  | false =>
    simp only [Bool.false_eq_true, ↓reduceIte]
    rcases h.account_of_not_startsOver hx hover with ⟨hsame, hwrong⟩ | ⟨hchecks, hfree, hwrong, hcleared⟩ |
      ⟨hchecks, hfree, hwrong, hfailed⟩
    · rw [hsame]
      cases checksLock env userId x <;> simp [hwrong, Lockout.next]
    · simp only [hchecks, hwrong, Bool.false_eq_true, ↓reduceIte]
      split
      · rename_i hsame
        rw [hsame]
        rfl
      · simp [Lockout.next, hfree, hcleared]
    · simp [hchecks, hwrong, Lockout.next, hfree, hfailed]

/-- The history of a user is a run of the lockout machine. -/
theorem AuthRun.account_run (h : AuthRun env s₀ tr s) (userId : Uuid) :
    Run (Lockout.next env.settings.accountLockoutThreshold (minutes env.settings.accountLockoutMinutes))
      (fun _ _ _ => True) (accountOf s₀.db userId) (tr.map (lockoutStep env userId))
        (accountOf s.db userId) :=
  Run.map (fun t : AuthState => accountOf t.db userId) (lockoutEvent env userId) h fun _ hx =>
    h.lockout_step hx

/-- A wrong credential does not start over: it leaves a failure. -/
private theorem AuthRun.not_startsOver_of_wrong (h : AuthRun env s₀ tr s) {x : AuthStep} (hx : x ∈ tr)
    (hwrong : wrongCredential env userId x = true) : startsOver userId x = false := by
  rw [Bool.eq_false_iff]
  intro hover
  have hzero := h.account_of_startsOver hx hover
  have hcheck := wrongCredential_iff.mp hwrong
  obtain ⟨hwrite, hfresh⟩ := h.step_users hx
  obtain ⟨user, hchecked, hid, _⟩ := loginCheck_some hcheck
  have huser : x.before.db.users.find? userId = some user := by
    have := lockChecked_some hchecked
    rwa [show user.id = userId from hid] at this
  rcases hwrite.stored hfresh huser with ⟨_, hnot⟩ | ⟨row, hrow, hchange⟩
  · exact hnot hcheck
  · rw [accountOf_some hrow] at hzero
    generalize x.label.request = req at hchange hcheck
    cases hchange with
    | failed _ =>
      have hfailures := congrArg Account.failures hzero
      rw [accountOf_countFailure] at hfailures
      simp [Account.fail, Account.zero] at hfailures
    | challenged hpassed => rw [hpassed] at hcheck; cases hcheck
    | loggedIn hpassed _ _ => rw [hpassed] at hcheck; cases hcheck
    | _ => cases hcheck

/-! ### The two histories have the same events -/

private theorem resets_lockoutStep (x : AuthStep) :
    Lockout.resets (lockoutStep env userId x) = startsOver userId x := by
  unfold Lockout.resets lockoutStep lockoutEvent
  cases startsOver userId x <;> cases checksLock env userId x <;> rfl

private theorem findsLapsed_lockoutStep {x : AuthStep} (hover : startsOver userId x = false) :
    Lockout.findsLapsed (lockoutStep env userId x) = findsExpired env userId x := by
  unfold Lockout.findsLapsed lockoutStep lockoutEvent findsExpired
  cases checksLock env userId x <;> simp [hover]

private theorem fails_lockoutStep {x : AuthStep} (hover : startsOver userId x = false) :
    Lockout.fails (lockoutStep env userId x) = wrongCredential env userId x := by
  unfold Lockout.fails lockoutStep lockoutEvent
  cases hchecks : checksLock env userId x with
  | true =>
    by_cases hsame : accountOf x.after.db userId = accountOf x.before.db userId <;>
      cases wrongCredential env userId x <;> simp [hover, hsame]
  | false =>
    have hnot : wrongCredential env userId x = false := by
      rw [Bool.eq_false_iff]
      intro hwrong
      rw [(checksLock_of_check (wrongCredential_iff.mp hwrong)).1] at hchecks
      cases hchecks
    simp [hover, hnot]

private theorem lapseSeen_lockoutStep (tr : List AuthStep) :
    Lockout.lapseSeen (tr.map (lockoutStep env userId)) = expirySeen env userId tr := by
  unfold Lockout.lapseSeen expirySeen
  rw [List.foldl_map]
  congr 1
  funext seen x
  rw [resets_lockoutStep]
  cases hover : startsOver userId x with
  | true => rfl
  | false => rw [fails_lockoutStep hover, findsLapsed_lockoutStep hover]

private theorem zeroes_lockoutStep (tr : List AuthStep) (x : AuthStep) :
    Lockout.zeroes (tr.map (lockoutStep env userId)) (lockoutStep env userId x) =
      zeroesCounter env userId tr x := by
  unfold Lockout.zeroes zeroesCounter
  rw [resets_lockoutStep, lapseSeen_lockoutStep]
  cases hover : startsOver userId x with
  | true => rfl
  | false => rw [findsLapsed_lockoutStep hover]

/-- A part of a history in which only the first step may zero the counter. -/
private theorem window_lockoutStep {pre mid : List AuthStep}
    (hmid : ∀ a x b, mid = a ++ x :: b → a ≠ [] → zeroesCounter env userId (pre ++ a) x = false) :
    Lockout.Window (pre.map (lockoutStep env userId)) (mid.map (lockoutStep env userId)) := by
  intro a' x' b' hsplit ha'
  obtain ⟨a, rest, rfl, rfl, hrest⟩ := List.map_eq_append_iff.mp hsplit
  obtain ⟨x, b, rfl, rfl, rfl⟩ := List.map_eq_cons_iff.mp hrest
  rw [← List.map_append, zeroes_lockoutStep]
  exact hmid a x b rfl (by rintro rfl; exact ha' rfl)

/-- Between two events that zero the failure counter of a user at most as many wrong passwords and codes are
evaluated as the threshold allows, and while the lock holds none is, and neither operation creates a
session. -/
theorem lockout_bounds_failures (hthreshold : 1 ≤ env.settings.accountLockoutThreshold)
    (hstart : ∀ user ∈ s₀.db.users,
      user.failedLoginAttempts < env.settings.accountLockoutThreshold ∨ user.lockedUntil.isSome)
    (h : AuthRun env s₀ tr s) (userId : Uuid) :
    (∀ pre mid post, tr = pre ++ mid ++ post →
      (∀ a x b, mid = a ++ x :: b → a ≠ [] → zeroesCounter env userId (pre ++ a) x = false) →
      (mid.filter (wrongCredential env userId)).length ≤ env.settings.accountLockoutThreshold) ∧
    ∀ x ∈ tr, x.label.request.comparesCredential = true → ∀ user, x.before.db.users.find? userId = some user →
      user.locked x.label.draw.now = true →
      (∀ accepted, loginCheck env x.before x.label.draw x.label.request ≠ some ⟨userId, accepted⟩) ∧
        ¬ opensSession x userId := by
  refine ⟨fun pre mid post htr hmid => ?_, fun x hx hcompares user huser hlocked => ?_⟩
  · have hlock : Lockout.LockedAtThreshold env.settings.accountLockoutThreshold (accountOf s₀.db userId) := by
      cases hfind : s₀.db.users.find? userId with
      | none => exact Or.inl (by unfold accountOf; rw [hfind]; exact hthreshold)
      | some user =>
        rw [accountOf_some hfind]
        exact hstart user (Table.find?_some hfind).1
    have hsplit : tr.map (lockoutStep env userId) = pre.map (lockoutStep env userId) ++
        mid.map (lockoutStep env userId) ++ post.map (lockoutStep env userId) := by
      rw [htr, List.map_append, List.map_append]
    have hcount :=
      Lockout.failures_le hthreshold hlock (h.account_run userId) hsplit (window_lockoutStep hmid)
    rw [List.countP_map] at hcount
    rw [← List.countP_eq_length_filter]
    refine le_trans (List.countP_mono_left ?_) hcount
    intro x hx hwrong
    have hmem : x ∈ tr := by rw [htr]; simp [hx]
    rw [Function.comp_apply, fails_lockoutStep (h.not_startsOver_of_wrong hmem hwrong)]
    exact hwrong
  · have hnone : ∀ accepted,
        loginCheck env x.before x.label.draw x.label.request ≠ some ⟨userId, accepted⟩ := by
      intro accepted hcheck
      have hfree := (checksLock_of_check hcheck).2
      rw [accountOf_locked huser, hlocked] at hfree
      cases hfree
    refine ⟨hnone, ?_⟩
    intro hopen
    obtain ⟨row, hadmitted, hrow⟩ := h.admitted hx hopen
    generalize x.label.request = req at hadmitted hcompares hnone
    cases hadmitted with
    | created hcreated => cases hcreated <;> cases hcompares
    | loggedIn found hfound hcheck _ =>
      have hid : userId = found.id := (Table.find?_some hrow).2.symm
      exact hnone true (by rw [hcheck, hid])
    | social _ _ _ _ => cases hcompares

end

/-! ### A locked account -/

namespace LockedOut

/-- Two failures lock an account, and no password is right. -/
def env : AuthEnv String :=
  { AuthEnv.sample ⟨fun _ secret => secret, fun _ _ _ => .invalid⟩ with
    settings := { accountLockoutThreshold := 2 }
    checkpw := fun _ _ => some false }

def alice : Uuid := .ofNat 201

/-- Alice signs up, and then guesses at her password come in. -/
def guesses : List AuthCall :=
  [⟨.signup ⟨"alice@example.com", "Passw0rd", none, none, .OWNER, .unknown⟩, .numbered 1⟩,
    ⟨.loginWithPassword ⟨"alice@example.com", "guess-1", false, .unknown⟩, .numbered 2⟩,
    ⟨.loginWithPassword ⟨"alice@example.com", "guess-2", false, .unknown⟩, .numbered 3⟩,
    ⟨.loginWithPassword ⟨"alice@example.com", "guess-3", false, .unknown⟩, .numbered 4⟩]

/-- Two guesses failed, and the last step was a login at the locked account. -/
def lockedLast (r : List AuthStep × AuthState) : Bool :=
  match r.1.getLast? with
  | some x =>
    decide ((r.1.filter (wrongCredential env alice)).length = 2) && x.label.request.comparesCredential &&
      (x.before.db.users.find? alice).any fun user => user.locked x.label.draw.now
  | none => false

theorem third_guess_refused :
    ∃ tr s x, AuthRun env .fresh tr s ∧ x ∈ tr ∧ (tr.filter (wrongCredential env alice)).length = 2 ∧
      (∀ accepted, loginCheck env x.before x.label.draw x.label.request ≠ some ⟨alice, accepted⟩) ∧
      ¬ opensSession x alice := by
  have hreplay : (Run.replay (serveCall env) FreshDraw .fresh guesses).map lockedLast = some true := by
    decide +kernel
  obtain ⟨tr, s, hrun, hlast⟩ := Run.exists_of_replay hreplay
  unfold lockedLast at hlast
  split at hlast
  · rename_i x hx
    simp only [Bool.and_eq_true, decide_eq_true_eq, Option.any_eq_true] at hlast
    obtain ⟨⟨hcount, hcompares⟩, user, huser, hlocked⟩ := hlast
    have hmem : x ∈ tr := List.mem_of_getLast? hx
    have hstart : ∀ user ∈ AuthState.fresh.db.users,
        user.failedLoginAttempts < env.settings.accountLockoutThreshold ∨ user.lockedUntil.isSome :=
      fun user hu => absurd hu (Table.not_mem_empty user)
    exact ⟨tr, s, x, hrun, hmem, hcount,
      (lockout_bounds_failures (by decide) hstart hrun alice).2 x hmem hcompares user huser hlocked⟩
  · cases hlast

end LockedOut

end RatingLift
