import RatingLift.Auth.AccountWrites

/-!
# The MFA flags of a user

MFA should only be enabled while a channel is verified, and a channel or an authenticator app only verified
while it is configured.  Every operation keeps the second part; `add_mfa_channel` breaks the first when it
takes away the only verified channel of a user with MFA, so that the flags are coherent in a run exactly when
no request does that (`mfa_coherent_iff`).
-/

namespace RatingLift

open Library

structure MfaCoherent (user : User) : Prop where
  enabled : user.mfaEnabled = true → user.mfaEmailVerified = true ∨ user.mfaPhoneVerified = true
  email : user.mfaEmailVerified = true → user.mfaEmail.any (· ≠ "") = true
  phone : user.mfaPhoneVerified = true → user.mfaPhone.any (· ≠ "") = true
  totp : user.totpVerified = true → user.totpSecret.any (· ≠ "") = true

/-- The channel that a request about `channel` does not touch is verified. -/
def otherVerified (user : User) (channel : String) : Bool :=
  if channel = "email" then user.mfaPhoneVerified else user.mfaEmailVerified

section

variable {τ : Type} (env : AuthEnv τ)

/-- A request that adds a channel finds MFA disabled or the other channel verified. -/
def keepsAChannel (x : AuthStep) : Bool :=
  match x.label.request with
  | .addMfaChannel userId channel destination =>
    (x.before.db.users.find? userId).all fun user =>
      !(channelChange env user channel destination).isOk || !user.mfaEnabled || otherVerified user channel
  | _ => true

variable {env} {s : AuthState} {draw : AuthDraw} {db : Db}

/-- What adding a channel does to the flags. -/
theorem channelChange_flags {user row : User} {channel destination purpose : String}
    {deliver : String → Delivery}
    (h : channelChange env user channel destination = .ok (row, purpose, deliver)) :
    row.mfaEnabled = user.mfaEnabled ∧ row.totpVerified = user.totpVerified ∧
    row.totpSecret = user.totpSecret ∧
      ((channel = "email" ∧ row.mfaEmailVerified = false ∧ row.mfaPhoneVerified = user.mfaPhoneVerified ∧
          row.mfaPhone = user.mfaPhone) ∨
        (channel = "phone" ∧ row.mfaPhoneVerified = false ∧ row.mfaEmailVerified = user.mfaEmailVerified ∧
          row.mfaEmail = user.mfaEmail)) := by
  rcases channelChange_cases h with ⟨hchannel, _, rfl⟩ | ⟨hchannel, _, rfl⟩
  · exact ⟨rfl, rfl, rfl, Or.inl ⟨hchannel, rfl, rfl, rfl⟩⟩
  · exact ⟨rfl, rfl, rfl, Or.inr ⟨hchannel, rfl, rfl, rfl⟩⟩

/-- Of a user with MFA the change leaves a verified channel exactly when the other channel is verified. -/
theorem channelChange_verified {user row : User} {channel destination purpose : String}
    {deliver : String → Delivery}
    (h : channelChange env user channel destination = .ok (row, purpose, deliver)) :
    row.mfaEmailVerified = true ∨ row.mfaPhoneVerified = true ↔ otherVerified user channel = true := by
  obtain ⟨_, _, _, ⟨rfl, hself, hother, _⟩ | ⟨rfl, hself, hother, _⟩⟩ := channelChange_flags h
  · simp [otherVerified, hself, hother]
  · simp [otherVerified, hself, hother]

theorem MfaCoherent.channelAdded {user row : User} {channel destination purpose : String}
    {deliver : String → Delivery} (hu : MfaCoherent user)
    (h : channelChange env user channel destination = .ok (row, purpose, deliver))
    (hkeeps : user.mfaEnabled = true → otherVerified user channel = true) : MfaCoherent row := by
  obtain ⟨henabled, htotp, hsecret, hchannels⟩ := channelChange_flags h
  have hmfa : row.mfaEnabled = true → row.mfaEmailVerified = true ∨ row.mfaPhoneVerified = true := fun hrow =>
    (channelChange_verified h).mpr (hkeeps (henabled ▸ hrow))
  have happ : row.totpVerified = true → row.totpSecret.any (· ≠ "") = true := by
    rw [htotp, hsecret]
    exact hu.totp
  rcases hchannels with ⟨_, hself, hother, hdest⟩ | ⟨_, hself, hother, hdest⟩
  · refine ⟨hmfa, ?_, by rw [hother, hdest]; exact hu.phone, happ⟩
    intro hverified
    rw [hself] at hverified
    cases hverified
  · refine ⟨hmfa, by rw [hother, hdest]; exact hu.email, ?_, happ⟩
    intro hverified
    rw [hself] at hverified
    cases hverified

theorem MfaCoherent.channelVerified {user : User} {channel purpose : String} (hu : MfaCoherent user)
    (h : channelPurpose user channel = .ok purpose) : MfaCoherent (markVerified user channel) := by
  unfold channelPurpose at h
  unfold markVerified
  by_cases hemail : channel = "email"
  · simp only [hemail, ↓reduceIte] at h ⊢
    split at h
    · rename_i hset
      exact ⟨fun _ => Or.inl rfl, fun _ => hset, hu.phone, hu.totp⟩
    · cases h
  · simp only [hemail, ↓reduceIte] at h ⊢
    split at h
    · split at h
      · rename_i hset
        exact ⟨fun _ => Or.inr rfl, hu.email, fun _ => hset, hu.totp⟩
      · cases h
    · cases h

/-- A change of a row keeps the flags coherent, unless it takes away the only verified channel. -/
theorem RowChange.mfaCoherent {user row : User} {req : AuthRequest} (h : RowChange env s draw db user req row)
    (hu : MfaCoherent user)
    (hkeeps : ∀ channel destination, req = .addMfaChannel user.id channel destination →
      (channelChange env user channel destination).isOk = true → user.mfaEnabled = true →
        otherVerified user channel = true) :
    MfaCoherent row := by
  -- clearing a lock or counting a failure touches none of the flags
  have hcleared : MfaCoherent (clearLock user) := by
    unfold clearLock
    split
    · exact hu
    · exact ⟨hu.enabled, hu.email, hu.phone, hu.totp⟩
  cases h with
  | failed _ =>
    unfold countFailure
    extract_lets counted
    split <;> exact ⟨hcleared.enabled, hcleared.email, hcleared.phone, hcleared.totp⟩
  | challenged _ => exact hcleared
  | channelAdded hchange =>
    exact hu.channelAdded hchange fun henabled => hkeeps _ _ rfl (by rw [hchange]; rfl) henabled
  | channelVerified hpurpose => exact hu.channelVerified hpurpose
  | mfaEnabled hverified => exact ⟨fun _ => by simpa using hverified, hu.email, hu.phone, hu.totp⟩
  | mfaDisabled => exact ⟨fun hfalse => (by cases hfalse), hu.email, hu.phone, hu.totp⟩
  | totpSetup => exact ⟨hu.enabled, hu.email, hu.phone, fun hfalse => by cases hfalse⟩
  | totpVerified hsecret => exact ⟨hu.enabled, hu.email, hu.phone, fun _ => hsecret⟩
  | _ => exact ⟨hu.enabled, hu.email, hu.phone, hu.totp⟩

/-- A new user has neither MFA nor channels. -/
theorem Created.mfaCoherent {row : User} {req : AuthRequest} (h : Created env s draw req row) :
    MfaCoherent row := by
  cases h <;> exact ⟨nofun, nofun, nofun, nofun⟩

variable {s₀ : AuthState} {tr : List AuthStep}

/-- One step keeps the flags coherent. -/
theorem AuthRun.mfaCoherent_step (h : AuthRun env s₀ tr s) {x : AuthStep} (hx : x ∈ tr)
    (hkeeps : keepsAChannel env x = true) (hbefore : ∀ user ∈ x.before.db.users, MfaCoherent user) :
    ∀ user ∈ x.after.db.users, MfaCoherent user := by
  obtain ⟨hwrite, hfresh⟩ := h.step_users hx
  refine hwrite.forall_users hfresh (fun row hcreated => hcreated.mfaCoherent) ?_ hbefore
  intro user row huser hchange hu
  refine hchange.mfaCoherent hu ?_
  intro channel destination hreq hok henabled
  unfold keepsAChannel at hkeeps
  rw [hreq] at hkeeps
  dsimp only at hkeeps
  rw [huser] at hkeeps
  simpa [hok, henabled] using hkeeps

/-- A step that takes away the only verified channel of a user with MFA leaves flags that are not coherent. -/
theorem AuthRun.keepsAChannel_of_coherent (h : AuthRun env s₀ tr s) {x : AuthStep} (hx : x ∈ tr)
    (hafter : ∀ user ∈ x.after.db.users, MfaCoherent user) : keepsAChannel env x = true := by
  unfold keepsAChannel
  cases hreq : x.label.request with
  | addMfaChannel userId channel destination =>
    dsimp only
    cases huser : x.before.db.users.find? userId with
    | none => rfl
    | some user =>
      rw [Option.all_some]
      cases hchange : channelChange env user channel destination with
      | error e => rfl
      | ok change =>
        obtain ⟨row, purpose, deliver⟩ := change
        have hstored : x.before.db.users.find? row.id = some user := by
          rw [channelChange_id hchange, show user.id = userId from (Table.find?_some huser).2, huser]
        have husers : x.after.db.users = x.before.db.users.update row := by
          rw [← h.after_eq hx, hreq]
          show (withUser x.before userId _).1.db.users = _
          unfold withUser addMfaChannel
          rw [huser]
          dsimp only
          rw [hchange]
          rfl
        have hrow : row ∈ x.after.db.users := by
          rw [husers]
          exact (Table.find?_some (Table.find?_update_of_find? hstored)).1
        have hmfa := (hafter row hrow).enabled
        rw [(channelChange_flags hchange).1, channelChange_verified hchange] at hmfa
        cases henabled : user.mfaEnabled with
        | false => simp
        | true => simp [hmfa henabled]
  | _ => rfl

/-- In a run the MFA flags are coherent in every state exactly when no request takes away the only verified
channel of a user with MFA. -/
theorem mfa_coherent_iff (h : AuthRun env s₀ tr s) (hstart : ∀ user ∈ s₀.db.users, MfaCoherent user) :
    (∀ x ∈ tr, ∀ user ∈ x.after.db.users, MfaCoherent user) ↔ ∀ x ∈ tr, keepsAChannel env x = true := by
  constructor
  · exact fun hcoherent x hx => h.keepsAChannel_of_coherent hx (hcoherent x hx)
  · intro hkeeps
    exact Run.forall_steps (p := fun s => ∀ user ∈ s.db.users, MfaCoherent user) h hstart fun x hx hbefore =>
      h.mfaCoherent_step hx (hkeeps x hx) hbefore

end

/-! ### Changing the address of the only channel -/

namespace ChannelChange

def env : AuthEnv String := .sample ⟨fun _ secret => secret, fun _ _ _ => .invalid⟩

def alice : Uuid := .ofNat 201

/-- Alice signs up, verifies an address for codes, and enables MFA. -/
def mfaSetup : List AuthCall :=
  [⟨.signup ⟨"alice@example.com", "Passw0rd", none, none, .OWNER, .unknown⟩, .numbered 1⟩,
    ⟨.addMfaChannel alice "email" "alice@example.com", .numbered 2⟩,
    ⟨.verifyMfaChannel alice "email" "100002", .numbered 3⟩,
    ⟨.enableMfa alice, .numbered 4⟩]

private theorem no_users (user : User) (h : user ∈ AuthState.fresh.db.users) : MfaCoherent user :=
  absurd h (Table.not_mem_empty user)

/-- Then she gives a new address. -/
theorem mfa_without_channel :
    ∃ tr s, AuthRun env .fresh tr s ∧ ¬ ∀ x ∈ tr, ∀ user ∈ x.after.db.users, MfaCoherent user := by
  have hreplay : (Run.replay (serveCall env) FreshDraw .fresh
      (mfaSetup ++ [⟨.addMfaChannel alice "email" "new@example.com", .numbered 5⟩])).map
      (fun r => r.1.any fun x => (x.after.db.users.find? alice).any fun user =>
        user.mfaEnabled && !user.mfaEmailVerified && !user.mfaPhoneVerified) = some true := by decide +kernel
  obtain ⟨tr, s, hrun, hcheck⟩ := Run.exists_of_replay hreplay
  refine ⟨tr, s, hrun, ?_⟩
  intro hcoherent
  obtain ⟨x, hx, hbroken⟩ := List.any_eq_true.mp hcheck
  obtain ⟨user, huser, hflags⟩ := (Option.any_eq_true _ _).mp hbroken
  simp only [Bool.and_eq_true, Bool.not_eq_true'] at hflags
  rcases (hcoherent x hx user (Table.find?_some huser).1).enabled hflags.1.1 with hemail | hphone
  · rw [hflags.1.2] at hemail; cases hemail
  · rw [hflags.2] at hphone; cases hphone

/-- With a verified phone beside it she may change the address. -/
theorem mfa_with_two_channels :
    ∃ tr s, AuthRun env .fresh tr s ∧ tr.length = 7 ∧ ∀ x ∈ tr, ∀ user ∈ x.after.db.users,
    MfaCoherent user := by
  have hreplay : (Run.replay (serveCall env) FreshDraw .fresh (mfaSetup ++
      [⟨.addMfaChannel alice "phone" "+386 1 555", .numbered 5⟩,
        ⟨.verifyMfaChannel alice "phone" "100005", .numbered 6⟩,
        ⟨.addMfaChannel alice "email" "new@example.com", .numbered 7⟩])).map
      (fun r => decide (r.1.length = 7) && r.1.all (keepsAChannel env)) = some true := by decide +kernel
  obtain ⟨tr, s, hrun, hcheck⟩ := Run.exists_of_replay hreplay
  rw [Bool.and_eq_true, decide_eq_true_eq, List.all_eq_true] at hcheck
  exact ⟨tr, s, hrun, hcheck.1, (mfa_coherent_iff hrun no_users).mpr hcheck.2⟩

end ChannelChange

end RatingLift
