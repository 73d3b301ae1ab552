import Mathlib.Data.Fintype.Basic
import RatingLift.Auth.Effects
import RatingLift.Auth.MfaRequests

/-!
# Verified destinations

When do `mfa_email_verified`, `mfa_phone_verified` and `totp_verified` tell the truth, whatever the order in
which the workers take their steps?  The OTP key of a channel does not name the destination, the OTP is stored
before the destination is committed, and an `UPDATE` leaves a flag alone that the request loaded unset.

* (`destinations_proved`) as long as the steps are taken in order (`InOrder`), a destination that is marked
  verified has received an OTP that was submitted, and a code of the secret was submitted when that is marked
  verified;
* (`Interrupted.unproved_destination`) an `add_mfa_channel` between the check of an OTP and the commit of
  `verify_mfa_channel` leaves an address verified that never received an OTP that was submitted.
-/

namespace RatingLift

open Library

section

variable {τ : Type} {env : AuthEnv τ} {user written : User} {channel : MfaChannelType} {purpose dest : String}
  {deliver : String → Delivery}

/-! ### Steps in order -/

/-- The request has stored this OTP for the channel and has yet to commit. -/
def MfaLocal.holds (channel : MfaChannelType) (value : RedisValue) : MfaLocal → Bool
  | .stored channel' otp _ _ => channel' == channel && .text otp == value
  | _ => false

/-- The request has accepted an OTP for the channel and has yet to mark the destination verified. -/
def MfaLocal.checking (channel : MfaChannelType) : MfaLocal → Bool
  | .accepted channel' _ _ user => channel' == channel && !channel.verified user
  | .used channel' _ user => channel' == channel && !channel.verified user
  | _ => false

section

variable {π : Type}

/-- An `add_mfa_channel` commits in order: no request has accepted an OTP and will mark another destination
verified; the stored OTP, if any, is its own or of a request that has yet to commit; and since it loaded the
row, no other commit has marked another destination verified, or changed a destination that it leaves as it
is. -/
structure AddInOrder (c : Config π UserState MfaLocal) (channel : MfaChannelType) (otp : String)
    (user written : User) :
    Prop where
  unchecked : ∀ q, (c.locals q).checking channel = true →
    channel.destination written = channel.destination c.shared.row
  latest : ∀ e ∈ c.shared.redis (.otp channel.purpose c.shared.row.id), e.value = .text otp ∨
    ∃ q, (c.locals q).holds channel e.value = true
  flag : channel.verified c.shared.row = true →
    channel.verified user = true ∨ channel.destination written = channel.destination c.shared.row
  destination : channel.destination written = channel.destination user →
    channel.destination c.shared.row = channel.destination user

/-- A step is taken in order.  An OTP is only accepted when the `add_mfa_channel` that stored it has
committed, and `add_mfa_channel` commits in order; a commit of `setup_totp` finds no secret that was verified
since it loaded the row, and one of `verify_totp` finds the secret that it loaded. -/
def InOrder (c : Config π UserState MfaLocal) : MfaAction → MfaLocal → Prop
  | .check now, .loaded (.verifyChannel channel otp) user =>
    c.shared.redis.get now (.otp channel.purpose user.id) = some (.text otp) →
      ∀ q, (c.locals q).holds channel (.text otp) = false
  | .commit, .stored channel otp user written => AddInOrder c channel otp user written
  | .commit, .loaded (.setupTotp _) user => c.shared.row.totpVerified = true → user.totpVerified = true
  | .commit, .codeAccepted _ user => user.totpVerified = false → c.shared.row.totpSecret = user.totpSecret
  | _, _ => True

instance [Fintype π] (c : Config π UserState MfaLocal) (channel : MfaChannelType) (otp : String)
    (user written : User) : Decidable (AddInOrder c channel otp user written) :=
  decidable_of_iff ((∀ q, (c.locals q).checking channel = true →
      channel.destination written = channel.destination c.shared.row) ∧
    (∀ e ∈ c.shared.redis (.otp channel.purpose c.shared.row.id), e.value = .text otp ∨
      ∃ q, (c.locals q).holds channel e.value = true) ∧
    (channel.verified c.shared.row = true →
      channel.verified user = true ∨ channel.destination written = channel.destination c.shared.row) ∧
    (channel.destination written = channel.destination user →
      channel.destination c.shared.row = channel.destination user))
    ⟨fun ⟨h₁, h₂, h₃, h₄⟩ => ⟨h₁, h₂, h₃, h₄⟩, fun ⟨h₁, h₂, h₃, h₄⟩ => ⟨h₁, h₂, h₃, h₄⟩⟩

instance [Fintype π] (c : Config π UserState MfaLocal) (a : MfaAction) (m : MfaLocal) :
    Decidable (InOrder c a m) := by
  unfold InOrder
  split <;> infer_instance

abbrev MfaStep (π : Type) := Step (Config π UserState MfaLocal) (π × MfaAction)

/-- A request with this call was made. -/
def Submitted (tr : List (MfaStep π)) (call : MfaCall) : Prop := ∃ step ∈ tr, step.label.2 = .load call

variable (env) in
/-- An OTP was delivered to the current destination of the channel. -/
def SentTo (s : UserState) (channel : MfaChannelType) (otp : String) : Prop :=
  ∃ dest, channel.destination s.row = some (channel.stored env dest) ∧ channel.message dest otp ∈ s.outbox

variable (env) in
/-- A destination that is marked verified has received an OTP that was submitted, and a code of the secret was
submitted when the secret is marked verified. -/
structure DestinationsProved (tr : List (MfaStep π)) (s : UserState) : Prop where
  channel : ∀ channel : MfaChannelType, channel.verified s.row = true →
    ∃ otp, SentTo env s channel otp ∧ Submitted tr (.verifyChannel channel otp)
  totp : s.row.totpVerified = true → ∃ secret code now, s.row.totpSecret = some secret ∧
    totpVerify env now secret code = true ∧ Submitted tr (.verifyTotp code)

/-! ### Invariants -/

variable (env) in
/-- The stored OTP of a channel was sent to its destination, or the request that stored it has yet to
commit. -/
def KeysOk (c : Config π UserState MfaLocal) : Prop :=
  ∀ channel : MfaChannelType, ∀ e ∈ c.shared.redis (.otp channel.purpose c.shared.row.id),
    (∃ q, (c.locals q).holds channel e.value = true) ∨ ∃ otp, e.value = .text otp ∧
    SentTo env c.shared channel otp

variable (env) in
/-- What a request knows. -/
def LocalOk (tr : List (MfaStep π)) (s : UserState) : MfaLocal → Prop
  | .idle => True
  | .loaded call user => user.id = s.row.id ∧ Submitted tr call
  | .stored channel otp user written => user.id = s.row.id ∧
    (∃ dest, channel.destination written = some (channel.stored env dest) ∧
      channel.message dest otp ∈ s.outbox) ∧
    channel.verified written = false ∧
    (∀ other, other ≠ channel → other.destination written = other.destination user ∧
      other.verified written = other.verified user) ∧
    written.totpSecret = user.totpSecret ∧ written.totpVerified = user.totpVerified
  | .accepted channel purpose otp user => user.id = s.row.id ∧ purpose = channel.purpose ∧
    Submitted tr (.verifyChannel channel otp) ∧ (channel.verified user = false → SentTo env s channel otp)
  | .used channel otp user =>
    Submitted tr (.verifyChannel channel otp) ∧ (channel.verified user = false → SentTo env s channel otp)
  | .codeAccepted code user => Submitted tr (.verifyTotp code) ∧
    ∃ secret now, user.totpSecret = some secret ∧ totpVerify env now secret code = true
  | .done => True

variable {tr : List (MfaStep π)} {x : MfaStep π} {u u' : UserState} {m : MfaLocal} {otp : String}
  {call : MfaCall}

theorem Submitted.concat (h : Submitted tr call) : Submitted (tr ++ [x]) call := by
  obtain ⟨step, hstep, hlabel⟩ := h
  exact ⟨step, List.mem_append_left _ hstep, hlabel⟩

theorem SentTo.mono (h : SentTo env u channel otp)
    (hdest : channel.destination u'.row = channel.destination u.row) (hout : u.outbox ⊆ u'.outbox) :
    SentTo env u' channel otp := by
  obtain ⟨dest, hstored, hsent⟩ := h
  exact ⟨dest, hdest.trans hstored, hout hsent⟩

/-- What a request knows stays true while the destination of a channel that it is checking stays. -/
theorem LocalOk.mono (h : LocalOk env tr u m) (hid : u'.row.id = u.row.id) (hout : u.outbox ⊆ u'.outbox)
    (hdest : ∀ channel, m.checking channel = true → channel.destination u'.row = channel.destination u.row) :
    LocalOk env (tr ++ [x]) u' m := by
  cases m with
  | idle => trivial
  | done => trivial
  | loaded call user => exact ⟨h.1.trans hid.symm, h.2.concat⟩
  | stored channel otp user written =>
    obtain ⟨huser, ⟨dest, hstored, hsent⟩, hrest⟩ := h
    exact ⟨huser.trans hid.symm, ⟨dest, hstored, hout hsent⟩, hrest⟩
  | accepted channel purpose otp user =>
    obtain ⟨huser, hpurpose, hsubmitted, hsent⟩ := h
    refine ⟨huser.trans hid.symm, hpurpose, hsubmitted.concat, ?_⟩
    intro hflag
    exact (hsent hflag).mono (hdest channel (by simp [MfaLocal.checking, hflag])) hout
  | used channel otp user =>
    obtain ⟨hsubmitted, hsent⟩ := h
    refine ⟨hsubmitted.concat, ?_⟩
    intro hflag
    exact (hsent hflag).mono (hdest channel (by simp [MfaLocal.checking, hflag])) hout
  | codeAccepted code user => exact ⟨h.1.concat, h.2⟩

/-- The property stays true while the row stays. -/
theorem DestinationsProved.mono (h : DestinationsProved env tr u) (hrow : u'.row = u.row)
    (hout : u.outbox ⊆ u'.outbox) : DestinationsProved env (tr ++ [x]) u' := by
  constructor
  · intro channel hverified
    rw [hrow] at hverified
    obtain ⟨otp, hsent, hsubmitted⟩ := h.channel channel hverified
    exact ⟨otp, hsent.mono (by rw [hrow]) hout, hsubmitted.concat⟩
  · intro hverified
    rw [hrow] at hverified ⊢
    obtain ⟨secret, code, now, hsecret, hcode, hsubmitted⟩ := h.totp hverified
    exact ⟨secret, code, now, hsecret, hcode, hsubmitted.concat⟩

/-- A flush that writes neither a destination nor a flag of a channel. -/
private theorem channels_flush {user written stored : User}
    (hdest : ∀ channel : MfaChannelType, channel.destination written = channel.destination user)
    (hflag : ∀ channel : MfaChannelType, channel.verified written = channel.verified user)
    (channel : MfaChannelType) :
    channel.destination (user.flush written stored) = channel.destination stored ∧
      channel.verified (user.flush written stored) = channel.verified stored := by
  rw [MfaChannelType.destination_flush, MfaChannelType.verified_flush, hdest, hflag, flushColumn_same,
    flushColumn_same]
  exact ⟨rfl, rfl⟩

/-! ### What a step keeps -/

variable [DecidableEq π] {c : Config π UserState MfaLocal} {p : π}

theorem KeysOk.act (h : KeysOk env c) (hid : u.row.id = c.shared.row.id)
    (hdest : ∀ channel : MfaChannelType, channel.destination u.row = channel.destination c.shared.row)
    (hout : c.shared.outbox ⊆ u.outbox) (hredis : ∀ k, ∀ e ∈ u.redis k, e ∈ c.shared.redis k)
    (hholds : ∀ channel value, (c.locals p).holds channel value = false) : KeysOk env (c.act p m u) := by
  intro channel e he
  rw [Config.act_shared, hid] at he
  rcases h channel e (hredis _ e he) with ⟨q, hq⟩ | ⟨otp, hvalue, hsent⟩
  · have hne : q ≠ p := fun heq => by rw [heq, hholds] at hq; cases hq
    exact Or.inl ⟨q, by rw [Config.act_locals_of_ne hne]; exact hq⟩
  · exact Or.inr ⟨otp, hvalue, hsent.mono (hdest channel) hout⟩

variable (env) in
/-- The step of `p` to the local state `m` and the shared state `u` keeps the property and the invariants. -/
structure StepKeeps (tr : List (MfaStep π)) (x : MfaStep π) (c : Config π UserState MfaLocal) (p : π)
    (m : MfaLocal) (u : UserState) : Prop where
  proved : DestinationsProved env (tr ++ [x]) u
  keys : KeysOk env (c.act p m u)
  own : LocalOk env (tr ++ [x]) u m
  others : ∀ q, q ≠ p → LocalOk env (tr ++ [x]) u (c.locals q)

section

variable (hproved : DestinationsProved env tr c.shared) (hkeys : KeysOk env c)
  (hlocals : ∀ q, LocalOk env tr c.shared (c.locals q))
include hproved hkeys hlocals

/-- A step that leaves the row, sends and stores nothing, and was not taken by a request that holds an OTP. -/
theorem stepKeeps_of_row (hrow : u.row = c.shared.row) (hout : c.shared.outbox ⊆ u.outbox)
    (hredis : ∀ k, ∀ e ∈ u.redis k, e ∈ c.shared.redis k)
    (hholds : ∀ channel value, (c.locals p).holds channel value = false)
    (hown : LocalOk env (tr ++ [x]) u m) :
    StepKeeps env tr x c p m u where
  proved := hproved.mono hrow hout
  keys := hkeys.act (by rw [hrow]) (fun _ => by rw [hrow]) hout hredis hholds
  own := hown
  others q _ := (hlocals q).mono (by rw [hrow]) hout fun _ _ => by rw [hrow]

/-- `add_mfa_channel` stores its OTP. -/
theorem stepKeeps_store {user written : User} {now : Instant}
    (hlocal : c.locals p = .loaded (.addChannel channel dest otp) user)
    (hchange : channelChange env user channel.value dest = .ok (written, purpose, deliver)) :
    StepKeeps env tr x c p (.stored channel otp user written)
      ⟨c.shared.row,
        c.shared.redis.setex now (seconds env.settings.mfaOtpTtlSeconds) (.otp purpose user.id) (.text otp),
        c.shared.outbox ++ [deliver otp]⟩ := by
  obtain ⟨rfl, rfl, _, hdest, hflag, hother, hsecret, htotp⟩ := channelChange_ok hchange
  have hid : user.id = c.shared.row.id := by
    have := hlocals p
    rw [hlocal] at this
    exact this.1
  have hout : c.shared.outbox ⊆ c.shared.outbox ++ [channel.message (Py.strip dest) otp] :=
    List.subset_append_left _ _
  refine ⟨hproved.mono rfl hout, ?_, ?_, fun q _ => (hlocals q).mono rfl hout fun _ _ => rfl⟩
  · intro channel' e he
    rcases ExpiringStore.mem_setex.mp he with ⟨hkey, rfl⟩ | ⟨_, hold⟩
    · obtain rfl := MfaChannelType.purpose_injective (RedisKey.otp.inj hkey).1
      exact Or.inl ⟨p, by rw [Config.act_locals_self]; simp [MfaLocal.holds]⟩
    · rcases hkeys channel' e hold with ⟨q, hq⟩ | ⟨otp', hvalue, hsent⟩
      · have hne : q ≠ p := fun heq => by rw [heq, hlocal] at hq; cases hq
        exact Or.inl ⟨q, by rw [Config.act_locals_of_ne hne]; exact hq⟩
      · exact Or.inr ⟨otp', hvalue, hsent.mono rfl hout⟩
  · exact ⟨hid, ⟨Py.strip dest, hdest, by simp⟩, hflag, hother, hsecret, htotp⟩

/-- `add_mfa_channel` commits. -/
theorem stepKeeps_add {user written : User} (hlocal : c.locals p = .stored channel otp user written)
    (horder : AddInOrder c channel otp user written) :
    StepKeeps env tr x c p .done ⟨user.flush written c.shared.row, c.shared.redis, c.shared.outbox⟩ := by
  have hown := hlocals p
  rw [hlocal] at hown
  obtain ⟨_, ⟨dest, hdest, hsent⟩, hflag, hother, hsecret, htotp⟩ := hown
  have hwritten : channel.destination (user.flush written c.shared.row) = channel.destination written := by
    rw [MfaChannelType.destination_flush]
    unfold flushColumn
    split
    · rename_i heq
      rw [horder.destination heq, heq]
    · rfl
  have hothers : ∀ other : MfaChannelType, other ≠ channel →
      other.destination (user.flush written c.shared.row) = other.destination c.shared.row ∧
        other.verified (user.flush written c.shared.row) = other.verified c.shared.row := by
    intro other hne
    rw [MfaChannelType.destination_flush, MfaChannelType.verified_flush, (hother other hne).1,
      (hother other hne).2, flushColumn_same, flushColumn_same]
    exact ⟨rfl, rfl⟩
  have hsecretRow : (user.flush written c.shared.row).totpSecret = c.shared.row.totpSecret := by
    show flushColumn user.totpSecret written.totpSecret _ = _
    rw [hsecret, flushColumn_same]
  have htotpRow : (user.flush written c.shared.row).totpVerified = c.shared.row.totpVerified := by
    show flushColumn user.totpVerified written.totpVerified _ = _
    rw [htotp, flushColumn_same]
  have hout : c.shared.outbox ⊆ c.shared.outbox := List.Subset.refl _
  refine ⟨⟨?_, ?_⟩, ?_, trivial, ?_⟩
  · intro other hverified
    by_cases hne : other = channel
    · subst hne
      -- the flag survives only if the request loaded it unset, and then the destination is the old one
      rw [MfaChannelType.verified_flush, hflag] at hverified
      unfold flushColumn at hverified
      split at hverified
      · rename_i hunset
        have hsame : other.destination written = other.destination c.shared.row :=
          (horder.flag hverified).resolve_left fun hset => by rw [hset] at hunset; cases hunset
        obtain ⟨otp', hsent', hsubmitted⟩ := hproved.channel other hverified
        exact ⟨otp', hsent'.mono (hwritten.trans hsame) hout, hsubmitted.concat⟩
      · cases hverified
    · obtain ⟨hdestSame, hflagSame⟩ := hothers other hne
      rw [hflagSame] at hverified
      obtain ⟨otp', hsent', hsubmitted⟩ := hproved.channel other hverified
      exact ⟨otp', hsent'.mono hdestSame hout, hsubmitted.concat⟩
  · intro hverified
    rw [htotpRow] at hverified
    rw [hsecretRow]
    obtain ⟨secret, code, now, hstored, hcode, hsubmitted⟩ := hproved.totp hverified
    exact ⟨secret, code, now, hstored, hcode, hsubmitted.concat⟩
  · intro other e he
    by_cases hne : other = channel
    · subst hne
      have hownSent :
          SentTo env ⟨user.flush written c.shared.row, c.shared.redis, c.shared.outbox⟩ other otp :=
        ⟨dest, hwritten.trans hdest, hsent⟩
      rcases horder.latest e he with hself | ⟨q, hq⟩
      · exact Or.inr ⟨otp, hself, hownSent⟩
      · by_cases hqp : q = p
        · rw [hqp, hlocal] at hq
          simp only [MfaLocal.holds, beq_self_eq_true, Bool.true_and, beq_iff_eq] at hq
          exact Or.inr ⟨otp, hq.symm, hownSent⟩
        · exact Or.inl ⟨q, by rw [Config.act_locals_of_ne hqp]; exact hq⟩
    · rcases hkeys other e he with ⟨q, hq⟩ | ⟨otp', hvalue, hsent'⟩
      · have hqp : q ≠ p := by
          intro heq
          rw [heq, hlocal] at hq
          simp only [MfaLocal.holds, Bool.and_eq_true, beq_iff_eq] at hq
          exact hne hq.1.symm
        exact Or.inl ⟨q, by rw [Config.act_locals_of_ne hqp]; exact hq⟩
      · exact Or.inr ⟨otp', hvalue, hsent'.mono (hothers other hne).1 hout⟩
  · intro q _
    refine (hlocals q).mono rfl hout ?_
    intro other hchecking
    by_cases hne : other = channel
    · subst hne
      exact hwritten.trans (horder.unchecked q hchecking)
    · exact (hothers other hne).1

omit hproved in
/-- A commit that keeps the destinations. -/
theorem stepKeeps_commit {row : User} (hid : row.id = c.shared.row.id)
    (hdest : ∀ channel : MfaChannelType, channel.destination row = channel.destination c.shared.row)
    (hholds : ∀ channel value, (c.locals p).holds channel value = false)
    (hrow : DestinationsProved env (tr ++ [x]) ⟨row, c.shared.redis, c.shared.outbox⟩) :
    StepKeeps env tr x c p .done ⟨row, c.shared.redis, c.shared.outbox⟩ where
  proved := hrow
  keys := hkeys.act hid hdest (List.Subset.refl _) (fun _ _ he => he) hholds
  own := trivial
  others q _ := (hlocals q).mono hid (List.Subset.refl _) fun channel _ => hdest channel

/-- `verify_mfa_channel` commits. -/
theorem stepKeeps_verified {user : User} (hlocal : c.locals p = .used channel otp user) :
    StepKeeps env tr x c p .done
      ⟨user.flush (markVerified user channel.value) c.shared.row, c.shared.redis, c.shared.outbox⟩ := by
  have hown := hlocals p
  rw [hlocal] at hown
  obtain ⟨hsubmitted, hsent⟩ := hown
  have hdest : ∀ other : MfaChannelType,
      other.destination (user.flush (markVerified user channel.value) c.shared.row) =
      other.destination c.shared.row := by
    intro other
    rw [MfaChannelType.destination_flush, markVerified_destination, flushColumn_same]
  have hout : c.shared.outbox ⊆ c.shared.outbox := List.Subset.refl _
  refine stepKeeps_commit hkeys hlocals rfl hdest (fun _ _ => by rw [hlocal]; rfl)
    ⟨fun other hverified => ?_, ?_⟩
  · have kept : other.verified c.shared.row = true →
        ∃ otp, SentTo env ⟨user.flush (markVerified user channel.value) c.shared.row, c.shared.redis,
          c.shared.outbox⟩
          other otp ∧ Submitted (tr ++ [x]) (.verifyChannel other otp) := by
      intro hverified
      obtain ⟨otp', hsent', hsubmitted'⟩ := hproved.channel other hverified
      exact ⟨otp', hsent'.mono (hdest other) hout, hsubmitted'.concat⟩
    rw [MfaChannelType.verified_flush, markVerified_verified] at hverified
    by_cases hsame : other = channel
    · subst hsame
      cases hflag : other.verified user with
      | false => exact ⟨otp, (hsent hflag).mono (hdest other) hout, hsubmitted.concat⟩
      | true =>
        rw [hflag, if_pos rfl, flushColumn_same] at hverified
        exact kept hverified
    · rw [if_neg hsame, flushColumn_same] at hverified
      exact kept hverified
  · obtain ⟨hsecret, htotp⟩ : (user.flush (markVerified user channel.value) c.shared.row).totpSecret =
          c.shared.row.totpSecret ∧
        (user.flush (markVerified user channel.value) c.shared.row).totpVerified =
          c.shared.row.totpVerified := by
      constructor
      · show flushColumn user.totpSecret (markVerified user channel.value).totpSecret _ = _
        rw [markVerified_totp.1, flushColumn_same]
      · show flushColumn user.totpVerified (markVerified user channel.value).totpVerified _ = _
        rw [markVerified_totp.2, flushColumn_same]
    intro hverified
    obtain ⟨secret, code, now, hstored, hcode, hsubmitted'⟩ := hproved.totp (htotp ▸ hverified)
    exact ⟨secret, code, now, hsecret.trans hstored, hcode, hsubmitted'.concat⟩

/-- `setup_totp` and `verify_totp` commit; only the columns of the secret change. -/
theorem stepKeeps_totp {row : User} (hid : row.id = c.shared.row.id)
    (hrow : ∀ channel : MfaChannelType, channel.destination row = channel.destination c.shared.row ∧
      channel.verified row = channel.verified c.shared.row)
    (hholds : ∀ channel value, (c.locals p).holds channel value = false)
    (htotp : row.totpVerified = true → ∃ secret code now, row.totpSecret = some secret ∧
      totpVerify env now secret code = true ∧ Submitted tr (.verifyTotp code)) :
    StepKeeps env tr x c p .done ⟨row, c.shared.redis, c.shared.outbox⟩ := by
  refine stepKeeps_commit hkeys hlocals hid (fun channel => (hrow channel).1) hholds
    ⟨fun channel hverified => ?_, ?_⟩
  · obtain ⟨otp, hsent, hsubmitted⟩ := hproved.channel channel ((hrow channel).2 ▸ hverified)
    exact ⟨otp, hsent.mono (hrow channel).1 (List.Subset.refl _), hsubmitted.concat⟩
  · intro hverified
    obtain ⟨secret, code, now, hstored, hcode, hsubmitted⟩ := htotp hverified
    exact ⟨secret, code, now, hstored, hcode, hsubmitted.concat⟩

/-- `setup_totp` commits; no secret has been verified since it loaded the row. -/
theorem stepKeeps_setupTotp {user : User} {secret : String}
    (hlocal : c.locals p = .loaded (.setupTotp secret) user)
    (horder : c.shared.row.totpVerified = true → user.totpVerified = true) :
    StepKeeps env tr x c p .done
      ⟨user.flush { user with totpSecret := some secret, totpVerified := false } c.shared.row,
      c.shared.redis, c.shared.outbox⟩ := by
  refine stepKeeps_totp hproved hkeys hlocals rfl ?_ (fun _ _ => by rw [hlocal]; rfl) ?_
  · refine channels_flush ?_ ?_
    · intro channel
      cases channel <;> rfl
    · intro channel
      cases channel <;> rfl
  · -- the flag would have to be set by now and loaded unset
    intro hverified
    have hflush : flushColumn user.totpVerified false c.shared.row.totpVerified = true := hverified
    unfold flushColumn at hflush
    split at hflush
    · rename_i hunset
      rw [horder hflush] at hunset
      cases hunset
    · cases hflush

/-- `verify_totp` commits; where it loaded the flag unset, it finds the secret that it has checked the code
against. -/
theorem stepKeeps_verifyTotp {user : User} {code : String} (hlocal : c.locals p = .codeAccepted code user)
    (horder : user.totpVerified = false → c.shared.row.totpSecret = user.totpSecret) :
    StepKeeps env tr x c p .done ⟨user.flush { user with totpVerified := true } c.shared.row, c.shared.redis,
      c.shared.outbox⟩ := by
  have hown := hlocals p
  rw [hlocal] at hown
  obtain ⟨hsubmitted, secret, now, hsecret, hcode⟩ := hown
  refine stepKeeps_totp hproved hkeys hlocals rfl ?_ (fun _ _ => by rw [hlocal]; rfl) ?_
  · refine channels_flush ?_ ?_
    · intro channel
      cases channel <;> rfl
    · intro channel
      cases channel <;> rfl
  · intro hverified
    have hstored :
        (user.flush { user with totpVerified := true } c.shared.row).totpSecret = c.shared.row.totpSecret :=
      flushColumn_same ..
    cases hflag : user.totpVerified with
    | false => exact ⟨secret, code, now, by rw [hstored, horder hflag, hsecret], hcode, hsubmitted⟩
    | true =>
      have hflush : flushColumn user.totpVerified true c.shared.row.totpVerified = true := hverified
      rw [hflag, flushColumn_same] at hflush
      obtain ⟨secret', code', now', hstored', hcode', hsubmitted'⟩ := hproved.totp hflush
      exact ⟨secret', code', now', hstored.trans hstored', hcode', hsubmitted'⟩

omit [DecidableEq π] hproved hlocals in
/-- An OTP that is found, and that no request about to commit has stored, was sent to the destination in the
row. -/
theorem sentTo_of_get {channel : MfaChannelType} {now : Instant}
    (hget : c.shared.redis.get now (.otp channel.purpose c.shared.row.id) = some (.text otp))
    (hfree : ∀ q, (c.locals q).holds channel (.text otp) = false) : SentTo env c.shared channel otp := by
  obtain ⟨e, he, hvalue⟩ := ExpiringStore.isSome_of_get hget
  rcases hkeys channel e he with ⟨q, hq⟩ | ⟨otp', hvalue', hsent⟩
  · rw [hvalue, hfree q] at hq
    cases hq
  · rw [hvalue] at hvalue'
    obtain rfl := RedisValue.text.inj hvalue'
    exact hsent

/-- Every step that is taken in order keeps the property and the invariants. -/
theorem stepKeeps_of_inOrder {a : MfaAction} (hok : InOrder c a (c.locals p))
    (hprog : mfaProg env a (c.locals p) c.shared = some (m, u)) :
    StepKeeps env tr ⟨c, (p, a), c.act p m u⟩ c p m u := by
  have hown := hlocals p
  have hsubset : c.shared.outbox ⊆ c.shared.outbox := List.Subset.refl _
  generalize hlocal : c.locals p = before at hok hprog hown
  have silent : ∀ {x m u}, u.row = c.shared.row → c.shared.outbox ⊆ u.outbox →
      (∀ k, ∀ e ∈ u.redis k, e ∈ c.shared.redis k) → (∀ channel value, before.holds channel value = false) →
      LocalOk env (tr ++ [x]) u m → StepKeeps env tr x c p m u := fun hrow hout hredis hholds hown =>
    stepKeeps_of_row hproved hkeys hlocals hrow hout hredis (by rw [hlocal]; exact hholds) hown
  unfold mfaProg at hprog
  split at hprog
  · -- load
    rename_i call
    obtain ⟨rfl, rfl⟩ := Prod.mk.inj (Option.some.inj hprog)
    refine silent rfl hsubset (fun _ _ he => he) (fun _ _ => rfl) ⟨rfl, ?_⟩
    exact ⟨_, List.mem_append_right _ (List.mem_singleton.mpr rfl), rfl⟩
  · -- store
    rename_i now channel dest otp user
    split at hprog
    · obtain ⟨rfl, rfl⟩ := Prod.mk.inj (Option.some.inj hprog)
      exact silent rfl hsubset (fun _ _ he => he) (fun _ _ => rfl) trivial
    · rename_i hchange
      obtain ⟨rfl, rfl⟩ := Prod.mk.inj (Option.some.inj hprog)
      exact stepKeeps_store hproved hkeys hlocals hlocal hchange
  · -- check of an OTP
    rename_i now channel otp user
    split at hprog
    · obtain ⟨rfl, rfl⟩ := Prod.mk.inj (Option.some.inj hprog)
      exact silent rfl hsubset (fun _ _ he => he) (fun _ _ => rfl) trivial
    · rename_i purpose hpurpose
      obtain rfl := channelPurpose_ok hpurpose
      split at hprog
      · rename_i hget
        obtain ⟨rfl, rfl⟩ := Prod.mk.inj (Option.some.inj hprog)
        obtain ⟨hid, hsubmitted⟩ := hown
        have hsent : SentTo env c.shared channel otp := sentTo_of_get hkeys (hid ▸ hget) (hok hget)
        exact silent rfl hsubset (fun _ _ he => he) (fun _ _ => rfl)
          ⟨hid, rfl, hsubmitted.concat, fun _ => hsent.mono rfl hsubset⟩
      · obtain ⟨rfl, rfl⟩ := Prod.mk.inj (Option.some.inj hprog)
        exact silent rfl hsubset (fun _ _ he => he) (fun _ _ => rfl) trivial
  · -- check of a TOTP code
    rename_i now code user
    split at hprog
    · obtain ⟨rfl, rfl⟩ := Prod.mk.inj (Option.some.inj hprog)
      exact silent rfl hsubset (fun _ _ he => he) (fun _ _ => rfl) trivial
    · rename_i secret hsecret
      split at hprog
      · rename_i hcode
        obtain ⟨rfl, rfl⟩ := Prod.mk.inj (Option.some.inj hprog)
        have hstored : user.totpSecret = some secret := (Option.filter_eq_some_iff.mp hsecret).1
        exact silent rfl hsubset (fun _ _ he => he)
          (fun _ _ => rfl) ⟨hown.2.concat, secret, now, hstored, hcode⟩
      · obtain ⟨rfl, rfl⟩ := Prod.mk.inj (Option.some.inj hprog)
        exact silent rfl hsubset (fun _ _ he => he) (fun _ _ => rfl) trivial
  · -- discard
    rename_i channel purpose otp user
    obtain ⟨rfl, rfl⟩ := Prod.mk.inj (Option.some.inj hprog)
    obtain ⟨_, _, hsubmitted, hsent⟩ := hown
    exact silent rfl hsubset (fun _ _ he => ExpiringStore.mem_of_mem_del he) (fun _ _ => rfl)
      ⟨hsubmitted.concat, fun hflag => (hsent hflag).mono rfl hsubset⟩
  · -- commit of add_mfa_channel
    obtain ⟨rfl, rfl⟩ := Prod.mk.inj (Option.some.inj hprog)
    exact stepKeeps_add hproved hkeys hlocals hlocal hok
  · -- commit of verify_mfa_channel
    obtain ⟨rfl, rfl⟩ := Prod.mk.inj (Option.some.inj hprog)
    exact stepKeeps_verified hproved hkeys hlocals hlocal
  · -- commit of setup_totp
    obtain ⟨rfl, rfl⟩ := Prod.mk.inj (Option.some.inj hprog)
    exact stepKeeps_setupTotp hproved hkeys hlocals hlocal hok
  · -- commit of verify_totp
    obtain ⟨rfl, rfl⟩ := Prod.mk.inj (Option.some.inj hprog)
    exact stepKeeps_verifyTotp hproved hkeys hlocals hlocal hok
  · cases hprog

end

/-! ### Runs -/

/-- In every interleaving of the steps of any number of these requests in which the steps are taken in order:
a destination that is marked verified has received an OTP that was submitted, and a code of the secret was
submitted when the secret is marked verified. -/
theorem destinations_proved (env : AuthEnv τ) {init c : Config π UserState MfaLocal} {tr : List (MfaStep π)}
    (hrun : Run (Config.step (mfaProg env)) (fun _ c l => InOrder c l.2 (c.locals l.1)) init tr c)
    (hidle : ∀ p, init.locals p = .idle)
    (hunverified : ∀ channel : MfaChannelType, channel.verified init.shared.row = false)
    (htotp : init.shared.row.totpVerified = false)
    (hotps : ∀ channel : MfaChannelType, init.shared.redis (.otp channel.purpose init.shared.row.id) = none) :
    DestinationsProved env tr c.shared := by
  have hinvariant := Config.invariant (I := fun tr c => DestinationsProved env tr c.shared ∧ KeysOk env c)
    (L := LocalOk env) ?_ ?_ ?_ hrun
  · exact hinvariant.1.1
  · refine ⟨⟨fun channel hverified => ?_, fun hverified => ?_⟩, fun channel e he => ?_⟩
    · rw [hunverified] at hverified; cases hverified
    · rw [htotp] at hverified; cases hverified
    · rw [hotps] at he; cases he
  · intro p
    rw [hidle]
    trivial
  · intro tr c p a m u hi hl hok hprog
    have hkeeps := stepKeeps_of_inOrder hi.1 hi.2 hl hok hprog
    exact ⟨⟨hkeeps.proved, hkeeps.keys⟩, hkeeps.own, hkeeps.others⟩

end

end

/-! ### An interrupted verification -/

namespace Interrupted

def env : AuthEnv String := .sample ⟨fun _ secret => secret, fun _ _ _ => .invalid⟩

def start (requests : Nat) : Config (Fin requests) UserState MfaLocal :=
  ⟨⟨newUser (.numbered 1) "alice@example.com" none "$2b$" .OWNER none false "password", .empty, []⟩,
    fun _ => .idle⟩

/-- Alice adds an address and verifies it with the OTP she got there. -/
def verification (m : Nat) : List (Fin (m + 2) × MfaAction) :=
  [(0, .load (.addChannel .EMAIL "alice@example.com" "111111")), (0, .store 0), (0, .commit),
    (1, .load (.verifyChannel .EMAIL "111111")), (1, .check 0)]

/-- Nothing happens in between. -/
def uninterrupted : List (Fin 2 × MfaAction) := verification 0 ++ [(1, .discard), (1, .commit)]

/-- She replaces the address while her OTP is being checked. -/
def interrupted : List (Fin 3 × MfaAction) := verification 1 ++
  [(2, .load (.addChannel .EMAIL "mallory@example.com" "222222")), (2, .store 0), (2, .commit), (1, .discard),
    (1, .commit)]

/-- No message but an email to Alice, or one to Mallory with the second OTP. -/
def sentTo : Delivery → Bool
  | .email dest otp _ => dest == "alice@example.com" || dest == "mallory@example.com" && otp == "222222"
  | _ => false

/-- No OTP but the first one is submitted. -/
def submitsFirst (a : MfaAction) : Bool :=
  match a with
  | .load (.verifyChannel _ otp) => otp == "111111"
  | _ => true

/-- The address that never received an OTP that was submitted is marked verified. -/
theorem unproved_destination :
    ∃ tr c, Run (Config.step (mfaProg env)) (fun _ _ _ => True) (start 3) tr c ∧
      ¬ DestinationsProved env tr c.shared := by
  have hreplay :
      (Run.replay (Config.step (mfaProg env)) (fun _ _ _ => True) (start 3) interrupted).map (fun r =>
      MfaChannelType.EMAIL.verified r.2.shared.row &&
        MfaChannelType.EMAIL.destination r.2.shared.row == some "mallory@example.com" &&
        r.2.shared.outbox.all sentTo && r.1.all fun step => submitsFirst step.label.2) = some true := by
    decide +kernel
  obtain ⟨tr, c, hrun, hcheck⟩ := Run.exists_of_replay hreplay
  simp only [Bool.and_eq_true, beq_iff_eq, List.all_eq_true] at hcheck
  obtain ⟨⟨⟨hverified, hcurrent⟩, houtbox⟩, hsubmitted⟩ := hcheck
  refine ⟨tr, c, hrun, ?_⟩
  intro h
  obtain ⟨otp, ⟨dest, hdest, hsent⟩, step, hstep, hlabel⟩ := h.channel .EMAIL hverified
  have hotp : otp = "111111" := by
    have := hsubmitted step hstep
    rw [hlabel] at this
    simpa [submitsFirst] using this
  have hdestination : dest = "alice@example.com" := by
    have := houtbox _ hsent
    simpa [sentTo, MfaChannelType.message, hotp] using this
  have hlower : "mallory@example.com" = Py.asciiLower dest := Option.some.inj (hcurrent.symm.trans hdest)
  have hne : "mallory@example.com" ≠ Py.asciiLower "alice@example.com" := by decide +kernel
  exact hne (hdestination ▸ hlower)

theorem uninterrupted_proved :
    ∃ tr c, Run (Config.step (mfaProg env)) (fun _ c l => InOrder c l.2 (c.locals l.1)) (start 2) tr c ∧
      MfaChannelType.EMAIL.verified c.shared.row = true ∧ DestinationsProved env tr c.shared := by
  have hreplay : (Run.replay (Config.step (mfaProg env)) (fun _ c l => InOrder c l.2 (c.locals l.1)) (start 2)
      uninterrupted).map (fun r => MfaChannelType.EMAIL.verified r.2.shared.row) = some true := by
    decide +kernel
  obtain ⟨tr, c, hrun, hverified⟩ := Run.exists_of_replay hreplay
  refine ⟨tr, c, hrun, hverified, ?_⟩
  exact destinations_proved env hrun (fun _ => rfl) (fun channel => by cases channel <;> rfl) rfl fun _ => rfl

end Interrupted

end RatingLift
