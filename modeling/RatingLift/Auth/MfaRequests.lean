import RatingLift.Auth.Account
import RatingLift.Db.Flush
import RatingLift.Library.Interleaving

/-!
# The MFA requests of a user, step by step

`add_mfa_channel`, `verify_mfa_channel`, `setup_totp` and `verify_totp` of one user, served by several
workers: each request loads the user's row, then works on Redis, and commits at the end, and between any two
of these steps the other requests take theirs.

* (`mfaProg_alone`) the steps of a request that is not interrupted do what the operation of the service does.
-/

namespace RatingLift

open Library

inductive MfaChannelType where
  | EMAIL | PHONE
deriving DecidableEq

namespace MfaChannelType

def value : MfaChannelType → String
  | EMAIL => "email"
  | PHONE => "phone"

def purpose : MfaChannelType → String
  | EMAIL => CHANNEL_EMAIL_PURPOSE
  | PHONE => CHANNEL_PHONE_PURPOSE

/-- The column with the destination. -/
def destination : MfaChannelType → User → Option String
  | EMAIL => User.mfaEmail
  | PHONE => User.mfaPhone

/-- The column that marks the destination verified. -/
def verified : MfaChannelType → User → Bool
  | EMAIL => User.mfaEmailVerified
  | PHONE => User.mfaPhoneVerified

/-- The message that brings an OTP to a destination. -/
def message : MfaChannelType → String → String → Delivery
  | EMAIL => fun destination otp => .email destination otp CHANNEL_EMAIL_PURPOSE
  | PHONE => fun destination otp => .sms destination otp CHANNEL_PHONE_PURPOSE

/-- A destination as it is stored: email addresses are lower-cased. -/
def stored {τ : Type} (env : AuthEnv τ) : MfaChannelType → String → String
  | EMAIL => env.lower
  | PHONE => id

theorem purpose_injective {channel channel' : MfaChannelType} (h : channel.purpose = channel'.purpose) :
    channel = channel' := by
  cases channel <;> cases channel' <;> first | rfl | (revert h; decide)

theorem destination_flush (channel : MfaChannelType) (loaded written row : User) :
    channel.destination (loaded.flush written row) =
      flushColumn (channel.destination loaded) (channel.destination written) (channel.destination row) := by
  cases channel <;> rfl

theorem verified_flush (channel : MfaChannelType) (loaded written row : User) :
    channel.verified (loaded.flush written row) =
      flushColumn (channel.verified loaded) (channel.verified written) (channel.verified row) := by
  cases channel <;> rfl

end MfaChannelType

/-- What the requests of a user share: the committed row, Redis, and the messages sent. -/
structure UserState where
  row : User
  redis : Redis
  outbox : List Delivery

/-- The four requests, with the OTP or the secret that they draw. -/
inductive MfaCall where
  | addChannel (channel : MfaChannelType) (destination otp : String)
  | verifyChannel (channel : MfaChannelType) (otp : String)
  | setupTotp (secret : String)
  | verifyTotp (code : String)
deriving DecidableEq

/-- How far a request has come; `user` is the row it loaded. -/
inductive MfaLocal where
  | idle
  | loaded (call : MfaCall) (user : User)
  /-- `add_mfa_channel` has stored and sent its OTP. -/
  | stored (channel : MfaChannelType) (otp : String) (user written : User)
  /-- `verify_mfa_channel` has found its OTP. -/
  | accepted (channel : MfaChannelType) (purpose otp : String) (user : User)
  /-- `verify_mfa_channel` has deleted the OTP. -/
  | used (channel : MfaChannelType) (otp : String) (user : User)
  /-- `verify_totp` has accepted its code. -/
  | codeAccepted (code : String) (user : User)
  | done

inductive MfaAction where
  /-- `get_current_user` selects the row. -/
  | load (call : MfaCall)
  /-- `SETEX`, and the OTP is sent. -/
  | store (now : Instant)
  /-- `GET`, or the check of a TOTP code. -/
  | check (now : Instant)
  /-- `DEL` -/
  | discard
  | commit

section

variable {τ : Type} (env : AuthEnv τ)

/-- The steps of the four requests. -/
def mfaProg : MfaAction → MfaLocal → UserState → Option (MfaLocal × UserState)
  | .load call, .idle, s => some (.loaded call s.row, s)
  | .store now, .loaded (.addChannel channel destination otp) user, s =>
    match channelChange env user channel.value destination with
    | .error _ => some (.done, s)
    | .ok (written, purpose, deliver) => some (.stored channel otp user written,
        { s with
          redis :=
            s.redis.setex now (seconds env.settings.mfaOtpTtlSeconds) (.otp purpose user.id) (.text otp)
          outbox := s.outbox ++ [deliver otp] })
  | .check now, .loaded (.verifyChannel channel otp) user, s =>
    match channelPurpose user channel.value with
    | .error _ => some (.done, s)
    | .ok purpose =>
      if s.redis.get now (.otp purpose user.id) = some (.text otp) then
        some (.accepted channel purpose otp user, s)
      else some (.done, s)
  | .check now, .loaded (.verifyTotp code) user, s =>
    match user.totpSecret.filter (· ≠ "") with
    | none => some (.done, s)
    | some secret =>
      if totpVerify env now secret code then some (.codeAccepted code user, s) else some (.done, s)
  | .discard, .accepted channel purpose otp user, s =>
    some (.used channel otp user, { s with redis := s.redis.del (.otp purpose user.id) })
  | .commit, .stored _ _ user written, s => some (.done, { s with row := user.flush written s.row })
  | .commit, .used channel _ user, s =>
    some (.done, { s with row := user.flush (markVerified user channel.value) s.row })
  | .commit, .loaded (.setupTotp secret) user, s => some (.done,
      { s with row := user.flush { user with totpSecret := some secret, totpVerified := false } s.row })
  | .commit, .codeAccepted _ user, s => some (.done,
      { s with row := user.flush { user with totpVerified := true } s.row })
  | _, _, _ => none

variable {env} {user written : User} {channel : MfaChannelType} {purpose dest : String}
  {deliver : String → Delivery}

/-- What `channelChange` makes of the row, and where it sends the OTP. -/
theorem channelChange_ok (h : channelChange env user channel.value dest = .ok (written, purpose, deliver)) :
    purpose = channel.purpose ∧ deliver = channel.message (Py.strip dest) ∧ written.id = user.id ∧
      channel.destination written = some (channel.stored env (Py.strip dest)) ∧
      channel.verified written = false ∧
      (∀ other, other ≠ channel → other.destination written = other.destination user ∧
        other.verified written = other.verified user) ∧
      written.totpSecret = user.totpSecret ∧ written.totpVerified = user.totpVerified := by
  unfold channelChange at h
  extract_lets destination at h
  split at h
  · cases h
  cases channel with
  | EMAIL =>
    obtain ⟨rfl, rfl, rfl⟩ : _ ∧ _ ∧ _ := by simpa [MfaChannelType.value] using h
    refine ⟨rfl, rfl, rfl, rfl, rfl, ?_, rfl, rfl⟩
    intro other hne
    cases other with
    | EMAIL => exact absurd rfl hne
    | PHONE => exact ⟨rfl, rfl⟩
  | PHONE =>
    obtain ⟨rfl, rfl, rfl⟩ : _ ∧ _ ∧ _ := by simpa [MfaChannelType.value] using h
    refine ⟨rfl, rfl, rfl, rfl, rfl, ?_, rfl, rfl⟩
    intro other hne
    cases other with
    | EMAIL => exact ⟨rfl, rfl⟩
    | PHONE => exact absurd rfl hne

theorem channelPurpose_ok (h : channelPurpose user channel.value = .ok purpose) :
    purpose = channel.purpose := by
  unfold channelPurpose at h
  cases channel <;> simp only [MfaChannelType.value, String.reduceEq, ↓reduceIte] at h <;> split at h <;>
    cases h <;> rfl

theorem markVerified_destination (other : MfaChannelType) :
    other.destination (markVerified user channel.value) = other.destination user := by
  cases other <;> cases channel <;> rfl

theorem markVerified_verified (other : MfaChannelType) :
    other.verified (markVerified user channel.value) = if other = channel then true
      else other.verified user := by
  cases other <;> cases channel <;> rfl

theorem markVerified_totp : (markVerified user channel.value).totpSecret = user.totpSecret ∧
    (markVerified user channel.value).totpVerified = user.totpVerified := by
  cases channel <;> exact ⟨rfl, rfl⟩

/-! ### Requests without interference -/

/-- The actions of a request. -/
def MfaCall.actions (now : Instant) (call : MfaCall) : List MfaAction :=
  .load call :: match call with
    | .addChannel .. => [.store now, .commit]
    | .verifyChannel .. => [.check now, .discard, .commit]
    | .setupTotp _ => [.commit]
    | .verifyTotp _ => [.check now, .commit]

def MfaCall.request (userId : Uuid) : MfaCall → AuthRequest
  | .addChannel channel destination _ => .addMfaChannel userId channel.value destination
  | .verifyChannel channel otp => .verifyMfaChannel userId channel.value otp
  | .setupTotp _ => .setupTotp userId
  | .verifyTotp code => .verifyTotp userId code

/-- The OTP or the secret of the request is the drawn one. -/
def MfaCall.DrawnFrom (draw : AuthDraw) : MfaCall → Prop
  | .addChannel _ _ otp => otp = draw.otp
  | .setupTotp secret => secret = draw.totpSecret
  | _ => True

/-- What the requests of a user share in a state of the service. -/
structure AuthState.Shows (s : AuthState) (userId : Uuid) (u : UserState) : Prop where
  row : s.db.users.find? userId = some u.row
  redis : s.redis = u.redis
  outbox : s.outbox = u.outbox

variable {s : AuthState} {draw : AuthDraw}

/-- Without interference the commit of a request stores the row that the request made. -/
theorem AuthState.shows_commitUser {row : User} {action : String} {afterValue : Json}
    (huser : s.db.users.find? user.id = some user) (hid : row.id = user.id) :
    (commitUser s draw row action afterValue).Shows user.id ⟨user.flush row user, s.redis, s.outbox⟩ := by
  refine ⟨?_, rfl, rfl⟩
  show (s.db.users.update row).find? user.id = some (user.flush row user)
  rw [User.flush_of_loaded hid]
  rw [← hid] at huser ⊢
  exact Table.find?_update_of_find? huser

/-- The steps of a request that is not interrupted have the effect of the operation. -/
theorem mfaProg_alone {u : UserState} {call : MfaCall} (hs : s.Shows u.row.id u)
    (hdraw : call.DrawnFrom draw) :
    ((call.request u.row.id).serve env s draw).1.Shows u.row.id
      (Config.alone (mfaProg env) (call.actions draw.now) .idle u).2 := by
  obtain ⟨user, redis, outbox⟩ := u
  obtain ⟨db, redis', outbox'⟩ := s
  obtain ⟨huser, hredis, houtbox⟩ := hs
  obtain rfl : redis' = redis := hredis
  obtain rfl : outbox' = outbox := houtbox
  have huser : db.users.find? user.id = some user := huser
  cases call with
  | addChannel channel destination otp =>
    obtain rfl : otp = draw.otp := hdraw
    simp only [MfaCall.request, MfaCall.actions, Config.alone, AuthRequest.serve, withUser, huser,
      List.foldl_cons, List.foldl_nil, mfaProg, Option.getD_some]
    unfold addMfaChannel
    cases hchange : channelChange env user channel.value destination with
    | error e => exact ⟨huser, rfl, rfl⟩
    | ok change =>
      obtain ⟨written, purpose, deliver⟩ := change
      obtain ⟨_, _, hid, _⟩ := channelChange_ok hchange
      have hredis : generateAndStoreOtp env redis' draw written.id purpose =
          redis'.setex draw.now (seconds env.settings.mfaOtpTtlSeconds) (.otp purpose user.id)
            (.text draw.otp) := by
        rw [hid]
        rfl
      show (commitUser ⟨db, generateAndStoreOtp env redis' draw written.id purpose,
        outbox' ++ [deliver draw.otp]⟩ draw
        written _ _).Shows user.id _
      rw [hredis]
      exact AuthState.shows_commitUser huser hid
  | verifyChannel channel otp =>
    simp only [MfaCall.request, MfaCall.actions, Config.alone, AuthRequest.serve, withUser, huser,
      List.foldl_cons, List.foldl_nil, mfaProg, Option.getD_some]
    unfold verifyMfaChannel verifyStoredOtp
    cases channelPurpose user channel.value with
    | error e => exact ⟨huser, rfl, rfl⟩
    | ok purpose =>
      by_cases hotp : redis'.get draw.now (.otp purpose user.id) = some (.text otp)
      · simp only [hotp, ↓reduceIte]
        exact AuthState.shows_commitUser huser (markVerified_id user channel.value)
      · simp only [hotp, ↓reduceIte]
        exact ⟨huser, rfl, rfl⟩
  | setupTotp secret =>
    obtain rfl : secret = draw.totpSecret := hdraw
    simp only [MfaCall.request, MfaCall.actions, Config.alone, AuthRequest.serve, withUser, huser,
      List.foldl_cons, List.foldl_nil, mfaProg, Option.getD_some]
    exact AuthState.shows_commitUser huser rfl
  | verifyTotp code =>
    simp only [MfaCall.request, MfaCall.actions, Config.alone, AuthRequest.serve, withUser, huser,
      List.foldl_cons, List.foldl_nil, mfaProg, Option.getD_some]
    unfold verifyTotp
    cases user.totpSecret.filter (· ≠ "") with
    | none => exact ⟨huser, rfl, rfl⟩
    | some secret =>
      by_cases hcode : totpVerify env draw.now secret code = true
      · simp only [hcode, ↓reduceIte]
        exact AuthState.shows_commitUser huser rfl
      · simp only [hcode, Bool.false_eq_true, ↓reduceIte]
        exact ⟨huser, rfl, rfl⟩

end

end RatingLift
