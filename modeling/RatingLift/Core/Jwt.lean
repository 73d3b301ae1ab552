import RatingLift.Core.Config
import RatingLift.Db.Models

/-!
# JSON web tokens

The two functions of the JWT library that the service calls, on an abstract type of tokens: `encode` signs a
payload and `decode` checks a signature and the registered claims.  What the library promises about tokens
that were signed is `Jwt.Ideal`.

Both the middleware and the authentication service try the user secret and then the admin secret; `decodeJwt`
and `decodeTokenPayload` are the two copies of that loop, and they accept the same tokens
(`decodeTokenPayload_eq_ok`).  With ideal signatures a signed token decodes exactly within its validity period
(`decodeTokenPayload_of_live`, `decodeTokenPayload_of_not_live`).
-/

namespace RatingLift

/-- What `jwt.decode` ends with: the payload, `ExpiredSignatureError`, or another `InvalidTokenError`. -/
inductive Decoded where
  | payload (claims : Dict)
  | expired
  | invalid

structure Jwt (τ : Type) where
  encode : Dict → String → τ
  decode : τ → String → Instant → Decoded

/-- The claims a token of this service carries about time: `iat` and `exp`, in seconds. -/
def Dict.times (claims : Dict) : Option (Nat × Nat) :=
  match Json.get claims "iat", Json.get claims "exp" with
  | .int iat, .int exp => some (iat.toNat, exp.toNat)
  | _, _ => none

/-- Ideal signatures: a signed payload is read back under the secret it was signed with, from `iat` on and
before `exp`, and under no other secret. -/
structure Jwt.Ideal {τ : Type} (jwt : Jwt τ) : Prop where
  wrong_secret : ∀ claims secret secret' now, secret' ≠ secret →
    jwt.decode (jwt.encode claims secret) secret' now = .invalid
  immature : ∀ claims secret now iat exp, claims.times = some (iat, exp) → now < seconds iat →
    jwt.decode (jwt.encode claims secret) secret now = .invalid
  expired : ∀ claims secret now iat exp, claims.times = some (iat, exp) → seconds iat ≤ now →
    seconds exp ≤ now →
    jwt.decode (jwt.encode claims secret) secret now = .expired
  valid : ∀ claims secret now iat exp, claims.times = some (iat, exp) → seconds iat ≤ now →
    now < seconds exp →
    jwt.decode (jwt.encode claims secret) secret now = .payload claims

section

variable {τ : Type} (jwt : Jwt τ) (settings : Settings) (now : Instant) (token : τ)

/-- `_decode_jwt` of the middleware -/
def decodeJwt : Option Dict :=
  match jwt.decode token settings.jwtSecret now with
  | .payload claims => some claims
  | .expired => none
  | .invalid =>
    match jwt.decode token settings.adminJwtSecret now with
    | .payload claims => some claims
    | .expired => none
    | .invalid => none

/-- `AuthService._decode_token_payload` -/
def decodeTokenPayload : Except Exn Dict :=
  match jwt.decode token settings.jwtSecret now with
  | .payload claims => .ok claims
  | .expired => .error (.http 401 "Token expired")
  | .invalid =>
    match jwt.decode token settings.adminJwtSecret now with
    | .payload claims => .ok claims
    | .expired => .error (.http 401 "Token expired")
    | .invalid => .error (.http 401 "Invalid authentication token")

variable {jwt settings now token}

/-- The two decoders accept the same tokens with the same payload. -/
theorem decodeTokenPayload_eq_ok {claims : Dict} :
    decodeTokenPayload jwt settings now token = .ok claims ↔
      decodeJwt jwt settings now token = some claims := by
  unfold decodeTokenPayload decodeJwt
  cases jwt.decode token settings.jwtSecret now with
  | payload c => simp
  | expired => simp
  | invalid => cases jwt.decode token settings.adminJwtSecret now <;> simp

section Ideal

variable (hjwt : jwt.Ideal) {claims : Dict} {iat exp : Nat} {adminToken : Bool}
include hjwt

/-- A signed token within its validity period decodes to its claims, whichever of the two secrets signed
it. -/
theorem decodeTokenPayload_of_live (htimes : claims.times = some (iat, exp)) (hiat : seconds iat ≤ now)
    (hexp : now < seconds exp) :
    decodeTokenPayload jwt settings now
      (jwt.encode claims (if adminToken then settings.adminJwtSecret else settings.jwtSecret)) =
        .ok claims := by
  have hvalid : ∀ secret, jwt.decode (jwt.encode claims secret) secret now = .payload claims :=
    fun secret => hjwt.valid claims secret now iat exp htimes hiat hexp
  unfold decodeTokenPayload
  cases adminToken with
  | false => simp [hvalid]
  | true =>
    by_cases hsame : settings.jwtSecret = settings.adminJwtSecret
    · simp [hsame, hvalid]
    · simp [hjwt.wrong_secret claims _ _ now hsame, hvalid]

/-- Out of its validity period a signed token is refused. -/
theorem decodeTokenPayload_of_not_live (htimes : claims.times = some (iat, exp))
    (hnow : ¬ (seconds iat ≤ now ∧ now < seconds exp)) :
    ∃ detail, decodeTokenPayload jwt settings now
      (jwt.encode claims (if adminToken then settings.adminJwtSecret else settings.jwtSecret)) =
        .error (.http 401 detail) := by
  have hrefused : ∀ secret, jwt.decode (jwt.encode claims secret) secret now = .invalid ∨
      jwt.decode (jwt.encode claims secret) secret now = .expired := by
    intro secret
    by_cases hiat : now < seconds iat
    · exact Or.inl (hjwt.immature claims secret now iat exp htimes hiat)
    · have hafter : seconds iat ≤ now := not_lt.mp hiat
      have hexp : seconds exp ≤ now := not_lt.mp fun h => hnow ⟨hafter, h⟩
      exact Or.inr (hjwt.expired claims secret now iat exp htimes hafter hexp)
  have hwrong : ∀ secret secret', jwt.decode (jwt.encode claims secret) secret' now = .invalid ∨
      jwt.decode (jwt.encode claims secret) secret' now = .expired := by
    intro secret secret'
    by_cases hsame : secret' = secret
    · rw [hsame]; exact hrefused secret
    · exact Or.inl (hjwt.wrong_secret claims secret secret' now hsame)
  unfold decodeTokenPayload
  generalize (if adminToken then settings.adminJwtSecret else settings.jwtSecret) = secret
  rcases hwrong secret settings.jwtSecret with h | h
  · rcases hwrong secret settings.adminJwtSecret with h' | h' <;> rw [h, h'] <;> exact ⟨_, rfl⟩
  · rw [h]; exact ⟨_, rfl⟩

end Ideal

end

end RatingLift
