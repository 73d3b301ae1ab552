import RatingLift.Core.Middleware
import RatingLift.Security.IpBlocking

/-!
# The address of a client

The address that a request comes from is worked out twice: by the middleware, for the audit rows, and by the
routes of the authentication, for the rate limits, the blocklist and the login attempts.  The first of the two
passes over a blank first element of `X-Forwarded-For` and looks at `X-Real-IP`; the second one does neither.

* (`switchedOff_iff`) the blocklist and the count of the failures pass over an empty address, as over a
  missing one;
* (`one_client_address_iff`) both addresses are the same one, which is not empty, exactly when the headers
  agree (`HeadersAgree`).
-/

namespace RatingLift

open Library Py

/-- `_get_client_ip` -/
def getClientIp (request : Request) : Option String :=
  match request.header "x-forwarded-for" with
  | some xff => if xff ≠ "" then some (strip (beforeFirst xff ',')) else request.client
  | none => request.client

/-- A header that is there and not empty. -/
def Request.given (request : Request) (name : String) : Option String := (request.header name).filter (· ≠ "")

/-- The first element of `X-Forwarded-For`. -/
def Request.forwardedFirst (request : Request) : Option String :=
  (request.given "x-forwarded-for").map fun xff => strip (beforeFirst xff ',')

variable {request : Request} {name : String}

theorem given_eq_none :
    request.given name = none ↔ request.header name = none ∨ request.header name = some "" := by
  unfold Request.given
  cases request.header name with
  | none => simp
  | some value => simp [Option.filter_some]

theorem given_eq_some {value : String} :
    request.given name = some value ↔ request.header name = some value ∧ value ≠ "" := by
  unfold Request.given
  rw [Option.filter_eq_some_iff]
  simp

theorem getClientIp_eq (request : Request) :
    getClientIp request = request.forwardedFirst.or request.client := by
  unfold getClientIp Request.forwardedFirst
  cases hxff : request.given "x-forwarded-for" with
  | none =>
    rcases given_eq_none.mp hxff with habsent | hempty
    · rw [habsent]
      rfl
    · rw [hempty]
      rfl
  | some xff =>
    obtain ⟨hheader, hne⟩ := given_eq_some.mp hxff
    simp [hheader, hne]

/-- What the middleware falls back to. -/
def Request.realOrClient (request : Request) : Option String :=
  ((request.given "x-real-ip").map strip).or request.client

theorem clientIp_eq (request : Request) :
    clientIp request = (request.forwardedFirst.filter (· ≠ "")).or request.realOrClient := by
  unfold clientIp Request.forwardedFirst Request.realOrClient
  extract_lets realIp
  have hreal : realIp = ((request.given "x-real-ip").map strip).or request.client := by
    unfold realIp
    cases hip : request.given "x-real-ip" with
    | none =>
      rcases given_eq_none.mp hip with habsent | hempty
      · rw [habsent]
        rfl
      · rw [hempty]
        rfl
    | some ip =>
      obtain ⟨hheader, hne⟩ := given_eq_some.mp hip
      simp [hheader, hne]
  rw [hreal]
  cases hxff : request.given "x-forwarded-for" with
  | none =>
    rcases given_eq_none.mp hxff with habsent | hempty
    · rw [habsent]
      rfl
    · rw [hempty]
      rfl
  | some xff =>
    obtain ⟨hheader, hne⟩ := given_eq_some.mp hxff
    by_cases hblank : strip (beforeFirst xff ',') = ""
    · simp [hheader, hne, hblank, Option.filter_some]
    · simp [hheader, hne, hblank, Option.filter_some]

/-! ### What an empty address does -/

/-- Neither the blocklist nor the count of the failures takes note of the address. -/
def SwitchedOff (address : Option String) : Prop :=
  ∀ db now, isIpBlocked db address now = (false, db) ∧ registerFailedAttemptForIp db address now = db

/-- A database in which an address is blocked for ever. -/
def blockedForEver (a : String) : Db :=
  { Db.empty with ipBlocklist := Table.empty.insert ⟨a, none, 0, 0, none⟩ }

theorem switchedOff_iff {address : Option String} :
    SwitchedOff address ↔ address = none ∨ address = some "" := by
  constructor
  · intro h
    by_contra hboth
    rw [not_or] at hboth
    obtain ⟨a, rfl⟩ := Option.ne_none_iff_exists'.mp hboth.1
    have ha : a ≠ "" := fun heq => hboth.2 (congrArg some heq)
    have hrow : (blockedForEver a).ipBlocklist.find? a = some ⟨a, none, 0, 0, none⟩ := by
      rw [blockedForEver, Table.find?_insert_fresh (fun r hr => absurd hr (Table.not_mem_empty r))]
      exact if_pos rfl
    have hblocked : (isIpBlocked (blockedForEver a) (some a) 0).1 = true := by
      rw [isIpBlocked_iff, blockedUntil_of_find? ha hrow]
      exact Expiry.at_lt_top
    rw [(h (blockedForEver a) 0).1] at hblocked
    cases hblocked
  · rintro (rfl | rfl)
    · exact fun db now => ⟨rfl, rfl⟩
    · exact fun db now => ⟨rfl, rfl⟩

/-! ### One address -/

/-- Both addresses of a request are the same, which is not empty, and no header switches the blocklist off. -/
structure OneClientAddress (request : Request) : Prop where
  agree : clientIp request = getClientIp request
  notEmpty : getClientIp request ≠ some ""
  switchedOn : SwitchedOff (getClientIp request) → SwitchedOff (getClientIp { request with headers := [] })

/-- The headers name one address: `X-Forwarded-For` does, or it is missing or empty, the socket peer is not
the empty text, and `X-Real-IP` is missing or empty or the peer itself. -/
def HeadersAgree (request : Request) : Prop :=
  (∃ first, request.forwardedFirst = some first ∧ first ≠ "") ∨
    request.forwardedFirst = none ∧ request.client ≠ some "" ∧
      ∀ ip, request.given "x-real-ip" = some ip → request.client = some (strip ip)

theorem one_client_address_iff (request : Request) : OneClientAddress request ↔ HeadersAgree request := by
  constructor
  · intro h
    have hagree := h.agree
    have hne := h.notEmpty
    rw [clientIp_eq, getClientIp_eq] at hagree
    rw [getClientIp_eq] at hne
    cases hfirst : request.forwardedFirst with
    | some first =>
      rw [hfirst, Option.some_or] at hne
      exact Or.inl ⟨first, hfirst, fun heq => hne (congrArg some heq)⟩
    | none =>
      rw [hfirst, Option.none_or] at hne
      refine Or.inr ⟨hfirst, hne, ?_⟩
      intro ip hip
      rw [hfirst, Option.filter_none, Option.none_or, Option.none_or, Request.realOrClient, hip] at hagree
      exact hagree.symm
  · intro h
    rcases h with ⟨first, hfirst, hne⟩ | ⟨hfirst, hpeer, hreal⟩
    · have hauth : getClientIp request = some first := by
        rw [getClientIp_eq, hfirst, Option.some_or]
      refine ⟨?_, ?_, ?_⟩
      · rw [hauth, clientIp_eq, hfirst, Option.filter_some, if_pos (by simpa using hne), Option.some_or]
      · rw [hauth]
        exact fun heq => hne (Option.some.inj heq)
      · rw [hauth, switchedOff_iff]
        rintro (hnone | hempty)
        · cases hnone
        · exact absurd (Option.some.inj hempty) hne
    · have hauth : getClientIp request = request.client := by
        rw [getClientIp_eq, hfirst, Option.none_or]
      refine ⟨?_, ?_, ?_⟩
      · rw [hauth, clientIp_eq, hfirst, Option.filter_none, Option.none_or, Request.realOrClient]
        cases hip : request.given "x-real-ip" with
        | none => rfl
        | some ip => exact (hreal ip hip).symm
      · rw [hauth]
        exact hpeer
      · intro hoff
        rwa [hauth] at hoff

/-- A request whose `X-Forwarded-For` is a comma. -/
def commaOnly : Request := ⟨"/api/v1/auth/login", [("x-forwarded-for", ",")], [], some "203.0.113.7"⟩

/-- The middleware sees the peer, the login no address. -/
theorem comma_hides_peer : clientIp commaOnly = some "203.0.113.7" ∧ getClientIp commaOnly = some "" ∧
    ¬ OneClientAddress commaOnly := by
  refine ⟨by decide, by decide, ?_⟩
  intro h
  exact h.notEmpty (by decide)

end RatingLift
