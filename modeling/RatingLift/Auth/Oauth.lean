import RatingLift.Db.Models

/-!
# Social profiles

What a provider answers to the user-info request and the profile that the service reads from it.
-/

namespace RatingLift

inductive SocialProvider where
  | GOOGLE | MICROSOFT | FACEBOOK
deriving DecidableEq

def SocialProvider.value : SocialProvider → String
  | .GOOGLE => "google"
  | .MICROSOFT => "microsoft"
  | .FACEBOOK => "facebook"

structure SocialProfile where
  email : String
  name : Option String
  picture : Option String
  subject : Option String

/-- The answer of a provider: the status and the JSON object in the body. -/
structure UserInfoReply where
  status : Nat
  data : Dict

/-- `_request_user_info` -/
def requestUserInfo (reply : UserInfoReply) : Except Exn Dict :=
  if reply.status ≥ 400 then .error (.http 401 "Invalid OAuth token") else .ok reply.data

/-- A value that goes into a nullable text column.  The source checks no types: a value that is neither a text
nor null fails at the flush where it is written, and a falsy one leaves the value of a stored user.  Providers
are taken to send a text or nothing. -/
def textColumn : Json → Except Exn (Option String)
  | .none => .ok none
  | .str s => .ok (some s)
  | _ => .error .dataError

/-- `email.lower()` of a claim that is present -/
def emailClaim (lower : String → String) (email : Json) (missing : String) : Except Exn String :=
  if !email.truthy then .error (.http 400 missing)
  else match email with
    | .str s => .ok (lower s)
    | _ => .error .attributeError

variable (lower : String → String) (reply : UserInfoReply)

/-- `verify_google_token` -/
def verifyGoogleToken : Except Exn SocialProfile := do
  let data ← requestUserInfo reply
  let email ← emailClaim lower (Json.get data "email") "Google profile does not contain email"
  return ⟨email, ← textColumn (Json.get data "name"), ← textColumn (Json.get data "picture"),
    ← textColumn (Json.get data "sub")⟩

/-- `verify_microsoft_token` -/
def verifyMicrosoftToken : Except Exn SocialProfile := do
  let data ← requestUserInfo reply
  let mail := Json.get data "mail"
  let email ← emailClaim lower (if mail.truthy then mail else Json.get data "userPrincipalName")
    "Microsoft profile does not contain email"
  return ⟨email, ← textColumn (Json.get data "displayName"), none, ← textColumn (Json.get data "id")⟩

/-- `verify_facebook_token` -/
def verifyFacebookToken : Except Exn SocialProfile := do
  let data ← requestUserInfo reply
  let email ← emailClaim lower (Json.get data "email") "Facebook profile does not contain email"
  let picture := match Json.get data "picture" with
    | .dict picture =>
      match Json.get picture "data" with
      | .dict picture => Json.get picture "url"
      | _ => .none
    | _ => .none
  return ⟨email, ← textColumn (Json.get data "name"), ← textColumn picture, ← textColumn (Json.get data "id")⟩

/-- `verify_oauth_token` -/
def verifyOauthToken (provider : SocialProvider) : Except Exn SocialProfile :=
  match provider with
  | .GOOGLE => verifyGoogleToken lower reply
  | .MICROSOFT => verifyMicrosoftToken lower reply
  | .FACEBOOK => verifyFacebookToken lower reply

end RatingLift
