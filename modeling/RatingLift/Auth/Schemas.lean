import RatingLift.Auth.Validators

/-!
# The request schemas of authentication

A schema reads the fields of a JSON body, checks and normalises them, and gives the values a handler works on
or the errors of all fields that do not pass.  A field is first checked for its type and its length, then by
its validator; the normaliser of emails runs before the check of the address.
-/

namespace RatingLift

open Library

/-- What is wrong with a field: a constraint of the schema, or the text of a validator's `ValueError`. -/
inductive Complaint where
  | missing
  | wrongType
  | tooShort (minLength : Nat)
  | tooLong (maxLength : Nat)
  | notAMember
  | notAnEmail
  | valueError (message : String)
deriving DecidableEq

/-- An entry of the detail of a 422. -/
structure FieldError where
  loc : List String
  complaint : Complaint
deriving DecidableEq

/-- The values of a body, or the errors of its fields. -/
abbrev Parsed (α : Type) := Except (List FieldError) α

/-- What the schemas get from outside: `str.lower`, the address check of `EmailStr`, which returns its own
normal form, and the values that are read as booleans. -/
structure SchemaEnv where
  lower : String → String
  emailStr : String → Option String
  boolOf : Json → Option Bool

/-! ### Fields -/

section

variable {α β : Type}

/-- The errors of both, or the values of both. -/
def Parsed.both (x : Parsed α) (y : Parsed β) : Parsed (α × β) :=
  match x, y with
  | .ok a, .ok b => .ok (a, b)
  | .ok _, .error errors => .error errors
  | .error errors, .ok _ => .error errors
  | .error errors, .error errors' => .error (errors ++ errors')

theorem Parsed.both_ok {x : Parsed α} {y : Parsed β} {a : α} {b : β} :
    x.both y = .ok (a, b) ↔ x = .ok a ∧ y = .ok b := by
  unfold Parsed.both
  cases x <;> cases y <;> simp

def readField (body : Dict) (name : String) (absent : Parsed α)
    (check : Json → Except Complaint α) : Parsed α :=
  match body.find? fun entry => entry.1 == name with
  | none => absent
  | some entry => (check entry.2).mapError fun complaint => [⟨["body", name], complaint⟩]

/-- A field without a default. -/
def required (body : Dict) (name : String) (check : Json → Except Complaint α) : Parsed α :=
  readField body name (.error [⟨["body", name], .missing⟩]) check

/-- A field with a default, which is not checked. -/
def optional (body : Dict) (name : String) (default : α) (check : Json → Except Complaint α) : Parsed α :=
  readField body name (.ok default) check

theorem readField_ok {body : Dict} {name : String} {absent : Parsed α}
    {check : Json → Except Complaint α} {a : α} (h : readField body name absent check = .ok a) :
    absent = .ok a ∨ ∃ value, check value = .ok a := by
  unfold readField at h
  split at h
  · exact Or.inl h
  · rename_i entry _
    cases hcheck : check entry.2 with
    | error complaint => rw [hcheck] at h; cases h
    | ok b =>
      rw [hcheck] at h
      exact Or.inr ⟨entry.2, hcheck.trans (congrArg Except.ok (Except.ok.inj h))⟩

/-- A field with a default has it, or has passed its check. -/
theorem optional_ok {body : Dict} {name : String} {default a : α} {check : Json → Except Complaint α}
    (h : optional body name default check = .ok a) : a = default ∨ ∃ value, check value = .ok a := by
  rcases readField_ok h with habsent | hvalue
  · exact Or.inl (Except.ok.inj habsent).symm
  · exact Or.inr hvalue

end

/-! ### Checks -/

/-- `str` with its bounds on the number of characters. -/
def text (minLength : Nat) (maxLength : Option Nat) : Json → Except Complaint String
  | .str s =>
    if s.toList.length < minLength then .error (.tooShort minLength)
    else
      match maxLength.filter (· < s.toList.length) with
      | some maxLength => .error (.tooLong maxLength)
      | none => .ok s
  | _ => .error .wrongType

/-- `str | None` with its bound on the number of characters. -/
def nullableText (maxLength : Option Nat) : Json → Except Complaint (Option String)
  | .none => .ok none
  | value => (text 0 maxLength value).map some

/-- A field validator after the check of the field. -/
def andThen {α β : Type} (check : Json → Except Complaint α) (validate : α → Except String β) (value : Json) :
    Except Complaint β :=
  match check value with
  | .error complaint => .error complaint
  | .ok a => (validate a).mapError .valueError

section

variable (env : SchemaEnv)

/-- `EmailStr` behind `normalize_email`, which passes null on. -/
def emailField : Json → Except Complaint String
  | .none => .error .wrongType
  | .str value =>
    match normalizeEmail env.lower value with
    | .error message => .error (.valueError message)
    | .ok email =>
      match env.emailStr email with
      | none => .error .notAnEmail
      | some address => .ok address
  | _ => .error (.valueError "Email must be a string")

def boolField (value : Json) : Except Complaint Bool :=
  match env.boolOf value with
  | none => .error .wrongType
  | some b => .ok b

/-- A member of an enumeration of roles. -/
def roleField (members : List UserRole) : Json → Except Complaint UserRole
  | .str value =>
    match members.find? fun role => role.value == value with
    | none => .error .notAMember
    | some role => .ok role
  | _ => .error .notAMember

/-- `TenantRole` -/
def TenantRole : List UserRole := [.OWNER, .MANAGER, .STAFF]

/-- `AdminRole` -/
def AdminRole : List UserRole := [.SUPER_ADMIN, .FINANCE_ADMIN, .SUPPORT_ADMIN, .OPS_ADMIN, .COMPLIANCE_ADMIN]

/-- `MfaChannelType`, by its values. -/
def MfaChannelType.values : List String := ["email", "phone"]

def channelField : Json → Except Complaint String
  | .str value => if MfaChannelType.values.contains value then .ok value else .error .notAMember
  | _ => .error .notAMember

theorem roleField_mem {members : List UserRole} {value : Json} {role : UserRole}
    (h : roleField members value = .ok role) :
    role ∈ members := by
  unfold roleField at h
  split at h
  · split at h
    · cases h
    · rename_i found hfound
      cases h
      exact List.mem_of_find?_eq_some hfound
  · cases h

/-! ### Schemas -/

/-- `SignupRequest` -/
structure SignupPayload where
  email : String
  password : String
  fullName : Option String
  tenantName : Option String
  role : UserRole

/-- `SignupRequest._strip_name` -/
def stripName (v : Option String) : Option String := (v.map Py.strip).filter (· ≠ "")

def SignupPayload.parse (body : Dict) : Parsed SignupPayload :=
  ((required body "email" (emailField env)).both
    ((required body "password" (andThen (text 8 (some 128)) validatePasswordStrength)).both
    ((optional body "full_name" none (andThen (nullableText (some 255)) fun v => .ok (stripName v))).both
    ((optional body "tenant_name" none
      (andThen (nullableText (some 255)) (normalizeTenantName env.lower))).both
      (optional body "role" .OWNER (roleField TenantRole)))))).map fun r =>
    ⟨r.1, r.2.1, r.2.2.1, r.2.2.2.1, r.2.2.2.2⟩

variable {env} in
theorem SignupPayload.role_mem {body : Dict} {p : SignupPayload} (h : SignupPayload.parse env body = .ok p) :
    p.role ∈ TenantRole := by
  obtain ⟨⟨email, password, fullName, tenantName, role⟩, hfields, rfl⟩ := Fallible.map_eq_ok.mp h
  have hrole :=
    (Parsed.both_ok.mp (Parsed.both_ok.mp (Parsed.both_ok.mp (Parsed.both_ok.mp hfields).2).2).2).2
  rcases optional_ok hrole with rfl | ⟨value, hvalue⟩
  · simp [TenantRole]
  · exact roleField_mem hvalue

/-- `LoginRequest` and `AdminLoginRequest` -/
structure LoginPayload where
  email : String
  password : String

def LoginPayload.parse (body : Dict) : Parsed LoginPayload :=
  ((required body "email" (emailField env)).both (required body "password" (text 8 (some 128)))).map
    fun r => ⟨r.1, r.2⟩

/-- `SocialLoginRequest` -/
structure SocialLoginPayload where
  oauthToken : String

def SocialLoginPayload.parse (body : Dict) : Parsed SocialLoginPayload :=
  (required body "oauth_token" (text 10 none)).map SocialLoginPayload.mk

/-- A code of six digits. -/
def codeField : Json → Except Complaint String := andThen (text 6 (some 6)) validateSixDigitCode

/-- `MfaVerifyRequest` -/
structure MfaVerifyPayload where
  email : String
  otp : String
  isAdminLogin : Bool

def MfaVerifyPayload.parse (body : Dict) : Parsed MfaVerifyPayload :=
  ((required body "email" (emailField env)).both
    ((required body "otp" codeField).both (optional body "is_admin_login" false (boolField env)))).map
      fun r =>
    ⟨r.1, r.2.1, r.2.2⟩

/-- `CreateAdminRequest` -/
structure CreateAdminPayload where
  email : String
  password : String
  fullName : Option String
  role : UserRole

/-- `CreateAdminRequest._validate_password` -/
def validateAdminPassword (v : String) : Except String String :=
  if v.toList.length < 12 then .error "Admin password must be at least 12 characters"
  else validatePasswordStrength v

def CreateAdminPayload.parse (body : Dict) : Parsed CreateAdminPayload :=
  ((required body "email" (emailField env)).both
    ((required body "password" (andThen (text 12 (some 128)) validateAdminPassword)).both
    ((optional body "full_name" none (nullableText (some 255))).both
      (optional body "role" .SUPPORT_ADMIN (roleField AdminRole))))).map fun r =>
        ⟨r.1, r.2.1, r.2.2.1, r.2.2.2⟩

variable {env} in
theorem CreateAdminPayload.role_mem {body : Dict} {p : CreateAdminPayload}
    (h : CreateAdminPayload.parse env body = .ok p) : p.role ∈ AdminRole := by
  obtain ⟨⟨email, password, fullName, role⟩, hfields, rfl⟩ := Fallible.map_eq_ok.mp h
  have hrole := (Parsed.both_ok.mp (Parsed.both_ok.mp (Parsed.both_ok.mp hfields).2).2).2
  rcases optional_ok hrole with rfl | ⟨value, hvalue⟩
  · simp [AdminRole]
  · exact roleField_mem hvalue

/-- `MfaChannelAddRequest` -/
structure MfaChannelAddPayload where
  channel : String
  destination : String

/-- `MfaChannelAddRequest._validate_destination`, which runs when both fields have passed. -/
def validateDestination (payload : MfaChannelAddPayload) : Parsed MfaChannelAddPayload :=
  let destination :=
    if payload.channel = "email" then normalizeEmail env.lower payload.destination
    else validatePhoneE164 payload.destination
  match destination with
  | .error message => .error [⟨["body"], .valueError message⟩]
  | .ok destination => .ok { payload with destination := destination }

def MfaChannelAddPayload.parse (body : Dict) : Parsed MfaChannelAddPayload :=
  match (required body "channel" channelField).both (required body "destination" (text 3 (some 255))) with
  | .error errors => .error errors
  | .ok r => validateDestination env ⟨r.1, r.2⟩

/-- `MfaChannelVerifyRequest` -/
structure MfaChannelVerifyPayload where
  channel : String
  otp : String

def MfaChannelVerifyPayload.parse (body : Dict) : Parsed MfaChannelVerifyPayload :=
  ((required body "channel" channelField).both (required body "otp" codeField)).map fun r => ⟨r.1, r.2⟩

/-- `PasswordForgotRequest` -/
structure PasswordForgotPayload where
  email : String

def PasswordForgotPayload.parse (body : Dict) : Parsed PasswordForgotPayload :=
  (required body "email" (emailField env)).map PasswordForgotPayload.mk

/-- `PasswordResetRequest` -/
structure PasswordResetPayload where
  token : String
  newPassword : String

def PasswordResetPayload.parse (body : Dict) : Parsed PasswordResetPayload :=
  ((required body "token" (text 16 (some 128))).both
    (required body "new_password" (andThen (text 8 (some 128)) validatePasswordStrength))).map
      fun r => ⟨r.1, r.2⟩

/-- `EmailVerifyRequest` -/
structure EmailVerifyPayload where
  token : String

def EmailVerifyPayload.parse (body : Dict) : Parsed EmailVerifyPayload :=
  (required body "token" (text 16 (some 128))).map EmailVerifyPayload.mk

/-- `RefreshRequest` -/
structure RefreshPayload where
  refreshToken : String

def RefreshPayload.parse (body : Dict) : Parsed RefreshPayload :=
  (required body "refresh_token" (text 16 (some 256))).map RefreshPayload.mk

/-- `LogoutRequest` -/
structure LogoutPayload where
  refreshToken : Option String

def LogoutPayload.parse (body : Dict) : Parsed LogoutPayload :=
  (optional body "refresh_token" none (nullableText none)).map LogoutPayload.mk

/-- `TotpVerifyRequest` -/
structure TotpVerifyPayload where
  code : String

def TotpVerifyPayload.parse (body : Dict) : Parsed TotpVerifyPayload :=
  (required body "code" codeField).map TotpVerifyPayload.mk

end

/-! ### Bodies -/

/-- A body that must be there, as an object. -/
def requiredBody {α : Type} (body : Option Json) (parse : Dict → Parsed α) : Parsed α :=
  match body with
  | none => .error [⟨["body"], .missing⟩]
  | some .none => .error [⟨["body"], .missing⟩]
  | some (.dict fields) => parse fields
  | some _ => .error [⟨["body"], .wrongType⟩]

/-- A body that may be missing or null. -/
def optionalBody {α : Type} (body : Option Json) (parse : Dict → Parsed α) : Parsed (Option α) :=
  match body with
  | none => .ok none
  | some .none => .ok none
  | some (.dict fields) => (parse fields).map some
  | some _ => .error [⟨["body"], .wrongType⟩]

theorem requiredBody_ok {α : Type} {body : Option Json} {parse : Dict → Parsed α} {payload : α}
    (h : requiredBody body parse = .ok payload) :
    ∃ fields, body = some (.dict fields) ∧ parse fields = .ok payload := by
  unfold requiredBody at h
  split at h
  · cases h
  · cases h
  · exact ⟨_, rfl, h⟩
  · cases h

end RatingLift
