import RatingLift.Auth.Effects
import RatingLift.Library.Separated
import RatingLift.Python.Re

/-!
# The validators of the authentication schemas

A validator returns the normalised value or raises `ValueError` with a text.

* (`tenant_name_canonical`) a normalised tenant name is a canonical form, which `_get_or_create_tenant` leaves
  as it is;
* (`phone_exact_iff`) `validate_phone_e164` accepts exactly the E.164 numbers, except for texts that hold a
  decimal digit outside of ASCII or that end with a line break once their spaces and hyphens are removed.
-/

namespace RatingLift

open Library

/-! ### Tenant names -/

/-- `^[a-z0-9][a-z0-9-]{1,63}$` -/
def tenantSlugRe : List Char → Bool := Py.upToEnd fun l =>
  match l with
  | [] => false
  | c :: l => Py.isLowerAlnum c && 1 ≤ l.length && l.length ≤ 63 && l.all fun c =>
    Py.isLowerAlnum c || c == '-'

/-- The slug that `normalize_tenant_name` checks. -/
def tenantSlug (lower : String → String) (raw : String) : String :=
  let slug := Py.replaceChar (Py.replaceChar (lower raw) '_' '-') ' ' '-'
  let slug := slug.toList.filter fun c => Py.isLowerAlnum c || c == '-'
  String.ofList (Py.stripChars (· = '-') (collapse '-' slug))

/-- `normalize_tenant_name` -/
def normalizeTenantName (lower : String → String) (value : Option String) : Except String (Option String) :=
  match value with
  | none => .ok none
  | some value =>
    let raw := Py.strip value
    if raw = "" then .ok none
    else
      let slug := tenantSlug lower raw
      if slug = "" ∨ tenantSlugRe slug.toList = false then
        .error
          "Tenant name must start with a letter or digit and contain only a-z, 0-9, and hyphens (2-64 chars)."
      else .ok (some slug)

/-- Two to 64 lower-case letters, digits and hyphens, with a letter or digit first and last and no two hyphens
in a row. -/
structure TenantSlug (slug : String) : Prop where
  two_le : 2 ≤ slug.toList.length
  le_64 : slug.toList.length ≤ 64
  separated : Separated Py.isLowerAlnum '-' slug.toList

theorem tenantSlug_separated (lower : String → String) (raw : String) :
    Separated Py.isLowerAlnum '-' (tenantSlug lower raw).toList := by
  unfold tenantSlug
  extract_lets slug kept
  rw [String.toList_ofList]
  have hpart := Py.stripChars_infix (· = '-') (collapse '-' kept)
  refine ⟨?_, List.IsChain.infix (singleSeps_collapse kept) hpart, ?_, ?_⟩
  · intro c hc
    have hkept := (List.mem_filter.mp (mem_of_mem_collapseFrom (hpart.subset hc))).2
    rw [Bool.or_eq_true, beq_iff_eq] at hkept
    exact hkept.symm
  · intro hhead
    simpa using Py.head?_stripChars hhead
  · intro hlast
    simpa using Py.getLast?_stripChars hlast

theorem tenantSlugRe_iff {l : List Char} (h : Separated Py.isLowerAlnum '-' l) :
    tenantSlugRe l = true ↔ 2 ≤ l.length ∧ l.length ≤ 64 := by
  have hbreak : l.getLast? ≠ some '\n' := by
    intro hlast
    have hno : ¬ ('\n' = '-' ∨ Py.isLowerAlnum '\n' = true) := by decide
    exact hno (h.mem _ (List.mem_of_getLast? hlast))
  have hend : (l.getLast? == some '\n') = false := by simpa using hbreak
  unfold tenantSlugRe Py.upToEnd
  rw [hend, Bool.false_and, Bool.or_false]
  cases l with
  | nil => simp
  | cons c l =>
    have hc : Py.isLowerAlnum c = true := (h.mem c List.mem_cons_self).resolve_left (by simpa using h.head)
    have hall : (l.all fun c => Py.isLowerAlnum c || c == '-') = true := by
      rw [List.all_eq_true]
      intro d hd
      rcases h.mem d (List.mem_cons_of_mem _ hd) with rfl | hd
      · decide
      · simp [hd]
    simp only [hc, hall, Bool.true_and, Bool.and_true, Bool.and_eq_true, decide_eq_true_eq, List.length_cons]
    omega

section

variable {lower : String → String} {value slug : String}

/-- What `normalize_tenant_name` does with a text. -/
theorem normalizeTenantName_some (lower : String → String) (value : String) :
    (Py.strip value = "" ∧ normalizeTenantName lower (some value) = .ok none) ∨
      (Py.strip value ≠ "" ∧ (∃ message, normalizeTenantName lower (some value) = .error message) ∧
        ¬ TenantSlug (tenantSlug lower (Py.strip value))) ∨
      (Py.strip value ≠ "" ∧
        normalizeTenantName lower (some value) = .ok (some (tenantSlug lower (Py.strip value))) ∧
        TenantSlug (tenantSlug lower (Py.strip value))) := by
  have hsep := tenantSlug_separated lower (Py.strip value)
  have hre := tenantSlugRe_iff hsep
  unfold normalizeTenantName
  dsimp only
  by_cases hblank : Py.strip value = ""
  · left
    exact ⟨hblank, if_pos hblank⟩
  right
  rw [if_neg hblank]
  by_cases hmatch : tenantSlugRe (tenantSlug lower (Py.strip value)).toList = true
  · right
    obtain ⟨htwo, h64⟩ := hre.mp hmatch
    have hne : tenantSlug lower (Py.strip value) ≠ "" := by
      intro h
      rw [h] at htwo
      simp at htwo
    rw [if_neg (by simp [hne, hmatch])]
    exact ⟨hblank, rfl, htwo, h64, hsep⟩
  · left
    refine ⟨hblank, ⟨_, if_pos (Or.inr (by simpa using hmatch))⟩, ?_⟩
    intro hslug
    exact hmatch (hre.mpr ⟨hslug.two_le, hslug.le_64⟩)

theorem TenantSlug.of_normalize (h : normalizeTenantName lower (some value) = .ok (some slug)) :
    TenantSlug slug := by
  rcases normalizeTenantName_some lower value with ⟨_, hnone⟩ | ⟨_, ⟨message, herror⟩, _⟩ | ⟨_, hok, hslug⟩
  · rw [hnone] at h
    simp at h
  · rw [herror] at h
    cases h
  · rw [hok] at h
    obtain rfl := Option.some.inj (Except.ok.inj h)
    exact hslug

theorem TenantSlug.ne_empty (h : TenantSlug slug) : slug ≠ "" := by
  rintro rfl
  have := h.two_le
  simp at this

/-- A character that none of the normalisations changes. -/
structure PlainChar (c : Char) : Prop where
  notSpace : Py.isSpace c = false
  notUnderscore : c ≠ '_'
  ascii : c.toNat < 128
  lower : c.toLower = c
  kept : (Py.isLowerAlnum c || c == '-') = true

theorem TenantSlug.plain (h : TenantSlug slug) {c : Char} (hc : c ∈ slug.toList) : PlainChar c := by
  rcases h.separated.mem c hc with rfl | hc
  · exact ⟨by decide, by decide, by decide, by decide, by decide⟩
  · refine ⟨Py.isSpace_of_isLowerAlnum hc, ?_, ?_, Py.toLower_of_isLowerAlnum hc, by simp [hc]⟩
    · rintro rfl
      revert hc
      decide
    · rw [Py.isLowerAlnum_iff] at hc
      omega

theorem TenantSlug.replace_space (h : TenantSlug slug) : Py.replaceChar slug ' ' '-' = slug := by
  apply Py.replaceChar_eq_self
  intro hc
  have hspace := (h.plain hc).notSpace
  revert hspace
  decide

theorem TenantSlug.strip_eq (h : TenantSlug slug) : Py.strip slug = slug := by
  unfold Py.strip
  rw [Py.stripChars_eq_self (fun c hc => (h.plain hc).notSpace), String.ofList_toList]

theorem TenantSlug.lower_eq (hlower : Py.LowersAscii lower) (h : TenantSlug slug) : lower slug = slug := by
  have hkept : slug.toList.map Char.toLower = slug.toList := by
    conv => rhs; rw [← List.map_id slug.toList]
    exact List.map_congr_left fun c hc => (h.plain hc).lower
  rw [hlower slug (fun c hc => (h.plain hc).ascii), Py.asciiLower, hkept, String.ofList_toList]

theorem TenantSlug.tenantSlug_eq (hlower : Py.LowersAscii lower) (h : TenantSlug slug) :
    tenantSlug lower slug = slug := by
  have hunder : Py.replaceChar slug '_' '-' = slug :=
    Py.replaceChar_eq_self fun hc => (h.plain hc).notUnderscore rfl
  have hfilter : slug.toList.filter (fun c => Py.isLowerAlnum c || c == '-') = slug.toList :=
    List.filter_eq_self.mpr fun c hc => (h.plain hc).kept
  have hstrip : Py.stripChars (· = '-') slug.toList = slug.toList := by
    apply Py.stripChars_eq_self_of_ends
    · intro c hc
      have hne : c ≠ '-' := fun hc' => h.separated.head (hc' ▸ hc)
      simpa using hne
    · intro c hc
      have hne : c ≠ '-' := fun hc' => h.separated.last (hc' ▸ hc)
      simpa using hne
  unfold tenantSlug
  dsimp only
  rw [h.lower_eq hlower, hunder, h.replace_space, hfilter, collapse_eq_self h.separated.single, hstrip,
    String.ofList_toList]

/-- A normalised name is its own normal form. -/
theorem TenantSlug.normalize_eq (hlower : Py.LowersAscii lower) (h : TenantSlug slug) :
    normalizeTenantName lower (some slug) = .ok (some slug) := by
  have heq : tenantSlug lower (Py.strip slug) = slug := by rw [h.strip_eq, h.tenantSlug_eq hlower]
  rcases normalizeTenantName_some lower slug with ⟨hblank, _⟩ | ⟨_, _, hno⟩ | ⟨_, hok, _⟩
  · rw [h.strip_eq] at hblank
    exact absurd hblank h.ne_empty
  · rw [heq] at hno
    exact absurd h hno
  · rw [hok, heq]

variable {τ : Type} {env : AuthEnv τ}

/-- `_get_or_create_tenant` looks for the name as it is. -/
theorem TenantSlug.requestedName_eq (hlower : Py.LowersAscii env.lower) (h : TenantSlug slug)
    (email : String) :
    requestedName env (some slug) email = slug := by
  have hkept : (some slug).filter (· ≠ "") = some slug := by simp [h.ne_empty]
  unfold requestedName
  rw [hkept]
  dsimp only
  rw [h.strip_eq, h.lower_eq hlower, h.replace_space]

/-- The tenant that is found, or created, has the name. -/
theorem TenantSlug.getOrCreateTenant_name (hlower : Py.LowersAscii env.lower) (h : TenantSlug slug) (db : Db)
    (draw : AuthDraw) (email : String) : (getOrCreateTenant env db draw (some slug) email).1.name = slug := by
  unfold getOrCreateTenant
  rw [h.requestedName_eq hlower]
  dsimp only
  cases hfound : tenantNamed db slug with
  | some tenant =>
    have hname := Table.first_some hfound
    simpa using hname.2
  | none =>
    dsimp only
    rw [freeCandidate, hfound]
    rfl

end

/-- The normal form of a tenant name is none exactly for a blank text; any other text is refused or has a slug
as its normal form, which is its own normal form and the name of the tenant that `_get_or_create_tenant` finds
or creates. -/
theorem tenant_name_canonical {τ : Type} (env : AuthEnv τ) (hlower : Py.LowersAscii env.lower)
    (value : String) :
    (normalizeTenantName env.lower (some value) = .ok none ↔ ∀ c ∈ value.toList, Py.isSpace c = true) ∧
      ((¬ ∀ c ∈ value.toList, Py.isSpace c = true) →
        (∃ message, normalizeTenantName env.lower (some value) = .error message) ∨
          ∃ slug, normalizeTenantName env.lower (some value) = .ok (some slug) ∧ TenantSlug slug) ∧
      ∀ slug, normalizeTenantName env.lower (some value) = .ok (some slug) →
        normalizeTenantName env.lower (some slug) = .ok (some slug) ∧
          ∀ email : String, requestedName env (some slug) email = slug ∧
            ∀ (db : Db) (draw : AuthDraw),
            (getOrCreateTenant env db draw (some slug) email).1.name = slug := by
  rw [← Py.strip_eq_empty]
  refine ⟨?_, ?_, ?_⟩
  · rcases normalizeTenantName_some env.lower value with ⟨hblank, hnone⟩ | ⟨hne, ⟨message, herror⟩, _⟩
      | ⟨hne, hok, _⟩
    · simp [hblank, hnone]
    · simp [hne, herror]
    · simp [hne, hok]
  · intro hne
    rcases normalizeTenantName_some env.lower value with ⟨hblank, _⟩ | ⟨_, herror, _⟩ | ⟨_, hok, hslug⟩
    · exact absurd hblank hne
    · exact Or.inl herror
    · exact Or.inr ⟨_, hok, hslug⟩
  · intro slug h
    have hslug := TenantSlug.of_normalize h
    exact ⟨hslug.normalize_eq hlower, fun email => ⟨hslug.requestedName_eq hlower email,
      fun db draw => hslug.getOrCreateTenant_name hlower db draw email⟩⟩

theorem acme_canonical :
    normalizeTenantName Py.asciiLower (some "  Acme _ Inc. ") = .ok (some "acme-inc") ∧
      normalizeTenantName Py.asciiLower (some "acme-inc") = .ok (some "acme-inc") := by
  have hacme : normalizeTenantName Py.asciiLower (some "  Acme _ Inc. ") = .ok (some "acme-inc") := by
    decide +kernel
  let env : AuthEnv Unit := AuthEnv.sample ⟨fun _ _ => (), fun _ _ _ => .invalid⟩
  exact ⟨hacme, ((tenant_name_canonical env (fun _ _ => rfl) "  Acme _ Inc. ").2.2 "acme-inc" hacme).1⟩

/-! ### Phone numbers -/

/-- `^\+[1-9]\d{6,14}$` -/
def e164Re : List Char → Bool := Py.upToEnd fun l =>
  match l with
  | plus :: first :: digits =>
    plus == '+' && (0x31 ≤ first.toNat && first.toNat ≤ 0x39) && 6 ≤ digits.length && digits.length ≤ 14 &&
      digits.all Py.isDecimal
  | _ => false

/-- `value.strip().replace(" ", "").replace("-", "")` -/
def strippedPhone (value : String) : String := Py.removeChar (Py.removeChar (Py.strip value) ' ') '-'

/-- `validate_phone_e164` -/
def validatePhoneE164 (value : String) : Except String String :=
  let phone := strippedPhone value
  if e164Re phone.toList = false then .error "Phone must be in E.164 format, e.g. +14155551234" else .ok phone

/-- An E.164 number: `+` and 7 to 15 ASCII digits, the first of them not zero. -/
def IsE164 (phone : String) : Prop :=
  ∃ (first : Char) (digits : List Char), phone.toList = '+' :: first :: digits ∧ first ≠ '0' ∧
    6 ≤ digits.length ∧ digits.length ≤ 14 ∧ ∀ c ∈ first :: digits, Py.isAsciiDigit c = true

/-- The function accepts exactly the texts that are E.164 numbers without the white space around them, their
spaces and their hyphens; it returns those numbers, and returns them again when they are given to it. -/
structure AcceptsE164 (value : String) : Prop where
  exact : ∀ phone, validatePhoneE164 value = .ok phone ↔ IsE164 phone ∧ phone = strippedPhone value
  again : ∀ phone, validatePhoneE164 value = .ok phone → validatePhoneE164 phone = .ok phone

/-- The pattern matches, and the text holds a line break or a decimal digit outside of ASCII. -/
def MangledPhone (value : String) : Prop :=
  e164Re (strippedPhone value).toList = true ∧
    ∃ c ∈ (Py.strip value).toList, c = '\n' ∨ (0x80 ≤ c.toNat ∧ Py.isDecimal c = true)

section

variable {value phone : String}

theorem validatePhoneE164_eq_ok :
    validatePhoneE164 value = .ok phone ↔
      e164Re (strippedPhone value).toList = true ∧ phone = strippedPhone value := by
  unfold validatePhoneE164
  dsimp only
  by_cases hmatch : e164Re (strippedPhone value).toList = true
  · rw [if_neg (by simp [hmatch])]
    simp [hmatch, eq_comm]
  · rw [if_pos (by simpa using hmatch)]
    simp [hmatch]

theorem mem_strippedPhone {c : Char} :
    c ∈ (strippedPhone value).toList ↔ c ∈ (Py.strip value).toList ∧ c ≠ ' ' ∧ c ≠ '-' := by
  unfold strippedPhone
  rw [Py.mem_removeChar, Py.mem_removeChar, and_assoc]

theorem isDecimal_of_isAsciiDigit {c : Char} (h : Py.isAsciiDigit c = true) : Py.isDecimal c = true := by
  have hlt : c.toNat < 0x80 := by
    rw [Py.isAsciiDigit_iff] at h
    omega
  rw [Py.isDecimal_ascii hlt]
  exact h

/-- The characters of a number. -/
theorem IsE164.mem (h : IsE164 phone) {c : Char} (hc : c ∈ phone.toList) :
    c = '+' ∨ Py.isAsciiDigit c = true := by
  obtain ⟨first, digits, hphone, _, _, _, hdigits⟩ := h
  rw [hphone, List.mem_cons] at hc
  exact hc.imp_right (hdigits c)

/-- The pattern matches the numbers. -/
theorem IsE164.e164Re (h : IsE164 phone) : e164Re phone.toList = true := by
  obtain ⟨first, digits, hphone, hzero, hsix, h14, hdigits⟩ := h
  have hfirst := Py.isAsciiDigit_iff.mp (hdigits first List.mem_cons_self)
  have hne : first.toNat ≠ 0x30 := by
    intro hnat
    exact hzero (Char.toNat_inj.mp hnat)
  have hall : digits.all Py.isDecimal = true := by
    rw [List.all_eq_true]
    exact fun c hc => isDecimal_of_isAsciiDigit (hdigits c (List.mem_cons_of_mem _ hc))
  have hrange : 0x31 ≤ first.toNat ∧ first.toNat ≤ 0x39 := by omega
  unfold RatingLift.e164Re Py.upToEnd
  rw [hphone]
  simp [hall, hrange, hsix, h14]

/-- What the pattern matches is a number, unless it holds a line break or another digit. -/
theorem isE164_of_e164Re (hmatch : e164Re phone.toList = true)
    (hplain : ∀ c ∈ phone.toList, c ≠ '\n' ∧ (Py.isDecimal c = true → c.toNat < 0x80)) : IsE164 phone := by
  have hbreak : (phone.toList.getLast? == some '\n') = false := by
    rw [beq_eq_false_iff_ne]
    intro hlast
    exact (hplain _ (List.mem_of_getLast? hlast)).1 rfl
  unfold e164Re Py.upToEnd at hmatch
  rw [hbreak, Bool.false_and, Bool.or_false] at hmatch
  cases hphone : phone.toList with
  | nil =>
    rw [hphone] at hmatch
    cases hmatch
  | cons plus l =>
    cases l with
    | nil =>
      rw [hphone] at hmatch
      cases hmatch
    | cons first digits =>
      rw [hphone] at hmatch hplain
      simp only [Bool.and_eq_true, beq_iff_eq, decide_eq_true_eq, List.all_eq_true] at hmatch
      obtain ⟨⟨⟨⟨rfl, hlow, hhigh⟩, hsix⟩, h14⟩, hdigits⟩ := hmatch
      have hfirst : Py.isAsciiDigit first = true := Py.isAsciiDigit_iff.mpr (by omega)
      refine ⟨first, digits, hphone, ?_, hsix, h14, ?_⟩
      · rintro rfl
        simp at hlow
      · intro c hc
        rcases List.mem_cons.mp hc with rfl | hc
        · exact hfirst
        · have hdecimal := hdigits c hc
          rw [← Py.isDecimal_ascii ((hplain c (by simp [hc])).2 hdecimal)]
          exact hdecimal

/-- A number is left as it is. -/
theorem IsE164.strippedPhone_eq (h : IsE164 phone) : strippedPhone phone = phone := by
  have hplain : ∀ c ∈ phone.toList, Py.isSpace c = false ∧ c ≠ ' ' ∧ c ≠ '-' := by
    intro c hc
    rcases h.mem hc with rfl | hc
    · decide
    · have hlower : Py.isLowerAlnum c = true := by
        rw [Py.isAsciiDigit_iff] at hc
        rw [Py.isLowerAlnum_iff]
        exact Or.inr hc
      refine ⟨Py.isSpace_of_isLowerAlnum hlower, ?_, ?_⟩
      · rintro rfl
        revert hc
        decide
      · rintro rfl
        revert hc
        decide
  have hstrip : Py.strip phone = phone := by
    unfold Py.strip
    rw [Py.stripChars_eq_self (fun c hc => (hplain c hc).1), String.ofList_toList]
  unfold strippedPhone
  rw [hstrip, Py.removeChar_eq_self (fun hc => (hplain _ hc).2.1 rfl),
    Py.removeChar_eq_self (fun hc => (hplain _ hc).2.2 rfl)]

end

/-- A text is treated as it should be unless the pattern matches it with a line break or another digit. -/
theorem phone_exact_iff (value : String) : AcceptsE164 value ↔ ¬ MangledPhone value := by
  constructor
  · rintro h ⟨hmatch, c, hc, hbad⟩
    have hphone : IsE164 (strippedPhone value) :=
      ((h.exact _).mp (validatePhoneE164_eq_ok.mpr ⟨hmatch, rfl⟩)).1
    have hkept : c ∈ (strippedPhone value).toList := by
      rw [mem_strippedPhone]
      refine ⟨hc, ?_, ?_⟩
      · rintro rfl
        revert hbad
        decide
      · rintro rfl
        revert hbad
        decide
    rcases hphone.mem hkept with rfl | hdigit
    · revert hbad
      decide
    · rw [Py.isAsciiDigit_iff] at hdigit
      rcases hbad with rfl | ⟨hhigh, _⟩
      · revert hdigit
        decide
      · omega
  · intro h
    have hnumber : e164Re (strippedPhone value).toList = true → IsE164 (strippedPhone value) := by
      intro hmatch
      apply isE164_of_e164Re hmatch
      intro c hc
      have hc' := (mem_strippedPhone.mp hc).1
      refine ⟨fun hbreak => h ⟨hmatch, c, hc', Or.inl hbreak⟩, ?_⟩
      intro hdecimal
      by_contra hhigh
      exact h ⟨hmatch, c, hc', Or.inr ⟨by omega, hdecimal⟩⟩
    refine ⟨?_, ?_⟩
    · intro phone
      rw [validatePhoneE164_eq_ok]
      constructor
      · rintro ⟨hmatch, rfl⟩
        exact ⟨hnumber hmatch, rfl⟩
      · rintro ⟨hphone, rfl⟩
        exact ⟨hphone.e164Re, rfl⟩
    · intro phone hok
      obtain ⟨hmatch, rfl⟩ := validatePhoneE164_eq_ok.mp hok
      have hphone := hnumber hmatch
      rw [validatePhoneE164_eq_ok, hphone.strippedPhone_eq]
      exact ⟨hmatch, rfl⟩

/-- A line break before a hyphen is kept, and so is a digit of another script. -/
theorem mangled_phones_accepted :
    validatePhoneE164 "+14155551234\n-" = .ok "+14155551234\n" ∧ ¬ AcceptsE164 "+14155551234\n-" ∧
      validatePhoneE164 "+1415555123\u0664" = .ok "+1415555123\u0664" ∧
      ¬ AcceptsE164 "+1415555123\u0664" := by
  have hno : ∀ value phone : String, validatePhoneE164 value = .ok phone →
      (phone.toList.all fun c => c == '+' || Py.isAsciiDigit c) = false → ¬ AcceptsE164 value := by
    intro value phone hok hchars h
    have hall : (phone.toList.all fun c => c == '+' || Py.isAsciiDigit c) = true := by
      rw [List.all_eq_true]
      intro c hc
      rcases ((h.exact phone).mp hok).1.mem hc with rfl | hc
      · decide
      · simp [hc]
    rw [hall] at hchars
    cases hchars
  have hbreak : validatePhoneE164 "+14155551234\n-" = .ok "+14155551234\n" := by decide +kernel
  have hdigit : validatePhoneE164 "+1415555123\u0664" = .ok "+1415555123\u0664" := by decide +kernel
  exact ⟨hbreak, hno _ _ hbreak (by decide +kernel), hdigit, hno _ _ hdigit (by decide +kernel)⟩

/-! ### Emails -/

/-- `DISPOSABLE_EMAIL_DOMAINS` -/
def disposableEmailDomains : List String :=
  ["mailinator.com", "tempmail.com", "10minutemail.com", "guerrillamail.com", "trashmail.com", "yopmail.com",
    "dispostable.com", "throwawaymail.com", "getnada.com", "mailnesia.com", "sharklasers.com", "maildrop.cc",
    "fakeinbox.com", "temp-mail.org"]

/-- `normalize_email` -/
def normalizeEmail (lower : String → String) (value : String) : Except String String :=
  let email := lower (Py.strip value)
  if !email.toList.contains '@' then .error "Email is not valid"
  else
    let (localPart, domain) := Py.rpartition email '@'
    if localPart = "" ∨ domain = "" then .error "Email is not valid"
    else if localPart.toList.contains '+' then .error "Plus-aliased email addresses are not allowed"
    else if disposableEmailDomains.contains domain then .error "Disposable email providers are not allowed"
    else .ok email

/-! ### Passwords and codes -/

/-- `validate_password_strength` -/
def validatePasswordStrength (value : String) : Except String String :=
  let chars := value.toList
  if chars.length < 8 then .error "Password must be at least 8 characters"
  else if 128 < chars.length then .error "Password must be at most 128 characters"
  else if chars.contains ' ' then .error "Password must not contain spaces"
  else if !chars.any fun c => 'A' ≤ c && c ≤ 'Z' then
    .error "Password must contain at least one uppercase letter"
  else if !chars.any fun c => 'a' ≤ c && c ≤ 'z' then
    .error "Password must contain at least one lowercase letter"
  else if !chars.any Py.isDecimal then .error "Password must contain at least one digit"
  else .ok value

/-- `^\d{6}$` -/
def sixDigitRe : List Char → Bool := Py.upToEnd fun l => l.length == 6 && l.all Py.isDecimal

/-- `validate_six_digit_code` -/
def validateSixDigitCode (value : String) : Except String String :=
  let code := Py.removeChar (Py.strip value) ' '
  if sixDigitRe code.toList = false then .error "Code must be exactly 6 digits" else .ok code

end RatingLift
