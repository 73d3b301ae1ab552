import RatingLift.Python.Str

/-!
# Base URLs of bindings

`_validate_base_url` checks the scheme of a text and then strips its trailing slashes, so what it stores is
not the text that was checked.

* (`base_url_kept_iff`) what is stored for a text with a scheme is a URL with the scheme that is stored again
  as it is, exactly when something other than slashes follows the scheme and the last of it is not white
  space;
* (`bare_scheme_stored`) `http://` is stored as `http:`, which is not accepted again.
-/

namespace RatingLift

/-- `_validate_base_url` -/
def validateBaseUrl (lower : String → String) (value : Option String) : Except String (Option String) :=
  match value with
  | none => .ok none
  | some value =>
    let value := Py.strip value
    if value = "" then .ok none
    else
      let lowered := lower value
      if !(Py.startsWith lowered "http://" || Py.startsWith lowered "https://") then
        .error "base_url must be an http(s) URL"
      else .ok (some (Py.rstripChar value '/'))

namespace BaseUrl

/-- The characters of the two schemes are the lower case of ASCII letters only. -/
def LowersSchemes (lower : String → String) : Prop :=
  ∀ s : String, Py.startsWith (lower s) "http://" = Py.startsWith (Py.asciiLower s) "http://" ∧
    Py.startsWith (lower s) "https://" = Py.startsWith (Py.asciiLower s) "https://"

/-- `http://` or `https://`, ignoring case. -/
def IsScheme (scheme : List Char) : Prop :=
  scheme.map Char.toLower = "http://".toList ∨ scheme.map Char.toLower = "https://".toList

/-- The text is a scheme and `body` after it. -/
def HasScheme (s : String) (body : List Char) : Prop := ∃ scheme, IsScheme scheme ∧ s.toList = scheme ++ body

/-- What a stored base URL should be: nothing, or a scheme with something after it that has no trailing slash
and that is stored as it is when it is sent again. -/
def Kept (lower : String → String) (stored : Option String) : Prop :=
  ∀ url, stored = some url → (∃ body, body ≠ [] ∧ HasScheme url body) ∧ url.toList.getLast? ≠ some '/' ∧
    validateBaseUrl lower (some url) = .ok (some url)

/-- The last character that is not a slash exists and is not white space. -/
def EndsPlain (body : List Char) : Prop :=
  ∃ c, (body.filter (· ≠ '/')).getLast? = some c ∧ Py.isSpace c = false

section

variable {lower : String → String} {value url : String} {scheme body : List Char}

theorem startsWith_asciiLower {s p : String} :
    Py.startsWith (Py.asciiLower s) p = true ↔ ∃ a b, a.map Char.toLower = p.toList ∧ s.toList = a ++ b := by
  unfold Py.startsWith Py.asciiLower
  rw [List.isPrefixOf_iff_prefix, String.toList_ofList]
  constructor
  · intro h
    have htake : (s.toList.take p.toList.length).map Char.toLower = p.toList := by
      rw [List.map_take]
      exact List.prefix_iff_eq_take.mp h |>.symm
    exact ⟨_, _, htake, (List.take_append_drop p.toList.length s.toList).symm⟩
  · rintro ⟨a, b, ha, hs⟩
    rw [hs, List.map_append, ha]
    exact List.prefix_append _ _

/-- The check of the scheme. -/
theorem hasScheme_iff (hlower : LowersSchemes lower) {s : String} :
    (Py.startsWith (lower s) "http://" || Py.startsWith (lower s) "https://") = true ↔
      ∃ body, HasScheme s body := by
  obtain ⟨hhttp, hhttps⟩ := hlower s
  rw [hhttp, hhttps, Bool.or_eq_true, startsWith_asciiLower, startsWith_asciiLower]
  constructor
  · rintro (⟨a, b, ha, hs⟩ | ⟨a, b, ha, hs⟩)
    · exact ⟨b, a, Or.inl ha, hs⟩
    · exact ⟨b, a, Or.inr ha, hs⟩
  · rintro ⟨b, a, ha | ha, hs⟩
    · exact Or.inl ⟨a, b, ha, hs⟩
    · exact Or.inr ⟨a, b, ha, hs⟩

/-- What is stored: nothing for a blank text, and the text without its trailing slashes. -/
theorem validateBaseUrl_eq_ok (hlower : LowersSchemes lower) {stored : Option String} :
    validateBaseUrl lower (some value) = .ok stored ↔
      (Py.strip value = "" ∧ stored = none) ∨
        (∃ body, HasScheme (Py.strip value) body) ∧ stored = some (Py.rstripChar (Py.strip value) '/') := by
  have hempty : ¬ ∃ body, HasScheme "" body := by
    rintro ⟨body, scheme, hscheme, hs⟩
    have hnil : scheme = [] := by
      have := (List.append_eq_nil_iff.mp hs.symm).1
      exact this
    subst hnil
    revert hscheme
    unfold IsScheme
    decide
  unfold validateBaseUrl
  dsimp only
  by_cases hblank : Py.strip value = ""
  · rw [if_pos hblank]
    simp [hblank, hempty, eq_comm]
  · rw [if_neg hblank]
    by_cases hscheme : (Py.startsWith (lower (Py.strip value)) "http://" ||
        Py.startsWith (lower (Py.strip value)) "https://") = true
    · have hbody := (hasScheme_iff hlower).mp hscheme
      rw [if_neg (by simp [hscheme])]
      simp [hblank, hbody, eq_comm]
    · have hbody : ¬ ∃ body, HasScheme (Py.strip value) body :=
        fun h => hscheme ((hasScheme_iff hlower).mpr h)
      rw [if_pos (by simpa using hscheme)]
      simp [hblank, hbody]

theorem IsScheme.length (h : IsScheme scheme) : 7 ≤ scheme.length ∧ scheme.length ≤ 8 := by
  have hlen : scheme.length = (scheme.map Char.toLower).length := by simp
  rcases h with h | h
  · rw [hlen, h]
    decide
  · rw [hlen, h]
    decide

/-- The trailing slashes stripped from a list. -/
abbrev rstripSlashes (l : List Char) : List Char := l.rdropWhile (· = '/')

theorem toList_rstripChar (s : String) : (Py.rstripChar s '/').toList = rstripSlashes s.toList := by
  unfold Py.rstripChar
  rw [String.toList_ofList]
  rfl

/-- The strip goes into what stands before `b` only when `b` is slashes throughout. -/
theorem rstripSlashes_append (a b : List Char) :
    rstripSlashes (a ++ b) = if rstripSlashes b = [] then rstripSlashes a else a ++ rstripSlashes b := by
  unfold rstripSlashes List.rdropWhile
  rw [List.reverse_append, List.dropWhile_append]
  simp only [List.isEmpty_iff, List.reverse_eq_nil_iff]
  split
  · rfl
  · rw [List.reverse_append, List.reverse_reverse]

theorem getLast?_rstripSlashes (l : List Char) :
    (rstripSlashes l).getLast? = (l.filter (· ≠ '/')).getLast? := by
  unfold rstripSlashes List.rdropWhile
  rw [List.getLast?_reverse, List.getLast?_filter]
  induction l.reverse with
  | nil => rfl
  | cons c l ih =>
    by_cases hc : c = '/'
    · simp [hc, ih]
    · simp [hc]

/-- A scheme is not another one with something after it. -/
theorem IsScheme.ne_append {scheme' rest : List Char} (h : IsScheme scheme) (h' : IsScheme scheme')
    (hrest : rest ≠ []) :
    scheme ≠ scheme' ++ rest := by
  intro happ
  have hmap := congrArg (List.map Char.toLower) happ
  rw [List.map_append] at hmap
  have hne : rest.map Char.toLower ≠ [] := by simpa using hrest
  have hlen := congrArg List.length hmap
  rw [List.length_append] at hlen
  have hpos := List.length_pos_iff.mpr hne
  have hseven : "http://".toList.length = 7 := by decide
  have height : "https://".toList.length = 8 := by decide
  rcases h with h | h
  · rcases h' with h' | h'
    · rw [h, h'] at hlen
      omega
    · rw [h, h'] at hlen
      omega
  · rcases h' with h' | h'
    · rw [h, h'] at hmap
      have htake := congrArg (List.take 7) hmap
      rw [List.take_left' hseven] at htake
      revert htake
      decide
    · rw [h, h'] at hlen
      omega

/-- A bare scheme loses its slashes, and what is left has no scheme with anything after it. -/
theorem not_hasScheme_rstrip {rest : List Char} (h : IsScheme scheme)
    (hurl : url.toList = rstripSlashes scheme) (hrest : rest ≠ []) : ¬ HasScheme url rest := by
  rintro ⟨scheme', hscheme', hlist⟩
  obtain ⟨stripped, happ⟩ := List.rdropWhile_prefix (· = '/') scheme
  have heq : scheme = scheme' ++ (rest ++ stripped) := by
    rw [← List.append_assoc, ← hlist, hurl]
    exact happ.symm
  exact h.ne_append hscheme' (by simp [hrest]) heq

/-- A text that is stored as it is has no white space around it. -/
theorem strip_eq_of_again (hlower : LowersSchemes lower)
    (h : validateBaseUrl lower (some url) = .ok (some url)) :
    Py.strip url = url := by
  rw [validateBaseUrl_eq_ok hlower] at h
  rcases h with ⟨_, hnone⟩ | ⟨_, hsame⟩
  · cases hnone
  · have hurl : url = Py.rstripChar (Py.strip url) '/' := Option.some.inj hsame
    have hpart := Py.stripChars_infix Py.isSpace url.toList
    have hprefix := (Py.rstripChar_prefix (Py.strip url) '/').length_le
    rw [← hurl] at hprefix
    unfold Py.strip at hprefix ⊢
    rw [String.toList_ofList] at hprefix
    rw [hpart.eq_of_length (Nat.le_antisymm hpart.length_le hprefix), String.ofList_toList]

/-- What is stored for a text with a scheme is as it should be exactly when the body ends plainly. -/
theorem kept_iff (hlower : LowersSchemes lower) (hscheme : HasScheme (Py.strip value) body) :
    Kept lower (some (Py.rstripChar (Py.strip value) '/')) ↔ EndsPlain body := by
  obtain ⟨scheme, hs, happ⟩ := hscheme
  have hlast := getLast?_rstripSlashes body
  have hstored : (Py.rstripChar (Py.strip value) '/').toList =
      if rstripSlashes body = [] then rstripSlashes scheme else scheme ++ rstripSlashes body := by
    rw [toList_rstripChar, happ, rstripSlashes_append]
  generalize hurl : Py.rstripChar (Py.strip value) '/' = url at hstored ⊢
  by_cases hbody : rstripSlashes body = []
  · -- only slashes follow the scheme, and it loses its own
    rw [if_pos hbody] at hstored
    rw [hbody] at hlast
    constructor
    · intro h
      obtain ⟨⟨rest, hrest, hscheme⟩, _⟩ := h url rfl
      exact absurd hscheme (not_hasScheme_rstrip hs hstored hrest)
    · rintro ⟨c, hc, _⟩
      rw [hc] at hlast
      cases hlast
  · rw [if_neg hbody] at hstored
    have hend : url.toList.getLast? = (rstripSlashes body).getLast? := by
      rw [hstored, List.getLast?_append_of_ne_nil _ hbody]
    have hnoslash : url.toList.getLast? ≠ some '/' := by
      rw [← hurl]
      exact Py.getLast?_rstripChar _ _
    have hhead : ∀ c ∈ url.toList.head?, Py.isSpace c = false := by
      intro c hc
      have hne : scheme ≠ [] := by
        rintro rfl
        have := hs.length.1
        simp at this
      rw [hstored, List.head?_append_of_ne_nil _ hne] at hc
      have hfirst : (Py.strip value).toList.head? = some c := by
        rw [happ, List.head?_append_of_ne_nil _ hne]
        exact hc
      unfold Py.strip at hfirst
      rw [String.toList_ofList] at hfirst
      exact Py.head?_stripChars hfirst
    constructor
    · intro h
      obtain ⟨_, _, hagain⟩ := h url rfl
      refine ⟨(rstripSlashes body).getLast hbody, ?_, ?_⟩
      · rw [← hlast]
        exact List.getLast?_eq_some_getLast hbody
      · -- white space at the end would be stripped the second time
        have hstrip := strip_eq_of_again hlower hagain
        have hlastUrl : url.toList.getLast? = some ((rstripSlashes body).getLast hbody) := by
          rw [hend]
          exact List.getLast?_eq_some_getLast hbody
        rw [← hstrip] at hlastUrl
        unfold Py.strip at hlastUrl
        rw [String.toList_ofList] at hlastUrl
        exact Py.getLast?_stripChars hlastUrl
    · rintro ⟨c, hc, hspace⟩
      have hstrip : Py.strip url = url := by
        unfold Py.strip
        rw [Py.stripChars_eq_self_of_ends hhead, String.ofList_toList]
        intro d hd
        rw [hend, hlast, hc] at hd
        obtain rfl := Option.some.inj hd
        exact hspace
      rintro url' ⟨⟩
      have hurlScheme : HasScheme url (rstripSlashes body) := ⟨scheme, hs, hstored⟩
      refine ⟨⟨_, hbody, hurlScheme⟩, hnoslash, ?_⟩
      rw [validateBaseUrl_eq_ok hlower, hstrip, Py.rstripChar_eq_self hnoslash]
      exact Or.inr ⟨⟨_, hurlScheme⟩, rfl⟩

end

/-- Whatever is stored for a text is as it should be exactly when the text, where it has a scheme, has more
than slashes after it and does not have white space before the trailing slashes. -/
theorem base_url_kept_iff {lower : String → String} (hlower : LowersSchemes lower) (value : Option String) :
    (∀ stored, validateBaseUrl lower value = .ok stored → Kept lower stored) ↔
      ∀ text body, value = some text → HasScheme (Py.strip text) body → EndsPlain body := by
  cases value with
  | none =>
    constructor
    · intro _ text body hnone
      cases hnone
    · intro _ stored hstored url hurl
      rw [← Except.ok.inj hstored] at hurl
      cases hurl
  | some text =>
    constructor
    · rintro h _ body ⟨⟩ hscheme
      exact (kept_iff hlower hscheme).mp
        (h _ ((validateBaseUrl_eq_ok hlower).mpr (Or.inr ⟨⟨body, hscheme⟩, rfl⟩)))
    · intro h stored hstored
      rcases (validateBaseUrl_eq_ok hlower).mp hstored with ⟨_, rfl⟩ | ⟨⟨body, hscheme⟩, rfl⟩
      · intro url hurl
        cases hurl
      · exact (kept_iff hlower hscheme).mpr (h text body rfl hscheme)

theorem places_url_kept :
    validateBaseUrl Py.asciiLower (some " HTTPS://places.googleapis.com/v1// ") =
        .ok (some "HTTPS://places.googleapis.com/v1") ∧
      Kept Py.asciiLower (some "HTTPS://places.googleapis.com/v1") := by
  have hstored : validateBaseUrl Py.asciiLower (some " HTTPS://places.googleapis.com/v1// ") =
      .ok (some "HTTPS://places.googleapis.com/v1") := by decide +kernel
  have hstrip : Py.strip " HTTPS://places.googleapis.com/v1// " = "HTTPS://places.googleapis.com/v1//" := by
    decide +kernel
  refine ⟨hstored, ?_⟩
  refine (base_url_kept_iff
    (fun _ => ⟨rfl, rfl⟩) (some " HTTPS://places.googleapis.com/v1// ")).mpr ?_ _ hstored
  rintro text body hvalue ⟨scheme, hscheme, happ⟩
  obtain rfl := Option.some.inj hvalue
  rw [hstrip] at happ
  have hbody : body = "HTTPS://places.googleapis.com/v1//".toList.drop scheme.length := by
    rw [happ, List.drop_left]
  obtain ⟨h7, h8⟩ := hscheme.length
  have hlen : scheme.length = 7 ∨ scheme.length = 8 := by omega
  refine ⟨'1', ?_, by decide⟩
  rcases hlen with hlen | hlen
  · rw [hbody, hlen]
    decide +kernel
  · rw [hbody, hlen]
    decide +kernel

/-- The bare scheme is stored as `http:`, and white space before a trailing slash is kept: neither is stored
as it is when it is sent again. -/
theorem bare_scheme_stored :
    (validateBaseUrl Py.asciiLower (some "http://") = .ok (some "http:") ∧
      validateBaseUrl Py.asciiLower (some "http:") = .error "base_url must be an http(s) URL" ∧
      ¬ ∀ stored, validateBaseUrl Py.asciiLower (some "http://") = .ok stored → Kept Py.asciiLower stored) ∧
    validateBaseUrl Py.asciiLower (some "http://x /") = .ok (some "http://x ") ∧
      ¬ ∀ stored, validateBaseUrl Py.asciiLower (some "http://x /") = .ok stored →
      Kept Py.asciiLower stored := by
  have hno : ∀ text url : String, validateBaseUrl Py.asciiLower (some text) = .ok (some url) →
      validateBaseUrl Py.asciiLower (some url) ≠ .ok (some url) →
      ¬ ∀ stored, validateBaseUrl Py.asciiLower (some text) = .ok stored → Kept Py.asciiLower stored := by
    intro text url hstored hagain h
    exact hagain (h _ hstored url rfl).2.2
  have hbare : validateBaseUrl Py.asciiLower (some "http://") = .ok (some "http:") := by decide +kernel
  have hrefused :
      validateBaseUrl Py.asciiLower (some "http:") = .error "base_url must be an http(s) URL" := by
    decide +kernel
  have hspace : validateBaseUrl Py.asciiLower (some "http://x /") = .ok (some "http://x ") := by
    decide +kernel
  have hshorter : validateBaseUrl Py.asciiLower (some "http://x ") = .ok (some "http://x") := by
    decide +kernel
  refine ⟨⟨hbare, hrefused, hno _ _ hbare ?_⟩, hspace, hno _ _ hspace ?_⟩
  · rw [hrefused]
    simp
  · rw [hshorter]
    decide

end BaseUrl

end RatingLift
