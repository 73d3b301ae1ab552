import RatingLift.Connectors.LogoIntegrity
import RatingLift.Library.Separated
import RatingLift.Python.Re

/-!
# Slugs of connector names

The file of a logo is named after the slug of its connector.

* (`slugify_separated`) a slug is words of lower-case letters and digits joined by single hyphens;
* (`slugify_eq_self`) what has that form, and at most sixty characters, is its own slug;
* (`startsWith_logoKey`) the prefix that the purge lists is the one of the keys of that slug;
* (`slugs_canonical`) together: slugs are a canonical form and keep the keys of two slugs apart.
-/

namespace RatingLift

open Library Fallible

namespace Logos

/-- Unicode NFKD leaves ASCII texts alone. -/
def AsciiFixed (nfkd : String → String) : Prop := ∀ s : String, (∀ c ∈ s.toList, c.toNat < 128) → nfkd s = s

/-- The characters of a slug: one of a word, or the hyphen. -/
abbrev SlugForm (l : List Char) : Prop := Separated Py.isLowerAlnum '-' l

theorem isAsciiAlnum_iff {c : Char} : isAsciiAlnum c = true ↔
    (0x61 ≤ c.toNat ∧ c.toNat ≤ 0x7A) ∨ (0x41 ≤ c.toNat ∧ c.toNat ≤ 0x5A) ∨
    (0x30 ≤ c.toNat ∧ c.toNat ≤ 0x39) := by
  simp [isAsciiAlnum, or_assoc]

theorem isLowerAlnum_toLower {c : Char} (h : isAsciiAlnum c = true) : Py.isLowerAlnum c.toLower = true := by
  have hascii : ∀ n < 128, isAsciiAlnum (Char.ofNat n) = true →
      Py.isLowerAlnum (Char.ofNat n).toLower = true := by decide
  have hlt : c.toNat < 128 := by
    rw [isAsciiAlnum_iff] at h
    omega
  have := hascii c.toNat hlt
  rw [Char.ofNat_toNat] at this
  exact this h

theorem isAsciiAlnum_of_isLowerAlnum {c : Char} (h : Py.isLowerAlnum c = true) : isAsciiAlnum c = true := by
  rw [Py.isLowerAlnum_iff] at h
  rw [isAsciiAlnum_iff]
  omega

/-- `dashRuns` collapses the hyphens that the other characters become. -/
theorem dashRuns_eq (l : List Char) : ∀ inRun : Bool,
    dashRuns inRun l = collapseFrom '-' inRun (l.map fun c => if isAsciiAlnum c then c else '-') := by
  have hhyphen : isAsciiAlnum '-' = false := by decide
  induction l with
  | nil => intro inRun; rfl
  | cons c l ih =>
    intro inRun
    rw [List.map_cons]
    unfold dashRuns collapseFrom
    by_cases hc : isAsciiAlnum c = true
    · have hne : c ≠ '-' := by
        rintro rfl
        rw [hhyphen] at hc
        cases hc
      simp [hc, hne, ih]
    · simp [hc, ih]

theorem mem_dashRuns {c : Char} {l : List Char} (h : c ∈ dashRuns false l) :
    c = '-' ∨ isAsciiAlnum c = true := by
  rw [dashRuns_eq] at h
  obtain ⟨d, _, rfl⟩ := List.mem_map.mp (mem_of_mem_collapseFrom h)
  by_cases hd : isAsciiAlnum d = true
  · right
    simp [hd]
  · left
    simp [hd]

theorem singleSeps_dashRuns (l : List Char) : SingleSeps '-' (dashRuns false l) := by
  rw [dashRuns_eq]
  exact singleSeps_collapse _

theorem singleSeps_lower {l : List Char} (hmem : ∀ c ∈ l, c = '-' ∨ isAsciiAlnum c = true)
    (h : SingleSeps '-' l) :
    SingleSeps '-' (l.map Char.toLower) := by
  have hhyphen : Py.isLowerAlnum '-' = false := by decide
  -- a letter or digit does not become a hyphen
  have hne : ∀ c ∈ l, c ≠ '-' → c.toLower ≠ '-' := by
    intro c hc hc' hlower
    have := isLowerAlnum_toLower ((hmem c hc).resolve_left hc')
    rw [hlower, hhyphen] at this
    cases this
  unfold SingleSeps
  rw [List.isChain_map]
  refine h.imp_of_mem_imp ?_
  intro a b ha hb hab
  rcases hab with hab | hab
  · exact Or.inl (hne a ha hab)
  · exact Or.inr (hne b hb hab)

/-- Stripping the hyphens leaves the form of a slug. -/
theorem slugForm_strip {l : List Char} (hmem : ∀ c ∈ l, c = '-' ∨ Py.isLowerAlnum c = true)
    (h : SingleSeps '-' l) :
    SlugForm (Py.stripChars (· = '-') l) where
  mem c hc := hmem c ((Py.stripChars_infix _ l).subset hc)
  single := h.infix (Py.stripChars_infix _ l)
  head hhead := by simpa using Py.head?_stripChars hhead
  last hlast := by simpa using Py.getLast?_stripChars hlast

theorem slugForm_connector : SlugForm "connector".toList where
  mem := by
    have hall : "connector".toList.all (fun c => c = '-' || Py.isLowerAlnum c) = true := by decide
    simpa [List.all_eq_true] using hall
  single := by
    unfold SingleSeps
    decide
  head := by decide
  last := by decide

section

variable (nfkd : String → String) (name : String)

/-- A slug is the fallback, or what is left of the cut after its hyphens are stripped. -/
theorem slugify_cases : slugify nfkd name = "connector" ∨
    ∃ l : List Char, (∀ c ∈ l, c = '-' ∨ Py.isLowerAlnum c = true) ∧ SingleSeps '-' l ∧ l.length ≤ 60 ∧
      Py.stripChars (· = '-') l ≠ [] ∧ slugify nfkd name = String.ofList (Py.stripChars (· = '-') l) := by
  unfold slugify
  by_cases hname : name = ""
  · left
    rw [if_pos hname]
  rw [if_neg hname]
  extract_lets asciiOnly slug slug'
  by_cases hempty : slug'.isEmpty = true
  · left
    rw [if_pos hempty]
  rw [if_neg hempty]
  right
  have hmem : ∀ c ∈ Py.stripChars (· = '-') (dashRuns false asciiOnly), c = '-' ∨ isAsciiAlnum c = true :=
    fun c hc => mem_dashRuns ((Py.stripChars_infix _ _).subset hc)
  have hsingle : SingleSeps '-' (Py.stripChars (· = '-') (dashRuns false asciiOnly)) :=
    List.IsChain.infix (singleSeps_dashRuns asciiOnly) (Py.stripChars_infix _ _)
  refine ⟨slug.take 60, ?_, (singleSeps_lower hmem hsingle).take 60, ?_, ?_, rfl⟩
  · intro c hc
    obtain ⟨d, hd, rfl⟩ := List.mem_map.mp (List.mem_of_mem_take hc)
    rcases hmem d hd with rfl | hd
    · left
      decide
    · exact Or.inr (isLowerAlnum_toLower hd)
  · rw [List.length_take]
    omega
  · intro hnil
    apply hempty
    show (Py.stripChars (· = '-') (slug.take 60)).isEmpty = true
    rw [hnil]
    rfl

/-- A slug is words joined by single hyphens. -/
theorem slugify_separated : SlugForm (slugify nfkd name).toList := by
  rcases slugify_cases nfkd name with h | ⟨l, hmem, hsingle, _, _, h⟩
  · rw [h]
    exact slugForm_connector
  · rw [h, String.toList_ofList]
    exact slugForm_strip hmem hsingle

theorem slugify_length : 1 ≤ (slugify nfkd name).toList.length ∧ (slugify nfkd name).toList.length ≤ 60 := by
  rcases slugify_cases nfkd name with h | ⟨l, _, _, hlen, hne, h⟩
  · rw [h]
    decide
  · rw [h, String.toList_ofList]
    have hcut := (Py.stripChars_infix (· = '-') l).length_le
    have hpos := List.length_pos_iff.mpr hne
    omega

theorem slugify_ne_empty : slugify nfkd name ≠ "" := by
  intro h
  have hlen := (slugify_length nfkd name).1
  rw [h] at hlen
  simp at hlen

variable {nfkd name}

/-- A slug is made of letters, digits and hyphens. -/
theorem mem_slugify {c : Char} (h : c ∈ (slugify nfkd name).toList) : c = '-' ∨ isAsciiAlnum c = true := by
  rcases (slugify_separated nfkd name).mem c h with hc | hc
  · exact Or.inl hc
  · exact Or.inr (isAsciiAlnum_of_isLowerAlnum hc)

/-- `safe_slug` is the slug. -/
theorem filter_slugify (nfkd : String → String) (name : String) :
    String.ofList ((slugify nfkd name).toList.filter fun c => isAsciiAlnum c || c == '_' || c == '-') =
      slugify nfkd name := by
  have hall : ∀ c ∈ (slugify nfkd name).toList, (isAsciiAlnum c || c == '_' || c == '-') = true := by
    intro c hc
    rcases mem_slugify hc with rfl | hc
    · simp
    · simp [hc]
  rw [List.filter_eq_self.mpr hall, String.ofList_toList]

theorem purgeSlugSiblings_slugify (db : Db) (storage : Storage) (connector : Connector) (keep : String) :
    purgeSlugSiblings db storage connector (slugify nfkd name) keep =
      (storage.listPrefix ("connectors/" ++ slugify nfkd name ++ ".")).foldl (purgeSibling db connector keep)
        storage := by
  unfold purgeSlugSiblings
  rw [filter_slugify, if_neg (slugify_ne_empty nfkd name)]

/-- What has the form of a slug is its own slug. -/
theorem slugify_eq_self (hnfkd : AsciiFixed nfkd) {s : String} (hne : s ≠ "") (hlen : s.toList.length ≤ 60)
    (h : SlugForm s.toList) : slugify nfkd s = s := by
  have hletter : ∀ c ∈ s.toList, c = '-' ∨ isAsciiAlnum c = true :=
    fun c hc => (h.mem c hc).imp_right isAsciiAlnum_of_isLowerAlnum
  have hascii : ∀ c ∈ s.toList, c.toNat < 128 := by
    intro c hc
    rcases hletter c hc with rfl | hc
    · decide
    · rw [isAsciiAlnum_iff] at hc
      omega
  have hfilter : s.toList.filter (fun c => decide (c.toNat < 128)) = s.toList := by
    rw [List.filter_eq_self]
    intro c hc
    simpa using hascii c hc
  have hdashes : dashRuns false s.toList = s.toList := by
    have hkept : (s.toList.map fun c => if isAsciiAlnum c then c else '-') = s.toList := by
      conv => rhs; rw [← List.map_id s.toList]
      apply List.map_congr_left
      intro c hc
      rcases hletter c hc with rfl | hc
      · decide
      · simp [hc]
    rw [dashRuns_eq, hkept]
    exact collapse_eq_self h.single
  have hstrip : Py.stripChars (· = '-') s.toList = s.toList := by
    apply Py.stripChars_eq_self_of_ends
    · intro c hc
      have hne : c ≠ '-' := fun hc' => h.head (hc' ▸ hc)
      simpa using hne
    · intro c hc
      have hne : c ≠ '-' := fun hc' => h.last (hc' ▸ hc)
      simpa using hne
  have hlower : s.toList.map Char.toLower = s.toList := by
    conv => rhs; rw [← List.map_id s.toList]
    apply List.map_congr_left
    intro c hc
    rcases h.mem c hc with rfl | hc
    · decide
    · exact Py.toLower_of_isLowerAlnum hc
  have hnonempty : s.toList.isEmpty = false := by
    cases hs : s.toList with
    | nil => exact absurd (String.toList_injective hs) hne
    | cons c l => rfl
  unfold slugify
  rw [if_neg hne]
  dsimp only
  rw [hnfkd s hascii, hfilter, hdashes, hstrip, hlower, List.take_of_length_le hlen, hstrip, hnonempty]
  simp

/-- The prefix that the purge of a slug lists is a prefix of no key of another one. -/
theorem startsWith_logoKey {slug s ext : String} (hslug : '.' ∉ slug.toList) (hs : '.' ∉ s.toList) :
    Py.startsWith (logoKey s ext) ("connectors/" ++ slug ++ ".") = true ↔ s = slug := by
  unfold logoKey
  constructor
  · intro h
    obtain ⟨t, ht⟩ := Py.startsWith_iff.mp h
    have hchars := congrArg String.toList ht
    simp only [String.toList_append, List.append_assoc, List.append_cancel_left_eq] at hchars
    have hdot : (".".toList : List Char) = ['.'] := by decide
    rw [hdot] at hchars
    apply String.toList_injective
    have hbefore : ∀ (l : List Char) (r : List Char), '.' ∉ l →
        (l ++ (['.'] ++ r)).takeWhile (· ≠ '.') = l := by
      intro l r hl
      have hall : ∀ c ∈ l, decide (c ≠ '.') = true := by
        intro c hc
        have hne : c ≠ '.' := by
          rintro rfl
          exact hl hc
        simpa using hne
      rw [List.takeWhile_append_of_pos hall]
      simp
    rw [← hbefore s.toList ext.toList hs, ← hbefore slug.toList t.toList hslug, hchars]
  · rintro rfl
    rw [Py.startsWith_iff]
    exact ⟨ext, rfl⟩

theorem dot_not_mem_slugify : '.' ∉ (slugify nfkd name).toList := by
  intro h
  have hdot : isAsciiAlnum '.' = false := by decide
  rcases mem_slugify h with h | h
  · revert h
    decide
  · rw [hdot] at h
    cases h

/-- Every key that `list_prefix` gives begins with the prefix. -/
theorem startsWith_of_mem_listPrefix {storage : Storage} {start key : String}
    (h : key ∈ storage.listPrefix start) :
    Py.startsWith key start = true := by
  unfold Storage.listPrefix at h
  extract_lets keys at h
  split at h
  · have hrest := (List.mem_filter.mp h).2
    by_contra hstart
    rw [Bool.not_eq_true, ← Py.dropPrefix?_eq_none] at hstart
    rw [hstart] at hrest
    cases hrest
  · exact (List.mem_filter.mp h).2

end

/-! ### The filename of an upload -/

section

variable {env : ConnectorEnv} {settings : Settings} {db : Db} {storage : Storage} {connector : Connector}

/-- The status of an error, where it is a response. -/
def statusOf : Exn → Option Nat
  | .http status _ => some status
  | _ => none

theorem safeExtension_error {lower : String → String} {filename contentType : Option String} {e : Exn}
    (h : safeExtension lower filename contentType = .error e) : statusOf e = some 415 := by
  unfold safeExtension at h
  extract_lets byType suffix at h
  clear_value byType suffix
  cases byType with
  | some ext => cases h
  | none =>
    dsimp only at h
    split at h
    · cases h
    · rw [← Except.error.inj h]
      rfl

/-- An image is refused as unsupported or as too large, or validated with one of four extensions. -/
theorem validateImageBytes_cases (env : ConnectorEnv) (settings : Settings) (file : Bytes)
    (declaredExt : String) :
    (∃ e, validateImageBytes env settings file declaredExt = .error e ∧
        (statusOf e = some 415 ∨ statusOf e = some 413)) ∨
      ∃ ext ∈ ["svg", "png", "jpg", "webp"], validateImageBytes env settings file declaredExt = .ok ext := by
  unfold validateImageBytes
  split
  · extract_lets head
    split
    · exact Or.inl ⟨_, rfl, Or.inl rfl⟩
    split
    · exact Or.inl ⟨_, rfl, Or.inl rfl⟩
    · exact Or.inr ⟨"svg", by decide, rfl⟩
  split
  · exact Or.inl ⟨_, rfl, Or.inl rfl⟩
  split
  · exact Or.inl ⟨_, rfl, Or.inl rfl⟩
  split
  · exact Or.inl ⟨_, rfl, Or.inl rfl⟩
  rename_i actualExt hformat
  extract_lets maxPx
  split
  · exact Or.inl ⟨_, rfl, Or.inl rfl⟩
  split
  · exact Or.inl ⟨_, rfl, Or.inr rfl⟩
  · obtain ⟨before, after, hpair, _⟩ := List.lookup_eq_some_iff.mp hformat
    have hmem : actualExt ∈ pilFormatToExt.map Prod.snd := by
      rw [hpair]
      simp
    have hsub : ∀ ext ∈ pilFormatToExt.map Prod.snd, ext ∈ ["svg", "png", "jpg", "webp"] := by decide
    exact Or.inr ⟨actualExt, hsub _ hmem, rfl⟩

/-- The file id of an upload has no other characters than the check allows. -/
theorem filename_passes (nfkd : String → String) (name : String) {ext : String}
    (hext : ext ∈ ["svg", "png", "jpg", "webp"]) :
    ((slugify nfkd name ++ "." ++ ext).toList.all fun c =>
      isAsciiAlnum c || c == '_' || c == '.' || c == '-') = true := by
  have hdot : (".".toList.all fun c => isAsciiAlnum c || c == '_' || c == '.' || c == '-') = true := by decide
  have hextension : (ext.toList.all fun c => isAsciiAlnum c || c == '_' || c == '.' || c == '-') = true := by
    have hall : (["svg", "png", "jpg", "webp"].all fun ext =>
        ext.toList.all fun c => isAsciiAlnum c || c == '_' || c == '.' || c == '-') = true := by decide
    exact List.all_eq_true.mp hall ext hext
  have hslug :
      ((slugify nfkd name).toList.all fun c =>
        isAsciiAlnum c || c == '_' || c == '.' || c == '-') = true := by
    rw [List.all_eq_true]
    intro c hc
    rcases mem_slugify hc with rfl | hc
    · decide
    · simp [hc]
  rw [String.toList_append, String.toList_append, List.all_append, List.all_append, hslug, hdot, hextension]
  rfl

/-- No refusal of an upload is about its filename. -/
theorem checkLogo_error {file : UploadFile} {e : Exn}
    (h : checkLogo env settings db connector file = .error e) :
    e ≠ .http 400 "Invalid filename" := by
  have other : ∀ status : Nat, statusOf e = some status → status ≠ 400 →
      e ≠ .http 400 "Invalid filename" := by
    rintro status hstatus hne rfl
    exact hne (Option.some.inj hstatus).symm
  unfold checkLogo at h
  split at h
  · rw [← Except.error.inj h]
    simp
  split at h
  · rw [← Except.error.inj h]
    simp
  cases hext : safeExtension env.lower file.filename file.contentType with
  | error e' =>
    rw [hext] at h
    obtain rfl := Except.error.inj h
    exact other 415 (safeExtension_error hext) (by decide)
  | ok ext =>
    rw [hext, ok_bind] at h
    rcases validateImageBytes_cases env settings file.data ext with
      ⟨e', hvalid, hstatus⟩ | ⟨ext', hext', hvalid⟩
    · rw [hvalid] at h
      obtain rfl := Except.error.inj h
      rcases hstatus with hstatus | hstatus
      · exact other 415 hstatus (by decide)
      · exact other 413 hstatus (by decide)
    · rw [hvalid, ok_bind] at h
      dsimp only at h
      cases hhash : assertUniqueLogoHash db (env.sha256 file.data) (some connector.id) with
      | error e' =>
        have hstatus : statusOf e' = some 409 := by
          unfold assertUniqueLogoHash at hhash
          split at hhash
          · cases hhash
          · rw [← Except.error.inj hhash]
            rfl
        rw [hhash] at h
        obtain rfl := Except.error.inj h
        exact other 409 hstatus (by decide)
      | ok unique =>
        rw [hhash, ok_bind] at h
        rw [if_pos (filename_passes env.nfkd connector.name hext')] at h
        cases h

/-- The check of the filename never fails. -/
theorem saveConnectorLogo_filename (file : UploadFile) :
    (saveConnectorLogo env settings db storage connector file).2 ≠ .error (.http 400 "Invalid filename") := by
  unfold saveConnectorLogo
  cases hcheck : checkLogo env settings db connector file with
  | error e =>
    intro h
    exact checkLogo_error hcheck (Except.error.inj h)
  | ok logo =>
    dsimp only
    unfold flushConnector
    split
    · simp
    · split
      · simp
      · simp

end

/-- A slug has 1 to 60 characters, is words of lower-case letters and digits joined by single hyphens, and is
its own slug; so the check of the filename never fails, the purge uses the slug as it is, and it lists the
keys of no other slug. -/
theorem slugs_canonical (env : ConnectorEnv) (hnfkd : AsciiFixed env.nfkd) (name : String) :
    (1 ≤ (slugify env.nfkd name).toList.length ∧ (slugify env.nfkd name).toList.length ≤ 60) ∧
      Joined Py.isLowerAlnum '-' (slugify env.nfkd name).toList ∧
      slugify env.nfkd (slugify env.nfkd name) = slugify env.nfkd name ∧
      (∀ (settings : Settings) (db : Db) (storage : Storage) (connector : Connector) (file : UploadFile),
        (saveConnectorLogo env settings db storage connector file).2 ≠
          .error (.http 400 "Invalid filename")) ∧
      String.ofList ((slugify env.nfkd name).toList.filter fun c => isAsciiAlnum c || c == '_' || c == '-') =
        slugify env.nfkd name ∧
      ∀ (db : Db) (storage : Storage) (connector : Connector) (keep : String),
        purgeSlugSiblings db storage connector (slugify env.nfkd name) keep =
          (storage.listPrefix ("connectors/" ++ slugify env.nfkd name ++ ".")).foldl
            (purgeSibling db connector keep)
            storage ∧
        (∀ key ∈ storage.listPrefix ("connectors/" ++ slugify env.nfkd name ++ "."), ∀ other ext : String,
          key = logoKey (slugify env.nfkd other) ext → slugify env.nfkd other = slugify env.nfkd name) ∧
        ∀ s ext : String, '.' ∉ s.toList →
          (Py.startsWith (logoKey s ext) ("connectors/" ++ slugify env.nfkd name ++ ".") = true ↔
            s = slugify env.nfkd name) := by
  have hlen := slugify_length env.nfkd name
  have hform := slugify_separated env.nfkd name
  have hne : (slugify env.nfkd name).toList ≠ [] := List.length_pos_iff.mp hlen.1
  refine ⟨hlen, hform.joined hne, slugify_eq_self hnfkd (slugify_ne_empty env.nfkd name) hlen.2 hform,
    fun settings db storage connector file => saveConnectorLogo_filename file,
      filter_slugify env.nfkd name, ?_⟩
  intro db storage connector keep
  refine ⟨purgeSlugSiblings_slugify db storage connector keep, ?_, ?_⟩
  · rintro key hkey other ext rfl
    exact (startsWith_logoKey dot_not_mem_slugify dot_not_mem_slugify).mp (startsWith_of_mem_listPrefix hkey)
  · intro s ext hs
    exact startsWith_logoKey dot_not_mem_slugify hs

theorem uber_slug_canonical :
    slugify SharedSlug.env.nfkd "Uber -- Eats!" = "uber-eats" ∧
      slugify SharedSlug.env.nfkd (slugify SharedSlug.env.nfkd "Uber -- Eats!") =
        slugify SharedSlug.env.nfkd "Uber -- Eats!" :=
  ⟨by decide, (slugs_canonical SharedSlug.env (fun _ _ => rfl) "Uber -- Eats!").2.2.1⟩

end Logos

end RatingLift
