import RatingLift.Property.Service

/-!
# The search over properties

Both searches put the text of the user between two `%` and leave its characters as they are.  Where none of
them is a wildcard or the escape character, the rows found are those that contain the text (`ilike_of_plain`).
For every other text there is a name that the pattern matches and that does not contain it
(`exists_overmatch`), so that the search is one for literal text exactly where the text is plain
(`literal_search_iff`).
-/

namespace RatingLift

open Library PropertyService

/-- `lower()` of the database goes through a text character by character; it keeps the wildcards, makes no new
ones, and leaves what it has lower-cased. -/
structure LowersByCharacter (lower : String → String) (fold : Char → List Char) : Prop where
  lower_eq : ∀ s, lower s = String.ofList (s.toList.flatMap fold)
  wildcard : ∀ c, isWildcard c = true → fold c = [c]
  plain : ∀ c, isWildcard c = false → ∀ d ∈ fold c, isWildcard d = false
  lowered : ∀ c, ∀ d ∈ fold c, fold d = [d]

/-- The column contains the text, in whatever case. -/
def containsText (lower : String → String) (column text : String) : Bool :=
  decide ((lower text).toList <:+: (lower column).toList)

/-! ### Patterns without wildcards -/

section

variable {lower : String → String} {fold : Char → List Char}

theorem LowersByCharacter.toList_pattern (h : LowersByCharacter lower fold) (text : String) :
    (lower ("%" ++ text ++ "%")).toList = '%' :: ((lower text).toList ++ ['%']) := by
  have hpercent : fold '%' = ['%'] := h.wildcard '%' rfl
  rw [h.lower_eq, h.lower_eq text]
  simp [hpercent]

theorem LowersByCharacter.plain_lower (h : LowersByCharacter lower fold) {text : String} :
    plainText text = true ↔ ∀ c ∈ (lower text).toList, isWildcard c = false := by
  rw [h.lower_eq, String.toList_ofList, plainText, List.all_eq_true]
  constructor
  · intro hplain d hd
    obtain ⟨c, hc, hd⟩ := List.mem_flatMap.mp hd
    exact h.plain c (by simpa using hplain c hc) d hd
  · intro hplain c hc
    by_contra hwild
    have hwild : isWildcard c = true := by simpa using hwild
    have hmem : c ∈ text.toList.flatMap fold := List.mem_flatMap.mpr ⟨c, hc, by rw [h.wildcard c hwild]; simp⟩
    rw [hplain c hmem] at hwild
    cases hwild

/-- A plain text between two `%` matches the columns that contain it. -/
theorem ilike_of_plain (h : LowersByCharacter lower fold) {text : String} (hplain : plainText text = true)
    (column : String) : ilike lower column ("%" ++ text ++ "%") = containsText lower column text := by
  unfold ilike containsText
  rw [Bool.eq_iff_iff, like_iff, decide_eq_true_iff, h.toList_pattern, likeSymbols,
    likeSymbols_plain (h.plain_lower.mp hplain)]
  exact Matches.between

/-! ### Patterns with wildcards -/

/-- A text that the pattern matches: nothing for `%`, and `%` for one character.  A last escape takes the
closing `%`. -/
def overmatch : List Char → List Char
  | [] => []
  | '%' :: w => overmatch w
  | '_' :: w => '%' :: overmatch w
  | ['\\'] => ['%']
  | '\\' :: c :: w => c :: overmatch w
  | c :: w => c :: overmatch w

/-- Any other character stands for itself. -/
theorem overmatch_cons {c : Char} {w : List Char} (hany : c = '%' → False) (hone : c = '_' → False)
    (hlast : c = '\\' → w = [] → False) (hescape : ∀ d v, c = '\\' → w = d :: v → False) :
    overmatch (c :: w) = c :: overmatch w := by
  rw [overmatch]
  · exact hany
  · exact hone
  · exact hlast
  · exact hescape

theorem overmatch_eq (w : List Char) : overmatch w = shortest '%' (likeSymbols (w ++ ['%'])) := by
  induction w using overmatch.induct with
  | case1 => simp [overmatch, likeSymbols, shortest]
  | case2 w ih => simp [overmatch, likeSymbols, shortest, ih]
  | case3 w ih => simp [overmatch, likeSymbols, shortest, ih]
  | case4 => simp [overmatch, likeSymbols, shortest]
  | case5 c w ih => simp [overmatch, likeSymbols, shortest, ih]
  | case6 c w hany hone hlast hescape ih =>
    rw [overmatch_cons hany hone hlast hescape, ih, List.cons_append, likeSymbols, shortest]
    · exact hany
    · exact hone
    · intro d p hc hp
      cases w with
      | nil => exact hlast hc rfl
      | cons e w => exact hescape e w hc rfl

theorem length_overmatch_le (w : List Char) : (overmatch w).length ≤ w.length := by
  induction w using overmatch.induct with
  | case1 => simp [overmatch]
  | case2 w ih =>
    simp only [overmatch, List.length_cons]
    omega
  | case3 w ih =>
    simp only [overmatch, List.length_cons]
    omega
  | case4 => simp [overmatch]
  | case5 c w ih =>
    simp only [overmatch, List.length_cons]
    omega
  | case6 c w hany hone hlast hescape ih =>
    rw [overmatch_cons hany hone hlast hescape, List.length_cons, List.length_cons]
    omega

/-- It is the text itself only when the text is plain. -/
theorem plain_of_overmatch_eq {w : List Char} (h : overmatch w = w) : ∀ c ∈ w, isWildcard c = false := by
  induction w using overmatch.induct with
  | case1 => nofun
  | case2 w ih =>
    have hlength := length_overmatch_le w
    rw [overmatch] at h
    rw [h, List.length_cons] at hlength
    omega
  | case3 w ih =>
    rw [overmatch] at h
    exact absurd (List.cons.inj h).1 (by decide)
  | case4 => exact absurd h (by decide)
  | case5 c w ih =>
    have hlength := length_overmatch_le w
    rw [overmatch] at h
    have := congrArg List.length h
    simp only [List.length_cons] at this
    omega
  | case6 c w hany hone hlast hescape ih =>
    rw [overmatch_cons hany hone hlast hescape] at h
    have hc : c ≠ '\\' := by
      rintro rfl
      cases w with
      | nil => exact hlast rfl rfl
      | cons e w => exact hescape e w rfl rfl
    intro d hd
    rcases List.mem_cons.mp hd with rfl | hd
    · simp only [isWildcard, Bool.or_eq_false_iff, beq_eq_false_iff_ne]
      exact ⟨⟨hany, hone⟩, hc⟩
    · exact ih (List.cons.inj h).2 d hd

/-- It does not contain a text that is not plain. -/
theorem plain_of_infix_overmatch {w : List Char} (h : w <:+: overmatch w) :
    ∀ c ∈ w, isWildcard c = false := by
  have hlength : w.length = (overmatch w).length := Nat.le_antisymm h.length_le (length_overmatch_le w)
  exact plain_of_overmatch_eq (h.eq_of_length hlength).symm

theorem mem_of_letter {c : Char} {p : List Char} (h : .letter c ∈ likeSymbols p) : c ∈ p := by
  induction p using likeSymbols.induct with
  | case1 => cases h
  | case2 p ih =>
    rw [likeSymbols, List.mem_cons] at h
    exact List.mem_cons_of_mem _ (ih (h.resolve_left (by simp)))
  | case3 p ih =>
    rw [likeSymbols, List.mem_cons] at h
    exact List.mem_cons_of_mem _ (ih (h.resolve_left (by simp)))
  | case4 d p ih =>
    rw [likeSymbols, List.mem_cons, Symbol.letter.injEq] at h
    rcases h with rfl | h
    · simp
    · exact List.mem_cons_of_mem _ (List.mem_cons_of_mem _ (ih h))
  | case5 d p hany hone hescape ih =>
    rw [likeSymbols, List.mem_cons, Symbol.letter.injEq] at h
    · rcases h with rfl | h
      · simp
      · exact List.mem_cons_of_mem _ (ih h)
    · exact hany
    · exact hone
    · exact hescape

theorem mem_overmatch {w : List Char} {c : Char} (h : c ∈ overmatch w) : c = '%' ∨ c ∈ w := by
  rw [overmatch_eq] at h
  rcases mem_shortest h with hc | hc
  · exact Or.inl hc
  · rcases List.mem_append.mp (mem_of_letter hc) with hc | hc
    · exact Or.inr hc
    · exact Or.inl (List.mem_singleton.mp hc)

theorem LowersByCharacter.lower_lowered (h : LowersByCharacter lower fold) {l : List Char}
    (hl : ∀ c ∈ l, fold c = [c]) :
    lower (String.ofList l) = String.ofList l := by
  rw [h.lower_eq, String.toList_ofList]
  congr 1
  induction l with
  | nil => rfl
  | cons c l ih =>
    rw [List.flatMap_cons, hl c List.mem_cons_self, ih fun d hd => hl d (List.mem_cons_of_mem _ hd)]
    rfl

/-- A text with a wildcard also finds a column that does not contain it. -/
theorem exists_overmatch (h : LowersByCharacter lower fold) {text : String} (hwild : plainText text = false) :
    ∃ column, ilike lower column ("%" ++ text ++ "%") = true ∧ containsText lower column text = false := by
  refine ⟨String.ofList (overmatch (lower text).toList), ?_⟩
  have hlowered : lower (String.ofList (overmatch (lower text).toList)) =
      String.ofList (overmatch (lower text).toList) := by
    refine h.lower_lowered ?_
    intro d hd
    rcases mem_overmatch hd with rfl | hd
    · exact h.wildcard '%' rfl
    · rw [h.lower_eq, String.toList_ofList] at hd
      obtain ⟨c, _, hd⟩ := List.mem_flatMap.mp hd
      exact h.lowered c d hd
  unfold ilike containsText
  rw [hlowered, String.toList_ofList, like_iff, decide_eq_false_iff_not, h.toList_pattern, likeSymbols]
  constructor
  · rw [overmatch_eq]
    exact .text [] (matches_shortest _ _)
  · intro hinfix
    rw [h.plain_lower.mpr (plain_of_infix_overmatch hinfix)] at hwild
    cases hwild

end

/-! ### The two searches -/

section

variable (env : PlatformEnv)

/-- The rows of the scope, of either state or of one, whose name or place id contains the text. -/
def literalRows (db : Db) (tenant : Option Uuid) (isActive : Option Bool) (text : String) : List Property :=
  db.properties.select fun p =>
    (tenant.all fun t => p.tenantId == t) && (isActive.all fun b => p.isActive == b) &&
    (containsText env.pgLower p.name text || p.googlePlaceId.any fun g => containsText env.pgLower g text)

/-- The page of the rows and their number. -/
def searchPage (limit offset : Int) (rows : List Property) : List Property × Nat :=
  (page limit offset (newestFirst Property.createdAt rows), rows.length)

/-- Both searches for `q` find the rows that contain `q.strip()`. -/
structure SearchesLiterally (q : String) : Prop where
  tenant : ∀ db ctx isActive limit offset, getProperties env db ctx isActive (some q) limit offset =
    (filterByTenant env.pgUuid ctx.tenantId).map fun tenant =>
      searchPage limit offset (literalRows env db (some tenant) isActive (Py.strip q))
  admin : ∀ db tenantId isActive limit offset,
    adminSearchProperties env db tenantId isActive (some q) limit offset =
    (tenantId.mapM fun id => coerceUuid id "Invalid property id").map fun tenant =>
      searchPage limit offset (literalRows env db tenant isActive (Py.strip q))

variable {env} {fold : Char → List Char} {q : String}

/-- The filter of both searches. -/
theorem searchFilter_of_plain (h : LowersByCharacter env.pgLower fold)
    (hplain : plainText (Py.strip q) = true) (p : Property) :
    (q == "" || ilike env.pgLower p.name ("%" ++ Py.strip q ++ "%") ||
        p.googlePlaceId.any fun g => ilike env.pgLower g ("%" ++ Py.strip q ++ "%")) =
      (containsText env.pgLower p.name (Py.strip q) ||
        p.googlePlaceId.any fun g => containsText env.pgLower g (Py.strip q)) := by
  simp only [ilike_of_plain h hplain]
  by_cases hq : q = ""
  · subst hq
    have hcontains : containsText env.pgLower p.name (Py.strip "") = true := by
      have hempty : Py.strip "" = "" := rfl
      simp [containsText, hempty, h.lower_eq]
    simp [hcontains]
  · have hfilter : (q == "") = false := beq_eq_false_iff_ne.mpr hq
    rw [hfilter, Bool.false_or]

theorem searchesLiterally_of_plain (h : LowersByCharacter env.pgLower fold)
    (hplain : plainText (Py.strip q) = true) :
    SearchesLiterally env q where
  tenant db ctx isActive limit offset := by
    unfold getProperties searchPage literalRows
    cases filterByTenant env.pgUuid ctx.tenantId with
    | error e => rfl
    | ok tenant =>
      simp only [Fallible.ok_bind, searchFilter_of_plain h hplain]
      rfl
  admin db tenantId isActive limit offset := by
    unfold adminSearchProperties searchPage literalRows
    cases tenantId.mapM fun id => coerceUuid id "Invalid property id" with
    | error e => rfl
    | ok tenant =>
      simp only [Fallible.ok_bind, searchFilter_of_plain h hplain]
      rfl

/-- A database with one property. -/
def oneProperty (name : String) : Db := { Db.empty with properties := ⟨[{
  id := .ofNat 1
  tenantId := .ofNat 2
  name := name
  googlePlaceId := none
  googleMapsUrl := none
  isActive := true
  createdAt := 0
  updatedAt := 0 }], List.nodup_singleton _⟩ }

/-- What the admin search counts there. -/
theorem adminSearch_oneProperty (env : PlatformEnv) (name q : String) :
    (adminSearchProperties env (oneProperty name) none none (some q) 1 0).map Prod.snd =
      .ok (if (q == "" || ilike env.pgLower name ("%" ++ Py.strip q ++ "%")) = true then 1 else 0) := by
  unfold adminSearchProperties oneProperty Table.select
  rw [Option.mapM_none, pure_bind]
  dsimp only
  simp only [List.filter_cons, List.filter_nil, Option.all_none, Option.any_none, Bool.or_false,
    Bool.true_and]
  split
  · rfl
  · rfl

theorem literalRows_oneProperty (env : PlatformEnv) (name text : String) :
    (literalRows env (oneProperty name) none none text).length =
      if containsText env.pgLower name text = true then 1 else 0 := by
  unfold literalRows oneProperty Table.select
  simp only [List.filter_cons, List.filter_nil, Option.all_none, Option.any_none, Bool.or_false,
    Bool.true_and]
  split
  · rfl
  · rfl

/-- The searches are ones for literal text, on every table, exactly when the text has no wildcard and no
escape. -/
theorem literal_search_iff (h : LowersByCharacter env.pgLower fold) (q : String) :
    SearchesLiterally env q ↔ plainText (Py.strip q) = true := by
  constructor
  · intro hliteral
    by_contra hwild
    have hwild : plainText (Py.strip q) = false := by simpa using hwild
    obtain ⟨name, hmatch, hcontains⟩ := exists_overmatch h hwild
    -- one property of that name is found
    have hfound := adminSearch_oneProperty env name q
    rw [hmatch, Bool.or_true, if_pos rfl, hliteral.admin, Option.mapM_none] at hfound
    have hcount : (literalRows env (oneProperty name) none none (Py.strip q)).length = 1 :=
      Except.ok.inj hfound
    rw [literalRows_oneProperty, hcontains, if_neg (by simp)] at hcount
    cases hcount
  · exact searchesLiterally_of_plain h

end

/-! ### Place ids -/

namespace PlaceSearch

def env : PlatformEnv := ⟨Uuid.parse, Py.asciiLower, fun s t => decide (s ≤ t), fun _ secret => secret⟩

/-- What holds of the ASCII characters and of those that have no other lower case holds of all. -/
theorem forall_char {p : Char → Prop} (hascii : ∀ n < 128, p (Char.ofNat n))
    (hlower : ∀ c, c.toLower = c → p c) (c : Char) :
    p c := by
  by_cases hc : c.toNat < 128
  · rw [← Char.ofNat_toNat c]
    exact hascii _ hc
  · refine hlower c ?_
    have hupper : ¬ (c.val ≥ 'A'.val ∧ c.val ≤ 'Z'.val) := by
      rintro ⟨_, hle⟩
      have : c.toNat ≤ 90 := UInt32.le_iff_toNat_le.mp hle
      omega
    unfold Char.toLower
    exact dif_neg hupper

theorem isWildcard_toLower : ∀ c : Char, isWildcard c.toLower = isWildcard c :=
  forall_char (by decide) fun c hc => by rw [hc]

theorem toLower_toLower : ∀ c : Char, c.toLower.toLower = c.toLower :=
  forall_char (by decide) fun c hc => by rw [hc, hc]

theorem lowersByCharacter : LowersByCharacter env.pgLower fun c => [c.toLower] where
  lower_eq s := by
    show Py.asciiLower s = _
    unfold Py.asciiLower
    rw [← List.map_eq_flatMap]
  wildcard c hc := by
    simp only [isWildcard, Bool.or_eq_true, beq_iff_eq] at hc
    rcases hc with (rfl | rfl) | rfl
    · rfl
    · rfl
    · rfl
  plain c hc d hd := by
    obtain rfl := List.mem_singleton.mp hd
    rw [isWildcard_toLower, hc]
  lowered c d hd := by
    obtain rfl := List.mem_singleton.mp hd
    rw [toLower_toLower]

/-- A search for `Hotel_1` finds the property that is named `Hotel 1`. -/
theorem underscore_overmatches :
    LowersByCharacter env.pgLower (fun c => [c.toLower]) ∧ Py.strip "Hotel_1" ≠ "" ∧
    ¬ SearchesLiterally env "Hotel_1" := by
  refine ⟨lowersByCharacter, by decide, ?_⟩
  intro hliteral
  have hadmin := hliteral.admin (oneProperty "Hotel 1") none none 1 0
  have hcount := congrArg (·.map Prod.snd) hadmin
  exact absurd hcount (by decide)

/-- A search for a text without such characters is one for that text. -/
theorem plain_search : SearchesLiterally env " ChIJ-1 " :=
  (literal_search_iff lowersByCharacter _).mpr (by decide)

end PlaceSearch

end RatingLift
