import RatingLift.PropertyConnector.BindingRows
import RatingLift.PropertyConnector.Confidentiality

/-!
# The credentials that workers get

`get_credentials` reads what the binding routes have written.  In every run of these routes it succeeds
exactly for an active binding, and returns the secret of the latest activation or update that supplied one,
and the latest scopes and base URL.  Its `config` equals the latest one as Python compares, and is the latest
one, to the order of its keys, unless that was written over a `config` that it merely compares equal to
(`credentials_right_iff`).
-/

namespace RatingLift

open Library Fallible

structure ConnectorCredentials where
  propertyConnectorId : Uuid
  propertyId : Uuid
  tenantId : Uuid
  connectorId : Uuid
  connectorName : Option String
  apiKey : String
  apiSecret : Option String
  scopes : Option (List String)
  config : Option Dict
  baseUrl : Option String
  isActive : Bool

namespace PropertyConnectorService

section

variable (decryptSecret : String → Option String) (db : Db)

/-- The secret of a row in the clear; a ciphertext that `decrypt_secret` refuses is `none`. -/
def plaintextSecret (pc : PropertyConnector) : Except Exn (Option String) :=
  match pc.apiSecret with
  | none | some "" => .ok none
  | some ciphertext =>
    match decryptSecret ciphertext with
    | none => .error (.http 500 "Stored connector secret cannot be decrypted")
    | some plaintext => .ok (some plaintext)

/-- What `get_credentials` returns of a row, its property and its connector. -/
def credentialsOf (pc : PropertyConnector) (prop : Property) (plaintext : Option String) :
    ConnectorCredentials where
  propertyConnectorId := pc.id
  propertyId := prop.id
  tenantId := prop.tenantId
  connectorId := pc.connectorId
  connectorName := (db.connectors.find? pc.connectorId).map (·.name)
  apiKey := pc.apiKey
  apiSecret := plaintext
  scopes := pc.scopes
  config := pc.config
  baseUrl := pc.baseUrl
  isActive := pc.isActive

/-- `get_credentials` -/
def getCredentials (propertyConnectorId : RawId) : Except Exn ConnectorCredentials := do
  let pcId ← coerceUuid propertyConnectorId "Invalid property_connector id"
  -- the join with the property is an inner one, the join with the connector an outer one
  match (db.propertyConnectors.first fun pc => pc.id == pcId && pc.isActive).bind fun pc =>
      (db.properties.find? pc.propertyId).map fun prop => (pc, prop) with
  | none => .error (.http 404 "Property connector not found or inactive")
  | some (pc, prop) =>
    let plaintext ← plaintextSecret decryptSecret pc
    return credentialsOf db pc prop plaintext

end

end PropertyConnectorService

open PropertyConnectorService

/-- Fernet under a fixed key: what was encrypted decrypts, and no ciphertext is empty. -/
structure Cipher (encryptSecret : Nat → String → String) (decryptSecret : String → Option String) : Prop where
  decrypt_encrypt : ∀ iv secret, decryptSecret (encryptSecret iv secret) = some secret
  ne_empty : ∀ iv secret, encryptSecret iv secret ≠ ""

/-! ### What a run has assigned to a binding -/

section

variable (env : PlatformEnv) (b : Uuid)

/-- What a step assigns to the binding `b`: the request is answered with that binding. -/
def assignedTo (x : RoutedStep) : Option Assignment :=
  match x.label.reply env x.before with
  | .ok reply => if reply.bindingId = some b then x.label.request.assignment else none
  | .error _ => none

variable (tr : List RoutedStep)

/-- The latest value of a field that an activation or update of `b` has supplied. -/
def latestAssigned {α : Type} (field : Assignment → Option α) : Option α :=
  Run.latest (fun x => (assignedTo env b x).bind field) tr

/-- The values of `config` that activations and updates of `b` have supplied. -/
def assignedConfigs : List (Option Dict) := tr.filterMap fun x => (assignedTo env b x).bind Assignment.config

/-- What the row holds after these values of `config`. -/
def storedConfig (configs : List (Option Dict)) : Option Dict :=
  configs.foldl PropertyConnector.writtenConfig none

/-- The last value of `config` is not one that merely compares equal to what the row held. -/
def ConfigKept (configs : List (Option Dict)) : Prop :=
  ∀ earlier config, configs = earlier ++ [config] → optDictEq (storedConfig earlier) config = true →
    config = storedConfig earlier

/-- The row `pc` of the binding `b` as the run has assigned it, in a database with the properties
`properties`. -/
structure RowOfRun (properties : Table Property) (pc : PropertyConnector) : Prop where
  secret : ∃ secret iv, latestAssigned env b tr Assignment.secret = some secret ∧
    pc.apiSecret = some (env.encryptSecret iv secret)
  scopes : latestAssigned env b tr Assignment.scopes = some pc.scopes
  config : pc.config = storedConfig (assignedConfigs env b tr)
  configs : assignedConfigs env b tr ≠ []
  baseUrl : latestAssigned env b tr Assignment.baseUrl = some pc.baseUrl
  property : ∃ prop, properties.find? pc.propertyId = some prop

/-- Every binding is as the run has assigned it, and nothing has been assigned to a binding that does not
exist. -/
structure AsAssigned (db : Db) : Prop where
  row : ∀ b pc, db.propertyConnectors.find? b = some pc → RowOfRun env b tr db.properties pc
  absent : ∀ b, db.propertyConnectors.find? b = none → assignedConfigs env b tr = []

end

section

variable {env : PlatformEnv} {b : Uuid} {tr : List RoutedStep} {x : RoutedStep} {a : Assignment}

theorem latestAssigned_snoc {α : Type} {field : Assignment → Option α} :
    latestAssigned env b (tr ++ [x]) field =
      ((assignedTo env b x).bind field).or (latestAssigned env b tr field) :=
  Run.latest_snoc

theorem assignedConfigs_snoc :
    assignedConfigs env b (tr ++ [x]) = assignedConfigs env b tr ++
      ((assignedTo env b x).bind Assignment.config).toList := by
  unfold assignedConfigs
  rw [List.filterMap_append]
  cases hx : (assignedTo env b x).bind Assignment.config <;> simp [hx]

theorem storedConfig_snoc {configs : List (Option Dict)} {config : Option Dict} :
    storedConfig (configs ++ [config]) = PropertyConnector.writtenConfig (storedConfig configs) config := by
  unfold storedConfig
  rw [List.foldl_append]
  rfl

/-- A step that assigns nothing to `b` leaves its row as the run has assigned it. -/
theorem RowOfRun.kept {properties : Table Property} {pc : PropertyConnector}
    (h : RowOfRun env b tr properties pc) (hx : assignedTo env b x = none) :
    RowOfRun env b (tr ++ [x]) properties pc := by
  constructor
  · rw [latestAssigned_snoc, hx]
    exact h.secret
  · rw [latestAssigned_snoc, hx]
    exact h.scopes
  · rw [assignedConfigs_snoc, hx]
    simpa using h.config
  · rw [assignedConfigs_snoc, hx]
    simpa using h.configs
  · rw [latestAssigned_snoc, hx]
    exact h.baseUrl
  · exact h.property

/-- A step that assigns `a` to `b`, where the row was `old`, leaves the row `new`. -/
theorem RowOfRun.assigned {properties : Table Property} {old : Option PropertyConnector}
    {new : PropertyConnector} {iv : Nat} (hold : ∀ pc, old = some pc → RowOfRun env b tr properties pc)
    (habsent : old = none → assignedConfigs env b tr = []) (hx : assignedTo env b x = some a)
    (hnew : Assigned (env.encryptSecret iv) a old new)
    (hprop : ∃ prop, properties.find? new.propertyId = some prop) :
    RowOfRun env b (tr ++ [x]) properties new := by
  constructor
  · rw [latestAssigned_snoc, hx, Option.bind_some]
    cases hs : a.secret with
    | some secret => exact ⟨secret, iv, rfl, hnew.secret secret hs⟩
    | none =>
      obtain ⟨pc, hpc, hsame⟩ := hnew.sameSecret hs
      rw [hsame]
      exact (hold pc hpc).secret
  · rw [latestAssigned_snoc, hx, Option.bind_some]
    cases hs : a.scopes with
    | some scopes => exact congrArg some (hnew.scopes scopes hs).symm
    | none =>
      obtain ⟨pc, hpc, hsame⟩ := hnew.sameScopes hs
      rw [hsame]
      exact (hold pc hpc).scopes
  · rw [assignedConfigs_snoc, hx, Option.bind_some]
    cases hs : a.config with
    | some config =>
      rw [Option.toList_some, storedConfig_snoc, hnew.config config hs]
      cases old with
      | none =>
        -- a new row takes its first `config` as it comes
        rw [habsent rfl]
        exact PropertyConnector.writtenConfig_none.symm
      | some pc => rw [← (hold pc rfl).config]; rfl
    | none =>
      obtain ⟨pc, hpc, hsame⟩ := hnew.sameConfig hs
      rw [hsame, Option.toList_none, List.append_nil]
      exact (hold pc hpc).config
  · rw [assignedConfigs_snoc, hx, Option.bind_some]
    cases hs : a.config with
    | some config => simp
    | none =>
      obtain ⟨pc, hpc, _⟩ := hnew.sameConfig hs
      simpa using (hold pc hpc).configs
  · rw [latestAssigned_snoc, hx, Option.bind_some]
    cases hs : a.baseUrl with
    | some baseUrl => exact congrArg some (hnew.baseUrl baseUrl hs).symm
    | none =>
      obtain ⟨pc, hpc, hsame⟩ := hnew.sameBaseUrl hs
      rw [hsame]
      exact (hold pc hpc).baseUrl
  · exact hprop

/-- What a row holds besides the switch. -/
theorem RowOfRun.switched {properties : Table Property} {pc : PropertyConnector} {isActive : Bool}
    (h : RowOfRun env b tr properties pc) : RowOfRun env b tr properties { pc with isActive := isActive } :=
  ⟨h.secret, h.scopes, h.config, h.configs, h.baseUrl, h.property⟩

end

/-! ### One request -/

/-- No binding has the id that the request draws. -/
def FreshBinding (_ : List RoutedStep) (db : Db) (r : RoutedRequest) : Prop :=
  db.propertyConnectors.Fresh (r.draw.id 0)

instance (tr : List RoutedStep) (db : Db) (r : RoutedRequest) : Decidable (FreshBinding tr db r) :=
  inferInstanceAs (Decidable (db.propertyConnectors.Fresh (r.draw.id 0)))

section

variable {env : PlatformEnv} {b : Uuid} {tr : List RoutedStep} {db db' : Db} {r : RoutedRequest}
  {reply : BindingReply}

theorem assignedTo_error {e : Exn} (h : r.serve env db = .error e) :
    assignedTo env b ⟨db, r, db'⟩ = none := by
  unfold assignedTo RoutedRequest.reply
  dsimp only
  rw [h]
  rfl

theorem assignedTo_ok (h : r.serve env db = .ok (reply, db')) :
    assignedTo env b ⟨db, r, db'⟩ = if reply.bindingId = some b then r.request.assignment else none := by
  unfold assignedTo RoutedRequest.reply
  dsimp only
  rw [h]
  rfl

/-- A step that assigns nothing and leaves the rows and the properties. -/
theorem AsAssigned.unchanged (hI : AsAssigned env tr db) (hx : ∀ b, assignedTo env b ⟨db, r, db'⟩ = none)
    (hrows : ∀ b, db'.propertyConnectors.find? b = db.propertyConnectors.find? b)
    (hprops : db'.properties = db.properties) :
    AsAssigned env (tr ++ [⟨db, r, db'⟩]) db' := by
  constructor
  · intro b pc hpc
    rw [hprops]
    exact (hI.row b pc ((hrows b).symm.trans hpc)).kept (hx b)
  · intro b hnone
    rw [assignedConfigs_snoc, hx b, hI.absent b ((hrows b).symm.trans hnone)]
    rfl

/-- A step that writes the row of one binding, as the run has then assigned it. -/
theorem AsAssigned.written {id : Uuid} {new : PropertyConnector} (hI : AsAssigned env tr db)
    (hothers : ∀ b, b ≠ id → assignedTo env b ⟨db, r, db'⟩ = none)
    (hnew : RowOfRun env id (tr ++ [⟨db, r, db'⟩]) db.properties new)
    (hrows : ∀ b, db'.propertyConnectors.find? b = if b = id then some new else db.propertyConnectors.find? b)
    (hprops : db'.properties = db.properties) : AsAssigned env (tr ++ [⟨db, r, db'⟩]) db' := by
  constructor
  · intro b pc hpc
    rw [hrows] at hpc
    rw [hprops]
    by_cases hb : b = id
    · rw [if_pos hb] at hpc
      obtain rfl := Option.some.inj hpc
      rw [hb]
      exact hnew
    · rw [if_neg hb] at hpc
      exact (hI.row b pc hpc).kept (hothers b hb)
  · intro b hnone
    rw [hrows] at hnone
    by_cases hb : b = id
    · rw [if_pos hb] at hnone
      cases hnone
    · rw [if_neg hb] at hnone
      rw [assignedConfigs_snoc, hothers b hb, hI.absent b hnone]
      rfl

/-- An answered request: the reply names the binding that it has written, if any. -/
theorem AsAssigned.served (hI : AsAssigned env tr db) (hfresh : FreshBinding tr db r)
    (h : r.serve env db = .ok (reply, db')) : AsAssigned env (tr ++ [⟨db, r, db'⟩]) db' := by
  obtain ⟨hprops, hserved⟩ := serve_rows hfresh h
  have hx : ∀ b, assignedTo env b ⟨db, r, db'⟩ = if reply.bindingId = some b then r.request.assignment
      else none := by
    intro b
    exact assignedTo_ok h
  generalize reply.bindingId = bindingId at hserved hx
  cases hserved with
  | nothing hrows =>
    refine hI.unchanged ?_ ?_ hprops
    · intro b
      exact hx b
    · intro b
      rw [hrows]
  | binding id hchange =>
    have hothers : ∀ b, b ≠ id → assignedTo env b ⟨db, r, db'⟩ = none := by
      intro b hb
      rw [hx b, if_neg]
      intro heq
      exact hb (Option.some.inj heq).symm
    cases hchange with
    | same pc hpc ha hrows =>
      refine hI.unchanged ?_ hrows hprops
      intro b
      rw [hx b, ha, ite_self]
    | switched pc isActive hpc ha hrows =>
      have hnone : assignedTo env id ⟨db, r, db'⟩ = none := by rw [hx id, ha, ite_self]
      exact hI.written hothers ((hI.row id pc hpc).switched.kept hnone) hrows hprops
    | assigned a new ha hnew hprop hcreated hrows =>
      -- the property of a stored binding is the one it was created with
      have hproperty : ∃ prop, db.properties.find? new.propertyId = some prop := by
        cases hold : db.propertyConnectors.find? id with
        | none => exact hcreated hold
        | some pc =>
          rw [hprop pc hold]
          exact (hI.row id pc hold).property
      have hid : assignedTo env id ⟨db, r, db'⟩ = some a := by rw [hx id, if_pos rfl, ha]
      exact hI.written hothers (RowOfRun.assigned (hI.row id) (hI.absent id) hid hnew hproperty) hrows hprops

theorem AsAssigned.step (hI : AsAssigned env tr db) (hfresh : FreshBinding tr db r) :
    AsAssigned env (tr ++ [⟨db, r, r.next env db⟩]) (r.next env db) := by
  unfold RoutedRequest.next
  cases h : r.serve env db with
  | error e =>
    refine hI.unchanged ?_ (fun b => rfl) rfl
    intro b
    exact assignedTo_error h
  | ok out =>
    obtain ⟨reply, db'⟩ := out
    exact hI.served hfresh h

end

/-! ### Runs -/

section

variable {env : PlatformEnv} {decryptSecret : String → Option String} {b : Uuid} {tr : List RoutedStep}
  {db₀ db : Db}

/-- Every binding of a run is as the run has assigned it. -/
theorem asAssigned (hempty : db₀.propertyConnectors = Table.empty)
    (hrun : RoutedRun env FreshBinding db₀ tr db) :
    AsAssigned env tr db := by
  -- the run starts without bindings, and every step keeps the rows as assigned
  refine Run.invariant (I := AsAssigned env) ⟨?_, ?_⟩ ?_ hrun
  · intro b pc hpc
    rw [hempty] at hpc
    cases hpc
  · intro b _
    rfl
  · intro tr s r s' _ hI hfresh hnext
    cases hnext
    exact hI.step hfresh

/-- The credentials that the run has given the binding `b`, with a `config` that compares equal to the latest
one. -/
structure EqualCredentials (env : PlatformEnv) (tr : List RoutedStep) (db : Db) (b : Uuid)
    (creds : ConnectorCredentials) :
    Prop where
  secret : ∃ secret, latestAssigned env b tr Assignment.secret = some secret ∧ creds.apiSecret = some secret
  scopes : latestAssigned env b tr Assignment.scopes = some creds.scopes
  config : ∃ config, latestAssigned env b tr Assignment.config = some config ∧
    optDictEq creds.config config = true
  baseUrl : latestAssigned env b tr Assignment.baseUrl = some creds.baseUrl
  tenant : ∃ pc prop, db.propertyConnectors.find? b = some pc ∧
    db.properties.find? pc.propertyId = some prop ∧
    creds.tenantId = prop.tenantId

/-- The credentials that the run has given the binding `b`. -/
structure RightCredentials (env : PlatformEnv) (tr : List RoutedStep) (db : Db) (b : Uuid)
    (creds : ConnectorCredentials) :
    Prop extends EqualCredentials env tr db b creds where
  sameConfig : latestAssigned env b tr Assignment.config = some creds.config

theorem first_active (b : Uuid) : (db.propertyConnectors.first fun pc => pc.id == b && pc.isActive) =
    (db.propertyConnectors.find? b).filter fun pc => pc.isActive := by
  cases hpc : db.propertyConnectors.find? b with
  | none =>
    rw [Option.filter_none, Table.first_eq_none]
    intro pc hmem
    have hne : ¬ pc.id = b := Table.find?_eq_none.mp hpc pc hmem
    simp [hne]
  | some pc =>
    obtain ⟨hmem, hid⟩ := Table.find?_some hpc
    have hid : pc.id = b := hid
    cases hactive : pc.isActive with
    | true =>
      rw [Option.filter_some_pos hactive]
      refine Table.first_eq_some_of_unique hmem (by simp [hid, hactive]) ?_
      intro pc' hmem' hp
      simp only [Bool.and_eq_true, beq_iff_eq] at hp
      exact Table.eq_of_key_eq hmem' hmem (hp.1.trans hid.symm)
    | false =>
      rw [Option.filter_some_neg (by simp [hactive]), Table.first_eq_none]
      intro pc' hmem'
      by_cases hid' : pc'.id = b
      · obtain rfl : pc' = pc := Table.eq_of_key_eq hmem' hmem (hid'.trans hid.symm)
        simp [hactive]
      · simp [hid']

theorem plaintextSecret_encrypted (hcipher : Cipher env.encryptSecret decryptSecret)
    {pc : PropertyConnector} {iv : Nat} {secret : String}
    (hsecret : pc.apiSecret = some (env.encryptSecret iv secret)) :
    plaintextSecret decryptSecret pc = .ok (some secret) := by
  unfold plaintextSecret
  rw [hsecret]
  split
  · rename_i h
    cases h
  · rename_i h
    exact absurd (Option.some.inj h) (hcipher.ne_empty iv secret)
  · rename_i ciphertext _ h
    obtain rfl := Option.some.inj h
    rw [hcipher.decrypt_encrypt]

/-- The last `config` of a list, and what the row holds after it. -/
theorem storedConfig_last {configs : List (Option Dict)} (hne : configs ≠ []) :
    ∃ config, configs.getLast? = some config ∧ optDictEq (storedConfig configs) config = true ∧
      (storedConfig configs = config ↔ ConfigKept configs) := by
  rcases List.eq_nil_or_concat configs with h | ⟨earlier, config, rfl⟩
  · exact absurd h hne
  rw [List.concat_eq_append]
  refine ⟨config, List.getLast?_concat, ?_, ?_⟩
  · rw [storedConfig_snoc]
    exact PropertyConnector.optDictEq_writtenConfig_assigned
  · rw [storedConfig_snoc, PropertyConnector.writtenConfig_eq_iff]
    constructor
    · intro hkept earlier' config' happend heq
      obtain ⟨rfl, hlast⟩ := List.append_inj' happend rfl
      obtain rfl := List.head_eq_of_cons_eq hlast
      exact hkept heq
    · intro hkept heq
      exact hkept earlier config rfl heq

/-- `get_credentials` on a row as the run has assigned it. -/
theorem getCredentials_of_row (hcipher : Cipher env.encryptSecret decryptSecret) {pc : PropertyConnector}
    (hpc : db.propertyConnectors.find? b = some pc) (hactive : pc.isActive = true)
    (hrow : RowOfRun env b tr db.properties pc) :
    ∃ creds, getCredentials decryptSecret db (.uuid b) = .ok creds ∧ creds.config = pc.config ∧
      EqualCredentials env tr db b creds := by
  obtain ⟨secret, iv, hlatest, hsecret⟩ := hrow.secret
  obtain ⟨prop, hprop⟩ := hrow.property
  obtain ⟨config, hlast, hequal, _⟩ := storedConfig_last hrow.configs
  have hcreds : getCredentials decryptSecret db (.uuid b) = .ok (credentialsOf db pc prop (some secret)) := by
    unfold getCredentials
    simp only [coerceUuid, ok_bind]
    rw [first_active, hpc, Option.filter_some_pos hactive, Option.bind_some, hprop]
    simp only [Option.map_some]
    rw [plaintextSecret_encrypted hcipher hsecret]
    rfl
  have hconfig : optDictEq pc.config config = true := hrow.config ▸ hequal
  exact ⟨_, hcreds, rfl, ⟨secret, hlatest, rfl⟩, hrow.scopes, ⟨config, hlast, hconfig⟩, hrow.baseUrl, pc,
    prop, hpc, hprop,
    rfl⟩

/-- In every run of the binding routes, `get_credentials` succeeds exactly for an active binding.  It returns
the secret of the latest activation or update that supplied one, the latest scopes and base URL, the tenant of
the property, and a `config` that compares equal to the latest one; that is the latest one itself exactly when
this was not written over one that it merely compares equal to. -/
theorem credentials_right_iff (hcipher : Cipher env.encryptSecret decryptSecret)
    (hempty : db₀.propertyConnectors = Table.empty) (hrun : RoutedRun env FreshBinding db₀ tr db) (b : Uuid) :
    ((∃ creds, getCredentials decryptSecret db (.uuid b) = .ok creds) ↔
        ∃ pc, db.propertyConnectors.find? b = some pc ∧ pc.isActive = true) ∧
      ∀ creds, getCredentials decryptSecret db (.uuid b) = .ok creds →
        EqualCredentials env tr db b creds ∧
          (RightCredentials env tr db b creds ↔ ConfigKept (assignedConfigs env b tr)) := by
  have hrows := (asAssigned hempty hrun).row b
  -- the query asks for a binding that is active
  have hactive : ∀ creds, getCredentials decryptSecret db (.uuid b) = .ok creds →
      ∃ pc, db.propertyConnectors.find? b = some pc ∧ pc.isActive = true := by
    intro creds h
    unfold getCredentials at h
    simp only [coerceUuid, ok_bind] at h
    rw [first_active] at h
    cases hpc : db.propertyConnectors.find? b with
    | none =>
      rw [hpc] at h
      cases h
    | some pc =>
      refine ⟨pc, rfl, ?_⟩
      by_contra hoff
      rw [hpc, Option.filter_some_neg (Bool.eq_false_of_not_eq_true hoff)] at h
      cases h
  refine ⟨⟨?_, ?_⟩, ?_⟩
  · rintro ⟨creds, h⟩
    exact hactive creds h
  · rintro ⟨pc, hpc, hon⟩
    obtain ⟨creds, h, _⟩ := getCredentials_of_row hcipher hpc hon (hrows pc hpc)
    exact ⟨creds, h⟩
  · intro creds h
    obtain ⟨pc, hpc, hon⟩ := hactive creds h
    have hrow := hrows pc hpc
    obtain ⟨creds', h', hconfig, hequal⟩ := getCredentials_of_row hcipher hpc hon hrow
    rw [h] at h'
    obtain rfl := Except.ok.inj h'
    obtain ⟨config, hlast, _, hkept⟩ := storedConfig_last hrow.configs
    have hlatest : latestAssigned env b tr Assignment.config = some config := hlast
    refine ⟨hequal, ?_⟩
    rw [← hkept, ← hrow.config, ← hconfig]
    constructor
    · intro hright
      exact Option.some.inj (hright.sameConfig.symm.trans hlatest)
    · intro hsame
      exact ⟨hequal, hsame.symm ▸ hlatest⟩

end

/-! ### A `config` that changes its type -/

namespace RetypedConfig

open TwoCredentials (db ctx connector)

/-- A cipher whose ciphertexts carry the initialisation vector in unary. -/
def encrypt (iv : Nat) (secret : String) : String := .ofList (List.replicate iv 'i' ++ '.' :: secret.toList)

def decrypt (ciphertext : String) : Option String :=
  match ciphertext.toList.dropWhile (· == 'i') with
  | '.' :: secret => some (.ofList secret)
  | _ => none

theorem cipher : Cipher encrypt decrypt := by
  have hdrop : ∀ (iv : Nat) (secret : List Char),
      (List.replicate iv 'i' ++ '.' :: secret).dropWhile (· == 'i') = '.' :: secret := by
    intro iv secret
    induction iv with
    | zero => rfl
    | succ iv ih => exact ih
  constructor
  · intro iv secret
    unfold decrypt encrypt
    rw [String.toList_ofList, hdrop]
    exact congrArg some String.ofList_toList
  · intro iv secret hempty
    have := congrArg String.toList hempty
    simp [encrypt] at this

def env : PlatformEnv := { KeyRotation.env with encryptSecret := encrypt }

/-- The `n`th request draws ids and randomness of its own. -/
def drawAt (n : Nat) : Draw where
  now := n
  id := fun k => .ofNat (100 * n + k)
  auditId := fun k => .ofNat (100 * n + 10 + k)
  adminLogId := .ofNat (100 * n + 20)
  iv := n

def binding : Uuid := (drawAt 1).id 0

def activate (config : Option Dict) : RoutedRequest :=
  ⟨.activateConnectorEndpoint ctx KeyRotation.property.id ⟨connector.id, "pk_1", "sk_1", none, config, none⟩,
    none, drawAt 1⟩

/-- An update that writes `{"a": true}` over `{"a": 1}`. -/
def retype : RoutedRequest :=
  ⟨.adminUpdateConnector (.ofNat 6) binding {
      apiSecret := some (some "sk_2")
      config := some (some [("a", .bool true)]) },
    none, drawAt 2⟩

def isRetyped : Option Dict → Bool
  | some [("a", .bool true)] => true
  | _ => false

/-- The latest `config` is `{"a": true}`, and workers still get `{"a": 1}`. -/
theorem retyped_config_is_lost :
    ∃ tr s creds, RoutedRun env FreshBinding db tr s ∧ Cipher env.encryptSecret decrypt ∧
    getCredentials decrypt s (.uuid binding) = .ok creds ∧ ¬ RightCredentials env tr s binding creds := by
  have hreplay : (Run.replay (fun db r => some (RoutedRequest.next env db r)) FreshBinding db
      [activate (some [("a", .int 1)]), retype]).map (fun r =>
        (getCredentials decrypt r.2 (.uuid binding)).toOption.any (fun creds => !isRetyped creds.config) &&
          (latestAssigned env binding r.1 Assignment.config).any isRetyped) = some true := by decide +kernel
  obtain ⟨tr, s, hrun, hcheck⟩ := Run.exists_of_replay hreplay
  rw [Bool.and_eq_true, Option.any_eq_true, Option.any_eq_true] at hcheck
  obtain ⟨⟨creds, hcreds, hold⟩, config, hlatest, hnew⟩ := hcheck
  have hok : getCredentials decrypt s (.uuid binding) = .ok creds := toOption_eq_some.mp hcreds
  refine ⟨tr, s, creds, hrun, cipher, hok, ?_⟩
  intro hright
  rw [hright.sameConfig] at hlatest
  obtain rfl := Option.some.inj hlatest
  rw [hnew] at hold
  cases hold

/-- A binding that is activated, given a new secret, switched off and switched on again. -/
def rotateAndSwitch : List RoutedRequest :=
  [activate none,
    ⟨.adminUpdateConnector (.ofNat 6) binding { apiSecret := some (some "sk_2") }, none, drawAt 2⟩,
    ⟨.deactivateConnectorEndpoint ctx KeyRotation.property.id binding, none, drawAt 3⟩,
    ⟨.adminReactivateConnector (.ofNat 6) binding, none, drawAt 4⟩]

theorem credentials_after_switch : ∃ tr s, RoutedRun env FreshBinding db tr s ∧
    (∃ creds, getCredentials decrypt s (.uuid binding) = .ok creds ∧ creds.apiSecret = some "sk_2") ∧
      ((∃ creds, getCredentials decrypt s (.uuid binding) = .ok creds) ↔
          ∃ pc, s.propertyConnectors.find? binding = some pc ∧ pc.isActive = true) ∧
        ∀ creds, getCredentials decrypt s (.uuid binding) = .ok creds →
          EqualCredentials env tr s binding creds ∧
            (RightCredentials env tr s binding creds ↔ ConfigKept (assignedConfigs env binding tr)) := by
  have hreplay :
      (Run.replay (fun db r => some (RoutedRequest.next env db r)) FreshBinding db rotateAndSwitch).map
      (fun r => (getCredentials decrypt r.2 (.uuid binding)).toOption.any fun creds =>
        creds.apiSecret == some "sk_2") =
        some true := by decide +kernel
  obtain ⟨tr, s, hrun, hcheck⟩ := Run.exists_of_replay hreplay
  obtain ⟨creds, hcreds, hsecret⟩ := (Option.any_eq_true ..).mp hcheck
  exact ⟨tr, s, hrun, ⟨creds, toOption_eq_some.mp hcreds, beq_iff_eq.mp hsecret⟩,
    credentials_right_iff cipher rfl hrun binding⟩

end RetypedConfig

end RatingLift
