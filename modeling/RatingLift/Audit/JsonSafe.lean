import RatingLift.Audit.Service
import RatingLift.Library.Assoc
import RatingLift.Library.Fallible

/-!
# JSON-safe snapshots

`_json_safe` turns the values that a caller logs into what a JSON column holds.  A float passes as it is, also
one that is no number of JSON: then the column refuses the row.

* (`jsonSafe_like`) the result has the form of JSON, and its floats are the floats that the value keeps;
* (`jsonSafe_eq_self`) it is the identity on what has that form;
* (`json_safe_iff`) the snapshots are stored as JSON exactly when the floats that they keep are finite.
-/

namespace RatingLift

open Library Assoc Fallible

inductive PyFloat where
  | finite (q : Rat)
  | infinite (negative : Bool)
  | nan

/-- `math.isfinite` -/
def PyFloat.isFinite : PyFloat → Bool
  | finite _ => true
  | _ => false

/-- The values that a caller can log.  A mapping has its items in order, and an object what `vars` gives; a
value with an `isoformat` method has what that returns, if it does not raise, and its `str`; a value with
neither has its `str`. -/
inductive PyValue where
  | none
  | bool (b : Bool)
  | int (n : Int)
  | float (x : PyFloat)
  | str (s : String)
  | uuid (u : Uuid)
  | mapping (items : List (PyValue × PyValue))
  | list (xs : List PyValue)
  | tuple (xs : List PyValue)
  | set (xs : List PyValue)
  | temporal (isoformat : Option String) (text : String)
  | object (attrs : List (String × PyValue))
  | slotted (text : String)

section

variable (str : PyValue → String)

mutual

/-- `_json_safe`; `str` is the text of a key. -/
def jsonSafe : PyValue → PyValue
  | .none => .none
  | .bool b => .bool b
  | .int n => .int n
  | .float x => .float x
  | .str s => .str s
  | .uuid u => .str u.str
  | .mapping items => .mapping ((ofPairs (jsonSafeItems items)).map fun x => (.str x.1, x.2))
  | .list xs => .list (jsonSafeList xs)
  | .tuple xs => .list (jsonSafeList xs)
  | .set xs => .list (jsonSafeList xs)
  | .temporal (some text) _ => .str text
  | .temporal none text => .str text
  | .object attrs => .mapping ((ofPairs (jsonSafeAttrs attrs)).map fun x => (.str x.1, x.2))
  | .slotted text => .str text
termination_by structural v => v

def jsonSafeList : List PyValue → List PyValue
  | [] => []
  | x :: xs => jsonSafe x :: jsonSafeList xs
termination_by structural xs => xs

def jsonSafeItems : List (PyValue × PyValue) → List (String × PyValue)
  | [] => []
  | x :: items => jsonSafeItem x :: jsonSafeItems items
termination_by structural items => items

def jsonSafeItem : PyValue × PyValue → String × PyValue
  | (k, v) => (str k, jsonSafe v)
termination_by structural x => x

/-- The attributes whose names do not start with `_`. -/
def jsonSafeAttrs : List (String × PyValue) → List (String × PyValue)
  | [] => []
  | x :: attrs => if Py.startsWith x.1 "_" then jsonSafeAttrs attrs else jsonSafeAttr x :: jsonSafeAttrs attrs
termination_by structural attrs => attrs

def jsonSafeAttr : String × PyValue → String × PyValue
  | (k, v) => (k, jsonSafe v)
termination_by structural x => x

end

mutual

/-- Every float that `_json_safe` keeps satisfies `ok`: it drops private attributes and values whose key comes
again. -/
def keptFloats (ok : PyFloat → Bool) : PyValue → Bool
  | .float x => ok x
  | .mapping items => keptFloatsItems ok items
  | .list xs => keptFloatsList ok xs
  | .tuple xs => keptFloatsList ok xs
  | .set xs => keptFloatsList ok xs
  | .object attrs => keptFloatsAttrs ok attrs
  | _ => true
termination_by structural v => v

def keptFloatsList (ok : PyFloat → Bool) : List PyValue → Bool
  | [] => true
  | x :: xs => keptFloats ok x && keptFloatsList ok xs
termination_by structural xs => xs

def keptFloatsItems (ok : PyFloat → Bool) : List (PyValue × PyValue) → Bool
  | [] => true
  | x :: items => ((items.any fun y => str y.1 == str x.1) || keptFloatsItem ok x) && keptFloatsItems ok items
termination_by structural items => items

def keptFloatsItem (ok : PyFloat → Bool) : PyValue × PyValue → Bool
  | (_, v) => keptFloats ok v
termination_by structural x => x

def keptFloatsAttrs (ok : PyFloat → Bool) : List (String × PyValue) → Bool
  | [] => true
  | x :: attrs =>
    (Py.startsWith x.1 "_" || (attrs.any fun y => y.1 == x.1) || keptFloatsAttr ok x) &&
    keptFloatsAttrs ok attrs
termination_by structural attrs => attrs

def keptFloatsAttr (ok : PyFloat → Bool) : String × PyValue → Bool
  | (_, v) => keptFloats ok v
termination_by structural x => x

end

end

/-- The form of JSON: nulls, booleans, integers, texts, floats that satisfy `ok`, lists, and mappings with
different texts as keys. -/
inductive JsonLike (ok : PyFloat → Bool) : PyValue → Prop where
  | none : JsonLike ok .none
  | bool (b : Bool) : JsonLike ok (.bool b)
  | int (n : Int) : JsonLike ok (.int n)
  | float (x : PyFloat) (hx : ok x = true) : JsonLike ok (.float x)
  | str (s : String) : JsonLike ok (.str s)
  | list (xs : List PyValue) (hxs : ∀ x ∈ xs, JsonLike ok x) : JsonLike ok (.list xs)
  | mapping (items : List (String × PyValue)) (hkeys : (items.map Prod.fst).Nodup)
      (hitems : ∀ x ∈ items, JsonLike ok x.2) : JsonLike ok (.mapping (items.map fun x => (.str x.1, x.2)))

/-- A JSON value: the floats are numbers of JSON. -/
abbrev IsJson (v : PyValue) : Prop := JsonLike PyFloat.isFinite v

section

variable {str : PyValue → String} {ok : PyFloat → Bool}

theorem jsonLike_list {xs : List PyValue} : JsonLike ok (.list xs) ↔ ∀ x ∈ xs, JsonLike ok x := by
  constructor
  · intro h
    cases h with
    | list _ hxs => exact hxs
  · exact .list xs

theorem strKeys_injective :
    Function.Injective (List.map fun x : String × PyValue => ((.str x.1, x.2) : PyValue × PyValue)) := by
  apply List.map_injective_iff.mpr
  rintro ⟨k, v⟩ ⟨k', v'⟩ h
  simpa using h

theorem jsonLike_ofPairs {l : List (String × PyValue)} :
    JsonLike ok (.mapping ((ofPairs l).map fun x => (.str x.1, x.2))) ↔ ∀ x ∈ ofPairs l, JsonLike ok x.2 := by
  constructor
  · intro h
    generalize hitems : (ofPairs l).map (fun x => ((.str x.1, x.2) : PyValue × PyValue)) = items at h
    cases h with
    | mapping items' _ hvalues =>
      rw [strKeys_injective hitems]
      exact hvalues
  · exact .mapping (ofPairs l) (nodup_ofPairs l)

theorem fst_jsonSafeItems (items : List (PyValue × PyValue)) :
    (jsonSafeItems str items).map Prod.fst = items.map fun x => str x.1 := by
  induction items with
  | nil => rfl
  | cons x items ih =>
    obtain ⟨k, v⟩ := x
    rw [jsonSafeItems, List.map_cons, ih, jsonSafeItem, List.map_cons]

theorem jsonSafeAttrs_eq_filter (attrs : List (String × PyValue)) :
    (jsonSafeAttrs str attrs).map Prod.fst = (attrs.map Prod.fst).filter fun k => !Py.startsWith k "_" := by
  induction attrs with
  | nil => rfl
  | cons x attrs ih =>
    obtain ⟨k, v⟩ := x
    rw [jsonSafeAttrs, List.map_cons, List.filter_cons]
    by_cases hk : Py.startsWith k "_" = true
    · simp [hk, ih]
    · simp [hk, ih, jsonSafeAttr]

mutual

/-- The result has the form of JSON, and its floats are those that the value keeps. -/
theorem jsonSafe_like : ∀ v : PyValue, JsonLike ok (jsonSafe str v) ↔ keptFloats str ok v = true
  | .none => by simp [jsonSafe, keptFloats, JsonLike.none]
  | .bool b => by simp [jsonSafe, keptFloats, JsonLike.bool]
  | .int n => by simp [jsonSafe, keptFloats, JsonLike.int]
  | .float x => by
    rw [jsonSafe, keptFloats]
    constructor
    · intro h
      cases h with
      | float _ hx => exact hx
    · exact .float x
  | .str s => by simp [jsonSafe, keptFloats, JsonLike.str]
  | .uuid u => by simp [jsonSafe, keptFloats, JsonLike.str]
  | .mapping items => by
    rw [jsonSafe, keptFloats, jsonLike_ofPairs]
    exact jsonSafeItems_like items
  | .list xs => by
    rw [jsonSafe, keptFloats, jsonLike_list]
    exact jsonSafeList_like xs
  | .tuple xs => by
    rw [jsonSafe, keptFloats, jsonLike_list]
    exact jsonSafeList_like xs
  | .set xs => by
    rw [jsonSafe, keptFloats, jsonLike_list]
    exact jsonSafeList_like xs
  | .temporal (some text) _ => by simp [jsonSafe, keptFloats, JsonLike.str]
  | .temporal none text => by simp [jsonSafe, keptFloats, JsonLike.str]
  | .object attrs => by
    rw [jsonSafe, keptFloats, jsonLike_ofPairs]
    exact jsonSafeAttrs_like attrs
  | .slotted text => by simp [jsonSafe, keptFloats, JsonLike.str]

theorem jsonSafeList_like : ∀ xs : List PyValue,
    (∀ x ∈ jsonSafeList str xs, JsonLike ok x) ↔ keptFloatsList str ok xs = true
  | [] => by simp [jsonSafeList, keptFloatsList]
  | x :: xs => by
    rw [jsonSafeList, keptFloatsList, List.forall_mem_cons, Bool.and_eq_true, jsonSafe_like x,
      jsonSafeList_like xs]

theorem jsonSafeItems_like : ∀ items : List (PyValue × PyValue),
    (∀ x ∈ ofPairs (jsonSafeItems str items), JsonLike ok x.2) ↔ keptFloatsItems str ok items = true
  | [] => by simp [jsonSafeItems, keptFloatsItems, ofPairs]
  | x :: items => by
    have hkey : (jsonSafeItem str x).1 ∈ (jsonSafeItems str items).map Prod.fst ↔
        (items.any fun y => str y.1 == str x.1) = true := by
      obtain ⟨k, v⟩ := x
      rw [fst_jsonSafeItems, jsonSafeItem, List.mem_map, List.any_eq_true]
      simp
    rw [jsonSafeItems, keptFloatsItems, forall_ofPairs_cons, Bool.and_eq_true, Bool.or_eq_true,
      jsonSafeItem_like x, jsonSafeItems_like items, hkey]

theorem jsonSafeItem_like : ∀ x : PyValue × PyValue,
    JsonLike ok (jsonSafeItem str x).2 ↔ keptFloatsItem str ok x = true
  | (k, v) => by
    rw [jsonSafeItem, keptFloatsItem]
    exact jsonSafe_like v

theorem jsonSafeAttrs_like : ∀ attrs : List (String × PyValue),
    (∀ x ∈ ofPairs (jsonSafeAttrs str attrs), JsonLike ok x.2) ↔ keptFloatsAttrs str ok attrs = true
  | [] => by simp [jsonSafeAttrs, keptFloatsAttrs, ofPairs]
  | x :: attrs => by
    rw [jsonSafeAttrs, keptFloatsAttrs, Bool.and_eq_true]
    by_cases hprivate : Py.startsWith x.1 "_" = true
    · rw [if_pos hprivate, hprivate, jsonSafeAttrs_like attrs]
      simp
    · have hkey : (jsonSafeAttr str x).1 ∈ (jsonSafeAttrs str attrs).map Prod.fst ↔
          (attrs.any fun y => y.1 == x.1) = true := by
        obtain ⟨k, v⟩ := x
        have hpublic : Py.startsWith k "_" = false := by simpa using hprivate
        rw [jsonSafeAttrs_eq_filter, jsonSafeAttr, List.mem_filter, List.mem_map, List.any_eq_true]
        simp [hpublic]
      rw [if_neg hprivate, forall_ofPairs_cons, jsonSafeAttr_like x, jsonSafeAttrs_like attrs, hkey]
      simp [hprivate]

theorem jsonSafeAttr_like : ∀ x : String × PyValue,
    JsonLike ok (jsonSafeAttr str x).2 ↔ keptFloatsAttr str ok x = true
  | (k, v) => by
    rw [jsonSafeAttr, keptFloatsAttr]
    exact jsonSafe_like v

end

/-- `_json_safe` is the identity on what has the form of JSON, whatever its floats. -/
theorem jsonSafe_eq_self (hstr : ∀ s, str (.str s) = s) {v : PyValue} (h : JsonLike ok v) :
    jsonSafe str v = v := by
  induction h with
  | none => rfl
  | bool b => rfl
  | int n => rfl
  | float x _ => rfl
  | str s => rfl
  | list xs _ ih =>
    have hlist : ∀ xs : List PyValue, (∀ x ∈ xs, jsonSafe str x = x) → jsonSafeList str xs = xs := by
      intro xs
      induction xs with
      | nil => intro _; rfl
      | cons x xs ihxs =>
        intro hxs
        rw [jsonSafeList, hxs x List.mem_cons_self, ihxs fun y hy => hxs y (List.mem_cons_of_mem _ hy)]
    rw [jsonSafe, hlist xs ih]
  | mapping items hkeys _ ih =>
    have hitems : ∀ items : List (String × PyValue), (∀ x ∈ items, jsonSafe str x.2 = x.2) →
        jsonSafeItems str (items.map fun x => (.str x.1, x.2)) = items := by
      intro items
      induction items with
      | nil => intro _; rfl
      | cons x items ihitems =>
        intro hvalues
        rw [List.map_cons, jsonSafeItems, jsonSafeItem, hstr, hvalues x List.mem_cons_self,
          ihitems fun y hy => hvalues y (List.mem_cons_of_mem _ hy)]
    rw [jsonSafe, hitems items ih, ofPairs_eq_self hkeys]

mutual

/-- Any floats will do. -/
theorem keptFloats_true : ∀ v : PyValue, keptFloats str (fun _ => true) v = true
  | .none | .bool _ | .int _ | .float _ | .str _ | .uuid _ | .temporal _ _ | .slotted _ => by rfl
  | .mapping items => by rw [keptFloats]; exact keptFloatsItems_true items
  | .list xs => by rw [keptFloats]; exact keptFloatsList_true xs
  | .tuple xs => by rw [keptFloats]; exact keptFloatsList_true xs
  | .set xs => by rw [keptFloats]; exact keptFloatsList_true xs
  | .object attrs => by rw [keptFloats]; exact keptFloatsAttrs_true attrs

theorem keptFloatsList_true : ∀ xs : List PyValue, keptFloatsList str (fun _ => true) xs = true
  | [] => by rfl
  | x :: xs => by rw [keptFloatsList, keptFloats_true x, keptFloatsList_true xs]; rfl

theorem keptFloatsItems_true :
    ∀ items : List (PyValue × PyValue), keptFloatsItems str (fun _ => true) items = true
  | [] => by rfl
  | (k, v) :: items => by
    simp [keptFloatsItems, keptFloatsItem, keptFloats_true v, keptFloatsItems_true items]

theorem keptFloatsAttrs_true :
    ∀ attrs : List (String × PyValue), keptFloatsAttrs str (fun _ => true) attrs = true
  | [] => by rfl
  | (k, v) :: attrs => by
    simp [keptFloatsAttrs, keptFloatsAttr, keptFloats_true v, keptFloatsAttrs_true attrs]

end

theorem jsonSafe_jsonSafe (hstr : ∀ s, str (.str s) = s) (v : PyValue) :
    jsonSafe str (jsonSafe str v) = jsonSafe str v := by
  have hlike : JsonLike (fun _ => true) (jsonSafe str v) := (jsonSafe_like v).mpr (keptFloats_true v)
  exact jsonSafe_eq_self hstr hlike

end

/-! ### Logging a snapshot -/

mutual

/-- A JSON value as the Python value that it is read as. -/
def ofJson : Json → PyValue
  | .none => .none
  | .bool b => .bool b
  | .int n => .int n
  | .float q => .float (.finite q)
  | .str s => .str s
  | .list xs => .list (ofJsonList xs)
  | .dict kvs => .mapping (ofJsonEntries kvs)
termination_by structural j => j

def ofJsonList : List Json → List PyValue
  | [] => []
  | x :: xs => ofJson x :: ofJsonList xs
termination_by structural xs => xs

def ofJsonEntries : List (String × Json) → List (PyValue × PyValue)
  | [] => []
  | x :: kvs => ofJsonEntry x :: ofJsonEntries kvs
termination_by structural kvs => kvs

def ofJsonEntry : String × Json → PyValue × PyValue
  | (k, v) => (.str k, ofJson v)
termination_by structural x => x

end

mutual

/-- What a JSON column holds of a value; a float that is not finite is refused, and so is what is no JSON. -/
def toJson? : PyValue → Option Json
  | .none => some .none
  | .bool b => some (.bool b)
  | .int n => some (.int n)
  | .float (.finite q) => some (.float q)
  | .str s => some (.str s)
  | .list xs => (toJsonList? xs).map .list
  | .mapping items => (toJsonItems? items).map .dict
  | _ => none
termination_by structural v => v

def toJsonList? : List PyValue → Option (List Json)
  | [] => some []
  | x :: xs => do
    let j ← toJson? x
    let js ← toJsonList? xs
    return j :: js
termination_by structural xs => xs

def toJsonItems? : List (PyValue × PyValue) → Option (List (String × Json))
  | [] => some []
  | x :: items => do
    let kv ← toJsonItem? x
    let kvs ← toJsonItems? items
    return kv :: kvs
termination_by structural items => items

def toJsonItem? : PyValue × PyValue → Option (String × Json)
  | (.str k, v) => (toJson? v).map fun j => (k, j)
  | _ => none
termination_by structural x => x

end

section

variable (str : PyValue → String)

/-- What the flush writes for a snapshot. -/
def jsonColumn (value : PyValue) : Except Exn Json :=
  match toJson? (jsonSafe str value) with
  | some j => .ok j
  | none => .error .dataError

/-- `log_action` on the values that it is given, with its flush -/
def logActionOf (db : Db) (id : Uuid) (now : Instant) (actorId : Option String)
    (actorType action entity : String) (entityId : Option Uuid) (beforeValue afterValue : PyValue)
    (ipAddress : Option String) : Except Exn Db := do
  let beforeValue ← jsonColumn str beforeValue
  let afterValue ← jsonColumn str afterValue
  return logAction db id now actorId actorType action entity entityId beforeValue afterValue ipAddress

/-- `log_admin_action` on the values that it is given: its row, and the mirrored row of `log_action` -/
def logAdminActionOf (db : Db) (draw : Draw) (adminId : Uuid) (action : String) (targetEntity : Option String)
    (targetId targetTenantId : Option Uuid) (beforeValue afterValue : PyValue) (ipAddress : Option String) :
    Except Exn Db := do
  let adminBefore ← jsonColumn str beforeValue
  let adminAfter ← jsonColumn str afterValue
  let db := { db with adminActionLogs := db.adminActionLogs.insert {
      id := draw.adminLogId
      adminId := adminId
      action := action
      targetEntity := targetEntity
      targetId := targetId
      targetTenantId := targetTenantId
      beforeValue := adminBefore
      afterValue := adminAfter
      ipAddress := ipAddress
      timestamp := draw.now } }
  logActionOf str db (draw.auditId 0) draw.now (some adminId.str) "user" ("admin." ++ action)
    (targetEntity.getD "admin") targetId beforeValue afterValue ipAddress

/-- The two snapshots become JSON, by a function that leaves JSON alone and is idempotent, and that JSON is
what `log_action` and `log_admin_action` store, in both rows; where a snapshot is JSON, exactly the snapshot
is stored. -/
structure SnapshotsStored (before after : PyValue) : Prop where
  json : IsJson (jsonSafe str before) ∧ IsJson (jsonSafe str after)
  same : (IsJson before → jsonSafe str before = before) ∧ (IsJson after → jsonSafe str after = after)
  again : jsonSafe str (jsonSafe str before) = jsonSafe str before ∧
    jsonSafe str (jsonSafe str after) = jsonSafe str after
  stored : ∃ b a : Json, ofJson b = jsonSafe str before ∧ ofJson a = jsonSafe str after ∧
    (IsJson before → ofJson b = before) ∧ (IsJson after → ofJson a = after) ∧
    (∀ (db : Db) (id : Uuid) (now : Instant) (actorId : Option String) (actorType action entity : String)
      (entityId : Option Uuid) (ipAddress : Option String),
      logActionOf str db id now actorId actorType action entity entityId before after ipAddress =
        .ok (logAction db id now actorId actorType action entity entityId b a ipAddress)) ∧
    ∀ (db : Db) (draw : Draw) (adminId : Uuid) (action : String) (targetEntity : Option String)
      (targetId targetTenantId : Option Uuid) (ipAddress : Option String),
      logAdminActionOf str db draw adminId action targetEntity targetId targetTenantId
        before after ipAddress =
        .ok (logAdminAction db draw adminId action targetEntity targetId targetTenantId b a ipAddress)

end

/-- A JSON value is held by the column, and read back as it is. -/
theorem exists_json {v : PyValue} (h : IsJson v) : ∃ j, toJson? v = some j ∧ ofJson j = v := by
  induction h with
  | none => exact ⟨.none, rfl, rfl⟩
  | bool b => exact ⟨.bool b, rfl, rfl⟩
  | int n => exact ⟨.int n, rfl, rfl⟩
  | float x hx =>
    cases x with
    | finite q => exact ⟨.float q, rfl, rfl⟩
    | infinite negative => cases hx
    | nan => cases hx
  | str s => exact ⟨.str s, rfl, rfl⟩
  | list xs _ ih =>
    have hlist : ∀ xs : List PyValue, (∀ x ∈ xs, ∃ j, toJson? x = some j ∧ ofJson j = x) →
        ∃ js, toJsonList? xs = some js ∧ ofJsonList js = xs := by
      intro xs
      induction xs with
      | nil => intro _; exact ⟨[], rfl, rfl⟩
      | cons x xs ihxs =>
        intro hxs
        obtain ⟨j, hj, hback⟩ := hxs x List.mem_cons_self
        obtain ⟨js, hjs, hbacks⟩ := ihxs fun y hy => hxs y (List.mem_cons_of_mem _ hy)
        refine ⟨j :: js, ?_, ?_⟩
        · rw [toJsonList?, hj, hjs]
          rfl
        · rw [ofJsonList, hback, hbacks]
    obtain ⟨js, hjs, hback⟩ := hlist xs ih
    refine ⟨.list js, ?_, ?_⟩
    · rw [toJson?, hjs]
      rfl
    · rw [ofJson, hback]
  | mapping items _ _ ih =>
    have hitems : ∀ items : List (String × PyValue),
        (∀ x ∈ items, ∃ j, toJson? x.2 = some j ∧ ofJson j = x.2) →
        ∃ kvs, toJsonItems? (items.map fun x => (.str x.1, x.2)) = some kvs ∧
          ofJsonEntries kvs = items.map fun x => (.str x.1, x.2) := by
      intro items
      induction items with
      | nil => intro _; exact ⟨[], rfl, rfl⟩
      | cons x items ihitems =>
        intro hvalues
        obtain ⟨k, v⟩ := x
        obtain ⟨j, hj, hback⟩ := hvalues (k, v) List.mem_cons_self
        obtain ⟨kvs, hkvs, hbacks⟩ := ihitems fun y hy => hvalues y (List.mem_cons_of_mem _ hy)
        refine ⟨(k, j) :: kvs, ?_, ?_⟩
        · rw [List.map_cons, toJsonItems?, hkvs]
          dsimp only at hj ⊢
          rw [toJsonItem?, hj]
          rfl
        · rw [List.map_cons, ofJsonEntries, hbacks, ofJsonEntry, hback]
    obtain ⟨kvs, hkvs, hback⟩ := hitems items ih
    refine ⟨.dict kvs, ?_, ?_⟩
    · rw [toJson?, hkvs]
      rfl
    · rw [ofJson, hback]

/-- The snapshots are stored as JSON exactly when every float that they keep is finite. -/
theorem json_safe_iff (str : PyValue → String) (hstr : ∀ s, str (.str s) = s) (before after : PyValue) :
    SnapshotsStored str before after ↔
      keptFloats str PyFloat.isFinite before = true ∧ keptFloats str PyFloat.isFinite after = true := by
  constructor
  · intro h
    exact ⟨(jsonSafe_like before).mp h.json.1, (jsonSafe_like after).mp h.json.2⟩
  · rintro ⟨hbefore, hafter⟩
    have hb : IsJson (jsonSafe str before) := (jsonSafe_like before).mpr hbefore
    have ha : IsJson (jsonSafe str after) := (jsonSafe_like after).mpr hafter
    obtain ⟨b, hbJson, hbBack⟩ := exists_json hb
    obtain ⟨a, haJson, haBack⟩ := exists_json ha
    have hbColumn : jsonColumn str before = .ok b := by
      unfold jsonColumn
      rw [hbJson]
    have haColumn : jsonColumn str after = .ok a := by
      unfold jsonColumn
      rw [haJson]
    refine ⟨⟨hb, ha⟩, ⟨jsonSafe_eq_self hstr, jsonSafe_eq_self hstr⟩,
      ⟨jsonSafe_jsonSafe hstr before, jsonSafe_jsonSafe hstr after⟩, b, a, hbBack, haBack, ?_, ?_, ?_, ?_⟩
    · intro hjson
      rw [hbBack, jsonSafe_eq_self hstr hjson]
    · intro hjson
      rw [haBack, jsonSafe_eq_self hstr hjson]
    · intro db id now actorId actorType action entity entityId ipAddress
      unfold logActionOf
      rw [hbColumn, haColumn]
      rfl
    · intro db draw adminId action targetEntity targetId targetTenantId ipAddress
      unfold logAdminActionOf logActionOf
      rw [hbColumn, haColumn]
      rfl

namespace RatedSnapshot

/-- `str` of the keys that occur below. -/
def keyText : PyValue → String
  | .str s => s
  | .int n => toString n
  | _ => ""

/-- A snapshot with a UUID, a repeated key and a private attribute. -/
def rated : PyValue :=
  .mapping [(.str "id", .uuid (.ofNat 1)), (.int 5, .float .nan), (.str "5", .float (.finite 4)),
    (.str "owner", .object [("_cache", .float .nan), ("tags", .set [.str "spa"])])]

theorem rated_stored : SnapshotsStored keyText .none rated :=
  (json_safe_iff keyText (fun _ => rfl) .none rated).mpr ⟨by decide, by decide⟩

/-- A rating that is not a number is passed on, and the flush of the row is refused. -/
theorem nan_refused :
    jsonSafe keyText (.mapping [(.str "rating", .float .nan)]) = .mapping [(.str "rating", .float .nan)] ∧
      ¬ IsJson (jsonSafe keyText (.mapping [(.str "rating", .float .nan)])) ∧
      ¬ SnapshotsStored keyText .none (.mapping [(.str "rating", .float .nan)]) ∧
      logActionOf keyText .empty (.ofNat 1) 0 none "system" "property.update" "property" none .none
        (.mapping [(.str "rating", .float .nan)]) none = .error .dataError := by
  have hno : ¬ IsJson (jsonSafe keyText (.mapping [(.str "rating", .float .nan)])) := by
    rw [IsJson, jsonSafe_like]
    decide
  have hfails : logActionOf keyText .empty (.ofNat 1) 0 none "system" "property.update" "property" none .none
      (.mapping [(.str "rating", .float .nan)]) none = .error .dataError := rfl
  exact ⟨rfl, hno, fun h => hno h.json.2, hfails⟩

end RatedSnapshot

end RatingLift
