/-
`InputSanitizer.sanitize_action_data`: the fields of an action that
pass on to the validator and the converter.

# Which fields

The branch is chosen by the type as it came; what is kept besides the
type is the branch's own list of fields, and `timestamp` and
`priority`. A field that no branch names is dropped without an error.
The type itself is stripped and freed of control characters *after* the
branch was chosen on the raw one.

# Errors

`SecurityError` is the program's own class; the conversions of the
generic unit branch (`int(action['dest_x'])`) let the built-in classes
through.
-/
import Freeciv3d.Lib.PyVal
import Freeciv3d.Proxy.InputSanitizer

namespace Freeciv3d.Proxy

open Lib

namespace ActionSanitizer

def securityError (message : String) : PyError := .custom message

/-- `except (ValueError, TypeError)`: these become a `SecurityError`. -/
def orSecurityError {α : Type} (message : String) :
    Except PyError α → Except PyError α
  | .error (.valueError _) => .error (securityError message)
  | .error .typeError => .error (securityError message)
  | r => r

/-- `str(type(v))`. -/
def className (v : PyVal) : String := "<class '" ++ v.typeName ++ "'>"

-- ==== numbers

/-- An id field: an integer from 0 to `most`. -/
def sanitizeId (rt : PyRuntime) (field : String) (most : Int)
    (value : PyVal) : Except PyError PyVal :=
  (orSecurityError ("Invalid " ++ field ++ " type: " ++ value.toStr rt)
    (value.toInt rt.toCharTables)).bind fun n =>
      if 0 ≤ n ∧ n ≤ most then .ok (.int n)
      else .error (securityError
        ("Invalid " ++ field ++ " range: " ++ toString n))

def sanitizePlayerId (rt : PyRuntime) : PyVal → Except PyError PyVal :=
  sanitizeId rt "player_id" 29

def sanitizeUnitId (rt : PyRuntime) : PyVal → Except PyError PyVal :=
  sanitizeId rt "unit_id" 999999

def sanitizeCityId (rt : PyRuntime) : PyVal → Except PyError PyVal :=
  sanitizeId rt "city_id" 999999

/-- A coordinate within ±9999. -/
def inRange (n : Int) : Prop := -9999 ≤ n ∧ n ≤ 9999

instance (n : Int) : Decidable (inRange n) := by
  unfold inRange
  infer_instance

def sanitizeCoordinates (rt : PyRuntime) (x y : PyVal) :
    Except PyError (Int × Int) :=
  (orSecurityError ("Invalid coordinate type: (" ++ x.toStr rt ++ ", "
      ++ y.toStr rt ++ ")")
    (do
      let m ← x.toInt rt.toCharTables
      let n ← y.toInt rt.toCharTables
      return (m, n))).bind fun (m, n) =>
        if inRange m ∧ inRange n then .ok (m, n)
        else .error (securityError ("Invalid coordinate range: ("
          ++ toString m ++ ", " ++ toString n ++ ")"))

/-- `int(v)`, as it stands in the generic unit branch. -/
def toIntValue (rt : PyRuntime) (value : PyVal) : Except PyError PyVal :=
  (value.toInt rt.toCharTables).map .int

-- ==== strings

def checkSqlInjection (rt : PyRuntime) (value fieldName : String) :
    Except PyError Unit :=
  if (InputSanitizer.sqlInjectionPatterns rt.toCharTables).any fun r =>
      r.search rt.isWord (rt.upper value.toList)
  then .error (securityError ("Potential SQL injection in " ++ fieldName))
  else .ok ()

/-- `^[a-zA-Z0-9_\s\'\.\-]{1,48}$`, the pattern of every name. -/
def namePattern : Regex :=
  .seq (.oneAndAtMost (.char fun c => c.isAlphanum || c == '_'
    || PyStr.isSpace c || c == '\'' || c == '.' || c == '-') 47) .finish

/-- `PATTERNS`, of the fields that are looked up here. -/
def patterns : List (String × Regex) :=
  [("tech_name", namePattern), ("production_type", namePattern),
    ("city_name", namePattern)]

/-- `ord(char) >= 32 or char in '\t\n\r'`. -/
def isKept (c : Char) : Bool :=
  32 ≤ c.toNat || c == '\t' || c == '\n' || c == '\r'

/-- What is left of a string: no outer white space, no control
characters but tab, newline and carriage return. -/
def cleanChars (cs : List Char) : List Char :=
  (PyStr.stripChars cs).filter isKept

/-- `cleanChars` on a string. -/
def clean (s : String) : String := String.ofList (cleanChars s.toList)

def checkPattern (rt : PyRuntime) (fieldType s : String) :
    Except PyError Unit :=
  match patterns.lookup fieldType with
  | some pattern =>
    if pattern.isMatch rt.isWord s.toList then .ok ()
    else .error (securityError
      ("Invalid " ++ fieldType ++ " format: " ++ s))
  | none => .ok ()

def checkLength (fieldType : String) (maxLength : Option Nat) (s : String) :
    Except PyError Unit :=
  match maxLength with
  | some n =>
    if n < s.length then
      .error (securityError (fieldType ++ " too long: "
        ++ toString s.length ++ " > " ++ toString n))
    else .ok ()
  | none => .ok ()

/-- `sanitize_string_field` on a string. -/
def sanitizeText (rt : PyRuntime) (fieldType : String)
    (maxLength : Option Nat) (s : String) : Except PyError String := do
  checkSqlInjection rt s fieldType
  checkPattern rt fieldType s
  checkLength fieldType maxLength s
  return clean s

def sanitizeStringField (rt : PyRuntime) (fieldType : String)
    (maxLength : Option Nat) (value : PyVal) : Except PyError String :=
  match value with
  | .str s => sanitizeText rt fieldType maxLength s
  | v => .error (securityError
      ("Invalid " ++ fieldType ++ " type: " ++ className v))

def sanitizeName (rt : PyRuntime) (fieldType : String) (value : PyVal) :
    Except PyError PyVal :=
  (sanitizeStringField rt fieldType none value).map .str

/-- A diplomatic message: newlines become blanks first, then leading
slashes go. -/
def sanitizeMessage (rt : PyRuntime) (value : PyVal) :
    Except PyError PyVal :=
  (sanitizeStringField rt "diplomacy_message" (some 500) value).map fun msg =>
    .str (String.ofList ((msg.toList.map fun c =>
      if c == '\n' || c == '\r' then ' ' else c).dropWhile (· == '/')))

-- ==== fields

/-- `if key in action: sanitized[key] = check(action[key])`. -/
def copy (key : String) (check : PyVal → Except PyError PyVal)
    (action sanitized : PyDict) : Except PyError PyDict :=
  match action.get? key with
  | none => .ok sanitized
  | some v => (check v).map (sanitized.set key)

def copyCoordinates (rt : PyRuntime) (keyX keyY : String)
    (action sanitized : PyDict) : Except PyError PyDict :=
  match action.get? keyX, action.get? keyY with
  | some x, some y =>
    (sanitizeCoordinates rt x y).map fun (m, n) =>
      (sanitized.set keyX (.int m)).set keyY (.int n)
  | _, _ => .ok sanitized

def copyEntry (key : String) (check : PyVal → Except PyError PyVal)
    (target : List (PyKey × PyVal)) (sanitized : List (PyKey × PyVal)) :
    Except PyError (List (PyKey × PyVal)) :=
  match PyVal.field? target key with
  | none => .ok sanitized
  | some v => (check v).map fun w => sanitized ++ [(.str key, w)]

/-- The nested target: its coordinates and its direction. -/
def sanitizeTarget (rt : PyRuntime) (target : List (PyKey × PyVal)) :
    Except PyError PyVal := do
  let s ← copyEntry "x" (toIntValue rt) target []
  let s ← copyEntry "y" (toIntValue rt) target s
  let s ← copyEntry "direction" (fun v => .ok (.str (v.toStr rt))) target s
  return .dict s

/-- `if 'target' in action and isinstance(action['target'], dict)`. -/
def copyTarget (rt : PyRuntime) (action sanitized : PyDict) :
    Except PyError PyDict :=
  match action.get? "target" with
  | some (.dict target) =>
    (sanitizeTarget rt target).map (sanitized.set "target")
  | _ => .ok sanitized

-- ==== branches

variable (rt : PyRuntime) (action : PyDict)

def unitMoveFields (s : PyDict) : Except PyError PyDict := do
  let s ← copy "unit_id" (sanitizeUnitId rt) action s
  let s ← copyCoordinates rt "dest_x" "dest_y" action s
  copy "player_id" (sanitizePlayerId rt) action s

def cityProductionFields (s : PyDict) : Except PyError PyDict := do
  let s ← copy "city_id" (sanitizeCityId rt) action s
  let s ← copy "production_type" (sanitizeName rt "production_type") action s
  copy "player_id" (sanitizePlayerId rt) action s

def techResearchFields (s : PyDict) : Except PyError PyDict := do
  let s ← copy "tech_name" (sanitizeName rt "tech_name") action s
  copy "player_id" (sanitizePlayerId rt) action s

def unitBuildCityFields (s : PyDict) : Except PyError PyDict := do
  let s ← copy "unit_id" (sanitizeUnitId rt) action s
  let s ← copy "player_id" (sanitizePlayerId rt) action s
  copy "name" (sanitizeName rt "city_name") action s

def diplomacyFields (s : PyDict) : Except PyError PyDict := do
  let s ← copy "target_player_id" (sanitizePlayerId rt) action s
  let s ← copy "player_id" (sanitizePlayerId rt) action s
  copy "message" (sanitizeMessage rt) action s

def unitFields (s : PyDict) : Except PyError PyDict := do
  let s ← copy "unit_id" (sanitizeUnitId rt) action s
  let s ← copy "player_id" (sanitizePlayerId rt) action s
  let s ← copyTarget rt action s
  let s ← copy "dest_x" (toIntValue rt) action s
  let s ← copy "dest_y" (toIntValue rt) action s
  let s ← copyCoordinates rt "target_x" "target_y" action s
  let s ← copy "target_unit_id" (sanitizeUnitId rt) action s
  copy "target_city_id" (sanitizeCityId rt) action s

/-- The branch of a type; types without one keep nothing. -/
def branchFields (type : String) (s : PyDict) : Except PyError PyDict :=
  if type = "unit_move" then unitMoveFields rt action s
  else if type = "city_production" ∨ type = "city_change_production" then
    cityProductionFields rt action s
  else if type = "tech_research" then techResearchFields rt action s
  else if type = "unit_build_city" then unitBuildCityFields rt action s
  else if PyStr.startsWith type "diplomacy_" then diplomacyFields rt action s
  else if PyStr.startsWith type "unit_" then unitFields rt action s
  else .ok s

/-- `safe_fields`: 'timestamp' and 'priority'. -/
def safeFields (s : PyDict) : Except PyError PyDict := do
  let s ← copy "timestamp" (fun v =>
    (orSecurityError ("Invalid timestamp: " ++ v.toStr rt)
      (rt.toFloat v)).map .float) action s
  match action.get? "priority" with
  | some (.str p) =>
    if p ∈ ["low", "medium", "high"] then return s.set "priority" (.str p)
    else return s
  | _ => return s

/-- `action.get('type') or action.get('action_type', '')`. -/
def actionType (action : PyDict) : PyVal :=
  ((action.get? "type").getD .null).or
    ((action.get? "action_type").getD (.str ""))

/-- The output before any branch: the type, unless it is falsy. -/
def typeField (type : PyVal) : Except PyError PyDict :=
  if type.truthy then
    (sanitizeStringField rt "action_type" (some 50) type).map fun t =>
      (∅ : PyDict).set "type" (.str t)
  else .ok ∅

/-- `sanitize_action_data`, on a dict; any other value is refused with
"Action must be a dictionary". -/
def sanitizeActionData : Except PyError PyDict := do
  let s ← typeField rt (actionType action)
  match actionType action with
  | .str t => do
      let s ← branchFields rt action t s
      safeFields rt action s
  -- a falsy type that is no string has no 'startswith'
  | _ => .error .attributeError

end ActionSanitizer

end Freeciv3d.Proxy
