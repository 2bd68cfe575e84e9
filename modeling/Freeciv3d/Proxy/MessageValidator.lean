/-
`MessageValidator`: what a text from a WebSocket has to be before a handler
sees it, its four passes, and the counters of one validator.

# Errors

A `ValidationError` is a fault: what its message says, in a constructor,
and its code. What else a call may raise comes from the language: a text
that has no UTF-8, and what `json.loads` raises beside its own error.

# What is left out

The wording and the log. How deep `json.loads` goes and which float
literals are read as zero is the interpreter's (`Interpreter`). No field
that has bounds may hold a float, so a float is not compared.
-/
import Freeciv3d.Lib.JsonRead
import Freeciv3d.Lib.Lts

namespace Freeciv3d.Proxy

open Lib

inductive MessageType where
  | llmConnect
  | stateQuery
  | action
  | ping
  | playerReady
  | connPing
  | connPong
  | unitActionsQuery
  | cityActionsQuery
  | chat
  | globalStateQuery
  deriving DecidableEq

namespace MessageType

def value : MessageType → String
  | llmConnect => "llm_connect"
  | stateQuery => "state_query"
  | action => "action"
  | ping => "ping"
  | playerReady => "player_ready"
  | connPing => "conn_ping"
  | connPong => "conn_pong"
  | unitActionsQuery => "unit_actions_query"
  | cityActionsQuery => "city_actions_query"
  | chat => "chat"
  | globalStateQuery => "global_state_query"

def all : List MessageType :=
  [llmConnect, stateQuery, action, ping, playerReady, connPing, connPong,
    unitActionsQuery, cityActionsQuery, chat, globalStateQuery]

/-- `MessageType(value)`; a value that is not a string is none. -/
def ofValue : JsonValue → Option MessageType
  | .str s => all.find? fun t => pyText t.value == s
  | _ => none

end MessageType

inductive FieldType where
  | str
  | int
  | bool
  /-- `(int, float)`. -/
  | number
  | dict
  | list
  deriving DecidableEq

structure FieldConstraints where
  minLength : Option Nat := none
  maxLength : Option Nat := none
  /-- `r"^[a-zA-Z0-9_-]+$"`. -/
  pattern : Bool := false
  minValue : Option Int := none
  maxValue : Option Int := none
  allowedValues : Option (List String) := none
  maxKeys : Option Nat := none
  requiredKeys : List String := []

structure MessageSchema where
  requiredFields : List String
  optionalFields : List String
  fieldTypes : List (String × FieldType)
  fieldConstraints : List (String × FieldConstraints)

namespace MessageValidator

-- ==== the schemas

def defaultMessageSize : Nat := 1024 * 1024

def maxJsonDepth : Nat := 10

def maxStringLength : Nat := 1000

def maxArrayLength : Nat := 100

def maxObjectKeys : Nat := 50

def traceContext : String × FieldConstraints :=
  ("trace_context", { maxKeys := some 5 })

def correlationId : String × FieldConstraints :=
  ("correlation_id", { maxLength := some 64, pattern := true })

/-- A schema that has no more than a type and a trace. -/
def bareSchema : MessageSchema where
  requiredFields := ["type"]
  optionalFields := ["trace_context"]
  fieldTypes := [("type", .str), ("trace_context", .dict)]
  fieldConstraints := [traceContext]

def schemas : MessageType → MessageSchema
  | .llmConnect =>
    { requiredFields := ["type", "agent_id", "api_token"]
      optionalFields :=
        ["port", "nation", "leader_name", "game_id", "auto_ready",
          "trace_context", "game_config", "player_id", "expected_turn"]
      fieldTypes :=
        [("type", .str), ("agent_id", .str), ("api_token", .str),
          ("port", .int), ("nation", .str), ("leader_name", .str),
          ("game_id", .str), ("trace_context", .dict),
          ("auto_ready", .bool), ("game_config", .dict),
          ("player_id", .int), ("expected_turn", .int)]
      fieldConstraints :=
        [("agent_id", { maxLength := some 50, pattern := true }),
          ("api_token", { minLength := some 10, maxLength := some 100 }),
          ("port", { minValue := some 1000, maxValue := some 65535 }),
          ("game_id", { maxLength := some 64, pattern := true }),
          ("nation", { maxLength := some 50 }),
          ("leader_name", { maxLength := some 100 }),
          traceContext,
          ("game_config", { maxKeys := some 20 }),
          ("player_id", { minValue := some 0, maxValue := some 511 }),
          ("expected_turn",
            { minValue := some 0, maxValue := some 32767 })] }
  | .stateQuery =>
    { requiredFields := ["type"]
      optionalFields :=
        ["format", "include_actions", "player_id", "trace_context",
          "correlation_id"]
      fieldTypes :=
        [("type", .str), ("format", .str), ("include_actions", .bool),
          ("player_id", .int), ("trace_context", .dict),
          ("correlation_id", .str)]
      fieldConstraints :=
        [("format",
            { allowedValues := some ["full", "delta", "llm_optimized"] }),
          ("player_id", { minValue := some 1, maxValue := some 8 }),
          traceContext, correlationId] }
  | .action =>
    { requiredFields := ["type", "action"]
      optionalFields := ["timestamp", "trace_context", "correlation_id"]
      fieldTypes :=
        [("type", .str), ("action", .dict), ("timestamp", .number),
          ("trace_context", .dict), ("correlation_id", .str)]
      fieldConstraints :=
        [("action", { maxKeys := some 20 }), traceContext,
          correlationId] }
  | .ping =>
    { requiredFields := ["type"]
      optionalFields := ["timestamp", "trace_context"]
      fieldTypes :=
        [("type", .str), ("timestamp", .number), ("trace_context", .dict)]
      fieldConstraints := [traceContext] }
  | .playerReady => bareSchema
  | .connPing => bareSchema
  | .connPong => bareSchema
  | .unitActionsQuery =>
    { requiredFields := ["type", "agent_id"]
      optionalFields :=
        ["timestamp", "correlation_id", "data", "unit_ids",
          "trace_context"]
      fieldTypes :=
        [("type", .str), ("agent_id", .str), ("data", .dict),
          ("unit_ids", .list), ("timestamp", .number),
          ("correlation_id", .str), ("trace_context", .dict)]
      fieldConstraints :=
        [correlationId, ("data", { requiredKeys := ["unit_ids"] }),
          traceContext] }
  | .cityActionsQuery =>
    { requiredFields := ["type", "data"]
      optionalFields :=
        ["agent_id", "timestamp", "correlation_id", "trace_context"]
      fieldTypes :=
        [("type", .str), ("data", .dict), ("agent_id", .str),
          ("timestamp", .number), ("correlation_id", .str),
          ("trace_context", .dict)]
      fieldConstraints :=
        [correlationId, ("data", { requiredKeys := ["city_ids"] }),
          traceContext] }
  | .chat =>
    { requiredFields := ["type"]
      optionalFields :=
        ["message", "data", "agent_id", "timestamp", "correlation_id",
          "trace_context"]
      fieldTypes :=
        [("type", .str), ("message", .str), ("data", .dict),
          ("agent_id", .str), ("timestamp", .number),
          ("correlation_id", .str), ("trace_context", .dict)]
      fieldConstraints :=
        [("message", { maxLength := some 500 }), correlationId,
          traceContext] }
  | .globalStateQuery =>
    { requiredFields := ["type"]
      optionalFields := ["correlation_id", "trace_context"]
      fieldTypes :=
        [("type", .str), ("correlation_id", .str),
          ("trace_context", .dict)]
      fieldConstraints := [correlationId, traceContext] }

-- ==== the errors

/-- What a `ValidationError` says. -/
inductive Fault where
  | tooLarge (size : Nat)
  | invalidJson
  | notAnObject
  | tooDeep (depth : Nat)
  | tooManyObjectKeys (count : Nat)
  | invalidKey (key : PyText)
  | arrayTooLong (length : Nat)
  | textTooLong (length : Nat)
  | missingType
  | unknownType (value : JsonValue)
  | missingField (field : String)
  | invalidType (field : String) (value : JsonValue) (expected : FieldType)
  | unexpectedField (field : PyText)
  | missingUnitIds
  | tooShort (field : String) (length minLength : Nat)
  | tooLong (field : String) (length maxLength : Nat)
  | noMatch (field : String)
  | invalidValue (field : String) (value : PyText)
  | tooSmall (field : String) (value : Int) (minValue : Int)
  | tooBig (field : String) (value : Int) (maxValue : Int)
  | listTooLong (field : String) (length maxLength : Nat)
  | tooManyKeys (field : String) (count maxKeys : Nat)

def Fault.errorCode : Fault → String
  | tooLarge _ => "E222"
  | invalidJson => "E221"
  | notAnObject => "E221"
  | tooDeep _ => "E222"
  | tooManyObjectKeys _ => "E222"
  | invalidKey _ => "E223"
  | arrayTooLong _ => "E222"
  | textTooLong _ => "E224"
  | missingType => "E101"
  | unknownType _ => "E103"
  | missingField _ => "E220"
  | invalidType _ _ _ => "E221"
  | unexpectedField _ => "E223"
  | missingUnitIds => "E220"
  | tooShort _ _ _ => "E222"
  | tooLong _ _ _ => "E224"
  | noMatch _ => "E223"
  | invalidValue _ _ => "E222"
  | tooSmall _ _ _ => "E222"
  | tooBig _ _ _ => "E222"
  | listTooLong _ _ _ => "E222"
  | tooManyKeys _ _ _ => "E222"

inductive Raised where
  | validationError (fault : Fault)
  | unicodeEncodeError
  | recursionError
  | valueError

structure Interpreter where
  /-- How many arrays and objects `json.loads` may have open. -/
  depth : Nat
  isZero : PyText → Bool

abbrev Message := List (PyText × JsonValue)

/-- `message.get(field)`. -/
def get (message : Message) (field : String) : Option JsonValue :=
  message.lookup (pyText field)

/-- `field in message`. -/
def has (message : Message) (field : String) : Bool :=
  (get message field).isSome

-- ==== size and structure

/-- `len(message.encode('utf-8'))`; half of a surrogate pair has no
encoding. -/
def utf8Length : PyText → Option Nat
  | [] => some 0
  | c :: rest =>
    if 0xD800 ≤ c ∧ c ≤ 0xDFFF then none
    else (utf8Length rest).map fun n =>
      n + (if c < 0x80 then 1 else if c < 0x800 then 2
        else if c < 0x10000 then 3 else 4)

def validateMessageSize (limit : Nat) (raw : PyText) : Except Raised Unit :=
  match utf8Length raw with
  | none => .error .unicodeEncodeError
  | some size =>
    if limit < size then .error (.validationError (.tooLarge size))
    else .ok ()

mutual

/-- `_validate_json_structure`: the first fault. -/
def structureFault (depth : Nat) : JsonValue → Option Fault
  | .dict entries =>
    if maxJsonDepth < depth then some (.tooDeep depth)
    else if maxObjectKeys < entries.length then
      some (.tooManyObjectKeys entries.length)
    else entriesFault depth entries
  | .list items =>
    if maxJsonDepth < depth then some (.tooDeep depth)
    else if maxArrayLength < items.length then
      some (.arrayTooLong items.length)
    else itemsFault depth items
  | .str s =>
    if maxJsonDepth < depth then some (.tooDeep depth)
    else if maxStringLength < s.length then some (.textTooLong s.length)
    else none
  | .null => if maxJsonDepth < depth then some (.tooDeep depth) else none
  | .bool _ => if maxJsonDepth < depth then some (.tooDeep depth) else none
  | .int _ => if maxJsonDepth < depth then some (.tooDeep depth) else none
  | .float _ =>
    if maxJsonDepth < depth then some (.tooDeep depth) else none

def entriesFault (depth : Nat) : List (PyText × JsonValue) → Option Fault
  | [] => none
  | (key, value) :: rest =>
    if maxStringLength < key.length then some (.invalidKey key)
    else (structureFault (depth + 1) value).or (entriesFault depth rest)

def itemsFault (depth : Nat) : List JsonValue → Option Fault
  | [] => none
  | item :: rest =>
    (structureFault (depth + 1) item).or (itemsFault depth rest)

end

def parseJsonSafely (interpreter : Interpreter) (raw : PyText) :
    Except Raised Message :=
  match JsonRead.loads interpreter.depth raw with
  | .error .decodeError => .error (.validationError .invalidJson)
  | .error .recursionError => .error .recursionError
  | .error .valueError => .error .valueError
  | .ok (.dict entries) =>
    match structureFault 0 (.dict entries) with
    | some fault => .error (.validationError fault)
    | none => .ok entries
  | .ok _ => .error (.validationError .notAnObject)

-- ==== schema

/-- `bool(value)`. -/
def truthy (interpreter : Interpreter) : JsonValue → Bool
  | .null => false
  | .bool b => b
  | .int n => n != 0
  | .float literal => !interpreter.isZero literal
  | .str s => !s.isEmpty
  | .list items => !items.isEmpty
  | .dict entries => !entries.isEmpty

/-- `isinstance(value, expected_type)`: `True` and `False` are ints. -/
def isInstance : FieldType → JsonValue → Bool
  | .str, .str _ => true
  | .int, .int _ => true
  | .int, .bool _ => true
  | .bool, .bool _ => true
  | .number, .int _ => true
  | .number, .bool _ => true
  | .number, .float _ => true
  | .dict, .dict _ => true
  | .list, .list _ => true
  | _, _ => false

/-- The checks of `_validate_message_schema` once the type is known: the
first fault. -/
def schemaFault (schema : MessageSchema) (message : Message) :
    Option Fault :=
  (schema.requiredFields.findSome? fun field =>
      if has message field then none else some (.missingField field)).or
    ((schema.fieldTypes.findSome? fun (field, expected) =>
        (get message field).bind fun value =>
          if isInstance expected value then none
          else some (.invalidType field value expected)).or
      (message.findSome? fun (field, _) =>
        if (schema.requiredFields ++ schema.optionalFields).any
            (fun allowed => pyText allowed == field) then none
        else some (.unexpectedField field)))

def validateMessageSchema (interpreter : Interpreter) (message : Message) :
    Except Fault MessageType :=
  match (get message "type").filter (truthy interpreter) with
  | none => .error .missingType
  | some value =>
    match MessageType.ofValue value with
    | none => .error (.unknownType value)
    | some type =>
      match schemaFault (schemas type) message with
      | some fault => .error fault
      | none => .ok type

-- ==== content

/-- `[a-zA-Z0-9_-]`. -/
def isWordChar (c : Nat) : Bool :=
  (48 ≤ c && c ≤ 57) || (65 ≤ c && c ≤ 90) || (97 ≤ c && c ≤ 122)
    || c == 95 || c == 45

/-- `re.fullmatch(r"[a-zA-Z0-9_-]+", value)`. -/
def isWord (value : PyText) : Bool := !value.isEmpty && value.all isWordChar

/-- `re.match(r"^[a-zA-Z0-9_-]+$", value)`: `$` is also before a newline at
the end. -/
def matchesPattern (value : PyText) : Bool :=
  isWord value || (value.getLast? == some 10 && isWord value.dropLast)

def textFault (field : String) (c : FieldConstraints) (value : PyText) :
    Option Fault :=
  ((c.minLength.bind fun n =>
      if value.length < n then some (.tooShort field value.length n)
      else none).or
    (c.maxLength.bind fun n =>
      if n < value.length then some (.tooLong field value.length n)
      else none)).or
  ((if c.pattern && !matchesPattern value then some (.noMatch field)
      else none).or
    (c.allowedValues.bind fun allowed =>
      if allowed.any (fun a => pyText a == value) then none
      else some (.invalidValue field value)))

def numberFault (field : String) (c : FieldConstraints) (value : Int) :
    Option Fault :=
  (c.minValue.bind fun n =>
      if value < n then some (.tooSmall field value n) else none).or
    (c.maxValue.bind fun n =>
      if n < value then some (.tooBig field value n) else none)

/-- The constraints of a field, by what its value is. -/
def constraintFault (field : String) (c : FieldConstraints) :
    JsonValue → Option Fault
  | .str s => textFault field c s
  | .int n => numberFault field c n
  | .bool b => numberFault field c (if b then 1 else 0)
  | .list items => c.maxLength.bind fun n =>
    if n < items.length then some (.listTooLong field items.length n)
    else none
  | .dict entries => c.maxKeys.bind fun n =>
    if n < entries.length then
      some (.tooManyKeys field entries.length n)
    else none
  | .null => none
  | .float _ => none

/-- `message.pop(field)`. -/
def remove (message : Message) (field : String) : Message :=
  message.filter fun e => e.1 != pyText field

/-- `message[field] = value`. -/
def put (message : Message) (field : String) (value : JsonValue) : Message :=
  Dict.setEntry (pyText field) value message

/-- The special handling of `unit_actions_query`: `unit_ids` goes into
`data`. -/
def moveUnitIds (message : Message) : Message :=
  match get message "unit_ids", get message "data" with
  | some ids, none =>
    put (remove message "unit_ids") "data"
      (.dict [(pyText "unit_ids", ids)])
  | some ids, some (.dict data) =>
    let message :=
      if has data "unit_ids" then message
      else put message "data" (.dict (put data "unit_ids" ids))
    remove message "unit_ids"
  | _, _ => message

/-- `'data' in message and 'unit_ids' in message['data']`. -/
def hasUnitIds (message : Message) : Bool :=
  match get message "data" with
  | some (.dict data) => has data "unit_ids"
  | _ => false

/-- The loop over the constraints: the first fault. -/
def contentFault (type : MessageType) (message : Message) : Option Fault :=
  (schemas type).fieldConstraints.findSome? fun (field, c) =>
    (get message field).bind (constraintFault field c)

/-- `_validate_message_content`; it returns the message as it leaves it. -/
def validateMessageContent (type : MessageType) (message : Message) :
    Except Fault Message :=
  let message :=
    if type = .unitActionsQuery then moveUnitIds message else message
  if type = .unitActionsQuery ∧ hasUnitIds message = false then
    .error .missingUnitIds
  else
    match contentFault type message with
    | some fault => .error fault
    | none => .ok message

-- ==== the call

/-- The passes of `validate_message`. -/
def validate (interpreter : Interpreter) (limit : Nat) (raw : PyText) :
    Except Raised Message := do
  validateMessageSize limit raw
  let message ← parseJsonSafely interpreter raw
  let type ← (validateMessageSchema interpreter message).mapError
    Raised.validationError
  (validateMessageContent type message).mapError Raised.validationError

end MessageValidator

/-- A validator: its limit and `validation_stats`. -/
structure MessageValidator where
  maxMessageSize : Nat
  totalMessages : Nat
  validMessages : Nat
  validationErrors : Nat
  errorsByType : Dict String Nat

namespace MessageValidator

def init (limit : Option Nat) : MessageValidator where
  maxMessageSize := if limit.getD 0 = 0 then defaultMessageSize
    else limit.getD 0
  totalMessages := 0
  validMessages := 0
  validationErrors := 0
  errorsByType := ∅

variable (interpreter : Interpreter) (v : MessageValidator)

/-- The counters after a call: only its own errors are counted as such. -/
def count : Except Raised Message → MessageValidator
  | .ok _ =>
    { v with
      totalMessages := v.totalMessages + 1
      validMessages := v.validMessages + 1 }
  | .error (.validationError fault) =>
    { v with
      totalMessages := v.totalMessages + 1
      validationErrors := v.validationErrors + 1
      errorsByType := v.errorsByType.set fault.errorCode
        ((v.errorsByType.get? fault.errorCode).getD 0 + 1) }
  | .error _ => { v with totalMessages := v.totalMessages + 1 }

def validateMessage (raw : PyText) :
    Except Raised Message × MessageValidator :=
  let outcome := validate interpreter v.maxMessageSize raw
  (outcome, v.count outcome)

def resetStats : MessageValidator :=
  { v with
    totalMessages := 0
    validMessages := 0
    validationErrors := 0
    errorsByType := ∅ }

end MessageValidator

inductive ValidatorAct where
  | call (raw : PyText)
  | reset

def validatorRuns (interpreter : MessageValidator.Interpreter) :
    Lts MessageValidator ValidatorAct where
  init v := ∃ limit, v = MessageValidator.init limit
  step v
    | .call raw => some (v.validateMessage interpreter raw).2
    | .reset => some v.resetStats

end Freeciv3d.Proxy
