/-
How the LLM gateway translates an agent's message for the proxy, and
what the proxy reads of a message.

# The two formats

An agent's message is an envelope with the fields of its request in
`data`, or without `data`; the proxy's is flat. `data` is whatever the
agent puts there. The translation assigns its entries over the envelope
and then keeps, for some types, the fields of a list; `action`,
`action_submit` and `chat` build a new message. An entry of `data` under
a key that is no string is written by `json.dumps` under a name that no
field has, and is left out here.

# The proxy

Its validator takes `unit_ids` from the top level into `data`. What a
handler reads is `None` where the field is not there.
-/
import Freeciv3d.Lib.PyVal

namespace Freeciv3d.Gateway

open Lib

namespace Transform

-- ==== the types

inductive MessageType where
  | llmConnect
  | stateQuery
  | ping
  | playerReady
  | actionSubmit
  | action
  | chat
  | globalStateQuery
  | connPong
  | unitActionsQuery
  | cityActionsQuery
  | other
  deriving DecidableEq

namespace MessageType

def names : List (String × MessageType) :=
  [("llm_connect", llmConnect), ("state_query", stateQuery),
    ("ping", ping), ("player_ready", playerReady),
    ("action_submit", actionSubmit), ("action", action), ("chat", chat),
    ("global_state_query", globalStateQuery), ("conn_pong", connPong),
    ("unit_actions_query", unitActionsQuery),
    ("city_actions_query", cityActionsQuery)]

def ofVal : PyVal → MessageType
  | .str name => (names.lookup name).getD .other
  | _ => .other

def allowedFields : MessageType → Option (List String)
  | llmConnect => some ["type", "agent_id", "api_token", "port", "nation",
      "leader_name", "game_id", "auto_ready", "game_config", "player_id",
      "expected_turn"]
  | stateQuery => some ["type", "format", "include_actions", "player_id"]
  | ping => some ["type", "timestamp"]
  | playerReady => some ["type", "is_ready"]
  | globalStateQuery => some ["type", "correlation_id", "trace_context"]
  | _ => none

end MessageType

/-- `d.get(name)`. -/
def value (d : PyDict) (name : String) : PyVal := (d.get? name).getD .null

def kind (m : PyDict) : MessageType := .ofVal (value m "type")

-- ==== the translation

section Gateway

variable (m : PyDict)

/-- `{**message}`, with the entries of `data` at the top level. -/
def flatten : Except Lib.PyError PyDict :=
  match m.get? "data" with
  | some data => do
      let fields ← data.updateFields
      pure ((m.erase "data").update fields)
  | none => .ok m

/-- `if name in message: transformed[name] = message[name]`. -/
def preserve (name : String) (transformed : PyDict) : PyDict :=
  match m.get? name with
  | some v => transformed.set name v
  | none => transformed

def submittedAction : PyDict :=
  let action := value m "action"
  let action := if action.isNull then value m "data" else action
  preserve m "timestamp"
    (((∅ : PyDict).set "type" (.str "action")).set "action" action)

def ownFields (transformed : PyDict) : PyVal :=
  .dict ((transformed.filter fun name _ =>
    name ∉ ["type", "agent_id", "timestamp"]).entries.map fun e =>
      (.str e.1, e.2))

def nestedAction (transformed : PyDict) : PyDict :=
  let action := (m.get? "data").getD (ownFields transformed)
  preserve m "timestamp"
    (((∅ : PyDict).set "type" (.str "action")).set "action" action)

/-- `data["message"]`, when `data` is a dict. -/
def dataMessage : PyVal :=
  match m.get? "data" with
  | some (.dict entries) => value (PyVal.fields entries) "message"
  | _ => .null

def chatMessage : PyDict :=
  let message := dataMessage m
  let message := if message.isNull then value m "message" else message
  preserve m "correlation_id"
    (((∅ : PyDict).set "type" (.str "chat")).set "message" message)

def transformToProxyFormat : Except Lib.PyError (Option PyDict) := do
  let transformed ← flatten m
  match kind m with
  | .actionSubmit => pure (some (submittedAction m))
  | .action => pure (some (nestedAction m transformed))
  | .chat => pure (some (chatMessage m))
  | .connPong => pure none
  | k =>
    match k.allowedFields with
    | some allowed =>
      pure (some (transformed.filter fun name _ => name ∈ allowed))
    | none => pure (some transformed)

/-- What `_forward_to_proxy` logs of an action is read with `get`. -/
def logAction : Except Lib.PyError Unit :=
  match kind m, m.get? "action" with
  | .action, some (.dict _) => .ok ()
  | .action, some _ => .error .attributeError
  | _, _ => .ok ()

def forwardToProxy : Except Lib.PyError (Option PyDict) := do
  logAction m
  transformToProxyFormat m

end Gateway

-- ==== the proxy

section Proxy

variable (m : PyDict)

/-- `unit_ids`, after the validator has moved it into `data`. -/
def unitIds : PyVal :=
  match m.get? "data" with
  | none => value m "unit_ids"
  | some (.dict entries) =>
    ((PyVal.fields entries).get? "unit_ids").getD (value m "unit_ids")
  -- the validator rejects it
  | some _ => .null

def inData (name : String) : PyVal :=
  match m.get? "data" with
  | some (.dict entries) => value (PyVal.fields entries) name
  | _ => .null

/-- `msg_data.get('data') if 'data' in msg_data else ...`. -/
def actionData : PyVal :=
  (m.get? "data").getD ((m.get? "action").getD (.dict []))

/-- `data["message"]`, else `message`. -/
def chatText : PyVal :=
  if (inData m "message").isNull then value m "message"
  else inData m "message"

end Proxy

namespace MessageType

/-- The fields that a handler of the proxy reads, other than the
`correlation_id`. -/
def fieldsRead : MessageType → List String
  | llmConnect => ["agent_id", "api_token", "expected_turn", "game_id",
      "player_id", "game_config", "nation", "leader_name", "auto_ready"]
  | stateQuery => ["format", "include_actions"]
  | action => ["action"]
  | playerReady => ["is_ready"]
  | unitActionsQuery => ["unit_ids"]
  | cityActionsQuery => ["city_ids"]
  | chat => ["message"]
  | _ => []

def read (k : MessageType) (m : PyDict) (name : String) : PyVal :=
  match k with
  | action => actionData m
  | unitActionsQuery => unitIds m
  | cityActionsQuery => inData m name
  | chat => chatText m
  | _ => value m name

end MessageType

end Transform

end Freeciv3d.Gateway
