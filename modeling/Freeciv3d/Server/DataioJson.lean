/-
The reading and writing of packet fields in JSON (`dataio_json.c`).

# Locations

A location is the way from the packet to a value: fields of objects and
elements of arrays (`plocation`, with its `sub_location` behind it). The
source changes a location in place for the fields of a structure; here the
changed location is passed.

# Readers

A reader of integers or booleans fails only where nothing is at the
location; what is there is converted by the accessor of the library. A
string is measured before it is copied, and there is nothing to measure
where the value is no string: the server crashes.
-/
import Freeciv3d.Lib.Jansson
import Freeciv3d.Server.DataioRaw

namespace Freeciv3d.Server

open Lib

/-- One `struct plocation`: `last` is the number -1. -/
inductive PStep
  | field (name : String)
  | elem (number : Nat)
  | last
  deriving DecidableEq

/-- A location with its sub locations, never empty. -/
abbrev Plocation := List PStep

/-- What a reader leaves: `crash` is a null pointer followed. -/
inductive Got (α : Type)
  | crash
  | failed
  | stored (a : α)

def Got.ofOption {α : Type} : Option α → Got α
  | none => failed
  | some a => stored a

-- ==== locations

def PStep.get : PStep → JsonT → Option JsonT
  | field name, item => item.objectGet name
  | elem number, item => item.arrayGet number
  | last, _ => none

/-- `plocation_read_data`: behind a null everything is null. -/
def plocationReadData (item : JsonT) : Plocation → Option JsonT
  | [] => some item
  | step :: sub =>
    if item.isNull then some item
    else (step.get item).bind fun v => plocationReadData v sub

/-- `plocation_write_field` and `plocation_write_elem` without a sub
location. -/
def PStep.put (data item : JsonT) : PStep → Option JsonT
  | field name => item.objectSet name data
  | elem number => item.arraySet number data
  | last => item.arrayAppend data

/-- An element is written into only when it is an array. -/
def updateElem (item : JsonT) (number : Nat) (write : JsonT → Option JsonT) :
    Option JsonT :=
  (item.arrayGet number).bind fun v =>
    if v.isArray then (write v).bind fun v' => item.arraySet number v'
    else none

/-- `plocation_write_field` and `plocation_write_elem` with a sub
location. -/
def PStep.update (write : JsonT → Option JsonT) (item : JsonT) :
    PStep → Option JsonT
  | field name => (item.objectGet name).bind fun v =>
    (write v).bind fun v' => item.objectSet name v'
  | elem number => updateElem item number write
  | last => updateElem item (item.arraySize - 1) write

/-- `plocation_write_data`; nothing on an error. -/
def plocationWriteData (item : JsonT) : Plocation → JsonT → Option JsonT
  | [], _ => none
  | [step], data => step.put data item
  | step :: sub, data =>
    step.update (fun v => plocationWriteData v sub data) item

-- ==== numbers

/-- The six readers of integers: `*dest = json_integer_value(pint)`. -/
def getIntegerJson (packet : JsonT) (location : Plocation) : Option Int :=
  (plocationReadData packet location).map fun v => int32 v.integerValue

def getUint8Json : JsonT → Plocation → Option Int := getIntegerJson

def getSint8Json : JsonT → Plocation → Option Int := getIntegerJson

def getUint16Json : JsonT → Plocation → Option Int := getIntegerJson

def getSint16Json : JsonT → Plocation → Option Int := getIntegerJson

def getUint32Json : JsonT → Plocation → Option Int := getIntegerJson

def getSint32Json : JsonT → Plocation → Option Int := getIntegerJson

def getIntJson : Width → JsonT → Plocation → Option Int
  | .uint8 => getUint8Json
  | .sint8 => getSint8Json
  | .uint16 => getUint16Json
  | .sint16 => getSint16Json
  | .uint32 => getUint32Json
  | .sint32 => getSint32Json

def getBool8Json (packet : JsonT) (location : Plocation) : Option Bool :=
  (plocationReadData packet location).map JsonT.isTrue

-- ==== strings

/-- `dio_get_string_json`, into a buffer of `room + 1` bytes. -/
def getStringJson (room : Nat) (packet : JsonT) (location : Plocation) :
    Got CStr :=
  match plocationReadData packet location with
  | none => .failed
  | some v =>
    match v.stringValue with
    | none => .crash
    | some s => if room < s.length then .failed else .stored s

def getEstringJson (unescape : CStr → CStr) (room : Nat) (packet : JsonT)
    (location : Plocation) : Got CStr :=
  match getStringJson room packet location with
  | .stored s => .stored ((CStr.untilNul (unescape s)).take room)
  | .failed => .failed
  | .crash => .crash

-- ==== structures

/-- `dio_get_unit_order_json`: the fields lie behind the last sub
location. -/
def getUnitOrderJson (packet : JsonT) (location : Plocation) :
    Option UnitOrder := do
  let order ← getUint8Json packet (location ++ [.field "order"])
  let activity ← getUint8Json packet (location ++ [.field "activity"])
  let target ← getSint32Json packet (location ++ [.field "target"])
  let subTarget ← getSint16Json packet (location ++ [.field "sub_target"])
  let action ← getUint8Json packet (location ++ [.field "action"])
  let dir ← getUint8Json packet (location ++ [.field "dir"])
  return ⟨order, activity, target, subTarget, action, dir⟩

/-- The location of a part of an element of a worklist: the sub location
that was there is lost. -/
def worklistPart (location : Plocation) (i : Nat) (part : String) :
    Plocation :=
  location.take 1 ++ [.elem i, .field part]

def getUniversalJson (r : Ruleset) (packet : JsonT) (location : Plocation)
    (i : Nat) : Option Universal := do
  let kind ← getUint8Json packet (worklistPart location i "kind")
  let value ← getUint8Json packet (worklistPart location i "value")
  return universalByNumber r kind value

def getWorklistJson (r : Ruleset) (packet : JsonT) (location : Plocation) :
    Option Worklist :=
  match plocationReadData packet location with
  | some (.array items) =>
    (List.range items.length).foldlM
      (fun pwl i => (getUniversalJson r packet location i).map pwl.append)
      Worklist.init
  | _ => none

def getRequirementJson (r : Ruleset) (packet : JsonT)
    (location : Plocation) : Option Requirement := do
  let requirement ← plocationReadData packet location
  let kind ← getUint8Json requirement [.field "kind"]
  let value ← getUint32Json requirement [.field "value"]
  let range ← getUint8Json requirement [.field "range"]
  let survives ← getBool8Json requirement [.field "survives"]
  let present ← getBool8Json requirement [.field "present"]
  let quiet ← getBool8Json requirement [.field "quiet"]
  return reqFromValues r kind range survives present quiet value

def getActionProbabilityJson (packet : JsonT) (location : Plocation) :
    Option ActProb := do
  let actionProbability ← plocationReadData packet location
  let min ← getUint8Json actionProbability [.field "min"]
  let max ← getUint8Json actionProbability [.field "max"]
  return ⟨min, max⟩

-- ==== writers

def unitOrderObject (order : UnitOrder) : JsonT :=
  .object [("order", .integer order.order),
    ("activity", .integer order.activity), ("target", .integer order.target),
    ("sub_target", .integer order.subTarget),
    ("action", .integer order.action), ("dir", .integer order.dir)]

def putUnitOrderJson (packet : JsonT) (location : Plocation)
    (order : UnitOrder) : Option JsonT :=
  plocationWriteData packet location (unitOrderObject order)

def putFarrayJson (packet : JsonT) (location : Plocation) (size : Nat) :
    Option JsonT :=
  plocationWriteData packet location (.array (List.replicate size .null))

def universalObject (u : Universal) : JsonT :=
  .object [("kind", .integer u.kind), ("value", .integer (universalNumber u))]

/-- The loop of `dio_put_worklist_json`, from entry `i` on. -/
def putEntriesJson (location : Plocation) :
    List Universal → Nat → JsonT → Option JsonT
  | [], _, packet => some packet
  | u :: us, i, packet =>
    (plocationWriteData packet (location.take 1 ++ [.elem i])
      (universalObject u)).bind (putEntriesJson location us (i + 1))

def putWorklistJson (packet : JsonT) (location : Plocation)
    (pwl : Worklist) : Option JsonT :=
  (putFarrayJson packet location pwl.entries.length).bind
    (putEntriesJson location pwl.entries 0)

def requirementObject (req : Requirement) : JsonT :=
  .object [("kind", .integer req.source.kind),
    ("value", .integer (universalNumber req.source)),
    ("range", .integer req.range), ("survives", .bool req.survives),
    ("present", .bool req.present), ("quiet", .bool req.quiet)]

def putRequirementJson (packet : JsonT) (location : Plocation)
    (req : Requirement) : Option JsonT :=
  plocationWriteData packet location (requirementObject req)

def actionProbabilityObject (prob : ActProb) : JsonT :=
  .object [("min", .integer prob.min), ("max", .integer prob.max)]

def putActionProbabilityJson (packet : JsonT) (location : Plocation)
    (prob : ActProb) : Option JsonT :=
  plocationWriteData packet location (actionProbabilityObject prob)

end Freeciv3d.Server
