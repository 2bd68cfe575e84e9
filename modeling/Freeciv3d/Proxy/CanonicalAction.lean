/-
`_parse_canonical_action`: an action as a string, its type and then
`_name(value)` for each parameter.

# The expressions

The type is matched by `^([a-z_]+?)(?:_[a-z_]+\(|$)`, the parameters by
`(\w+)\(([^)]+)\)` from left to right. In both a run of characters is
followed by one that is not of its class, so a match takes the whole run
and what is modelled is that run. Only the type is lazy: it ends at the
first place where the rest of the expression matches.

# What comes out

An underscore also stands between the words of a type, so the type ends
after its first word, whatever follows. The class of the names contains the
underscore, so the first name begins with the type and each later one with
an underscore. No parameter comes out under its own name.
-/
import Freeciv3d.Lib.PyVal

namespace Freeciv3d.Proxy

open Lib

namespace CanonicalAction

-- ==== the expressions

/-- `[a-z_]`. -/
def isTypeChar (c : Char) : Bool := ('a' ≤ c && c ≤ 'z') || c == '_'

/-- `(?:_[a-z_]+\(|$)` matches at the start of the text. -/
def endsType (text : List Char) : Bool :=
  match text with
  | [] => true
  | '_' :: rest =>
    !(rest.takeWhile isTypeChar).isEmpty
      && (rest.dropWhile isTypeChar).head? == some '('
  | c :: rest => c == '\n' && rest.isEmpty

def typeGroup : List Char → List Char → Option (List Char)
  | _, [] => none
  | taken, c :: rest =>
    if isTypeChar c then
      if endsType rest then some (taken ++ [c])
      else typeGroup (taken ++ [c]) rest
    else none

/-- `(\w+)\(([^)]+)\)` at the start of the text: key, value and what comes
after. -/
def pairAt (word : Char → Bool) (text : List Char) :
    Option (List Char × List Char × List Char) :=
  let key := text.takeWhile word
  match text.dropWhile word with
  | '(' :: rest =>
    let value := rest.takeWhile (· != ')')
    match rest.dropWhile (· != ')') with
    | _ :: after =>
      if key.isEmpty || value.isEmpty then none
      else some (key, value, after)
    | [] => none
  | _ => none

/-- `re.finditer`: after a match it goes on behind it. -/
def findPairs (word : Char → Bool) :
    Nat → List Char → List (List Char × List Char)
  | _, [] => []
  | 0, _ => []
  | fuel + 1, c :: rest =>
    match pairAt word (c :: rest) with
    | some (key, value, after) =>
      (key, value) :: findPairs word fuel after
    | none => findPairs word fuel rest

-- ==== the mapping

variable (rt : PyRuntime)

/-- `int(value)`, else the string. -/
def convert (t : PyStr.CharTables) (value : List Char) : PyVal :=
  match PyStr.toInt t (String.ofList value) with
  | some n => .int n
  | none => .str (String.ofList value)

/-- `str(v).lower()`. -/
def lowered (v : PyVal) : PyVal :=
  .str (String.ofList (rt.lower (v.toStr rt).toList))

/-- `result[field] = params[name]`, for the first name that is there. -/
def assign (params : PyDict) (field : String) (names : List String)
    (result : PyDict) : PyDict :=
  match names.findSome? params.get? with
  | some v => result.set field v
  | none => result

def inTarget (params : PyDict) (key : String) : Option PyVal :=
  match params.get? "target" with
  | some (.dict entries) => PyVal.field? entries key
  | _ => none

/-- `int(coords[i].strip())`. -/
def coordinate (coords : List String) (i : Nat) : Except PyError PyVal :=
  let text := PyStr.strip (coords.getD i "")
  match PyStr.toInt rt.toCharTables text with
  | some n => .ok (.int n)
  | none =>
    .error (.valueError
      ("invalid literal for int() with base 10: '" ++ text ++ "'"))

/-- A target `x,y` of a move. -/
def targetTuple (params result : PyDict) : Except PyError PyDict :=
  match params.get? "target" with
  | none => .ok result
  | some target =>
    let text := target.toStr rt
    if PyStr.hasSubstring text "," then do
      let coords := PyStr.split ',' text
      let x ← coordinate rt coords 0
      let y ← coordinate rt coords 1
      return (result.set "dest_x" x).set "dest_y" y
    else .ok result

/-- The production of a city: a target that names it, a target that is it,
or a parameter. -/
def production (params result : PyDict) : PyDict :=
  match inTarget params "production_type", params.get? "target" with
  | some v, _ => result.set "production_type" (lowered rt v)
  | none, some (.str target) =>
    result.set "production_type" (lowered rt (.str target))
  | none, _ =>
    match params.get? "production_type" with
    | some v => result.set "production_type" (lowered rt v)
    | none => result

/-- The name of a city, from a target that is a dict. -/
def cityName (params result : PyDict) : PyDict :=
  match inTarget params "name" with
  | some v => result.set "name" v
  | none => result

def mappedTypes : List String :=
  ["tech_research", "unit_move", "city_production",
    "city_change_production", "unit_build_city", "end_turn"]

def mapFields (actionType : String) (params : PyDict) :
    Except PyError PyDict :=
  let result : PyDict := (∅ : PyDict).set "type" (.str actionType)
  if actionType = "tech_research" then
    let result :=
      match params.get? "target" with
      | some target => result.set "tech_name" (lowered rt target)
      | none => result
    .ok (assign params "player_id" ["player"] result)
  else if actionType = "unit_move" then
    let result := assign params "unit_id" ["actor_id", "unit_id"] result
    let result := assign params "dest_x" ["dest_x"] result
    let result := assign params "dest_y" ["dest_y"] result
    targetTuple rt params result
  else if actionType = "city_production"
      ∨ actionType = "city_change_production" then
    let result := assign params "city_id" ["actor_id", "city_id"] result
    .ok (production rt params result)
  else if actionType = "unit_build_city" then
    let result := assign params "unit_id" ["actor_id", "unit_id"] result
    let result := cityName params result
    .ok (assign params "player_id" ["player"] result)
  else if actionType = "end_turn" then
    .ok (assign params "player_id" ["player", "actor_id"] result)
  else .ok (result.addMissing params)

/-- The parameters as a dict of their converted values. -/
def toParams (t : PyStr.CharTables) (pairs : List (List Char × List Char)) :
    PyDict :=
  Dict.ofList <| pairs.map fun pair =>
    (String.ofList pair.1, convert t pair.2)

/-- `_parse_canonical_action`. -/
def parse (text : List Char) : Except PyError PyDict :=
  match typeGroup [] text with
  | none =>
    .error (.valueError
      ("Cannot parse action type from: " ++ String.ofList text))
  | some actionType =>
    mapFields rt (String.ofList actionType) <|
      toParams rt.toCharTables <|
        findPairs rt.isWord text.length text

-- ==== the statement

/-- A lower-case word. -/
def IsWord (cs : List Char) : Prop :=
  cs ≠ [] ∧ ∀ c ∈ cs, 'a' ≤ c ∧ c ≤ 'z'

structure Words where
  first : List Char
  rest : List (List Char)
  isWord : ∀ w ∈ first :: rest, IsWord w

def Words.text (w : Words) : List Char :=
  PyStr.joinChars '_' (w.first :: w.rest)

structure Param where
  name : Words
  value : List Char
  noParens : '(' ∉ value ∧ ')' ∉ value

/-- `_name(value)`. -/
def Param.text (p : Param) : List Char :=
  '_' :: p.name.text ++ '(' :: p.value ++ [')']

structure Action where
  type : Words
  param : Param
  params : List Param

namespace Action

def text (a : Action) : List Char :=
  a.type.text ++ (a.param :: a.params).flatMap Param.text

/-- The parameters that are given, with their values converted. -/
def given (a : Action) : PyDict :=
  toParams rt.toCharTables <|
    (a.param :: a.params).map fun p => (p.name.text, p.value)

/-- The string is parsed faithfully: the type, and for a type with a
mapping the fields it makes of the given parameters, else all of them as
they are. -/
def Faithful (a : Action) : Prop :=
  ∃ result, parse rt a.text = .ok result
    ∧ result.get? "type" = some (.str (String.ofList a.type.text))
    ∧ if String.ofList a.type.text ∈ mappedTypes then
        mapFields rt (String.ofList a.type.text) (a.given rt) = .ok result
      else
        (∀ k v, (a.given rt).get? k = some v → result.get? k = some v)
          ∧ ∀ k, result.get? k ≠ none →
            k = "type" ∨ (a.given rt).get? k ≠ none

end Action

end CanonicalAction

end Freeciv3d.Proxy
