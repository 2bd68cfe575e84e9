/-
Python values as `json.loads` builds them, and the operators a handler
applies to values it has not checked yet: truth, equality, order,
`int`, `str`, and the `get` of a dict.

# Numbers

A Python number equals another one of any type when the values are
equal, and `True` and `False` are the numbers 1 and 0. A finite float
is the rational it stands for.

# Keys

`json.loads` makes string keys only; a program may also build dicts
with integer keys. An integer never equals a string, so `d[5]` and
`d["5"]` are different entries.

# The runtime

What depends on the character database, and how a float or a container
is printed, enters through `PyRuntime`.
-/
import Mathlib.Data.Rat.Floor
import Freeciv3d.Lib.Dict
import Freeciv3d.Lib.PyStr

namespace Lib

inductive PyKey where
  | int (n : Int)
  | str (s : String)
  deriving DecidableEq

inductive PyFloat where
  | finite (q : Rat)
  | inf (negative : Bool)
  | nan
  deriving DecidableEq

/-- A value. -/
inductive PyVal where
  | null
  | bool (b : Bool)
  | int (n : Int)
  | float (x : PyFloat)
  | str (s : String)
  | list (items : List PyVal)
  | dict (entries : List (PyKey × PyVal))

/-- An exception: the built-in classes by name, and the classes the
program defines. -/
inductive PyError where
  | typeError
  | valueError (message : String)
  | overflowError
  | keyError (key : String)
  | attributeError
  | custom (message : String)
  deriving DecidableEq

/-- A dict with string keys. -/
abbrev PyDict := Dict String PyVal

/-- What the runtime knows about characters and printing. -/
structure PyRuntime extends PyStr.CharTables where
  /-- `s.upper()`, with what `re.IGNORECASE` identifies. -/
  upper : List Char → List Char
  /-- `s.lower()`. -/
  lower : List Char → List Char
  /-- `str(v)` of a float or a container. -/
  repr : PyVal → String
  /-- `float(v)`. -/
  toFloat : PyVal → Except PyError PyFloat

namespace PyRuntime

/-- The runtime on ASCII; floats and containers are printed as `?`. -/
def ascii : PyRuntime where
  toCharTables := .ascii
  upper := PyStr.upperChars
  lower := List.map Char.toLower
  repr _ := "?"
  toFloat
    | .int n => .ok (.finite n)
    | .float x => .ok x
    | _ => .error .typeError

end PyRuntime

namespace PyVal

-- ==== numbers

/-- The value of a finite number. -/
def number : PyVal → Option Rat
  | bool b => some (if b then 1 else 0)
  | int n => some n
  | float (.finite q) => some q
  | _ => none

/-- `bool(v)`. -/
def truthy : PyVal → Bool
  | null => false
  | bool b => b
  | int n => n != 0
  | float x => x != .finite 0
  | str s => s != ""
  | list items => !items.isEmpty
  | dict entries => !entries.isEmpty

/-- `v or w`. -/
def or (v w : PyVal) : PyVal := if v.truthy then v else w

mutual

/-- `v == w`. -/
def eq : PyVal → PyVal → Bool
  | null, null => true
  | str s, str t => s == t
  | float (.inf m), float (.inf n) => m == n
  | list xs, list ys => eqItems xs ys
  | dict d, dict e => d.length == e.length && eqEntries d e
  | v, w =>
    match number v, number w with
    | some p, some q => p == q
    | _, _ => false

/-- Two lists, item by item. -/
def eqItems : List PyVal → List PyVal → Bool
  | [], [] => true
  | x :: xs, y :: ys => eq x y && eqItems xs ys
  | _, _ => false

/-- Every entry of the first dict is in the second. -/
def eqEntries : List (PyKey × PyVal) → List (PyKey × PyVal) → Bool
  | [], _ => true
  | (k, v) :: d, e => (e.lookup k).any (fun w => eq v w) && eqEntries d e

end

/-- `v <= n`. -/
def le (v : PyVal) (n : Int) : Except PyError Bool :=
  match v with
  | float (.inf negative) => .ok negative
  | float .nan => .ok false
  | _ =>
    match v.number with
    | some q => .ok (decide (q ≤ n))
    | none => .error .typeError

/-- `n < v`. -/
def gt (v : PyVal) (n : Int) : Except PyError Bool :=
  match v with
  | float (.inf negative) => .ok !negative
  | float .nan => .ok false
  | _ =>
    match v.number with
    | some q => .ok (decide ((n : Rat) < q))
    | none => .error .typeError

/-- `v >= n`. -/
def ge (v : PyVal) (n : Int) : Except PyError Bool :=
  match v with
  | float (.inf negative) => .ok !negative
  | float .nan => .ok false
  | _ =>
    match v.number with
    | some q => .ok (decide ((n : Rat) ≤ q))
    | none => .error .typeError

/-- `int(v)`. -/
def toInt (t : PyStr.CharTables) : PyVal → Except PyError Int
  | bool b => .ok (if b then 1 else 0)
  | int n => .ok n
  | float (.finite q) => .ok (if 0 ≤ q then ⌊q⌋ else ⌈q⌉)
  | float (.inf _) => .error .overflowError
  | float .nan => .error (.valueError "cannot convert float NaN to integer")
  | str s =>
    match PyStr.toInt t s with
    | some n => .ok n
    | none => .error (.valueError "invalid literal for int() with base 10")
  | _ => .error .typeError

-- ==== strings

/-- `str(v)`. -/
def toStr (rt : PyRuntime) : PyVal → String
  | null => "None"
  | bool b => if b then "True" else "False"
  | int n => toString n
  | str s => s
  | v => rt.repr v

/-- The string, when it is one. -/
def str? : PyVal → Option String
  | str s => some s
  | _ => none

/-- `type(v).__name__`. -/
def typeName : PyVal → String
  | null => "NoneType"
  | bool _ => "bool"
  | int _ => "int"
  | float _ => "float"
  | str _ => "str"
  | list _ => "list"
  | dict _ => "dict"

/-- `len(v)`. -/
def len : PyVal → Except PyError Nat
  | str s => .ok s.length
  | list items => .ok items.length
  | dict entries => .ok entries.length
  | _ => .error .typeError

/-- `v is None`. -/
def isNull : PyVal → Bool
  | null => true
  | _ => false

-- ==== dicts

/-- `isinstance(v, dict)`. -/
def isDict : PyVal → Bool
  | dict _ => true
  | _ => false

/-- The key a value is looked up by: equal numbers are equal keys. A
list or a dict cannot be a key; a value that equals no integer and no
string finds nothing. -/
def key : PyVal → Except PyError (Option PyKey)
  | str s => .ok (some (.str s))
  | list _ => .error .typeError
  | dict _ => .error .typeError
  | v => .ok (v.number.bind fun q =>
    if q.den = 1 then some (.int q.num) else none)

/-- `d.get(name)` on the entries of a dict. -/
def field? (entries : List (PyKey × PyVal)) (name : String) :
    Option PyVal := entries.lookup (.str name)

/-- `v.get(name)`: only a dict has it. -/
def get? (v : PyVal) (name : String) : Except PyError (Option PyVal) :=
  match v with
  | dict entries => .ok (field? entries name)
  | _ => .error .attributeError

/-- `for x in (v.values() if isinstance(v, dict) else v)`. -/
def elements : PyVal → Except PyError (List PyVal)
  | dict entries => .ok (entries.map Prod.snd)
  | list items => .ok items
  | str s => .ok (s.toList.map fun c => str (String.singleton c))
  | _ => .error .typeError

/-- The entries under string keys. -/
def fields (entries : List (PyKey × PyVal)) : PyDict :=
  Dict.ofList (entries.filterMap fun e =>
    match e.1 with
    | .str s => some (s, e.2)
    | .int _ => none)

/-- A key, as a value. -/
def ofKey : PyKey → PyVal
  | .int n => int n
  | .str s => str s

/-- `list(v)`. -/
def toList : PyVal → Except PyError (List PyVal)
  | dict entries => .ok (entries.map fun e => ofKey e.1)
  | v => v.elements

/-- An element that `dict.update` takes for an entry; `none` for an
entry under another key than a string. -/
def updateEntry (v : PyVal) : Except PyError (Option (String × PyVal)) := do
  match ← v.toList with
  | [k, w] =>
    match ← k.key with
    | some (.str s) => pure (some (s, w))
    | _ => pure none
  | _ => .error (.valueError
      "dictionary update sequence element has another length than 2")

/-- What `dict.update(v)` assigns to string keys. -/
def updateFields : PyVal → Except PyError PyDict
  | dict entries => .ok (fields entries)
  | v => do
      let elements ← v.toList
      let entries ← elements.mapM updateEntry
      pure (Dict.ofList (entries.filterMap id))

-- ==== lemmas

@[simp] theorem number_int (n : Int) : number (int n) = some (n : Rat) := rfl

@[simp] theorem toInt_int (t : PyStr.CharTables) (n : Int) :
    toInt t (int n) = .ok n := rfl

@[simp] theorem toStr_int (rt : PyRuntime) (n : Int) :
    toStr rt (int n) = toString n := rfl

@[simp] theorem truthy_int (n : Int) : truthy (int n) = (n != 0) := rfl

@[simp] theorem key_int (n : Int) : key (int n) = .ok (some (.int n)) := by
  show Except.ok (if ((n : Rat)).den = 1 then some (PyKey.int (n : Rat).num)
    else none) = _
  rw [if_pos (Rat.den_intCast n), Rat.num_intCast]

@[simp] theorem eq_int_int (m n : Int) : eq (int m) (int n) = (m == n) := by
  show ((m : Rat) == (n : Rat)) = _
  rw [Bool.eq_iff_iff]
  simp

end PyVal

/-- What a lookup finds is an entry. -/
theorem mem_of_lookup {κ ν : Type} [DecidableEq κ] {l : List (κ × ν)}
    {k : κ} {v : ν} (h : l.lookup k = some v) : (k, v) ∈ l := by
  obtain ⟨l₁, l₂, hl, _⟩ := List.lookup_eq_some_iff.mp h
  rw [hl]
  simp

/-- Keeping entries by their key: a lookup finds the same, or nothing. -/
theorem lookup_filter {κ ν : Type} [DecidableEq κ] (q : κ → Bool)
    (l : List (κ × ν)) (k : κ) :
    (l.filter fun e => q e.1).lookup k
      = if q k = true then l.lookup k else none := by
  induction l with
  | nil => simp
  | cons e rest ih =>
    rw [List.filter_cons, Dict.lookup_cons_ite]
    by_cases hk : k = e.1
    · subst hk
      by_cases hq : q e.1 = true
      · rw [if_pos hq, if_pos hq, Dict.lookup_cons_ite, if_pos rfl, if_pos rfl]
      · rw [if_neg hq, if_neg hq, ih, if_neg hq]
    · by_cases hq : q e.1 = true
      · rw [if_pos hq, Dict.lookup_cons_ite, if_neg hk, ih, if_neg hk]
      · rw [if_neg hq, ih, if_neg hk]

-- ==== exceptions

/-- A sequence of two steps ends well when both do. -/
theorem bind_eq_ok {ε α β : Type} {x : Except ε α} {f : α → Except ε β}
    {b : β} : (x >>= f) = .ok b ↔ ∃ a, x = .ok a ∧ f a = .ok b := by
  cases x with
  | error e | ok a => simp [bind, Except.bind]

theorem except_bind_eq_ok {ε α β : Type} {x : Except ε α}
    {f : α → Except ε β} {b : β} :
    x.bind f = .ok b ↔ ∃ a, x = .ok a ∧ f a = .ok b := bind_eq_ok

theorem map_eq_ok {ε α β : Type} {x : Except ε α} {f : α → β} {b : β} :
    x.map f = .ok b ↔ ∃ a, x = .ok a ∧ f a = b := by
  cases x with
  | error e | ok a => simp [Except.map]

end Lib
