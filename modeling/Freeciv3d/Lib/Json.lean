/-
The JSON text of Python values: `json.dumps` with the separators `,`
and `:`, in the order of the entries or with `sort_keys`, and what
`json.loads` makes of the text.

# Keys

A key may be a string, a number or `None`; a text has string keys only,
so what is read back has (`reparsed`). `sort_keys` sorts the keys before
they become strings: numbers by value, `2` before `10`, strings by code
points, `"10"` before `"2"`. Keys that have no common order raise. So a
value and what is read back print the same (`dumps_reparsed`), but need
not when they are sorted; they do where the two orders agree
(`dumpsSorted_reparsed`).

# The runtime

How a float, a string literal and a container are printed enters through
`JsonRuntime`. Floats are finite.
-/
import Mathlib.Data.List.Sort
import Mathlib.Data.Rat.Defs
import Mathlib.Algebra.Order.Ring.Rat

namespace Lib

inductive JsonKey where
  | null
  | bool (b : Bool)
  | int (n : Int)
  | float (q : Rat)
  | str (s : String)
  deriving DecidableEq

/-- A value. -/
inductive Json where
  | null
  | bool (b : Bool)
  | int (n : Int)
  | float (q : Rat)
  | str (s : String)
  | list (items : List Json)
  | tuple (items : List Json)
  | dict (entries : List (JsonKey × Json))

/-- What the runtime knows about printing. -/
structure JsonRuntime where
  floatRepr : Rat → String
  /-- A string literal of JSON. -/
  quote : String → String
  /-- `str(v)` of a container. -/
  repr : Json → String

namespace JsonKey

def number : JsonKey → Option Rat
  | bool b => some (if b then 1 else 0)
  | int n => some n
  | float q => some q
  | _ => none

def isStr : JsonKey → Bool
  | str _ => true
  | _ => false

/-- `j <= k`, where there is an order. -/
def le : JsonKey → JsonKey → Bool
  | str s, str t => decide (s ≤ t)
  | j, k =>
    match j.number, k.number with
    | some p, some q => decide (p ≤ q)
    | _, _ => false

/-- The keys have an order: strings, numbers, or not two of them. -/
def comparable (keys : List JsonKey) : Bool :=
  keys.all isStr || keys.all (fun k => k.number.isSome) || keys.length ≤ 1

/-- The string a key is in a text. -/
def text (rt : JsonRuntime) : JsonKey → String
  | null => "null"
  | bool b => if b then "true" else "false"
  | int n => toString n
  | float q => rt.floatRepr q
  | str s => s

/-- The key that is read back. -/
def reparsed (rt : JsonRuntime) (k : JsonKey) : JsonKey := str (k.text rt)

end JsonKey

namespace Json

-- ==== the text

mutual

/-- `json.dumps(v, separators=(',', ':'))`. -/
def dumps (rt : JsonRuntime) : Json → String
  | null => "null"
  | bool b => if b then "true" else "false"
  | int n => toString n
  | float q => rt.floatRepr q
  | str s => rt.quote s
  | list items => "[" ++ dumpsItems rt items ++ "]"
  | tuple items => "[" ++ dumpsItems rt items ++ "]"
  | dict entries => "\x7b" ++ dumpsEntries rt entries ++ "\x7d"

def dumpsItems (rt : JsonRuntime) : List Json → String
  | [] => ""
  | v :: rest =>
    dumps rt v ++ (if rest.isEmpty then "" else ",") ++ dumpsItems rt rest

def dumpsEntries (rt : JsonRuntime) : List (JsonKey × Json) → String
  | [] => ""
  | (k, v) :: rest =>
    rt.quote (k.text rt) ++ ":" ++ dumps rt v
      ++ (if rest.isEmpty then "" else ",") ++ dumpsEntries rt rest

end

mutual

/-- `json.loads(json.dumps(v))`: all keys are strings, and there are no
tuples. Keys that can be sorted print differently, so none is lost. -/
def reparsed (rt : JsonRuntime) : Json → Json
  | list items => list (reparsedItems rt items)
  | tuple items => list (reparsedItems rt items)
  | dict entries => dict (reparsedEntries rt entries)
  | v => v

def reparsedItems (rt : JsonRuntime) : List Json → List Json
  | [] => []
  | v :: rest => reparsed rt v :: reparsedItems rt rest

def reparsedEntries (rt : JsonRuntime) :
    List (JsonKey × Json) → List (JsonKey × Json)
  | [] => []
  | (k, v) :: rest => (k.reparsed rt, reparsed rt v) :: reparsedEntries rt rest

end

-- ==== sorted

/-- Entries in the order of their keys. -/
def sortEntries (entries : List (JsonKey × Json)) : List (JsonKey × Json) :=
  entries.insertionSort fun e f => e.1.le f.1 = true

mutual

/-- The value with the entries of all dicts sorted; `none` is the
`TypeError` of keys that have no order. -/
def sortKeys : Json → Option Json
  | list items => (sortItems items).map list
  | tuple items => (sortItems items).map tuple
  | dict entries =>
    if JsonKey.comparable (entries.map Prod.fst) then
      (sortValues entries).map fun entries => dict (sortEntries entries)
    else none
  | v => some v

def sortItems : List Json → Option (List Json)
  | [] => some []
  | v :: rest =>
    match sortKeys v, sortItems rest with
    | some v, some rest => some (v :: rest)
    | _, _ => none

def sortValues : List (JsonKey × Json) → Option (List (JsonKey × Json))
  | [] => some []
  | (k, v) :: rest =>
    match sortKeys v, sortValues rest with
    | some v, some rest => some ((k, v) :: rest)
    | _, _ => none

end

/-- `json.dumps(v, sort_keys=True, separators=(',', ':'))`. -/
def dumpsSorted (rt : JsonRuntime) (v : Json) : Option String :=
  (sortKeys v).map (dumps rt)

-- ==== read back

mutual

/-- What is read back prints the same. -/
theorem dumps_reparsed (rt : JsonRuntime) (v : Json) :
    dumps rt (reparsed rt v) = dumps rt v := by
  cases v with
  | list items | tuple items => rw [reparsed, dumps, dumps, dumpsItems_reparsed]
  | dict entries => rw [reparsed, dumps, dumps, dumpsEntries_reparsed]
  | null | bool b | int n | float q | str s => rfl

theorem dumpsItems_reparsed (rt : JsonRuntime) (items : List Json) :
    dumpsItems rt (reparsedItems rt items) = dumpsItems rt items := by
  cases items with
  | nil => rfl
  | cons v rest =>
    rw [reparsedItems, dumpsItems, dumpsItems, dumps_reparsed rt v,
      dumpsItems_reparsed rt rest]
    cases rest <;> rfl

theorem dumpsEntries_reparsed (rt : JsonRuntime)
    (entries : List (JsonKey × Json)) :
    dumpsEntries rt (reparsedEntries rt entries)
      = dumpsEntries rt entries := by
  cases entries with
  | nil => rfl
  | cons e rest =>
    obtain ⟨k, v⟩ := e
    rw [reparsedEntries, dumpsEntries, dumpsEntries, dumps_reparsed rt v,
      dumpsEntries_reparsed rt rest]
    cases rest <;> rfl

end

def KeysInTextOrder (rt : JsonRuntime) (keys : List JsonKey) : Prop :=
  ∀ j ∈ keys, ∀ k ∈ keys, j.le k = true ↔ j.text rt ≤ k.text rt

instance (rt : JsonRuntime) (keys : List JsonKey) :
    Decidable (KeysInTextOrder rt keys) :=
  inferInstanceAs (Decidable (∀ j ∈ keys, ∀ k ∈ keys, _))

mutual

/-- In every dict the order of the keys is that of their strings. -/
def InTextOrder (rt : JsonRuntime) : Json → Prop
  | list items => ItemsInTextOrder rt items
  | tuple items => ItemsInTextOrder rt items
  | dict entries =>
    KeysInTextOrder rt (entries.map Prod.fst)
      ∧ ValuesInTextOrder rt entries
  | _ => True

def ItemsInTextOrder (rt : JsonRuntime) : List Json → Prop
  | [] => True
  | v :: rest => InTextOrder rt v ∧ ItemsInTextOrder rt rest

def ValuesInTextOrder (rt : JsonRuntime) : List (JsonKey × Json) → Prop
  | [] => True
  | (_, v) :: rest => InTextOrder rt v ∧ ValuesInTextOrder rt rest

end

theorem reparsedEntries_eq_map (rt : JsonRuntime)
    (entries : List (JsonKey × Json)) :
    reparsedEntries rt entries
      = entries.map fun e => (e.1.reparsed rt, reparsed rt e.2) := by
  induction entries with
  | nil => rfl
  | cons e rest ih =>
    rw [reparsedEntries, ih]
    rfl

theorem keys_sortValues {entries sorted : List (JsonKey × Json)}
    (h : sortValues entries = some sorted) :
    sorted.map Prod.fst = entries.map Prod.fst := by
  induction entries generalizing sorted with
  | nil =>
    cases h
    rfl
  | cons e rest ih =>
    obtain ⟨k, v⟩ := e
    rw [sortValues] at h
    cases hv : sortKeys v with
    | none =>
      rw [hv] at h
      cases h
    | some w =>
      cases hrest : sortValues rest with
      | none =>
        rw [hv, hrest] at h
        cases h
      | some sorted' =>
        rw [hv, hrest] at h
        cases h
        rw [List.map_cons, List.map_cons, ih hrest]

/-- What is read back has comparable keys only. -/
theorem comparable_reparsed (rt : JsonRuntime)
    (entries : List (JsonKey × Json)) :
    JsonKey.comparable ((reparsedEntries rt entries).map Prod.fst)
      = true := by
  have hall : ((reparsedEntries rt entries).map Prod.fst).all
      JsonKey.isStr = true := by
    rw [reparsedEntries_eq_map, List.map_map, List.all_map]
    exact List.all_eq_true.mpr fun _ _ => rfl
  unfold JsonKey.comparable
  rw [hall]
  rfl

/-- Where the orders agree, reading back and sorting commute. -/
theorem sortEntries_reparsed {rt : JsonRuntime}
    {entries : List (JsonKey × Json)}
    (h : KeysInTextOrder rt (entries.map Prod.fst)) :
    sortEntries (reparsedEntries rt entries)
      = reparsedEntries rt (sortEntries entries) := by
  rw [reparsedEntries_eq_map, reparsedEntries_eq_map]
  refine (List.map_insertionSort _ _ _ _ fun e he f hf => ?_).symm
  have horder := h e.1 (List.mem_map_of_mem he) f.1 (List.mem_map_of_mem hf)
  rw [horder]
  exact decide_eq_true_iff.symm

mutual

/-- What is read back is sorted like the value. -/
theorem sortKeys_reparsed {rt : JsonRuntime} {v w : Json}
    (h : InTextOrder rt v) (hw : sortKeys v = some w) :
    sortKeys (reparsed rt v) = some (reparsed rt w) := by
  cases v with
  | list items | tuple items =>
    obtain ⟨sorted, hsorted, rfl⟩ := Option.map_eq_some_iff.mp hw
    rw [reparsed, sortKeys, sortItems_reparsed h hsorted]
    rfl
  | dict entries =>
    obtain ⟨-, hsome⟩ := Option.ite_none_right_eq_some.mp hw
    obtain ⟨sorted, hsorted, rfl⟩ := Option.map_eq_some_iff.mp hsome
    have hkeys := h.1
    rw [← keys_sortValues hsorted] at hkeys
    rw [reparsed, sortKeys, if_pos (comparable_reparsed rt entries),
      sortValues_reparsed h.2 hsorted, Option.map_some,
      sortEntries_reparsed hkeys]
    rfl
  | null | bool b | int n | float q | str s =>
    cases hw
    rfl

theorem sortItems_reparsed {rt : JsonRuntime} {items sorted : List Json}
    (h : ItemsInTextOrder rt items) (hw : sortItems items = some sorted) :
    sortItems (reparsedItems rt items)
      = some (reparsedItems rt sorted) := by
  cases items with
  | nil =>
    cases hw
    rfl
  | cons v rest =>
    rw [sortItems] at hw
    cases hv : sortKeys v with
    | none =>
      rw [hv] at hw
      cases hw
    | some w =>
      cases hrest : sortItems rest with
      | none =>
        rw [hv, hrest] at hw
        cases hw
      | some rest' =>
        rw [hv, hrest] at hw
        cases hw
        rw [reparsedItems, sortItems, sortKeys_reparsed h.1 hv,
          sortItems_reparsed h.2 hrest]
        rfl

theorem sortValues_reparsed {rt : JsonRuntime}
    {entries sorted : List (JsonKey × Json)}
    (h : ValuesInTextOrder rt entries)
    (hw : sortValues entries = some sorted) :
    sortValues (reparsedEntries rt entries)
      = some (reparsedEntries rt sorted) := by
  cases entries with
  | nil =>
    cases hw
    rfl
  | cons e rest =>
    obtain ⟨k, v⟩ := e
    rw [sortValues] at hw
    cases hv : sortKeys v with
    | none =>
      rw [hv] at hw
      cases hw
    | some w =>
      cases hrest : sortValues rest with
      | none =>
        rw [hv, hrest] at hw
        cases hw
      | some rest' =>
        rw [hv, hrest] at hw
        cases hw
        rw [reparsedEntries, sortValues, sortKeys_reparsed h.1 hv,
          sortValues_reparsed h.2 hrest]
        rfl

end

/-- What is read back prints the same sorted, where in every dict the
order of the keys is that of their strings. -/
theorem dumpsSorted_reparsed {rt : JsonRuntime} {v : Json} {text : String}
    (h : InTextOrder rt v) (htext : dumpsSorted rt v = some text) :
    dumpsSorted rt (reparsed rt v) = some text := by
  obtain ⟨w, hw, rfl⟩ := Option.map_eq_some_iff.mp htext
  unfold dumpsSorted
  rw [sortKeys_reparsed h hw, Option.map_some, dumps_reparsed]

end Json

end Lib
