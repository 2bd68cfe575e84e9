/-
JSON values as the jansson library keeps them, with the accessors a caller
sees: an accessor of the wrong kind finds nothing (or 0), a missing value
is the null pointer (`none`).

# Mutation

The library changes values in place; here a write returns the changed
value, or nothing where the library reports an error.
-/
import Freeciv3d.Lib.CStr

namespace Lib

/-- `json_t`. What a real number is worth is not kept. -/
inductive JsonT where
  | object (entries : List (String × JsonT))
  | array (items : List JsonT)
  | string (s : CStr)
  | integer (n : Int)
  | real
  | bool (b : Bool)
  | null

namespace JsonT

def isNull : JsonT → Bool
  | null => true
  | _ => false

def isArray : JsonT → Bool
  | array _ => true
  | _ => false

def isTrue : JsonT → Bool
  | bool b => b
  | _ => false

def integerValue : JsonT → Int
  | integer n => n
  | _ => 0

def stringValue : JsonT → Option CStr
  | string s => some (CStr.untilNul s)
  | _ => none

def objectGet (item : JsonT) (name : String) : Option JsonT :=
  match item with
  | object entries => entries.lookup name
  | _ => none

def arrayGet (item : JsonT) (i : Nat) : Option JsonT :=
  match item with
  | array items => items[i]?
  | _ => none

def arraySize : JsonT → Nat
  | array items => items.length
  | _ => 0

/-- An entry is replaced where it is, or comes last. -/
def setEntry (name : String) (v : JsonT) :
    List (String × JsonT) → List (String × JsonT)
  | [] => [(name, v)]
  | e :: entries =>
    if e.1 = name then (name, v) :: entries
    else e :: setEntry name v entries

def objectSet (item : JsonT) (name : String) (v : JsonT) : Option JsonT :=
  match item with
  | object entries => some (object (setEntry name v entries))
  | _ => none

def arraySet (item : JsonT) (i : Nat) (v : JsonT) : Option JsonT :=
  match item with
  | array items =>
    if i < items.length then some (array (items.set i v)) else none
  | _ => none

def arrayAppend (item v : JsonT) : Option JsonT :=
  match item with
  | array items => some (array (items ++ [v]))
  | _ => none

-- ==== lemmas

theorem lookup_setEntry (name : String) (v : JsonT)
    (entries : List (String × JsonT)) :
    (setEntry name v entries).lookup name = some v := by
  induction entries with
  | nil => simp [setEntry]
  | cons e entries ih =>
    unfold setEntry
    split
    · simp [List.lookup_cons]
    · next hne =>
        have hne' : (name == e.1) = false :=
          beq_eq_false_iff_ne.mpr (Ne.symm hne)
        rw [List.lookup_cons, hne', ih]

theorem objectGet_of_set {name : String} {v item item' : JsonT}
    (h : item.objectSet name v = some item') :
    item'.objectGet name = some v := by
  cases item with
  | object entries =>
    cases h
    exact lookup_setEntry name v entries
  | _ => cases h

theorem arrayGet_of_set {i : Nat} {v item item' : JsonT}
    (h : item.arraySet i v = some item') : item'.arrayGet i = some v := by
  cases item with
  | array items =>
    unfold arraySet at h
    dsimp only at h
    split at h
    · next hi =>
        cases h
        show (items.set i v)[i]? = some v
        rw [List.getElem?_set_self hi]
    · cases h
  | _ => cases h

/-- Only objects and arrays are changed. -/
theorem not_null_of_objectSet {name : String} {v item item' : JsonT}
    (h : item.objectSet name v = some item') :
    item.isNull = false ∧ item'.isNull = false := by
  cases item with
  | object entries =>
    cases h
    exact ⟨rfl, rfl⟩
  | _ => cases h

theorem not_null_of_arraySet {i : Nat} {v item item' : JsonT}
    (h : item.arraySet i v = some item') :
    item.isNull = false ∧ item'.isNull = false := by
  cases item with
  | array items =>
    unfold arraySet at h
    dsimp only at h
    split at h
    · cases h
      exact ⟨rfl, rfl⟩
    · cases h
  | _ => cases h

end JsonT

end Lib
