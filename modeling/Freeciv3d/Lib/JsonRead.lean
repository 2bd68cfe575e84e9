/-
`json.loads` on any string, with the errors it raises.

# Strings

A Python string is a list of code points, and one of them may be half of a
surrogate pair. The two halves are joined only where both are written as
escapes, one after the other.

# Two passes

The reader of the language takes one pass. Here the text is cut into
tokens first; a number that `int` refuses is a token of its own, so that
the error is raised only where a value is read, and the first error is the
one that is raised.

# The depth

Each array or object is a call of the reader. `limit` is how many may be
-/
import Freeciv3d.Lib.Dict
import Freeciv3d.Lib.PyStr

namespace Lib

/-- A `str`, by its code points. -/
abbrev PyText := List Nat

/-- The code points of a literal. -/
def pyText (s : String) : PyText := s.toList.map Char.toNat

/-- What `json.loads` builds. A float is kept as it is written. -/
inductive JsonValue where
  | null
  | bool (b : Bool)
  | int (n : Int)
  | float (literal : PyText)
  | str (s : PyText)
  | list (items : List JsonValue)
  | dict (entries : List (PyText × JsonValue))

/-- What `json.loads` raises. -/
inductive LoadsError where
  | decodeError
  | recursionError
  /-- `int` refuses so many digits. -/
  | valueError

namespace JsonRead

inductive Token where
  | leftBrace
  | rightBrace
  | leftBracket
  | rightBracket
  | colon
  | comma
  | str (s : PyText)
  | value (v : Except LoadsError JsonValue)
  | bad

-- ==== characters

/-- The code point of a character. -/
def code (c : Char) : Nat := c.toNat

def isBlank (c : Nat) : Bool :=
  c == 32 || c == 9 || c == 10 || c == 13

def isDigit (c : Nat) : Bool := 48 ≤ c && c ≤ 57

def hexDigit (c : Nat) : Option Nat :=
  if isDigit c then some (c - 48)
  else if 97 ≤ c && c ≤ 102 then some (c - 87)
  else if 65 ≤ c && c ≤ 70 then some (c - 55)
  else none

/-- `\uXXXX`. -/
def hexValue (a b c d : Nat) : Option Nat := do
  let a ← hexDigit a
  let b ← hexDigit b
  let c ← hexDigit c
  let d ← hexDigit d
  return ((a * 16 + b) * 16 + c) * 16 + d

def escapeValue (c : Nat) : Option Nat :=
  ([(code '"', 34), (code '\\', 92), (code '/', 47), (code 'b', 8),
    (code 'f', 12), (code 'n', 10), (code 'r', 13), (code 't', 9)] :
    List (Nat × Nat)).lookup c

def isHigh (c : Nat) : Bool := 0xD800 ≤ c && c ≤ 0xDBFF

def isLow (c : Nat) : Bool := 0xDC00 ≤ c && c ≤ 0xDFFF

-- ==== strings

/-- The code points up to the closing quote, and whether each was written
as `\uXXXX`; `none` if the string has an error. -/
def scanString : List Nat → Option (List (Nat × Bool) × List Nat)
  | [] => none
  | c :: cs =>
    if c = code '"' then some ([], cs)
    else if c = code '\\' then
      match cs with
      | [] => none
      | e :: cs =>
        if e = code 'u' then
          match cs with
          | a :: b :: c :: d :: cs =>
            match hexValue a b c d with
            | some u =>
              (scanString cs).map fun r => ((u, true) :: r.1, r.2)
            | none => none
          | _ => none
        else
          match escapeValue e with
          | some u =>
            (scanString cs).map fun r => ((u, false) :: r.1, r.2)
          | none => none
    else if c < 32 then none
    else (scanString cs).map fun r => ((c, false) :: r.1, r.2)

/-- Two escapes that are the halves of a pair are one code point. -/
def joinPairs : List (Nat × Bool) → PyText
  | (high, true) :: (low, true) :: rest =>
    if isHigh high && isLow low then
      (0x10000 + (high - 0xD800) * 0x400 + (low - 0xDC00))
        :: joinPairs rest
    else high :: joinPairs ((low, true) :: rest)
  | (c, _) :: rest => c :: joinPairs rest
  | [] => []

-- ==== numbers

/-- A fraction: a point with digits behind it. -/
def scanFraction : List Nat → List Nat × List Nat
  | c :: cs =>
    if c = code '.' ∧ cs.takeWhile isDigit ≠ [] then
      (c :: cs.takeWhile isDigit, cs.dropWhile isDigit)
    else ([], c :: cs)
  | [] => ([], [])

/-- An exponent: a letter, a sign or none, and digits. -/
def scanExponent : List Nat → List Nat × List Nat
  | c :: cs =>
    let sign := cs.takeWhile (fun d => d == code '+' || d == code '-')
    let digits := (cs.drop sign.length).takeWhile isDigit
    if (c = code 'e' ∨ c = code 'E') ∧ sign.length ≤ 1 ∧ digits ≠ [] then
      (c :: sign ++ digits, cs.drop (sign.length + digits.length))
    else ([], c :: cs)
  | [] => ([], [])

/-- The digits before the point: a zero alone, or digits that do not begin
with one. -/
def scanDigits : List Nat → Option (List Nat × List Nat)
  | c :: cs =>
    if c = code '0' then some ([c], cs)
    else if isDigit c then
      some (c :: cs.takeWhile isDigit, cs.dropWhile isDigit)
    else none
  | [] => none

def digitsValue (cs : List Nat) : Nat :=
  cs.foldl (fun n c => 10 * n + (c - 48)) 0

/-- `int(literal)`. -/
def intValue (negative : Bool) (digits : List Nat) :
    Except LoadsError JsonValue :=
  if PyStr.maxStrDigits < digits.length then .error .valueError
  else
    .ok (.int (if negative then -(digitsValue digits : Int)
      else digitsValue digits))

/-- A number, and what is behind it. -/
def scanNumber (cs : List Nat) : Option (Token × List Nat) :=
  let negative := cs.head? == some (code '-')
  (scanDigits (if negative then cs.drop 1 else cs)).map fun (digits, rest) =>
    let (fraction, rest) := scanFraction rest
    let (exponent, rest) := scanExponent rest
    if fraction = [] ∧ exponent = [] then
      (.value (intValue negative digits), rest)
    else
      let sign := if negative then [code '-'] else []
      (.value (.ok (.float (sign ++ digits ++ fraction ++ exponent))), rest)

-- ==== tokens

/-- The words, `NaN` and the infinities among them. -/
def words : List (PyText × JsonValue) :=
  [(pyText "null", .null), (pyText "true", .bool true),
    (pyText "false", .bool false), (pyText "NaN", .float (pyText "NaN")),
    (pyText "Infinity", .float (pyText "Infinity")),
    (pyText "-Infinity", .float (pyText "-Infinity"))]

def marks : List (Nat × Token) :=
  [(code '\x7b', .leftBrace), (code '\x7d', .rightBrace),
    (code '[', .leftBracket), (code ']', .rightBracket),
    (code ':', .colon), (code ',', .comma)]

/-- The token a text begins with. After a bad one nothing is read. -/
def nextToken (c : Nat) (cs : List Nat) : Token × List Nat :=
  if c = code '"' then
    match scanString cs with
    | some (s, rest) => (.str (joinPairs s), rest)
    | none => (.bad, [])
  else match marks.lookup c with
    | some mark => (mark, cs)
    | none =>
      match words.find? fun word => word.1.isPrefixOf (c :: cs) with
      | some word =>
        (.value (.ok word.2), cs.drop (word.1.length - 1))
      | none => (scanNumber (c :: cs)).getD (.bad, [])

/-- The tokens of a text; the number of its characters is fuel enough. -/
def tokens : (fuel : Nat) → List Nat → List Token
  | 0, _ => []
  | fuel + 1, cs =>
    match cs.dropWhile isBlank with
    | [] => []
    | c :: rest =>
      (nextToken c rest).1 :: tokens fuel (nextToken c rest).2

-- ==== the parse

/-- An array or object that is open. -/
inductive Frame where
  | array (items : List JsonValue)
  | object (entries : List (PyText × JsonValue)) (key : PyText)

/-- What may come next. -/
inductive Want where
  | value
  | valueOrEnd
  | key
  | keyOrEnd
  | colon
  | commaOrEnd
  | done (v : JsonValue)

/-- A value is complete. A key that comes again keeps its place. -/
def deliver (v : JsonValue) : List Frame → Want × List Frame
  | [] => (.done v, [])
  | .array items :: rest => (.commaOrEnd, .array (items ++ [v]) :: rest)
  | .object entries key :: rest =>
    (.commaOrEnd, .object (Dict.setEntry key v entries) key :: rest)

/-- A token where a value may begin. -/
def readValue (limit : Nat) (t : Token) (stack : List Frame) :
    Except LoadsError (Want × List Frame) :=
  match t with
  | .value v => v.map fun v => deliver v stack
  | .str s => .ok (deliver (.str s) stack)
  | .leftBrace =>
    if limit ≤ stack.length then .error .recursionError
    else .ok (.keyOrEnd, .object [] [] :: stack)
  | .leftBracket =>
    if limit ≤ stack.length then .error .recursionError
    else .ok (.valueOrEnd, .array [] :: stack)
  | _ => .error .decodeError

/-- A token, by what may come. -/
def read (limit : Nat) (t : Token) (want : Want) (stack : List Frame) :
    Except LoadsError (Want × List Frame) :=
  match want, t, stack with
  | .value, t, stack => readValue limit t stack
  | .valueOrEnd, .rightBracket, .array items :: rest =>
    .ok (deliver (.list items) rest)
  | .valueOrEnd, t, stack => readValue limit t stack
  | .key, .str s, .object entries _ :: rest =>
    .ok (.colon, .object entries s :: rest)
  | .keyOrEnd, .str s, .object entries _ :: rest =>
    .ok (.colon, .object entries s :: rest)
  | .keyOrEnd, .rightBrace, .object entries _ :: rest =>
    .ok (deliver (.dict entries) rest)
  | .colon, .colon, stack => .ok (.value, stack)
  | .commaOrEnd, .comma, .array items :: rest =>
    .ok (.value, .array items :: rest)
  | .commaOrEnd, .comma, .object entries key :: rest =>
    .ok (.key, .object entries key :: rest)
  | .commaOrEnd, .rightBracket, .array items :: rest =>
    .ok (deliver (.list items) rest)
  | .commaOrEnd, .rightBrace, .object entries _ :: rest =>
    .ok (deliver (.dict entries) rest)
  | _, _, _ => .error .decodeError

/-- The value some tokens are, all of them. -/
def parse (limit : Nat) :
    List Token → Want → List Frame → Except LoadsError JsonValue
  | [], .done v, _ => .ok v
  | [], _, _ => .error .decodeError
  | t :: rest, want, stack =>
    match read limit t want stack with
    | .ok (want, stack) => parse limit rest want stack
    | .error e => .error e

/-- `json.loads`; a byte order mark is an error. -/
def loads (limit : Nat) (s : PyText) : Except LoadsError JsonValue :=
  if s.head? = some 0xFEFF then .error .decodeError
  else parse limit (tokens s.length s) .value []

-- ==== fuel is enough

/-- A string that is read is at its end, or has a character before one that
is read. -/
theorem scanString_cases {cs rest : List Nat} {s : List (Nat × Bool)}
    (h : scanString cs = some (s, rest)) :
    s = [] ∧ cs = code '"' :: rest ∨
    ∃ p s' cs', s = p :: s' ∧ scanString cs' = some (s', rest)
      ∧ cs'.length < cs.length
      ∧ ∀ ext, scanString (cs ++ ext)
        = (scanString (cs' ++ ext)).map fun r => (p :: r.1, r.2) := by
  have hmap {cs' : List Nat} {p : Nat × Bool}
      (h : (scanString cs').map (fun r => (p :: r.1, r.2)) = some (s, rest)) :
      ∃ s', s = p :: s' ∧ scanString cs' = some (s', rest) := by
    obtain ⟨r, hr, heq⟩ := Option.map_eq_some_iff.mp h
    cases heq
    exact ⟨r.1, rfl, hr⟩
  rw [scanString.eq_def] at h
  split at h
  · cases h
  · split at h
    · next hquote =>
      cases h
      exact .inl ⟨rfl, by rw [hquote]⟩
    · next c cs hquote =>
      split at h
      · next hslash =>
        subst hslash
        split at h
        · cases h
        · next e cs =>
          split at h
          · next he =>
            split at h
            · next a b c d cs =>
              split at h
              · next u hu =>
                obtain ⟨s', rfl, hr⟩ := hmap h
                refine .inr ⟨_, s', cs, rfl, hr, ?_, fun ext => ?_⟩
                · simp only [List.length_cons]
                  omega
                · rw [List.cons_append, scanString.eq_def]
                  simp [hquote, he, hu]
              · cases h
            · cases h
          · next he =>
            split at h
            · next u hu =>
              obtain ⟨s', rfl, hr⟩ := hmap h
              refine .inr ⟨_, s', cs, rfl, hr, ?_, fun ext => ?_⟩
              · simp only [List.length_cons]
                omega
              · rw [List.cons_append, scanString.eq_def]
                simp [hquote, he, hu]
            · cases h
      · next hslash =>
        split at h
        · cases h
        · next hcontrol =>
          obtain ⟨s', rfl, hr⟩ := hmap h
          refine .inr ⟨_, s', cs, rfl, hr, by simp, fun ext => ?_⟩
          rw [List.cons_append, scanString.eq_def]
          simp [hquote, hslash, hcontrol]

theorem length_scanString {cs rest : List Nat} {s : List (Nat × Bool)}
    (h : scanString cs = some (s, rest)) : rest.length ≤ cs.length := by
  induction s generalizing cs with
  | nil =>
    obtain ⟨-, rfl⟩ | ⟨p, s', cs', heq, -⟩ := scanString_cases h
    · simp
    · cases heq
  | cons p s ih =>
    obtain ⟨heq, -⟩ | ⟨p', s', cs', heq, h', hlt, -⟩ := scanString_cases h
    · cases heq
    · cases heq
      have := ih h'
      omega

theorem length_dropWhile_le (p : Nat → Bool) (cs : List Nat) :
    (cs.dropWhile p).length ≤ cs.length :=
  (List.dropWhile_sublist p).length_le

theorem length_scanFraction (cs : List Nat) :
    (scanFraction cs).2.length ≤ cs.length := by
  fun_cases scanFraction cs with
  | case1 c cs =>
    have := length_dropWhile_le isDigit cs
    simp only [List.length_cons]
    omega
  | case2 | case3 => exact Nat.le_refl _

theorem length_scanExponent (cs : List Nat) :
    (scanExponent cs).2.length ≤ cs.length := by
  fun_cases scanExponent cs with
  | case1 c cs =>
    simp only [List.length_drop, List.length_cons]
    omega
  | case2 | case3 => exact Nat.le_refl _

theorem length_scanDigits {cs rest digits : List Nat}
    (h : scanDigits cs = some (digits, rest)) :
    rest.length < cs.length := by
  unfold scanDigits at h
  split at h
  case h_1 c cs =>
    split at h
    · cases h
      simp
    · split at h
      · cases h
        have := length_dropWhile_le isDigit cs
        simp only [List.length_cons]
        omega
      · cases h
  case h_2 => cases h

theorem length_scanNumber {cs rest : List Nat} {t : Token}
    (h : scanNumber cs = some (t, rest)) : rest.length < cs.length := by
  unfold scanNumber at h
  obtain ⟨⟨digits, body⟩, hdigits, heq⟩ := Option.map_eq_some_iff.mp h
  have hbody := length_scanDigits hdigits
  have hfraction := length_scanFraction body
  have hexponent := length_scanExponent (scanFraction body).2
  have hstart : (if (cs.head? == some (code '-')) = true then cs.drop 1
      else cs).length ≤ cs.length := by
    split
    · rw [List.length_drop]
      omega
    · exact Nat.le_refl _
  have hrest : rest = (scanExponent (scanFraction body).2).2 := by
    dsimp only at heq
    split at heq <;> (cases heq; rfl)
  rw [hrest]
  omega

/-- A token takes the character it begins with. -/
theorem length_nextToken (c : Nat) (cs : List Nat) :
    (nextToken c cs).2.length ≤ cs.length := by
  unfold nextToken
  split
  · split
    · rename_i hscan
      exact length_scanString hscan
    · exact Nat.zero_le _
  · split
    · exact Nat.le_refl _
    · split
      · rw [List.length_drop]
        omega
      · cases hnumber : scanNumber (c :: cs) with
        | none => exact Nat.zero_le _
        | some r =>
          have hlt : r.2.length < (c :: cs).length :=
            length_scanNumber hnumber
          rw [List.length_cons] at hlt
          show r.2.length ≤ cs.length
          omega

/-- More fuel than there are characters changes nothing. -/
theorem tokens_fuel {fuel : Nat} {cs : List Nat} (h : cs.length ≤ fuel) :
    tokens (fuel + 1) cs = tokens fuel cs := by
  induction fuel generalizing cs with
  | zero =>
    have hnil : cs = [] := List.length_eq_zero_iff.mp (by omega)
    rw [hnil]
    rfl
  | succ fuel ih =>
    have hskip := length_dropWhile_le isBlank cs
    unfold tokens
    cases hrest : cs.dropWhile isBlank with
    | nil => rfl
    | cons c rest =>
      have hnext := length_nextToken c rest
      rw [hrest, List.length_cons] at hskip
      dsimp only
      rw [ih (by omega)]

end JsonRead

end Lib
