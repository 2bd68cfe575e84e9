/-
Python string operations the proxy's validators rest on, over Lean's
`String` as a list of code points.

# Unicode

The runtime's character database enters through `CharTables`: which
code points are alphanumeric and which have a decimal value. Case
mapping is ASCII only; its uses say why that is enough.
-/
import Mathlib.Algebra.Group.Nat.Defs
import Mathlib.Data.List.Basic

namespace Lib.PyStr

/-- `c.isspace()`: the code points Python's `str.strip()` removes. -/
def isSpace (c : Char) : Bool :=
  let n := c.toNat
  (9 ≤ n && n ≤ 13) || (28 ≤ n && n ≤ 32) || n == 0x85 || n == 0xA0
    || n == 0x1680 || (0x2000 ≤ n && n ≤ 0x200A) || n == 0x2028
    || n == 0x2029 || n == 0x202F || n == 0x205F || n == 0x3000

/-- `s.strip()`, on code points. -/
def stripChars (cs : List Char) : List Char :=
  ((cs.dropWhile isSpace).reverse.dropWhile isSpace).reverse

theorem stripChars_sublist (cs : List Char) :
    (stripChars cs).Sublist cs := by
  unfold stripChars
  rw [← List.reverse_sublist, List.reverse_reverse]
  exact (List.dropWhile_sublist _).trans
    (List.reverse_sublist.mpr (List.dropWhile_sublist _))

/-- `s.strip()`. -/
def strip (s : String) : String := String.ofList (stripChars s.toList)

/-- `not s.strip()`. -/
def isBlank (s : String) : Bool := (stripChars s.toList).isEmpty

/-- What the runtime knows about code points. -/
structure CharTables where
  /-- `c.isalnum()`. -/
  isAlnum : Char → Bool
  /-- The decimal value of a digit. -/
  decimal : Char → Option Nat

namespace CharTables

def ascii : CharTables where
  isAlnum := Char.isAlphanum
  decimal c := if c.isDigit then some (c.toNat - 48) else none

/-- A word character of `re`. -/
def isWord (t : CharTables) (c : Char) : Bool := t.isAlnum c || c == '_'

end CharTables

def maxStrDigits : Nat := 4300

/-- Digits with single underscores between them; `afterDigit` says what
was read last. -/
def readDigits (t : CharTables) :
    (afterDigit : Bool) → Nat → List Char → Option Nat
  | afterDigit, n, [] => if afterDigit then some n else none
  | afterDigit, n, c :: cs =>
    if c = '_' then
      if afterDigit then readDigits t false n cs else none
    else match t.decimal c with
      | some d => readDigits t true (10 * n + d) cs
      | none => none

/-- `int(s)` on a string; `none` is the `ValueError`. -/
def toInt (t : CharTables) (s : String) : Option Int :=
  let unsigned (cs : List Char) : Option Int :=
    if maxStrDigits < (cs.filter (· ≠ '_')).length then none
    else (readDigits t false 0 cs).map Int.ofNat
  match stripChars s.toList with
  | '+' :: cs => unsigned cs
  | '-' :: cs => (unsigned cs).map (- ·)
  | cs => unsigned cs

/-- `str(n)`; `none` is the `ValueError`. -/
def ofInt (n : Int) : Option String :=
  if maxStrDigits < (toString n.natAbs).length then none
  else some (toString n)

/-- `s.upper()` on the ASCII letters. -/
def upperChars (cs : List Char) : List Char := cs.map Char.toUpper

/-- `s.lower()` on the ASCII letters. -/
def lower (s : String) : String := String.ofList (s.toList.map Char.toLower)

/-- `s[n:]`. -/
def dropChars (n : Nat) (s : String) : String :=
  String.ofList (s.toList.drop n)

/-- `s[:n]`. -/
def takeChars (n : Nat) (s : String) : String :=
  String.ofList (s.toList.take n)

/-- `s.startswith(start)`. -/
def startsWith (s start : String) : Bool :=
  start.toList.isPrefixOf s.toList

theorem startsWith_or {s a b : String} (ha : startsWith s a = true)
    (hb : startsWith s b = true) :
    startsWith a b = true ∨ startsWith b a = true := by
  unfold startsWith at *
  rw [List.isPrefixOf_iff_prefix] at *
  rw [List.isPrefixOf_iff_prefix]
  exact (List.prefix_or_prefix_of_prefix ha hb).symm

/-- `sub in s`. -/
def hasSubstring (s sub : String) : Bool :=
  s.toList.tails.any fun cs => sub.toList.isPrefixOf cs

-- ==== numbers, there and back

def CharTables.KnowsDigits (t : CharTables) : Prop :=
  ∀ c : Char, c.isDigit = true → t.decimal c = some (c.toNat - 48)

/-- No digit is blank, a sign or an underscore. -/
theorem ne_of_isDigit {c d : Char} (hc : c.isDigit = true)
    (hd : d.isDigit = false) : c ≠ d := by
  rintro rfl
  rw [hc] at hd
  cases hd

theorem isSpace_of_isDigit {c : Char} (hc : c.isDigit = true) :
    isSpace c = false := by
  rw [Char.isDigit_iff_toNat] at hc
  have hlow : 48 ≤ c.toNat := hc.1
  have hhigh : c.toNat ≤ 57 := hc.2
  simp only [isSpace, Bool.or_eq_false_iff, Bool.and_eq_false_iff,
    decide_eq_false_iff_not, beq_eq_false_iff_ne]
  omega

theorem readDigits_eq {t : CharTables} (ht : t.KnowsDigits)
    {cs : List Char} (hcs : ∀ c ∈ cs, c.isDigit = true) (b : Bool)
    (n : Nat) (hb : b = true ∨ cs ≠ []) :
    readDigits t b n cs = some (Nat.ofDigitChars 10 cs n) := by
  induction cs generalizing b n with
  | nil =>
    rcases hb with rfl | hb
    · rfl
    · exact absurd rfl hb
  | cons c cs ih =>
    have hc := hcs c List.mem_cons_self
    unfold readDigits
    rw [if_neg (ne_of_isDigit hc rfl), ht c hc]
    dsimp only
    rw [ih (fun d hd => hcs d (List.mem_cons_of_mem c hd)) true _
      (.inl rfl), Nat.ofDigitChars_cons]
    rfl

theorem stripChars_of_digits {cs : List Char}
    (hcs : ∀ c ∈ cs, c.isDigit = true) : stripChars cs = cs := by
  have hkeep : ∀ l : List Char, (∀ c ∈ l, c.isDigit = true) →
      l.dropWhile isSpace = l := by
    intro l hl
    cases l with
    | nil => rfl
    | cons c l =>
      rw [List.dropWhile_cons_of_neg]
      simp [isSpace_of_isDigit (hl c List.mem_cons_self)]
  unfold stripChars
  rw [hkeep cs hcs, hkeep cs.reverse fun c hc =>
    hcs c (List.mem_reverse.mp hc), List.reverse_reverse]

theorem length_toString (n : Nat) :
    (toString n).length = (Nat.toDigits 10 n).length := by
  rw [← String.length_toList]
  exact congrArg List.length Nat.toList_repr

/-- `int(str(n))`, when there is a `str(n)`. -/
theorem toInt_of_ofInt {t : CharTables} (ht : t.KnowsDigits) {n : Nat}
    {s : String} (hs : ofInt n = some s) : toInt t s = some (n : Int) := by
  unfold ofInt at hs
  split at hs
  case isTrue => cases hs
  case isFalse hle =>
    cases hs
    have htext : (toString (n : Int)).toList = Nat.toDigits 10 n := by
      show n.repr.toList = _
      exact Nat.toList_repr
    have hdigits : ∀ c ∈ Nat.toDigits 10 n, c.isDigit = true :=
      fun c hc => Nat.isDigit_of_mem_toDigits (by decide) (by decide) hc
    have hlen : ¬ maxStrDigits
        < ((Nat.toDigits 10 n).filter (· ≠ '_')).length := by
      have hfilter := List.length_filter_le (· ≠ '_') (Nat.toDigits 10 n)
      rw [Int.natAbs_natCast, length_toString] at hle
      omega
    unfold toInt
    rw [htext, stripChars_of_digits hdigits]
    have hread := readDigits_eq ht hdigits false 0 (.inr Nat.toDigits_ne_nil)
    rw [Nat.ofDigitChars_ten_toDigits] at hread
    -- a digit is no sign
    split
    next cs heq =>
      have hplus := hdigits '+' (heq ▸ List.mem_cons_self)
      cases hplus
    next cs heq =>
      have hminus := hdigits '-' (heq ▸ List.mem_cons_self)
      cases hminus
    next =>
      dsimp only
      rw [if_neg hlen, hread]
      rfl

/-- A number has a text if it has no more digits than the maximum. -/
theorem ofInt_isSome_iff {n : Nat} :
    (ofInt n).isSome = true ↔ n < 10 ^ maxStrDigits := by
  unfold ofInt
  rw [Int.natAbs_natCast, length_toString,
    ← Nat.length_toDigits_le_iff (by decide) (by decide)]
  split <;> simp <;> omega

theorem notMem_of_ofInt {n : Nat} {s : String} (hs : ofInt n = some s)
    {c : Char} (hc : c.isDigit = false) : c ∉ s.toList := by
  unfold ofInt at hs
  split at hs
  case isTrue => cases hs
  case isFalse =>
    cases hs
    intro hmem
    have hdigits : c ∈ Nat.toDigits 10 n := by
      rw [← Nat.toList_repr]
      exact hmem
    rw [Nat.isDigit_of_mem_toDigits (by decide) (by decide) hdigits] at hc
    cases hc

/-- `s.split(sep)`, on code points. -/
def splitChars (sep : Char) : List Char → List (List Char)
  | [] => [[]]
  | c :: cs =>
    if c = sep then [] :: splitChars sep cs
    else match splitChars sep cs with
      | [] => [[c]]
      | part :: parts => (c :: part) :: parts

theorem splitChars_ne_nil (sep : Char) (cs : List Char) :
    splitChars sep cs ≠ [] := by
  cases cs with
  | nil => simp [splitChars]
  | cons c cs =>
    unfold splitChars
    split
    · simp
    · split <;> simp

theorem splitChars_of_notMem {sep : Char} {cs : List Char}
    (h : sep ∉ cs) : splitChars sep cs = [cs] := by
  induction cs with
  | nil => rfl
  | cons c cs ih =>
    simp only [List.mem_cons, not_or] at h
    unfold splitChars
    rw [if_neg fun hc => h.1 hc.symm, ih h.2]

theorem splitChars_append (sep : Char) (as bs : List Char) :
    splitChars sep (as ++ sep :: bs) =
      splitChars sep as ++ splitChars sep bs := by
  induction as with
  | nil => simp [splitChars]
  | cons a as ih =>
    simp only [List.cons_append, splitChars]
    rw [ih]
    split
    · rfl
    · cases hparts : splitChars sep as with
      | nil => exact absurd hparts (splitChars_ne_nil sep as)
      | cons part parts => rfl

/-- `sep.join(parts)`, on code points. -/
def joinChars (sep : Char) (parts : List (List Char)) : List Char :=
  [sep].intercalate parts

theorem joinChars_splitChars (sep : Char) (cs : List Char) :
    joinChars sep (splitChars sep cs) = cs := by
  induction cs with
  | nil => rfl
  | cons c cs ih =>
    cases hparts : splitChars sep cs with
    | nil => exact absurd hparts (splitChars_ne_nil sep cs)
    | cons part parts =>
      rw [hparts] at ih
      simp only [splitChars, hparts]
      split
      · rename_i hc
        subst hc
        simp only [joinChars] at ih ⊢
        rw [List.intercalate_cons_cons, ih]
        rfl
      · cases parts with
        | nil => simpa [joinChars] using ih
        | cons next parts =>
          simp only [joinChars] at ih ⊢
          rw [List.intercalate_cons_cons] at ih ⊢
          simpa using ih

/-- `s.split(sep)`. -/
def split (sep : Char) (s : String) : List String :=
  (splitChars sep s.toList).map String.ofList

/-- `s.rsplit(sep, 1)`, when there are two parts. -/
def rsplitOnce (sep : Char) (s : String) : Option (String × String) :=
  let reversed := s.toList.reverse
  match reversed.dropWhile (· ≠ sep) with
  | [] => none
  | _ :: before =>
    some (String.ofList before.reverse,
      String.ofList (reversed.takeWhile (· ≠ sep)).reverse)

theorem split_of_notMem {sep : Char} {s : String}
    (h : sep ∉ s.toList) : split sep s = [s] := by
  unfold split
  rw [splitChars_of_notMem h]
  simp

/-- The part before the first separator. -/
theorem split_append {sep : Char} {a : String} (ha : sep ∉ a.toList)
    (b : String) :
    split sep (a ++ String.singleton sep ++ b) = a :: split sep b := by
  have htext : (a ++ String.singleton sep ++ b).toList
      = a.toList ++ sep :: b.toList := by
    simp
  unfold split
  rw [htext, splitChars_append, splitChars_of_notMem ha]
  simp

-- ==== the first part

theorem startsWith_append (s t : String) : startsWith (s ++ t) s = true := by
  unfold startsWith
  rw [List.isPrefixOf_iff_prefix, String.toList_append]
  exact List.prefix_append _ _

theorem dropChars_append (s t : String) :
    dropChars s.length (s ++ t) = t := by
  unfold dropChars
  rw [String.toList_append, ← String.length_toList, List.drop_left]
  simp

theorem eq_append_of_startsWith {s start : String}
    (h : startsWith s start = true) :
    s = start ++ dropChars start.length s := by
  unfold startsWith at h
  rw [List.isPrefixOf_iff_prefix] at h
  obtain ⟨rest, hrest⟩ := h
  have hs : s = start ++ String.ofList rest := by
    rw [← String.toList_inj, ← hrest]
    simp
  rw [hs, dropChars_append]

-- ==== the last part

/-- A text after the last separator that has none itself. -/
theorem rsplitOnce_append (sep : Char) (a b : String)
    (hb : sep ∉ b.toList) :
    rsplitOnce sep (a ++ String.singleton sep ++ b) = some (a, b) := by
  have hrev : ∀ c ∈ b.toList.reverse, (c ≠ sep : Bool) = true := by
    intro c hc
    simp only [ne_eq, decide_not, Bool.not_eq_true', decide_eq_false_iff_not]
    rintro rfl
    exact hb (List.mem_reverse.mp hc)
  unfold rsplitOnce
  dsimp only
  have htext : (a ++ String.singleton sep ++ b).toList.reverse
      = b.toList.reverse ++ sep :: a.toList.reverse := by
    simp
  rw [htext, List.dropWhile_append_of_pos hrev,
    List.takeWhile_append_of_pos hrev]
  simp

theorem eq_of_rsplitOnce {sep : Char} {s a b : String}
    (h : rsplitOnce sep s = some (a, b)) :
    s = a ++ String.singleton sep ++ b := by
  unfold rsplitOnce at h
  dsimp only at h
  split at h
  next => cases h
  next c before heq =>
    cases h
    have hsep : c = sep := by
      have hhead := List.head?_dropWhile_not (fun d => decide (d ≠ sep))
        s.toList.reverse
      rw [heq] at hhead
      simpa using hhead
    have htext := List.takeWhile_append_dropWhile
      (p := fun d => decide (d ≠ sep)) (l := s.toList.reverse)
    rw [heq, hsep] at htext
    rw [← String.toList_inj, ← List.reverse_inj]
    refine htext.symm.trans ?_
    simp

end Lib.PyStr
