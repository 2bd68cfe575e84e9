/-
C strings: the bytes before the NUL. Texts become bytes as UTF-8, are
copied into buffers, and may hold bytes in the percent notation.

# What is not a copy

A copy through UTF-16 needs well-formed text. Text that is not, or that
the end of the buffer cuts inside a character, leaves the buffer unset:
`strlcpy` has no result there.

# The percent notation

Decoding is left to another library; `PercentDecodes` is what its manual
says. Of a decoded text the proofs need only its first byte
(`PercentDecodes.head?_eq_iff`).
-/
import Mathlib.Tactic.Common

namespace Lib

/-- The bytes of a C string, without the NUL. -/
abbrev CStr := List UInt8

namespace CStr

/-- The UTF-8 bytes of a text. -/
def utf8 (s : String) : CStr := s.toList.flatMap String.utf8EncodeChar

/-- Whether some text has these bytes. -/
def isUtf8 (s : CStr) : Bool := s.toByteArray.validateUTF8

/-- What `strlen` sees. -/
def untilNul (s : CStr) : CStr := s.takeWhile (· != 0)

/-- A copy into a buffer of `n` bytes; nothing when the buffer stays
unset. -/
def strlcpy (n : Nat) (s : CStr) : Option CStr :=
  let t := s.take (n - 1)
  if isUtf8 s && isUtf8 t then some t else none

/-- `isspace`, below 128. -/
def isSpace (b : UInt8) : Bool := b == 32 || (9 ≤ b && b ≤ 13)

/-- `tolower`, below 128; other bytes stay. -/
def toLower (b : UInt8) : UInt8 := if 65 ≤ b ∧ b ≤ 90 then b + 32 else b

-- ==== first bytes

theorem utf8_append (s t : String) : utf8 (s ++ t) = utf8 s ++ utf8 t := by
  unfold utf8
  rw [String.toList_append, List.flatMap_append]

/-- A byte below 128 starts a character only when it is the character. -/
theorem head?_utf8EncodeChar {c : Char} {b : UInt8} (hb : b < 128) :
    (String.utf8EncodeChar c).head? = some b ↔ c.toNat = b.toNat := by
  have hb' : b.toNat < 128 := hb
  have hc : c.val.toNat = c.toNat := rfl
  unfold String.utf8EncodeChar
  dsimp only
  split
  · next h =>
      rw [List.head?_cons, Option.some_inj, ← UInt8.toNat_inj]
      simp
      omega
  · split
    · next h =>
        rw [List.head?_cons, Option.some_inj, ← UInt8.toNat_inj]
        simp
        omega
    · split
      · next h =>
          rw [List.head?_cons, Option.some_inj, ← UInt8.toNat_inj]
          simp
          omega
      · next h =>
          rw [List.head?_cons, Option.some_inj, ← UInt8.toNat_inj]
          simp
          omega

theorem utf8EncodeChar_ne_nil (c : Char) : String.utf8EncodeChar c ≠ [] := by
  unfold String.utf8EncodeChar
  dsimp only
  split
  · exact List.cons_ne_nil _ _
  · split
    · exact List.cons_ne_nil _ _
    · split
      · exact List.cons_ne_nil _ _
      · exact List.cons_ne_nil _ _

/-- The first byte of a text that starts with an ASCII character. -/
theorem head?_utf8 {s : String} {b : UInt8} (hb : b < 128) :
    (utf8 s).head? = some b
      ↔ ∃ c, s.toList.head? = some c ∧ c.toNat = b.toNat := by
  unfold utf8
  cases s.toList with
  | nil => simp
  | cons c cs =>
    rw [List.flatMap_cons, List.head?_append,
      Option.or_of_isSome (List.isSome_head?.mpr (utf8EncodeChar_ne_nil c)),
      head?_utf8EncodeChar hb]
    simp

/-- Cutting a text keeps its first byte, unless that is cut. -/
theorem head?_takeWhile {p : UInt8 → Bool} {s : CStr} {b : UInt8}
    (hb : p b = true) :
    (s.takeWhile p).head? = some b ↔ s.head? = some b := by
  cases s with
  | nil => rfl
  | cons c s =>
    rw [List.takeWhile_cons]
    by_cases hc : c = b
    · subst hc
      rw [if_pos hb]
      rfl
    · split
      · rfl
      · simp [hc]

/-- A well-formed text that fits is copied whole. -/
theorem strlcpy_of_fits {n : Nat} {s : CStr} (hs : s.length < n) :
    strlcpy n s = if isUtf8 s then some s else none := by
  have htake : s.take (n - 1) = s := List.take_of_length_le (by omega)
  unfold strlcpy
  dsimp only
  rw [htake, Bool.and_self]

-- ==== the percent notation

/-- The value of a hexadecimal digit. -/
def hexValue? (b : UInt8) : Option Nat :=
  if 48 ≤ b ∧ b ≤ 57 then some (b.toNat - 48)
  else if 65 ≤ b ∧ b ≤ 70 then some (b.toNat - 55)
  else if 97 ≤ b ∧ b ≤ 102 then some (b.toNat - 87)
  else none

/-- `%` and two digits. -/
def startsEscape : CStr → Bool
  | c :: a :: b :: _ => c == 37 && (hexValue? a).isSome && (hexValue? b).isSome
  | _ => false

/-- Each `%` with two hexadecimal digits stands for a byte; every other
byte for itself. -/
structure PercentDecodes (f : CStr → CStr) : Prop where
  nil : f [] = []
  escape : ∀ a b s x y, hexValue? a = some x → hexValue? b = some y →
    f (37 :: a :: b :: s) = UInt8.ofNat (16 * x + y) :: f s
  plain : ∀ c s, startsEscape (c :: s) = false → f (c :: s) = c :: f s

/-- A decoder. -/
def percentDecode : CStr → CStr
  | [] => []
  | 37 :: a :: b :: s =>
    match hexValue? a, hexValue? b with
    | some x, some y => UInt8.ofNat (16 * x + y) :: percentDecode s
    | _, _ => 37 :: percentDecode (a :: b :: s)
  | c :: s => c :: percentDecode s

theorem percentDecodes : PercentDecodes percentDecode where
  nil := rfl
  escape a b s x y hx hy := by
    rw [percentDecode, hx, hy]
  plain c s h := by
    match c, s with
    | c, [] => simp [percentDecode]
    | c, [a] => simp [percentDecode]
    | c, a :: b :: s =>
      by_cases hc : c = 37
      · subst hc
        rw [percentDecode]
        split
        · next hx hy => simp [startsEscape, hx, hy] at h
        · rfl
      · rw [percentDecode]
        simp [hc]

/-- Decoding never makes a text longer. -/
theorem PercentDecodes.length_le {f : CStr → CStr} (hf : PercentDecodes f)
    (s : CStr) : (f s).length ≤ s.length := by
  -- an escape drops three bytes at once
  suffices h : ∀ n, ∀ s : CStr, s.length ≤ n → (f s).length ≤ s.length from
    h s.length s (Nat.le_refl _)
  intro n
  induction n with
  | zero =>
    intro s hs
    obtain rfl := List.length_eq_zero_iff.mp (Nat.le_zero.mp hs)
    exact Nat.le_of_eq (congrArg List.length hf.nil)
  | succ n ih =>
    intro s hs
    match s, hs with
    | [], _ =>
      exact Nat.le_of_eq (congrArg List.length hf.nil)
    | c :: s, hs =>
      have hs' : s.length ≤ n := Nat.le_of_succ_le_succ hs
      cases hesc : startsEscape (c :: s) with
      | false =>
        rw [hf.plain c s hesc]
        exact Nat.succ_le_succ (ih s hs')
      | true =>
        match s, hs', hesc with
        | d :: e :: t, hs', hesc =>
          simp only [startsEscape, Bool.and_eq_true, beq_iff_eq,
            Option.isSome_iff_exists] at hesc
          obtain ⟨⟨rfl, x, hx⟩, y, hy⟩ := hesc
          rw [hf.escape d e t x y hx hy]
          simp only [List.length_cons] at hs' ⊢
          have ht := ih t (by omega)
          omega

/-- The notations of a byte. -/
def Escapes (b : UInt8) (s : CStr) : Prop :=
  ∃ d e t x y, s = 37 :: d :: e :: t ∧ hexValue? d = some x
    ∧ hexValue? e = some y ∧ UInt8.ofNat (16 * x + y) = b

/-- The first byte of a decoded text, other than `%` itself, was there or
was written in the percent notation. -/
theorem PercentDecodes.head?_eq_iff {f : CStr → CStr}
    (hf : PercentDecodes f) {s : CStr} {b : UInt8} (hb : b ≠ 37) :
    (f s).head? = some b ↔ s.head? = some b ∨ Escapes b s := by
  cases s with
  | nil => simp [hf.nil, Escapes]
  | cons c s =>
    cases hesc : startsEscape (c :: s) with
    | false =>
      rw [hf.plain c s hesc]
      constructor
      · intro h
        exact Or.inl h
      · rintro (h | ⟨d, e, t, x, y, heq, hx, hy, -⟩)
        · exact h
        · rw [heq] at hesc
          simp [startsEscape, hx, hy] at hesc
    | true =>
      match s, hesc with
      | d :: e :: t, hesc =>
        simp only [startsEscape, Bool.and_eq_true, beq_iff_eq,
          Option.isSome_iff_exists] at hesc
        obtain ⟨⟨rfl, x, hx⟩, y, hy⟩ := hesc
        rw [hf.escape d e t x y hx hy, List.head?_cons, List.head?_cons]
        constructor
        · intro h
          exact Or.inr ⟨d, e, t, x, y, rfl, hx, hy, Option.some.inj h⟩
        · rintro (h | ⟨d', e', t', x', y', heq, hx', hy', h⟩)
          · exact absurd (Option.some.inj h).symm hb
          · cases heq
            rw [hx] at hx'
            rw [hy] at hy'
            cases hx'
            cases hy'
            rw [h]

end CStr

end Lib
