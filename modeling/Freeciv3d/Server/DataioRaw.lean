/-
The binary reading and writing of packet fields (`dataio_raw.c`): integers
of a fixed width in network order, and what is put together from them.

# Readers and writers

A reader takes bytes off the front of what is left, or fails. A writer
gives the bytes; there is always room for them. A C `int` has 32 bits.

# Which values can be read

`CouldRead` is the set of values a reader can have, over all bytes. For
each reader a lemma says what it is: the range of an integer, the strings
that fit a buffer, and so on.
-/
import Mathlib.Algebra.Order.Ring.Int
import Freeciv3d.Lib.CStr
import Freeciv3d.Server.Universal

namespace Freeciv3d.Server

open Lib

/-- `struct data_in` from where it stands, read by a function that may
fail. -/
abbrev RawGet := StateT (List UInt8) Option

/-- The conversion to `int`. -/
def int32 (n : Int) : Int := n.bmod (2 ^ 32)

/-- An integer in an enumeration, which is 32 bits without a sign. -/
def enumOf (n : Int) : Nat := (n % 2 ^ 32).toNat

/-- The conversion to `uint8_t`. -/
def byteOf (n : Int) : UInt8 := UInt8.ofNat (n % 256).toNat

-- ==== numbers

def putUint8Raw (value : Int) : List UInt8 := [byteOf value]

def putUint16Raw (value : Int) : List UInt8 :=
  [byteOf (value / 2 ^ 8), byteOf value]

def putUint32Raw (value : Int) : List UInt8 :=
  [byteOf (value / 2 ^ 24), byteOf (value / 2 ^ 16), byteOf (value / 2 ^ 8),
    byteOf value]

def putSint8Raw (value : Int) : List UInt8 :=
  putUint8Raw (if 0 ≤ value then value else value + 0x100)

def putSint16Raw (value : Int) : List UInt8 :=
  putUint16Raw (if 0 ≤ value then value else value + 0x10000)

def putSint32Raw (value : Int) : List UInt8 := putUint32Raw value

def putBool8Raw (value : Bool) : List UInt8 :=
  putUint8Raw (if value then 1 else 0)

def getUint8Raw : RawGet Int
  | [] => none
  | b :: din => some (b.toNat, din)

def getUint16Raw : RawGet Int
  | b₁ :: b₀ :: din => some (b₁.toNat * 2 ^ 8 + b₀.toNat, din)
  | _ => none

/-- `dio_get_uint32_raw`, into an `int`. -/
def getUint32Raw : RawGet Int
  | b₃ :: b₂ :: b₁ :: b₀ :: din =>
    some (int32 (b₃.toNat * 2 ^ 24 + b₂.toNat * 2 ^ 16 + b₁.toNat * 2 ^ 8
      + b₀.toNat), din)
  | _ => none

def getSint8Raw : RawGet Int := do
  let tmp ← getUint8Raw
  return if 0x7f < tmp then tmp - 0x100 else tmp

def getSint16Raw : RawGet Int := do
  let tmp ← getUint16Raw
  return if 0x7fff < tmp then tmp - 0x10000 else tmp

/-- `dio_get_sint32_raw`, where an `int` has four bytes. -/
def getSint32Raw : RawGet Int := getUint32Raw

def getBool8Raw : RawGet Bool := do
  let ival ← getUint8Raw
  if ival ≠ 0 ∧ ival ≠ 1 then failure
  return decide (ival ≠ 0)

-- ==== integer types

inductive Width
  | uint8 | sint8 | uint16 | sint16 | uint32 | sint32
  deriving DecidableEq

namespace Width

/-- The least value; an `int` keeps all bits of a `uint32` and the sign
with them. -/
def low : Width → Int
  | uint8 | uint16 => 0
  | sint8 => -2 ^ 7
  | sint16 => -2 ^ 15
  | uint32 | sint32 => -2 ^ 31

def high : Width → Int
  | uint8 => 2 ^ 8 - 1
  | sint8 => 2 ^ 7 - 1
  | uint16 => 2 ^ 16 - 1
  | sint16 => 2 ^ 15 - 1
  | uint32 | sint32 => 2 ^ 31 - 1

/-- In the range of the type. -/
def Fits (w : Width) (n : Int) : Prop := w.low ≤ n ∧ n ≤ w.high

instance (w : Width) (n : Int) : Decidable (w.Fits n) :=
  inferInstanceAs (Decidable (_ ∧ _))

end Width

def putIntRaw : Width → Int → List UInt8
  | .uint8 => putUint8Raw
  | .sint8 => putSint8Raw
  | .uint16 => putUint16Raw
  | .sint16 => putSint16Raw
  | .uint32 => putUint32Raw
  | .sint32 => putSint32Raw

def getIntRaw : Width → RawGet Int
  | .uint8 => getUint8Raw
  | .sint8 => getSint8Raw
  | .uint16 => getUint16Raw
  | .sint16 => getSint16Raw
  | .uint32 => getUint32Raw
  | .sint32 => getSint32Raw

-- ==== strings

/-- `dio_get_string_raw`, into a buffer of `room + 1` bytes. -/
def getStringRaw (room : Nat) : RawGet CStr := fun din =>
  let c := CStr.untilNul din
  if din.length ≤ c.length then none
  else if room < c.length then none
  else some (c, din.drop (c.length + 1))

def getEstringRaw (room : Nat) : RawGet CStr := getStringRaw room

-- ==== structures

structure UnitOrder where
  order : Int
  activity : Int
  target : Int
  subTarget : Int
  action : Int
  dir : Int

structure ActProb where
  min : Int
  max : Int

def putUnitOrderRaw (order : UnitOrder) : List UInt8 :=
  putUint8Raw order.order ++ (putUint8Raw order.activity
    ++ (putSint32Raw order.target ++ (putSint16Raw order.subTarget
    ++ (putUint8Raw order.action ++ putSint8Raw order.dir))))

def getUnitOrderRaw : RawGet UnitOrder := do
  let order ← getUint8Raw
  let activity ← getUint8Raw
  let target ← getSint32Raw
  let subTarget ← getSint16Raw
  let action ← getUint8Raw
  let dir ← getSint8Raw
  return ⟨order, activity, target, subTarget, action, dir⟩

def putUniversalRaw (u : Universal) : List UInt8 :=
  putUint8Raw u.kind ++ putUint8Raw (universalNumber u)

def putWorklistRaw (pwl : Worklist) : List UInt8 :=
  putUint8Raw pwl.entries.length ++ pwl.entries.flatMap putUniversalRaw

def getUniversalRaw (r : Ruleset) : RawGet Universal := do
  let kind ← getUint8Raw
  let identifier ← getUint8Raw
  return universalByNumber r kind identifier

/-- The loop of `dio_get_worklist_raw`, with so many entries to come. -/
def getEntriesRaw (r : Ruleset) : Nat → Worklist → RawGet Worklist
  | 0, pwl => pure pwl
  | n + 1, pwl => do
      let univ ← getUniversalRaw r
      getEntriesRaw r n (pwl.append univ)

def getWorklistRaw (r : Ruleset) : RawGet Worklist := do
  let length ← getUint8Raw
  getEntriesRaw r length.toNat .init

def putActionProbabilityRaw (aprob : ActProb) : List UInt8 :=
  putUint8Raw aprob.min ++ putUint8Raw aprob.max

def getActionProbabilityRaw : RawGet ActProb := do
  let min ← getUint8Raw
  let max ← getUint8Raw
  return ⟨min, max⟩

def putRequirementRaw (req : Requirement) : List UInt8 :=
  putUint8Raw req.source.kind ++ (putSint32Raw (universalNumber req.source)
    ++ (putUint8Raw req.range ++ (putBool8Raw req.survives
    ++ (putBool8Raw req.present ++ putBool8Raw req.quiet))))

def getRequirementRaw (r : Ruleset) : RawGet Requirement := do
  let type ← getUint8Raw
  let value ← getSint32Raw
  let range ← getUint8Raw
  let survives ← getBool8Raw
  let present ← getBool8Raw
  let quiet ← getBool8Raw
  return reqFromValues r type range survives present quiet value

-- ==== reading in a row

section reads

variable {α β : Type}

/-- The reader has the value, over some bytes. -/
def CouldRead (get : RawGet α) (a : α) : Prop :=
  ∃ din rest, get din = some (a, rest)

/-- The reader takes exactly these bytes and has the value. -/
def Reads (get : RawGet α) (a : α) (bytes : List UInt8) : Prop :=
  ∀ rest, get (bytes ++ rest) = some (a, rest)

theorem Reads.could {get : RawGet α} {a : α} {bytes : List UInt8}
    (h : Reads get a bytes) : CouldRead get a :=
  ⟨bytes ++ [], [], h []⟩

theorem reads_pure (a : α) : Reads (pure a) a [] := fun _ => rfl

theorem Reads.bind {x : RawGet α} {f : α → RawGet β} {a : α} {b : β}
    {bytes bytes' : List UInt8} (hx : Reads x a bytes)
    (hf : Reads (f a) b bytes') : Reads (x >>= f) b (bytes ++ bytes') := by
  intro rest
  show (x (bytes ++ bytes' ++ rest)).bind (fun p => f p.1 p.2) = _
  rw [List.append_assoc, hx]
  exact hf rest

theorem Reads.map {x : RawGet α} {a : α} {bytes : List UInt8}
    (hx : Reads x a bytes) (f : α → β) :
    Reads (x >>= fun a => pure (f a)) (f a) bytes := by
  intro rest
  show (x (bytes ++ rest)).bind (fun p => some (f p.1, p.2)) = _
  rw [hx]
  rfl

theorem run_bind {x : RawGet α} {f : α → RawGet β} {b : β}
    {din rest : List UInt8} (h : (x >>= f) din = some (b, rest)) :
    ∃ a s, x din = some (a, s) ∧ f a s = some (b, rest) := by
  have h' : (x din).bind (fun p => f p.1 p.2) = some (b, rest) := h
  obtain ⟨⟨a, s⟩, hx, hf⟩ := Option.bind_eq_some_iff.mp h'
  exact ⟨a, s, hx, hf⟩

end reads

-- ==== the single readers

theorem toNat_byteOf (n : Int) : ((byteOf n).toNat : Int) = n % 256 := by
  unfold byteOf
  rw [UInt8.toNat_ofNat']
  omega

theorem fits_int32 (n : Int) : -2 ^ 31 ≤ int32 n ∧ int32 n ≤ 2 ^ 31 - 1 := by
  unfold int32
  have h₁ := Int.le_bmod (x := n) (m := 2 ^ 32) (by decide)
  have h₂ := Int.bmod_lt (x := n) (m := 2 ^ 32) (by decide)
  omega

theorem int32_of_fits {n : Int} (h : Width.sint32.Fits n) : int32 n = n := by
  have h₁ : -2 ^ 31 ≤ n := h.1
  have h₂ : n ≤ 2 ^ 31 - 1 := h.2
  unfold int32
  rw [Int.bmod_eq_of_le (by omega) (by omega)]

theorem int32_of_range {n : Int} (h₁ : -2147483648 ≤ n)
    (h₂ : n ≤ 2147483647) : int32 n = n := by
  unfold int32
  rw [Int.bmod_eq_of_le (by omega) (by omega)]

theorem Width.Fits.sint32 {w : Width} {n : Int} (h : w.Fits n) :
    Width.sint32.Fits n := by
  obtain ⟨h₁, h₂⟩ := h
  show -2 ^ 31 ≤ n ∧ n ≤ 2 ^ 31 - 1
  cases w with
  | uint8 | sint8 | uint16 | sint16 =>
    simp only [Width.low, Width.high] at h₁ h₂; omega
  | uint32 | sint32 => exact ⟨h₁, h₂⟩

theorem fits_of_getIntRaw {w : Width} {n : Int} {din rest : List UInt8}
    (h : getIntRaw w din = some (n, rest)) : w.Fits n := by
  have huint8 : ∀ {n din rest}, getUint8Raw din = some (n, rest) →
      0 ≤ n ∧ n ≤ 255 := by
    intro n din rest h
    cases din with
    | nil => cases h
    | cons b din =>
      cases h
      have hb := b.toNat_lt
      omega
  have huint16 : ∀ {n din rest}, getUint16Raw din = some (n, rest) →
      0 ≤ n ∧ n ≤ 65535 := by
    intro n din rest h
    match din, h with
    | b₁ :: b₀ :: din, h =>
      cases h
      have hb₁ := b₁.toNat_lt
      have hb₀ := b₀.toNat_lt
      omega
  have huint32 : ∀ {n din rest}, getUint32Raw din = some (n, rest) →
      Width.sint32.Fits n := by
    intro n din rest h
    match din, h with
    | b₃ :: b₂ :: b₁ :: b₀ :: din, h =>
      obtain ⟨rfl, -⟩ := Prod.mk.inj (Option.some.inj h)
      exact fits_int32 _
  cases w with
  | uint8 => exact huint8 h
  | sint8 =>
    obtain ⟨tmp, s, htmp, h⟩ := run_bind h
    have hrange := huint8 htmp
    cases h
    show -2 ^ 7 ≤ _ ∧ _ ≤ 2 ^ 7 - 1
    split
    · omega
    · omega
  | uint16 => exact huint16 h
  | sint16 =>
    obtain ⟨tmp, s, htmp, h⟩ := run_bind h
    have hrange := huint16 htmp
    cases h
    show -2 ^ 15 ≤ _ ∧ _ ≤ 2 ^ 15 - 1
    split
    · omega
    · omega
  | uint32 | sint32 => exact huint32 h

theorem bytes16 (n : Int) :
    ((byteOf (n / 2 ^ 8)).toNat : Int) * 2 ^ 8 + ((byteOf n).toNat : Int)
      = n % 2 ^ 16 := by
  rw [toNat_byteOf, toNat_byteOf]
  omega

theorem bytes32 (n : Int) :
    ((byteOf (n / 2 ^ 24)).toNat : Int) * 2 ^ 24
        + ((byteOf (n / 2 ^ 16)).toNat : Int) * 2 ^ 16
        + ((byteOf (n / 2 ^ 8)).toNat : Int) * 2 ^ 8
        + ((byteOf n).toNat : Int)
      = n % 2 ^ 32 := by
  rw [toNat_byteOf, toNat_byteOf, toNat_byteOf, toNat_byteOf]
  omega

theorem reads_uint32 {n : Int} (h : Width.sint32.Fits n) :
    Reads getUint32Raw n (putUint32Raw n) := by
  intro rest
  show some (int32 (((byteOf (n / 2 ^ 24)).toNat : Int) * 2 ^ 24
    + ((byteOf (n / 2 ^ 16)).toNat : Int) * 2 ^ 16
    + ((byteOf (n / 2 ^ 8)).toNat : Int) * 2 ^ 8
    + ((byteOf n).toNat : Int)), rest) = _
  have hmod : int32 (n % 2 ^ 32) = int32 n := Int.emod_bmod n (2 ^ 32)
  rw [bytes32, hmod, int32_of_fits h]

theorem reads_int {w : Width} {n : Int} (h : w.Fits n) :
    Reads (getIntRaw w) n (putIntRaw w n) := by
  cases w with
  | uint8 =>
    intro rest
    have h₁ : 0 ≤ n := h.1
    have h₂ : n ≤ 2 ^ 8 - 1 := h.2
    show some (((byteOf n).toNat : Int), rest) = _
    rw [toNat_byteOf, Int.emod_eq_of_lt h₁ (by omega)]
  | sint8 =>
    intro rest
    have h₁ : -2 ^ 7 ≤ n := h.1
    have h₂ : n ≤ 2 ^ 7 - 1 := h.2
    show some ((if 0x7f < ((byteOf (if 0 ≤ n then n else n + 0x100)).toNat
      : Int) then _ else _), rest) = _
    rw [toNat_byteOf]
    congr 2
    by_cases hn : 0 ≤ n
    · rw [if_pos hn]
      omega
    · rw [if_neg hn]
      omega
  | uint16 =>
    intro rest
    have h₁ : 0 ≤ n := h.1
    have h₂ : n ≤ 2 ^ 16 - 1 := h.2
    show some (((byteOf (n / 2 ^ 8)).toNat : Int) * 2 ^ 8
      + ((byteOf n).toNat : Int), rest) = _
    rw [bytes16, Int.emod_eq_of_lt h₁ (by omega)]
  | sint16 =>
    intro rest
    have h₁ : -2 ^ 15 ≤ n := h.1
    have h₂ : n ≤ 2 ^ 15 - 1 := h.2
    show some ((if 0x7fff < ((byteOf ((if 0 ≤ n then n else n + 0x10000)
        / 2 ^ 8)).toNat : Int) * 2 ^ 8
      + ((byteOf (if 0 ≤ n then n else n + 0x10000)).toNat : Int)
      then _ else _), rest) = _
    rw [bytes16]
    congr 2
    by_cases hn : 0 ≤ n
    · rw [if_pos hn]
      omega
    · rw [if_neg hn]
      omega
  | uint32 | sint32 => exact reads_uint32 h

theorem couldRead_int {w : Width} {n : Int} :
    CouldRead (getIntRaw w) n ↔ w.Fits n := by
  constructor
  · rintro ⟨din, rest, h⟩
    exact fits_of_getIntRaw h
  · intro h
    exact (reads_int h).could

theorem reads_bool8 (b : Bool) : Reads getBool8Raw b (putBool8Raw b) := by
  cases b with
  | true | false => exact fun _ => rfl

theorem couldRead_string {room : Nat} {s : CStr} :
    CouldRead (getStringRaw room) s ↔ 0 ∉ s ∧ s.length ≤ room := by
  constructor
  · rintro ⟨din, rest, h⟩
    unfold getStringRaw at h
    dsimp only at h
    split at h
    · cases h
    · split at h
      · cases h
      · next hroom =>
          cases h
          refine ⟨fun h₀ => ?_, by omega⟩
          have hne := List.all_eq_true.mp List.all_takeWhile 0 h₀
          exact absurd hne (by decide)
  · rintro ⟨h₀, hroom⟩
    have huntil : CStr.untilNul (s ++ [0]) = s := by
      unfold CStr.untilNul
      rw [List.takeWhile_append_of_pos]
      · simp
      · intro b hb
        simp
        rintro rfl
        exact h₀ hb
    refine ⟨s ++ [0], [], ?_⟩
    unfold getStringRaw
    rw [huntil, if_neg (by simp), if_neg (by omega)]
    simp

-- ==== the structures

namespace UnitOrder

/-- Every field in the range of its type. -/
structure Fits (o : UnitOrder) : Prop where
  order : Width.uint8.Fits o.order
  activity : Width.uint8.Fits o.activity
  target : Width.sint32.Fits o.target
  subTarget : Width.sint16.Fits o.subTarget
  action : Width.uint8.Fits o.action
  dir : Width.sint8.Fits o.dir

end UnitOrder

theorem reads_unitOrder {o : UnitOrder} (h : o.Fits) :
    Reads getUnitOrderRaw o (putUnitOrderRaw o) :=
  (reads_int h.order).bind <| (reads_int h.activity).bind <|
    (reads_int h.target).bind <| (reads_int h.subTarget).bind <|
    (reads_int h.action).bind <| (reads_int h.dir).map _

theorem couldRead_unitOrder {o : UnitOrder} :
    CouldRead getUnitOrderRaw o ↔ o.Fits := by
  constructor
  · rintro ⟨din, rest, h⟩
    obtain ⟨order, _, h₁, h⟩ := run_bind h
    obtain ⟨activity, _, h₂, h⟩ := run_bind h
    obtain ⟨target, _, h₃, h⟩ := run_bind h
    obtain ⟨subTarget, _, h₄, h⟩ := run_bind h
    obtain ⟨action, _, h₅, h⟩ := run_bind h
    obtain ⟨dir, _, h₆, h⟩ := run_bind h
    cases h
    exact ⟨fits_of_getIntRaw (w := .uint8) h₁,
      fits_of_getIntRaw (w := .uint8) h₂, fits_of_getIntRaw (w := .sint32) h₃,
      fits_of_getIntRaw (w := .sint16) h₄, fits_of_getIntRaw (w := .uint8) h₅,
      fits_of_getIntRaw (w := .sint8) h₆⟩
  · intro h
    exact (reads_unitOrder h).could

/-- Both numbers in a byte. -/
structure ActProb.Fits (p : ActProb) : Prop where
  min : Width.uint8.Fits p.min
  max : Width.uint8.Fits p.max

theorem reads_actProb {p : ActProb} (h : p.Fits) :
    Reads getActionProbabilityRaw p (putActionProbabilityRaw p) :=
  (reads_int h.min).bind <| (reads_int h.max).map _

theorem couldRead_actProb {p : ActProb} :
    CouldRead getActionProbabilityRaw p ↔ p.Fits := by
  constructor
  · rintro ⟨din, rest, h⟩
    obtain ⟨min, _, h₁, h⟩ := run_bind h
    obtain ⟨max, _, h₂, h⟩ := run_bind h
    cases h
    exact ⟨fits_of_getIntRaw (w := .uint8) h₁,
      fits_of_getIntRaw (w := .uint8) h₂⟩
  · intro h
    exact (reads_actProb h).could

/-- A universal as it can be made from two bytes: a value that is kept is
one. -/
def UniversalFits (r : Ruleset) (kind value : Int) : Prop :=
  ∀ n, (universalByNumber r kind value).value = some n →
    Width.uint8.Fits value

theorem exists_bytes_iff {r : Ruleset} {kind value : Int} :
    (∃ k v, Width.uint8.Fits k ∧ Width.uint8.Fits v
      ∧ universalByNumber r k v = universalByNumber r kind value)
      ↔ UniversalFits r kind value := by
  constructor
  · rintro ⟨k, v, -, hv, heq⟩ n hn
    have h₁ := value_universalByNumber hn
    rw [← heq] at hn
    have h₂ := value_universalByNumber hn
    rw [← h₁, h₂]
    exact hv
  · intro h
    have hinvalid : universalByNumber r 255 0 = .invalid := rfl
    have hzero : Width.uint8.Fits 0 := by decide
    have hlast : Width.uint8.Fits 255 := by decide
    by_cases hkind : 0 ≤ kind ∧ kind < vutCount
    · have hbyte : Width.uint8.Fits kind := by
        have h₂ : kind < 55 := hkind.2
        exact ⟨hkind.1, by show kind ≤ 2 ^ 8 - 1; omega⟩
      cases hvalue : (universalByNumber r kind value).value with
      | some n => exact ⟨kind, value, hbyte, h n hvalue, rfl⟩
      | none =>
        -- no value: invalid, VUT_NONE, or the null pointer
        have hunfold : ∀ v, universalByNumber r kind v =
            _ := fun v => if_pos hkind
        rw [hunfold] at hvalue ⊢
        cases hrule : valueRule kind with
        | nothing =>
          refine ⟨kind, 0, hbyte, hzero, ?_⟩
          rw [hunfold, hrule]
        | checked t =>
          rw [hrule] at hvalue
          dsimp only at hvalue ⊢
          cases hby : byNumber r t value with
          | some id =>
            rw [hby] at hvalue
            cases hvalue
          | none => exact ⟨255, 0, hlast, hzero, hinvalid⟩
        | unchecked t =>
          refine ⟨kind, 255, hbyte, hlast, ?_⟩
          rw [hrule] at hvalue
          rw [hunfold, hrule]
          dsimp only at hvalue ⊢
          rw [byNumber_unchecked r hrule, hvalue]
        | diplrel =>
          rw [hrule] at hvalue
          dsimp only at hvalue ⊢
          split at hvalue
          · next hv =>
              rw [if_pos hv]
              exact ⟨255, 0, hlast, hzero, hinvalid⟩
          · cases hvalue
        | plain =>
          rw [hrule] at hvalue
          cases hvalue
    · refine ⟨255, 0, hlast, hzero, ?_⟩
      rw [hinvalid]
      exact (if_neg hkind).symm

/-- The range, and a universal whose kind may be any byte and whose value
any `int`. -/
theorem couldRead_requirement {r : Ruleset} {kind value range : Int}
    {survives present quiet : Bool} (hvalue : Width.sint32.Fits value) :
    CouldRead (getRequirementRaw r)
        (reqFromValues r kind range survives present quiet value)
      ↔ Width.uint8.Fits range := by
  constructor
  · rintro ⟨din, rest, h⟩
    obtain ⟨type, _, -, h⟩ := run_bind h
    obtain ⟨value, _, -, h⟩ := run_bind h
    obtain ⟨range', _, hrange, h⟩ := run_bind h
    obtain ⟨survives, _, -, h⟩ := run_bind h
    obtain ⟨present, _, -, h⟩ := run_bind h
    obtain ⟨quiet, _, -, h⟩ := run_bind h
    have hreq := (Prod.mk.inj (Option.some.inj h)).1
    have heq : range' = range := congrArg Requirement.range hreq
    rw [← heq]
    exact fits_of_getIntRaw (w := .uint8) hrange
  · intro hrange
    have hreads : ∀ k, Width.uint8.Fits k → Reads (getRequirementRaw r)
        (reqFromValues r k range survives present quiet value)
        (putUint8Raw k ++ (putSint32Raw value ++ (putUint8Raw range
          ++ (putBool8Raw survives ++ (putBool8Raw present
          ++ putBool8Raw quiet))))) := by
      intro k hk
      exact (reads_int (w := .uint8) hk).bind <|
        (reads_int (w := .sint32) hvalue).bind <|
        (reads_int (w := .uint8) hrange).bind <|
        (reads_bool8 survives).bind <| (reads_bool8 present).bind <|
        (reads_bool8 quiet).map _
    by_cases hkind : Width.uint8.Fits kind
    · exact (hreads kind hkind).could
    · -- a kind that is no byte is no kind
      have heq : reqFromValues r kind range survives present quiet value
          = reqFromValues r 255 range survives present quiet value := by
        have hno : ¬ (0 ≤ kind ∧ kind < vutCount) := by
          intro h
          have h₂ : kind < 55 := h.2
          exact hkind ⟨h.1, by show kind ≤ 2 ^ 8 - 1; omega⟩
        unfold reqFromValues universalByNumber
        rw [if_neg hno]
        rfl
      rw [heq]
      exact (hreads 255 (by decide)).could

structure Requirement.Fits (req : Requirement) : Prop where
  kind : Width.uint8.Fits req.source.kind
  value : Width.sint32.Fits (universalNumber req.source)
  range : Width.uint8.Fits req.range

theorem reads_requirement {r : Ruleset} {req : Requirement} (h : req.Fits) :
    Reads (getRequirementRaw r)
      (reqFromValues r req.source.kind req.range req.survives req.present
        req.quiet (universalNumber req.source)) (putRequirementRaw req) :=
  (reads_int (w := .uint8) h.kind).bind <|
    (reads_int (w := .sint32) h.value).bind <|
    (reads_int (w := .uint8) h.range).bind <|
    (reads_bool8 req.survives).bind <| (reads_bool8 req.present).bind <|
    (reads_bool8 req.quiet).map _

-- ==== the worklist

theorem reads_universal {r : Ruleset} {kind value : Int}
    (hk : Width.uint8.Fits kind) (hv : Width.uint8.Fits value) :
    Reads (getUniversalRaw r) (universalByNumber r kind value)
      (putUint8Raw kind ++ putUint8Raw value) :=
  (reads_int (w := .uint8) hk).bind <|
    (reads_int (w := .uint8) hv).map (universalByNumber r kind)

theorem reads_entries {r : Ruleset} {us : List (Int × Int)}
    (h : ∀ p ∈ us, Width.uint8.Fits p.1 ∧ Width.uint8.Fits p.2)
    (pwl : Worklist) :
    Reads (getEntriesRaw r us.length pwl)
      ((us.map fun p => universalByNumber r p.1 p.2).foldl
        Worklist.append pwl)
      (us.flatMap fun p => putUint8Raw p.1 ++ putUint8Raw p.2) := by
  induction us generalizing pwl with
  | nil => exact reads_pure pwl
  | cons p us ih =>
    have hp := h p List.mem_cons_self
    exact (reads_universal hp.1 hp.2).bind
      (ih (fun q hq => h q (List.mem_cons_of_mem _ hq)) _)

def worklistOf (r : Ruleset) (us : List (Int × Int)) : Worklist :=
  (us.map fun p => universalByNumber r p.1 p.2).foldl Worklist.append .init

theorem reads_worklist {r : Ruleset} {us : List (Int × Int)}
    (hlength : us.length ≤ 255)
    (h : ∀ p ∈ us, Width.uint8.Fits p.1 ∧ Width.uint8.Fits p.2) :
    Reads (getWorklistRaw r) (worklistOf r us)
      (putUint8Raw us.length
        ++ us.flatMap fun p => putUint8Raw p.1 ++ putUint8Raw p.2) := by
  have hfits : Width.uint8.Fits (us.length : Int) :=
    ⟨Int.natCast_nonneg _, by show (us.length : Int) ≤ 2 ^ 8 - 1; omega⟩
  exact (reads_int (w := .uint8) hfits).bind (reads_entries h .init)

theorem entries_of_getEntriesRaw {r : Ruleset} {n : Nat}
    {pwl pwl' : Worklist} {din rest : List UInt8}
    (h : getEntriesRaw r n pwl din = some (pwl', rest)) :
    ∃ us : List (Int × Int),
      (∀ p ∈ us, Width.uint8.Fits p.1 ∧ Width.uint8.Fits p.2)
        ∧ pwl' = (us.map fun p => universalByNumber r p.1 p.2).foldl
          Worklist.append pwl := by
  induction n generalizing pwl din with
  | zero =>
    cases h
    exact ⟨[], fun _ h => absurd h List.not_mem_nil, rfl⟩
  | succ n ih =>
    obtain ⟨u, s, hu, h⟩ := run_bind h
    obtain ⟨kind, _, hk, hu⟩ := run_bind hu
    obtain ⟨value, _, hv, hu⟩ := run_bind hu
    cases hu
    obtain ⟨us, hus, rfl⟩ := ih h
    refine ⟨(kind, value) :: us, ?_, rfl⟩
    intro p hp
    rcases List.mem_cons.mp hp with rfl | hp
    · exact ⟨fits_of_getIntRaw (w := .uint8) hk,
        fits_of_getIntRaw (w := .uint8) hv⟩
    · exact hus p hp

theorem entries_worklistOf (r : Ruleset) (us : List (Int × Int)) :
    (worklistOf r us).entries
      = (us.take maxLenWorklist).map fun p => universalByNumber r p.1 p.2 := by
  unfold worklistOf
  rw [Worklist.entries_foldl_append, List.map_take]
  rfl

theorem couldRead_worklist {r : Ruleset} {us : List (Int × Int)} :
    CouldRead (getWorklistRaw r) (worklistOf r us)
      ↔ ∀ p ∈ us.take maxLenWorklist, UniversalFits r p.1 p.2 := by
  constructor
  · rintro ⟨din, rest, h⟩ p hp
    obtain ⟨length, s, -, h⟩ := run_bind h
    obtain ⟨vs, hvs, heq⟩ := entries_of_getEntriesRaw h
    have hentries := congrArg Worklist.entries heq
    have hof : (vs.map fun p => universalByNumber r p.1 p.2).foldl
        Worklist.append .init = worklistOf r vs := rfl
    rw [hof, entries_worklistOf, entries_worklistOf] at hentries
    have hmem : universalByNumber r p.1 p.2
        ∈ (us.take maxLenWorklist).map fun p => universalByNumber r p.1 p.2 :=
      List.mem_map_of_mem hp
    rw [hentries] at hmem
    obtain ⟨q, hq, hqp⟩ := List.mem_map.mp hmem
    have hfits := hvs q (List.mem_of_mem_take hq)
    exact exists_bytes_iff.mp ⟨q.1, q.2, hfits.1, hfits.2, hqp⟩
  · intro h
    -- for each universal two bytes that make it
    obtain ⟨vs, hvs, heq⟩ : ∃ vs : List (Int × Int),
        (∀ p ∈ vs, Width.uint8.Fits p.1 ∧ Width.uint8.Fits p.2)
          ∧ vs.map (fun p => universalByNumber r p.1 p.2)
            = (us.take maxLenWorklist).map
              fun p => universalByNumber r p.1 p.2 := by
      generalize us.take maxLenWorklist = ws at h
      induction ws with
      | nil => exact ⟨[], fun _ h => absurd h List.not_mem_nil, rfl⟩
      | cons p ws ih =>
        obtain ⟨vs, hvs, heq⟩ :=
          ih fun q hq => h q (List.mem_cons_of_mem _ hq)
        obtain ⟨k, v, hk, hv, hkv⟩ :=
          exists_bytes_iff.mpr (h p List.mem_cons_self)
        refine ⟨(k, v) :: vs, ?_, ?_⟩
        · intro q hq
          rcases List.mem_cons.mp hq with rfl | hq
          · exact ⟨hk, hv⟩
          · exact hvs q hq
        · rw [List.map_cons, List.map_cons, heq, hkv]
    have hlength : vs.length ≤ maxLenWorklist := by
      have := congrArg List.length heq
      rw [List.length_map, List.length_map, List.length_take] at this
      omega
    have hsame : worklistOf r us = worklistOf r vs := by
      apply Worklist.ext
      rw [entries_worklistOf, entries_worklistOf,
        List.take_of_length_le hlength, heq]
    rw [hsame]
    have h64 : maxLenWorklist ≤ 255 := by decide
    exact (reads_worklist (by omega) hvs).could

end Freeciv3d.Server
