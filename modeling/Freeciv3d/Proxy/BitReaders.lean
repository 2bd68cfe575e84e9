/-
The readers of bitvectors: those of the `CivCom`, `BitVector` of the proxy
and `BitVector` of the web client, against what the server sends.

# What differs

Bit `n` is bit `n % 8` of byte `n / 8`. One reader takes the bytes for words
of 32 bits; another knows one action fewer than the server. Editing a vector
is editing a set of numbers on both sides (`run_edits`), also where the
client's array grows with holes.
-/
import Mathlib.Data.Nat.Bitwise
import Mathlib.Data.Set.Insert
import Freeciv3d.Proxy.CityStores
import Freeciv3d.Proxy.UnitActions

namespace Freeciv3d.Proxy

namespace BitReaders

open Lib

-- ==== the code

/-- `BitVector.set` of the proxy; `self.raw` grows as needed. -/
def set (raw : List Nat) (n : Nat) : List Nat :=
  (raw ++ List.replicate (n / 8 + 1 - raw.length) 0).modify (n / 8)
    (· ||| 1 <<< (n % 8))

/-- `BitVector.unset`. -/
def unset (raw : List Nat) (n : Nat) : List Nat :=
  if raw.length ≤ n / 8 then raw
  else raw.modify (n / 8) fun byte => byte.ldiff (1 <<< (n % 8))

namespace Client

/-- An array as the client has it; what was never assigned is undefined. -/
abbrev Raw := List (Option Nat)

/-- An element as the operand of a bit operation: undefined is 0. -/
def operand (raw : Raw) (i : Nat) : Nat := raw[i]?.join.getD 0

/-- `raw[i] = byte`. -/
def assign (raw : Raw) (i byte : Nat) : Raw :=
  if i < raw.length then raw.set i (some byte)
  else raw ++ List.replicate (i - raw.length) none ++ [some byte]

def isSet (raw : Raw) (n : Nat) : Bool :=
  (operand raw (n / 8)).testBit (n % 8)

def set (raw : Raw) (n : Nat) : Raw :=
  assign raw (n / 8) (operand raw (n / 8) ||| 1 <<< (n % 8))

def unset (raw : Raw) (n : Nat) : Raw :=
  assign raw (n / 8) ((operand raw (n / 8)).ldiff (1 <<< (n % 8)))

def toBitSet (raw : Raw) : List Nat :=
  (List.range (raw.length * 8)).filter (isSet raw)

end Client

-- ==== the statement

/-- A bitvector as the server sends it: a byte at least, none too large. -/
structure Wire where
  bytes : List Nat
  byte : ∀ b ∈ bytes, b < 256
  nonempty : bytes ≠ []

/-- Bit `n % 8` of byte `n / 8`, not set past the end. -/
def serverBit (bytes : List Nat) (n : Nat) : Bool :=
  (bytes.getD (n / 8) 0).testBit (n % 8)

inductive BitEdit where
  | set (n : Nat)
  | unset (n : Nat)

def BitEdit.apply {R : Type} (set unset : R → Nat → R) (raw : R) :
    BitEdit → R
  | .set n => set raw n
  | .unset n => unset raw n

/-- After any edits the tests are those of the set with the same edits. -/
def IsSetOf {R : Type} (isSet : R → Nat → Bool) (set unset : R → Nat → R) :
    Prop :=
  ∀ raw (edits : List BitEdit),
    {n | isSet (edits.foldl (BitEdit.apply set unset) raw) n = true}
      = edits.foldl (BitEdit.apply (fun s n => insert n s)
        fun s n => s \ {n}) {n | isSet raw n = true}

/-- Every reader gives the server's bit `n`. -/
structure ReadAlike (bytes : List Nat) (n : Nat) : Prop where
  action : ∀ m unitTypeId t, m.unitTypes.get? unitTypeId = some t →
    t.utypeActions = bytes →
      UnitActions.utypeCanDoAction m unitTypeId n = serverBit bytes n
  hasImprovement : ∀ rt (s : CityStores) city name building,
    city.improvements = some bytes →
    s.improvements.entries.find? (fun e =>
      RulesetMapper.lower rt e.2.name = RulesetMapper.lower rt name)
        = some (n, building) →
      s.cityHasImprovement rt city name = serverBit bytes n
  buildUnit : ∀ city : CityRecord, city.canBuildUnit = some bytes →
    CityStores.canCityBuildUnit city n = serverBit bytes n
  buildImprovement : ∀ city : CityRecord,
    city.canBuildImprovement = some bytes →
      CityStores.canCityBuildImprovement city n = serverBit bytes n
  native : ∀ m cls terrainId terrain, m.unitClasses.get? n = some cls →
    m.terrains.get? terrainId = some terrain → terrain.nativeTo = bytes →
      UnitActions.isUnitClassNativeToTerrain m n terrainId
        = serverBit bytes n
  isSet : CityStores.isSet bytes n = serverBit bytes n
  toList : n ∈ CityStores.bits bytes ↔ serverBit bytes n = true
  clientIsSet : Client.isSet (bytes.map some) n = serverBit bytes n
  toBitSet : n ∈ Client.toBitSet (bytes.map some)
    ↔ serverBit bytes n = true

/-- An action behind the last one known is not set; and the bit is the one a
reader of words comes to: bit `n % 32` of byte `n / 32`, none from 8 on. -/
def Readable (bytes : List Nat) (n : Nat) : Prop :=
  (UnitActions.actionCount ≤ n → serverBit bytes n = false)
    ∧ if n % 32 < 8 then
        (bytes.getD (n / 32) 0).testBit (n % 8) = serverBit bytes n
      else serverBit bytes n = false

-- ==== the tests

variable {bytes : List Nat} {n : Nat}

theorem isSet_eq : CityStores.isSet bytes n = serverBit bytes n := by
  unfold CityStores.isSet serverBit
  rw [List.getD_eq_getElem?_getD]
  cases bytes[n / 8]? with
  | none => simp
  | some byte => rfl

theorem serverBit_lt (h : serverBit bytes n = true) :
    n < bytes.length * 8 := by
  by_cases hlt : n / 8 < bytes.length
  · omega
  · unfold serverBit at h
    rw [List.getD_eq_default _ _ (by omega)] at h
    simp at h

theorem mem_bits : n ∈ CityStores.bits bytes ↔ serverBit bytes n = true := by
  unfold CityStores.bits
  rw [List.mem_filter, List.mem_range, isSet_eq]
  exact ⟨And.right, fun h => ⟨serverBit_lt h, h⟩⟩

theorem clientIsSet_eq :
    Client.isSet (bytes.map some) n = serverBit bytes n := by
  unfold Client.isSet Client.operand serverBit
  rw [List.getElem?_map, List.getD_eq_getElem?_getD]
  cases bytes[n / 8]? with
  | none => rfl
  | some byte => rfl

theorem mem_toBitSet : n ∈ Client.toBitSet (bytes.map some)
    ↔ serverBit bytes n = true := by
  unfold Client.toBitSet
  rw [List.mem_filter, List.mem_range, clientIsSet_eq, List.length_map]
  exact ⟨And.right, fun h => ⟨serverBit_lt h, h⟩⟩

theorem allowed_eq (h : bytes ≠ []) :
    CityStores.allowed (some bytes) n = serverBit bytes n := by
  cases bytes with
  | nil => exact absurd rfl h
  | cons byte bytes => exact isSet_eq

theorem cityHasImprovement_eq {rt : PyRuntime} {s : CityStores}
    {city : CityRecord} {name : String} {building : Improvement}
    (h : bytes ≠ []) (hcity : city.improvements = some bytes)
    (hfind : s.improvements.entries.find? (fun e =>
      RulesetMapper.lower rt e.2.name = RulesetMapper.lower rt name)
        = some (n, building)) :
    s.cityHasImprovement rt city name = serverBit bytes n := by
  unfold CityStores.cityHasImprovement
  rw [hcity]
  cases bytes with
  | nil => exact absurd rfl h
  | cons byte bytes =>
    simp only [hfind]
    exact isSet_eq

theorem utypeCanDoAction_eq {m : Mirror} {unitTypeId : Int} {t : UnitType}
    (hget : m.unitTypes.get? unitTypeId = some t) :
    UnitActions.utypeCanDoAction m unitTypeId n
      = (!decide (UnitActions.actionCount ≤ n)
        && serverBit t.utypeActions n) := by
  unfold UnitActions.utypeCanDoAction
  rw [hget]
  by_cases hcount : UnitActions.actionCount ≤ n
  · simp [hcount]
  · rw [if_neg hcount, decide_eq_false hcount, Bool.not_false,
      Bool.true_and, ← isSet_eq]
    rfl

/-- What the reader of words comes to. -/
theorem native_eq (v : Wire) {m : Mirror} {terrainId : Int} {cls : UnitClass}
    {terrain : Terrain} (hcls : m.unitClasses.get? n = some cls)
    (hterrain : m.terrains.get? terrainId = some terrain)
    (hbytes : terrain.nativeTo = v.bytes) :
    UnitActions.isUnitClassNativeToTerrain m n terrainId
      = if n % 32 < 8 then (v.bytes.getD (n / 32) 0).testBit (n % 8)
        else false := by
  unfold UnitActions.isUnitClassNativeToTerrain
  rw [hcls, hterrain]
  dsimp only
  rw [hbytes, if_neg (by simp [v.nonempty]), Int.toNat_natCast,
    List.getD_eq_getElem?_getD]
  cases hbyte : v.bytes[n / 32]? with
  | none => simp
  | some byte =>
    show byte.testBit (n % 32) = if _ then byte.testBit (n % 8) else false
    by_cases hlow : n % 32 < 8
    · rw [if_pos hlow, show n % 32 = n % 8 by omega]
    · have hlt := v.byte byte (List.mem_of_getElem? hbyte)
      rw [if_neg hlow]
      refine Nat.testBit_lt_two_pow (Nat.lt_of_lt_of_le hlt ?_)
      show 2 ^ 8 ≤ 2 ^ (n % 32)
      exact Nat.pow_le_pow_right (by decide) (by omega)

-- ==== the edits

section Edits

variable {R : Type} {isSet : R → Nat → Bool} {set unset : R → Nat → R}
  {r : R → Nat → Nat}
  (hread : ∀ raw n, isSet raw n = (r raw (n / 8)).testBit (n % 8))
  (hset : ∀ raw n i, r (set raw n) i
    = if i = n / 8 then r raw i ||| 1 <<< (n % 8) else r raw i)
  (hunset : ∀ raw n i, r (unset raw n) i
    = if i = n / 8 then (r raw i).ldiff (1 <<< (n % 8)) else r raw i)

include hread

include hset in
theorem isSet_set (raw : R) (n m : Nat) :
    isSet (set raw n) m = (decide (m = n) || isSet raw m) := by
  rw [hread, hread, hset]
  by_cases hbyte : m / 8 = n / 8
  · rw [if_pos hbyte, Nat.testBit_or, Nat.one_shiftLeft,
      Nat.testBit_two_pow, Bool.or_comm]
    congr 1
    exact decide_eq_decide.mpr (by omega)
  · rw [if_neg hbyte, decide_eq_false fun h => hbyte (by rw [h]),
      Bool.false_or]

include hunset in
theorem isSet_unset (raw : R) (n m : Nat) :
    isSet (unset raw n) m = (isSet raw m && !decide (m = n)) := by
  rw [hread, hread, hunset]
  by_cases hbyte : m / 8 = n / 8
  · rw [if_pos hbyte, Nat.testBit_ldiff, Nat.one_shiftLeft,
      Nat.testBit_two_pow]
    congr 2
    exact decide_eq_decide.mpr (by omega)
  · rw [if_neg hbyte, decide_eq_false fun h => hbyte (by rw [h])]
    simp

include hset hunset in
/-- A class whose edits change one bit of one element is a set. -/
theorem run_edits : IsSetOf isSet set unset := by
  intro raw edits
  induction edits generalizing raw with
  | nil => rfl
  | cons e edits ih =>
    rw [List.foldl_cons, List.foldl_cons, ih]
    congr 1
    ext m
    cases e with
    | set n =>
      show isSet (set raw n) m = true ↔ m = n ∨ isSet raw m = true
      rw [isSet_set hread hset]
      simp
    | unset n =>
      show isSet (unset raw n) m = true ↔ isSet raw m = true ∧ ¬ m = n
      rw [isSet_unset hread hunset]
      simp

end Edits

theorem getD_modify {raw : List Nat} {f : Nat → Nat} {i : Nat}
    (hi : i < raw.length) (j : Nat) :
    (raw.modify i f).getD j 0
      = if j = i then f (raw.getD j 0) else raw.getD j 0 := by
  rw [List.getD_eq_getElem?_getD, List.getD_eq_getElem?_getD]
  by_cases hj : j = i
  · rw [if_pos hj, hj, List.getElem?_modify_eq, List.getElem?_eq_getElem hi]
    rfl
  · rw [if_neg hj, List.getElem?_modify_ne f raw (Ne.symm hj)]

theorem getD_set (raw : List Nat) (n i : Nat) : (set raw n).getD i 0
    = if i = n / 8 then raw.getD i 0 ||| 1 <<< (n % 8) else raw.getD i 0 := by
  have hgrown : (raw ++ List.replicate (n / 8 + 1 - raw.length) 0).getD i 0
      = raw.getD i 0 := by
    simp only [List.getD_eq_getElem?_getD, List.getElem?_append,
      List.getElem?_replicate]
    by_cases hi : i < raw.length
    · rw [if_pos hi]
    · rw [if_neg hi, List.getElem?_eq_none (by omega)]
      split <;> rfl
  unfold set
  rw [getD_modify, hgrown]
  rw [List.length_append, List.length_replicate]
  omega

theorem getD_unset (raw : List Nat) (n i : Nat) : (unset raw n).getD i 0
    = if i = n / 8 then (raw.getD i 0).ldiff (1 <<< (n % 8))
      else raw.getD i 0 := by
  unfold unset
  by_cases hshort : raw.length ≤ n / 8
  · rw [if_pos hshort]
    by_cases hi : i = n / 8
    · rw [if_pos hi, List.getD_eq_default _ _ (by omega)]
      exact Nat.eq_of_testBit_eq fun j => by simp [Nat.testBit_ldiff]
    · rw [if_neg hi]
  · rw [if_neg hshort, getD_modify (by omega)]

theorem operand_assign (raw : Client.Raw) (i byte j : Nat) :
    Client.operand (Client.assign raw i byte) j
      = if j = i then byte else Client.operand raw j := by
  unfold Client.assign Client.operand
  by_cases hin : i < raw.length
  · rw [if_pos hin, List.getElem?_set]
    by_cases hj : j = i
    · simp [hj, hin]
    · rw [if_neg hj, if_neg fun h => hj h.symm]
  · rw [if_neg hin]
    by_cases hj : j = i
    · rw [if_pos hj, List.getElem?_append_right (by simp; omega)]
      have hend : j - (raw
          ++ List.replicate (i - raw.length) (none : Option Nat)).length
            = 0 := by
        simp
        omega
      rw [hend]
      rfl
    · rw [if_neg hj]
      by_cases hold : j < raw.length
      · rw [List.append_assoc, List.getElem?_append_left hold]
      · rw [List.getElem?_eq_none (l := raw) (by omega)]
        by_cases hbefore : j < i
        · rw [List.getElem?_append_left (by simp; omega),
            List.getElem?_append_right (by omega), List.getElem?_replicate]
          split <;> rfl
        · rw [List.getElem?_eq_none (by simp; omega)]

theorem proxy_edits : IsSetOf CityStores.isSet set unset :=
  run_edits (r := fun raw i => raw.getD i 0) (fun _ _ => isSet_eq)
    getD_set getD_unset

theorem client_edits : IsSetOf Client.isSet Client.set Client.unset := by
  refine run_edits (fun _ _ => rfl) (fun raw n i => ?_) fun raw n i => ?_
  all_goals
    refine (operand_assign raw (n / 8) _ i).trans ?_
    by_cases hi : i = n / 8
    · rw [if_pos hi, if_pos hi, hi]
    · rw [if_neg hi, if_neg hi]

-- ==== all the readers

theorem readAlike_of_readable (v : Wire) (h : Readable v.bytes n) :
    ReadAlike v.bytes n where
  action := by
    intro m unitTypeId t hget hbytes
    rw [utypeCanDoAction_eq hget, hbytes]
    by_cases hcount : UnitActions.actionCount ≤ n
    · rw [h.1 hcount, Bool.and_false]
    · rw [decide_eq_false hcount]
      rfl
  hasImprovement := by
    intro rt s city name building hcity hfind
    exact cityHasImprovement_eq v.nonempty hcity hfind
  buildUnit := by
    intro city hcity
    unfold CityStores.canCityBuildUnit
    rw [hcity]
    exact allowed_eq v.nonempty
  buildImprovement := by
    intro city hcity
    unfold CityStores.canCityBuildImprovement
    rw [hcity]
    exact allowed_eq v.nonempty
  native := by
    intro m cls terrainId terrain hcls hterrain hbytes
    rw [native_eq v hcls hterrain hbytes]
    have hword := h.2
    split at hword
    · next hlow => rw [if_pos hlow, hword]
    · next hlow => rw [if_neg hlow, hword]
  isSet := isSet_eq
  toList := mem_bits
  clientIsSet := clientIsSet_eq
  toBitSet := mem_toBitSet

theorem readable_of_readAlike (v : Wire) (h : ReadAlike v.bytes n) :
    Readable v.bytes n := by
  constructor
  · intro hcount
    let t : UnitType :=
      { name := "", unitClass := none, utypeActions := v.bytes }
    have hget : ({ Mirror.init with
        unitTypes := (∅ : Dict Int UnitType).set 0 t } : Mirror).unitTypes.get?
          0 = some t := by
      simp
    have hbit := h.action _ 0 t hget rfl
    rw [utypeCanDoAction_eq hget, decide_eq_true hcount] at hbit
    exact hbit.symm
  · let terrain : Terrain := { tclass := 0, nativeTo := v.bytes }
    let m : Mirror :=
      { Mirror.init with
        terrains := (∅ : Dict Int Terrain).set 0 terrain
        unitClasses := (∅ : Dict Int UnitClass).set n { name := "" } }
    have hcls : m.unitClasses.get? n = some { name := "" } := by
      simp [m]
    have hterrain : m.terrains.get? 0 = some terrain := by
      simp [m]
    have hbit := h.native m _ 0 terrain hcls hterrain rfl
    rw [native_eq v hcls hterrain rfl] at hbit
    split at hbit
    · next hlow => rw [if_pos hlow, hbit]
    · next hlow => rw [if_neg hlow, ← hbit]

/-- The readers agree on a bit exactly if it is none that only a reader of
words or of all actions could tell; the edits are those of a set always. -/
theorem bit_readers_agree_iff (v : Wire) (n : Nat) :
    (ReadAlike v.bytes n ∧ IsSetOf CityStores.isSet set unset
        ∧ IsSetOf Client.isSet Client.set Client.unset)
      ↔ Readable v.bytes n :=
  ⟨fun h => readable_of_readAlike v h.1,
    fun h => ⟨readAlike_of_readable v h, proxy_edits, client_edits⟩⟩

/-- Unit class 8 in the second byte. -/
theorem second_byte_not_read :
    ¬ ReadAlike ({ bytes := [0, 1], byte := by decide, nonempty := by decide } :
      Wire).bytes 8 := by
  intro h
  have hword := (readable_of_readAlike _ h).2
  simp [serverBit] at hword

end BitReaders

end Freeciv3d.Proxy
