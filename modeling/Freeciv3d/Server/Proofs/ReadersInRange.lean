/-
What the JSON readers store, compared with what the binary readers could
have stored, and what both give back of a structure that was written.

# What goes wrong

The binary readers get their ranges from the width of the field. The JSON
readers take `json_integer_value` as it is: after it they test the pointer
they have just stored through, not the value. A boolean is true or
anything else, and a value that is no string is a null pointer to `strlen`.

# What remains

`InRange` is the exact condition, for each type of a field: the integers of
the packet fit, booleans are booleans and strings are strings, wherever the
reader gets so far as to store. An out of range kind of a universal does no
harm: it is no kind, as every large byte is.

# Written and read

Where a structure in range is written, both readers give the same back
(`RoundTrips`): the JSON object has every field, and each of its numbers
survives the bytes.
-/
import Freeciv3d.Server.DataioJson

namespace Freeciv3d.Server

open Lib

variable {r : Ruleset} {unescape : CStr → CStr} {packet packet' : JsonT}
  {location : Plocation}

-- ==== locations

theorem plocationReadData_append (item : JsonT) (p q : Plocation) :
    plocationReadData item (p ++ q)
      = (plocationReadData item p).bind fun v => plocationReadData v q := by
  induction p generalizing item with
  | nil => rfl
  | cons step p ih =>
    show (if item.isNull then some item else _) = Option.bind (if _ then _
      else _) _
    by_cases hnull : item.isNull = true
    · rw [if_pos hnull, if_pos hnull]
      cases q with
      | nil => rfl
      | cons step' q =>
        show some item = if item.isNull then some item else _
        rw [if_pos hnull]
    · rw [if_neg hnull, if_neg hnull, Option.bind_assoc]
      congr 1
      funext v
      exact ih v

theorem plocationReadData_field {item : JsonT} {name : String}
    (hnull : item.isNull = false) :
    plocationReadData item [.field name] = item.objectGet name := by
  show (if item.isNull then some item else _) = _
  rw [if_neg (by rw [hnull]; exact Bool.false_ne_true)]
  show (item.objectGet name).bind some = _
  exact Option.bind_fun_some _

/-- A location whose elements are named by their numbers. -/
def Named (location : Plocation) : Prop := location ≠ [] ∧ .last ∉ location

theorem read_write {location : Plocation} (hnamed : Named location)
    {item item' data : JsonT}
    (h : plocationWriteData item location data = some item') :
    plocationReadData item' location = some data := by
  induction location generalizing item item' with
  | nil => exact absurd rfl hnamed.1
  | cons step sub ih =>
    have hstep : step ≠ .last := fun h => hnamed.2 (h ▸ List.mem_cons_self)
    -- after a step the item is no null, and the step leads to what was set
    have hread : ∀ {v'}, step.put v' item = some item' →
        plocationReadData item' (step :: sub)
          = plocationReadData v' sub := by
      intro v' hput
      show (if item'.isNull then some item' else _) = _
      cases step with
      | field name =>
        rw [if_neg (by
          rw [(JsonT.not_null_of_objectSet hput).2]
          exact Bool.false_ne_true)]
        show (item'.objectGet name).bind _ = _
        rw [JsonT.objectGet_of_set hput]
        rfl
      | elem number =>
        rw [if_neg (by
          rw [(JsonT.not_null_of_arraySet hput).2]
          exact Bool.false_ne_true)]
        show (item'.arrayGet number).bind _ = _
        rw [JsonT.arrayGet_of_set hput]
        rfl
      | last => exact absurd rfl hstep
    cases sub with
    | nil => exact hread h
    | cons step' sub' =>
      have hsub : Named (step' :: sub') :=
        ⟨List.cons_ne_nil _ _,
          fun h => hnamed.2 (List.mem_cons_of_mem _ h)⟩
      have hupdate : step.update
          (fun v => plocationWriteData v (step' :: sub') data) item
          = some item' := h
      obtain ⟨v, v', hv', hput⟩ : ∃ v v',
          plocationWriteData v (step' :: sub') data = some v'
            ∧ step.put v' item = some item' := by
        cases step with
        | field name =>
          obtain ⟨v, -, hv⟩ := Option.bind_eq_some_iff.mp hupdate
          obtain ⟨v', hv', hput⟩ := Option.bind_eq_some_iff.mp hv
          exact ⟨v, v', hv', hput⟩
        | elem number =>
          obtain ⟨v, -, hv⟩ := Option.bind_eq_some_iff.mp hupdate
          split at hv
          · obtain ⟨v', hv', hput⟩ := Option.bind_eq_some_iff.mp hv
            exact ⟨v, v', hv', hput⟩
          · cases hv
        | last => exact absurd rfl hstep
      rw [hread hput]
      exact ih hsub hv'

-- ==== field types

/-- The types of a field. A string has a buffer of `room + 1` bytes. -/
inductive DataType
  | int (w : Width)
  | bool8
  | string (room : Nat)
  | estring (room : Nat)
  | unitOrder
  | worklist
  | requirement
  | actionProbability

namespace DataType

def Value : DataType → Type
  | int _ => Int
  | bool8 => Bool
  | string _ => CStr
  | estring _ => CStr
  | unitOrder => UnitOrder
  | worklist => Worklist
  | requirement => Requirement
  | actionProbability => ActProb

def getRaw (r : Ruleset) : (t : DataType) → RawGet t.Value
  | int w => getIntRaw w
  | bool8 => getBool8Raw
  | string room => getStringRaw room
  | estring room => getEstringRaw room
  | unitOrder => getUnitOrderRaw
  | worklist => getWorklistRaw r
  | requirement => getRequirementRaw r
  | actionProbability => getActionProbabilityRaw

def getJson (r : Ruleset) (unescape : CStr → CStr) (packet : JsonT)
    (location : Plocation) : (t : DataType) → Got t.Value
  | int w => .ofOption (getIntJson w packet location)
  | bool8 => .ofOption (getBool8Json packet location)
  | string room => getStringJson room packet location
  | estring room => getEstringJson unescape room packet location
  | unitOrder => .ofOption (getUnitOrderJson packet location)
  | worklist => .ofOption (getWorklistJson r packet location)
  | requirement => .ofOption (getRequirementJson r packet location)
  | actionProbability => .ofOption (getActionProbabilityJson packet location)

end DataType

-- ==== the property

def part (packet : JsonT) (location : Plocation) (name : String) :
    Option JsonT :=
  plocationReadData packet (location ++ [.field name])

def cInt (v : JsonT) : Int := int32 v.integerValue

def universalOf (r : Ruleset) (item : JsonT) : Universal :=
  universalByNumber r ((part item [] "kind").elim 0 cInt)
    ((part item [] "value").elim 0 cInt)

/-- What else is promised of a stored value: booleans are from booleans,
strings from strings that fit, worklists have every element that fits. -/
def Meant (r : Ruleset) (packet : JsonT) (location : Plocation) :
    (t : DataType) → t.Value → Prop
  | .int _, _ => True
  | .bool8, b => plocationReadData packet location = some (.bool b)
  | .string _, s => ∃ u, plocationReadData packet location = some (.string u)
      ∧ s = CStr.untilNul u
  | .estring room, _ => ∃ u,
      plocationReadData packet location = some (.string u)
        ∧ (CStr.untilNul u).length ≤ room
  | .unitOrder, _ => True
  | .worklist, wl => ∃ items,
      plocationReadData packet location = some (.array items)
        ∧ wl.entries = (items.take maxLenWorklist).map (universalOf r)
  | .requirement, req =>
    part packet location "survives" = some (.bool req.survives)
      ∧ part packet location "present" = some (.bool req.present)
      ∧ part packet location "quiet" = some (.bool req.quiet)
  | .actionProbability, _ => True

/-- A reader fails, or stores what the binary reader could store. -/
def Safe (r : Ruleset) (unescape : CStr → CStr) (packet : JsonT)
    (location : Plocation) (t : DataType) : Prop :=
  match t.getJson r unescape packet location with
  | .crash => False
  | .failed => True
  | .stored a => CouldRead (t.getRaw r) a ∧ Meant r packet location t a

/-- A structure is written in JSON and in bytes, and both readers give the
same value back. -/
def SameBack {α : Type} (written : Option JsonT)
    (get : JsonT → Option α) (bytes : List UInt8) (getRaw : RawGet α) :
    Prop :=
  ∀ packet', written = some packet' →
    ∃ a, Reads getRaw a bytes ∧ get packet' = some a

/-- A worklist whose universals are two bytes each. -/
def Worklist.Fits (pwl : Worklist) : Prop :=
  ∀ u ∈ pwl.entries,
    Width.uint8.Fits u.kind ∧ Width.uint8.Fits (universalNumber u)

/-- Every structure in range comes back alike. -/
structure RoundTrips (r : Ruleset) (packet : JsonT) (location : Plocation) :
    Prop where
  unitOrder : ∀ o : UnitOrder, o.Fits →
    SameBack (putUnitOrderJson packet location o)
      (fun packet' => getUnitOrderJson packet' location)
      (putUnitOrderRaw o) getUnitOrderRaw
  worklist : ∀ pwl : Worklist, pwl.Fits →
    (∃ name, location = [.field name]) →
    SameBack (putWorklistJson packet location pwl)
      (fun packet' => getWorklistJson r packet' location)
      (putWorklistRaw pwl) (getWorklistRaw r)
  requirement : ∀ req : Requirement, req.Fits →
    SameBack (putRequirementJson packet location req)
      (fun packet' => getRequirementJson r packet' location)
      (putRequirementRaw req) (getRequirementRaw r)
  actionProbability : ∀ prob : ActProb, prob.Fits →
    SameBack (putActionProbabilityJson packet location prob)
      (fun packet' => getActionProbabilityJson packet' location)
      (putActionProbabilityRaw prob) getActionProbabilityRaw

-- ==== the condition

/-- The value is a boolean. -/
def IsBool (v : JsonT) : Prop := ∃ b, v = .bool b

def orderParts : List (String × Width) :=
  [("order", .uint8), ("activity", .uint8), ("target", .sint32),
    ("sub_target", .sint16), ("action", .uint8), ("dir", .sint8)]

def requirementParts : List String :=
  ["kind", "value", "range", "survives", "present", "quiet"]

def HasParts (packet : JsonT) (location : Plocation)
    (names : List String) : Prop :=
  ∀ name ∈ names, (part packet location name).isSome = true

/-- The numbers of the packet fit, its booleans are booleans, its strings
strings, where the reader stores them. -/
def InRange (r : Ruleset) (packet : JsonT) (location : Plocation) :
    DataType → Prop
  | .int w => ∀ v, plocationReadData packet location = some v →
      w.Fits (cInt v)
  | .bool8 => ∀ v, plocationReadData packet location = some v → IsBool v
  | .string _ => ∀ v, plocationReadData packet location = some v →
      ∃ s, v = .string s
  | .estring _ => ∀ v, plocationReadData packet location = some v →
      ∃ s, v = .string s
  | .unitOrder => HasParts packet location (orderParts.map Prod.fst) →
      ∀ p ∈ orderParts, ∀ v, part packet location p.1 = some v →
        p.2.Fits (cInt v)
  | .worklist => ∀ items,
      plocationReadData packet location = some (.array items) →
      (∀ item ∈ items, HasParts item [] ["kind", "value"]) →
      ∀ item ∈ items.take maxLenWorklist, ∀ k v,
        part item [] "kind" = some k → part item [] "value" = some v →
        UniversalFits r (cInt k) (cInt v)
  | .requirement => HasParts packet location requirementParts →
      (∀ v, part packet location "range" = some v →
        Width.uint8.Fits (cInt v))
      ∧ ∀ name ∈ ["survives", "present", "quiet"], ∀ v,
        part packet location name = some v → IsBool v
  | .actionProbability => HasParts packet location ["min", "max"] →
      ∀ name ∈ ["min", "max"], ∀ v, part packet location name = some v →
        Width.uint8.Fits (cInt v)

-- ==== integers and booleans

theorem getInteger_eq_some {location : Plocation} {n : Int}
    (h : getIntegerJson packet location = some n) :
    ∃ v, plocationReadData packet location = some v ∧ n = cInt v := by
  obtain ⟨v, hv, hn⟩ := Option.map_eq_some_iff.mp h
  exact ⟨v, hv, hn.symm⟩

theorem getInteger_of_read {location : Plocation} {v : JsonT}
    (h : plocationReadData packet location = some v) :
    getIntegerJson packet location = some (cInt v) := by
  unfold getIntegerJson
  rw [h]
  rfl

theorem getIntJson_eq (w : Width) :
    getIntJson w packet location = getIntegerJson packet location := by
  cases w with
  | _ => rfl

theorem getBool_eq_some {location : Plocation} {b : Bool}
    (h : getBool8Json packet location = some b) :
    ∃ v, plocationReadData packet location = some v ∧ b = v.isTrue := by
  obtain ⟨v, hv, hb⟩ := Option.map_eq_some_iff.mp h
  exact ⟨v, hv, hb.symm⟩

theorem getBool_of_read {location : Plocation} {v : JsonT}
    (h : plocationReadData packet location = some v) :
    getBool8Json packet location = some v.isTrue := by
  unfold getBool8Json
  rw [h]
  rfl

theorem isBool_iff {v : JsonT} : IsBool v ↔ v = .bool v.isTrue := by
  constructor
  · rintro ⟨b, rfl⟩
    rfl
  · intro h
    exact ⟨_, h⟩

theorem getInteger_bind_eq_some {location : Plocation} {α : Type}
    {k : Int → Option α} {a : α} :
    (getIntegerJson packet location).bind k = some a ↔
      ∃ v, plocationReadData packet location = some v
        ∧ k (cInt v) = some a := by
  simp [getIntegerJson, Option.bind_eq_some_iff, cInt]

theorem getBool_bind_eq_some {location : Plocation} {α : Type}
    {k : Bool → Option α} {a : α} :
    (getBool8Json packet location).bind k = some a ↔
      ∃ v, plocationReadData packet location = some v
        ∧ k v.isTrue = some a := by
  simp [getBool8Json, Option.bind_eq_some_iff]

theorem safe_ofOption {t : DataType} {o : Option t.Value}
    (h : t.getJson r unescape packet location = .ofOption o) :
    Safe r unescape packet location t ↔ ∀ a, o = some a →
      CouldRead (t.getRaw r) a ∧ Meant r packet location t a := by
  unfold Safe
  rw [h]
  cases o with
  | none => exact ⟨(fun _ _ h => by cases h), fun _ => trivial⟩
  | some a =>
    constructor
    · intro ha b hb
      cases hb
      exact ha
    · intro ha
      exact ha a rfl

theorem safe_int (w : Width) :
    Safe r unescape packet location (.int w)
      ↔ InRange r packet location (.int w) := by
  rw [safe_ofOption (t := .int w) (o := getIntegerJson packet location)
    (congrArg Got.ofOption (getIntJson_eq w))]
  constructor
  · intro h v hv
    exact couldRead_int.mp (h _ (getInteger_of_read hv)).1
  · intro h n hn
    obtain ⟨v, hv, rfl⟩ := getInteger_eq_some hn
    exact ⟨couldRead_int.mpr (h v hv), trivial⟩

theorem safe_bool8 :
    Safe r unescape packet location .bool8
      ↔ InRange r packet location .bool8 := by
  rw [safe_ofOption rfl]
  constructor
  · intro h v hv
    have hmeant := (h _ (getBool_of_read hv)).2
    rw [isBool_iff]
    exact Option.some.inj (hv.symm.trans hmeant)
  · intro h b hb
    obtain ⟨v, hv, rfl⟩ := getBool_eq_some hb
    refine ⟨(reads_bool8 _).could, ?_⟩
    exact hv.trans (congrArg some (isBool_iff.mp (h v hv)))

-- ==== strings

theorem getStringJson_of_read {room : Nat} {v : JsonT}
    (h : plocationReadData packet location = some v) :
    getStringJson room packet location =
      match v.stringValue with
      | none => .crash
      | some s => if room < s.length then .failed else .stored s := by
  unfold getStringJson
  rw [h] <;> rfl

theorem zero_not_mem_untilNul (s : CStr) : 0 ∉ CStr.untilNul s := by
  intro h
  have hne := List.all_eq_true.mp List.all_takeWhile 0 h
  exact absurd hne (by decide)

theorem getStringJson_cases (room : Nat) (packet : JsonT)
    (location : Plocation) :
    (getStringJson room packet location = .crash
        ∧ ∃ v, plocationReadData packet location = some v
          ∧ ∀ s, v ≠ .string s)
      ∨ getStringJson room packet location = .failed
        ∧ (∀ v, plocationReadData packet location = some v →
          ∃ s, v = .string s)
      ∨ ∃ u, plocationReadData packet location = some (.string u)
        ∧ (CStr.untilNul u).length ≤ room
        ∧ getStringJson room packet location
          = .stored (CStr.untilNul u) := by
  cases hv : plocationReadData packet location with
  | none =>
    refine Or.inr (Or.inl ⟨?_, fun v h => nomatch h⟩)
    unfold getStringJson
    rw [hv]
  | some v =>
    rw [getStringJson_of_read hv]
    cases v with
    | string u =>
      by_cases hroom : room < (CStr.untilNul u).length
      · refine Or.inr (Or.inl ⟨if_pos hroom, ?_⟩)
        intro v h
        exact ⟨u, (Option.some.inj h).symm⟩
      · exact Or.inr (Or.inr ⟨u, rfl, by omega, if_neg hroom⟩)
    | object entries | array items | integer n | real | bool b | null =>
      exact Or.inl ⟨rfl, _, rfl, fun _ h => nomatch h⟩

theorem safe_string (room : Nat) :
    Safe r unescape packet location (.string room)
      ↔ InRange r packet location (.string room) := by
  unfold Safe InRange
  dsimp only [DataType.getJson]
  rcases getStringJson_cases room packet location with
    ⟨hcrash, v, hv, hno⟩ | ⟨hfailed, hstring⟩ | ⟨u, hv, hroom, hstored⟩
  · rw [hcrash]
    refine ⟨False.elim, fun h => ?_⟩
    obtain ⟨s, hs⟩ := h v hv
    exact hno s hs
  · rw [hfailed]
    exact ⟨fun _ => hstring, fun _ => trivial⟩
  · rw [hstored]
    constructor
    · intro _ v hv'
      exact ⟨u, Option.some.inj (hv'.symm.trans hv)⟩
    · intro _
      exact ⟨couldRead_string.mpr ⟨zero_not_mem_untilNul u, hroom⟩, u, hv,
        rfl⟩

theorem safe_estring (room : Nat) :
    Safe r unescape packet location (.estring room)
      ↔ InRange r packet location (.estring room) := by
  unfold Safe InRange
  dsimp only [DataType.getJson, getEstringJson]
  rcases getStringJson_cases room packet location with
    ⟨hcrash, v, hv, hno⟩ | ⟨hfailed, hstring⟩ | ⟨u, hv, hroom, hstored⟩
  · rw [hcrash]
    refine ⟨False.elim, fun h => ?_⟩
    obtain ⟨s, hs⟩ := h v hv
    exact hno s hs
  · rw [hfailed]
    exact ⟨fun _ => hstring, fun _ => trivial⟩
  · rw [hstored]
    constructor
    · intro _ v hv'
      exact ⟨u, Option.some.inj (hv'.symm.trans hv)⟩
    · intro _
      -- the decoded string is cut to the buffer
      refine ⟨couldRead_string.mpr ⟨fun h => ?_, ?_⟩, u, hv, hroom⟩
      · exact zero_not_mem_untilNul _ (List.mem_of_mem_take h)
      · rw [List.length_take]
        omega

-- ==== structures

theorem hasParts_cons {location : Plocation} {name : String}
    {names : List String} :
    HasParts packet location (name :: names)
      ↔ (∃ v, part packet location name = some v)
        ∧ HasParts packet location names := by
  unfold HasParts
  rw [List.forall_mem_cons, Option.isSome_iff_exists]

theorem getUnitOrder_eq_some {location : Plocation} {o : UnitOrder} :
    getUnitOrderJson packet location = some o ↔
      ∃ v₁ v₂ v₃ v₄ v₅ v₆, part packet location "order" = some v₁
        ∧ part packet location "activity" = some v₂
        ∧ part packet location "target" = some v₃
        ∧ part packet location "sub_target" = some v₄
        ∧ part packet location "action" = some v₅
        ∧ part packet location "dir" = some v₆
        ∧ o = ⟨cInt v₁, cInt v₂, cInt v₃, cInt v₄, cInt v₅, cInt v₆⟩ := by
  simp only [getUnitOrderJson, getUint8Json, getSint16Json, getSint32Json,
    Option.bind_eq_bind, getInteger_bind_eq_some, Option.pure_def,
    Option.some.injEq, part, exists_and_left, eq_comm (a := o)]

theorem fits_cInt_sint32 (v : JsonT) : Width.sint32.Fits (cInt v) :=
  fits_int32 _

theorem safe_unitOrder :
    Safe r unescape packet location .unitOrder
      ↔ InRange r packet location .unitOrder := by
  rw [safe_ofOption rfl]
  show (∀ o, getUnitOrderJson packet location = some o →
    CouldRead getUnitOrderRaw o ∧ True) ↔ (_ → ∀ p ∈ orderParts, _)
  constructor
  · intro h hparts
    simp only [orderParts, List.map_cons, List.map_nil, hasParts_cons]
      at hparts
    obtain ⟨⟨v₁, h₁⟩, ⟨v₂, h₂⟩, ⟨v₃, h₃⟩, ⟨v₄, h₄⟩, ⟨v₅, h₅⟩, ⟨v₆, h₆⟩, -⟩ :=
      hparts
    have hfits := couldRead_unitOrder.mp (h _ (getUnitOrder_eq_some.mpr
      ⟨v₁, v₂, v₃, v₄, v₅, v₆, h₁, h₂, h₃, h₄, h₅, h₆, rfl⟩)).1
    intro p hp v hv
    simp only [orderParts, List.mem_cons, List.not_mem_nil, or_false] at hp
    rcases hp with rfl | rfl | rfl | rfl | rfl | rfl
    · cases h₁.symm.trans hv
      exact hfits.order
    · cases h₂.symm.trans hv
      exact hfits.activity
    · cases h₃.symm.trans hv
      exact hfits.target
    · cases h₄.symm.trans hv
      exact hfits.subTarget
    · cases h₅.symm.trans hv
      exact hfits.action
    · cases h₆.symm.trans hv
      exact hfits.dir
  · intro h o ho
    obtain ⟨v₁, v₂, v₃, v₄, v₅, v₆, h₁, h₂, h₃, h₄, h₅, h₆, rfl⟩ :=
      getUnitOrder_eq_some.mp ho
    have hparts : HasParts packet location (orderParts.map Prod.fst) := by
      simp only [orderParts, List.map_cons, List.map_nil, hasParts_cons]
      exact ⟨⟨v₁, h₁⟩, ⟨v₂, h₂⟩, ⟨v₃, h₃⟩, ⟨v₄, h₄⟩, ⟨v₅, h₅⟩, ⟨v₆, h₆⟩,
        fun _ h => absurd h List.not_mem_nil⟩
    have hfits := h hparts
    refine ⟨couldRead_unitOrder.mpr ?_, trivial⟩
    exact {
      order := hfits ("order", .uint8) (by decide) v₁ h₁
      activity := hfits ("activity", .uint8) (by decide) v₂ h₂
      target := fits_cInt_sint32 v₃
      subTarget := hfits ("sub_target", .sint16) (by decide) v₄ h₄
      action := hfits ("action", .uint8) (by decide) v₅ h₅
      dir := hfits ("dir", .sint8) (by decide) v₆ h₆ }

theorem getActionProbability_eq_some {location : Plocation} {p : ActProb} :
    getActionProbabilityJson packet location = some p ↔
      ∃ v₁ v₂, part packet location "min" = some v₁
        ∧ part packet location "max" = some v₂
        ∧ p = ⟨cInt v₁, cInt v₂⟩ := by
  unfold part
  simp only [plocationReadData_append]
  cases hitem : plocationReadData packet location with
  | none => simp [getActionProbabilityJson, hitem]
  | some item =>
    simp only [getActionProbabilityJson, hitem, getUint8Json,
      Option.bind_some, Option.bind_eq_bind, getInteger_bind_eq_some,
      Option.pure_def, Option.some.injEq, exists_and_left, eq_comm (a := p)]

theorem safe_actionProbability :
    Safe r unescape packet location .actionProbability
      ↔ InRange r packet location .actionProbability := by
  rw [safe_ofOption rfl]
  show (∀ p, getActionProbabilityJson packet location = some p →
    CouldRead getActionProbabilityRaw p ∧ True) ↔ (_ → ∀ name ∈ _, _)
  simp only [hasParts_cons]
  constructor
  · rintro h ⟨⟨v₁, h₁⟩, ⟨v₂, h₂⟩, -⟩
    have hfits := couldRead_actProb.mp (h _
      (getActionProbability_eq_some.mpr ⟨v₁, v₂, h₁, h₂, rfl⟩)).1
    intro name hname v hv
    simp only [List.mem_cons, List.not_mem_nil, or_false] at hname
    rcases hname with rfl | rfl
    · cases h₁.symm.trans hv
      exact hfits.min
    · cases h₂.symm.trans hv
      exact hfits.max
  · intro h p hp
    obtain ⟨v₁, v₂, h₁, h₂, rfl⟩ := getActionProbability_eq_some.mp hp
    have hfits := h ⟨⟨v₁, h₁⟩, ⟨v₂, h₂⟩,
      fun _ h => absurd h List.not_mem_nil⟩
    refine ⟨couldRead_actProb.mpr ?_, trivial⟩
    exact {
      min := hfits "min" (by decide) v₁ h₁
      max := hfits "max" (by decide) v₂ h₂ }

theorem getRequirement_eq_some {location : Plocation} {req : Requirement} :
    getRequirementJson r packet location = some req ↔
      ∃ v₁ v₂ v₃ v₄ v₅ v₆, part packet location "kind" = some v₁
        ∧ part packet location "value" = some v₂
        ∧ part packet location "range" = some v₃
        ∧ part packet location "survives" = some v₄
        ∧ part packet location "present" = some v₅
        ∧ part packet location "quiet" = some v₆
        ∧ req = reqFromValues r (cInt v₁) (cInt v₃) v₄.isTrue v₅.isTrue
          v₆.isTrue (cInt v₂) := by
  unfold part
  simp only [plocationReadData_append]
  cases hitem : plocationReadData packet location with
  | none => simp [getRequirementJson, hitem]
  | some item =>
    simp only [getRequirementJson, hitem, getUint8Json, getUint32Json,
      Option.bind_some, Option.bind_eq_bind, getInteger_bind_eq_some,
      getBool_bind_eq_some, Option.pure_def, Option.some.injEq,
      exists_and_left, eq_comm (a := req)]

theorem safe_requirement :
    Safe r unescape packet location .requirement
      ↔ InRange r packet location .requirement := by
  rw [safe_ofOption rfl]
  show (∀ req, getRequirementJson r packet location = some req →
    CouldRead (getRequirementRaw r) req
      ∧ Meant r packet location .requirement req) ↔ (_ → _ ∧ ∀ name ∈ _, _)
  simp only [requirementParts, hasParts_cons]
  constructor
  · rintro h ⟨⟨v₁, h₁⟩, ⟨v₂, h₂⟩, ⟨v₃, h₃⟩, ⟨v₄, h₄⟩, ⟨v₅, h₅⟩, ⟨v₆, h₆⟩, -⟩
    obtain ⟨hcould, hs, hp, hq⟩ := h _ (getRequirement_eq_some.mpr
      ⟨v₁, v₂, v₃, v₄, v₅, v₆, h₁, h₂, h₃, h₄, h₅, h₆, rfl⟩)
    refine ⟨fun v hv => ?_, fun name hname v hv => ?_⟩
    · cases h₃.symm.trans hv
      exact (couldRead_requirement (fits_cInt_sint32 v₂)).mp hcould
    · rw [isBool_iff]
      simp only [List.mem_cons, List.not_mem_nil, or_false] at hname
      rcases hname with rfl | rfl | rfl
      · cases h₄.symm.trans hv
        exact Option.some.inj (hv.symm.trans hs)
      · cases h₅.symm.trans hv
        exact Option.some.inj (hv.symm.trans hp)
      · cases h₆.symm.trans hv
        exact Option.some.inj (hv.symm.trans hq)
  · intro h req hreq
    obtain ⟨v₁, v₂, v₃, v₄, v₅, v₆, h₁, h₂, h₃, h₄, h₅, h₆, rfl⟩ :=
      getRequirement_eq_some.mp hreq
    obtain ⟨hrange, hbool⟩ := h ⟨⟨v₁, h₁⟩, ⟨v₂, h₂⟩, ⟨v₃, h₃⟩, ⟨v₄, h₄⟩,
      ⟨v₅, h₅⟩, ⟨v₆, h₆⟩, fun _ h => absurd h List.not_mem_nil⟩
    refine ⟨(couldRead_requirement (fits_cInt_sint32 v₂)).mpr
      (hrange v₃ h₃), ?_, ?_, ?_⟩
    · exact h₄.trans (congrArg some
        (isBool_iff.mp (hbool "survives" (by decide) v₄ h₄)))
    · exact h₅.trans (congrArg some
        (isBool_iff.mp (hbool "present" (by decide) v₅ h₅)))
    · exact h₆.trans (congrArg some
        (isBool_iff.mp (hbool "quiet" (by decide) v₆ h₆)))

-- ==== the worklist

theorem foldlM_append (f : Nat → Option Universal) (is : List Nat)
    (pwl : Worklist) :
    is.foldlM (fun pwl i => (f i).map pwl.append) pwl
      = (is.mapM f).map fun us => us.foldl Worklist.append pwl := by
  induction is generalizing pwl with
  | nil => rfl
  | cons i is ih =>
    rw [List.foldlM_cons, List.mapM_cons]
    cases hf : f i with
    | none => rfl
    | some u =>
      show is.foldlM _ (pwl.append u) = _
      rw [ih]
      show _ = Option.map _ ((is.mapM f).bind fun us => some (u :: us))
      cases is.mapM f with
      | none => rfl
      | some us => rfl

theorem mapM_range_eq {α β : Type} {f : Nat → Option β} {g : α → Option β}
    (items : List α) (h : ∀ i (hi : i < items.length), f i = g items[i]) :
    (List.range items.length).mapM f = items.mapM g := by
  have hmap : (List.range items.length).map f = items.map g := by
    apply List.ext_getElem
    · simp
    · intro i h₁ h₂
      simp only [List.getElem_map, List.getElem_range]
      exact h i (by simpa using h₁)
  have hid : ∀ {γ : Type} (k : γ → Option β) (l : List γ),
      l.mapM k = (l.map k).mapM id := by
    intro γ k l
    induction l with
    | nil => rfl
    | cons c l ih =>
      rw [List.map_cons, List.mapM_cons, List.mapM_cons, ih]
      rfl
  rw [hid f, hid g, hmap]

def pairOf (item : JsonT) : Int × Int :=
  ((part item [] "kind").elim 0 cInt, (part item [] "value").elim 0 cInt)

theorem mapM_universal (r : Ruleset) (items : List JsonT)
    {wl : List Universal} :
    items.mapM (fun item => (getUint8Json item [.field "kind"]).bind fun k =>
        (getUint8Json item [.field "value"]).bind fun v =>
          some (universalByNumber r k v)) = some wl
      ↔ (∀ item ∈ items, HasParts item [] ["kind", "value"])
        ∧ wl = items.map (universalOf r) := by
  induction items generalizing wl with
  | nil =>
    show some [] = some wl ↔ _
    rw [Option.some_inj]
    constructor
    · rintro rfl
      exact ⟨fun _ h => absurd h List.not_mem_nil, rfl⟩
    · rintro ⟨-, rfl⟩
      rfl
  | cons item items ih =>
    rw [List.mapM_cons, List.forall_mem_cons, List.map_cons]
    constructor
    · intro h
      obtain ⟨u, hu, h⟩ := Option.bind_eq_some_iff.mp h
      obtain ⟨us, hus, h⟩ := Option.bind_eq_some_iff.mp h
      cases h
      obtain ⟨_, h₁, hu⟩ := Option.bind_eq_some_iff.mp hu
      obtain ⟨_, h₂, hu⟩ := Option.bind_eq_some_iff.mp hu
      obtain ⟨k, hk, rfl⟩ := getInteger_eq_some h₁
      obtain ⟨v, hv, rfl⟩ := getInteger_eq_some h₂
      obtain ⟨hall, rfl⟩ := ih.mp hus
      refine ⟨⟨?_, hall⟩, ?_⟩
      · rw [hasParts_cons, hasParts_cons]
        exact ⟨⟨k, hk⟩, ⟨v, hv⟩, fun _ h => absurd h List.not_mem_nil⟩
      · have hk' : part item [] "kind" = some k := hk
        have hv' : part item [] "value" = some v := hv
        have heq : universalOf r item
            = universalByNumber r (cInt k) (cInt v) := by
          unfold universalOf
          rw [hk', hv']
          rfl
        rw [heq, Option.some.inj hu]
    · rintro ⟨⟨hparts, hall⟩, rfl⟩
      rw [hasParts_cons, hasParts_cons] at hparts
      obtain ⟨⟨k, hk⟩, ⟨v, hv⟩, -⟩ := hparts
      have heq : universalOf r item
          = universalByNumber r (cInt k) (cInt v) := by
        unfold universalOf
        rw [hk, hv]
        rfl
      exact Option.bind_eq_some_iff.mpr ⟨universalOf r item,
        Option.bind_eq_some_iff.mpr ⟨_, getInteger_of_read hk,
          Option.bind_eq_some_iff.mpr ⟨_, getInteger_of_read hv,
            congrArg some heq.symm⟩⟩,
        Option.bind_eq_some_iff.mpr ⟨_, ih.mpr ⟨hall, rfl⟩, rfl⟩⟩

theorem getWorklist_eq_some {name : String} {items : List JsonT}
    (h : plocationReadData packet [.field name] = some (.array items))
    {wl : Worklist} :
    getWorklistJson r packet [.field name] = some wl
      ↔ (∀ item ∈ items, HasParts item [] ["kind", "value"])
        ∧ wl = worklistOf r (items.map pairOf) := by
  have helem : ∀ i (hi : i < items.length) p,
      plocationReadData packet (worklistPart [.field name] i p)
        = plocationReadData items[i] [.field p] := by
    intro i hi p
    show plocationReadData packet ([.field name] ++ [.elem i, .field p]) = _
    rw [plocationReadData_append, h]
    show (if (JsonT.array items).isNull then some (JsonT.array items)
      else (items[i]?).bind _) = _
    have harray : (JsonT.array items).isNull = false := rfl
    rw [if_neg (by rw [harray]; exact Bool.false_ne_true),
      List.getElem?_eq_getElem hi]
    rfl
  unfold getWorklistJson
  rw [h]
  dsimp only
  rw [foldlM_append, mapM_range_eq items (g := fun item =>
    (getUint8Json item [.field "kind"]).bind fun k =>
      (getUint8Json item [.field "value"]).bind fun v =>
        some (universalByNumber r k v))]
  · rw [Option.map_eq_some_iff]
    constructor
    · rintro ⟨us, hus, rfl⟩
      obtain ⟨hall, rfl⟩ := (mapM_universal r items).mp hus
      refine ⟨hall, ?_⟩
      unfold worklistOf
      rw [List.map_map]
      rfl
    · rintro ⟨hall, rfl⟩
      refine ⟨_, (mapM_universal r items).mpr ⟨hall, rfl⟩, ?_⟩
      unfold worklistOf
      rw [List.map_map]
      rfl
  · intro i hi
    show (getIntegerJson packet _).bind _ = (getIntegerJson items[i] _).bind _
    unfold getIntegerJson
    rw [helem i hi "kind"]
    congr 1
    funext k
    show (Option.map _ (plocationReadData packet _)).bind _ = _
    rw [helem i hi "value"]
    rfl

theorem getWorklist_of_not_array
    (h : ∀ items, plocationReadData packet location ≠ some (.array items)) :
    getWorklistJson r packet location = none := by
  unfold getWorklistJson
  split
  · next items hitems => exact absurd hitems (h items)
  · rfl

theorem entries_worklistOf_items (r : Ruleset) (items : List JsonT) :
    (worklistOf r (items.map pairOf)).entries
      = (items.take maxLenWorklist).map (universalOf r) := by
  rw [entries_worklistOf, ← List.map_take, List.map_map]
  rfl

theorem safe_worklist (hfield : ∃ name, location = [.field name]) :
    Safe r unescape packet location .worklist
      ↔ InRange r packet location .worklist := by
  obtain ⟨name, rfl⟩ := hfield
  rw [safe_ofOption rfl]
  show (∀ wl, getWorklistJson r packet [.field name] = some wl →
    CouldRead (getWorklistRaw r) wl
      ∧ Meant r packet [.field name] .worklist wl) ↔ _
  constructor
  · intro h items hitems hparts item hitem k v hk hv
    have hcould := (h _ ((getWorklist_eq_some hitems).mpr ⟨hparts, rfl⟩)).1
    have hpair : pairOf item = (cInt k, cInt v) := by
      unfold pairOf
      rw [hk, hv]
      rfl
    have hmem : pairOf item ∈ (items.map pairOf).take maxLenWorklist := by
      rw [← List.map_take]
      exact List.mem_map_of_mem hitem
    have hfits := couldRead_worklist.mp hcould _ hmem
    rw [hpair] at hfits
    exact hfits
  · intro h wl hwl
    by_cases harray : ∃ items,
        plocationReadData packet [.field name] = some (.array items)
    · obtain ⟨items, hitems⟩ := harray
      obtain ⟨hparts, rfl⟩ := (getWorklist_eq_some hitems).mp hwl
      refine ⟨couldRead_worklist.mpr ?_, items, hitems,
        entries_worklistOf_items r items⟩
      intro p hp
      rw [← List.map_take] at hp
      obtain ⟨item, hitem, rfl⟩ := List.mem_map.mp hp
      have hall := hparts item (List.mem_of_mem_take hitem)
      rw [hasParts_cons, hasParts_cons] at hall
      obtain ⟨⟨k, hk⟩, ⟨v, hv⟩, -⟩ := hall
      have hpair : pairOf item = (cInt k, cInt v) := by
        unfold pairOf
        rw [hk, hv]
        rfl
      rw [hpair]
      exact h items hitems hparts item hitem k v hk hv
    · rw [getWorklist_of_not_array (fun items h => harray ⟨items, h⟩)] at hwl
      cases hwl

-- ==== written and read

theorem read_field_append {location : Plocation} {data : JsonT}
    (h : plocationReadData packet location = some data) (name : String)
    (hnull : data.isNull = false) :
    part packet location name = data.objectGet name := by
  unfold part
  rw [plocationReadData_append, h]
  exact plocationReadData_field hnull

theorem cInt_integer {w : Width} {n : Int} (h : w.Fits n) :
    cInt (.integer n) = n := int32_of_fits h.sint32

theorem unitOrder_sameBack (hnamed : Named location) {o : UnitOrder}
    (h : o.Fits) :
    SameBack (putUnitOrderJson packet location o)
      (fun packet' => getUnitOrderJson packet' location)
      (putUnitOrderRaw o) getUnitOrderRaw := by
  intro packet' hput
  have hread := read_write hnamed hput
  have hpart := fun name => read_field_append hread name rfl
  refine ⟨o, reads_unitOrder h, getUnitOrder_eq_some.mpr
    ⟨_, _, _, _, _, _, hpart _, hpart _, hpart _, hpart _, hpart _, hpart _,
      ?_⟩⟩
  show o = ⟨cInt (.integer _), cInt (.integer _), cInt (.integer _),
    cInt (.integer _), cInt (.integer _), cInt (.integer _)⟩
  rw [cInt_integer h.order, cInt_integer h.activity, cInt_integer h.target,
    cInt_integer h.subTarget, cInt_integer h.action, cInt_integer h.dir]

theorem actionProbability_sameBack (hnamed : Named location)
    {prob : ActProb} (h : prob.Fits) :
    SameBack (putActionProbabilityJson packet location prob)
      (fun packet' => getActionProbabilityJson packet' location)
      (putActionProbabilityRaw prob) getActionProbabilityRaw := by
  intro packet' hput
  have hread := read_write hnamed hput
  have hpart := fun name => read_field_append hread name rfl
  refine ⟨prob, reads_actProb h, getActionProbability_eq_some.mpr
    ⟨_, _, hpart _, hpart _, ?_⟩⟩
  show prob = ⟨cInt (.integer _), cInt (.integer _)⟩
  rw [cInt_integer h.min, cInt_integer h.max]

theorem requirement_sameBack (hnamed : Named location) {req : Requirement}
    (h : req.Fits) :
    SameBack (putRequirementJson packet location req)
      (fun packet' => getRequirementJson r packet' location)
      (putRequirementRaw req) (getRequirementRaw r) := by
  intro packet' hput
  have hread := read_write hnamed hput
  have hpart := fun name => read_field_append hread name rfl
  refine ⟨_, reads_requirement h, getRequirement_eq_some.mpr
    ⟨_, _, _, _, _, _, hpart _, hpart _, hpart _, hpart _, hpart _, hpart _,
      ?_⟩⟩
  show _ = reqFromValues r (cInt (.integer _)) (cInt (.integer _)) _ _ _
    (cInt (.integer _))
  rw [cInt_integer h.kind, cInt_integer h.value, cInt_integer h.range]
  rfl

theorem putEntries_spec {name : String} {us : List Universal}
    {packet packet' : JsonT} (done pending : List JsonT)
    (hitems : packet.objectGet name = some (.array (done ++ pending)))
    (hlength : pending.length = us.length)
    (h : putEntriesJson [.field name] us done.length packet
      = some packet') :
    packet'.objectGet name
      = some (.array (done ++ us.map universalObject)) := by
  induction us generalizing packet done pending with
  | nil =>
    cases h
    rw [List.length_eq_zero_iff.mp hlength] at hitems
    exact hitems
  | cons u us ih =>
    cases pending with
    | nil => cases hlength
    | cons first pending =>
      obtain ⟨packet₁, h₁, h⟩ := Option.bind_eq_some_iff.mp h
      have hwrite : (PStep.field name).update (fun v =>
          plocationWriteData v [.elem done.length] (universalObject u))
          packet = some packet₁ := h₁
      obtain ⟨v, hv, hwrite⟩ := Option.bind_eq_some_iff.mp hwrite
      cases hitems.symm.trans hv
      obtain ⟨v', hv', hset⟩ := Option.bind_eq_some_iff.mp hwrite
      have hv'' : (JsonT.array (done ++ first :: pending)).arraySet
          done.length (universalObject u) = some v' := hv'
      have hi : done.length < (done ++ first :: pending).length := by
        simp
      unfold JsonT.arraySet at hv''
      dsimp only at hv''
      rw [if_pos hi] at hv''
      have hnext : packet₁.objectGet name = some (.array
          ((done ++ [universalObject u]) ++ pending)) := by
        rw [JsonT.objectGet_of_set hset, ← Option.some.inj hv'']
        simp
      have h' : putEntriesJson [.field name] us
          (done ++ [universalObject u]).length packet₁
          = some packet' := by
        rw [List.length_append]
        exact h
      rw [ih _ _ hnext (Nat.succ.inj hlength) h', List.append_assoc,
        List.map_cons]
      rfl

theorem pairOf_object {u : Universal}
    (hk : Width.uint8.Fits u.kind)
    (hv : Width.uint8.Fits (universalNumber u)) :
    pairOf (universalObject u) = (u.kind, universalNumber u) := by
  show (cInt (.integer _), cInt (.integer _)) = _
  rw [cInt_integer hk, cInt_integer hv]

theorem worklist_sameBack {pwl : Worklist} (h : pwl.Fits)
    (hfield : ∃ name, location = [.field name]) :
    SameBack (putWorklistJson packet location pwl)
      (fun packet' => getWorklistJson r packet' location)
      (putWorklistRaw pwl) (getWorklistRaw r) := by
  obtain ⟨name, rfl⟩ := hfield
  intro packet' hput
  obtain ⟨packet₁, hfarray, hentries⟩ := Option.bind_eq_some_iff.mp hput
  have hset : packet.objectSet name
      (.array (List.replicate pwl.entries.length .null)) = some packet₁ :=
    hfarray
  have hget := putEntries_spec [] (List.replicate pwl.entries.length .null)
    (JsonT.objectGet_of_set hset) (by simp) hentries
  have hnull : packet'.isNull = false := by
    cases packet' with
    | null => cases hget
    | _ => rfl
  have hread : plocationReadData packet' [.field name]
      = some (.array (pwl.entries.map universalObject)) := by
    rw [plocationReadData_field hnull]
    exact hget
  have hpairs : (pwl.entries.map universalObject).map pairOf
      = pwl.entries.map fun u => (u.kind, universalNumber u) := by
    rw [List.map_map]
    apply List.map_congr_left
    intro u hu
    exact pairOf_object (h u hu).1 (h u hu).2
  refine ⟨worklistOf r (pwl.entries.map fun u => (u.kind, universalNumber u)),
    ?_, ?_⟩
  · have hbytes : putWorklistRaw pwl
        = putUint8Raw (pwl.entries.map
            fun u => (u.kind, universalNumber u)).length
          ++ (pwl.entries.map fun u => (u.kind, universalNumber u)).flatMap
            fun p => putUint8Raw p.1 ++ putUint8Raw p.2 := by
      unfold putWorklistRaw
      rw [List.length_map, List.flatMap_map]
      rfl
    rw [hbytes]
    apply reads_worklist
    · have hle := pwl.length_le
      have h64 : maxLenWorklist ≤ 255 := by decide
      rw [List.length_map]
      omega
    · intro p hp
      obtain ⟨u, hu, rfl⟩ := List.mem_map.mp hp
      exact h u hu
  · rw [← hpairs]
    refine (getWorklist_eq_some hread).mpr ⟨?_, rfl⟩
    intro item hitem
    obtain ⟨u, hu, rfl⟩ := List.mem_map.mp hitem
    rw [hasParts_cons, hasParts_cons]
    exact ⟨⟨_, rfl⟩, ⟨_, rfl⟩, fun _ h => absurd h List.not_mem_nil⟩

theorem roundTrips (hnamed : Named location) :
    RoundTrips r packet location where
  unitOrder _ h := unitOrder_sameBack hnamed h
  worklist _ h hfield := worklist_sameBack h hfield
  requirement _ h := requirement_sameBack hnamed h
  actionProbability _ h := actionProbability_sameBack hnamed h

-- ==== the readers

theorem safe_iff (t : DataType)
    (hfield : t = .worklist → ∃ name, location = [.field name]) :
    Safe r unescape packet location t ↔ InRange r packet location t := by
  cases t with
  | int w => exact safe_int w
  | bool8 => exact safe_bool8
  | string room => exact safe_string room
  | estring room => exact safe_estring room
  | unitOrder => exact safe_unitOrder
  | worklist => exact safe_worklist (hfield rfl)
  | requirement => exact safe_requirement
  | actionProbability => exact safe_actionProbability

/-- Each reader is safe exactly on packets in range; every structure in
range comes back from JSON as it does from bytes. A worklist is a field of
its packet. -/
theorem json_readers_safe_iff (r : Ruleset) (unescape : CStr → CStr)
    (packet : JsonT) (location : Plocation) (hnamed : Named location)
    (t : DataType)
    (hfield : t = .worklist → ∃ name, location = [.field name]) :
    (Safe r unescape packet location t ↔ InRange r packet location t)
      ∧ RoundTrips r packet location :=
  ⟨safe_iff t hfield, roundTrips hnamed⟩

def emptyRuleset : Ruleset :=
  ⟨0, 0, 0, 0, 0, 0, 0, 0, 0, 0, 0, 0, 0, by decide, by decide, by decide⟩

def oneField (v : JsonT) : JsonT := .object [("x", v)]

/-- A byte that is one is read safely. -/
theorem seven_is_safe :
    Safe emptyRuleset id (oneField (.integer 7)) [.field "x"]
      (.int .uint8) := by
  refine (json_readers_safe_iff emptyRuleset id (oneField (.integer 7))
    [.field "x"] ⟨List.cons_ne_nil _ _, by decide⟩ (.int .uint8)
    (fun h => by cases h)).1.mpr ?_
  intro v hv
  have hv' : some (JsonT.integer 7) = some v := hv
  cases hv'
  decide

/-- A byte 300 is stored, the number 1 is a boolean, and for a string it is
a crash. -/
theorem readers_not_safe :
    ¬ Safe emptyRuleset id (oneField (.integer 300)) [.field "x"]
        (.int .uint8)
      ∧ ¬ Safe emptyRuleset id (oneField (.integer 1)) [.field "x"] .bool8
      ∧ ¬ Safe emptyRuleset id (oneField (.integer 1)) [.field "x"]
        (.string 31) := by
  refine ⟨fun h => ?_, fun h => ?_, fun h => h⟩
  · have hcould : CouldRead (getIntRaw .uint8) 300 := h.1
    exact absurd (couldRead_int.mp hcould) (by decide)
  · have hmeant : some (JsonT.integer 1) = some (.bool false) := h.2
    cases hmeant

end Freeciv3d.Server
