/-
When validation is exact: the text has a UTF-8 and `json.loads` reads it or
raises its own error, and the message is none that only a looser reading of
its schema lets through.

# Two readings

A schema is read as it is declared, and as the code reads it: there `True`
is an int, a pattern lets a newline stand at the end, and nothing looks for
`required_keys`. `Satisfies` is the one, `Loose` the other, and `Faultless`
what is between them.

# The moved numbers

A `unit_actions_query` with `unit_ids` of its own is returned with them
moved into `data`, one level down. The limits are checked before that.
-/
import Mathlib.Logic.Basic
import Freeciv3d.Proxy.MessageValidator

namespace Freeciv3d.Proxy

open Lib

namespace MessageValidator

-- ==== the limits

/-- A part of a value, and how deep it is when the value is at `start`. -/
inductive PartAt (start : Nat) (root : JsonValue) : Nat → JsonValue → Prop
  | root : PartAt start root start root
  | item {depth : Nat} {items : List JsonValue} {v : JsonValue}
      (h : PartAt start root depth (.list items)) (hv : v ∈ items) :
      PartAt start root (depth + 1) v
  | field {depth : Nat} {entries : List (PyText × JsonValue)} {k : PyText}
      {v : JsonValue} (h : PartAt start root depth (.dict entries))
      (hv : (k, v) ∈ entries) : PartAt start root (depth + 1) v

/-- The limits of one part. -/
def Small : JsonValue → Prop
  | .dict entries => entries.length ≤ maxObjectKeys
      ∧ ∀ e ∈ entries, e.1.length ≤ maxStringLength
  | .list items => items.length ≤ maxArrayLength
  | .str s => s.length ≤ maxStringLength
  | _ => True

/-- No part is too deep or too big. -/
def Limits (start : Nat) (root : JsonValue) : Prop :=
  ∀ depth v, PartAt start root depth v → depth ≤ maxJsonDepth ∧ Small v

def children : JsonValue → List JsonValue
  | .dict entries => entries.map Prod.snd
  | .list items => items
  | _ => []

theorem entriesFault_eq_none {depth : Nat}
    {entries : List (PyText × JsonValue)} :
    entriesFault depth entries = none
      ↔ (∀ e ∈ entries, e.1.length ≤ maxStringLength)
        ∧ ∀ v ∈ entries.map Prod.snd, structureFault (depth + 1) v = none := by
  induction entries with
  | nil => simp [entriesFault]
  | cons e rest ih =>
    obtain ⟨key, value⟩ := e
    unfold entriesFault
    by_cases hkey : maxStringLength < key.length
    · rw [if_pos hkey]
      simp only [List.mem_cons, forall_eq_or_imp, reduceCtorEq, false_iff]
      omega
    · have hle : key.length ≤ maxStringLength := by omega
      rw [if_neg hkey, Option.or_eq_none_iff, ih]
      simp only [List.map_cons, List.mem_cons, forall_eq_or_imp, hle,
        true_and]
      exact and_left_comm

theorem itemsFault_eq_none {depth : Nat} {items : List JsonValue} :
    itemsFault depth items = none
      ↔ ∀ v ∈ items, structureFault (depth + 1) v = none := by
  induction items with
  | nil => simp [itemsFault]
  | cons item rest ih =>
    unfold itemsFault
    rw [Option.or_eq_none_iff, ih]
    simp only [List.mem_cons, forall_eq_or_imp]

theorem structureFault_eq_none {depth : Nat} {v : JsonValue} :
    structureFault depth v = none
      ↔ (depth ≤ maxJsonDepth ∧ Small v)
        ∧ ∀ child ∈ children v, structureFault (depth + 1) child = none := by
  by_cases hdepth : maxJsonDepth < depth
  · have hno : ¬ depth ≤ maxJsonDepth := by omega
    cases v <;> simp [structureFault, hdepth, hno]
  · have hle : depth ≤ maxJsonDepth := by omega
    cases v with
    | dict entries =>
      by_cases hmany : maxObjectKeys < entries.length
      · have hno : ¬ entries.length ≤ maxObjectKeys := by omega
        simp [structureFault, hdepth, hmany, Small, hno]
      · have hfew : entries.length ≤ maxObjectKeys := by omega
        rw [structureFault, if_neg hdepth, if_neg hmany,
          entriesFault_eq_none]
        simp only [Small, children, hle, hfew, true_and]
    | list items =>
      by_cases hmany : maxArrayLength < items.length
      · have hno : ¬ items.length ≤ maxArrayLength := by omega
        simp [structureFault, hdepth, hmany, Small, hno]
      · have hfew : items.length ≤ maxArrayLength := by omega
        rw [structureFault, if_neg hdepth, if_neg hmany, itemsFault_eq_none]
        simp only [Small, children, hle, hfew, true_and]
    | str s =>
      rw [structureFault, if_neg hdepth]
      simp [Small, children, hle]
    | null | bool b | int n | float l =>
      simp [structureFault, hdepth, Small, children, hle]

theorem PartAt.child {start : Nat} {root v child : JsonValue} {depth : Nat}
    (h : PartAt start root depth v) (hchild : child ∈ children v) :
    PartAt start root (depth + 1) child := by
  cases v with
  | dict entries =>
    obtain ⟨e, he, rfl⟩ := List.mem_map.mp hchild
    exact h.field he
  | list items => exact h.item hchild
  | null | bool b | int n | float l | str s => cases hchild

theorem limits_iff {start : Nat} {root : JsonValue} :
    Limits start root ↔ structureFault start root = none := by
  constructor
  · intro h
    -- by how many levels are left
    have hparts : ∀ left depth v, maxJsonDepth + 1 - depth = left →
        PartAt start root depth v → structureFault depth v = none := by
      intro left
      induction left with
      | zero =>
        intro depth v hleft hpart
        have := (h depth v hpart).1
        omega
      | succ left ih =>
        intro depth v hleft hpart
        refine structureFault_eq_none.mpr ⟨h depth v hpart, ?_⟩
        intro child hchild
        exact ih (depth + 1) child (by omega) (hpart.child hchild)
    exact hparts _ start root rfl .root
  · intro h depth v hpart
    have hnone : structureFault depth v = none := by
      induction hpart with
      | root => exact h
      | item _ hv ih => exact (structureFault_eq_none.mp ih).2 _ hv
      | field _ hv ih =>
        exact (structureFault_eq_none.mp ih).2 _
          (List.mem_map.mpr ⟨_, hv, rfl⟩)
    exact (structureFault_eq_none.mp hnone).1

theorem limits_dict {start : Nat} {entries : List (PyText × JsonValue)} :
    Limits start (.dict entries)
      ↔ start ≤ maxJsonDepth ∧ entries.length ≤ maxObjectKeys
        ∧ ∀ e ∈ entries, e.1.length ≤ maxStringLength
          ∧ Limits (start + 1) e.2 := by
  rw [limits_iff, structureFault_eq_none]
  simp only [Small, children, List.mem_map, forall_exists_index, and_imp,
    forall_apply_eq_imp_iff₂, limits_iff]
  constructor
  · rintro ⟨⟨hdepth, hlength, hkeys⟩, hvalues⟩
    exact ⟨hdepth, hlength, fun e he => ⟨hkeys e he, hvalues e he⟩⟩
  · rintro ⟨hdepth, hlength, hentries⟩
    exact ⟨⟨hdepth, hlength, fun e he => (hentries e he).1⟩,
      fun e he => (hentries e he).2⟩

-- ==== the readings

/-- How the types and patterns of a schema are read. -/
structure Reading where
  isA : FieldType → JsonValue → Bool
  isPattern : PyText → Bool

def isDeclared : FieldType → JsonValue → Bool
  | .int, .bool _ => false
  | .number, .bool _ => false
  | expected, v => isInstance expected v

def declared : Reading := ⟨isDeclared, isWord⟩

def coded : Reading := ⟨isInstance, matchesPattern⟩

/-- A number within its bounds. -/
def InBounds (c : FieldConstraints) (n : Int) : Prop :=
  (∀ low ∈ c.minValue, low ≤ n) ∧ ∀ high ∈ c.maxValue, n ≤ high

/-- A value meets the constraints of its field. -/
def Meets (rd : Reading) (c : FieldConstraints) : JsonValue → Prop
  | .str s => (∀ n ∈ c.minLength, n ≤ s.length)
      ∧ (∀ n ∈ c.maxLength, s.length ≤ n)
      ∧ (c.pattern = true → rd.isPattern s = true)
      ∧ ∀ allowed ∈ c.allowedValues, ∃ a ∈ allowed, pyText a = s
  | .int n => InBounds c n
  | .bool b => InBounds c (if b then 1 else 0)
  | .list items => ∀ n ∈ c.maxLength, items.length ≤ n
  | .dict entries => ∀ n ∈ c.maxKeys, entries.length ≤ n
  | _ => True

/-- The fields are those of the schema, and each is as it says. -/
structure Conforms (rd : Reading) (schema : MessageSchema)
    (message : Message) : Prop where
  required : ∀ field ∈ schema.requiredFields, has message field = true
  typed : ∀ p ∈ schema.fieldTypes, ∀ v, get message p.1 = some v →
    rd.isA p.2 v = true
  expected : ∀ e ∈ message,
    ∃ field ∈ schema.requiredFields ++ schema.optionalFields,
      pyText field = e.1
  constrained : ∀ p ∈ schema.fieldConstraints, ∀ v,
    get message p.1 = some v → Meets rd p.2 v

/-- The keys a schema requires in its objects. -/
def HasKeys (schema : MessageSchema) (message : Message) : Prop :=
  ∀ p ∈ schema.fieldConstraints, p.2.requiredKeys ≠ [] →
    ∃ data, get message p.1 = some (.dict data)
      ∧ ∀ key ∈ p.2.requiredKeys, has data key = true

/-- A message satisfies the whole schema of its type. -/
structure Satisfies (type : MessageType) (message : Message) : Prop where
  limits : Limits 0 (.dict message)
  typeIs : get message "type" = some (.str (pyText type.value))
  conforms : Conforms declared (schemas type) message
  keys : HasKeys (schemas type) message

/-- A message satisfies it as the code reads it: without the keys, but for
`unit_ids`, which may be beside `data`. -/
structure Loose (type : MessageType) (message : Message) : Prop where
  limits : Limits 0 (.dict message)
  typeIs : get message "type" = some (.str (pyText type.value))
  conforms : Conforms coded (schemas type) message
  unitIds : type = .unitActionsQuery →
    has message "unit_ids" = true ∨ hasUnitIds message = true

/-- What the looser reading lets through is not there: a boolean for a
number, a newline after a word, a city query without cities; and moved
`unit_ids` have room where they go. -/
structure Faultless (type : MessageType) (message : Message) : Prop where
  noBools : ∀ p ∈ (schemas type).fieldTypes, p.2 = .int ∨ p.2 = .number →
    ∀ b, get message p.1 ≠ some (.bool b)
  noNewline : ∀ p ∈ (schemas type).fieldConstraints, p.2.pattern = true →
    ∀ s, get message p.1 = some (.str s) → s.getLast? ≠ some 10
  cityIds : type = .cityActionsQuery →
    ∃ data, get message "data" = some (.dict data)
      ∧ has data "city_ids" = true
  room : type = .unitActionsQuery → hasUnitIds message = false →
    ∀ ids, get message "unit_ids" = some ids → Limits 2 ids
      ∧ ∀ data, get message "data" = some (.dict data) →
        data.length < maxObjectKeys

-- ==== the code's checks

variable {type : MessageType} {message : Message}

theorem textFault_eq_none {field : String} {c : FieldConstraints}
    {s : PyText} : textFault field c s = none ↔ Meets coded c (.str s) := by
  unfold textFault
  simp only [Option.or_eq_none_iff, Option.bind_eq_none_iff, Meets, coded]
  constructor
  · rintro ⟨⟨hmin, hmax⟩, hpattern, hallowed⟩
    refine ⟨fun n hn => ?_, fun n hn => ?_, fun hp => ?_, fun l hl => ?_⟩
    · have := hmin n hn
      simp at this
      omega
    · have := hmax n hn
      simp at this
      omega
    · simpa [hp] using hpattern
    · simpa using hallowed l hl
  · rintro ⟨hmin, hmax, hpattern, hallowed⟩
    refine ⟨⟨fun n hn => ?_, fun n hn => ?_⟩, ?_, fun l hl => ?_⟩
    · have := hmin n hn
      simp
      omega
    · have := hmax n hn
      simp
      omega
    · cases hp : c.pattern with
      | false => rfl
      | true => simp [hpattern hp]
    · simpa using hallowed l hl

theorem numberFault_eq_none {field : String} {c : FieldConstraints}
    {n : Int} : numberFault field c n = none ↔ InBounds c n := by
  unfold numberFault InBounds
  simp only [Option.or_eq_none_iff, Option.bind_eq_none_iff,
    Option.mem_def, ite_eq_right_iff, reduceCtorEq, imp_false, Int.not_lt]

theorem constraintFault_eq_none {field : String} {c : FieldConstraints}
    {v : JsonValue} :
    constraintFault field c v = none ↔ Meets coded c v := by
  cases v with
  | str s => exact textFault_eq_none
  | int n | bool b => exact numberFault_eq_none
  | list items | dict entries =>
    simp [constraintFault, Meets]
  | null | float l => simp [constraintFault, Meets]

theorem schemaFault_eq_none {schema : MessageSchema} :
    schemaFault schema message = none
      ↔ (∀ field ∈ schema.requiredFields, has message field = true)
        ∧ (∀ p ∈ schema.fieldTypes, ∀ v, get message p.1 = some v →
          isInstance p.2 v = true)
        ∧ ∀ e ∈ message,
          ∃ field ∈ schema.requiredFields ++ schema.optionalFields,
            pyText field = e.1 := by
  unfold schemaFault
  rw [Option.or_eq_none_iff, Option.or_eq_none_iff,
    List.findSome?_eq_none_iff, List.findSome?_eq_none_iff,
    List.findSome?_eq_none_iff]
  refine and_congr ?_ (and_congr ?_ ?_)
  · simp
  · simp only [Option.bind_eq_none_iff, ite_eq_left_iff, reduceCtorEq,
      imp_false, Decidable.not_not]
  · simp only [List.any_eq_true, beq_iff_eq, ite_eq_left_iff, reduceCtorEq,
      imp_false, Decidable.not_not]

theorem ofValue_value (type : MessageType) :
    MessageType.ofValue (.str (pyText type.value)) = some type := by
  cases type <;> decide +kernel

theorem ofValue_eq_some {v : JsonValue} :
    MessageType.ofValue v = some type ↔ v = .str (pyText type.value) := by
  constructor
  · intro h
    cases v with
    | str s =>
      have hfound := List.find?_some h
      rw [beq_iff_eq] at hfound
      rw [← hfound]
    | null | bool b | int n | float l | list l | dict l => cases h
  · rintro rfl
    exact ofValue_value type

theorem value_not_empty (type : MessageType) :
    (pyText type.value).isEmpty = false := by
  cases type <;> decide +kernel

theorem validateMessageSchema_eq_ok {interpreter : Interpreter} :
    validateMessageSchema interpreter message = .ok type
      ↔ get message "type" = some (.str (pyText type.value))
        ∧ schemaFault (schemas type) message = none := by
  unfold validateMessageSchema
  constructor
  · intro h
    split at h
    · cases h
    · rename_i v hv
      split at h
      · cases h
      · rename_i found hfound
        split at h
        · cases h
        · rename_i hnone
          cases h
          rw [← ofValue_eq_some.mp hfound]
          exact ⟨(Option.filter_eq_some_iff.mp hv).1, hnone⟩
  · rintro ⟨htype, hnone⟩
    have htruthy : truthy interpreter (.str (pyText type.value)) = true := by
      simp [truthy, value_not_empty]
    simp only [htype, Option.filter_some, htruthy, if_true, ofValue_value,
      hnone]

/-- Half of a surrogate pair. -/
def IsSurrogate (c : Nat) : Prop := 0xD800 ≤ c ∧ c ≤ 0xDFFF

theorem utf8Length_eq_none {raw : PyText} :
    utf8Length raw = none ↔ ∃ c ∈ raw, IsSurrogate c := by
  induction raw with
  | nil => simp [utf8Length]
  | cons c rest ih =>
    unfold utf8Length
    by_cases hc : 0xD800 ≤ c ∧ c ≤ 0xDFFF
    · rw [if_pos hc]
      simp only [true_iff]
      exact ⟨c, List.mem_cons_self, hc⟩
    · rw [if_neg hc, Option.map_eq_none_iff, ih]
      simp only [List.mem_cons, exists_eq_or_imp]
      exact (or_iff_right hc).symm

-- ==== the moved numbers

theorem mem_setEntry {k : PyText} {v : JsonValue}
    {l : List (PyText × JsonValue)} {e : PyText × JsonValue}
    (h : e ∈ Dict.setEntry k v l) : e = (k, v) ∨ e ∈ l := by
  induction l with
  | nil =>
    rw [Dict.setEntry, List.mem_singleton] at h
    exact .inl h
  | cons first rest ih =>
    unfold Dict.setEntry at h
    split at h
    · rcases List.mem_cons.mp h with h | h
      · exact .inl h
      · exact .inr (List.mem_cons_of_mem _ h)
    · rcases List.mem_cons.mp h with rfl | h
      · exact .inr List.mem_cons_self
      · exact (ih h).imp_right (List.mem_cons_of_mem _)

theorem get_eq (message : Message) (field : String) :
    get message field
      = @List.lookup _ _ instBEqOfDecidableEq (pyText field) message := by
  unfold get
  congr 1
  exact lawful_beq_subsingleton _ _

theorem get_put (message : Message) (field other : String) (v : JsonValue) :
    get (put message field v) other
      = if pyText other = pyText field then some v
        else get message other := by
  rw [get_eq, get_eq]
  exact Dict.lookup_setEntry _ _ v message

theorem get_cons (e : PyText × JsonValue) (rest : Message)
    (field : String) :
    get (e :: rest) field
      = if pyText field = e.1 then some e.2 else get rest field := by
  rw [get_eq, get_eq]
  exact Dict.lookup_cons_ite e rest _

theorem length_put (message : Message) (field : String) (v : JsonValue) :
    (put message field v).length
      = if has message field then message.length
        else message.length + 1 := by
  unfold has put
  induction message with
  | nil => rfl
  | cons first rest ih =>
    unfold Dict.setEntry
    rw [get_cons]
    by_cases hk : first.1 = pyText field
    · rw [if_pos hk, if_pos hk.symm]
      simp
    · rw [if_neg hk, if_neg (Ne.symm hk), List.length_cons, ih]
      split <;> simp

theorem get_remove (message : Message) (field other : String) :
    get (remove message field) other
      = if pyText other = pyText field then none
        else get message other := by
  unfold remove
  induction message with
  | nil => exact (ite_self _).symm
  | cons e rest ih =>
    rw [List.filter_cons, get_cons]
    by_cases he : e.1 = pyText field
    · rw [if_neg (by simp [he]), ih]
      by_cases ho : pyText other = pyText field
      · rw [if_pos ho, if_pos ho]
      · rw [if_neg ho, if_neg ho, if_neg fun h => ho (h.trans he)]
    · rw [if_pos (by simp [he]), get_cons, ih]
      by_cases ho : pyText other = e.1
      · rw [if_pos ho, if_pos ho, if_neg fun h => he (ho.symm.trans h)]
      · rw [if_neg ho, if_neg ho]

theorem mem_of_get {field : String} {v : JsonValue}
    (h : get message field = some v) : (pyText field, v) ∈ message := by
  induction message with
  | nil => cases h
  | cons e rest ih =>
    rw [get_cons] at h
    split at h
    · rename_i hk
      cases h
      rw [hk]
      exact List.mem_cons_self
    · exact List.mem_cons_of_mem _ (ih h)

theorem length_remove {field : String} (h : has message field = true) :
    (remove message field).length + 1 ≤ message.length := by
  obtain ⟨v, hv⟩ := Option.isSome_iff_exists.mp h
  have hlt : (remove message field).length < message.length := by
    refine List.length_filter_lt_length_iff_exists.mpr
      ⟨(pyText field, v), mem_of_get hv, ?_⟩
    simp
  omega

theorem data_ne_unitIds : pyText "data" ≠ pyText "unit_ids" := by
  decide +kernel

/-- What is under `data` is an object. -/
def DataIsDict (message : Message) : Prop :=
  ∀ v, get message "data" = some v → ∃ data, v = .dict data

/-- The four ways of the special handling. -/
inductive Moves (message : Message) : Message → Prop
  | nothing (h : get message "unit_ids" = none) : Moves message message
  | alone (ids : JsonValue) (hids : get message "unit_ids" = some ids)
      (hdata : get message "data" = none) :
      Moves message (put (remove message "unit_ids") "data"
        (.dict [(pyText "unit_ids", ids)]))
  | doubled (ids : JsonValue) (data : Message)
      (hids : get message "unit_ids" = some ids)
      (hdata : get message "data" = some (.dict data))
      (hin : has data "unit_ids" = true) :
      Moves message (remove message "unit_ids")
  | added (ids : JsonValue) (data : Message)
      (hids : get message "unit_ids" = some ids)
      (hdata : get message "data" = some (.dict data))
      (hin : has data "unit_ids" = false) :
      Moves message (remove
        (put message "data" (.dict (put data "unit_ids" ids))) "unit_ids")

theorem moves_moveUnitIds (h : DataIsDict message) :
    Moves message (moveUnitIds message) := by
  unfold moveUnitIds
  cases hids : get message "unit_ids" with
  | none => exact .nothing hids
  | some ids =>
    cases hv : get message "data" with
    | none => exact .alone ids hids hv
    | some v =>
      obtain ⟨data, rfl⟩ := h v hv
      dsimp only
      cases hin : has data "unit_ids" with
      | true => exact .doubled ids data hids hv hin
      | false => exact .added ids data hids hv hin

section

variable {moved : Message}

theorem Moves.other (h : Moves message moved) {field : String}
    (hd : pyText field ≠ pyText "data")
    (hu : pyText field ≠ pyText "unit_ids") :
    get moved field = get message field := by
  cases h with
  | nothing => rfl
  | alone ids => rw [get_put, if_neg hd, get_remove, if_neg hu]
  | doubled ids data => rw [get_remove, if_neg hu]
  | added ids data => rw [get_remove, if_neg hu, get_put, if_neg hd]

theorem Moves.gone (h : Moves message moved) :
    get moved "unit_ids" = none := by
  cases h with
  | nothing h => exact h
  | alone ids =>
    rw [get_put, if_neg data_ne_unitIds.symm, get_remove, if_pos rfl]
  | doubled ids data | added ids data => rw [get_remove, if_pos rfl]

theorem Moves.dataIsDict (h : Moves message moved)
    (hdict : DataIsDict message) : DataIsDict moved := by
  intro v hv
  cases h with
  | nothing => exact hdict v hv
  | alone ids =>
    rw [get_put, if_pos rfl] at hv
    exact ⟨_, (Option.some.inj hv).symm⟩
  | doubled ids data =>
    rw [get_remove, if_neg data_ne_unitIds] at hv
    exact hdict v hv
  | added ids data =>
    rw [get_remove, if_neg data_ne_unitIds, get_put, if_pos rfl] at hv
    exact ⟨_, (Option.some.inj hv).symm⟩

theorem Moves.hasUnitIds (h : Moves message moved) :
    hasUnitIds moved = true
      ↔ has message "unit_ids" = true ∨ hasUnitIds message = true := by
  cases h with
  | nothing h => simp [has, h]
  | alone ids hids =>
    have hin : get (put (remove message "unit_ids") "data"
        (.dict [(pyText "unit_ids", ids)])) "data"
        = some (.dict [(pyText "unit_ids", ids)]) := by
      rw [get_put, if_pos rfl]
    have hget : get [(pyText "unit_ids", ids)] "unit_ids" = some ids := by
      rw [get_cons, if_pos rfl]
    simp [MessageValidator.hasUnitIds, hin, has, hget, hids]
  | doubled ids data hids hdata hin =>
    have hstays : get (remove message "unit_ids") "data"
        = some (.dict data) := by
      rw [get_remove, if_neg data_ne_unitIds, hdata]
    simp [MessageValidator.hasUnitIds, hstays, hdata, hin]
  | added ids data hids hdata hin =>
    have hstays : get (remove (put message "data"
        (.dict (put data "unit_ids" ids))) "unit_ids") "data"
        = some (.dict (put data "unit_ids" ids)) := by
      rw [get_remove, if_neg data_ne_unitIds, get_put, if_pos rfl]
    have hget : get (put data "unit_ids" ids) "unit_ids" = some ids := by
      rw [get_put, if_pos rfl]
    simp [MessageValidator.hasUnitIds, hstays, has, hget, hids]

theorem Moves.mem (h : Moves message moved) {e : PyText × JsonValue}
    (he : e ∈ moved) : e.1 = pyText "data" ∨ e ∈ message := by
  cases h with
  | nothing => exact .inr he
  | alone ids =>
    rcases mem_setEntry he with rfl | he
    · exact .inl rfl
    · exact .inr (List.mem_of_mem_filter he)
  | doubled ids data => exact .inr (List.mem_of_mem_filter he)
  | added ids data =>
    rcases mem_setEntry (List.mem_of_mem_filter he) with rfl | he
    · exact .inl rfl
    · exact .inr he

theorem limits_get (h : Limits 0 (.dict message)) {field : String}
    {v : JsonValue} (hv : get message field = some v) : Limits 1 v :=
  ((limits_dict.mp h).2.2 _ (mem_of_get hv)).2

theorem length_data : (pyText "data").length ≤ maxStringLength := by
  decide +kernel

theorem length_unitIds : (pyText "unit_ids").length ≤ maxStringLength := by
  decide +kernel

/-- Numbers within the limits two levels down may be added to an object
that has room for one key more. -/
theorem limits_put {ids : JsonValue} {data : Message}
    (hdata : ∀ e ∈ data, e.1.length ≤ maxStringLength ∧ Limits 2 e.2)
    (hin : has data "unit_ids" = false) :
    Limits 1 (.dict (put data "unit_ids" ids))
      ↔ Limits 2 ids ∧ data.length < maxObjectKeys := by
  have hlength : (put data "unit_ids" ids).length = data.length + 1 := by
    rw [length_put, hin]
    rfl
  have hget : get (put data "unit_ids" ids) "unit_ids" = some ids := by
    rw [get_put, if_pos rfl]
  rw [limits_dict, hlength]
  constructor
  · rintro ⟨-, hroom, hentries⟩
    exact ⟨(hentries _ (mem_of_get hget)).2, hroom⟩
  · rintro ⟨hids, hroom⟩
    refine ⟨by decide, hroom, fun e he => ?_⟩
    rcases mem_setEntry he with rfl | he
    · exact ⟨length_unitIds, hids⟩
    · exact hdata e he

theorem Moves.limits (h : Moves message moved)
    (hlimits : Limits 0 (.dict message)) :
    Limits 0 (.dict moved)
      ↔ (MessageValidator.hasUnitIds message = false →
        ∀ ids, get message "unit_ids" = some ids → Limits 2 ids
          ∧ ∀ data, get message "data" = some (.dict data) →
            data.length < maxObjectKeys) := by
  obtain ⟨-, hlength, hentries⟩ := limits_dict.mp hlimits
  cases h with
  | nothing h => simp [hlimits, h]
  | alone ids hids hdata =>
    have hone : put [] "unit_ids" ids = [(pyText "unit_ids", ids)] := rfl
    have hempty : Limits 1 (.dict [(pyText "unit_ids", ids)])
        ↔ Limits 2 ids := by
      rw [← hone, limits_put (by simp) rfl]
      simp [maxObjectKeys]
    have hin : get (put (remove message "unit_ids") "data"
        (.dict [(pyText "unit_ids", ids)])) "data"
        = some (.dict [(pyText "unit_ids", ids)]) := by
      rw [get_put, if_pos rfl]
    have hroom : Limits 0 (.dict (put (remove message "unit_ids") "data"
        (.dict [(pyText "unit_ids", ids)]))) ↔ Limits 2 ids := by
      constructor
      · intro h
        exact hempty.mp (limits_get h hin)
      · intro h
        refine limits_dict.mpr ⟨by decide, ?_, fun e he => ?_⟩
        · have hshort : (remove message "unit_ids").length + 1
              ≤ message.length := length_remove (by simp [has, hids])
          have hno : has (remove message "unit_ids") "data" = false := by
            simp [has, get_remove, hdata]
          rw [length_put, hno]
          exact Nat.le_trans hshort hlength
        · rcases mem_setEntry he with rfl | he
          · exact ⟨length_data, hempty.mpr h⟩
          · exact hentries e (List.mem_of_mem_filter he)
    rw [hroom]
    simp [MessageValidator.hasUnitIds, hids, hdata]
  | doubled ids data hids hdata hin =>
    have hwithin : Limits 0 (.dict (remove message "unit_ids")) := by
      refine limits_dict.mpr ⟨by decide, ?_, fun e he => ?_⟩
      · exact Nat.le_trans (List.length_filter_le _ _) hlength
      · exact hentries e (List.mem_of_mem_filter he)
    simp [MessageValidator.hasUnitIds, hwithin, hdata, hin]
  | added ids data hids hdata hin =>
    have hold := (limits_dict.mp (limits_get hlimits hdata)).2.2
    have hstays : get (remove (put message "data"
        (.dict (put data "unit_ids" ids))) "unit_ids") "data"
        = some (.dict (put data "unit_ids" ids)) := by
      rw [get_remove, if_neg data_ne_unitIds, get_put, if_pos rfl]
    have hroom : Limits 0 (.dict (remove (put message "data"
        (.dict (put data "unit_ids" ids))) "unit_ids"))
        ↔ Limits 2 ids ∧ data.length < maxObjectKeys := by
      rw [← limits_put hold hin]
      constructor
      · intro h
        exact limits_get h hstays
      · intro h
        refine limits_dict.mpr ⟨by decide, ?_, fun e he => ?_⟩
        · refine Nat.le_trans (List.length_filter_le _ _) ?_
          have hhas : has message "data" = true := by simp [has, hdata]
          rw [length_put, hhas]
          exact hlength
        · rcases mem_setEntry (List.mem_of_mem_filter he) with rfl | he
          · exact ⟨length_data, h⟩
          · exact hentries e he
    rw [hroom]
    simp [MessageValidator.hasUnitIds, hids, hdata, hin]

end

-- ==== between the readings

/-- A value of a type as the code reads it is one as declared, unless it
is a boolean for a number. -/
theorem isDeclared_iff {expected : FieldType} {v : JsonValue}
    (h : isInstance expected v = true) :
    isDeclared expected v = true
      ↔ (expected = .int ∨ expected = .number → ∀ b, v ≠ .bool b) := by
  cases expected <;> cases v <;> simp_all [isDeclared, isInstance]

theorem isInstance_of_isDeclared {expected : FieldType} {v : JsonValue}
    (h : isDeclared expected v = true) : isInstance expected v = true := by
  cases expected <;> cases v <;> first | exact h | cases h

theorem isWordChar_newline : isWordChar 10 = false := by decide

/-- A string the pattern matches is a word, unless a newline ends it. -/
theorem isWord_iff {s : PyText} (h : matchesPattern s = true) :
    isWord s = true ↔ s.getLast? ≠ some 10 := by
  constructor
  · intro hword hlast
    have hall := (Bool.and_eq_true_iff.mp hword).2
    have hchar := List.all_eq_true.mp hall 10 (List.mem_of_getLast? hlast)
    rw [isWordChar_newline] at hchar
    cases hchar
  · intro hlast
    rcases Bool.or_eq_true_iff.mp h with hword | hend
    · exact hword
    · have heq := (Bool.and_eq_true_iff.mp hend).1
      exact absurd (beq_iff_eq.mp heq) hlast

theorem meets_declared {c : FieldConstraints} {v : JsonValue}
    (h : Meets coded c v) :
    Meets declared c v
      ↔ (c.pattern = true → ∀ s, v = .str s → s.getLast? ≠ some 10) := by
  cases v with
  | str s =>
    obtain ⟨hmin, hmax, hpattern, hallowed⟩ := h
    constructor
    · rintro ⟨-, -, hword, -⟩ hp s' hs
      cases hs
      exact (isWord_iff (hpattern hp)).mp (hword hp)
    · intro hlast
      exact ⟨hmin, hmax,
        fun hp => (isWord_iff (hpattern hp)).mpr (hlast hp s rfl),
        hallowed⟩
  | null | bool b | int n | float l | list l | dict l =>
    simp only [reduceCtorEq, false_imp_iff, implies_true, iff_true]
    exact h

theorem meets_coded {c : FieldConstraints} {v : JsonValue}
    (h : Meets declared c v) : Meets coded c v := by
  cases v with
  | str s =>
    obtain ⟨hmin, hmax, hpattern, hallowed⟩ := h
    refine ⟨hmin, hmax, fun hp => ?_, hallowed⟩
    exact Bool.or_eq_true_iff.mpr (.inl (hpattern hp))
  | null | bool b | int n | float l | list l | dict l => exact h

/-- Between a schema as the code reads it and as it is declared there are
the booleans and the newlines. -/
theorem conforms_declared {schema : MessageSchema}
    (h : Conforms coded schema message) :
    Conforms declared schema message
      ↔ (∀ p ∈ schema.fieldTypes, p.2 = .int ∨ p.2 = .number →
          ∀ b, get message p.1 ≠ some (.bool b))
        ∧ ∀ p ∈ schema.fieldConstraints, p.2.pattern = true →
          ∀ s, get message p.1 = some (.str s) → s.getLast? ≠ some 10 := by
  constructor
  · intro hd
    constructor
    · intro p hp hnumber b hb
      exact (isDeclared_iff (h.typed p hp _ hb)).mp (hd.typed p hp _ hb)
        hnumber b rfl
    · intro p hp hpattern s hs
      exact (meets_declared (h.constrained p hp _ hs)).mp
        (hd.constrained p hp _ hs) hpattern s rfl
  · rintro ⟨hbools, hnewlines⟩
    refine
      { required := h.required
        typed := fun p hp v hv => ?_
        expected := h.expected
        constrained := fun p hp v hv => ?_ }
    · refine (isDeclared_iff (h.typed p hp v hv)).mpr fun hnumber b hb => ?_
      exact hbools p hp hnumber b (hb ▸ hv)
    · refine (meets_declared (h.constrained p hp v hv)).mpr ?_
      exact fun hpattern s hs => hnewlines p hp hpattern s (hs ▸ hv)

theorem Conforms.coded {schema : MessageSchema}
    (h : Conforms declared schema message) :
    Conforms coded schema message where
  required := h.required
  typed p hp v hv := isInstance_of_isDeclared (h.typed p hp v hv)
  expected := h.expected
  constrained p hp v hv := meets_coded (h.constrained p hp v hv)

-- ==== the messages

def returned (type : MessageType) (message : Message) : Message :=
  if type = .unitActionsQuery then moveUnitIds message else message

theorem returned_of_ne (h : type ≠ .unitActionsQuery) :
    returned type message = message := if_neg h

theorem hasUnitIds_iff :
    hasUnitIds message = true
      ↔ ∃ data, get message "data" = some (.dict data)
        ∧ has data "unit_ids" = true := by
  unfold hasUnitIds
  cases hdata : get message "data" with
  | none => simp
  | some v => cases v <;> simp

theorem requiredKeys_cases (type : MessageType) :
    ∀ p ∈ (schemas type).fieldConstraints, p.2.requiredKeys ≠ [] →
      p.1 = "data"
        ∧ (type = .unitActionsQuery ∧ p.2.requiredKeys = ["unit_ids"]
          ∨ type = .cityActionsQuery ∧ p.2.requiredKeys = ["city_ids"]) := by
  cases type <;> simp [schemas, bareSchema, traceContext, correlationId]

theorem hasKeys_iff :
    HasKeys (schemas type) message
      ↔ (type = .cityActionsQuery →
          ∃ data, get message "data" = some (.dict data)
            ∧ has data "city_ids" = true)
        ∧ (type = .unitActionsQuery → hasUnitIds message = true) := by
  constructor
  · intro h
    constructor
    · rintro rfl
      obtain ⟨data, hdata, hkeys⟩ := h
        ("data", { requiredKeys := ["city_ids"] }) (by simp [schemas])
        (by simp)
      exact ⟨data, hdata, hkeys _ List.mem_cons_self⟩
    · rintro rfl
      obtain ⟨data, hdata, hkeys⟩ := h
        ("data", { requiredKeys := ["unit_ids"] }) (by simp [schemas])
        (by simp)
      exact hasUnitIds_iff.mpr ⟨data, hdata, hkeys _ List.mem_cons_self⟩
  · rintro ⟨hcity, hunit⟩ p hp hne
    obtain ⟨hfield, ⟨htype, hkeys⟩ | ⟨htype, hkeys⟩⟩ :=
      requiredKeys_cases type p hp hne
    · rw [hfield, hkeys]
      simpa using hasUnitIds_iff.mp (hunit htype)
    · rw [hfield, hkeys]
      simpa using hcity htype

/-- The fields of a `unit_actions_query` beside the numbers. -/
def besideNumbers : List String :=
  ["type", "agent_id", "timestamp", "correlation_id", "trace_context"]

theorem ne_of_besideNumbers : ∀ field ∈ besideNumbers,
    pyText field ≠ pyText "data" ∧ pyText field ≠ pyText "unit_ids" := by
  decide +kernel

theorem unit_fieldTypes :
    ∀ p ∈ (schemas .unitActionsQuery).fieldTypes,
      p = ("data", .dict) ∨ p = ("unit_ids", .list)
        ∨ p.1 ∈ besideNumbers := by
  decide

theorem unit_numbers :
    ∀ p ∈ (schemas .unitActionsQuery).fieldTypes,
      p.2 = .int ∨ p.2 = .number → p.1 ∈ besideNumbers := by
  decide

theorem unit_constraints :
    ∀ p ∈ (schemas .unitActionsQuery).fieldConstraints,
      p.1 = "data" ∧ p.2.pattern = false ∧ (∀ v, Meets coded p.2 v)
        ∨ p.1 ∈ besideNumbers := by
  intro p hp
  simp only [schemas, correlationId, traceContext, List.mem_cons,
    List.not_mem_nil, or_false] at hp
  rcases hp with rfl | rfl | rfl
  · exact .inr (by decide)
  · refine .inl ⟨rfl, rfl, fun v => ?_⟩
    cases v <;> simp [Meets, InBounds]
  · exact .inr (by decide)

section

variable {moved : Message}

theorem Moves.beside (h : Moves message moved) {field : String}
    (hfield : field ∈ besideNumbers) :
    get moved field = get message field :=
  h.other (ne_of_besideNumbers field hfield).1
    (ne_of_besideNumbers field hfield).2

theorem Moves.constrained_iff (h : Moves message moved) :
    (∀ p ∈ (schemas .unitActionsQuery).fieldConstraints, ∀ v,
        get moved p.1 = some v → Meets coded p.2 v)
      ↔ ∀ p ∈ (schemas .unitActionsQuery).fieldConstraints, ∀ v,
        get message p.1 = some v → Meets coded p.2 v := by
  constructor
  · intro hall p hp v hv
    rcases unit_constraints p hp with ⟨-, -, hany⟩ | hbeside
    · exact hany v
    · exact hall p hp v (by rw [h.beside hbeside, hv])
  · intro hall p hp v hv
    rcases unit_constraints p hp with ⟨-, -, hany⟩ | hbeside
    · exact hany v
    · exact hall p hp v (by rw [← h.beside hbeside, hv])

theorem Moves.conforms (h : Moves message moved)
    (hdict : DataIsDict message)
    (hc : Conforms coded (schemas .unitActionsQuery) message) :
    Conforms coded (schemas .unitActionsQuery) moved where
  required field hfield := by
    have hbeside : ∀ f ∈ (schemas .unitActionsQuery).requiredFields,
        f ∈ besideNumbers := by decide
    unfold has
    rw [h.beside (hbeside field hfield)]
    exact hc.required field hfield
  typed p hp v hv := by
    rcases unit_fieldTypes p hp with rfl | rfl | hbeside
    · obtain ⟨data, rfl⟩ := h.dataIsDict hdict v hv
      rfl
    · rw [h.gone] at hv
      cases hv
    · exact hc.typed p hp v (by rw [← h.beside hbeside, hv])
  expected e he := by
    rcases h.mem he with hdata | he
    · exact ⟨"data", by decide, hdata.symm⟩
    · exact hc.expected e he
  constrained := h.constrained_iff.mpr hc.constrained

end

theorem Loose.dataIsDict (h : Loose .unitActionsQuery message) :
    DataIsDict message := by
  intro v hv
  have hdict := h.conforms.typed ("data", .dict) (by decide) v hv
  cases v with
  | dict data => exact ⟨data, rfl⟩
  | null | bool b | int n | float l | str s | list l => cases hdict

/-- The returned message satisfies the schema if the one that came has no
fault. -/
theorem Loose.satisfies_iff (h : Loose type message) :
    Satisfies type (returned type message) ↔ Faultless type message := by
  by_cases hunit : type = .unitActionsQuery
  · subst hunit
    have hmoves := moves_moveUnitIds h.dataIsDict
    have hconforms := hmoves.conforms h.dataIsDict h.conforms
    have hin := hmoves.hasUnitIds.mpr (h.unitIds rfl)
    have hbeside : get (moveUnitIds message) "type" = get message "type" :=
      hmoves.beside (by decide)
    have htype := hbeside.trans h.typeIs
    show Satisfies _ (moveUnitIds message) ↔ _
    constructor
    · intro hs
      obtain ⟨hbools, hnewlines⟩ :=
        (conforms_declared hconforms).mp hs.conforms
      exact
        { noBools := fun p hp hnumber b => by
            rw [← hmoves.beside (unit_numbers p hp hnumber)]
            exact hbools p hp hnumber b
          noNewline := fun p hp hpattern s => by
            rcases unit_constraints p hp with ⟨-, hno, -⟩ | hbeside
            · rw [hno] at hpattern
              cases hpattern
            · rw [← hmoves.beside hbeside]
              exact hnewlines p hp hpattern s
          cityIds := fun hcity => by cases hcity
          room := fun _ => (hmoves.limits h.limits).mp hs.limits }
    · intro hf
      refine
        { limits := (hmoves.limits h.limits).mpr (hf.room rfl)
          typeIs := htype
          conforms := (conforms_declared hconforms).mpr ⟨?_, ?_⟩
          keys := hasKeys_iff.mpr
            ⟨fun hcity => (by cases hcity), fun _ => hin⟩ }
      · intro p hp hnumber b
        rw [hmoves.beside (unit_numbers p hp hnumber)]
        exact hf.noBools p hp hnumber b
      · intro p hp hpattern s
        rcases unit_constraints p hp with ⟨-, hno, -⟩ | hbeside
        · rw [hno] at hpattern
          cases hpattern
        · rw [hmoves.beside hbeside]
          exact hf.noNewline p hp hpattern s
  · rw [returned_of_ne hunit]
    constructor
    · intro hs
      obtain ⟨hbools, hnewlines⟩ :=
        (conforms_declared h.conforms).mp hs.conforms
      exact
        { noBools := hbools
          noNewline := hnewlines
          cityIds := (hasKeys_iff.mp hs.keys).1
          room := fun hu => absurd hu hunit }
    · intro hf
      exact
        { limits := h.limits
          typeIs := h.typeIs
          conforms := (conforms_declared h.conforms).mpr
            ⟨hf.noBools, hf.noNewline⟩
          keys := hasKeys_iff.mpr ⟨hf.cityIds, fun hu => absurd hu hunit⟩ }

theorem Satisfies.loose (h : Satisfies type message) :
    Loose type message where
  limits := h.limits
  typeIs := h.typeIs
  conforms := h.conforms.coded
  unitIds htype := .inr ((hasKeys_iff.mp h.keys).2 htype)

-- ==== the calls

section

variable (interpreter : Interpreter) {limit : Nat} {raw : PyText}

theorem validateMessageContent_eq_ok {after : Message} :
    validateMessageContent type message = .ok after
      ↔ after = returned type message
        ∧ (type = .unitActionsQuery →
          hasUnitIds (returned type message) = true)
        ∧ ∀ p ∈ (schemas type).fieldConstraints, ∀ v,
          get (returned type message) p.1 = some v →
            Meets coded p.2 v := by
  have hfaults : contentFault type (returned type message) = none
      ↔ ∀ p ∈ (schemas type).fieldConstraints, ∀ v,
          get (returned type message) p.1 = some v →
            Meets coded p.2 v := by
    unfold contentFault
    rw [List.findSome?_eq_none_iff]
    simp only [Option.bind_eq_none_iff, constraintFault_eq_none]
  unfold validateMessageContent
  show (if type = .unitActionsQuery
      ∧ hasUnitIds (returned type message) = false then _ else _) = _ ↔ _
  by_cases hmissing : type = .unitActionsQuery
      ∧ hasUnitIds (returned type message) = false
  · rw [if_pos hmissing]
    constructor
    · intro h
      cases h
    · rintro ⟨-, hin, -⟩
      rw [hin hmissing.1] at hmissing
      cases hmissing.2
  · have hhas : type = .unitActionsQuery →
        hasUnitIds (returned type message) = true := by
      intro htype
      by_contra hno
      exact hmissing ⟨htype, Bool.eq_false_iff.mpr hno⟩
    rw [if_neg hmissing, ← hfaults]
    cases hfound : contentFault type (returned type message) with
    | some fault =>
      rw [show contentFault type (if type = .unitActionsQuery then
        moveUnitIds message else message) = some fault from hfound]
      simp
    | none =>
      rw [show contentFault type (if type = .unitActionsQuery then
        moveUnitIds message else message) = none from hfound]
      show Except.ok (returned type message) = _ ↔ _
      simp only [Except.ok.injEq, and_true]
      exact ⟨fun h => ⟨h.symm, hhas⟩, fun h => h.1.symm⟩

/-- A message within the limits passes the last two passes exactly if it
satisfies its schema as the code reads it. -/
theorem passes_iff (hlimits : Limits 0 (.dict message)) {after : Message} :
    (validateMessageSchema interpreter message = .ok type
        ∧ validateMessageContent type message = .ok after)
      ↔ Loose type message ∧ after = returned type message := by
  rw [validateMessageSchema_eq_ok, schemaFault_eq_none,
    validateMessageContent_eq_ok]
  constructor
  · rintro ⟨⟨htype, hrequired, htyped, hexpected⟩, hafter, hin, hmeets⟩
    refine ⟨?_, hafter⟩
    by_cases hunit : type = .unitActionsQuery
    · subst hunit
      have hdict : DataIsDict message := by
        intro v hv
        have hdict := htyped ("data", .dict) (by decide) v hv
        cases v with
        | dict data => exact ⟨data, rfl⟩
        | null | bool b | int n | float l | str s | list l => cases hdict
      have hmoves := moves_moveUnitIds hdict
      exact
        { limits := hlimits
          typeIs := htype
          conforms :=
            { required := hrequired
              typed := htyped
              expected := hexpected
              constrained := hmoves.constrained_iff.mp hmeets }
          unitIds := fun _ => hmoves.hasUnitIds.mp (hin rfl) }
    · rw [returned_of_ne hunit] at hmeets
      exact
        { limits := hlimits
          typeIs := htype
          conforms :=
            { required := hrequired
              typed := htyped
              expected := hexpected
              constrained := hmeets }
          unitIds := fun h => absurd h hunit }
  · rintro ⟨h, hafter⟩
    refine ⟨⟨h.typeIs, h.conforms.required, h.conforms.typed,
      h.conforms.expected⟩, hafter, ?_, ?_⟩
    · rintro rfl
      exact (moves_moveUnitIds h.dataIsDict).hasUnitIds.mpr (h.unitIds rfl)
    · by_cases hunit : type = .unitActionsQuery
      · subst hunit
        exact (moves_moveUnitIds h.dataIsDict).constrained_iff.mpr
          h.conforms.constrained
      · rw [returned_of_ne hunit]
        exact h.conforms.constrained

/-- A text that may be read: it has a UTF-8, of a size within the limit. -/
def Sized (limit : Nat) (raw : PyText) : Prop :=
  ∃ size, utf8Length raw = some size ∧ size ≤ limit

theorem not_sized_cases (h : ¬ Sized limit raw) :
    (∃ c ∈ raw, IsSurrogate c)
        ∧ validate interpreter limit raw = .error .unicodeEncodeError
      ∨ (¬ ∃ c ∈ raw, IsSurrogate c)
        ∧ ∃ fault, validate interpreter limit raw
          = .error (.validationError fault) := by
  unfold validate validateMessageSize
  cases hsize : utf8Length raw with
  | none => exact .inl ⟨utf8Length_eq_none.mp hsize, rfl⟩
  | some size =>
    have hbig : limit < size := by
      by_contra hle
      exact h ⟨size, hsize, by omega⟩
    refine .inr ⟨fun hhalf => ?_, .tooLarge size, ?_⟩
    · rw [utf8Length_eq_none.mpr hhalf] at hsize
      cases hsize
    · simp only [if_pos hbig]
      rfl

theorem validate_of_sized (h : Sized limit raw) :
    validate interpreter limit raw
      = (do
          let message ← parseJsonSafely interpreter raw
          let type ← (validateMessageSchema interpreter message).mapError
            Raised.validationError
          (validateMessageContent type message).mapError
            Raised.validationError) := by
  obtain ⟨size, hsize, hle⟩ := h
  unfold validate validateMessageSize
  simp only [hsize, if_neg (Nat.not_lt.mpr hle)]
  rfl

/-- How a call ends that may read its text, by what `json.loads` makes of
it. -/
inductive Ends (interpreter : Interpreter) (raw : PyText) :
    Except Raised Message → Prop
  | broken (h : JsonRead.loads interpreter.depth raw = .error .recursionError
        ∨ JsonRead.loads interpreter.depth raw = .error .valueError)
      (e : Raised) (he : ∀ fault, e ≠ .validationError fault) :
      Ends interpreter raw (.error e)
  | rejected (fault : Fault)
      (hread : JsonRead.loads interpreter.depth raw
          ≠ .error .recursionError
        ∧ JsonRead.loads interpreter.depth raw ≠ .error .valueError)
      (h : ∀ message type, JsonRead.loads interpreter.depth raw
          = .ok (.dict message) → ¬ Loose type message) :
      Ends interpreter raw (.error (.validationError fault))
  | accepted (message : Message) (type : MessageType)
      (hread : JsonRead.loads interpreter.depth raw = .ok (.dict message))
      (h : Loose type message) :
      Ends interpreter raw (.ok (returned type message))

theorem Loose.type_returned (h : Loose type message) :
    get (returned type message) "type"
      = some (.str (pyText type.value)) := by
  by_cases hunit : type = .unitActionsQuery
  · subst hunit
    have hmoves := moves_moveUnitIds h.dataIsDict
    exact (hmoves.beside (by decide)).trans h.typeIs
  · rw [returned_of_ne hunit]
    exact h.typeIs

theorem type_unique {other : MessageType}
    (h : get message "type" = some (.str (pyText type.value)))
    (h' : get message "type" = some (.str (pyText other.value))) :
    type = other := by
  have heq := h.symm.trans h'
  have hvalue := ofValue_value type
  rw [Option.some.inj heq, ofValue_value other] at hvalue
  exact (Option.some.inj hvalue).symm

theorem ends_validate (hsized : Sized limit raw) :
    Ends interpreter raw (validate interpreter limit raw) := by
  rw [validate_of_sized interpreter hsized]
  unfold parseJsonSafely
  cases hread : JsonRead.loads interpreter.depth raw with
  | error e =>
    cases e with
    | decodeError =>
      exact .rejected _ (by simp [hread]) fun m t h => by
        rw [hread] at h
        cases h
    | recursionError =>
      exact .broken (.inl hread) _ fun _ h => by cases h
    | valueError => exact .broken (.inr hread) _ fun _ h => by cases h
  | ok v =>
    cases v with
    | dict message =>
      cases hlimits : structureFault 0 (.dict message) with
      | some fault =>
        simp only [hlimits]
        refine .rejected _ (by simp [hread]) fun m t h hloose => ?_
        rw [hread] at h
        cases h
        rw [limits_iff.mp hloose.limits] at hlimits
        cases hlimits
      | none =>
        simp only [hlimits]
        have hwithin : Limits 0 (.dict message) :=
          limits_iff.mpr hlimits
        have hrejected : ∀ fault,
            (∀ t, ¬ Loose t message) →
              Ends interpreter raw
                (.error (.validationError fault)) := by
          intro fault hno
          refine .rejected _ (by simp [hread]) fun m t h => ?_
          rw [hread] at h
          cases h
          exact hno t
        show Ends interpreter raw
          (do
            let type ← (validateMessageSchema interpreter
              message).mapError Raised.validationError
            (validateMessageContent type message).mapError
              Raised.validationError)
        cases hschema : validateMessageSchema interpreter message with
        | error fault =>
          refine hrejected fault fun t hloose => ?_
          have hok := ((passes_iff interpreter hwithin).mpr
            ⟨hloose, rfl⟩).1
          rw [hschema] at hok
          cases hok
        | ok type =>
          cases hcontent : validateMessageContent type message with
          | error fault =>
            show Ends interpreter raw
              ((validateMessageContent type message).mapError
                Raised.validationError)
            rw [hcontent]
            refine hrejected fault fun t hloose => ?_
            have hok := (passes_iff interpreter hwithin).mpr
              ⟨hloose, rfl⟩
            rw [hschema] at hok
            cases hok.1
            rw [hcontent] at hok
            cases hok.2
          | ok after =>
            show Ends interpreter raw
              ((validateMessageContent type message).mapError
                Raised.validationError)
            rw [hcontent]
            obtain ⟨hloose, rfl⟩ :=
              (passes_iff interpreter hwithin).mp ⟨hschema, hcontent⟩
            exact .accepted message type hread hloose
    | null | bool b | int n | float l | str s | list l =>
      exact .rejected _ (by simp [hread]) fun m t h => by
        rw [hread] at h
        cases h

end

-- ==== exactness

variable (interpreter : Interpreter)

/-- All calls are accounted for. -/
def Balanced (v : MessageValidator) : Prop :=
  v.totalMessages = v.validMessages + v.validationErrors

/-- What one call is to do: return a message that satisfies its schema or
raise its own error, accept what satisfies its schema, and count. -/
structure Exact (v : MessageValidator) (raw : PyText) : Prop where
  outcome : match (v.validateMessage interpreter raw).1 with
    | .ok message => ∃ type, Satisfies type message
    | .error (.validationError _) => True
    | .error _ => False
  accepts : Sized v.maxMessageSize raw → ∀ message type,
    JsonRead.loads interpreter.depth raw = .ok (.dict message) →
    Satisfies type message →
      ∃ after, (v.validateMessage interpreter raw).1 = .ok after
  counted : Balanced (v.validateMessage interpreter raw).2

/-- The text has a UTF-8, `json.loads` raises nothing but its own error,
and the message is none that only the looser reading lets through. -/
structure Meant (v : MessageValidator) (raw : PyText) : Prop where
  encodable : ¬ ∃ c ∈ raw, IsSurrogate c
  readable : Sized v.maxMessageSize raw →
    JsonRead.loads interpreter.depth raw ≠ .error .recursionError
      ∧ JsonRead.loads interpreter.depth raw ≠ .error .valueError
  faultless : Sized v.maxMessageSize raw → ∀ message type,
    JsonRead.loads interpreter.depth raw = .ok (.dict message) →
    Loose type message → Faultless type message

section

variable {interpreter} {v : MessageValidator} {raw : PyText}

theorem Balanced.count_ok (h : Balanced v) (message : Message) :
    Balanced (v.count (.ok message)) := by
  unfold Balanced count at *
  dsimp only
  omega

theorem Balanced.count_fault (h : Balanced v) (fault : Fault) :
    Balanced (v.count (.error (.validationError fault))) := by
  unfold Balanced count at *
  dsimp only
  omega

theorem exact_iff (h : Balanced v) :
    Exact interpreter v raw ↔ Meant interpreter v raw := by
  by_cases hsized : Sized v.maxMessageSize raw
  · have hends := ends_validate interpreter hsized
    have hhalf : ¬ ∃ c ∈ raw, IsSurrogate c := by
      obtain ⟨size, hsize, -⟩ := hsized
      rw [← utf8Length_eq_none, hsize]
      exact Option.some_ne_none size
    cases hresult : validate interpreter v.maxMessageSize raw with
    | error e =>
      rw [hresult] at hends
      cases hends with
      | broken hread _ he =>
        constructor
        · intro hexact
          have houtcome := hexact.outcome
          unfold validateMessage at houtcome
          rw [hresult] at houtcome
          cases e with
          | validationError fault => exact absurd rfl (he fault)
          | unicodeEncodeError | recursionError | valueError =>
            exact houtcome.elim
        · intro hmeant
          obtain ⟨hrec, hvalue⟩ := hmeant.readable hsized
          rcases hread with hread | hread
          · exact absurd hread hrec
          · exact absurd hread hvalue
      | rejected fault hread hno =>
        refine iff_of_true ?_ ?_
        · refine
            { outcome := by simp [validateMessage, hresult]
              accepts := fun _ m t hm hs =>
                absurd hs.loose (hno m t hm)
              counted := ?_ }
          unfold validateMessage
          rw [hresult]
          exact h.count_fault fault
        · exact ⟨hhalf, fun _ => hread,
            fun _ m t hm hl => absurd hl (hno m t hm)⟩
    | ok after =>
      rw [hresult] at hends
      cases hends with
      | accepted message type hread hloose =>
        constructor
        · intro hexact
          have houtcome := hexact.outcome
          unfold validateMessage at houtcome
          rw [hresult] at houtcome
          obtain ⟨other, hs⟩ := houtcome
          have hsame := type_unique hs.typeIs hloose.type_returned
          subst hsame
          refine ⟨hhalf, fun _ => by simp [hread],
            fun _ m t hm hl => ?_⟩
          rw [hread] at hm
          cases hm
          have hsame := type_unique hl.typeIs hloose.typeIs
          subst hsame
          exact hloose.satisfies_iff.mp hs
        · intro hmeant
          have hfaultless := hmeant.faultless hsized message type hread
            hloose
          refine
            { outcome := ?_
              accepts := fun _ _ _ _ _ => ⟨_, by
                unfold validateMessage
                exact hresult⟩
              counted := ?_ }
          · unfold validateMessage
            rw [hresult]
            exact ⟨type, hloose.satisfies_iff.mpr hfaultless⟩
          · unfold validateMessage
            rw [hresult]
            exact h.count_ok (returned type message)
  · rcases not_sized_cases interpreter hsized with
      ⟨hhalf, hresult⟩ | ⟨hhalf, fault, hresult⟩
    · refine iff_of_false ?_ fun hmeant => hmeant.encodable hhalf
      intro hexact
      have houtcome := hexact.outcome
      unfold validateMessage at houtcome
      rw [hresult] at houtcome
      exact houtcome
    · refine iff_of_true ?_ ⟨hhalf, fun hs => absurd hs hsized,
        fun hs => absurd hs hsized⟩
      refine
        { outcome := by simp [validateMessage, hresult]
          accepts := fun hs => absurd hs hsized
          counted := ?_ }
      unfold validateMessage
      rw [hresult]
      exact h.count_fault fault

end

-- ==== the runs

/-- Every call of a run does what it is to do. -/
def ActExact (v : MessageValidator) : ValidatorAct → Prop
  | .call raw => Exact interpreter v raw
  | .reset => True

def ActMeant (v : MessageValidator) : ValidatorAct → Prop
  | .call raw => Meant interpreter v raw
  | .reset => True

/-- In every run of a validator, validation is exact and counted if and
only if every text it is called with is a meant one. -/
theorem messages_exact_iff (limit : Option Nat)
    (acts : List ValidatorAct) :
    (validatorRuns interpreter).Along (ActExact interpreter) (init limit)
        acts
      ↔ (validatorRuns interpreter).Along (ActMeant interpreter)
        (init limit) acts := by
  have hinit : Balanced (init limit) := rfl
  refine Lts.along_iff_along_of ?_ ?_ hinit acts
  · intro v act v' hv _
    cases act with
    | call raw => exact exact_iff hv
    | reset => exact Iff.rfl
  · intro v act v' hv hmeant hstep
    cases act with
    | call raw =>
      cases hstep
      exact ((exact_iff hv).mpr hmeant).counted
    | reset =>
      cases hstep
      rfl

/-- The interpreter as it is started: a thousand calls, and no literal but
zero is zero. -/
def usual : Interpreter := ⟨1000, fun literal => literal == pyText "0.0"⟩

def endsWith (check : Except Raised Message → Bool) (raw : PyText) : Bool :=
  check (validate usual defaultMessageSize raw)

def isText (text : String) : Option JsonValue → Bool
  | some (.str s) => s == pyText text
  | _ => false

def isBool : Option JsonValue → Bool
  | some (.bool _) => true
  | _ => false

def isBareDict : Option JsonValue → Bool
  | some (.dict []) => true
  | _ => false

/-- A message of a type that it does not satisfy is accepted. -/
def accepts (type : MessageType) (check : Message → Bool) :
    Except Raised Message → Bool
  | .ok message => isText type.value (get message "type") && check message
  | .error _ => false

def breaks : Except Raised Message → Bool
  | .ok _ => false
  | .error (.validationError _) => false
  | .error _ => true

theorem not_exact_of_accepts {type : MessageType}
    {check : Message → Bool} {raw : PyText}
    (h : endsWith (accepts type check) raw = true)
    (hcheck : ∀ message, check message = true →
      ¬ Satisfies type message) :
    ¬ Exact usual (init none) raw := by
  intro hexact
  have houtcome := hexact.outcome
  unfold endsWith at h
  unfold validateMessage at houtcome
  rw [show (init none).maxMessageSize = defaultMessageSize from rfl]
    at houtcome
  cases hresult : validate usual defaultMessageSize raw with
  | error e =>
    rw [hresult] at h
    cases h
  | ok message =>
    rw [hresult] at h houtcome
    obtain ⟨other, hs⟩ := houtcome
    obtain ⟨htext, hno⟩ := Bool.and_eq_true_iff.mp h
    have htype : get message "type" = some (.str (pyText type.value)) := by
      unfold isText at htext
      split at htext
      · rename_i s hget
        rw [hget, beq_iff_eq.mp htext]
      · cases htext
    have hsame := type_unique hs.typeIs htype
    subst hsame
    exact hcheck message hno hs

theorem not_exact_of_breaks {raw : PyText}
    (h : endsWith breaks raw = true) : ¬ Exact usual (init none) raw := by
  intro hexact
  have houtcome := hexact.outcome
  unfold endsWith at h
  unfold validateMessage at houtcome
  rw [show (init none).maxMessageSize = defaultMessageSize from rfl]
    at houtcome
  cases hresult : validate usual defaultMessageSize raw with
  | error e =>
    rw [hresult] at h houtcome
    cases e with
    | validationError fault => cases h
    | unicodeEncodeError | recursionError | valueError => exact houtcome
  | ok message =>
    rw [hresult] at h
    cases h

/-- A boolean is taken for a number, a newline for the end of a word, and a
city query without cities for one; half of a surrogate pair, and too many
open arrays, raise other errors. -/
theorem messages_not_exact :
    ¬ Exact usual (init none) (pyText
        "\x7b\"type\": \"state_query\", \"player_id\": true\x7d")
      ∧ ¬ Exact usual (init none) (pyText
        "\x7b\"type\": \"chat\", \"correlation_id\": \"a\\n\"\x7d")
      ∧ ¬ Exact usual (init none) (pyText
        "\x7b\"type\": \"city_actions_query\", \"data\": \x7b\x7d\x7d")
      ∧ ¬ Exact usual (init none) [0xD800]
      ∧ ¬ Exact usual (init none) (List.replicate 1001 91) := by
  refine ⟨?_, ?_, ?_, ?_, ?_⟩
  · have haccepts : endsWith (accepts .stateQuery fun m =>
        isBool (get m "player_id")) (pyText
          "\x7b\"type\": \"state_query\", \"player_id\": true\x7d")
        = true := by
      decide +kernel
    refine not_exact_of_accepts haccepts fun message hbool hs => ?_
    unfold isBool at hbool
    split at hbool
    · rename_i b hget
      cases hs.conforms.typed ("player_id", .int) (by decide) _ hget
    · cases hbool
  · have haccepts : endsWith (accepts .chat fun m =>
        isText "a\n" (get m "correlation_id")) (pyText
          "\x7b\"type\": \"chat\", \"correlation_id\": \"a\\n\"\x7d")
        = true := by
      decide +kernel
    refine not_exact_of_accepts haccepts fun message htext hs => ?_
    unfold isText at htext
    split at htext
    · rename_i s hget
      have hmeets := hs.conforms.constrained correlationId
        (by simp [schemas]) _ hget
      have hword := hmeets.2.2.1 rfl
      rw [beq_iff_eq.mp htext] at hword
      revert hword
      decide +kernel
    · cases htext
  · have haccepts : endsWith (accepts .cityActionsQuery fun m =>
        isBareDict (get m "data")) (pyText
          "\x7b\"type\": \"city_actions_query\", \"data\": \x7b\x7d\x7d")
        = true := by
      decide +kernel
    refine not_exact_of_accepts haccepts fun message hbare hs => ?_
    obtain ⟨data, hdata, hcities⟩ := (hasKeys_iff.mp hs.keys).1 rfl
    rw [hdata] at hbare
    unfold isBareDict at hbare
    split at hbare
    · rename_i heq
      cases heq
      cases hcities
    · cases hbare
  · exact not_exact_of_breaks (by decide +kernel)
  · exact not_exact_of_breaks (by decide +kernel)

end MessageValidator

end Freeciv3d.Proxy
