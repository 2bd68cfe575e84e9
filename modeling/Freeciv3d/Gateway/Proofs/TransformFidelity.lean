/-
When the translation of a message is faithful, type by type.

# What is given

A field is given in `data`, if the message has it, else at the top
level; a `None` in `data` gives nothing. The action is `data` itself, or
else the `action` of the message, or else the message's own fields. A
`correlation_id` may be given at either place.

# Shape of the argument

Every translation is one dict for a message whose `data` can be merged
(`faithful_iff_carries`), so for each type what is left is a comparison
of its fields with the merged ones (`value_flat`). The types that only
keep a list of fields share one lemma (`carries_kept`), and so do those
that pass everything on (`carries_passed`).
-/
import Freeciv3d.Gateway.MessageTransform

namespace Freeciv3d.Gateway.Transform

open Lib

variable {m d fwd : PyDict} {name : String} {v : PyVal}

-- ==== faithful translation

def MessageType.atProxy : MessageType → MessageType
  | .actionSubmit => .action
  | k => k

def mappedType (m : PyDict) : PyVal :=
  if kind m = .actionSubmit then .str "action" else value m "type"

def dataFields (m : PyDict) : Except Lib.PyError PyDict :=
  match m.get? "data" with
  | some data => data.updateFields
  | none => .ok ∅

def givenAction (m : PyDict) : PyVal :=
  match m.get? "data" with
  | some data => data
  | none =>
    if kind m = .action ∧ (value m "action").isNull then ownFields m
    else value m "action"

/-- The value that the message gives for a field, if it gives one. -/
def given (m d : PyDict) (name : String) : Option PyVal :=
  if (kind m).atProxy = .action then some (givenAction m)
  else if m.contains "data" then
    if (value d name).isNull then none else some (value d name)
  else some (value m name)

def correlationIds (m d : PyDict) : List PyVal :=
  [value m "correlation_id", value d "correlation_id"].filter
    fun v => !v.isNull

/-- The proxy's message has the type, every field and the correlation id
of the agent's. -/
structure Carries (m d fwd : PyDict) : Prop where
  type : value fwd "type" = mappedType m
  fields : ∀ name ∈ (kind m).atProxy.fieldsRead, ∀ v ∈ given m d name,
    (kind m).atProxy.read fwd name = v
  correlation : correlationIds m d ≠ [] →
    value fwd "correlation_id" ∈ correlationIds m d

/-- The message is forwarded, and so translated. -/
def Faithful (m : PyDict) : Prop :=
  ∃ d fwd, dataFields m = .ok d ∧ forwardToProxy m = .ok (some fwd) ∧
    Carries m d fwd

-- ==== the condition

/-- `data` does not overwrite the type. -/
def KeepsType (m d : PyDict) : Prop :=
  ∀ v, d.get? "type" = some v → v = value m "type"

/-- `data` does not overwrite a correlation id with `None`. -/
def KeepsCorrelation (m d : PyDict) : Prop :=
  d.get? "correlation_id" = some .null →
    value m "correlation_id" = .null

def NoCorrelation (m d : PyDict) : Prop :=
  value m "correlation_id" = .null ∧ value d "correlation_id" = .null

def OneAction (m : PyDict) : Prop :=
  ∀ data, m.get? "data" = some data →
    value m "action" = .null ∨ value m "action" = data

/-- An `action` has its action in `data` or spread over the message; an
`action` field beside it is a dict. -/
def NotNested (m : PyDict) : Prop :=
  (m.get? "data" = none → m.get? "action" = none) ∧
    ∀ v, m.get? "action" = some v → v.isDict = true

def MessageInDict (m d : PyDict) : Prop :=
  value d "message" ≠ .null →
    (∃ entries, m.get? "data" = some (.dict entries)) ∨
      value m "message" = value d "message"

/-- A `data` inside `data` does not hide the unit ids. -/
def UnitIdsShown (d : PyDict) : Prop :=
  value d "unit_ids" ≠ .null → ∀ inner, d.get? "data" = some inner →
    ∃ entries, inner = .dict entries ∧
      ∀ v, (PyVal.fields entries).get? "unit_ids" = some v →
        v = value d "unit_ids"

/-- City ids are given in a `data` inside `data`, or not at all. -/
def CityIdsInside (m d : PyDict) : Prop :=
  (m.get? "data" = none → value m "city_ids" = .null) ∧
    (value d "city_ids" ≠ .null →
      inData d "city_ids" = value d "city_ids")

/-- What each type needs of the message and of what its `data`
assigns. -/
def CarriedBy (m d : PyDict) : MessageType → Prop
  | .llmConnect => KeepsType m d ∧ NoCorrelation m d
  | .stateQuery => KeepsType m d ∧ NoCorrelation m d
  | .ping => KeepsType m d ∧ NoCorrelation m d
  | .playerReady => KeepsType m d ∧ NoCorrelation m d
  | .actionSubmit => OneAction m ∧ NoCorrelation m d
  | .action => NotNested m ∧ NoCorrelation m d
  | .chat => MessageInDict m d ∧
      (value d "correlation_id" ≠ .null →
        value m "correlation_id" ≠ .null)
  | .unitActionsQuery =>
    KeepsType m d ∧ KeepsCorrelation m d ∧ UnitIdsShown d
  | .cityActionsQuery =>
    KeepsType m d ∧ KeepsCorrelation m d ∧ CityIdsInside m d
  | _ => KeepsType m d ∧ KeepsCorrelation m d

/-- `data` can be merged, and the type's need is met. -/
def CarriedOver (m : PyDict) : Prop :=
  ∃ d, dataFields m = .ok d ∧ CarriedBy m d (kind m)

-- ==== merged fields

def flat (m d : PyDict) : PyDict :=
  if m.contains "data" then (m.erase "data").update d else m

theorem isNull_iff : v.isNull = true ↔ v = .null := by
  cases v <;> simp [PyVal.isNull]

theorem flatten_eq (hd : dataFields m = .ok d) :
    flatten m = .ok (flat m d) := by
  unfold flatten flat
  unfold dataFields at hd
  cases hdata : m.get? "data" with
  | none =>
    rw [if_neg (by simp [Dict.contains, hdata])]
  | some data =>
    rw [hdata] at hd
    dsimp only at hd ⊢
    rw [hd, if_pos (by simp [Dict.contains, hdata])]
    rfl

theorem fields_eq_empty (hd : dataFields m = .ok d)
    (hdata : m.get? "data" = none) : d = ∅ := by
  unfold dataFields at hd
  rw [hdata] at hd
  exact (Except.ok.inj hd).symm

theorem get?_flat (hd : dataFields m = .ok d) (name : String) :
    (flat m d).get? name = (d.get? name).or
      (if name = "data" then none else m.get? name) := by
  unfold flat
  cases hdata : m.get? "data" with
  | none =>
    rw [if_neg (by simp [Dict.contains, hdata]),
      fields_eq_empty hd hdata, Dict.get?_empty]
    by_cases hname : name = "data"
    · rw [if_pos hname, hname, hdata]
      rfl
    · rw [if_neg hname]
      rfl
  | some data =>
    rw [if_pos (by simp [Dict.contains, hdata]), Dict.get?_update,
      Dict.get?_erase]

/-- A field of the merged message comes from `data`, or else from the
top level. -/
theorem value_flat (hd : dataFields m = .ok d) (hname : name ≠ "data") :
    value (flat m d) name = (d.get? name).getD (value m name) := by
  unfold value
  rw [get?_flat hd, if_neg hname]
  cases d.get? name <;> rfl

theorem value_filter (t : PyDict) (allowed : List String) :
    value (t.filter fun name _ => name ∈ allowed) name =
      if name ∈ allowed then value t name else .null := by
  unfold value
  rw [Dict.get?_filter]
  by_cases hname : name ∈ allowed
  · rw [if_pos hname]
    cases t.get? name <;> simp [Option.filter, hname]
  · rw [if_neg hname]
    cases t.get? name <;> simp [Option.filter, hname]

-- ==== comparing the fields

theorem keepsType_iff (hd : dataFields m = .ok d) :
    value (flat m d) "type" = value m "type" ↔ KeepsType m d := by
  rw [value_flat hd (by decide)]
  unfold KeepsType
  cases htype : d.get? "type" with
  | none => simp
  | some v => simp

theorem mem_correlationIds_iff :
    v ∈ correlationIds m d ↔
      (v = value m "correlation_id" ∨ v = value d "correlation_id") ∧
        v ≠ .null := by
  unfold correlationIds
  rw [List.mem_filter]
  simp [← isNull_iff]

theorem correlationIds_eq_nil_iff :
    correlationIds m d = [] ↔ NoCorrelation m d := by
  unfold NoCorrelation
  rw [List.eq_nil_iff_forall_not_mem]
  constructor
  · intro hnone
    constructor
    · by_contra hne
      exact hnone _ (mem_correlationIds_iff.mpr ⟨.inl rfl, hne⟩)
    · by_contra hne
      exact hnone _ (mem_correlationIds_iff.mpr ⟨.inr rfl, hne⟩)
  · rintro ⟨hm, hd⟩ v hv
    obtain ⟨hv | hv, hne⟩ := mem_correlationIds_iff.mp hv
    · exact hne (hv.trans hm)
    · exact hne (hv.trans hd)

/-- A message without a correlation id carries it only if none is
given. -/
theorem correlation_dropped_iff
    (hfwd : value fwd "correlation_id" = .null) :
    (correlationIds m d ≠ [] →
        value fwd "correlation_id" ∈ correlationIds m d) ↔
      NoCorrelation m d := by
  rw [← correlationIds_eq_nil_iff]
  constructor
  · intro hcarries
    by_contra hne
    have hmem := hcarries hne
    rw [hfwd] at hmem
    exact (mem_correlationIds_iff.mp hmem).2 rfl
  · intro hnil hne
    exact absurd hnil hne

theorem correlation_merged_iff (hd : dataFields m = .ok d)
    (hfwd : value fwd "correlation_id" =
      value (flat m d) "correlation_id") :
    (correlationIds m d ≠ [] →
        value fwd "correlation_id" ∈ correlationIds m d) ↔
      KeepsCorrelation m d := by
  rw [hfwd, value_flat hd (by decide), mem_correlationIds_iff]
  unfold KeepsCorrelation
  constructor
  · intro hcarries hnull
    by_contra hne
    have hmem := hcarries fun hnil =>
      hne (correlationIds_eq_nil_iff.mp hnil).1
    rw [hnull] at hmem
    exact hmem.2 rfl
  · intro hkeeps hne
    have hsome : ¬ NoCorrelation m d :=
      fun h => hne (correlationIds_eq_nil_iff.mpr h)
    unfold NoCorrelation at hsome
    cases hid : d.get? "correlation_id" with
    | none =>
      refine ⟨.inl rfl, fun hnull => hsome ⟨hnull, ?_⟩⟩
      simp [value, hid]
    | some v =>
      refine ⟨.inr (by simp [value, hid]), ?_⟩
      rintro hnull
      have hv : v = .null := hnull
      rw [hv] at hid
      exact hsome ⟨hkeeps hid, by simp [value, hid]⟩

theorem value_of_given (hd : dataFields m = .ok d)
    (hkind : (kind m).atProxy ≠ .action) (hname : name ≠ "data")
    (hv : v ∈ given m d name) : value (flat m d) name = v := by
  unfold given at hv
  rw [if_neg hkind] at hv
  rw [value_flat hd hname]
  by_cases hdata : m.contains "data" = true
  · rw [if_pos hdata] at hv
    split at hv
    · cases hv
    · rename_i hnull
      cases hv
      unfold value at hnull ⊢
      cases hget : d.get? name with
      | none => simp [hget, PyVal.isNull] at hnull
      | some w => rfl
  · rw [if_neg hdata] at hv
    cases hv
    have hnone : m.get? "data" = none := by
      simpa [Dict.contains] using hdata
    rw [fields_eq_empty hd hnone]
    rfl

-- ==== type by type

theorem faithful_iff_carries (hd : dataFields m = .ok d)
    (hfwd : forwardToProxy m = .ok (some fwd)) :
    Faithful m ↔ Carries m d fwd := by
  constructor
  · rintro ⟨d', fwd', hd', hfwd', hcarries⟩
    rw [hd] at hd'
    rw [hfwd] at hfwd'
    cases hd'
    cases hfwd'
    exact hcarries
  · intro hcarries
    exact ⟨d, fwd, hd, hfwd, hcarries⟩

theorem carries_iff :
    Carries m d fwd ↔ value fwd "type" = mappedType m ∧
      (∀ name ∈ (kind m).atProxy.fieldsRead, ∀ v ∈ given m d name,
        (kind m).atProxy.read fwd name = v) ∧
      (correlationIds m d ≠ [] →
        value fwd "correlation_id" ∈ correlationIds m d) :=
  ⟨fun h => ⟨h.type, h.fields, h.correlation⟩,
    fun h => ⟨h.1, h.2.1, h.2.2⟩⟩

/-- Nothing is read of an action before it is translated, nor of another
message. -/
theorem forward_eq (hlog : logAction m = .ok ()) :
    forwardToProxy m = transformToProxyFormat m := by
  unfold forwardToProxy
  rw [hlog]
  rfl

theorem logAction_eq (hkind : kind m ≠ .action) : logAction m = .ok () := by
  unfold logAction
  split
  · rfl
  · rename_i hk _
    exact absurd hk hkind
  · rfl

theorem carries_kept {allowed : List String}
    (hd : dataFields m = .ok d)
    (hmapped : mappedType m = value m "type")
    (hkind : (kind m).atProxy ≠ .action)
    (hread : ∀ fwd name, (kind m).atProxy.read fwd name = value fwd name)
    (htype : "type" ∈ allowed) (hid : "correlation_id" ∉ allowed)
    (hfields : ∀ name ∈ (kind m).atProxy.fieldsRead,
      name ∈ allowed ∧ name ≠ "data") :
    Carries m d ((flat m d).filter fun name _ => name ∈ allowed) ↔
      KeepsType m d ∧ NoCorrelation m d := by
  have hnone : value ((flat m d).filter fun name _ => name ∈ allowed)
      "correlation_id" = .null := by
    rw [value_filter, if_neg hid]
  rw [carries_iff, correlation_dropped_iff hnone, value_filter,
    if_pos htype, hmapped, keepsType_iff hd]
  constructor
  · rintro ⟨hkeeps, -, hno⟩
    exact ⟨hkeeps, hno⟩
  · rintro ⟨hkeeps, hno⟩
    refine ⟨hkeeps, fun name hname v hv => ?_, hno⟩
    obtain ⟨hallowed, hdata⟩ := hfields name hname
    rw [hread, value_filter, if_pos hallowed]
    exact value_of_given hd hkind hdata hv

theorem carries_passed (hd : dataFields m = .ok d)
    (hmapped : mappedType m = value m "type")
    (htype : value fwd "type" = value (flat m d) "type")
    (hid : value fwd "correlation_id" =
      value (flat m d) "correlation_id") :
    Carries m d fwd ↔ KeepsType m d ∧ KeepsCorrelation m d ∧
      ∀ name ∈ (kind m).atProxy.fieldsRead, ∀ v ∈ given m d name,
        (kind m).atProxy.read fwd name = v := by
  rw [carries_iff, correlation_merged_iff hd hid, htype, hmapped,
    keepsType_iff hd]
  constructor
  · rintro ⟨hkeeps, hfields, hcorrelation⟩
    exact ⟨hkeeps, hcorrelation, hfields⟩
  · rintro ⟨hkeeps, hcorrelation, hfields⟩
    exact ⟨hkeeps, hfields, hcorrelation⟩

theorem mappedType_eq (hkind : kind m ≠ .actionSubmit) :
    mappedType m = value m "type" := by
  unfold mappedType
  rw [if_neg hkind]

theorem type_eq_of_kind {k : MessageType} (hk : kind m = k)
    (hother : k ≠ .other) :
    ∃ s, value m "type" = .str s ∧ (s, k) ∈ MessageType.names := by
  unfold kind MessageType.ofVal at hk
  split at hk
  · rename_i s hs
    cases hlookup : MessageType.names.lookup s with
    | none =>
      rw [hlookup] at hk
      exact absurd hk.symm hother
    | some k' =>
      rw [hlookup] at hk
      cases hk
      exact ⟨s, hs, mem_of_lookup hlookup⟩
  · exact absurd hk.symm hother

theorem value_preserve {built : PyDict} (other : String) :
    value (preserve m other built) name =
      if name = other then (m.get? other).getD (value built name)
      else value built name := by
  unfold preserve value
  cases hother : m.get? other with
  | none =>
    dsimp only
    split <;> rfl
  | some v =>
    rw [Dict.get?_set]
    split <;> rfl

theorem faithful_kept {k : MessageType} {allowed : List String}
    (hd : dataFields m = .ok d) (hk : kind m = k)
    (hallowed : k.allowedFields = some allowed)
    (hlisted : k = .llmConnect ∨ k = .stateQuery ∨ k = .ping ∨
      k = .playerReady) :
    Faithful m ↔ KeepsType m d ∧ NoCorrelation m d := by
  have hforward : forwardToProxy m = .ok (some
      ((flat m d).filter fun name _ => name ∈ allowed)) := by
    rw [forward_eq (logAction_eq (by
      rw [hk]
      rcases hlisted with h | h | h | h <;> rw [h] <;> decide))]
    unfold transformToProxyFormat
    rw [flatten_eq hd, hk]
    rcases hlisted with rfl | rfl | rfl | rfl <;> cases hallowed <;> rfl
  rw [faithful_iff_carries hd hforward]
  rcases hlisted with rfl | rfl | rfl | rfl <;> cases hallowed <;>
    refine carries_kept hd (mappedType_eq (by rw [hk]; decide))
      (by rw [hk]; decide) (fun _ _ => by rw [hk]; rfl) (by decide)
      (by decide) ?_ <;>
    rw [hk] <;> decide

theorem forward_whole (hd : dataFields m = .ok d)
    (hk : kind m = .unitActionsQuery ∨ kind m = .cityActionsQuery ∨
      kind m = .other) :
    forwardToProxy m = .ok (some (flat m d)) := by
  rw [forward_eq (logAction_eq (by
    rcases hk with h | h | h <;> rw [h] <;> decide))]
  unfold transformToProxyFormat
  rw [flatten_eq hd]
  rcases hk with h | h | h <;> rw [h] <;> rfl

theorem faithful_global (hd : dataFields m = .ok d)
    (hk : kind m = .globalStateQuery) :
    Faithful m ↔ KeepsType m d ∧ KeepsCorrelation m d := by
  have hforward : forwardToProxy m = .ok (some ((flat m d).filter
      fun name _ =>
        name ∈ ["type", "correlation_id", "trace_context"])) := by
    rw [forward_eq (logAction_eq (by rw [hk]; decide))]
    unfold transformToProxyFormat
    rw [flatten_eq hd, hk]
    rfl
  rw [faithful_iff_carries hd hforward, carries_passed hd
    (mappedType_eq (by rw [hk]; decide))
    (by rw [value_filter, if_pos (by decide)])
    (by rw [value_filter, if_pos (by decide)]), hk]
  constructor
  · rintro ⟨hkeeps, hcorrelation, -⟩
    exact ⟨hkeeps, hcorrelation⟩
  · rintro ⟨hkeeps, hcorrelation⟩
    exact ⟨hkeeps, hcorrelation, nofun⟩

theorem faithful_other (hd : dataFields m = .ok d) (hk : kind m = .other) :
    Faithful m ↔ KeepsType m d ∧ KeepsCorrelation m d := by
  rw [faithful_iff_carries hd (forward_whole hd (.inr (.inr hk))),
    carries_passed hd (mappedType_eq (by rw [hk]; decide)) rfl rfl, hk]
  constructor
  · rintro ⟨hkeeps, hcorrelation, -⟩
    exact ⟨hkeeps, hcorrelation⟩
  · rintro ⟨hkeeps, hcorrelation⟩
    exact ⟨hkeeps, hcorrelation, nofun⟩

theorem get?_flat_data (hd : dataFields m = .ok d) :
    (flat m d).get? "data" = d.get? "data" := by
  rw [get?_flat hd, if_pos rfl]
  cases d.get? "data" <;> rfl

theorem given_query (hd : dataFields m = .ok d)
    (hkind : (kind m).atProxy ≠ .action) :
    (∀ w ∈ given m d name, v = w) ↔
      (m.get? "data" = none → v = value m name) ∧
        (value d name ≠ .null → v = value d name) := by
  unfold given
  rw [if_neg hkind]
  cases hdata : m.get? "data" with
  | none =>
    rw [if_neg (by simp [Dict.contains, hdata]),
      fields_eq_empty hd hdata]
    simp [value, Dict.get?_empty]
  | some data =>
    rw [if_pos (by simp [Dict.contains, hdata])]
    by_cases hnull : value d name = .null
    · rw [if_pos (isNull_iff.mpr hnull)]
      simp [hnull]
    · rw [if_neg fun h => hnull (isNull_iff.mp h)]
      simp [hnull]

theorem faithful_units (hd : dataFields m = .ok d)
    (hk : kind m = .unitActionsQuery) :
    Faithful m ↔ KeepsType m d ∧ KeepsCorrelation m d ∧
      UnitIdsShown d := by
  have hproxy : (kind m).atProxy ≠ .action := by
    rw [hk]
    decide
  have hread : ∀ fwd, (kind m).atProxy.read fwd "unit_ids" = unitIds fwd := by
    intro fwd
    rw [hk]
    rfl
  have hfields : (∀ name ∈ (kind m).atProxy.fieldsRead,
      ∀ v ∈ given m d name, (kind m).atProxy.read (flat m d) name = v) ↔
        UnitIdsShown d := by
    have hlist : (kind m).atProxy.fieldsRead = ["unit_ids"] := by
      rw [hk]
      rfl
    rw [hlist]
    simp only [List.mem_singleton, forall_eq]
    rw [hread, given_query hd hproxy]
    unfold unitIds UnitIdsShown
    rw [get?_flat_data hd, value_flat hd (by decide)]
    cases hinner : d.get? "data" with
    | none =>
      constructor
      · intro _ _ inner hinner
        cases hinner
      · intro _
        refine ⟨fun hdata => ?_, fun hne => ?_⟩
        · rw [fields_eq_empty hd hdata]
          rfl
        · unfold value at hne ⊢
          cases hids : d.get? "unit_ids" with
          | none => simp [hids] at hne
          | some w => rfl
    | some inner =>
      have hdata : m.get? "data" ≠ none := by
        intro hdata
        rw [fields_eq_empty hd hdata] at hinner
        cases hinner
      have hmerged : value d "unit_ids" ≠ .null →
          (d.get? "unit_ids").getD (value m "unit_ids") =
            value d "unit_ids" := by
        intro hne
        unfold value at hne ⊢
        cases hids : d.get? "unit_ids" with
        | none => simp [hids] at hne
        | some w => rfl
      constructor
      · rintro ⟨-, hids⟩ hne inner' hinner'
        cases hinner'
        have hids := hids hne
        cases inner with
        | dict entries =>
          refine ⟨entries, rfl, fun v hv => ?_⟩
          dsimp only at hids
          rw [hv] at hids
          exact hids
        | _ => exact absurd hids.symm hne
      · intro hshown
        refine ⟨fun h => absurd h hdata, fun hne => ?_⟩
        obtain ⟨entries, rfl, hsame⟩ := hshown hne inner rfl
        dsimp only
        cases hids : (PyVal.fields entries).get? "unit_ids" with
        | none => exact hmerged hne
        | some v => exact hsame v hids
  rw [faithful_iff_carries hd (forward_whole hd (.inl hk)),
    carries_passed hd (mappedType_eq (by rw [hk]; decide)) rfl rfl,
    hfields]

theorem faithful_cities (hd : dataFields m = .ok d)
    (hk : kind m = .cityActionsQuery) :
    Faithful m ↔ KeepsType m d ∧ KeepsCorrelation m d ∧
      CityIdsInside m d := by
  have hproxy : (kind m).atProxy ≠ .action := by
    rw [hk]
    decide
  have hread : ∀ fwd, (kind m).atProxy.read fwd "city_ids" =
      inData fwd "city_ids" := by
    intro fwd
    rw [hk]
    rfl
  have hfields : (∀ name ∈ (kind m).atProxy.fieldsRead,
      ∀ v ∈ given m d name, (kind m).atProxy.read (flat m d) name = v) ↔
        CityIdsInside m d := by
    have hlist : (kind m).atProxy.fieldsRead = ["city_ids"] := by
      rw [hk]
      rfl
    have hinner : inData (flat m d) "city_ids" = inData d "city_ids" := by
      unfold inData
      rw [get?_flat_data hd]
    rw [hlist]
    simp only [List.mem_singleton, forall_eq]
    rw [hread, given_query hd hproxy, hinner]
    unfold CityIdsInside
    refine and_congr ?_ Iff.rfl
    constructor
    · intro hsame hdata
      rw [← hsame hdata, fields_eq_empty hd hdata]
      rfl
    · intro hnull hdata
      rw [hnull hdata, fields_eq_empty hd hdata]
      rfl
  rw [faithful_iff_carries hd (forward_whole hd (.inr (.inl hk))),
    carries_passed hd (mappedType_eq (by rw [hk]; decide)) rfl rfl,
    hfields]

-- ==== the new messages

theorem type_of_kind {k : MessageType} (hk : kind m = k) (s : String)
    (hs : ∀ s', (s', k) ∈ MessageType.names → s' = s)
    (hother : k ≠ .other) : value m "type" = .str s := by
  obtain ⟨s', hs', hmem⟩ := type_eq_of_kind hk hother
  rw [hs', hs s' hmem]

theorem faithful_chat (hd : dataFields m = .ok d) (hk : kind m = .chat) :
    Faithful m ↔ MessageInDict m d ∧
      (value d "correlation_id" ≠ .null →
        value m "correlation_id" ≠ .null) := by
  have hforward : forwardToProxy m = .ok (some (chatMessage m)) := by
    rw [forward_eq (logAction_eq (by rw [hk]; decide))]
    unfold transformToProxyFormat
    rw [flatten_eq hd, hk]
    rfl
  have htype : value (chatMessage m) "type" = mappedType m := by
    rw [mappedType_eq (by rw [hk]; decide),
      type_of_kind hk "chat" (by simp [MessageType.names]) (by decide)]
    unfold chatMessage
    rw [value_preserve, if_neg (by decide)]
    rfl
  have hid : value (chatMessage m) "correlation_id" =
      value m "correlation_id" := by
    unfold chatMessage
    rw [value_preserve, if_pos rfl]
    unfold value
    cases m.get? "correlation_id" <;> rfl
  have hmessage : chatText (chatMessage m) =
      if (dataMessage m).isNull then value m "message"
      else dataMessage m := by
    have hnone : (chatMessage m).get? "data" = none := by
      unfold chatMessage preserve
      cases m.get? "correlation_id" with
      | none => rfl
      | some v => rw [Dict.get?_set, if_neg (by decide)]; rfl
    unfold chatText inData
    rw [hnone]
    show value (chatMessage m) "message" = _
    unfold chatMessage
    rw [value_preserve, if_neg (by decide)]
    rfl
  have hlist : (kind m).atProxy.fieldsRead = ["message"] := by
    rw [hk]
    rfl
  have hread : (kind m).atProxy.read (chatMessage m) "message" =
      chatText (chatMessage m) := by
    rw [hk]
    rfl
  have hcorrelation : (correlationIds m d ≠ [] →
      value m "correlation_id" ∈ correlationIds m d) ↔
        (value d "correlation_id" ≠ .null →
          value m "correlation_id" ≠ .null) := by
    rw [mem_correlationIds_iff, ne_eq, correlationIds_eq_nil_iff]
    unfold NoCorrelation
    constructor
    · intro hcarries hne
      exact (hcarries fun h => hne h.2).2
    · intro hboth hsome
      refine ⟨.inl rfl, fun hnull => hsome ⟨hnull, ?_⟩⟩
      by_contra hne
      exact hboth hne hnull
  rw [faithful_iff_carries hd hforward, carries_iff, hid, hcorrelation,
    hlist]
  simp only [List.mem_singleton, forall_eq]
  rw [hread, hmessage, given_query hd (by rw [hk]; decide)]
  have hfields : ((m.get? "data" = none →
        (if (dataMessage m).isNull then value m "message"
          else dataMessage m) = value m "message") ∧
      (value d "message" ≠ .null →
        (if (dataMessage m).isNull then value m "message"
          else dataMessage m) = value d "message")) ↔
      MessageInDict m d := by
    unfold MessageInDict dataMessage
    unfold dataFields at hd
    cases hdata : m.get? "data" with
    | none =>
      rw [hdata] at hd
      cases hd
      simp [PyVal.isNull, value, Dict.get?_empty]
    | some data =>
      rw [hdata] at hd
      cases data with
      | dict entries =>
        cases hd
        simp only [reduceCtorEq, false_implies, true_and]
        constructor
        · intro _ _
          exact .inl ⟨entries, rfl⟩
        · intro _ hne
          rw [if_neg fun h => hne (isNull_iff.mp h)]
      | _ => simp [PyVal.isNull]
  constructor
  · rintro ⟨-, hgiven, hcorrelation⟩
    exact ⟨hfields.mp hgiven, hcorrelation⟩
  · rintro ⟨hgiven, hcorrelation⟩
    exact ⟨htype, hfields.mpr hgiven, hcorrelation⟩

theorem ne_dict_of_mem {key : PyKey} {entries : List (PyKey × PyVal)}
    (hmem : (key, v) ∈ entries) : PyVal.dict entries ≠ v := by
  intro heq
  have hlt := List.sizeOf_lt_of_mem hmem
  have hsize : sizeOf v = 1 + sizeOf entries := by
    rw [← heq, PyVal.dict.sizeOf_spec]
  have hpair : sizeOf (key, v) = 1 + sizeOf key + sizeOf v := rfl
  omega

theorem carries_action {action : PyVal}
    (hk : (kind m).atProxy = .action)
    (hmapped : mappedType m = .str "action") :
    Carries m d (preserve m "timestamp"
        (((∅ : PyDict).set "type" (.str "action")).set "action" action)) ↔
      action = givenAction m ∧ NoCorrelation m d := by
  have hid : value (preserve m "timestamp" (((∅ : PyDict).set "type"
      (.str "action")).set "action" action)) "correlation_id" = .null := by
    rw [value_preserve, if_neg (by decide)]
    rfl
  have haction : actionData (preserve m "timestamp" (((∅ : PyDict).set
      "type" (.str "action")).set "action" action)) = action := by
    unfold actionData preserve
    cases m.get? "timestamp" with
    | none => rfl
    | some v =>
      rw [Dict.get?_set, if_neg (by decide), Dict.get?_set,
        if_neg (by decide)]
      rfl
  have hgiven : ∀ name, given m d name = some (givenAction m) := by
    intro name
    unfold given
    rw [if_pos hk]
  rw [carries_iff, correlation_dropped_iff hid, hk, value_preserve,
    if_neg (by decide), hmapped]
  simp only [hgiven, Option.mem_def, Option.some.injEq, forall_eq']
  constructor
  · rintro ⟨-, hfields, hno⟩
    have hread := hfields "action" (by decide)
    exact ⟨haction.symm.trans hread, hno⟩
  · rintro ⟨hsame, hno⟩
    exact ⟨rfl, fun name _ => haction.trans hsame, hno⟩

theorem faithful_submit (hd : dataFields m = .ok d)
    (hk : kind m = .actionSubmit) :
    Faithful m ↔ OneAction m ∧ NoCorrelation m d := by
  have hforward : forwardToProxy m = .ok (some (submittedAction m)) := by
    rw [forward_eq (logAction_eq (by rw [hk]; decide))]
    unfold transformToProxyFormat
    rw [flatten_eq hd, hk]
    rfl
  have hgiven : (if (value m "action").isNull then value m "data"
      else value m "action") = givenAction m ↔ OneAction m := by
    unfold givenAction OneAction
    cases hdata : m.get? "data" with
    | none =>
      have hnot : ¬ (kind m = .action ∧ (value m "action").isNull) := by
        rw [hk]
        rintro ⟨h, -⟩
        cases h
      have hnull : value m "data" = .null := by simp [value, hdata]
      simp only [if_neg hnot, hnull]
      constructor
      · intro _ _ h
        cases h
      · intro _
        split
        · rename_i haction
          exact (isNull_iff.mp haction).symm
        · rfl
    | some data =>
      have hvalue : value m "data" = data := by simp [value, hdata]
      simp only [hvalue, Option.some.injEq, forall_eq']
      by_cases hnull : value m "action" = .null
      · rw [if_pos (isNull_iff.mpr hnull)]
        exact ⟨fun _ => .inl hnull, fun _ => rfl⟩
      · rw [if_neg fun h => hnull (isNull_iff.mp h)]
        exact ⟨.inr, fun h => h.resolve_left hnull⟩
  rw [faithful_iff_carries hd hforward]
  unfold submittedAction
  rw [carries_action (by rw [hk]; rfl) (by simp [mappedType, hk]), hgiven]

theorem faithful_action (hd : dataFields m = .ok d)
    (hk : kind m = .action) :
    Faithful m ↔ NotNested m ∧ NoCorrelation m d := by
  by_cases hdict : ∀ v, m.get? "action" = some v → v.isDict = true
  · have hlog : logAction m = .ok () := by
      unfold logAction
      rw [hk]
      cases haction : m.get? "action" with
      | none => rfl
      | some v =>
        have hv := hdict v haction
        cases v with
        | dict entries => rfl
        | _ => cases hv
    have hforward : forwardToProxy m =
        .ok (some (nestedAction m (flat m d))) := by
      rw [forward_eq hlog]
      unfold transformToProxyFormat
      rw [flatten_eq hd, hk]
      rfl
    have hgiven : (m.get? "data").getD (ownFields (flat m d)) =
        givenAction m ↔ NotNested m := by
      unfold givenAction NotNested
      cases hdata : m.get? "data" with
      | some data =>
        simp only [Option.getD_some, reduceCtorEq, false_implies, true_and]
        exact ⟨fun _ => hdict, fun _ => trivial⟩
      | none =>
        have hflat : flat m d = m := by
          unfold flat
          rw [if_neg (by simp [Dict.contains, hdata])]
        simp only [Option.getD_none, true_implies, hflat, hk, true_and]
        cases haction : m.get? "action" with
        | none =>
          rw [if_pos (by simp [value, haction, PyVal.isNull])]
          simp
        | some v =>
          have hv := hdict v haction
          have hvalue : value m "action" = v := by
            simp [value, haction]
          have hnull : ¬ v.isNull = true := by
            intro hnull
            rw [isNull_iff.mp hnull] at hv
            cases hv
          rw [hvalue, if_neg hnull]
          have hmem : (PyKey.str "action", v) ∈
              ((m.filter fun name _ => name ∉
                ["type", "agent_id", "timestamp"]).entries.map
                  fun e => (PyKey.str e.1, e.2)) := by
            refine List.mem_map.mpr ⟨("action", v), ?_, rfl⟩
            rw [Dict.mem_entries_iff, Dict.get?_filter, haction]
            simp [Option.filter]
          constructor
          · intro hsame
            exact absurd hsame (ne_dict_of_mem hmem)
          · rintro ⟨hnone, -⟩
            cases hnone
    rw [faithful_iff_carries hd hforward]
    unfold nestedAction
    have htype : value m "type" = .str "action" :=
      type_of_kind hk "action" (by simp [MessageType.names]) (by decide)
    rw [carries_action (by rw [hk]; rfl)
      (by rw [mappedType_eq (by rw [hk]; decide), htype]), hgiven]
  -- the log call raises
  · constructor
    · rintro ⟨-, fwd, -, hforward, -⟩
      exfalso
      push Not at hdict
      obtain ⟨v, hv, hne⟩ := hdict
      unfold forwardToProxy logAction at hforward
      rw [hk, hv] at hforward
      cases v with
      | dict entries => exact hne rfl
      | _ => cases hforward
    · rintro ⟨hnested, -⟩
      exact absurd hnested.2 hdict

-- ==== every message

/-- The translation of a message is faithful exactly when `data` can be
merged and meets what the type needs. -/
theorem translation_faithful_iff (m : PyDict)
    (hpong : kind m ≠ .connPong) : Faithful m ↔ CarriedOver m := by
  cases hd : dataFields m with
  | error e =>
    constructor
    · rintro ⟨d, -, hd', -⟩
      rw [hd] at hd'
      cases hd'
    · rintro ⟨d, hd', -⟩
      rw [hd] at hd'
      cases hd'
  | ok d =>
    have hover : CarriedOver m ↔ CarriedBy m d (kind m) := by
      constructor
      · rintro ⟨d', hd', hcarried⟩
        rw [hd] at hd'
        cases hd'
        exact hcarried
      · intro hcarried
        exact ⟨d, hd, hcarried⟩
    rw [hover]
    cases hk : kind m with
    | llmConnect =>
      exact faithful_kept hd hk rfl (.inl rfl)
    | stateQuery =>
      exact faithful_kept hd hk rfl (.inr (.inl rfl))
    | ping => exact faithful_kept hd hk rfl (.inr (.inr (.inl rfl)))
    | playerReady =>
      exact faithful_kept hd hk rfl (.inr (.inr (.inr rfl)))
    | actionSubmit => exact faithful_submit hd hk
    | action => exact faithful_action hd hk
    | chat => exact faithful_chat hd hk
    | globalStateQuery => exact faithful_global hd hk
    | connPong => exact absurd hk hpong
    | unitActionsQuery => exact faithful_units hd hk
    | cityActionsQuery => exact faithful_cities hd hk
    | other => exact faithful_other hd hk

def formatQuery : PyDict :=
  .ofList [("type", .str "state_query"), ("agent_id", .str "a"),
    ("data", .dict [(.str "format", .str "full")])]

theorem translation_faithful_query : Faithful formatQuery := by
  refine (translation_faithful_iff formatQuery (by decide)).mpr
    ⟨_, rfl, ?_, rfl, rfl⟩
  intro v hv
  cases hv

def correlatedQuery : PyDict :=
  .ofList [("type", .str "state_query"), ("correlation_id", .str "q1"),
    ("data", .dict [(.str "format", .str "full")])]

/-- A query whose `data` has a type of its own. -/
def retypedQuery : PyDict :=
  .ofList [("type", .str "unit_actions_query"), ("agent_id", .str "a"),
    ("data", .dict [(.str "type", .str "end"),
      (.str "unit_ids", .list [.int 7])])]

/-- A query in the format of the proxy's documentation. -/
def cityQuery : PyDict :=
  .ofList [("type", .str "city_actions_query"),
    ("data", .dict [(.str "city_ids", .list [.int 5])])]

def plainAction : PyDict :=
  .ofList [("type", .str "action"),
    ("action", .dict [(.str "type", .str "end_turn")])]

def writtenAction : PyDict :=
  .ofList [("type", .str "action_submit"), ("data", .str "end_turn")]

/-- The correlation id of a query is dropped, a type in `data` replaces
the message's, city ids arrive where they are not read, an action is
wrapped a second time, and a string in `data` cannot be merged. -/
theorem translation_not_faithful :
    ¬ Faithful correlatedQuery ∧ ¬ Faithful retypedQuery ∧
      ¬ Faithful cityQuery ∧ ¬ Faithful plainAction ∧
      ¬ Faithful writtenAction := by
  refine ⟨fun h => ?_, fun h => ?_, fun h => ?_, fun h => ?_, ?_⟩
  · have hno := ((faithful_kept rfl rfl rfl (.inr (.inl rfl))).mp h).2.1
    cases hno
  · have hkeeps := ((faithful_units rfl rfl).mp h).1 _ rfl
    have hname : "end" = "unit_actions_query" := PyVal.str.inj hkeeps
    exact absurd hname (by decide)
  · have hinside := ((faithful_cities rfl rfl).mp h).2.2.2 nofun
    cases hinside
  · have hnested := ((faithful_action rfl rfl).mp h).1.1 rfl
    cases hnested
  · rintro ⟨d, fwd, hd, -, -⟩
    cases hd

end Freeciv3d.Gateway.Transform
