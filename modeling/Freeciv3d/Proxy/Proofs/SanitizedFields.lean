/-
What the sanitizer lets through: only the fields its branches name,
ids as integers, and the type as the cleaned text of the raw one.

# The shape

A branch is a row of `copy` steps, so a property of every field of the
output (`Carries`) is kept step by step; `fieldOk` is the property of
record. What one branch keeps of one field follows from `get?_copy`.
-/
import Freeciv3d.Proxy.ActionSanitizer

namespace Freeciv3d.Proxy

open Lib

namespace ActionSanitizer

variable {rt : PyRuntime} {action s s' : PyDict}

-- ==== the single steps

theorem sanitizeId_eq_ok {field : String} {most : Int} {v w : PyVal}
    (h : sanitizeId rt field most v = .ok w) :
    ∃ n, w = .int n ∧ 0 ≤ n ∧ n ≤ most := by
  obtain ⟨n, _, hn⟩ := except_bind_eq_ok.mp h
  split at hn
  next hrange =>
    cases hn
    exact ⟨n, rfl, hrange⟩
  next => cases hn

theorem get?_copy_of_ne {key k : String}
    {check : PyVal → Except PyError PyVal}
    (h : copy key check action s = .ok s') (hne : k ≠ key) :
    s'.get? k = s.get? k := by
  unfold copy at h
  split at h
  · cases h
    rfl
  · obtain ⟨w, _, rfl⟩ := map_eq_ok.mp h
    exact s.get?_set_of_ne w hne

theorem get?_copy_self {key : String}
    {check : PyVal → Except PyError PyVal} {v : PyVal}
    (h : copy key check action s = .ok s')
    (hv : action.get? key = some v) :
    ∃ w, check v = .ok w ∧ s'.get? key = some w := by
  unfold copy at h
  rw [hv] at h
  obtain ⟨w, hw, rfl⟩ := map_eq_ok.mp h
  exact ⟨w, hw, s.get?_set_self key w⟩

theorem get?_copyCoordinates_of_ne {keyX keyY k : String}
    (h : copyCoordinates rt keyX keyY action s = .ok s') (hx : k ≠ keyX)
    (hy : k ≠ keyY) : s'.get? k = s.get? k := by
  unfold copyCoordinates at h
  split at h
  · obtain ⟨⟨m, n⟩, _, rfl⟩ := map_eq_ok.mp h
    rw [(s.set keyX (.int m)).get?_set_of_ne _ hy, s.get?_set_of_ne _ hx]
  · cases h
    rfl

theorem get?_copyTarget_of_ne {k : String}
    (h : copyTarget rt action s = .ok s') (hk : k ≠ "target") :
    s'.get? k = s.get? k := by
  unfold copyTarget at h
  split at h
  · obtain ⟨w, _, rfl⟩ := map_eq_ok.mp h
    exact s.get?_set_of_ne w hk
  · cases h
    rfl

-- ==== every field at once

/-- Every field of a dict has a property. -/
def Carries (P : String → PyVal → Prop) (s : PyDict) : Prop :=
  ∀ k v, s.get? k = some v → P k v

variable {P : String → PyVal → Prop}

theorem carries_empty : Carries P ∅ := by
  intro k v h
  cases h

theorem carries_set {key : String} {w : PyVal} (hs : Carries P s)
    (hw : P key w) : Carries P (s.set key w) := by
  intro k v h
  by_cases hk : k = key
  · subst hk
    rw [s.get?_set_self] at h
    cases h
    exact hw
  · rw [s.get?_set_of_ne w hk] at h
    exact hs k v h

theorem carries_copy {key : String} {check : PyVal → Except PyError PyVal}
    (h : copy key check action s = .ok s') (hs : Carries P s)
    (hcheck : action.contains key = true →
      ∀ v w, check v = .ok w → P key w) : Carries P s' := by
  unfold copy at h
  split at h
  · cases h
    exact hs
  next v hv =>
    obtain ⟨w, hw, rfl⟩ := map_eq_ok.mp h
    exact carries_set hs (hcheck (Dict.contains_iff.mpr ⟨v, hv⟩) v w hw)

theorem carries_copyCoordinates {keyX keyY : String}
    (h : copyCoordinates rt keyX keyY action s = .ok s')
    (hs : Carries P s)
    (hx : action.contains keyX = true → ∀ n, P keyX (.int n))
    (hy : action.contains keyY = true → ∀ n, P keyY (.int n)) :
    Carries P s' := by
  unfold copyCoordinates at h
  split at h
  next x y hvx hvy =>
    obtain ⟨⟨m, n⟩, _, rfl⟩ := map_eq_ok.mp h
    exact carries_set
      (carries_set hs (hx (Dict.contains_iff.mpr ⟨x, hvx⟩) m))
      (hy (Dict.contains_iff.mpr ⟨y, hvy⟩) n)
  next =>
    cases h
    exact hs

theorem carries_copyTarget (h : copyTarget rt action s = .ok s')
    (hs : Carries P s)
    (ht : action.contains "target" = true → ∀ w, P "target" w) :
    Carries P s' := by
  unfold copyTarget at h
  split at h
  next target hv =>
    obtain ⟨w, _, rfl⟩ := map_eq_ok.mp h
    exact carries_set hs (ht (Dict.contains_iff.mpr ⟨_, hv⟩) w)
  next =>
    cases h
    exact hs

-- ==== the fields

def sanitizedKeys : List String :=
  ["type", "unit_id", "player_id", "dest_x", "dest_y", "city_id",
    "production_type", "tech_name", "name", "target_player_id", "message",
    "target", "target_x", "target_y", "target_unit_id", "target_city_id",
    "timestamp", "priority"]

def actorKeys : List String := ["unit_id", "city_id", "player_id"]

/-- A property of fields that copying from the action cannot break: it
holds of every integer in a known field, and of anything in a field that
is neither the type nor says who acts. -/
structure Copied (action : PyDict) (P : String → PyVal → Prop) : Prop where
  int : ∀ k ∈ sanitizedKeys, k ≠ "type" → action.contains k = true →
    ∀ n, P k (.int n)
  other : ∀ k ∈ sanitizedKeys, k ∉ "type" :: actorKeys →
    action.contains k = true → ∀ v, P k v

section branches

variable (hP : Copied action P)

include hP

theorem Copied.id {k field : String} {most : Int}
    (hk : k ∈ sanitizedKeys) (hne : k ≠ "type")
    (ha : action.contains k = true) (v w : PyVal)
    (h : sanitizeId rt field most v = .ok w) : P k w := by
  obtain ⟨n, rfl, _⟩ := sanitizeId_eq_ok h
  exact hP.int k hk hne ha n

theorem carries_unitMoveFields (hs : Carries P s)
    (h : unitMoveFields rt action s = .ok s') : Carries P s' := by
  obtain ⟨s₁, h₁, h⟩ := bind_eq_ok.mp h
  obtain ⟨s₂, h₂, h₃⟩ := bind_eq_ok.mp h
  have c₁ := carries_copy h₁ hs (hP.id (by decide) (by decide))
  have c₂ := carries_copyCoordinates h₂ c₁
    (hP.int _ (by decide) (by decide)) (hP.int _ (by decide) (by decide))
  exact carries_copy h₃ c₂ (hP.id (by decide) (by decide))

theorem carries_cityProductionFields (hs : Carries P s)
    (h : cityProductionFields rt action s = .ok s') : Carries P s' := by
  obtain ⟨s₁, h₁, h⟩ := bind_eq_ok.mp h
  obtain ⟨s₂, h₂, h₃⟩ := bind_eq_ok.mp h
  have c₁ := carries_copy h₁ hs (hP.id (by decide) (by decide))
  have c₂ := carries_copy h₂ c₁
    (fun ha _ w _ => hP.other _ (by decide) (by decide) ha w)
  exact carries_copy h₃ c₂ (hP.id (by decide) (by decide))

theorem carries_techResearchFields (hs : Carries P s)
    (h : techResearchFields rt action s = .ok s') : Carries P s' := by
  obtain ⟨s₁, h₁, h₂⟩ := bind_eq_ok.mp h
  have c₁ := carries_copy h₁ hs
    (fun ha _ w _ => hP.other _ (by decide) (by decide) ha w)
  exact carries_copy h₂ c₁ (hP.id (by decide) (by decide))

theorem carries_unitBuildCityFields (hs : Carries P s)
    (h : unitBuildCityFields rt action s = .ok s') : Carries P s' := by
  obtain ⟨s₁, h₁, h⟩ := bind_eq_ok.mp h
  obtain ⟨s₂, h₂, h₃⟩ := bind_eq_ok.mp h
  have c₁ := carries_copy h₁ hs (hP.id (by decide) (by decide))
  have c₂ := carries_copy h₂ c₁ (hP.id (by decide) (by decide))
  exact carries_copy h₃ c₂
    (fun ha _ w _ => hP.other _ (by decide) (by decide) ha w)

theorem carries_diplomacyFields (hs : Carries P s)
    (h : diplomacyFields rt action s = .ok s') : Carries P s' := by
  obtain ⟨s₁, h₁, h⟩ := bind_eq_ok.mp h
  obtain ⟨s₂, h₂, h₃⟩ := bind_eq_ok.mp h
  have c₁ := carries_copy h₁ hs (hP.id (by decide) (by decide))
  have c₂ := carries_copy h₂ c₁ (hP.id (by decide) (by decide))
  exact carries_copy h₃ c₂
    (fun ha _ w _ => hP.other _ (by decide) (by decide) ha w)

theorem carries_unitFields (hs : Carries P s)
    (h : unitFields rt action s = .ok s') : Carries P s' := by
  simp only [unitFields, bind_eq_ok] at h
  obtain ⟨s₁, h₁, s₂, h₂, s₃, h₃, s₄, h₄, s₅, h₅, s₆, h₆, s₇, h₇, h₈⟩ := h
  have c₁ := carries_copy h₁ hs (hP.id (by decide) (by decide))
  have c₂ := carries_copy h₂ c₁ (hP.id (by decide) (by decide))
  have c₃ := carries_copyTarget h₃ c₂
    (hP.other _ (by decide) (by decide))
  have c₄ := carries_copy h₄ c₃
    (fun ha _ w _ => hP.other _ (by decide) (by decide) ha w)
  have c₅ := carries_copy h₅ c₄
    (fun ha _ w _ => hP.other _ (by decide) (by decide) ha w)
  have c₆ := carries_copyCoordinates h₆ c₅
    (hP.int _ (by decide) (by decide)) (hP.int _ (by decide) (by decide))
  have c₇ := carries_copy h₇ c₆ (hP.id (by decide) (by decide))
  exact carries_copy h₈ c₇ (hP.id (by decide) (by decide))

theorem carries_branchFields {type : String} (hs : Carries P s)
    (h : branchFields rt action type s = .ok s') : Carries P s' := by
  unfold branchFields at h
  split at h
  · exact carries_unitMoveFields hP hs h
  split at h
  · exact carries_cityProductionFields hP hs h
  split at h
  · exact carries_techResearchFields hP hs h
  split at h
  · exact carries_unitBuildCityFields hP hs h
  split at h
  · exact carries_diplomacyFields hP hs h
  split at h
  · exact carries_unitFields hP hs h
  · cases h
    exact hs

end branches

theorem safeFields_eq_ok (h : safeFields rt action s = .ok s') :
    ∃ s₁ check, copy "timestamp" check action s = .ok s₁
      ∧ (s' = s₁ ∨ ∃ p, action.contains "priority" = true
        ∧ s' = s₁.set "priority" (.str p)) := by
  obtain ⟨s₁, h₁, h₂⟩ := bind_eq_ok.mp h
  refine ⟨s₁, _, h₁, ?_⟩
  split at h₂
  next p hp =>
    split at h₂
    · cases h₂
      exact Or.inr ⟨p, Dict.contains_iff.mpr ⟨_, hp⟩, rfl⟩
    · cases h₂
      exact Or.inl rfl
  next =>
    cases h₂
    exact Or.inl rfl

theorem carries_safeFields (hP : Copied action P) (hs : Carries P s)
    (h : safeFields rt action s = .ok s') : Carries P s' := by
  obtain ⟨s₁, check, h₁, hs'⟩ := safeFields_eq_ok h
  have c₁ := carries_copy h₁ hs
    (fun ha _ w _ => hP.other _ (by decide) (by decide) ha w)
  rcases hs' with rfl | ⟨p, hp, rfl⟩
  · exact c₁
  · exact carries_set c₁ (hP.other _ (by decide) (by decide) hp _)

theorem get?_safeFields (h : safeFields rt action s = .ok s') {k : String}
    (ht : k ≠ "timestamp") (hp : k ≠ "priority") : s'.get? k = s.get? k := by
  obtain ⟨s₁, check, h₁, hs'⟩ := safeFields_eq_ok h
  have hk := get?_copy_of_ne h₁ ht
  rcases hs' with rfl | ⟨p, _, rfl⟩
  · exact hk
  · rw [s₁.get?_set_of_ne _ hp]
    exact hk

-- ==== the whole action

/-- The type field of a type that passes: the cleaned type, if there is
one. -/
def cleanType (t : String) : PyDict :=
  if t = "" then ∅ else (∅ : PyDict).set "type" (.str (clean t))

theorem sanitizeText_eq_ok {fieldType t u : String} {maxLength : Option Nat}
    (h : sanitizeText rt fieldType maxLength t = .ok u) : u = clean t := by
  obtain ⟨_, _, h⟩ := bind_eq_ok.mp h
  obtain ⟨_, _, h⟩ := bind_eq_ok.mp h
  obtain ⟨_, _, h⟩ := bind_eq_ok.mp h
  cases h
  rfl

theorem typeField_eq_ok {t : String} (h : typeField rt (.str t) = .ok s) :
    s = cleanType t := by
  unfold cleanType
  by_cases he : t = ""
  · subst he
    cases h
    rfl
  · have htrue : (PyVal.str t).truthy = true := by simp [PyVal.truthy, he]
    unfold typeField at h
    rw [if_pos htrue] at h
    obtain ⟨u, hu, rfl⟩ := map_eq_ok.mp h
    rw [if_neg he, sanitizeText_eq_ok hu]

/-- A sanitised action, taken apart: the type is a string, its branch
and then the safe fields are added to the type field. -/
theorem sanitizeActionData_eq_ok
    (h : sanitizeActionData rt action = .ok s) :
    ∃ t s₁, actionType action = .str t
      ∧ branchFields rt action t (cleanType t) = .ok s₁
      ∧ safeFields rt action s₁ = .ok s := by
  obtain ⟨s₀, h₀, h⟩ := bind_eq_ok.mp h
  split at h
  next t ht =>
    obtain ⟨s₁, h₁, h₂⟩ := bind_eq_ok.mp h
    rw [ht] at h₀
    rw [typeField_eq_ok h₀] at h₁
    exact ⟨t, s₁, ht, h₁, h₂⟩
  next => cases h

/-- A property the copies keep, and that holds of the cleaned type,
holds of every field of a sanitised action. -/
theorem carries_sanitized (hP : Copied action P)
    (h : sanitizeActionData rt action = .ok s)
    (ht : ∀ t, actionType action = .str t → P "type" (.str (clean t))) :
    Carries P s := by
  obtain ⟨t, s₁, hact, h₁, h₂⟩ := sanitizeActionData_eq_ok h
  have c₀ : Carries P (cleanType t) := by
    unfold cleanType
    split
    · exact carries_empty
    · exact carries_set carries_empty (ht t hact)
  exact carries_safeFields hP (carries_branchFields hP c₀ h₁) h₂

/-- A field of a sanitised action: a known one, an integer when it says
who acts, and one the action had, but for the type. -/
def fieldOk (action : PyDict) (k : String) (v : PyVal) : Prop :=
  k ∈ sanitizedKeys ∧ (k ∈ actorKeys → ∃ n, v = .int n)
    ∧ (k = "type" ∨ action.contains k = true)

theorem fieldOk_copied : Copied action (fieldOk action) where
  int _ hk _ ha n := ⟨hk, fun _ => ⟨n, rfl⟩, Or.inr ha⟩
  other _ hk hne ha _ :=
    ⟨hk, fun h => absurd (List.mem_cons_of_mem _ h) hne, Or.inr ha⟩

theorem fieldOk_sanitized (h : sanitizeActionData rt action = .ok s) :
    Carries (fieldOk action) s :=
  carries_sanitized fieldOk_copied h fun _ _ =>
    ⟨by decide, fun hk => absurd hk (by decide), Or.inl rfl⟩

theorem type_sanitized {t : String} {v : PyVal}
    (h : sanitizeActionData rt action = .ok s)
    (hact : actionType action = .str t) (hv : s.get? "type" = some v) :
    v = .str (clean t) := by
  have hP : Copied action fun k v => k = "type" → v = .str (clean t) :=
    ⟨fun _ _ hne _ _ hk => absurd hk hne,
      fun k _ hne _ _ hk => absurd hk fun hk => hne (by simp [hk])⟩
  refine carries_sanitized hP h ?_ "type" v hv rfl
  intro u hu _
  rw [hact] at hu
  cases hu
  rfl

-- ==== the generic unit branch

theorem unitFields_spec (h : unitFields rt action s = .ok s') :
    s'.get? "type" = s.get? "type"
      ∧ ∀ v, action.get? "unit_id" = some v →
        ∃ n, s'.get? "unit_id" = some (.int n) := by
  simp only [unitFields, bind_eq_ok] at h
  obtain ⟨s₁, h₁, s₂, h₂, s₃, h₃, s₄, h₄, s₅, h₅, s₆, h₆, s₇, h₇, h₈⟩ := h
  have hlater : ∀ k, k = "type" ∨ k = "unit_id" → s'.get? k = s₁.get? k := by
    intro k hk
    rcases hk with rfl | rfl
    · rw [get?_copy_of_ne h₈ (by decide), get?_copy_of_ne h₇ (by decide),
        get?_copyCoordinates_of_ne h₆ (by decide) (by decide),
        get?_copy_of_ne h₅ (by decide), get?_copy_of_ne h₄ (by decide),
        get?_copyTarget_of_ne h₃ (by decide), get?_copy_of_ne h₂ (by decide)]
    · rw [get?_copy_of_ne h₈ (by decide), get?_copy_of_ne h₇ (by decide),
        get?_copyCoordinates_of_ne h₆ (by decide) (by decide),
        get?_copy_of_ne h₅ (by decide), get?_copy_of_ne h₄ (by decide),
        get?_copyTarget_of_ne h₃ (by decide), get?_copy_of_ne h₂ (by decide)]
  refine ⟨?_, ?_⟩
  · rw [hlater _ (Or.inl rfl), get?_copy_of_ne h₁ (by decide)]
  · intro v hv
    obtain ⟨w, hw, hget⟩ := get?_copy_self h₁ hv
    obtain ⟨n, rfl, _⟩ := sanitizeId_eq_ok hw
    exact ⟨n, by rw [hlater _ (Or.inr rfl), hget]⟩

theorem startsWith_of_unit_id {t : String}
    (h : branchFields rt action t s = .ok s') (hs : s.get? "unit_id" = none)
    {v : PyVal} (hv : s'.get? "unit_id" = some v) :
    PyStr.startsWith t "unit_" = true := by
  unfold branchFields at h
  split at h
  next ht =>
    rw [ht]
    decide
  split at h
  · obtain ⟨s₁, h₁, h⟩ := bind_eq_ok.mp h
    obtain ⟨s₂, h₂, h₃⟩ := bind_eq_ok.mp h
    rw [get?_copy_of_ne h₃ (by decide), get?_copy_of_ne h₂ (by decide),
      get?_copy_of_ne h₁ (by decide), hs] at hv
    cases hv
  split at h
  · obtain ⟨s₁, h₁, h₂⟩ := bind_eq_ok.mp h
    rw [get?_copy_of_ne h₂ (by decide), get?_copy_of_ne h₁ (by decide),
      hs] at hv
    cases hv
  split at h
  next ht =>
    rw [ht]
    decide
  split at h
  · obtain ⟨s₁, h₁, h⟩ := bind_eq_ok.mp h
    obtain ⟨s₂, h₂, h₃⟩ := bind_eq_ok.mp h
    rw [get?_copy_of_ne h₃ (by decide), get?_copy_of_ne h₂ (by decide),
      get?_copy_of_ne h₁ (by decide), hs] at hv
    cases hv
  split at h
  next ht => exact ht
  next =>
    cases h
    rw [hs] at hv
    cases hv

end ActionSanitizer

end Freeciv3d.Proxy
