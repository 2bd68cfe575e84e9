/-
What the sanitizer keeps of a well-formed action: which fields, by the
route its type takes, and that they come out as they went in, but for
the outer white space and the control characters of texts.

# The routes

`branchFields` is a chain of comparisons; `routeOf` names its outcome
and `Route.kept` lists the fields that are copied one at a time. `Agrees`
says that an output has exactly these; each copy step adds its field
(`agrees_copy`), so a branch is its row of steps.

# Coordinates

Two coordinates are copied only together, and the nested target is made
anew. They stand apart from the list of fields: `keepsMove` for a move,
`extract_sanitized` for every other order to a unit.
-/
import Mathlib.Data.List.TakeWhile
import Freeciv3d.Proxy.MovesTracking
import Freeciv3d.Proxy.Proofs.SanitizedFields

namespace Freeciv3d.Proxy

open Lib ActionSanitizer CoordinateUtils

namespace KeptFields

variable {rt : PyRuntime} {action s s' : PyDict}

-- ==== well-formed actions

def numberKeys : List String :=
  ["unit_id", "city_id", "player_id", "target_player_id", "target_unit_id",
    "target_city_id", "target_id", "tile_id", "dest_x", "dest_y", "target_x",
    "target_y"]

def textKeys : List String :=
  ["production_type", "tech_name", "name", "message"]

/-- Numbers are integers, texts are strings. The ranges and the patterns
are the sanitizer's own. -/
structure WellFormed (action : PyDict) : Prop where
  number : ∀ k ∈ numberKeys, ∀ v, action.get? k = some v → ∃ n, v = .int n
  text : ∀ k ∈ textKeys, ∀ v, action.get? k = some v → ∃ t, v = .str t
  target : ∀ entries, action.get? "target" = some (.dict entries) →
    ∀ k ∈ ["x", "y"], ∀ v, PyVal.field? entries k = some v → ∃ n, v = .int n

def cleanMessage (t : String) : String :=
  String.ofList (((clean t).toList.map fun c =>
    if c == '\n' || c == '\r' then ' ' else c).dropWhile (· == '/'))

def cleaned (key : String) : PyVal → PyVal
  | .str t => .str (if key = "message" then cleanMessage t else clean t)
  | v => v

/-- A text without outer white space and control characters. -/
def Tidy (t : String) : Prop :=
  PyStr.stripChars t.toList = t.toList ∧ ∀ c ∈ t.toList, isKept c = true

/-- A tidy message on one line that is no command. -/
def TidyMessage (t : String) : Prop :=
  Tidy t ∧ (∀ c ∈ t.toList, c ≠ '\n' ∧ c ≠ '\r')
    ∧ PyStr.startsWith t "/" = false

-- ==== clean texts

theorem ofList_eq_iff {cs : List Char} {t : String} :
    String.ofList cs = t ↔ cs = t.toList := by
  constructor
  · rintro rfl
    rw [String.toList_ofList]
  · rintro rfl
    rw [String.ofList_toList]

theorem cleanChars_eq_self_iff {cs : List Char} :
    cleanChars cs = cs ↔
      PyStr.stripChars cs = cs ∧ ∀ c ∈ cs, isKept c = true := by
  unfold cleanChars
  constructor
  · intro h
    -- the filter can only shorten what is left by the strip
    have hsub : cs.Sublist (PyStr.stripChars cs) := by
      conv_lhs => rw [← h]
      exact List.filter_sublist
    have hstrip := (PyStr.stripChars_sublist cs).antisymm hsub
    rw [hstrip] at h
    exact ⟨hstrip, List.filter_eq_self.mp h⟩
  · rintro ⟨hstrip, hkept⟩
    rw [hstrip, List.filter_eq_self.mpr hkept]

theorem clean_eq_self_iff {t : String} : clean t = t ↔ Tidy t := by
  unfold clean Tidy
  rw [ofList_eq_iff, cleanChars_eq_self_iff]

theorem cleanChars_sublist (cs : List Char) :
    (cleanChars cs).Sublist cs :=
  List.filter_sublist.trans (PyStr.stripChars_sublist cs)

def blankLine (c : Char) : Char := if c == '\n' || c == '\r' then ' ' else c

theorem blankLine_eq_self_iff {c : Char} :
    blankLine c = c ↔ c ≠ '\n' ∧ c ≠ '\r' := by
  unfold blankLine
  by_cases hc : c = '\n' ∨ c = '\r'
  · rcases hc with rfl | rfl
    · decide
    · decide
  · rw [not_or] at hc
    simp [hc.1, hc.2]

theorem map_blankLine_iff {cs : List Char} :
    cs.map blankLine = cs ↔ ∀ c ∈ cs, c ≠ '\n' ∧ c ≠ '\r' := by
  conv_lhs => rhs; rw [← List.map_id cs]
  rw [List.map_inj_left]
  simp only [id, blankLine_eq_self_iff]

theorem dropWhile_slash_iff {t : String} :
    t.toList.dropWhile (· == '/') = t.toList
      ↔ PyStr.startsWith t "/" = false := by
  unfold PyStr.startsWith
  rw [List.dropWhile_eq_self_iff]
  cases t.toList with
  | nil => simp
  | cons c cs =>
    show (∀ _ : 0 < (c :: cs).length, ¬ (c == '/') = true)
      ↔ ('/' == c && List.isPrefixOf [] cs) = false
    by_cases hc : c = '/'
    · subst hc
      simp
    · simp [hc, Ne.symm hc]

/-- A message comes out as it went in exactly when it is tidy, on one
line, and no command. -/
theorem cleanMessage_eq_self_iff {t : String} :
    cleanMessage t = t ↔ TidyMessage t := by
  unfold TidyMessage
  rw [← clean_eq_self_iff, ← dropWhile_slash_iff]
  unfold cleanMessage clean
  rw [ofList_eq_iff, ofList_eq_iff, String.toList_ofList]
  show ((cleanChars t.toList).map blankLine).dropWhile (· == '/') = t.toList
    ↔ _
  constructor
  · intro h
    have hlength := congrArg List.length h
    have hdrop := (List.dropWhile_sublist (l :=
      (cleanChars t.toList).map blankLine) (· == '/')).length_le
    rw [hlength, List.length_map] at hdrop
    -- no step can have shortened the text
    have hclean := (cleanChars_sublist t.toList).eq_of_length_le hdrop
    rw [hclean] at h
    have hmap : t.toList.map blankLine = t.toList := by
      have hsub := List.dropWhile_sublist (l := t.toList.map blankLine)
        (· == '/')
      rw [h] at hsub
      exact (hsub.eq_of_length (by rw [List.length_map])).symm
    rw [hmap] at h
    exact ⟨hclean, map_blankLine_iff.mp hmap, h⟩
  · rintro ⟨hclean, hlines, hslash⟩
    rw [hclean, map_blankLine_iff.mpr hlines, hslash]

-- ==== checks

theorem sanitizeId_int {field : String} {most n : Int} {w : PyVal}
    (h : sanitizeId rt field most (.int n) = .ok w) : w = .int n := by
  obtain ⟨m, hm, hw⟩ := except_bind_eq_ok.mp h
  cases hm
  split at hw
  · cases hw
    rfl
  · cases hw

theorem sanitizeName_str {field t : String} {w : PyVal}
    (h : sanitizeName rt field (.str t) = .ok w) : w = .str (clean t) := by
  obtain ⟨u, hu, rfl⟩ := map_eq_ok.mp h
  rw [sanitizeText_eq_ok hu]

theorem sanitizeMessage_str {t : String} {w : PyVal}
    (h : sanitizeMessage rt (.str t) = .ok w) :
    w = .str (cleanMessage t) := by
  obtain ⟨u, hu, rfl⟩ := map_eq_ok.mp h
  rw [sanitizeText_eq_ok hu]
  rfl

theorem sanitizeCoordinates_int {m n x y : Int}
    (h : sanitizeCoordinates rt (.int m) (.int n) = .ok (x, y)) :
    x = m ∧ y = n := by
  obtain ⟨⟨x', y'⟩, hxy, h⟩ := except_bind_eq_ok.mp h
  cases hxy
  dsimp only at h
  split at h
  · cases h
    exact ⟨rfl, rfl⟩
  · cases h

section checks

variable (hwf : WellFormed action)

include hwf

theorem WellFormed.id {key field : String} {most : Int}
    (hk : key ∈ numberKeys) (v w : PyVal) (hv : action.get? key = some v)
    (h : sanitizeId rt field most v = .ok w) : w = cleaned key v := by
  obtain ⟨n, rfl⟩ := hwf.number key hk v hv
  exact sanitizeId_int h

theorem WellFormed.name {key field : String} (hk : key ∈ textKeys)
    (hne : key ≠ "message") (v w : PyVal) (hv : action.get? key = some v)
    (h : sanitizeName rt field v = .ok w) : w = cleaned key v := by
  obtain ⟨t, rfl⟩ := hwf.text key hk v hv
  rw [sanitizeName_str h]
  show PyVal.str (clean t)
    = .str (if key = "message" then cleanMessage t else clean t)
  rw [if_neg hne]

theorem WellFormed.message (v w : PyVal)
    (hv : action.get? "message" = some v)
    (h : sanitizeMessage rt v = .ok w) : w = cleaned "message" v := by
  obtain ⟨t, rfl⟩ := hwf.text "message" (by decide) v hv
  rw [sanitizeMessage_str h]
  rfl

end checks

-- ==== field by field

/-- The fields that are not copied one by one from the action. -/
def apartKeys : List String :=
  ["type", "dest_x", "dest_y", "target_x", "target_y", "target",
    "timestamp", "priority"]

/-- The output has the listed fields of the action, cleaned, and no
other but those set apart. -/
def Agrees (action s : PyDict) (keys : List String) : Prop :=
  ∀ k, k ∉ apartKeys →
    s.get? k = if k ∈ keys then (action.get? k).map (cleaned k) else none

variable {keys : List String}

theorem agrees_copy {key : String} {check : PyVal → Except PyError PyVal}
    (hs : Agrees action s keys) (h : copy key check action s = .ok s')
    (hkey : key ∉ apartKeys)
    (hcheck : ∀ v w, action.get? key = some v → check v = .ok w →
      w = cleaned key v) : Agrees action s' (key :: keys) := by
  intro k hk
  by_cases hkk : k = key
  · subst hkk
    rw [if_pos List.mem_cons_self]
    cases hv : action.get? k with
    | none =>
      have hsame : s' = s := by
        unfold copy at h
        rw [hv] at h
        cases h
        rfl
      rw [hsame, hs k hk, hv]
      simp
    | some v =>
      obtain ⟨w, hw, hget⟩ := get?_copy_self h hv
      rw [hget, hcheck v w hv hw]
      rfl
  · rw [get?_copy_of_ne h hkk, hs k hk]
    simp [hkk]

theorem agrees_of_same (hs : Agrees action s keys)
    (h : ∀ k, k ∉ apartKeys → s'.get? k = s.get? k) :
    Agrees action s' keys := by
  intro k hk
  rw [h k hk, hs k hk]

theorem ne_of_apart {k key : String} (hk : k ∉ apartKeys)
    (hkey : key ∈ apartKeys) : k ≠ key := by
  rintro rfl
  exact hk hkey

theorem agrees_copy_apart {key : String}
    {check : PyVal → Except PyError PyVal} (hs : Agrees action s keys)
    (h : copy key check action s = .ok s') (hkey : key ∈ apartKeys) :
    Agrees action s' keys :=
  agrees_of_same hs fun _ hk => get?_copy_of_ne h (ne_of_apart hk hkey)

theorem agrees_copyCoordinates {keyX keyY : String}
    (hs : Agrees action s keys)
    (h : copyCoordinates rt keyX keyY action s = .ok s')
    (hx : keyX ∈ apartKeys) (hy : keyY ∈ apartKeys) :
    Agrees action s' keys :=
  agrees_of_same hs fun _ hk =>
    get?_copyCoordinates_of_ne h (ne_of_apart hk hx) (ne_of_apart hk hy)

theorem agrees_copyTarget (hs : Agrees action s keys)
    (h : copyTarget rt action s = .ok s') : Agrees action s' keys :=
  agrees_of_same hs fun _ hk =>
    get?_copyTarget_of_ne h (ne_of_apart hk (by decide))

-- ==== the routes

inductive Route where
  | unitMove
  | cityProduction
  | techResearch
  | unitBuildCity
  | diplomacy
  | unit
  | nothing
  deriving DecidableEq

/-- The outcome of the chain of `branchFields`. -/
def routeOf (type : String) : Route :=
  if type = "unit_move" then .unitMove
  else if type = "city_production" ∨ type = "city_change_production" then
    .cityProduction
  else if type = "tech_research" then .techResearch
  else if type = "unit_build_city" then .unitBuildCity
  else if PyStr.startsWith type "diplomacy_" then .diplomacy
  else if PyStr.startsWith type "unit_" then .unit
  else .nothing

/-- The fields of a route that are copied one by one, the last one
first. -/
def Route.kept : Route → List String
  | .unitMove => ["player_id", "unit_id"]
  | .cityProduction => ["player_id", "production_type", "city_id"]
  | .techResearch => ["player_id", "tech_name"]
  | .unitBuildCity => ["name", "player_id", "unit_id"]
  | .diplomacy => ["message", "player_id", "target_player_id"]
  | .unit => ["target_city_id", "target_unit_id", "player_id", "unit_id"]
  | .nothing => []

section routes

variable (hwf : WellFormed action) (hs : Agrees action s [])

include hwf hs

theorem agrees_unitMoveFields (h : unitMoveFields rt action s = .ok s') :
    Agrees action s' Route.unitMove.kept := by
  obtain ⟨s₁, h₁, h⟩ := bind_eq_ok.mp h
  obtain ⟨s₂, h₂, h₃⟩ := bind_eq_ok.mp h
  have a₁ := agrees_copy hs h₁ (by decide) (hwf.id (by decide))
  have a₂ := agrees_copyCoordinates a₁ h₂ (by decide) (by decide)
  exact agrees_copy a₂ h₃ (by decide) (hwf.id (by decide))

theorem agrees_cityProductionFields
    (h : cityProductionFields rt action s = .ok s') :
    Agrees action s' Route.cityProduction.kept := by
  obtain ⟨s₁, h₁, h⟩ := bind_eq_ok.mp h
  obtain ⟨s₂, h₂, h₃⟩ := bind_eq_ok.mp h
  have a₁ := agrees_copy hs h₁ (by decide) (hwf.id (by decide))
  have a₂ := agrees_copy a₁ h₂ (by decide)
    (hwf.name (by decide) (by decide))
  exact agrees_copy a₂ h₃ (by decide) (hwf.id (by decide))

theorem agrees_techResearchFields
    (h : techResearchFields rt action s = .ok s') :
    Agrees action s' Route.techResearch.kept := by
  obtain ⟨s₁, h₁, h₂⟩ := bind_eq_ok.mp h
  have a₁ := agrees_copy hs h₁ (by decide)
    (hwf.name (by decide) (by decide))
  exact agrees_copy a₁ h₂ (by decide) (hwf.id (by decide))

theorem agrees_unitBuildCityFields
    (h : unitBuildCityFields rt action s = .ok s') :
    Agrees action s' Route.unitBuildCity.kept := by
  obtain ⟨s₁, h₁, h⟩ := bind_eq_ok.mp h
  obtain ⟨s₂, h₂, h₃⟩ := bind_eq_ok.mp h
  have a₁ := agrees_copy hs h₁ (by decide) (hwf.id (by decide))
  have a₂ := agrees_copy a₁ h₂ (by decide) (hwf.id (by decide))
  exact agrees_copy a₂ h₃ (by decide) (hwf.name (by decide) (by decide))

theorem agrees_diplomacyFields (h : diplomacyFields rt action s = .ok s') :
    Agrees action s' Route.diplomacy.kept := by
  obtain ⟨s₁, h₁, h⟩ := bind_eq_ok.mp h
  obtain ⟨s₂, h₂, h₃⟩ := bind_eq_ok.mp h
  have a₁ := agrees_copy hs h₁ (by decide) (hwf.id (by decide))
  have a₂ := agrees_copy a₁ h₂ (by decide) (hwf.id (by decide))
  exact agrees_copy a₂ h₃ (by decide) hwf.message

theorem agrees_unitFields
    (h : ActionSanitizer.unitFields rt action s = .ok s') :
    Agrees action s' Route.unit.kept := by
  simp only [ActionSanitizer.unitFields, bind_eq_ok] at h
  obtain ⟨s₁, h₁, s₂, h₂, s₃, h₃, s₄, h₄, s₅, h₅, s₆, h₆, s₇, h₇, h₈⟩ := h
  have a₁ := agrees_copy hs h₁ (by decide) (hwf.id (by decide))
  have a₂ := agrees_copy a₁ h₂ (by decide) (hwf.id (by decide))
  have a₃ := agrees_copyTarget a₂ h₃
  have a₄ := agrees_copy_apart a₃ h₄ (by decide)
  have a₅ := agrees_copy_apart a₄ h₅ (by decide)
  have a₆ := agrees_copyCoordinates a₅ h₆ (by decide) (by decide)
  have a₇ := agrees_copy a₆ h₇ (by decide) (hwf.id (by decide))
  exact agrees_copy a₇ h₈ (by decide) (hwf.id (by decide))

theorem agrees_branchFields {t : String}
    (h : branchFields rt action t s = .ok s') :
    Agrees action s' (routeOf t).kept := by
  unfold branchFields at h
  unfold routeOf
  by_cases h₁ : t = "unit_move"
  · rw [if_pos h₁] at h ⊢
    exact agrees_unitMoveFields hwf hs h
  rw [if_neg h₁] at h ⊢
  by_cases h₂ : t = "city_production" ∨ t = "city_change_production"
  · rw [if_pos h₂] at h ⊢
    exact agrees_cityProductionFields hwf hs h
  rw [if_neg h₂] at h ⊢
  by_cases h₃ : t = "tech_research"
  · rw [if_pos h₃] at h ⊢
    exact agrees_techResearchFields hwf hs h
  rw [if_neg h₃] at h ⊢
  by_cases h₄ : t = "unit_build_city"
  · rw [if_pos h₄] at h ⊢
    exact agrees_unitBuildCityFields hwf hs h
  rw [if_neg h₄] at h ⊢
  by_cases h₅ : PyStr.startsWith t "diplomacy_" = true
  · rw [if_pos h₅] at h ⊢
    exact agrees_diplomacyFields hwf hs h
  rw [if_neg h₅] at h ⊢
  by_cases h₆ : PyStr.startsWith t "unit_" = true
  · rw [if_pos h₆] at h ⊢
    exact agrees_unitFields hwf hs h
  · rw [if_neg h₆] at h ⊢
    cases h
    exact hs

end routes

theorem agrees_cleanType (t : String) : Agrees action (cleanType t) [] := by
  intro k hk
  rw [if_neg List.not_mem_nil]
  unfold cleanType
  split
  · rfl
  · rw [Dict.get?_set_of_ne _ _ (ne_of_apart hk (by decide))]
    rfl

theorem agrees_sanitized {t : String} (hwf : WellFormed action)
    (h : sanitizeActionData rt action = .ok s)
    (ht : actionType action = .str t) :
    Agrees action s (routeOf t).kept := by
  obtain ⟨u, s₁, hu, h₁, h₂⟩ := sanitizeActionData_eq_ok h
  rw [ht] at hu
  cases hu
  refine agrees_of_same
    (agrees_branchFields hwf (agrees_cleanType t) h₁) ?_
  intro k hk
  exact get?_safeFields h₂ (ne_of_apart hk (by decide))
    (ne_of_apart hk (by decide))

-- ==== coordinates

theorem get?_copyCoordinates {keyX keyY : String} (hwf : WellFormed action)
    (h : copyCoordinates rt keyX keyY action s = .ok s')
    (hx : s.get? keyX = none) (hy : s.get? keyY = none) (hne : keyX ≠ keyY)
    (hkx : keyX ∈ numberKeys) (hky : keyY ∈ numberKeys) :
    (s'.get? keyX = action.get? keyX ∧ s'.get? keyY = action.get? keyY)
      ∨ (action.get? keyX = none ∨ action.get? keyY = none)
        ∧ s'.get? keyX = none ∧ s'.get? keyY = none := by
  unfold copyCoordinates at h
  split at h
  next x y hvx hvy =>
    obtain ⟨m, rfl⟩ := hwf.number keyX hkx x hvx
    obtain ⟨n, rfl⟩ := hwf.number keyY hky y hvy
    obtain ⟨⟨m', n'⟩, hmn, rfl⟩ := map_eq_ok.mp h
    obtain ⟨rfl, rfl⟩ := sanitizeCoordinates_int hmn
    left
    rw [Dict.get?_set_self, Dict.get?_set_of_ne _ _ hne, Dict.get?_set_self,
      hvx, hvy]
    exact ⟨rfl, rfl⟩
  next hmissing =>
    cases h
    right
    refine ⟨?_, hx, hy⟩
    cases hvx : action.get? keyX with
    | none => exact Or.inl rfl
    | some x =>
      cases hvy : action.get? keyY with
      | none => exact Or.inr rfl
      | some y => exact absurd hvy (hmissing x y hvx)

theorem move_sanitized (hwf : WellFormed action)
    (h : sanitizeActionData rt action = .ok s)
    (ht : actionType action = .str "unit_move") :
    (∀ k ∈ ["dest_x", "dest_y"], ∀ v, s.get? k = some v →
      action.get? k = some v) ∧ s.get? "target" = none := by
  obtain ⟨u, s₁, hu, h₁, h₂⟩ := sanitizeActionData_eq_ok h
  rw [ht] at hu
  cases hu
  obtain ⟨t₁, c₁, h₁⟩ := bind_eq_ok.mp h₁
  obtain ⟨t₂, c₂, c₃⟩ := bind_eq_ok.mp h₁
  have hstart : ∀ k, k ≠ "type" → k ≠ "unit_id" → t₁.get? k = none := by
    intro k hk hku
    rw [get?_copy_of_ne c₁ hku]
    unfold cleanType
    rw [if_neg (by decide), Dict.get?_set_of_ne _ _ hk]
    rfl
  have hlater : ∀ k, k ≠ "player_id" → k ≠ "timestamp" → k ≠ "priority" →
      s.get? k = t₂.get? k := by
    intro k hp ht hr
    rw [get?_safeFields h₂ ht hr, get?_copy_of_ne c₃ hp]
  refine ⟨?_, ?_⟩
  · intro k hk v hv
    have hkeep := get?_copyCoordinates hwf c₂ (hstart _ (by decide) (by decide))
      (hstart _ (by decide) (by decide)) (by decide) (by decide) (by decide)
    rcases List.mem_pair.mp hk with rfl | rfl
    · rw [hlater _ (by decide) (by decide) (by decide)] at hv
      rcases hkeep with ⟨hx, _⟩ | ⟨_, hx, _⟩
      · rw [← hx, hv]
      · rw [hx] at hv
        cases hv
    · rw [hlater _ (by decide) (by decide) (by decide)] at hv
      rcases hkeep with ⟨_, hy⟩ | ⟨_, _, hy⟩
      · rw [← hy, hv]
      · rw [hy] at hv
        cases hv
  · rw [hlater _ (by decide) (by decide) (by decide),
      get?_copyCoordinates_of_ne c₂ (by decide) (by decide),
      hstart _ (by decide) (by decide)]

theorem research_sanitized (h : sanitizeActionData rt action = .ok s)
    (ht : actionType action = .str "tech_research") :
    s.get? "target" = none := by
  obtain ⟨u, s₁, hu, h₁, h₂⟩ := sanitizeActionData_eq_ok h
  rw [ht] at hu
  cases hu
  obtain ⟨t₁, c₁, c₂⟩ := bind_eq_ok.mp h₁
  rw [get?_safeFields h₂ (by decide) (by decide),
    get?_copy_of_ne c₂ (by decide), get?_copy_of_ne c₁ (by decide)]
  unfold cleanType
  rw [if_neg (by decide), Dict.get?_set_of_ne _ _ (by decide)]
  rfl

theorem field?_copyEntry {key : String}
    {check : PyVal → Except PyError PyVal}
    {target acc acc' : List (PyKey × PyVal)}
    (h : copyEntry key check target acc = .ok acc')
    (hcheck : ∀ v w, PyVal.field? target key = some v → check v = .ok w →
      w = v) (hacc : PyVal.field? acc key = none) :
    PyVal.field? acc' key = PyVal.field? target key := by
  unfold copyEntry at h
  cases hv : PyVal.field? target key with
  | none =>
    rw [hv] at h
    cases h
    exact hacc
  | some v =>
    rw [hv] at h
    obtain ⟨w, hw, rfl⟩ := map_eq_ok.mp h
    rw [hcheck v w hv hw]
    unfold PyVal.field? at hacc ⊢
    rw [List.lookup_append, hacc]
    simp

theorem field?_copyEntry_of_ne {key k : String}
    {check : PyVal → Except PyError PyVal}
    {target acc acc' : List (PyKey × PyVal)}
    (h : copyEntry key check target acc = .ok acc') (hne : k ≠ key) :
    PyVal.field? acc' k = PyVal.field? acc k := by
  unfold copyEntry at h
  split at h
  · cases h
    rfl
  · obtain ⟨w, _, rfl⟩ := map_eq_ok.mp h
    unfold PyVal.field?
    rw [List.lookup_append, Dict.lookup_cons_ite, if_neg (by simpa using hne)]
    simp

theorem sanitizeTarget_eq_ok {target : List (PyKey × PyVal)} {w : PyVal}
    (h : sanitizeTarget rt target = .ok w)
    (hint : ∀ k ∈ ["x", "y"], ∀ v, PyVal.field? target k = some v →
      ∃ n, v = .int n) :
    ∃ e, w = .dict e ∧ ∀ k ∈ ["x", "y"],
      PyVal.field? e k = PyVal.field? target k := by
  obtain ⟨s₁, h₁, h⟩ := bind_eq_ok.mp h
  obtain ⟨s₂, h₂, h⟩ := bind_eq_ok.mp h
  obtain ⟨s₃, h₃, h⟩ := bind_eq_ok.mp h
  cases h
  have hsame : ∀ k ∈ ["x", "y"], ∀ v w, PyVal.field? target k = some v →
      toIntValue rt v = .ok w → w = v := by
    intro k hk v w hv hw
    obtain ⟨n, rfl⟩ := hint k hk v hv
    cases hw
    rfl
  refine ⟨s₃, rfl, ?_⟩
  intro k hk
  rcases List.mem_pair.mp hk with rfl | rfl
  · rw [field?_copyEntry_of_ne h₃ (by decide),
      field?_copyEntry_of_ne h₂ (by decide),
      field?_copyEntry h₁ (hsame _ (by decide)) rfl]
  · rw [field?_copyEntry_of_ne h₃ (by decide),
      field?_copyEntry h₂ (hsame _ (by decide))
        (field?_copyEntry_of_ne h₁ (by decide))]

theorem get?_copyTarget (h : copyTarget rt action s = .ok s')
    (hs : s.get? "target" = none) :
    (∃ e w, action.get? "target" = some (.dict e)
        ∧ sanitizeTarget rt e = .ok w ∧ s'.get? "target" = some w)
      ∨ (∀ e, action.get? "target" ≠ some (.dict e))
        ∧ s'.get? "target" = none := by
  unfold copyTarget at h
  split at h
  next e he =>
    obtain ⟨w, hw, rfl⟩ := map_eq_ok.mp h
    exact Or.inl ⟨e, w, he, hw, s.get?_set_self _ _⟩
  next hno =>
    cases h
    exact Or.inr ⟨hno, hs⟩

def flatTarget (action : PyDict) : Option (PyVal × PyVal) :=
  (action.get? "target_x").bind fun x =>
    (action.get? "target_y").map fun y => (x, y)

theorem nestedTarget_of_not_dict
    (h : ∀ e, action.get? "target" ≠ some (.dict e)) :
    ActionPackets.nestedTarget action = none := by
  unfold ActionPackets.nestedTarget
  split
  next e he => exact absurd he (h e)
  next => rfl

theorem extract_eq (action : PyDict) :
    extractTargetCoordinates action
      = ((flatTarget action).or (ActionPackets.nestedTarget action)).getD
        (.null, .null) := by
  unfold extractTargetCoordinates flatTarget ActionPackets.nestedTarget
  cases action.get? "target" with
  | none =>
    cases action.get? "target_x" <;> cases action.get? "target_y" <;>
      rfl
  | some v =>
    cases v with
    | dict e =>
      dsimp only
      cases PyVal.field? e "x" <;> cases PyVal.field? e "y" <;>
        cases action.get? "target_x" <;>
        cases action.get? "target_y" <;> rfl
    | _ =>
      cases action.get? "target_x" <;>
        cases action.get? "target_y" <;> rfl

theorem branchFields_unit {t : String} (h : routeOf t = .unit) :
    branchFields rt action t s = ActionSanitizer.unitFields rt action s := by
  unfold routeOf at h
  unfold branchFields
  split at h
  · cases h
  next h₁ =>
  split at h
  · cases h
  next h₂ =>
  split at h
  · cases h
  next h₃ =>
  split at h
  · cases h
  next h₄ =>
  split at h
  · cases h
  next h₅ =>
  split at h
  next h₆ =>
    rw [if_neg h₁, if_neg h₂, if_neg h₃, if_neg h₄, if_neg h₅, if_pos h₆]
  · cases h

/-- Every order to a unit, but a move, keeps the coordinates of its
target. -/
theorem extract_sanitized {t : String} (hwf : WellFormed action)
    (h : sanitizeActionData rt action = .ok s)
    (ht : actionType action = .str t) (hroute : routeOf t = .unit) :
    extractTargetCoordinates s = extractTargetCoordinates action := by
  obtain ⟨u, s₀, hu, h₀, h₂⟩ := sanitizeActionData_eq_ok h
  rw [ht] at hu
  cases hu
  rw [branchFields_unit hroute] at h₀
  obtain ⟨s₁, c₁, h₀⟩ := bind_eq_ok.mp h₀
  obtain ⟨s₂, c₂, h₀⟩ := bind_eq_ok.mp h₀
  obtain ⟨s₃, c₃, h₀⟩ := bind_eq_ok.mp h₀
  obtain ⟨s₄, c₄, h₀⟩ := bind_eq_ok.mp h₀
  obtain ⟨s₅, c₅, h₀⟩ := bind_eq_ok.mp h₀
  obtain ⟨s₆, c₆, h₀⟩ := bind_eq_ok.mp h₀
  obtain ⟨s₇, c₇, c₈⟩ := bind_eq_ok.mp h₀
  have hstart : ∀ k ∈ ["target", "target_x", "target_y"],
      s₂.get? k = none := by
    intro k hk
    have hne : k ≠ "player_id" ∧ k ≠ "unit_id" ∧ k ≠ "type" := by
      revert k
      decide
    rw [get?_copy_of_ne c₂ hne.1, get?_copy_of_ne c₁ hne.2.1]
    unfold cleanType
    split
    · rfl
    · rw [Dict.get?_set_of_ne _ _ hne.2.2]
      rfl
  have hlater : ∀ k ∈ ["target", "target_x", "target_y"],
      s.get? k = s₆.get? k := by
    intro k hk
    have hne : k ≠ "timestamp" ∧ k ≠ "priority" ∧ k ≠ "target_city_id"
        ∧ k ≠ "target_unit_id" := by
      revert k
      decide
    rw [get?_safeFields h₂ hne.1 hne.2.1, get?_copy_of_ne c₈ hne.2.2.1,
      get?_copy_of_ne c₇ hne.2.2.2]
  -- the nested target is as it was after its own step
  have hnested : ActionPackets.nestedTarget s
      = ActionPackets.nestedTarget action := by
    have hget : s.get? "target" = s₃.get? "target" := by
      rw [hlater _ (by decide),
        get?_copyCoordinates_of_ne c₆ (by decide) (by decide),
        get?_copy_of_ne c₅ (by decide), get?_copy_of_ne c₄ (by decide)]
    rcases get?_copyTarget c₃ (hstart _ (by decide)) with
      ⟨e, w, he, hw, hs₃⟩ | ⟨hno, hs₃⟩
    · obtain ⟨e', rfl, hfields⟩ := sanitizeTarget_eq_ok hw (hwf.target e he)
      unfold ActionPackets.nestedTarget
      rw [hget, hs₃, he]
      dsimp only
      rw [hfields "x" (by decide), hfields "y" (by decide)]
    · rw [nestedTarget_of_not_dict hno, nestedTarget_of_not_dict]
      intro e he
      rw [hget, hs₃] at he
      cases he
  have hflat : flatTarget s = flatTarget action := by
    have hx : s₅.get? "target_x" = none := by
      rw [get?_copy_of_ne c₅ (by decide), get?_copy_of_ne c₄ (by decide),
        get?_copyTarget_of_ne c₃ (by decide), hstart _ (by decide)]
    have hy : s₅.get? "target_y" = none := by
      rw [get?_copy_of_ne c₅ (by decide), get?_copy_of_ne c₄ (by decide),
        get?_copyTarget_of_ne c₃ (by decide), hstart _ (by decide)]
    unfold flatTarget
    rw [hlater _ (by decide), hlater _ (by decide)]
    rcases get?_copyCoordinates hwf c₆ hx hy (by decide) (by decide)
      (by decide) with ⟨hx', hy'⟩ | ⟨hmissing, hx', hy'⟩
    · rw [hx', hy']
    · rw [hx', hy']
      rcases hmissing with hm | hm
      · rw [hm]
        rfl
      · rw [hm]
        cases action.get? "target_x" with
        | none => rfl
        | some x => rfl
  rw [extract_eq, extract_eq, hflat, hnested]

end KeptFields

end Freeciv3d.Proxy
