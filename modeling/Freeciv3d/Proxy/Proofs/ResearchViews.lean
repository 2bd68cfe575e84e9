/-
The two views of what is known agree on a technology exactly when the
record's entry before it and its own entry agree.

`get_tech_state` reads a technology's own entry. `_build_techs_dict`
takes an entry for the technology one further. So a technology whose
name is its own occurs among the known ones when the entry before its
own says so (`before_iff_of_unique`), and not at all when its number is
0.
-/
import Mathlib
import Freeciv3d.Proxy.Research

namespace Freeciv3d.Proxy

open Lib

namespace ResearchStores

variable (v : ResearchStores) {packets : List ResearchPacket}
variable {playerId : Option Int} {player : Int} {t : Nat} {info : TechInfo}

-- ==== the statement

def after (playerId : Option Int) (packets : List ResearchPacket) :
    ResearchStores := packets.foldl handle (init playerId)

/-- `name in _build_techs_dict()['player' + p]`. -/
def Listed (player : Int) (name : String) : Prop :=
  ∃ names ∈ v.buildTechsDict.get? (Mirror.playerKey player), name ∈ names

instance (player : Int) (name : String) :
    Decidable (v.Listed player name) :=
  inferInstanceAs (Decidable
    (∃ names ∈ v.buildTechsDict.get? (Mirror.playerKey player), _))

/-- The entry at this position of the player's record is '2'. -/
def KnownAt (player : Int) (i : Nat) : Prop :=
  (v.inventions player)[i]? = some '2'

/-- A technology of this name follows a known entry. -/
def Before (player : Int) (name : String) : Prop :=
  ∃ i other, v.techs.get? (i + 1) = some other ∧ other.name = name
    ∧ v.KnownAt player i

-- ==== the two views

theorem getTechState_known_iff :
    v.getTechState t player = .known ↔ v.KnownAt player t := by
  unfold getTechState KnownAt
  split
  case h_1 h => simp [h]
  case h_2 h => simp [h]
  case h_3 h _ => simpa using h

theorem mem_knownNames_iff {inventions : List Char} {name : String}
    (hname : name ≠ "") :
    name ∈ v.knownNames inventions
      ↔ ∃ i other, v.techs.get? (i + 1) = some other ∧ other.name = name
        ∧ inventions[i]? = some '2' := by
  unfold knownNames
  rw [List.mem_filterMap]
  constructor
  · rintro ⟨⟨c, i⟩, hmem, hsome⟩
    have hentry : inventions[i]? = some c :=
      List.mk_mem_zipIdx_iff_getElem?.mp hmem
    obtain ⟨hc, hfilter⟩ := Option.ite_none_right_eq_some.mp hsome
    obtain ⟨hmap, -⟩ := Option.filter_eq_some_iff.mp hfilter
    obtain ⟨other, hother, hsame⟩ := Option.map_eq_some_iff.mp hmap
    cases hc
    exact ⟨i, other, hother, hsame, hentry⟩
  · rintro ⟨i, other, hother, rfl, hentry⟩
    refine ⟨('2', i), List.mk_mem_zipIdx_iff_getElem?.mpr hentry, ?_⟩
    rw [if_pos rfl, hother]
    exact Option.filter_eq_some_iff.mpr ⟨rfl, decide_eq_true hname⟩

theorem playerKey_injective {p q : Int}
    (h : Mirror.playerKey p = Mirror.playerKey q) : p = q :=
  Int.repr_inj.mp ((String.append_right_inj "player").mp h)

theorem get?_buildTechsDict :
    v.buildTechsDict.get? (Mirror.playerKey player)
      = (v.researchInfo.get? player).map fun research =>
        v.knownNames (research.inventions.getD []) :=
  Dict.get?_ofList_map v.researchInfo playerKey_injective
    (fun research => v.knownNames (research.inventions.getD [])) player

theorem listed_iff {name : String} (hname : name ≠ "") :
    v.Listed player name ↔ v.Before player name := by
  unfold Listed Before KnownAt inventions
  rw [get?_buildTechsDict]
  cases v.researchInfo.get? player with
  | none =>
    constructor
    · rintro ⟨names, hnames, -⟩
      cases hnames
    · rintro ⟨i, other, -, -, hentry⟩
      cases hentry
  | some research =>
    constructor
    · rintro ⟨names, hnames, hmem⟩
      cases hnames
      exact (v.mem_knownNames_iff hname).mp hmem
    · exact fun h => ⟨_, rfl, (v.mem_knownNames_iff hname).mpr h⟩

-- ==== the runs

/-- No stored technology is without a name. -/
def Named : Prop := ∀ t info, v.techs.get? t = some info → info.name ≠ ""

variable {v}

theorem Named.handleRulesetTech (h : v.Named) (packet : RulesetTech) :
    (v.handleRulesetTech packet).Named := by
  unfold ResearchStores.handleRulesetTech
  intro t info ht
  split at ht
  case h_1 id hid =>
    dsimp only at ht
    split at ht
    case isTrue => exact h t info ht
    case isFalse hname =>
      rw [Dict.get?_set] at ht
      split at ht
      case isTrue =>
        cases ht
        exact hname
      case isFalse => exact h t info ht
  case h_2 => exact h t info ht

theorem Named.handle (h : v.Named) (packet : ResearchPacket) :
    (v.handle packet).Named := by
  have hkeep : ∀ v' : ResearchStores, v'.techs = v.techs → v'.Named := by
    intro v' hsame t info ht
    rw [hsame] at ht
    exact h t info ht
  cases packet with
  | rulesetTech packet => exact h.handleRulesetTech packet
  | researchInfo id info => exact hkeep _ (v.techs_handleResearchInfo id info)
  | gameInfo turn => exact h
  | beginTurn turn => exact h
  | diplstate packet => exact hkeep _ (v.handleDiplstate_frame packet).2.1

theorem named_after (playerId : Option Int)
    (packets : List ResearchPacket) : (after playerId packets).Named := by
  have hfold : ∀ v : ResearchStores, v.Named →
      (packets.foldl ResearchStores.handle v).Named := by
    induction packets with
    | nil => exact fun v h => h
    | cons packet rest ih => exact fun v h => ih _ (h.handle packet)
  exact hfold _ fun t info ht => by cases ht

/-- After any packets, a technology occurs by name among the known ones
exactly when its state is KNOWN, if and only if an entry of the record
that stands right before a technology of its name is '2' exactly when
its own entry is. -/
theorem research_views_iff
    (ht : (after playerId packets).techs.get? t = some info) :
    ((after playerId packets).Listed player info.name
        ↔ (after playerId packets).getTechState t player = .known)
      ↔ ((after playerId packets).Before player info.name
        ↔ (after playerId packets).KnownAt player t) := by
  rw [listed_iff _ (named_after playerId packets t info ht),
    getTechState_known_iff]

/-- Alphabet is technology 1, Bronze Working 2; player 0 knows the
first. -/
def alphabetKnown : List ResearchPacket :=
  [.rulesetTech ⟨some 1, some "?tech:Alphabet", none, none⟩,
    .rulesetTech ⟨some 2, some "Bronze Working", none, none⟩,
    .researchInfo (some 0) ⟨some ['0', '2', '1', '0'], none⟩]

/-- Alphabet is KNOWN and not listed, Bronze Working the other way
round. -/
theorem research_views_fails :
    ((after none alphabetKnown).getTechState 1 0 = .known
        ∧ ¬ (after none alphabetKnown).Listed 0 "Alphabet")
      ∧ (after none alphabetKnown).getTechState 2 0 ≠ .known
        ∧ (after none alphabetKnown).Listed 0 "Bronze Working" := by
  decide

/-- The record says '2' for technologies 0 and 1 alike. -/
def bothKnown : List ResearchPacket :=
  [.rulesetTech ⟨some 1, some "Alphabet", none, none⟩,
    .researchInfo (some 0) ⟨some ['2', '2'], none⟩]

theorem research_views_of_both :
    (after none bothKnown).Listed 0 "Alphabet"
      ↔ (after none bothKnown).getTechState 1 0 = .known := by
  have ht : (after none bothKnown).techs.get? 1
      = some ⟨"Alphabet", none, none⟩ := rfl
  exact (research_views_iff ht).mpr
    ⟨fun _ => rfl, fun _ => ⟨0, _, rfl, rfl, rfl⟩⟩

end ResearchStores

end Freeciv3d.Proxy
