/-
The cached technology offers are those an empty cache would give: in the
runs whose packets change no list that is cached and may still be asked
for.

# What goes stale

A list is cached for the turn it was computed in, and only a change of
`researching` drops it. It goes stale when a technology that is
researchable for a choosing player is new or gets another name or cost,
when the record of a choosing player changes what is researchable and
`researching` stays, and when the turn goes back to one with cached
lists. `NothingStale` says that no step does one of these; the
invariant is that the table is coherent (`Lib/Memo.lean`) for the keys
of the current turn.
-/
import Mathlib.Data.List.Basic
import Freeciv3d.Proxy.Research

namespace Freeciv3d.Proxy

open Lib

namespace ResearchStores

variable {v v' : ResearchStores} {player : Int}

-- ==== the statement

/-- Every query answers as it would with an empty cache. -/
def AnswersFresh (v : ResearchStores) : Prop :=
  ∀ player, (v.getTechResearchActions player).2
    = ({ v with actionCache := ∅ }.getTechResearchActions player).2

/-- A list is cached for the player in this turn. -/
def CachedAt (v : ResearchStores) (turn player : Int) : Prop :=
  (v.actionCache.get? (turn, player)).isSome = true

/-- The player has to select a technology. -/
def Choosing (v : ResearchStores) (player : Int) : Prop :=
  (v.researchInfo.get? player).bind ResearchInfo.researching = some aUnset

def shown (tech : TechInfo) : String × Int := (tech.name, tech.cost.getD 0)

/-- The packet changes no cached list that may be asked for. -/
def NothingStale (v : ResearchStores) : ResearchAct → Prop
  | .packet (.rulesetTech packet) =>
    ∀ id ∈ packet.id, ∀ player, v.CachedAt v.gameTurn player →
      v.Choosing player → v.canResearchTech id player = true →
      (v.techs.get? id).map shown
        = ((v.handleRulesetTech packet).techs.get? id).map shown
  | .packet (.researchInfo id info) =>
    ∀ player ∈ id, v.CachedAt v.gameTurn player → v.Choosing player →
      info.researching = some aUnset →
      ∀ t ∈ v.techs.keys, v.canResearchTech t player
        = decide ((info.inventions.getD [])[t]? = some '1')
  | .packet (.gameInfo turn) =>
    ∀ turn' ∈ turn, turn' ≠ v.gameTurn →
      ∀ player, ¬ v.CachedAt turn' player
  | .packet (.beginTurn turn) =>
    ∀ turn' ∈ turn, turn' ≠ v.gameTurn →
      ∀ player, ¬ v.CachedAt turn' player
  | .packet (.diplstate _) => True
  | .query _ => True

-- ==== the invariant

/-- The lists cached under the current turn are up to date. -/
def Coherent (v : ResearchStores) : Prop :=
  Memo.Coherent (fun k => k.1 = v.gameTurn) v.actionCache
    fun k => v.techResearchActions k.2

theorem Coherent.answersFresh (h : v.Coherent) : v.AnswersFresh :=
  fun _ => Memo.Coherent.ask_snd h rfl

theorem Coherent.query (h : v.Coherent) (player : Int) :
    (v.getTechResearchActions player).1.Coherent :=
  Memo.Coherent.ask_fst h

/-- The offer of one technology, when it is researchable. -/
def offerOf (v : ResearchStores) (player : Int) (e : Nat × TechInfo) :
    Option TechAction :=
  if v.canResearchTech e.1 player then
    some ⟨"tech_research", e.1, e.2.name, e.2.cost.getD 0, "tech_completed"⟩
  else none

theorem techResearchActions_eq (v : ResearchStores) (player : Int) :
    v.techResearchActions player
      = if (v.researchInfo.get? player).bind ResearchInfo.researching
          = some aUnset
        then v.techs.entries.filterMap (v.offerOf player) else [] := by
  unfold techResearchActions getResearchableTechs
  cases v.researchInfo.get? player with
  | none => rfl
  | some research =>
    simp only [Option.bind_some, ne_eq, ite_not, List.map_map]
    rw [← List.filterMap_eq_map', List.filterMap_filter]
    rfl

theorem techResearchActions_of_not_choosing (h : ¬ v.Choosing player) :
    v.techResearchActions player = [] :=
  (techResearchActions_eq v player).trans (if_neg h)

theorem techResearchActions_of_choosing (h : v.Choosing player) :
    v.techResearchActions player
      = v.techs.entries.filterMap (v.offerOf player) :=
  (techResearchActions_eq v player).trans (if_pos h)

-- ==== the packets

/-- A technology that shows the same, or is not researchable, changes no
list. -/
theorem techResearchActions_set {id : Nat} {tech : TechInfo}
    (hshown : v.Choosing player → v.canResearchTech id player = true →
      (v.techs.get? id).map shown = some (shown tech)) :
    { v with techs := v.techs.set id tech }.techResearchActions player
      = v.techResearchActions player := by
  by_cases hchoosing : v.Choosing player
  · rw [techResearchActions_of_choosing hchoosing]
    have hchoosing' :
        { v with techs := v.techs.set id tech }.Choosing player := hchoosing
    rw [techResearchActions_of_choosing hchoosing']
    refine Dict.filterMap_set ?_
    show _ = v.offerOf player (id, tech)
    by_cases hcan : v.canResearchTech id player = true
    · obtain ⟨old, hold, hsame⟩ :=
        Option.map_eq_some_iff.mp (hshown hchoosing hcan)
      obtain ⟨hname, hcost⟩ := Prod.mk.inj hsame
      rw [hold, Option.bind_some]
      show v.offerOf player (id, old) = v.offerOf player (id, tech)
      unfold offerOf
      rw [if_pos hcan, if_pos hcan, hname, hcost]
    · have hno : ∀ tech', v.offerOf player (id, tech') = none :=
        fun tech' => if_neg hcan
      rw [hno]
      show (v.techs.get? id).bind (fun old => v.offerOf player (id, old))
        = none
      cases v.techs.get? id with
      | none => rfl
      | some old => exact hno old
  · rw [techResearchActions_of_not_choosing hchoosing]
    exact techResearchActions_of_not_choosing hchoosing

theorem Coherent.handleRulesetTech (h : v.Coherent) {packet : RulesetTech}
    (hc : v.NothingStale (.packet (.rulesetTech packet))) :
    (v.handleRulesetTech packet).Coherent := by
  unfold NothingStale at hc
  unfold ResearchStores.handleRulesetTech at hc ⊢
  dsimp only at hc ⊢
  split
  case h_2 => exact h
  case h_1 id hid =>
    rw [hid] at hc
    split
    case isTrue => exact h
    case isFalse hname =>
      refine Memo.Coherent.transfer h fun k kept hturn hkept => ⟨hturn, ?_⟩
      refine (techResearchActions_set fun hchoosing hcan => ?_).symm
      have hcached : v.CachedAt v.gameTurn k.2 := by
        rw [CachedAt, ← hturn]
        exact Option.isSome_iff_exists.mpr ⟨kept, hkept⟩
      have hshown := hc id rfl k.2 hcached hchoosing hcan
      rw [hshown]
      dsimp only
      rw [if_neg hname, Dict.get?_set_self]
      rfl

theorem techResearchActions_setInfo_of_ne {id : Int} {info : ResearchInfo}
    (h : player ≠ id) :
    { v with researchInfo := v.researchInfo.set id info
      }.techResearchActions player = v.techResearchActions player := by
  have hget : (v.researchInfo.set id info).get? player
      = v.researchInfo.get? player := Dict.get?_set_of_ne _ _ h
  unfold techResearchActions getResearchableTechs canResearchTech
    getTechState inventions
  rw [hget]

theorem canResearchTech_iff (v : ResearchStores) (t : Nat) (player : Int) :
    v.canResearchTech t player
      = decide ((v.inventions player)[t]? = some '1') := by
  unfold canResearchTech getTechState
  split
  case h_1 h => simp [h]
  case h_2 h => simp [h]
  case h_3 h => simpa using h

/-- A record with the same `researching` that leaves the same
technologies researchable changes no list. -/
theorem techResearchActions_setInfo {id : Int} {info : ResearchInfo}
    (hsame : (v.researchInfo.get? id).bind ResearchInfo.researching
      = info.researching)
    (hcan : v.Choosing id → ∀ t ∈ v.techs.keys, v.canResearchTech t id
      = decide ((info.inventions.getD [])[t]? = some '1')) :
    { v with researchInfo := v.researchInfo.set id info
      }.techResearchActions id = v.techResearchActions id := by
  have hget : (v.researchInfo.set id info).get? id = some info :=
    Dict.get?_set_self _ _ _
  rw [techResearchActions_eq, techResearchActions_eq]
  rw [hget, Option.bind_some, ← hsame]
  split
  case isFalse => rfl
  case isTrue hchoosing =>
    refine List.filterMap_congr fun e he => ?_
    have hkey : e.1 ∈ v.techs.keys := List.mem_map_of_mem he
    unfold offerOf
    rw [hcan hchoosing e.1 hkey, canResearchTech_iff]
    unfold inventions
    rw [hget]
    rfl

theorem Coherent.handleResearchInfo (h : v.Coherent) {id : Option Int}
    {info : ResearchInfo}
    (hc : v.NothingStale (.packet (.researchInfo id info))) :
    (v.handleResearchInfo id info).Coherent := by
  unfold ResearchStores.handleResearchInfo
  cases id with
  | none => exact h
  | some id =>
    dsimp only
    split
    case isTrue =>
      refine Memo.Coherent.evict h fun k kept hstays hturn _ =>
        ⟨hturn, ?_⟩
      exact (techResearchActions_setInfo_of_ne
        (bne_iff_ne.mp hstays)).symm
    case isFalse hsame =>
      refine Memo.Coherent.transfer h fun k kept hturn hkept =>
        ⟨hturn, ?_⟩
      by_cases hid : k.2 = id
      · subst hid
        refine (techResearchActions_setInfo (not_not.mp hsame)
          fun hchoosing => ?_).symm
        have hcached : v.CachedAt v.gameTurn k.2 := by
          rw [CachedAt, ← hturn]
          exact Option.isSome_iff_exists.mpr ⟨kept, hkept⟩
        exact hc k.2 rfl hcached hchoosing
          ((not_not.mp hsame).symm.trans hchoosing)
      · exact (techResearchActions_setInfo_of_ne hid).symm

theorem Coherent.setTurn (h : v.Coherent) {turn : Option Int}
    (hc : ∀ turn' ∈ turn, turn' ≠ v.gameTurn →
      ∀ player, ¬ v.CachedAt turn' player) :
    { v with gameTurn := turn.getD v.gameTurn }.Coherent := by
  cases turn with
  | none => exact h
  | some turn' =>
    refine Memo.Coherent.transfer h fun k kept hturn hkept => ⟨?_, rfl⟩
    by_contra hother
    have hturn' : k.1 = turn' := hturn
    refine hc turn' rfl (fun hsame => hother (hturn'.trans hsame)) k.2 ?_
    rw [CachedAt, ← hturn']
    exact Option.isSome_iff_exists.mpr ⟨kept, hkept⟩

theorem Coherent.handleDiplstate (h : v.Coherent)
    (packet : DiplstatePacket) : (v.handleDiplstate packet).Coherent := by
  obtain ⟨hturn, htechs, hinfo, hcache⟩ := v.handleDiplstate_frame packet
  have hlists : (v.handleDiplstate packet).techResearchActions
      = v.techResearchActions := by
    funext player
    unfold techResearchActions getResearchableTechs canResearchTech
      getTechState inventions
    rw [htechs, hinfo]
  unfold Coherent
  rw [hturn, hlists]
  rcases hcache with hcache | hcache <;> rw [hcache]
  · exact Memo.Coherent.empty
  · exact h

theorem Coherent.step {a : ResearchAct} (h : v.Coherent)
    (hc : v.NothingStale a) (hs : researchRuns.step v a = some v') :
    v'.Coherent := by
  cases a with
  | query player =>
    cases hs
    exact h.query player
  | packet packet =>
    cases hs
    cases packet with
    | rulesetTech packet => exact h.handleRulesetTech hc
    | researchInfo id info => exact h.handleResearchInfo hc
    | gameInfo turn | beginTurn turn => exact h.setTurn hc
    | diplstate packet => exact h.handleDiplstate packet

/-- Where no packet makes a cached list stale, every query answers as it
would with an empty cache. -/
theorem tech_offers_fresh (h : researchRuns.ReachVia NothingStale v) :
    v.AnswersFresh := by
  refine Coherent.answersFresh (h.invariant (I := Coherent)
    (fun v₀ h0 => ?_) fun _ _ _ hI hc hs => hI.step hc hs)
  obtain ⟨playerId, rfl⟩ := h0
  exact Memo.Coherent.empty

-- ==== runs

def asked : List ResearchAct :=
  [.packet (.researchInfo (some 0) ⟨some ['0', '1'], some aUnset⟩),
    .packet (.rulesetTech ⟨some 1, some "Alphabet", none, none⟩),
    .query 0]

def afterActs (acts : List ResearchAct) : ResearchStores :=
  (researchRuns.exec (.init none) acts).getD (.init none)

def learned : ResearchAct :=
  .packet (.researchInfo (some 0) ⟨some ['0', '2'], some aUnset⟩)

def selected : ResearchAct :=
  .packet (.researchInfo (some 0) ⟨some ['0', '1'], some 1⟩)

/-- Alphabet is learned and still offered. -/
theorem tech_offers_fresh_fails :
    researchRuns.Reach (afterActs (asked ++ [learned]))
      ∧ ¬ (afterActs (asked ++ [learned])).AnswersFresh := by
  have hinit : researchRuns.init (.init none) := ⟨none, rfl⟩
  exact ⟨(Lts.Reach.init hinit).exec_getD _,
    fun h => absurd (h 0) (by decide)⟩

/-- Once Alphabet is selected nothing is offered, cache or not. -/
theorem tech_offers_fresh_selected :
    (afterActs (asked ++ [selected])).AnswersFresh := by
  have hinit : researchRuns.ReachVia NothingStale (.init none) :=
    .init ⟨none, rfl⟩
  refine tech_offers_fresh (hinit.exec (l := asked ++ [selected]) ?_ rfl)
  refine ⟨?_, ?_, trivial, ?_, trivial⟩
  · intro player _ hcached
    cases hcached
  · intro id _ player hcached
    cases hcached
  · intro player _ _ _ hunset
    cases hunset

end ResearchStores

end Freeciv3d.Proxy
