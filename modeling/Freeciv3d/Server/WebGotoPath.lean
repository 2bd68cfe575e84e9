/-
The path of a goto that the web client asks for:
`handle_web_goto_path_req`.

# What goes wrong

The directions are those of the path (`stepLoop_ok`); but the array they
are written to has an end, the costs are added up as if each step cost what
the first one does, and the unit's move rate and the goal are used before
anything says that there is one.
-/
import Freeciv3d.Server.PathFinding
import Freeciv3d.Server.UnitOrders

namespace Freeciv3d.Server

namespace WebGoto

-- ==== the code

structure GotoUnit where
  id : Nat
  moveRate : Int
  /-- `is_player_phase` of its owner. -/
  inPhase : Bool

structure World where
  map : CivMap
  playerUnitByNumber : Int → Option GotoUnit
  pfMapPath : GotoUnit → Nat → Option (List PfPosition)

structure GotoPath where
  unitId : Nat
  length : Nat
  /-- `none` is -1. -/
  dir : List (Option Direction8)
  dest : Nat
  turns : Int

inductive Fault where
  /-- `TILE_XY` of no tile, for the log. -/
  | nullTile
  | behindDir
  | zeroRate

def indexToTile (m : CivMap) (index : Int) : Option Nat :=
  if 0 ≤ index ∧ index < m.mapIndexSize then some index.toNat else none

/-- The first direction that leads there, -1 if none does. -/
def getDirectionForStep (m : CivMap) (start next : Nat) : Option Direction8 :=
  ((m.adjcDir start).find? fun e => e.1 = next).map Prod.snd

/-- The loop, from step `i` on: the costs and the directions so far. -/
def stepLoop (m : CivMap) (firstMC : Nat) :
    Nat → Nat → List PfPosition → Int → List (Option Direction8) →
      Except Fault (Int × List (Option Direction8))
  | _, _, [], totalMC, dir => .ok (totalMC, dir)
  | i, oldTile, position :: rest, totalMC, dir =>
    let newTile := position.tile
    let totalMC := int32 (totalMC + firstMC)
    let d := if newTile = oldTile then none
      else getDirectionForStep m oldTile newTile
    if maxLenRoute ≤ i then .error .behindDir
    else stepLoop m firstMC (i + 1) newTile rest totalMC (dir ++ [d])

/-- `none` is no packet. -/
def handleWebGotoPathReq (w : World) (unitId goal : Int) :
    Except Fault (Option GotoPath) :=
  match w.playerUnitByNumber unitId with
  | none => .ok none
  | some punit =>
    match indexToTile w.map goal with
    | none => .error .nullTile
    | some ptile =>
      if !punit.inPhase then .ok none
      else
        match w.pfMapPath punit ptile with
        | none | some [] => .ok none
        | some (first :: rest) =>
          match stepLoop w.map (rest.head?.elim 0 PfPosition.totalMC) 0
              first.tile rest 0 [] with
          | .error e => .error e
          | .ok (totalMC, dir) =>
            if punit.moveRate = 0 then .error .zeroRate
            else .ok (some
              { unitId := punit.id
                length := rest.length
                dir
                dest := ptile
                turns := totalMC.tdiv punit.moveRate })

-- ==== the statement

/-- One step on the map, or a wait. -/
def StepsTo (m : CivMap) (old next : Nat) : Option Direction8 → Prop
  | none => next = old
  | some d => m.mapstep old d = some next

/-- The directions lead along the positions. -/
def Follows (m : CivMap) : Nat → List (Option Direction8) → List PfPosition →
    Prop
  | _, [], [] => True
  | old, d :: dir, position :: rest =>
    StepsTo m old position.tile d ∧ Follows m position.tile dir rest
  | _, _, _ => False

/-- A path of the path finder to a tile: steps to neighbours or waits, costs
that accumulate from 0. -/
structure IsPath (m : CivMap) (path : List PfPosition) (dest : Nat) :
    Prop where
  walks : path.IsChain fun p q =>
    q.tile = p.tile ∨ ∃ d, m.mapstep p.tile d = some q.tile
  accumulates : path.IsChain fun p q => p.totalMC ≤ q.totalMC
  start : ∀ p, path.head? = some p → p.totalMC = 0
  last : ∃ p, path.getLast? = some p ∧ p.tile = dest

/-- The packet is the path's. -/
structure Faithful (m : CivMap) (punit : GotoUnit) (path : List PfPosition)
    (packet : GotoPath) : Prop where
  unit : packet.unitId = punit.id
  length : packet.length + 1 = path.length
  fits : (packet.length : Int) ≤ maxLenRoute
  follows : ∀ first rest, path = first :: rest →
    packet.dir.length = packet.length ∧ Follows m first.tile packet.dir rest
  dest : path.getLast?.map PfPosition.tile = some packet.dest
  turns : path.getLast?.map (fun p => (p.totalMC : Int).tdiv punit.moveRate)
    = some packet.turns

/-- Nothing is sent, or the path; and nothing undefined happens. -/
def Answers (w : World) (unitId goal : Int) : Prop :=
  ∃ sent, handleWebGotoPathReq w unitId goal = .ok sent
    ∧ ∀ packet, sent = some packet → ∃ punit path,
      w.playerUnitByNumber unitId = some punit
        ∧ w.pfMapPath punit packet.dest = some path
        ∧ Faithful w.map punit path packet

/-- The path fits, the rate is not 0, and the path takes as many turns as
if every step cost what the first one does. -/
def EvenPath (punit : GotoUnit) (path : List PfPosition) : Prop :=
  (path.length : Int) ≤ maxLenRoute + 1 ∧ punit.moveRate ≠ 0
    ∧ ∀ last, path.getLast? = some last →
      (int32 ((path.length - 1 : Nat)
        * (path.tail.head?.elim 0 PfPosition.totalMC : Nat))).tdiv
          punit.moveRate = (last.totalMC : Int).tdiv punit.moveRate

/-- A unit of the player needs a goal on the map and, if its path is looked
for and found, an even one. -/
def Condition (w : World) (unitId goal : Int) : Prop :=
  ∀ punit, w.playerUnitByNumber unitId = some punit →
    ∃ ptile, indexToTile w.map goal = some ptile
      ∧ (punit.inPhase = true → ∀ path, w.pfMapPath punit ptile = some path →
        EvenPath punit path)

-- ==== the loop

variable {m : CivMap}

theorem getDirectionForStep_stepsTo {old next : Nat}
    (h : ∃ d, m.mapstep old d = some next) :
    StepsTo m old next (getDirectionForStep m old next) := by
  obtain ⟨d, hd⟩ := h
  unfold getDirectionForStep
  cases hfind : (m.adjcDir old).find? fun e => e.1 = next with
  | none =>
    have hnot := List.find?_eq_none.mp hfind _ (m.mem_adjcDir.mpr hd)
    simp at hnot
  | some e =>
    obtain ⟨t, d'⟩ := e
    have hnext : t = next := by simpa using List.find?_some hfind
    subst hnext
    exact m.mem_adjcDir.mp (List.mem_of_find?_eq_some hfind)

theorem stepLoop_ok (firstMC i : Nat) (totalMC : Int)
    (dir : List (Option Direction8)) {old : Nat} {rest : List PfPosition}
    {p : PfPosition}
    (hp : p.tile = old)
    (hwalks : (p :: rest).IsChain fun p q =>
      q.tile = p.tile ∨ ∃ d, m.mapstep p.tile d = some q.tile)
    (hfits : (i + rest.length : Int) ≤ maxLenRoute) :
    ∃ more, stepLoop m firstMC i old rest (int32 totalMC) dir
        = .ok (int32 (totalMC + rest.length * firstMC), dir ++ more)
      ∧ more.length = rest.length ∧ Follows m old more rest := by
  induction rest generalizing i old totalMC dir p with
  | nil => exact ⟨[], by simp [stepLoop], rfl, trivial⟩
  | cons q rest ih =>
    obtain ⟨hstep, hwalks⟩ := List.isChain_cons_cons.mp hwalks
    rw [List.length_cons] at hfits
    subst hp
    have hadd : int32 (int32 totalMC + firstMC)
        = int32 (totalMC + firstMC) := Int.bmod_add_bmod
    unfold stepLoop
    rw [if_neg (by omega), hadd]
    obtain ⟨more, hmore, hlen, hfollows⟩ := ih (i + 1)
      (totalMC + firstMC)
      (dir ++ [if q.tile = p.tile then none
        else getDirectionForStep m p.tile q.tile]) rfl hwalks
      (by push_cast; omega)
    refine ⟨(if q.tile = p.tile then none
        else getDirectionForStep m p.tile q.tile) :: more, ?_,
      by rw [List.length_cons, hlen, List.length_cons], ?_, hfollows⟩
    · rw [hmore, List.length_cons, List.append_assoc]
      congr 3
      rw [Int.natCast_succ, Int.add_mul]
      omega
    · by_cases hwait : q.tile = p.tile
      · rw [if_pos hwait]
        exact hwait
      · rw [if_neg hwait]
        exact getDirectionForStep_stepsTo (hstep.resolve_left hwait)

theorem stepLoop_behind {firstMC i old : Nat} {rest : List PfPosition}
    {totalMC : Int} {dir : List (Option Direction8)}
    (hi : (i : Int) ≤ maxLenRoute)
    (hlong : maxLenRoute < (i + rest.length : Int)) :
    stepLoop m firstMC i old rest totalMC dir = .error .behindDir := by
  induction rest generalizing i old totalMC dir with
  | nil =>
    simp only [List.length_nil] at hlong
    omega
  | cons q rest ih =>
    rw [List.length_cons] at hlong
    unfold stepLoop
    split
    · rfl
    · exact ih (by omega) (by push_cast; omega)

-- ==== the handler

variable {w : World} {unitId goal : Int} {punit : GotoUnit} {ptile : Nat}
  {first : PfPosition} {rest : List PfPosition}

def firstCost (rest : List PfPosition) : Nat :=
  rest.head?.elim 0 PfPosition.totalMC

theorem handle_of_path (hunit : w.playerUnitByNumber unitId = some punit)
    (htile : indexToTile w.map goal = some ptile)
    (hphase : punit.inPhase = true)
    (hpath : w.pfMapPath punit ptile = some (first :: rest)) :
    handleWebGotoPathReq w unitId goal
      = match stepLoop w.map (firstCost rest) 0 first.tile rest 0 [] with
        | .error e => .error e
        | .ok (totalMC, dir) =>
          if punit.moveRate = 0 then .error .zeroRate
          else .ok (some
            { unitId := punit.id
              length := rest.length
              dir
              dest := ptile
              turns := totalMC.tdiv punit.moveRate }) := by
  unfold handleWebGotoPathReq
  simp only [hunit, htile, hphase, hpath, Bool.not_true, firstCost]
  rfl

/-- What an even path gives. -/
theorem handle_sends (hunit : w.playerUnitByNumber unitId = some punit)
    (htile : indexToTile w.map goal = some ptile)
    (hphase : punit.inPhase = true)
    (hpath : w.pfMapPath punit ptile = some (first :: rest))
    (hwalks : (first :: rest).IsChain fun p q =>
      q.tile = p.tile ∨ ∃ d, w.map.mapstep p.tile d = some q.tile)
    (hfits : (rest.length : Int) ≤ maxLenRoute) (hrate : punit.moveRate ≠ 0) :
    ∃ dir, handleWebGotoPathReq w unitId goal
        = .ok (some
            { unitId := punit.id
              length := rest.length
              dir
              dest := ptile
              turns := (int32 (rest.length * firstCost rest)).tdiv
                punit.moveRate })
      ∧ dir.length = rest.length ∧ Follows w.map first.tile dir rest := by
  obtain ⟨dir, hloop, hlen, hfollows⟩ :=
    stepLoop_ok (firstCost rest) 0 0 [] rfl hwalks (by omega)
  refine ⟨dir, ?_, hlen, hfollows⟩
  rw [handle_of_path hunit htile hphase hpath]
  rw [show int32 0 = 0 from rfl, Int.zero_add, List.nil_append] at hloop
  rw [hloop]
  exact if_neg hrate

theorem evenPath_cons : EvenPath punit (first :: rest) ↔
    (rest.length : Int) ≤ maxLenRoute ∧ punit.moveRate ≠ 0
      ∧ ∀ last, (first :: rest).getLast? = some last →
        (int32 (rest.length * firstCost rest)).tdiv punit.moveRate
          = (last.totalMC : Int).tdiv punit.moveRate := by
  unfold EvenPath
  rw [List.length_cons]
  show (_ ∧ _ ∧ ∀ last, _ → (int32 ((rest.length + 1 - 1 : Nat)
    * (firstCost rest : Nat))).tdiv _ = _) ↔ _
  rw [Nat.add_sub_cancel, Int.natCast_succ, Int.add_le_add_iff_right]

theorem answers_of_condition
    (hpf : ∀ punit t path, w.pfMapPath punit t = some path →
      IsPath w.map path t)
    (hcond : Condition w unitId goal) : Answers w unitId goal := by
  unfold Answers
  cases hunit : w.playerUnitByNumber unitId with
  | none => exact ⟨none, by simp [handleWebGotoPathReq, hunit], by simp⟩
  | some punit =>
    obtain ⟨ptile, htile, heven⟩ := hcond punit hunit
    by_cases hphase : punit.inPhase = true
    · cases hpath : w.pfMapPath punit ptile with
      | none =>
        exact ⟨none, by
          simp [handleWebGotoPathReq, hunit, htile, hphase, hpath], by simp⟩
      | some path =>
        have his := hpf punit ptile path hpath
        cases path with
        | nil =>
          obtain ⟨p, hp, -⟩ := his.last
          simp at hp
        | cons first rest =>
          obtain ⟨hfits, hrate, hturns⟩ :=
            evenPath_cons.mp (heven hphase _ hpath)
          obtain ⟨dir, hsends, hlen, hfollows⟩ :=
            handle_sends hunit htile hphase hpath his.walks hfits hrate
          obtain ⟨last, hlast, hdest⟩ := his.last
          refine ⟨_, hsends, fun packet h => ?_⟩
          cases h
          refine ⟨punit, _, rfl, hpath, rfl, rfl, hfits, ?_, ?_, ?_⟩
          · rintro _ _ ⟨⟩
            exact ⟨hlen, hfollows⟩
          · rw [hlast, Option.map_some, hdest]
          · rw [hlast, Option.map_some, hturns last hlast]
    · exact ⟨none, by
        simp [handleWebGotoPathReq, hunit, htile, hphase], by simp⟩

theorem evenPath_of_answers (hunit : w.playerUnitByNumber unitId = some punit)
    (htile : indexToTile w.map goal = some ptile)
    (hphase : punit.inPhase = true)
    (hpath : w.pfMapPath punit ptile = some (first :: rest))
    (his : IsPath w.map (first :: rest) ptile)
    (h : Answers w unitId goal) : EvenPath punit (first :: rest) := by
  obtain ⟨sent, hsent, hfaithful⟩ := h
  have hfits : (rest.length : Int) ≤ maxLenRoute := by
    by_cases hlong : maxLenRoute < (rest.length : Int)
    · rw [handle_of_path hunit htile hphase hpath,
        stepLoop_behind (by decide) (by omega)] at hsent
      nomatch hsent
    · omega
  have hrate : punit.moveRate ≠ 0 := by
    intro hzero
    rw [handle_of_path hunit htile hphase hpath] at hsent
    split at hsent
    · nomatch hsent
    · rw [if_pos hzero] at hsent
      nomatch hsent
  obtain ⟨dir, hsends, -, -⟩ :=
    handle_sends hunit htile hphase hpath his.walks hfits hrate
  rw [hsends] at hsent
  cases hsent
  obtain ⟨punit', path, hunit', hpath', hpacket⟩ := hfaithful _ rfl
  cases hunit.symm.trans hunit'
  cases hpath.symm.trans hpath'
  refine evenPath_cons.mpr ⟨hfits, hrate, fun last hlast => ?_⟩
  have hturns := hpacket.turns
  rw [hlast, Option.map_some] at hturns
  dsimp only at hturns
  exact (Option.some.inj hturns).symm

/-- Two steps to the east, the second at the given cost. -/
def twoSteps (cost : Nat) : List PfPosition :=
  let position tile totalMC : PfPosition :=
    { tile, turn := 0, movesLeft := 0, fuelLeft := 0, totalMC, totalEC := 0,
      dirToNextPos := some .east, dirToHere := none }
  [position 0 0, position 1 3, position 2 (3 + cost)]

def threeTiles : CivMap where
  xsize := 3
  ysize := 1
  iso := false
  hex := false
  wrapX := false
  wrapY := false
  xsize_pos := three_pos
  ysize_pos := Nat.one_pos
  even := row_even

def smallWorld (cost : Nat) : World where
  map := threeTiles
  playerUnitByNumber id :=
    if id = 7 then some { id := 7, moveRate := 3, inPhase := true } else none
  pfMapPath _ t := if t = 2 then some (twoSteps cost) else none

theorem smallWorld_paths {cost : Nat} (punit : GotoUnit) (t : Nat)
    (path : List PfPosition)
    (h : (smallWorld cost).pfMapPath punit t = some path) :
    IsPath (smallWorld cost).map path t := by
  unfold smallWorld at h
  dsimp only at h
  split at h
  · next ht =>
      obtain rfl : twoSteps cost = path := Option.some.inj h
      subst ht
      have heast : threeTiles.mapstep 0 .east = some 1
          ∧ threeTiles.mapstep 1 .east = some 2 := by decide
      refine ⟨?_, ?_, ?_, ?_⟩
      · show List.IsChain (fun p q : PfPosition => q.tile = p.tile
          ∨ ∃ d, threeTiles.mapstep p.tile d = some q.tile) _
        exact .cons_cons (.inr ⟨.east, heast.1⟩)
          (.cons_cons (.inr ⟨.east, heast.2⟩) (.singleton _))
      · simp [twoSteps]
      · simp [twoSteps]
      · simp [twoSteps]
  · nomatch h

end WebGoto

end Freeciv3d.Server
