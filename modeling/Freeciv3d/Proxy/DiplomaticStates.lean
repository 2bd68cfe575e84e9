/-
The diplomatic states of a `CivCom`: what PACKET_PLAYER_DIPLSTATE
stores, and the two queries, `get_diplstate` and
`get_all_diplstates_for_player`.

A state is stored under the pair of players as the packet orders it.
The auto-disband and the cache invalidation of the packet's branch do
not touch the store.

The diplomatic state of a pair of players, asked in three ways: exactly
when the last packets of the two orders of the pair tell the same.

# Two entries for one pair

A pair has an entry for each order its packets came in, and each query
prefers one of the two: `get_diplstate` the order it is asked in,
`get_all_diplstates_for_player` the one that was new last. The last
packet about the pair wrote one of them. So all answers are one of two
states (`eitherOf`), and they agree when the two states do.

The result is about any reading `f` of a state: its type alone, or all
of it.
-/
import Freeciv3d.Proxy.Mirror

namespace Freeciv3d.Proxy

open Lib

structure TrackedState where
  type : Int
  turnsLeft : Int
  hasReasonToCancel : Int
  contactTurnsLeft : Int

/-- PACKET_PLAYER_DIPLSTATE; any field may be missing. -/
structure DiplstatePacket where
  plr1 : Option Int
  plr2 : Option Int
  type : Option Int
  turnsLeft : Option Int
  hasReasonToCancel : Option Int
  contactTurnsLeft : Option Int

/-- What the queries return: the state and its name. -/
structure DiplView where
  state : TrackedState
  typeName : String

abbrev DiplomaticStates := Dict (Int × Int) TrackedState

def dsNoContact : Int := 5

/-- `DS_NAMES.get(type, f"unknown({type})")`. -/
def dsName (type : Int) : String :=
  (Mirror.dsNames.lookup type).getD ("unknown(" ++ toString type ++ ")")

def TrackedState.view (state : TrackedState) : DiplView :=
  ⟨state, dsName state.type⟩

namespace DiplstatePacket

def state (packet : DiplstatePacket) : TrackedState where
  type := packet.type.getD dsNoContact
  turnsLeft := packet.turnsLeft.getD (-1)
  hasReasonToCancel := packet.hasReasonToCancel.getD 0
  contactTurnsLeft := packet.contactTurnsLeft.getD 0

end DiplstatePacket

namespace DiplomaticStates

/-- The PACKET_PLAYER_DIPLSTATE branch of `parse_and_store_packet`. -/
def store (states : DiplomaticStates) (packet : DiplstatePacket) :
    DiplomaticStates :=
  match packet.plr1, packet.plr2 with
  | some plr1, some plr2 => states.set (plr1, plr2) packet.state
  | _, _ => states

def after (packets : List DiplstatePacket) : DiplomaticStates :=
  packets.foldl store ∅

variable (states : DiplomaticStates)

def getDiplstate (player1 player2 : Int) : DiplView :=
  match states.get? (player1, player2) with
  | some state => state.view
  | none =>
    match states.get? (player2, player1) with
    | some state => state.view
    | none => (TrackedState.mk dsNoContact (-1) 0 0).view

/-- The other player of a stored pair, `player` being one of the two. -/
def otherOf (player : Int) (e : (Int × Int) × TrackedState) :
    Option (Int × DiplView) :=
  if e.1.1 = player then some (e.1.2, e.2.view)
  else if e.1.2 = player then some (e.1.1, e.2.view)
  else none

def getAllDiplstatesForPlayer (player : Int) : Dict Int DiplView :=
  Dict.ofList (states.entries.filterMap (otherOf player))

def forSections : Dict (Int × Int) DiplState :=
  states.mapVals fun _ state => ⟨state.type, state.turnsLeft⟩

end DiplomaticStates

namespace DiplomaticStates

variable {β : Type} (f : TrackedState → β)
variable (packets : List DiplstatePacket) (a b : Int)

-- ==== the statement

def entryOf (packet : DiplstatePacket) :
    Option ((Int × Int) × TrackedState) :=
  packet.plr1.bind fun plr1 =>
    packet.plr2.map fun plr2 => ((plr1, plr2), packet.state)

def lastOrdered : Option TrackedState :=
  ((packets.filterMap entryOf).reverse.find? fun e =>
    e.1 = (a, b)).map Prod.snd

/-- The state of the last packet about the two, in either order. -/
def lastAbout : Option TrackedState :=
  ((packets.filterMap entryOf).reverse.find? fun e =>
    e.1 = (a, b) ∨ e.1 = (b, a)).map Prod.snd

/-- The answers about the two are those of the last packet about
them. -/
def Agrees : Prop :=
  f ((after packets).getDiplstate a b).state
      = f ((after packets).getDiplstate b a).state
    ∧ (∀ s ∈ lastAbout packets a b,
      f ((after packets).getDiplstate a b).state = f s)
    ∧ (((after packets).getAllDiplstatesForPlayer a).get? b).map
        (fun view => f view.state)
      = (lastAbout packets a b).map f

/-- The last packets of the two orders, where both came, tell the
same. -/
def SameBothWays : Prop :=
  ∀ s ∈ lastOrdered packets a b, ∀ t ∈ lastOrdered packets b a, f s = f t

instance [DecidableEq β] : Decidable (Agrees f packets a b) :=
  inferInstanceAs (Decidable (_ ∧ (∀ s ∈ lastAbout packets a b, _) ∧ _))

instance [DecidableEq β] : Decidable (SameBothWays f packets a b) :=
  inferInstanceAs (Decidable
    (∀ s ∈ lastOrdered packets a b, ∀ t ∈ lastOrdered packets b a, _))

-- ==== the two states

theorem get?_after : (after packets).get? (a, b) = lastOrdered packets a b := by
  have hfold : ∀ d : DiplomaticStates, packets.foldl store d
      = (packets.filterMap entryOf).foldl
        (fun acc e => acc.set e.1 e.2) d := by
    induction packets with
    | nil => exact fun d => rfl
    | cons packet rest ih =>
      intro d
      rw [List.foldl_cons, ih]
      obtain ⟨plr1, plr2, _, _, _, _⟩ := packet
      cases plr1 with
      | none => rfl
      | some p => cases plr2 <;> rfl
  rw [after, hfold]
  exact Dict.get?_ofList _ _

/-- What is listed for `b` among the pairs of `a` are the entries of the
two orders. -/
theorem find?_otherOf (l : List ((Int × Int) × TrackedState)) :
    ((l.filterMap (otherOf a)).find? fun e => e.1 = b).map Prod.snd
      = ((l.find? fun e => e.1 = (a, b) ∨ e.1 = (b, a)).map
        Prod.snd).map TrackedState.view := by
  induction l with
  | nil => rfl
  | cons e rest ih =>
    obtain ⟨⟨p, q⟩, s⟩ := e
    have hother : otherOf a ((p, q), s) = if p = a then some (q, s.view)
        else if q = a then some (p, s.view) else none := rfl
    by_cases hthis : (p, q) = (a, b) ∨ (p, q) = (b, a)
    · have hsome : otherOf a ((p, q), s) = some (b, s.view) := by
        rw [hother]
        rcases hthis with h | h
        · obtain ⟨hp, hq⟩ := Prod.mk.inj h
          rw [if_pos hp, hq]
        · obtain ⟨hp, hq⟩ := Prod.mk.inj h
          rw [hp, hq]
          by_cases hab : b = a
          · rw [if_pos hab, hab]
          · rw [if_neg hab, if_pos rfl]
      rw [List.filterMap_cons_some hsome,
        List.find?_cons_of_pos (by simp),
        List.find?_cons_of_pos (by simpa using hthis)]
      rfl
    · have hskip : ((((p, q), s) :: rest).filterMap (otherOf a)).find?
          (fun e => e.1 = b)
          = (rest.filterMap (otherOf a)).find? fun e => e.1 = b := by
        rw [List.filterMap_cons, hother]
        split
        case h_1 => rfl
        case h_2 found hfound =>
          refine List.find?_cons_of_neg fun hb => hthis ?_
          have hkey : found.1 = b := of_decide_eq_true hb
          split at hfound
          case isTrue hp =>
            cases hfound
            exact .inl (by rw [hp, ← hkey])
          case isFalse =>
            split at hfound
            case isTrue hq =>
              cases hfound
              exact .inr (by rw [hq, ← hkey])
            case isFalse => cases hfound
      rw [hskip, ih, List.find?_cons_of_neg (by simpa using hthis)]

theorem getDiplstate_state :
    ((after packets).getDiplstate a b).state
      = ((lastOrdered packets a b).or (lastOrdered packets b a)).getD
        ⟨dsNoContact, -1, 0, 0⟩ := by
  unfold getDiplstate
  rw [get?_after, get?_after]
  cases lastOrdered packets a b <;> cases lastOrdered packets b a <;> rfl

theorem getAll_state :
    ((after packets).getAllDiplstatesForPlayer a).get? b
        = ((lastOrdered packets a b).or (lastOrdered packets b a)).map
          TrackedState.view
      ∨ ((after packets).getAllDiplstatesForPlayer a).get? b
        = ((lastOrdered packets b a).or (lastOrdered packets a b)).map
          TrackedState.view := by
  have hlist : ((after packets).getAllDiplstatesForPlayer a).get? b
      = (((after packets).entries.reverse.find? fun e =>
        e.1 = (a, b) ∨ e.1 = (b, a)).map Prod.snd).map TrackedState.view := by
    rw [getAllDiplstatesForPlayer, Dict.get?_ofList,
      ← List.filterMap_reverse, find?_otherOf]
  have horders := Dict.map_find?_or (after packets).entries.reverse
    (a, b) (b, a)
  rw [Dict.map_find?_reverse_entries, Dict.map_find?_reverse_entries,
    get?_after, get?_after] at horders
  rw [hlist]
  rcases horders with h | h <;> rw [h]
  · exact .inl rfl
  · exact .inr rfl

/-- The answers about two players agree with the last packet about them
exactly when the last packets of the two orders tell the same. -/
theorem diplstate_agrees_iff :
    Agrees f packets a b ↔ SameBothWays f packets a b := by
  have hlast : lastAbout packets a b
        = (lastOrdered packets a b).or (lastOrdered packets b a)
      ∨ lastAbout packets a b
        = (lastOrdered packets b a).or (lastOrdered packets a b) :=
    Dict.map_find?_or _ (a, b) (b, a)
  have hall := getAll_state packets a b
  unfold Agrees SameBothWays
  rw [getDiplstate_state, getDiplstate_state]
  generalize ((after packets).getAllDiplstatesForPlayer a).get? b = listed
    at hall ⊢
  generalize lastAbout packets a b = last at hlast ⊢
  generalize lastOrdered packets a b = forth at hlast hall ⊢
  generalize lastOrdered packets b a = back at hlast hall ⊢
  cases forth with
  | none =>
    -- at most one entry: every answer is it, or the default
    rw [Option.none_or, Option.or_none, or_self] at hlast hall
    rw [hlast, hall]
    cases back <;> simp [TrackedState.view]
  | some s =>
    cases back with
    | none =>
      rw [Option.none_or, Option.or_none, or_self] at hlast hall
      rw [hlast, hall]
      simp [TrackedState.view]
    | some t =>
      -- the first conjunct is the condition, which settles the rest
      constructor
      · rintro ⟨hsame, -, -⟩ s' hs t' ht
        cases hs
        cases ht
        exact hsame
      · intro hsame
        have hst : f s = f t := hsame s rfl t rfl
        rcases hlast with rfl | rfl <;> rcases hall with rfl | rfl <;>
          simp [TrackedState.view, hst]

def warThenPeace : List DiplstatePacket :=
  [⟨some 1, some 2, some 0, none, none, none⟩,
    ⟨some 2, some 1, some 3, none, none, none⟩]

/-- Player 1 is told war, player 2 peace. -/
theorem diplstate_agrees_fails :
    ((after warThenPeace).getDiplstate 1 2).typeName = "war"
      ∧ ((after warThenPeace).getDiplstate 2 1).typeName = "peace"
      ∧ ¬ Agrees TrackedState.type warThenPeace 1 2 := by
  decide

end DiplomaticStates

end Freeciv3d.Proxy
