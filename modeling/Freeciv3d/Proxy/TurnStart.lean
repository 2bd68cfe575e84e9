/-
The turn flags of a `CivCom`: `turn_started` and `turn_advance_event`,
lowered by the event loop when the agent's turn ends and raised by the
CivCom thread when the server begins the next one.

# Two writers, four writes

The event loop ends a turn in four steps: it reads `game_turn` for the
phase-done packet, sends the packet, lowers `turn_started`, clears the
event. There is no await between them, so two ends of a turn never
overlap; `_handle_action` and `ForceEndTurnHandler.post` do the same
four. The thread handles PACKET_BEGIN_TURN in three steps: it writes
`game_turn`, raises `turn_started`, sets the event. Neither side takes
a lock, so the steps of the two interleave at will.

# The server

It begins turn t + 1 only once it has the phase-done packet of turn t;
the first turn it begins, the one a connection joins in, has no packet
before it. A send may fail: `send_packets_to_civserver` then drops the
packet and says nothing.

# Begun turns

When a begun turn is signalled: `Signalled` says that once a turn later
than the last one ended has begun, both flags are up, so no state query
waits.

# Who breaks it

The event loop lowers the flags after it has sent the phase-done
packet. The server may begin the next turn in between, and then the
flags of that turn are lowered: `Undisturbed` says of each of the steps
concerned that this has not happened. `signalled_iff` makes it exact
along every run.
-/
import Freeciv3d.Lib.Lts

namespace Freeciv3d.Proxy

open Lib

inductive EndTurnPc where
  | idle
  | made (turn : Int)
  /-- `send_packets_to_civserver` has returned. -/
  | sent
  /-- `turn_started` is lowered. -/
  | lowered
  deriving DecidableEq

/-- Where the thread is in handling PACKET_BEGIN_TURN. -/
inductive BeginTurnPc where
  | idle
  /-- `game_turn` is written. -/
  | stored (turn : Int)
  /-- `turn_started` is raised. -/
  | raised (turn : Int)
  deriving DecidableEq

/-- The turn fields of a `CivCom`, its two writers, and what has gone
over the socket. -/
structure TurnWorld where
  gameTurn : Int
  turnStarted : Bool
  /-- `turn_advance_event.is_set()`. -/
  turnAdvanceEvent : Bool
  loop : EndTurnPc
  thread : BeginTurnPc
  /-- The turns of the phase-done packets sent, the last one first. -/
  phaseDone : List Int
  /-- The turn of the latest PACKET_BEGIN_TURN processed. -/
  lastBegin : Option Int

inductive TurnAct where
  /-- An end_turn action, or a force-end-turn request: the converter
  reads the turn. -/
  | endTurn (forced : Bool)
  | send (ok : Bool)
  | lowerStarted
  | clearEvent
  | gameInfo (turn : Int)
  | beginTurn (turn : Int)
  | raiseStarted
  | setEvent
  | stateQuery

namespace TurnWorld

/-- The fields of `CivCom.__init__`. -/
def init : TurnWorld where
  gameTurn := 1
  turnStarted := true
  turnAdvanceEvent := true
  loop := .idle
  thread := .idle
  phaseDone := []
  lastBegin := none

def mayBegin (w : TurnWorld) (turn : Int) : Bool :=
  w.lastBegin.isNone || w.phaseDone.contains (turn - 1)

/-- A state query waits for `turn_advance_event`, for ten seconds at
most. -/
def queryWaits (w : TurnWorld) : Bool :=
  !w.turnStarted && !w.turnAdvanceEvent

def apply (w : TurnWorld) : TurnAct → Option TurnWorld
  | .endTurn _ =>
    if w.loop = .idle then some { w with loop := .made w.gameTurn }
    else none
  | .send ok =>
    match w.loop with
    | .made turn => some { w with
        loop := .sent
        phaseDone := if ok then turn :: w.phaseDone else w.phaseDone }
    | _ => none
  | .lowerStarted =>
    if w.loop = .sent then
      some { w with loop := .lowered, turnStarted := false }
    else none
  | .clearEvent =>
    if w.loop = .lowered then
      some { w with loop := .idle, turnAdvanceEvent := false }
    else none
  | .gameInfo turn =>
    if w.thread = .idle then some { w with gameTurn := turn } else none
  | .beginTurn turn =>
    if w.thread = .idle ∧ w.mayBegin turn then
      some { w with thread := .stored turn, gameTurn := turn }
    else none
  | .raiseStarted =>
    match w.thread with
    | .stored turn =>
      some { w with thread := .raised turn, turnStarted := true }
    | _ => none
  | .setEvent =>
    match w.thread with
    | .raised turn => some { w with
        thread := .idle, turnAdvanceEvent := true, lastBegin := some turn }
    | _ => none
  | .stateQuery => if w.loop = .idle then some w else none

end TurnWorld

/-- Any interleaving of the event loop and the thread. -/
def turnRuns : Lts TurnWorld TurnAct where
  init w := w = .init
  step := TurnWorld.apply

-- ==== begun turns

namespace TurnWorld

/-- The latest PACKET_BEGIN_TURN processed carries a turn greater than
that of the last phase-done packet sent. -/
def Begun (w : TurnWorld) : Prop :=
  ∃ b ∈ w.lastBegin, ∀ d ∈ w.phaseDone.head?, d < b

instance (w : TurnWorld) : Decidable w.Begun :=
  match h : w.lastBegin with
  | none => isFalse (by simp [Begun, h])
  | some b =>
    decidable_of_iff (∀ d ∈ w.phaseDone.head?, d < b)
      (by simp [Begun, h])

/-- A begun turn is signalled: both flags are up and no state query
waits. -/
def Signalled (w : TurnWorld) : Prop :=
  w.Begun → w.turnStarted = true ∧ w.turnAdvanceEvent = true
    ∧ w.queryWaits = false

instance (w : TurnWorld) : Decidable w.Signalled :=
  inferInstanceAs (Decidable (_ → _))

/-- What must hold when a step is taken. A flag is lowered only while
no later turn has begun; a phase-done packet that goes out is not for a
turn before the latest one begun, or the flags are up; and when the
thread sets the event, the flag it has raised just before is still up
or the turn has been ended meanwhile. -/
def Undisturbed (w : TurnWorld) : TurnAct → Prop
  | .lowerStarted => ¬ w.Begun
  | .clearEvent => ¬ w.Begun
  | .send true =>
    w.turnStarted = true ∧ w.turnAdvanceEvent = true
      ∨ ∀ turn, w.loop = .made turn → ∀ b ∈ w.lastBegin, b ≤ turn
  | .setEvent =>
    w.turnStarted = true
      ∨ ∀ turn, w.thread = .raised turn → ∃ d ∈ w.phaseDone.head?, turn ≤ d
  | _ => True

theorem signalled_iff_flags (w : TurnWorld) :
    w.Signalled
      ↔ (w.Begun → w.turnStarted = true ∧ w.turnAdvanceEvent = true) := by
  constructor
  · intro h hb
    exact ⟨(h hb).1, (h hb).2.1⟩
  · intro h hb
    obtain ⟨hs, he⟩ := h hb
    exact ⟨hs, he, by simp [queryWaits, hs]⟩

/-- A step that lowers a flag keeps the signal exactly when no later
turn has begun. -/
theorem signalled_of_lowered {w w' : TurnWorld}
    (hb : w'.Begun ↔ w.Begun)
    (hlow : w'.turnStarted = false ∨ w'.turnAdvanceEvent = false) :
    w'.Signalled ↔ ¬ w.Begun := by
  rw [signalled_iff_flags, hb]
  constructor
  · intro h hbegun
    obtain ⟨hs, he⟩ := h hbegun
    rcases hlow with h | h
    · rw [hs] at h
      cases h
    · rw [he] at h
      cases h
  · intro h hbegun
    exact absurd hbegun h

theorem signalled_send {w : TurnWorld} {turn : Int} :
    ({ w with loop := .sent, phaseDone := turn :: w.phaseDone } :
        TurnWorld).Signalled
      ↔ w.turnStarted = true ∧ w.turnAdvanceEvent = true
        ∨ ∀ b ∈ w.lastBegin, b ≤ turn := by
  rw [signalled_iff_flags]
  have hbegun : ({ w with loop := .sent, phaseDone := turn :: w.phaseDone } :
      TurnWorld).Begun ↔ ∃ b ∈ w.lastBegin, turn < b := by
    simp [Begun]
  rw [hbegun]
  show (_ → w.turnStarted = true ∧ w.turnAdvanceEvent = true) ↔ _
  by_cases hflags : w.turnStarted = true ∧ w.turnAdvanceEvent = true
  · simp [hflags]
  · constructor
    · intro h
      right
      intro b hb
      have hnot : ¬ turn < b := fun hlt => hflags (h ⟨b, hb, hlt⟩)
      omega
    · intro h hex
      obtain ⟨b, hb, hlt⟩ := hex
      rcases h with h | h
      · exact h
      · have := h b hb
        omega

theorem signalled_setEvent {w : TurnWorld} {turn : Int} :
    ({ w with thread := .idle, turnAdvanceEvent := true
              lastBegin := some turn } : TurnWorld).Signalled
      ↔ w.turnStarted = true ∨ ∃ d ∈ w.phaseDone.head?, turn ≤ d := by
  rw [signalled_iff_flags]
  have hbegun : ({ w with thread := .idle, turnAdvanceEvent := true
                          lastBegin := some turn } : TurnWorld).Begun
      ↔ ∀ d ∈ w.phaseDone.head?, d < turn := by
    simp [Begun]
  rw [hbegun]
  show (_ → w.turnStarted = true ∧ true = true) ↔ _
  constructor
  · intro h
    by_cases hd : ∀ d ∈ w.phaseDone.head?, d < turn
    · exact .inl (h hd).1
    · right
      obtain ⟨d, hd⟩ := Classical.not_forall.mp hd
      obtain ⟨hmem, hlt⟩ := Classical.not_imp.mp hd
      exact ⟨d, hmem, by omega⟩
  · intro h hd
    rcases h with h | ⟨d, hmem, hle⟩
    · exact ⟨h, rfl⟩
    · have := hd d hmem
      omega

theorem signalled_step_iff {w w' : TurnWorld} {a : TurnAct}
    (hw : w.Signalled) (hstep : w.apply a = some w') :
    w'.Signalled ↔ w.Undisturbed a := by
  cases a with
  | endTurn forced | gameInfo turn | beginTurn turn | stateQuery =>
    simp only [apply] at hstep
    split at hstep
    · cases hstep
      simp only [Undisturbed, iff_true]
      exact hw
    · cases hstep
  | send ok =>
    simp only [apply] at hstep
    split at hstep
    next turn hloop =>
      cases hstep
      cases ok with
      | true =>
        refine signalled_send.trans ?_
        simp [Undisturbed, hloop]
      | false =>
        simp only [Undisturbed, iff_true]
        exact hw
    next => cases hstep
  | lowerStarted =>
    simp only [apply] at hstep
    split at hstep
    · cases hstep
      exact signalled_of_lowered Iff.rfl (.inl rfl)
    · cases hstep
  | clearEvent =>
    simp only [apply] at hstep
    split at hstep
    · cases hstep
      exact signalled_of_lowered Iff.rfl (.inr rfl)
    · cases hstep
  | raiseStarted =>
    simp only [apply] at hstep
    split at hstep
    next turn hthread =>
      cases hstep
      simp only [Undisturbed, iff_true]
      rw [signalled_iff_flags] at hw ⊢
      intro hb
      exact ⟨rfl, (hw hb).2⟩
    next => cases hstep
  | setEvent =>
    simp only [apply] at hstep
    split at hstep
    next turn hthread =>
      cases hstep
      refine signalled_setEvent.trans ?_
      simp [Undisturbed, hthread]
    next => cases hstep

end TurnWorld

-- ==== the main result

/-- In every run, every begun turn is signalled in every state exactly
if every step is undisturbed. -/
theorem turn_signalled_iff {w : TurnWorld} (hw : turnRuns.init w)
    (l : List TurnAct) :
    turnRuns.Always TurnWorld.Signalled w l
      ↔ turnRuns.Along TurnWorld.Undisturbed w l := by
  refine Lts.always_iff_along
    (fun _ _ _ hi hstep => TurnWorld.signalled_step_iff hi hstep) ?_ l
  rw [show w = .init from hw]
  decide

/-- Two turns, the second begun after the first was ended. -/
def twoTurns : List TurnAct :=
  [.endTurn false, .send true, .lowerStarted, .clearEvent, .beginTurn 2,
    .raiseStarted, .setEvent, .stateQuery]

theorem turn_signalled_iff_twoTurns :
    turnRuns.Always TurnWorld.Signalled .init twoTurns
      ↔ turnRuns.Along TurnWorld.Undisturbed .init twoTurns :=
  turn_signalled_iff rfl twoTurns

/-- The server begins turn 2 between the phase-done packet of turn 1
and the lowering of the flags. -/
def beginsEarly : List TurnAct :=
  [.endTurn false, .send true, .beginTurn 2, .raiseStarted, .setEvent,
    .lowerStarted, .clearEvent, .stateQuery]

/-- The state query of turn 2 then waits for its timeout. -/
theorem turn_start_missed :
    ¬ turnRuns.Always TurnWorld.Signalled .init beginsEarly := by
  decide

end Freeciv3d.Proxy
