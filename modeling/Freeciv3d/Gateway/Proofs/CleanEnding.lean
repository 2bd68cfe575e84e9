/-
When ending a game is safe: the reaper removes idle games only, and
nothing of an ended game is left.

# The two conditions

Both halves hold as long as nobody steps in at the wrong await. The
reaper's look is stale once there is activity before it removes the
entry. And the first call to delete the entry makes the others fail
half-way, so what a join registers while a call is past its
notifications may have nobody left to take it away: `WindsDown` says
who will, and the condition is that a join keeps it so.
-/
import Mathlib.Algebra.Order.Ring.Rat
import Mathlib.Tactic.Linarith
import Freeciv3d.Gateway.GameEnding
import Freeciv3d.Lib.Tasks

namespace Freeciv3d.Gateway

open Lib

namespace GameEnding

variable {timeout : Rat} {g g' : GameEnding} {i : Nat} {c : EndCall}

-- ==== the statement

/-- Every entry the reaper removed had been idle for long enough. -/
def ReapsIdle (timeout : Rat) (g : GameEnding) : Prop :=
  ∀ idle ∈ g.reaped, timeout < idle

/-- Once all calls have finished, and nobody has joined since, nothing
is left. -/
def LeavesNothing (g : GameEnding) : Prop :=
  g.calls = [] → g.ended = true →
    g.session = none ∧ g.stream = false ∧ g.connection = false

instance (timeout : Rat) (g : GameEnding) :
    Decidable (g.ReapsIdle timeout) :=
  inferInstanceAs (Decidable (∀ idle ∈ g.reaped, _))

instance (g : GameEnding) : Decidable g.LeavesNothing :=
  inferInstanceAs (Decidable (_ → _ → _))

/-- The reaper has a call under way that may delete the entry. -/
def Reaping (g : GameEnding) : Prop :=
  ∃ c ∈ g.calls, c.byReaper = true ∧ c.phase ≠ .removing

/-- No activity on an entry the reaper is about to delete. -/
def SparesReaped (g : GameEnding) : EndingAct → Prop
  | .touchGame => g.session.isSome = true → ¬ g.Reaping
  | .ensureGameSession .. => ¬ g.Reaping
  | _ => True

/-- Some call has not deleted the entry yet, or failed to. -/
def WillDelete (g : GameEnding) : Prop :=
  ∃ c ∈ g.calls, c.phase ≠ .removing

def WillRemove (g : GameEnding) : Prop :=
  ∃ c ∈ g.calls, c.phase = .removing

/-- Some call has `stop_stream` before it and none is past it, so the
first to stop is the first to delete. -/
def WillStop (g : GameEnding) : Prop :=
  (∃ c ∈ g.calls, c.phase = .notifying)
    ∧ ∀ c ∈ g.calls, ∀ found, c.phase ≠ .stopping found

/-- What joins and ends during and after an `end_game` leaves somebody
to take it away. -/
def JoinsInTime (g : GameEnding) : EndingAct → Prop
  | .ensureGameSession .. => g.calls ≠ [] → g.WillDelete
  | .addConnection => g.calls ≠ [] → g.session.isSome = true ∨ g.WillRemove
  | .startStream => g.stream = false → g.ended = true ∨ g.calls ≠ [] →
      g.session.isSome = true ∧ g.WillStop
  | .endGame => g.session = none → g.stream = false
      ∧ (g.connection = true → g.WillRemove)
  | .resume i succeeded =>
    succeeded = true ∨ ∀ c ∈ g.calls[i]?, c.phase ≠ .stopping true
  | _ => True

instance (g : GameEnding) (a : EndingAct) :
    Decidable (g.SparesReaped a) := by
  unfold SparesReaped Reaping
  split <;> infer_instance

instance (g : GameEnding) (a : EndingAct) :
    Decidable (g.JoinsInTime a) := by
  unfold JoinsInTime WillDelete WillStop WillRemove
  split <;> infer_instance

-- ==== the reaper

/-- An entry the reaper is about to delete is idle. -/
structure Idle (timeout : Rat) (g : GameEnding) : Prop where
  reaping : g.Reaping → ∀ e ∈ g.session, timeout < g.now - e.activity
  reaped : g.ReapsIdle timeout

/-- Steps that leave the entry, add none of the reaper's calls and take
some time. -/
theorem Idle.of_le (h : g.Idle timeout)
    (hcalls : g'.Reaping → g.Reaping)
    (hsession : ∀ e ∈ g'.session, e ∈ g.session) (hnow : g.now ≤ g'.now)
    (hreaped : g'.reaped = g.reaped) : g'.Idle timeout := by
  refine ⟨fun hr e he => ?_, ?_⟩
  · have hidle := h.reaping (hcalls hr) e (hsession e he)
    linarith
  · unfold ReapsIdle
    rw [hreaped]
    exact h.reaped

theorem Idle.of_not_reaping (h : g.Idle timeout) (hnot : ¬ g.Reaping)
    (hcalls : g'.calls = g.calls) (hreaped : g'.reaped = g.reaped) :
    g'.Idle timeout := by
  constructor
  · unfold Reaping at hnot ⊢
    rw [hcalls]
    exact fun hr => absurd hr hnot
  · unfold ReapsIdle
    rw [hreaped]
    exact h.reaped

theorem reaping_of_finish (hr : (g.finish i c).Reaping) : g.Reaping := by
  obtain ⟨d, hd, hd'⟩ := hr
  exact ⟨d, List.eraseIdx_subset hd, hd'⟩

theorem reaping_of_enter (hc : g.calls[i]? = some c) {phase : EndPhase}
    (hphase : c.phase ≠ .removing)
    (hr : (g.enter i c phase).Reaping) : g.Reaping := by
  obtain ⟨d, hd, hby, hd'⟩ := hr
  rcases List.mem_or_eq_of_mem_set hd with hold | rfl
  · exact ⟨d, hold, hby, hd'⟩
  · exact ⟨c, List.mem_of_getElem? hc, hby, hphase⟩

theorem Idle.resume (h : g.Idle timeout) (hc : g.calls[i]? = some c)
    (succeeded : Bool) : (g.resume i c succeeded).Idle timeout := by
  unfold GameEnding.resume
  split
  case h_1 hphase =>
    split
    · exact h.of_le reaping_of_finish (fun _ => id) le_rfl rfl
    · refine h.of_le (fun hr => ?_) (fun _ => id) le_rfl rfl
      exact reaping_of_enter hc (by rw [hphase]; exact fun he => by cases he)
        hr
  case h_2 found hphase =>
    dsimp only
    split
    · exact h.of_le reaping_of_finish (fun _ => id) le_rfl rfl
    case h_2 e hsession =>
      have hmem : e ∈ g.session := hsession
      refine ⟨fun _ e he => (by cases he), ?_⟩
      show ∀ idle ∈ (if c.byReaper then _ else _), timeout < idle
      split
      case isFalse => exact h.reaped
      case isTrue hby =>
        intro idle hidle
        rcases List.mem_append.mp hidle with hold | hnew
        · exact h.reaped idle hold
        · cases List.mem_singleton.mp hnew
          refine h.reaping ⟨c, List.mem_of_getElem? hc, hby, ?_⟩ e hmem
          rw [hphase]
          exact fun he => by cases he
  case h_3 =>
    exact h.of_le reaping_of_finish (fun _ => id) le_rfl rfl

theorem Idle.begin (h : g.Idle timeout) (byReaper : Bool)
    (hidle : byReaper = true →
      ∀ e ∈ g.session, timeout < g.now - e.activity)
    (hcalls : g'.calls = g.calls ++ [⟨byReaper, .notifying⟩])
    (hsession : g'.session = g.session) (hnow : g'.now = g.now)
    (hreaped : g'.reaped = g.reaped) : g'.Idle timeout := by
  constructor
  · rw [hsession, hnow]
    rintro ⟨d, hd, hby, hd'⟩
    rw [hcalls] at hd
    rcases List.mem_append.mp hd with hold | hnew
    · exact h.reaping ⟨d, hold, hby, hd'⟩
    · cases List.mem_singleton.mp hnew
      exact hidle hby
  · unfold ReapsIdle
    rw [hreaped]
    exact h.reaped

theorem Idle.step (h : g.Idle timeout) {a : EndingAct}
    (hc : g.SparesReaped a) (hstep : g.step timeout a = some g') :
    g'.Idle timeout := by
  cases a with
  | touchGame =>
    cases hstep
    cases hsession : g.session with
    | none =>
      refine h.of_le id (fun e he => ?_) le_rfl rfl
      have hmap : g.touchGame.session = none := by
        unfold touchGame
        rw [hsession]
        rfl
      rw [hmap] at he
      cases he
    | some e =>
      exact h.of_not_reaping (hc (by rw [hsession]; rfl)) rfl rfl
  | ensureGameSession port agentId playerId =>
    cases hstep
    exact h.of_not_reaping hc rfl rfl
  | addConnection | startStream =>
    cases hstep
    exact h.of_le id (fun _ => id) le_rfl rfl
  | endGame =>
    cases hstep
    unfold GameEnding.endGame
    split
    · exact h.of_le id (fun _ => id) le_rfl rfl
    · exact h.begin false (fun hby => by cases hby) rfl rfl rfl rfl
  | resume i succeeded =>
    obtain ⟨c, hget, rfl⟩ := Option.map_eq_some_iff.mp hstep
    exact h.resume hget succeeded
  | reaperScan =>
    obtain ⟨-, hsome⟩ := Option.ite_none_right_eq_some.mp hstep
    cases hsome
    unfold GameEnding.reaperScan
    split <;> exact h.of_le id (fun _ => id) le_rfl rfl
  | reaperCheck =>
    obtain ⟨-, hsome⟩ := Option.ite_none_right_eq_some.mp hstep
    cases hsome
    unfold GameEnding.reaperCheck
    split
    case isTrue hidle =>
      refine h.begin true (fun _ e he => ?_) rfl rfl rfl rfl
      rw [show g.session = some e from he] at hidle
      exact of_decide_eq_true hidle
    case isFalse => exact h.of_le id (fun _ => id) le_rfl rfl
  | tick seconds =>
    obtain ⟨hpos, hsome⟩ := Option.ite_none_right_eq_some.mp hstep
    cases hsome
    exact h.of_le id (fun _ => id) (le_add_of_nonneg_right hpos) rfl

-- ==== what is left

/-- While a game ends, somebody will take away what is there. -/
structure WindsDown (g : GameEnding) : Prop where
  session : g.session.isSome = true → g.WillDelete
  stream : g.stream = true → g.session.isSome = true ∧ g.WillStop
  connection : g.connection = true →
    g.session.isSome = true ∨ g.WillRemove

/-- A game is ending, or has ended. -/
def Ending (g : GameEnding) : Prop := g.ended = true ∨ g.calls ≠ []

theorem willDelete_of_finish (hc : g.calls[i]? = some c)
    (h : g.WillDelete) (hphase : c.phase = .removing) :
    (g.finish i c).WillDelete := by
  obtain ⟨d, hd, hd'⟩ := h
  rcases eq_or_mem_eraseIdx hc hd with rfl | hmem
  · exact absurd hphase hd'
  · exact ⟨d, hmem, hd'⟩

theorem willStop_of_finish (hc : g.calls[i]? = some c) (h : g.WillStop)
    (hphase : c.phase = .removing) : (g.finish i c).WillStop := by
  obtain ⟨⟨d, hd, hd'⟩, hnone⟩ := h
  refine ⟨?_, fun e he => hnone e (List.eraseIdx_subset he)⟩
  rcases eq_or_mem_eraseIdx hc hd with rfl | hmem
  · rw [hphase] at hd'
    cases hd'
  · exact ⟨d, hmem, hd'⟩

theorem willRemove_of_finish (hc : g.calls[i]? = some c)
    (h : g.WillRemove) (hphase : c.phase ≠ .removing) :
    (g.finish i c).WillRemove := by
  obtain ⟨d, hd, hd'⟩ := h
  rcases eq_or_mem_eraseIdx hc hd with rfl | hmem
  · exact absurd hd' hphase
  · exact ⟨d, hmem, hd'⟩

theorem WindsDown.giveUp (h : g.WindsDown) (hc : g.calls[i]? = some c)
    (hphase : c.phase ≠ .removing) (hsession : g.session = none) :
    (g.finish i c).WindsDown where
  session hs := by
    have hs' : g.session.isSome = true := hs
    rw [hsession] at hs'
    cases hs'
  stream ht := by
    have hs := (h.stream ht).1
    rw [hsession] at hs
    cases hs
  connection hn := by
    rcases h.connection hn with hs | hremove
    · rw [hsession] at hs
      cases hs
    · exact .inr (willRemove_of_finish hc hremove hphase)

theorem WindsDown.resume (h : g.WindsDown) (hc : g.calls[i]? = some c)
    {succeeded : Bool}
    (hstops : succeeded = true ∨ c.phase ≠ .stopping true) :
    (g.resume i c succeeded).WindsDown := by
  unfold GameEnding.resume
  split
  case h_1 hphase =>
    have hnot : c.phase ≠ .removing := by
      rw [hphase]
      exact fun he => by cases he
    split
    case h_1 hsession => exact h.giveUp hc hnot hsession
    case h_2 e hsession =>
      refine ⟨fun _ => ?_, fun ht => (by cases ht), fun _ => .inl ?_⟩
      · exact ⟨_, mem_set_self hc _, fun he => by cases he⟩
      · show g.session.isSome = true
        rw [hsession]
        rfl
  case h_2 found hphase =>
    -- a call that stops has taken the stream, and none was started since
    have hstream : g.stream = false := by
      rw [← Bool.not_eq_true]
      intro ht
      exact (h.stream ht).2.2 c (List.mem_of_getElem? hc) found hphase
    have hleft : (found && !succeeded) = false := by
      rcases hstops with hok | hstop
      · rw [hok, Bool.not_true, Bool.and_false]
      · cases found with
        | false => rfl
        | true => exact absurd hphase hstop
    have hnot : c.phase ≠ .removing := by
      rw [hphase]
      exact fun he => by cases he
    rw [hleft, Bool.or_false]
    dsimp only
    split
    case h_1 hsession => exact h.giveUp hc hnot hsession
    case h_2 e hsession =>
      refine ⟨fun hs => (by cases hs), fun ht => ?_, fun _ => .inr ?_⟩
      · have ht' : g.stream = true := ht
        rw [hstream] at ht'
        cases ht'
      · exact ⟨_, mem_set_self hc _, rfl⟩
  case h_3 hphase =>
    refine ⟨fun hs => ?_, fun ht => ?_, fun hn => by cases hn⟩
    · exact willDelete_of_finish hc (h.session hs) hphase
    · obtain ⟨hs, hstop⟩ := h.stream ht
      exact ⟨hs, willStop_of_finish hc hstop hphase⟩

theorem WindsDown.congr (h : g.WindsDown)
    (hsession : g'.session.isSome = g.session.isSome)
    (hstream : g'.stream = g.stream)
    (hconnection : g'.connection = g.connection)
    (hcalls : g'.calls = g.calls) : g'.WindsDown := by
  have hdelete : g'.WillDelete ↔ g.WillDelete := by
    unfold WillDelete
    rw [hcalls]
  have hstop : g'.WillStop ↔ g.WillStop := by
    unfold WillStop
    rw [hcalls]
  have hremove : g'.WillRemove ↔ g.WillRemove := by
    unfold WillRemove
    rw [hcalls]
  constructor
  · rw [hsession, hdelete]
    exact h.session
  · rw [hsession, hstream, hstop]
    exact h.stream
  · rw [hsession, hconnection, hremove]
    exact h.connection

theorem windsDown_begin (h : g.Ending → g.WindsDown) (byReaper : Bool)
    (hsome : g.session.isSome = true)
    (hsession : g'.session = g.session) (hstream : g'.stream = g.stream)
    (hcalls : g'.calls = g.calls ++ [⟨byReaper, .notifying⟩]) :
    g'.WindsDown := by
  have hnew : (⟨byReaper, .notifying⟩ : EndCall) ∈ g'.calls := by
    rw [hcalls]
    exact List.mem_append_right _ (List.mem_singleton.mpr rfl)
  have hsome' : g'.session.isSome = true := by
    rw [hsession]
    exact hsome
  refine ⟨fun _ => ⟨_, hnew, fun he => by cases he⟩, fun ht => ?_,
    fun _ => .inl hsome'⟩
  refine ⟨hsome', ⟨_, hnew, rfl⟩, fun d hd found => ?_⟩
  rw [hcalls] at hd
  rcases List.mem_append.mp hd with hold | hlast
  · rw [hstream] at ht
    have hcalls' : g.calls ≠ [] := List.ne_nil_of_mem hold
    exact ((h (.inr hcalls')).stream ht).2.2 d hold found
  · cases List.mem_singleton.mp hlast
    exact fun he => by cases he

theorem windsDown_step (h : g.Ending → g.WindsDown) {a : EndingAct}
    (hc : g.JoinsInTime a) (hstep : g.step timeout a = some g') :
    g'.Ending → g'.WindsDown := by
  intro hending
  cases a with
  | touchGame =>
    cases hstep
    exact (h hending).congr Option.isSome_map rfl rfl rfl
  | ensureGameSession port agentId playerId =>
    cases hstep
    have hcalls : g.calls ≠ [] :=
      hending.resolve_left fun he => by cases he
    exact ⟨fun _ => hc hcalls,
      fun ht => ⟨rfl, ((h (.inr hcalls)).stream ht).2⟩,
      fun _ => .inl rfl⟩
  | addConnection =>
    cases hstep
    have hcalls : g.calls ≠ [] :=
      hending.resolve_left fun he => by cases he
    have hdown := h (.inr hcalls)
    exact ⟨hdown.session, hdown.stream, fun _ => hc hcalls⟩
  | startStream =>
    cases hstep
    have hdown := h hending
    refine ⟨hdown.session, fun _ => ?_, hdown.connection⟩
    cases hstream : g.stream with
    | true => exact hdown.stream hstream
    | false => exact hc hstream hending
  | endGame =>
    cases hstep
    unfold GameEnding.endGame at hending ⊢
    split
    case h_1 hsession =>
      obtain ⟨hstream, hconnection⟩ := hc hsession
      refine ⟨fun hs => ?_, fun ht => ?_, fun hn => .inr (hconnection hn)⟩
      · have hs' : g.session.isSome = true := hs
        rw [hsession] at hs'
        cases hs'
      · exact absurd ht (by rw [hstream]; exact Bool.false_ne_true)
    case h_2 e hsession =>
      exact windsDown_begin h false (by rw [hsession]; rfl) rfl rfl rfl
  | resume i succeeded =>
    obtain ⟨c, hget, rfl⟩ := Option.map_eq_some_iff.mp hstep
    have hcalls : g.calls ≠ [] :=
      List.ne_nil_of_mem (List.mem_of_getElem? hget)
    exact (h (.inr hcalls)).resume hget (hc.imp_right fun hall =>
      hall c hget)
  | reaperScan =>
    obtain ⟨-, hsome⟩ := Option.ite_none_right_eq_some.mp hstep
    cases hsome
    unfold GameEnding.reaperScan at hending ⊢
    split
    case isTrue hidle =>
      rw [if_pos hidle] at hending
      exact (h hending).congr rfl rfl rfl rfl
    case isFalse hnot =>
      rw [if_neg hnot] at hending
      exact h hending
  | reaperCheck =>
    obtain ⟨-, hsome⟩ := Option.ite_none_right_eq_some.mp hstep
    cases hsome
    unfold GameEnding.reaperCheck at hending ⊢
    split
    case isTrue hidle =>
      obtain ⟨e, hsession, -⟩ := (Option.any_eq_true _ _).mp hidle
      exact windsDown_begin h true (by rw [hsession]; rfl) rfl rfl rfl
    case isFalse hnot =>
      rw [if_neg hnot] at hending
      exact (h hending).congr rfl rfl rfl rfl
  | tick seconds =>
    obtain ⟨-, hsome⟩ := Option.ite_none_right_eq_some.mp hstep
    cases hsome
    exact (h hending).congr rfl rfl rfl rfl

/-- When the calls are over nobody is left, so nothing is. -/
theorem WindsDown.leavesNothing (h : g.Ending → g.WindsDown) :
    g.LeavesNothing := by
  intro hcalls hended
  obtain ⟨hs, ht, hn⟩ := h (.inl hended)
  have hnobody : ∀ c, c ∉ g.calls := by
    rw [hcalls]
    exact fun _ => List.not_mem_nil
  have hsession : g.session = none := by
    rw [← Option.not_isSome_iff_eq_none]
    intro hsome
    obtain ⟨c, hc, -⟩ := hs hsome
    exact hnobody c hc
  refine ⟨hsession, ?_, ?_⟩
  · rw [← Bool.not_eq_true]
    intro hstream
    obtain ⟨-, ⟨c, hc, -⟩, -⟩ := ht hstream
    exact hnobody c hc
  · rw [← Bool.not_eq_true]
    intro hconnection
    rcases hn hconnection with hsome | ⟨c, hc, -⟩
    · rw [hsession] at hsome
      cases hsome
    · exact hnobody c hc

end GameEnding

-- ==== the result

/-- The reaper removes idle entries only, in the runs without activity
between its look and its removal. Nothing of an ended game is left, in
the runs whose joins and calls leave somebody to take it away. -/
theorem game_ends_safely (timeout : Rat) (g : GameEnding) :
    ((endingRuns timeout).ReachVia GameEnding.SparesReaped g →
        g.ReapsIdle timeout)
      ∧ ((endingRuns timeout).ReachVia GameEnding.JoinsInTime g →
        g.LeavesNothing) := by
  constructor
  · intro h
    have hidle : g.Idle timeout := by
      refine h.invariant (fun g h0 => ?_)
        fun _ _ _ hg hc hstep => hg.step hc hstep
      obtain ⟨hcalls, -, -, hreaped⟩ := h0
      constructor
      · rintro ⟨c, hc, -⟩
        rw [hcalls] at hc
        cases hc
      · unfold GameEnding.ReapsIdle
        rw [hreaped]
        exact fun idle hmem => by cases hmem
    exact hidle.reaped
  · intro h
    refine GameEnding.WindsDown.leavesNothing ?_
    refine h.invariant (I := fun g => g.Ending → g.WindsDown)
      (fun g h0 => ?_) fun _ _ _ hg hc hstep =>
        GameEnding.windsDown_step hg hc hstep
    obtain ⟨hcalls, -, hended, -⟩ := h0
    rintro (hover | hnone)
    · rw [hended] at hover
      cases hover
    · exact absurd hcalls hnone

theorem endingRuns_init {timeout : Rat} (now : Rat) :
    (endingRuns timeout).init (.init now) := ⟨rfl, rfl, rfl, rfl⟩

def join (agentId : String) (playerId : Int) : List EndingAct :=
  [.addConnection, .ensureGameSession 6001 agentId playerId, .startStream]

/-- The reaper and an explicit call end the same idle game; the second
finds the entry gone. -/
def endedTwice : List EndingAct :=
  join "a" 0 ++ [.tick 400, .reaperScan, .reaperCheck, .endGame,
    .resume 0 true, .resume 1 true, .resume 0 true, .resume 1 true,
    .resume 0 true]

theorem endedTwice_safely : ∃ g : GameEnding,
    g.reaped = [400] ∧ g.calls = [] ∧ g.ReapsIdle 300
      ∧ g.LeavesNothing := by
  have hrun : ((endingRuns 300).exec (.init 0) endedTwice).any
      fun g => decide (g.reaped = [400] ∧ g.calls = []) := by
    decide +kernel
  obtain ⟨g, hexec, hg⟩ := (Option.any_eq_true _ _).mp hrun
  obtain ⟨hreaped, hcalls⟩ := of_decide_eq_true hg
  obtain ⟨hidle, hnothing⟩ := game_ends_safely 300 g
  refine ⟨g, hreaped, hcalls, hidle ?_, hnothing ?_⟩
  · exact (Lts.ReachVia.init (endingRuns_init 0)).exec
      (by decide +kernel) hexec
  · exact (Lts.ReachVia.init (endingRuns_init 0)).exec
      (by decide +kernel) hexec

/-- The reaper deletes the entry a second after it was touched. And a
call that began after the second join finds the entry gone and leaves
the stream of that join running. -/
theorem game_ends_unsafely :
    (∃ g, (endingRuns 300).Reach g ∧ ¬ g.ReapsIdle 300)
      ∧ ∃ g, (endingRuns 300).Reach g ∧ ¬ g.LeavesNothing := by
  constructor
  · have hrun : ((endingRuns 300).exec (.init 0)
        (join "a" 0 ++ [.tick 400, .reaperScan, .reaperCheck, .touchGame,
          .resume 0 true, .tick 1, .resume 0 true])).any
          fun g => decide (¬ g.ReapsIdle 300) := by
      decide +kernel
    obtain ⟨g, hexec, hg⟩ := (Option.any_eq_true _ _).mp hrun
    exact ⟨g, (Lts.Reach.init (endingRuns_init 0)).exec hexec,
      of_decide_eq_true hg⟩
  · have hrun : ((endingRuns 300).exec (.init 0)
        (join "a" 0 ++ [.endGame, .resume 0 true] ++ join "b" 0
          ++ [.endGame, .resume 0 true, .resume 1 true,
            .resume 0 true])).any fun g => decide (¬ g.LeavesNothing) := by
      decide +kernel
    obtain ⟨g, hexec, hg⟩ := (Option.any_eq_true _ _).mp hrun
    exact ⟨g, (Lts.Reach.init (endingRuns_init 0)).exec hexec,
      of_decide_eq_true hg⟩

end Freeciv3d.Gateway
