/-
The turn of a game as the LLM gateway keeps it: every agent's proxy
listener announces the turns it sees, to the session of the game and to
the spectators.

# What interleaves

`_notify_turn_change` writes the session under `_sessions_lock`, which
nobody holds across an await, and `notify_spectators_turn_change` writes
it again without; the first await that suspends is the first send. So an
announcement is one step, and each send to a spectator is a step of its
own. A listener may be cancelled between two sends.

# What is observed

The session also has the turns written to it and those sent to
spectators while it exists, oldest first; nothing reads them.

# The order

The turn of a game goes back exactly when a handler announces a turn
older than the one the session has; the spectators see the turns in
order as long as no broadcast goes on after a newer turn.

# Two logs

Every log ends at or below the current turn (`Ahead`), so appending the
turn of an announcement keeps the written turns in order exactly when it
is not below the current one. A send appends the turn of its broadcast:
the current one, when no newer turn has come in between.
-/
import Freeciv3d.Lib.Dict
import Freeciv3d.Lib.Lts

namespace Freeciv3d.Gateway

open Lib

/-- An entry of `game_sessions`, as far as its turn goes. -/
structure GameSession where
  currentTurn : Option Int
  written : List Int
  sent : List Int
  deriving DecidableEq

/-- An `AgentWebSocketHandler`, as far as turns go. -/
structure TurnHandler where
  gameId : Option String
  lastKnownTurn : Int

/-- A call of `broadcast_to_spectators` with a turn; `spectators` are
those it has not sent to yet. -/
structure TurnBroadcast where
  gameId : String
  turn : Int
  spectators : List Nat

structure TurnGateway where
  gameSessions : Dict String GameSession
  spectatorConnections : Dict String (List Nat)
  handlers : List TurnHandler
  broadcasts : List TurnBroadcast

inductive TurnEvent where
  /-- `create_game`, `ensure_game_session`, or a session made for REST. -/
  | createSession (gameId : String)
  | endSession (gameId : String)
  /-- An agent connects; it gets a handler of its own. -/
  | connect
  /-- The handler's `llm_connect` names its game. -/
  | join (i : Nat) (gameId : String)
  | packet (i : Nat) (pid : Int) (turn : Option Int)
  /-- A broadcast gets to its next spectator; the send may raise. -/
  | send (k : Nat) (ok : Bool)
  | cancel (k : Nat)
  | watch (gameId : String) (spectator : Nat)
  | leave (gameId : String) (spectator : Nat)

def packetBeginTurn : Int := 15

def packetGameInfo : Int := 16

def TurnHandler.newTurn (h : TurnHandler) (pid : Int) (turn : Option Int) :
    Option Int :=
  if pid = packetBeginTurn ∨ pid = packetGameInfo then
    turn.filter fun t => decide (t ≠ 0 ∧ h.lastKnownTurn < t)
  else none

namespace TurnGateway

/-- `game_sessions[game_id]["current_turn"] = turn`, if there is one. -/
def writeTurn (w : TurnGateway) (gameId : String) (turn : Int) :
    TurnGateway :=
  { w with gameSessions := w.gameSessions.modify gameId fun s =>
      { s with currentTurn := some turn, written := s.written ++ [turn] } }

/-- `notify_spectators_turn_change`, until its first send. -/
def notifySpectatorsTurnChange (w : TurnGateway) (gameId : String)
    (turn : Int) : TurnGateway :=
  let spectators := (w.spectatorConnections.get? gameId).getD []
  let w := w.writeTurn gameId turn
  { w with broadcasts := w.broadcasts ++ [⟨gameId, turn, spectators⟩] }

/-- `_notify_turn_change`, for a handler that may have no game yet. -/
def notifyTurnChange (w : TurnGateway) (gameId : Option String)
    (turn : Int) : TurnGateway :=
  match gameId.filter fun g => g != "" with
  | none => w
  | some g => (w.writeTurn g turn).notifySpectatorsTurnChange g turn

/-- The turn detection of `_listen_to_proxy`, on one packet. -/
def listen (w : TurnGateway) (i : Nat) (h : TurnHandler) (pid : Int)
    (turn : Option Int) : TurnGateway :=
  match h.newTurn pid turn with
  | none => w
  | some t =>
    let handlers := w.handlers.set i { h with lastKnownTurn := t }
    { w with handlers := handlers }.notifyTurnChange h.gameId t

/-- A send of a broadcast, while its session exists or after. -/
def sendTurn (w : TurnGateway) (k : Nat) (b : TurnBroadcast)
    (rest : List Nat) (ok : Bool) : TurnGateway :=
  let broadcasts := w.broadcasts.set k { b with spectators := rest }
  let w := { w with broadcasts := broadcasts }
  if ok then
    { w with gameSessions := w.gameSessions.modify b.gameId fun s =>
        { s with sent := s.sent ++ [b.turn] } }
  else w

def step (w : TurnGateway) : TurnEvent → Option TurnGateway
  | .createSession gameId =>
    if w.gameSessions.contains gameId then none
    else some { w with gameSessions :=
      w.gameSessions.set gameId ⟨none, [], []⟩ }
  | .endSession gameId =>
    some { w with gameSessions := w.gameSessions.erase gameId }
  | .connect => some { w with handlers := w.handlers ++ [⟨none, 0⟩] }
  | .join i gameId =>
    w.handlers[i]?.map fun h => { w with
      handlers := w.handlers.set i { h with gameId := some gameId } }
  | .packet i pid turn =>
    w.handlers[i]?.map fun h => w.listen i h pid turn
  | .send k ok =>
    w.broadcasts[k]?.bind fun b =>
      match b.spectators with
      | [] => none
      | _ :: rest => some (w.sendTurn k b rest ok)
  | .cancel k =>
    w.broadcasts[k]?.map fun b => { w with
      broadcasts := w.broadcasts.set k { b with spectators := [] } }
  | .watch gameId spectator =>
    let present := (w.spectatorConnections.get? gameId).getD []
    some { w with spectatorConnections :=
      w.spectatorConnections.set gameId (present ++ [spectator]) }
  | .leave gameId spectator =>
    let present := (w.spectatorConnections.get? gameId).getD []
    some { w with spectatorConnections :=
      w.spectatorConnections.set gameId (present.erase spectator) }

def start : TurnGateway := ⟨∅, ∅, [], []⟩

def runs : Lts TurnGateway TurnEvent where
  init w := w = start
  step := step

-- ==== the property

/-- The turns written to a session never go back. -/
def TurnsAscend (w : TurnGateway) : Prop :=
  ∀ e ∈ w.gameSessions.entries, e.2.written.Pairwise (· ≤ ·)

/-- Nor do those its spectators are sent. -/
def BroadcastsAscend (w : TurnGateway) : Prop :=
  ∀ e ∈ w.gameSessions.entries, e.2.sent.Pairwise (· ≤ ·)

/-- A handler announces no turn before the one its session has. -/
def AnnouncedInOrder (w : TurnGateway) : TurnEvent → Prop
  | .packet i pid turn => ∀ h ∈ w.handlers[i]?, ∀ t ∈ h.newTurn pid turn,
      ∀ g ∈ h.gameId, g ≠ "" → ∀ s ∈ w.gameSessions.get? g,
        ∀ c ∈ s.currentTurn, c ≤ t
  | _ => True

/-- A broadcast sends while its turn is the one its session has. -/
def SentWhileCurrent (w : TurnGateway) : TurnEvent → Prop
  | .send k true => ∀ b ∈ w.broadcasts[k]?,
      ∀ s ∈ w.gameSessions.get? b.gameId, s.currentTurn = some b.turn
  | _ => True

instance : DecidablePred TurnsAscend := fun w => inferInstanceAs
  (Decidable (∀ e ∈ w.gameSessions.entries, e.2.written.Pairwise (· ≤ ·)))

instance : DecidablePred BroadcastsAscend := fun w => inferInstanceAs
  (Decidable (∀ e ∈ w.gameSessions.entries, e.2.sent.Pairwise (· ≤ ·)))

instance (w : TurnGateway) : DecidablePred w.AnnouncedInOrder := fun e =>
  match e with
  | .packet i pid turn => inferInstanceAs (Decidable
      (∀ h ∈ w.handlers[i]?, ∀ t ∈ h.newTurn pid turn, ∀ g ∈ h.gameId,
        g ≠ "" → ∀ s ∈ w.gameSessions.get? g, ∀ c ∈ s.currentTurn, c ≤ t))
  | .createSession _ | .endSession _ | .connect | .join _ _ | .send _ _
  | .cancel _ | .watch _ _ | .leave _ _ => isTrue trivial

instance (w : TurnGateway) : DecidablePred w.SentWhileCurrent := fun e =>
  match e with
  | .send k true => inferInstanceAs (Decidable
      (∀ b ∈ w.broadcasts[k]?, ∀ s ∈ w.gameSessions.get? b.gameId,
        s.currentTurn = some b.turn))
  | .createSession _ | .endSession _ | .connect | .join _ _ | .send _ false
  | .packet _ _ _ | .cancel _ | .watch _ _ | .leave _ _ => isTrue trivial

end TurnGateway

-- ==== the order of turns

namespace TurnGateway

variable {w w' : TurnGateway}

/-- Appending to a log in order keeps the order exactly when nothing in
the log is larger. -/
theorem pairwise_append_iff {l : List Int} {t : Int}
    (h : l.Pairwise (· ≤ ·)) :
    (l ++ [t]).Pairwise (· ≤ ·) ↔ ∀ c ∈ l, c ≤ t := by
  rw [List.pairwise_append]
  constructor
  · rintro ⟨-, -, hle⟩ c hc
    exact hle c hc t List.mem_cons_self
  · intro hle
    refine ⟨h, List.pairwise_singleton _ t, ?_⟩
    intro c hc t' ht'
    rw [List.mem_singleton.mp ht']
    exact hle c hc

/-- The written turns end with the current one, which is the largest,
and no turn that was sent is larger. -/
structure Ahead (s : GameSession) : Prop where
  last : ∀ c ∈ s.currentTurn, c ∈ s.written
  written : ∀ c ∈ s.written, ∃ t ∈ s.currentTurn, c ≤ t

/-- No turn that was sent is larger than the current one. -/
def Seen (s : GameSession) : Prop :=
  ∀ c ∈ s.sent, ∃ t ∈ s.currentTurn, c ≤ t

def Sessions (P : GameSession → Prop) (w : TurnGateway) : Prop :=
  ∀ g s, w.gameSessions.get? g = some s → P s

theorem turnsAscend_iff :
    w.TurnsAscend ↔ w.Sessions fun s => s.written.Pairwise (· ≤ ·) := by
  unfold TurnsAscend Sessions
  simp only [Prod.forall, Dict.mem_entries_iff]

theorem broadcastsAscend_iff :
    w.BroadcastsAscend ↔ w.Sessions fun s => s.sent.Pairwise (· ≤ ·) := by
  unfold BroadcastsAscend Sessions
  simp only [Prod.forall, Dict.mem_entries_iff]

theorem sessions_start (P : GameSession → Prop) : start.Sessions P := by
  intro g s hs
  cases hs

/-- What a step does to the sessions. -/
inductive Change (w w' : TurnGateway) : TurnEvent → Prop
  | keep {e} (hin : w.AnnouncedInOrder e)
      (h : w'.gameSessions = w.gameSessions) : Change w w' e
  | create {g} (h : w'.gameSessions = w.gameSessions.set g ⟨none, [], []⟩) :
      Change w w' (.createSession g)
  | erase {g} (h : w'.gameSessions = w.gameSessions.erase g) :
      Change w w' (.endSession g)
  | announce {i pid turn h t g} (hi : w.handlers[i]? = some h)
      (ht : h.newTurn pid turn = some t) (hg : h.gameId = some g)
      (hne : g ≠ "")
      (h : ∀ g', w'.gameSessions.get? g' = if g' = g then
        (w.gameSessions.get? g).map fun s => { s with
          currentTurn := some t, written := s.written ++ [t] ++ [t] }
        else w.gameSessions.get? g') : Change w w' (.packet i pid turn)
  | send {k b} (hk : w.broadcasts[k]? = some b)
      (h : ∀ g', w'.gameSessions.get? g' = if g' = b.gameId then
        (w.gameSessions.get? b.gameId).map fun s => { s with
          sent := s.sent ++ [b.turn] }
        else w.gameSessions.get? g') : Change w w' (.send k true)

theorem change_listen {i : Nat} {h : TurnHandler}
    (hi : w.handlers[i]? = some h) (pid : Int) (turn : Option Int) :
    Change w (w.listen i h pid turn) (.packet i pid turn) := by
  unfold listen
  split
  next hnone =>
    refine .keep ?_ rfl
    intro h' hh' t ht
    rw [hi] at hh'
    cases hh'
    rw [hnone] at ht
    cases ht
  next t ht =>
    unfold notifyTurnChange
    split
    next hgame =>
      -- no game yet, or one without a name
      refine .keep ?_ rfl
      intro h' hh' t' _ g hg hne
      rw [hi] at hh'
      cases hh'
      rw [Option.filter_eq_none_iff] at hgame
      exact absurd (by simpa using hne) (hgame g hg)
    next g hgame =>
      obtain ⟨hg, hne⟩ := Option.filter_eq_some_iff.mp hgame
      refine .announce hi ht hg (by simpa using hne) ?_
      intro g'
      simp only [notifySpectatorsTurnChange, writeTurn, Dict.get?_modify]
      split
      next heq =>
        rw [heq, Option.map_map]
        rfl
      next => rfl

theorem change_of_step {e : TurnEvent} (hs : w.step e = some w') :
    Change w w' e := by
  cases e with
  | createSession g =>
    simp only [step] at hs
    split at hs
    · cases hs
    · cases hs
      exact .create rfl
  | endSession g =>
    cases hs
    exact .erase rfl
  | connect | watch g n | leave g n =>
    cases hs
    exact .keep trivial rfl
  | join i g =>
    obtain ⟨h, -, rfl⟩ := Option.map_eq_some_iff.mp hs
    exact .keep trivial rfl
  | packet i pid turn =>
    obtain ⟨h, hi, rfl⟩ := Option.map_eq_some_iff.mp hs
    exact change_listen hi pid turn
  | send k ok =>
    obtain ⟨b, hk, hb⟩ := Option.bind_eq_some_iff.mp hs
    split at hb
    · cases hb
    · cases hb
      cases ok with
      | false => exact .keep trivial rfl
      | true =>
        refine .send hk ?_
        intro g'
        show (Dict.modify _ _ _).get? g' = _
        rw [Dict.get?_modify]
        split
        next heq => rw [heq]
        next => rfl
  | cancel k =>
    obtain ⟨b, -, rfl⟩ := Option.map_eq_some_iff.mp hs
    exact .keep trivial rfl

-- ==== the written turns

theorem sessions_of_change {P : GameSession → Prop} {e : TurnEvent}
    (h : w.Sessions P) (hnew : P ⟨none, [], []⟩)
    (hannounce : ∀ i pid turn h t g, e = .packet i pid turn →
      w.handlers[i]? = some h → h.newTurn pid turn = some t →
      h.gameId = some g → g ≠ "" → ∀ s, w.gameSessions.get? g = some s →
        P { s with
          currentTurn := some t, written := s.written ++ [t] ++ [t] })
    (hsend : ∀ k b, e = .send k true → w.broadcasts[k]? = some b →
      ∀ s, w.gameSessions.get? b.gameId = some s →
        P { s with sent := s.sent ++ [b.turn] })
    (hc : Change w w' e) : w'.Sessions P := by
  intro g' s' hs'
  cases hc with
  | keep _ heq =>
    rw [heq] at hs'
    exact h g' s' hs'
  | create heq =>
    rw [heq, Dict.get?_set] at hs'
    split at hs'
    · cases hs'
      exact hnew
    · exact h g' s' hs'
  | erase heq =>
    rw [heq, Dict.get?_erase] at hs'
    split at hs'
    · cases hs'
    · exact h g' s' hs'
  | announce hi ht hg hne heq =>
    rw [heq] at hs'
    split at hs'
    · obtain ⟨s, hs, rfl⟩ := Option.map_eq_some_iff.mp hs'
      exact hannounce _ _ _ _ _ _ rfl hi ht hg hne s hs
    · exact h g' s' hs'
  | send hk heq =>
    rw [heq] at hs'
    split at hs'
    · obtain ⟨s, hs, rfl⟩ := Option.map_eq_some_iff.mp hs'
      exact hsend _ _ rfl hk s hs
    · exact h g' s' hs'

-- ==== the written turns

theorem not_lt_of_inOrder {i : Nat} {pid : Int} {turn : Option Int}
    {h : TurnHandler} {t : Int} {g : String} {s : GameSession}
    (hin : w.AnnouncedInOrder (.packet i pid turn))
    (hi : w.handlers[i]? = some h) (ht : h.newTurn pid turn = some t)
    (hg : h.gameId = some g) (hne : g ≠ "")
    (hs : w.gameSessions.get? g = some s) : ∀ c ∈ s.currentTurn, c ≤ t :=
  hin h hi t ht g hg hne s hs

theorem written_le {s : GameSession} {t : Int} (h : Ahead s)
    (hle : ∀ c ∈ s.currentTurn, c ≤ t) : ∀ c ∈ s.written, c ≤ t := by
  intro c hc
  obtain ⟨c', hc', hcc'⟩ := h.written c hc
  exact Int.le_trans hcc' (hle c' hc')

/-- Writing a turn twice keeps the order exactly when it is not below
the current one. -/
theorem write_pairwise_iff {s : GameSession} {t : Int} (h : Ahead s)
    (hs : s.written.Pairwise (· ≤ ·)) :
    (s.written ++ [t] ++ [t]).Pairwise (· ≤ ·)
      ↔ ∀ c ∈ s.currentTurn, c ≤ t := by
  constructor
  · intro hall
    have hfirst := (List.pairwise_append.mp hall).1
    intro c hc
    exact (pairwise_append_iff hs).mp hfirst c (h.last c hc)
  · intro hle
    have hwritten := written_le h hle
    have hfirst := (pairwise_append_iff hs).mpr hwritten
    refine (pairwise_append_iff hfirst).mpr ?_
    intro c hc
    rcases List.mem_append.mp hc with hold | hnew
    · exact hwritten c hold
    · exact Int.le_of_eq (List.mem_singleton.mp hnew)

/-- One step keeps the written turns in order exactly when a turn it
announces is not below the current one. -/
theorem turnsAscend_step_iff (h : w.TurnsAscend) (hahead : w.Sessions Ahead)
    {e : TurnEvent} (hs : w.step e = some w') :
    w'.TurnsAscend ↔ w.AnnouncedInOrder e := by
  rw [turnsAscend_iff] at h ⊢
  have hc := change_of_step hs
  constructor
  · intro hafter
    cases hc with
    | keep hin _ => exact hin
    | create _ | erase _ | send _ _ => trivial
    | @announce _ _ _ _ t g hi ht hg hne heq =>
      intro h' hh' t' ht' g' hg' _ s hsess
      rw [hi] at hh'
      cases hh'
      rw [ht] at ht'
      cases ht'
      rw [hg] at hg'
      cases hg'
      refine (write_pairwise_iff (hahead _ s hsess) (h _ s hsess)).mp ?_
      have hget := heq g
      rw [if_pos rfl, Option.mem_def.mp hsess] at hget
      exact hafter _ _ hget
  · intro hin
    refine sessions_of_change h List.Pairwise.nil ?_ ?_ hc
    · rintro i pid turn h' t g rfl hi ht hg hne s hsess
      refine (write_pairwise_iff (hahead g s hsess) (h g s hsess)).mpr ?_
      exact not_lt_of_inOrder hin hi ht hg hne hsess
    · intro k b _ _ s hsess
      exact h b.gameId s hsess

theorem ahead_step (h : w.Sessions Ahead) {e : TurnEvent}
    (hin : w.AnnouncedInOrder e) (hs : w.step e = some w') :
    w'.Sessions Ahead := by
  refine sessions_of_change h ⟨nofun, nofun⟩ ?_ ?_ (change_of_step hs)
  · rintro i pid turn h' t g rfl hi ht hg hne s hsess
    have hle := written_le (h g s hsess)
      (not_lt_of_inOrder hin hi ht hg hne hsess)
    refine ⟨?_, ?_⟩
    · rintro c hc
      cases hc
      exact List.mem_append_right _ List.mem_cons_self
    · intro c hc
      refine ⟨t, rfl, ?_⟩
      simp only [List.mem_append, List.mem_singleton] at hc
      rcases hc with (hold | rfl) | rfl
      · exact hle c hold
      · exact Int.le_refl c
      · exact Int.le_refl c
  · intro k b _ _ s hsess
    exact ⟨(h b.gameId s hsess).last, (h b.gameId s hsess).written⟩

-- ==== the broadcasts

/-- Announcements in order and timely sends keep what was sent below the
current turn. -/
theorem seen_step (h : w.Sessions Seen) {e : TurnEvent}
    (hin : w.AnnouncedInOrder e) (hsent : w.SentWhileCurrent e)
    (hs : w.step e = some w') : w'.Sessions Seen := by
  refine sessions_of_change h nofun ?_ ?_ (change_of_step hs)
  · rintro i pid turn h' t g rfl hi ht hg hne s hsess
    intro c hc
    obtain ⟨c', hc', hcc'⟩ := h g s hsess c hc
    exact ⟨t, rfl, Int.le_trans hcc'
      (not_lt_of_inOrder hin hi ht hg hne hsess c' hc')⟩
  · rintro k b rfl hk s hsess
    have hcurrent := hsent b hk s hsess
    intro c hc
    rcases List.mem_append.mp hc with hold | hnew
    · exact h b.gameId s hsess c hold
    · exact ⟨b.turn, hcurrent, Int.le_of_eq (List.mem_singleton.mp hnew)⟩

theorem broadcastsAscend_step (h : w.BroadcastsAscend)
    (hseen : w.Sessions Seen) {e : TurnEvent}
    (hsent : w.SentWhileCurrent e) (hs : w.step e = some w') :
    w'.BroadcastsAscend := by
  rw [broadcastsAscend_iff] at h ⊢
  refine sessions_of_change h List.Pairwise.nil ?_ ?_ (change_of_step hs)
  · intro i pid turn h' t g _ _ _ _ _ s hsess
    exact h g s hsess
  · rintro k b rfl hk s hsess
    have hcurrent := hsent b hk s hsess
    refine (pairwise_append_iff (h b.gameId s hsess)).mpr ?_
    intro c hc
    obtain ⟨t, ht, hct⟩ := hseen b.gameId s hsess c hc
    rw [hcurrent] at ht
    cases ht
    exact hct

-- ==== the runs

/-- The turn of a session goes back in a run exactly when some turn is
announced below it; and when besides every broadcast sends only while
its turn is current, what the spectators get is in order too. -/
theorem turns_never_go_back (events : List TurnEvent) (w : TurnGateway) :
    (runs.Always TurnsAscend start events
        ↔ runs.Along AnnouncedInOrder start events)
      ∧ (runs.ReachVia
          (fun w e => w.AnnouncedInOrder e ∧ w.SentWhileCurrent e) w →
        w.TurnsAscend ∧ w.BroadcastsAscend) := by
  constructor
  · refine Lts.always_iff_along_of (J := Sessions Ahead) ?_ ?_
      (turnsAscend_iff.mpr (sessions_start _)) (sessions_start _) events
    · intro w e w' h hahead hs
      exact turnsAscend_step_iff h hahead hs
    · intro w e w' _ hahead hin hs
      exact ahead_step hahead hin hs
  · intro hw
    have hall : w.TurnsAscend ∧ w.BroadcastsAscend ∧ w.Sessions Ahead
        ∧ w.Sessions Seen := by
      refine Lts.ReachVia.invariant (I := fun w => w.TurnsAscend
        ∧ w.BroadcastsAscend ∧ w.Sessions Ahead ∧ w.Sessions Seen)
        ?_ ?_ hw
      · rintro w rfl
        exact ⟨turnsAscend_iff.mpr (sessions_start _),
          broadcastsAscend_iff.mpr (sessions_start _), sessions_start _,
          sessions_start _⟩
      · rintro w e w' ⟨hturns, hbroadcasts, hahead, hseen⟩ ⟨hin, hsent⟩ hs
        exact ⟨(turnsAscend_step_iff hturns hahead hs).mpr hin,
          broadcastsAscend_step hbroadcasts hseen hsent hs,
          ahead_step hahead hin hs, seen_step hseen hin hsent hs⟩
    exact ⟨hall.1, hall.2.1⟩

/-- Two agents of a game see turn 5, one after the other. -/
def sameTurnEvents : List TurnEvent :=
  [.createSession "game", .watch "game" 1, .connect, .connect,
    .join 0 "game", .join 1 "game", .packet 0 15 (some 5),
    .packet 1 15 (some 5), .send 0 true, .send 1 true]

/-- The run keeps the turn, and the spectator gets it twice. -/
theorem turns_never_go_back_same_turn :
    runs.Always TurnsAscend start sameTurnEvents
      ∧ ∃ w, runs.exec start sameTurnEvents = some w
        ∧ w.TurnsAscend ∧ w.BroadcastsAscend := by
  refine ⟨(turns_never_go_back sameTurnEvents start).1.mpr
    (by decide +kernel), _, rfl, ?_⟩
  refine (turns_never_go_back sameTurnEvents _).2 ?_
  exact (Lts.ReachVia.init rfl).exec (l := sameTurnEvents)
    (by decide +kernel) rfl

/-- The second agent is a turn behind, on a stream of its own that does
not go back. -/
def lateAgentEvents : List TurnEvent :=
  [.createSession "game", .watch "game" 1, .connect, .connect,
    .join 0 "game", .join 1 "game", .packet 0 15 (some 5),
    .send 0 true, .packet 0 15 (some 6), .send 1 true,
    .packet 1 15 (some 5), .send 2 true]

/-- The session goes from turn 6 to turn 5, and the spectator too. -/
theorem turn_goes_back :
    (runs.exec start lateAgentEvents).map
        (fun w => w.gameSessions.get? "game")
      = some (some ⟨some 5, [5, 5, 6, 6, 5, 5], [5, 6, 5]⟩)
      ∧ ¬ runs.Always TurnsAscend start lateAgentEvents
      ∧ ¬ runs.Always BroadcastsAscend start lateAgentEvents := by
  exact ⟨by decide +kernel, by decide +kernel, by decide +kernel⟩

end TurnGateway

end Freeciv3d.Gateway
