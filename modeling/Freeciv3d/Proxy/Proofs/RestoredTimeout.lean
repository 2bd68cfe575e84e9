/-
The timeout a resume restores: in every run and every cycle, the one
captured at the first `pause_game`.

# What carries it

`Remembers` ties both memories to what arrived: a `CivCom` holds the
last positive timeout that arrived at it, the session what its first
pause found there. The captured value passes the check `resume_game`
makes before it sends, so no later step changes what is sent.
-/
import Freeciv3d.Proxy.GameSession

namespace Freeciv3d.Proxy

open Lib

variable {gameId : GameId} {civserverPort : Int} {minPlayers : Nat}
  {createdAt inForce : Int} {r r' : TimeoutRun}

-- ==== the statement

/-- The `N` of a `/set timeout N`. -/
def ServerCommand.timeout? : ServerCommand → Option Int
  | setTimeout n => some n
  | setAutotoggle _ => none

/-- The resume sends `/set timeout n`, and no other timeout. -/
def Resumed.Sends (e : Resumed) (n : Int) : Prop :=
  e.commands.filterMap ServerCommand.timeout? = [n]

instance (e : Resumed) (n : Int) : Decidable (e.Sends n) :=
  inferInstanceAs (Decidable (_ = _))

/-- Every resume restores the timeout its pause was issued under. -/
def RoundTrip (r : TimeoutRun) : Prop :=
  ∀ e ∈ r.resumes, e.Sends e.pausedFrom

instance (r : TimeoutRun) : Decidable (RoundTrip r) :=
  inferInstanceAs (Decidable (∀ e ∈ r.resumes, _))

/-- What a pause captures, from the timeouts that have arrived: the
last positive one, if it is not too large. -/
def capturedTimeout (arrived : List Int) : Int :=
  GameSession.sanitizeTimeout (arrived.find? fun t => 0 < t)

/-- Every resume sends what the first pause captured, which restores
the timeout its own pause was issued under exactly if the two are
equal. -/
def SendsCaptured (r : TimeoutRun) : Prop :=
  ∀ e ∈ r.resumes, ∃ arrived, r.firstPause = some arrived
    ∧ e.Sends (capturedTimeout arrived)
    ∧ (e.Sends e.pausedFrom ↔ capturedTimeout arrived = e.pausedFrom)

-- ==== the session

namespace GameSession

theorem sanitizeTimeout_bounds (t : Option Int) :
    0 ≤ sanitizeTimeout t ∧ sanitizeTimeout t ≤ maxGameTimeout := by
  unfold sanitizeTimeout maxGameTimeout defaultGameTimeout
  cases t with
  | none => decide
  | some t =>
    dsimp only
    split
    case isTrue hok =>
      rw [Bool.and_eq_true, decide_eq_true_eq, decide_eq_true_eq] at hok
      exact hok
    case isFalse => decide

/-- So `resume_game` sends it as it is. -/
theorem resumeTimeout_of_captured {s : GameSession} {t : Option Int}
    (hs : s.originalTimeout = some (sanitizeTimeout t)) :
    s.resumeTimeout = sanitizeTimeout t := by
  obtain ⟨hlow, hhigh⟩ := sanitizeTimeout_bounds t
  unfold resumeTimeout
  rw [hs, Option.getD_some]
  refine if_neg fun hbad => ?_
  rw [Bool.or_eq_true, decide_eq_true_eq, decide_eq_true_eq] at hbad
  omega

theorem resumeCommands_timeouts (s : GameSession) :
    s.resumeCommands.filterMap ServerCommand.timeout?
      = [s.resumeTimeout] := by
  unfold resumeCommands
  split <;> rfl

theorem pauseGame_originalTimeout (s : GameSession) (t : Option Int)
    (sent : Bool) (now : Int) :
    (s.pauseGame t sent now).1.originalTimeout
      = if s.isPaused then s.originalTimeout
        else s.originalTimeout.or (some (sanitizeTimeout t)) := by
  unfold pauseGame
  split
  · rfl
  · dsimp only
    split <;> rfl

theorem resumeGame_cases (s : GameSession) (sent : Bool) (now : Int) :
    (s.resumeGame sent now).1.originalTimeout = s.originalTimeout
      ∧ ((s.resumeGame sent now).1.isPaused = true → s.isPaused = true)
      ∧ ((s.resumeGame sent now).2 = true → s.isPaused = true) := by
  unfold resumeGame
  split
  case isTrue hp => exact ⟨rfl, id, fun h => by cases h⟩
  case isFalse hp =>
    rw [Bool.not_eq_true, Bool.not_eq_false'] at hp
    split
    · exact ⟨rfl, id, fun _ => hp⟩
    · split <;> exact ⟨rfl, fun _ => hp, fun _ => hp⟩

end GameSession

theorem CivCom.gameInfo_gameTimeout (c : CivCom) (t : Option Int)
    {arrived : List Int}
    (hc : c.gameTimeout = arrived.find? fun t => 0 < t) :
    (c.gameInfo t).gameTimeout
      = (t.toList ++ arrived).find? fun t => 0 < t := by
  unfold CivCom.gameInfo
  cases t with
  | none => exact hc
  | some t =>
    by_cases hpos : 0 < t
    · simp [hpos]
    · simp [hpos, hc]

-- ==== the invariant

/-- What the two memories hold, and what the resumes sent. -/
structure Remembers (r : TimeoutRun) : Prop where
  civcoms : ∀ c, (r.civcoms c).gameTimeout
    = (r.arrived c).find? fun t => 0 < t
  session : r.session.originalTimeout = r.firstPause.map capturedTimeout
  paused : r.session.isPaused = true → r.firstPause.isSome
  resumes : ∀ e ∈ r.resumes, ∃ arrived, r.firstPause = some arrived
    ∧ e.Sends (capturedTimeout arrived)

theorem Remembers.resumeCommands (h : Remembers r)
    (hp : r.session.isPaused = true) : ∃ arrived,
      r.firstPause = some arrived
        ∧ Resumed.Sends ⟨r.pausedFrom, r.session.resumeCommands⟩
          (capturedTimeout arrived) := by
  obtain ⟨arrived, hfirst⟩ := Option.isSome_iff_exists.mp (h.paused hp)
  refine ⟨arrived, hfirst, ?_⟩
  have hs := h.session
  rw [hfirst, Option.map_some] at hs
  unfold Resumed.Sends
  rw [GameSession.resumeCommands_timeouts,
    GameSession.resumeTimeout_of_captured hs]
  rfl

theorem Remembers.gameInfo (h : Remembers r) (c : CivComId)
    (t : Option Int) : Remembers (r.gameInfo c t) where
  civcoms d := by
    show (r.civcoms.modify c (CivCom.gameInfo t) d).gameTimeout
      = (Function.update r.arrived c _ d).find? _
    rw [Heap.modify_apply]
    by_cases hd : d = c
    · subst hd
      rw [if_pos rfl, Function.update_self]
      exact CivCom.gameInfo_gameTimeout _ t (h.civcoms d)
    · rw [if_neg hd, Function.update_of_ne hd]
      exact h.civcoms d
  session := h.session
  paused := h.paused
  resumes := h.resumes

theorem TimeoutRun.pauseGame_firstPause (r : TimeoutRun) (c : CivComId)
    (sent : Bool) (now : Int) :
    (r.pauseGame c sent now).firstPause
      = if r.session.isPaused then r.firstPause
        else r.firstPause.or (some (r.arrived c)) := by
  unfold TimeoutRun.pauseGame
  dsimp only
  split <;> rfl

theorem TimeoutRun.pauseGame_rest (r : TimeoutRun) (c : CivComId)
    (sent : Bool) (now : Int) :
    (r.pauseGame c sent now).session
        = (r.session.pauseGame (r.civcoms c).gameTimeout sent now).1
      ∧ (r.pauseGame c sent now).civcoms = r.civcoms
      ∧ (r.pauseGame c sent now).arrived = r.arrived
      ∧ (r.pauseGame c sent now).resumes = r.resumes := by
  unfold TimeoutRun.pauseGame
  dsimp only
  split <;> exact ⟨rfl, rfl, rfl, rfl⟩

theorem Remembers.pauseGame (h : Remembers r) (c : CivComId)
    (sent : Bool) (now : Int) : Remembers (r.pauseGame c sent now) := by
  obtain ⟨hsession, hcivcoms, harrived, hresumes⟩ :=
    r.pauseGame_rest c sent now
  have hfirst := r.pauseGame_firstPause c sent now
  have hkept : ∀ arrived, r.firstPause = some arrived →
      (r.pauseGame c sent now).firstPause = some arrived := by
    intro arrived ha
    rw [hfirst, ha]
    split <;> rfl
  constructor
  case civcoms =>
    rw [hcivcoms, harrived]
    exact h.civcoms
  case session =>
    rw [hsession, hfirst, GameSession.pauseGame_originalTimeout, h.session,
      h.civcoms]
    split
    · rfl
    · cases r.firstPause <;> rfl
  case paused =>
    intro _
    rw [hfirst]
    split
    case isTrue hp => exact h.paused hp
    case isFalse => cases r.firstPause <;> rfl
  case resumes =>
    rw [hresumes]
    intro e he
    obtain ⟨arrived, ha, hsends⟩ := h.resumes e he
    exact ⟨arrived, hkept arrived ha, hsends⟩

theorem Remembers.resumeGame (h : Remembers r) (sent : Bool)
    (now : Int) : Remembers (r.resumeGame sent now) := by
  obtain ⟨horiginal, hpaused, hdone⟩ := r.session.resumeGame_cases sent now
  unfold TimeoutRun.resumeGame
  dsimp only
  split
  case isTrue hresumed =>
    refine ⟨h.civcoms, horiginal.trans h.session,
      fun hp => h.paused (hpaused hp), fun e he => ?_⟩
    rcases List.mem_append.mp he with hold | hnew
    · exact h.resumes e hold
    · cases List.mem_singleton.mp hnew
      exact h.resumeCommands (hdone hresumed)
  case isFalse =>
    exact ⟨h.civcoms, horiginal.trans h.session,
      fun hp => h.paused (hpaused hp), h.resumes⟩

theorem Remembers.init : Remembers (.init gameId civserverPort minPlayers
    createdAt inForce) where
  civcoms _ := rfl
  session := rfl
  paused hp := by cases hp
  resumes e he := by cases he

theorem remembers (h : (timeoutRuns gameId civserverPort minPlayers
    createdAt inForce).Reach r) : Remembers r := by
  refine h.invariant (fun r h0 => ?_) fun r act r' hr hstep => ?_
  · cases h0
    exact .init
  · cases act with
    | gameInfo c t =>
      cases hstep
      exact hr.gameInfo c t
    | pauseGame c sent now =>
      cases hstep
      exact hr.pauseGame c sent now
    | resumeGame sent now =>
      cases hstep
      exact hr.resumeGame sent now

-- ==== the result

/-- In every run every resume, of whatever cycle, sends the timeout the
first pause captured. -/
theorem resumes_send_captured (l : List TimeoutAct) :
    (timeoutRuns gameId civserverPort minPlayers createdAt inForce).Always
      SendsCaptured
      (.init gameId civserverPort minPlayers createdAt inForce) l := by
  refine Lts.Reach.always (fun r hr e he => ?_) (.init rfl) l
  obtain ⟨arrived, hfirst, hsends⟩ := (remembers hr).resumes e he
  refine ⟨arrived, hfirst, hsends, ?_⟩
  unfold Resumed.Sends at hsends ⊢
  rw [hsends, List.cons.injEq, and_iff_left rfl]

/-- A change of the timeout between two pauses: the second resume goes
back to what the first pause found. -/
theorem second_resume_is_stale : ∃ l,
    ¬ (timeoutRuns "g" 6001 2 0 45).Always RoundTrip
      (.init "g" 6001 2 0 45) l :=
  ⟨[.gameInfo 0 (some 45), .pauseGame 0 true 10, .resumeGame true 20,
    .gameInfo 0 (some 90), .pauseGame 0 true 30, .resumeGame true 40],
    by decide⟩

end Freeciv3d.Proxy
