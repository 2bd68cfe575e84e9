/-
Publite2: `metachecker.check`, which launches servers by what the
metaserver reports, and `Civlauncher.run`, the thread of one server.

# The labels

A reply of the metaserver carries any counts. The loops that launch wait
a second before each launch, so a round of `check` is one step for the
reply and one for each launch, and launcher threads run and die in
between. A thread that cannot be started raises after it was appended.
What the process of a server returns is on the label too.

# What bounds the launchers

The loops go by the reported total, with what they launch added to their
copy of it. `due` is how many launches a loop still has before it; it is
fixed by the reply. So the launchers stay within the limit if, when a reply
comes, those alive and those due do (`Bounded`).
-/
import Mathlib.Data.List.Nodup
import Mathlib.Data.List.Infix
import Freeciv3d.Lib.Lts

namespace Freeciv3d.Publite

open Lib

-- ==== the launcher

inductive GameType where
  | singleplayer
  | multiplayer
  deriving DecidableEq

structure Civlauncher where
  gametype : GameType
  newPort : Nat
  numStart : Nat
  numError : Nat
  running : Bool
  /-- `is_alive()`. -/
  alive : Bool
  /-- The local counter of `run`. -/
  consecutiveErrors : Nat

namespace Civlauncher

def maxErrors : Nat := 10

/-- `__init__` and `start`. -/
def new (gametype : GameType) (port : Nat) (started : Bool) :
    Civlauncher where
  gametype := gametype
  newPort := port
  numStart := 0
  numError := 0
  running := true
  alive := started
  consecutiveErrors := 0

/-- The process returned a code, or could not be run: one round of the
loop of `run`, to the test of the next. -/
def returned (l : Civlauncher) (retcode : Option Int) : Civlauncher :=
  let l :=
    match retcode with
    | some code =>
      let l := { l with numStart := l.numStart + 1 }
      if 0 < code then
        { l with
          numError := l.numError + 1
          consecutiveErrors := l.consecutiveErrors + 1 }
      else { l with consecutiveErrors := 0 }
    | none =>
      { l with
        numError := l.numError + 1
        consecutiveErrors := l.consecutiveErrors + 1 }
  let l :=
    if maxErrors ≤ l.consecutiveErrors then { l with running := false }
    else l
  { l with alive := l.running }

def stop (l : Civlauncher) : Civlauncher := { l with running := false }

def die (l : Civlauncher) : Civlauncher := { l with alive := false }

end Civlauncher

-- ==== the metachecker

structure Settings where
  serverCapacitySingle : Int
  serverCapacityMulti : Int
  serverLimit : Int

/-- Where `check` is. -/
inductive Phase where
  | polling
  /-- In the first loop; with the value of `fork_bomb_preventer`. -/
  | single (forkBomb : Bool)
  | multi (forkBomb : Bool)
  deriving DecidableEq

structure Metachecker where
  serverList : List Civlauncher
  total : Int
  single : Int
  multi : Int
  consecutiveFailures : Nat
  /-- The local of `check`. -/
  port : Nat
  phase : Phase

inductive Event where
  /-- A reply with four fields, three of them counts. -/
  | reply (total single multi : Int)
  /-- One in which a count is no number; `total` and `single` as far as
  they were read. -/
  | notNumber (total single : Option Int)
  | otherFields
  | badStatus
  | failed
  | launch (started : Bool)
  | ended
  | returned (i : Nat) (retcode : Option Int)
  | stopped (i : Nat)
  | died (i : Nat)

namespace Metachecker

variable (cfg : Settings) (s : Metachecker)

/-- The `except` clause: after the fifth failure it waits and counts from
0 again. -/
def excepted : Metachecker :=
  { s with
    consecutiveFailures :=
      if 5 ≤ s.consecutiveFailures + 1 then 0
      else s.consecutiveFailures + 1
    phase := .polling }

def cleanupDeadServers : Metachecker :=
  { s with serverList := s.serverList.filter Civlauncher.alive }

/-- The counts are read, the dead are dropped, and `fork_bomb_preventer`
is computed. -/
def replied (total single multi : Int) : Metachecker :=
  let s := { s with total := total, single := single, multi := multi,
                    consecutiveFailures := 0 }
  let s := s.cleanupDeadServers
  let forkBomb := total == 0 && cfg.serverLimit < s.serverList.length
  { s with phase := .single forkBomb }

/-- The test of the loop the checker is in, with the type it launches. -/
def wants : Option GameType :=
  match s.phase with
  | .polling => none
  | .single forkBomb =>
    if s.single < cfg.serverCapacitySingle ∧ s.total ≤ cfg.serverLimit
        ∧ forkBomb = false then some .singleplayer
    else none
  | .multi forkBomb =>
    if s.multi < cfg.serverCapacityMulti ∧ s.total ≤ cfg.serverLimit
        ∧ forkBomb = false then some .multiplayer
    else none

def launched (gametype : GameType) (started : Bool) : Metachecker :=
  let newServer := Civlauncher.new gametype s.port started
  let s := { s with serverList := s.serverList ++ [newServer] }
  if started then
    { s with
      port := s.port + 1
      total := s.total + 1
      single := if gametype = .singleplayer then s.single + 1 else s.single
      multi := if gametype = .multiplayer then s.multi + 1 else s.multi }
  else s.excepted

def thread (i : Nat) (f : Civlauncher → Civlauncher) : Metachecker :=
  { s with serverList := s.serverList.modify i fun l =>
      if l.alive then f l else l }

def step : Event → Option Metachecker
  | .reply total single multi =>
    if s.phase = .polling then some (s.replied cfg total single multi)
    else none
  | .notNumber total single =>
    if s.phase = .polling then
      some { s with
        total := total.getD s.total
        single := single.getD s.single }.excepted
    else none
  | .otherFields => if s.phase = .polling then some s else none
  | .badStatus =>
    if s.phase = .polling then
      some { s with consecutiveFailures := s.consecutiveFailures + 1 }
    else none
  | .failed => some s.excepted
  | .launch started =>
    (s.wants cfg).map fun gametype => s.launched gametype started
  | .ended =>
    match s.phase, s.wants cfg with
    | .single forkBomb, none => some { s with phase := .multi forkBomb }
    | .multi _, none => some { s with phase := .polling }
    | _, _ => none
  | .returned i retcode => some (s.thread i fun l => l.returned retcode)
  | .stopped i => some (s.thread i Civlauncher.stop)
  | .died i => some (s.thread i Civlauncher.die)

def live : List Civlauncher := s.serverList.filter Civlauncher.alive

end Metachecker

/-- When `check` is called, with the two servers started before it. -/
def started : Metachecker where
  serverList := [.new .singleplayer 6000 true, .new .multiplayer 6001 true]
  total := 0
  single := 0
  multi := 0
  consecutiveFailures := 0
  port := 6002
  phase := .polling

def publite (cfg : Settings) : Lts Metachecker Event where
  init s := s = started
  step s e := s.step cfg e

-- ==== the statement

namespace Metachecker

/-- No more launchers are alive than the limit and one. -/
def WithinLimit (cfg : Settings) (s : Metachecker) : Prop :=
  (s.live.length : Int) ≤ cfg.serverLimit + 1

instance (cfg : Settings) (s : Metachecker) :
    Decidable (s.WithinLimit cfg) :=
  inferInstanceAs (Decidable (_ ≤ _))

/-- No two launchers alive have the same port. -/
def PortsDiffer (s : Metachecker) : Prop :=
  (s.live.map Civlauncher.newPort).Nodup

/-- How many launches a reply makes due: what the capacities miss, as far
as the reported total leaves room below the limit; none when the fork bomb
check holds. -/
def dueFor (cfg : Settings) (live total single multi : Int) : Int :=
  if total = 0 ∧ cfg.serverLimit < live then 0
  else min (max 0 (cfg.serverCapacitySingle - single)
      + max 0 (cfg.serverCapacityMulti - multi))
    (max 0 (cfg.serverLimit + 1 - total))

/-- A reply comes when those alive and those due are within the limit. -/
def Fits (cfg : Settings) (s : Metachecker) : Event → Prop
  | .reply total single multi =>
    s.live.length + dueFor cfg s.live.length total single multi
      ≤ cfg.serverLimit + 1
  | _ => True

instance (cfg : Settings) (s : Metachecker) :
    ∀ e, Decidable (s.Fits cfg e)
  | .reply .. => inferInstanceAs (Decidable (_ ≤ _))
  | .notNumber .. | .otherFields | .badStatus | .failed | .launch _
  | .ended | .returned .. | .stopped _ | .died _ => isTrue trivial

def due (cfg : Settings) (s : Metachecker) : Int :=
  let room := max 0 (cfg.serverLimit + 1 - s.total)
  let multi := max 0 (cfg.serverCapacityMulti - s.multi)
  match s.phase with
  | .polling => 0
  | .single true => 0
  | .single false =>
    min (max 0 (cfg.serverCapacitySingle - s.single) + multi) room
  | .multi true => 0
  | .multi false => min multi room

/-- Those alive and those due are within the limit. -/
def Bounded (cfg : Settings) (s : Metachecker) : Prop :=
  s.live.length + s.due cfg ≤ cfg.serverLimit + 1

-- ==== one step: threads

theorem ports_modify {f : Civlauncher → Civlauncher}
    (hport : ∀ l, (f l).newPort = l.newPort) (servers : List Civlauncher)
    (i : Nat) :
    (((servers.modify i fun l => if l.alive then f l else l).filter
        Civlauncher.alive).map Civlauncher.newPort).Sublist
      ((servers.filter Civlauncher.alive).map Civlauncher.newPort) := by
  induction servers generalizing i with
  | nil => simp
  | cons l servers ih =>
    cases i with
    | zero =>
      rw [List.modify_zero_cons]
      cases hl : l.alive with
      | false => simp [hl]
      | true =>
        rw [if_pos rfl, List.filter_cons_of_pos hl, List.map_cons]
        by_cases hf : (f l).alive = true
        · rw [List.filter_cons_of_pos hf, List.map_cons, hport]
        · rw [List.filter_cons_of_neg hf]
          exact List.sublist_cons_self ..
    | succ i =>
      rw [List.modify_succ_cons]
      cases hl : l.alive with
      | false | true => simpa [hl] using ih i

theorem newPort_returned (retcode : Option Int) (l : Civlauncher) :
    (l.returned retcode).newPort = l.newPort := by
  unfold Civlauncher.returned
  cases retcode with
  | none =>
    dsimp only
    split <;> rfl
  | some code =>
    dsimp only
    split <;> split <;> rfl

section Steps

variable {cfg : Settings} {s s' : Metachecker}

def livePorts (s : Metachecker) : List Nat :=
  s.live.map Civlauncher.newPort

/-- The ports, and those still to be given. -/
structure Ports (s : Metachecker) : Prop where
  differ : s.livePorts.Nodup
  below : ∀ port ∈ s.livePorts, port < s.port

theorem Ports.of_sublist (h : s.Ports)
    (hlive : s'.livePorts.Sublist s.livePorts) (hport : s'.port = s.port) :
    s'.Ports where
  differ := h.differ.sublist hlive
  below := fun port hmem => hport ▸ h.below port (hlive.subset hmem)

theorem livePorts_thread (s : Metachecker) (i : Nat)
    {f : Civlauncher → Civlauncher}
    (hport : ∀ l, (f l).newPort = l.newPort) :
    (s.thread i f).livePorts.Sublist s.livePorts :=
  ports_modify hport s.serverList i

theorem livePorts_cleanup (s : Metachecker) :
    s.cleanupDeadServers.livePorts = s.livePorts := by
  unfold livePorts live cleanupDeadServers
  rw [List.filter_filter]
  simp

theorem livePorts_launched (gametype : GameType) (started : Bool) :
    (s.launched gametype started).livePorts
      = s.livePorts ++ if started then [s.port] else [] := by
  unfold livePorts live launched
  cases started <;> simp [Civlauncher.new, excepted]

theorem Ports.launched (h : s.Ports) (gametype : GameType)
    (started : Bool) : (s.launched gametype started).Ports := by
  cases started with
  | false =>
    refine h.of_sublist ?_ rfl
    rw [livePorts_launched]
    simp
  | true =>
    constructor
    · rw [livePorts_launched, List.nodup_append]
      refine ⟨h.differ, by simp, ?_⟩
      intro port hport port' hport'
      have := h.below port hport
      simp at hport'
      omega
    · rw [livePorts_launched]
      intro port hport
      show port < s.port + 1
      rcases List.mem_append.mp hport with hport | hport
      · have := h.below port hport
        omega
      · simp at hport
        omega

theorem step_cases {e : Event} (hs : s.step cfg e = some s') :
    (∃ total single multi, e = .reply total single multi
        ∧ s' = s.replied cfg total single multi)
      ∨ (∃ gametype started, s.wants cfg = some gametype
        ∧ s' = s.launched gametype started)
      ∨ (∃ i f, (∀ l, (f l).newPort = l.newPort) ∧ s' = s.thread i f)
      ∨ (∃ forkBomb, s.phase = .single forkBomb ∧ s.wants cfg = none
        ∧ s' = { s with phase := .multi forkBomb })
      ∨ (s'.serverList = s.serverList ∧ s'.port = s.port
        ∧ s'.phase = .polling) := by
  cases e with
  | reply total single multi =>
    obtain ⟨-, h⟩ := Option.ite_none_right_eq_some.mp hs
    cases h
    exact .inl ⟨total, single, multi, rfl, rfl⟩
  | notNumber total single =>
    obtain ⟨-, h⟩ := Option.ite_none_right_eq_some.mp hs
    cases h
    exact .inr (.inr (.inr (.inr ⟨rfl, rfl, rfl⟩)))
  | otherFields | badStatus =>
    obtain ⟨hphase, h⟩ := Option.ite_none_right_eq_some.mp hs
    cases h
    exact .inr (.inr (.inr (.inr ⟨rfl, rfl, hphase⟩)))
  | failed =>
    cases hs
    exact .inr (.inr (.inr (.inr ⟨rfl, rfl, rfl⟩)))
  | launch started =>
    obtain ⟨gametype, hwants, h⟩ := Option.map_eq_some_iff.mp hs
    exact .inr (.inl ⟨gametype, started, hwants, h.symm⟩)
  | ended =>
    cases hwants : s.wants cfg with
    | some gametype =>
      cases hphase : s.phase <;> simp [step, hphase, hwants] at hs
    | none =>
      cases hphase : s.phase with
      | polling => simp [step, hphase] at hs
      | single forkBomb =>
        simp only [step, hphase, hwants, Option.some_inj] at hs
        exact .inr (.inr (.inr (.inl ⟨forkBomb, rfl, rfl, hs.symm⟩)))
      | multi forkBomb =>
        simp only [step, hphase, hwants, Option.some_inj] at hs
        subst hs
        exact .inr (.inr (.inr (.inr ⟨rfl, rfl, rfl⟩)))
  | returned i retcode =>
    cases hs
    exact .inr (.inr (.inl ⟨i, _, newPort_returned retcode, rfl⟩))
  | stopped i =>
    cases hs
    exact .inr (.inr (.inl ⟨i, Civlauncher.stop, fun _ => rfl, rfl⟩))
  | died i =>
    cases hs
    exact .inr (.inr (.inl ⟨i, Civlauncher.die, fun _ => rfl, rfl⟩))

theorem Ports.step (h : s.Ports) {e : Event} (hs : s.step cfg e = some s') :
    s'.Ports := by
  rcases step_cases hs with ⟨total, single, multi, -, rfl⟩
    | ⟨gametype, started, -, rfl⟩ | ⟨i, f, hport, rfl⟩
    | ⟨forkBomb, -, -, rfl⟩ | ⟨hlist, hport, -⟩
  · refine h.of_sublist ?_ rfl
    have hsame : (s.replied cfg total single multi).livePorts
        = s.livePorts := livePorts_cleanup s
    rw [hsame]
  · exact h.launched gametype started
  · exact h.of_sublist (livePorts_thread s i hport) rfl
  · exact h.of_sublist (List.Sublist.refl _) rfl
  · refine h.of_sublist ?_ hport
    unfold livePorts live
    rw [hlist]

-- ==== one step: the bound

theorem length_live (s : Metachecker) :
    s.live.length = s.livePorts.length := (List.length_map _).symm

theorem due_nonneg (cfg : Settings) (s : Metachecker) : 0 ≤ s.due cfg := by
  unfold due
  dsimp only
  split <;> omega

theorem due_replied (cfg : Settings) (s : Metachecker)
    (total single multi : Int) :
    (s.replied cfg total single multi).due cfg
      = dueFor cfg s.live.length total single multi := by
  unfold dueFor
  by_cases hbomb : total = 0 ∧ cfg.serverLimit < s.live.length
  · have hphase : (s.replied cfg total single multi).phase
        = .single true := by
      simp [replied, cleanupDeadServers, hbomb.1]
      exact hbomb.2
    rw [if_pos hbomb]
    simp [due, hphase]
  · have hphase : (s.replied cfg total single multi).phase
        = .single false := by
      rcases not_and_or.mp hbomb with htotal | hlimit
      · simp [replied, htotal]
      · simp [replied, cleanupDeadServers]
        exact fun _ => decide_eq_false hlimit
    rw [if_neg hbomb]
    simp only [due, hphase]
    rfl

theorem due_launched {gametype : GameType}
    (h : s.wants cfg = some gametype) :
    (s.launched gametype true).due cfg = s.due cfg - 1 := by
  cases hphase : s.phase with
  | polling => simp [wants, hphase] at h
  | single forkBomb =>
    simp only [wants, hphase, Option.ite_none_right_eq_some] at h
    obtain ⟨⟨hsingle, htotal, rfl⟩, htype⟩ := h
    cases htype
    simp only [due, launched, hphase, if_true]
    simp
    omega
  | multi forkBomb =>
    simp only [wants, hphase, Option.ite_none_right_eq_some] at h
    obtain ⟨⟨hmulti, htotal, rfl⟩, htype⟩ := h
    cases htype
    simp only [due, launched, hphase, if_true]
    omega

/-- When the first loop ends, it had nothing before it, or there is no
room for the second either. -/
theorem due_ended {forkBomb : Bool} (hphase : s.phase = .single forkBomb)
    (h : s.wants cfg = none) :
    ({ s with phase := .multi forkBomb } : Metachecker).due cfg
      = s.due cfg := by
  simp only [wants, hphase, ite_eq_right_iff, reduceCtorEq, imp_false] at h
  cases forkBomb with
  | true => simp [due, hphase]
  | false =>
    simp only [and_true] at h
    simp only [due, hphase]
    omega

theorem Bounded.step (h : s.Bounded cfg) {e : Event} (hc : s.Fits cfg e)
    (hs : s.step cfg e = some s') : s'.Bounded cfg := by
  unfold Bounded at *
  have hdue := due_nonneg cfg s
  rw [length_live] at *
  rcases step_cases hs with ⟨total, single, multi, rfl, rfl⟩
    | ⟨gametype, started, hwants, rfl⟩ | ⟨i, f, hport, rfl⟩
    | ⟨forkBomb, hphase, hwants, rfl⟩ | ⟨hlist, hport, hphase⟩
  · have hfits : s.live.length + dueFor cfg s.live.length total single multi
        ≤ cfg.serverLimit + 1 := hc
    have hlive : (s.replied cfg total single multi).livePorts
        = s.livePorts := livePorts_cleanup s
    rw [due_replied, hlive, ← length_live]
    exact hfits
  · rw [livePorts_launched]
    cases started with
    | true =>
      rw [due_launched hwants]
      simp
      omega
    | false =>
      have hnone : (s.launched gametype false).due cfg = 0 := rfl
      rw [hnone]
      simp
      omega
  · have hlive := (livePorts_thread s i hport).length_le
    have hsame : (s.thread i f).due cfg = s.due cfg := rfl
    omega
  · rw [due_ended hphase hwants]
    exact h
  · have hlive : s'.livePorts = s.livePorts := by
      unfold livePorts live
      rw [hlist]
    have hnone : s'.due cfg = 0 := by
      unfold due
      rw [hphase]
    rw [hlive, hnone]
    omega

end Steps

end Metachecker

-- ==== runs

open Metachecker

variable {cfg : Settings} {s : Metachecker}

theorem reach_ports (h : (publite cfg).Reach s) : s.Ports := by
  refine h.invariant ?_ fun s e s' hs hstep => hs.step hstep
  rintro s rfl
  constructor
  · decide
  · decide

theorem reach_bounded (hlimit : 1 ≤ cfg.serverLimit)
    (h : (publite cfg).ReachVia (fun s e => s.Fits cfg e) s) :
    s.Bounded cfg := by
  refine h.invariant ?_ fun s e s' hs hc hstep => hs.step hc hstep
  rintro s rfl
  show (2 : Int) + 0 ≤ _
  omega

/-- No two launchers ever share a port. Their number stays within the
limit in every run in which each reply comes when those alive and those
due do. -/
theorem launches_bounded (cfg : Settings) (hlimit : 1 ≤ cfg.serverLimit) :
    (∀ s, (publite cfg).Reach s → s.PortsDiffer)
      ∧ ∀ s, (publite cfg).ReachVia (fun s e => s.Fits cfg e) s →
        s.WithinLimit cfg := by
  constructor
  · intro s h
    exact (reach_ports h).differ
  · intro s h
    have hbounded := reach_bounded hlimit h
    have hdue := due_nonneg cfg s
    unfold Bounded at hbounded
    unfold WithinLimit
    omega

/-- What the metaserver says of the two servers, and two launches. -/
def honestRound : List Event :=
  [.reply 2 1 1, .launch true, .ended, .launch true, .ended]

/-- One reply that counts one server where two are alive, and a launch. -/
def staleRound : List Event := [.reply 1 0 0, .launch true]

theorem launches_bounded_in_honestRound :
    (((publite ⟨2, 2, 250⟩).exec started honestRound).getD
        started).WithinLimit ⟨2, 2, 250⟩
      ∧ (((publite ⟨2, 2, 250⟩).exec started honestRound).getD
        started).PortsDiffer := by
  have hbounded := launches_bounded ⟨2, 2, 250⟩ (by decide)
  have hstart : (publite ⟨2, 2, 250⟩).Reach started := .init rfl
  have hvia : (publite ⟨2, 2, 250⟩).ReachVia
      (fun s e => s.Fits ⟨2, 2, 250⟩ e) started := .init rfl
  refine ⟨hbounded.2 _ ?_, hbounded.1 _ (hstart.exec_getD _)⟩
  exact hvia.exec (l := honestRound) (by decide) rfl

/-- With a limit of one, three launchers are alive. -/
theorem launches_exceed_limit :
    ¬ ∀ s, (publite ⟨2, 2, 1⟩).Reach s → s.WithinLimit ⟨2, 2, 1⟩ := by
  intro h
  have hstart : (publite ⟨2, 2, 1⟩).Reach started := .init rfl
  exact absurd (h _ (hstart.exec_getD staleRound)) (by decide)

end Freeciv3d.Publite
