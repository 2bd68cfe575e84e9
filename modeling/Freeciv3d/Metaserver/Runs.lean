/-
Interleavings of allocation and release requests at the metaserver.

# The labels

A request of `ServerAllocator.doPost` takes two steps, the clean-up
and the transaction; one of `ServerRelease.doPost` takes two steps,
its two UPDATEs. Between the two any other request may run, so a
request that has taken its first step waits in `allocating` or
`releasing`, and the label of the second step names its place there.
An exception of the database drops the waiting request and leaves the
tables as they were (`allocFail` is the rollback).

# Ghosts

`answered` records which address was answered to whom, and `takenBy`
which request last set a server unavailable. The code stores neither.
-/
import Freeciv3d.Lib.Lts
import Freeciv3d.Metaserver.Allocation

namespace Freeciv3d.Metaserver

open Lib

/-- The tables, the requests between their two steps, the ghosts. -/
structure Sys where
  db : Db
  allocating : List ServerAllocator.Request
  releasing : List ServerRelease.Request
  answered : List (Option GameId × Address)
  takenBy : Dict Address (Option GameId)
  deriving DecidableEq

inductive Act where
  | tick (seconds : Nat)
  | allocBegin (p : ServerAllocator.Params) (cleanupFails : Bool)
  | allocCommit (i : Nat) (listening : List Port)
  | allocFail (i : Nat)
  | releaseBegin (p : ServerRelease.Params)
  | releaseEnd (i : Nat)
  | releaseFail (i : Nat)

namespace Sys

/-- The ghosts of an allocation answer: the answered address, and the
taken server unless the answer reuses an allocation. -/
def recordAnswer (s : Sys) : ServerAllocator.Answer → Sys
  | .unavailable _ => s
  | .allocated a =>
    { s with
      answered := (a.gameId, (a.host, a.port)) :: s.answered
      takenBy := if a.reused = some true then s.takenBy
        else s.takenBy.set (a.host, a.port) a.gameId }

def commit (s : Sys) (i : Nat) (r : ServerAllocator.Request)
    (listening : List Port) : Sys :=
  let (db, answer) := ServerAllocator.allocate r listening s.db
  { s with db := db, allocating := s.allocating.eraseIdx i }.recordAnswer
    answer

/-- One step. A request that fails validation is answered 400 and
leaves everything as it was. -/
def apply (thresholdMinutes : Nat) (s : Sys) : Act → Option Sys
  | .tick n => some { s with db := { s.db with now := s.db.now + n } }
  | .allocBegin p cleanupFails =>
    match ServerAllocator.validate p with
    | .error _ => some s
    | .ok r => some { s with
        db := if cleanupFails then s.db
          else ServerAllocator.cleanupStaleAllocations thresholdMinutes s.db
        allocating := s.allocating ++ [r] }
  | .allocCommit i listening =>
    s.allocating[i]?.map fun r => s.commit i r listening
  | .allocFail i =>
    s.allocating[i]?.map fun _ =>
      { s with allocating := s.allocating.eraseIdx i }
  | .releaseBegin p =>
    match ServerRelease.validate p with
    | .error _ => some s
    | .ok r => some { s with
        db := ServerRelease.releaseServer r s.db
        releasing := s.releasing ++ [r] }
  | .releaseEnd i =>
    s.releasing[i]?.map fun r =>
      { s with
        db := ServerRelease.releaseAllocation r s.db
        releasing := s.releasing.eraseIdx i }
  | .releaseFail i =>
    s.releasing[i]?.map fun _ =>
      { s with releasing := s.releasing.eraseIdx i }

end Sys

/-- The metaserver with any servers registered and no allocation
made yet. -/
def metaserver (thresholdMinutes : Nat) : Lts Sys Act where
  init s := s.db.gameAllocations = ∅ ∧ s.allocating = [] ∧ s.releasing = []
    ∧ s.answered = [] ∧ s.takenBy = ∅
  step := Sys.apply thresholdMinutes

/-- One multiplayer server on port 6001, no allocation. -/
def oneServer : Sys where
  db :=
    { servers := (∅ : Dict Address Server).set ("localhost", 6001)
        { type := "multiplayer", state := "Pregame", available := 1
          stamp := 0 }
      gameAllocations := ∅
      now := 1000 }
  allocating := []
  releasing := []
  answered := []
  takenBy := ∅

def Act.release? : Act → Option ServerRelease.Request
  | .releaseBegin p => (ServerRelease.validate p).toOption
  | _ => none

/-- A release request names a game and an address that an allocation
answered to that game. -/
def NamesGranted (s : Sys) (a : Act) : Prop :=
  ∀ r ∈ a.release?, r.gameId ≠ none ∧ (r.gameId, r.address) ∈ s.answered

instance (s : Sys) (a : Act) : Decidable (NamesGranted s a) :=
  inferInstanceAs (Decidable (∀ r ∈ a.release?, _ ∧ _))

-- ==== what one step does to the tables

/-- The statement a step commits, and the condition it runs under. -/
inductive Commits (thresholdMinutes : Nat) (s s' : Sys) : Act → Prop
  | same {a : Act} (hs : s'.db.servers = s.db.servers)
      (ha : s'.db.gameAllocations = s.db.gameAllocations)
      (hans : s'.answered = s.answered) (ht : s'.takenBy = s.takenBy)
      (hnr : a.release? = none)
      (hnc : ∀ i ls r, a = .allocCommit i ls → s.allocating[i]? ≠ some r)
      (hne : ∀ i r, a = .releaseEnd i → s.releasing[i]? ≠ some r) :
      Commits thresholdMinutes s s' a
  | cleanup {p : ServerAllocator.Params} {f : Bool}
      (hdb : s'.db =
        ServerAllocator.cleanupStaleAllocations thresholdMinutes s.db)
      (hans : s'.answered = s.answered) (ht : s'.takenBy = s.takenBy) :
      Commits thresholdMinutes s s' (.allocBegin p f)
  | allocate {i : Nat} {ls : List Port} {r : ServerAllocator.Request}
      (hr : s.allocating[i]? = some r) (hs' : s' = s.commit i r ls) :
      Commits thresholdMinutes s s' (.allocCommit i ls)
  | releaseServer {p : ServerRelease.Params} {r : ServerRelease.Request}
      (hr : (Act.releaseBegin p).release? = some r)
      (hdb : s'.db = ServerRelease.releaseServer r s.db)
      (hans : s'.answered = s.answered) (ht : s'.takenBy = s.takenBy) :
      Commits thresholdMinutes s s' (.releaseBegin p)
  | releaseAllocation {i : Nat} {r : ServerRelease.Request}
      (hr : s.releasing[i]? = some r)
      (hdb : s'.db = ServerRelease.releaseAllocation r s.db)
      (hans : s'.answered = s.answered) (ht : s'.takenBy = s.takenBy) :
      Commits thresholdMinutes s s' (.releaseEnd i)

theorem commits_of_step {thr : Nat} {s s' : Sys} {a : Act}
    (h : (metaserver thr).step s a = some s') : Commits thr s s' a := by
  change s.apply thr a = some s' at h
  cases a with
  | tick n =>
    cases h
    exact .same rfl rfl rfl rfl rfl (by simp) (by simp)
  | allocBegin p f =>
    simp only [Sys.apply] at h
    split at h
    · cases h
      exact .same rfl rfl rfl rfl rfl (by simp) (by simp)
    · cases h
      cases f with
      | true => exact .same rfl rfl rfl rfl rfl (by simp) (by simp)
      | false => exact .cleanup rfl rfl rfl
  | allocCommit i ls =>
    obtain ⟨r, hr, rfl⟩ := Option.map_eq_some_iff.mp h
    exact .allocate hr rfl
  | allocFail i | releaseFail i =>
    obtain ⟨r, hr, rfl⟩ := Option.map_eq_some_iff.mp h
    exact .same rfl rfl rfl rfl rfl (by simp) (by simp)
  | releaseBegin p =>
    simp only [Sys.apply] at h
    split at h
    next e he =>
      cases h
      exact .same rfl rfl rfl rfl (by
        simp [Act.release?, he, Except.toOption])
        (by simp) (by simp)
    next r hr =>
      cases h
      exact .releaseServer
        (by simp [Act.release?, hr, Except.toOption]) rfl rfl rfl
  | releaseEnd i =>
    obtain ⟨r, hr, rfl⟩ := Option.map_eq_some_iff.mp h
    exact .releaseAllocation hr rfl rfl rfl

end Freeciv3d.Metaserver
