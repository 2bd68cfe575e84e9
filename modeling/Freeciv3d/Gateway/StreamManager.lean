/-
`StreamManager` of the LLM gateway, for one game: its entry in
`active_streams`, the calls of `start_stream` and `stop_stream` in
progress, and what exists of the game in Kubernetes and YouTube.

# What interleaves

`_streams_lock` is never held across an await, so an operation on
`active_streams` is one step. A call is suspended in every request to
Kubernetes or YouTube: a step is the effect of that request and the code
from there to the next one. A request that creates may be answered by an
exception, and has then created nothing; a request that deletes succeeds.

# Names

Secrets and jobs are known by their names, which are made of the game
and the view: there is one of each for a view, and a second one is not
created. Broadcasts and streams get fresh ids.
-/
import Freeciv3d.Lib.Lts
import Freeciv3d.Lib.PyStr

namespace Freeciv3d.Gateway

open Lib

namespace Streams

inductive View where
  | global
  | player1
  | player2
  deriving DecidableEq

namespace View

def viewTypes : List View := [.global, .player1, .player2]

def text : View → List Char
  | .global => "global".toList
  | .player1 => "player1".toList
  | .player2 => "player2".toList

theorem hyphen_notMem_text (v : View) : '-' ∉ v.text := by
  cases v <;> decide

end View

-- ==== the names of secrets

/-- `stream-key-{game_id}-{view}`. -/
def secretName (gameId : List Char) (v : View) : List Char :=
  "stream".toList ++ '-' :: ("key".toList ++ '-' ::
    (gameId ++ '-' :: v.text))

def parseSecretName (name : List Char) : Option (List Char × List Char) :=
  let parts := PyStr.splitChars '-' name
  if 4 ≤ parts.length then
    some (PyStr.joinChars '-' (parts.drop 2).dropLast,
      parts.getLastD [])
  else none

theorem parseSecretName_secretName (gameId : List Char) (v : View) :
    parseSecretName (secretName gameId v) = some (gameId, v.text) := by
  have hparts : PyStr.splitChars '-' (secretName gameId v) =
      "stream".toList :: "key".toList ::
        (PyStr.splitChars '-' gameId ++ [v.text]) := by
    unfold secretName
    rw [PyStr.splitChars_append, PyStr.splitChars_append,
      PyStr.splitChars_append,
      PyStr.splitChars_of_notMem v.hyphen_notMem_text,
      PyStr.splitChars_of_notMem (show '-' ∉ "stream".toList by decide),
      PyStr.splitChars_of_notMem (show '-' ∉ "key".toList by decide)]
    rfl
  have hlen : 0 < (PyStr.splitChars '-' gameId).length :=
    List.length_pos_iff.mpr (PyStr.splitChars_ne_nil '-' gameId)
  have hlong : 4 ≤ ("stream".toList :: "key".toList ::
      (PyStr.splitChars '-' gameId ++ [v.text])).length := by
    simp only [List.length_cons, List.length_append, List.length_nil]
    omega
  unfold parseSecretName
  rw [hparts, if_pos hlong, ← List.cons_append, ← List.cons_append,
    List.getLastD_concat]
  simp only [List.cons_append, List.drop_succ_cons, List.drop_zero,
    List.dropLast_concat, PyStr.joinChars_splitChars]

/-- A secret's name gives back the game and the view it was made for, and
no two of them share one. -/
theorem secret_names_distinct (gameId : List Char) (v : View) :
    parseSecretName (secretName gameId v) = some (gameId, v.text)
      ∧ ∀ gameId' v', secretName gameId v = secretName gameId' v'
        ↔ gameId = gameId' ∧ v = v' := by
  refine ⟨parseSecretName_secretName gameId v, fun gameId' v' =>
    ⟨fun h => ?_, fun ⟨hgame, hview⟩ => by rw [hgame, hview]⟩⟩
  have hparse := congrArg parseSecretName h
  simp only [parseSecretName_secretName, Option.some.injEq,
    Prod.mk.injEq] at hparse
  refine ⟨hparse.1, ?_⟩
  cases v <;> cases v' <;> first | rfl | exact absurd hparse.2 (by decide)

-- ==== what is created

inductive Resource where
  | broadcast (view : View) (id : Nat)
  | stream (view : View) (id : Nat)
  | secret (view : View)
  | job (view : View)
  deriving DecidableEq

inductive Kind where
  | broadcast
  | stream
  | secret
  | job
  deriving DecidableEq

def Resource.kind : Resource → Kind
  | .broadcast .. => .broadcast
  | .stream .. => .stream
  | .secret _ => .secret
  | .job _ => .job

/-- `ViewStream`, with its view; its job and secret go by the view. -/
structure ViewStream where
  view : View
  broadcastId : Nat
  streamId : Nat
  deriving DecidableEq

namespace ViewStream

def resources (vs : ViewStream) : List Resource :=
  [.broadcast vs.view vs.broadcastId, .stream vs.view vs.streamId,
    .secret vs.view, .job vs.view]

/-- What a start records of a view for its rollback. -/
def recorded (vs : ViewStream) : List Resource :=
  [.stream vs.view vs.streamId, .secret vs.view, .job vs.view]

def stopped (vs : ViewStream) : List Resource :=
  [.broadcast vs.view vs.broadcastId, .job vs.view, .secret vs.view]

end ViewStream

/-- An entry of `active_streams`. -/
inductive Entry where
  | pending
  | session (views : List ViewStream)
  deriving DecidableEq

-- ==== calls in progress

inductive StartPhase where
  | creatingBroadcast (view : View)
  | creatingStream (view : View) (broadcastId : Nat)
  | binding (view : View) (broadcastId streamId : Nat)
  | creatingSecret (view : View) (broadcastId streamId : Nat)
  /-- An attempt to create the job, with as many left after it. -/
  | creatingJob (view : View) (broadcastId streamId left : Nat)
  | droppingSecret (view : View) (broadcastId streamId : Nat)
  | checkingReadiness
  | rollingBack (rest : List Resource)
  | returned
  | raised
  deriving DecidableEq

structure StartCall where
  views : List ViewStream
  left : List View
  created : List Resource
  phase : StartPhase

structure StopCall where
  found : Bool
  left : List Resource

inductive Answer where
  | ok
  | apiException (status : Nat)
  | otherException
  deriving DecidableEq

structure StreamManager where
  activeStream : Option Entry
  resources : List Resource
  nextId : Nat
  starts : List StartCall
  stops : List StopCall

inductive StreamEvent where
  /-- `start_stream` and `stop_stream`, until they suspend. -/
  | startStream
  | stopStream
  | resumeStart (i : Nat) (answer : Answer)
  | resumeStop (k : Nat) (succeeds : Bool)

-- ==== the steps

namespace StartCall

/-- The next round of the loop over the views, or its end. -/
def nextView (c : StartCall) : StartCall :=
  match c.left with
  | [] => { c with phase := .checkingReadiness }
  | v :: rest => { c with left := rest, phase := .creatingBroadcast v }

/-- The next request of `_rollback_resources`. -/
def rollBack (c : StartCall) (rest : List Resource) : StartCall :=
  match rest with
  | [] => { c with phase := .raised }
  | r :: rest => { c with phase := .rollingBack (r :: rest) }

/-- The next attempt of `_create_job_with_retry`. -/
def tryJob (c : StartCall) (v : View) (broadcastId streamId : Nat) :
    Nat → StartCall
  | 0 => { c with phase := .droppingSecret v broadcastId streamId }
  | left + 1 =>
    { c with phase := .creatingJob v broadcastId streamId left }

end StartCall

namespace StreamManager

def created (m : StreamManager) (r : Resource) : StreamManager :=
  { m with resources := r :: m.resources, nextId := m.nextId + 1 }

/-- Kubernetes makes a resource, unless there is one of its name. -/
def createNamed (m : StreamManager) (r : Resource) :
    Option StreamManager :=
  if r ∈ m.resources then none
  else some { m with resources := r :: m.resources }

def delete (m : StreamManager) (r : Resource) : StreamManager :=
  { m with resources := m.resources.erase r }

/-- `except Exception` of `start_stream`. -/
def raiseStart (m : StreamManager) (c : StartCall) :
    StreamManager × StartCall :=
  ({ m with activeStream := none }, c.rollBack c.created.reverse)

def advance (maxJobRetries : Nat) (m : StreamManager) (c : StartCall)
    (answer : Answer) : Option (StreamManager × StartCall) :=
  match c.phase with
  | .creatingBroadcast v =>
    match answer with
    | .ok =>
      some (m.created (.broadcast v m.nextId),
        { c with phase := .creatingStream v m.nextId })
    | _ => some (m.raiseStart c)
  | .creatingStream v b =>
    match answer with
    | .ok =>
      let r := Resource.stream v m.nextId
      some (m.created r,
        { c with
          created := c.created ++ [r]
          phase := .binding v b m.nextId })
    | _ => some (m.raiseStart c)
  | .binding v b s =>
    match answer with
    | .ok => some (m, { c with phase := .creatingSecret v b s })
    | _ => some (m.raiseStart c)
  | .creatingSecret v b s =>
    match answer with
    | .ok => (m.createNamed (.secret v)).map fun m =>
      (m, c.tryJob v b s maxJobRetries)
    | _ => some (m.raiseStart c)
  | .creatingJob v b s left =>
    match answer with
    | .ok => (m.createNamed (.job v)).map fun m =>
      let c : StartCall := { c with
        created := c.created ++ [.secret v, .job v]
        views := c.views ++ [⟨v, b, s⟩] }
      (m, c.nextView)
    | .apiException status =>
      if status ∈ [500, 502, 503, 504] then
        some (m, c.tryJob v b s left)
      else some (m, { c with phase := .droppingSecret v b s })
    -- `_create_job_with_retry` does not catch it
    | .otherException => some (m.raiseStart c)
  | .droppingSecret v _ _ => some ((m.delete (.secret v)).raiseStart c)
  -- whatever the check says, it does not raise
  | .checkingReadiness =>
    some ({ m with activeStream := some (.session c.views) },
      { c with phase := .returned })
  | .rollingBack (r :: rest) => some (m.delete r, c.rollBack rest)
  | _ => none

def resumeStart (maxJobRetries : Nat) (m : StreamManager) (i : Nat)
    (answer : Answer) : Option StreamManager := do
  let c ← m.starts[i]?
  let (m, c) ← m.advance maxJobRetries c answer
  pure { m with starts := m.starts.set i c }

/-- `start_stream`, until it suspends or raises. -/
def startStream (m : StreamManager) : StreamManager :=
  match m.activeStream with
  | some _ => { m with starts := m.starts ++ [⟨[], [], [], .raised⟩] }
  | none =>
    let c : StartCall := ⟨[], View.viewTypes, [], .raised⟩
    { m with
      activeStream := some .pending
      starts := m.starts ++ [c.nextView] }

/-- `stop_stream`, until it suspends. -/
def stopStream (m : StreamManager) : StreamManager :=
  let call : StopCall := match m.activeStream with
    | some (.session views) => ⟨true, views.flatMap (·.stopped)⟩
    | _ => ⟨false, View.viewTypes.flatMap fun v => [.job v, .secret v]⟩
  { m with activeStream := none, stops := m.stops ++ [call] }

/-- A stop resumes; a broadcast that cannot be completed stays. -/
def resumeStop (m : StreamManager) (k : Nat) (succeeds : Bool) :
    Option StreamManager := do
  let call ← m.stops[k]?
  match call.left with
  | [] => none
  | r :: rest =>
    let m := { m with stops := m.stops.set k { call with left := rest } }
    if r.kind = .broadcast ∧ succeeds = false then some m
    else some (m.delete r)

def step (maxJobRetries : Nat) (m : StreamManager) :
    StreamEvent → Option StreamManager
  | .startStream => some m.startStream
  | .stopStream => some m.stopStream
  | .resumeStart i answer => m.resumeStart maxJobRetries i answer
  | .resumeStop k succeeds => m.resumeStop k succeeds

def initial : StreamManager := ⟨none, [], 0, [], []⟩

def lts (maxJobRetries : Nat) : Lts StreamManager StreamEvent where
  init := (· = initial)
  step := step maxJobRetries

def sessionResources (m : StreamManager) : List Resource :=
  match m.activeStream with
  | some (.session views) => views.flatMap (·.resources)
  | _ => []

/-- No call is in progress. -/
def Idle (m : StreamManager) : Prop :=
  (∀ c ∈ m.starts, c.phase = .returned ∨ c.phase = .raised) ∧
    ∀ call ∈ m.stops, call.left = []

instance : DecidablePred Idle := fun m => by
  unfold Idle
  infer_instance

end StreamManager

end Streams

end Freeciv3d.Gateway
