/-
Whether `pause_game` and `resume_game` tell the truth: their packets go
through `queue_to_civserver` and `send_packets_to_civserver`, whose
failures they are to learn of by an exception.

# The socket

It may be gone, and any of its sends may raise; which do is given for
each call (`takes`). A message too long for the two bytes of its header
raises as well. The queue is sent in its order, from the first message.

# What the caller learns

A send that raises is caught by the send routine itself, which reports to
the client and empties the queue; without a socket it returns at once. So
the callers see it return in either case (`sendPacketsToCivserver` has no
failure), and only a queue that is not there makes an attempt raise.
-/
import Freeciv3d.Proxy.GameSession

namespace Freeciv3d.Proxy

-- ==== the sends

structure CivSends where
  civserverMessages : Option (List String)
  /-- `socket`: whether its n-th send goes through. -/
  socket : Option (Nat → Bool)
  handed : List String
  errors : Nat

namespace CivSends

/-- `header = pack('>H', len + 3)` and `sendall`. -/
def sendOne (takes : Bool) (message : String) : Bool :=
  message.utf8ByteSize + 3 < 65536 && takes

/-- The loop of `send_packets_to_civserver`: the messages handed over, and
whether none raised. -/
def sendLoop (takes : Nat → Bool) : Nat → List String → List String × Bool
  | _, [] => ([], true)
  | n, message :: rest =>
    if sendOne (takes n) message then
      let (handed, done) := sendLoop takes (n + 1) rest
      (message :: handed, done)
    else ([], false)

/-- `send_packets_to_civserver`: its `except` reports the error, its
`finally` empties the queue. -/
def sendPacketsToCivserver (c : CivSends) : CivSends :=
  match c.civserverMessages, c.socket with
  | some messages, some takes =>
    let (handed, done) := sendLoop takes 0 messages
    { c with
      civserverMessages := some []
      handed := c.handed ++ handed
      errors := if done then c.errors else c.errors + 1 }
  | _, _ => c

/-- `queue_to_civserver`; without a queue it raises. -/
def queueToCivserver (c : CivSends) (message : String) : Option CivSends :=
  c.civserverMessages.map fun messages =>
    { c with civserverMessages := some (messages ++ [message]) }

/-- Some packets queued and sent; none when it raised. -/
def attempt (c : CivSends) (packets : List String) : Option CivSends :=
  (packets.foldlM queueToCivserver c).map sendPacketsToCivserver

/-- The retry loop: the first attempt that does not raise ends it. -/
def attempts (packets : List String) : Nat → CivSends → CivSends × Bool
  | 0, c => (c, false)
  | n + 1, c =>
    match c.attempt packets with
    | some c => (c, true)
    | none => attempts packets n c

end CivSends

-- ==== pause and resume

/-- `json.dumps({"pid": PACKET_CHAT_MSG_REQ, "message": message})`. -/
def chatPacket (message : String) : String :=
  "\x7b\"pid\": 26, \"message\": \"" ++ message ++ "\"\x7d"

def ServerCommand.packet : ServerCommand → String
  | setTimeout n => chatPacket ("/set timeout " ++ toString n)
  | setAutotoggle true => chatPacket "/set autotoggle enabled"
  | setAutotoggle false => chatPacket "/set autotoggle disabled"

structure PauseOutcome where
  session : GameSession
  civcom : Option CivSends
  returned : Bool

namespace GameSession

variable (s : GameSession)

def maxRetries : Nat := 3

def pausePackets : List String := pauseCommands.map ServerCommand.packet

def resumePackets : List String :=
  s.resumeCommands.map ServerCommand.packet

def pauseOver (civcom : Option CivSends) (gameTimeout : Option Int)
    (now : Int) : PauseOutcome :=
  if s.isPaused then ⟨s, civcom, false⟩
  else match civcom with
    | none => ⟨s, none, false⟩
    | some c =>
      let (c, sent) := CivSends.attempts pausePackets maxRetries c
      let (s, returned) := s.pauseGame gameTimeout sent now
      ⟨s, some c, returned⟩

def debounced (now : Int) : Bool := s.lastResumedAt.any fun t => now - t < 2

def resumeOver (civcom : Option CivSends) (now : Int) : PauseOutcome :=
  if !s.isPaused || s.debounced now then ⟨s, civcom, false⟩
  else match civcom with
    | none => ⟨s, none, false⟩
    | some c =>
      let (c, sent) := CivSends.attempts s.resumePackets 1 c
      let (s, returned) := s.resumeGame sent now
      ⟨s, some c, returned⟩

end GameSession

-- ==== the statement

/-- The packets of a call were handed to the socket: it is at the end of
the queue that they wait, so the whole queue was. -/
def HandedOver (civcom civcom' : Option CivSends) (packets : List String) :
    Prop :=
  ∃ c ∈ civcom, ∃ c' ∈ civcom', ∃ pending ∈ c.civserverMessages,
    c'.handed = c.handed ++ (pending ++ packets)

/-- A call that returns true has handed over its packets; one that has not
returns false and leaves the flags. -/
def Truthful (s : GameSession) (civcom : Option CivSends)
    (packets : List String) (outcome : PauseOutcome) : Prop :=
  (outcome.returned = true → HandedOver civcom outcome.civcom packets)
    ∧ (¬ HandedOver civcom outcome.civcom packets →
      outcome.returned = false
        ∧ outcome.session.isPaused = s.isPaused
        ∧ outcome.session.autotoggleDisabled = s.autotoggleDisabled
        ∧ outcome.session.resumeCount = s.resumeCount)

/-- If there is a `CivCom` with a queue, it has a socket that takes all
that is pending and then the packets, and none of them is too long. -/
def GoesThrough (civcom : Option CivSends) (packets : List String) : Prop :=
  ∀ c ∈ civcom, ∀ pending ∈ c.civserverMessages, ∃ takes ∈ c.socket,
    ∀ i (h : i < (pending ++ packets).length),
      CivSends.sendOne (takes i) ((pending ++ packets).get ⟨i, h⟩) = true

-- ==== the sends

namespace CivSends

theorem sendLoop_eq_iff (takes : Nat → Bool) (n : Nat) (l : List String) :
    (sendLoop takes n l).1 = l
      ↔ ∀ i (h : i < l.length), sendOne (takes (n + i)) (l.get ⟨i, h⟩) = true := by
  induction l generalizing n with
  | nil => simp [sendLoop]
  | cons message rest ih =>
    unfold sendLoop
    by_cases h : sendOne (takes n) message = true
    · rw [if_pos h]
      rw [List.cons.injEq, ih (n + 1)]
      constructor
      · intro hrest i hi
        cases i with
        | zero => exact h
        | succ i =>
          have := hrest.2 i (Nat.lt_of_succ_lt_succ hi)
          rwa [Nat.add_assoc, Nat.add_comm 1] at this
      · intro hall
        refine ⟨rfl, fun i hi => ?_⟩
        have := hall (i + 1) (Nat.succ_lt_succ hi)
        rwa [← Nat.add_assoc, Nat.add_right_comm] at this
    · rw [if_neg h]
      simp only [reduceCtorEq, false_iff]
      intro hall
      exact h (hall 0 (Nat.succ_pos _))

theorem foldlM_queue {c : CivSends} {pending : List String}
    (h : c.civserverMessages = some pending) (packets : List String) :
    packets.foldlM queueToCivserver c
      = some { c with civserverMessages := some (pending ++ packets) } := by
  induction packets generalizing c pending with
  | nil =>
    rw [List.append_nil, ← h]
    rfl
  | cons packet packets ih =>
    have hqueue : queueToCivserver c packet
        = some { c with
          civserverMessages := some (pending ++ [packet]) } := by
      rw [queueToCivserver, h]
      rfl
    rw [List.foldlM_cons, hqueue, Option.bind_eq_bind, Option.bind_some,
      ih rfl, List.append_assoc]
    rfl

theorem attempts_of_queue {c : CivSends} {pending : List String}
    (h : c.civserverMessages = some pending) (packets : List String)
    (n : Nat) :
    attempts packets (n + 1) c
      = (sendPacketsToCivserver
          { c with civserverMessages := some (pending ++ packets) },
        true) := by
  unfold attempts attempt
  rw [foldlM_queue h]
  rfl

theorem attempts_of_no_queue {c : CivSends}
    (h : c.civserverMessages = none) {packets : List String}
    (hpackets : packets ≠ []) (n : Nat) :
    attempts packets n c = (c, false) := by
  have hraises : c.attempt packets = none := by
    cases packets with
    | nil => exact absurd rfl hpackets
    | cons packet packets =>
      rw [attempt, List.foldlM_cons, queueToCivserver, h]
      rfl
  induction n with
  | zero => rfl
  | succ n ih =>
    unfold attempts
    rw [hraises]
    exact ih

theorem handed_send {c : CivSends} {messages : List String}
    (h : c.civserverMessages = some messages) :
    c.sendPacketsToCivserver.handed
      = c.handed ++ c.socket.elim [] fun takes =>
          (sendLoop takes 0 messages).1 := by
  unfold sendPacketsToCivserver
  cases hsocket : c.socket with
  | none =>
    rw [h]
    simp
  | some takes =>
    rw [h]
    rfl

end CivSends

-- ==== one call

section Call

variable {s : GameSession} {civcom : Option CivSends} {c : CivSends}
variable {packets : List String} {outcome : PauseOutcome}

theorem truthful_of_nothing (s : GameSession) (civcom : Option CivSends)
    (packets : List String) : Truthful s civcom packets ⟨s, civcom, false⟩ :=
  ⟨nofun, fun _ => ⟨rfl, rfl, rfl, rfl⟩⟩

theorem handedOver_iff {pending : List String}
    (h : c.civserverMessages = some pending) (hpackets : packets ≠ []) :
    HandedOver (some c)
        (some (CivSends.sendPacketsToCivserver
          { c with civserverMessages := some (pending ++ packets) })) packets
      ↔ GoesThrough (some c) packets := by
  have hhanded := CivSends.handed_send
    (c := { c with civserverMessages := some (pending ++ packets) }) rfl
  have hiff : HandedOver (some c)
      (some (CivSends.sendPacketsToCivserver
        { c with civserverMessages := some (pending ++ packets) })) packets
      ↔ c.socket.elim [] (fun takes =>
          (CivSends.sendLoop takes 0 (pending ++ packets)).1)
        = pending ++ packets := by
    unfold HandedOver
    simp only [Option.mem_def, Option.some_inj, exists_eq_left', h, hhanded,
      List.append_cancel_left_eq]
  have hthrough : GoesThrough (some c) packets
      ↔ ∃ takes ∈ c.socket, ∀ i (hi : i < (pending ++ packets).length),
        CivSends.sendOne (takes i)
          ((pending ++ packets).get ⟨i, hi⟩) = true := by
    unfold GoesThrough
    simp only [Option.mem_def, Option.some_inj, forall_eq', h]
  rw [hiff, hthrough]
  cases hsocket : c.socket with
  | none => simp [hpackets]
  | some takes =>
    have hloop := CivSends.sendLoop_eq_iff takes 0 (pending ++ packets)
    simp only [Nat.zero_add] at hloop
    simp only [Option.mem_def, Option.some_inj, exists_eq_left']
    exact hloop

/-- A call whose attempts decide what it returns, and which keeps the flags
when they all raise. -/
theorem truthful_iff_of_attempts (hpackets : packets ≠ []) (n : Nat)
    (hcivcom : outcome.civcom
      = some (CivSends.attempts packets (n + 1) c).1)
    (hreturned : outcome.returned
      = (CivSends.attempts packets (n + 1) c).2)
    (hkept : outcome.returned = false →
      outcome.session.isPaused = s.isPaused
        ∧ outcome.session.autotoggleDisabled = s.autotoggleDisabled
        ∧ outcome.session.resumeCount = s.resumeCount) :
    Truthful s (some c) packets outcome ↔ GoesThrough (some c) packets := by
  cases hqueue : c.civserverMessages with
  | none =>
    rw [CivSends.attempts_of_no_queue hqueue hpackets] at hreturned
    refine ⟨fun _ => ?_, fun _ => ⟨?_, fun _ => ⟨hreturned, ?_⟩⟩⟩
    · intro c' hc' pending hpending
      cases hc'
      rw [hqueue] at hpending
      cases hpending
    · intro htrue
      rw [hreturned] at htrue
      cases htrue
    · exact hkept hreturned
  | some pending =>
    rw [CivSends.attempts_of_queue hqueue] at hcivcom hreturned
    have hhanded := handedOver_iff hqueue hpackets
    rw [← hcivcom] at hhanded
    rw [← hhanded]
    constructor
    · intro h
      exact h.1 hreturned
    · intro h
      exact ⟨fun _ => h, fun hnot => absurd h hnot⟩

end Call

-- ==== the result

theorem pausePackets_ne_nil : GameSession.pausePackets ≠ [] := nofun

theorem resumePackets_ne_nil (s : GameSession) : s.resumePackets ≠ [] := by
  unfold GameSession.resumePackets GameSession.resumeCommands
  simp

/-- A session that is not paused says so when its sends do. -/
theorem pauseGame_returned {s : GameSession} (h : s.isPaused = false)
    (gameTimeout : Option Int) (sent : Bool) (now : Int) :
    (s.pauseGame gameTimeout sent now).2 = sent := by
  unfold GameSession.pauseGame
  cases sent <;> simp [h]

theorem pauseGame_kept {s : GameSession} (h : s.isPaused = false)
    (gameTimeout : Option Int) (now : Int) :
    (s.pauseGame gameTimeout false now).1.isPaused = s.isPaused
      ∧ (s.pauseGame gameTimeout false now).1.autotoggleDisabled
        = s.autotoggleDisabled
      ∧ (s.pauseGame gameTimeout false now).1.resumeCount
        = s.resumeCount := by
  unfold GameSession.pauseGame
  simp [h]

theorem resumeGame_eq {s : GameSession} {now : Int}
    (h : (!s.isPaused || s.debounced now) = false) (sent : Bool) :
    (s.resumeGame sent now).2 = sent
      ∧ (sent = false → (s.resumeGame sent now).1 = s) := by
  obtain ⟨hpaused, hdebounced⟩ := Bool.or_eq_false_iff.mp h
  have hlate : s.lastResumedAt.any (fun t => now - t < 2) = false :=
    hdebounced
  unfold GameSession.resumeGame
  rw [if_neg (by simp [hpaused]), if_neg (by rw [hlate]; decide)]
  cases sent with
  | true => exact ⟨rfl, nofun⟩
  | false => exact ⟨rfl, fun _ => rfl⟩

/-- `pause_game` tells the truth just when the game is paused already or
its packets go through; `resume_game`, when it has nothing to do or they
do. -/
theorem pause_flags_truthful_iff (s : GameSession)
    (civcom : Option CivSends) (gameTimeout : Option Int) (now : Int) :
    (Truthful s civcom GameSession.pausePackets
        (s.pauseOver civcom gameTimeout now)
      ↔ s.isPaused = true
        ∨ GoesThrough civcom GameSession.pausePackets)
      ∧ (Truthful s civcom s.resumePackets (s.resumeOver civcom now)
      ↔ (!s.isPaused || s.debounced now) = true
        ∨ GoesThrough civcom s.resumePackets) := by
  constructor
  · unfold GameSession.pauseOver
    cases hpaused : s.isPaused with
    | true =>
      simp [truthful_of_nothing]
    | false =>
      simp only [Bool.false_eq_true, if_false, false_or]
      cases civcom with
      | none =>
        exact ⟨fun _ => nofun, fun _ => truthful_of_nothing s none _⟩
      | some c =>
        refine truthful_iff_of_attempts pausePackets_ne_nil 2 rfl
          (pauseGame_returned hpaused ..) fun hfalse => ?_
        have hsent := (pauseGame_returned hpaused ..).symm.trans hfalse
        have hkept := pauseGame_kept hpaused gameTimeout now
        dsimp only
        rw [hsent]
        exact hkept
  · unfold GameSession.resumeOver
    cases hnothing : !s.isPaused || s.debounced now with
    | true => simp [truthful_of_nothing]
    | false =>
      simp only [Bool.false_eq_true, if_false, false_or]
      cases civcom with
      | none =>
        exact ⟨fun _ => nofun, fun _ => truthful_of_nothing s none _⟩
      | some c =>
        have hresume := resumeGame_eq hnothing
          (CivSends.attempts s.resumePackets 1 c).2
        refine truthful_iff_of_attempts (resumePackets_ne_nil s) 0 rfl
          hresume.1 fun hfalse => ?_
        have hsame := hresume.2 (hresume.1.symm.trans hfalse)
        dsimp only
        rw [hsame]
        exact ⟨rfl, rfl, rfl⟩

/-- The socket of the `CivCom` is gone; the pause is said to have been
sent. -/
theorem pause_without_socket_fails :
    ¬ Truthful (.init "g" 6000 2 0) (some ⟨some [], none, [], 0⟩)
      GameSession.pausePackets
      (GameSession.pauseOver (.init "g" 6000 2 0)
        (some ⟨some [], none, [], 0⟩) none 0) := by
  intro h
  obtain ⟨c, hc, c', hc', pending, hpending, hhanded⟩ := h.1 rfl
  cases hc
  cases hc'
  cases hpending
  cases hhanded

end Freeciv3d.Proxy
