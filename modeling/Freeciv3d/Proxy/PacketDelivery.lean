/-
The way of a packet batch from the CivCom thread to the agent:
`send_packets_to_client` on the thread, `_flush_packet_buffer` and the
end of `_handle_llm_connect` on the event loop.

# Three routes

While `buffer_enabled` is up the thread appends a batch to
`packet_buffer`; otherwise it hands it to the event loop, as a callback
or, above CRITICAL_PACKET_SIZE, as a timer. The event loop is busy from
`auth_success` to the last `clear`, with no await in between, and runs
callbacks and timers only outside. The thread reads the flag, and acts
on what it read in a later step.

# Callbacks and timers

Callbacks run in the order in which they were made, timers too (they
all have one delay). A callback that is ready when a timer fires runs
before it, so a timer never passes an earlier callback; a callback may
pass an earlier timer. `scheduled` holds both kinds in the order in
which they were made.

The limits of the buffer are read before the append; the model checks
them in the step of the append.
-/
import Freeciv3d.Lib.Lts

namespace Freeciv3d.Proxy

open Lib

inductive AgentMessage where
  | authSuccess
  | batch (packet : String)
  deriving DecidableEq

/-- Where the event loop is at the end of `_handle_llm_connect`. -/
inductive FlushPc where
  /-- `auth_success` is not written yet. -/
  | connecting
  | authenticated
  /-- `buffer_enabled` is down. -/
  | disabled
  /-- In the loop of `_flush_packet_buffer`, at this index. -/
  | flushing (i : Nat)
  | flushed
  /-- `_flush_packet_buffer` has returned. -/
  | returned
  | done
  deriving DecidableEq

/-- Where the thread is in `send_packets_to_client`. -/
inductive SendPc where
  | idle
  | taken (packet : String)
  | buffering (packet : String)
  | sending (packet : String)
  deriving DecidableEq

/-- The handler's buffer, the two sides, and what was produced and
received. -/
structure DeliveryWorld where
  bufferEnabled : Bool
  packetBuffer : List String
  loop : FlushPc
  thread : SendPc
  scheduled : List String
  received : List AgentMessage
  produced : List String
  closed : Bool

inductive DeliveryAct where
  /-- `get_client_result_string`. -/
  | produce (sendBuffer : List String)
  | readFlag
  | append
  | schedule
  | writeAuthSuccess
  | disableBuffering
  | checkBuffer
  | flushNext
  | clearFlushed
  | clearBuffer
  | runCallback
  | runTimer

namespace DeliveryWorld

def criticalPacketSize : Nat := 2 * 1024 * 1024

def maxPacketBufferSize : Nat := 200

def maxPacketBufferBytes : Nat := 5 * 1024 * 1024

def delayed (packet : String) : Bool :=
  criticalPacketSize < packet.utf8ByteSize

/-- `sum(len(p.encode('utf-8')) for p in packet_buffer)`. -/
def bufferBytes (buffer : List String) : Nat :=
  (buffer.map String.utf8ByteSize).foldl (· + ·) 0

/-- Buffering is on, the connection to the civserver is new. -/
def init : DeliveryWorld where
  bufferEnabled := true
  packetBuffer := []
  loop := .connecting
  thread := .idle
  scheduled := []
  received := []
  produced := []
  closed := false

/-- `get_client_result_string`: an empty buffer is no batch. -/
def resultString : List String → Option String
  | [] => none
  | packets => some ("[" ++ ",".intercalate packets ++ "]")

/-- The thread appends to the buffer, or closes the connection when a
limit would be exceeded. -/
def appendPacket (w : DeliveryWorld) (packet : String) : DeliveryWorld :=
  if maxPacketBufferSize ≤ w.packetBuffer.length
      || maxPacketBufferBytes
        < bufferBytes w.packetBuffer + packet.utf8ByteSize then
    { w with bufferEnabled := false, packetBuffer := [], closed := true
             thread := .idle }
  else
    { w with packetBuffer := w.packetBuffer ++ [packet], thread := .idle }

def loopFree (w : DeliveryWorld) : Bool :=
  w.loop == .connecting || w.loop == .done

def apply (w : DeliveryWorld) : DeliveryAct → Option DeliveryWorld
  | .produce packets =>
    if w.thread = .idle then
      match resultString packets with
      | none => some w
      | some packet =>
        some { w with
          thread := .taken packet, produced := w.produced ++ [packet] }
    else none
  | .readFlag =>
    match w.thread with
    | .taken packet => some { w with
        thread := if w.bufferEnabled then .buffering packet
          else .sending packet }
    | _ => none
  | .append =>
    match w.thread with
    | .buffering packet => some (w.appendPacket packet)
    | _ => none
  | .schedule =>
    match w.thread with
    | .sending packet => some { w with
        thread := .idle, scheduled := w.scheduled ++ [packet] }
    | _ => none
  | .writeAuthSuccess =>
    if w.loop = .connecting then
      some { w with
        loop := .authenticated, received := w.received ++ [.authSuccess] }
    else none
  | .disableBuffering =>
    if w.loop = .authenticated then
      some { w with loop := .disabled, bufferEnabled := false }
    else none
  | .checkBuffer =>
    if w.loop = .disabled then
      some { w with
        loop := if w.packetBuffer.isEmpty then .returned
          else .flushing 0 }
    else none
  | .flushNext =>
    match w.loop with
    | .flushing i =>
      match w.packetBuffer[i]? with
      | some packet => some { w with
          loop := .flushing (i + 1)
          received := w.received ++ [.batch packet] }
      | none => some { w with loop := .flushed }
    | _ => none
  | .clearFlushed =>
    if w.loop = .flushed then
      some { w with loop := .returned, packetBuffer := [] }
    else none
  | .clearBuffer =>
    if w.loop = .returned then
      some { w with loop := .done, packetBuffer := [] }
    else none
  | .runCallback =>
    if w.loopFree then
      match w.scheduled.find? fun packet => !delayed packet with
      | some packet => some { w with
          scheduled := w.scheduled.erase packet
          received := w.received ++ [.batch packet] }
      | none => none
    else none
  | .runTimer =>
    if w.loopFree then
      match w.scheduled with
      | packet :: rest =>
        if delayed packet then
          some { w with
            scheduled := rest
            received := w.received ++ [.batch packet] }
        else none
      | [] => none
    else none

end DeliveryWorld

/-- Any interleaving of the event loop and the thread. -/
def deliveryRuns : Lts DeliveryWorld DeliveryAct where
  init w := w = .init
  step := DeliveryWorld.apply

end Freeciv3d.Proxy
