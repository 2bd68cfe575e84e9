/-
The server's end of a client connection: the bytes a socket gives, the
frames `get_packet_from_connection_json` takes out of them, and the loop
`incoming_client_packets` that hands their packets on.

# What is a parameter

The JSON library, the table of receive handlers (it grows with the
capabilities of a connection), and what `server_packet_input` does to
the rest of the server, the world `W`. A packet of any type is a `P`.

# Closing

`connection_close` marks the connection; nothing is read from a marked
one, and the round of the server's loop that marked it ends with the
connection gone.
-/
import Freeciv3d.Lib.Jansson
import Freeciv3d.Lib.Lts
import Freeciv3d.Server.DataioRaw

namespace Freeciv3d.Server

open Lib

/-- `PACKET_LAST`, one above the last packet of packets.def. -/
def packetLast : Nat := 515

def maxLenPacket : Nat := 4096

def maxLenBuffer : Nat := maxLenPacket * 128

def sizeT (n : Int) : Nat := (n % 2 ^ 64).toNat

/-- `json_loadb`. What it makes of memory behind the buffer is anyone's
guess. -/
structure Jansson where
  loads : CStr → Option JsonT
  overread : CStr → Nat → Option JsonT

/-- The library looks at `buflen` bytes from `data` on. -/
def Jansson.loadb (J : Jansson) (data : CStr) (buflen : Nat) :
    Option JsonT :=
  if buflen ≤ data.length then J.loads (data.take buflen)
  else J.overread data buflen

/-- A `receive_packet_*` function, in JSON mode and otherwise; `none` when
a field cannot be read. -/
structure ReceiveHandler (P : Type) where
  json : JsonT → Option P
  raw : CStr → Option P

structure GameServer (W P : Type) where
  jansson : Jansson
  /-- `pc->phs.handlers->receive[type]`. -/
  receive : W → Nat → Option (ReceiveHandler P)
  /-- Whether `packet_header.type` is 16 bits wide by now. -/
  wideType : W → Bool
  /-- What the type variable holds when no type could be read. -/
  unset : Nat
  serverPacketInput : W → P → Nat → W × Bool

structure PacketConn where
  used : Bool
  isClosing : Bool
  closingReason : Option String
  buffer : CStr
  nsize : Nat
  lastRequestIdSeen : Nat
  jsonMode : Bool

/-- `connection_common_init` and `server_make_connection`. -/
def PacketConn.fresh : PacketConn where
  used := true
  isClosing := false
  closingReason := none
  buffer := []
  nsize := 10 * maxLenPacket
  lastRequestIdSeen := 0
  jsonMode := true

/-- `connection_close`, on the server. The first reason stays. -/
def PacketConn.close (pc : PacketConn) (reason : String) : PacketConn :=
  { pc with
    closingReason := pc.closingReason.orElse fun _ => some reason
    isClosing := true }

/-- A call of `json_loadb`: the length of the frame it is made for, and
the bytes it asks for. -/
structure Ask where
  whole : Nat
  buflen : Nat
  deriving DecidableEq

/-- What `get_packet_from_connection_json` leaves and returns. -/
structure GotPacket (P : Type) where
  pc : PacketConn
  asked : List Ask
  packet : Option (Nat × P)

variable {W P : Type} (G : GameServer W P)

/-- The end of the function: the receive handler of the type. `taken` is
the connection the handler leaves when it succeeds. -/
def receiveType (w : W) (pc taken : PacketConn) (asked : List Ask)
    (type : Nat) (call : ReceiveHandler P → Option P) : GotPacket P :=
  if packetLast ≤ type then
    ⟨pc.close "unsupported packet type", asked, none⟩
  else
    match G.receive w type with
    | none => ⟨pc.close "unsupported packet type", asked, none⟩
    | some handler =>
      match call handler with
      | none => ⟨pc.close "incompatible packet contents", asked, none⟩
      | some data => ⟨taken, asked, some (type, data)⟩

/-- `dio_get_type_raw(&din, pc->packet_header.type, &utype.itype)`. -/
def getTypeRaw (w : W) (din : CStr) : Nat :=
  match (if G.wideType w then getUint16Raw else getUint8Raw).run din with
  | some (n, _) => n.toNat
  | none => G.unset

/-- The part of the function behind the length checks. `din` starts
behind the length field. -/
def getWholePacket (w : W) (pc : PacketConn) (whole : Nat) (din : CStr) :
    GotPacket P :=
  let buflen := sizeT ((whole : Int) - 3)
  let jsonPacket := G.jansson.loadb din buflen
  let isFirst := pc.lastRequestIdSeen == 0
  let jsonMode := if isFirst then jsonPacket.isSome else pc.jsonMode
  let asked := if isFirst then [Ask.mk whole buflen] else []
  let shifted :=
    { pc with jsonMode := jsonMode, buffer := pc.buffer.drop whole }
  if jsonMode then
    let asked := asked ++ [Ask.mk whole buflen]
    match jsonPacket with
    | none => ⟨shifted, asked, none⟩
    | some item =>
      match item.objectGet "pid" with
      | none => ⟨shifted, asked, none⟩
      | some pint =>
        receiveType G w shifted shifted asked
          (enumOf pint.integerValue) fun handler => handler.json item
  else
    -- the handler takes the frame out of the buffer, if it succeeds
    receiveType G w { pc with jsonMode := jsonMode } shifted asked
      (getTypeRaw G w din) fun handler => handler.raw pc.buffer

def getPacketFromConnectionJson (w : W) (pc : PacketConn) : GotPacket P :=
  if !pc.used then ⟨pc, [], none⟩
  else
    match pc.buffer with
    | high :: low :: din =>
      let whole := high.toNat * 256 + low.toNat
      if pc.buffer.length < whole then ⟨pc, [], none⟩
      else if whole < 2 then ⟨pc.close "decoding error", [], none⟩
      else getWholePacket G w pc whole din
    | _ => ⟨pc, [], none⟩

def getNextRequestId (old : Nat) : Nat :=
  if (old + 1) % 65536 = 0 then 2 else old + 1

/-- A connection, the rest of the server, and what has happened: the
packets given to `server_packet_input`, and the calls of the parser. -/
structure Reception (W P : Type) where
  conn : PacketConn
  world : W
  handed : List (Nat × P)
  asked : List Ask

/-- The body of the loop, after `get_packet` found a packet. -/
def Reception.handle (r : Reception W P) (pc : PacketConn)
    (asked : List Ask) (type : Nat) (data : P) : Reception W P :=
  let input := G.serverPacketInput r.world data type
  let pc := { pc with
    lastRequestIdSeen := getNextRequestId pc.lastRequestIdSeen }
  { conn := if input.2 then pc else pc.close "rejected"
    world := input.1
    handed := r.handed ++ [(type, data)]
    asked := r.asked ++ asked }

/-- `incoming_client_packets`, for at most `n` rounds. -/
def incomingClientPackets : Nat → Reception W P → Reception W P
  | 0, r => r
  | n + 1, r =>
    let got := getPacketFromConnectionJson G r.world r.conn
    match got.packet with
    | none => { r with conn := got.pc, asked := r.asked ++ got.asked }
    | some (type, data) =>
      incomingClientPackets n (r.handle G got.pc got.asked type data)

/-- `buffer_ensure_free_extra_space(buffer, MAX_LEN_PACKET)`: the size of
the buffer after it, unless it cannot grow. -/
def ensureFreeExtraSpace (pc : PacketConn) : Option Nat :=
  if pc.nsize - pc.buffer.length < maxLenPacket then
    if maxLenBuffer < pc.buffer.length + maxLenPacket then none
    else some (pc.buffer.length + maxLenPacket)
  else some pc.nsize

inductive Arrival (W : Type) where
  | bytes (chunk : CStr)
  /-- The connection is closed from outside: the client has gone, a ping
  has timed out. -/
  | close (reason : String)
  | world (w : W)

/-- `read_socket_data` and `incoming_client_packets`. A read gets some
bytes, at most those there is room for. Every round of the loop but the
last takes two bytes or more, so it ends within its bound. -/
def Reception.step (r : Reception W P) :
    Arrival W → Option (Reception W P)
  | .bytes chunk =>
    if r.conn.isClosing then none
    else
      match ensureFreeExtraSpace r.conn with
      | none => some { r with conn := r.conn.close "read error" }
      | some nsize =>
        if chunk = [] ∨ nsize - r.conn.buffer.length < chunk.length then
          none
        else
          let buffer := r.conn.buffer ++ chunk
          let pc := { r.conn with nsize := nsize, buffer := buffer }
          some (incomingClientPackets G (buffer.length + 1)
            { r with conn := pc })
  | .close reason => some { r with conn := r.conn.close reason }
  | .world w => some { r with world := w }

-- ==== the bound

theorem Reception.handle_buffer (r : Reception W P) (pc : PacketConn)
    (asked : List Ask) (type : Nat) (data : P) :
    (r.handle G pc asked type data).conn.buffer = pc.buffer := by
  unfold Reception.handle
  dsimp only
  split <;> rfl

end Freeciv3d.Server
