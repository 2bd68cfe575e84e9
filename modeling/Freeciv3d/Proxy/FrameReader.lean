/-
The receive loop of a `CivCom`: `read_from_connection`, and what `run`
does with what it returns, up to `parse_and_store_packet`.

# The stream and its splits

`stream` holds the bytes the civserver has sent and will send, less
those that were received. A label says what the `recv` calls of one
round find; a round makes a second call when the first one completes a
header. A call on a stream that is used up reports its end, by `b''`;
so does one that asks for no bytes, at any time.

A timeout and any other `OSError` leave the reader as it was. What the
loop sends to the client and to the civserver is not part of the
model.

# Whole frames

The frames of a well-formed stream arrive whole and in order, however
`recv` splits the stream; and the loop ends with the stream, unless the
stream ends inside a header.

# The invariant

What a buffer holds and what the stream still holds are together the
frames that are not delivered yet (`Reading`), so it does not matter
where a split falls: a `recv` moves bytes from the stream to the buffer,
and their concatenation stays. A buffer that is full is then the header,
or the body, of the first of these frames by its length alone.
-/
import Mathlib.Data.List.Basic
import Mathlib.Tactic.Common

namespace Freeciv3d.Proxy

/-- What a `recv` finds: nothing before its timeout, or `more + 1`
bytes unless the stream ends earlier. -/
inductive Arrival where
  | timeout
  | bytes (more : Nat)
  deriving DecidableEq

/-- `bytes.decode('utf-8')`; `none` is a `UnicodeDecodeError`. -/
def decodeUtf8 (bytes : List UInt8) : Option String :=
  String.fromUTF8? ⟨bytes.toArray⟩

/-- `unpack('>H', header)`. -/
def unpackHeader : List UInt8 → Nat
  | [high, low] => high.toNat * 256 + low.toNat
  | _ => 0

structure FrameReader where
  /-- `-1` between two frames. -/
  packetSize : Int
  headerBuf : List UInt8
  netBuf : List UInt8
  /-- Set by `close_connection`, with the socket closed. -/
  stopped : Bool
  /-- The arguments of `parse_and_store_packet`. -/
  delivered : List String
  stream : List UInt8

namespace FrameReader

def init (stream : List UInt8) : FrameReader where
  packetSize := -1
  headerBuf := []
  netBuf := []
  stopped := false
  delivered := []
  stream := stream

variable (r : FrameReader)

/-- `socket.recv(n)`; `none` is a timeout. -/
def recv (n : Nat) : Arrival → Option (List UInt8 × FrameReader)
  | .timeout => if n = 0 then some ([], r) else none
  | .bytes more =>
    some (r.stream.take (min n (more + 1)),
      { r with stream := r.stream.drop (min n (more + 1)) })

def closeConnection : FrameReader := { r with stopped := true }

/-- The header half of `read_from_connection`; `none` is its early
return. -/
def readHeader (a : Arrival) : FrameReader × Bool :=
  if r.packetSize = -1 then
    match r.recv (2 - r.headerBuf.length) a with
    | none => (r, false)
    | some (data, r') =>
      let header := r.headerBuf ++ data
      if header.length = 0 then (r'.closeConnection, false)
      else if header.length = 2 then
        ({ r' with
          headerBuf := []
          packetSize := (unpackHeader header : Int) - 2 }, true)
      else ({ r' with headerBuf := header }, false)
  else (r, true)

def readBody (a : Arrival) : FrameReader × Option (List UInt8) :=
  if 0 < r.packetSize then
    match r.recv (r.packetSize.toNat - r.netBuf.length) a with
    | none => (r, none)
    | some (data, r') =>
      if data.length = 0 then (r'.closeConnection, none)
      else (r', some data)
  else (r, none)

/-- A header completed in this call leaves the second arrival to the
body, otherwise the body has the first. -/
def readFromConnection (first second : Arrival) :
    FrameReader × Option (List UInt8) :=
  let (r', goesOn) := r.readHeader first
  if goesOn then
    r'.readBody (if r.packetSize = -1 then second else first)
  else (r', none)

/-- `self.net_buf += packet`, and the test for a complete frame. A
frame whose text does not decode is logged and not stored. -/
def accumulate (packet : List UInt8) : FrameReader :=
  let netBuf := r.netBuf ++ packet
  if (netBuf.length : Int) = r.packetSize ∧ netBuf.getLast? = some 0 then
    { r with
      delivered := r.delivered ++ (decodeUtf8 netBuf.dropLast).toList
      packetSize := -1
      netBuf := [] }
  else { r with netBuf := netBuf }

/-- One round of the loop in `run`; it is over once the reader is
stopped. -/
def poll (arrivals : Arrival × Arrival) : FrameReader :=
  if r.stopped then r
  else
    match r.readFromConnection arrivals.1 arrivals.2 with
    | (r', some packet) => if r'.stopped then r' else r'.accumulate packet
    | (r', none) => r'

def polls (rounds : List (Arrival × Arrival)) : FrameReader :=
  rounds.foldl poll r

end FrameReader

-- ==== whole frames

namespace FrameReader

variable {r : FrameReader} {a : Arrival} {ps : List (List UInt8)}

-- ==== the frames

def frame (payload : List UInt8) : List UInt8 :=
  .ofNat ((payload.length + 3) / 256) :: .ofNat (payload.length + 3)
    :: (payload ++ [0])

def frames (ps : List (List UInt8)) : List UInt8 := ps.flatMap frame

/-- The lengths the protocol allows. -/
def Legal (payload : List UInt8) : Prop :=
  1 ≤ payload.length ∧ payload.length ≤ 32766

def texts (ps : List (List UInt8)) : List String :=
  ps.filterMap decodeUtf8

theorem unpackHeader_frame {payload : List UInt8} (h : Legal payload) :
    unpackHeader [.ofNat ((payload.length + 3) / 256),
      .ofNat (payload.length + 3)] = payload.length + 3 := by
  have hhigh : (UInt8.ofNat ((payload.length + 3) / 256)).toNat
      = (payload.length + 3) / 256 % 256 := UInt8.toNat_ofNat'
  have hlow : (UInt8.ofNat (payload.length + 3)).toNat
      = (payload.length + 3) % 256 := UInt8.toNat_ofNat'
  have hlength := h.2
  rw [unpackHeader, hhigh, hlow]
  omega

-- ==== one recv call

theorem recv_eq {n : Nat} {data : List UInt8} {r' : FrameReader}
    (h : r.recv n a = some (data, r')) :
    ∃ rest, r.stream = data ++ rest ∧ r' = { r with stream := rest }
      ∧ data.length ≤ n := by
  cases a with
  | timeout =>
    obtain ⟨-, hsome⟩ := Option.ite_none_right_eq_some.mp h
    cases hsome
    exact ⟨r.stream, rfl, rfl, Nat.zero_le _⟩
  | bytes more =>
    cases h
    refine ⟨_, (List.take_append_drop _ _).symm, rfl, ?_⟩
    rw [List.length_take]
    omega

/-- What a call returns is not empty while there is something to
find. -/
theorem recv_ne_nil {n : Nat} {data : List UInt8} {r' : FrameReader}
    (hn : 0 < n) (hstream : r.stream ≠ [])
    (h : r.recv n a = some (data, r')) : data ≠ [] := by
  cases a with
  | timeout =>
    obtain ⟨hzero, -⟩ := Option.ite_none_right_eq_some.mp h
    exact absurd hzero (Nat.ne_of_gt hn)
  | bytes more =>
    cases h
    intro hnil
    rcases List.take_eq_nil_iff.mp hnil with hzero | hempty
    · omega
    · exact hstream hempty

theorem recv_none {n : Nat} (h : r.recv n a = none) : a = .timeout := by
  cases a with
  | timeout => rfl
  | bytes more => cases h

theorem accumulate_stream (r : FrameReader) (data : List UInt8) :
    (r.accumulate data).stream = r.stream := by
  unfold FrameReader.accumulate
  dsimp only
  split <;> rfl

-- ==== the invariant

/-- Between two frames, or in one: the payloads before it are
delivered, the buffer and the stream hold the rest. -/
inductive Reading (ps : List (List UInt8)) (r : FrameReader) : Prop
  | header (done left : List (List UInt8)) (hps : ps = done ++ left)
      (hbuf : r.headerBuf ++ r.stream = frames left)
      (hlen : r.headerBuf.length < 2) (hsize : r.packetSize = -1)
      (hnet : r.netBuf = []) (hstop : r.stopped = false)
      (hdel : r.delivered = texts done)
  | body (done left : List (List UInt8)) (p : List UInt8)
      (hps : ps = done ++ p :: left)
      (hbuf : r.netBuf ++ r.stream = p ++ [0] ++ frames left)
      (hlen : r.netBuf.length < p.length + 1)
      (hsize : r.packetSize = p.length + 1) (hhead : r.headerBuf = [])
      (hstop : r.stopped = false) (hdel : r.delivered = texts done)

/-- The loop ended with the stream. -/
structure Ended (ps : List (List UInt8)) (r : FrameReader) : Prop where
  stopped : r.stopped = true
  stream : r.stream = []
  delivered : r.delivered = texts ps

theorem Reading.open_ (h : Reading ps r) : r.stopped = false := by
  cases h with
  | header _ _ _ _ _ _ _ hstop => exact hstop
  | body _ _ _ _ _ _ _ _ hstop => exact hstop

theorem texts_append (ps qs : List (List UInt8)) :
    texts (ps ++ qs) = texts ps ++ texts qs := List.filterMap_append

theorem texts_singleton (p : List UInt8) :
    texts [p] = (decodeUtf8 p).toList := by
  unfold texts
  cases h : decodeUtf8 p <;> simp [h]

theorem frames_eq_nil {left : List (List UInt8)} (h : frames left = []) :
    left = [] := by
  cases left with
  | nil => rfl
  | cons p left => cases h

theorem Reading.completeHeader {done left : List (List UInt8)}
    {header rest : List UInt8} (hps : ps = done ++ left)
    (hlegal : ∀ p ∈ ps, Legal p)
    (hbuf : header ++ rest = frames left) (hlen : header.length = 2)
    (hnet : r.netBuf = []) (hstop : r.stopped = false)
    (hdel : r.delivered = texts done) :
    Reading ps { r with
        stream := rest
        headerBuf := []
        packetSize := (unpackHeader header : Int) - 2 }
      ∧ (unpackHeader header : Int) - 2 ≠ -1 := by
  cases left with
  | nil =>
    have hnil : header = [] := (List.append_eq_nil_iff.mp hbuf).1
    rw [hnil] at hlen
    cases hlen
  | cons p left =>
    have hp : Legal p := by
      refine hlegal p ?_
      rw [hps]
      exact List.mem_append_right _ List.mem_cons_self
    have hsplit : frames (p :: left)
        = [.ofNat ((p.length + 3) / 256), .ofNat (p.length + 3)]
          ++ (p ++ [0] ++ frames left) := rfl
    rw [hsplit] at hbuf
    obtain ⟨rfl, rfl⟩ := List.append_inj hbuf hlen
    rw [unpackHeader_frame hp]
    refine ⟨.body done left p hps ?_ ?_ ?_ rfl hstop hdel, by omega⟩
    · rw [hnet, List.nil_append]
    · rw [hnet]
      exact Nat.succ_pos _
    · show ((p.length + 3 : Nat) : Int) - 2 = p.length + 1
      omega

theorem Reading.accumulate {done left : List (List UInt8)}
    {p data rest : List UInt8} (hps : ps = done ++ p :: left)
    (hbuf : r.netBuf ++ (data ++ rest) = p ++ [0] ++ frames left)
    (hlen : r.netBuf.length + data.length ≤ p.length + 1)
    (hsize : r.packetSize = p.length + 1) (hhead : r.headerBuf = [])
    (hstop : r.stopped = false) (hdel : r.delivered = texts done) :
    Reading ps (FrameReader.accumulate { r with stream := rest } data) := by
  have hnet : (r.netBuf ++ data).length
      = r.netBuf.length + data.length := List.length_append
  have hframe : (p ++ [0]).length = p.length + 1 := List.length_append
  rw [← List.append_assoc] at hbuf
  unfold FrameReader.accumulate
  by_cases hfull : (r.netBuf ++ data).length = p.length + 1
  · obtain ⟨hbody, rfl⟩ := List.append_inj hbuf (hfull.trans hframe.symm)
    rw [if_pos]
    · refine .header (done ++ [p]) left ?_ ?_ ?_ rfl rfl hstop ?_
      · rw [hps, List.append_assoc, List.singleton_append]
      · show r.headerBuf ++ _ = _
        rw [hhead, List.nil_append]
      · show r.headerBuf.length < 2
        rw [hhead]
        exact Nat.two_pos
      · show r.delivered ++ (decodeUtf8 (r.netBuf ++ data).dropLast).toList
          = _
        rw [hdel, hbody, List.dropLast_concat, texts_append,
          texts_singleton]
    · constructor
      · show ((r.netBuf ++ data).length : Int) = r.packetSize
        rw [hfull, hsize]
        rfl
      · show (r.netBuf ++ data).getLast? = some 0
        rw [hbody, List.getLast?_concat]
  · rw [if_neg]
    · refine .body done left p hps hbuf ?_ hsize hhead hstop hdel
      show (r.netBuf ++ data).length < p.length + 1
      omega
    · rintro ⟨hsame, -⟩
      change ((r.netBuf ++ data).length : Int) = r.packetSize at hsame
      rw [hsize] at hsame
      omega

-- ==== one round

/-- What the rest of a round makes of what the calls returned. -/
def settle : FrameReader × Option (List UInt8) → FrameReader
  | (r, some packet) => if r.stopped then r else r.accumulate packet
  | (r, none) => r

theorem poll_eq (hstop : r.stopped = false) (b : Arrival) :
    r.poll (a, b) = settle (r.readFromConnection a b) := by
  rw [poll, hstop]
  rfl

theorem readFromConnection_body (hsize : r.packetSize ≠ -1)
    (a b : Arrival) : r.readFromConnection a b = r.readBody a := by
  have hskip : r.readHeader a = (r, true) := if_neg hsize
  rw [readFromConnection, hskip, if_neg hsize]
  rfl

/-- A round that stands in a frame: the stream holds more of it, so the
call does not report the end. -/
theorem Reading.readBody (h : Reading ps r) (hsize : r.packetSize ≠ -1)
    (a : Arrival) : Reading ps (settle (r.readBody a))
      ∧ (settle (r.readBody a)).stream.length ≤ r.stream.length
      ∧ (a ≠ .timeout →
        (settle (r.readBody a)).stream.length < r.stream.length) := by
  cases h with
  | header _ _ _ _ _ hs => exact absurd hs hsize
  | body done left p hps hbuf hlen hs hhead hstop hdel =>
    have hpos : 0 < r.packetSize := by omega
    have hroom : r.packetSize.toNat - r.netBuf.length
        = p.length + 1 - r.netBuf.length := by omega
    have hmore : r.stream ≠ [] := by
      intro hnil
      have hall := congrArg List.length hbuf
      simp only [hnil, List.append_nil, List.length_append,
        List.length_singleton] at hall
      omega
    unfold FrameReader.readBody
    rw [if_pos hpos, hroom]
    split
    case h_1 hnone =>
      exact ⟨.body done left p hps hbuf hlen hs hhead hstop hdel,
        Nat.le_refl _, fun ha => absurd (recv_none hnone) ha⟩
    case h_2 data r' hsome =>
      obtain ⟨rest, hstream, rfl, hdata⟩ := recv_eq hsome
      have hne : data ≠ [] := recv_ne_nil (by omega) hmore hsome
      have hlt : rest.length < r.stream.length := by
        rw [hstream, List.length_append]
        have := List.length_pos_of_ne_nil hne
        omega
      rw [if_neg fun h0 => hne (List.eq_nil_of_length_eq_zero h0)]
      have hsettle : settle ({ r with stream := rest }, some data)
          = FrameReader.accumulate { r with stream := rest } data := by
        show (if r.stopped then _ else _) = _
        rw [hstop]
        rfl
      rw [hsettle, accumulate_stream]
      rw [hstream] at hbuf
      exact ⟨.accumulate hps hbuf (by omega) hs hhead hstop hdel,
        Nat.le_of_lt hlt, fun _ => hlt⟩

/-- A round between two frames: it reads on in the header, or completes
it, or finds the end of the stream when every frame is delivered. -/
theorem Reading.readHeader (h : Reading ps r)
    (hlegal : ∀ p ∈ ps, Legal p) (hsize : r.packetSize = -1)
    (a : Arrival) :
    ((r.readHeader a).2 = false
        ∧ (Reading ps (r.readHeader a).1 ∨ Ended ps (r.readHeader a).1)
      ∨ (r.readHeader a).2 = true ∧ Reading ps (r.readHeader a).1
        ∧ (r.readHeader a).1.packetSize ≠ -1)
      ∧ (r.readHeader a).1.stream.length ≤ r.stream.length
      ∧ (a ≠ .timeout → r.stream ≠ [] →
        (r.readHeader a).1.stream.length < r.stream.length) := by
  cases h with
  | body done left p hps hbuf hlen hs hhead hstop hdel => omega
  | header done left hps hbuf hlen hs hnet hstop hdel =>
    unfold FrameReader.readHeader
    rw [if_pos hsize]
    split
    case h_1 hnone =>
      exact ⟨.inl ⟨rfl, .inl
        (.header done left hps hbuf hlen hs hnet hstop hdel)⟩,
        Nat.le_refl _, fun ha => absurd (recv_none hnone) ha⟩
    case h_2 data r' hsome =>
      obtain ⟨rest, hstream, rfl, hdata⟩ := recv_eq hsome
      have hle : rest.length ≤ r.stream.length := by
        rw [hstream, List.length_append]
        omega
      have hlt : r.stream ≠ [] → rest.length < r.stream.length := by
        intro hmore
        have hne : data ≠ [] := recv_ne_nil (by omega) hmore hsome
        have := List.length_pos_of_ne_nil hne
        rw [hstream, List.length_append]
        omega
      have hmoved : r.headerBuf ++ data ++ rest = frames left := by
        rw [List.append_assoc, ← hstream]
        exact hbuf
      have hlength : (r.headerBuf ++ data).length
          = r.headerBuf.length + data.length := List.length_append
      dsimp only
      split
      case isTrue hempty =>
        have hnil : r.stream = [] := by
          by_contra hmore
          have := List.length_pos_of_ne_nil
            (recv_ne_nil (by omega) hmore hsome)
          omega
        rw [List.eq_nil_of_length_eq_zero hempty, List.nil_append] at hmoved
        have hrest : rest = [] := (List.append_eq_nil_iff.mp
          (hstream.symm.trans hnil)).2
        have hleft : left = [] := frames_eq_nil (hmoved.symm.trans hrest)
        have hall : r.delivered = texts ps := by
          rw [hdel, hps, hleft, List.append_nil]
        exact ⟨.inl ⟨rfl, .inr ⟨rfl, hrest, hall⟩⟩, hle, fun _ => hlt⟩
      case isFalse =>
        split
        case isTrue htwo =>
          exact ⟨.inr ⟨rfl, Reading.completeHeader hps hlegal hmoved htwo
            hnet hstop hdel⟩, hle, fun _ => hlt⟩
        case isFalse htwo =>
          refine ⟨.inl ⟨rfl, .inl (.header done left hps hmoved ?_ hs
            hnet hstop hdel)⟩, hle, fun _ => hlt⟩
          show (r.headerBuf ++ data).length < 2
          omega

theorem Reading.poll (h : Reading ps r) (hlegal : ∀ p ∈ ps, Legal p)
    (round : Arrival × Arrival) :
    (Reading ps (r.poll round) ∨ Ended ps (r.poll round))
      ∧ (r.poll round).stream.length ≤ r.stream.length
      ∧ (round.1 ≠ .timeout → r.stream ≠ [] →
        (r.poll round).stream.length < r.stream.length) := by
  rw [poll_eq h.open_]
  by_cases hsize : r.packetSize = -1
  · unfold readFromConnection
    obtain ⟨hread, hle, hlt⟩ := h.readHeader hlegal hsize round.1
    rw [if_pos hsize]
    generalize r.readHeader round.1 = res at hread hle hlt ⊢
    obtain ⟨r', goesOn⟩ := res
    rcases hread with ⟨hback, hdone⟩ | ⟨hon, hbody, hinside⟩
    · cases hback
      exact ⟨hdone, hle, hlt⟩
    · cases hon
      obtain ⟨hnext, hle', -⟩ := hbody.readBody hinside round.2
      exact ⟨.inl hnext, Nat.le_trans hle' hle,
        fun ha hmore => Nat.lt_of_le_of_lt hle' (hlt ha hmore)⟩
  · rw [readFromConnection_body hsize]
    obtain ⟨hnext, hle, hlt⟩ := h.readBody hsize round.1
    exact ⟨.inl hnext, hle, fun ha _ => hlt ha⟩

-- ==== the run

/-- Still in the stream, or ended with it. -/
def OnTrack (ps : List (List UInt8)) (r : FrameReader) : Prop :=
  Reading ps r ∨ Ended ps r

def finds (rounds : List (Arrival × Arrival)) : Nat :=
  rounds.countP fun round => round.1 ≠ .timeout

theorem Ended.poll (h : Ended ps r) (round : Arrival × Arrival) :
    r.poll round = r := by
  unfold FrameReader.poll
  rw [h.stopped]
  rfl

theorem OnTrack.polls (h : OnTrack ps r) (hlegal : ∀ p ∈ ps, Legal p)
    (rounds : List (Arrival × Arrival)) :
    OnTrack ps (r.polls rounds)
      ∧ (r.polls rounds).stream.length ≤ r.stream.length - finds rounds := by
  induction rounds generalizing r with
  | nil => exact ⟨h, Nat.le_refl _⟩
  | cons round rounds ih =>
    have hstep : OnTrack ps (r.poll round)
        ∧ (r.poll round).stream.length ≤ r.stream.length
          - (if round.1 ≠ .timeout then 1 else 0) := by
      rcases h with hreading | hended
      · obtain ⟨hnext, hle, hlt⟩ := hreading.poll hlegal round
        refine ⟨hnext, ?_⟩
        by_cases hfound : round.1 ≠ .timeout
        · rw [if_pos hfound]
          by_cases hnil : r.stream = []
          · rw [hnil] at hle ⊢
            exact hle
          · exact Nat.le_sub_one_of_lt (hlt hfound hnil)
        · rw [if_neg hfound]
          exact hle
      · rw [hended.poll, hended.stream]
        exact ⟨.inr hended, Nat.zero_le _⟩
    obtain ⟨hend, hleft⟩ := ih hstep.1
    refine ⟨hend, ?_⟩
    have hcount : finds (round :: rounds) = finds rounds
        + if round.1 ≠ .timeout then 1 else 0 := by
      unfold finds
      rw [List.countP_cons]
      congr 1
      by_cases hfound : round.1 = .timeout <;> simp [hfound]
    have := hstep.2
    show (FrameReader.polls (r.poll round) rounds).stream.length ≤ _
    omega

theorem Reading.init (ps : List (List UInt8)) :
    Reading ps (FrameReader.init (frames ps)) :=
  .header [] ps rfl rfl Nat.two_pos rfl rfl rfl rfl

/-- What is delivered is the beginning of what the stream holds, and all
of it when the stream is used up. -/
theorem OnTrack.delivered (h : OnTrack ps r) :
    r.delivered <+: texts ps ∧ (r.stream = [] → r.delivered = texts ps) := by
  rcases h with (⟨done, left, hps, hbuf, hlen, -, -, -, hdel⟩ |
    ⟨done, left, p, hps, hbuf, hlen, -, -, -, hdel⟩) | hended
  · rw [hdel, hps, texts_append]
    refine ⟨List.prefix_append _ _, fun hnil => ?_⟩
    rw [hnil, List.append_nil] at hbuf
    cases left with
    | nil => exact (List.append_nil _).symm
    | cons p left =>
      rw [hbuf] at hlen
      exact absurd hlen (by simp [frames, frame])
  · rw [hdel, hps, texts_append]
    refine ⟨List.prefix_append _ _, fun hnil => ?_⟩
    rw [hnil, List.append_nil] at hbuf
    simp only [hbuf, List.length_append, List.length_singleton] at hlen
    omega
  · rw [hended.delivered]
    exact ⟨List.prefix_refl _, fun _ => rfl⟩

-- ==== the end of the stream

def CallsRecv (r : FrameReader) : Prop :=
  r.packetSize = -1 ∨ 0 < r.packetSize

instance (r : FrameReader) : Decidable r.CallsRecv :=
  inferInstanceAs (Decidable (_ ∨ _))

theorem polls_stopped (h : r.stopped = true)
    (rounds : List (Arrival × Arrival)) : r.polls rounds = r := by
  induction rounds with
  | nil => rfl
  | cons round rounds ih =>
    have hround : r.poll round = r := by
      unfold FrameReader.poll
      rw [h]
      rfl
    show (r.poll round).polls rounds = r
    rw [hround]
    exact ih

/-- At the end of the stream, with no byte of a header buffered, a round
changes nothing or closes the connection; it changes something when it
does not time out. -/
theorem poll_end (hstream : r.stream = []) (hhead : r.headerBuf = [])
    (hcalls : r.CallsRecv) (round : Arrival × Arrival) :
    (r.poll round).stopped = true
      ∨ r.poll round = r ∧ round.1 = .timeout := by
  cases hstop : r.stopped with
  | true =>
    refine .inl ?_
    rw [FrameReader.poll, hstop]
    exact hstop
  | false =>
    have hempty : ∀ {n data r'},
        r.recv n round.1 = some (data, r') → data = [] := by
      intro n data r' hsome
      obtain ⟨rest, hsplit, -, -⟩ := recv_eq hsome
      exact (List.append_eq_nil_iff.mp (hsplit.symm.trans hstream)).1
    rw [poll_eq hstop]
    by_cases hsize : r.packetSize = -1
    · unfold readFromConnection FrameReader.readHeader
      rw [if_pos hsize]
      cases hrecv : r.recv (2 - r.headerBuf.length) round.1 with
      | none => exact .inr ⟨rfl, recv_none hrecv⟩
      | some found =>
        obtain ⟨data, r'⟩ := found
        cases hempty hrecv
        rw [hhead]
        exact .inl rfl
    · rw [readFromConnection_body hsize]
      unfold FrameReader.readBody
      rw [if_pos (hcalls.resolve_left hsize)]
      cases hrecv : r.recv (r.packetSize.toNat - r.netBuf.length)
          round.1 with
      | none => exact .inr ⟨rfl, recv_none hrecv⟩
      | some found =>
        obtain ⟨data, r'⟩ := found
        cases hempty hrecv
        exact .inl rfl

theorem polls_end (hstream : r.stream = []) (hhead : r.headerBuf = [])
    (hcalls : r.CallsRecv) {rounds : List (Arrival × Arrival)}
    (hfinds : 0 < finds rounds) : (r.polls rounds).stopped = true := by
  induction rounds with
  | nil => cases hfinds
  | cons round rounds ih =>
    show ((r.poll round).polls rounds).stopped = true
    rcases poll_end hstream hhead hcalls round with hclosed | ⟨hsame, ht⟩
    · rw [polls_stopped hclosed]
      exact hclosed
    · rw [hsame]
      refine ih ?_
      rw [finds, List.countP_cons_of_neg (by simp [ht])] at hfinds
      exact hfinds

/-- A stream that ends one byte into a header is polled forever: the end
is reported, and the buffer has neither no byte nor two. -/
theorem polls_dangling (hsize : r.packetSize = -1)
    (hlen : (r.headerBuf ++ r.stream).length = 1)
    (hstop : r.stopped = false) (rounds : List (Arrival × Arrival)) :
    (r.polls rounds).stopped = false := by
  induction rounds generalizing r with
  | nil => exact hstop
  | cons round rounds ih =>
    have hpoll := poll_eq (a := round.1) hstop round.2
    unfold readFromConnection FrameReader.readHeader at hpoll
    rw [if_pos hsize] at hpoll
    cases hrecv : r.recv (2 - r.headerBuf.length) round.1 with
    | none =>
      rw [hrecv] at hpoll
      have hsame : r.poll round = r := hpoll
      show ((r.poll round).polls rounds).stopped = false
      rw [hsame]
      exact ih hsize hlen hstop
    | some found =>
      obtain ⟨data, r'⟩ := found
      obtain ⟨rest, hstream, rfl, -⟩ := recv_eq hrecv
      rw [hstream, List.length_append, List.length_append] at hlen
      have hone : (r.headerBuf ++ data).length ≠ 0 := by
        intro hzero
        rw [List.length_append] at hzero
        have hmore : r.stream ≠ [] := by
          intro hnil
          rw [hnil] at hstream
          have hrest := (List.append_eq_nil_iff.mp hstream.symm).2
          rw [hrest, List.length_nil] at hlen
          omega
        have := List.length_pos_of_ne_nil
          (recv_ne_nil (by omega) hmore hrecv)
        omega
      have htwo : (r.headerBuf ++ data).length ≠ 2 := by
        rw [List.length_append]
        omega
      rw [hrecv] at hpoll
      dsimp only at hpoll
      rw [if_neg hone, if_neg htwo] at hpoll
      show ((r.poll round).polls rounds).stopped = false
      rw [hpoll]
      refine ih hsize ?_ hstop
      show (r.headerBuf ++ data ++ rest).length = 1
      rw [List.length_append, List.length_append]
      omega

-- ==== the result

/-- Whatever `recv` splits, the payloads of a well-formed stream that
are UTF-8 are delivered, each once and in order, as soon as enough calls
have found bytes; and the loop over any stream closes the connection at
its end, at the first call that reports it with no byte of a header
buffered. -/
theorem frame_decoding :
    (∀ ps : List (List UInt8), (∀ p ∈ ps, Legal p) →
      ∀ rounds : List (Arrival × Arrival),
        ((FrameReader.init (frames ps)).polls rounds).delivered
            <+: texts ps
          ∧ (((FrameReader.init (frames ps)).polls rounds).stream = [] →
            ((FrameReader.init (frames ps)).polls rounds).delivered
              = texts ps)
          ∧ ((frames ps).length ≤ finds rounds →
            ((FrameReader.init (frames ps)).polls rounds).delivered
              = texts ps))
      ∧ ∀ (stream : List UInt8) (before rounds : List (Arrival × Arrival)),
        ((FrameReader.init stream).polls before).stream = [] →
        ((FrameReader.init stream).polls before).headerBuf = [] →
        ((FrameReader.init stream).polls before).CallsRecv →
        0 < finds rounds →
        ((FrameReader.init stream).polls (before ++ rounds)).stopped
          = true := by
  constructor
  · intro ps hlegal rounds
    obtain ⟨htrack, hleft⟩ :=
      OnTrack.polls (.inl (Reading.init ps)) hlegal rounds
    obtain ⟨hbegin, hall⟩ := htrack.delivered
    refine ⟨hbegin, hall, fun henough => hall ?_⟩
    refine List.eq_nil_of_length_eq_zero ?_
    have hinit : (FrameReader.init (frames ps)).stream = frames ps := rfl
    rw [hinit] at hleft
    omega
  · intro stream before rounds hstream hhead hcalls hfinds
    have happend : (FrameReader.init stream).polls (before ++ rounds)
        = ((FrameReader.init stream).polls before).polls rounds :=
      List.foldl_append
    rw [happend]
    exact polls_end hstream hhead hcalls hfinds

def eager (n : Nat) : List (Arrival × Arrival) :=
  List.replicate n (.bytes 0, .bytes 0)

/-- The two letters "AB" arrive byte by byte, and the stream ends. -/
theorem frame_decoding_of_letters :
    ((FrameReader.init (frames [[65, 66]])).polls (eager 5)).delivered
        = texts [[65, 66]]
      ∧ texts [[65, 66]] = ["AB"]
      ∧ ((FrameReader.init (frames [[65, 66]])).polls
        (eager 5 ++ eager 1)).stopped = true := by
  refine ⟨(frame_decoding.1 [[65, 66]] ?_ (eager 5)).2.2 (by decide),
    by decide, frame_decoding.2 _ _ _ (by decide) (by decide) (by decide)
      (by decide)⟩
  intro p hp
  cases List.mem_singleton.mp hp
  exact ⟨by decide, by decide⟩

/-- A payload that is not UTF-8 is not delivered, and the stream of one
byte is polled forever. -/
theorem frame_decoding_fails :
    (Legal [0xff]
        ∧ ((FrameReader.init (frames [[0xff]])).polls (eager 4)).stream = []
        ∧ ((FrameReader.init (frames [[0xff]])).polls (eager 4)).delivered
          = [])
      ∧ ∀ rounds, ((FrameReader.init [0]).polls rounds).stopped = false :=
  ⟨⟨⟨by decide, by decide⟩, by decide, by decide⟩,
    polls_dangling rfl rfl rfl⟩

end FrameReader

end Freeciv3d.Proxy
