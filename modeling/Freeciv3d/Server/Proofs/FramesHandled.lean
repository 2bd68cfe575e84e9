/-
Which packets a connection owes the server, and when
`incoming_client_packets` has handed them on.

# What is due

`Due` reads the same bytes: each frame that has arrived whole is a
packet, or closes the connection, or is nothing at all. It never waits
behind a frame that is nothing.

# Where the loop falls behind

The loop ends with the first frame that is nothing (no JSON, no object,
no `pid`), and takes up the frames behind it with the next read. A frame
of two bytes makes it ask the parser for 2^64 - 1 bytes. `Orderly` says
that no step meets either, and that no `pid` is cut down to another.
-/
import Freeciv3d.Server.PacketReader

namespace Freeciv3d.Server

open Lib

-- ==== what is due

/-- The first frame of some bytes, and what follows it. A frame too short
for a NUL has no text. -/
inductive NextFrame where
  | incomplete
  | corrupt
  | frame (text : Option CStr) (rest : CStr)

/-- The length, in network order, counts itself, the text and a NUL. -/
def nextFrame (bytes : CStr) : NextFrame :=
  match bytes with
  | high :: low :: rest =>
    let len := high.toNat * 256 + low.toNat
    if bytes.length < len then .incomplete
    else if len < 2 then .corrupt
    else if len = 2 then .frame none rest
    else .frame (some (rest.take (len - 3))) (bytes.drop len)
  | _ => .incomplete

inductive Verdict (P : Type) where
  | nothing
  | closes
  | packet (type : Nat) (data : P)

variable {W P : Type} (G : GameServer W P)

/-- The packet of a `pid` and an object, if the server supports it. -/
def verdictOf (w : W) (item : JsonT) : JsonT → Verdict P
  | .integer n =>
    if 0 ≤ n ∧ n < packetLast then
      match G.receive w n.toNat with
      | none => .closes
      | some handler =>
        match handler.json item with
        | none => .closes
        | some data => .packet n.toNat data
    else .closes
  | _ => .closes

def verdict (w : W) (text : CStr) : Verdict P :=
  match G.jansson.loads text with
  | none => .nothing
  | some item =>
    match item.objectGet "pid" with
    | none => .nothing
    | some pint => verdictOf G w item pint

structure Due (W P : Type) where
  pending : CStr
  world : W
  closed : Bool
  handed : List (Nat × P)

namespace Due

/-- A packet goes to the server, which may reject it. -/
def handOn (d : Due W P) (type : Nat) (data : P) : Due W P :=
  let input := G.serverPacketInput d.world data type
  { d with
    world := input.1
    closed := d.closed || !input.2
    handed := d.handed ++ [(type, data)] }

/-- All frames of some bytes, at most `n`. -/
def frames : Nat → Due W P → CStr → Due W P
  | 0, d, bytes => { d with pending := bytes }
  | n + 1, d, bytes =>
    match nextFrame bytes with
    | .incomplete => { d with pending := bytes }
    | .corrupt => { d with pending := bytes, closed := true }
    | .frame none rest => frames n d rest
    | .frame (some text) rest =>
      match verdict G d.world text with
      | .nothing => frames n d rest
      | .closes => { d with pending := rest, closed := true }
      | .packet type data => frames n (d.handOn G type data) rest

def step (d : Due W P) : Arrival W → Due W P
  | .bytes chunk =>
    let bytes := d.pending ++ chunk
    d.frames G (bytes.length + 1) bytes
  | .close _ => { d with closed := true }
  | .world w => { d with world := w }

end Due

-- ==== two runs in one

structure Watched (W P : Type) where
  real : Reception W P
  due : Due W P

def Watched.fresh (w : W) : Watched W P where
  real := { conn := .fresh, world := w, handed := [], asked := [] }
  due := { pending := [], world := w, closed := false, handed := [] }

def receptions : Lts (Watched W P) (Arrival W) where
  init s := ∃ w, s = .fresh w
  step s a := (s.real.step G a).map fun real => ⟨real, s.due.step G a⟩

/-- Everything due has been handed on, in order, the connection is closed
exactly if that was due, and no call of the parser asked for more bytes
than its frame has behind the length. -/
structure Truthful (s : Watched W P) : Prop where
  handed : s.real.handed = s.due.handed
  closed : s.real.conn.isClosing = s.due.closed
  asked : ∀ a ∈ s.real.asked, a.buflen + 2 ≤ a.whole

-- ==== the condition

/-- The server supports no such packet. -/
def Unsupported (w : W) (type : Nat) : Prop :=
  packetLast ≤ type ∨ (G.receive w type).isNone

/-- The number of a packet survives as an `enum packet_type`, or becomes
one the server does not support either. -/
def HonestPid (w : W) (pint : JsonT) : Prop :=
  match pint with
  | .integer n =>
    (0 ≤ n ∧ n < 2 ^ 32) ∨ Unsupported G w (enumOf n)
  | _ => Unsupported G w 0

/-- Every frame has room for its NUL. One that is nothing comes last, and
is JSON as long as no packet was handed on. A `pid` is honest. -/
def Orderly : Nat → Due W P → CStr → Prop
  | 0, _, _ => True
  | n + 1, d, bytes =>
    match nextFrame bytes with
    | .incomplete => True
    | .corrupt => True
    | .frame none _ => False
    | .frame (some text) rest =>
      match G.jansson.loads text with
      | none => d.handed ≠ [] ∧ nextFrame rest = .incomplete
      | some item =>
        match item.objectGet "pid" with
        | none => nextFrame rest = .incomplete
        | some pint =>
          HonestPid G d.world pint ∧
            match verdictOf G d.world item pint with
            | .packet type data =>
              Orderly n (d.handOn G type data) rest
            | _ => True

def OrderlyStep (s : Watched W P) : Arrival W → Prop
  | .bytes chunk =>
    let bytes := s.due.pending ++ chunk
    Orderly G (bytes.length + 1) s.due bytes
  | _ => True

-- ==== one frame, twice

theorem nextFrame_length {bytes rest : CStr} {text : Option CStr}
    (h : nextFrame bytes = .frame text rest) :
    rest.length + 2 ≤ bytes.length := by
  unfold nextFrame at h
  split at h
  · next high low din =>
      dsimp only at h
      split at h
      · cases h
      · next hlen =>
          split at h
          · cases h
          · split at h
            · cases h
              simp
            · cases h
              simp only [List.length_drop]
              omega
  · cases h

theorem length_of_incomplete {bytes : CStr}
    (h : nextFrame bytes = .incomplete) : bytes.length < 65536 := by
  unfold nextFrame at h
  split at h
  · next high low din =>
      dsimp only at h
      have hhigh := high.toNat_lt
      have hlow := low.toNat_lt
      split at h
      · omega
      · split at h
        · cases h
        · split at h <;> cases h
  · next hshort =>
      rcases bytes with _ | ⟨a, _ | ⟨b, rest⟩⟩
      · simp
      · simp
      · exact absurd rfl (hshort a b rest)

theorem getPacket_cons {pc : PacketConn} (w : W) {high low : UInt8}
    {din : CStr} (hu : pc.used = true) (hb : pc.buffer = high :: low :: din) :
    getPacketFromConnectionJson G w pc =
      if pc.buffer.length < high.toNat * 256 + low.toNat then ⟨pc, [], none⟩
      else if high.toNat * 256 + low.toNat < 2 then
        ⟨pc.close "decoding error", [], none⟩
      else getWholePacket G w pc (high.toNat * 256 + low.toNat) din := by
  unfold getPacketFromConnectionJson
  rw [hu, hb]
  rfl

theorem getPacket_incomplete {pc : PacketConn} (w : W)
    (hu : pc.used = true) (h : nextFrame pc.buffer = .incomplete) :
    getPacketFromConnectionJson G w pc = ⟨pc, [], none⟩ := by
  unfold nextFrame at h
  split at h
  · next high low din hb =>
      dsimp only at h
      rw [getPacket_cons G w hu hb]
      split at h
      · next hlen => rw [if_pos hlen]
      · split at h
        · cases h
        · split at h <;> cases h
  · next hshort =>
      unfold getPacketFromConnectionJson
      rw [hu]
      split
      · rfl
      · split
        · next high low din hb => exact absurd hb (hshort high low din)
        · rfl

theorem getPacket_corrupt {pc : PacketConn} (w : W)
    (hu : pc.used = true) (h : nextFrame pc.buffer = .corrupt) :
    getPacketFromConnectionJson G w pc =
      ⟨pc.close "decoding error", [], none⟩ := by
  unfold nextFrame at h
  split at h
  · next high low din hb =>
      dsimp only at h
      rw [getPacket_cons G w hu hb]
      split at h
      · cases h
      · next hlen =>
          split at h
          · next hshort => rw [if_neg hlen, if_pos hshort]
          · split at h <;> cases h
  · cases h

/-- What becomes of the text of a frame, in JSON mode. -/
def readText (w : W) (pc : PacketConn) (asked : List Ask) (text : CStr) :
    GotPacket P :=
  match G.jansson.loads text with
  | none => ⟨pc, asked, none⟩
  | some item =>
    match item.objectGet "pid" with
    | none => ⟨pc, asked, none⟩
    | some pint =>
      receiveType G w pc pc asked (enumOf pint.integerValue)
        fun handler => handler.json item

theorem sizeT_text {len : Nat} (h : 3 ≤ len) (h' : len < 65536) :
    sizeT ((len : Int) - 3) = len - 3 := by
  unfold sizeT
  omega

theorem getWholePacket_text {pc : PacketConn} (w : W) {len : Nat}
    {din text : CStr} (hj : pc.jsonMode = true)
    (htext : din.take (len - 3) = text) (h3 : 3 ≤ len)
    (h16 : len < 65536) (hdin : len ≤ din.length + 2)
    (hfirst : G.jansson.loads text = none → pc.lastRequestIdSeen ≠ 0) :
    ∃ asked : List Ask, (∀ a ∈ asked, a.buflen + 2 ≤ a.whole) ∧
      getWholePacket G w pc len din =
        readText G w { pc with buffer := pc.buffer.drop len } asked
          text := by
  have hload : G.jansson.loadb din (sizeT ((len : Int) - 3)) =
      G.jansson.loads text := by
    unfold Jansson.loadb
    rw [sizeT_text h3 h16, if_pos (by omega), htext]
  have hask : (Ask.mk len (sizeT ((len : Int) - 3))).buflen + 2 ≤ len := by
    show sizeT ((len : Int) - 3) + 2 ≤ len
    rw [sizeT_text h3 h16]
    omega
  have hmode : (if pc.lastRequestIdSeen == 0 then
      (G.jansson.loads text).isSome else pc.jsonMode) = true := by
    split
    · next h0 =>
        cases hl : G.jansson.loads text with
        | none => exact absurd (beq_iff_eq.mp h0) (hfirst hl)
        | some item => rfl
    · exact hj
  refine ⟨(if pc.lastRequestIdSeen == 0 then
    [Ask.mk len (sizeT ((len : Int) - 3))] else []) ++
    [Ask.mk len (sizeT ((len : Int) - 3))], ?_, ?_⟩
  · intro a ha
    have hmem : a = Ask.mk len (sizeT ((len : Int) - 3)) := by
      split at ha <;> simpa using ha
    subst hmem
    exact hask
  · unfold getWholePacket readText
    simp only [hload, hmode, if_true]
    rw [hj] <;> rfl

/-- A frame with room for its NUL is taken out of the buffer, and its
text read; in JSON mode this is so from the first frame on that is
JSON. -/
theorem getPacket_frame {pc : PacketConn} (w : W) {text rest : CStr}
    (hu : pc.used = true) (hj : pc.jsonMode = true)
    (h : nextFrame pc.buffer = .frame (some text) rest)
    (hfirst : G.jansson.loads text = none → pc.lastRequestIdSeen ≠ 0) :
    ∃ asked : List Ask, (∀ a ∈ asked, a.buflen + 2 ≤ a.whole) ∧
      getPacketFromConnectionJson G w pc =
        readText G w { pc with buffer := rest } asked text := by
  unfold nextFrame at h
  split at h
  · next high low din hb =>
      dsimp only at h
      have hhigh := high.toNat_lt
      have hlow := low.toNat_lt
      split at h
      · cases h
      · next hlen =>
          split at h
          · cases h
          · next hshort =>
              split at h
              · cases h
              · next hne =>
                  cases h
                  rw [getPacket_cons G w hu hb, if_neg hlen, if_neg hshort]
                  rw [hb] at hlen
                  simp only [List.length_cons] at hlen
                  exact getWholePacket_text G w hj rfl
                    (by omega) (by omega) (by omega) hfirst
  · cases h

theorem receiveType_unsupported {w : W} {type : Nat}
    (h : Unsupported G w type) (pc taken : PacketConn) (asked : List Ask)
    (call : ReceiveHandler P → Option P) :
    receiveType G w pc taken asked type call =
      ⟨pc.close "unsupported packet type", asked, none⟩ := by
  unfold receiveType
  split
  · rfl
  · next hlast =>
      have hnone := Option.isNone_iff_eq_none.mp (h.resolve_left hlast)
      rw [hnone]

theorem enumOf_of_fits {n : Int} (h0 : 0 ≤ n) (h : n < 2 ^ 32) :
    enumOf n = n.toNat := by
  unfold enumOf
  rw [Int.emod_eq_of_lt h0 h]

theorem receiveType_due {w : W} {pint : JsonT} (hh : HonestPid G w pint)
    (pc : PacketConn) (asked : List Ask) (item : JsonT) :
    (∃ type data, verdictOf G w item pint = .packet type data ∧
      receiveType G w pc pc asked (enumOf pint.integerValue)
        (fun handler => handler.json item) =
        ⟨pc, asked, some (type, data)⟩) ∨
    (verdictOf G w item pint = .closes ∧ ∃ reason,
      receiveType G w pc pc asked (enumOf pint.integerValue)
        (fun handler => handler.json item) =
        ⟨pc.close reason, asked, none⟩) := by
  have hno : ∀ {type : Nat}, Unsupported G w type →
      ∃ reason, receiveType G w pc pc asked type
        (fun handler => handler.json item) =
        ⟨pc.close reason, asked, none⟩ := fun h =>
    ⟨_, receiveType_unsupported G h pc pc asked _⟩
  cases pint with
  | integer n =>
    by_cases hfits : 0 ≤ n ∧ n < 2 ^ 32
    · show (∃ type data, _ ∧ receiveType G w pc pc asked (enumOf n) _ = _) ∨
        (_ ∧ ∃ reason, receiveType G w pc pc asked (enumOf n) _ = _)
      rw [enumOf_of_fits hfits.1 hfits.2]
      unfold verdictOf receiveType
      dsimp only
      by_cases hlast : packetLast ≤ n.toNat
      · have hout : ¬ (0 ≤ n ∧ n < packetLast) := by omega
        rw [if_neg hout]
        exact .inr ⟨rfl, _, if_pos hlast⟩
      · have hin : 0 ≤ n ∧ n < packetLast := by omega
        simp only [if_pos hin, if_neg hlast]
        cases G.receive w n.toNat with
        | none => exact .inr ⟨rfl, _, rfl⟩
        | some handler =>
          dsimp only
          cases handler.json item with
          | none => exact .inr ⟨rfl, _, rfl⟩
          | some data => exact .inl ⟨_, _, rfl, rfl⟩
    · have hout : ¬ (0 ≤ n ∧ n < packetLast) := by
        unfold packetLast
        omega
      refine .inr ⟨?_, hno (hh.resolve_left hfits)⟩
      unfold verdictOf
      exact if_neg hout
  | _ => exact .inr ⟨rfl, hno hh⟩

-- ==== the run

structure KeptUp (s : Watched W P) : Prop where
  truthful : Truthful s
  used : s.real.conn.used = true
  json : s.real.conn.jsonMode = true
  buffer : s.real.conn.buffer = s.due.pending
  world : s.real.world = s.due.world
  first : s.real.conn.lastRequestIdSeen = 0 → s.due.handed = []

theorem frames_incomplete {bytes : CStr} (n : Nat) (d : Due W P)
    (h : nextFrame bytes = .incomplete) :
    d.frames G n bytes = { d with pending := bytes } := by
  cases n with
  | zero => rfl
  | succ n =>
    unfold Due.frames
    rw [h]

theorem getNextRequestId_ne_zero (old : Nat) : getNextRequestId old ≠ 0 := by
  unfold getNextRequestId
  split <;> omega

theorem KeptUp.skip {r : Reception W P} {d : Due W P}
    (hk : KeptUp ⟨r, { d with pending := r.conn.buffer }⟩)
    {asked : List Ask} (hasked : ∀ a ∈ asked, a.buflen + 2 ≤ a.whole)
    (rest : CStr) :
    KeptUp ⟨{ r with
      conn := { r.conn with buffer := rest }
      asked := r.asked ++ asked }, { d with pending := rest }⟩ where
  truthful :=
    { handed := hk.truthful.handed
      closed := hk.truthful.closed
      asked := fun a ha =>
        (List.mem_append.mp ha).elim (hk.truthful.asked a) (hasked a) }
  used := hk.used
  json := hk.json
  buffer := rfl
  world := hk.world
  first := hk.first

theorem KeptUp.shut {r : Reception W P} {d : Due W P} (hk : KeptUp ⟨r, d⟩)
    {pc : PacketConn} {reason : String} (hpc : pc = r.conn.close reason) :
    KeptUp ⟨{ r with conn := pc }, { d with closed := true }⟩ := by
  subst hpc
  exact
    { truthful :=
        { handed := hk.truthful.handed
          closed := rfl
          asked := hk.truthful.asked }
      used := hk.used
      json := hk.json
      buffer := hk.buffer
      world := hk.world
      first := hk.first }

theorem KeptUp.handle {r : Reception W P} {d : Due W P}
    (hk : KeptUp ⟨r, { d with pending := r.conn.buffer }⟩)
    {asked : List Ask} (hasked : ∀ a ∈ asked, a.buflen + 2 ≤ a.whole)
    (rest : CStr) (type : Nat) (data : P) :
    KeptUp ⟨r.handle G { r.conn with buffer := rest } asked type data,
      { d.handOn G type data with pending := rest }⟩ := by
  obtain ⟨⟨hhanded, hclosed, hold⟩, hused, hjson, -, hworld, hfirst⟩ := hk
  have hall : ∀ a ∈ r.asked ++ asked, a.buflen + 2 ≤ a.whole := fun a ha =>
    (List.mem_append.mp ha).elim (hold a) (hasked a)
  have hlist : r.handed ++ [(type, data)] = d.handed ++ [(type, data)] := by
    rw [show r.handed = d.handed from hhanded]
  have hinput : G.serverPacketInput r.world data type =
      G.serverPacketInput d.world data type := by
    rw [show r.world = d.world from hworld]
  have hnew : getNextRequestId r.conn.lastRequestIdSeen = 0 →
      d.handed ++ [(type, data)] = [] := fun h =>
    absurd h (getNextRequestId_ne_zero _)
  unfold Reception.handle Due.handOn
  dsimp only
  rw [hinput]
  cases (G.serverPacketInput d.world data type).2 with
  | true =>
    refine ⟨⟨hlist, ?_, hall⟩, hused, hjson, rfl, rfl, hnew⟩
    show r.conn.isClosing = (d.closed || false)
    rw [Bool.or_false]
    exact hclosed
  | false =>
    refine ⟨⟨hlist, ?_, hall⟩, hused, hjson, rfl, rfl, hnew⟩
    show true = (d.closed || true)
    rw [Bool.or_true]

/-- The loop keeps up with orderly frames, and leaves no whole one
behind. -/
theorem keptUp_frames {n : Nat} {r : Reception W P} {d : Due W P}
    (hk : KeptUp ⟨r, { d with pending := r.conn.buffer }⟩)
    (hn : r.conn.buffer.length < n) (ho : Orderly G n d r.conn.buffer) :
    KeptUp ⟨incomingClientPackets G n r, d.frames G n r.conn.buffer⟩ ∧
      ((d.frames G n r.conn.buffer).closed = false →
        nextFrame (d.frames G n r.conn.buffer).pending =
          .incomplete) := by
  induction n generalizing r d with
  | zero => omega
  | succ n ih =>
    have hused : r.conn.used = true := hk.used
    have hjson : r.conn.jsonMode = true := hk.json
    have hworld : r.world = d.world := hk.world
    have hfirst : r.conn.lastRequestIdSeen = 0 → d.handed = [] := hk.first
    unfold incomingClientPackets Due.frames
    unfold Orderly at ho
    split at ho
    · next hf =>
        rw [getPacket_incomplete G r.world hused hf, hf]
        simp only [List.append_nil]
        exact ⟨hk, fun _ => trivial⟩
    · next hf =>
        rw [getPacket_corrupt G r.world hused hf, hf]
        simp only [List.append_nil]
        exact ⟨hk.shut rfl, nofun⟩
    · exact ho.elim
    · next text rest hf =>
        have hlen := nextFrame_length hf
        have hlost : G.jansson.loads text = none →
            r.conn.lastRequestIdSeen ≠ 0 := by
          intro hl h0
          rw [hl] at ho
          exact ho.1 (hfirst h0)
        obtain ⟨asked, hasks, heq⟩ :=
          getPacket_frame G r.world hused hjson hf hlost
        rw [heq]
        unfold readText
        unfold verdict
        cases hl : G.jansson.loads text with
        | none =>
          rw [hl] at ho
          rw [frames_incomplete G n d ho.2]
          exact ⟨hk.skip hasks rest, fun _ => ho.2⟩
        | some item =>
          rw [hl] at ho
          dsimp only at ho ⊢
          cases hp : item.objectGet "pid" with
          | none =>
            rw [hp] at ho
            rw [frames_incomplete G n d ho]
            exact ⟨hk.skip hasks rest, fun _ => ho⟩
          | some pint =>
            rw [hp] at ho
            dsimp only at ho ⊢
            obtain ⟨hhonest, hnext⟩ := ho
            rw [← hworld] at hhonest
            have hlast : rest.length < n := by omega
            rcases receiveType_due G hhonest
                { r.conn with buffer := rest } asked item with
              ⟨type, data, hv, hr⟩ | ⟨hv, reason, hr⟩
            · rw [hworld] at hv
              rw [hr, hv]
              rw [hv] at hnext
              have hgo := ih (r := r.handle G
                { r.conn with buffer := rest } asked type data)
                (d := d.handOn G type data)
              rw [Reception.handle_buffer] at hgo
              exact hgo (hk.handle G hasks rest type data) hlast hnext
            · rw [hworld] at hv
              rw [hr, hv]
              exact ⟨(hk.skip hasks rest).shut rfl, nofun⟩

/-- Between two reads less than a frame is waiting, so there is room. -/
theorem room_of_incomplete {pc : PacketConn}
    (h : nextFrame pc.buffer = .incomplete) :
    ∃ nsize, ensureFreeExtraSpace pc = some nsize := by
  have hlen := length_of_incomplete h
  unfold ensureFreeExtraSpace
  have hroom : ¬ maxLenBuffer < pc.buffer.length + maxLenPacket := by
    unfold maxLenBuffer maxLenPacket
    omega
  rw [if_neg hroom]
  split
  · exact ⟨_, rfl⟩
  · exact ⟨_, rfl⟩

/-- A connection that has kept up and is open waits for the rest of a
frame. -/
def Waiting (s : Watched W P) : Prop :=
  KeptUp s ∧ (s.due.closed = false → nextFrame s.due.pending = .incomplete)

theorem waiting_fresh (w : W) :
    Waiting (Watched.fresh w : Watched W P) :=
  ⟨{ truthful := ⟨rfl, rfl, fun _ ha => absurd ha List.not_mem_nil⟩
     used := rfl
     json := rfl
     buffer := rfl
     world := rfl
     first := fun _ => rfl }, fun _ => rfl⟩

theorem waiting_step {s s' : Watched W P} {a : Arrival W}
    (hw : Waiting s) (ho : OrderlyStep G s a)
    (h : (receptions G).step s a = some s') : Waiting s' := by
  obtain ⟨hk, hwait⟩ := hw
  obtain ⟨real, hreal, rfl⟩ := Option.map_eq_some_iff.mp h
  cases a with
  | close reason =>
    cases hreal
    exact ⟨hk.shut rfl, nofun⟩
  | world w =>
    cases hreal
    exact ⟨{ hk with truthful := { hk.truthful with }, world := rfl }, hwait⟩
  | bytes chunk =>
    unfold Reception.step at hreal
    dsimp only at hreal
    split at hreal
    · cases hreal
    · next hopen =>
        have hclosed : s.due.closed = false := by
          rw [← hk.truthful.closed]
          exact Bool.eq_false_iff.mpr hopen
        obtain ⟨nsize, hroom⟩ : ∃ nsize,
            ensureFreeExtraSpace s.real.conn = some nsize := by
          apply room_of_incomplete
          rw [hk.buffer]
          exact hwait hclosed
        rw [hroom] at hreal
        dsimp only at hreal
        split at hreal
        · cases hreal
        · cases hreal
          rw [hk.buffer]
          exact keptUp_frames G
            (r := { s.real with conn := { s.real.conn with
              nsize := nsize, buffer := s.due.pending ++ chunk } })
            (d := s.due)
            { truthful := { hk.truthful with }
              used := hk.used
              json := hk.json
              buffer := rfl
              world := hk.world
              first := hk.first }
            (Nat.lt_succ_self _) ho

/-- However the bytes of a connection are cut into reads, and whatever
else happens to the server meanwhile: while the steps are orderly, every
frame that is a packet is handed on with the read that completes it, in
order, until the connection is closed, and the parser is never asked for
more than a frame has. -/
theorem frames_handled {w : W} {as : List (Arrival W)}
    (h : (receptions G).Along (OrderlyStep G) (.fresh w) as) :
    (receptions G).Always Truthful (.fresh w) as := by
  apply Lts.always_of_along (J := Waiting) (fun s hs => hs.1.truthful)
    ?_ (waiting_fresh w) h
  intro s a s' hs hc hstep
  exact waiting_step G hs hc hstep

-- ==== examples

def frameOf (text : String) : CStr :=
  let bytes := CStr.utf8 text
  [0, UInt8.ofNat (bytes.length + 3)] ++ bytes ++ [0]

/-- The objects with nothing but a `pid`, of one digit or ten, and one
array. -/
def fewTexts : Jansson where
  loads text :=
    if text = CStr.utf8 "\x7b\"pid\":4\x7d" then
      some (.object [("pid", .integer 4)])
    else if text = CStr.utf8 "\x7b\"pid\":4294967300\x7d" then
      some (.object [("pid", .integer 4294967300)])
    else if text = CStr.utf8 "[1]" then some (.array [.integer 1])
    else none
  overread _ _ := none

def joinable : GameServer Unit Unit where
  jansson := fewTexts
  receive _ type :=
    if type = 4 then some ⟨fun _ => some (), fun _ => none⟩ else none
  wideType _ := false
  unset := 0
  serverPacketInput w _ _ := (w, true)

set_option maxRecDepth 4000 in
/-- Two requests to join, the second one cut in two. -/
theorem joined_twice :
    (receptions joinable).Always Truthful (.fresh ())
      [.bytes (frameOf "\x7b\"pid\":4\x7d" ++ [0, 12]),
        .bytes (CStr.utf8 "\x7b\"pid\":4\x7d" ++ [0])] :=
  frames_handled joinable
    ⟨⟨.inl (by decide), trivial⟩, ⟨.inl (by decide), trivial⟩, trivial⟩

/-- A frame with an array keeps the request behind it waiting; a frame of
two bytes makes the parser look at all memory; a `pid` of 33 bits is taken
for another. -/
theorem frames_not_handled :
    ¬ (receptions joinable).Always Truthful (.fresh ())
        [.bytes (frameOf "[1]" ++ frameOf "\x7b\"pid\":4\x7d")] ∧
    ¬ (receptions joinable).Always Truthful (.fresh ())
        [.bytes [0, 2]] ∧
    ¬ (receptions joinable).Always Truthful (.fresh ())
        [.bytes (frameOf "\x7b\"pid\":4294967300\x7d")] := by
  refine ⟨?_, ?_, ?_⟩
  · intro h
    exact absurd (h.2.handed : ([] : List (Nat × Unit)) = [(4, ())]) nofun
  · intro h
    exact absurd (h.2.asked ⟨2, 2 ^ 64 - 1⟩ (by decide +kernel)) (by decide)
  · intro h
    exact absurd (h.2.handed : [(4, ())] = ([] : List (Nat × Unit))) nofun

end Freeciv3d.Server
