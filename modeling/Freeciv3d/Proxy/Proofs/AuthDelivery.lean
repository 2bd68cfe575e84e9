/-
Delivery to the agent in order and complete: what has been received
and what is on the way add up to `auth_success` and every batch
produced, in order (`Line`).

# The line

Behind what the agent has received stand, in this order: `auth_success`
while it is not written, the part of the buffer not flushed yet, the
scheduled batches, and the batch in the thread's hand. Two steps break
the line, and `Undisturbed` excludes them: an append after the flush
loop has ended, whose batch nothing will ever send, and a callback that
passes an earlier timer.
-/
import Freeciv3d.Proxy.PacketDelivery

namespace Freeciv3d.Proxy

open Lib

namespace DeliveryWorld

def expected (w : DeliveryWorld) : List AgentMessage :=
  .authSuccess :: w.produced.map .batch

/-- Nothing is on the way any more. -/
def Idle (w : DeliveryWorld) : Prop :=
  w.loop = .done ∧ w.thread = .idle ∧ w.scheduled = []

instance (w : DeliveryWorld) : Decidable w.Idle :=
  inferInstanceAs (Decidable (_ ∧ _))

/-- On an open connection the agent receives `auth_success` first and
then every batch once, in order: what it has received is the first part
of that, and all of it when nothing is on the way. -/
def InOrder (w : DeliveryWorld) : Prop :=
  w.closed = false → w.received <+: w.expected
    ∧ (w.Idle → w.received = w.expected)

instance (w : DeliveryWorld) : Decidable w.InOrder :=
  inferInstanceAs (Decidable (_ → _))

-- ==== the line

/-- `auth_success`, until it is written. -/
def pendingAuth : FlushPc → List AgentMessage
  | .connecting => [.authSuccess]
  | _ => []

/-- The part of the buffer the flush will still send. -/
def unflushed (w : DeliveryWorld) : List String :=
  match w.loop with
  | .connecting => w.packetBuffer
  | .authenticated => w.packetBuffer
  | .disabled => w.packetBuffer
  | .flushing i => w.packetBuffer.drop i
  | _ => []

def inHand : SendPc → List String
  | .idle => []
  | .taken packet => [packet]
  | .buffering packet => [packet]
  | .sending packet => [packet]

def onTheWay (w : DeliveryWorld) : List AgentMessage :=
  pendingAuth w.loop
    ++ (w.unflushed ++ w.scheduled ++ inHand w.thread).map .batch

/-- The flush loop may still send what is appended now. -/
def Flushable : FlushPc → Prop
  | .connecting => True
  | .authenticated => True
  | .disabled => True
  | .flushing _ => True
  | _ => False

instance (pc : FlushPc) : Decidable (Flushable pc) :=
  match pc with
  | .connecting => isTrue trivial
  | .authenticated => isTrue trivial
  | .disabled => isTrue trivial
  | .flushing _ => isTrue trivial
  | .flushed => isFalse id
  | .returned => isFalse id
  | .done => isFalse id

/-- The invariant of the runs in which no step disturbs the line. -/
structure Line (w : DeliveryWorld) : Prop where
  adds_up : w.received ++ w.onTheWay = w.expected
  /-- The flag is up exactly until the event loop lowers it. -/
  flag : w.bufferEnabled = true
    ↔ w.loop = .connecting ∨ w.loop = .authenticated
  /-- Nothing is scheduled before the thread has read the flag as
  down. -/
  routed : w.bufferEnabled = true ∨ (∃ packet, w.thread = .buffering packet) →
    w.scheduled = [] ∧ ∀ packet, w.thread ≠ .sending packet
  place : ∀ i, w.loop = .flushing i → i ≤ w.packetBuffer.length

/-- The batch is appended where the flush will find it; a callback runs
with no timer of an earlier batch outstanding. -/
def Undisturbed (w : DeliveryWorld) : DeliveryAct → Prop
  | .append => Flushable w.loop
  | .runCallback => ∀ packet ∈ w.scheduled.head?, delayed packet = false
  | _ => True

instance (w : DeliveryWorld) (a : DeliveryAct) :
    Decidable (w.Undisturbed a) :=
  match a with
  | .append => inferInstanceAs (Decidable (Flushable w.loop))
  | .runCallback =>
    inferInstanceAs (Decidable (∀ packet ∈ w.scheduled.head?, _))
  | .produce _ => isTrue trivial
  | .readFlag => isTrue trivial
  | .schedule => isTrue trivial
  | .writeAuthSuccess => isTrue trivial
  | .disableBuffering => isTrue trivial
  | .checkBuffer => isTrue trivial
  | .flushNext => isTrue trivial
  | .clearFlushed => isTrue trivial
  | .clearBuffer => isTrue trivial
  | .runTimer => isTrue trivial

theorem line_init : Line init := by
  refine ⟨rfl, by simp [init], ?_, ?_⟩
  · intro _
    exact ⟨rfl, fun packet h => by cases h⟩
  · intro i h
    cases h

theorem Line.inOrder {w : DeliveryWorld} (h : w.Line) : w.InOrder := by
  intro _
  refine ⟨⟨w.onTheWay, h.adds_up⟩, ?_⟩
  intro hidle
  rcases hidle with ⟨hloop, hthread, hsched⟩
  have hnil : w.onTheWay = [] := by
    simp [onTheWay, unflushed, hloop, hthread, hsched, pendingAuth, inHand]
  rw [← h.adds_up, hnil, List.append_nil]

-- ==== the thread

variable {w w' : DeliveryWorld}

theorem Line.produce (h : w.Line) {packets : List String}
    (hstep : w.apply (.produce packets) = some w') : w'.Line := by
  simp only [apply] at hstep
  split at hstep
  case isFalse => cases hstep
  case isTrue hidle =>
    split at hstep
    · cases hstep
      exact h
    next packet _ =>
      cases hstep
      refine ⟨?_, h.flag, ?_, h.place⟩
      · have hadd := h.adds_up
        simp only [onTheWay, hidle, inHand, List.append_nil] at hadd
        have hexp : .authSuccess :: (w.produced ++ [packet]).map .batch
            = w.expected ++ [AgentMessage.batch packet] := by
          simp [expected]
        show w.received ++ (pendingAuth w.loop
            ++ (w.unflushed ++ w.scheduled ++ [packet]).map _)
          = .authSuccess :: (w.produced ++ [packet]).map _
        rw [hexp, ← hadd]
        simp only [List.map_append, List.map_cons, List.map_nil,
          List.append_assoc]
      · intro hor
        rcases hor with hflag | ⟨p, hp⟩
        · exact ⟨(h.routed (.inl hflag)).1, fun p hp => by cases hp⟩
        · cases hp

theorem Line.readFlag (h : w.Line)
    (hstep : w.apply .readFlag = some w') : w'.Line := by
  simp only [apply] at hstep
  split at hstep
  next packet hthread =>
    cases hstep
    refine ⟨?_, h.flag, ?_, h.place⟩
    · have hadd := h.adds_up
      simp only [onTheWay, hthread, inHand] at hadd
      rw [show w.expected = _ from rfl] at hadd
      show w.received ++ (pendingAuth w.loop
          ++ (w.unflushed ++ w.scheduled ++ inHand _).map _) = _
      cases w.bufferEnabled <;> exact hadd
    · intro hor
      cases hflag : w.bufferEnabled with
      | true =>
        refine ⟨(h.routed (.inl hflag)).1, ?_⟩
        intro p hp
        simp at hp
      | false =>
        rcases hor with hup | ⟨p, hp⟩
        · rw [show w.bufferEnabled = true from hup] at hflag
          cases hflag
        · simp [hflag] at hp
  next => cases hstep

/-- A batch appended before the flush loop ends takes its place behind
the buffer. -/
theorem Line.append (h : w.Line) (hc : Flushable w.loop)
    (hstep : w.apply .append = some w') : w'.Line ∨ w'.closed = true := by
  simp only [apply] at hstep
  split at hstep
  next packet hthread =>
    cases hstep
    unfold appendPacket
    split
    · exact .inr rfl
    · left
      have hnil := (h.routed (.inr ⟨packet, hthread⟩)).1
      refine ⟨?_, h.flag, ?_, ?_⟩
      · have hadd := h.adds_up
        simp only [onTheWay, hthread, inHand, hnil, List.append_nil] at hadd
        have hbuf : ({ w with packetBuffer := w.packetBuffer ++ [packet]
                              thread := .idle } : DeliveryWorld).unflushed
            = w.unflushed ++ [packet] := by
          cases hloop : w.loop with
          | connecting | authenticated | disabled => simp [unflushed, hloop]
          | flushing i =>
            simp only [unflushed, hloop]
            rw [List.drop_append_of_le_length (h.place i hloop)]
          | flushed | returned | done => simp [Flushable, hloop] at hc
        show w.received ++ (pendingAuth w.loop ++ (_ ++ w.scheduled
          ++ inHand .idle).map _) = w.expected
        rw [hbuf, hnil]
        simpa [inHand] using hadd
      · intro hor
        rcases hor with hflag | ⟨p, hp⟩
        · exact ⟨hnil, fun p hp => by cases hp⟩
        · cases hp
      · intro i hi
        have := h.place i hi
        show i ≤ (w.packetBuffer ++ [packet]).length
        rw [List.length_append]
        omega
  next => cases hstep

theorem Line.schedule (h : w.Line)
    (hstep : w.apply .schedule = some w') : w'.Line := by
  simp only [apply] at hstep
  split at hstep
  next packet hthread =>
    cases hstep
    refine ⟨?_, h.flag, ?_, h.place⟩
    · have hadd := h.adds_up
      simp only [onTheWay, hthread, inHand] at hadd
      show w.received ++ (pendingAuth w.loop
          ++ (w.unflushed ++ (w.scheduled ++ [packet]) ++ []).map _)
        = w.expected
      rw [List.append_nil, ← List.append_assoc w.unflushed]
      exact hadd
    · intro hor
      rcases hor with hflag | ⟨p, hp⟩
      · exact absurd hthread ((h.routed (.inl hflag)).2 packet)
      · cases hp
  next => cases hstep

-- ==== the event loop

theorem Line.writeAuthSuccess (h : w.Line)
    (hstep : w.apply .writeAuthSuccess = some w') : w'.Line := by
  simp only [apply] at hstep
  split at hstep
  case isFalse => cases hstep
  case isTrue hloop =>
    cases hstep
    have hflag := h.flag.mpr (.inl hloop)
    refine ⟨?_, ?_, h.routed, ?_⟩
    · have hadd := h.adds_up
      simp only [onTheWay, unflushed, hloop, pendingAuth] at hadd
      show w.received ++ [.authSuccess] ++ ([] ++ (w.packetBuffer
        ++ w.scheduled ++ inHand w.thread).map _) = w.expected
      rw [List.append_assoc]
      exact hadd
    · simp [hflag]
    · intro i hi
      cases hi

theorem Line.disableBuffering (h : w.Line)
    (hstep : w.apply .disableBuffering = some w') : w'.Line := by
  simp only [apply] at hstep
  split at hstep
  case isFalse => cases hstep
  case isTrue hloop =>
    cases hstep
    refine ⟨?_, by simp, ?_, ?_⟩
    · have hadd := h.adds_up
      simp only [onTheWay, unflushed, hloop, pendingAuth] at hadd
      exact hadd
    · intro hor
      rcases hor with hflag | hbuf
      · cases hflag
      · exact h.routed (.inr hbuf)
    · intro i hi
      cases hi

theorem Line.checkBuffer (h : w.Line)
    (hstep : w.apply .checkBuffer = some w') : w'.Line := by
  simp only [apply] at hstep
  split at hstep
  case isFalse => cases hstep
  case isTrue hloop =>
    cases hstep
    have hflag : ¬ w.bufferEnabled = true := by
      rw [h.flag, hloop]
      simp
    have hadd := h.adds_up
    simp only [onTheWay, unflushed, hloop, pendingAuth] at hadd
    cases hbuf : w.packetBuffer with
    | nil =>
      rw [hbuf] at hadd
      refine ⟨?_, ?_, h.routed, ?_⟩
      · exact hadd
      · simp only [List.isEmpty_nil, if_true]
        exact ⟨fun hup => absurd hup hflag, by simp⟩
      · intro i hi
        cases hi
    | cons packet rest =>
      rw [hbuf] at hadd
      refine ⟨?_, ?_, h.routed, ?_⟩
      · show w.received ++ ([] ++ ((packet :: rest) ++ w.scheduled
          ++ inHand w.thread).map _) = w.expected
        exact hadd
      · simp only [List.isEmpty_cons, Bool.false_eq_true, if_false]
        exact ⟨fun hup => absurd hup hflag, by simp⟩
      · intro i hi
        cases hi
        exact Nat.zero_le _

theorem Line.flushNext (h : w.Line)
    (hstep : w.apply .flushNext = some w') : w'.Line := by
  simp only [apply] at hstep
  split at hstep
  case h_2 => cases hstep
  case h_1 i hloop =>
    have hflag : ¬ w.bufferEnabled = true := by
      rw [h.flag, hloop]
      simp
    have hadd := h.adds_up
    simp only [onTheWay, unflushed, hloop, pendingAuth] at hadd
    split at hstep
    next packet hpacket =>
      cases hstep
      obtain ⟨hi, hget⟩ := List.getElem?_eq_some_iff.mp hpacket
      refine ⟨?_, ?_, h.routed, ?_⟩
      · rw [List.drop_eq_getElem_cons hi, hget] at hadd
        show w.received ++ [AgentMessage.batch packet] ++ ([] ++ (w.packetBuffer.drop
          (i + 1) ++ w.scheduled ++ inHand w.thread).map _) = w.expected
        rw [List.append_assoc]
        exact hadd
      · exact ⟨fun hup => absurd hup hflag, by simp⟩
      · intro j hj
        cases hj
        exact hi
    next hnone =>
      cases hstep
      refine ⟨?_, ?_, h.routed, ?_⟩
      · rw [List.drop_eq_nil_of_le (List.getElem?_eq_none_iff.mp hnone)]
          at hadd
        exact hadd
      · exact ⟨fun hup => absurd hup hflag, by simp⟩
      · intro j hj
        cases hj

theorem Line.cleared (h : w.Line) {pc : FlushPc}
    (hpc : pc = .returned ∨ pc = .done)
    (hloop : w.loop = .flushed ∨ w.loop = .returned) :
    { w with loop := pc, packetBuffer := [] }.Line := by
  have hflag : ¬ w.bufferEnabled = true := by
    rw [h.flag]
    rcases hloop with hloop | hloop <;> simp [hloop]
  have hadd := h.adds_up
  refine ⟨?_, ?_, h.routed, ?_⟩
  · rcases hloop with hloop | hloop <;> rcases hpc with rfl | rfl <;>
      · simp only [onTheWay, unflushed, hloop, pendingAuth] at hadd
        exact hadd
  · refine ⟨fun hup => absurd hup hflag, ?_⟩
    rcases hpc with rfl | rfl <;> simp
  · intro i hi
    rcases hpc with rfl | rfl <;> cases hi

theorem Line.done_of_scheduled (h : w.Line) (hfree : w.loopFree = true)
    (hsched : w.scheduled ≠ []) : w.loop = .done := by
  simp only [loopFree, Bool.or_eq_true, beq_iff_eq] at hfree
  rcases hfree with hconn | hdone
  · exact absurd (h.routed (.inl (h.flag.mpr (.inl hconn)))).1 hsched
  · exact hdone

theorem Line.deliver (h : w.Line) (hfree : w.loopFree = true)
    {packet : String} {rest : List String}
    (hsched : w.scheduled = packet :: rest) :
    { w with scheduled := rest
             received := w.received ++ [AgentMessage.batch packet] }.Line := by
  have hne : w.scheduled ≠ [] := by simp [hsched]
  have hloop := h.done_of_scheduled hfree hne
  refine ⟨?_, h.flag, ?_, h.place⟩
  · have hadd := h.adds_up
    simp only [onTheWay, unflushed, hloop, pendingAuth, hsched] at hadd
    show w.received ++ [AgentMessage.batch packet] ++ (pendingAuth w.loop
      ++ (w.unflushed ++ rest ++ inHand w.thread).map _) = w.expected
    simp only [unflushed, hloop, pendingAuth]
    rw [List.append_assoc]
    exact hadd
  · intro hor
    exact absurd (h.routed hor).1 hne

theorem Line.step (h : w.Line) {a : DeliveryAct} (hc : w.Undisturbed a)
    (hstep : w.apply a = some w') : w'.Line ∨ w'.closed = true := by
  cases a with
  | produce packets => exact .inl (h.produce hstep)
  | readFlag => exact .inl (h.readFlag hstep)
  | append => exact h.append hc hstep
  | schedule => exact .inl (h.schedule hstep)
  | writeAuthSuccess => exact .inl (h.writeAuthSuccess hstep)
  | disableBuffering => exact .inl (h.disableBuffering hstep)
  | checkBuffer => exact .inl (h.checkBuffer hstep)
  | flushNext => exact .inl (h.flushNext hstep)
  | clearFlushed =>
    simp only [apply] at hstep
    split at hstep
    case isFalse => cases hstep
    case isTrue hloop =>
      cases hstep
      exact .inl (h.cleared (.inl rfl) (.inl hloop))
  | clearBuffer =>
    simp only [apply] at hstep
    split at hstep
    case isFalse => cases hstep
    case isTrue hloop =>
      cases hstep
      exact .inl (h.cleared (.inr rfl) (.inr hloop))
  | runCallback =>
    simp only [apply] at hstep
    split at hstep
    case isFalse => cases hstep
    case isTrue hfree =>
      cases hsched : w.scheduled with
      | nil =>
        rw [hsched] at hstep
        cases hstep
      | cons packet rest =>
        -- no timer is outstanding, so the callback is the first
        have hnow : delayed packet = false :=
          hc packet (by simp [hsched])
        rw [hsched] at hstep
        simp only [List.find?_cons, hnow, Bool.not_false,
          List.erase_cons_head] at hstep
        cases hstep
        exact .inl (h.deliver hfree hsched)
  | runTimer =>
    simp only [apply] at hstep
    split at hstep
    case isFalse => cases hstep
    case isTrue hfree =>
      split at hstep
      next packet rest hsched =>
        split at hstep
        · cases hstep
          exact .inl (h.deliver hfree hsched)
        · cases hstep
      next => cases hstep

theorem closed_step {a : DeliveryAct} (h : w.closed = true)
    (hstep : w.apply a = some w') : w'.closed = true := by
  unfold apply at hstep
  repeat' split at hstep
  all_goals cases hstep
  all_goals first
    | exact h
    | (unfold appendPacket
       split
       · rfl
       · exact h)

end DeliveryWorld

-- ==== the main result

/-- In every run whose steps are undisturbed, the agent receives
`auth_success` and then every batch exactly once and in order, for as
long as the connection stays open. -/
theorem delivered_in_order {w : DeliveryWorld}
    (h : deliveryRuns.ReachVia DeliveryWorld.Undisturbed w) :
    w.InOrder := by
  have hinv : w.Line ∨ w.closed = true := by
    refine h.invariant (I := fun w => w.Line ∨ w.closed = true) ?_ ?_
    · intro w hw
      rw [show w = .init from hw]
      exact .inl DeliveryWorld.line_init
    · intro w a w' hi hc hstep
      rcases hi with hline | hclosed
      · exact hline.step hc hstep
      · exact .inr (DeliveryWorld.closed_step hclosed hstep)
  rcases hinv with hline | hclosed
  · exact hline.inOrder
  · intro hopen
    rw [hclosed] at hopen
    cases hopen

/-- A batch is buffered during authentication, another one comes after
it. -/
def oneOfEach : List DeliveryAct :=
  [.produce ["a"], .readFlag, .append, .writeAuthSuccess, .produce ["b"],
    .disableBuffering, .checkBuffer, .flushNext, .readFlag, .flushNext,
    .clearFlushed, .schedule, .clearBuffer, .runCallback]

theorem delivered_in_order_oneOfEach :
    ∃ w, deliveryRuns.exec .init oneOfEach = some w ∧ w.InOrder := by
  obtain ⟨w, hw⟩ := Option.isSome_iff_exists.mp
    (show (deliveryRuns.exec .init oneOfEach).isSome = true by decide)
  exact ⟨w, hw, delivered_in_order
    (Lts.ReachVia.exec (.init rfl) (by decide) hw)⟩

/-- The thread reads the flag before the event loop lowers it, and
appends after the flush. -/
def appendsLate : List DeliveryAct :=
  [.writeAuthSuccess, .produce ["a"], .readFlag, .disableBuffering,
    .checkBuffer, .clearBuffer, .append]

/-- The batch is never delivered. -/
theorem batch_lost :
    ¬ deliveryRuns.Always DeliveryWorld.InOrder .init appendsLate := by
  decide

end Freeciv3d.Proxy
