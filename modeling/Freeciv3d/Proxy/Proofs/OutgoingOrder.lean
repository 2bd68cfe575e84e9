/-
The messages to the civserver, each written once and in order, and none
dropped: in the runs in which the sends do not overlap.

# The account

While at most one send is under way, and it goes through the queue
itself, what is written and what lies before the send in the queue are
together the messages in order (`Accounted`). A message moves from the
one to the other; the send that ends leaves nothing before it, so the
new list drops nothing. Each part of the condition is one step that
would break this: a second send, a message queued behind the end of the
loop, an exception with messages left.
-/
import Mathlib.Data.List.Basic
import Freeciv3d.Proxy.OutgoingQueue

namespace Freeciv3d.Proxy

open Lib

namespace OutgoingQueue

variable {q q' : OutgoingQueue} {t : SenderThread} {run : SendRun} {p : Nat}

-- ==== the statement

/-- Written at most once, in the order of the queue. -/
def WritesInOrder (q : OutgoingQueue) : Prop := q.written.Pairwise (· < ·)

instance (q : OutgoingQueue) : Decidable q.WritesInOrder :=
  inferInstanceAs (Decidable (List.Pairwise _ _))

/-- The message is in the queue, or still before a send. -/
def Waits (q : OutgoingQueue) (message : Nat) : Prop :=
  message ∈ q.lists q.current
    ∨ ∃ t, ∃ run ∈ q.runs t, run.finishing = false
      ∧ message ∈ (q.lists run.list).drop run.position

instance (q : OutgoingQueue) (message : Nat) :
    Decidable (q.Waits message) :=
  inferInstanceAs (Decidable (_ ∨ ∃ t, ∃ run ∈ q.runs t, _ ∧ _))

/-- A message whose own send did not fail is written, or waits. -/
def DropsNothing (q : OutgoingQueue) : Prop :=
  ∀ message < q.queued,
    message ∈ q.written ∨ message ∈ q.failed ∨ q.Waits message

instance (q : OutgoingQueue) : Decidable q.DropsNothing :=
  inferInstanceAs (Decidable (∀ message < q.queued, _))

/-- No send begins beside another, nothing is queued behind a loop that
is over, and an exception leaves nothing unsent. -/
def SendsAlone (q : OutgoingQueue) : QueueAct → Prop
  | .queue => ∀ t, ∀ run ∈ q.runs t, run.finishing = false
  | .begin _ => q.socket = true → ∀ t, q.runs t = none
  | .iterate t succeeds => succeeds = false →
      ∀ run ∈ q.runs t, (q.lists run.list).length ≤ run.position + 1
  | .replace _ => True

instance (q : OutgoingQueue) (a : QueueAct) :
    Decidable (q.SendsAlone a) := by
  cases a <;> unfold SendsAlone <;> infer_instance

-- ==== the account

/-- What is written, and what is left from a position on. -/
structure Accounted (q : OutgoingQueue) (p : Nat) : Prop where
  bound : p ≤ (q.lists q.current).length
  sorted : (q.written ++ (q.lists q.current).drop p).Pairwise (· < ·)
  numbers : ∀ message ∈ q.written ++ (q.lists q.current).drop p,
    message < q.queued
  kept : ∀ message < q.queued, message ∈ q.written ∨ message ∈ q.failed
    ∨ message ∈ (q.lists q.current).drop p

/-- At most one send is under way, and it goes through the queue. -/
inductive Orderly (q : OutgoingQueue) : Prop
  | idle (hidle : ∀ t, q.runs t = none) (ha : q.Accounted 0)
  | sending (t : SenderThread) (run : SendRun) (ht : q.runs t = some run)
      (halone : ∀ u, u ≠ t → q.runs u = none)
      (hlist : run.list = q.current) (ha : q.Accounted run.position)
      (hend : run.finishing = true →
        run.position = (q.lists q.current).length)

theorem Accounted.congr (h : q.Accounted p)
    (hlists : q'.lists q'.current = q.lists q.current)
    (hwritten : q'.written = q.written) (hfailed : q'.failed = q.failed)
    (hqueued : q'.queued = q.queued) : q'.Accounted p := by
  obtain ⟨hbound, hsorted, hnumbers, hkept⟩ := h
  constructor
  · rw [hlists]
    exact hbound
  · rw [hlists, hwritten]
    exact hsorted
  · rw [hlists, hwritten, hqueued]
    exact hnumbers
  · rw [hlists, hwritten, hfailed, hqueued]
    exact hkept

theorem Accounted.queueToCivserver (h : q.Accounted p) :
    q.queueToCivserver.Accounted p := by
  have hlist : q.queueToCivserver.lists q.queueToCivserver.current
      = q.lists q.current ++ [q.queued] := Function.update_self ..
  have hdrop : (q.lists q.current ++ [q.queued]).drop p
      = (q.lists q.current).drop p ++ [q.queued] :=
    List.drop_append_of_le_length h.bound
  constructor
  · rw [hlist, List.length_append]
    exact Nat.le_add_right_of_le h.bound
  · rw [hlist, hdrop]
    show (q.written ++ (_ ++ [q.queued])).Pairwise (· < ·)
    rw [← List.append_assoc, List.pairwise_append]
    refine ⟨h.sorted, List.pairwise_singleton _ _, fun m hm n hn => ?_⟩
    cases List.mem_singleton.mp hn
    exact h.numbers m hm
  · rw [hlist, hdrop]
    show ∀ m ∈ q.written ++ (_ ++ [q.queued]), m < q.queued + 1
    rw [← List.append_assoc]
    intro m hm
    rcases List.mem_append.mp hm with hold | hnew
    · exact Nat.lt_succ_of_lt (h.numbers m hold)
    · cases List.mem_singleton.mp hnew
      exact Nat.lt_succ_self _
  · rw [hlist, hdrop]
    intro m hm
    rcases Nat.lt_succ_iff_lt_or_eq.mp hm with hold | rfl
    · rcases h.kept m hold with hw | hf | hl
      · exact .inl hw
      · exact .inr (.inl hf)
      · exact .inr (.inr (List.mem_append_left _ hl))
    · refine .inr (.inr (List.mem_append_right _ ?_))
      exact List.mem_singleton.mpr rfl

theorem Accounted.write {message : Nat} (h : q.Accounted p)
    (hmessage : (q.lists q.current)[p]? = some message)
    (hlists : q'.lists q'.current = q.lists q.current)
    (hwritten : q'.written = q.written ++ [message])
    (hfailed : q'.failed = q.failed) (hqueued : q'.queued = q.queued) :
    q'.Accounted (p + 1) := by
  have hlt : p < (q.lists q.current).length :=
    (List.getElem?_eq_some_iff.mp hmessage).1
  have hdrop : (q.lists q.current).drop p
      = message :: (q.lists q.current).drop (p + 1) := by
    rw [← List.getElem_cons_drop hlt,
      (List.getElem?_eq_some_iff.mp hmessage).2]
  have hsame : q'.written ++ (q'.lists q'.current).drop (p + 1)
      = q.written ++ (q.lists q.current).drop p := by
    rw [hwritten, hlists, hdrop, List.append_assoc, List.singleton_append]
  constructor
  · rw [hlists]
    exact hlt
  · rw [hsame]
    exact h.sorted
  · rw [hsame, hqueued]
    exact h.numbers
  · rw [hqueued]
    intro m hm
    rw [hfailed]
    have hmem : m ∈ q'.written ∨ m ∈ (q'.lists q'.current).drop (p + 1)
        ↔ m ∈ q.written ∨ m ∈ (q.lists q.current).drop p := by
      rw [← List.mem_append, ← List.mem_append, hsame]
    rcases h.kept m hm with hw | hf | hl
    · exact (hmem.mpr (.inl hw)).imp_right .inr
    · exact .inr (.inl hf)
    · exact (hmem.mpr (.inr hl)).imp_right .inr

theorem Accounted.fail {message : Nat} (h : q.Accounted p)
    (hmessage : (q.lists q.current)[p]? = some message)
    (hlast : (q.lists q.current).length ≤ p + 1)
    (hlists : q'.lists q'.current = q.lists q.current)
    (hwritten : q'.written = q.written)
    (hfailed : q'.failed = q.failed ++ [message])
    (hqueued : q'.queued = q.queued) : q'.Accounted (p + 1) := by
  have hlt : p < (q.lists q.current).length :=
    (List.getElem?_eq_some_iff.mp hmessage).1
  have hnone : (q'.lists q'.current).drop (p + 1) = [] := by
    rw [hlists]
    exact List.drop_eq_nil_of_le hlast
  have hdrop : (q.lists q.current).drop p = [message] := by
    rw [← List.getElem_cons_drop hlt, List.drop_eq_nil_of_le hlast,
      (List.getElem?_eq_some_iff.mp hmessage).2]
  constructor
  · rw [hlists]
    exact hlt
  · rw [hnone, hwritten, List.append_nil]
    exact h.sorted.sublist (List.sublist_append_left _ _)
  · rw [hnone, hwritten, hqueued, List.append_nil]
    exact fun m hm => h.numbers m (List.mem_append_left _ hm)
  · rw [hqueued, hwritten, hfailed]
    intro m hm
    rcases h.kept m hm with hw | hf | hl
    · exact .inl hw
    · exact .inr (.inl (List.mem_append_left _ hf))
    · rw [hdrop] at hl
      exact .inr (.inl (List.mem_append_right _ hl))

theorem Accounted.replace (h : q.Accounted p)
    (hend : p = (q.lists q.current).length) (t : SenderThread) :
    (q.replace t).Accounted 0 := by
  have hlist : (q.replace t).lists (q.replace t).current = [] :=
    Function.update_self ..
  have hnone : (q.lists q.current).drop p = [] :=
    List.drop_eq_nil_of_le (Nat.le_of_eq hend.symm)
  obtain ⟨-, hsorted, hnumbers, hkept⟩ := h
  rw [hnone] at hsorted hnumbers hkept
  constructor
  · exact Nat.zero_le _
  · rw [hlist]
    exact hsorted
  · rw [hlist]
    exact hnumbers
  · rw [hlist]
    exact hkept

-- ==== the steps

theorem runs_setRun_self (q : OutgoingQueue) (t : SenderThread)
    (run : Option SendRun) : (q.setRun t run).runs t = run :=
  Function.update_self ..

theorem runs_setRun_of_ne (q : OutgoingQueue) {t u : SenderThread}
    (run : Option SendRun) (h : u ≠ t) :
    (q.setRun t run).runs u = q.runs u :=
  Function.update_of_ne h ..

theorem Orderly.of_run (h : q.Orderly) (ht : q.runs t = some run) :
    (∀ u, u ≠ t → q.runs u = none) ∧ run.list = q.current
      ∧ q.Accounted run.position
      ∧ (run.finishing = true →
        run.position = (q.lists q.current).length) := by
  cases h with
  | idle hidle ha =>
    rw [hidle t] at ht
    cases ht
  | sending u run' hu halone hlist ha hend =>
    by_cases htu : t = u
    · subst htu
      rw [hu] at ht
      cases ht
      exact ⟨halone, hlist, ha, hend⟩
    · rw [halone t htu] at ht
      cases ht

theorem Orderly.queueToCivserver (h : q.Orderly)
    (hopen : ∀ t, ∀ run ∈ q.runs t, run.finishing = false) :
    q.queueToCivserver.Orderly := by
  cases h with
  | idle hidle ha => exact .idle hidle ha.queueToCivserver
  | sending t run ht halone hlist ha hend =>
    refine .sending t run ht halone hlist ha.queueToCivserver ?_
    rw [hopen t run ht]
    exact fun hfin => by cases hfin

theorem Orderly.beginSend (h : q.Orderly) (t : SenderThread)
    (halone : q.socket = true → ∀ u, q.runs u = none) :
    (q.beginSend t).Orderly := by
  unfold OutgoingQueue.beginSend
  split
  case isFalse => exact h
  case isTrue hsocket =>
    have hnone := halone hsocket
    cases h with
    | idle hidle ha =>
      refine .sending t ⟨q.current, 0, false⟩ (runs_setRun_self ..)
        (fun u hu => ?_) rfl (ha.congr rfl rfl rfl rfl)
        fun hfin => by cases hfin
      rw [runs_setRun_of_ne q _ hu]
      exact hidle u
    | sending u run hu =>
      rw [hnone u] at hu
      cases hu

theorem Orderly.iterate (h : q.Orderly) (ht : q.runs t = some run)
    (hopen : run.finishing = false) {succeeds : Bool}
    (hlast : succeeds = false →
      (q.lists run.list).length ≤ run.position + 1) :
    (q.iterate t run succeeds).Orderly := by
  obtain ⟨halone, hlist, ha, -⟩ := h.of_run ht
  have hothers : ∀ (q' : OutgoingQueue) (run' : SendRun),
      q'.runs = q.runs → ∀ u, u ≠ t → (q'.setRun t run').runs u = none := by
    intro q' run' hruns u hu
    rw [runs_setRun_of_ne q' _ hu, hruns]
    exact halone u hu
  obtain ⟨list, position, finishing⟩ := run
  simp only at hopen hlist ha hlast
  subst hopen hlist
  unfold OutgoingQueue.iterate
  split
  case h_1 hnone =>
    have hover : (q.lists q.current).length ≤ position :=
      List.getElem?_eq_none_iff.mp hnone
    exact .sending t ⟨q.current, position, true⟩ (runs_setRun_self ..)
      (hothers q _ rfl) rfl (ha.congr rfl rfl rfl rfl)
      fun _ => Nat.le_antisymm ha.bound hover
  case h_2 message hmessage =>
    split
    case isTrue =>
      exact .sending t ⟨q.current, position + 1, false⟩
        (runs_setRun_self ..) (hothers _ _ rfl) rfl
        (ha.write hmessage rfl rfl rfl rfl) fun hfin => by cases hfin
    case isFalse hfails =>
      have hlen := hlast ((Bool.not_eq_true _).mp hfails)
      have hbound : position + 1 ≤ (q.lists q.current).length :=
        (List.getElem?_eq_some_iff.mp hmessage).1
      exact .sending t ⟨q.current, position + 1, true⟩
        (runs_setRun_self ..) (hothers _ _ rfl) rfl
        (ha.fail hmessage hlen rfl rfl rfl rfl)
        fun _ => Nat.le_antisymm hbound hlen

theorem Orderly.replace (h : q.Orderly) (ht : q.runs t = some run)
    (hfin : run.finishing = true) : (q.replace t).Orderly := by
  obtain ⟨halone, -, ha, hend⟩ := h.of_run ht
  refine .idle (fun u => ?_) (ha.replace (hend hfin) t)
  by_cases hu : u = t
  · subst hu
    exact runs_setRun_self ..
  · exact (runs_setRun_of_ne _ _ hu).trans (halone u hu)

theorem Orderly.step {a : QueueAct} (h : q.Orderly) (hc : q.SendsAlone a)
    (hs : q.step a = some q') : q'.Orderly := by
  cases a with
  | queue =>
    obtain ⟨-, hsome⟩ := Option.ite_none_right_eq_some.mp hs
    cases hsome
    exact h.queueToCivserver hc
  | begin t =>
    obtain ⟨-, hsome⟩ := Option.ite_none_right_eq_some.mp hs
    cases hsome
    exact h.beginSend t hc
  | iterate t succeeds =>
    simp only [OutgoingQueue.step] at hs
    split at hs
    case h_1 run ht =>
      obtain ⟨hopen, hsome⟩ := Option.ite_none_left_eq_some.mp hs
      cases hsome
      exact h.iterate ht ((Bool.not_eq_true _).mp hopen)
        fun hfails => hc hfails run ht
    case h_2 => cases hs
  | replace t =>
    simp only [OutgoingQueue.step] at hs
    split at hs
    case h_1 run ht =>
      obtain ⟨hfin, hsome⟩ := Option.ite_none_right_eq_some.mp hs
      cases hsome
      exact h.replace ht hfin
    case h_2 => cases hs

theorem Accounted.init (socket : Bool) :
    (OutgoingQueue.init socket).Accounted 0 where
  bound := Nat.zero_le _
  sorted := .nil
  numbers _ hm := by cases hm
  kept m hm := absurd hm (Nat.not_lt_zero m)

-- ==== the readings

theorem Accounted.writesInOrder (h : q.Accounted p) : q.WritesInOrder :=
  h.sorted.sublist (List.sublist_append_left _ _)

theorem Orderly.writesInOrder (h : q.Orderly) : q.WritesInOrder := by
  cases h with
  | idle _ ha | sending _ _ _ _ _ ha => exact ha.writesInOrder

/-- What lies before the send is in the queue, whether it goes on or
not. -/
theorem Orderly.dropsNothing (h : q.Orderly) : q.DropsNothing := by
  have hqueue : ∀ {p}, q.Accounted p → q.DropsNothing := by
    intro p ha m hm
    rcases ha.kept m hm with hw | hf | hl
    · exact .inl hw
    · exact .inr (.inl hf)
    · exact .inr (.inr (.inl (List.mem_of_mem_drop hl)))
  cases h with
  | idle _ ha | sending _ _ _ _ _ ha => exact hqueue ha

/-- While the sends of the two threads do not overlap, nothing is queued
between the end of a loop and the new list, and only the last message
of a list fails, every message is written at most once and in order,
and none is dropped. -/
theorem outgoing_delivery (h : queueRuns.ReachVia SendsAlone q) :
    q.WritesInOrder ∧ q.DropsNothing := by
  have horderly : q.Orderly := by
    refine h.invariant (I := Orderly) (fun q₀ h0 => ?_)
      fun _ _ _ hI hc hs => hI.step hc hs
    obtain ⟨socket, rfl⟩ := h0
    exact .idle (fun _ => rfl) (Accounted.init socket)
  exact ⟨horderly.writesInOrder, horderly.dropsNothing⟩

-- ==== runs

def after (steps : List QueueAct) : OutgoingQueue :=
  (queueRuns.exec (.init true) steps).getD (.init true)

def overlapping : List QueueAct :=
  [.queue, .begin .civcom, .begin .eventLoop, .iterate .civcom true,
    .iterate .eventLoop true]

/-- A message comes after the last round and before the new list. -/
def queuedBehind : List QueueAct :=
  [.queue, .begin .civcom, .iterate .civcom true, .iterate .civcom true,
    .queue, .replace .civcom]

def failingFirst : List QueueAct :=
  [.queue, .queue, .begin .eventLoop, .iterate .eventLoop false,
    .replace .eventLoop]

theorem reach_after (steps : List QueueAct) :
    queueRuns.Reach (after steps) := by
  have hinit : queueRuns.init (.init true) := ⟨true, rfl⟩
  exact (Lts.Reach.init hinit).exec_getD steps

/-- Each of the three drops or repeats a message. -/
theorem outgoing_delivery_fails :
    (queueRuns.Reach (after overlapping)
        ∧ ¬ (after overlapping).WritesInOrder)
      ∧ (queueRuns.Reach (after queuedBehind)
        ∧ ¬ (after queuedBehind).DropsNothing)
      ∧ (queueRuns.Reach (after failingFirst)
        ∧ ¬ (after failingFirst).DropsNothing) :=
  ⟨⟨reach_after _, by decide⟩, ⟨reach_after _, by decide⟩,
    reach_after _, by decide⟩

/-- The second message is queued while the first is sent. -/
def queuedMeanwhile : List QueueAct :=
  [.queue, .begin .civcom, .queue, .iterate .civcom true,
    .iterate .civcom true, .iterate .civcom true, .replace .civcom]

theorem outgoing_delivery_meanwhile :
    (after queuedMeanwhile).WritesInOrder
      ∧ (after queuedMeanwhile).DropsNothing :=
  outgoing_delivery (Lts.ReachVia.exec (.init ⟨true, rfl⟩)
    (l := queuedMeanwhile) (by decide) rfl)

end OutgoingQueue

end Freeciv3d.Proxy
