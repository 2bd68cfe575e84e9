/-
Each failed attempt of an observer leads to one retry, as long as no
event of an attempt that is over finds the way free.

# One attempt at a time

While nothing stale acts, at most the last attempt is not over. Either
it may still get to the game, no reconnect is due and its socket is `ws`
(`Orderly.alive`); or it has failed, one reconnect is due and no socket
is left (`Orderly.waiting`). An event of the last attempt goes from the
first to the second, and the reconnect timer begins the next one.

# What is stale

A socket that `network_stop` has given up still reports its close, and
no timeout is ever cancelled. Both make the same check: is the client not
running, is a retry left, is none in progress (`CanRetry`). The reset
after a timeout leaves this check open until the reconnect timer and
beyond. So the condition is on the check: when it holds for an event,
this is the first failure of the last attempt (`Undisturbed`).
-/
import Freeciv3d.Lib.Tasks
import Freeciv3d.Web.ObserverRetry

namespace Freeciv3d.Web

open Lib

-- ==== the statement

/-- One increment and one reconnect for a failure, none if no retry was
left. -/
def Attempt.Exact (a : Attempt) : Prop :=
  a.increments = a.reconnects
    ∧ a.increments = if a.failed = true ∧ a.exhausted = false then 1 else 0

namespace ObserverClient

/-- Failures are counted once, no attempt is reset by an older one's
event, and none begins with what an earlier one received. -/
structure RetriesExact (c : ObserverClient) : Prop where
  exact : ∀ a ∈ c.attempts, a.Exact
  undisturbed : c.disturbed = false
  clean : ∀ a ∈ c.attempts, a.inherited = []

/-- The attempt is the last one and has not failed. -/
def IsCurrent (c : ObserverClient) (k : Nat) : Prop :=
  k + 1 = c.attempts.length
    ∧ c.attempts[k]?.any (fun a => !a.failed) = true

instance (c : ObserverClient) (k : Nat) : Decidable (c.IsCurrent k) :=
  inferInstanceAs (Decidable (_ ∧ _))

/-- An event that finds the check open is the first failure of the last
attempt, and comes before anything was received. -/
def Timely (c : ObserverClient) (k : Nat) : Prop :=
  c.CanRetry → c.IsCurrent k ∧ c.entities = []

instance (c : ObserverClient) (k : Nat) : Decidable (c.Timely k) :=
  inferInstanceAs (Decidable (_ → _))

/-- No event of an attempt that is over finds the check open. -/
def Undisturbed (c : ObserverClient) : RetryAct → Prop
  | .closed k => c.Timely k
  | .timeout i => ∀ k ∈ c.timeouts[i]?, c.Timely k
  | _ => True

instance : DecidableRel Undisturbed
  | c, .closed k => inferInstanceAs (Decidable (c.Timely k))
  | _, .timeout _ => inferInstanceAs (Decidable (∀ _ ∈ _, _))
  | _, .launched _ | _, .receive _ _ | _, .remove _ | _, .enterRunning _
  | _, .leaveRunning _ | _, .armTimeout _ | _, .reconnect =>
    instDecidableTrue

-- ==== the invariant

/-- An attempt that was given up. -/
structure Over (a : Attempt) : Prop where
  socket : a.socket = .closing ∨ a.socket = .closed
  failed : a.failed = true
  exhausted : a.exhausted = false

/-- The run invariant. -/
structure Orderly (c : ObserverClient) : Prop where
  exact : ∀ (k : Nat) (a : Attempt), c.attempts[k]? = some a →
    a.Exact ∧ a.inherited = []
  undisturbed : c.disturbed = false
  begun : 0 < c.attempts.length
  older : ∀ (k : Nat) (a : Attempt), c.attempts[k]? = some a →
    k + 1 < c.attempts.length → Over a
  armed : ∀ k ∈ c.timeouts, ∃ a, c.attempts[k]? = some a
    ∧ a.socket ≠ .requested
  ws_last : ∀ k, c.ws = some k → k + 1 = c.attempts.length
  open_ws : ∀ (k : Nat) (a : Attempt), c.attempts[k]? = some a →
    a.socket = .open → c.ws = some k
  alive : ∀ (k : Nat) (a : Attempt), c.attempts[k]? = some a →
    k + 1 = c.attempts.length → a.failed = false ∨ a.exhausted = true →
      c.networkInitCalled = true ∧ c.reconnects = 0
        ∧ c.observerRetryInProgress = false
  waiting : ∀ (k : Nat) (a : Attempt), c.attempts[k]? = some a →
    k + 1 = c.attempts.length → a.failed = true → a.exhausted = false →
      Over a ∧ c.networkInitCalled = false ∧ c.reconnects = 1
        ∧ c.ws = none ∧ c.entities = []

variable {c c' : ObserverClient} {k : Nat} {a : Attempt}

theorem Orderly.retriesExact (h : c.Orderly) : c.RetriesExact where
  exact a ha := by
    obtain ⟨k, hk⟩ := List.mem_iff_getElem?.mp ha
    exact (h.exact k a hk).1
  undisturbed := h.undisturbed
  clean a ha := by
    obtain ⟨k, hk⟩ := List.mem_iff_getElem?.mp ha
    exact (h.exact k a hk).2

theorem lt_of_attempt (hk : c.attempts[k]? = some a) :
    k < c.attempts.length := (List.getElem?_eq_some_iff.mp hk).1

theorem Orderly.last_of_socket (h : c.Orderly)
    (hk : c.attempts[k]? = some a)
    (hs : a.socket = .requested ∨ a.socket = .open) :
    k + 1 = c.attempts.length ∧ (a.failed = false ∨ a.exhausted = true) := by
  have hnot : ¬ Over a := by
    intro hover
    rcases hover.socket with hclosed | hclosed <;> rcases hs with hs | hs <;>
      rw [hs] at hclosed <;> cases hclosed
  have hlt := lt_of_attempt hk
  have hlast : k + 1 = c.attempts.length := by
    by_contra hne
    exact hnot (h.older k a hk (by omega))
  refine ⟨hlast, ?_⟩
  cases hf : a.failed with
  | false => exact Or.inl rfl
  | true =>
    cases he : a.exhausted with
    | true => exact Or.inr rfl
    | false => exact absurd (h.waiting k a hk hlast hf he).1 hnot

-- ==== modifying

theorem attempt_modify {f : Attempt → Attempt} {j : Nat} {b : Attempt}
    (hj : (c.modify k f).attempts[j]? = some b) :
    (j = k ∧ ∃ a, c.attempts[k]? = some a ∧ b = f a)
      ∨ (j ≠ k ∧ c.attempts[j]? = some b) := by
  unfold modify at hj
  rw [List.getElem?_modify] at hj
  by_cases hjk : k = j
  · subst hjk
    obtain ⟨a, ha, hb⟩ := Option.map_eq_some_iff.mp hj
    exact Or.inl ⟨rfl, a, ha, by simpa using hb.symm⟩
  · refine Or.inr ⟨fun h => hjk h.symm, ?_⟩
    obtain ⟨b', hb', hbb⟩ := Option.map_eq_some_iff.mp hj
    rw [if_neg hjk] at hbb
    exact hbb ▸ hb'

@[simp] theorem length_modify (f : Attempt → Attempt) :
    (c.modify k f).attempts.length = c.attempts.length := by
  unfold modify
  exact List.length_modify _ _ _

/-- A close event, whatever it leads to, closes the socket. -/
theorem Orderly.closed (h : c.Orderly) (k : Nat) :
    (c.modify k .closed).Orderly where
  exact j b hj := by
    rcases attempt_modify hj with ⟨rfl, a, ha, rfl⟩ | ⟨-, hj⟩
    · exact h.exact j a ha
    · exact h.exact j b hj
  undisturbed := h.undisturbed
  begun := by
    rw [length_modify]
    exact h.begun
  older j b hj hlt := by
    rw [length_modify] at hlt
    rcases attempt_modify hj with ⟨rfl, a, ha, rfl⟩ | ⟨-, hj⟩
    · have hover := h.older j a ha hlt
      exact ⟨Or.inr rfl, hover.failed, hover.exhausted⟩
    · exact h.older j b hj hlt
  armed j hj := by
    obtain ⟨a, ha, hs⟩ := h.armed j hj
    unfold modify
    rw [List.getElem?_modify, ha]
    by_cases hkj : k = j
    · exact ⟨a.closed, by simp [hkj], SocketState.noConfusion⟩
    · exact ⟨a, by simp [hkj], hs⟩
  ws_last j hj := by
    rw [length_modify]
    exact h.ws_last j hj
  open_ws j b hj hs := by
    rcases attempt_modify hj with ⟨rfl, a, ha, rfl⟩ | ⟨-, hj⟩
    · cases hs
    · exact h.open_ws j b hj hs
  alive j b hj hlast hb := by
    rw [length_modify] at hlast
    rcases attempt_modify hj with ⟨rfl, a, ha, rfl⟩ | ⟨-, hj⟩
    · exact h.alive j a ha hlast hb
    · exact h.alive j b hj hlast hb
  waiting j b hj hlast hfailed hexhausted := by
    rw [length_modify] at hlast
    rcases attempt_modify hj with ⟨rfl, a, ha, rfl⟩ | ⟨-, hj⟩
    · obtain ⟨-, hrest⟩ := h.waiting j a ha hlast hfailed hexhausted
      exact ⟨⟨Or.inr rfl, hfailed, hexhausted⟩, hrest⟩
    · exact h.waiting j b hj hlast hfailed hexhausted

/-- A change of the last attempt, which may still get to the game, to
one that may, too. -/
theorem Orderly.last (h : c.Orderly) (hk : c.attempts[k]? = some a)
    (hlast : k + 1 = c.attempts.length)
    (hgo : a.failed = false ∨ a.exhausted = true)
    {f : Attempt → Attempt}
    (hfgo : (f a).failed = false ∨ (f a).exhausted = true)
    (hexact : (f a).Exact) (hclean : (f a).inherited = [])
    (hsocket : (f a).socket = a.socket) :
    (c.modify k f).Orderly where
  exact j b hj := by
    rcases attempt_modify hj with ⟨rfl, a', ha', rfl⟩ | ⟨-, hj⟩
    · rw [hk] at ha'
      cases ha'
      exact ⟨hexact, hclean⟩
    · exact h.exact j b hj
  undisturbed := h.undisturbed
  begun := by
    rw [length_modify]
    exact h.begun
  older j b hj hlt := by
    rw [length_modify] at hlt
    rcases attempt_modify hj with ⟨rfl, a', ha', rfl⟩ | ⟨-, hj⟩
    · omega
    · exact h.older j b hj hlt
  armed j hj := by
    obtain ⟨b, hb, hs⟩ := h.armed j hj
    unfold modify
    rw [List.getElem?_modify, hb]
    by_cases hkj : k = j
    · subst hkj
      rw [hk] at hb
      cases hb
      exact ⟨f a, by simp, hsocket ▸ hs⟩
    · exact ⟨b, by simp [hkj], hs⟩
  ws_last j hj := by
    rw [length_modify]
    exact h.ws_last j hj
  open_ws j b hj hs := by
    rcases attempt_modify hj with ⟨rfl, a', ha', rfl⟩ | ⟨-, hj⟩
    · rw [hk] at ha'
      cases ha'
      exact h.open_ws j a hk (hsocket ▸ hs)
    · exact h.open_ws j b hj hs
  alive j b hj hlast' hb := by
    exact h.alive k a hk hlast hgo
  waiting j b hj hlast' hfailed hexhausted := by
    rw [length_modify] at hlast'
    rcases attempt_modify hj with ⟨rfl, a', ha', rfl⟩ | ⟨hne, -⟩
    · rw [hk] at ha'
      cases ha'
      rcases hfgo with hfgo | hfgo
      · rw [hfgo] at hfailed
        cases hfailed
      · rw [hfgo] at hexhausted
        cases hexhausted
    · omega

-- ==== events

theorem Orderly.noteFailure (h : c.Orderly) (hk : c.attempts[k]? = some a)
    (hcheck : ¬ c.CanRetry) : (c.noteFailure k).Orderly := by
  unfold ObserverClient.noteFailure
  split
  · exact h
  next hrun =>
    have hrun' : c.running = false := by simpa using hrun
    cases hfailed : a.failed with
    | true =>
      -- it has failed before, and stays as it is
      have hsame : c.modify k
          (.fail (decide (observerMaxRetries ≤ c.observerRetryCount)))
            = c := by
        unfold modify
        have hmod : c.attempts.modify k (.fail (decide
            (observerMaxRetries ≤ c.observerRetryCount))) = c.attempts := by
          refine List.ext_getElem? fun j => ?_
          rw [List.getElem?_modify]
          by_cases hkj : k = j
          · subst hkj
            rw [hk]
            simp [Attempt.fail, hfailed]
          · simp [hkj]
        rw [hmod]
      rw [hsame]
      exact h
    | false =>
      obtain ⟨hexact, hclean⟩ := h.exact k a hk
      have hlast : k + 1 = c.attempts.length := by
        by_contra hne
        have hover := h.older k a hk (by have := lt_of_attempt hk; omega)
        rw [hover.failed] at hfailed
        cases hfailed
      -- the check fails for want of a retry
      have hmax : observerMaxRetries ≤ c.observerRetryCount := by
        have hprogress := (h.alive k a hk hlast (Or.inl hfailed)).2.2
        by_contra hlt
        exact hcheck ⟨hrun', by omega, hprogress⟩
      have hfail :
          a.fail (decide (observerMaxRetries ≤ c.observerRetryCount))
            = { a with failed := true, exhausted := true } := by
        simp [Attempt.fail, hfailed, hmax]
      have hzero : a.increments = 0 := by
        have hcount := hexact.2
        rw [hfailed] at hcount
        simpa using hcount
      refine h.last hk hlast (Or.inl hfailed) ?_ ?_ ?_ ?_
      · rw [hfail]
        exact Or.inr rfl
      · rw [hfail]
        refine ⟨hexact.1, ?_⟩
        simpa using hzero
      · rw [hfail]
        exact hclean
      · rw [hfail]

def givenUp (c : ObserverClient) (a : Attempt) : Attempt :=
  if c.ws = none then (a.fail false).retried else (a.fail false).retried.close

structure Retried (c : ObserverClient) (k : Nat) (inProgress : Bool)
    (c' : ObserverClient) : Prop where
  attempts : c'.attempts = c.attempts.modify k c.givenUp
  timeouts : c'.timeouts = c.timeouts
  entities : c'.entities = c.entities
  ws : c'.ws = none
  networkInitCalled : c'.networkInitCalled = false
  reconnects : c'.reconnects = c.reconnects + 1
  disturbed : c'.disturbed
    = (c.disturbed || decide (k + 1 ≠ c.attempts.length))

theorem retried_retry (hcheck : c.CanRetry)
    (hws : ∀ j, c.ws = some j → j = k) (inProgress : Bool) :
    Retried c k inProgress ((c.noteFailure k).retry k inProgress) := by
  obtain ⟨hrun, hcount, -⟩ := hcheck
  have hnote : c.noteFailure k = c.modify k (.fail false) := by
    unfold ObserverClient.noteFailure
    rw [if_neg (by rw [hrun]; exact Bool.false_ne_true),
      decide_eq_false (by omega)]
  rw [hnote]
  unfold ObserverClient.retry resetObserverStateForRetry networkStop
  cases hw : c.ws with
  | none =>
    have hgiven : c.givenUp = Attempt.retried ∘ Attempt.fail false := by
      funext a
      exact if_pos hw
    refine ⟨?_, ?_, ?_, ?_, rfl, ?_, ?_⟩
    · rw [hgiven]
      simp [modify, hw, List.modify_modify_eq]
    · simp [modify, hw]
    · simp [modify, hw]
    · simp [modify, hw]
    · simp [modify]
    · simp [modify, hw]
  | some j =>
    have hj := hws j hw
    subst hj
    have hgiven : c.givenUp
        = Attempt.close ∘ Attempt.retried ∘ Attempt.fail false := by
      funext a
      exact if_neg (by rw [hw]; exact Option.some_ne_none j)
    refine ⟨?_, ?_, ?_, ?_, rfl, ?_, ?_⟩
    · rw [hgiven]
      simp [modify, hw, List.modify_modify_eq]
    · simp [modify, hw]
    · simp [modify, hw]
    · simp [modify, hw]
    · simp [modify]
    · simp [modify, hw]

theorem Orderly.retry (h : c.Orderly) (hk : c.attempts[k]? = some a)
    (hlast : k + 1 = c.attempts.length) (hfailed : a.failed = false)
    (hcheck : c.CanRetry) (hempty : c.entities = [])
    (hsocket : a.socket ≠ .requested) (inProgress : Bool) :
    ((c.noteFailure k).retry k inProgress).Orderly := by
  have hws : ∀ j, c.ws = some j → j = k := by
    intro j hj
    have hjlast := h.ws_last j hj
    omega
  have hr := retried_retry hcheck hws inProgress
  generalize (c.noteFailure k).retry k inProgress = r at hr
  obtain ⟨hexact, hclean⟩ := h.exact k a hk
  obtain ⟨-, hzero, -⟩ := h.alive k a hk hlast (Or.inl hfailed)
  have hcount : a.increments = 0 := by
    have hcount := hexact.2
    rw [hfailed] at hcount
    simpa using hcount
  have hfail : a.fail false
      = { a with failed := true, exhausted := false } := by
    simp [Attempt.fail, hfailed]
  -- the attempt that was given up
  have hgiven : (c.givenUp a).Exact ∧ (c.givenUp a).inherited = []
      ∧ Over (c.givenUp a) := by
    unfold givenUp
    rw [hfail]
    have hone : a.increments = a.reconnects := hexact.1
    split
    next hnone =>
      have hnot : a.socket ≠ .open := by
        intro hopen
        rw [h.open_ws k a hk hopen] at hnone
        cases hnone
      refine ⟨⟨by simp [Attempt.retried, hone], by
        simp [Attempt.retried, hcount]⟩, hclean, ⟨?_, rfl, rfl⟩⟩
      show a.socket = .closing ∨ a.socket = .closed
      cases hs : a.socket <;> simp_all
    next =>
      refine ⟨?_, ?_, ?_⟩
      · unfold Attempt.close Attempt.Exact
        split <;> exact ⟨by simp [Attempt.retried, hone], by
          simp [Attempt.retried, hcount]⟩
      · unfold Attempt.close
        split <;> exact hclean
      · unfold Attempt.close
        split
        · exact ⟨Or.inl rfl, rfl, rfl⟩
        next hs =>
          refine ⟨?_, rfl, rfl⟩
          show a.socket = .closing ∨ a.socket = .closed
          have hs' : a.socket ≠ .open := hs
          cases hs : a.socket <;> simp_all
  have hlen : r.attempts.length = c.attempts.length := by
    rw [hr.attempts, List.length_modify]
  have hget : ∀ {j b}, r.attempts[j]? = some b →
      (j = k ∧ b = c.givenUp a) ∨ (j ≠ k ∧ c.attempts[j]? = some b) := by
    intro j b hj
    rw [hr.attempts] at hj
    rcases attempt_modify (c := c) hj with ⟨hjk, a', ha', hb⟩ | hother
    · rw [hk] at ha'
      cases ha'
      exact Or.inl ⟨hjk, hb⟩
    · exact Or.inr hother
  constructor
  · intro j b hj
    rcases hget hj with ⟨-, rfl⟩ | ⟨-, hj⟩
    · exact ⟨hgiven.1, hgiven.2.1⟩
    · exact h.exact j b hj
  · rw [hr.disturbed, h.undisturbed, decide_eq_false (fun hne => hne hlast)]
    rfl
  · rw [hlen]
    exact h.begun
  · intro j b hj hlt
    rw [hlen] at hlt
    rcases hget hj with ⟨rfl, -⟩ | ⟨-, hj⟩
    · omega
    · exact h.older j b hj hlt
  · intro j hj
    rw [hr.timeouts] at hj
    obtain ⟨b, hb, hs⟩ := h.armed j hj
    rw [hr.attempts, List.getElem?_modify, hb]
    by_cases hkj : k = j
    · subst hkj
      rw [hk] at hb
      cases hb
      refine ⟨c.givenUp a, by simp, ?_⟩
      rcases hgiven.2.2.socket with hs | hs <;> rw [hs] <;>
        exact SocketState.noConfusion
    · exact ⟨b, by simp [hkj], hs⟩
  · intro j hj
    rw [hr.ws] at hj
    cases hj
  · intro j b hj hs
    rcases hget hj with ⟨-, rfl⟩ | ⟨hne, hj⟩
    · rcases hgiven.2.2.socket with hs' | hs' <;> rw [hs'] at hs <;> cases hs
    · exact absurd (hws j (h.open_ws j b hj hs)) hne
  · intro j b hj hjlast hgo
    rw [hlen] at hjlast
    rcases hget hj with ⟨-, rfl⟩ | ⟨hne, -⟩
    · rcases hgo with hgo | hgo
      · rw [hgiven.2.2.failed] at hgo
        cases hgo
      · rw [hgiven.2.2.exhausted] at hgo
        cases hgo
    · omega
  · intro j b hj hjlast _ _
    rw [hlen] at hjlast
    rcases hget hj with ⟨-, rfl⟩ | ⟨hne, -⟩
    · refine ⟨hgiven.2.2, hr.networkInitCalled, ?_, hr.ws, ?_⟩
      · rw [hr.reconnects, hzero]
      · rw [hr.entities, hempty]
    · omega

theorem Orderly.event (h : c.Orderly) (hk : c.attempts[k]? = some a)
    (hsocket : a.socket ≠ .requested) (htimely : c.Timely k)
    (inProgress : Bool) : (c.event k inProgress).Orderly := by
  unfold ObserverClient.event
  split
  next hcheck =>
    obtain ⟨⟨hlast, hcurrent⟩, hempty⟩ := htimely hcheck
    have hfailed : a.failed = false := by simpa [hk] using hcurrent
    exact h.retry hk hlast hfailed hcheck hempty hsocket inProgress
  next hcheck => exact h.noteFailure hk hcheck

-- ==== the steps

theorem orderly_init : ObserverClient.init.Orderly := by
  have honly : ∀ {k : Nat} {a : Attempt},
      ObserverClient.init.attempts[k]? = some a →
        k = 0 ∧ a = Attempt.begin [] := by
    intro k a hk
    have hlt : k < 1 := lt_of_attempt hk
    obtain rfl : k = 0 := by omega
    exact ⟨rfl, (Option.some.inj hk).symm⟩
  constructor
  · intro k a hk
    obtain ⟨-, rfl⟩ := honly hk
    exact ⟨⟨rfl, rfl⟩, rfl⟩
  · rfl
  · decide
  · intro k a hk hlt
    obtain ⟨rfl, -⟩ := honly hk
    exact absurd hlt (by decide)
  · intro k hk
    cases hk
  · intro k hk
    cases hk
  · intro k a hk hs
    obtain ⟨-, rfl⟩ := honly hk
    cases hs
  · intro k a _ _ _
    exact ⟨rfl, rfl, rfl⟩
  · intro k a hk _ hfailed
    obtain ⟨-, rfl⟩ := honly hk
    cases hfailed

/-- A step that changes tables and client state while no reconnect is
due, or that only removes entries. -/
theorem Orderly.same (h : c.Orderly) (hattempts : c'.attempts = c.attempts)
    (hws : c'.ws = c.ws) (hdisturbed : c'.disturbed = c.disturbed)
    (htimeouts : ∀ k ∈ c'.timeouts, ∃ a, c.attempts[k]? = some a
      ∧ a.socket ≠ .requested)
    (hcalled : c'.networkInitCalled = c.networkInitCalled)
    (hreconnects : c'.reconnects = c.reconnects)
    (hprogress : c.observerRetryInProgress = false →
      c'.observerRetryInProgress = false)
    (hentities : c.entities = [] → c'.networkInitCalled = false →
      c'.entities = []) : c'.Orderly where
  exact k a hk := h.exact k a (hattempts ▸ hk)
  undisturbed := hdisturbed.trans h.undisturbed
  begun := by
    rw [hattempts]
    exact h.begun
  older k a hk hlt := by
    rw [hattempts] at hk hlt
    exact h.older k a hk hlt
  armed k hk := by
    rw [hattempts]
    exact htimeouts k hk
  ws_last k hk := by
    rw [hattempts]
    exact h.ws_last k (hws ▸ hk)
  open_ws k a hk hs := by
    rw [hws]
    exact h.open_ws k a (hattempts ▸ hk) hs
  alive k a hk hlast hgo := by
    rw [hattempts] at hk hlast
    obtain ⟨hc, hr, hp⟩ := h.alive k a hk hlast hgo
    exact ⟨hcalled.trans hc, hreconnects.trans hr, hprogress hp⟩
  waiting k a hk hlast hfailed hexhausted := by
    rw [hattempts] at hk hlast
    obtain ⟨hover, hc, hr, hw, he⟩ :=
      h.waiting k a hk hlast hfailed hexhausted
    have hc' := hcalled.trans hc
    exact ⟨hover, hc', hreconnects.trans hr, hws.trans hw, hentities he hc'⟩

theorem attempt_of_socket {st : SocketState} (h : c.socket k = some st) :
    ∃ a, c.attempts[k]? = some a ∧ a.socket = st :=
  Option.map_eq_some_iff.mp h

theorem Orderly.called_of_open (h : c.Orderly)
    (hk : c.socket k = some .open) : c.networkInitCalled = true := by
  obtain ⟨a, ha, hs⟩ := attempt_of_socket hk
  obtain ⟨hlast, hgo⟩ := h.last_of_socket ha (Or.inr hs)
  exact (h.alive k a ha hlast hgo).1

theorem Orderly.launched (h : c.Orderly)
    (hs : c.step (.launched k) = some c') : c'.Orderly := by
  simp only [ObserverClient.step] at hs
  split at hs
  next hsocket =>
    cases hs
    obtain ⟨a, ha, hrequested⟩ := attempt_of_socket hsocket
    obtain ⟨hlast, hgo⟩ := h.last_of_socket ha (Or.inl hrequested)
    constructor
    · intro j b hj
      rcases attempt_modify hj with ⟨rfl, a', ha', rfl⟩ | ⟨-, hj⟩
      · exact h.exact j a' ha'
      · exact h.exact j b hj
    · exact h.undisturbed
    · exact (length_modify Attempt.opened).symm ▸ h.begun
    · intro j b hj hlt
      have hlt' : j + 1 < c.attempts.length := length_modify _ ▸ hlt
      rcases attempt_modify hj with ⟨rfl, a', ha', rfl⟩ | ⟨-, hj⟩
      · omega
      · exact h.older j b hj hlt'
    · intro j hj
      obtain ⟨b, hb, hbs⟩ := h.armed j hj
      show ∃ b, (c.attempts.modify k .opened)[j]? = some b ∧ _
      rw [List.getElem?_modify, hb]
      by_cases hkj : k = j
      · exact ⟨b.opened, by simp [hkj], SocketState.noConfusion⟩
      · exact ⟨b, by simp [hkj], hbs⟩
    · intro j hj
      cases hj
      exact hlast.trans (length_modify Attempt.opened).symm
    · intro j b hj hopen
      rcases attempt_modify hj with ⟨rfl, -⟩ | ⟨hne, hj⟩
      · rfl
      · have hjlast := h.ws_last j (h.open_ws j b hj hopen)
        omega
    · intro j b hj hjlast _
      exact h.alive k a ha hlast hgo
    · intro j b hj hjlast hfailed hexhausted
      have hjlast' : j + 1 = c.attempts.length := length_modify _ ▸ hjlast
      rcases attempt_modify hj with ⟨rfl, a', ha', rfl⟩ | ⟨hne, -⟩
      · rw [ha] at ha'
        cases ha'
        have hover := (h.waiting j a ha hlast hfailed hexhausted).1
        rcases hover.socket with hclosed | hclosed <;>
          rw [hrequested] at hclosed <;> cases hclosed
      · omega
  next => cases hs

theorem Orderly.enterRunning (h : c.Orderly)
    (hs : c.step (.enterRunning k) = some c') : c'.Orderly := by
  simp only [ObserverClient.step] at hs
  split at hs
  next hsocket =>
    cases hs
    obtain ⟨a, ha, hopen⟩ := attempt_of_socket hsocket
    obtain ⟨hlast, hgo⟩ := h.last_of_socket ha (Or.inr hopen)
    obtain ⟨hexact, hclean⟩ := h.exact k a ha
    have hcount : a.increments = 0 := by
      have hcount := hexact.2
      rw [if_neg] at hcount
      · exact hcount
      · intro hand
        rcases hgo with hgo | hgo
        · rw [hgo] at hand
          cases hand.1
        · rw [hgo] at hand
          cases hand.2
    have hrecovered : (c.modify k .recovered).Orderly := by
      refine h.last ha hlast hgo (Or.inl rfl) ⟨hexact.1, ?_⟩ hclean rfl
      show a.increments = _
      rw [hcount]
      rfl
    refine hrecovered.same rfl rfl rfl hrecovered.armed rfl rfl
      (fun _ => rfl) fun hempty _ => hempty
  next => cases hs

theorem Orderly.reconnect (h : c.Orderly)
    (hs : c.step .reconnect = some c') : c'.Orderly := by
  simp only [ObserverClient.step] at hs
  split at hs
  next hdue =>
    cases hs
    -- the last attempt has failed, or no reconnect would be due
    obtain ⟨a, ha⟩ : ∃ a, c.attempts[c.attempts.length - 1]? = some a := by
      have hbegun := h.begun
      exact ⟨_, List.getElem?_eq_getElem (by omega)⟩
    have hlast : c.attempts.length - 1 + 1 = c.attempts.length := by
      have hbegun := h.begun
      omega
    have hfailed : a.failed = true ∧ a.exhausted = false := by
      by_contra hnot
      have hgo : a.failed = false ∨ a.exhausted = true := by
        cases hf : a.failed <;> cases he : a.exhausted <;> simp_all
      have hnone := (h.alive _ a ha hlast hgo).2.1
      omega
    obtain ⟨hover, hcalled, hone, hws, hempty⟩ :=
      h.waiting _ a ha hlast hfailed.1 hfailed.2
    have hinit : ({ c with reconnects := c.reconnects - 1 } :
        ObserverClient).networkInit
          = { c with
              reconnects := c.reconnects - 1
              networkInitCalled := true
              attempts := c.attempts ++ [Attempt.begin c.entities] } :=
      if_neg (by rw [hcalled]; exact Bool.false_ne_true)
    rw [hinit, hempty]
    have hget : ∀ {j : Nat} {b : Attempt},
        (c.attempts ++ [Attempt.begin []])[j]? = some b →
          (j = c.attempts.length ∧ b = Attempt.begin [])
            ∨ c.attempts[j]? = some b := fun hj => eq_or_getElem?_of_append hj
    have hlen : (c.attempts ++ [Attempt.begin []]).length
        = c.attempts.length + 1 := by simp
    constructor
    · intro j b hj
      rcases hget hj with ⟨-, rfl⟩ | hj
      · exact ⟨⟨rfl, rfl⟩, rfl⟩
      · exact h.exact j b hj
    · exact h.undisturbed
    · show 0 < (c.attempts ++ [Attempt.begin []]).length
      omega
    · intro j b hj hlt
      have hlt' : j + 1 < c.attempts.length + 1 := hlen ▸ hlt
      rcases hget hj with ⟨rfl, -⟩ | hj
      · omega
      · by_cases hjlast : j + 1 = c.attempts.length
        · have hja : j = c.attempts.length - 1 := by omega
          rw [hja, ha] at hj
          cases hj
          exact hover
        · exact h.older j b hj (by omega)
    · intro j hj
      obtain ⟨b, hb, hbs⟩ := h.armed j hj
      refine ⟨b, ?_, hbs⟩
      show (c.attempts ++ [Attempt.begin []])[j]? = some b
      rw [List.getElem?_append_left (lt_of_attempt hb)]
      exact hb
    · intro j hj
      rw [show c.ws = some j from hj] at hws
      cases hws
    · intro j b hj hopen
      rcases hget hj with ⟨-, rfl⟩ | hj
      · cases hopen
      · exact h.open_ws j b hj hopen
    · intro j b hj hjlast _
      refine ⟨rfl, ?_, rfl⟩
      show c.reconnects - 1 = 0
      omega
    · intro j b hj hjlast hf
      have hjlast' : j + 1 = c.attempts.length + 1 := hlen ▸ hjlast
      rcases hget hj with ⟨-, rfl⟩ | hj
      · cases hf
      · have hlt := lt_of_attempt hj
        omega
  next => cases hs

theorem Orderly.step {act : RetryAct} (h : c.Orderly)
    (hc : c.Undisturbed act) (hs : c.step act = some c') : c'.Orderly := by
  cases act with
  | launched k => exact h.launched hs
  | receive k table =>
    simp only [ObserverClient.step] at hs
    split at hs
    next hopen =>
      cases hs
      have hcalled := h.called_of_open hopen
      refine h.same rfl rfl rfl h.armed rfl rfl id fun _ hnot => ?_
      rw [show c.networkInitCalled = false from hnot] at hcalled
      cases hcalled
    next => cases hs
  | remove i =>
    cases hs
    refine h.same rfl rfl rfl h.armed rfl rfl id fun hempty _ => ?_
    show c.entities.eraseIdx i = []
    rw [hempty]
    rfl
  | enterRunning k => exact h.enterRunning hs
  | leaveRunning k =>
    simp only [ObserverClient.step] at hs
    split at hs
    · cases hs
      exact h.same rfl rfl rfl h.armed rfl rfl id fun hempty _ => hempty
    · cases hs
  | armTimeout k =>
    simp only [ObserverClient.step] at hs
    split at hs
    next hopen =>
      cases hs
      refine h.same rfl rfl rfl (fun j hj => ?_) rfl rfl id
        fun hempty _ => hempty
      rcases List.mem_append.mp hj with hj | hj
      · exact h.armed j hj
      · rw [List.mem_singleton.mp hj]
        obtain ⟨a, ha, hs⟩ := attempt_of_socket hopen
        refine ⟨a, ha, ?_⟩
        rw [hs]
        exact SocketState.noConfusion
    next => cases hs
  | closed k =>
    simp only [ObserverClient.step] at hs
    split at hs
    next hsocket =>
      cases hs
      obtain ⟨a, ha⟩ : ∃ a, c.attempts[k]? = some a := by
        rcases hsocket with hsocket | hsocket
        · obtain ⟨a, ha, -⟩ := attempt_of_socket hsocket
          exact ⟨a, ha⟩
        · obtain ⟨a, ha, -⟩ := attempt_of_socket hsocket
          exact ⟨a, ha⟩
      have hclosed : (c.modify k .closed).attempts[k]? = some a.closed := by
        unfold modify
        rw [List.getElem?_modify, ha]
        simp
      refine (h.closed k).event hclosed SocketState.noConfusion ?_ true
      intro hcheck
      obtain ⟨⟨hlast, hcurrent⟩, hempty⟩ := hc hcheck
      rw [ha] at hcurrent
      refine ⟨⟨hlast.trans (length_modify _).symm, ?_⟩, hempty⟩
      rw [hclosed]
      exact hcurrent
    next => cases hs
  | timeout i =>
    simp only [ObserverClient.step] at hs
    obtain ⟨k, hk, rfl⟩ := Option.map_eq_some_iff.mp hs
    obtain ⟨a, ha, hsocket⟩ := h.armed k (List.mem_of_getElem? hk)
    have hfired : ({ c with timeouts := c.timeouts.eraseIdx i } :
        ObserverClient).Orderly :=
      h.same rfl rfl rfl (fun j hj => h.armed j (List.mem_of_mem_eraseIdx hj))
        rfl rfl id fun hempty _ => hempty
    have htimely : c.Timely k := hc k hk
    exact hfired.event ha hsocket htimely false
  | reconnect => exact h.reconnect hs

-- ==== the runs

/-- In a run in which every event comes in time each failure is counted
and retried once, no attempt is reset by an older one's event, and none
begins with what an earlier one received. -/
theorem retriesExact_of_undisturbed
    (h : retryRuns.ReachVia Undisturbed c) : c.RetriesExact := by
  have horderly : c.Orderly :=
    h.invariant (fun _ hinit => hinit ▸ orderly_init)
      fun _ _ _ hI hc hs => hI.step hc hs
  exact horderly.retriesExact

/-- The server closes the first connection, and the second one gets to
the game; then its timeout and the end of the connection. -/
def closedOnce : List RetryAct :=
  [.launched 0, .closed 0, .reconnect, .launched 1, .armTimeout 1,
    .receive 1 .players, .receive 1 .tiles, .enterRunning 1, .timeout 0,
    .closed 1]

/-- The first attempt runs out of time; then its socket reports that it
was closed. -/
def closedAfterTimeout : List RetryAct :=
  [.launched 0, .armTimeout 0, .timeout 0, .closed 0]

/-- The server closes the first connection; its timeout runs out in the
second attempt. -/
def timeoutAfterClose : List RetryAct :=
  [.launched 0, .armTimeout 0, .receive 0 .players, .closed 0, .reconnect,
    .launched 1, .timeout 0]

/-- The theorem at a run with a retry that gets to the game. -/
theorem retriesExact_closedOnce :
    ((retryRuns.exec init closedOnce).getD init).RetriesExact :=
  retriesExact_of_undisturbed (Lts.ReachVia.exec (.init rfl)
    (by decide : retryRuns.Along Undisturbed init closedOnce) rfl)

/-- One failure is counted twice and has two reconnects; and a timeout
of the first attempt closes the second, which began with a player of the
first. -/
theorem retries_not_exact :
    ∃ c d, retryRuns.exec init closedAfterTimeout = some c
      ∧ retryRuns.exec init timeoutAfterClose = some d
      ∧ c.attempts.map (fun a => (a.increments, a.reconnects)) = [(2, 2)]
      ∧ ¬ c.RetriesExact
      ∧ d.disturbed = true
      ∧ d.attempts.map Attempt.inherited = [[], [(.players, 0)]]
      ∧ ¬ d.RetriesExact := by
  refine ⟨_, _, rfl, rfl, by decide, ?_, by decide, by decide, ?_⟩
  · intro h
    have hexact := h.exact _ (List.mem_of_getElem? (i := 0) rfl)
    exact absurd hexact.2 (by decide)
  · intro h
    exact absurd h.undisturbed (by decide)

end ObserverClient

end Freeciv3d.Web
