/-
Authentication belongs to one connection, and a watchdog to one
listener, as long as nothing of an earlier `llm_connect` is taken for
the new one's.

# The invariants

The one listener that runs is the handler's, and it receives on the
handler's connection; so what it marks as authenticated is that
connection (`AuthSound`). The flag is reset when `llm_connect` comes,
but the connection is replaced only later: in between the old listener
may set it again.

The one watchdog that runs is the handler's, and its `llm_connect` is
the listener's or a later one, but while a new connect message is being
sent (`WatchdogSound`).

Both read the step of a listener off one lemma (`listenerStep_moves`).
-/
import Freeciv3d.Gateway.AgentConnections
import Freeciv3d.Lib.Tasks

namespace Freeciv3d.Gateway.AgentConnections

open Lib

namespace AgentWebSocketHandler

variable {h h' : AgentWebSocketHandler} {k : Nat} {l : ProxyListener}

-- ==== what must hold

/-- A message goes out on a connection only after an `auth_success` came
in on it. -/
def AuthPerConnection (h : AgentWebSocketHandler) : Prop :=
  ∀ c earlier, (.forwarded c :: earlier) <:+ h.observed →
    .authSuccess c ∈ earlier

/-- No watchdog cancels the listener of a later `llm_connect`. -/
def WatchdogsKeepOff (h : AgentWebSocketHandler) : Prop :=
  ∀ watchdog listener, .cancelled watchdog listener ∈ h.observed →
    listener ≤ watchdog

def assigns (h : AgentWebSocketHandler) (e : ConnectionEvent) : Bool :=
  match e with
  | .connected => h.runningListener.isNone
  | .listenerAwaited => (h.proxyListenerTask.bind (h.listeners[·]?)).any
      (·.phase = .ended false)
  | _ => false

/-- No `auth_success` has come in on the old connection since the flag
was reset. -/
def AssignsUnauthenticated (h : AgentWebSocketHandler)
    (e : ConnectionEvent) : Prop :=
  h.assigns e = true → h.authenticated = false

def sending (h : AgentWebSocketHandler) : Bool :=
  match h.phase with
  | .sendingConnect _ => true
  | _ => false

/-- A watchdog of an earlier `llm_connect` does not get to its
cancellation while the connect message is being sent, and has ended
or been cancelled when that fails. -/
def LeavesNoWatchdog (h : AgentWebSocketHandler) (e : ConnectionEvent) :
    Prop :=
  match e with
  | .watchdogReported _ => h.sending = true → h.runningListener = none
  | .connectNotSent => ∀ w ∈ h.watchdogs,
      w.phase = .cancelled ∨ w.phase = .ended
  | _ => True

-- ==== the step of a listener

/-- What the step of one listener changes. -/
structure Moves (h : AgentWebSocketHandler) (k : Nat) (l l' : ProxyListener)
    (h' : AgentWebSocketHandler) : Prop where
  attempt : l'.attempt = l.attempt
  running : l.done = false
  listeners : h'.listeners = h.listeners.set k l'
  task : h'.proxyListenerTask = h.proxyListenerTask
  timeout : h'.authTimeoutTask = h.authTimeoutTask
  phase : h'.phase = h.phase
  watchdogs : h'.watchdogs = h.watchdogs ∨
    h'.watchdogs = h.cancelWatchdog.watchdogs
  connection : (h'.proxyConnection = h.proxyConnection ∧
      ∀ c, l'.phase = .receiving c → h.proxyConnection = some c) ∨
    (h'.proxyConnection = none ∧ l'.done = true)
  observed : (h'.authenticated = h.authenticated ∧
      h'.observed = h.observed) ∨
    ∃ c, l.phase = .receiving c ∧
      h'.proxyConnection = h.proxyConnection ∧
      h'.observed = .authSuccess c :: h.observed

theorem Moves.setListener {l' : ProxyListener} (hrunning : l.done = false)
    (hattempt : l'.attempt = l.attempt)
    (hreceiving : ∀ c, l'.phase = .receiving c →
      h.proxyConnection = some c) :
    Moves h k l l' (h.setListener k l') where
  attempt := hattempt
  running := hrunning
  listeners := rfl
  task := rfl
  timeout := rfl
  phase := rfl
  watchdogs := .inl rfl
  connection := .inl ⟨rfl, hreceiving⟩
  observed := .inl ⟨rfl, rfl⟩

theorem loop_moves (hrunning : l.done = false) :
    ∃ l', Moves h k l l' (h.loop k l) := by
  unfold loop
  split
  · rename_i c hc
    refine ⟨_, .setListener hrunning rfl fun c' hc' => ?_⟩
    cases hc'
    exact hc
  · exact ⟨_, .setListener hrunning rfl nofun⟩

theorem leaveLoop_moves (hrunning : l.done = false) :
    ∃ l', Moves h k l l' (h.leaveLoop k l) := by
  unfold leaveLoop
  split <;> exact ⟨_, .setListener hrunning rfl nofun⟩

theorem cancelWatchdog_eq (h : AgentWebSocketHandler) :
    h.cancelWatchdog =
      { h with watchdogs := h.cancelWatchdog.watchdogs } := by
  unfold cancelWatchdog
  split <;> rfl

theorem receive_moves {c : Nat} (hl : l.phase = .receiving c)
    (message : ProxyMessage) :
    ∃ l', Moves h k l l' (h.receive k l c message) := by
  have hrunning : l.done = false := by
    unfold ProxyListener.done
    rw [hl]
  cases message with
  | authSuccess =>
    unfold receive
    rw [cancelWatchdog_eq]
    have hobserved : ∀ phase : ListenerPhase,
        (∀ c', phase ≠ .receiving c') →
          ∃ l', Moves h k l l' ({ h with
            watchdogs := h.cancelWatchdog.watchdogs
            authenticated := true
            observed := .authSuccess c :: h.observed }.setListener k
              { l with phase := phase }) := by
      intro phase hphase
      exact ⟨{ l with phase := phase }, rfl, hrunning, rfl, rfl, rfl,
        rfl, .inr rfl, .inl ⟨rfl, fun c' hc' => absurd hc' (hphase c')⟩,
        .inr ⟨c, hl, rfl, rfl⟩⟩
    refine hobserved _ fun c' hc' => ?_
    split at hc' <;> cases hc'
  | other => exact ⟨_, .setListener hrunning rfl nofun⟩
  | connectionClosed => exact leaveLoop_moves hrunning

theorem resume_moves {goesOn : Bool}
    (hstep : h.resume k l goesOn = some h') : ∃ l', Moves h k l l' h' := by
  unfold resume at hstep
  split at hstep
  · rename_i hl
    cases hstep
    exact loop_moves (by simp [ProxyListener.done, hl])
  · rename_i hl
    have hrunning : l.done = false := by simp [ProxyListener.done, hl]
    cases hstep
    split
    · exact loop_moves hrunning
    · exact leaveLoop_moves hrunning
  · rename_i hl
    have hrunning : l.done = false := by simp [ProxyListener.done, hl]
    cases hstep
    split
    · exact ⟨{ l with phase := .ended (!goesOn) }, rfl, hrunning, rfl,
        rfl, rfl, rfl, .inl rfl, .inr ⟨rfl, rfl⟩, .inl ⟨rfl, rfl⟩⟩
    · exact ⟨_, .setListener hrunning rfl nofun⟩
  · cases hstep

theorem unwind_moves (hstep : h.unwind k l = some h') :
    ∃ l', Moves h k l l' h' := by
  unfold unwind at hstep
  split at hstep
  · rename_i hl
    cases hstep
    exact leaveLoop_moves (by simp [ProxyListener.done, hl])
  · rename_i hl
    cases hstep
    exact leaveLoop_moves (by simp [ProxyListener.done, hl])
  · rename_i hl
    cases hstep
    exact ⟨_, .setListener (by simp [ProxyListener.done, hl]) rfl nofun⟩
  · rename_i hl
    cases hstep
    exact ⟨_, .setListener (by simp [ProxyListener.done, hl]) rfl nofun⟩
  · cases hstep

theorem listenerStep_moves {step : ListenerStep}
    (hstep : h.listenerStep k step = some h') :
    ∃ l l', h.listeners[k]? = some l ∧ Moves h k l l' h' := by
  unfold listenerStep at hstep
  simp only [Option.bind_eq_bind, Option.bind_eq_some_iff] at hstep
  obtain ⟨l, hk, hstep⟩ := hstep
  refine ⟨l, ?_⟩
  have hmoves : ∃ l', Moves h k l l' h' := by
    split at hstep
    · rename_i w hl
      unfold watchdogAwaited at hstep
      split at hstep
      · cases hstep
        exact ⟨_, .setListener (by simp [ProxyListener.done, hl]) rfl
          nofun⟩
      · cases hstep
    · rename_i c message hl _
      cases hstep
      exact receive_moves hl message
    · exact resume_moves hstep
    · exact unwind_moves hstep
    · cases hstep
  obtain ⟨l', hmoves⟩ := hmoves
  exact ⟨l', hk, hmoves⟩

-- ==== a step

/-- What a step does, and when it is possible. -/
inductive Takes (h : AgentWebSocketHandler) :
    ConnectionEvent → AgentWebSocketHandler → Prop where
  | agentMessage (messageType : String) (hidle : h.phase = .idle) :
      Takes h (.agentMessage messageType) (h.agentMessage messageType)
  | connectFailed {attempt : Nat} (hphase : h.phase = .connecting attempt) :
      Takes h .connectFailed { h with phase := .idle }
  | connected {attempt : Nat} (hphase : h.phase = .connecting attempt) :
      Takes h .connected (h.connected attempt)
  | listenerAwaited {attempt c : Nat}
      (hphase : h.phase = .awaitingListener attempt c)
      (hended : h.runningListener = none)
      (hassigns : h.assigns .listenerAwaited = true) :
      Takes h .listenerAwaited (h.assign attempt c)
  | listenerRaised {attempt c : Nat}
      (hphase : h.phase = .awaitingListener attempt c) :
      Takes h .listenerAwaited { h with phase := .idle }
  | connectSent {attempt : Nat}
      (hphase : h.phase = .sendingConnect attempt) :
      Takes h .connectSent (h.connectSent attempt)
  | connectNotSent {attempt : Nat}
      (hphase : h.phase = .sendingConnect attempt) :
      Takes h .connectNotSent { h with phase := .idle }
  | listener {k : Nat} {step : ListenerStep} {l l' : ProxyListener}
      {h' : AgentWebSocketHandler} (hk : h.listeners[k]? = some l)
      (hmoves : Moves h k l l' h') : Takes h (.listener k step) h'
  | watchdogWakes {k : Nat} {w : AuthWatchdog} {phase : WatchdogPhase}
      (hk : h.watchdogs[k]? = some w) (hw : w.phase = .sleeping) :
      Takes h (.watchdogWakes k)
        (h.setWatchdog k { w with phase := phase })
  | watchdogReported {k : Nat} {w : AuthWatchdog}
      (hk : h.watchdogs[k]? = some w) (hw : w.phase = .sendingError)
      (hnone : h.runningListener = none) :
      Takes h (.watchdogReported k)
        (h.setWatchdog k { w with phase := .ended })
  | watchdogCancels {k j : Nat} {w : AuthWatchdog} {l : ProxyListener}
      (hk : h.watchdogs[k]? = some w) (hw : w.phase = .sendingError)
      (hl : h.runningListener = some (j, l)) :
      Takes h (.watchdogReported k)
        { (h.setWatchdog k { w with phase := .ended }).cancelListener with
          observed := .cancelled w.attempt l.attempt :: h.observed }
  | watchdogUnwinds {k : Nat} {w : AuthWatchdog}
      (hk : h.watchdogs[k]? = some w) (hw : w.phase = .cancelled) :
      Takes h (.watchdogUnwinds k)
        (h.setWatchdog k { w with phase := .ended })

theorem takes_of_step {e : ConnectionEvent} (hstep : step h e = some h') :
    Takes h e h' := by
  cases e with
  | agentMessage messageType =>
    simp only [AgentWebSocketHandler.step] at hstep
    split at hstep
    · rename_i hidle
      cases hstep
      exact .agentMessage messageType hidle
    · cases hstep
  | connectFailed =>
    simp only [AgentWebSocketHandler.step] at hstep
    split at hstep
    · rename_i hphase
      cases hstep
      exact .connectFailed hphase
    · cases hstep
  | connected =>
    simp only [AgentWebSocketHandler.step] at hstep
    split at hstep
    · rename_i hphase
      cases hstep
      exact .connected hphase
    · cases hstep
  | listenerAwaited =>
    simp only [AgentWebSocketHandler.step] at hstep
    split at hstep
    · rename_i hphase
      unfold AgentWebSocketHandler.listenerAwaited at hstep
      simp only [Option.bind_eq_bind, Option.bind_eq_some_iff] at hstep
      obtain ⟨k, htask, l, hk, hstep⟩ := hstep
      split at hstep
      · rename_i hl
        cases hstep
        refine .listenerAwaited hphase ?_ ?_
        · simp [runningListener, htask, hk, ProxyListener.done, hl]
        · simp [assigns, htask, hk, hl]
      · cases hstep
        exact .listenerRaised hphase
      · cases hstep
    · cases hstep
  | connectSent =>
    simp only [AgentWebSocketHandler.step] at hstep
    split at hstep
    · rename_i hphase
      cases hstep
      exact .connectSent hphase
    · cases hstep
  | connectNotSent =>
    simp only [AgentWebSocketHandler.step] at hstep
    split at hstep
    · rename_i hphase
      cases hstep
      exact .connectNotSent hphase
    · cases hstep
  | listener k step =>
    obtain ⟨l, l', hk, hmoves⟩ := listenerStep_moves hstep
    exact .listener hk hmoves
  | watchdogWakes k =>
    simp only [AgentWebSocketHandler.step,
      AgentWebSocketHandler.watchdogWakes, Option.bind_eq_bind,
      Option.bind_eq_some_iff] at hstep
    obtain ⟨w, hk, hstep⟩ := hstep
    split at hstep
    · rename_i hw
      cases hstep
      exact .watchdogWakes hk hw
    · cases hstep
  | watchdogReported k =>
    simp only [AgentWebSocketHandler.step,
      AgentWebSocketHandler.watchdogReported, Option.bind_eq_bind,
      Option.bind_eq_some_iff] at hstep
    obtain ⟨w, hk, hstep⟩ := hstep
    split at hstep
    · rename_i hw
      split at hstep
      · rename_i hnone
        cases hstep
        exact .watchdogReported hk hw hnone
      · rename_i hl
        cases hstep
        exact .watchdogCancels hk hw hl
    · cases hstep
  | watchdogUnwinds k =>
    simp only [AgentWebSocketHandler.step,
      AgentWebSocketHandler.watchdogUnwinds, Option.bind_eq_bind,
      Option.bind_eq_some_iff] at hstep
    obtain ⟨w, hk, hstep⟩ := hstep
    split at hstep
    · rename_i hw
      cases hstep
      exact .watchdogUnwinds hk hw
    · cases hstep

-- ==== one running listener

/-- The flag belongs to the connection. -/
structure AuthSound (h : AgentWebSocketHandler) : Prop where
  running : ∀ (k : Nat) (l : ProxyListener),
    h.listeners[k]? = some l → l.done = false →
      h.proxyListenerTask = some k
  receiving : ∀ (k : Nat) (l : ProxyListener) (c : Nat),
    h.listeners[k]? = some l → l.phase = .receiving c →
      h.proxyConnection = some c
  authenticated : h.authenticated = true → ∀ c,
    h.proxyConnection = some c → .authSuccess c ∈ h.observed
  justified : h.AuthPerConnection

theorem done_of_receiving {c : Nat} (hl : l.phase = .receiving c) :
    l.done = false := by
  unfold ProxyListener.done
  rw [hl]

theorem AuthSound.initial : AuthSound initial where
  running k l hk := by cases hk
  receiving k l c hk := by cases hk
  authenticated hauth := by cases hauth
  justified c earlier hsuffix := by
    cases List.eq_nil_of_suffix_nil hsuffix

theorem AuthSound.done (hs : AuthSound h)
    (hnone : h.runningListener = none) (hk : h.listeners[k]? = some l) :
    l.done = true := by
  by_contra hne
  have hrunning := Bool.eq_false_iff.mpr hne
  unfold runningListener at hnone
  simp [hs.running k l hk hrunning, hk, hrunning] at hnone

theorem AuthSound.listenerStep {l' : ProxyListener} (hs : AuthSound h)
    (hk : h.listeners[k]? = some l) (hmoves : Moves h k l l' h') :
    AuthSound h' := by
  have htask := hs.running k l hk hmoves.running
  refine ⟨?_, ?_, ?_, ?_⟩
  · intro j m hj hm
    rw [hmoves.listeners] at hj
    rw [hmoves.task]
    rcases eq_or_getElem?_of_set hj with ⟨rfl, rfl⟩ | ⟨-, hj⟩
    · exact htask
    · exact hs.running j m hj hm
  · intro j m c hj hm
    rw [hmoves.listeners] at hj
    rcases eq_or_getElem?_of_set hj with ⟨rfl, rfl⟩ | ⟨hne, hj⟩
    · rcases hmoves.connection with ⟨hsame, hl'⟩ | ⟨-, hdone⟩
      · rw [hsame]
        exact hl' c hm
      · rw [done_of_receiving hm] at hdone
        cases hdone
    -- no other listener runs
    · have hother := hs.running j m hj (done_of_receiving hm)
      rw [htask] at hother
      cases hother
      exact absurd rfl hne
  · intro hauth c hc
    rcases hmoves.observed with ⟨hflag, hsame⟩ | ⟨d, hl, hconn, hd⟩
    · rw [hsame]
      rcases hmoves.connection with ⟨hconn, -⟩ | ⟨hconn, -⟩
      · exact hs.authenticated (hflag ▸ hauth) c (hconn ▸ hc)
      · rw [hconn] at hc
        cases hc
    · rw [hconn, hs.receiving k l d hk hl] at hc
      cases hc
      rw [hd]
      exact List.mem_cons_self
  · rcases hmoves.observed with ⟨-, hsame⟩ | ⟨d, -, -, hd⟩
    · unfold AuthPerConnection
      rw [hsame]
      exact hs.justified
    · intro c earlier hsuffix
      rw [hd] at hsuffix
      rcases List.suffix_cons_iff.mp hsuffix with heq | hsuffix
      · cases heq
      · exact hs.justified c earlier hsuffix

theorem AuthSound.congr (hs : AuthSound h)
    (hl : h'.listeners = h.listeners)
    (ht : h'.proxyListenerTask = h.proxyListenerTask)
    (hc : h'.proxyConnection = h.proxyConnection)
    (ha : h'.authenticated = true → h.authenticated = true)
    (ho : h'.observed = h.observed) : AuthSound h' where
  running := by
    rw [hl, ht]
    exact hs.running
  receiving := by
    rw [hl, hc]
    exact hs.receiving
  authenticated hauth := by
    rw [hc, ho]
    exact hs.authenticated (ha hauth)
  justified := by
    unfold AuthPerConnection
    rw [ho]
    exact hs.justified

theorem cancelListener_eq (h : AgentWebSocketHandler) :
    h.cancelListener =
      { h with listeners := h.cancelListener.listeners } := by
  unfold AgentWebSocketHandler.cancelListener
  split <;> rfl

theorem AuthSound.cancelListener (hs : AuthSound h) :
    AuthSound h.cancelListener := by
  unfold AgentWebSocketHandler.cancelListener
  split
  · exact hs
  · rename_i k l hrunning
    unfold runningListener at hrunning
    simp only [Option.bind_eq_bind, Option.bind_eq_some_iff] at hrunning
    obtain ⟨j, -, m, hm, hrunning⟩ := hrunning
    split at hrunning
    · cases hrunning
    · rename_i hdone
      cases hrunning
      exact hs.listenerStep hm (.setListener (by simpa using hdone) rfl
        fun c hc => hs.receiving k l c hm hc)

theorem AuthSound.assign (hs : AuthSound h)
    (hdone : ∀ (k : Nat) (l : ProxyListener),
      h.listeners[k]? = some l → l.done = true)
    (hauth : h.authenticated = false) (attempt c : Nat) :
    AuthSound (h.assign attempt c) := by
  unfold AgentWebSocketHandler.assign
  refine ⟨?_, ?_, ?_, hs.justified⟩
  · intro k l hk hl
    rcases eq_or_getElem?_of_append hk with ⟨rfl, -⟩ | hk
    · rfl
    · rw [hdone k l hk] at hl
      cases hl
  · intro k l d hk hl
    rcases eq_or_getElem?_of_append hk with ⟨-, rfl⟩ | hk
    · cases hl
    · have hrunning := done_of_receiving hl
      rw [hdone k l hk] at hrunning
      cases hrunning
  · intro hflag
    rw [hauth] at hflag
    cases hflag

theorem AuthSound.observe (hs : AuthSound h) {o : Observed}
    (ho : ∀ c, o = .forwarded c → .authSuccess c ∈ h.observed) :
    AuthSound { h with observed := o :: h.observed } := by
  refine ⟨hs.running, hs.receiving, ?_, ?_⟩
  · intro hauth c hc
    exact List.mem_cons_of_mem _ (hs.authenticated hauth c hc)
  · intro c earlier hsuffix
    rcases List.suffix_cons_iff.mp hsuffix with heq | hsuffix
    · cases heq
      exact ho c rfl
    · exact hs.justified c earlier hsuffix

theorem AuthSound.agentMessage (hs : AuthSound h) (messageType : String) :
    AuthSound (h.agentMessage messageType) := by
  unfold AgentWebSocketHandler.agentMessage
  split
  · exact hs.congr rfl rfl rfl nofun rfl
  · split
    · rename_i hauth
      split
      · rename_i c hc
        split
        · exact hs
        · refine hs.observe fun d hd => ?_
          cases hd
          exact hs.authenticated hauth c hc
      · exact hs
    · exact hs

theorem AuthSound.step {e : ConnectionEvent} (hs : AuthSound h)
    (hassigns : AssignsUnauthenticated h e) (hstep : step h e = some h') :
    AuthSound h' := by
  unfold AssignsUnauthenticated at hassigns
  cases takes_of_step hstep with
  | agentMessage messageType hidle => exact hs.agentMessage messageType
  | connectFailed hphase | listenerRaised hphase | connectNotSent hphase
  | watchdogWakes hk hw | watchdogReported hk hw hnone
  | watchdogUnwinds hk hw => exact hs.congr rfl rfl rfl id rfl
  | connected hphase =>
    have hnext : AuthSound { h with connections := h.connections + 1 } :=
      hs.congr rfl rfl rfl id rfl
    unfold AgentWebSocketHandler.connected
    dsimp only
    split
    · rename_i hnone
      have hnone : h.runningListener = none := hnone
      exact hnext.assign (fun k l hk => hs.done hnone hk)
        (hassigns (by simp [assigns, hnone])) ..
    · exact hnext.cancelListener.congr rfl rfl rfl id rfl
  | listenerAwaited hphase hended hdoes =>
    exact hs.assign (fun k l hk => hs.done hended hk) (hassigns hdoes) ..
  | connectSent hphase =>
    unfold AgentWebSocketHandler.connectSent
    rw [cancelWatchdog_eq]
    exact hs.congr rfl rfl rfl id rfl
  | listener hk hmoves => exact hs.listenerStep hk hmoves
  | @watchdogCancels k j w l hk hw hl =>
    have hended : AuthSound (h.setWatchdog k { w with phase := .ended }) :=
      hs.congr rfl rfl rfl id rfl
    have hcancelled := hended.cancelListener
    rw [cancelListener_eq] at hcancelled ⊢
    exact hcancelled.observe nofun

-- ==== one running watchdog

/-- A watchdog that may come to its cancellation. -/
def Live (w : AuthWatchdog) : Prop :=
  w.phase = .sleeping ∨ w.phase = .sendingError

/-- The watchdog belongs to the listener's `llm_connect`. -/
structure WatchdogSound (h : AgentWebSocketHandler) : Prop where
  running : ∀ (k : Nat) (w : AuthWatchdog), h.watchdogs[k]? = some w →
    Live w → h.authTimeoutTask = some k
  notOlder : ∀ (k j : Nat) (w : AuthWatchdog) (l : ProxyListener),
    h.watchdogs[k]? = some w → Live w →
      h.proxyListenerTask = some j → h.listeners[j]? = some l →
        l.attempt ≤ w.attempt ∨ h.sending = true
  current : ∀ (attempt j : Nat) (l : ProxyListener),
    h.phase = .sendingConnect attempt → h.proxyListenerTask = some j →
      h.listeners[j]? = some l → l.attempt = attempt
  keepsOff : h.WatchdogsKeepOff

theorem WatchdogSound.initial : WatchdogSound initial where
  running k w hk := by cases hk
  notOlder k j w l hk := by cases hk
  current attempt j l hphase := by cases hphase
  keepsOff watchdog listener hmem := by cases hmem

theorem of_runningListener {j : Nat}
    (hl : h.runningListener = some (j, l)) :
    h.proxyListenerTask = some j ∧ h.listeners[j]? = some l := by
  unfold runningListener at hl
  simp only [Option.bind_eq_bind, Option.bind_eq_some_iff] at hl
  obtain ⟨i, htask, m, hm, hl⟩ := hl
  split at hl
  · cases hl
  · cases hl
    exact ⟨htask, hm⟩

theorem of_runningWatchdog {w : AuthWatchdog}
    (hw : h.runningWatchdog = some (k, w)) :
    h.authTimeoutTask = some k ∧ h.watchdogs[k]? = some w := by
  unfold runningWatchdog at hw
  simp only [Option.bind_eq_bind, Option.bind_eq_some_iff] at hw
  obtain ⟨i, htask, v, hv, hw⟩ := hw
  split at hw
  · cases hw
  · cases hw
    exact ⟨htask, hv⟩

theorem WatchdogSound.setWatchdog {w w' : AuthWatchdog}
    (hs : WatchdogSound h) (hk : h.watchdogs[k]? = some w)
    (hattempt : w'.attempt = w.attempt) (hlive : Live w' → Live w) :
    WatchdogSound (h.setWatchdog k w') := by
  refine ⟨?_, ?_, hs.current, hs.keepsOff⟩
  · intro i v hi hv
    rcases eq_or_getElem?_of_set hi with ⟨rfl, rfl⟩ | ⟨-, hi⟩
    · exact hs.running i w hk (hlive hv)
    · exact hs.running i v hi hv
  · intro i j v l hi hv htask hl
    rcases eq_or_getElem?_of_set hi with ⟨rfl, rfl⟩ | ⟨-, hi⟩
    · rw [hattempt]
      exact hs.notOlder i j w l hk (hlive hv) htask hl
    · exact hs.notOlder i j v l hi hv htask hl

theorem WatchdogSound.cancelWatchdog (hs : WatchdogSound h) :
    WatchdogSound h.cancelWatchdog := by
  unfold AgentWebSocketHandler.cancelWatchdog
  split
  · exact hs
  · rename_i k w hw
    refine hs.setWatchdog (of_runningWatchdog hw).2 rfl fun hlive => ?_
    rcases hlive with hlive | hlive <;> cases hlive

theorem WatchdogSound.not_live (hs : WatchdogSound h) {w : AuthWatchdog}
    (hk : h.cancelWatchdog.watchdogs[k]? = some w) : ¬ Live w := by
  intro hlive
  have htask : h.authTimeoutTask = some k := by
    have hrunning := hs.cancelWatchdog.running k w hk hlive
    rw [cancelWatchdog_eq] at hrunning
    exact hrunning
  unfold AgentWebSocketHandler.cancelWatchdog at hk
  split at hk
  · rename_i hnone
    have hended : w.phase = .ended := by
      simpa [runningWatchdog, htask, hk, AuthWatchdog.done] using hnone
    rcases hlive with hlive | hlive <;> rw [hended] at hlive <;>
      cases hlive
  · rename_i j v hv
    have hjk : j = k := by
      have hj := (of_runningWatchdog hv).1
      rw [htask] at hj
      exact (Option.some.inj hj).symm
    rcases eq_or_getElem?_of_set hk with ⟨-, rfl⟩ | ⟨hne, -⟩
    · rcases hlive with hlive | hlive <;> cases hlive
    · exact hne hjk.symm

theorem WatchdogSound.setListener {l' : ProxyListener}
    (hs : WatchdogSound h) (hk : h.listeners[k]? = some l)
    (hattempt : l'.attempt = l.attempt)
    (hlisteners : h'.listeners = h.listeners.set k l')
    (htask : h'.proxyListenerTask = h.proxyListenerTask)
    (htimeout : h'.authTimeoutTask = h.authTimeoutTask)
    (hphase : h'.phase = h.phase) (hwatchdogs : h'.watchdogs = h.watchdogs)
    (hkeepsOff : h'.WatchdogsKeepOff) : WatchdogSound h' := by
  have hsame : ∀ (j : Nat) (m : ProxyListener),
      h'.listeners[j]? = some m →
        ∃ m₀, h.listeners[j]? = some m₀ ∧ m.attempt = m₀.attempt := by
    intro j m hj
    rw [hlisteners] at hj
    rcases eq_or_getElem?_of_set hj with ⟨rfl, rfl⟩ | ⟨-, hj⟩
    · exact ⟨l, hk, hattempt⟩
    · exact ⟨m, hj, rfl⟩
  have hsending : h'.sending = h.sending := by
    unfold sending
    rw [hphase]
  refine ⟨?_, ?_, ?_, hkeepsOff⟩
  · rw [hwatchdogs, htimeout]
    exact hs.running
  · intro i j w m hi hw hj hm
    obtain ⟨m₀, hm₀, heq⟩ := hsame j m hm
    rw [heq, hsending]
    exact hs.notOlder i j w m₀ (hwatchdogs ▸ hi) hw (htask ▸ hj) hm₀
  · intro attempt j m hattempt hj hm
    obtain ⟨m₀, hm₀, heq⟩ := hsame j m hm
    rw [heq]
    exact hs.current attempt j m₀ (hphase ▸ hattempt) (htask ▸ hj) hm₀

theorem WatchdogSound.listenerStep {l' : ProxyListener}
    (hs : WatchdogSound h) (hk : h.listeners[k]? = some l)
    (hmoves : Moves h k l l' h') : WatchdogSound h' := by
  have hkeepsOff : h'.WatchdogsKeepOff := by
    intro watchdog listener hmem
    rcases hmoves.observed with ⟨-, hsame⟩ | ⟨c, -, -, hc⟩
    · rw [hsame] at hmem
      exact hs.keepsOff _ _ hmem
    · rw [hc] at hmem
      rcases List.mem_cons.mp hmem with heq | hmem
      · cases heq
      · exact hs.keepsOff _ _ hmem
  rcases hmoves.watchdogs with hsame | hcancelled
  · exact hs.setListener hk hmoves.attempt hmoves.listeners hmoves.task
      hmoves.timeout hmoves.phase hsame hkeepsOff
  · have hnext := hs.cancelWatchdog
    rw [cancelWatchdog_eq] at hnext
    exact hnext.setListener hk hmoves.attempt hmoves.listeners
      hmoves.task hmoves.timeout hmoves.phase hcancelled hkeepsOff

theorem WatchdogSound.cancelListener (hs : WatchdogSound h) :
    WatchdogSound h.cancelListener := by
  unfold AgentWebSocketHandler.cancelListener
  split
  · exact hs
  · rename_i k l hl
    refine hs.setListener (of_runningListener hl).2 ?_ rfl rfl rfl rfl rfl
      hs.keepsOff
    rfl

theorem WatchdogSound.assign (hs : WatchdogSound h) (attempt c : Nat) :
    WatchdogSound (h.assign attempt c) := by
  unfold AgentWebSocketHandler.assign
  refine ⟨hs.running, ?_, ?_, hs.keepsOff⟩
  · intro i j w l _ _ _ _
    exact .inr rfl
  · intro a j l hphase hj hl
    cases hphase
    cases hj
    rcases eq_or_getElem?_of_append hl with ⟨-, rfl⟩ | hl
    · rfl
    · obtain ⟨hlt, -⟩ := List.getElem?_eq_some_iff.mp hl
      exact absurd hlt (Nat.lt_irrefl _)

theorem WatchdogSound.toPhase (hs : WatchdogSound h) (phase : HandlerPhase)
    (hphase : ∀ attempt, phase ≠ .sendingConnect attempt)
    (hsending : h.sending = true → ∀ (k : Nat) (w : AuthWatchdog),
      h.watchdogs[k]? = some w → ¬ Live w)
    (hm : h'.listeners = h.listeners ∧
      h'.proxyListenerTask = h.proxyListenerTask ∧
      h'.authTimeoutTask = h.authTimeoutTask ∧
      h'.watchdogs = h.watchdogs ∧ h'.observed = h.observed ∧
      h'.phase = phase) : WatchdogSound h' := by
  obtain ⟨hlisteners, htask, htimeout, hwatchdogs, hobserved, hto⟩ := hm
  refine ⟨?_, ?_, ?_, ?_⟩
  · rw [hwatchdogs, htimeout]
    exact hs.running
  · intro i j w l hi hw hj hl
    rw [hwatchdogs] at hi
    rw [htask] at hj
    rw [hlisteners] at hl
    rcases hs.notOlder i j w l hi hw hj hl with hle | hsend
    · exact .inl hle
    · exact absurd hw (hsending hsend i w hi)
  · intro attempt j l hattempt
    rw [hto] at hattempt
    exact absurd hattempt (hphase attempt)
  · unfold WatchdogsKeepOff
    rw [hobserved]
    exact hs.keepsOff

theorem WatchdogSound.connectSent (hs : WatchdogSound h) {attempt : Nat}
    (hphase : h.phase = .sendingConnect attempt) :
    WatchdogSound (h.connectSent attempt) := by
  have hnext := hs.cancelWatchdog
  have hdead : ∀ (k : Nat) (w : AuthWatchdog),
      h.cancelWatchdog.watchdogs[k]? = some w → ¬ Live w :=
    fun k w hk => hs.not_live hk
  have hcurrent := hs.current attempt
  unfold AgentWebSocketHandler.connectSent
  rw [cancelWatchdog_eq] at hnext ⊢
  refine ⟨?_, ?_, ?_, hs.keepsOff⟩
  · intro i w hi hw
    rcases eq_or_getElem?_of_append hi with ⟨rfl, -⟩ | hi
    · rfl
    · exact absurd hw (hdead i w hi)
  · intro i j w l hi hw hj hl
    rcases eq_or_getElem?_of_append hi with ⟨-, rfl⟩ | hi
    · exact .inl (Nat.le_of_eq (hcurrent j l hphase hj hl))
    · exact absurd hw (hdead i w hi)
  · intro a j l hidle
    cases hidle

theorem WatchdogSound.step {e : ConnectionEvent} (hs : WatchdogSound h)
    (hleaves : LeavesNoWatchdog h e) (hstep : step h e = some h') :
    WatchdogSound h' := by
  have hnot : ∀ {phase : HandlerPhase}, h.phase = phase →
      (∀ attempt, phase ≠ .sendingConnect attempt) →
        h.sending = true → ∀ (k : Nat) (w : AuthWatchdog),
          h.watchdogs[k]? = some w → ¬ Live w := by
    intro phase hphase hne hsending
    unfold sending at hsending
    split at hsending
    · rename_i attempt heq
      exact absurd (hphase.symm.trans heq) (hne attempt)
    · cases hsending
  cases takes_of_step hstep with
  | agentMessage messageType hidle =>
    unfold AgentWebSocketHandler.agentMessage
    have hforwarded : ∀ c, WatchdogSound
        { h with observed := .forwarded c :: h.observed } := by
      intro c
      refine ⟨hs.running, hs.notOlder, hs.current, ?_⟩
      intro watchdog listener hmem
      rcases List.mem_cons.mp hmem with heq | hmem
      · cases heq
      · exact hs.keepsOff _ _ hmem
    split
    · exact hs.toPhase (.connecting h.attempts) nofun
        (hnot hidle nofun) ⟨rfl, rfl, rfl, rfl, rfl, rfl⟩
    · split
      · split
        · split
          · exact hs
          · exact hforwarded _
        · exact hs
      · exact hs
  | connectFailed hphase | listenerRaised hphase =>
    exact hs.toPhase .idle nofun (hnot hphase nofun)
      ⟨rfl, rfl, rfl, rfl, rfl, rfl⟩
  | @connected attempt hphase =>
    have hnext : WatchdogSound
        { h with connections := h.connections + 1 } :=
      ⟨hs.running, hs.notOlder, hs.current, hs.keepsOff⟩
    unfold AgentWebSocketHandler.connected
    dsimp only
    split
    · exact hnext.assign ..
    · have hcancelled := hnext.cancelListener
      rw [cancelListener_eq] at hcancelled ⊢
      exact hcancelled.toPhase (.awaitingListener attempt h.connections)
        nofun (hnot hphase nofun) ⟨rfl, rfl, rfl, rfl, rfl, rfl⟩
  | listenerAwaited hphase hended hdoes => exact hs.assign ..
  | connectSent hphase => exact hs.connectSent hphase
  | connectNotSent hphase =>
    refine hs.toPhase .idle nofun (fun _ k w hk hlive => ?_)
      ⟨rfl, rfl, rfl, rfl, rfl, rfl⟩
    rcases hleaves w (List.mem_of_getElem? hk) with hw | hw <;>
      rcases hlive with hlive | hlive <;> rw [hw] at hlive <;>
      cases hlive
  | listener hk hmoves => exact hs.listenerStep hk hmoves
  | watchdogWakes hk hw =>
    exact hs.setWatchdog hk rfl fun _ => .inl hw
  | watchdogReported hk hw hnone =>
    exact hs.setWatchdog hk rfl fun _ => .inr hw
  | @watchdogCancels k j w l hk hw hl =>
    have hended : WatchdogSound
        (h.setWatchdog k { w with phase := .ended }) :=
      hs.setWatchdog hk rfl fun _ => .inr hw
    have hcancelled := hended.cancelListener
    obtain ⟨htask, hj⟩ := of_runningListener hl
    have hle : l.attempt ≤ w.attempt := by
      rcases hs.notOlder k j w l hk (.inr hw) htask hj with hle | hsend
      · exact hle
      · rw [hleaves hsend] at hl
        cases hl
    rw [cancelListener_eq] at hcancelled ⊢
    refine ⟨hcancelled.running, hcancelled.notOlder,
      hcancelled.current, ?_⟩
    intro watchdog listener hmem
    rcases List.mem_cons.mp hmem with heq | hmem
    · cases heq
      exact hle
    · exact hcancelled.keepsOff _ _ hmem
  | watchdogUnwinds hk hw =>
    refine hs.setWatchdog hk rfl fun hlive => ?_
    rcases hlive with hlive | hlive <;> cases hlive

-- ==== the runs

/-- In every state of a run that assigns new connections only while the
flag is down, messages have gone out on authenticated connections; and
in every state of a run in which no earlier watchdog is left to a new
listener, watchdogs have kept off later listeners. -/
theorem auth_per_connection (h : AgentWebSocketHandler) :
    (lts.ReachVia AssignsUnauthenticated h → h.AuthPerConnection)
    ∧ (lts.ReachVia LeavesNoWatchdog h → h.WatchdogsKeepOff) := by
  constructor
  · intro hreach
    have hsound : AuthSound h := by
      refine Lts.ReachVia.invariant (I := AuthSound) ?_ ?_ hreach
      · intro h h0
        rw [h0]
        exact .initial
      · intro h e h' hs hassigns hstep
        exact hs.step hassigns hstep
    exact hsound.justified
  · intro hreach
    have hsound : WatchdogSound h := by
      refine Lts.ReachVia.invariant (I := WatchdogSound) ?_ ?_ hreach
      · intro h h0
        rw [h0]
        exact .initial
      · intro h e h' hs hleaves hstep
        exact hs.step hleaves hstep
    exact hsound.keepsOff

instance : DecidableRel AssignsUnauthenticated := fun h e => by
  unfold AssignsUnauthenticated
  infer_instance

instance : DecidableRel LeavesNoWatchdog := fun h e => by
  unfold LeavesNoWatchdog
  split <;> infer_instance

/-- The agent connects, is authenticated and sends an action; then it
connects again, and the watchdog gives that up. -/
def reconnectEvents : List ConnectionEvent :=
  [.agentMessage "llm_connect", .connected, .connectSent,
    .listener 0 (.resume true), .listener 0 (.receive .authSuccess),
    .watchdogUnwinds 0, .listener 0 (.resume true),
    .agentMessage "action", .listener 0 (.resume true),
    .agentMessage "llm_connect", .connected, .listener 0 .unwind,
    .listener 0 (.resume true), .listenerAwaited, .connectSent,
    .watchdogWakes 1, .watchdogReported 1]

theorem auth_per_connection_reconnect :
    (lts.exec initial reconnectEvents).map (·.observed) =
      some [.cancelled 1 1, .forwarded 0, .authSuccess 0]
    ∧ ∀ h ∈ lts.exec initial reconnectEvents,
      h.AuthPerConnection ∧ h.WatchdogsKeepOff := by
  refine ⟨by decide +kernel, fun h hh => ⟨?_, ?_⟩⟩
  · refine (auth_per_connection h).1 ?_
    have hstart : lts.ReachVia AssignsUnauthenticated initial := .init rfl
    exact hstart.exec (by decide +kernel) hh
  · refine (auth_per_connection h).2 ?_
    have hstart : lts.ReachVia LeavesNoWatchdog initial := .init rfl
    exact hstart.exec (by decide +kernel) hh

/-- The agent connects twice. The answer to the first message arrives
while the second connection is being opened. -/
def lateAnswerEvents : List ConnectionEvent :=
  [.agentMessage "llm_connect", .connected, .connectSent,
    .listener 0 (.resume true), .agentMessage "llm_connect",
    .listener 0 (.receive .authSuccess), .watchdogUnwinds 0,
    .listener 0 (.resume true), .listener 0 (.resume true), .connected,
    .listener 0 .unwind, .listener 0 (.resume true), .listenerAwaited,
    .connectSent, .agentMessage "action"]

/-- The agent connects twice. The first watchdog wakes while the second
message is being sent. -/
def lateWatchdogEvents : List ConnectionEvent :=
  [.agentMessage "llm_connect", .connected, .connectSent,
    .listener 0 (.resume true), .agentMessage "llm_connect", .connected,
    .listener 0 .unwind, .listener 0 (.resume true), .listenerAwaited,
    .watchdogWakes 0, .watchdogReported 0]

/-- An action goes out on the second connection after an `auth_success`
on the first, and the first watchdog cancels the second listener. -/
theorem auth_not_per_connection :
    (∃ h, lts.exec initial lateAnswerEvents = some h ∧
      ¬ h.AuthPerConnection)
    ∧ (∃ h, lts.exec initial lateWatchdogEvents = some h ∧
      ¬ h.WatchdogsKeepOff) := by
  constructor
  · have hobserved : (lts.exec initial lateAnswerEvents).map (·.observed) =
        some [.forwarded 1, .authSuccess 0] := by decide +kernel
    obtain ⟨h, hh, hobserved⟩ := Option.map_eq_some_iff.mp hobserved
    refine ⟨h, hh, fun hauth => ?_⟩
    have hmem := hauth 1 [.authSuccess 0] ⟨[], hobserved.symm⟩
    cases List.mem_singleton.mp hmem
  · have hobserved : (lts.exec initial lateWatchdogEvents).map (·.observed) =
        some [.cancelled 0 1] := by decide +kernel
    obtain ⟨h, hh, hobserved⟩ := Option.map_eq_some_iff.mp hobserved
    refine ⟨h, hh, fun hkeeps => ?_⟩
    have hle := hkeeps 0 1 (hobserved ▸ List.mem_singleton_self _)
    omega

end AgentWebSocketHandler

end Freeciv3d.Gateway.AgentConnections
