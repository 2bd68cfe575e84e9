/-
Handshake permits are conserved while no release overtakes a clearing
and no semaphore is dropped in use.

# The accounts

The value of a semaphore and the permits that are out of it make up
`MAX_CONCURRENT_HANDSHAKES`, and all permits of a port that are out are
out of the semaphore the port has now (`Accounts`). A clean-up that drops
a semaphore in use breaks the second part: the port gets a new one, and
as many permits again (`Exclusive`, at `cleanupPortSemaphore`).

# One release

A permit that was released and whose CivCom still has the semaphore is
in the hands of a call that is about to clear it (`Fine.clearing`). So
a second release comes in between the release and the clearing of the
other party's call, or not at all (`Exclusive`, at `release`).
-/
import Freeciv3d.Lib.Tasks
import Freeciv3d.Proxy.HandshakeSemaphores

namespace Freeciv3d.Proxy

open Lib

namespace Handshakes

-- ==== the statement

/-- The permits of a port between acquire and release. -/
def underway (s : Handshakes) (port : Int) : Nat :=
  s.civcoms.countP fun c => c.port == port && c.releases == 0

/-- No permit is released twice, and no port has more permits out than
there are. -/
structure Conserved (s : Handshakes) : Prop where
  once : ∀ c ∈ s.civcoms, c.releases ≤ 1
  bounded : ∀ port, s.underway port ≤ maxConcurrentHandshakes

/-- The event loop is about to acquire a permit of the port. -/
def WaitsFor (s : Handshakes) (port : Int) : Prop :=
  match s.loop with
  | .acquiring p _ => p = port
  | .queued p _ => p = port
  | _ => False

instance (s : Handshakes) (port : Int) : Decidable (s.WaitsFor port) := by
  unfold WaitsFor
  split <;> infer_instance

/-- No release while the other party's call for the same CivCom is
between its release and its clearing, and no clean-up of a port that has
permits out or is about to. -/
def Exclusive (s : Handshakes) : HandshakeAct → Prop
  | .release who i => s.stage who.other i ≠ some .released
  | .cleanupPortSemaphore port => s.underway port = 0 ∧ ¬ s.WaitsFor port
  | _ => True

instance : DecidableRel Exclusive := by
  intro s act
  cases act <;> unfold Exclusive <;> infer_instance

-- ==== the invariant

def share (semaphore : Nat) (c : HandshakeCivCom) : Nat :=
  if c.semaphore = semaphore ∧ c.releases = 0 then 1 else 0

def outOf (s : Handshakes) (semaphore : Nat) : Nat :=
  (s.civcoms.map (share semaphore)).sum

/-- The permits, counted. -/
structure Accounts (s : Handshakes) : Prop where
  accounted : ∀ semaphore, semaphore < s.semaphores.length →
    s.value semaphore + s.outOf semaphore = maxConcurrentHandshakes
  current : ∀ c ∈ s.civcoms, c.releases = 0 →
    s.portSemaphores.get? c.port = some c.semaphore
  listed : ∀ port semaphore, s.portSemaphores.get? port = some semaphore →
    semaphore < s.semaphores.length
  acquiring : ∀ port semaphore, s.loop = .acquiring port semaphore →
    s.portSemaphores.get? port = some semaphore
  queued : ∀ port semaphore, s.loop = .queued port semaphore →
    s.portSemaphores.get? port = some semaphore

/-- The releases of one permit. -/
structure Fine (s : Handshakes) (i : Nat) (c : HandshakeCivCom) : Prop where
  once : c.releases ≤ 1
  own : ∀ semaphore, c.portSemaphore = some semaphore →
    semaphore = c.semaphore
  clearing : c.portSemaphore ≠ none → c.releases ≠ 0 →
    ∃ who, s.stage who i = some .released

/-- The releases, and that the permit of a CivCom that is being made is
out. -/
structure Once (s : Handshakes) : Prop where
  fine : ∀ i c, s.civcoms[i]? = some c → s.Fine i c
  creating : ∀ i c, s.loop = .creating i → s.civcoms[i]? = some c →
    c.releases = 0 ∧ c.portSemaphore = none

/-- The run invariant. -/
structure Permitted (s : Handshakes) : Prop where
  accounts : s.Accounts
  once : s.Once

variable {s s' : Handshakes} {who other : Releaser} {i j : Nat}
variable {c c' : HandshakeCivCom}

-- ==== counting

theorem underway_eq_zero_iff {port : Int} :
    s.underway port = 0
      ↔ ∀ c ∈ s.civcoms, c.port = port → c.releases ≠ 0 := by
  unfold underway
  rw [List.countP_eq_zero]
  simp

/-- What is out of the port's semaphore bounds what is out for the
port. -/
theorem underway_le_outOf {port : Int} {semaphore : Nat}
    (h : ∀ c ∈ s.civcoms, c.releases = 0 → c.port = port →
      c.semaphore = semaphore) :
    s.underway port ≤ s.outOf semaphore := by
  unfold underway outOf
  generalize s.civcoms = l at h
  induction l with
  | nil => exact Nat.le_refl 0
  | cons c rest ih =>
    have hrest := ih fun d hd => h d (List.mem_cons_of_mem c hd)
    rw [List.countP_cons, List.map_cons, List.sum_cons]
    by_cases hc : (c.port == port && c.releases == 0) = true
    · simp only [Bool.and_eq_true, beq_iff_eq] at hc
      have hsem := h c List.mem_cons_self hc.2 hc.1
      have hshare : share semaphore c = 1 := if_pos ⟨hsem, hc.2⟩
      simp only [hc, beq_self_eq_true, Bool.and_self, if_true]
      omega
    · rw [if_neg hc]
      omega

theorem outOf_eq_zero {semaphore : Nat}
    (h : ∀ c ∈ s.civcoms, c.releases = 0 → c.semaphore ≠ semaphore) :
    s.outOf semaphore = 0 := by
  unfold outOf
  generalize s.civcoms = l at h
  induction l with
  | nil => rfl
  | cons c rest ih =>
    have hrest := ih fun d hd => h d (List.mem_cons_of_mem c hd)
    have hc := h c List.mem_cons_self
    have hshare : share semaphore c = 0 :=
      if_neg fun hand => hc hand.2 hand.1
    rw [List.map_cons, List.sum_cons]
    omega

theorem Accounts.bounded (h : s.Accounts) (port : Int) :
    s.underway port ≤ maxConcurrentHandshakes := by
  cases hport : s.portSemaphores.get? port with
  | none =>
    have hzero : s.underway port = 0 := by
      rw [underway_eq_zero_iff]
      intro c hc hp hr
      have hcurrent := h.current c hc hr
      rw [hp, hport] at hcurrent
      cases hcurrent
    omega
  | some semaphore =>
    have hle : s.underway port ≤ s.outOf semaphore := by
      refine underway_le_outOf fun c hc hr hp => ?_
      have hcurrent := h.current c hc hr
      rw [hp, hport] at hcurrent
      exact (Option.some.inj hcurrent).symm
    have haccounted := h.accounted semaphore (h.listed port semaphore hport)
    omega

theorem Permitted.conserved (h : s.Permitted) : s.Conserved where
  once c hc := by
    obtain ⟨i, hi⟩ := List.mem_iff_getElem?.mp hc
    exact (h.once.fine i c hi).once
  bounded := h.accounts.bounded

-- ==== moving

@[simp] theorem moveTo_portSemaphores (stage : Option ReleaseStage) :
    (s.moveTo i stage who).portSemaphores = s.portSemaphores := by
  cases who <;> rfl

@[simp] theorem moveTo_semaphores (stage : Option ReleaseStage) :
    (s.moveTo i stage who).semaphores = s.semaphores := by
  cases who <;> rfl

@[simp] theorem moveTo_civcoms (stage : Option ReleaseStage) :
    (s.moveTo i stage who).civcoms = s.civcoms := by
  cases who <;> rfl

theorem moveTo_loop (s : Handshakes) (i : Nat)
    (stage : Option ReleaseStage) (who : Releaser) :
    (s.moveTo i stage who).loop = s.loop
      ∨ (s.moveTo i stage who).loop = .idle
      ∨ ∃ stage', (s.moveTo i stage who).loop = .releasing i stage' := by
  cases who with
  | eventLoop =>
    cases stage with
    | none => exact Or.inr (Or.inl rfl)
    | some stage => exact Or.inr (Or.inr ⟨stage, rfl⟩)
  | thread => exact Or.inl rfl

@[simp] theorem stage_moveTo (stage : Option ReleaseStage) :
    (s.moveTo i stage who).stage who i = stage := by
  cases who with
  | eventLoop =>
    cases stage with
    | none => rfl
    | some stage => exact if_pos rfl
  | thread =>
    cases stage with
    | none | some stage => simp [moveTo, Handshakes.stage]

/-- A party is at this CivCom, or may go there. -/
def At (s : Handshakes) (who : Releaser) (i : Nat) : Prop :=
  s.Free who i ∨ s.stage who i ≠ none

theorem stage_moveTo_of_ne (h : s.At who i) (stage : Option ReleaseStage)
    (hne : other ≠ who ∨ j ≠ i) :
    (s.moveTo i stage who).stage other j = s.stage other j := by
  cases who with
  | thread =>
    cases other with
    | eventLoop => rfl
    | thread =>
      have hj : j ≠ i := hne.resolve_left fun h => h rfl
      cases stage with
      | none => exact Dict.get?_erase_of_ne _ hj
      | some stage => exact Dict.get?_set_of_ne _ _ hj
  | eventLoop =>
    cases other with
    | thread => rfl
    | eventLoop =>
      have hj : j ≠ i := hne.resolve_left fun h => h rfl
      -- the event loop is at one CivCom only
      have hbefore : s.stage .eventLoop j = none := by
        rcases h with hfree | hat
        · have hidle : s.loop = .idle := hfree
          unfold Handshakes.stage
          rw [hidle]
        · unfold Handshakes.stage at hat ⊢
          cases hloop : s.loop with
          | releasing k stage' =>
            rw [hloop] at hat
            have hki : k = i := by
              by_contra hki
              exact hat (if_neg hki)
            exact if_neg fun hkj => hj (hkj.symm.trans hki)
          | idle | acquiring _ _ | queued _ _ | creating _ => rfl
      rw [hbefore]
      cases stage with
      | none => rfl
      | some stage => exact if_neg hj.symm

-- ==== the accounts

theorem value_of_set (semaphores : List Nat) {k : Nat} (v : Nat)
    (hk : k < semaphores.length) (j : Nat) :
    (semaphores.set k v).getD j 0
      = if j = k then v else semaphores.getD j 0 := by
  rw [List.getD_eq_getElem?_getD, List.getD_eq_getElem?_getD,
    List.getElem?_set]
  by_cases hj : j = k
  · rw [if_pos hj.symm, if_pos hk, if_pos hj]
    rfl
  · rw [if_neg fun h => hj h.symm, if_neg hj]

theorem Accounts.made (h : s.Accounts) (hi : s.civcoms[i]? = some c)
    (hr : c.releases = 0) : c.semaphore < s.semaphores.length :=
  h.listed c.port c.semaphore
    (h.current c (List.mem_of_getElem? hi) hr)

theorem Accounts.replace (h : s.Accounts) (hi : s.civcoms[i]? = some c)
    (c' : HandshakeCivCom) (hport : c'.port = c.port)
    (hsem : c'.semaphore = c.semaphore)
    (hrel : c'.releases = c.releases)
    (hp : s'.portSemaphores = s.portSemaphores)
    (hs : s'.semaphores = s.semaphores)
    (hc : s'.civcoms = s.civcoms.set i c')
    (hloop : s'.loop = s.loop ∨ ∀ port semaphore,
      s'.loop ≠ .acquiring port semaphore
        ∧ s'.loop ≠ .queued port semaphore) : s'.Accounts where
  accounted semaphore hlt := by
    have hbefore := h.accounted semaphore (hs ▸ hlt)
    have hsum := sum_map_set (share semaphore) hi c'
    have hshare : share semaphore c' = share semaphore c := by
      unfold share
      rw [hsem, hrel]
    have hout : s'.outOf semaphore = s.outOf semaphore := by
      unfold outOf
      rw [hc]
      omega
    unfold value at hbefore ⊢
    rw [hs, hout]
    exact hbefore
  current d hd hr := by
    rw [hc] at hd
    rw [hp]
    rcases List.mem_or_eq_of_mem_set hd with hd | hd
    · exact h.current d hd hr
    · rw [hd] at hr ⊢
      rw [hport, hsem]
      exact h.current c (List.mem_of_getElem? hi) (hrel ▸ hr)
  listed port semaphore hget := by
    rw [hs]
    exact h.listed port semaphore (hp ▸ hget)
  acquiring port semaphore hat := by
    rcases hloop with hloop | hloop
    · rw [hp]
      exact h.acquiring port semaphore (hloop ▸ hat)
    · exact absurd hat (hloop port semaphore).1
  queued port semaphore hat := by
    rcases hloop with hloop | hloop
    · rw [hp]
      exact h.queued port semaphore (hloop ▸ hat)
    · exact absurd hat (hloop port semaphore).2

theorem Accounts.moveTo (h : s.Accounts) (stage : Option ReleaseStage) :
    (s.moveTo i stage who).Accounts where
  accounted semaphore hlt := by
    have hbefore := h.accounted semaphore (by simpa using hlt)
    simpa [value, outOf] using hbefore
  current d hd hr := by
    simpa using h.current d (by simpa using hd) hr
  listed port semaphore hget := by
    simpa using h.listed port semaphore (by simpa using hget)
  acquiring port semaphore hat := by
    rw [moveTo_portSemaphores]
    rcases s.moveTo_loop i stage who with hloop | hloop | ⟨stage', hloop⟩
    · exact h.acquiring port semaphore (hloop ▸ hat)
    · rw [hloop] at hat
      cases hat
    · rw [hloop] at hat
      cases hat
  queued port semaphore hat := by
    rw [moveTo_portSemaphores]
    rcases s.moveTo_loop i stage who with hloop | hloop | ⟨stage', hloop⟩
    · exact h.queued port semaphore (hloop ▸ hat)
    · rw [hloop] at hat
      cases hat
    · rw [hloop] at hat
      cases hat

theorem Accounts.giveBack (h : s.Accounts) (hi : s.civcoms[i]? = some c)
    (hr : c.releases = 0) : (s.giveBack i c c.semaphore).Accounts where
  accounted semaphore hlt := by
    have hmade := h.made hi hr
    have hbefore := h.accounted semaphore (by
      simpa [Handshakes.giveBack] using hlt)
    have hsum := sum_map_set (share semaphore) hi
      { c with releases := c.releases + 1 }
    have hafter : share semaphore { c with releases := c.releases + 1 } = 0 :=
      if_neg fun hand => absurd hand.2 (Nat.succ_ne_zero _)
    have hout : (s.giveBack i c c.semaphore).outOf semaphore
          + share semaphore c = s.outOf semaphore := by
      rw [hafter] at hsum
      exact hsum
    have hvalue : (s.giveBack i c c.semaphore).value semaphore
        = if semaphore = c.semaphore then s.value c.semaphore + 1
          else s.value semaphore := value_of_set _ _ hmade _
    rw [hvalue]
    by_cases hsem : semaphore = c.semaphore
    · have hshare : share semaphore c = 1 := if_pos ⟨hsem.symm, hr⟩
      rw [if_pos hsem]
      rw [hsem] at hbefore hout hshare ⊢
      omega
    · have hshare : share semaphore c = 0 :=
        if_neg fun hand => hsem hand.1.symm
      rw [if_neg hsem]
      omega
  current d hd hr' := by
    rcases List.mem_or_eq_of_mem_set hd with hd | hd
    · exact h.current d hd hr'
    · rw [hd] at hr'
      cases hr'
  listed port semaphore hget := by
    have hlt := h.listed port semaphore hget
    simpa [Handshakes.giveBack] using hlt
  acquiring := h.acquiring
  queued := h.queued

theorem Accounts.acquired (h : s.Accounts) {port : Int} {semaphore : Nat}
    (hport : s.portSemaphores.get? port = some semaphore)
    (hpos : 0 < s.value semaphore) : (s.acquired port semaphore).Accounts where
  accounted sem hlt := by
    have hmade := h.listed port semaphore hport
    have hbefore := h.accounted sem (by
      simpa [Handshakes.acquired] using hlt)
    have hvalue : (s.acquired port semaphore).value sem
        = if sem = semaphore then s.value semaphore - 1
          else s.value sem := value_of_set _ _ hmade _
    have hout : (s.acquired port semaphore).outOf sem
        = s.outOf sem + if sem = semaphore then 1 else 0 := by
      unfold outOf Handshakes.acquired
      rw [List.map_append, List.sum_append]
      by_cases hsem : sem = semaphore
      · simp [share, hsem]
      · have hne : ¬ semaphore = sem := fun h => hsem h.symm
        simp [share, hsem, hne]
    rw [hvalue, hout]
    by_cases hsem : sem = semaphore
    · rw [if_pos hsem, if_pos hsem]
      rw [hsem] at hbefore ⊢
      omega
    · rw [if_neg hsem, if_neg hsem]
      omega
  current d hd hr := by
    rcases List.mem_append.mp hd with hd | hd
    · exact h.current d hd hr
    · rw [List.mem_singleton.mp hd]
      exact hport
  listed p sem hget := by
    have hlt := h.listed p sem hget
    simpa [Handshakes.acquired] using hlt
  acquiring p sem hat := by cases hat
  queued p sem hat := by cases hat

theorem get?_getPortSemaphore (s : Handshakes) (port : Int) :
    (s.getPortSemaphore port).1.portSemaphores.get? port
      = some (s.getPortSemaphore port).2 := by
  unfold Handshakes.getPortSemaphore
  cases hget : s.portSemaphores.get? port with
  | none => simp
  | some semaphore => exact hget

theorem Accounts.getPortSemaphore (h : s.Accounts) (hidle : s.loop = .idle)
    (port : Int) : (s.getPortSemaphore port).1.Accounts := by
  unfold Handshakes.getPortSemaphore
  cases hport : s.portSemaphores.get? port with
  | some semaphore => exact h
  | none =>
    have hother : ∀ p semaphore, s.portSemaphores.get? p = some semaphore →
        (s.portSemaphores.set port s.semaphores.length).get? p
          = some semaphore := by
      intro p semaphore hget
      rw [Dict.get?_set_of_ne]
      · exact hget
      · intro hp
        rw [hp, hport] at hget
        cases hget
    constructor
    · intro semaphore hlt
      have hlt' : semaphore < s.semaphores.length + 1 := by simpa using hlt
      by_cases hnew : semaphore = s.semaphores.length
      · have hzero : s.outOf semaphore = 0 := by
          refine outOf_eq_zero fun c hc hr hsem => ?_
          have hmade := h.listed c.port c.semaphore (h.current c hc hr)
          omega
        have hvalue : (s.semaphores ++ [maxConcurrentHandshakes]).getD
            semaphore 0 = maxConcurrentHandshakes := by
          simp [List.getD_eq_getElem?_getD, hnew]
        show (s.semaphores ++ [maxConcurrentHandshakes]).getD semaphore 0
          + s.outOf semaphore = maxConcurrentHandshakes
        omega
      · have hold : semaphore < s.semaphores.length := by omega
        have hvalue : (s.semaphores ++ [maxConcurrentHandshakes]).getD
            semaphore 0 = s.value semaphore := by
          unfold value
          rw [List.getD_eq_getElem?_getD, List.getD_eq_getElem?_getD,
            List.getElem?_append_left hold]
        have hbefore := h.accounted semaphore hold
        show (s.semaphores ++ [maxConcurrentHandshakes]).getD semaphore 0
          + s.outOf semaphore = maxConcurrentHandshakes
        omega
    · intro c hc hr
      exact hother c.port c.semaphore (h.current c hc hr)
    · intro p semaphore hget
      simp only [Dict.get?_set] at hget
      rw [List.length_append, List.length_singleton]
      split at hget
      · cases hget
        omega
      · have hlt := h.listed p semaphore hget
        omega
    · intro p semaphore hat
      rw [show s.loop = .idle from hidle] at hat
      cases hat
    · intro p semaphore hat
      rw [show s.loop = .idle from hidle] at hat
      cases hat

theorem Accounts.cleanup (h : s.Accounts) {port : Int}
    (hunder : s.underway port = 0) (hwaits : ¬ s.WaitsFor port) :
    (s.cleanupPortSemaphore port).Accounts where
  accounted := h.accounted
  current c hc hr := by
    have hne : c.port ≠ port :=
      fun hp => underway_eq_zero_iff.mp hunder c hc hp hr
    exact (Dict.get?_erase_of_ne _ hne).trans (h.current c hc hr)
  listed p semaphore hget := by
    have hget' : (s.portSemaphores.erase port).get? p = some semaphore := hget
    rw [Dict.get?_erase] at hget'
    split at hget'
    · cases hget'
    · exact h.listed p semaphore hget'
  acquiring p semaphore hat := by
    have hne : p ≠ port := by
      intro hp
      refine hwaits ?_
      unfold WaitsFor
      rw [show s.loop = _ from hat]
      exact hp
    exact (Dict.get?_erase_of_ne _ hne).trans (h.acquiring p semaphore hat)
  queued p semaphore hat := by
    have hne : p ≠ port := by
      intro hp
      refine hwaits ?_
      unfold WaitsFor
      rw [show s.loop = _ from hat]
      exact hp
    exact (Dict.get?_erase_of_ne _ hne).trans (h.queued p semaphore hat)

-- ==== the releases

theorem Fine.mono (h : s.Fine i c)
    (hstage : ∀ who, s.stage who i = some .released →
      s'.stage who i = some .released) : s'.Fine i c where
  once := h.once
  own := h.own
  clearing hattr hrel := by
    obtain ⟨who, hwho⟩ := h.clearing hattr hrel
    exact ⟨who, hstage who hwho⟩

theorem fine_of_unreleased (hr : c.releases = 0)
    (hown : ∀ semaphore, c.portSemaphore = some semaphore →
      semaphore = c.semaphore) : s.Fine i c where
  once := by omega
  own := hown
  clearing _ hrel := absurd hr hrel

theorem fine_of_cleared (hr : c.releases ≤ 1) (hattr : c.portSemaphore = none) :
    s.Fine i c where
  once := hr
  own semaphore hsem := by
    rw [hattr] at hsem
    cases hsem
  clearing hne := absurd hattr hne

theorem stage_of_loop (hloop : ∀ i stage, s.loop ≠ .releasing i stage)
    (hthreads : s'.threads = s.threads)
    (hstage : s.stage who i = some .released) :
    s'.stage who i = some .released := by
  cases who with
  | thread =>
    show s'.threads.get? i = some .released
    rw [hthreads]
    exact hstage
  | eventLoop =>
    unfold Handshakes.stage at hstage
    cases hat : s.loop with
    | releasing j stage => exact absurd hat (hloop j stage)
    | idle | acquiring _ _ | queued _ _ | creating _ => simp [hat] at hstage

theorem Once.loop (h : s.Once) (hloop : ∀ i stage, s.loop ≠ .releasing i stage)
    (hthreads : s'.threads = s.threads) (hciv : s'.civcoms = s.civcoms)
    (hcreating : ∀ i, s'.loop ≠ .creating i) : s'.Once where
  fine i c hi := by
    rw [hciv] at hi
    exact (h.fine i c hi).mono fun _ => stage_of_loop hloop hthreads
  creating i _ hat := absurd hat (hcreating i)

theorem Once.acquired (h : s.Once)
    (hloop : ∀ i stage, s.loop ≠ .releasing i stage) (port : Int)
    (semaphore : Nat) : (s.acquired port semaphore).Once where
  fine i c hi := by
    rcases eq_or_getElem?_of_append hi with ⟨-, hnew⟩ | hold
    · rw [hnew]
      exact fine_of_unreleased rfl fun sem hsem => by cases hsem
    · exact (h.fine i c hold).mono fun _ => stage_of_loop hloop rfl
  creating i c hat hi := by
    rcases eq_or_getElem?_of_append hi with ⟨-, hnew⟩ | hold
    · rw [hnew]
      exact ⟨rfl, rfl⟩
    · cases hat
      rw [List.getElem?_eq_none (Nat.le_refl _)] at hold
      cases hold

theorem Once.create (h : s.Once) (hat : s.loop = .creating i)
    (hthreads : s'.threads = s.threads)
    (hciv : s'.civcoms = s.civcoms.set i c') (hidle : s'.loop = .idle)
    (hfine : s'.Fine i c') : s'.Once where
  fine j d hj := by
    rw [hciv] at hj
    rcases eq_or_getElem?_of_set hj with ⟨hji, hd⟩ | ⟨-, hold⟩
    · rw [hji, hd]
      exact hfine
    · refine (h.fine j d hold).mono fun _ => stage_of_loop ?_ hthreads
      intro k stage hrel
      rw [hat] at hrel
      cases hrel
  creating j _ hat' := by
    rw [hidle] at hat'
    cases hat'

theorem Once.move (h : s.Once) (hat : s.At who i) {stage : Option ReleaseStage}
    (hciv : s'.civcoms = s.civcoms.set i c') (hloop : s'.loop = s.loop)
    (hthreads : s'.threads = s.threads)
    (hcreating : s.loop = .creating i →
      c'.releases = 0 ∧ c'.portSemaphore = none)
    (hfine : (s'.moveTo i stage who).Fine i c') :
    (s'.moveTo i stage who).Once := by
  have hsame : ∀ other j, s'.stage other j = s.stage other j := by
    intro other j
    cases other with
    | eventLoop =>
      unfold Handshakes.stage
      rw [hloop]
    | thread =>
      unfold Handshakes.stage
      rw [hthreads]
  have hat' : s'.At who i := by
    rcases hat with hfree | hstage
    · refine Or.inl ?_
      cases who with
      | eventLoop => exact hloop.trans hfree
      | thread =>
        show s'.threads.get? i = none
        rw [hthreads]
        exact hfree
    · exact Or.inr ((hsame who i).symm ▸ hstage)
  constructor
  · intro j d hj
    rw [moveTo_civcoms, hciv] at hj
    rcases eq_or_getElem?_of_set hj with ⟨hji, hd⟩ | ⟨hne, hold⟩
    · rw [hji, hd]
      exact hfine
    · refine (h.fine j d hold).mono fun other hrel => ?_
      rw [stage_moveTo_of_ne hat' stage (Or.inr hne), hsame]
      exact hrel
  · intro j d hcre hj
    rw [moveTo_civcoms, hciv] at hj
    have hbefore : s.loop = .creating j := by
      rcases s'.moveTo_loop i stage who with hl | hl | ⟨stage', hl⟩
      · exact hloop.symm.trans (hl.symm.trans hcre)
      · rw [hl] at hcre
        cases hcre
      · rw [hl] at hcre
        cases hcre
    rcases eq_or_getElem?_of_set hj with ⟨hji, hd⟩ | ⟨-, hold⟩
    · rw [hji] at hbefore
      rw [hd]
      exact hcreating hbefore
    · exact h.creating j d hbefore hold

-- ==== the steps

theorem permitted_init : Handshakes.init.Permitted where
  accounts := {
    accounted := fun semaphore h => by cases h
    current := fun c hc => by cases hc
    listed := fun port semaphore h => by cases h
    acquiring := fun port semaphore h => by cases h
    queued := fun port semaphore h => by cases h }
  once := {
    fine := fun i c h => by cases h
    creating := fun i c h => by cases h }

theorem Permitted.getPortSemaphore {port : Int} (h : s.Permitted)
    (hs : s.step (.getPortSemaphore port) = some s') : s'.Permitted := by
  simp only [step] at hs
  split at hs
  next hidle =>
    cases hs
    have hacc := h.accounts.getPortSemaphore hidle.1 port
    have hget := get?_getPortSemaphore s port
    have hciv : (s.getPortSemaphore port).1.civcoms = s.civcoms
        ∧ (s.getPortSemaphore port).1.threads = s.threads := by
      unfold Handshakes.getPortSemaphore
      split
      · exact ⟨rfl, rfl⟩
      · exact ⟨rfl, rfl⟩
    constructor
    · exact {
        accounted := hacc.accounted
        current := hacc.current
        listed := hacc.listed
        acquiring := fun p semaphore hat => by
          cases hat
          exact hget
        queued := fun p semaphore hat => by cases hat }
    · refine h.once.loop (fun i stage hrel => ?_) hciv.2 hciv.1
        fun i hcre => by cases hcre
      rw [hidle.1] at hrel
      cases hrel
  next => cases hs

theorem Permitted.acquired (h : s.Permitted) {port : Int} {semaphore : Nat}
    (hport : s.portSemaphores.get? port = some semaphore)
    (hpos : 0 < s.value semaphore)
    (hloop : ∀ i stage, s.loop ≠ .releasing i stage) :
    (s.acquired port semaphore).Permitted :=
  ⟨h.accounts.acquired hport hpos, h.once.acquired hloop port semaphore⟩

theorem Permitted.acquire (h : s.Permitted)
    (hs : s.step .acquire = some s') : s'.Permitted := by
  simp only [step] at hs
  split at hs
  next port semaphore hat =>
    have hport := h.accounts.acquiring port semaphore hat
    have hloop : ∀ i stage, s.loop ≠ .releasing i stage := by
      intro i stage hrel
      rw [hat] at hrel
      cases hrel
    split at hs
    next hpos =>
      cases hs
      exact h.acquired hport hpos hloop
    next =>
      cases hs
      constructor
      · exact {
          accounted := h.accounts.accounted
          current := h.accounts.current
          listed := h.accounts.listed
          acquiring := fun p sem hat' => by cases hat'
          queued := fun p sem hat' => by
            cases hat'
            exact hport }
      · exact h.once.loop hloop rfl rfl fun i hcre => by cases hcre
  next port semaphore hat =>
    have hport := h.accounts.queued port semaphore hat
    split at hs
    next hpos =>
      cases hs
      refine h.acquired hport hpos fun i stage hrel => ?_
      rw [hat] at hrel
      cases hrel
    next => cases hs
  next => cases hs

theorem Permitted.create {started : Bool} (h : s.Permitted)
    (hs : s.step (.create started) = some s') : s'.Permitted := by
  simp only [step] at hs
  split at hs
  next i hat =>
    obtain ⟨c, hi, hs⟩ := Option.map_eq_some_iff.mp hs
    obtain ⟨hrel, hattr⟩ := h.once.creating i c hat hi
    have hleft : ∀ port semaphore, LoopAt.idle ≠ .acquiring port semaphore
        ∧ LoopAt.idle ≠ .queued port semaphore :=
      fun port semaphore => ⟨LoopAt.noConfusion, LoopAt.noConfusion⟩
    cases started with
    | true =>
      cases hs
      refine ⟨h.accounts.replace hi
        { c with portSemaphore := some c.semaphore, started := true }
        rfl rfl rfl rfl rfl rfl (Or.inr hleft),
        h.once.create hat rfl rfl rfl ?_⟩
      refine fine_of_unreleased hrel fun semaphore hsem => ?_
      cases hsem
      rfl
    | false =>
      cases hs
      have hback := h.accounts.giveBack hi hrel
      refine ⟨{
        accounted := hback.accounted
        current := hback.current
        listed := hback.listed
        acquiring := fun p sem hat' => by cases hat'
        queued := fun p sem hat' => by cases hat' },
        h.once.create hat rfl rfl rfl ?_⟩
      refine fine_of_cleared ?_ hattr
      show c.releases + 1 ≤ 1
      omega
  next => cases hs

theorem Permitted.test (h : s.Permitted)
    (hs : s.step (.test who i) = some s') : s'.Permitted := by
  simp only [step] at hs
  obtain ⟨c, hi, hs⟩ := Option.bind_eq_some_iff.mp hs
  split at hs
  next hfree =>
    split at hs
    next =>
      cases hs
      exact h
    next =>
      cases hs
      have hset : s.civcoms = s.civcoms.set i c := by
        obtain ⟨hlt, hget⟩ := List.getElem?_eq_some_iff.mp hi
        rw [← hget, List.set_getElem_self]
      refine ⟨h.accounts.moveTo _, h.once.move (Or.inl hfree.2) hset rfl rfl
        (fun hloop => h.once.creating i c hloop hi) ?_⟩
      refine (h.once.fine i c hi).mono fun other hrel => ?_
      -- who starts a call is in none
      have hne : other ≠ who := by
        intro hother
        rw [hother] at hrel
        have hnone := hfree.2
        cases who with
        | thread =>
          have hget : s.threads.get? i = none := hnone
          have hrel' : s.threads.get? i = some .released := hrel
          rw [hget] at hrel'
          cases hrel'
        | eventLoop =>
          have hidle : s.loop = .idle := hnone
          unfold Handshakes.stage at hrel
          rw [hidle] at hrel
          cases hrel
      rw [stage_moveTo_of_ne (Or.inl hfree.2) _ (Or.inl hne)]
      exact hrel
  next => cases hs

theorem Permitted.release (h : s.Permitted)
    (hc : s.Exclusive (.release who i))
    (hs : s.step (.release who i) = some s') : s'.Permitted := by
  simp only [step] at hs
  split at hs
  next hstage =>
    obtain ⟨c, hi, hs⟩ := Option.map_eq_some_iff.mp hs
    have hfine := h.once.fine i c hi
    have hat : s.At who i := Or.inr (hstage ▸ Option.some_ne_none _)
    cases hattr : c.portSemaphore with
    | none =>
      rw [hattr] at hs
      cases hs
      have hset : s.civcoms = s.civcoms.set i c := by
        obtain ⟨hlt, hget⟩ := List.getElem?_eq_some_iff.mp hi
        rw [← hget, List.set_getElem_self]
      exact ⟨h.accounts.moveTo _, h.once.move hat hset rfl rfl
        (fun hloop => h.once.creating i c hloop hi)
        (fine_of_cleared hfine.once hattr)⟩
    | some semaphore =>
      rw [hattr] at hs
      cases hs
      have hsem : semaphore = c.semaphore := hfine.own semaphore hattr
      -- nobody is about to clear, so nobody has released
      have hrel : c.releases = 0 := by
        by_contra hrel
        obtain ⟨other, hother⟩ :=
          hfine.clearing (hattr ▸ Option.some_ne_none _) hrel
        by_cases heq : other = who
        · rw [heq, hstage] at hother
          cases hother
        · have hswap : other = who.other := by
            cases who <;> cases other <;> simp_all [Releaser.other]
          exact hc (hswap ▸ hother)
      refine ⟨?_, h.once.move hat rfl rfl rfl (fun hloop => ?_) ?_⟩
      · rw [hsem]
        exact (h.accounts.giveBack hi hrel).moveTo _
      · have hnone := (h.once.creating i c hloop hi).2
        rw [hattr] at hnone
        cases hnone
      · exact {
          once := by
            show c.releases + 1 ≤ 1
            omega
          own := hfine.own
          clearing := fun _ _ => ⟨who, stage_moveTo _⟩ }
  next => cases hs

theorem Permitted.clear (h : s.Permitted)
    (hs : s.step (.clear who i) = some s') : s'.Permitted := by
  simp only [step] at hs
  split at hs
  next hstage =>
    obtain ⟨c, hi, hs⟩ := Option.map_eq_some_iff.mp hs
    cases hs
    have hat : s.At who i := Or.inr (hstage ▸ Option.some_ne_none _)
    have hreplace : (s.cleared i c).Accounts :=
      h.accounts.replace hi
        { c with portSemaphore := none, handshakeComplete := true }
        rfl rfl rfl rfl rfl rfl (Or.inl rfl)
    refine ⟨hreplace.moveTo none, h.once.move hat rfl rfl rfl
      (fun hloop => ⟨(h.once.creating i c hloop hi).1, rfl⟩)
      (fine_of_cleared (h.once.fine i c hi).once rfl)⟩
  next => cases hs

theorem Permitted.cleanup {port : Int} (h : s.Permitted)
    (hc : s.Exclusive (.cleanupPortSemaphore port)) :
    (s.cleanupPortSemaphore port).Permitted where
  accounts := h.accounts.cleanup hc.1 hc.2
  once := {
    fine := fun i c hi => (h.once.fine i c hi).mono fun _ => id
    creating := h.once.creating }

theorem Permitted.step {act : HandshakeAct} (h : s.Permitted)
    (hc : s.Exclusive act) (hs : s.step act = some s') : s'.Permitted := by
  cases act with
  | getPortSemaphore port => exact h.getPortSemaphore hs
  | acquire => exact h.acquire hs
  | create started => exact h.create hs
  | test who i => exact h.test hs
  | release who i => exact h.release hc hs
  | clear who i => exact h.clear hs
  | cleanupPortSemaphore port =>
    cases hs
    exact h.cleanup hc

-- ==== the runs

/-- In every state of a run whose steps are all exclusive no permit was
released twice, and no port has more permits out than there are. -/
theorem conserved_of_exclusive (h : handshakeRuns.ReachVia Exclusive s) :
    s.Conserved := by
  have hpermitted : s.Permitted :=
    h.invariant (fun _ hinit => hinit ▸ permitted_init)
      fun _ _ _ hI hc hs => hI.step hc hs
  exact hpermitted.conserved

def connect : List HandshakeAct :=
  [.getPortSemaphore 6001, .acquire, .create true]

/-- It joins, and its page is closed after the thread has cleared. -/
def joined : List HandshakeAct :=
  connect ++ [.test .thread 0, .release .thread 0, .clear .thread 0,
    .test .eventLoop 0, .cleanupPortSemaphore 6001]

/-- Its page is closed while the thread is past the `None` test. -/
def closedWhileJoining : List HandshakeAct :=
  connect ++ [.test .thread 0, .test .eventLoop 0, .release .thread 0,
    .release .eventLoop 0]

/-- The port is cleaned up, and six more observers connect. -/
def cleanedUp : List HandshakeAct :=
  connect ++ .cleanupPortSemaphore 6001
    :: (List.replicate 6 connect).flatten

/-- The theorem at a run with a join, a close and a clean-up. -/
theorem conserved_joined :
    ((handshakeRuns.exec init joined).getD init).Conserved :=
  conserved_of_exclusive (Lts.ReachVia.exec (.init rfl)
    (by decide : handshakeRuns.Along Exclusive init joined) rfl)

/-- The permit is released twice; and seven handshakes are under way. -/
theorem permits_not_conserved :
    ∃ s t, handshakeRuns.exec init closedWhileJoining = some s
      ∧ handshakeRuns.exec init cleanedUp = some t
      ∧ ¬ s.Conserved ∧ s.civcoms.map HandshakeCivCom.releases = [2]
      ∧ ¬ t.Conserved ∧ t.underway 6001 = 7 := by
  refine ⟨_, _, rfl, rfl, ?_, by decide, ?_, by decide⟩
  · intro h
    have honce := h.once _ (List.mem_of_getElem? (i := 0) rfl)
    exact absurd honce (by decide)
  · intro h
    exact absurd (h.bounded 6001) (by decide)

end Handshakes

end Freeciv3d.Proxy
