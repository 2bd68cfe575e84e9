/-
A suspension is resumed once, and no token is tried without being
counted, in every run in which a call counts its attempt on the row it
has read.

# The point of failure

The `SELECT` locks nothing, and the `UPDATE` that counts the attempt
writes a value computed from what the `SELECT` read. When another call
has committed in between, the count it wrote is overwritten, and the
session it may have resumed is resumed once more.

# The invariant

From the count on the row is locked, so what the call has decided on
stays true until it commits (`Pending`), and every row can account for
its tally (`Accounts`). While a call holds a right token the check is in
the tally and not yet in the row.
-/
import Freeciv3d.Lib.Tasks
import Freeciv3d.Proxy.Proofs.SessionCapacity

namespace Freeciv3d.Proxy

open Lib
open MySQLSessionManager (hasId Keyed)

variable {l : SessionLimits} {verifyToken : String → String → Bool}
  {collate : String → String} {s s' : ResumeRun} {i : Nat}
  {c : ResumeCall} {r : SessionInfo} {sid : String}

-- ==== the steps

namespace ResumeRun

/-- What a statement of call `i` does. -/
inductive Takes (l : SessionLimits)
    (verifyToken : String → String → Bool) (collate : String → String)
    (s : ResumeRun) (i : Nat) (c : ResumeCall) : ResumeRun → Prop
  | moves {p : ResumePhase} (hold : c.phase.locks = none)
      (hp : p.locks = none) :
      Takes l verifyToken collate s i c (s.goto i c p)
  | counts {row : SessionInfo} (hc : c.phase = .selected row)
      (hfree : s.isLocked row.sessionId = false) :
      Takes l verifyToken collate s i c
        (s.goto i c (.counted row (s.countedRow collate row)))
  | refused {row work : SessionInfo} (hc : c.phase = .counted row work) :
      Takes l verifyToken collate s i c
        ((s.commit collate work).goto i c (.returned none))
  | wrong {row work : SessionInfo} (hc : c.phase = .counted row work)
      (hle : row.resumeAttempts < l.maxResumeAttempts) :
      Takes l verifyToken collate s i c
        ((((s.tallied row.sessionId fun t =>
            { t with checked := t.checked + 1 }).tallied row.sessionId
          fun t => { t with wrong := t.wrong + 1 }).commit collate
            work).goto i c (.returned none))
  | right {row work : SessionInfo} (hc : c.phase = .counted row work)
      (hle : row.resumeAttempts < l.maxResumeAttempts) :
      Takes l verifyToken collate s i c
        ((s.tallied row.sessionId fun t =>
          { t with checked := t.checked + 1 }).goto i c
            (.granted row (s.activeRow row work)))
  | resumes {row work : SessionInfo} (hc : c.phase = .granted row work)
      (info : SessionInfo) :
      Takes l verifyToken collate s i c
        (((s.tallied row.sessionId fun t =>
          { returned := t.returned + 1, checked := 0, wrong := 0 }).commit
            collate work).goto i c (.returned (some info)))

theorem takes_of_statement
    (h : s.statement collate l verifyToken i = some s') :
    ∃ c, s.calls[i]? = some c ∧ Takes l verifyToken collate s i c s' := by
  unfold statement at h
  obtain ⟨c, hc, h⟩ := Option.bind_eq_some_iff.mp h
  refine ⟨c, hc, ?_⟩
  cases hp : c.phase with
  | begun =>
    rw [hp] at h
    dsimp only at h
    split at h <;> cases h
    · exact .moves (by rw [hp]; rfl) rfl
    · exact .moves (by rw [hp]; rfl) rfl
  | selected row =>
    rw [hp] at h
    dsimp only at h
    split at h
    case isTrue => cases h
    case isFalse hfree =>
      cases h
      exact .counts hp (by simpa using hfree)
  | counted row work =>
    rw [hp] at h
    dsimp only at h
    split at h
    case isTrue =>
      cases h
      exact .refused hp
    case isFalse hle =>
      split at h <;> cases h
      · exact .right hp (by omega)
      · exact .wrong hp (by omega)
  | granted row work =>
    rw [hp] at h
    cases h
    exact .resumes hp _
  | returned session =>
    rw [hp] at h
    cases h

end ResumeRun

/-- An `UPDATE` sets what it says, and `last_activity`. -/
theorem exists_stamped (now : Int) (f : SessionInfo → SessionInfo)
    (r : SessionInfo) : ∃ t, MySQLSessionManager.stamped now f r
      = { f r with lastActivity := t } := by
  unfold MySQLSessionManager.stamped
  split
  next h => exact ⟨r.lastActivity, by rw [h]⟩
  next => exact ⟨now, rfl⟩

-- ==== the invariant

/-- What a call that has a row locked relies on. -/
def ResumePhase.Pending (r : SessionInfo) : ResumePhase → Prop
  | .counted row work =>
    r.state = .suspended ∧ row.resumeAttempts = r.resumeAttempts
      ∧ work.sessionId = r.sessionId ∧ work.state = .suspended
      ∧ work.resumeAttempts = r.resumeAttempts + 1
  | .granted _ work =>
    r.state = .suspended ∧ work.sessionId = r.sessionId
      ∧ work.state = .active
  | _ => True

/-- A row accounts for its tally; a check of a right token is counted
when its call commits. -/
structure Accounts (l : SessionLimits) (t : ResumeTally) (r : SessionInfo)
    (granted : Prop) : Prop where
  returned : t.returned ≤ 1
  fresh : r.state = .suspended → t.returned = 0
  wrong : t.wrong ≤ r.resumeAttempts
  checked : t.checked ≤ l.maxResumeAttempts
  counted : ¬ granted → t.checked ≤ r.resumeAttempts

theorem Accounts.mono {t : ResumeTally} {g g' : Prop}
    (h : Accounts l t r g) (hg : g → g') : Accounts l t r g' :=
  ⟨h.returned, h.fresh, h.wrong, h.checked, fun hn => h.counted (hn ∘ hg)⟩

namespace ResumeRun

/-- A call holds a right token for the session. -/
def Grants (s : ResumeRun) (sid : String) : Prop :=
  ∃ c ∈ s.calls, ∃ row work, c.phase = .granted row work
    ∧ row.sessionId = sid

structure Sound (l : SessionLimits) (collate : String → String)
    (s : ResumeRun) : Prop where
  keyed : s.db.Keyed collate
  exclusive : ∀ (i j : Nat) (c c' : ResumeCall) (sid : String),
    s.calls[i]? = some c → s.calls[j]? = some c' →
    c.phase.locks = some sid → c'.phase.locks = some sid → i = j
  pending : ∀ c ∈ s.calls, ∀ sid, c.phase.locks = some sid →
    ∃ r ∈ s.db.rows, r.sessionId = sid ∧ c.phase.Pending r
  accounts : ∀ r ∈ s.db.rows,
    Accounts l (s.tally r.sessionId) r (s.Grants r.sessionId)

theorem Grants.of_set (h : s.Grants sid) (hc : s.calls[i]? = some c)
    (hnot : c.phase.locks ≠ some sid) {c' : ResumeCall}
    (hcalls : s'.calls = s.calls.set i c') : s'.Grants sid := by
  obtain ⟨u, hu, row, work, hp, hid⟩ := h
  rcases eq_or_mem_set hc c' hu with rfl | hmem
  · refine absurd ?_ hnot
    rw [hp, ← hid]
    rfl
  · exact ⟨u, hcalls ▸ hmem, row, work, hp, hid⟩

/-- A call goes on: it keeps its lock, or takes one that is free, and
touches only the row it has locked. -/
theorem Sound.advance (h : s.Sound l collate) (hc : s.calls[i]? = some c)
    {p : ResumePhase}
    (hcalls : s'.calls = s.calls.set i { c with phase := p })
    (hkeyed : s'.db.Keyed collate)
    (hlocks : ∀ sid, p.locks = some sid →
      c.phase.locks = some sid ∨ s.isLocked sid = false)
    (hrows : ∀ r ∈ s.db.rows, c.phase.locks ≠ some r.sessionId →
      r ∈ s'.db.rows)
    (hpending : ∀ sid, p.locks = some sid →
      ∃ r ∈ s'.db.rows, r.sessionId = sid ∧ p.Pending r)
    (haccounts : ∀ r ∈ s'.db.rows,
      Accounts l (s'.tally r.sessionId) r (s'.Grants r.sessionId)) :
    s'.Sound l collate := by
  -- the lock of the call that went on is no other call's
  have hother : ∀ (j : Nat) (u : ResumeCall) (sid : String),
      j ≠ i → s.calls[j]? = some u → u.phase.locks = some sid →
      p.locks ≠ some sid := by
    intro j u sid hji hj hu hp
    rcases hlocks sid hp with hold | hfree
    · exact hji (h.exclusive j i u c sid hj hc hu hold)
    · unfold isLocked at hfree
      rw [List.any_eq_false] at hfree
      exact hfree u (List.mem_of_getElem? hj) (by simp [hu])
  refine ⟨hkeyed, ?_, ?_, haccounts⟩
  · intro j k u u' sid hj hk hu hu'
    rw [hcalls] at hj hk
    rcases eq_or_getElem?_of_set hj with ⟨hji, rfl⟩ | ⟨hji, hj'⟩
    · rcases eq_or_getElem?_of_set hk with ⟨hki, -⟩ | ⟨hki, hk'⟩
      · rw [hji, hki]
      · exact absurd hu (hother k u' sid hki hk' hu')
    · rcases eq_or_getElem?_of_set hk with ⟨-, rfl⟩ | ⟨-, hk'⟩
      · exact absurd hu' (hother j u sid hji hj' hu)
      · exact h.exclusive j k u u' sid hj' hk' hu hu'
  · intro u hu sid husid
    obtain ⟨j, hj⟩ := List.mem_iff_getElem?.mp hu
    rw [hcalls] at hj
    rcases eq_or_getElem?_of_set hj with ⟨-, rfl⟩ | ⟨hji, hj⟩
    · exact hpending sid husid
    · obtain ⟨r, hr, hid, hpend⟩ :=
        h.pending u (List.mem_of_getElem? hj) sid husid
      refine ⟨r, hrows r hr ?_, hid, hpend⟩
      intro hold
      rw [hid] at hold
      exact hji (h.exclusive j i u c sid hj hc husid hold)

-- ==== the commit

theorem Sound.keyed_commit (h : s.Sound l collate) (work : SessionInfo) :
    (s.commit collate work).db.Keyed collate := by
  have hkeys : (Sql.update s.db.rows (hasId collate work.sessionId)
        fun _ => work).map (fun r => collate r.sessionId)
      = s.db.rows.map fun r => collate r.sessionId :=
    Sql.map_key_update_of _ fun r hr => (beq_iff_eq.mp hr).symm
  show (List.map _ (Sql.update _ _ _)).Nodup
  rw [hkeys]
  exact h.keyed

theorem mem_commit_iff (hk : s.db.Keyed collate) {r₀ work : SessionInfo}
    (hr₀ : r₀ ∈ s.db.rows) (hid : work.sessionId = r₀.sessionId) :
    r ∈ (s.commit collate work).db.rows ↔
      r = work ∨ (r ∈ s.db.rows ∧ r.sessionId ≠ work.sessionId) := by
  have hrow : ∀ u ∈ s.db.rows,
      hasId collate work.sessionId u = true ↔ u = r₀ := by
    intro u hu
    unfold hasId
    rw [beq_iff_eq, hid]
    constructor
    · exact Sql.eq_of_key_eq hk hu hr₀
    · intro h
      rw [h]
  show r ∈ Sql.update _ _ _ ↔ _
  rw [Sql.mem_update_iff]
  constructor
  · rintro ⟨u, hu, rfl⟩
    split
    next => exact .inl rfl
    next hne =>
      refine .inr ⟨hu, fun heq => hne ?_⟩
      rw [hrow u hu]
      exact Sql.eq_of_key_eq hk hu hr₀ (by rw [heq, hid])
  · rintro (rfl | ⟨hr, hne⟩)
    · exact ⟨r₀, hr₀, by rw [if_pos ((hrow r₀ hr₀).mpr rfl)]⟩
    · refine ⟨r, hr, ?_⟩
      rw [if_neg fun hp => hne ?_]
      rw [(hrow r hr).mp hp, hid]

theorem Sound.commit (h : s.Sound l collate) (hc : s.calls[i]? = some c)
    {r₀ work : SessionInfo} (hr₀ : r₀ ∈ s.db.rows)
    (hlock : c.phase.locks = some r₀.sessionId)
    (hid : work.sessionId = r₀.sessionId) {session : Option SessionInfo}
    (hcalls : s'.calls = s.calls.set i { c with
      phase := .returned session })
    (hdb : s'.db = (s.commit collate work).db)
    (htally : ∀ sid, sid ≠ r₀.sessionId → s'.tally sid = s.tally sid)
    (hacc : Accounts l (s'.tally r₀.sessionId) work False) :
    s'.Sound l collate := by
  refine h.advance hc hcalls (hdb ▸ h.keyed_commit work)
    (fun _ hp => (by cases hp)) ?_ (fun _ hp => (by cases hp)) ?_
  · intro r hr hnot
    rw [hdb, mem_commit_iff h.keyed hr₀ hid]
    refine .inr ⟨hr, fun heq => hnot ?_⟩
    rw [hlock, heq, hid]
  · intro r hr
    rw [hdb, mem_commit_iff h.keyed hr₀ hid] at hr
    rcases hr with rfl | ⟨hr, hne⟩
    · rw [hid]
      exact hacc.mono False.elim
    · rw [hid] at hne
      rw [htally _ hne]
      refine (h.accounts r hr).mono fun hg => hg.of_set hc ?_ hcalls
      rw [hlock]
      exact fun heq => hne (Option.some.inj heq).symm

/-- Who has counted an attempt has the lock, so nobody is granted. -/
theorem Sound.not_grants (h : s.Sound l collate)
    (hc : s.calls[i]? = some c) {row work : SessionInfo}
    (hp : c.phase = .counted row work) : ¬ s.Grants row.sessionId := by
  rintro ⟨u, hu, row', work', hu', hid⟩
  obtain ⟨j, hj⟩ := List.mem_iff_getElem?.mp hu
  have hij := h.exclusive i j c u row.sessionId hc hj (by rw [hp]; rfl)
    (by rw [hu', ← hid]; rfl)
  subst hij
  rw [hc] at hj
  cases hj
  rw [hp] at hu'
  cases hu'

theorem Sound.pending_counted (h : s.Sound l collate)
    (hc : s.calls[i]? = some c) {row work : SessionInfo}
    (hp : c.phase = .counted row work) :
    ∃ r ∈ s.db.rows, c.phase.locks = some r.sessionId
      ∧ row.sessionId = r.sessionId ∧ r.state = .suspended
      ∧ row.resumeAttempts = r.resumeAttempts
      ∧ work.sessionId = r.sessionId ∧ work.state = .suspended
      ∧ work.resumeAttempts = r.resumeAttempts + 1
      ∧ Accounts l (s.tally r.sessionId) r False := by
  obtain ⟨r, hr, hid, hpend⟩ := h.pending c (List.mem_of_getElem? hc)
    row.sessionId (by rw [hp]; rfl)
  rw [hp] at hpend
  obtain ⟨hs, ha, hw, hws, hwa⟩ := hpend
  refine ⟨r, hr, by rw [hp, hid]; rfl, hid.symm, hs, ha, hw, hws, hwa, ?_⟩
  refine (h.accounts r hr).mono fun hg => h.not_grants hc hp ?_
  rwa [hid] at hg

-- ==== what each step keeps

theorem Sound.moves (h : s.Sound l collate) (hc : s.calls[i]? = some c)
    {p : ResumePhase} (hold : c.phase.locks = none)
    (hp : p.locks = none) : (s.goto i c p).Sound l collate := by
  refine h.advance hc rfl h.keyed ?_ (fun r hr _ => hr) ?_ ?_
  · intro sid hsid
    rw [hp] at hsid
    cases hsid
  · intro sid hsid
    rw [hp] at hsid
    cases hsid
  · intro r hr
    refine (h.accounts r hr).mono fun hg => hg.of_set hc ?_ rfl
    rw [hold]
    exact fun hn => by cases hn

theorem Sound.refused (h : s.Sound l collate) (hc : s.calls[i]? = some c)
    {row work : SessionInfo} (hp : c.phase = .counted row work) :
    ((s.commit collate work).goto i c (.returned none)).Sound l
      collate := by
  obtain ⟨r, hr, hlock, -, hs, -, hid, hws, hwa, hacc⟩ :=
    h.pending_counted hc hp
  refine h.commit hc hr hlock hid rfl rfl (fun _ _ => rfl) ?_
  show Accounts l (s.tally r.sessionId) work False
  have hwrong := hacc.wrong
  have hcounted := hacc.counted id
  exact ⟨hacc.returned, fun _ => hacc.fresh hs, by omega, hacc.checked,
    fun _ => by omega⟩

theorem Sound.wrong (h : s.Sound l collate) (hc : s.calls[i]? = some c)
    {row work : SessionInfo} (hp : c.phase = .counted row work)
    (hle : row.resumeAttempts < l.maxResumeAttempts) :
    ((((s.tallied row.sessionId fun t =>
        { t with checked := t.checked + 1 }).tallied row.sessionId
      fun t => { t with wrong := t.wrong + 1 }).commit collate
        work).goto i c (.returned none)).Sound l collate := by
  obtain ⟨r, hr, hlock, hrow, hs, ha, hid, hws, hwa, hacc⟩ :=
    h.pending_counted hc hp
  refine h.commit hc hr hlock hid rfl rfl ?_ ?_
  · intro sid hne
    rw [← hrow] at hne
    simp [goto, ResumeRun.commit, tallied, hne]
  · have hwrong := hacc.wrong
    have hcounted := hacc.counted id
    have hreturned := hacc.returned
    have hfresh := hacc.fresh hs
    rw [← hrow] at hwrong hcounted hreturned hfresh ⊢
    refine ⟨?_, fun _ => ?_, ?_, ?_, fun _ => ?_⟩ <;>
      simp [goto, ResumeRun.commit, tallied] <;> omega

theorem Sound.right (h : s.Sound l collate) (hc : s.calls[i]? = some c)
    {row work : SessionInfo} (hp : c.phase = .counted row work)
    (hle : row.resumeAttempts < l.maxResumeAttempts) :
    ((s.tallied row.sessionId fun t =>
        { t with checked := t.checked + 1 }).goto i c
      (.granted row (s.activeRow row work))).Sound l collate := by
  obtain ⟨r, hr, hlock, hrow, hs, ha, hid, hws, hwa, hacc⟩ :=
    h.pending_counted hc hp
  refine h.advance hc rfl h.keyed ?_ (fun r hr _ => hr) ?_ ?_
  · intro sid hsid
    rw [hp]
    exact .inl hsid
  · intro sid hsid
    cases hsid
    obtain ⟨t, ht⟩ := exists_stamped s.now (fun u => { u with
      state := .active
      lastActivity := s.now
      connectionCount := row.connectionCount + 1
      resumeAttempts := 0 }) work
    refine ⟨r, hr, hrow.symm, hs, ?_, ?_⟩
    · unfold activeRow
      rw [ht]
      exact hid
    · unfold activeRow
      rw [ht]
  · intro u hu
    by_cases hur : u.sessionId = r.sessionId
    · have hut : u = r := Sql.eq_of_key_eq h.keyed hu hr (by rw [hur])
      have hcounted := hacc.counted id
      have hgrants : ((s.tallied row.sessionId fun t =>
            { t with checked := t.checked + 1 }).goto i c
          (.granted row (s.activeRow row work))).Grants u.sessionId :=
        ⟨_, mem_set_self hc _, row, _, rfl, hrow.trans hur.symm⟩
      rw [hut, ← hrow] at hgrants ⊢
      rw [← hrow] at hacc hcounted
      refine ⟨?_, fun _ => ?_, ?_, ?_, fun hn => absurd hgrants hn⟩
      · simpa [goto, tallied] using hacc.returned
      · simpa [goto, tallied] using hacc.fresh hs
      · simpa [goto, tallied] using hacc.wrong
      · simp only [goto, tallied, Function.update_self]
        omega
    · have htally : ((s.tallied row.sessionId fun t =>
            { t with checked := t.checked + 1 }).goto i c
          (.granted row (s.activeRow row work))).tally u.sessionId
          = s.tally u.sessionId := by
        rw [← hrow] at hur
        simp [goto, tallied, hur]
      rw [htally]
      refine (h.accounts u hu).mono fun hg => hg.of_set hc ?_ rfl
      rw [hlock]
      exact fun heq => hur (Option.some.inj heq).symm

theorem Sound.resumes (h : s.Sound l collate) (hc : s.calls[i]? = some c)
    {row work : SessionInfo} (hp : c.phase = .granted row work)
    (info : SessionInfo) :
    (((s.tallied row.sessionId fun t =>
        { returned := t.returned + 1, checked := 0, wrong := 0 }).commit
          collate work).goto i c (.returned (some info))).Sound l
      collate := by
  obtain ⟨r, hr, hrow, hpend⟩ := h.pending c (List.mem_of_getElem? hc)
    row.sessionId (by rw [hp]; rfl)
  rw [hp] at hpend
  obtain ⟨hs, hid, hactive⟩ := hpend
  refine h.commit hc hr (by rw [hp, hrow]; rfl) hid rfl rfl ?_ ?_
  · intro sid hne
    rw [hrow] at hne
    simp [goto, ResumeRun.commit, tallied, hne]
  · have hfresh := (h.accounts r hr).fresh hs
    rw [hrow] at hfresh ⊢
    refine ⟨?_, fun hsusp => ?_, ?_, ?_, fun _ => ?_⟩
    · simp [goto, ResumeRun.commit, tallied, hfresh]
    · rw [hactive] at hsusp
      cases hsusp
    · simp [goto, ResumeRun.commit, tallied]
    · simp [goto, ResumeRun.commit, tallied]
    · simp [goto, ResumeRun.commit, tallied]

theorem Sound.counts (h : s.Sound l collate) (hc : s.calls[i]? = some c)
    {row : SessionInfo} (hp : c.phase = .selected row)
    (hfree : s.isLocked row.sessionId = false)
    (hread : ∃ r ∈ s.db.rows, r.sessionId = row.sessionId
      ∧ r.state = .suspended ∧ r.resumeAttempts = row.resumeAttempts) :
    (s.goto i c (.counted row (s.countedRow collate row))).Sound l
      collate := by
  obtain ⟨r, hr, hid, hs, ha⟩ := hread
  have hrow : s.db.rows.find? (hasId collate row.sessionId) = some r := by
    refine Sql.find?_eq_some_of_unique hr (by simp [hasId, hid]) ?_
    intro u hu hpu
    refine Sql.eq_of_key_eq h.keyed hu hr ?_
    rw [hid]
    exact beq_iff_eq.mp hpu
  obtain ⟨t, ht⟩ := exists_stamped s.now
    (fun u => { u with resumeAttempts := row.resumeAttempts + 1 }) r
  refine h.advance hc rfl h.keyed ?_ (fun r hr _ => hr) ?_ ?_
  · intro sid hsid
    cases hsid
    exact .inr hfree
  · intro sid hsid
    cases hsid
    refine ⟨r, hr, hid, hs, ha.symm, ?_⟩
    unfold countedRow
    rw [hrow, Option.getD_some, ht]
    exact ⟨rfl, hs, by rw [ha]⟩
  · intro u hu
    refine (h.accounts u hu).mono fun hg => hg.of_set hc ?_ rfl
    rw [hp]
    exact fun hn => by cases hn

theorem suspend_cases (hs : s.suspend collate l sid = some s') :
    s'.calls = s.calls
      ∧ s'.db = (s.db.suspendSession collate l sid s.now).1
      ∧ (∀ x, s'.tally x = s.tally x
          ∨ s'.tally x = { s.tally x with returned := 0 })
      ∧ ∀ r, s.db.rows.find? (hasId collate sid) = some r →
          s.isLocked r.sessionId = false
            ∧ (r.state = .active →
                (s'.tally r.sessionId).returned = 0) := by
  unfold ResumeRun.suspend at hs
  split at hs
  next hnone =>
    cases hs
    exact ⟨rfl, rfl, fun _ => .inl rfl, fun r hr => by
      rw [hnone] at hr
      cases hr⟩
  next r hsome =>
    split at hs
    case isTrue => cases hs
    case isFalse hfree =>
      rw [Bool.not_eq_true] at hfree
      split at hs
      case isTrue hact =>
        cases hs
        refine ⟨rfl, rfl, fun x => ?_, fun u hu => ?_⟩
        · by_cases hx : x = r.sessionId
          · subst hx
            right
            simp [tallied]
          · left
            simp [tallied, hx]
        · rw [hsome] at hu
          cases hu
          exact ⟨hfree, fun _ => by simp [tallied]⟩
      case isFalse hnot =>
        cases hs
        refine ⟨rfl, rfl, fun _ => .inl rfl, fun u hu => ?_⟩
        rw [hsome] at hu
        cases hu
        exact ⟨hfree, fun hact => absurd hact hnot⟩

/-- A session that becomes suspended starts a new count of the calls
that return it. -/
theorem Sound.suspend (h : s.Sound l collate)
    (hs : s.suspend collate l sid = some s') : s'.Sound l collate := by
  obtain ⟨hcalls, hdb, htally, hfound⟩ := suspend_cases hs
  have hkeys := h.keyed
  -- a row that changes is the one that was found
  have hrow : ∀ u ∈ s.db.rows, (hasId collate sid u && u.isLive) = true →
      s.db.rows.find? (hasId collate sid) = some u := by
    intro u hu hpu
    rw [Bool.and_eq_true] at hpu
    refine Sql.find?_eq_some_of_unique hu hpu.1 fun v hv hpv => ?_
    refine Sql.eq_of_key_eq hkeys hv hu ?_
    exact (beq_iff_eq.mp hpv).trans (beq_iff_eq.mp hpu.1).symm
  refine ⟨?_, ?_, ?_, ?_⟩
  · rw [hdb]
    exact hkeys.update _ s.now fun _ => rfl
  · rw [hcalls]
    exact h.exclusive
  · intro c hc x hx
    rw [hcalls] at hc
    obtain ⟨r, hr, hid, hpend⟩ := h.pending c hc x hx
    refine ⟨r, ?_, hid, hpend⟩
    rw [hdb]
    refine Sql.mem_update_iff.mpr ⟨r, hr, ?_⟩
    rw [if_neg]
    intro hpr
    have hfree := (hfound r (hrow r hr hpr)).1
    unfold isLocked at hfree
    rw [List.any_eq_false] at hfree
    exact hfree c hc (by simp [hx, hid])
  · intro u' hu'
    rw [hdb] at hu'
    obtain ⟨u, hu, rfl⟩ := Sql.mem_update_iff.mp hu'
    have hgrants : s.Grants u.sessionId → s'.Grants u.sessionId := by
      unfold Grants
      rw [hcalls]
      exact id
    have hold := (h.accounts u hu).mono hgrants
    have hacc : Accounts l (s'.tally u.sessionId) u
        (s'.Grants u.sessionId) := by
      rcases htally u.sessionId with heq | heq
      · rw [heq]
        exact hold
      · rw [heq]
        exact ⟨Nat.zero_le _, fun _ => rfl, hold.wrong, hold.checked,
          hold.counted⟩
    split
    case isTrue hpu =>
      obtain ⟨t, ht⟩ := exists_stamped s.now (fun r => { r with
        state := .suspended
        expiresAt := s.now + l.suspensionTimeoutSecs }) u
      rw [ht]
      refine ⟨hacc.returned, fun _ => ?_, hacc.wrong, hacc.checked,
        hacc.counted⟩
      have hlive : u.state = .active ∨ u.state = .suspended := by
        rw [Bool.and_eq_true] at hpu
        simpa [SessionInfo.isLive] using hpu.2
      rcases hlive with hact | hsusp
      · exact (hfound u (hrow u hu hpu)).2 hact
      · exact hacc.fresh hsusp
    case isFalse => exact hacc

theorem Sound.call (h : s.Sound l collate) (a : AgentId) (token : String)
    (g : Option GameId) :
    Sound l collate
      { s with calls := s.calls ++ [⟨a, token, g, .begun⟩] } := by
  have hold : ∀ (j : Nat) (u : ResumeCall) (sid : String),
      (s.calls ++ [⟨a, token, g, .begun⟩])[j]? = some u →
      u.phase.locks = some sid → s.calls[j]? = some u := by
    intro j u sid hj hu
    rcases eq_or_getElem?_of_append hj with ⟨-, rfl⟩ | hj
    · cases hu
    · exact hj
  refine ⟨h.keyed, ?_, ?_, ?_⟩
  · intro j k u u' sid hj hk hu hu'
    exact h.exclusive j k u u' sid (hold j u sid hj hu)
      (hold k u' sid hk hu') hu hu'
  · intro u hu sid husid
    obtain ⟨j, hj⟩ := List.mem_iff_getElem?.mp hu
    exact h.pending u (List.mem_of_getElem? (hold j u sid hj husid)) sid
      husid
  · intro r hr
    refine (h.accounts r hr).mono ?_
    rintro ⟨u, hu, hgranted⟩
    exact ⟨u, List.mem_append_left _ hu, hgranted⟩

end ResumeRun

-- ==== the main result

/-- A call counts its attempt on the row it has read: still suspended,
with the same count. -/
def CountsAsRead (s : ResumeRun) : ResumeAct → Prop
  | .statement i =>
    match s.calls[i]? with
    | some ⟨_, _, _, .selected row⟩ =>
      ∃ r ∈ s.db.rows, r.sessionId = row.sessionId
        ∧ r.state = .suspended
        ∧ r.resumeAttempts = row.resumeAttempts
    | _ => True
  | _ => True

instance (s : ResumeRun) (a : ResumeAct) : Decidable (CountsAsRead s a) := by
  unfold CountsAsRead
  split
  · split <;> infer_instance
  · infer_instance

/-- One call at most returns a session after a suspension; the wrong
tokens are counted; and there are no more checks than attempts. -/
def ResumedOnce (l : SessionLimits) (s : ResumeRun) : Prop :=
  ∀ r ∈ s.db.rows,
    (s.tally r.sessionId).returned ≤ 1
      ∧ (s.tally r.sessionId).wrong ≤ r.resumeAttempts
      ∧ (s.tally r.sessionId).checked ≤ l.maxResumeAttempts

instance (s : ResumeRun) : Decidable (ResumedOnce l s) :=
  inferInstanceAs (Decidable (∀ r ∈ s.db.rows, _))

namespace ResumeRun

theorem Sound.statement (h : s.Sound l collate)
    (hread : CountsAsRead s (.statement i))
    (hs : s.statement collate l verifyToken i = some s') :
    s'.Sound l collate := by
  obtain ⟨c, hc, htakes⟩ := takes_of_statement hs
  cases htakes with
  | moves hold hp => exact h.moves hc hold hp
  | refused hp => exact h.refused hc hp
  | wrong hp hle => exact h.wrong hc hp hle
  | right hp hle => exact h.right hc hp hle
  | resumes hp info => exact h.resumes hc hp info
  | @counts row hp hfree =>
    refine h.counts hc hp hfree ?_
    obtain ⟨a, token, g, phase⟩ := c
    subst hp
    simpa only [CountsAsRead, hc] using hread

theorem Sound.timeout (h : s.Sound l collate)
    (hs : s.timeout i = some s') : s'.Sound l collate := by
  unfold ResumeRun.timeout at hs
  obtain ⟨c, hc, hs⟩ := Option.bind_eq_some_iff.mp hs
  cases hp : c.phase with
  | selected row =>
    simp only [hp] at hs
    split at hs
    · cases hs
      exact h.moves hc (by rw [hp]; rfl) rfl
    · cases hs
  | begun | counted row work | granted row work | returned session =>
    simp [hp] at hs

theorem sound_of_reach
    (h : (resumeTransactions l verifyToken collate).ReachVia
      CountsAsRead s) : s.Sound l collate := by
  refine h.invariant (I := Sound l collate) ?_ ?_
  · rintro s ⟨hk, hcalls, htally⟩
    refine ⟨hk, ?_, ?_, ?_⟩
    · intro j k u u' sid hj
      rw [hcalls] at hj
      cases hj
    · intro u hu
      rw [hcalls] at hu
      cases hu
    · intro r _
      rw [htally]
      exact ⟨Nat.zero_le _, fun _ => rfl, Nat.zero_le _, Nat.zero_le _,
        fun _ => Nat.zero_le _⟩
  · intro s a s' hs hread hstep
    cases a with
    | tick n =>
      cases hstep
      exact ⟨hs.keyed, hs.exclusive, hs.pending, hs.accounts⟩
    | call a token g =>
      cases hstep
      exact hs.call a token g
    | statement i => exact hs.statement hread hstep
    | timeout i => exact hs.timeout hstep
    | suspend sid => exact hs.suspend hstep

end ResumeRun

/-- In every state of every run in which each call counts its attempt on
the row it has read, one call at most has returned a session after its
suspension, every wrong token is counted, and no more tokens have been
checked since the session was last resumed than the maximum. -/
theorem resumed_once
    (h : (resumeTransactions l verifyToken collate).ReachVia
      CountsAsRead s) : ResumedOnce l s := by
  intro r hr
  have hacc := (ResumeRun.sound_of_reach h).accounts r hr
  exact ⟨hacc.returned, hacc.wrong, hacc.checked⟩

/-- A session that is suspended, in a table of its own. -/
def ResumeRun.suspended : ResumeRun where
  db :=
    { rows := [{ SessionInfo.create .default "alice" none "sess_1" "a" 0
        with state := .suspended }]
      lastCleanup := 0 }
  now := 0
  calls := []
  tally := fun _ => .zero

/-- The statements of two calls with these tokens, in this order. -/
def twoCalls (token token' : String) (order : List Nat) :
    List ResumeAct :=
  [.call "alice" token none, .call "alice" token' none]
    ++ order.map ResumeAct.statement

/-- One after the other: the wrong token is counted, the right one
resumes the session. -/
theorem resumed_once_in_turn :
    let transactions := resumeTransactions .default
      (fun token hash => token == hash) id
    ∃ s, transactions.exec .suspended
        (twoCalls "b" "a" [0, 0, 0, 1, 1, 1, 1]) = some s
      ∧ (s.tally "sess_1").returned = 1 ∧ ResumedOnce .default s := by
  intro transactions
  have hinit : transactions.ReachVia CountsAsRead .suspended :=
    .init ⟨by decide, rfl, rfl⟩
  have hrun : transactions.exec .suspended
      (twoCalls "b" "a" [0, 0, 0, 1, 1, 1, 1]) = some _ := rfl
  exact ⟨_, hrun, rfl, resumed_once (hinit.exec (by decide) hrun)⟩

/-- Both calls read the suspended row before either counts its attempt:
both return the session; and of two wrong tokens one is counted. -/
theorem not_resumed_once :
    let transactions := resumeTransactions .default
      (fun token hash => token == hash) id
    (∃ s, transactions.exec .suspended
        (twoCalls "a" "a" [0, 1, 0, 0, 0, 1, 1, 1]) = some s
      ∧ (s.tally "sess_1").returned = 2 ∧ ¬ ResumedOnce .default s)
    ∧ ∃ s, transactions.exec .suspended
        (twoCalls "b" "b" [0, 1, 0, 0, 1, 1]) = some s
      ∧ (s.tally "sess_1").wrong = 2
      ∧ s.db.rows.map SessionInfo.resumeAttempts = [1]
      ∧ ¬ ResumedOnce .default s :=
  ⟨⟨_, rfl, rfl, by decide⟩, ⟨_, rfl, rfl, rfl, by decide⟩⟩

end Freeciv3d.Proxy
