/-
What exists of a game is what its session is made of, as long as no call
takes the entry of a start in progress and none forgets what it made.

# The invariant

Everything that exists is held by the session or by one call, as often
as it exists: a start holds what it has made and not yet handed to the
session or deleted, a stop what it took from the session (`counted`).
While a start creates, the entry is its marker (`marked`), so that its
exception removes nothing else's.

# The four kinds

A start that raises rolls back what it has recorded. It never records a
broadcast, and records a secret only with its job; a stop completes the
broadcasts and deletes jobs and secrets, but no stream. Each kind has
its own condition (`Undisturbed`).
-/
import Freeciv3d.Gateway.StreamManager
import Freeciv3d.Lib.Tasks

namespace Freeciv3d.Gateway.Streams

open Lib

variable {maxJobRetries : Nat} {m m' : StreamManager} {kind : Kind}
  {r : Resource}

-- ==== what calls hold

namespace StartPhase

/-- What a start has made for the view in progress. -/
def made : StartPhase → List Resource
  | .creatingStream v b => [.broadcast v b]
  | .binding v b s => [.broadcast v b, .stream v s]
  | .creatingSecret v b s => [.broadcast v b, .stream v s]
  | .creatingJob v b s _ => [.broadcast v b, .stream v s, .secret v]
  | .droppingSecret v b s => [.broadcast v b, .stream v s, .secret v]
  | _ => []

def noted : StartPhase → List Resource
  | .binding v _ s => [.stream v s]
  | .creatingSecret v _ s => [.stream v s]
  | .creatingJob v _ s _ => [.stream v s]
  | .droppingSecret v _ s => [.stream v s]
  | _ => []

def creating : StartPhase → Bool
  | .rollingBack _ => false
  | .returned => false
  | .raised => false
  | _ => true

end StartPhase

namespace StartCall

def held (c : StartCall) : List Resource :=
  match c.phase with
  | .rollingBack rest => rest
  | .returned => []
  | .raised => []
  | phase => c.views.flatMap (·.resources) ++ phase.made

/-- The record is what the finished views and the one in progress put
there. -/
def Recorded (c : StartCall) : Prop :=
  c.phase.creating = true →
    c.created = c.views.flatMap (·.recorded) ++ c.phase.noted

/-- The exception that its next answer raises. -/
def raises (c : StartCall) (answer : Answer) : Prop :=
  match c.phase with
  | .creatingBroadcast _ => answer ≠ .ok
  | .creatingStream .. => answer ≠ .ok
  | .binding .. => answer ≠ .ok
  | .creatingSecret .. => answer ≠ .ok
  | .creatingJob .. => answer = .otherException
  | .droppingSecret .. => True
  | _ => False

/-- It has asked for the first broadcast, and for nothing else yet. -/
def atFirstBroadcast (c : StartCall) : Prop :=
  match c.phase with
  | .creatingBroadcast _ => c.views = []
  | _ => False

def atJob (c : StartCall) : Prop :=
  match c.phase with
  | .creatingJob .. => True
  | _ => False

end StartCall

def StopCall.held (call : StopCall) : List Resource :=
  if call.found then call.left else []

namespace StreamManager

def holds (m : StreamManager) (r : Resource) : Nat :=
  m.sessionResources.count r +
    (m.starts.map fun c => c.held.count r).sum +
    (m.stops.map fun call => call.held.count r).sum

def creatingCount (m : StreamManager) : Nat :=
  (m.starts.map fun c => c.phase.creating.toNat).sum

/-- For one kind: what exists is held. -/
structure Sound (kind : Kind) (m : StreamManager) : Prop where
  recorded : ∀ c ∈ m.starts, c.Recorded
  marked : m.creatingCount =
    if m.activeStream = some .pending then 1 else 0
  counted : ∀ r, r.kind = kind → m.resources.count r = m.holds r

-- ==== the conditions

/-- A stop finds no start in progress, and none finds a session whose
streams it would forget. -/
def MayStop (kind : Kind) (m : StreamManager) : Prop :=
  match m.activeStream with
  | some .pending => False
  | some (.session _) => kind ≠ .stream
  | none => True

/-- A start that raises has made no broadcast; the creation of a job,
which comes after its secret, raises nothing but `ApiException`. -/
def MayAnswer (kind : Kind) (m : StreamManager) (i : Nat)
    (answer : Answer) : Prop :=
  match m.starts[i]? with
  | none => True
  | some c =>
    (kind = .broadcast → c.raises answer → c.atFirstBroadcast) ∧
      (kind = .secret → c.atJob → answer ≠ .otherException)

/-- Broadcasts are completed; a stop without a session finds nothing to
delete. -/
def MayDelete (kind : Kind) (m : StreamManager) (k : Nat)
    (succeeds : Bool) : Prop :=
  match m.stops[k]? with
  | none => True
  | some call =>
    match call.left with
    | [] => True
    | r :: _ => r.kind = kind →
        (kind = .broadcast → succeeds = true) ∧
          (call.found = false → r ∉ m.resources)

/-- The steps that keep what exists of a kind with the session. -/
def Undisturbed (kind : Kind) (m : StreamManager) (e : StreamEvent) :
    Prop :=
  match e with
  | .startStream => True
  | .stopStream => MayStop kind m
  | .resumeStart i answer => MayAnswer kind m i answer
  | .resumeStop k succeeds => MayDelete kind m k succeeds

instance : DecidablePred StartCall.atJob := fun c => by
  unfold StartCall.atJob
  split <;> infer_instance

instance : DecidablePred StartCall.atFirstBroadcast := fun c => by
  unfold StartCall.atFirstBroadcast
  split <;> infer_instance

instance (c : StartCall) (answer : Answer) :
    Decidable (c.raises answer) := by
  unfold StartCall.raises
  split <;> infer_instance

instance (kind : Kind) : DecidablePred (MayStop kind) := fun m => by
  unfold MayStop
  split <;> infer_instance

instance (kind : Kind) (m : StreamManager) (i : Nat) (answer : Answer) :
    Decidable (MayAnswer kind m i answer) := by
  unfold MayAnswer
  split <;> infer_instance

instance (kind : Kind) (m : StreamManager) (k : Nat) (succeeds : Bool) :
    Decidable (MayDelete kind m k succeeds) := by
  unfold MayDelete
  split
  · infer_instance
  · split <;> infer_instance

instance (kind : Kind) (m : StreamManager) (e : StreamEvent) :
    Decidable (Undisturbed kind m e) := by
  unfold Undisturbed
  split <;> infer_instance

/-- With no call in progress, what exists of a kind is what the session
is made of. -/
def Follows (kind : Kind) (m : StreamManager) : Prop :=
  m.Idle → ∀ r, r.kind = kind →
    (r ∈ m.resources ↔ r ∈ m.sessionResources)

end StreamManager

-- ==== what is held

theorem count_recorded (views : List ViewStream)
    (hr : r.kind ≠ .broadcast) :
    (views.flatMap (·.recorded)).count r =
      (views.flatMap (·.resources)).count r := by
  induction views with
  | nil => rfl
  | cons vs views ih =>
    have hvs : vs.recorded.count r = vs.resources.count r := by
      unfold ViewStream.recorded ViewStream.resources
      rw [List.count_cons_of_ne (b := Resource.broadcast ..)]
      rintro rfl
      exact hr rfl
    simp only [List.flatMap_cons, List.count_append, hvs, ih]

theorem count_stopped (views : List ViewStream) (hr : r.kind ≠ .stream) :
    (views.flatMap (·.stopped)).count r =
      (views.flatMap (·.resources)).count r := by
  induction views with
  | nil => rfl
  | cons vs views ih =>
    have hvs : vs.stopped.count r = vs.resources.count r := by
      unfold ViewStream.stopped ViewStream.resources
      have hne : Resource.stream vs.view vs.streamId ≠ r := by
        rintro rfl
        exact hr rfl
      simp only [List.count_cons, beq_iff_eq, if_neg hne]
      omega
    simp only [List.flatMap_cons, List.count_append, hvs, ih]

namespace StartCall

variable {c : StartCall}

theorem held_rollBack (c : StartCall) (rest : List Resource) :
    (c.rollBack rest).held = rest := by
  cases rest <;> rfl

theorem creating_rollBack (c : StartCall) (rest : List Resource) :
    (c.rollBack rest).phase.creating = false := by
  cases rest <;> rfl

theorem held_nextView (c : StartCall) :
    c.nextView.held = c.views.flatMap (·.resources) := by
  unfold nextView
  split <;> simp [held, StartPhase.made]

theorem creating_nextView (c : StartCall) :
    c.nextView.phase.creating = true := by
  unfold nextView
  split <;> rfl

theorem recorded_nextView
    (hc : c.created = c.views.flatMap (·.recorded)) :
    c.nextView.Recorded := by
  intro _
  unfold nextView
  split <;> simpa [StartPhase.noted] using hc

theorem held_tryJob (c : StartCall) (v : View) (b s left : Nat) :
    (c.tryJob v b s left).held = c.views.flatMap (·.resources) ++
      [.broadcast v b, .stream v s, .secret v] := by
  cases left <;> rfl

theorem creating_tryJob (c : StartCall) (v : View) (b s left : Nat) :
    (c.tryJob v b s left).phase.creating = true := by
  cases left <;> rfl

theorem recorded_tryJob {v : View} {b s : Nat} (left : Nat)
    (hc : c.created = c.views.flatMap (·.recorded) ++ [.stream v s]) :
    (c.tryJob v b s left).Recorded := by
  intro _
  cases left <;> exact hc

theorem held_of_creating (hc : c.phase.creating = true) :
    c.held = c.views.flatMap (·.resources) ++ c.phase.made := by
  unfold held
  cases hphase : c.phase with
  | rollingBack rest | returned | raised => rw [hphase] at hc; cases hc
  | _ => rfl

/-- What a start has made and not recorded, but for broadcasts, is the
secret of the view in progress. -/
theorem count_created (hc : c.Recorded)
    (hcreating : c.phase.creating = true) (hr : r.kind ≠ .broadcast) :
    c.created.count r +
        (c.phase.made.filter fun r => r.kind = .secret).count r =
      c.held.count r := by
  have hmade : c.phase.noted.count r +
      (c.phase.made.filter fun r => r.kind = .secret).count r =
        c.phase.made.count r := by
    cases c.phase <;> cases r <;>
      simp_all [StartPhase.noted, StartPhase.made, Resource.kind,
        List.count_cons]
  rw [hc hcreating, held_of_creating hcreating, List.count_append,
    List.count_append, count_recorded c.views hr]
  omega

theorem held_of_atFirstBroadcast (hc : c.Recorded)
    (hfirst : c.atFirstBroadcast) : c.held = [] ∧ c.created = [] := by
  unfold atFirstBroadcast at hfirst
  cases hphase : c.phase with
  | creatingBroadcast v =>
    rw [hphase] at hfirst
    have hcreating : c.phase.creating = true := by rw [hphase]; rfl
    rw [held_of_creating hcreating, hc hcreating, hfirst, hphase]
    exact ⟨rfl, rfl⟩
  | _ => rw [hphase] at hfirst; exact hfirst.elim

end StartCall

-- ==== one start resumes

namespace StreamManager

variable {c c' : StartCall} {i k : Nat} {answer : Answer}
  {succeeds : Bool}

theorem sessionResources_of_pending
    (h : m.activeStream = some .pending) : m.sessionResources = [] := by
  unfold sessionResources
  rw [h]

theorem count_delete {r₀ : Resource}
    (h : [r₀].count r ≤ m.resources.count r) :
    (m.delete r₀).resources.count r + [r₀].count r =
      m.resources.count r := by
  dsimp only [delete]
  rw [List.count_erase]
  by_cases hr : r₀ = r
  · subst hr
    simp only [List.count_singleton_self, BEq.rfl, if_true] at h ⊢
    omega
  · have hbeq : (r₀ == r) = false := beq_false_of_ne hr
    simp [hbeq, List.count_cons]

/-- What the step of a start changes, for one kind. -/
structure Advances (kind : Kind) (m : StreamManager) (c : StartCall)
    (m' : StreamManager) (c' : StartCall) : Prop where
  starts : m'.starts = m.starts
  stops : m'.stops = m.stops
  recorded : c'.Recorded
  entry : (c'.phase.creating = c.phase.creating ∧
      m'.activeStream = m.activeStream) ∨
    (c.phase.creating = true ∧ c'.phase.creating = false ∧
      m'.activeStream ≠ some .pending)
  balance : ∀ r, r.kind = kind →
    m'.resources.count r +
        (m.sessionResources.count r + c.held.count r) =
      m.resources.count r +
        (m'.sessionResources.count r + c'.held.count r)

theorem Advances.goOn (hcreating : c.phase.creating = true)
    (hcreating' : c'.phase.creating = true) (hc' : c'.Recorded)
    (hm' : m'.starts = m.starts ∧ m'.stops = m.stops ∧
      m'.activeStream = m.activeStream)
    (hbalance : ∀ r, m'.resources.count r + c.held.count r =
      m.resources.count r + c'.held.count r) :
    Advances kind m c m' c' where
  starts := hm'.1
  stops := hm'.2.1
  recorded := hc'
  entry := .inl ⟨by rw [hcreating, hcreating'], hm'.2.2⟩
  balance r _ := by
    have hsession : m'.sessionResources = m.sessionResources := by
      unfold sessionResources
      rw [hm'.2.2]
    have hr := hbalance r
    rw [hsession]
    omega

theorem Advances.raise (hcreating : c.phase.creating = true)
    (hpending : m.activeStream = some .pending)
    (hm' : m'.starts = m.starts ∧ m'.stops = m.stops)
    (hbalance : ∀ r, r.kind = kind →
      m'.resources.count r + c.held.count r =
        m.resources.count r + c.created.count r) :
    Advances kind m c (m'.raiseStart c).1 (m'.raiseStart c).2 where
  starts := hm'.1
  stops := hm'.2
  recorded h := by
    rw [raiseStart, StartCall.creating_rollBack] at h
    cases h
  entry := .inr ⟨hcreating, StartCall.creating_rollBack _ _,
    fun h => by cases h⟩
  balance r hr := by
    have hr := hbalance r hr
    dsimp only [raiseStart]
    rw [StartCall.held_rollBack, List.count_reverse,
      sessionResources_of_pending hpending]
    simp only [sessionResources, List.count_nil]
    omega

/-- The answer of a request that raises, when the rollback knows of all
that was made. -/
theorem Advances.raise_of_recorded (hc : c.Recorded)
    (hcreating : c.phase.creating = true)
    (hpending : m.activeStream = some .pending)
    (hfirst : kind = .broadcast → c.atFirstBroadcast)
    (hsecret : ∀ r, r.kind = kind →
      (c.phase.made.filter fun r => r.kind = .secret).count r = 0) :
    Advances kind m c (m.raiseStart c).1 (m.raiseStart c).2 := by
  refine .raise hcreating hpending ⟨rfl, rfl⟩ fun r hr => ?_
  by_cases hb : kind = .broadcast
  · obtain ⟨hheld, hcreated⟩ :=
      StartCall.held_of_atFirstBroadcast hc (hfirst hb)
    rw [hheld, hcreated]
  · have hcount := StartCall.count_created hc hcreating
      (show r.kind ≠ .broadcast by rw [hr]; exact hb)
    rw [hsecret r hr] at hcount
    omega

theorem createNamed_eq_some {r₀ : Resource}
    (h : m.createNamed r₀ = some m') :
    m' = { m with resources := r₀ :: m.resources } := by
  unfold createNamed at h
  split at h
  · cases h
  · cases h
    rfl

theorem advances (hc : c.Recorded)
    (hpending : c.phase.creating = true →
      m.activeStream = some .pending)
    (hheld : ∀ r, r.kind = kind → c.held.count r ≤ m.resources.count r)
    (hfirst : kind = .broadcast → c.raises answer → c.atFirstBroadcast)
    (hjob : kind = .secret → c.atJob → answer ≠ .otherException)
    (h : m.advance maxJobRetries c answer = some (m', c')) :
    Advances kind m c m' c' := by
  obtain ⟨views, left, created, phase⟩ := c
  unfold advance at h
  cases phase with
  | creatingBroadcast v =>
    cases answer with
    | ok =>
      cases h
      refine .goOn rfl rfl hc ⟨rfl, rfl, rfl⟩ fun r => ?_
      simp [StreamManager.created, StartCall.held, StartPhase.made,
        List.count_cons]
      omega
    | _ =>
      cases h
      refine .raise_of_recorded hc rfl (hpending rfl) ?_ ?_
      · exact fun hb => hfirst hb (by simp [StartCall.raises])
      · exact fun _ _ => rfl
  | creatingStream v b =>
    cases answer with
    | ok =>
      cases h
      refine .goOn rfl rfl ?_ ⟨rfl, rfl, rfl⟩ fun r => ?_
      · intro _
        simpa [StartPhase.noted] using hc rfl
      · simp [StreamManager.created, StartCall.held, StartPhase.made,
          List.count_cons]
        omega
    | _ =>
      cases h
      refine .raise_of_recorded hc rfl (hpending rfl) ?_ ?_
      · exact fun hb => hfirst hb (by simp [StartCall.raises])
      · exact fun _ _ => rfl
  | binding v b s =>
    cases answer with
    | ok =>
      cases h
      exact .goOn rfl rfl hc ⟨rfl, rfl, rfl⟩ fun _ => rfl
    | _ =>
      cases h
      refine .raise_of_recorded hc rfl (hpending rfl) ?_ ?_
      · exact fun hb => hfirst hb (by simp [StartCall.raises])
      · exact fun _ _ => rfl
  | creatingSecret v b s =>
    cases answer with
    | ok =>
      simp only [Option.map_eq_some_iff, Prod.mk.injEq] at h
      obtain ⟨m₁, hm₁, rfl, rfl⟩ := h
      rw [createNamed_eq_some hm₁]
      refine .goOn rfl (StartCall.creating_tryJob ..)
        (StartCall.recorded_tryJob _ (hc rfl)) ⟨rfl, rfl, rfl⟩
        fun r => ?_
      rw [StartCall.held_tryJob]
      simp [StartCall.held, StartPhase.made, List.count_cons]
      omega
    | _ =>
      cases h
      refine .raise_of_recorded hc rfl (hpending rfl) ?_ ?_
      · exact fun hb => hfirst hb (by simp [StartCall.raises])
      · exact fun _ _ => rfl
  | creatingJob v b s attempts =>
    cases answer with
    | ok =>
      simp only [Option.map_eq_some_iff, Prod.mk.injEq] at h
      obtain ⟨m₁, hm₁, rfl, rfl⟩ := h
      rw [createNamed_eq_some hm₁]
      refine .goOn rfl (StartCall.creating_nextView _)
        (StartCall.recorded_nextView ?_) ⟨rfl, rfl, rfl⟩
        fun r => ?_
      · have hrecord := hc rfl
        dsimp only [StartPhase.noted] at hrecord ⊢
        rw [hrecord]
        simp [ViewStream.recorded]
      · rw [StartCall.held_nextView]
        simp [StartCall.held, StartPhase.made, ViewStream.resources,
          List.count_cons]
        omega
    | apiException status =>
      dsimp only at h
      split at h
      · cases h
        refine .goOn rfl (StartCall.creating_tryJob ..)
          (StartCall.recorded_tryJob _ (hc rfl)) ⟨rfl, rfl, rfl⟩
          fun r => ?_
        rw [StartCall.held_tryJob]
        rfl
      · cases h
        exact .goOn rfl rfl hc ⟨rfl, rfl, rfl⟩ fun _ => rfl
    | otherException =>
      cases h
      refine .raise_of_recorded hc rfl (hpending rfl) ?_ ?_
      · exact fun hb => hfirst hb rfl
      -- the secret of this view is not recorded
      · intro r hr
        have hne : r ≠ .secret v := by
          rintro rfl
          exact hjob hr.symm trivial rfl
        simp [StartPhase.made, Resource.kind, hne.symm]
  | droppingSecret v b s =>
    cases h
    refine .raise rfl (hpending rfl) ⟨rfl, rfl⟩ fun r hr => ?_
    by_cases hb : kind = .broadcast
    · exact (hfirst hb trivial).elim
    have hcount := StartCall.count_created hc rfl
      (show r.kind ≠ .broadcast by rw [hr]; exact hb)
    have hmade : ((StartPhase.droppingSecret v b s).made.filter
        fun r => r.kind = .secret) = [.secret v] := rfl
    rw [hmade] at hcount
    have hle := hheld r hr
    have hsecret : [Resource.secret v].count r ≤
        m.resources.count r := by omega
    have hdelete := count_delete hsecret
    omega
  | checkingReadiness =>
    cases h
    exact {
      starts := rfl
      stops := rfl
      recorded := fun h => by cases h
      entry := .inr ⟨rfl, rfl, by simp⟩
      balance := fun r _ => by
        rw [sessionResources_of_pending (hpending rfl)]
        simp [sessionResources, StartCall.held, StartPhase.made] }
  | rollingBack rest =>
    cases rest with
    | nil => cases h
    | cons r₀ rest =>
      cases h
      exact {
        starts := rfl
        stops := rfl
        recorded := fun h => by
          rw [StartCall.creating_rollBack] at h
          cases h
        entry := .inl ⟨StartCall.creating_rollBack _ _, rfl⟩
        balance := fun r hr => by
          have hle := hheld r hr
          have hcons : (r₀ :: rest).count r =
              [r₀].count r + rest.count r := by
            rw [← List.count_append]
            rfl
          rw [StartCall.held_rollBack]
          dsimp only [StartCall.held] at hle ⊢
          have hone : [r₀].count r ≤ m.resources.count r := by omega
          have hdelete := count_delete hone
          dsimp only [sessionResources, delete] at hdelete ⊢
          omega }
  | returned => cases h
  | raised => cases h

-- ==== the invariant

theorem Sound.initial : Sound kind initial where
  recorded c hc := by cases hc
  marked := rfl
  counted r _ := rfl

theorem Sound.pending (h : Sound kind m) (hi : m.starts[i]? = some c)
    (hc : c.phase.creating = true) : m.activeStream = some .pending := by
  have hmarked := h.marked
  have hle : c.phase.creating.toNat ≤ m.creatingCount :=
    le_sum_map (fun c => c.phase.creating.toNat) hi
  rw [hc] at hle
  by_contra hne
  rw [if_neg hne] at hmarked
  rw [hmarked] at hle
  simp at hle

theorem Sound.held_le (h : Sound kind m) (hi : m.starts[i]? = some c)
    (hr : r.kind = kind) : c.held.count r ≤ m.resources.count r := by
  have hle : c.held.count r ≤
      (m.starts.map fun c => c.held.count r).sum :=
    le_sum_map (fun c => c.held.count r) hi
  have hcounted := h.counted r hr
  unfold holds at hcounted
  omega

theorem Sound.taken_le (h : Sound kind m) {call : StopCall}
    (hk : m.stops[k]? = some call) (hr : r.kind = kind) :
    call.held.count r ≤ m.resources.count r := by
  have hle : call.held.count r ≤
      (m.stops.map fun call => call.held.count r).sum :=
    le_sum_map (fun call => call.held.count r) hk
  have hcounted := h.counted r hr
  unfold holds at hcounted
  omega

theorem Sound.startStream (h : Sound kind m) :
    Sound kind m.startStream := by
  have hmarked := h.marked
  unfold StreamManager.startStream
  split
  · rename_i entry hentry
    refine ⟨?_, ?_, ?_⟩
    · intro c hc
      rcases List.mem_append.mp hc with hc | hc
      · exact h.recorded c hc
      · rw [List.mem_singleton.mp hc]
        intro hcreating
        cases hcreating
    · unfold creatingCount at hmarked ⊢
      simpa [StartPhase.creating] using hmarked
    · intro r hr
      have hcounted := h.counted r hr
      simpa [holds, sessionResources, StartCall.held] using hcounted
  · rename_i hentry
    refine ⟨?_, ?_, ?_⟩
    · intro c hc
      rcases List.mem_append.mp hc with hc | hc
      · exact h.recorded c hc
      · rw [List.mem_singleton.mp hc]
        exact StartCall.recorded_nextView rfl
    · rw [hentry] at hmarked
      unfold creatingCount at hmarked ⊢
      simp only [List.map_append, List.sum_append, hmarked]
      rfl
    · intro r hr
      have hcounted := h.counted r hr
      unfold holds sessionResources at hcounted ⊢
      rw [hentry] at hcounted
      simp only [List.map_append, List.sum_append, List.map_cons,
        List.map_nil, StartCall.held_nextView]
      simpa using hcounted

theorem Sound.resumeStart (h : Sound kind m)
    (hmay : MayAnswer kind m i answer)
    (hstep : m.resumeStart maxJobRetries i answer = some m') :
    Sound kind m' := by
  unfold StreamManager.resumeStart at hstep
  simp only [Option.bind_eq_bind, Option.bind_eq_some_iff] at hstep
  obtain ⟨c, hi, ⟨m₁, c'⟩, hadvance, hstep⟩ := hstep
  cases hstep
  unfold MayAnswer at hmay
  rw [hi] at hmay
  have hadvances : Advances kind m c m₁ c' :=
    advances (h.recorded c (List.mem_of_getElem? hi)) (h.pending hi)
      (fun r hr => h.held_le hi hr) hmay.1 hmay.2 hadvance
  refine ⟨?_, ?_, ?_⟩
  · intro d hd
    rw [hadvances.starts] at hd
    rcases List.mem_or_eq_of_mem_set hd with hd | rfl
    · exact h.recorded d hd
    · exact hadvances.recorded
  · have hmarked := h.marked
    have hset := sum_map_set (fun c => c.phase.creating.toNat) hi c'
    unfold creatingCount at hmarked ⊢
    dsimp only
    rw [hadvances.starts]
    rcases hadvances.entry with hentry | hentry
    · rw [hentry.2, ← hmarked]
      simp only [hentry.1] at hset
      omega
    · rw [if_neg hentry.2.2]
      rw [h.pending hi hentry.1, if_pos rfl] at hmarked
      simp only [hentry.1, hentry.2.1, Bool.toNat_true,
        Bool.toNat_false] at hset
      omega
  · intro r hr
    have hcounted := h.counted r hr
    have hbalance := hadvances.balance r hr
    have hset := sum_map_set (fun c => c.held.count r) hi c'
    unfold holds sessionResources at hcounted ⊢
    unfold sessionResources at hbalance
    dsimp only at hset ⊢
    rw [hadvances.starts, hadvances.stops]
    omega

theorem Sound.stopStream (h : Sound kind m) (hmay : MayStop kind m) :
    Sound kind m.stopStream := by
  have hmarked := h.marked
  unfold MayStop at hmay
  unfold StreamManager.stopStream
  refine ⟨h.recorded, ?_, ?_⟩
  · unfold creatingCount at hmarked ⊢
    rw [hmarked]
    cases hentry : m.activeStream with
    | none => rfl
    | some entry =>
      cases entry with
      | pending => rw [hentry] at hmay; exact hmay.elim
      | session views => simp
  · intro r hr
    have hcounted := h.counted r hr
    unfold holds sessionResources at hcounted ⊢
    cases hentry : m.activeStream with
    | none =>
      rw [hentry] at hcounted
      simpa [StopCall.held] using hcounted
    | some entry =>
      cases entry with
      | pending => rw [hentry] at hmay; exact hmay.elim
      | session views =>
        rw [hentry] at hcounted hmay
        have hne : r.kind ≠ .stream := by rw [hr]; exact hmay
        have hstopped := count_stopped views hne
        simp only [List.map_append, List.sum_append, List.map_cons,
          List.map_nil, StopCall.held, if_true, List.sum_cons,
          List.sum_nil, List.count_nil]
        simp only [StopCall.held] at hcounted
        omega

theorem Sound.resumeStop (h : Sound kind m)
    (hmay : MayDelete kind m k succeeds)
    (hstep : m.resumeStop k succeeds = some m') : Sound kind m' := by
  unfold StreamManager.resumeStop at hstep
  simp only [Option.bind_eq_bind, Option.bind_eq_some_iff] at hstep
  obtain ⟨call, hk, hstep⟩ := hstep
  unfold MayDelete at hmay
  rw [hk] at hmay
  obtain ⟨found, left⟩ := call
  cases left with
  | nil => cases hstep
  | cons r₀ rest =>
    dsimp only at hstep hmay
    -- only what is left to the stop and what exists of `r₀` changes
    have hsound : ∀ rs : List Resource,
        (∀ r, r.kind = kind →
          rs.count r + (if found then [r₀].count r else 0) =
            m.resources.count r) →
        Sound kind { m with
          resources := rs
          stops := m.stops.set k ⟨found, rest⟩ } := by
      intro rs hrs
      refine ⟨h.recorded, h.marked, fun r hr => ?_⟩
      have hcounted := h.counted r hr
      have hset := sum_map_set (fun call => call.held.count r) hk
        ⟨found, rest⟩
      have hcons : (r₀ :: rest).count r =
          [r₀].count r + rest.count r := by
        rw [← List.count_append]
        rfl
      have hr₀ := hrs r hr
      unfold holds sessionResources at hcounted ⊢
      dsimp only [StopCall.held] at hset hcounted ⊢
      cases found with
      | true => simp only [if_true] at hset hr₀; omega
      | false =>
        simp only [Bool.false_eq_true, if_false] at hset hr₀
        omega
    split at hstep
    · rename_i hkept
      cases hstep
      refine hsound m.resources fun r hr => ?_
      have hne : r₀ ≠ r := by
        rintro rfl
        have hsucceeds := (hmay hr).1 (hr ▸ hkept.1)
        rw [hkept.2] at hsucceeds
        cases hsucceeds
      simp [hne]
    · cases hstep
      refine hsound (m.resources.erase r₀) fun r hr => ?_
      cases found with
      | true =>
        have htaken := h.taken_le hk hr
        have hone : [r₀].count r ≤ m.resources.count r := by
          simp only [StopCall.held, if_true, List.count_cons,
            List.count_nil] at htaken ⊢
          omega
        simpa [delete] using count_delete hone
      | false =>
        by_cases hr₀ : r₀ = r
        · subst hr₀
          rw [List.erase_of_not_mem ((hmay hr).2 rfl)]
          simp
        · rw [List.count_erase_of_ne (Ne.symm hr₀)]
          simp

theorem Sound.step {e : StreamEvent} (h : Sound kind m)
    (hdisturbed : Undisturbed kind m e)
    (hstep : step maxJobRetries m e = some m') : Sound kind m' := by
  cases e with
  | startStream =>
    cases hstep
    exact h.startStream
  | stopStream =>
    cases hstep
    exact h.stopStream hdisturbed
  | resumeStart i answer => exact h.resumeStart hdisturbed hstep
  | resumeStop k succeeds => exact h.resumeStop hdisturbed hstep

theorem Sound.follows (h : Sound kind m) : Follows kind m := by
  intro hidle r hr
  have hcounted := h.counted r hr
  have hstarts : (m.starts.map fun c => c.held.count r).sum = 0 := by
    refine List.sum_eq_zero_iff_forall_eq_nat.mpr fun n hn => ?_
    obtain ⟨c, hc, rfl⟩ := List.mem_map.mp hn
    rcases hidle.1 c hc with hphase | hphase <;>
      simp [StartCall.held, hphase]
  have hstops :
      (m.stops.map fun call => call.held.count r).sum = 0 := by
    refine List.sum_eq_zero_iff_forall_eq_nat.mpr fun n hn => ?_
    obtain ⟨call, hcall, rfl⟩ := List.mem_map.mp hn
    simp [StopCall.held, hidle.2 call hcall]
  unfold holds at hcounted
  rw [hstarts, hstops] at hcounted
  rw [← List.count_pos_iff, ← List.count_pos_iff, hcounted]
  rfl

-- ==== the runs

/-- In every state of a run that is undisturbed for some kinds, what
exists of these kinds is what the session is made of. -/
theorem resources_follow (kinds : List Kind) (m : StreamManager)
    (hm : (lts maxJobRetries).ReachVia
      (fun m e => ∀ kind ∈ kinds, Undisturbed kind m e) m) :
    ∀ kind ∈ kinds, Follows kind m := by
  intro kind hkind
  refine Sound.follows ?_
  refine Lts.ReachVia.invariant (I := Sound kind) ?_ ?_ hm
  · intro m h0
    rw [h0]
    exact Sound.initial
  · intro m e m' h hc hs
    exact h.step (hc kind hkind) hs

def viewMade : List StreamEvent := List.replicate 5 (.resumeStart 0 .ok)

def startedEvents : List StreamEvent :=
  .startStream :: (viewMade ++ viewMade ++ viewMade ++
    [.resumeStart 0 .ok])

theorem resources_follow_started :
    ((lts 3).exec initial startedEvents).any (·.Idle) = true ∧
    ∀ m ∈ (lts 3).exec initial startedEvents,
      ∀ kind ∈ [.broadcast, .stream, .secret, .job],
        Follows kind m := by
  refine ⟨by decide +kernel, fun m hm => ?_⟩
  have hstart : (lts 3).ReachVia (fun m e =>
      ∀ kind ∈ [.broadcast, .stream, .secret, .job],
        Undisturbed kind m e) initial := .init rfl
  exact resources_follow _ m (hstart.exec (by decide +kernel) hm)

/-- At the end of a run, `r` exists without the session or the other way
round. -/
theorem not_follows {events : List StreamEvent} (r : Resource)
    (h : ((lts 3).exec initial events).any (fun m => m.Idle ∧
      ¬ (r ∈ m.resources ↔ r ∈ m.sessionResources)) = true) :
    ∃ m, (lts 3).exec initial events = some m ∧ ¬ Follows r.kind m := by
  cases hm : (lts 3).exec initial events with
  | none =>
    rw [hm] at h
    cases h
  | some m =>
    rw [hm] at h
    have hr := of_decide_eq_true h
    exact ⟨m, rfl, fun hfollows => hr.2 (hfollows hr.1 r rfl)⟩

/-- A stop leaves the streams. A start that fails at its second view
leaves the broadcast of the first, and one whose job is not created for
another reason than `ApiException` leaves the secret. A start that is
stopped ends in a session without the jobs the stop found. -/
theorem resources_left :
    (∃ m, (lts 3).exec initial (startedEvents ++ .stopStream ::
        List.replicate 9 (.resumeStop 0 true)) = some m ∧
      ¬ Follows .stream m)
    ∧ (∃ m, (lts 3).exec initial (.startStream :: (viewMade ++
        .resumeStart 0 .otherException ::
          List.replicate 3 (.resumeStart 0 .ok))) = some m ∧
      ¬ Follows .broadcast m)
    ∧ (∃ m, (lts 3).exec initial (.startStream ::
        (List.replicate 4 (.resumeStart 0 .ok) ++
          [.resumeStart 0 .otherException, .resumeStart 0 .ok])) =
        some m ∧
      ¬ Follows .secret m)
    ∧ (∃ m, (lts 3).exec initial (.startStream :: (viewMade ++
        .stopStream :: (List.replicate 6 (.resumeStop 0 true) ++
          viewMade ++ viewMade ++ [.resumeStart 0 .ok]))) = some m ∧
      ¬ Follows .job m) :=
  ⟨not_follows (.stream .global 1) (by decide +kernel),
    not_follows (.broadcast .global 0) (by decide +kernel),
    not_follows (.secret .global) (by decide +kernel),
    not_follows (.job .global) (by decide +kernel)⟩

end StreamManager

end Freeciv3d.Gateway.Streams
