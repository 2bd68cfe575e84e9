/-
Every request gets one outcome, as long as no answer comes before its
task begins to wait and no waiter is cancelled under its request.

# The invariant

The requests in the table are those whose future is pending, but for
the ones whose waiter has just been timed out and is about to take them
out (`entries`, `pending`). An answer settles a future that somebody
waits for, or nobody; what a task ends with is fixed with its future
(`Fits`), so a later step cannot belie it.

Every step settles futures that are pending, adds a fresh one, or moves
one task; `Sound.settled` is the case for all that settles.
-/
import Freeciv3d.Gateway.RequestManager
import Freeciv3d.Lib.Tasks

namespace Freeciv3d.Gateway.Requests

open Lib

variable {V : Type}

namespace RequestFuture

theorem done_iff {f : RequestFuture V} :
    f.done = true ↔ f.settlements ≠ [] := by
  unfold done
  cases f.settlements with
  | nil => simp
  | cons s rest => simp

end RequestFuture

namespace RequestManager

variable {m m' : RequestManager V} {f : Nat} {s : Settlement V}
  {c : String} {w : Waiter V}

-- ==== the futures

def FutureOf (m : RequestManager V) (c : String) (f : Nat)
    (fu : RequestFuture V) : Prop :=
  m.futures[f]? = some fu ∧ fu.correlationId = c

/-- What a task has ended with agrees with its future, and a task that
waits has the future of its id. -/
def Fits (m : RequestManager V) (w : Waiter V) : Prop :=
  match w.phase with
  | .sending => True
  | .waiting f => ∃ fu, m.FutureOf w.correlationId f fu
  | .timingOut f => ∃ fu, m.FutureOf w.correlationId f fu
      ∧ fu.settlements = [.cancelled]
  | .finished .notSent => True
  | .finished o => ∀ f fu, m.FutureOf w.correlationId f fu →
      fu.settlements ≠ [] ∧ ∀ c v, Settlement.result c v ∈ fu.settlements →
        o = .response v

/-- The invariant. -/
structure Sound (m : RequestManager V) : Prop where
  entries : ∀ c r, m.pendingRequests.get? c = some r →
    ∃ fu, m.FutureOf c r.future fu ∧ (fu.settlements = []
      ∨ ∃ w ∈ m.waiters, w.correlationId = c
        ∧ w.phase = .timingOut r.future)
  pending : ∀ c f fu, m.FutureOf c f fu → fu.settlements = [] →
    ∃ r, m.pendingRequests.get? c = some r ∧ r.future = f
  once : ∀ c f fu, m.FutureOf c f fu → fu.settlements.length ≤ 1
  own : ∀ c f fu, m.FutureOf c f fu → ∀ c' v,
    Settlement.result c' v ∈ fu.settlements → c' = c
  distinct : ∀ c f f' fu fu', m.FutureOf c f fu → m.FutureOf c f' fu' →
    f = f'
  fits : ∀ w ∈ m.waiters, m.Fits w

theorem getElem?_settle (m : RequestManager V) (f f' : Nat)
    (s : Settlement V) :
    (m.settle f s).futures[f']? = m.futures[f']?.map fun fu =>
      if f = f' ∧ fu.settlements = [] then
        { fu with settlements := [s] } else fu := by
  unfold settle isDone
  cases hf : m.futures[f]? with
  | none =>
    rw [Option.any_none, if_neg Bool.false_ne_true, List.getElem?_modify]
    cases hf' : m.futures[f']? with
    | none => simp
    | some fu =>
      have hne : f ≠ f' := by
        rintro rfl
        rw [hf] at hf'
        cases hf'
      simp [hne]
  | some fu =>
    rw [Option.any_some]
    by_cases hdone : fu.done = true
    · rw [if_pos hdone]
      cases hf' : m.futures[f']? with
      | none => rfl
      | some fu' =>
        have hnot : ¬ (f = f' ∧ fu'.settlements = []) := by
          rintro ⟨rfl, hnil⟩
          rw [hf] at hf'
          cases hf'
          exact RequestFuture.done_iff.mp hdone hnil
        rw [Option.map_some, if_neg hnot]
    · rw [if_neg hdone, List.getElem?_modify]
      have hnil : fu.settlements = [] := by
        by_contra hne
        exact hdone (RequestFuture.done_iff.mpr hne)
      cases hf' : m.futures[f']? with
      | none => simp
      | some fu' =>
        by_cases hff : f = f'
        · subst hff
          rw [hf] at hf'
          cases hf'
          simp [hnil]
        · simp [hff]

@[simp] theorem waiters_settle : (m.settle f s).waiters = m.waiters := by
  unfold settle
  split
  · rfl
  · rfl

@[simp] theorem pendingRequests_settle :
    (m.settle f s).pendingRequests = m.pendingRequests := by
  unfold settle
  split
  · rfl
  · rfl

theorem futureOf_settle {f' : Nat} {fu : RequestFuture V}
    (h : (m.settle f s).FutureOf c f' fu) :
    ∃ old, m.FutureOf c f' old ∧ (fu = old
      ∨ f = f' ∧ old.settlements = [] ∧ fu.settlements = [s]) := by
  obtain ⟨hget, hid⟩ := h
  rw [getElem?_settle] at hget
  obtain ⟨old, hold, rfl⟩ := Option.map_eq_some_iff.mp hget
  split at hid
  next hnew =>
    rw [if_pos hnew]
    exact ⟨old, ⟨hold, hid⟩, .inr ⟨hnew.1, hnew.2, rfl⟩⟩
  next hkeep =>
    rw [if_neg hkeep]
    exact ⟨old, ⟨hold, hid⟩, .inl rfl⟩

theorem FutureOf.settle_of_done {f' : Nat} {fu : RequestFuture V}
    (h : m.FutureOf c f' fu) (hdone : fu.settlements ≠ []) :
    (m.settle f s).FutureOf c f' fu := by
  refine ⟨?_, h.2⟩
  rw [getElem?_settle, h.1, Option.map_some, if_neg]
  exact fun hand => hdone hand.2

theorem FutureOf.settle {f' : Nat} {fu : RequestFuture V}
    (h : m.FutureOf c f' fu) (f : Nat) (s : Settlement V) :
    ∃ fu', (m.settle f s).FutureOf c f' fu'
      ∧ (fu.settlements = [] → f ≠ f' → fu'.settlements = []) := by
  by_cases hnew : f = f' ∧ fu.settlements = []
  · refine ⟨{ fu with settlements := [s] }, ⟨?_, h.2⟩, ?_⟩
    · rw [getElem?_settle, h.1, Option.map_some, if_pos hnew]
    · exact fun _ hne => absurd hnew.1 hne
  · refine ⟨fu, ⟨?_, h.2⟩, fun hnil _ => hnil⟩
    rw [getElem?_settle, h.1, Option.map_some, if_neg hnew]

theorem Fits.settle (h : m.Fits w) (f : Nat) (s : Settlement V) :
    (m.settle f s).Fits w := by
  obtain ⟨c, phase⟩ := w
  cases phase with
  | sending => trivial
  | waiting f' =>
    obtain ⟨fu, hfu⟩ := h
    obtain ⟨fu', hfu', -⟩ := hfu.settle f s
    exact ⟨fu', hfu'⟩
  | timingOut f' =>
    obtain ⟨fu, hfu, hsettled⟩ := h
    refine ⟨fu, hfu.settle_of_done ?_, hsettled⟩
    rw [hsettled]
    exact List.cons_ne_nil _ _
  | finished o =>
    have hfinished : (∀ f fu, m.FutureOf c f fu → fu.settlements ≠ []
        ∧ ∀ c v, Settlement.result c v ∈ fu.settlements →
          o = .response v) →
        ∀ f' fu, (m.settle f s).FutureOf c f' fu → fu.settlements ≠ []
          ∧ ∀ c v, Settlement.result c v ∈ fu.settlements →
            o = .response v := by
      intro hold f' fu hfu
      obtain ⟨old, hof, rfl | ⟨-, hnil, -⟩⟩ := futureOf_settle hfu
      · exact hold f' fu hof
      · exact absurd hnil (hold f' old hof).1
    cases o with
    | notSent => trivial
    | response v | timeout | cancelled | keyError => exact hfinished h

-- ==== the steps

theorem Sound.finish (h : m.Sound) (c : String) {s : Settlement V}
    (hs : ∀ c' v, s = .result c' v → c' = c) : (m.finish c s).Sound := by
  unfold RequestManager.finish
  split
  · exact h
  next r hr =>
    obtain ⟨fr, hfr, -⟩ := h.entries c r hr
    -- the future that is settled is that of the request
    have hother : ∀ c' f' fu, m.FutureOf c' f' fu → c' ≠ c →
        r.future ≠ f' := by
      rintro c' f' fu hfu hne rfl
      have heq := hfr.1.symm.trans hfu.1
      cases heq
      exact hne (hfu.2.symm.trans hfr.2)
    refine ⟨?_, ?_, ?_, ?_, ?_, ?_⟩
    · intro c' r' hr'
      rw [pendingRequests_settle] at hr'
      rw [Dict.get?_erase] at hr'
      split at hr'
      · cases hr'
      next hne =>
        obtain ⟨fu, hfu, hstate⟩ := h.entries c' r' hr'
        obtain ⟨fu', hfu', hnil⟩ := FutureOf.settle
          (m := { m with pendingRequests := m.pendingRequests.erase c })
          hfu r.future s
        refine ⟨fu', hfu', ?_⟩
        rw [waiters_settle]
        rcases hstate with hopen | htiming
        · exact .inl (hnil hopen (hother c' _ fu hfu hne))
        · exact .inr htiming
    · intro c' f' fu hfu hopen
      rw [pendingRequests_settle]
      obtain ⟨old, hof, rfl | ⟨-, -, hset⟩⟩ := futureOf_settle hfu
      · obtain ⟨r', hr', hf'⟩ := h.pending c' f' fu hof hopen
        rw [Dict.get?_erase, if_neg]
        · exact ⟨r', hr', hf'⟩
        · rintro rfl
          -- its future was pending, and is settled now
          rw [hr] at hr'
          cases hr'
          obtain ⟨hget, -⟩ := hfu
          rw [getElem?_settle, hf', hof.1, Option.map_some,
            if_pos ⟨rfl, hopen⟩] at hget
          have hset := congrArg RequestFuture.settlements
            (Option.some.inj hget)
          rw [hopen] at hset
          cases hset
      · rw [hset] at hopen
        cases hopen
    · intro c' f' fu hfu
      obtain ⟨old, hof, rfl | ⟨-, -, hset⟩⟩ := futureOf_settle hfu
      · exact h.once c' f' fu hof
      · rw [hset]
        exact Nat.le_refl 1
    · intro c' f' fu hfu c'' v hresult
      obtain ⟨old, hof, rfl | ⟨hf, -, hset⟩⟩ := futureOf_settle hfu
      · exact h.own c' f' fu hof c'' v hresult
      · rw [hset, List.mem_singleton] at hresult
        have hc : c'' = c := hs c'' v hresult.symm
        by_contra hne
        exact hother c' f' old hof (fun heq => hne (hc.trans heq.symm)) hf
    · intro c' f₁ f₂ fu₁ fu₂ h₁ h₂
      obtain ⟨old₁, hof₁, -⟩ := futureOf_settle h₁
      obtain ⟨old₂, hof₂, -⟩ := futureOf_settle h₂
      exact h.distinct c' f₁ f₂ old₁ old₂ hof₁ hof₂
    · intro w hw
      rw [waiters_settle] at hw
      exact Fits.settle
        (m := { m with pendingRequests := m.pendingRequests.erase c })
        (h.fits w hw) r.future s

theorem Sound.foldl_finish (h : m.Sound) (cs : List String)
    {s : Settlement V} (hs : ∀ c v, s ≠ .result c v) :
    (cs.foldl (fun m c => m.finish c s) m).Sound := by
  induction cs generalizing m with
  | nil => exact h
  | cons c rest ih =>
    rw [List.foldl_cons]
    exact ih (h.finish c fun c' v heq => absurd heq (hs c' v))

theorem get?_finish_self (m : RequestManager V) (c : String)
    (s : Settlement V) : (m.finish c s).pendingRequests.get? c = none := by
  unfold RequestManager.finish
  split
  next hnone => exact hnone
  next r hr =>
    rw [pendingRequests_settle]
    exact Dict.get?_erase_self _ _

@[simp] theorem waiters_finish (m : RequestManager V) (c : String)
    (s : Settlement V) : (m.finish c s).waiters = m.waiters := by
  unfold RequestManager.finish
  split
  · rfl
  · exact waiters_settle

theorem Fits.finish (h : m.Fits w) (c : String) (s : Settlement V) :
    (m.finish c s).Fits w := by
  unfold RequestManager.finish
  split
  · exact h
  next r hr =>
    exact Fits.settle
      (m := { m with pendingRequests := m.pendingRequests.erase c }) h _ s

/-- A task moves on; one that has been timed out, only when its request
is gone. -/
theorem Sound.putPhase (h : m.Sound) {i : Nat}
    (hi : m.waiters[i]? = some w) {phase : WaiterPhase V}
    (hfit : m.Fits { w with phase := phase })
    (hgone : ∀ f, w.phase = .timingOut f →
      m.pendingRequests.get? w.correlationId = none) :
    (m.putPhase i w phase).Sound := by
  refine ⟨?_, h.pending, h.once, h.own, h.distinct, ?_⟩
  · intro c r hr
    obtain ⟨fu, hfu, hstate⟩ := h.entries c r hr
    refine ⟨fu, hfu, ?_⟩
    rcases hstate with hopen | ⟨w', hw', hc, htiming⟩
    · exact .inl hopen
    · rcases eq_or_mem_set hi { w with phase := phase } hw' with rfl | hw'
      · have hnone := hgone _ htiming
        rw [hc] at hnone
        change m.pendingRequests.get? c = some r at hr
        rw [hnone] at hr
        cases hr
      · exact .inr ⟨w', hw', hc, htiming⟩
  · intro w' hw'
    rcases List.mem_or_eq_of_mem_set hw' with hold | rfl
    · exact h.fits w' hold
    · exact hfit

theorem Sound.addWaiter (h : m.Sound) (hfit : m.Fits w) :
    Sound { m with waiters := m.waiters ++ [w] } := by
  refine ⟨?_, h.pending, h.once, h.own, h.distinct, ?_⟩
  · intro c r hr
    obtain ⟨fu, hfu, hstate⟩ := h.entries c r hr
    refine ⟨fu, hfu, ?_⟩
    rcases hstate with hopen | ⟨w', hw', hrest⟩
    · exact .inl hopen
    · exact .inr ⟨w', List.mem_append_left _ hw', hrest⟩
  · intro w' hw'
    rcases List.mem_append.mp hw' with hold | hnew
    · exact h.fits w' hold
    · rw [List.mem_singleton.mp hnew]
      exact hfit

theorem futureOf_create {timeout : Option Rat} {now : Rat} {c' : String}
    {f : Nat} {fu : RequestFuture V} :
    (m.createRequest c timeout now).FutureOf c' f fu
      ↔ m.FutureOf c' f fu
        ∨ f = m.futures.length ∧ fu = ⟨c, []⟩ ∧ c' = c := by
  unfold FutureOf createRequest
  rcases Nat.lt_trichotomy f m.futures.length with hlt | heq | hgt
  · rw [List.getElem?_append_left hlt]
    constructor
    · exact .inl
    · rintro (hold | ⟨heq, -⟩)
      · exact hold
      · omega
  · subst heq
    rw [List.getElem?_append_right (Nat.le_refl _), Nat.sub_self]
    constructor
    · rintro ⟨hget, hid⟩
      cases hget
      exact .inr ⟨rfl, rfl, hid.symm⟩
    · rintro (⟨hold, -⟩ | ⟨-, rfl, rfl⟩)
      · rw [List.getElem?_eq_none (Nat.le_refl _)] at hold
        cases hold
      · exact ⟨rfl, rfl⟩
  · rw [List.getElem?_eq_none (by simp; omega)]
    constructor
    · rintro ⟨hget, -⟩
      cases hget
    · rintro (⟨hold, -⟩ | ⟨heq, -⟩)
      · rw [List.getElem?_eq_none (by omega)] at hold
        cases hold
      · omega

theorem Sound.createRequest (h : m.Sound) (hfresh : m.isFresh c = true)
    (timeout : Option Rat) (now : Rat) :
    (m.createRequest c timeout now).Sound := by
  obtain ⟨hfutures, hwaiters⟩ := (Bool.and_eq_true _ _).mp hfresh
  have hnew : ∀ c' f fu, m.FutureOf c' f fu → c' ≠ c := by
    intro c' f fu hfu hc
    have hall := List.all_eq_true.mp hfutures fu
      (List.mem_of_getElem? hfu.1)
    exact of_decide_eq_true hall (hfu.2.trans hc)
  have hidle : ∀ w ∈ m.waiters, w.correlationId ≠ c := by
    intro w hw
    exact of_decide_eq_true (List.all_eq_true.mp hwaiters w hw)
  refine ⟨?_, ?_, ?_, ?_, ?_, ?_⟩
  · intro c' r hr
    unfold RequestManager.createRequest at hr
    rw [Dict.get?_set] at hr
    split at hr
    next heq =>
      cases hr
      exact ⟨⟨c, []⟩, futureOf_create.mpr (.inr ⟨rfl, rfl, heq⟩), .inl rfl⟩
    next =>
      obtain ⟨fu, hfu, hstate⟩ := h.entries c' r hr
      exact ⟨fu, futureOf_create.mpr (.inl hfu), hstate⟩
  · intro c' f fu hfu hopen
    unfold RequestManager.createRequest
    rcases futureOf_create.mp hfu with hold | ⟨hf, -, rfl⟩
    · rw [Dict.get?_set_of_ne _ _ (hnew c' f fu hold)]
      exact h.pending c' f fu hold hopen
    · rw [Dict.get?_set_self]
      exact ⟨_, rfl, hf.symm⟩
  · intro c' f fu hfu
    rcases futureOf_create.mp hfu with hold | ⟨-, rfl, -⟩
    · exact h.once c' f fu hold
    · exact Nat.zero_le 1
  · intro c' f fu hfu
    rcases futureOf_create.mp hfu with hold | ⟨-, rfl, -⟩
    · exact h.own c' f fu hold
    · intro c'' v hresult
      cases hresult
  · intro c' f₁ f₂ fu₁ fu₂ h₁ h₂
    rcases futureOf_create.mp h₁ with hold₁ | ⟨hf₁, -, hc₁⟩
    · rcases futureOf_create.mp h₂ with hold₂ | ⟨-, -, hc₂⟩
      · exact h.distinct c' f₁ f₂ fu₁ fu₂ hold₁ hold₂
      · exact absurd hc₂ (hnew c' f₁ fu₁ hold₁)
    · rcases futureOf_create.mp h₂ with hold₂ | ⟨hf₂, -, -⟩
      · exact absurd hc₁ (hnew c' f₂ fu₂ hold₂)
      · rw [hf₁, hf₂]
  · intro w hw
    have hfit := h.fits w hw
    have hc := hidle w hw
    obtain ⟨c', phase⟩ := w
    cases phase with
    | sending => trivial
    | waiting f =>
      obtain ⟨fu, hfu⟩ := hfit
      exact ⟨fu, futureOf_create.mpr (.inl hfu)⟩
    | timingOut f =>
      obtain ⟨fu, hfu, hset⟩ := hfit
      exact ⟨fu, futureOf_create.mpr (.inl hfu), hset⟩
    | finished o =>
      have hfinished : (∀ f fu, m.FutureOf c' f fu → fu.settlements ≠ []
          ∧ ∀ c v, Settlement.result c v ∈ fu.settlements →
            o = .response v) →
          ∀ f fu, (m.createRequest c timeout now).FutureOf c' f fu →
            fu.settlements ≠ []
            ∧ ∀ c v, Settlement.result c v ∈ fu.settlements →
              o = .response v := by
        intro hold f fu hfu
        rcases futureOf_create.mp hfu with hof | ⟨-, -, heq⟩
        · exact hold f fu hof
        · exact absurd heq hc
      cases o with
      | notSent => trivial
      | response v | timeout | cancelled | keyError => exact hfinished hfit

-- ==== the tasks

/-- A task that ends agrees with its future, when that is done and what
it holds is the outcome. -/
theorem Sound.fits_finished (h : m.Sound) {f : Nat} {fu : RequestFuture V}
    (hfu : m.FutureOf c f fu) (hdone : fu.settlements ≠ [])
    {o : Outcome V} (ho : ∀ c' v, Settlement.result c' v ∈ fu.settlements →
      o = .response v) : m.Fits ⟨c, .finished o⟩ := by
  have hall : ∀ f' fu', m.FutureOf c f' fu' → fu'.settlements ≠ []
      ∧ ∀ c' v, Settlement.result c' v ∈ fu'.settlements →
        o = .response v := by
    intro f' fu' hfu'
    have hff := h.distinct c f f' fu fu' hfu hfu'
    subst hff
    have heq := hfu.1.symm.trans hfu'.1
    cases heq
    exact ⟨hdone, ho⟩
  cases o with
  | notSent => trivial
  | response v | timeout | cancelled | keyError => exact hall

theorem answered_of_futureOf {f : Nat} {fu : RequestFuture V}
    (hfu : m.FutureOf c f fu) {c' : String} {v : V}
    (hresult : Settlement.result c' v ∈ fu.settlements) : m.answered c v :=
  ⟨fu, List.mem_of_getElem? hfu.1, hfu.2, c', hresult⟩

theorem not_answered (h : m.isAnswered c = false) (v : V) :
    ¬ m.answered c v := by
  rintro ⟨fu, hfu, hid, c', hresult⟩
  have hfalse := List.any_eq_false.mp h fu hfu
  refine hfalse ((Bool.and_eq_true _ _).mpr ⟨decide_eq_true hid, ?_⟩)
  exact List.any_eq_true.mpr ⟨_, hresult, rfl⟩

theorem Sound.fits_beginWait (h : m.Sound)
    (hno : m.isAnswered c = false) : m.Fits ⟨c, m.beginWait c⟩ := by
  unfold beginWait
  split
  next hnone =>
    intro f fu hfu
    refine ⟨?_, fun c' v hresult => ?_⟩
    · intro hopen
      obtain ⟨r, hr, -⟩ := h.pending c f fu hfu hopen
      rw [hnone] at hr
      cases hr
    · exact absurd (answered_of_futureOf hfu hresult) (not_answered hno v)
  next r hr =>
    obtain ⟨fu, hfu, -⟩ := h.entries c r hr
    exact ⟨fu, hfu⟩

theorem settlements_of_futureOf {f : Nat} {fu : RequestFuture V}
    (hfu : m.FutureOf c f fu) : m.settlements f = fu.settlements := by
  unfold settlements
  rw [hfu.1]
  rfl

theorem isDone_of_futureOf {f : Nat} {fu : RequestFuture V}
    (hfu : m.FutureOf c f fu) : m.isDone f = fu.done := by
  unfold isDone
  rw [hfu.1]
  rfl

theorem not_timingOut {f f' : Nat} (h : w.phase = .waiting f) :
    w.phase = .timingOut f' → m.pendingRequests.get? w.correlationId
      = none := by
  intro htiming
  rw [h] at htiming
  cases htiming

theorem Sound.only_settlement (h : m.Sound) {c : String} {f : Nat}
    {fu : RequestFuture V} (hfu : m.FutureOf c f fu)
    {first : Settlement V} {rest : List (Settlement V)}
    (hset : fu.settlements = first :: rest) :
    fu.settlements = [first] := by
  have honce := h.once _ _ _ hfu
  rw [hset, List.length_cons] at honce
  have hrest : rest = [] := List.length_eq_zero_iff.mp (by omega)
  rw [hset, hrest]

theorem Sound.wake (h : m.Sound) {i : Nat} (hi : m.waiters[i]? = some w)
    (hs : m.wake i w = some m') : m'.Sound := by
  have hfit := h.fits w (List.mem_of_getElem? hi)
  unfold RequestManager.wake at hs
  split at hs
  next f hphase =>
    unfold Fits at hfit
    rw [hphase] at hfit
    obtain ⟨fu, hfu⟩ := hfit
    rw [settlements_of_futureOf hfu] at hs
    split at hs
    · cases hs
    next c' v rest hset =>
      cases hs
      have hone := h.only_settlement hfu hset
      refine h.putPhase hi (h.fits_finished hfu ?_ ?_)
        fun f' => not_timingOut hphase
      · rw [hset]
        exact List.cons_ne_nil _ _
      · intro c'' v' hresult
        rw [hone, List.mem_singleton] at hresult
        cases hresult
        rfl
    next rest hset =>
      cases hs
      have hone := h.only_settlement hfu hset
      refine h.putPhase hi (h.fits_finished hfu ?_ ?_)
        fun f' => not_timingOut hphase
      · rw [hset]
        exact List.cons_ne_nil _ _
      · intro c'' v' hresult
        rw [hone, List.mem_singleton] at hresult
        cases hresult
    next rest hset =>
      cases hs
      have hone := h.only_settlement hfu hset
      have hfinish := h.finish w.correlationId (s := .cancelled) nofun
      have hw : (m.finish w.correlationId .cancelled).waiters[i]?
          = some w := by
        rw [waiters_finish]
        exact hi
      refine hfinish.putPhase hw ?_ fun f' => not_timingOut hphase
      refine Fits.finish (h.fits_finished hfu ?_ ?_) _ _
      · rw [hset]
        exact List.cons_ne_nil _ _
      · intro c'' v' hresult
        rw [hone, List.mem_singleton] at hresult
        cases hresult
  next f hphase =>
    cases hs
    unfold Fits at hfit
    rw [hphase] at hfit
    obtain ⟨fu, hfu, hset⟩ := hfit
    have hfinish := h.finish w.correlationId (s := .cancelled) nofun
    have hw : (m.finish w.correlationId .cancelled).waiters[i]?
        = some w := by
      rw [waiters_finish]
      exact hi
    refine hfinish.putPhase hw ?_ fun f' _ => get?_finish_self m _ _
    refine Fits.finish (h.fits_finished hfu ?_ ?_) _ _
    · rw [hset]
      exact List.cons_ne_nil _ _
    · intro c'' v' hresult
      rw [hset, List.mem_singleton] at hresult
      cases hresult
  · cases hs
  · cases hs

/-- The timer leaves the request in the table for the waiter to take
out. -/
theorem Sound.timeOut (h : m.Sound) {i : Nat} (hi : m.waiters[i]? = some w)
    (hs : m.timeOut i w = some m') : m'.Sound := by
  have hfit := h.fits w (List.mem_of_getElem? hi)
  unfold RequestManager.timeOut at hs
  split at hs
  next f hphase =>
    split at hs
    · cases hs
    next hopen =>
      cases hs
      unfold Fits at hfit
      rw [hphase] at hfit
      obtain ⟨fu, hfu⟩ := hfit
      rw [isDone_of_futureOf hfu] at hopen
      have hnil : fu.settlements = [] := by
        by_contra hne
        exact hopen (RequestFuture.done_iff.mpr hne)
      have hself : (m.settle f .cancelled).FutureOf w.correlationId f
          { fu with settlements := [.cancelled] } := by
        refine ⟨?_, hfu.2⟩
        rw [getElem?_settle, hfu.1, Option.map_some, if_pos ⟨rfl, hnil⟩]
      refine ⟨?_, ?_, ?_, ?_, ?_, ?_⟩
      · intro c r hr
        change (m.settle f .cancelled).pendingRequests.get? c = some r at hr
        rw [pendingRequests_settle] at hr
        obtain ⟨old, hold, hstate⟩ := h.entries c r hr
        by_cases hff : f = r.future
        · -- the request of this waiter
          subst hff
          have heq := hfu.1.symm.trans hold.1
          cases heq
          have hc : w.correlationId = c := hfu.2.symm.trans hold.2
          refine ⟨{ fu with settlements := [.cancelled] }, ?_, .inr ?_⟩
          · rw [← hc]
            exact hself
          · refine ⟨{ w with phase := .timingOut r.future },
              mem_set_self (t := w) ?_ _, hc, rfl⟩
            rw [waiters_settle]
            exact hi
        · obtain ⟨fu', hfu', hkeep⟩ := hold.settle f .cancelled
          refine ⟨fu', hfu', ?_⟩
          rcases hstate with hnil' | ⟨w', hw', hc, htiming⟩
          · exact .inl (hkeep hnil' hff)
          · rw [← waiters_settle (f := f) (s := .cancelled)] at hi hw'
            rcases eq_or_mem_set hi { w with phase := .timingOut f } hw'
              with rfl | hw'
            · rw [hphase] at htiming
              cases htiming
            · exact .inr ⟨w', hw', hc, htiming⟩
      · intro c f' fu' hfu' hopen'
        change ∃ r, (m.settle f .cancelled).pendingRequests.get? c = some r
          ∧ r.future = f'
        rw [pendingRequests_settle]
        obtain ⟨old, hold, rfl | ⟨-, -, hset⟩⟩ := futureOf_settle hfu'
        · exact h.pending c f' fu' hold hopen'
        · rw [hset] at hopen'
          cases hopen'
      · intro c f' fu' hfu'
        obtain ⟨old, hold, rfl | ⟨-, -, hset⟩⟩ := futureOf_settle hfu'
        · exact h.once c f' fu' hold
        · rw [hset]
          exact Nat.le_refl 1
      · intro c f' fu' hfu' c' v hresult
        obtain ⟨old, hold, rfl | ⟨-, -, hset⟩⟩ := futureOf_settle hfu'
        · exact h.own c f' fu' hold c' v hresult
        · rw [hset, List.mem_singleton] at hresult
          cases hresult
      · intro c f₁ f₂ fu₁ fu₂ h₁ h₂
        obtain ⟨old₁, hold₁, -⟩ := futureOf_settle h₁
        obtain ⟨old₂, hold₂, -⟩ := futureOf_settle h₂
        exact h.distinct c f₁ f₂ old₁ old₂ hold₁ hold₂
      · intro w' hw'
        rcases List.mem_or_eq_of_mem_set hw' with hold | rfl
        · rw [waiters_settle] at hold
          exact Fits.settle (h.fits w' hold) f .cancelled
        · exact ⟨_, hself, rfl⟩
  · cases hs

/-- The task of a waiter is cancelled when its request is gone, and was
not answered. -/
theorem Sound.cancelWaiter (h : m.Sound) {i : Nat}
    (hi : m.waiters[i]? = some w)
    (hgone : m.pendingRequests.contains w.correlationId = false)
    (hno : m.isAnswered w.correlationId = false)
    (hs : m.cancelWaiter i w = some m') : m'.Sound := by
  have hfit := h.fits w (List.mem_of_getElem? hi)
  have hgone : m.pendingRequests.get? w.correlationId = none :=
    Option.isSome_eq_false_iff.mp hgone |> Option.isNone_iff_eq_none.mp
  -- the future of the waiter is done
  have hend : ∀ f fu, m.FutureOf w.correlationId f fu →
      ((m.settle f .cancelled).putPhase i w (.finished .cancelled)).Sound := by
    intro f fu hfu
    have hdone : fu.settlements ≠ [] := by
      intro hopen
      obtain ⟨r, hr, -⟩ := h.pending _ f fu hfu hopen
      rw [hgone] at hr
      cases hr
    have hsame : m.settle f .cancelled = m := by
      unfold RequestManager.settle
      rw [isDone_of_futureOf hfu, RequestFuture.done_iff.mpr hdone]
      rfl
    rw [hsame]
    refine h.putPhase hi (h.fits_finished hfu hdone ?_) fun _ _ => hgone
    intro c v hresult
    exact absurd (answered_of_futureOf hfu hresult) (not_answered hno v)
  unfold RequestManager.cancelWaiter at hs
  unfold Fits at hfit
  split at hs
  next f hphase =>
    cases hs
    rw [hphase] at hfit
    obtain ⟨fu, hfu⟩ := hfit
    exact hend f fu hfu
  next f hphase =>
    cases hs
    rw [hphase] at hfit
    obtain ⟨fu, hfu, -⟩ := hfit
    exact hend f fu hfu
  · cases hs

theorem sending?_eq_some {i : Nat} (h : m.sending? i = some w) :
    m.waiters[i]? = some w ∧ w.phase = .sending := by
  obtain ⟨hi, hphase⟩ := Option.filter_eq_some_iff.mp h
  refine ⟨hi, ?_⟩
  split at hphase
  next heq => exact heq
  next => cases hphase

theorem Sound.putSending (h : m.Sound) {i : Nat}
    (hi : m.waiters[i]? = some w) (hphase : w.phase = .sending)
    {phase : WaiterPhase V} (hfit : m.Fits { w with phase := phase }) :
    (m.putPhase i w phase).Sound := by
  refine h.putPhase hi hfit ?_
  intro f htiming
  rw [hphase] at htiming
  cases htiming

/-- Every step that disturbs no waiter keeps the invariant. -/
theorem Sound.step (h : m.Sound) {e : RequestEvent V}
    (hc : m.Undisturbed e) (hs : m.step e = some m') : m'.Sound := by
  cases e with
  | create c timeout now =>
    simp only [RequestManager.step] at hs
    split at hs
    next hfresh =>
      cases hs
      exact h.createRequest hfresh timeout now
    next => cases hs
  | sendRequest c timeout now =>
    simp only [RequestManager.step] at hs
    split at hs
    next hfresh =>
      cases hs
      exact (h.createRequest hfresh timeout now).addWaiter trivial
    next => cases hs
  | sent i =>
    obtain ⟨w, hw, rfl⟩ := Option.map_eq_some_iff.mp hs
    obtain ⟨hi, hphase⟩ := sending?_eq_some hw
    exact h.putSending hi hphase (h.fits_beginWait (hc w hi))
  | sendFailed i =>
    obtain ⟨w, hw, rfl⟩ := Option.map_eq_some_iff.mp hs
    obtain ⟨hi, hphase⟩ := sending?_eq_some hw
    have hfinish := h.finish w.correlationId (s := .cancelled) nofun
    refine hfinish.putSending ?_ hphase trivial
    rw [waiters_finish]
    exact hi
  | cancelSending i =>
    obtain ⟨w, hw, rfl⟩ := Option.map_eq_some_iff.mp hs
    obtain ⟨hi, hphase⟩ := sending?_eq_some hw
    exact h.putSending hi hphase trivial
  | wait c =>
    cases hs
    exact h.addWaiter (h.fits_beginWait hc)
  | wake i =>
    obtain ⟨w, hi, hwake⟩ := Option.bind_eq_some_iff.mp hs
    exact h.wake hi hwake
  | timeOut i =>
    obtain ⟨w, hi, htimer⟩ := Option.bind_eq_some_iff.mp hs
    exact h.timeOut hi htimer
  | cancelWaiter i =>
    obtain ⟨w, hi, hcancel⟩ := Option.bind_eq_some_iff.mp hs
    obtain ⟨hgone, hno⟩ := hc w hi
    exact h.cancelWaiter hi hgone hno hcancel
  | resolve c v =>
    cases hs
    refine h.finish c ?_
    intro c' v' heq
    cases heq
    rfl
  | cancel c =>
    cases hs
    exact h.finish c nofun
  | cleanup now =>
    cases hs
    exact h.foldl_finish _ nofun
  | stop =>
    cases hs
    exact h.foldl_finish (s := .cancelled) _ nofun

-- ==== the property

/-- The invariant says that every request has one outcome. -/
theorem Sound.oneOutcome (h : m.Sound) : m.OneOutcome := by
  refine ⟨?_, ?_, ?_, ?_⟩
  · intro fu hfu
    obtain ⟨f, hf⟩ := List.mem_iff_getElem?.mp hfu
    exact h.once _ f fu ⟨hf, rfl⟩
  · intro fu hfu
    obtain ⟨f, hf⟩ := List.mem_iff_getElem?.mp hfu
    exact h.own _ f fu ⟨hf, rfl⟩
  · rintro w hw o hphase ho v ⟨fu, hfu, hid, c, hresult⟩
    obtain ⟨f, hf⟩ := List.mem_iff_getElem?.mp hfu
    have hfit := h.fits w hw
    unfold Fits at hfit
    rw [hphase] at hfit
    cases o with
    | notSent => exact absurd rfl ho
    | response v' | timeout | cancelled | keyError =>
      exact (hfit f fu ⟨hf, hid⟩).2 c v hresult
  · intro hidle c r hr
    obtain ⟨fu, hfu, hstate⟩ := h.entries c r hr
    rcases hstate with hopen | ⟨w, hw, -, htiming⟩
    · rw [isDone_of_futureOf hfu]
      unfold RequestFuture.done
      rw [hopen]
      rfl
    · obtain ⟨o, ho⟩ := hidle w hw
      rw [htiming] at ho
      cases ho

/-- In every state of a run that disturbs no waiter, every request gets
one outcome. -/
theorem one_outcome (m : RequestManager V)
    (hm : (runs V).ReachVia Undisturbed m) : m.OneOutcome := by
  have hsound : m.Sound := by
    refine Lts.ReachVia.invariant (I := Sound) ?_ ?_ hm
    · rintro m ⟨timeout, rfl⟩
      refine ⟨nofun, ?_, ?_, ?_, ?_, nofun⟩
      · rintro c f fu ⟨hf, -⟩
        cases hf
      · rintro c f fu ⟨hf, -⟩
        cases hf
      · rintro c f fu ⟨hf, -⟩
        cases hf
      · rintro c f f' fu fu' ⟨hf, -⟩
        cases hf
    · intro m e m' h hc hs
      exact h.step hc hs
  exact hsound.oneOutcome

/-- A request is sent and answered, another is timed out. -/
def answeredEvents : List (RequestEvent String) :=
  [.sendRequest "a" none 0, .sent 0, .sendRequest "b" none 0, .sent 1,
    .resolve "a" "ok", .timeOut 1, .wake 0, .wake 1]

theorem one_outcome_answered :
    ((runs String).exec ⟨∅, 30, [], []⟩ answeredEvents).isSome = true
      ∧ ∀ m ∈ (runs String).exec ⟨∅, 30, [], []⟩ answeredEvents,
        m.OneOutcome := by
  refine ⟨by decide +kernel, fun m hm => ?_⟩
  refine one_outcome m ?_
  have hstart : (runs String).ReachVia Undisturbed ⟨∅, 30, [], []⟩ :=
    .init ⟨30, rfl⟩
  exact hstart.exec (by decide +kernel) hm

/-- The answer comes while the send is still under way. -/
def earlyAnswer : RequestManager String where
  pendingRequests := ∅
  defaultTimeout := 30
  futures := [⟨"a", [.result "a" "ok"]⟩]
  waiters := [⟨"a", .finished .keyError⟩]

def leftBehind : RequestManager String where
  pendingRequests := (∅ : Dict String PendingRequest).set "a" ⟨0, 0, 30⟩
  defaultTimeout := 30
  futures := [⟨"a", [.cancelled]⟩]
  waiters := [⟨"a", .finished .cancelled⟩]

/-- A task gets `KeyError` for the answer it has been sent, and the
request of a cancelled one stays in the table with its future done. -/
theorem outcome_lost :
    ((runs String).exec ⟨∅, 30, [], []⟩ [.sendRequest "a" none 0,
        .resolve "a" "ok", .sent 0] = some earlyAnswer
      ∧ ¬ earlyAnswer.OneOutcome)
    ∧ ((runs String).exec ⟨∅, 30, [], []⟩ [.sendRequest "a" none 0,
        .sent 0, .cancelWaiter 0] = some leftBehind
      ∧ ¬ leftBehind.OneOutcome) := by
  refine ⟨⟨by decide +kernel, ?_⟩, by decide +kernel, ?_⟩
  · intro h
    have hlost := h.received _ List.mem_cons_self _ rfl nofun "ok"
      ⟨_, List.mem_cons_self, rfl, "a", List.mem_cons_self⟩
    cases hlost
  · intro h
    have hidle : ∀ w ∈ leftBehind.waiters, ∃ o, w.phase = .finished o := by
      intro w hw
      rw [List.mem_singleton.mp hw]
      exact ⟨_, rfl⟩
    exact absurd (h.clean hidle "a" ⟨0, 0, 30⟩ (by decide +kernel))
      (by decide +kernel)

end RequestManager

end Freeciv3d.Gateway.Requests
