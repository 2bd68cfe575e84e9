/-
No allocated port is lost: every server that an allocation with a game
id set unavailable, and that is still in Pregame, is covered by an
unreleased row with a `last_seen` (`NoPortLost.covered`), and every
address an allocation answered is one a release accepts
(`NoPortLost.accepted`).

# Why a row with a `last_seen`

The stale clean-up compares `last_seen` to a time, and NULL compares
to nothing. `cleanup_frees` is the payoff of a covered server: once
its row is older than the threshold the next clean-up frees it.

# Where it is lost

- A first INSERT writes no `last_seen`, only the duplicate-key form
  does.
- A game has one row. An allocation 24 hours after its last one
  overwrites it, and the server of the old row is uncovered.
- The second UPDATE of a release ends rows by game id or by port, not
  by the address the first UPDATE freed.
- A release accepts ports 6000 to 6009, an allocation answers any.

# What this closes

`ports_kept_iff`: a run loses no port exactly when each allocation and
each second UPDATE it commits avoids these four.
-/
import Freeciv3d.Metaserver.Runs
import Freeciv3d.Metaserver.Proofs.Tables

namespace Freeciv3d.Metaserver

open Lib

variable {thr : Nat} {db : Db} {s s' : Sys} {a : Act}

/-- The server at this address was last set unavailable by an
allocation with a game id, and is unavailable and in Pregame. -/
def Sys.Taken (s : Sys) (addr : Address) : Prop :=
  (∃ g, s.takenBy.get? addr = some (some g))
    ∧ ∃ srv, s.db.servers.get? addr = some srv
      ∧ ServerAllocator.heldPregame srv = true

/-- A release of this address passes the port test and finds the
server. -/
def Db.Accepts (db : Db) (addr : Address) : Prop :=
  ServerRelease.portInRange addr.2 = true
    ∧ db.servers.get? addr ≠ none

structure NoPortLost (s : Sys) : Prop where
  covered : ∀ {addr : Address}, s.Taken addr →
    ∃ g, s.db.HoldsSeen g addr
  accepted : ∀ e ∈ s.answered, s.db.Accepts e.2

/-- A transaction of this request keeps every taken server covered and
answers an address a release accepts. A reused row must refer to such
an address. A server taken for a game must be covered afterwards:
by the game's own row, which has a `last_seen` if the game had a row
before, or by another game's. And the row that is overwritten must not
have been the only cover of another taken server. -/
def AllocateKeeps (s : Sys) (r : ServerAllocator.Request)
    (ls : List Port) : Prop :=
  match r.gameId.bind (ServerAllocator.existingAllocation s.db) with
  | some row => s.db.Accepts row.address
  | none =>
    ∀ addr, ServerAllocator.pickCandidate ls
        (ServerAllocator.candidates s.db r.gameType) = some addr →
      ServerRelease.portInRange addr.2 = true
      ∧ ∀ g, r.gameId = some g →
          (s.db.gameAllocations.get? g ≠ none
            ∨ ∃ g', g' ≠ g ∧ s.db.HoldsSeen g' addr)
          ∧ ∀ addr', addr' ≠ addr → s.Taken addr' →
              ∃ g', g' ≠ g ∧ s.db.HoldsSeen g' addr'

/-- The second UPDATE of this request leaves every taken server a seen
row it does not end. -/
def ReleaseKeeps (s : Sys) (r : ServerRelease.Request) : Prop :=
  ∀ addr, s.Taken addr →
    ∃ g row, s.db.gameAllocations.get? g = some row ∧ row.Holds addr
      ∧ row.lastSeen ≠ none ∧ ServerRelease.releases r g row = false

/-- The condition on one step. -/
def KeepsPorts (s : Sys) : Act → Prop
  | .allocCommit i ls => ∀ r ∈ s.allocating[i]?, AllocateKeeps s r ls
  | .releaseEnd i => ∀ r ∈ s.releasing[i]?, ReleaseKeeps s r
  | _ => True

-- ==== what covered buys

-- ==== the single steps

/-- Taken, seen and accepted read the tables and `takenBy` only. -/
private theorem NoPortLost.congr (h : NoPortLost s)
    (hs : s'.db.servers = s.db.servers)
    (ha : s'.db.gameAllocations = s.db.gameAllocations)
    (hans : s'.answered = s.answered) (ht : s'.takenBy = s.takenBy) :
    NoPortLost s' := by
  constructor
  · intro addr htaken
    simp only [Sys.Taken, hs, ht] at htaken
    simpa only [Db.HoldsSeen, ha] using h.covered htaken
  · intro e he
    rw [hans] at he
    simpa only [Db.Accepts, hs] using h.accepted e he

/-- The clean-up ends a row only when it frees its server. -/
private theorem NoPortLost.cleanup (h : NoPortLost s)
    (hdb : s'.db = ServerAllocator.cleanupStaleAllocations thr s.db)
    (hans : s'.answered = s.answered) (ht : s'.takenBy = s.takenBy) :
    NoPortLost s' := by
  constructor
  · intro addr hall
    rcases hall with ⟨⟨g₀, hg₀⟩, srv', hsrv', hheld⟩
    rw [hdb] at hsrv'
    rw [ht] at hg₀
    rcases ServerAllocator.cleanup_servers hsrv' with
      hsrv | ⟨srv, -, -, rfl, -⟩
    · obtain ⟨g, row, hrow, hh, hseen⟩ :=
        h.covered ⟨⟨g₀, hg₀⟩, srv', hsrv, hheld⟩
      refine ⟨g, row, ?_, hh, hseen⟩
      rw [hdb]
      refine ServerAllocator.cleanup_keeps hrow fun srv₂ hsrv₂ hheld₂ => ?_
      by_contra hst
      -- a stale row would have freed the server
      have hfreed := ServerAllocator.cleanup_frees hrow
        (Bool.eq_true_of_not_eq_false hst) hsrv₂ hheld₂
      rw [hh.2, hsrv'] at hfreed
      cases hfreed
      simp [ServerAllocator.heldPregame] at hheld
    · simp [ServerAllocator.heldPregame] at hheld
  · intro e he
    rw [hans] at he
    refine ⟨(h.accepted e he).1, ?_⟩
    rw [hdb]
    unfold ServerAllocator.cleanupStaleAllocations
    rw [Dict.get?_mapVals]
    simpa using (h.accepted e he).2

/-- Freeing a server asks less of the tables. -/
private theorem NoPortLost.releaseServer (h : NoPortLost s)
    {r : ServerRelease.Request}
    (hdb : s'.db = ServerRelease.releaseServer r s.db)
    (hans : s'.answered = s.answered) (ht : s'.takenBy = s.takenBy) :
    NoPortLost s' := by
  constructor
  · intro addr hp
    rcases hp with ⟨⟨g₀, hg₀⟩, srv', hsrv', hheld⟩
    rw [ht] at hg₀
    rw [hdb, ServerRelease.releaseServer_servers] at hsrv'
    split at hsrv'
    case isTrue =>
      obtain ⟨srv, -, rfl⟩ := Option.map_eq_some_iff.mp hsrv'
      simp [ServerAllocator.heldPregame] at hheld
    case isFalse =>
      rw [hdb]
      exact h.covered ⟨⟨g₀, hg₀⟩, srv', hsrv', hheld⟩
  · intro e he
    rw [hans] at he
    refine ⟨(h.accepted e he).1, ?_⟩
    rw [hdb, ServerRelease.releaseServer_servers]
    have hsome := (h.accepted e he).2
    split <;> simpa using hsome

/-- The second UPDATE keeps every cover exactly under its
condition. -/
private theorem NoPortLost.releaseAllocation_iff (h : NoPortLost s)
    {r : ServerRelease.Request}
    (hdb : s'.db = ServerRelease.releaseAllocation r s.db)
    (hans : s'.answered = s.answered) (ht : s'.takenBy = s.takenBy) :
    NoPortLost s' ↔ ReleaseKeeps s r := by
  have hservers : s'.db.servers = s.db.servers := by rw [hdb]; rfl
  have hseen : ∀ addr, (∃ g, s'.db.HoldsSeen g addr)
      ↔ ∃ g row, s.db.gameAllocations.get? g = some row ∧ row.Holds addr
        ∧ row.lastSeen ≠ none ∧ ServerRelease.releases r g row = false := by
    intro addr
    rw [hdb]
    constructor
    · intro hp
      rcases hp with ⟨g, row, hrow, hh, hl⟩
      obtain ⟨hrow, hr⟩ := (ServerRelease.releaseAllocation_row hh.1).mp hrow
      exact ⟨g, row, hrow, hh, hl, hr⟩
    · intro hp
      rcases hp with ⟨g, row, hrow, hh, hl, hr⟩
      exact ⟨g, row,
        (ServerRelease.releaseAllocation_row hh.1).mpr ⟨hrow, hr⟩, hh, hl⟩
  constructor
  · intro h' addr htaken
    refine (hseen addr).mp (h'.covered ?_)
    simpa only [Sys.Taken, hservers, ht] using htaken
  · intro hk
    constructor
    · intro addr htaken
      simp only [Sys.Taken, hservers, ht] at htaken
      exact (hseen addr).mpr (hk addr htaken)
    · intro e he
      rw [hans] at he
      simpa only [Db.Accepts, hservers] using h.accepted e he

-- ==== the transaction

section Allocate

variable {i : Nat} {ls : List Port} {r : ServerAllocator.Request}

/-- Reusing a row keeps every cover; the answer is the row's
address. -/
private theorem NoPortLost.reuse_iff (h : NoPortLost s) {g : GameId}
    {row : Allocation} {rest : List ServerAllocator.Request}
    {ok : ServerAllocator.Success} (hhost : (ok.host, ok.port) = row.address)
    (hreused : ok.reused = some true) :
    NoPortLost ({ s with db := ServerAllocator.touchAllocation s.db g
                         allocating := rest }.recordAnswer (.allocated ok))
      ↔ s.db.Accepts row.address := by
  constructor
  · intro h'
    have := h'.accepted (ok.gameId, (ok.host, ok.port))
      (List.mem_cons_self ..)
    rw [hhost] at this
    exact this
  · intro hacc
    constructor
    · intro addr hp
      rcases hp with ⟨hg₀, hsrv⟩
      simp only [Sys.recordAnswer, hreused, if_true] at hg₀
      obtain ⟨g', hg'⟩ := h.covered ⟨hg₀, hsrv⟩
      exact ⟨g', ServerAllocator.touchAllocation_holdsSeen hg'⟩
    · intro e he
      rcases List.mem_cons.mp he with rfl | he
      · rw [hhost]
        exact hacc
      · exact h.accepted e he

/-- After a take the taken server is unavailable, the others are as
they were. -/
private theorem takeServer_held (db : Db) (addr addr' : Address) :
    (∃ srv, (ServerAllocator.takeServer db addr).servers.get? addr'
        = some srv ∧ ServerAllocator.heldPregame srv = true)
      ↔ if addr' = addr
        then ∃ srv, db.servers.get? addr = some srv
          ∧ srv.state = "Pregame"
        else ∃ srv, db.servers.get? addr' = some srv
          ∧ ServerAllocator.heldPregame srv = true := by
  rw [ServerAllocator.takeServer_servers]
  by_cases hne : addr' = addr
  · subst hne
    cases db.servers.get? addr' <;> simp [ServerAllocator.heldPregame]
  · simp [hne]

private theorem takeServer_isSome {addr addr' : Address} :
    (ServerAllocator.takeServer db addr).servers.get? addr' ≠ none
      ↔ db.servers.get? addr' ≠ none := by
  rw [ServerAllocator.takeServer_servers]
  split <;> simp

/-- Taking a server for nobody in particular asks for no cover. -/
private theorem NoPortLost.anonymous_iff (h : NoPortLost s)
    {addr : Address} {rest : List ServerAllocator.Request}
    {ok : ServerAllocator.Success} (hsrv : s.db.servers.get? addr ≠ none)
    (hhost : (ok.host, ok.port) = addr) (hg : ok.gameId = none)
    (hreused : ok.reused ≠ some true) :
    NoPortLost ({ s with db := ServerAllocator.takeServer s.db addr
                         allocating := rest }.recordAnswer (.allocated ok))
      ↔ ServerRelease.portInRange addr.2 = true := by
  constructor
  · intro h'
    have := h'.accepted (ok.gameId, (ok.host, ok.port))
      (List.mem_cons_self ..)
    rw [hhost] at this
    exact this.1
  · intro hport
    constructor
    · intro addr' hp
      rcases hp with ⟨⟨g₀, hg₀⟩, hheld⟩
      simp only [Sys.recordAnswer, hreused, if_false, hhost, hg,
        Dict.get?_set] at hg₀
      split at hg₀
      case isTrue => cases hg₀
      case isFalse hne =>
        have hheld' := (takeServer_held ..).mp hheld
        rw [if_neg hne] at hheld'
        exact h.covered ⟨⟨g₀, hg₀⟩, hheld'⟩
    · intro e he
      rcases List.mem_cons.mp he with rfl | he
      · rw [hhost]
        exact ⟨hport, takeServer_isSome.mpr hsrv⟩
      · exact ⟨(h.accepted e he).1,
          takeServer_isSome.mpr (h.accepted e he).2⟩

/-- Taking a server for a game: the new row must cover it, and the
overwritten row must not be missed elsewhere. -/
private theorem NoPortLost.fresh_iff (h : NoPortLost s) {g : GameId}
    {addr : Address} {rest : List ServerAllocator.Request}
    {ok : ServerAllocator.Success}
    (hsrv : ∃ srv, s.db.servers.get? addr = some srv
      ∧ srv.state = "Pregame")
    (hhost : (ok.host, ok.port) = addr) (hg : ok.gameId = some g)
    (hreused : ok.reused ≠ some true) :
    NoPortLost ({ s with
        db := ServerAllocator.insertAllocation
          (ServerAllocator.takeServer s.db addr) g addr
        allocating := rest }.recordAnswer (.allocated ok))
      ↔ ServerRelease.portInRange addr.2 = true
        ∧ (s.db.gameAllocations.get? g ≠ none
            ∨ ∃ g', g' ≠ g ∧ s.db.HoldsSeen g' addr)
        ∧ ∀ addr', addr' ≠ addr → s.Taken addr' →
            ∃ g', g' ≠ g ∧ s.db.HoldsSeen g' addr' := by
  have hseen : ∀ addr', (∃ g', (ServerAllocator.insertAllocation
        (ServerAllocator.takeServer s.db addr) g addr).HoldsSeen g' addr')
      ↔ (addr' = addr ∧ s.db.gameAllocations.get? g ≠ none)
        ∨ ∃ g', g' ≠ g ∧ s.db.HoldsSeen g' addr' := by
    intro addr'
    simp only [ServerAllocator.insertAllocation_holdsSeen]
    constructor
    · intro hp
      rcases hp with ⟨g', hg'⟩
      split at hg'
      next => exact .inl hg'
      next hne => exact .inr ⟨g', hne, hg'⟩
    · intro hp
      rcases hp with hself | ⟨g', hne, hg'⟩
      · exact ⟨g, by rw [if_pos rfl]; exact hself⟩
      · exact ⟨g', by rw [if_neg hne]; exact hg'⟩
  have htaken : ∀ addr', ({ s with
        db := ServerAllocator.insertAllocation
          (ServerAllocator.takeServer s.db addr) g addr
        allocating := rest }.recordAnswer (.allocated ok)).Taken addr'
      ↔ addr' = addr ∨ (addr' ≠ addr ∧ s.Taken addr') := by
    intro addr'
    simp only [Sys.Taken, Sys.recordAnswer, hreused, if_false, hhost, hg,
      Dict.get?_set]
    have hheld := takeServer_held s.db addr addr'
    by_cases hne : addr' = addr
    · rw [if_pos hne] at hheld
      simpa [hne] using (hne ▸ hheld).mpr hsrv
    · rw [if_neg hne] at hheld
      simp only [ne_eq, hne, if_false, false_or, not_false_eq_true,
        true_and]
      exact and_congr_right' hheld
  constructor
  · intro h'
    refine ⟨?_, ?_, ?_⟩
    · have := h'.accepted (ok.gameId, (ok.host, ok.port))
        (List.mem_cons_self ..)
      rw [hhost] at this
      exact this.1
    · have := (hseen addr).mp (h'.covered ((htaken addr).mpr (.inl rfl)))
      simpa using this
    · intro addr' hne ht
      have := (hseen addr').mp
        (h'.covered ((htaken addr').mpr (.inr ⟨hne, ht⟩)))
      simpa [hne] using this
  · intro hall
    rcases hall with ⟨hport, hself, hothers⟩
    constructor
    · intro addr' ht
      refine (hseen addr').mpr ?_
      rcases (htaken addr').mp ht with rfl | ⟨hne, ht⟩
      · simpa using hself
      · exact .inr (hothers addr' hne ht)
    · intro e he
      rcases List.mem_cons.mp he with rfl | he
      · obtain ⟨srv, hsrv, -⟩ := hsrv
        rw [hhost]
        exact ⟨hport, takeServer_isSome.mpr (by simp [hsrv])⟩
      · exact ⟨(h.accepted e he).1,
          takeServer_isSome.mpr (h.accepted e he).2⟩

theorem NoPortLost.commit_iff (h : NoPortLost s) :
    NoPortLost (s.commit i r ls) ↔ AllocateKeeps s r ls := by
  have hout := ServerAllocator.allocates r ls s.db
  unfold Sys.commit AllocateKeeps
  generalize ServerAllocator.allocate r ls s.db = out at hout ⊢
  cases hout with
  | reuse hg ha =>
    rw [hg, Option.bind_some, ha]
    exact h.reuse_iff rfl rfl
  | busy ha hp =>
    rw [ha]
    exact iff_of_true (h.congr rfl rfl rfl rfl) (by simp [hp])
  | anonymous hg hp =>
    obtain ⟨srv, hsrv, -⟩ := ServerAllocator.pickCandidate_spec hp
    rw [hg, Option.bind_none]
    simp only [hp, Option.some.injEq, forall_eq', reduceCtorEq,
      false_implies, implies_true, and_true]
    exact h.anonymous_iff (by simp [hsrv]) rfl rfl (by simp)
  | fresh hg ha hp =>
    obtain ⟨srv, hsrv, -, hfree, -⟩ :=
      ServerAllocator.pickCandidate_spec hp
    have hpre : srv.state = "Pregame" := by
      simpa using (Bool.and_eq_true_iff.mp hfree).2
    rw [hg, Option.bind_some, ha]
    simp only [hp, Option.some.injEq, forall_eq']
    exact h.fresh_iff ⟨srv, hsrv, hpre⟩ rfl rfl (by simp)

end Allocate

-- ==== steps and runs

theorem noPortLost_step_iff (h : NoPortLost s)
    (hs : (metaserver thr).step s a = some s') :
    NoPortLost s' ↔ KeepsPorts s a := by
  cases commits_of_step hs with
  | same hsv hal hans ht _ hnc hne =>
    refine iff_of_true (h.congr hsv hal hans ht) ?_
    cases a with
    | allocCommit i ls => exact fun r hr => absurd hr (hnc i ls r rfl)
    | releaseEnd i => exact fun r hr => absurd hr (hne i r rfl)
    | _ => trivial
  | cleanup hdb hans ht => exact iff_of_true (h.cleanup hdb hans ht) trivial
  | @allocate i ls r hr hs' =>
    rw [hs', h.commit_iff]
    simp [KeepsPorts, hr]
  | releaseServer _ hdb hans ht =>
    exact iff_of_true (h.releaseServer hdb hans ht) trivial
  | @releaseAllocation i r hr hdb hans ht =>
    rw [h.releaseAllocation_iff hdb hans ht]
    simp [KeepsPorts, hr]

theorem noPortLost_init (h : (metaserver thr).init s) : NoPortLost s := by
  obtain ⟨-, -, -, hans, ht⟩ := h
  constructor
  · intro addr hall
    rcases hall with ⟨⟨g, hg⟩, -⟩
    rw [ht] at hg
    cases hg
  · intro e he
    rw [hans] at he
    cases he

/-- From tables in which no port is lost, the empty ones among them, a
run of any requests loses no port in any of its states exactly when
each allocation and each second UPDATE of a release meets its
condition in the state it runs in. -/
theorem ports_kept_iff (thr : Nat) (s : Sys) (h : NoPortLost s)
    (acts : List Act) :
    (metaserver thr).Always NoPortLost s acts
      ↔ (metaserver thr).Along KeepsPorts s acts :=
  Lts.always_iff_along (fun _ _ _ h hs => noPortLost_step_iff h hs) h acts

namespace FirstAllocation

/-- Game A allocates, a year passes, game B asks for a port. -/
def run : List Act :=
  [.allocBegin { type := none, gameId := some "A" } false,
    .allocCommit 0 [6001],
    .tick 31536000,
    .allocBegin { type := none, gameId := some "B" } false,
    .allocCommit 0 [6001]]

def final : Sys := ((metaserver 10).exec oneServer run).getD oneServer

end FirstAllocation

/-- The theorem at a start with one server. -/
theorem ports_kept_iff_first_allocation :
    (metaserver 10).Always NoPortLost oneServer
        FirstAllocation.run
      ↔ (metaserver 10).Along KeepsPorts oneServer
          FirstAllocation.run :=
  ports_kept_iff 10 oneServer
    (noPortLost_init
      (show (metaserver 10).init oneServer from ⟨rfl, rfl, rfl, rfl, rfl⟩))
    FirstAllocation.run

/-- The very first allocation of a game is lost: a year later, after
another clean-up, its port is still unavailable and no row has a
`last_seen`. -/
theorem port_lost_of_first_allocation :
    ¬∀ s, (metaserver 10).Reach s → NoPortLost s := by
  intro h
  have hreach : (metaserver 10).Reach FirstAllocation.final :=
    Lts.Reach.exec (.init (s := oneServer)
      ⟨rfl, rfl, rfl, rfl, rfl⟩) (l := FirstAllocation.run) (by decide)
  have htaken : FirstAllocation.final.Taken ("localhost", 6001) :=
    ⟨⟨"A", by decide⟩, _, rfl, by decide⟩
  obtain ⟨g, row, hrow, -, hseen⟩ := (h _ hreach).covered htaken
  have hmem : row ∈ FirstAllocation.final.db.gameAllocations.values :=
    Dict.mem_values_iff.mpr ⟨g, hrow⟩
  have hnull : ∀ r ∈ FirstAllocation.final.db.gameAllocations.values,
      r.lastSeen = none := by decide
  exact hseen (hnull row hmem)

end Freeciv3d.Metaserver
