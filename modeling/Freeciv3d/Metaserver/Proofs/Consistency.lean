/-
Consistency of the two allocation tables: no address is held by two
games, and no free server is held by any (`Consistent`).

# Where it is lost

The clean-up and the allocation transaction keep `Consistent` on their
own: an allocation only takes a free server, and a free server is held
by nobody. The first UPDATE of a release is the one statement without
a guard. It frees the server its request names whoever holds it, while
the row of the holder stays unreleased, until the second UPDATE if the
holder is the sender, and for good if the server has a new holder by
then (a repeated or late release).

# What this closes

`allocations_consistent_iff`: a run keeps the tables consistent
exactly when no release frees a server that is held at that moment.
-/
import Freeciv3d.Metaserver.Runs
import Freeciv3d.Metaserver.Proofs.Tables

namespace Freeciv3d.Metaserver

open Lib

/-- At most one unreleased row refers to each address, and no such row
refers to a server that is available and in Pregame. -/
structure Consistent (db : Db) : Prop where
  unique : ∀ {g g' : GameId} {addr : Address},
    db.Holds g addr → db.Holds g' addr → g = g'
  free : ∀ {addr : Address} {srv : Server},
    db.servers.get? addr = some srv → srv.free = true →
    ∀ g, ¬db.Holds g addr

/-- A release of this step, if it names a registered server at all,
names one that nobody holds. -/
def FreesUnheld (s : Sys) (a : Act) : Prop :=
  ∀ r ∈ a.release?, s.db.servers.get? r.address ≠ none →
    ∀ g, ¬s.db.Holds g r.address

variable {thr : Nat} {db db' : Db} {s s' : Sys} {a : Act}

-- ==== one lemma a statement

theorem Consistent.congr (h : Consistent db)
    (hs : db'.servers = db.servers)
    (ha : db'.gameAllocations = db.gameAllocations) : Consistent db' := by
  have hholds : ∀ g addr, db'.Holds g addr ↔ db.Holds g addr := by
    intro g addr
    unfold Db.Holds
    rw [ha]
  constructor
  · intro g g' addr hg hg'
    exact h.unique ((hholds _ _).mp hg) ((hholds _ _).mp hg')
  · intro addr srv hsrv hf g hg
    rw [hs] at hsrv
    exact h.free hsrv hf g ((hholds _ _).mp hg)

theorem Consistent.cleanup (h : Consistent db) :
    Consistent (ServerAllocator.cleanupStaleAllocations thr db) := by
  constructor
  · intro g g' addr hg hg'
    exact h.unique (ServerAllocator.cleanup_holds hg)
      (ServerAllocator.cleanup_holds hg')
  · intro addr srv' hsrv' hf g hall
    rcases hall with ⟨a, ha, hh⟩
    obtain ⟨ha₀, hkept⟩ := ServerAllocator.cleanup_row ha hh.1
    rcases ServerAllocator.cleanup_servers hsrv' with
      hsrv | ⟨srv, hsrv, hheld, -, g₀, a₀, hg₀, haddr, hst⟩
    · exact h.free hsrv hf g ⟨a, ha₀, hh⟩
    · -- the stale row that freed the server is this very row
      have hrel := (ServerAllocator.stale_iff.mp hst).1
      have hgg : g = g₀ := h.unique ⟨a, ha₀, hh⟩ ⟨a₀, hg₀, hrel, haddr⟩
      subst hgg
      rw [ha₀] at hg₀
      cases hg₀
      rw [← hh.2] at hsrv
      exact hkept ⟨hst, srv, hsrv, hheld⟩

/-- A server that is taken is not free. -/
private theorem takeServer_free {addr addr' : Address} {srv' : Server}
    (h : (ServerAllocator.takeServer db addr).servers.get? addr'
      = some srv') (hf : srv'.free = true) :
    addr' ≠ addr ∧ db.servers.get? addr' = some srv' := by
  rw [ServerAllocator.takeServer_servers] at h
  split at h
  case isTrue =>
    obtain ⟨srv, -, rfl⟩ := Option.map_eq_some_iff.mp h
    simp [Server.free] at hf
  case isFalse hne => exact ⟨hne, h⟩

theorem Consistent.allocate (h : Consistent db)
    (r : ServerAllocator.Request) (ls : List Port) :
    Consistent (ServerAllocator.allocate r ls db).1 := by
  have hout := ServerAllocator.allocates r ls db
  generalize ServerAllocator.allocate r ls db = out at hout ⊢
  cases hout with
  | @reuse g a hg ha =>
    constructor
    · intro g₁ g₂ addr h₁ h₂
      exact h.unique (ServerAllocator.touchAllocation_holds.mp h₁)
        (ServerAllocator.touchAllocation_holds.mp h₂)
    · intro addr srv hsrv hf g₁ h₁
      exact h.free hsrv hf g₁ (ServerAllocator.touchAllocation_holds.mp h₁)
  | busy ha hp => exact h
  | @anonymous addr hg hp =>
    constructor
    · intro g₁ g₂ addr' h₁ h₂
      exact h.unique h₁ h₂
    · intro addr' srv hsrv hf g₁ h₁
      exact h.free (takeServer_free hsrv hf).2 hf g₁ h₁
  | @fresh g addr hg ha hp =>
    obtain ⟨srv, hsrv, -, hfree, -⟩ :=
      ServerAllocator.pickCandidate_spec hp
    have hnone : ∀ g', ¬db.Holds g' addr := h.free hsrv hfree
    constructor
    · intro g₁ g₂ addr' h₁ h₂
      rw [ServerAllocator.insertAllocation_holds] at h₁ h₂
      split at h₁ <;> split at h₂
      next e₁ e₂ => rw [e₁, e₂]
      next e₁ e₂ => exact absurd (h₁ ▸ h₂) (hnone g₂)
      next e₁ e₂ => exact absurd (h₂ ▸ h₁) (hnone g₁)
      next e₁ e₂ => exact h.unique h₁ h₂
    · intro addr' srv' hsrv' hf g₁ h₁
      obtain ⟨hne, hsrv'⟩ := takeServer_free hsrv' hf
      rw [ServerAllocator.insertAllocation_holds] at h₁
      split at h₁
      next => exact hne h₁
      next => exact h.free hsrv' hf g₁ h₁

theorem Consistent.releaseAllocation (h : Consistent db)
    (r : ServerRelease.Request) :
    Consistent (ServerRelease.releaseAllocation r db) := by
  constructor
  · intro g g' addr hg hg'
    exact h.unique (ServerRelease.releaseAllocation_holds hg)
      (ServerRelease.releaseAllocation_holds hg')
  · intro addr srv hsrv hf g hg
    exact h.free hsrv hf g (ServerRelease.releaseAllocation_holds hg)

/-- The first UPDATE of a release is consistent exactly when the
server it frees, if there is one, is held by nobody. -/
theorem Consistent.releaseServer_iff (h : Consistent db)
    (r : ServerRelease.Request) :
    Consistent (ServerRelease.releaseServer r db)
      ↔ (db.servers.get? r.address ≠ none →
          ∀ g, ¬db.Holds g r.address) := by
  constructor
  · intro h' hsome
    obtain ⟨srv, hsrv⟩ := Option.ne_none_iff_exists'.mp hsome
    have hsrv' : (ServerRelease.releaseServer r db).servers.get? r.address
        = some { srv with
            available := 1, state := "Pregame", stamp := db.now } := by
      rw [ServerRelease.releaseServer_servers, if_pos rfl, hsrv]
      rfl
    exact h'.free hsrv' rfl
  · intro hc
    constructor
    · intro g g' addr hg hg'
      exact h.unique hg hg'
    · intro addr srv' hsrv' hf g hg
      rw [ServerRelease.releaseServer_servers] at hsrv'
      split at hsrv'
      case isFalse => exact h.free hsrv' hf g hg
      case isTrue heq =>
        obtain ⟨srv, hsrv, -⟩ := Option.map_eq_some_iff.mp hsrv'
        refine hc ?_ g (heq ▸ hg)
        rw [← heq, hsrv]
        exact Option.some_ne_none srv

-- ==== steps and runs

theorem recordAnswer_db (s : Sys) (an : ServerAllocator.Answer) :
    (s.recordAnswer an).db = s.db := by
  cases an <;> rfl

theorem commit_db (s : Sys) (i : Nat) (r : ServerAllocator.Request)
    (ls : List Port) :
    (s.commit i r ls).db = (ServerAllocator.allocate r ls s.db).1 :=
  recordAnswer_db ..

/-- One step keeps the tables consistent exactly when a release of it
frees no held server. -/
theorem consistent_step_iff (h : Consistent s.db)
    (hs : (metaserver thr).step s a = some s') :
    Consistent s'.db ↔ FreesUnheld s a := by
  cases commits_of_step hs with
  | same hsv hal _ _ hnr =>
    exact iff_of_true (h.congr hsv hal) (by simp [FreesUnheld, hnr])
  | cleanup hdb =>
    exact iff_of_true (hdb ▸ h.cleanup) (by simp [FreesUnheld, Act.release?])
  | @allocate i ls r hr hs' =>
    refine iff_of_true ?_ (by simp [FreesUnheld, Act.release?])
    rw [hs', commit_db]
    exact h.allocate r ls
  | @releaseServer p r hr hdb =>
    rw [hdb, h.releaseServer_iff r]
    simp [FreesUnheld, hr]
  | @releaseAllocation i r hr hdb =>
    exact iff_of_true (hdb ▸ h.releaseAllocation r)
      (by simp [FreesUnheld, Act.release?])

theorem consistent_init (h : (metaserver thr).init s) :
    Consistent s.db := by
  have hnone : ∀ g addr, ¬s.db.Holds g addr := by
    intro g addr hall
    rcases hall with ⟨a, ha, -⟩
    rw [h.1] at ha
    cases ha
  constructor
  · intro g g' addr hg
    exact absurd hg (hnone g addr)
  · intro addr srv _ _ g
    exact hnone g addr

-- ==== runs

namespace Repeated

def allocate (g : GameId) : List Act :=
  [.allocBegin { type := none, gameId := some g } false,
    .allocCommit 0 [6001]]

/-- A release request of one game for port 6001, both steps. -/
def release (g : GameId) : List Act :=
  [.releaseBegin { port := some "6001", host := none, gameId := some g },
    .releaseEnd 0]

/-- Game A allocates and releases, B allocates, A's release is sent
again, C allocates. -/
def run : List Act :=
  allocate "A" ++ release "A" ++ allocate "B" ++ release "A" ++ allocate "C"

def final : Sys := ((metaserver 10).exec oneServer run).getD oneServer

end Repeated

/-- From tables without an allocation, a run of any requests keeps the
tables consistent in every state exactly when every release it starts
frees a server that nobody holds at that moment. -/
theorem allocations_consistent_iff (thr : Nat) (s : Sys)
    (hinit : (metaserver thr).init s) (acts : List Act) :
    (metaserver thr).Always (fun t => Consistent t.db) s acts
      ↔ (metaserver thr).Along FreesUnheld s acts :=
  Lts.always_iff_along (fun _ _ _ h hs => consistent_step_iff h hs)
    (consistent_init hinit) acts

/-- The theorem at a start with one server. -/
theorem allocations_consistent_iff_repeated :
    (metaserver 10).Always (fun t => Consistent t.db) oneServer
        Repeated.run
      ↔ (metaserver 10).Along FreesUnheld oneServer Repeated.run :=
  allocations_consistent_iff 10 oneServer
    ⟨rfl, rfl, rfl, rfl, rfl⟩ Repeated.run

/-- With every release naming an address answered to its game, the
tables still become inconsistent: after A's repeated release B and C
both hold port 6001. -/
theorem not_consistent_of_repeated_release :
    ¬∀ s, (metaserver 10).ReachVia NamesGranted s → Consistent s.db := by
  intro h
  have hreach : (metaserver 10).ReachVia NamesGranted Repeated.final :=
    Lts.ReachVia.exec (.init (s := oneServer) ⟨rfl, rfl, rfl, rfl, rfl⟩)
      (l := Repeated.run) (by decide) (by decide)
  have hB : Repeated.final.db.Holds "B" ("localhost", 6001) :=
    ⟨_, rfl, by decide⟩
  have hC : Repeated.final.db.Holds "C" ("localhost", 6001) :=
    ⟨_, rfl, by decide⟩
  exact absurd ((h _ hreach).unique hB hC) (by decide)

end Freeciv3d.Metaserver
