/-
What each statement of the two servlets does to the rows: one lemma a
statement for the servers, one for who holds which address. The proofs
above this file never unfold a statement.

# Holding

A game holds an address while its row is unreleased and refers to it
(`Holds`). A row also counts as *seen* when its `last_seen` is not
NULL; the stale clean-up can only ever release a seen row.
-/
import Freeciv3d.Metaserver.Allocation

namespace Freeciv3d.Metaserver

open Lib

/-- The row is unreleased and refers to the address. -/
def Allocation.Holds (a : Allocation) (addr : Address) : Prop :=
  a.releasedAt = none ∧ a.address = addr

instance (a : Allocation) (addr : Address) : Decidable (a.Holds addr) :=
  inferInstanceAs (Decidable (_ ∧ _))

/-- The game's row is unreleased and refers to the address. -/
def Db.Holds (db : Db) (g : GameId) (addr : Address) : Prop :=
  ∃ a, db.gameAllocations.get? g = some a ∧ a.Holds addr

/-- The game holds the address through a row the clean-up can find. -/
def Db.HoldsSeen (db : Db) (g : GameId) (addr : Address) : Prop :=
  ∃ a, db.gameAllocations.get? g = some a ∧ a.Holds addr
    ∧ a.lastSeen ≠ none

theorem ServerAllocator.stale_iff {thr now : Nat} {a : Allocation} :
    ServerAllocator.stale thr now a = true
      ↔ a.releasedAt = none
        ∧ ∃ t, a.lastSeen = some t ∧ t + thr * 60 < now := by
  unfold ServerAllocator.stale
  cases a.lastSeen <;> simp

-- ==== the clean-up

namespace ServerAllocator

/-- The servers after the clean-up: a held Pregame server with a stale
row is available again, every other server is as it was. -/
theorem cleanup_servers {thr : Nat} {db : Db} {addr : Address}
    {srv' : Server}
    (h : (cleanupStaleAllocations thr db).servers.get? addr = some srv') :
    db.servers.get? addr = some srv'
      ∨ (∃ srv, db.servers.get? addr = some srv ∧ heldPregame srv = true
        ∧ srv' = { srv with available := 1, state := "Pregame"
                            stamp := db.now }
        ∧ ∃ g a, db.gameAllocations.get? g = some a ∧ a.address = addr
          ∧ stale thr db.now a = true) := by
  unfold cleanupStaleAllocations at h
  rw [Dict.get?_mapVals] at h
  obtain ⟨srv, hsrv, hsrv'⟩ := Option.map_eq_some_iff.mp h
  split at hsrv'
  case isFalse =>
    subst hsrv'
    exact .inl hsrv
  case isTrue hc =>
    obtain ⟨hheld, hany⟩ := Bool.and_eq_true_iff.mp hc
    obtain ⟨a, ha, hst⟩ := List.any_eq_true.mp hany
    obtain ⟨g, hg⟩ := Dict.mem_values_iff.mp ha
    obtain ⟨haddr, hstale⟩ := Bool.and_eq_true_iff.mp hst
    exact .inr ⟨srv, hsrv, hheld, hsrv'.symm, g, a, hg,
      of_decide_eq_true haddr, hstale⟩

theorem cleanup_frees {thr : Nat} {db : Db} {g : GameId} {a : Allocation}
    {srv : Server} (ha : db.gameAllocations.get? g = some a)
    (hst : stale thr db.now a = true)
    (hsrv : db.servers.get? a.address = some srv)
    (hheld : heldPregame srv = true) :
    (cleanupStaleAllocations thr db).servers.get? a.address
      = some { srv with available := 1, state := "Pregame"
                        stamp := db.now } := by
  have hany : db.gameAllocations.values.any (fun b =>
      decide (b.address = a.address) && stale thr db.now b) = true :=
    List.any_eq_true.mpr
      ⟨a, Dict.mem_values_iff.mpr ⟨g, ha⟩, by simp [hst]⟩
  unfold cleanupStaleAllocations
  rw [Dict.get?_mapVals, hsrv, Option.map_some, if_pos]
  rw [hheld, hany]
  rfl

/-- The clean-up writes a row only to release it, and only with its
server. -/
theorem cleanup_row {thr : Nat} {db : Db} {g : GameId} {a' : Allocation}
    (h : (cleanupStaleAllocations thr db).gameAllocations.get? g
      = some a') (hrel : a'.releasedAt = none) :
    db.gameAllocations.get? g = some a'
      ∧ ¬(stale thr db.now a' = true
        ∧ ∃ srv, db.servers.get? a'.address = some srv
          ∧ heldPregame srv = true) := by
  unfold cleanupStaleAllocations at h
  rw [Dict.get?_mapVals] at h
  obtain ⟨a, ha, ha'⟩ := Option.map_eq_some_iff.mp h
  split at ha'
  case isTrue =>
    subst ha'
    cases hrel
  case isFalse hc =>
    subst ha'
    refine ⟨ha, ?_⟩
    intro hall
    rcases hall with ⟨hst, srv, hsrv, hheld⟩
    exact hc (by simp [hst, hsrv, hheld])

theorem cleanup_keeps {thr : Nat} {db : Db} {g : GameId} {a : Allocation}
    (h : db.gameAllocations.get? g = some a)
    (hs : ∀ srv, db.servers.get? a.address = some srv →
      heldPregame srv = true → stale thr db.now a = false) :
    (cleanupStaleAllocations thr db).gameAllocations.get? g = some a := by
  unfold cleanupStaleAllocations
  rw [Dict.get?_mapVals, h, Option.map_some]
  split
  case isFalse => rfl
  case isTrue hc =>
    obtain ⟨hst, hany⟩ := Bool.and_eq_true_iff.mp hc
    cases hsrv : db.servers.get? a.address with
    | none => simp [hsrv] at hany
    | some srv =>
      rw [hsrv] at hany
      rw [hs srv hsrv hany] at hst
      cases hst

-- ==== the transaction

theorem mem_candidates_iff {db : Db} {t : String} {addr : Address} :
    addr ∈ candidates db t
      ↔ ∃ srv, db.servers.get? addr = some srv ∧ srv.type = t
        ∧ srv.free = true := by
  unfold candidates
  rw [List.mem_insertionSort, List.mem_map]
  constructor
  · intro hall
    rcases hall with ⟨⟨addr', srv⟩, hmem, rfl⟩
    obtain ⟨hmem, hp⟩ := List.mem_filter.mp hmem
    exact ⟨srv, Dict.mem_entries_iff.mp hmem, by simpa using hp⟩
  · intro hall
    rcases hall with ⟨srv, hsrv, ht, hf⟩
    exact ⟨(addr, srv),
      List.mem_filter.mpr ⟨Dict.mem_entries_iff.mpr hsrv, by simp [ht, hf]⟩,
      rfl⟩

theorem pickCandidate_spec {db : Db} {t : String} {ls : List Port}
    {addr : Address} (h : pickCandidate ls (candidates db t) = some addr) :
    ∃ srv, db.servers.get? addr = some srv ∧ srv.type = t
      ∧ srv.free = true ∧ addr.2 ∈ ls := by
  have hl := List.find?_some h
  obtain ⟨srv, hsrv, ht, hf⟩ :=
    mem_candidates_iff.mp (List.mem_of_find?_eq_some h)
  exact ⟨srv, hsrv, ht, hf, by simpa using hl⟩

/-- What the transaction can do: reuse the game's row, answer 503 and
change nothing, or take the candidate. -/
inductive Allocates (r : Request) (ls : List Port) (db : Db) :
    Db × Answer → Prop
  | reuse {g : GameId} {a : Allocation} (hg : r.gameId = some g)
      (ha : existingAllocation db g = some a) :
      Allocates r ls db (touchAllocation db g, .allocated
        { host := a.host, port := a.port, proxyPort := a.port + 1000
          type := r.gameType, gameId := some g, reused := some true })
  | busy {e : String}
      (ha : r.gameId.bind (existingAllocation db) = none)
      (hp : pickCandidate ls (candidates db r.gameType) = none) :
      Allocates r ls db (db, .unavailable e)
  | anonymous {addr : Address} (hg : r.gameId = none)
      (hp : pickCandidate ls (candidates db r.gameType) = some addr) :
      Allocates r ls db (takeServer db addr, .allocated
        { host := addr.1, port := addr.2, proxyPort := addr.2 + 1000
          type := r.gameType, gameId := none, reused := none })
  | fresh {g : GameId} {addr : Address} (hg : r.gameId = some g)
      (ha : existingAllocation db g = none)
      (hp : pickCandidate ls (candidates db r.gameType) = some addr) :
      Allocates r ls db (insertAllocation (takeServer db addr) g addr,
        .allocated
          { host := addr.1, port := addr.2, proxyPort := addr.2 + 1000
            type := r.gameType, gameId := some g, reused := some false })

theorem allocates (r : Request) (ls : List Port) (db : Db) :
    Allocates r ls db (allocate r ls db) := by
  obtain ⟨t, gid⟩ := r
  unfold allocate
  cases gid with
  | none =>
    show Allocates _ ls db (allocateFresh ⟨t, none⟩ ls db)
    unfold allocateFresh
    cases hp : pickCandidate ls (candidates db t) with
    | none => simpa [hp] using .busy rfl hp
    | some addr => simpa [hp] using .anonymous rfl hp
  | some g =>
    cases ha : existingAllocation db g with
    | some a => simpa [ha] using .reuse rfl ha
    | none =>
      simp only [Option.bind_some, ha, Option.map_none]
      unfold allocateFresh
      cases hp : pickCandidate ls (candidates db t) with
      | none => simpa [hp] using .busy ha hp
      | some addr => simpa [hp] using .fresh rfl ha hp

theorem takeServer_servers (db : Db) (addr addr' : Address) :
    (takeServer db addr).servers.get? addr'
      = if addr' = addr then (db.servers.get? addr').map fun s =>
          { s with available := 0, stamp := db.now }
        else db.servers.get? addr' :=
  Dict.get?_modify ..

-- ==== who holds what

/-- After an INSERT the game holds the new address and nothing else;
every other game holds what it held. -/
theorem insertAllocation_holds {db : Db} {g g' : GameId}
    {addr addr' : Address} :
    (insertAllocation db g addr).Holds g' addr'
      ↔ if g' = g then addr' = addr else db.Holds g' addr' := by
  unfold Db.Holds insertAllocation
  by_cases h : g' = g
  · subst h
    simp [Allocation.Holds, Allocation.address, eq_comm]
  · simp [Dict.get?_set_of_ne _ _ h, h]

/-- The INSERT leaves a row the clean-up can find exactly when the
game had a row before: only the duplicate-key form writes
`last_seen`. -/
theorem insertAllocation_holdsSeen {db : Db} {g g' : GameId}
    {addr addr' : Address} :
    (insertAllocation db g addr).HoldsSeen g' addr'
      ↔ if g' = g then addr' = addr ∧ db.gameAllocations.get? g ≠ none
        else db.HoldsSeen g' addr' := by
  unfold Db.HoldsSeen insertAllocation
  by_cases h : g' = g
  · subst h
    simp [Allocation.Holds, Allocation.address, eq_comm]
  · simp [Dict.get?_set_of_ne _ _ h, h]

theorem touchAllocation_holds {db : Db} {g g' : GameId} {addr : Address} :
    (touchAllocation db g).Holds g' addr ↔ db.Holds g' addr := by
  unfold Db.Holds touchAllocation
  simp only [Dict.get?_modify]
  by_cases h : g' = g
  · subst h
    cases db.gameAllocations.get? g' <;>
      simp [Allocation.Holds, Allocation.address]
  · simp [h]

theorem touchAllocation_holdsSeen {db : Db} {g g' : GameId}
    {addr : Address} (h : db.HoldsSeen g' addr) :
    (touchAllocation db g).HoldsSeen g' addr := by
  obtain ⟨a, ha, hh, hseen⟩ := h
  unfold Db.HoldsSeen touchAllocation
  simp only [Dict.get?_modify, ha]
  by_cases hg : g' = g
  · exact ⟨{ a with lastSeen := some db.now }, by simp [hg], hh, by simp⟩
  · exact ⟨a, by simp [hg], hh, hseen⟩

theorem cleanup_holds {thr : Nat} {db : Db} {g : GameId} {addr : Address}
    (h : (cleanupStaleAllocations thr db).Holds g addr) :
    db.Holds g addr := by
  obtain ⟨a, ha, hh⟩ := h
  exact ⟨a, (cleanup_row ha hh.1).1, hh⟩

end ServerAllocator

namespace ServerRelease

theorem releaseServer_servers (r : Request) (db : Db) (addr : Address) :
    (releaseServer r db).servers.get? addr
      = if addr = r.address then (db.servers.get? addr).map fun s =>
          { s with available := 1, state := "Pregame", stamp := db.now }
        else db.servers.get? addr :=
  Dict.get?_modify ..

/-- The second statement ends exactly the holdings its WHERE
accepts. -/
theorem releaseAllocation_row {r : Request} {db : Db} {g : GameId}
    {a' : Allocation} (hrel : a'.releasedAt = none) :
    (releaseAllocation r db).gameAllocations.get? g = some a'
      ↔ db.gameAllocations.get? g = some a' ∧ releases r g a' = false := by
  unfold releaseAllocation
  rw [Dict.get?_mapVals, Option.map_eq_some_iff]
  constructor
  · intro hp
    rcases hp with ⟨a, ha, hw⟩
    split at hw
    case isTrue =>
      subst hw
      cases hrel
    case isFalse hr =>
      subst hw
      exact ⟨ha, by simpa using hr⟩
  · intro hp
    rcases hp with ⟨ha, hr⟩
    exact ⟨a', ha, by simp [hr]⟩

theorem releaseAllocation_holds {r : Request} {db : Db} {g : GameId}
    {addr : Address} (h : (releaseAllocation r db).Holds g addr) :
    db.Holds g addr := by
  obtain ⟨a, ha, hh⟩ := h
  exact ⟨a, ((releaseAllocation_row hh.1).mp ha).1, hh⟩

end ServerRelease

end Freeciv3d.Metaserver
