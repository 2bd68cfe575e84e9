/-
Every unit stands once in the array of its tile and nothing else does,
the focus and the urgent queue name units that are there, and no handler
throws, as long as packets name players and tiles that are there and a
new map comes only while there are no units.

# Away

A handler takes a unit off its tile, changes it and puts it back, and
moves the focus in between. So the arrays are described with one unit
away (`Listed`), and what the focus needs without them (`Placed`).
-/
import Freeciv3d.Web.UnitPackets

namespace Freeciv3d.Web

open Lib

-- ==== the statement

/-- How often a unit stands in the array of a tile: once if it is on that
tile and not away. -/
def Listed (tiles : List (List Nat)) (units : Dict Nat UnitRecord)
    (away : Option Nat) : Prop :=
  ∀ (tile : Nat) (ids : List Nat), tiles[tile]? = some ids →
    ∀ id, ids.count id =
      if some id ≠ away ∧ ∃ u ∈ units.get? id, u.tile = tile then 1 else 0

namespace UnitTables

/-- What drawing and the focus need. -/
structure Placed (t : UnitTables) : Prop where
  ids : ∀ id, ∀ u ∈ t.units.get? id, u.id = id
  onMap : ∀ id, ∀ u ∈ t.units.get? id, u.tile < t.tiles.length
  animated : ∀ id, ∀ u ∈ t.units.get? id, ∀ tile ∈ u.animList,
    tile < t.tiles.length
  focus : ∀ id ∈ t.focusIds, (t.units.get? id).isSome = true
  urgent : ∀ id ∈ t.urgentFocusQueue, (t.units.get? id).isSome = true
  quiet : t.threw = false

/-- No handler has thrown, every unit is in the array of its tile once
and in no other, and focus and queue name units that are there. -/
structure Indexed (t : UnitTables) : Prop extends t.Placed where
  listed : Listed t.tiles t.units none

end UnitTables

/-- A new map comes only while there are no units, and a unit packet
names a player and a tile that are there. -/
def UnitClient.Known (c : UnitClient) : UnitAct → Prop
  | .mapInfo _ _ => c.units.size = 0
  | .unitInfo packet _ =>
    packet.owner ∈ c.players ∧ packet.tile < c.tiles.length
  | .unitShortInfo packet _ =>
    packet.owner ∈ c.players ∧ packet.tile < c.tiles.length
  | _ => True

instance : DecidableRel UnitClient.Known
  | _, .mapInfo _ _ => inferInstanceAs (Decidable (_ = _))
  | _, .unitInfo _ _ | _, .unitShortInfo _ _ =>
    inferInstanceAs (Decidable (_ ∧ _))
  | _, .unitRemove _ _ | _, .setUnitFocus _ | _, .advanceUnitFocus _
  | _, .focusTile _ | _, .settings _ => instDecidableTrue

-- ==== the arrays

section arrays

variable {tiles : List (List Nat)} {units : Dict Nat UnitRecord}
  {u : UnitRecord} {id : Nat}

theorem Listed.of_absent (h : Listed tiles units none)
    (hid : units.get? id = none) : Listed tiles units (some id) := by
  intro tile ids ht j
  rw [h tile ids ht j]
  by_cases hj : j = id
  · subst hj
    simp [hid]
  · simp [hj]

theorem Listed.clear (h : Listed tiles units none)
    (hid : units.get? id = some u) :
    Listed (tiles.modify u.tile fun ids => ids.erase id) units
      (some id) := by
  intro tile ids ht j
  rw [List.getElem?_modify] at ht
  obtain ⟨ids', hids', rfl⟩ := Option.map_eq_some_iff.mp ht
  have hcount := h tile ids' hids'
  by_cases hj : j = id
  · subst hj
    have hself := hcount j
    by_cases htile : u.tile = tile
    · simp only [htile, if_true, List.count_erase_self, hself]
      simp [hid, htile]
    · simp only [htile, if_false]
      rw [hself]
      simp [hid, htile]
  · have hself := hcount j
    have hj' : some j ≠ some id := fun heq => hj (Option.some.inj heq)
    have hne : (if u.tile = tile then ids'.erase id else ids').count j
        = ids'.count j := by
      split
      · exact List.count_erase_of_ne hj
      · rfl
    simp only [hne, hself, hj', ne_eq, not_false_eq_true, true_and]
    simp

theorem Listed.set (h : Listed tiles units (some id)) :
    Listed tiles (units.set id u) (some id) := by
  intro tile ids ht j
  rw [h tile ids ht j, Dict.get?_set]
  by_cases hj : j = id
  · simp [hj]
  · simp [hj]

theorem Listed.erase (h : Listed tiles units (some id)) :
    Listed tiles (units.erase id) none := by
  intro tile ids ht j
  rw [h tile ids ht j, Dict.get?_erase]
  by_cases hj : j = id
  · simp [hj]
  · simp [hj]

theorem Listed.update (h : Listed tiles units (some id))
    (hid : units.get? id = some u) :
    Listed (tiles.modify u.tile fun ids =>
      if ids.contains id then ids else ids ++ [id]) units none := by
  intro tile ids ht j
  rw [List.getElem?_modify] at ht
  obtain ⟨ids', hids', rfl⟩ := Option.map_eq_some_iff.mp ht
  have hcount := h tile ids' hids'
  have hzero : ids'.count id = 0 := by simpa using hcount id
  have habsent : id ∉ ids' := List.count_eq_zero.mp hzero
  by_cases hj : j = id
  · subst hj
    by_cases htile : u.tile = tile
    · simp [htile, habsent, hid, hzero]
    · simp [htile, hid, hzero]
  · have hj' : id ≠ j := fun heq => hj heq.symm
    by_cases htile : u.tile = tile
    · simp [htile, habsent, hcount j, hj, hj', List.count_append]
    · simp [htile, hcount j, hj]

end arrays

theorem mem_updateUnitAnimList {old : UnitRecord} {new : UnitPacket}
    {tile : Nat} (h : tile ∈ updateUnitAnimList old new) :
    tile ∈ old.animList ∨ tile = old.tile ∨ tile = new.tile := by
  unfold updateUnitAnimList at h
  split at h
  · exact Or.inl h
  split at h
  · cases h
  have hlist : ∀ k ∈ (if old.animList.contains old.tile then old.animList
      else old.animList ++ [old.tile]), k ∈ old.animList ∨ k = old.tile := by
    intro k hk
    split at hk
    · exact Or.inl hk
    · simpa using hk
  dsimp only at h
  split at h
  · rcases hlist tile h with hmem | htile
    · exact Or.inl hmem
    · exact Or.inr (Or.inl htile)
  · rcases List.mem_append.mp h with hmem | hmem
    · rcases hlist tile hmem with hmem | htile
      · exact Or.inl hmem
      · exact Or.inr (Or.inl htile)
    · exact Or.inr (Or.inr (List.mem_singleton.mp hmem))

-- ==== the focus

/-- Only the focus and the queue have changed; the focus names units that
are there, and the queue only units it named. -/
structure Refocused (t t' : UnitTables) : Prop where
  tiles : t'.tiles = t.tiles
  units : t'.units = t.units
  threw : t'.threw = t.threw
  focus : ∀ id ∈ t'.focusIds, (t.units.get? id).isSome = true
  urgent : ∀ id ∈ t'.urgentFocusQueue, id ∈ t.urgentFocusQueue

namespace UnitTables

variable {t t' : UnitTables}

theorem Placed.refl (h : t.Placed) : Refocused t t where
  tiles := rfl
  units := rfl
  threw := rfl
  focus := h.focus
  urgent _ := id

theorem Placed.refocused (h : t.Placed) (hr : Refocused t t') :
    t'.Placed where
  ids := hr.units ▸ h.ids
  onMap := hr.units ▸ hr.tiles ▸ h.onMap
  animated := hr.units ▸ hr.tiles ▸ h.animated
  focus := hr.units ▸ hr.focus
  urgent id hid := hr.units ▸ h.urgent id (hr.urgent id hid)
  quiet := hr.threw ▸ h.quiet

theorem Indexed.refocused (h : t.Indexed) (hr : Refocused t t') :
    t'.Indexed where
  toPlaced := h.toPlaced.refocused hr
  listed := hr.units ▸ hr.tiles ▸ h.listed

theorem Placed.set (h : t.Placed) {u : UnitRecord} {queue : List Nat}
    (htile : u.tile < t.tiles.length)
    (hanimated : ∀ tile ∈ u.animList, tile < t.tiles.length)
    (hq : ∀ id ∈ queue, id ∈ t.urgentFocusQueue ∨ id = u.id) :
    ({ t with units := t.units.set u.id u
              urgentFocusQueue := queue } : UnitTables).Placed := by
  have hcases : ∀ {id : Nat} {v : UnitRecord},
      (t.units.set u.id u).get? id = some v →
        (id = u.id ∧ v = u) ∨ t.units.get? id = some v := by
    intro id v hv
    rw [Dict.get?_set] at hv
    split at hv
    case isTrue heq => exact Or.inl ⟨heq, (Option.some.inj hv).symm⟩
    case isFalse => exact Or.inr hv
  have hthere : ∀ id, (t.units.get? id).isSome = true →
      ((t.units.set u.id u).get? id).isSome = true := by
    intro id hid
    rw [Dict.get?_set]
    split
    · rfl
    · exact hid
  refine { ids := ?_, onMap := ?_, animated := ?_, focus := ?_,
           urgent := ?_, quiet := h.quiet }
  · intro id v hv
    rcases hcases hv with ⟨rfl, rfl⟩ | hv
    · rfl
    · exact h.ids id v hv
  · intro id v hv
    rcases hcases hv with ⟨-, rfl⟩ | hv
    · exact htile
    · exact h.onMap id v hv
  · intro id v hv
    rcases hcases hv with ⟨-, rfl⟩ | hv
    · exact hanimated
    · exact h.animated id v hv
  · intro id hid
    exact hthere id (h.focus id hid)
  · intro id hid
    rcases hq id hid with hid | rfl
    · exact hthere id (h.urgent id hid)
    · show ((t.units.set u.id u).get? u.id).isSome = true
      rw [Dict.get?_set_self]
      rfl

theorem Placed.modify (h : t.Placed) {tile : Nat}
    {f : List Nat → List Nat}
    (hf : ∀ ids, ∀ id ∈ f ids, id ∈ ids ∨ (t.units.get? id).isSome = true) :
    ({ t with tiles := t.tiles.modify tile f } : UnitTables).Placed where
  ids := h.ids
  onMap id u hu := by
    show u.tile < (t.tiles.modify _ _).length
    rw [List.length_modify]
    exact h.onMap id u hu
  animated id u hu k hk := by
    show k < (t.tiles.modify _ _).length
    rw [List.length_modify]
    exact h.animated id u hu k hk
  focus id hid := by
    have hfocus := h.focus id
    unfold focusIds at hid hfocus
    cases hc : t.currentFocus with
    | own ids =>
      simp only [hc] at hid hfocus
      exact hfocus hid
    | tile index =>
      simp only [hc, List.getElem?_modify] at hid hfocus
      cases hi : t.tiles[index]? with
      | none =>
        rw [hi] at hid
        cases hid
      | some ids =>
        rw [hi] at hid hfocus
        have hid' : id ∈ if tile = index then f ids else ids := hid
        split at hid'
        · rcases hf ids id hid' with hmem | hthere
          · exact hfocus hmem
          · exact hthere
        · exact hfocus hid'
  urgent := h.urgent
  quiet := h.quiet

theorem Placed.queue (h : t.Placed) {queue : List Nat}
    (hq : ∀ id ∈ queue, (t.units.get? id).isSome = true) :
    ({ t with urgentFocusQueue := queue } : UnitTables).Placed where
  ids := h.ids
  onMap := h.onMap
  animated := h.animated
  focus := h.focus
  urgent := hq
  quiet := h.quiet

end UnitTables

namespace UnitClient

open UnitTables

variable {c : UnitClient} {punit : UnitRecord}

theorem updateUnitPosition_ok {tile : Nat} (h : tile < c.tiles.length) :
    c.updateUnitPosition tile = .ok c := if_pos h

theorem setUnitFocus_ok (h : c.toUnitTables.Placed)
    (punit : Option UnitRecord)
    (hp : ∀ u ∈ punit, c.units.get? u.id = some u) :
    ∃ c', c.setUnitFocus punit = .ok c'
      ∧ Refocused c.toUnitTables c'.toUnitTables := by
  cases punit with
  | none =>
    refine ⟨_, rfl, rfl, rfl, rfl, ?_, fun id hid => hid⟩
    intro id hid
    cases hid
  | some u =>
    have hu := hp u rfl
    have htile : u.tile < c.tiles.length := h.onMap u.id u hu
    refine ⟨_, updateUnitPosition_ok (by simpa using htile), ?_⟩
    rw [tables_actionSelectionNextInFocus]
    refine ⟨rfl, rfl, rfl, ?_, fun id hid => hid⟩
    intro id hid
    obtain rfl := List.mem_singleton.mp hid
    exact Option.isSome_of_eq_some hu

theorem scanUrgent_ok (h : c.toUnitTables.Placed) (focusTile : Option Nat)
    {queue : List Nat} (candidate : Option UnitRecord) (stale : List Nat)
    (hq : ∀ id ∈ queue, (c.units.get? id).isSome = true)
    (hc : ∀ u ∈ candidate, c.units.get? u.id = some u) :
    ∃ candidate' stale',
      c.scanUrgent focusTile queue candidate stale
          = .ok (candidate', stale')
        ∧ ∀ u ∈ candidate', c.units.get? u.id = some u := by
  induction queue generalizing candidate stale with
  | nil => exact ⟨candidate, stale, rfl, hc⟩
  | cons id rest ih =>
    obtain ⟨u, hu⟩ := Option.isSome_iff_exists.mp
      (hq id (List.mem_cons_self ..))
    have hself : c.units.get? u.id = some u := by
      rw [h.ids id u hu]
      exact hu
    have hrest : ∀ j ∈ rest, (c.units.get? j).isSome = true :=
      fun j hj => hq j (List.mem_cons_of_mem id hj)
    unfold scanUrgent
    simp only [hu]
    split
    · exact ih candidate _ hrest hc
    · split
      · exact ⟨some u, stale, rfl, fun v hv => Option.some.inj hv ▸ hself⟩
      · refine ih _ stale hrest fun v hv => ?_
        cases candidate with
        | none => exact Option.some.inj hv ▸ hself
        | some w => exact hc v hv

theorem advanceUnitFocus_ok (h : c.toUnitTables.Placed)
    (best : Option Nat) :
    ∃ c', c.advanceUnitFocus best = .ok c'
      ∧ Refocused c.toUnitTables c'.toUnitTables := by
  unfold advanceUnitFocus
  split
  · exact ⟨c, rfl, h.refl⟩
  · obtain ⟨candidate, stale, hscan, hcandidate⟩ := scanUrgent_ok h
      (c.unitsInFocus.head?.map fun funit : UnitRecord => funit.tile) none []
      h.urgent (fun u hu => by cases hu)
    simp only [hscan]
    have hsub : ∀ id ∈ c.urgentFocusQueue.filter fun id =>
        !stale.contains id
          && candidate.all fun punit : UnitRecord => punit.id != id,
        id ∈ c.urgentFocusQueue := fun id hid => List.mem_of_mem_filter hid
    have hplaced := h.queue fun id hid => h.urgent id (hsub id hid)
    obtain ⟨c', hc', hr⟩ := setUnitFocus_ok (c := { c with
        urgentFocusQueue := c.urgentFocusQueue.filter fun id =>
          !stale.contains id
            && candidate.all fun punit : UnitRecord => punit.id != id })
      hplaced (candidate.or (best.bind c.gameFindUnitByNumber))
      (by
        intro u hu
        cases candidate with
        | some v => exact hcandidate u hu
        | none =>
          obtain ⟨id, -, hid⟩ := Option.bind_eq_some_iff.mp hu
          have hid' : c.units.get? id = some u := hid
          show c.units.get? u.id = some u
          rw [h.ids id u hid']
          exact hid')
    exact ⟨c', hc', hr.tiles, hr.units, hr.threw, hr.focus,
      fun id hid => hsub id (hr.urgent id hid)⟩

theorem updateUnitFocus_ok (h : c.toUnitTables.Placed)
    (best : Option Nat) :
    ∃ c', c.updateUnitFocus best = .ok c'
      ∧ Refocused c.toUnitTables c'.toUnitTables := by
  unfold updateUnitFocus
  split
  · exact ⟨c, rfl, h.refl⟩
  split
  · exact ⟨c, rfl, h.refl⟩
  split
  · exact ⟨c, rfl, h.refl⟩
  split
  · exact ⟨c, rfl, h.refl⟩
  · exact advanceUnitFocus_ok h best

theorem controlUnitKilled_ok (h : c.toUnitTables.Placed)
    (punit : UnitRecord) (best : Option Nat) :
    ∃ c', c.controlUnitKilled punit best = .ok c'
      ∧ Refocused c.toUnitTables c'.toUnitTables
      ∧ punit.id ∉ c'.urgentFocusQueue := by
  have hsub : ∀ id ∈ c.urgentFocusQueue.filter (· != punit.id),
      id ∈ c.urgentFocusQueue := fun id hid => List.mem_of_mem_filter hid
  have hplaced := h.queue fun id hid => h.urgent id (hsub id hid)
  have hgone : punit.id ∉ c.urgentFocusQueue.filter (· != punit.id) := by
    simp
  unfold controlUnitKilled
  dsimp only
  split
  · split
    · obtain ⟨c', hc', hr⟩ := advanceUnitFocus_ok (c := { c with
        urgentFocusQueue := c.urgentFocusQueue.filter (· != punit.id) })
        hplaced best
      exact ⟨c', hc', ⟨hr.tiles, hr.units, hr.threw, hr.focus,
        fun id hid => hsub id (hr.urgent id hid)⟩,
        fun hid => hgone (hr.urgent _ hid)⟩
    · refine ⟨_, rfl, ⟨rfl, rfl, rfl, ?_, hsub⟩, hgone⟩
      intro id hid
      exact h.focus id (List.mem_of_mem_filter hid)
  · exact ⟨_, rfl, ⟨rfl, rfl, rfl, h.focus, hsub⟩, hgone⟩

-- ==== the handlers

theorem clientRemoveUnit_ok (punit : UnitRecord)
    (h : c.toUnitTables.Placed)
    (hlisted : Listed c.tiles c.units (some punit.id))
    (best : Option Nat) :
    ∃ c', c.clientRemoveUnit punit best = .ok c'
      ∧ c'.toUnitTables.Indexed ∧ c'.tiles = c.tiles := by
  obtain ⟨c₁, hc₁, hr, hgone⟩ := controlUnitKilled_ok h punit best
  have hfound : ∀ {id : Nat} {u : UnitRecord},
      (c₁.units.erase punit.id).get? id = some u →
        c.units.get? id = some u := by
    intro id u hu
    rw [hr.units, Dict.get?_erase] at hu
    split at hu
    · cases hu
    · exact hu
  have hthere : ∀ {id : Nat}, id ≠ punit.id →
      (c.units.get? id).isSome = true →
        ((c₁.units.erase punit.id).get? id).isSome = true := by
    intro id hid hsome
    rw [hr.units, Dict.get?_erase_of_ne _ hid]
    exact hsome
  unfold clientRemoveUnit
  rw [hc₁]
  refine ⟨_, rfl, ?_, hr.tiles⟩
  refine { ids := ?_, onMap := ?_, animated := ?_, focus := ?_,
           urgent := ?_, quiet := hr.threw.trans h.quiet, listed := ?_ }
  · intro id u hu
    exact h.ids id u (hfound hu)
  · intro id u hu
    show u.tile < c₁.tiles.length
    rw [hr.tiles]
    exact h.onMap id u (hfound hu)
  · intro id u hu tile htile
    show tile < c₁.tiles.length
    rw [hr.tiles]
    exact h.animated id u (hfound hu) tile htile
  · -- The killed unit may have been focused again; then nothing is.
    intro id hid
    cases hin : c₁.unitIsInFocus punit.id with
    | true =>
      simp only [focusIds, hin, if_true] at hid
      cases hid
    | false =>
      have hid' : id ∈ c₁.focusIds := by
        simpa [focusIds, hin] using hid
      have hne : id ≠ punit.id := by
        rintro rfl
        simp [unitIsInFocus, hid'] at hin
      exact hthere hne (hr.focus id hid')
  · intro id hid
    have hne : id ≠ punit.id := by
      rintro rfl
      exact hgone hid
    exact hthere hne (h.urgent id (hr.urgent id hid))
  · show Listed c₁.tiles (c₁.units.erase punit.id) none
    rw [hr.tiles, hr.units]
    exact hlisted.erase

theorem handleUnitRemove_ok (h : c.toUnitTables.Indexed) (unitId : Nat)
    (best : Option Nat) :
    ∃ c', c.handleUnitRemove unitId best = .ok c'
      ∧ c'.toUnitTables.Indexed := by
  unfold handleUnitRemove
  cases hfind : c.gameFindUnitByNumber unitId with
  | none => exact ⟨c, rfl, h⟩
  | some punit =>
    have hself : punit.id = unitId := h.ids unitId punit hfind
    subst hself
    dsimp only
    generalize hasked : (if c.inProgressFor = punit.id then
        c.actionSelectionClose.actionSelectionNextInFocus punit.id
      else c) = asked
    have htables : asked.toUnitTables = c.toUnitTables := by
      rw [← hasked]
      split <;> simp
    have hcleared : (asked.clearTileUnit punit.toUnitPacket).toUnitTables
        = { c.toUnitTables with
            tiles := c.tiles.modify punit.tile
              fun ids => ids.erase punit.id } := by
      unfold clearTileUnit
      simp only [htables]
    have hplaced : (asked.clearTileUnit
        punit.toUnitPacket).toUnitTables.Placed := by
      rw [hcleared]
      exact h.toPlaced.modify fun ids id hid =>
        Or.inl (List.mem_of_mem_erase hid)
    obtain ⟨c', hc', hindexed, htiles⟩ := clientRemoveUnit_ok
      punit hplaced (by
        rw [hcleared]
        exact h.listed.clear hfind) best
    rw [hc']
    refine ⟨c', updateUnitPosition_ok ?_, hindexed⟩
    rw [htiles, hcleared]
    show punit.tile < (c.tiles.modify _ _).length
    rw [List.length_modify]
    exact h.onMap punit.id punit hfind

/-- The rest of a unit packet, once the unit is merged and still off its
tile. -/
theorem unitPacketMerged_ok (h : c.toUnitTables.Placed)
    {packet : UnitPacket} (hlisted : Listed c.tiles c.units (some packet.id))
    (hunit : c.units.get? packet.id = some punit)
    (htile : punit.tile = packet.tile) (oldTile best : Option Nat)
    (hold : ∀ tile ∈ oldTile, tile < c.tiles.length) :
    ∃ c', c.unitPacketMerged packet oldTile best = .ok c'
      ∧ c'.toUnitTables.Indexed := by
  have hupdated : (c.updateTileUnit packet).toUnitTables.Indexed :=
    { toPlaced := h.modify fun ids id hid => by
        split at hid
        · exact Or.inl hid
        · rcases List.mem_append.mp hid with hid | hid
          · exact Or.inl hid
          · rw [List.mem_singleton.mp hid, hunit]
            exact Or.inr rfl
      listed := by
        have hback := hlisted.update hunit
        rw [htile] at hback
        exact hback }
  have hlength : (c.updateTileUnit packet).tiles.length = c.tiles.length :=
    List.length_modify ..
  unfold unitPacketMerged
  dsimp only
  generalize c.updateTileUnit packet = updated at hupdated hlength
  have hok : ∃ c',
      (if updated.focusIds.head? = some packet.id
          ∧ (updated.gameFindUnitByNumber packet.id).bind
            (fun punit => punit.doneMoving) ≠ packet.doneMoving then
        (updated.notice .doneMoving).updateUnitFocus best
      else .ok updated : Except UnitClient UnitClient) = .ok c'
        ∧ Refocused updated.toUnitTables c'.toUnitTables := by
    split
    · exact updateUnitFocus_ok (c := updated.notice .doneMoving)
        hupdated.toPlaced best
    · exact ⟨updated, rfl, hupdated.refl⟩
  obtain ⟨c', hc', hr⟩ := hok
  rw [hc']
  have hnew : packet.tile < c'.tiles.length := by
    rw [hr.tiles, hlength, ← htile]
    exact h.onMap packet.id punit hunit
  refine ⟨c', ?_, hupdated.refocused hr⟩
  cases oldTile with
  | none => exact updateUnitPosition_ok hnew
  | some tile =>
    have htile' : tile < c'.tiles.length := by
      rw [hr.tiles, hlength]
      exact hold tile rfl
    show ((c'.updateUnitPosition tile).bind _) = _
    rw [updateUnitPosition_ok htile']
    exact updateUnitPosition_ok hnew

/-- A unit that is off its tile is set, and the rest of the packet
handled. -/
theorem unitPacketSet_ok {asked : UnitClient} (h : c.toUnitTables.Placed)
    {packet : UnitPacket} {queue : List Nat}
    (hlisted : Listed c.tiles c.units (some packet.id))
    (hasked : asked.toUnitTables
      = { c.toUnitTables with urgentFocusQueue := queue })
    (hq : ∀ id ∈ queue, id ∈ c.urgentFocusQueue ∨ id = packet.id)
    (hid : punit.id = packet.id) (htile : punit.tile = packet.tile)
    (hlt : packet.tile < c.tiles.length)
    (hanimated : ∀ tile ∈ punit.animList, tile < c.tiles.length)
    (oldTile best : Option Nat)
    (hold : ∀ tile ∈ oldTile, tile < c.tiles.length) :
    ∃ c', ({ asked with units := asked.units.set packet.id punit
          } : UnitClient).unitPacketMerged packet oldTile best = .ok c'
      ∧ c'.toUnitTables.Indexed := by
  refine unitPacketMerged_ok ?_ ?_ ?_ htile oldTile best ?_
  · simp only [hasked, ← hid]
    exact h.set (htile ▸ hlt) hanimated (hid ▸ hq)
  · simp only [hasked]
    exact hlisted.set
  · exact Dict.get?_set_self ..
  · simpa only [hasked] using hold

theorem tables_asked (c : UnitClient) (packet : UnitPacket) (p : Prop)
    [Decidable p] :
    ∃ queue, (if p then c.actionDecisionHandle packet else c).toUnitTables
        = { c.toUnitTables with urgentFocusQueue := queue }
      ∧ ∀ id ∈ queue, id ∈ c.urgentFocusQueue ∨ id = packet.id := by
  split
  · exact tables_actionDecisionHandle c packet
  · exact ⟨c.urgentFocusQueue, rfl, fun id => Or.inl⟩

theorem handleUnitPacketCommon_ok (h : c.toUnitTables.Indexed)
    {packet : UnitPacket} (howner : packet.owner ∈ c.players)
    (htile : packet.tile < c.tiles.length) (best : Option Nat) :
    ∃ c', c.handleUnitPacketCommon packet best = .ok c'
      ∧ c'.toUnitTables.Indexed := by
  unfold handleUnitPacketCommon playerFindUnitById
  cases hfind : c.units.get? packet.id with
  | none =>
    have hnone : c.gameFindUnitByNumber packet.id = none := hfind
    simp only [hnone]
    obtain ⟨queue, htables, hqueue⟩ := tables_asked c packet
      (c.shouldAskServerForActions packet = true)
    exact unitPacketSet_ok h.toPlaced (h.listed.of_absent hfind) htables
      hqueue rfl rfl htile (fun tile hmem => by cases hmem) none best
      (fun tile hold => by cases hold)
  | some old =>
    have hself : old.id = packet.id := h.ids packet.id old hfind
    have hold : old.tile < c.tiles.length := h.onMap packet.id old hfind
    have hcontains : c.players.contains packet.owner = true := by
      simpa using howner
    simp only [hcontains, Bool.true_or, if_true]
    have hsome : (c.clearTileUnit old.toUnitPacket).gameFindUnitByNumber
        packet.id = some old := hfind
    simp only [hsome]
    obtain ⟨queue, htables, hqueue⟩ := tables_asked
      (c.clearTileUnit old.toUnitPacket) packet
      ((old.actionDecisionWant ≠ packet.actionDecisionWant
          ∨ old.actionDecisionTile ≠ packet.actionDecisionTile)
        ∧ (c.clearTileUnit old.toUnitPacket).shouldAskServerForActions
          packet = true)
    have hcleared : (c.clearTileUnit
        old.toUnitPacket).toUnitTables.Placed :=
      h.toPlaced.modify fun ids id hid => Or.inl (List.mem_of_mem_erase hid)
    have hlength : (c.clearTileUnit old.toUnitPacket).tiles.length
        = c.tiles.length := List.length_modify ..
    have hnotice : ∀ asked : UnitClient,
        (if packet.tile ≠ old.tile then asked.notice .position
          else asked).toUnitTables = asked.toUnitTables := by
      intro asked
      split <;> rfl
    refine unitPacketSet_ok hcleared ?_ ((hnotice _).trans htables) hqueue
      rfl rfl (hlength ▸ htile) ?_ (some old.tile) best ?_
    · have haway := h.listed.clear hfind
      rw [← hself] at haway ⊢
      exact haway
    · intro tile hmem
      rw [hlength]
      rcases mem_updateUnitAnimList hmem with hmem | rfl | rfl
      · exact h.animated packet.id old hfind tile hmem
      · exact hold
      · exact htile
    · intro tile heq
      rw [hlength, ← Option.some.inj heq]
      exact hold

theorem indexed_settle {r : Except UnitClient UnitClient}
    (h : ∃ c', r = .ok c' ∧ c'.toUnitTables.Indexed) :
    (settle r).toUnitTables.Indexed := by
  obtain ⟨c', rfl, hc'⟩ := h
  exact hc'

theorem indexed_settle_refocused (h : c.toUnitTables.Indexed)
    {r : Except UnitClient UnitClient}
    (hr : ∃ c', r = .ok c' ∧ Refocused c.toUnitTables c'.toUnitTables) :
    (settle r).toUnitTables.Indexed := by
  obtain ⟨c', rfl, hc'⟩ := hr
  exact h.refocused hc'

theorem indexed_mapAllocate (h : c.toUnitTables.Indexed)
    (hnone : c.units.size = 0) (xsize ysize : Nat) :
    (c.mapAllocate xsize ysize).toUnitTables.Indexed := by
  have hempty : ∀ id, c.units.get? id = none := by
    intro id
    have hnil : c.units.entries = [] := List.length_eq_zero_iff.mp hnone
    unfold Dict.get?
    rw [hnil]
    rfl
  refine { ids := h.ids, onMap := ?_, animated := ?_, focus := h.focus,
           urgent := h.urgent, quiet := h.quiet, listed := ?_ }
  · intro id u hu
    cases (hempty id).symm.trans hu
  · intro id u hu
    cases (hempty id).symm.trans hu
  · intro tile ids hids id
    have hids' : (List.replicate (xsize * ysize) [])[tile]? = some ids := hids
    rw [List.getElem?_replicate] at hids'
    split at hids'
    · cases hids'
      have hunit : (c.mapAllocate xsize ysize).units.get? id = none :=
        hempty id
      simp [hunit]
    · cases hids'

-- ==== the runs

theorem indexed_step {c' : UnitClient} (h : c.toUnitTables.Indexed)
    {act : UnitAct} (hc : c.Known act) (hs : c.step act = some c') :
    c'.toUnitTables.Indexed := by
  cases act with
  | mapInfo xsize ysize =>
    cases hs
    exact indexed_mapAllocate h hc xsize ysize
  | unitInfo packet best | unitShortInfo packet best =>
    cases hs
    exact indexed_settle (handleUnitPacketCommon_ok h hc.1 hc.2 best)
  | unitRemove unitId best =>
    cases hs
    exact indexed_settle (handleUnitRemove_ok h unitId best)
  | setUnitFocus unitId =>
    cases unitId with
    | none =>
      cases hs
      exact indexed_settle_refocused h
        (setUnitFocus_ok h.toPlaced none (fun u hu => by cases hu))
    | some unitId =>
      obtain ⟨u, hu, rfl⟩ := Option.map_eq_some_iff.mp hs
      apply indexed_settle_refocused h
      apply setUnitFocus_ok h.toPlaced (some u)
      intro v hv
      cases hv
      have hself : u.id = unitId := h.ids unitId u hu
      rw [hself]
      exact hu
  | advanceUnitFocus best =>
    cases hs
    exact indexed_settle_refocused h (advanceUnitFocus_ok h.toPlaced best)
  | focusTile index =>
    have hs' : (if index < c.tiles.length then
        some { c with currentFocus := .tile index } else none)
          = some c' := hs
    split at hs'
    case isFalse => cases hs'
    case isTrue hindex =>
      cases hs'
      refine h.refocused ⟨rfl, rfl, rfl, ?_, fun _ hid => hid⟩
      intro id hid
      have hids : c.tiles[index]? = some c.tiles[index] :=
        List.getElem?_eq_getElem hindex
      have hid' : id ∈ c.tiles[index] := by
        simpa [focusIds, hids] using hid
      have hcount := h.listed index _ hids id
      have hpos := List.count_pos_iff.mpr hid'
      split at hcount
      case isTrue hunit =>
        obtain ⟨-, u, hu, -⟩ := hunit
        exact Option.isSome_of_eq_some hu
      case isFalse => omega
  | settings settings =>
    cases hs
    exact h

/-- While a new map comes only when there are no units, and packets name
players and tiles that are there, the units are indexed and no handler
throws. -/
theorem indexed_of_known (h : unitRuns.ReachVia Known c) :
    c.toUnitTables.Indexed := by
  apply h.invariant (I := fun c : UnitClient => c.toUnitTables.Indexed)
  · rintro s ⟨settings, rfl⟩
    refine { ids := ?_, onMap := ?_, animated := ?_, focus := ?_,
             urgent := ?_, quiet := rfl, listed := ?_ }
    · intro id u hu
      cases hu
    · intro id u hu
      cases hu
    · intro id u hu
      cases hu
    · intro id hid
      cases hid
    · intro id hid
      cases hid
    · intro tile ids hids
      cases hids
  · intro s act s' hI hC hs
    exact indexed_step hI hC hs

def twoPlayers : ClientSettings where
  players := [0, 1]
  observing := false
  clientIsObserver := false
  nukeActive := false
  running := true
  activeCity := false
  popupActorArrival := true
  autoAttack := false
  attackTypes := []

def unitSeven (owner tile : Nat) : UnitPacket where
  id := 7
  owner := owner
  tile := tile
  type := 0
  veteran := 0
  activity := 0
  transported := false
  homecity := some 0
  movesleft := some 1
  doneMoving := some false
  ssaController := some 0
  hasOrders := some false
  actionDecisionWant := some .nothing
  actionDecisionTile := some (-1)

/-- A unit is seen, moves, changes its owner and is lost while it is
focused with its tile. -/
def seenAndLost : List UnitAct :=
  [.mapInfo 2 2, .unitInfo (unitSeven 1 0) none, .focusTile 0,
    .unitInfo (unitSeven 1 3) none, .unitShortInfo (unitSeven 0 3) none,
    .setUnitFocus (some 7), .unitRemove 7 (some 7)]

theorem indexed_seenAndLost :
    ((unitRuns.exec (init twoPlayers) seenAndLost).getD
      (init twoPlayers)).toUnitTables.Indexed :=
  indexed_of_known
    (Lts.ReachVia.exec (.init ⟨twoPlayers, rfl⟩)
      (by decide : unitRuns.Along Known (init twoPlayers) seenAndLost) rfl)

/-- A packet that names a player who is not there makes a handler throw,
and a new map forgets the units of the old one. -/
theorem units_not_indexed :
    (¬ ∀ c, unitRuns.Reach c → c.threw = false)
      ∧ ¬ ∀ c, unitRuns.Reach c → Listed c.tiles c.units none := by
  constructor
  · intro hall
    have hquiet := hall _ (Lts.Reach.exec_getD (T := unitRuns)
      (.init ⟨twoPlayers, rfl⟩)
      [.mapInfo 2 2, .unitInfo (unitSeven 1 0) none,
        .unitInfo (unitSeven 2 0) none])
    exact absurd hquiet (by decide)
  · intro hall
    have hlisted := hall _ (Lts.Reach.exec_getD (T := unitRuns)
      (.init ⟨twoPlayers, rfl⟩)
      [.mapInfo 2 2, .unitInfo (unitSeven 1 0) none, .mapInfo 2 2])
    have hcount := hlisted 0 [] rfl 7
    exact absurd hcount (by decide)

end UnitClient

end Freeciv3d.Web
