/-
When the models of extras in the scene are those of the extras the tiles
have.

# What goes wrong

An oil well, fallout, pollution and a buoy have no key of their own in
`tile_extra_positions_list`: they are shown five times, under the keys of
the other extras, and taken down by the next update. A resource is looked
at while the tile has it and is not shown, so that nothing takes it down.

# The invariant

`Tracks` says of the table and the scene what `shown` says of keys and
tiles: a key is listed when it is shown, its list is one model that
depicts it, and every model in the scene depicts a key that is shown.
Under the keys of the five extras nothing else is ever added, so that this
model is the only one.
-/
import Freeciv3d.Web.TileExtras

namespace Freeciv3d.Web

open Lib

-- ==== the statement

namespace ExtraTypes

variable (types : ExtraTypes)

/-- The extras that `update_tile_extras` names. -/
def keyed : List Nat :=
  [types.mine, types.hut, types.ruins, types.airbase, types.fortress]

def unkeyed : List Nat :=
  [types.oilWell, types.fallout, types.pollution, types.buoy]

/-- The resources that have a model. -/
def Special (extra : Nat) : Prop :=
  types.isResource extra = true ∧ types.ruleName extra ∈ specialResources

instance (extra : Nat) : Decidable (types.Special extra) :=
  inferInstanceAs (Decidable (_ ∧ _))

/-- The extras that are to be seen on a tile. -/
def Visible (extra : Nat) : Prop :=
  extra ∈ types.keyed ++ types.unkeyed ∨ types.Special extra

/-- A tile with these extras has this one. Of resources it is the first
that counts. -/
def Has (extras : List Nat) (extra : Nat) : Prop :=
  if extra ∈ types.keyed ++ types.unkeyed then extra ∈ extras
  else ExtraScene.tileResource types extras = some extra

instance (extras : List Nat) (extra : Nat) :
    Decidable (types.Has extras extra) :=
  inferInstanceAs (Decidable
    (if extra ∈ types.keyed ++ types.unkeyed then extra ∈ extras
      else ExtraScene.tileResource types extras = some extra))

/-- The model of an extra, by the name it was loaded under. -/
def Depicts (extra : Nat) (model : ExtraModel) : Prop :=
  if types.ruleName extra = "Fish" then
    model.extraName ∈ ["Fish1", "Fish2", "Fish3"]
  else model.extraName = types.ruleName extra

instance (extra : Nat) (model : ExtraModel) :
    Decidable (types.Depicts extra model) :=
  inferInstanceAs (Decidable
    (if types.ruleName extra = "Fish" then
      model.extraName ∈ ["Fish1", "Fish2", "Fish3"]
    else model.extraName = types.ruleName extra))

end ExtraTypes

namespace ExtraScene

variable (types : ExtraTypes)

/-- The models in the scene are those of the extras the tiles have, as of
their last update. -/
structure Mirrors (s : ExtraScene) : Prop where
  seen : ∀ tile, ∀ extras ∈ s.tiles.get? tile, ∀ extra,
    types.Visible extra →
      ((∃ model ∈ s.scene, model.tile = tile ∧ types.Depicts extra model)
        ↔ types.Has extras extra)
  gone : ∀ model ∈ s.scene, ∃ extras ∈ s.tiles.get? model.tile, ∃ extra,
    types.Visible extra ∧ types.Depicts extra model
      ∧ types.Has extras extra

/-- The update shows none of the extras without a key, and does not take a
special resource from its tile. -/
def Fits (s : ExtraScene) (u : TileUpdate) : Prop :=
  u.known = true →
    (∀ extra ∈ types.unkeyed, extra ∉ u.extras)
      ∧ ∀ extras ∈ s.tiles.get? u.tile,
        ∀ extra ∈ tileResource types extras,
          types.ruleName extra ∈ specialResources →
            tileResource types u.extras = some extra

instance (s : ExtraScene) (u : TileUpdate) : Decidable (s.Fits types u) :=
  inferInstanceAs (Decidable (_ → (∀ _ ∈ _, _) ∧ ∀ _ ∈ _, _))

end ExtraScene

-- ==== the names

namespace ExtraTypes

variable {types : ExtraTypes} {extra other : Nat} {model : ExtraModel}

def visibleNames : List String :=
  ["Mine", "Hut", "Ruins", "Airbase", "Fortress", "Oil Well", "Fallout",
    "Pollution", "Buoy"] ++ specialResources

theorem ruleName_mem_visibleNames (h : types.Visible extra) :
    types.ruleName extra ∈ visibleNames := by
  rcases h with hnamed | hspecial
  · apply List.mem_append_left
    simp only [keyed, unkeyed, List.cons_append, List.nil_append,
      List.mem_cons, List.not_mem_nil, or_false] at hnamed
    rcases hnamed with rfl | rfl | rfl | rfl | rfl | rfl | rfl | rfl | rfl
    all_goals
      simp [types.ruleName_mine, types.ruleName_hut, types.ruleName_ruins,
        types.ruleName_airbase, types.ruleName_fortress,
        types.ruleName_oilWell, types.ruleName_fallout,
        types.ruleName_pollution, types.ruleName_buoy]
  · exact List.mem_append_right _ hspecial.2

theorem Depicts.unique (h : types.Depicts extra model)
    (h' : types.Depicts other model) (hv : types.Visible extra)
    (hv' : types.Visible other) : extra = other := by
  apply types.ruleName_inj
  have hfish : ∀ name ∈ visibleNames,
      name ∉ ["Fish1", "Fish2", "Fish3"] := by decide
  have hname := hfish _ (ruleName_mem_visibleNames hv)
  have hname' := hfish _ (ruleName_mem_visibleNames hv')
  unfold Depicts at h h'
  by_cases he : types.ruleName extra = "Fish"
  · by_cases ho : types.ruleName other = "Fish"
    · rw [he, ho]
    · rw [if_pos he] at h
      rw [if_neg ho] at h'
      exact absurd (h' ▸ h) hname'
  · rw [if_neg he] at h
    by_cases ho : types.ruleName other = "Fish"
    · rw [if_pos ho] at h'
      exact absurd (h ▸ h') hname
    · rw [if_neg ho] at h'
      rw [← h, ← h']

theorem not_special_of_keyed (h : extra ∈ types.keyed) :
    ¬ types.Special extra := by
  rintro ⟨-, hname⟩
  revert hname
  simp only [keyed, List.mem_cons, List.not_mem_nil, or_false] at h
  rcases h with rfl | rfl | rfl | rfl | rfl
  · rw [types.ruleName_mine]; decide
  · rw [types.ruleName_hut]; decide
  · rw [types.ruleName_ruins]; decide
  · rw [types.ruleName_airbase]; decide
  · rw [types.ruleName_fortress]; decide

theorem depicts_fileName (rnd : Fin 3)
    (hname : model.extraName = fileName rnd (types.ruleName extra)) :
    types.Depicts extra model := by
  have hfish : ∀ rnd : Fin 3,
      "Fish" ++ toString (1 + rnd.val) ∈ ["Fish1", "Fish2", "Fish3"] := by
    decide
  unfold Depicts
  rw [hname]
  unfold fileName
  split
  case isTrue => exact hfish rnd
  case isFalse => rfl

end ExtraTypes

namespace ExtraScene

variable {types : ExtraTypes} {s : ExtraScene}

-- ==== the invariant

/-- The keys that are shown: the five extras, and the resources. -/
def HasKey (types : ExtraTypes) (extra : Nat) : Prop :=
  extra ∈ types.keyed ∨ types.Special extra

theorem HasKey.visible {extra : Nat} (h : HasKey types extra) :
    types.Visible extra :=
  h.imp (List.mem_append_left _) id

/-- The table and the scene are as `shown` says. -/
structure Tracks (types : ExtraTypes) (shown : Nat → Nat → Prop)
    (s : ExtraScene) : Prop where
  keys : ∀ extra tile, shown extra tile → HasKey types extra
  listed : ∀ extra tile,
    (s.tileExtraPositionsList.get? (extra, tile)).isSome = true
      ↔ shown extra tile
  single : ∀ extra tile,
    ∀ models ∈ s.tileExtraPositionsList.get? (extra, tile),
      ∃ model, models = [model] ∧ model ∈ s.scene ∧ model.tile = tile
        ∧ types.Depicts extra model
  owned : ∀ model ∈ s.scene, ∃ extra,
    shown extra model.tile ∧ types.Depicts extra model
      ∧ (extra ∈ types.keyed →
        s.tileExtraPositionsList.get? (extra, model.tile) = some [model])

/-- What is shown, but for one key of a tile. -/
def showAt (shown : Nat → Nat → Prop) (extra tile : Nat) (P : Prop) :
    Nat → Nat → Prop :=
  fun extra' tile' =>
    if extra' = extra ∧ tile' = tile then P else shown extra' tile'

theorem showAt_self (shown : Nat → Nat → Prop) (extra tile : Nat)
    (P : Prop) : showAt shown extra tile P extra tile ↔ P := by
  simp [showAt]

theorem showAt_of_ne (shown : Nat → Nat → Prop) {extra tile : Nat}
    (P : Prop) {extra' tile' : Nat}
    (h : (extra', tile') ≠ (extra, tile)) :
    showAt shown extra tile P extra' tile' ↔ shown extra' tile' := by
  have hne : ¬ (extra' = extra ∧ tile' = tile) := by
    rintro ⟨rfl, rfl⟩
    exact h rfl
  simp only [showAt, if_neg hne]

theorem Tracks.congr {shown shown' : Nat → Nat → Prop}
    (h : s.Tracks types shown)
    (heq : ∀ extra tile, shown extra tile ↔ shown' extra tile) :
    s.Tracks types shown' := by
  have hfun : shown = shown' :=
    funext fun extra => funext fun tile => propext (heq extra tile)
  exact hfun ▸ h

theorem Tracks.add {shown : Nat → Nat → Prop} (h : s.Tracks types shown)
    {extra tile : Nat} (model : ExtraModel) (hkey : HasKey types extra)
    (htile : model.tile = tile) (hdepicts : types.Depicts extra model)
    (hnew : extra ∈ types.keyed → ¬ shown extra tile) :
    Tracks types (showAt shown extra tile True)
      { s with
        tileExtraPositionsList :=
          s.tileExtraPositionsList.set (extra, tile) [model]
        scene := s.scene ++ [model]
        nextId := s.nextId + 1 } where
  keys extra' tile' hshown := by
    by_cases heq : (extra', tile') = (extra, tile)
    · cases heq
      exact hkey
    · exact h.keys extra' tile' ((showAt_of_ne shown True heq).mp hshown)
  listed extra' tile' := by
    by_cases heq : (extra', tile') = (extra, tile)
    · cases heq
      simp [showAt_self]
    · rw [Dict.get?_set_of_ne _ _ heq, showAt_of_ne shown True heq]
      exact h.listed extra' tile'
  single extra' tile' models hmodels := by
    by_cases heq : (extra', tile') = (extra, tile)
    · cases heq
      rw [Dict.get?_set_self] at hmodels
      cases hmodels
      exact ⟨model, rfl, by simp, htile, hdepicts⟩
    · rw [Dict.get?_set_of_ne _ _ heq] at hmodels
      obtain ⟨m, hm, hmem, ht, hd⟩ := h.single extra' tile' models hmodels
      exact ⟨m, hm, List.mem_append_left _ hmem, ht, hd⟩
  owned m hm := by
    rcases List.mem_append.mp hm with hold | hone
    · obtain ⟨extra', hshown, hd, honly⟩ := h.owned m hold
      by_cases heq : (extra', m.tile) = (extra, tile)
      · obtain ⟨rfl, hmt⟩ := Prod.mk.inj heq
        refine ⟨extra', ?_, hd, fun hfive => ?_⟩
        · rw [hmt, showAt_self]
          trivial
        · exact absurd (hmt ▸ hshown) (hnew hfive)
      · refine ⟨extra', (showAt_of_ne shown True heq).mpr hshown, hd,
          fun hfive => ?_⟩
        rw [Dict.get?_set_of_ne _ _ heq]
        exact honly hfive
    · cases List.mem_singleton.mp hone
      refine ⟨extra, ?_, hdepicts, fun _ => ?_⟩
      · rw [htile, showAt_self]
        trivial
      · rw [htile, Dict.get?_set_self]

theorem Tracks.remove {shown : Nat → Nat → Prop}
    (h : s.Tracks types shown) {extra tile : Nat}
    (hkeyed : extra ∈ types.keyed) {models : List ExtraModel}
    (hmodels : s.tileExtraPositionsList.get? (extra, tile)
      = some models) :
    Tracks types (showAt shown extra tile False)
      { s with
        tileExtraPositionsList :=
          s.tileExtraPositionsList.erase (extra, tile)
        scene := s.scene.filter (· ∉ models) } := by
  obtain ⟨model, rfl, -, htile, hdepicts⟩ :=
    h.single extra tile models hmodels
  have hkey : HasKey types extra := .inl hkeyed
  exact
    { keys := fun extra' tile' hshown => by
        by_cases heq : (extra', tile') = (extra, tile)
        · cases heq
          exact absurd ((showAt_self _ _ _ _).mp hshown) id
        · exact h.keys extra' tile'
            ((showAt_of_ne shown False heq).mp hshown)
      listed := fun extra' tile' => by
        by_cases heq : (extra', tile') = (extra, tile)
        · cases heq
          simp [showAt_self]
        · rw [Dict.get?_erase_of_ne _ heq, showAt_of_ne shown False heq]
          exact h.listed extra' tile'
      single := fun extra' tile' models hget => by
        by_cases heq : (extra', tile') = (extra, tile)
        · cases heq
          rw [Dict.get?_erase_self] at hget
          cases hget
        · rw [Dict.get?_erase_of_ne _ heq] at hget
          obtain ⟨m, hm, hmem, ht, hd⟩ := h.single extra' tile' models hget
          refine ⟨m, hm, ?_, ht, hd⟩
          have hne : m ≠ model := by
            rintro rfl
            have hshown' : shown extra' tile' :=
              (h.listed extra' tile').mp (by rw [hget]; rfl)
            have := hd.unique hdepicts (h.keys _ _ hshown').visible
              hkey.visible
            exact heq (by rw [this, ← ht, htile])
          simpa [hne] using hmem
      owned := fun m hm => by
        obtain ⟨hmem, hne⟩ := List.mem_filter.mp hm
        have hne : m ≠ model := by simpa using hne
        obtain ⟨extra', hshown, hd, honly⟩ := h.owned m hmem
        have heq : (extra', m.tile) ≠ (extra, tile) := by
          intro heq
          obtain ⟨rfl, hmt⟩ := Prod.mk.inj heq
          have hget := honly hkeyed
          rw [hmt, hmodels, Option.some_inj, List.singleton_inj] at hget
          exact hne hget.symm
        refine ⟨extra', (showAt_of_ne shown False heq).mpr hshown, hd,
          fun hfive => ?_⟩
        rw [Dict.get?_erase_of_ne _ heq]
        exact honly hfive }

theorem Tracks.addModels {shown : Nat → Nat → Prop}
    (h : s.Tracks types shown) {extra : Nat} (tile : Nat) {name : String}
    (hkey : HasKey types extra)
    (hdepicts : ∀ model : ExtraModel, model.extraName = name →
      types.Depicts extra model) {n : Nat}
    (hnew : extra ∈ types.keyed → ¬ shown extra tile ∧ n = 0) :
    Tracks types (showAt shown extra tile True)
      (addModels extra tile name (n + 1) s) := by
  induction n generalizing s shown with
  | zero =>
    exact h.add { id := s.nextId, tile, extraName := name } hkey rfl
      (hdepicts _ rfl) fun hfive => (hnew hfive).1
  | succ n ih =>
    have hnot : extra ∉ types.keyed := fun hfive =>
      nomatch (hnew hfive).2
    have hone := h.add { id := s.nextId, tile, extraName := name } hkey
      rfl (hdepicts _ rfl) fun hfive => absurd hfive hnot
    have hall := ih hone fun hfive => absurd hfive hnot
    refine hall.congr fun extra' tile' => ?_
    unfold showAt
    split <;> rfl

theorem tiles_addModels (extra tile : Nat) (name : String) (n : Nat) :
    (addModels extra tile name n s).tiles = s.tiles := by
  induction n generalizing s with
  | zero => rfl
  | succ n ih => exact ih

theorem tiles_updateTileExtraUpdateModel (rnd : Fin 3) (extra : Nat)
    (name : String) (tile : Nat) (extras : List Nat) :
    (s.updateTileExtraUpdateModel types rnd extra name tile extras).tiles
      = s.tiles := by
  unfold updateTileExtraUpdateModel
  split
  · split
    · exact tiles_addModels _ _ _ _
    · rfl
  · split <;> rfl

-- ==== one update

section

variable {extras : List Nat}
  (hunkeyed : ∀ extra ∈ types.unkeyed, extra ∉ extras)

include hunkeyed

/-- Without an extra that has no key, the condition is that the tile has
the extra itself. -/
theorem shows_iff (extra : Nat) :
    (extra ∈ extras ∨ types.oilWell ∈ extras ∨ types.fallout ∈ extras
      ∨ types.pollution ∈ extras ∨ types.buoy ∈ extras)
      ↔ extra ∈ extras := by
  simp only [ExtraTypes.unkeyed, List.forall_mem_cons] at hunkeyed
  obtain ⟨hoil, hfallout, hpollution, hbuoy, -⟩ := hunkeyed
  simp only [hoil, hfallout, hpollution, hbuoy, or_false]

theorem shownName_eq (name : String) :
    shownName types extras name = name := by
  simp only [ExtraTypes.unkeyed, List.forall_mem_cons] at hunkeyed
  obtain ⟨hoil, hfallout, hpollution, hbuoy, -⟩ := hunkeyed
  simp only [shownName, hoil, hfallout, hpollution, hbuoy, if_false]

theorem Tracks.updateKeyed {shown : Nat → Nat → Prop}
    (h : s.Tracks types shown) (rnd : Fin 3) {extra : Nat} (tile : Nat)
    (hkeyed : extra ∈ types.keyed) {name : String}
    (hname : types.ruleName extra = name) (hnum : numModels name = 1) :
    Tracks types (showAt shown extra tile (extra ∈ extras))
      (s.updateTileExtraUpdateModel types rnd extra name tile extras) := by
  subst hname
  unfold updateTileExtraUpdateModel
  have hsame (hP : shown extra tile ↔ extra ∈ extras) :
      ∀ extra' tile', shown extra' tile'
        ↔ showAt shown extra tile (extra ∈ extras) extra' tile' := by
    intro extra' tile'
    by_cases heq : (extra', tile') = (extra, tile)
    · cases heq
      rw [showAt_self]
      exact hP
    · rw [showAt_of_ne shown _ heq]
  split
  · rename_i hnone
    have hnot : ¬ shown extra tile := by
      rw [← h.listed, hnone]
      simp
    by_cases hmem : extra ∈ extras
    · rw [if_pos ((shows_iff hunkeyed extra).mpr hmem),
        shownName_eq hunkeyed]
      dsimp only
      rw [hnum]
      have hadd := h.addModels tile (.inl hkeyed)
        (fun _ => ExtraTypes.depicts_fileName rnd) (n := 0)
        fun _ => ⟨hnot, rfl⟩
      refine hadd.congr fun extra' tile' => ?_
      simp only [showAt, hmem]
    · rw [if_neg fun hany => hmem ((shows_iff hunkeyed extra).mp hany)]
      exact h.congr (hsame (iff_of_false hnot hmem))
  · rename_i models hmodels
    have hshown : shown extra tile := by
      rw [← h.listed, hmodels]
      rfl
    by_cases hmem : extra ∈ extras
    · rw [if_pos hmem]
      exact h.congr (hsame (iff_of_true hshown hmem))
    · rw [if_neg hmem]
      refine (h.remove hkeyed hmodels).congr fun extra' tile' => ?_
      simp only [showAt, hmem]

omit hunkeyed in
theorem numModels_pos (name : String) : ∃ n, numModels name = n + 1 := by
  unfold numModels
  split_ifs
  all_goals exact ⟨_, rfl⟩

theorem Tracks.updateResource {shown : Nat → Nat → Prop}
    (h : s.Tracks types shown) (rnd : Fin 3) (tile : Nat)
    (hstays : ∀ extra, types.Special extra → shown extra tile →
      tileResource types extras = some extra) :
    Tracks types (fun extra' tile' =>
        if types.Special extra' ∧ tile' = tile then
          tileResource types extras = some extra'
        else shown extra' tile')
      (s.updateResource types rnd tile extras) := by
  unfold ExtraScene.updateResource
  have hsame (hP : ∀ extra, types.Special extra →
      tileResource types extras = some extra → shown extra tile) :
      ∀ extra' tile', shown extra' tile'
        ↔ if types.Special extra' ∧ tile' = tile then
            tileResource types extras = some extra'
          else shown extra' tile' := by
    intro extra' tile'
    split
    · rename_i hboth
      obtain ⟨hspecial, rfl⟩ := hboth
      exact ⟨hstays extra' hspecial, hP extra' hspecial⟩
    · rfl
  cases hres : tileResource types extras with
  | none =>
    rw [hres] at hsame
    exact h.congr (hsame fun extra _ hsome => nomatch hsome)
  | some extra =>
    rw [hres] at hsame hstays
    have hresource : types.isResource extra = true := by
      simpa using List.find?_some hres
    have hmem : extra ∈ extras := List.mem_of_find?_eq_some hres
    by_cases hadd : s.tileExtraPositionsList.get? (extra, tile) = none
        ∧ types.ruleName extra ∈ specialResources
    · obtain ⟨hnone, hname⟩ := hadd
      have hspecial : types.Special extra := ⟨hresource, hname⟩
      obtain ⟨n, hn⟩ := numModels_pos (types.ruleName extra)
      simp only [hnone, hname, and_self, if_true,
        updateTileExtraUpdateModel,
        if_pos ((shows_iff hunkeyed extra).mpr hmem),
        shownName_eq hunkeyed, hn]
      have hadded := h.addModels tile (.inr hspecial)
        (fun _ => ExtraTypes.depicts_fileName rnd) (n := n)
        fun hfive =>
          absurd hspecial (ExtraTypes.not_special_of_keyed hfive)
      refine hadded.congr fun extra' tile' => ?_
      by_cases heq : (extra', tile') = (extra, tile)
      · cases heq
        simp [showAt, hspecial]
      · rw [showAt_of_ne shown True heq]
        split
        · rename_i hboth
          obtain ⟨hspecial', rfl⟩ := hboth
          constructor
          · exact hstays extra' hspecial'
          · rintro hsome
            cases hsome
            exact absurd rfl heq
        · rfl
    · dsimp only
      rw [if_neg hadd]
      refine h.congr (hsame fun extra' hspecial hsome => ?_)
      cases hsome
      rw [← h.listed]
      have hne := fun hnone => hadd ⟨hnone, hspecial.2⟩
      exact Option.isSome_iff_ne_none.mpr hne

/-- The extras of a tile under the keys of the table. -/
def Keyed (types : ExtraTypes) (extras : List Nat) (extra : Nat) : Prop :=
  (extra ∈ types.keyed ∧ extra ∈ extras)
    ∨ (types.Special extra ∧ tileResource types extras = some extra)

omit hunkeyed in
theorem showAt_keyed (shown : Nat → Nat → Prop) (extras : List Nat)
    (tile extra' tile' : Nat) :
    showAt (showAt (showAt (showAt (showAt shown
      types.mine tile (types.mine ∈ extras))
      types.hut tile (types.hut ∈ extras))
      types.ruins tile (types.ruins ∈ extras))
      types.airbase tile (types.airbase ∈ extras))
      types.fortress tile (types.fortress ∈ extras) extra' tile'
        ↔ if tile' = tile ∧ extra' ∈ types.keyed then extra' ∈ extras
          else shown extra' tile' := by
  simp only [showAt, ExtraTypes.keyed, List.mem_cons, List.not_mem_nil,
    or_false]
  split_ifs <;> grind

/-- A whole update of a tile: the five extras one by one, then the
resource. -/
theorem Tracks.updateTileExtras {shown : Nat → Nat → Prop}
    (h : s.Tracks types shown) (rnd : Fin 3) (tile : Nat)
    (hstays : ∀ extra, types.Special extra → shown extra tile →
      tileResource types extras = some extra) :
    Tracks types (fun extra' tile' =>
        if tile' = tile then Keyed types extras extra'
        else shown extra' tile')
      (s.updateTileExtras types rnd tile extras) := by
  have h0 : Tracks types shown
      { s with tiles := s.tiles.set tile extras } :=
    ⟨h.keys, h.listed, h.single, h.owned⟩
  have h1 := h0.updateKeyed hunkeyed rnd tile (by simp [ExtraTypes.keyed])
    types.ruleName_mine rfl
  have h2 := h1.updateKeyed hunkeyed rnd tile (by simp [ExtraTypes.keyed])
    types.ruleName_hut rfl
  have h3 := h2.updateKeyed hunkeyed rnd tile (by simp [ExtraTypes.keyed])
    types.ruleName_ruins rfl
  have h4 := h3.updateKeyed hunkeyed rnd tile (by simp [ExtraTypes.keyed])
    types.ruleName_airbase rfl
  have h5 := h4.updateKeyed hunkeyed rnd tile (by simp [ExtraTypes.keyed])
    types.ruleName_fortress rfl
  have h6 := h5.congr fun extra' tile' =>
    showAt_keyed shown extras tile extra' tile'
  have h7 := h6.updateResource hunkeyed rnd tile fun extra hspecial => by
    rw [if_neg fun hboth => ExtraTypes.not_special_of_keyed hboth.2
      hspecial]
    exact hstays extra hspecial
  refine h7.congr fun extra' tile' => ?_
  by_cases htile : tile' = tile
  · subst htile
    by_cases hspecial : types.Special extra'
    · have hnot : extra' ∉ types.keyed := fun hkeyed =>
        ExtraTypes.not_special_of_keyed hkeyed hspecial
      simp [hspecial, Keyed, hnot]
    · by_cases hkeyed : extra' ∈ types.keyed
      · simp [hspecial, Keyed, hkeyed]
      · have hnot : ¬ shown extra' tile' := fun hshown =>
          (h.keys _ _ hshown).elim hkeyed hspecial
        simp [hspecial, Keyed, hkeyed, hnot]
  · simp [htile]

end

-- ==== the runs

/-- What a run keeps while its updates fit. -/
structure Steady (types : ExtraTypes) (s : ExtraScene) : Prop where
  tracks : Tracks types (fun extra tile =>
    ∃ extras ∈ s.tiles.get? tile, Keyed types extras extra) s
  unkeyed : ∀ tile, ∀ extras ∈ s.tiles.get? tile,
    ∀ extra ∈ types.unkeyed, extra ∉ extras

theorem tiles_updateTileExtras (rnd : Fin 3) (tile : Nat)
    (extras : List Nat) :
    (s.updateTileExtras types rnd tile extras).tiles
      = s.tiles.set tile extras := by
  have hresource (s : ExtraScene) :
      (s.updateResource types rnd tile extras).tiles = s.tiles := by
    unfold updateResource
    split
    · rfl
    · split
      · exact tiles_updateTileExtraUpdateModel _ _ _ _ _
      · rfl
  simp only [updateTileExtras, hresource,
    tiles_updateTileExtraUpdateModel]

theorem Steady.update (h : s.Steady types) {u : TileUpdate}
    (hfits : s.Fits types u) : (s.update types u).Steady types := by
  unfold ExtraScene.update
  split
  case isFalse => exact h
  case isTrue hknown =>
    obtain ⟨hunkeyed, hstays⟩ := hfits hknown
    have htiles : (s.updateTileExtras types u.rnd u.tile u.extras).tiles
        = s.tiles.set u.tile u.extras := tiles_updateTileExtras _ _ _
    have htracks := h.tracks.updateTileExtras hunkeyed u.rnd u.tile ?_
    · constructor
      · rw [htiles]
        refine htracks.congr fun extra tile => ?_
        by_cases htile : tile = u.tile
        · subst htile
          simp
        · simp only [if_neg htile, Dict.get?_set_of_ne _ _ htile]
      · intro tile extras hget
        rw [htiles] at hget
        by_cases htile : tile = u.tile
        · subst htile
          rw [Dict.get?_set_self] at hget
          cases hget
          exact hunkeyed
        · rw [Dict.get?_set_of_ne _ _ htile] at hget
          exact h.unkeyed tile extras hget
    · rintro extra hspecial ⟨extras, hextras, hkeyed⟩
      rcases hkeyed with ⟨hkeyed, -⟩ | ⟨-, hres⟩
      · exact absurd hspecial (ExtraTypes.not_special_of_keyed hkeyed)
      · exact hstays extras hextras extra hres hspecial.2

theorem Keyed.has {extras : List Nat} {extra : Nat}
    (h : Keyed types extras extra) : types.Has extras extra := by
  unfold ExtraTypes.Has
  rcases h with ⟨hkeyed, hmem⟩ | ⟨hspecial, hres⟩
  · rw [if_pos (List.mem_append_left _ hkeyed)]
    exact hmem
  · split
    · exact List.mem_of_find?_eq_some hres
    · exact hres

theorem Steady.mirrors (h : s.Steady types) : s.Mirrors types where
  seen tile extras hget extra hvisible := by
    constructor
    · rintro ⟨model, hmem, rfl, hdepicts⟩
      obtain ⟨extra', hshown, hdepicts', -⟩ := h.tracks.owned model hmem
      have heq := hdepicts.unique hdepicts' hvisible
        (h.tracks.keys _ _ hshown).visible
      subst heq
      obtain ⟨extras', hget', hkeyed⟩ := hshown
      rw [Option.mem_def] at hget hget'
      rw [hget] at hget'
      cases hget'
      exact hkeyed.has
    · intro hhas
      have hkeyed : Keyed types extras extra := by
        unfold ExtraTypes.Has at hhas
        split at hhas
        case isTrue hnamed =>
          rcases List.mem_append.mp hnamed with hk | hu
          · exact .inl ⟨hk, hhas⟩
          · exact absurd hhas (h.unkeyed tile extras hget extra hu)
        case isFalse hnamed =>
          exact .inr ⟨hvisible.resolve_left hnamed, hhas⟩
      have hlisted := (h.tracks.listed extra tile).mpr
        ⟨extras, hget, hkeyed⟩
      obtain ⟨models, hmodels⟩ := Option.isSome_iff_exists.mp hlisted
      obtain ⟨model, -, hmem, htile, hdepicts⟩ :=
        h.tracks.single extra tile models hmodels
      exact ⟨model, hmem, htile, hdepicts⟩
  gone model hmem := by
    obtain ⟨extra, hshown, hdepicts, -⟩ := h.tracks.owned model hmem
    have hvisible := (h.tracks.keys _ _ hshown).visible
    obtain ⟨extras, hget, hkeyed⟩ := hshown
    exact ⟨extras, hget, extra, hvisible, hdepicts, hkeyed.has⟩

/-- In every run whose updates fit the models in the scene are those of the
extras the tiles have, after every update. -/
theorem extras_mirrored (types : ExtraTypes) (s : ExtraScene)
    (h : (extraRuns types).init s) (updates : List TileUpdate)
    (hfits : (extraRuns types).Along (Fits types) s updates) :
    (extraRuns types).Always (Mirrors types) s updates := by
  obtain ⟨htable, hscene, htiles⟩ := h
  have hsteady : s.Steady types := by
    constructor
    · exact
        { keys := by simp [htiles, Dict.get?_empty]
          listed := by simp [htable, htiles, Dict.get?_empty]
          single := by simp [htable, Dict.get?_empty]
          owned := by simp [hscene] }
    · simp [htiles, Dict.get?_empty]
  refine Lts.always_of_along (J := Steady types) (fun s hs => hs.mirrors)
    (fun s u s' hs hf hstep => ?_) hsteady hfits
  cases hstep
  exact hs.update hf

def smallNames : List String :=
  ["Mine", "Hut", "Ruins", "Airbase", "Fortress", "Oil Well", "Fallout",
    "Pollution", "Buoy", "Fish", "Whales"]

/-- Its extras, by their place among the names; others do not matter. -/
def smallName (extra : Nat) : String :=
  smallNames[extra]?.getD (String.ofList (List.replicate extra 'x'))

theorem smallName_injective : Function.Injective smallName := by
  have hshort : ∀ name ∈ smallNames, name.length < 11 := by decide
  have hsmall : ∀ a < 11, ∀ b < 11, smallName a = smallName b → a = b := by
    decide
  have hlong : ∀ a, 11 ≤ a → (smallName a).length = a := by
    intro a ha
    have hnone : smallNames[a]? = none := List.getElem?_eq_none ha
    simp [smallName, hnone]
  have hbelow : ∀ a < 11, (smallName a).length < 11 := by decide
  intro a b hab
  have hlen := congrArg String.length hab
  by_cases ha : a < 11
  · by_cases hb : b < 11
    · exact hsmall a ha b hb hab
    · have := hbelow a ha
      have := hlong b (by omega)
      omega
  · have := hlong a (by omega)
    by_cases hb : b < 11
    · have := hbelow b hb
      omega
    · have := hlong b (by omega)
      omega

/-- A small ruleset: its resources are fish and whales. -/
def smallTypes : ExtraTypes :=
  { ruleName := smallName
    isResource := fun extra => decide (9 ≤ extra)
    ruleName_inj := smallName_injective
    mine := 0, hut := 1, ruins := 2, airbase := 3, fortress := 4
    oilWell := 5, fallout := 6, pollution := 7, buoy := 8
    ruleName_mine := rfl, ruleName_hut := rfl, ruleName_ruins := rfl
    ruleName_airbase := rfl, ruleName_fortress := rfl
    ruleName_oilWell := rfl, ruleName_fallout := rfl
    ruleName_pollution := rfl, ruleName_buoy := rfl }

def bare : ExtraScene :=
  { tileExtraPositionsList := ∅, scene := [], nextId := 0, tiles := ∅ }

theorem extras_mirrored_mine :
    (extraRuns smallTypes).Always (Mirrors smallTypes) bare
      [⟨7, true, [0, 9], 1⟩, ⟨8, true, [4], 0⟩, ⟨7, true, [2, 9], 2⟩,
        ⟨8, true, [], 0⟩] :=
  extras_mirrored smallTypes bare ⟨rfl, rfl, rfl⟩ _ (by decide)

/-- An oil well is there after one update and gone after the next; fish
stay when the tile has none any more. -/
theorem extras_not_mirrored :
    (¬ ∀ (types : ExtraTypes) (s : ExtraScene), (extraRuns types).init s →
      ∀ updates, (extraRuns types).Always (Mirrors types) s updates)
    ∧ ¬ (extraRuns smallTypes).Always (Mirrors smallTypes) bare
      [⟨7, true, [9], 1⟩, ⟨7, true, [], 0⟩] := by
  constructor
  · intro hall
    have hrun := hall smallTypes bare ⟨rfl, rfl, rfl⟩
      [⟨7, true, [5], 0⟩, ⟨7, true, [5], 0⟩]
    have hlast : Mirrors smallTypes _ := hrun.2.2
    have hseen := (hlast.seen 7 [5] (by decide) 5
      (.inl (by decide))).mpr (by decide)
    revert hseen
    decide
  · intro hrun
    have hlast : Mirrors smallTypes _ := hrun.2.2
    have hhas := (hlast.seen 7 [] (by decide) 9
      (.inr (by decide))).mp (by decide)
    revert hhas
    decide

end ExtraScene

end Freeciv3d.Web
