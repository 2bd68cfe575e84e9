/-
The `terrain_ready` message an embedded observer sends to its parent
frame: the flags `renderer_init` and `handle_map_info` test and set, and
the callbacks they leave behind.

# Callbacks

`renderer_init` sets a timer, whose callback sets `renderer_initialized`
and asks for an animation frame. `handle_map_info` asks for one when the
renderer is there already. `reset_observer_state_for_retry` takes the
flags and the map back and begins the next attempt; no callback is
cancelled. Callbacks may run in any order. With each goes the attempt it
was made in.

# Once an attempt

`terrain_ready` is sent once an attempt and not early, as long as no
callback of an earlier attempt acts on the flags.

# The flags and the attempt

In an attempt that only its own callbacks touch, the flags say what
happened in it (`Announced`), and while both have happened and nothing
was sent, a callback is left that will send (`Announced.pending`).
A callback of an earlier attempt sets `renderer_initialized` before the
renderer is there, or sends with the flags of the new attempt; the
condition is that it finds the flags as they will be anyway
(`Harmless`).
-/
import Mathlib.Data.List.Basic
import Freeciv3d.Lib.Lts

namespace Freeciv3d.Web

open Lib

structure MapSize where
  xsize : Nat
  ysize : Nat
  deriving DecidableEq

inductive FrameCallback where
  | rendererInit (attempt : Nat)
  | mapInfo (attempt : Nat)
  deriving DecidableEq

structure TerrainReadyMessage where
  attempt : Nat
  size : Option MapSize
  mapSeen : Option MapSize
  rendererSeen : Bool
  deriving DecidableEq

/-- The flags, the callbacks to come and the messages. -/
structure TerrainClient where
  /-- `map`; none while it is `{}`. -/
  map : Option MapSize
  terrainDataPopulated : Bool
  terrainReadyNotified : Bool
  rendererInitialized : Bool
  /-- The timers of `renderer_init`, by their attempts. -/
  timers : List Nat
  frames : List FrameCallback
  attempt : Nat
  /-- The sizes of the last MAP_INFO packet processed in this attempt. -/
  mapSeen : Option MapSize
  rendererSeen : Bool
  messages : List TerrainReadyMessage

inductive TerrainAct where
  | mapInfo (size : MapSize)
  | rendererInit
  | timer (i : Nat)
  | frame (i : Nat)
  | reset

namespace TerrainClient

variable (c : TerrainClient)

def init : TerrainClient where
  map := none
  terrainDataPopulated := false
  terrainReadyNotified := false
  rendererInitialized := false
  timers := []
  frames := []
  attempt := 0
  mapSeen := none
  rendererSeen := false
  messages := []

/-- `notify_parent_iframe('terrain_ready', …)`. -/
def notify : TerrainClient :=
  { c with
    terrainReadyNotified := true
    messages := c.messages ++
      [{ attempt := c.attempt, size := c.map,
         mapSeen := c.mapSeen, rendererSeen := c.rendererSeen }] }

def handleMapInfo (size : MapSize) : TerrainClient :=
  { c with
    map := some size
    mapSeen := some size
    terrainDataPopulated := true
    frames :=
      if c.rendererInitialized && !c.terrainReadyNotified then
        c.frames ++ [.mapInfo c.attempt]
      else c.frames }

/-- `renderer_init`, in the game. -/
def handleRendererInit : TerrainClient :=
  { c with timers := c.timers ++ [c.attempt] }

def runTimer (attempt : Nat) : TerrainClient :=
  { c with
    rendererInitialized := true
    rendererSeen := c.rendererSeen || decide (attempt = c.attempt)
    frames := c.frames ++ [.rendererInit attempt] }

def runFrame : FrameCallback → TerrainClient
  | .rendererInit _ =>
    if c.terrainDataPopulated && !c.terrainReadyNotified && c.map.isSome then
      c.notify
    else c
  | .mapInfo _ => if !c.terrainReadyNotified then c.notify else c

/-- `reset_observer_state_for_retry`, of what is modelled here. -/
def resetObserverStateForRetry : TerrainClient :=
  { c with
    map := none
    terrainReadyNotified := false
    terrainDataPopulated := false
    rendererInitialized := false
    attempt := c.attempt + 1
    mapSeen := none
    rendererSeen := false }

def step : TerrainAct → Option TerrainClient
  | .mapInfo size => some (c.handleMapInfo size)
  | .rendererInit => some c.handleRendererInit
  | .timer i =>
    c.timers[i]?.map fun attempt =>
      ({ c with timers := c.timers.eraseIdx i } : TerrainClient).runTimer
        attempt
  | .frame i =>
    c.frames[i]?.map fun callback =>
      ({ c with frames := c.frames.eraseIdx i } : TerrainClient).runFrame
        callback
  | .reset => some c.resetObserverStateForRetry

end TerrainClient

def terrainRuns : Lts TerrainClient TerrainAct where
  init c := c = TerrainClient.init
  step := TerrainClient.step

-- ==== once an attempt

def FrameCallback.attempt : FrameCallback → Nat
  | rendererInit attempt => attempt
  | mapInfo attempt => attempt

-- ==== the statement

/-- The renderer was initialised, the map had come, and the sizes are
those that came. -/
structure TerrainReadyMessage.Due (m : TerrainReadyMessage) : Prop where
  renderer : m.rendererSeen = true
  map : m.mapSeen.isSome = true
  size : m.size = m.mapSeen

namespace TerrainClient

def sent (c : TerrainClient) (attempt : Nat) : Nat :=
  c.messages.countP fun m => m.attempt == attempt

/-- At most one message an attempt, none before its map has come and its
renderer is initialised, each with the sizes of that map, and one when
both have happened and no callback is left. -/
structure AnnouncedOnce (c : TerrainClient) : Prop where
  once : ∀ attempt, c.sent attempt ≤ 1
  due : ∀ m ∈ c.messages, m.Due
  announced : c.mapSeen.isSome = true → c.rendererSeen = true →
    c.timers = [] → c.frames = [] → c.sent c.attempt = 1

/-- A callback of an earlier attempt changes nothing that is not so: its
timer finds the renderer initialised, and its frame has nothing to send,
or both have happened. -/
def Harmless (c : TerrainClient) : TerrainAct → Prop
  | .timer i => ∀ attempt ∈ c.timers[i]?,
      attempt = c.attempt ∨ c.rendererInitialized = true
  | .frame i => ∀ callback ∈ c.frames[i]?,
      callback.attempt = c.attempt ∨ c.terrainReadyNotified = true
        ∨ match callback with
          | .rendererInit _ =>
            c.terrainDataPopulated = false ∨ c.rendererInitialized = true
          | .mapInfo _ =>
            c.terrainDataPopulated = true ∧ c.rendererInitialized = true
  | _ => True

instance : DecidableRel Harmless
  | _, .timer _ => inferInstanceAs (Decidable (∀ _ ∈ _, _))
  | c, .frame _ =>
    have : DecidablePred fun callback : FrameCallback =>
        callback.attempt = c.attempt ∨ c.terrainReadyNotified = true
          ∨ match callback with
            | .rendererInit _ =>
              c.terrainDataPopulated = false ∨ c.rendererInitialized = true
            | .mapInfo _ =>
              c.terrainDataPopulated = true
                ∧ c.rendererInitialized = true := fun
      | .rendererInit _ => inferInstanceAs (Decidable (_ ∨ _ ∨ _ ∨ _))
      | .mapInfo _ => inferInstanceAs (Decidable (_ ∨ _ ∨ _ ∧ _))
    inferInstanceAs (Decidable (∀ _ ∈ _, _))
  | _, .mapInfo _ | _, .rendererInit | _, .reset => instDecidableTrue

-- ==== the invariant

/-- The flags say what happened in the attempt. -/
structure Announced (c : TerrainClient) : Prop where
  populated : c.terrainDataPopulated = c.mapSeen.isSome
  map : c.map = c.mapSeen
  renderer : c.rendererInitialized = c.rendererSeen
  notified : c.sent c.attempt = if c.terrainReadyNotified then 1 else 0
  past : ∀ attempt, c.sent attempt ≤ 1
  later : ∀ attempt, c.attempt < attempt → c.sent attempt = 0
  due : ∀ m ∈ c.messages, m.Due
  timers : ∀ attempt ∈ c.timers, attempt ≤ c.attempt
  frames : ∀ callback ∈ c.frames, callback.attempt ≤ c.attempt
  own : ∀ callback ∈ c.frames, callback.attempt = c.attempt →
    c.rendererSeen = true
      ∧ (callback = .mapInfo c.attempt → c.mapSeen.isSome = true)
  pending : c.mapSeen.isSome = true → c.rendererSeen = true →
    c.terrainReadyNotified = false → c.frames ≠ []

variable {c c' : TerrainClient}

theorem Announced.announcedOnce (h : c.Announced) : c.AnnouncedOnce where
  once := h.past
  due := h.due
  announced hmap hrenderer _ hframes := by
    rw [h.notified]
    cases hn : c.terrainReadyNotified with
    | true => rfl
    | false => exact absurd hframes (h.pending hmap hrenderer hn)

-- ==== the steps

theorem announced_init : TerrainClient.init.Announced where
  populated := rfl
  map := rfl
  renderer := rfl
  notified := rfl
  past _ := Nat.zero_le _
  later _ _ := rfl
  due m hm := by cases hm
  timers k hk := by cases hk
  frames callback hc := by cases hc
  own callback hc := by cases hc
  pending hmap := by cases hmap

theorem sent_notify (c : TerrainClient) (attempt : Nat) :
    c.notify.sent attempt
      = c.sent attempt + if c.attempt = attempt then 1 else 0 := by
  show (c.messages ++ [_]).countP _ = _
  rw [List.countP_append, List.countP_singleton]
  by_cases h : c.attempt = attempt <;> simp [h, sent]

theorem Announced.notify (h : c.Announced) {frames : List FrameCallback}
    (hframes : ∀ callback ∈ frames, callback ∈ c.frames)
    (hmap : c.mapSeen.isSome = true) (hrenderer : c.rendererSeen = true)
    (hnot : c.terrainReadyNotified = false) :
    ({ c with frames } : TerrainClient).notify.Announced where
  populated := h.populated
  map := h.map
  renderer := h.renderer
  notified := by
    rw [sent_notify]
    have hzero : c.sent c.attempt = 0 := by
      rw [h.notified, hnot]
      rfl
    show c.sent c.attempt + (if c.attempt = c.attempt then 1 else 0) = 1
    rw [hzero, if_pos rfl]
  past attempt := by
    rw [sent_notify]
    show c.sent attempt + (if c.attempt = attempt then 1 else 0) ≤ 1
    by_cases heq : c.attempt = attempt
    · subst heq
      rw [h.notified, hnot]
      simp
    · rw [if_neg heq]
      exact h.past attempt
  later attempt hlt := by
    rw [sent_notify]
    show c.sent attempt + (if c.attempt = attempt then 1 else 0) = 0
    have hlt' : c.attempt < attempt := hlt
    rw [h.later attempt hlt', if_neg (by omega)]
  due m hm := by
    rcases List.mem_append.mp hm with hm | hm
    · exact h.due m hm
    · obtain rfl := List.mem_singleton.mp hm
      exact ⟨hrenderer, hmap, h.map⟩
  timers := h.timers
  frames callback hc := h.frames callback (hframes callback hc)
  own callback hc := h.own callback (hframes callback hc)
  pending _ _ hn := by cases hn

/-- A callback that does not send leaves nothing undone when there is
nothing to send. -/
theorem Announced.quiet (h : c.Announced) {frames : List FrameCallback}
    (hframes : ∀ callback ∈ frames, callback ∈ c.frames)
    (hquiet : c.terrainReadyNotified = true ∨ c.mapSeen.isSome = false) :
    ({ c with frames } : TerrainClient).Announced where
  populated := h.populated
  map := h.map
  renderer := h.renderer
  notified := h.notified
  past := h.past
  later := h.later
  due := h.due
  timers := h.timers
  frames callback hc := h.frames callback (hframes callback hc)
  own callback hc := h.own callback (hframes callback hc)
  pending hmap _ hn := by
    have hmap' : c.mapSeen.isSome = true := hmap
    have hn' : c.terrainReadyNotified = false := hn
    rcases hquiet with hq | hq
    · rw [hn'] at hq
      cases hq
    · rw [hmap'] at hq
      cases hq

theorem Announced.rendererFrame (h : c.Announced)
    {frames : List FrameCallback} {attempt : Nat}
    (hframes : ∀ callback ∈ frames, callback ∈ c.frames)
    (hseen : c.terrainReadyNotified = true ∨ c.mapSeen.isSome = false
      ∨ c.rendererSeen = true) :
    (({ c with frames } : TerrainClient).runFrame
      (.rendererInit attempt)).Announced := by
  show (if c.terrainDataPopulated && !c.terrainReadyNotified && c.map.isSome
    then _ else _ : TerrainClient).Announced
  split
  case isTrue hsend =>
    simp only [Bool.and_eq_true, Bool.not_eq_true'] at hsend
    obtain ⟨⟨hp, hn⟩, -⟩ := hsend
    have hm : c.mapSeen.isSome = true := h.populated ▸ hp
    have hr : c.rendererSeen = true := by simpa [hn, hm] using hseen
    exact h.notify hframes hm hr hn
  case isFalse hsend =>
    rw [h.populated, h.map] at hsend
    apply h.quiet hframes
    cases hn : c.terrainReadyNotified with
    | true => exact Or.inl rfl
    | false =>
      refine Or.inr (Bool.eq_false_iff.mpr fun hm => hsend ?_)
      rw [hn, hm]
      rfl

theorem Announced.mapFrame (h : c.Announced)
    {frames : List FrameCallback} {attempt : Nat}
    (hframes : ∀ callback ∈ frames, callback ∈ c.frames)
    (hseen : c.terrainReadyNotified = true
      ∨ (c.mapSeen.isSome = true ∧ c.rendererSeen = true)) :
    (({ c with frames } : TerrainClient).runFrame
      (.mapInfo attempt)).Announced := by
  show (if !c.terrainReadyNotified then _ else _ : TerrainClient).Announced
  split
  case isTrue hsend =>
    have hn : c.terrainReadyNotified = false := by simpa using hsend
    have hboth : c.mapSeen.isSome = true ∧ c.rendererSeen = true := by
      simpa [hn] using hseen
    exact h.notify hframes hboth.1 hboth.2 hn
  case isFalse hsend =>
    have hn : c.terrainReadyNotified = true := by simpa using hsend
    exact h.quiet hframes (Or.inl hn)

theorem Announced.frame (h : c.Announced) {i : Nat}
    (hc : c.Harmless (.frame i)) (hs : c.step (.frame i) = some c') :
    c'.Announced := by
  obtain ⟨callback, hi, rfl⟩ := Option.map_eq_some_iff.mp hs
  have hframes : ∀ f ∈ c.frames.eraseIdx i, f ∈ c.frames :=
    fun f => List.mem_of_mem_eraseIdx
  have hharm := hc callback hi
  have hmem : callback ∈ c.frames := List.mem_of_getElem? hi
  cases callback with
  | rendererInit attempt =>
    apply h.rendererFrame hframes
    rcases hharm with hown | hn | hp | hr
    · exact Or.inr (Or.inr (h.own _ hmem hown).1)
    · exact Or.inl hn
    · exact Or.inr (Or.inl (h.populated ▸ hp))
    · exact Or.inr (Or.inr (h.renderer ▸ hr))
  | mapInfo attempt =>
    apply h.mapFrame hframes
    rcases hharm with hown | hn | ⟨hp, hr⟩
    · have hown' : attempt = c.attempt := hown
      subst hown'
      obtain ⟨hr, hm⟩ := h.own _ hmem rfl
      exact Or.inr ⟨hm rfl, hr⟩
    · exact Or.inl hn
    · exact Or.inr ⟨h.populated ▸ hp, h.renderer ▸ hr⟩

theorem Announced.timer (h : c.Announced) {i : Nat}
    (hc : c.Harmless (.timer i)) (hs : c.step (.timer i) = some c') :
    c'.Announced := by
  obtain ⟨attempt, hi, rfl⟩ := Option.map_eq_some_iff.mp hs
  have hmem : attempt ∈ c.timers := List.mem_of_getElem? hi
  have hseen : (c.rendererSeen || decide (attempt = c.attempt)) = true := by
    rcases hc attempt hi with hown | hr
    · simp [hown]
    · simp [← h.renderer, hr]
  exact
    { populated := h.populated
      map := h.map
      renderer := hseen.symm
      notified := h.notified
      past := h.past
      later := h.later
      due m hm := h.due m hm
      timers k hk := h.timers k (List.mem_of_mem_eraseIdx hk)
      frames callback hcb := by
        rcases List.mem_append.mp hcb with hcb | hcb
        · exact h.frames callback hcb
        · obtain rfl := List.mem_singleton.mp hcb
          exact h.timers attempt hmem
      own callback hcb hown := by
        refine ⟨hseen, fun heq => ?_⟩
        rcases List.mem_append.mp hcb with hcb | hcb
        · exact (h.own callback hcb hown).2 heq
        · rw [List.mem_singleton.mp hcb] at heq
          cases heq
      pending _ _ _ := by
        show c.frames ++ [_] ≠ []
        simp }

theorem mem_frames_mapInfo {size : MapSize} {callback : FrameCallback}
    (hcb : callback ∈ (c.handleMapInfo size).frames) :
    callback ∈ c.frames
      ∨ (callback = .mapInfo c.attempt ∧ c.rendererInitialized = true) := by
  have hcb' : callback ∈ (if c.rendererInitialized && !c.terrainReadyNotified
      then c.frames ++ [.mapInfo c.attempt] else c.frames) := hcb
  cases hr : c.rendererInitialized with
  | false =>
    rw [hr] at hcb'
    exact Or.inl hcb'
  | true =>
    split at hcb'
    · rcases List.mem_append.mp hcb' with hmem | hmem
      · exact Or.inl hmem
      · exact Or.inr ⟨List.mem_singleton.mp hmem, rfl⟩
    · exact Or.inl hcb'

theorem Announced.mapInfo (h : c.Announced) (size : MapSize) :
    (c.handleMapInfo size).Announced where
  populated := rfl
  map := rfl
  renderer := h.renderer
  notified := h.notified
  past := h.past
  later := h.later
  due := h.due
  timers := h.timers
  frames callback hcb := by
    rcases mem_frames_mapInfo hcb with hcb | ⟨rfl, -⟩
    · exact h.frames callback hcb
    · exact Nat.le_refl _
  own callback hcb hown := by
    rcases mem_frames_mapInfo hcb with hcb | ⟨rfl, hr⟩
    · exact ⟨(h.own callback hcb hown).1, fun _ => rfl⟩
    · exact ⟨h.renderer ▸ hr, fun _ => rfl⟩
  pending _ hr hn := by
    have hr' : c.rendererInitialized = true := h.renderer.trans hr
    have hn' : c.terrainReadyNotified = false := hn
    show (if c.rendererInitialized && !c.terrainReadyNotified then _ else _
      : List FrameCallback) ≠ []
    simp [hr', hn']

theorem Announced.reset (h : c.Announced) :
    c.resetObserverStateForRetry.Announced where
  populated := rfl
  map := rfl
  renderer := rfl
  notified := h.later _ (Nat.lt_succ_self _)
  past := h.past
  later attempt hlt := h.later attempt (Nat.lt_of_succ_lt hlt)
  due := h.due
  timers k hk := Nat.le_succ_of_le (h.timers k hk)
  frames callback hcb := Nat.le_succ_of_le (h.frames callback hcb)
  own callback hcb hown := by
    have hle := h.frames callback hcb
    have hown' : callback.attempt = c.attempt + 1 := hown
    omega
  pending hmap := by cases hmap

theorem Announced.rendererInit (h : c.Announced) :
    c.handleRendererInit.Announced where
  populated := h.populated
  map := h.map
  renderer := h.renderer
  notified := h.notified
  past := h.past
  later := h.later
  due := h.due
  timers k hk := by
    rcases List.mem_append.mp hk with hk | hk
    · exact h.timers k hk
    · exact Nat.le_of_eq (List.mem_singleton.mp hk)
  frames := h.frames
  own := h.own
  pending := h.pending

-- ==== the runs

theorem Announced.step (h : c.Announced) {act : TerrainAct}
    (hc : c.Harmless act) (hs : c.step act = some c') : c'.Announced := by
  cases act with
  | mapInfo size =>
    cases hs
    exact h.mapInfo size
  | rendererInit =>
    cases hs
    exact h.rendererInit
  | timer i => exact h.timer hc hs
  | frame i => exact h.frame hc hs
  | reset =>
    cases hs
    exact h.reset

/-- While every callback of an earlier attempt finds the flags as they
will be anyway, the map's readiness is announced once an attempt. -/
theorem announcedOnce_of_harmless
    (h : terrainRuns.ReachVia Harmless c) : c.AnnouncedOnce := by
  apply Announced.announcedOnce
  apply h.invariant (I := Announced)
  · intro s hs
    cases hs
    exact announced_init
  · intro s act s' hI hC hs
    exact hI.step hC hs

/-- An attempt that fails between the timer and the map, and the next
one, whose map comes first. -/
def twoAttempts : List TerrainAct :=
  [.rendererInit, .timer 0, .frame 0, .reset, .mapInfo ⟨80, 50⟩,
    .rendererInit, .timer 0, .frame 0]

theorem announcedOnce_twoAttempts :
    ((terrainRuns.exec init twoAttempts).getD init).AnnouncedOnce :=
  announcedOnce_of_harmless
    (Lts.ReachVia.exec (.init rfl)
      (by decide : terrainRuns.Along Harmless init twoAttempts) rfl)

/-- The map comes when the renderer is there, and the attempt fails
before the frame. The frame announces a map without sizes in the next
attempt, whose own map is not announced any more. -/
theorem terrain_announced_early :
    ¬ ∀ c, terrainRuns.Reach c → c.AnnouncedOnce := by
  intro hall
  let acts : List TerrainAct :=
    [.rendererInit, .timer 0, .frame 0, .mapInfo ⟨80, 50⟩, .reset, .frame 0,
      .mapInfo ⟨80, 50⟩, .rendererInit, .timer 0, .frame 0]
  have hreach := Lts.Reach.exec_getD (T := terrainRuns) (.init rfl) acts
  have hdue := (hall _ hreach).due
    { attempt := 1, size := none, mapSeen := none, rendererSeen := false }
    (by decide)
  cases hdue.renderer

end TerrainClient

end Freeciv3d.Web
