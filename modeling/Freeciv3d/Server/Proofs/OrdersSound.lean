/-
Orders that were taken over can be executed, and orders that were refused
leave no trace: where this holds.

# What goes wrong

- `handle_unit_orders` ends the activity of the unit, and with it its old
  orders, before it looks at the new list.
- `unit_order_list_is_sane` lets pass an order of kind `ORDER_LAST`, an
  activity above `ACTIVITY_LAST`, and any sub target of an action that has
  none, or has a building, a technology or an extra it can choose itself.
- `execute_orders` advances the index before it executes an order, and
  wraps it after. When the last order of a list that repeats ends in a
  fight, it returns in between.
- The loop goes on after an order in which the orders were freed.

# What is kept

The list of a unit that has orders keeps its length, its index is in it,
and every order in it is of a kind, with an action that exists
(`UnitOk`). A round keeps this unless the last order ends in a fight
(`unitOk_runOrder`).
-/
import Freeciv3d.Server.UnitOrders

namespace Freeciv3d.Server

open Lib

variable {W : Type} (G : OrderRules W)

-- ==== the property

/-- The four things a refused packet must not change. -/
structure Untouched (u v : OrdUnit) : Prop where
  activity : v.activity = u.activity
  orders : v.hasOrders = u.hasOrders ∧ v.orders = u.orders
  gotoTile : v.gotoTile = u.gotoTile
  doneMoving : v.doneMoving = u.doneMoving

/-- The packet is refused before its orders are looked at. -/
def RefusedEarly (u : OrdUnit) (p : UnitOrdersPacket) : Prop :=
  0 > p.length ∨ maxLenRoute < p.length ∨
    indexToTile G p.srcTile ≠ some u.tile

/-- No assertion has failed, every order was read inside its list, and
the next one will be. -/
structure OrdersSound (s : OrderRun W) : Prop where
  failed : s.failed = []
  misread : s.misread = false
  index : ∀ u, s.unit = some u → u.hasOrders = true →
    u.orders.index < u.orders.length

-- ==== the condition

/-- The move of an order succeeds, and the unit is elsewhere, with its
orders. -/
def EndsInFight (w : W) (u : OrdUnit) (o : UnitOrder) (d : Deed W) :
    Prop :=
  ∃ dstTile, G.mapstep u.tile o.dir = some dstTile ∧
    (o.kind ≠ some .actionMove && G.enemyInWay w u dstTile) = false ∧
    d.dies = false ∧ d.freed = false ∧ d.res = true ∧ dstTile ≠ d.tile

/-- What the executor expects of an order it executes: a kind, the sentry
activity, a sub target that is none or may be an extra if it is looked
up. -/
def OrderFine (w : W) (u : OrdUnit) (o : UnitOrder) : Prop :=
  o.kind ≠ some .last ∧
    (o.kind = some .activity → enumOf o.activity = activitySentry) ∧
    (o.kind = some .performAction → ∀ oaction dstTile,
      G.action o.action = some oaction →
      indexToTile G o.target = some dstTile →
      hasMainTarget G w u oaction dstTile = true →
      o.subTarget = noTarget ∨
        (0 ≤ o.subTarget ∧ o.subTarget < maxExtraTypes))

/-- A round that reads an order has orders to read, the order is one the
executor expects, and it is no fight at the end of a list that repeats. -/
def OrderlyRound (w : W) (u : OrdUnit) (movesMade : Nat) (d : Deed W) :
    Prop :=
  loopHead G w u movesMade = .reads → u.hasOrders = true ∧
    ∀ o, u.orders.list[u.orders.index]? = some o →
      orderWaits G w u o = false →
      OrderFine G w (advanceOrders u) o ∧
        ¬ ((o.kind = some .move ∨ o.kind = some .actionMove) ∧
          u.orders.index + 1 = u.orders.length ∧
          u.orders.repeats = true ∧ EndsInFight G w (advanceOrders u) o d)

def OrderlyOrders (s : OrderRun W) : OrderEvent W → Prop
  | .round d => ∀ u movesMade, s.unit = some u →
      s.loop = some movesMade → OrderlyRound G s.world u movesMade d
  | _ => True

-- ==== what is kept

/-- An order of a kind, with an action that exists. -/
def StoredOk (o : UnitOrder) : Prop :=
  o.kind ≠ none ∧
    (o.kind = some .performAction → (G.action o.action).isSome = true)

/-- The orders of a unit that has orders. -/
structure UnitOk (u : OrdUnit) : Prop where
  length : u.hasOrders = true → u.orders.list.length = u.orders.length
  index : u.hasOrders = true → u.orders.index < u.orders.length
  stored : u.hasOrders = true → ∀ o ∈ u.orders.list, StoredOk G o

/-- The orders are those of `u`, or gone. -/
def KeepsOrders (u v : OrdUnit) : Prop :=
  v.hasOrders = true → u.hasOrders = true ∧ v.orders = u.orders

theorem unitOk_of_no_orders {u : OrdUnit} (h : u.hasOrders = false) :
    UnitOk G u where
  length ho := absurd (h.symm.trans ho) Bool.false_ne_true
  index ho := absurd (h.symm.trans ho) Bool.false_ne_true
  stored ho := absurd (h.symm.trans ho) Bool.false_ne_true

theorem UnitOk.keeps {u v : OrdUnit} (hu : UnitOk G u)
    (h : KeepsOrders u v) : UnitOk G v where
  length ho := by
    rw [(h ho).2]
    exact hu.length (h ho).1
  index ho := by
    rw [(h ho).2]
    exact hu.index (h ho).1
  stored ho := by
    rw [(h ho).2]
    exact hu.stored (h ho).1

theorem keeps_refl (u : OrdUnit) : KeepsOrders u u := fun h => ⟨h, rfl⟩

theorem keeps_freed (u : OrdUnit) : KeepsOrders u (freeUnitOrders u) :=
  fun h => absurd h Bool.false_ne_true

/-- Whatever happens to a unit, it gets no other orders. -/
theorem keeps_on (d : Deed W) (u : OrdUnit) : KeepsOrders u (d.on u) := by
  intro h
  unfold Deed.on at h ⊢
  split at h
  · exact absurd h Bool.false_ne_true
  · next hfreed =>
      rw [if_neg hfreed]
      exact ⟨h, rfl⟩

theorem freed_of_on {d : Deed W} {u : OrdUnit}
    (h : (d.on u).hasOrders = true) : d.freed = false := by
  unfold Deed.on at h
  split at h
  · exact absurd h Bool.false_ne_true
  · next hfreed => exact Bool.eq_false_iff.mpr hfreed

-- ==== the packet

theorem storedOk_of_sane {isLast : Bool} {o : UnitOrder}
    (h : unitOrderIsSane G isLast o = true) : StoredOk G o := by
  unfold unitOrderIsSane at h
  constructor
  · intro hk
    rw [hk] at h
    exact absurd h Bool.false_ne_true
  · intro hk
    rw [hk] at h
    cases ha : G.action o.action with
    | none =>
      rw [ha] at h
      exact absurd h Bool.false_ne_true
    | some paction => rfl

theorem stored_of_sane {orders : List UnitOrder}
    (h : unitOrderListIsSane G orders = true) :
    ∀ o ∈ orders, StoredOk G o := by
  induction orders with
  | nil =>
    intro o ho
    exact absurd ho List.not_mem_nil
  | cons first rest ih =>
    obtain ⟨hfirst, hrest⟩ := Bool.and_eq_true_iff.mp h
    intro o ho
    rcases List.mem_cons.mp ho with rfl | ho
    · exact storedOk_of_sane G hfirst
    · exact ih hrest o ho

theorem unitOk_storeOrders {u : OrdUnit} {p : UnitOrdersPacket}
    {list : List UnitOrder} (h0 : 0 ≤ p.length)
    (hlist : list.length = p.length.toNat)
    (hstored : ∀ o ∈ list, StoredOk G o) :
    UnitOk G (storeOrders G u p list) := by
  unfold storeOrders
  split
  · exact unitOk_of_no_orders G rfl
  · next hne =>
      exact
        { length := fun _ => hlist
          index := fun _ => by
            show 0 < p.length.toNat
            omega
          stored := fun _ => hstored }

theorem unitActivityIdle_hasOrders (u : OrdUnit) :
    (unitActivityIdle u).hasOrders = false := rfl

theorem unitOk_handle {u : OrdUnit} (hu : UnitOk G u)
    (p : UnitOrdersPacket) : UnitOk G (handleUnitOrders G u p).unit := by
  unfold handleUnitOrders
  split
  · exact hu
  · next hlength =>
      split
      · exact hu
      · dsimp only
        have hidle : UnitOk G
            (if u.activity ≠ activityIdle then unitActivityIdle u else u) := by
          split
          · exact unitOk_of_no_orders G (unitActivityIdle_hasOrders u)
          · exact hu
        split
        · next hzero =>
            apply unitOk_storeOrders G (by omega)
            · rw [hzero]
              rfl
            · intro o ho
              exact absurd ho List.not_mem_nil
        · cases hc : createUnitOrders G
              ((List.range p.length.toNat).map p.orders) with
          | none => exact hidle
          | some list =>
            unfold createUnitOrders at hc
            split at hc
            · next hsane =>
                cases hc
                apply unitOk_storeOrders G (by omega)
                · rw [List.length_map, List.length_range]
                · exact stored_of_sane G hsane
            · cases hc

/-- A packet that is refused leaves the unit as it was if it was idle, or
if the packet did not even get as far as its orders. -/
theorem untouched_iff {u : OrdUnit} {p : UnitOrdersPacket}
    (h : (handleUnitOrders G u p).rejected = true) :
    Untouched u (handleUnitOrders G u p).unit ↔
      RefusedEarly G u p ∨ u.activity = activityIdle := by
  unfold handleUnitOrders at h ⊢
  unfold RefusedEarly
  have hself : Untouched u u := ⟨rfl, ⟨rfl, rfl⟩, rfl, rfl⟩
  split at h
  · next hlength =>
      rw [if_pos hlength]
      exact iff_of_true hself (.inl (hlength.imp_right .inl))
  · next hlength =>
      rw [if_neg hlength]
      split at h
      · next htile =>
          rw [if_pos htile]
          exact iff_of_true hself (.inl (.inr (.inr htile)))
      · next htile =>
          rw [if_neg htile]
          have hlate : ¬ (0 > p.length ∨ maxLenRoute < p.length ∨
              indexToTile G p.srcTile ≠ some u.tile) := by
            rintro (h | h | h)
            · exact hlength (.inl h)
            · exact hlength (.inr h)
            · exact htile h
          dsimp only at h ⊢
          split at h
          · exact absurd h Bool.false_ne_true
          · next hzero =>
              rw [if_neg hzero]
              cases hc : createUnitOrders G
                  ((List.range p.length.toNat).map p.orders) with
              | some list =>
                rw [hc] at h
                exact absurd h Bool.false_ne_true
              | none =>
                by_cases hidle : u.activity = activityIdle
                · rw [if_neg (not_not_intro hidle)]
                  exact iff_of_true hself (.inr hidle)
                · rw [if_pos hidle]
                  constructor
                  · intro hu
                    exact absurd hu.activity.symm hidle
                  · rintro (h | h)
                    · exact absurd h hlate
                    · exact absurd h hidle

-- ==== one order

/-- What an order may leave of the orders: it keeps them or frees them,
and frees them when it returns, unless in a fight. -/
def LeavesOrders (w : W) (u : OrdUnit) (o : UnitOrder) (d : Deed W)
    (done : OrderDone W) : Prop :=
  ∀ v, done.unit = some v → KeepsOrders u v ∧
    (done.goesOn = false → v.hasOrders = true →
      (o.kind = some .move ∨ o.kind = some .actionMove) ∧
        EndsInFight G w u o d)

theorem leaves_cancel {w w' : W} {u v : OrdUnit} {o : UnitOrder}
    {d : Deed W} (failed : List OrderAssert) :
    LeavesOrders G w u o d
      { cancelOrders w' v with failed := failed } := by
  intro x hx
  cases hx
  exact ⟨fun h => absurd h Bool.false_ne_true,
    fun _ h => absurd h Bool.false_ne_true⟩

theorem leaves_goesOn {w w' : W} {u v : OrdUnit} {o : UnitOrder}
    {d : Deed W} {failed : List OrderAssert} (h : KeepsOrders u v) :
    LeavesOrders G w u o d ⟨some v, w', true, failed⟩ := by
  intro x hx
  cases hx
  exact ⟨h, nofun⟩

theorem leaves_dead {w w' : W} {u : OrdUnit} {o : UnitOrder} {d : Deed W}
    {failed : List OrderAssert} :
    LeavesOrders G w u o d ⟨none, w', false, failed⟩ := by
  intro x hx
  cases hx

theorem leaves_move {w : W} {u : OrdUnit} {o : UnitOrder} {d : Deed W}
    (hk : o.kind = some .move ∨ o.kind = some .actionMove) :
    LeavesOrders G w u o d (doMove G w u o d) := by
  unfold doMove
  split
  · exact leaves_cancel G _
  · next dstTile hstep =>
      split
      · exact leaves_cancel G _
      · next hway =>
          dsimp only
          split
          · exact leaves_dead G
          · next hdies =>
              split
              · next hfight =>
                  intro v hv
                  cases hv
                  refine ⟨keeps_on d u, fun _ ho => ⟨hk, dstTile, hstep,
                    Bool.eq_false_iff.mpr hway, Bool.eq_false_iff.mpr hdies,
                    freed_of_on ho, ?_⟩⟩
                  obtain ⟨hres, hne⟩ := Bool.and_eq_true_iff.mp hfight
                  exact ⟨hres, of_decide_eq_true hne⟩
              · split
                · exact leaves_cancel G _
                · exact leaves_goesOn G (keeps_on d u)

theorem leaves_perform {w : W} {u : OrdUnit} {o : UnitOrder}
    {oaction : ActionRule} {d : Deed W} :
    LeavesOrders G w u o d (doPerformAction G w u o oaction d) := by
  unfold doPerformAction
  split
  · exact leaves_cancel G _
  · next dstTile _ =>
      split
      · exact leaves_cancel G _
      · dsimp only
        unfold performOn
        split
        · exact leaves_goesOn G (keeps_refl u)
        · split
          · exact leaves_cancel G _
          · dsimp only
            split
            · exact leaves_dead G
            · split
              · exact leaves_cancel G _
              · split
                · exact leaves_goesOn G (keeps_on d u)
                · exact leaves_goesOn G (keeps_on d u)

theorem leaves_order (w : W) (u : OrdUnit) (o : UnitOrder) (d : Deed W) :
    LeavesOrders G w u o d (doOrder G w u o d) := by
  unfold doOrder
  split
  · exact leaves_goesOn G (keeps_refl u)
  · unfold doActivity
    dsimp only
    split
    · exact leaves_goesOn G (keeps_refl u)
    · exact leaves_cancel G _
  · next hk => exact leaves_move G (.inl hk)
  · next hk => exact leaves_move G (.inr hk)
  · split
    · exact leaves_goesOn G (keeps_refl u)
    · exact leaves_perform G
  · exact leaves_cancel G _
  · exact leaves_goesOn G (keeps_refl u)

theorem doMove_failed (w : W) (u : OrdUnit) (o : UnitOrder) (d : Deed W) :
    (doMove G w u o d).failed = [] := by
  unfold doMove
  split
  · rfl
  · split
    · rfl
    · dsimp only
      split
      · rfl
      · split
        · rfl
        · split <;> rfl

theorem performOn_failed (w : W) (u : OrdUnit) (o : UnitOrder)
    (oaction : ActionRule) (dstTile : Nat) (pextra : Option Nat)
    (d : Deed W) :
    (performOn G w u o oaction dstTile pextra d).failed = [] := by
  unfold performOn
  split
  · rfl
  · split
    · rfl
    · dsimp only
      split
      · rfl
      · split
        · rfl
        · split <;> rfl

theorem subTargetId_fits {w : W} {u : OrdUnit} {oaction : ActionRule}
    {o : UnitOrder} (h : o.subTarget = noTarget ∨
      (0 ≤ o.subTarget ∧ o.subTarget < maxExtraTypes)) :
    (extraByNumber (subTargetId G w u oaction o)).2 = [] := by
  have hfits : subTargetId G w u oaction o = noTarget ∨
      (0 ≤ subTargetId G w u oaction o ∧
        subTargetId G w u oaction o < maxExtraTypes) := by
    unfold subTargetId
    split
    · split
      · exact .inl rfl
      · next e _ => exact .inr ⟨Int.natCast_nonneg _, Int.ofNat_lt.mpr e.isLt⟩
    · exact h
  unfold extraByNumber
  rcases hfits with hnone | hin
  · rw [if_pos hnone]
  · split
    · rfl
    · rfl

theorem doPerformAction_failed {w : W} {u : OrdUnit} {o : UnitOrder}
    {oaction : ActionRule} {d : Deed W}
    (h : ∀ dstTile, indexToTile G o.target = some dstTile →
      hasMainTarget G w u oaction dstTile = true →
      o.subTarget = noTarget ∨
        (0 ≤ o.subTarget ∧ o.subTarget < maxExtraTypes)) :
    (doPerformAction G w u o oaction d).failed = [] := by
  unfold doPerformAction
  split
  · rfl
  · next dstTile htile =>
      split
      · rfl
      · next hmain =>
          dsimp only
          rw [performOn_failed, subTargetId_fits G (h dstTile htile ?_)]
          · rfl
          · simpa using hmain

theorem doOrder_failed {w : W} {u : OrdUnit} {o : UnitOrder} {d : Deed W}
    (hf : OrderFine G w u o) (hs : StoredOk G o) :
    (doOrder G w u o d).failed = [] := by
  obtain ⟨hlast, hsentry, hsub⟩ := hf
  unfold doOrder
  split
  · rfl
  · next hk =>
      unfold doActivity
      dsimp only
      rw [if_pos (hsentry hk)]
      split <;> rfl
  · exact doMove_failed G w u o d
  · exact doMove_failed G w u o d
  · next hk =>
      cases ha : G.action o.action with
      | none =>
        have hsome := hs.2 hk
        rw [ha] at hsome
        exact absurd hsome Bool.false_ne_true
      | some oaction =>
        exact doPerformAction_failed G
          fun dstTile => hsub hk oaction dstTile ha
  · next hk => exact absurd hk hlast
  · rfl

-- ==== one round

theorem advanceOrders_last {u : OrdUnit} (h : isLastOrder u = true) :
    (advanceOrders u).hasOrders = false := by
  unfold advanceOrders
  rw [if_pos h]
  rfl

theorem advanceOrders_more {u : OrdUnit} (h : isLastOrder u = false) :
    advanceOrders u =
      { u with orders :=
        { u.orders with index := u.orders.index + 1 } } := by
  unfold advanceOrders
  rw [h]
  rfl

theorem unitOk_at {u v : OrdUnit} {i : Nat} (hu : UnitOk G u)
    (hv : v.hasOrders = true → u.hasOrders = true ∧
      v.orders = { u.orders with index := i })
    (hi : v.hasOrders = true → i < u.orders.length) : UnitOk G v where
  length ho := by
    obtain ⟨huo, heq⟩ := hv ho
    rw [heq]
    exact hu.length huo
  index ho := by
    obtain ⟨-, heq⟩ := hv ho
    rw [heq]
    exact hi ho
  stored ho := by
    obtain ⟨huo, heq⟩ := hv ho
    rw [heq]
    exact hu.stored huo

theorem unitOk_wrap {u v : OrdUnit} (hu : UnitOk G u)
    (hv : v.hasOrders = true → u.hasOrders = true ∧
      v.orders = { u.orders with index := u.orders.index + 1 }) :
    UnitOk G (wrapOrders v) := by
  unfold wrapOrders
  split
  · apply unitOk_at G (i := 0) hu
    · intro ho
      obtain ⟨huo, heq⟩ := hv ho
      exact ⟨huo, by rw [heq]⟩
    · intro ho
      have hindex := hu.index (hv ho).1
      omega
  · next hne =>
      apply unitOk_at G hu hv
      intro ho
      obtain ⟨huo, heq⟩ := hv ho
      have hindex := hu.index huo
      rw [heq] at hne
      dsimp only at hne
      omega

/-- The invariant of a run. -/
structure OrdersOk (s : OrderRun W) : Prop where
  failed : s.failed = []
  misread : s.misread = false
  unit : ∀ u, s.unit = some u → UnitOk G u

theorem OrdersOk.sound {s : OrderRun W} (h : OrdersOk G s) :
    OrdersSound s :=
  ⟨h.failed, h.misread, fun u hu => (h.unit u hu).index⟩

theorem ok_runOrder {s : OrderRun W} {u : OrdUnit} {movesMade : Nat}
    {o : UnitOrder} {d : Deed W} (hok : OrdersOk G s)
    (hu : s.unit = some u) (hs : StoredOk G o) (ho : u.hasOrders = true)
    (hc : orderWaits G s.world u o = false →
      OrderFine G s.world (advanceOrders u) o ∧
        ¬ ((o.kind = some .move ∨ o.kind = some .actionMove) ∧
          u.orders.index + 1 = u.orders.length ∧ u.orders.repeats = true ∧
          EndsInFight G s.world (advanceOrders u) o d)) :
    OrdersOk G (s.runOrder G u movesMade o d) := by
  have hunit : UnitOk G u := hok.unit u hu
  unfold OrderRun.runOrder
  split
  · next hmissing =>
      obtain ⟨hk, hnone⟩ := Bool.and_eq_true_iff.mp hmissing
      have hsome := hs.2 (of_decide_eq_true hk)
      rw [Option.isNone_iff_eq_none.mp hnone] at hsome
      exact absurd hsome Bool.false_ne_true
  · split
    · exact ⟨hok.failed, hok.misread, hok.unit⟩
    · next hwaits =>
        obtain ⟨hfine, hfight⟩ := hc (Bool.eq_false_iff.mpr hwaits)
        have hleaves := leaves_order G s.world (advanceOrders u) o d
        refine ⟨?_, hok.misread, ?_⟩
        · show s.failed ++ _ = []
          rw [hok.failed, doOrder_failed G hfine hs]
          rfl
        · intro v hv
          dsimp only at hv
          cases hlast : isLastOrder u with
          | true =>
            rw [hlast, Bool.not_true, Bool.and_false,
              if_neg Bool.false_ne_true] at hv
            apply unitOk_of_no_orders G
            rw [Bool.eq_false_iff]
            intro hvo
            have hgone := ((hleaves v hv).1 hvo).1
            rw [advanceOrders_last hlast] at hgone
            exact Bool.false_ne_true hgone
          | false =>
            rw [hlast, Bool.not_false, Bool.and_true] at hv
            split at hv
            · obtain ⟨x, hx, rfl⟩ := Option.map_eq_some_iff.mp hv
              have hkeep := (hleaves x hx).1
              rw [advanceOrders_more hlast] at hkeep
              exact unitOk_wrap G hunit hkeep
            · next hback =>
                obtain ⟨hkeep, hends⟩ := hleaves v hv
                have hends := hends (Bool.eq_false_iff.mpr hback)
                rw [advanceOrders_more hlast] at hkeep
                apply unitOk_at G hunit hkeep
                intro hvo
                obtain ⟨hmove, hends⟩ := hends hvo
                have hindex := hunit.index ho
                have hmore : u.orders.index + 1 ≠ u.orders.length := by
                  intro hend
                  cases hr : u.orders.repeats with
                  | true => exact hfight ⟨hmove, hend, hr, hends⟩
                  | false =>
                    unfold isLastOrder at hlast
                    rw [hr, decide_eq_true hend] at hlast
                    exact absurd hlast.symm Bool.false_ne_true
                omega

theorem keeps_of_returns {w : W} {u v : OrdUnit} {movesMade : Nat}
    (h : loopHead G w u movesMade = .returns v) : KeepsOrders u v := by
  unfold loopHead at h
  split at h
  · cases h
    exact keeps_refl u
  · split at h
    · cases h
      exact keeps_freed u
    · split at h
      · cases h
        exact keeps_refl u
      · cases h

theorem ok_round {s : OrderRun W} {u : OrdUnit} {movesMade : Nat}
    {d : Deed W} (hok : OrdersOk G s) (hu : s.unit = some u)
    (hc : OrderlyRound G s.world u movesMade d) :
    OrdersOk G (s.round G u movesMade d) := by
  have hunit : UnitOk G u := hok.unit u hu
  unfold OrderRun.round
  cases hhead : loopHead G s.world u movesMade with
  | returns v =>
    refine ⟨hok.failed, hok.misread, ?_⟩
    intro x hx
    cases hx
    exact hunit.keeps G (keeps_of_returns G hhead)
  | reads =>
    obtain ⟨ho, horder⟩ := hc hhead
    have hin : u.orders.index < u.orders.list.length := by
      rw [hunit.length ho]
      exact hunit.index ho
    rw [List.getElem?_eq_getElem hin]
    exact ok_runOrder G hok hu
      (hunit.stored ho _ (List.getElem_mem hin)) ho
      (horder _ (List.getElem?_eq_getElem hin))

theorem ok_startLoop {s : OrderRun W} {u : OrdUnit} (hok : OrdersOk G s)
    (hu : UnitOk G u) : OrdersOk G (s.startLoop u) := by
  unfold OrderRun.startLoop
  split
  · refine ⟨hok.failed, hok.misread, ?_⟩
    intro v hv
    cases hv
    exact ⟨hu.length, hu.index, hu.stored⟩
  · refine ⟨hok.failed, hok.misread, ?_⟩
    intro v hv
    cases hv
    exact hu

theorem ok_step {s s' : OrderRun W} {a : OrderEvent W}
    (hok : OrdersOk G s) (hc : OrderlyOrders G s a)
    (h : (orderRuns G).step s a = some s') : OrdersOk G s' := by
  change s.step G a = some s' at h
  unfold OrderRun.step at h
  cases a with
  | packet p =>
    dsimp only at h
    split at h
    · next u hu _ =>
        have hhandled := unitOk_handle G (hok.unit u hu) p
        split at h
        · cases h
          refine ⟨hok.failed, hok.misread, ?_⟩
          intro v hv
          cases hv
          exact hhandled
        · cases h
          exact ok_startLoop G hok hhandled
    · cases h
  | execute =>
    dsimp only at h
    split at h
    · next u hu _ =>
        split at h
        · cases h
          exact ok_startLoop G hok (hok.unit u hu)
        · cases h
    · cases h
  | round d =>
    dsimp only at h
    split at h
    · next u movesMade hu hl =>
        cases h
        exact ok_round G hok hu (hc u movesMade hu hl)
    · cases h
  | other d =>
    dsimp only at h
    split at h
    · next u hu _ =>
        cases h
        refine ⟨hok.failed, hok.misread, ?_⟩
        intro v hv
        split at hv
        · cases hv
        · cases hv
          exact (hok.unit u hu).keeps G (keeps_on d u)
    · cases h

theorem ok_fresh (w : W) (tile : Nat) (movesLeft : Int) :
    OrdersOk G (.fresh w tile movesLeft) := by
  refine ⟨rfl, rfl, ?_⟩
  intro u hu
  cases hu
  exact unitOk_of_no_orders G rfl

/-- A world of ten tiles in a row, with one action: to stay and fortify. -/
def rowOfTiles : OrderRules Unit where
  mapIndexSize := 10
  mapstep tile _ := if tile < 9 then some (tile + 1) else none
  dirIsValid dir := dir = 4
  numExtraTypes := 0
  extrasFit := by decide
  isImprovement _ := false
  isAdvance _ := false
  action id := if id = 0 then some
    { subTargetKind := .nothing, targetKind := .self, isFlexible := false,
      consumesActor := false, leavesActor := true, movesToTarget := false,
      fortifies := true, removesExtra := fun _ => false,
      createsExtra := fun _ => false } else none
  isPlayerPhase _ := true
  canDoActivity _ _ _ := true
  enemyNear _ _ := false
  enemyInWay _ _ _ := false
  actionMpFullMakesLegal _ _ _ := false
  unitMoveRate _ _ := 3
  tileHasCity _ _ := false
  tileHasTarget _ _ _ := false
  subTargetForAction _ _ _ := none
  tileHasExtra _ _ _ := false
  isPossible _ _ _ _ _ _ := true
  isInstant _ _ _ _ _ := true

def moveEast : UnitOrder where
  order := 0
  activity := 0
  target := 0
  subTarget := -1
  action := 0
  dir := 4

def ordersOf (length : Int) (repeats : Bool) (o : UnitOrder) :
    UnitOrdersPacket where
  srcTile := 0
  length := length
  repeats := repeats
  vigilant := false
  orders _ := o
  destTile := 9

/-- The unit is on a tile afterwards, alive and idle. -/
def arrives (tile : Nat) : Deed Unit where
  world := ()
  dies := false
  freed := false
  activity := activityIdle
  tile := tile
  movesLeft := 1
  doneMoving := false
  res := true

end Freeciv3d.Server
