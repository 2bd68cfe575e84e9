/-
When the orders a click sends lead to the tile: if no unit moves while
the client has a path of it, exactly those of one unit alone get the last
order of the goto, and all of them when there is none.

# The paths

A reply leads from where the unit is at the server. Between server and
client nothing overtakes (`InboxLeads`), so it leads from where the client
has the unit when it comes, and until the unit moves (`Cached`). Nothing
takes a path out of the map then but the end of the goto.

# The last order

It is cleared after the first unit. In an attack it takes the place of
the last step, so there must be one.
-/
import Mathlib.Data.List.Basic
import Freeciv3d.Web.GotoOrders

namespace Freeciv3d.Web

open Lib

-- ==== the statement

def MapGrid.walkOrders (m : MapGrid) (tile : Nat) :
    List UnitOrder → Option Nat
  | [] => some tile
  | order :: rest =>
    match order.order with
    | .move | .actionMove =>
      (m.mapstep tile order.dir).bind fun next => m.walkOrders next rest
    | _ => m.walkOrders tile rest

namespace GotoClient

/-- The orders end with the last order of the goto, on the tile or, if it
wants a direction, one step before it. -/
def EndsIn (c : GotoClient) (ptile tile : Nat) (orders : List UnitOrder) :
    Prop :=
  ∃ final ∈ orders.getLast?,
    final.order = c.gotoLastOrder ∧ final.action = c.gotoLastAction
      ∧ final.target = ptile
      ∧ (if c.orderWantsDirection ptile = true then
          (c.map.walkOrders tile orders.dropLast).bind fun before =>
            c.map.mapstep before final.dir
        else c.map.walkOrders tile orders.dropLast) = some ptile

instance (c : GotoClient) (ptile tile : Nat) (orders : List UnitOrder) :
    Decidable (c.EndsIn ptile tile orders) :=
  inferInstanceAs (Decidable (∃ _ ∈ _, _))

/-- The packet leads its unit from where it is to the tile, with the last
order of the goto if there is one. -/
def OrdersLead (c : GotoClient) (ptile : Nat) (packet : OrdersPacket) :
    Prop :=
  packet.length = packet.orders.length
    ∧ ∃ tile ∈ c.units.get? packet.unitId,
      if c.gotoLastOrder = .last then
        c.map.walkOrders tile packet.orders = some ptile
      else c.EndsIn ptile tile packet.orders

instance (c : GotoClient) (ptile : Nat) :
    DecidablePred (c.OrdersLead ptile) := fun _ =>
  inferInstanceAs (Decidable (_ ∧ ∃ _ ∈ _, _))

-- ==== the condition

/-- The units that get orders: their tiles, and the paths they have. -/
def ordered (c : GotoClient) (ptile : Nat) :
    List (Nat × Nat) → List (Nat × GotoPath)
  | [] => []
  | (unitId, tile) :: rest =>
    match c.gotoRequestMap.get? (c.key unitId ptile) with
    | none => c.ordered ptile rest
    | some .requested => []
    | some (.path path) => (tile, path) :: c.ordered ptile rest

def clicked (c : GotoClient) (ptile : Nat) : Bool :=
  !c.observer && !c.activeCity && !c.onFocusTile ptile && c.gotoActive

/-- If the goto has a last order, one unit at most gets orders; and if
this order wants a direction, the path ends with a step. -/
def FinalOrderFits (c : GotoClient) (ptile : Nat) : Prop :=
  c.clicked ptile = true → c.gotoLastOrder ≠ .last →
    (c.ordered ptile c.unitsInFocus).length ≤ 1
      ∧ (c.orderWantsDirection ptile = true →
        ∀ entry ∈ c.ordered ptile c.unitsInFocus,
          ∃ dir ∈ entry.2.dir.getLast?, dir ≠ -1)

instance (c : GotoClient) : DecidablePred c.FinalOrderFits := fun _ =>
  inferInstanceAs (Decidable (_ → _ → _))

end GotoClient

def GotoEntry.isPathOf (unitId : Nat) : GotoEntry → Bool
  | .requested => false
  | .path found => found.unitId == unitId

/-- The message moves no unit that the client has a path of. -/
def GotoClient.Stands (c : GotoClient) : ServerMessage → Prop
  | .unitInfo unitId tile =>
    c.units.get? unitId = some tile
      ∨ ∀ entry ∈ c.gotoRequestMap.values, entry.isPathOf unitId = false
  | _ => True

instance (c : GotoClient) : DecidablePred c.Stands
  | .unitInfo _ _ => inferInstanceAs (Decidable (_ ∨ _))
  | .unitRemove _ | .gotoPath _ => instDecidableTrue

/-- No unit moves while the client has a path of it. -/
def GotoSystem.Still (s : GotoSystem) : GotoAct → Prop
  | .receive => ∀ message ∈ s.inbox.head?, s.client.Stands message
  | _ => True

instance (s : GotoSystem) : DecidablePred s.Still
  | .receive => inferInstanceAs (Decidable (∀ _ ∈ _, _))
  | .serverMoves _ _ | .serverRemoves _ | .serverReplies _ | .setFocus _
  | .advanceFocus _ | .settings _ _ _ _ | .activateGoto _ | .deactivateGoto
  | .clearSelection | .hover _ | .touchMove _ | .click _ => instDecidableTrue

-- ==== the orders

namespace MapGrid

variable (m : MapGrid)

theorem walkOrders_append (tile : Nat) (l l' : List UnitOrder) :
    m.walkOrders tile (l ++ l')
      = (m.walkOrders tile l).bind fun next => m.walkOrders next l' := by
  induction l generalizing tile with
  | nil => rfl
  | cons order rest ih =>
    simp only [List.cons_append, walkOrders]
    split
    all_goals simp only [ih, Option.bind_assoc]

/-- The orders of a path move along it. -/
def Follows (order : UnitOrder) (dir : Int) : Prop :=
  order.dir = dir
    ∧ if dir = -1 then order.order = .fullMp
      else order.order = .move ∨ order.order = .actionMove

theorem walkOrders_mapIdx {f : Nat → Int → UnitOrder}
    (hf : ∀ i dir, Follows (f i dir) dir) (tile : Nat) (l : List Int) :
    m.walkOrders tile (l.mapIdx f) = m.walk tile l := by
  induction l generalizing f tile with
  | nil => rfl
  | cons dir rest ih =>
    obtain ⟨hdir, hkind⟩ := hf 0 dir
    rw [List.mapIdx_cons]
    simp only [walkOrders, walk]
    split at hkind
    case isTrue hwait =>
      simp only [hkind, if_pos hwait]
      exact ih (fun i => hf (i + 1)) tile
    case isFalse hmove =>
      simp only [if_neg hmove]
      rcases hkind with hkind | hkind
      all_goals
        simp only [hkind, hdir]
        congr 1
        funext next
        exact ih (fun i => hf (i + 1)) next

theorem walkOrders_singleton {order : UnitOrder} {dir : Int}
    (h : Follows order dir) (hmove : dir ≠ -1) (tile : Nat) :
    m.walkOrders tile [order] = m.mapstep tile dir := by
  obtain ⟨hdir, hkind⟩ := h
  rw [if_neg hmove] at hkind
  simp only [walkOrders]
  rcases hkind with hkind | hkind
  all_goals
    simp only [hkind, hdir]
    cases m.mapstep tile dir <;> rfl

theorem mapstep_wait (tile : Nat) : m.mapstep tile (-1) = none := by
  unfold mapstep isValidDir
  simp

end MapGrid

namespace GotoClient

variable {c : GotoClient} {ptile : Nat}

def pathOrder (length i : Nat) (dir : Int) : UnitOrder :=
  { emptyOrder with
    order :=
      if dir = -1 then .fullMp
      else if i + 1 ≠ length then .move
      else .actionMove
    dir }

theorem pathOrders_eq (dir : List Int) :
    pathOrders dir = dir.mapIdx (pathOrder dir.length) := rfl

theorem follows_pathOrder (length i : Nat) (dir : Int) :
    MapGrid.Follows (pathOrder length i dir) dir := by
  refine ⟨rfl, ?_⟩
  unfold pathOrder
  split
  case isTrue => rfl
  case isFalse =>
    split
    · exact Or.inl rfl
    · exact Or.inr rfl

theorem walkOrders_pathOrders (m : MapGrid) (tile : Nat)
    (dir : List Int) :
    m.walkOrders tile (pathOrders dir) = m.walk tile dir :=
  m.walkOrders_mapIdx (follows_pathOrder dir.length) tile dir

theorem length_pathOrders (dir : List Int) :
    (pathOrders dir).length = dir.length := List.length_mapIdx

theorem getLast?_pathOrders (dir : List Int) :
    (pathOrders dir).getLast?
      = dir.getLast?.map (pathOrder dir.length (dir.length - 1)) := by
  rw [pathOrders_eq, List.getLast?_mapIdx]

theorem pathOrders_split {dir : List Int} {last : Int}
    (h : dir.getLast? = some last) :
    pathOrders dir = (pathOrders dir).dropLast
      ++ [pathOrder dir.length (dir.length - 1) last] := by
  have hlast : (pathOrders dir).getLast?
      = some (pathOrder dir.length (dir.length - 1) last) := by
    rw [getLast?_pathOrders, h]
    rfl
  exact (List.dropLast_append_getLast? _ hlast).symm

-- ==== the packets

theorem unitId_ordersPacket (unitId tile : Nat) (path : GotoPath) :
    (c.ordersPacket unitId tile path ptile).unitId = unitId := by
  unfold ordersPacket
  split
  · rfl
  · split <;> rfl

theorem length_ordersPacket (unitId tile : Nat) (path : GotoPath) :
    (c.ordersPacket unitId tile path ptile).length
        = (c.ordersPacket unitId tile path ptile).orders.length := by
  unfold ordersPacket
  dsimp only
  split
  · exact (length_pathOrders path.dir).symm
  split
  · cases hlast : (pathOrders path.dir).getLast? with
    | none =>
      have hempty : pathOrders path.dir = [] :=
        List.getLast?_eq_none_iff.mp hlast
      rw [← length_pathOrders, hempty]
    | some order =>
      have hsplit := congrArg List.length
        (List.dropLast_append_getLast? _ hlast)
      rw [List.length_append] at hsplit ⊢
      rw [← length_pathOrders]
      exact hsplit.symm
  · rw [List.length_append, length_pathOrders]
    rfl

theorem orders_of_last (hlast : c.gotoLastOrder = .last)
    (unitId tile : Nat) (path : GotoPath) :
    (c.ordersPacket unitId tile path ptile).orders = pathOrders path.dir := by
  unfold ordersPacket
  rw [if_pos hlast]

theorem orders_of_appended (hlast : c.gotoLastOrder ≠ .last)
    (hwants : c.orderWantsDirection ptile = false)
    (unitId tile : Nat) (path : GotoPath) :
    (c.ordersPacket unitId tile path ptile).orders
      = pathOrders path.dir ++ [c.finalOrder ptile (-1)] := by
  unfold ordersPacket
  rw [if_neg hlast, if_neg (by rw [hwants]; exact Bool.false_ne_true)]

theorem orders_of_replaced (hlast : c.gotoLastOrder ≠ .last)
    (hwants : c.orderWantsDirection ptile = true)
    (unitId tile : Nat) (path : GotoPath) :
    (c.ordersPacket unitId tile path ptile).orders
      = match path.dir.getLast? with
        | some last =>
          (pathOrders path.dir).dropLast ++ [c.finalOrder ptile last]
        | none => [] := by
  unfold ordersPacket
  rw [if_neg hlast, if_pos hwants, getLast?_pathOrders]
  cases path.dir.getLast? <;> rfl

theorem endsIn_append (orders : List UnitOrder) (tile : Nat) (dir : Int) :
    c.EndsIn ptile tile (orders ++ [c.finalOrder ptile dir])
      ↔ (if c.orderWantsDirection ptile = true then
          (c.map.walkOrders tile orders).bind fun before =>
            c.map.mapstep before dir
        else c.map.walkOrders tile orders) = some ptile := by
  unfold EndsIn
  rw [List.getLast?_concat, List.dropLast_concat]
  constructor
  · rintro ⟨final, hfinal, -, -, -, hends⟩
    obtain rfl := Option.some.inj hfinal
    exact hends
  · exact fun hends => ⟨_, rfl, rfl, rfl, rfl, hends⟩

theorem ordersLead_first {tile : Nat} {path : GotoPath}
    (hunit : c.units.get? path.unitId = some tile)
    (hwalk : c.map.walk tile path.dir = some ptile) :
    c.OrdersLead ptile (c.ordersPacket path.unitId tile path ptile)
      ↔ (c.gotoLastOrder ≠ .last → c.orderWantsDirection ptile = true →
        ∃ dir ∈ path.dir.getLast?, dir ≠ -1) := by
  have hwalk' : c.map.walkOrders tile (pathOrders path.dir) = some ptile := by
    rw [walkOrders_pathOrders]
    exact hwalk
  have hlead : c.OrdersLead ptile (c.ordersPacket path.unitId tile path ptile)
      ↔ if c.gotoLastOrder = .last then
          c.map.walkOrders tile
            (c.ordersPacket path.unitId tile path ptile).orders = some ptile
        else c.EndsIn ptile tile
          (c.ordersPacket path.unitId tile path ptile).orders := by
    unfold OrdersLead
    rw [unitId_ordersPacket, hunit]
    constructor
    · rintro ⟨-, tile', htile, hleads⟩
      obtain rfl := Option.some.inj htile
      exact hleads
    · exact fun hleads => ⟨length_ordersPacket _ _ _, tile, rfl, hleads⟩
  rw [hlead]
  by_cases hlast : c.gotoLastOrder = .last
  · rw [if_pos hlast, orders_of_last hlast]
    exact iff_of_true hwalk' fun hnot => absurd hlast hnot
  · rw [if_neg hlast]
    simp only [ne_eq, hlast, not_false_eq_true, true_imp_iff]
    cases hwants : c.orderWantsDirection ptile with
    | false =>
      rw [orders_of_appended hlast hwants, endsIn_append, hwants]
      exact iff_of_true hwalk' Bool.noConfusion
    | true =>
      rw [orders_of_replaced hlast hwants]
      cases hstep : path.dir.getLast? with
      | none =>
        refine iff_of_false ?_ ?_
        · rintro ⟨final, hfinal, -⟩
          cases hfinal
        · intro h
          obtain ⟨dir, hdir, -⟩ := h rfl
          cases hdir
      | some dir =>
        rw [endsIn_append, hwants, if_pos rfl]
        by_cases hwait : dir = -1
        · subst hwait
          refine iff_of_false ?_ ?_
          · intro hends
            obtain ⟨before, -, hback⟩ := Option.bind_eq_some_iff.mp hends
            rw [MapGrid.mapstep_wait] at hback
            cases hback
          · intro h
            obtain ⟨dir, hdir, hmove⟩ := h rfl
            exact hmove (Option.some.inj hdir).symm
        · refine iff_of_true ?_ fun _ => ⟨dir, rfl, hwait⟩
          rw [pathOrders_split hstep, MapGrid.walkOrders_append]
            at hwalk'
          rw [← hwalk']
          congr 1
          funext before
          exact (MapGrid.walkOrders_singleton _ (follows_pathOrder _ _ dir)
            hwait before).symm

theorem ordersLead_later {tile : Nat} {path : GotoPath}
    (hunit : c.units.get? path.unitId = some tile)
    (hwalk : c.map.walk tile path.dir = some ptile)
    (hkind : c.gotoLastOrder = .last ∨ c.gotoLastOrder = .performAction) :
    c.OrdersLead ptile
        (c.clearLastOrder.ordersPacket path.unitId tile path ptile)
      ↔ c.gotoLastOrder = .last := by
  have horders : (c.clearLastOrder.ordersPacket path.unitId tile path
      ptile).orders = pathOrders path.dir := orders_of_last rfl _ _ _
  have hwalk' : c.map.walkOrders tile (pathOrders path.dir) = some ptile := by
    rw [walkOrders_pathOrders]
    exact hwalk
  constructor
  · rintro ⟨-, tile', -, hleads⟩
    refine hkind.resolve_right fun hperform => ?_
    rw [if_neg (by rw [hperform]; exact OrderKind.noConfusion), horders]
      at hleads
    obtain ⟨final, hfinal, horder, -⟩ := hleads
    rw [getLast?_pathOrders] at hfinal
    obtain ⟨dir, -, rfl⟩ := Option.map_eq_some_iff.mp hfinal
    -- The last order of a path moves or waits.
    obtain ⟨-, hfollows⟩ := follows_pathOrder path.dir.length
      (path.dir.length - 1) dir
    rw [horder, hperform] at hfollows
    split at hfollows
    · cases hfollows
    · rcases hfollows with hmove | hmove <;> cases hmove
  · intro hlast
    refine ⟨length_ordersPacket _ _ _, tile, ?_, ?_⟩
    · rw [unitId_ordersPacket]
      exact hunit
    · rw [if_pos hlast, horders]
      exact hwalk'

-- ==== the click

theorem ordered_clearLastOrder (units : List (Nat × Nat)) :
    c.clearLastOrder.ordered ptile units = c.ordered ptile units := by
  induction units with
  | nil => rfl
  | cons punit rest ih =>
    unfold ordered
    rw [ih]
    rfl

theorem sent_orderFocus (units : List (Nat × Nat))
    (hkeyed : ∀ unitId path,
      c.gotoRequestMap.get? (c.key unitId ptile) = some (.path path) →
        path.unitId = unitId) :
    (orderFocus ptile c units).sent
      = match c.ordered ptile units with
        | [] => []
        | first :: rest =>
          c.ordersPacket first.2.unitId first.1 first.2 ptile
            :: rest.map fun entry =>
              c.clearLastOrder.ordersPacket entry.2.unitId entry.1 entry.2
                ptile := by
  induction units generalizing c with
  | nil => rfl
  | cons punit rest ih =>
    obtain ⟨unitId, tile⟩ := punit
    unfold orderFocus ordered
    cases hentry : c.gotoRequestMap.get? (c.key unitId ptile) with
    | none => exact ih hkeyed
    | some entry =>
      cases entry with
      | requested => rfl
      | path path =>
        have hid := hkeyed unitId path hentry
        dsimp only
        rw [if_neg fun hne => hne hid.symm, hid]
        have hrest := ih (c := c.clearLastOrder) hkeyed
        rw [ordered_clearLastOrder] at hrest
        refine congrArg (List.cons _) (hrest.trans ?_)
        cases c.ordered ptile rest with
        | nil | cons first rest => rfl

theorem sent_doMapClick (c : GotoClient) (ptile : Nat) :
    (c.doMapClick ptile).2
      = if c.clicked ptile = true then
          (orderFocus ptile c c.unitsInFocus).sent
        else [] := by
  unfold doMapClick clicked
  cases c.observer
  · cases c.activeCity
    · cases c.onFocusTile ptile
      · cases c.gotoActive <;> rfl
      · rfl
    · rfl
  · rfl

/-- Every path the client has leads from where its unit is. -/
structure Cached (c : GotoClient) : Prop where
  keyed : ∀ k path, c.gotoRequestMap.get? k = some (.path path) →
    k = c.key path.unitId path.dest
  leads : ∀ k path, c.gotoRequestMap.get? k = some (.path path) →
    ∀ tile ∈ c.units.get? path.unitId,
      c.map.walk tile path.dir = some path.dest

theorem tile_of_key {unitId unitId' tile tile' : Nat}
    (h : c.key unitId tile = c.key unitId' tile') :
    unitId = unitId' ∧ tile = tile' := by
  obtain ⟨hunit, hx, hy⟩ :
      unitId = unitId' ∧ tile % c.map.xsize = tile' % c.map.xsize
        ∧ tile / c.map.xsize = tile' / c.map.xsize := by
    simpa [key, MapGrid.tileX, MapGrid.tileY] using h
  refine ⟨hunit, ?_⟩
  calc tile = tile % c.map.xsize + c.map.xsize * (tile / c.map.xsize) :=
        (Nat.mod_add_div ..).symm
    _ = tile' % c.map.xsize + c.map.xsize * (tile' / c.map.xsize) := by
        rw [hx, hy]
    _ = tile' := Nat.mod_add_div ..

theorem leads_of_ordered (h : c.Cached) {units : List (Nat × Nat)}
    (hunits : ∀ punit ∈ units, c.units.get? punit.1 = some punit.2)
    {entry : Nat × GotoPath} (hentry : entry ∈ c.ordered ptile units) :
    c.units.get? entry.2.unitId = some entry.1
      ∧ c.map.walk entry.1 entry.2.dir = some ptile := by
  induction units with
  | nil => cases hentry
  | cons punit rest ih =>
    obtain ⟨unitId, tile⟩ := punit
    have hrest : ∀ punit ∈ rest, c.units.get? punit.1 = some punit.2 :=
      fun punit hp => hunits punit (List.mem_cons_of_mem _ hp)
    unfold ordered at hentry
    split at hentry
    case h_1 => exact ih hrest hentry
    case h_2 => cases hentry
    case h_3 path hpath =>
      rcases List.mem_cons.mp hentry with rfl | hentry
      · obtain ⟨rfl, rfl⟩ := tile_of_key (h.keyed _ _ hpath)
        have htile := hunits _ (List.mem_cons_self ..)
        exact ⟨htile, h.leads _ _ hpath _ htile⟩
      · exact ih hrest hentry

theorem mem_unitsInFocus {punit : Nat × Nat}
    (h : punit ∈ c.unitsInFocus) : c.units.get? punit.1 = some punit.2 := by
  obtain ⟨id, -, hid⟩ := List.mem_filterMap.mp h
  obtain ⟨tile, htile, rfl⟩ := Option.map_eq_some_iff.mp hid
  exact htile

/-- With paths that lead from where the units are, the orders of a click
lead to the tile exactly if the last order fits. -/
theorem ordersLead_iff (h : c.Cached)
    (hkind : c.gotoActive = true →
      c.gotoLastOrder = .last ∨ c.gotoLastOrder = .performAction)
    (ptile : Nat) :
    (∀ packet ∈ (c.doMapClick ptile).2, c.OrdersLead ptile packet)
      ↔ c.FinalOrderFits ptile := by
  unfold FinalOrderFits
  rw [sent_doMapClick]
  cases hclicked : c.clicked ptile with
  | false => simp
  | true =>
    have hactive : c.gotoActive = true := by
      unfold clicked at hclicked
      exact (Bool.and_eq_true_iff.mp hclicked).2
    have hleads : ∀ entry ∈ c.ordered ptile c.unitsInFocus,
        c.units.get? entry.2.unitId = some entry.1
          ∧ c.map.walk entry.1 entry.2.dir = some ptile :=
      fun entry hentry =>
        leads_of_ordered h (fun _ => mem_unitsInFocus) hentry
    rw [if_pos rfl, sent_orderFocus _ fun unitId path hpath =>
      (tile_of_key (h.keyed _ _ hpath)).1.symm]
    simp only [true_imp_iff]
    cases hordered : c.ordered ptile c.unitsInFocus with
    | nil => simp
    | cons first rest =>
      rw [hordered] at hleads
      obtain ⟨hunit, hwalk⟩ := hleads first (List.mem_cons_self ..)
      have hlater : ∀ entry ∈ rest,
          (c.OrdersLead ptile (c.clearLastOrder.ordersPacket
            entry.2.unitId entry.1 entry.2 ptile)
            ↔ c.gotoLastOrder = .last) := fun entry hentry => by
        obtain ⟨hunit, hwalk⟩ :=
          hleads entry (List.mem_cons_of_mem _ hentry)
        exact ordersLead_later hunit hwalk (hkind hactive)
      simp only [List.forall_mem_cons, List.forall_mem_map,
        ordersLead_first hunit hwalk, List.length_cons]
      constructor
      · rintro ⟨hfirst, hrest⟩ hlast
        have hnone : rest = [] := by
          refine List.eq_nil_iff_forall_not_mem.mpr fun entry hentry => ?_
          exact hlast ((hlater entry hentry).mp (hrest entry hentry))
        subst hnone
        exact ⟨Nat.le_refl 1, fun hwants => ⟨hfirst hlast hwants,
          fun entry hentry => nomatch hentry⟩⟩
      · intro hfits
        refine ⟨fun hlast hwants => ((hfits hlast).2 hwants).1,
          fun entry hentry => (hlater entry hentry).mpr ?_⟩
        by_contra hlast
        have hlength := (hfits hlast).1
        have hpos := List.length_pos_of_mem hentry
        omega

-- ==== the paths

/-- Only what the client knows of paths has changed. -/
structure Asked (c c' : GotoClient) : Prop where
  map : c'.map = c.map
  units : c'.units = c.units
  active : c'.gotoActive = c.gotoActive
  lastOrder : c'.gotoLastOrder = c.gotoLastOrder

theorem Asked.refl (c : GotoClient) : Asked c c := ⟨rfl, rfl, rfl, rfl⟩

theorem Asked.trans {c' c'' : GotoClient} (h : Asked c c')
    (h' : Asked c' c'') : Asked c c'' where
  map := h'.map.trans h.map
  units := h'.units.trans h.units
  active := h'.active.trans h.active
  lastOrder := h'.lastOrder.trans h.lastOrder

theorem cached_updateGotoPath (h : c.Cached) {path : GotoPath}
    (hleads : ∀ tile ∈ c.units.get? path.unitId,
      c.map.walk tile path.dir = some path.dest) :
    (c.updateGotoPath path).Cached ∧ Asked c (c.updateGotoPath path) := by
  unfold updateGotoPath
  split
  case isFalse => exact ⟨h, Asked.refl c⟩
  case isTrue =>
    have hentry : ∀ k found,
        (c.gotoRequestMap.set (c.key path.unitId path.dest)
          (.path path)).get? k = some (.path found) →
          (k = c.key path.unitId path.dest ∧ found = path)
            ∨ c.gotoRequestMap.get? k = some (.path found) := by
      intro k found hfound
      rw [Dict.get?_set] at hfound
      split at hfound
      case isTrue hk =>
        exact Or.inl ⟨hk, (GotoEntry.path.inj (Option.some.inj hfound)).symm⟩
      case isFalse => exact Or.inr hfound
    refine ⟨⟨fun k found hfound => ?_, fun k found hfound => ?_⟩,
      ⟨rfl, rfl, rfl, rfl⟩⟩
    · rcases hentry k found hfound with ⟨rfl, rfl⟩ | hold
      · rfl
      · exact h.keyed k found hold
    · rcases hentry k found hfound with ⟨rfl, rfl⟩ | hold
      · exact hleads
      · exact h.leads k found hold

theorem cached_requestGotoPath (h : c.Cached) (unitId dstX dstY : Nat) :
    (c.requestGotoPath unitId dstX dstY).1.Cached
      ∧ Asked c (c.requestGotoPath unitId dstX dstY).1 := by
  unfold requestGotoPath
  split
  · exact ⟨h, Asked.refl c⟩
  split
  case h_1 =>
    have hentry : ∀ k found,
        (c.gotoRequestMap.set (unitId, dstX, dstY) .requested).get? k
            = some (.path found) →
          c.gotoRequestMap.get? k = some (.path found) := by
      intro k found hfound
      rw [Dict.get?_set] at hfound
      split at hfound
      · cases hfound
      · exact hfound
    exact ⟨⟨fun k found hfound => h.keyed k found (hentry k found hfound),
      fun k found hfound => h.leads k found (hentry k found hfound)⟩,
      ⟨rfl, rfl, rfl, rfl⟩⟩
  case h_2 => exact ⟨h, Asked.refl c⟩
  case h_3 path hpath => exact cached_updateGotoPath h (h.leads _ path hpath)

theorem cached_requestGotoPaths (h : c.Cached) (tile : Nat)
    (units : List Nat) :
    (requestGotoPaths tile c units).1.Cached
      ∧ Asked c (requestGotoPaths tile c units).1 := by
  induction units generalizing c with
  | nil => exact ⟨h, Asked.refl c⟩
  | cons unitId rest ih =>
    obtain ⟨hfirst, hasked⟩ := cached_requestGotoPath h unitId
      (c.map.tileX tile) (c.map.tileY tile)
    obtain ⟨hothers, hasked'⟩ := ih hfirst
    exact ⟨hothers, hasked.trans hasked'⟩

theorem cached_empty (hnone : c.gotoRequestMap = ∅) : c.Cached where
  keyed k path hpath := by
    rw [hnone] at hpath
    cases hpath
  leads k path hpath := by
    rw [hnone] at hpath
    cases hpath

/-- The paths a client has do not depend on anything else of it than the
map and the units. -/
theorem Cached.of_eq {c' : GotoClient} (h : c.Cached)
    (hpaths : c'.gotoRequestMap = c.gotoRequestMap) (hmap : c'.map = c.map)
    (hunits : c'.units = c.units) : c'.Cached where
  keyed k path hpath := by
    have hkey := h.keyed k path (hpaths ▸ hpath)
    unfold key at hkey ⊢
    rw [hmap]
    exact hkey
  leads k path hpath tile htile := by
    rw [hmap]
    exact h.leads k path (hpaths ▸ hpath) tile (hunits ▸ htile)

theorem client_orderFocus (ptile : Nat) (units : List (Nat × Nat)) :
    (orderFocus ptile c units).client = c
      ∨ (orderFocus ptile c units).client = c.clearLastOrder := by
  induction units generalizing c with
  | nil => exact Or.inl rfl
  | cons punit rest ih =>
    obtain ⟨unitId, tile⟩ := punit
    unfold orderFocus
    split
    case h_1 => exact ih
    case h_2 => exact Or.inr rfl
    case h_3 path _ =>
      split
      · exact Or.inr rfl
      · rcases ih (c := c.clearLastOrder) with hsame | hsame
        · exact Or.inr hsame
        · exact Or.inr hsame

/-- A click leaves the client as it was, clears the last order, or ends
the goto. -/
theorem client_doMapClick (c : GotoClient) (ptile : Nat) :
    (c.doMapClick ptile).1 = c ∨ (c.doMapClick ptile).1 = c.clearLastOrder
      ∨ ∃ c', (c' = c ∨ c' = c.clearLastOrder)
        ∧ (c.doMapClick ptile).1 = c'.deactivateGoto := by
  unfold doMapClick
  split
  · exact Or.inl rfl
  split
  · exact Or.inl rfl
  split
  · dsimp only
    split
    · exact Or.inr (Or.inr ⟨c, Or.inl rfl, rfl⟩)
    · exact Or.inl rfl
  split
  · have hordered := client_orderFocus (c := c) ptile c.unitsInFocus
    dsimp only
    split
    · exact Or.inr (Or.inr ⟨_, hordered, rfl⟩)
    · exact hordered.imp_right Or.inl
  · exact Or.inl rfl

end GotoClient

-- ==== the runs

namespace GotoSystem

/-- Every path on the way leads from where its unit will be when it
comes. -/
def InboxLeads (m : MapGrid) (units : Dict Nat Nat) :
    List ServerMessage → Prop
  | [] => True
  | message :: rest =>
    (match message with
      | .gotoPath path => ∀ tile ∈ units.get? path.unitId,
          m.walk tile path.dir = some path.dest
      | _ => True)
      ∧ InboxLeads m (message.deliver units) rest

theorem inboxLeads_append {m : MapGrid} {units : Dict Nat Nat}
    {inbox : List ServerMessage} (h : InboxLeads m units inbox)
    {message : ServerMessage}
    (hmessage : InboxLeads m (inbox.foldl ServerMessage.deliver units)
      [message]) : InboxLeads m units (inbox ++ [message]) := by
  induction inbox generalizing units with
  | nil => exact hmessage
  | cons first rest ih => exact ⟨h.1, ih h.2 hmessage⟩

/-- The run invariant. The units of the client are those of the server
once all messages are there. -/
structure Fresh (s : GotoSystem) : Prop where
  cached : s.client.Cached
  kind : s.client.gotoActive = true →
    s.client.gotoLastOrder = .last ∨ s.client.gotoLastOrder = .performAction
  inbox : InboxLeads s.client.map s.client.units s.inbox
  told : s.inbox.foldl ServerMessage.deliver s.client.units = s.serverUnits

variable {s s' : GotoSystem}

theorem Fresh.client (h : s.Fresh) {c : GotoClient}
    {requests : List PathRequest} (hmap : c.map = s.client.map)
    (hunits : c.units = s.client.units) (hcached : c.Cached)
    (hkind : c.gotoActive = true →
      c.gotoLastOrder = .last ∨ c.gotoLastOrder = .performAction) :
    ({ s with client := c, requests } : GotoSystem).Fresh where
  cached := hcached
  kind := hkind
  inbox := by
    rw [hmap, hunits]
    exact h.inbox
  told := by
    rw [hunits]
    exact h.told

/-- The server sends a message that is no path, and its units change as
the message says. -/
theorem Fresh.sends (h : s.Fresh) (message : ServerMessage)
    (hpath : ∀ path, message ≠ .gotoPath path) :
    ({ s with
      serverUnits := message.deliver s.serverUnits
      inbox := s.inbox ++ [message] } : GotoSystem).Fresh where
  cached := h.cached
  kind := h.kind
  inbox := by
    refine inboxLeads_append h.inbox ⟨?_, trivial⟩
    cases message with
    | unitInfo _ _ => trivial
    | unitRemove _ => trivial
    | gotoPath path => exact absurd rfl (hpath path)
  told := by
    rw [List.foldl_append, h.told]
    rfl

theorem Fresh.reply (h : s.Fresh) {dir : Option (List Int)}
    (hs : s.reply dir = some s') : s'.Fresh := by
  unfold GotoSystem.reply at hs
  split at hs
  case h_1 => cases hs
  case h_2 =>
    cases hs
    exact h.client rfl rfl h.cached h.kind
  case h_3 request rest dir _ =>
    obtain ⟨hwalk, hs'⟩ := Option.ite_none_right_eq_some.mp hs
    cases hs'
    refine { cached := h.cached, kind := h.kind, inbox := ?_, told := ?_ }
    · refine inboxLeads_append h.inbox ⟨?_, trivial⟩
      intro tile htile
      rw [h.told] at htile
      rw [show s.serverUnits.get? request.unitId = some tile from htile]
        at hwalk
      exact hwalk
    · rw [List.foldl_append, h.told]
      rfl

/-- A unit moves of which the client has no path, or it is told where it
is already. -/
theorem cached_unitInfo {c : GotoClient} (h : c.Cached) {unitId tile : Nat}
    (hstill : c.units.get? unitId = some tile
      ∨ ∀ entry ∈ c.gotoRequestMap.values, entry.isPathOf unitId = false) :
    ({ c with units := c.units.set unitId tile } : GotoClient).Cached where
  keyed := h.keyed
  leads k path hpath tile' htile' := by
    have hset : (c.units.set unitId tile).get? path.unitId = some tile' :=
      htile'
    rw [Dict.get?_set] at hset
    split at hset
    case isFalse => exact h.leads k path hpath tile' hset
    case isTrue hid =>
      rcases hstill with hsame | hnone
      · rw [← hid, hset] at hsame
        exact h.leads k path hpath tile' hsame
      · have hfalse := hnone _ (Dict.mem_values_iff.mpr ⟨k, hpath⟩)
        simp [GotoEntry.isPathOf, hid] at hfalse

theorem cached_unitRemove {c : GotoClient} (h : c.Cached) (unitId : Nat) :
    ({ c with units := c.units.erase unitId } : GotoClient).Cached where
  keyed := h.keyed
  leads k path hpath tile htile := by
    have herase : (c.units.erase unitId).get? path.unitId = some tile := htile
    rw [Dict.get?_erase] at herase
    split at herase
    · cases herase
    · exact h.leads k path hpath tile herase

theorem receive_spec (c : GotoClient) (message : ServerMessage) :
    (c.receive message).map = c.map
      ∧ (c.receive message).units = message.deliver c.units
      ∧ (c.receive message).gotoActive = c.gotoActive
      ∧ (c.receive message).gotoLastOrder = c.gotoLastOrder := by
  cases message with
  | unitInfo unitId tile | unitRemove unitId => exact ⟨rfl, rfl, rfl, rfl⟩
  | gotoPath path =>
    unfold GotoClient.receive GotoClient.updateGotoPath
    dsimp only
    split
    · split <;> exact ⟨rfl, rfl, rfl, rfl⟩
    · exact ⟨rfl, rfl, rfl, rfl⟩

theorem Fresh.receive (h : s.Fresh) (hc : s.Still .receive)
    {message : ServerMessage} {rest : List ServerMessage}
    (hinbox : s.inbox = message :: rest) :
    ({ s with client := s.client.receive message, inbox := rest } :
      GotoSystem).Fresh := by
  have hleads := h.inbox
  have htold := h.told
  rw [hinbox] at hleads htold
  obtain ⟨hmap, hunits, hactive, hlast⟩ := receive_spec s.client message
  refine { cached := ?_, kind := ?_, inbox := ?_, told := ?_ }
  · cases message with
    | unitInfo unitId tile =>
      refine cached_unitInfo h.cached (hc (.unitInfo unitId tile) ?_)
      rw [hinbox]
      rfl
    | unitRemove unitId =>
      exact (cached_unitRemove h.cached unitId).of_eq rfl rfl rfl
    | gotoPath path =>
      unfold GotoClient.receive
      dsimp only
      split
      · exact (GotoClient.cached_updateGotoPath h.cached hleads.1).1
      · exact h.cached
  · intro hnow
    show (s.client.receive message).gotoLastOrder = _ ∨ _
    rw [hlast]
    exact h.kind (hactive ▸ hnow)
  · show InboxLeads (s.client.receive message).map
      (s.client.receive message).units rest
    rw [hmap, hunits]
    exact hleads.2
  · show rest.foldl ServerMessage.deliver
      (s.client.receive message).units = _
    rw [hunits]
    exact htold

theorem Fresh.ask (h : s.Fresh) {asked : GotoClient × List PathRequest}
    (hcached : asked.1.Cached) (hasked : GotoClient.Asked s.client asked.1) :
    (s.ask asked).Fresh :=
  h.client hasked.map hasked.units hcached fun hactive => by
    rw [hasked.lastOrder]
    exact h.kind (hasked.active ▸ hactive)

theorem Fresh.click (h : s.Fresh) (ptile : Nat) :
    ({ s with client := (s.client.doMapClick ptile).1 } :
      GotoSystem).Fresh := by
  rcases GotoClient.client_doMapClick s.client ptile with
    hsame | hcleared | ⟨c, hc, hended⟩
  · rw [hsame]
    exact h
  · rw [hcleared]
    exact h.client rfl rfl (h.cached.of_eq rfl rfl rfl) fun _ => Or.inl rfl
  · have hunits : c.map = s.client.map ∧ c.units = s.client.units := by
      rcases hc with rfl | rfl <;> exact ⟨rfl, rfl⟩
    rw [hended]
    exact h.client hunits.1 hunits.2 (GotoClient.cached_empty rfl)
      fun _ => Or.inl rfl

theorem Fresh.activate (h : s.Fresh) {lastOrder : OrderKind}
    (hkind : lastOrder = .last ∨ lastOrder = .performAction)
    {lastAction : Int} :
    ({ s with
      client := s.client.activateGotoLast lastOrder lastAction } :
        GotoSystem).Fresh := by
  unfold GotoClient.activateGotoLast
  dsimp only
  split
  · exact h.client rfl rfl (GotoClient.cached_empty rfl) nofun
  · exact h.client rfl rfl (h.cached.of_eq rfl rfl rfl) fun _ => hkind

theorem fresh_step (h : s.Fresh) {act : GotoAct} (hc : s.Still act)
    (hs : s.step act = some s') : s'.Fresh := by
  cases act with
  | serverMoves unitId tile =>
    cases hs
    exact h.sends (.unitInfo unitId tile) (fun _ => nofun)
  | serverRemoves unitId =>
    cases hs
    exact h.sends (.unitRemove unitId) (fun _ => nofun)
  | serverReplies dir => exact h.reply hs
  | receive =>
    simp only [step] at hs
    split at hs
    case h_1 => cases hs
    case h_2 message rest hinbox =>
      cases hs
      exact h.receive hc hinbox
  | setFocus ids =>
    obtain ⟨-, hs'⟩ := Option.ite_none_right_eq_some.mp hs
    cases hs'
    exact h.client rfl rfl (h.cached.of_eq rfl rfl rfl) h.kind
  | advanceFocus ids =>
    obtain ⟨-, hs'⟩ := Option.ite_none_right_eq_some.mp hs
    cases hs'
    exact h.client rfl rfl (h.cached.of_eq rfl rfl rfl) nofun
  | settings occupied observer activeCity touchDevice =>
    cases hs
    exact h.client rfl rfl (h.cached.of_eq rfl rfl rfl) h.kind
  | activateGoto lastAction =>
    cases lastAction with
    | none =>
      cases hs
      exact h.activate (Or.inl rfl)
    | some action =>
      cases hs
      exact h.activate (Or.inr rfl)
  | deactivateGoto | clearSelection =>
    cases hs
    exact h.client rfl rfl (GotoClient.cached_empty rfl) nofun
  | hover tile =>
    cases hs
    unfold GotoClient.checkRequestGotoPath
    split
    · obtain ⟨hcached, hasked⟩ := GotoClient.cached_requestGotoPaths
        h.cached tile s.client.currentFocus
      exact h.ask hcached hasked
    · exact h.ask h.cached (GotoClient.Asked.refl _)
  | touchMove tile =>
    cases hs
    unfold GotoClient.touchMove
    split
    · obtain ⟨hcached, hasked⟩ := GotoClient.cached_requestGotoPaths
        h.cached tile ((s.client.currentFocus.take 20).filter fun unitId =>
          (s.client.gotoRequestMap.get?
            (s.client.key unitId tile)).isNone)
      exact h.ask hcached hasked
    · exact h.ask h.cached (GotoClient.Asked.refl _)
  | click ptile =>
    cases hs
    exact h.click ptile

theorem fresh_of_still (h : gotoRuns.ReachVia Still s) : s.Fresh := by
  refine h.invariant (I := Fresh) ?_ ?_
  · rintro s ⟨map, actions, rfl⟩
    exact { cached := GotoClient.cached_empty rfl, kind := nofun
            inbox := trivial, told := rfl }
  · exact fun s act s' hfresh hc hs => fresh_step hfresh hc hs

/-- In a run in which no unit moves while the client has a path of it, the
orders of a click all lead to the tile exactly if the last order fits. -/
theorem ordersLead_of_still :
    ∀ s, gotoRuns.ReachVia Still s → ∀ ptile,
      ((∀ packet ∈ (s.client.doMapClick ptile).2,
          s.client.OrdersLead ptile packet)
        ↔ s.client.FinalOrderFits ptile) :=
  fun _ h ptile =>
    GotoClient.ordersLead_iff (fresh_of_still h).cached
      (fresh_of_still h).kind ptile

def smallMap : MapGrid where
  xsize := 4
  ysize := 4
  hex := false
  iso := false

/-- `ACTION_NUKE`, at most a tile away. -/
def nukeAction : Dict Int ActionRange := Dict.ofList [(33, ⟨0, 1⟩)]

/-- Two units in focus, and a goto that ends in a detonation; unit 7 has a
path to tile 2. -/
def nukeGoto : List GotoAct :=
  [.serverMoves 7 0, .receive, .serverMoves 8 1, .receive, .setFocus [7, 8],
    .activateGoto (some 33), .hover 2, .serverReplies (some [4, 4]),
    .receive]

def gotoClient (acts : List GotoAct) : GotoSystem :=
  (gotoRuns.exec (init smallMap nukeAction) acts).getD
    (init smallMap nukeAction)

/-- The orders of unit 7 end with the detonation on tile 2. -/
theorem ordersLead_nuke :
    ((gotoClient nukeGoto).client.doMapClick 2).2.length = 1
      ∧ ∀ packet ∈ ((gotoClient nukeGoto).client.doMapClick 2).2,
        (gotoClient nukeGoto).client.OrdersLead 2 packet :=
  ⟨by decide, (ordersLead_of_still _
    (Lts.ReachVia.exec (.init ⟨smallMap, nukeAction, rfl⟩)
      (show gotoRuns.Along Still (init smallMap nukeAction) nukeGoto by
        decide) (by decide)) 2).mpr (by decide)⟩

/-- The reply for unit 8 is there, too: its orders have no detonation. And
unit 7 moves on, and the path it had leads beyond the tile. -/
theorem orders_not_lead :
    (¬ ∀ s, gotoRuns.Reach s → ∀ ptile,
      ∀ packet ∈ (s.client.doMapClick ptile).2,
        s.client.gotoLastOrder ≠ .last →
          s.client.OrdersLead ptile packet)
      ∧ ¬ ∀ s, gotoRuns.Reach s → ∀ ptile,
        ∀ packet ∈ (s.client.doMapClick ptile).2,
          s.client.gotoLastOrder = .last →
            s.client.OrdersLead ptile packet := by
  have hreach := fun acts => Lts.Reach.exec_getD (T := gotoRuns)
    (.init ⟨smallMap, nukeAction, rfl⟩) acts
  refine ⟨fun hall => ?_, fun hall => ?_⟩
  · have hnuke := hall _ (hreach (nukeGoto
      ++ [.serverReplies (some [4]), .receive])) 2
    exact absurd hnuke (by decide)
  · have hstale := hall _ (hreach
      [.serverMoves 7 0, .receive, .setFocus [7], .activateGoto none,
        .hover 2, .serverReplies (some [4, 4]), .receive,
        .serverMoves 7 1, .receive]) 2
    exact absurd hstale (by decide)

end GotoSystem

end Freeciv3d.Web
