/-
The worklist tab of the city dialog in `city.js`: the buttons that add,
insert, move, exchange and remove items, the double click that removes
one, and the handlers that keep the two selections.

# The data

`active_city` is the entry of `cities` it was opened for, so that the list
`send_city_worklist` cuts is the list the buttons edit. A JavaScript array
answers `undefined` where it has nothing, and writing past its end leaves
holes: an item is an `Option`, `none` for `undefined`, which
`JSON.stringify` sends as `null`. Reading a field of `undefined` throws and
ends the handler where it is.

# What is left out

The buttons' state and what is drawn. The server's answer, which replaces
`production_kind` and the list: what the handlers do between two answers is
modelled.
-/
import Freeciv3d.Lib.Lts

namespace Freeciv3d.Web

open Lib

def maxLenWorklist : Nat := 64

/-- A `universal`: an improvement or a unit type. -/
structure Universal where
  kind : Int
  value : Int
  deriving DecidableEq

-- ==== arrays

/-- `l[i]`, `none` for `undefined`. -/
def jsGet {α : Type} (l : List (Option α)) (i : Nat) : Option α :=
  (l[i]?).join

/-- `l[i] = v`: past the end there are holes before the new item. -/
def jsSet {α : Type} (l : List (Option α)) (i : Nat) (v : Option α) :
    List (Option α) :=
  if i < l.length then l.set i v
  else l ++ List.replicate (i - l.length) none ++ [v]

/-- `l.splice(start, deleteCount, ...items)`. -/
def splice {α : Type} (l : List α) (start deleteCount : Nat)
    (items : List α) : List α :=
  l.take start ++ items ++ l.drop (start + deleteCount)

-- ==== the dialog

inductive WorklistPacket
  | worklist (cityId : Nat) (items : List (Option Universal))
  | change (cityId : Nat) (kind value : Int)

/-- What the tab's handlers read and write, with the packets sent. -/
structure WorklistTab where
  cityId : Nat
  worklist : List (Option Universal)
  production : Universal
  productionSelection : List Universal
  worklistSelection : List Nat
  sent : List WorklistPacket

namespace WorklistTab

variable (s : WorklistTab)

/-- `send_city_worklist`: the list is cut in place. -/
def sendCityWorklist : WorklistTab :=
  let cut := s.worklist.take maxLenWorklist
  { s with worklist := cut, sent := s.sent ++ [.worklist s.cityId cut] }

def sendCityChange (u : Universal) : WorklistTab :=
  { s with sent := s.sent ++ [.change s.cityId u.kind u.value] }

def cityAddToWorklist : WorklistTab :=
  if 0 < s.productionSelection.length then
    { s with
      worklist := s.worklist ++ s.productionSelection.map some }
      |>.sendCityWorklist
  else s

def cityInsertInWorklist : WorklistTab :=
  let count := min s.productionSelection.length maxLenWorklist
  if count = 0 then s
  else
    let items := s.productionSelection.map some
    match s.worklistSelection with
    | [] =>
      { s with
        worklist := splice s.worklist 0 0 items
        worklistSelection := List.range count }
        |>.sendCityWorklist
    | first :: _ =>
      { s with
        worklist := splice s.worklist first 0 items
        worklistSelection := s.worklistSelection.map (· + count) }
        |>.sendCityWorklist

/-- The loop of `city_worklist_task_up`. No selected position is 0 there:
a first one that is has been taken out. -/
def taskUpLoop {α : Type} :
    List (Option α) → List Nat → List (Option α)
  | wl, [] => wl
  | wl, t :: rest =>
    taskUpLoop
      (jsSet (jsSet wl (t - 1) (jsGet wl t)) t (jsGet wl (t - 1))) rest

/-- `city_worklist_task_up` once the first position has been dealt
with. -/
def finishTaskUp (selection : List Nat) : WorklistTab :=
  { s with
    worklist := taskUpLoop s.worklist selection
    worklistSelection := selection.map (· - 1) }
    |>.sendCityWorklist

def cityWorklistTaskUp : WorklistTab :=
  match s.worklistSelection with
  | [] => s
  | first :: rest =>
    if first = 0 then
      match jsGet s.worklist 0 with
      -- `wl[0].kind` throws after the `shift`
      | none => { s with worklistSelection := rest }
      | some item =>
        if item.kind ≠ s.production.kind
            ∨ item.value ≠ s.production.value then
          ({ s with
              worklist := jsSet s.worklist 0 (some s.production) }
            |>.sendCityChange item).finishTaskUp rest
        else s.finishTaskUp rest
    else s.finishTaskUp (first :: rest)

/-- The loop of `city_worklist_task_down`, over the selection from its
end. -/
def taskDownLoop {α : Type} :
    List (Option α) → List Nat → List (Option α)
  | wl, [] => wl
  | wl, t :: rest =>
    taskDownLoop
      (jsSet (jsSet wl (t + 1) (jsGet wl t)) t (jsGet wl (t + 1))) rest

def cityWorklistTaskDown : WorklistTab :=
  match s.worklistSelection.getLast? with
  | none => s
  | some last =>
    if last + 1 = s.worklist.length then s
    else
      { s with
        worklist := taskDownLoop s.worklist s.worklistSelection.reverse
        worklistSelection := s.worklistSelection.map (· + 1) }
        |>.sendCityWorklist

/-- How the replacing loop of `city_exchange_worklist_task` ends. -/
structure Exchanged where
  worklist : List (Option Universal)
  same : Bool
  /-- `wl[…].kind` threw. -/
  thrown : Bool

/-- The loop of `city_exchange_worklist_task` where as many items are
selected in one list as in the other. -/
def exchangeLoop :
    List (Option Universal) → Bool → List (Nat × Universal) → Exchanged
  | wl, same, [] => { worklist := wl, same := same, thrown := false }
  | wl, same, (t, chosen) :: rest =>
    if same then
      match jsGet wl t with
      | none => { worklist := wl, same := same, thrown := true }
      | some item =>
        exchangeLoop (jsSet wl t (some chosen))
          (item.kind == chosen.kind && item.value == chosen.value) rest
    else exchangeLoop (jsSet wl t (some chosen)) same rest

def cityExchangeWorklistTask : WorklistTab :=
  let prodL := s.productionSelection.length
  if prodL = 0 then s
  else if prodL = s.worklistSelection.length then
    let out := exchangeLoop s.worklist true
      (s.worklistSelection.zip s.productionSelection)
    let s := { s with worklist := out.worklist }
    if out.thrown || out.same then s else s.sendCityWorklist
  else
    match s.worklistSelection with
    | [i] =>
      { s with
        worklist :=
          splice s.worklist i 1 (s.productionSelection.map some)
        worklistSelection :=
          i :: (List.range (prodL - 1)).map (i + 1 + ·) }
        |>.sendCityWorklist
    | _ => s

def cityWorklistTaskRemove : WorklistTab :=
  if s.worklistSelection.length = 0 then s
  else
    { s with
      worklist := s.worklistSelection.reverse.foldl
        (fun wl t => splice wl t 1 []) s.worklist
      worklistSelection := [] }
      |>.sendCityWorklist

/-- The positions up to `idx`, and those above it: where the loops of the
handlers that come from the end of the selection stop. -/
def splitAbove (idx : Nat) (selection : List Nat) :
    List Nat × List Nat :=
  let above := (selection.reverse.takeWhile (idx < ·)).reverse
  (selection.take (selection.length - above.length), above)

/-- The selection when the item at `idx` goes. -/
def shiftAbove (idx : Nat) (selection : List Nat) : List Nat :=
  let (below, above) := splitAbove idx selection
  (if below.getLast? = some idx then below.dropLast else below)
    ++ above.map (· - 1)

def handleCurrentWorklistDirectRemove (idx : Nat) : WorklistTab :=
  { s with
    worklist := splice s.worklist idx 1 []
    worklistSelection := shiftAbove idx s.worklistSelection }
    |>.sendCityWorklist

-- ==== the selections

def handleCurrentWorklistSelect (idx : Nat) : WorklistTab :=
  let (below, above) := splitAbove idx s.worklistSelection
  match below.getLast? with
  | some last =>
    if last < idx then
      { s with worklistSelection := below ++ [idx] ++ above }
    else s
  | none => { s with worklistSelection := below ++ [idx] ++ above }

def handleCurrentWorklistUnselect (idx : Nat) : WorklistTab :=
  let (below, above) := splitAbove idx s.worklistSelection
  if below.getLast? = some idx then
    { s with worklistSelection := below.dropLast ++ above }
  else s

def handleCurrentWorklistClick (idx : Nat) : WorklistTab :=
  if s.worklistSelection = [idx] then { s with worklistSelection := [] }
  else { s with worklistSelection := [idx] }

def handleWorklistSelect (u : Universal) : WorklistTab :=
  if u ∈ s.productionSelection then s
  else { s with productionSelection := s.productionSelection ++ [u] }

def handleWorklistUnselect (u : Universal) : WorklistTab :=
  { s with productionSelection := s.productionSelection.erase u }

end WorklistTab

-- ==== the runs

inductive WorklistEdit
  | add | insert | up | down | exchange | remove
  | directRemove (idx : Nat)
  deriving DecidableEq

inductive WorklistAct
  | edit (e : WorklistEdit)
  | select (idx : Nat) | unselect (idx : Nat) | click (idx : Nat)
  | choose (u : Universal) | unchoose (u : Universal)

def WorklistTab.edit (s : WorklistTab) : WorklistEdit → WorklistTab
  | .add => s.cityAddToWorklist
  | .insert => s.cityInsertInWorklist
  | .up => s.cityWorklistTaskUp
  | .down => s.cityWorklistTaskDown
  | .exchange => s.cityExchangeWorklistTask
  | .remove => s.cityWorklistTaskRemove
  | .directRemove idx => s.handleCurrentWorklistDirectRemove idx

def WorklistTab.act (s : WorklistTab) : WorklistAct → Option WorklistTab
  | .edit e => some (s.edit e)
  | .select idx =>
    if idx < s.worklist.length then
      some (s.handleCurrentWorklistSelect idx)
    else none
  | .unselect idx => some (s.handleCurrentWorklistUnselect idx)
  | .click idx =>
    if idx < s.worklist.length then
      some (s.handleCurrentWorklistClick idx)
    else none
  | .choose u => some (s.handleWorklistSelect u)
  | .unchoose u => some (s.handleWorklistUnselect u)

/-- What the claims about the tab start from: a list that fits and has no
holes, and selected positions of it in increasing order. -/
structure WorklistTab.Orderly (s : WorklistTab) : Prop where
  fits : s.worklist.length ≤ maxLenWorklist
  whole : ∀ item ∈ s.worklist, item.isSome
  increasing : s.worklistSelection.Pairwise (· < ·)
  within : ∀ t ∈ s.worklistSelection, t < s.worklist.length

def worklistRuns : Lts WorklistTab WorklistAct where
  init s := s.Orderly
  step s a := s.act a

end Freeciv3d.Web
