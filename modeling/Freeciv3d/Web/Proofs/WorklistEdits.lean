/-
What each button of the worklist tab does to the list and to the
selection.

# The condition

`city_insert_in_worklist` and `city_exchange_worklist_task` move selected
positions towards the end and do not look at the limit: `InsertFits` and
`ExchangeFits` say that none is pushed past it.
-/
import Freeciv3d.Web.Proofs.WorklistSources

namespace Freeciv3d.Web

open Lib

namespace WorklistTab

variable {s : WorklistTab}

-- ==== adding and inserting

theorem splice_map {α β : Type} (f : α → β) (l items : List α)
    (i n : Nat) :
    (splice l i n items).map f = splice (l.map f) i n (items.map f) := by
  simp [splice, List.map_take, List.map_drop]

theorem splice_perm {α : Type} (l items : List α) (i : Nat) :
    (splice l i 0 items).Perm (l ++ items) := by
  have h : (l.take i ++ items ++ l.drop i).Perm
      (l.take i ++ l.drop i ++ items) := by
    rw [List.append_assoc, List.append_assoc]
    exact List.Perm.append_left _ List.perm_append_comm
  rw [List.take_append_drop] at h
  exact h

theorem edited_add (h : s.Orderly) :
    ∃ srcs, s.Edited .add (s.edit .add) srcs (s.designated .add) := by
  have htrades : ¬ s.Trades .add := not_trades (by decide)
  by_cases hp : 0 < s.productionSelection.length
  · have hdes := map_getElem?_eq s.worklistSelection
      (s.keptAll ++ s.chosenAll) id .kept ?_
    · rw [List.map_id] at hdes
      refine ⟨s.keptAll ++ s.chosenAll, edited_sent
        (drawn_both h (fun _ => id) trivial htrades) htrades
        ?_ ?_ ?_ ?_⟩
      · simp [edit, cityAddToWorklist, hp, sendCityWorklist,
          List.map_take, keptAll_item, chosenAll_item]
      · simp [edit, cityAddToWorklist, hp, sendCityWorklist]
      · simpa [edit, cityAddToWorklist, hp, sendCityWorklist]
          using h.increasing
      · simpa [edit, cityAddToWorklist, hp, sendCityWorklist, designated]
          using hdes
    · intro t ht
      have hlt := h.within t ht
      refine ⟨Nat.lt_of_lt_of_le hlt h.fits, ?_⟩
      rw [id, List.getElem?_append_left (by simpa using hlt)]
      exact s.keptAll_getElem? hlt
  · have hedit : s.edit .add = s := by
      simp [edit, cityAddToWorklist, hp]
    rw [hedit]
    exact ⟨s.keptAll, edited_same h
      (drawn_keptAll h (fun _ => id) (fun h => absurd h hp) htrades)⟩

/-- Inserting pushes no selected position past the limit. -/
def InsertFits (s : WorklistTab) : Prop :=
  ∀ t ∈ s.worklistSelection,
    t + min s.productionSelection.length maxLenWorklist < maxLenWorklist

instance : Decidable s.InsertFits :=
  inferInstanceAs (Decidable (∀ _ ∈ _, _))

theorem edited_insert (h : s.Orderly) (hfit : s.InsertFits) :
    ∃ srcs, s.Edited .insert (s.edit .insert) srcs
      (s.designated .insert) := by
  have htrades : ¬ s.Trades .insert := not_trades (by decide)
  have hdrawn : s.Drawn .insert (s.keptAll ++ s.chosenAll) :=
    drawn_both h (fun _ => id) trivial htrades
  by_cases hp : 0 < s.productionSelection.length
  · have hcount : min s.productionSelection.length maxLenWorklist ≠ 0 := by
      simp only [maxLenWorklist]
      omega
    have hmap (p : Nat) : (splice s.keptAll p 0 s.chosenAll).map s.item
        = splice s.worklist p 0 (s.productionSelection.map some) := by
      rw [splice_map, keptAll_item, chosenAll_item]
    cases hsel : s.worklistSelection with
    | nil =>
      have hdes := map_getElem?_eq
        (List.range (min s.productionSelection.length maxLenWorklist))
        (splice s.keptAll 0 0 s.chosenAll) id .chosen ?_
      · rw [List.map_id] at hdes
        refine ⟨splice s.keptAll 0 0 s.chosenAll, edited_sent
          (hdrawn.perm (splice_perm _ _ _)) htrades ?_ ?_ ?_ ?_⟩
        · simp [edit, cityInsertInWorklist, hcount, hsel,
            sendCityWorklist, List.map_take, hmap]
        · simp [edit, cityInsertInWorklist, hcount, hsel,
            sendCityWorklist]
        · simpa [edit, cityInsertInWorklist, hcount, hsel,
            sendCityWorklist] using List.pairwise_lt_range
        · simpa [edit, cityInsertInWorklist, hcount, hsel,
            sendCityWorklist, designated] using hdes
      · intro j hj
        have hlt := List.mem_range.mp hj
        have hjp : j < s.productionSelection.length := by omega
        refine ⟨by simp only [id]; omega, ?_⟩
        simp [splice, List.getElem?_append, chosenAll, hjp]
    | cons first rest =>
      have hfirst : first < s.worklist.length :=
        h.within first (by simp [hsel])
      have hge : ∀ t ∈ first :: rest, first ≤ t := by
        intro t ht
        rcases List.mem_cons.mp ht with rfl | hrest
        · exact Nat.le_refl _
        · have hinc := h.increasing
          rw [hsel] at hinc
          exact Nat.le_of_lt ((List.pairwise_cons.mp hinc).1 t hrest)
      have hdes := map_getElem?_eq (first :: rest)
        (splice s.keptAll first 0 s.chosenAll)
        (· + min s.productionSelection.length maxLenWorklist) .kept ?_
      · refine ⟨splice s.keptAll first 0 s.chosenAll, edited_sent
          (hdrawn.perm (splice_perm _ _ _)) htrades ?_ ?_ ?_ ?_⟩
        · simp [edit, cityInsertInWorklist, hcount, hsel,
            sendCityWorklist, List.map_take, hmap]
        · simp [edit, cityInsertInWorklist, hcount, hsel,
            sendCityWorklist]
        · have hinc := h.increasing
          rw [hsel] at hinc
          have hmoved := hinc.map
            (· + min s.productionSelection.length maxLenWorklist)
            fun _ _ hlt => Nat.add_lt_add_right hlt _
          simpa only [edit, cityInsertInWorklist, hcount, hsel,
            sendCityWorklist, if_false] using hmoved
        · simpa only [edit, cityInsertInWorklist, hcount, hsel,
            sendCityWorklist, designated, if_false, reduceCtorEq]
            using hdes
      · intro t ht
        have hlt := h.within t (hsel ▸ ht)
        have hroom := hfit t (hsel ▸ ht)
        refine ⟨hroom, ?_⟩
        have hall : min s.productionSelection.length maxLenWorklist
            = s.productionSelection.length := by omega
        have hle := hge t ht
        have hpre : (s.keptAll.take first).length = first := by
          simp only [List.length_take, length_keptAll]
          omega
        simp only [hall, splice]
        rw [List.append_assoc, List.getElem?_append_right (by omega),
          List.getElem?_append_right (by simp [chosenAll, hpre]; omega),
          List.getElem?_drop, hpre]
        simp only [chosenAll, List.length_map, List.length_range]
        rw [show first + 0 + (t + s.productionSelection.length - first
          - s.productionSelection.length) = t from by omega]
        exact s.keptAll_getElem? hlt
  · have hedit : s.edit .insert = s := by
      simp [edit, cityInsertInWorklist, Nat.eq_zero_of_not_pos hp]
    have hdes : s.designated .insert
        = s.worklistSelection.map .kept := by
      by_cases hnil : s.worklistSelection = []
      · simp [designated, hnil, Nat.eq_zero_of_not_pos hp]
      · simp [designated, hnil]
    rw [hedit, hdes]
    exact ⟨s.keptAll, edited_same h
      (drawn_keptAll h (fun _ => id) (fun h => absurd h hp) htrades)⟩

-- ==== moving up and down

theorem jsSet_jsSet {α : Type} {wl : List (Option α)} {i j : Nat}
    (hi : i < wl.length) (hj : j < wl.length) :
    jsSet (jsSet wl i (jsGet wl j)) j (jsGet wl i) = swapAt wl i j := by
  rw [swapAt_of_lt hi hj]
  simp [jsSet, jsGet, hi, hj]

theorem taskUpLoop_eq {α : Type} {wl : List (Option α)} {sel : List Nat}
    (h : ∀ t ∈ sel, t < wl.length) :
    taskUpLoop wl sel = swapAll (· - 1) wl sel := by
  induction sel generalizing wl with
  | nil => rfl
  | cons t rest ih =>
    have ht := h t List.mem_cons_self
    have hm : t - 1 < wl.length := by omega
    show taskUpLoop
      (jsSet (jsSet wl (t - 1) (jsGet wl t)) t (jsGet wl (t - 1))) rest
        = _
    rw [jsSet_jsSet hm ht, ih]
    · rfl
    · intro u hu
      rw [(swapAt_perm hm ht).length_eq]
      exact h u (List.mem_cons_of_mem t hu)

theorem taskDownLoop_eq {α : Type} {wl : List (Option α)}
    {sel : List Nat} (h : ∀ t ∈ sel, t + 1 < wl.length) :
    taskDownLoop wl sel = swapAll (· + 1) wl sel := by
  induction sel generalizing wl with
  | nil => rfl
  | cons t rest ih =>
    have hm := h t List.mem_cons_self
    have ht : t < wl.length := by omega
    show taskDownLoop
      (jsSet (jsSet wl (t + 1) (jsGet wl t)) t (jsGet wl (t + 1))) rest
        = _
    rw [jsSet_jsSet hm ht, ih]
    · rfl
    · intro u hu
      rw [(swapAt_perm hm ht).length_eq]
      exact h u (List.mem_cons_of_mem t hu)

theorem le_of_getLast? {sel : List Nat} (hinc : sel.Pairwise (· < ·))
    {last : Nat} (hlast : sel.getLast? = some last) :
    ∀ t ∈ sel, t ≤ last := by
  obtain ⟨front, rfl⟩ := List.getLast?_eq_some_iff.mp hlast
  intro t ht
  rcases List.mem_append.mp ht with hf | hl
  · exact Nat.le_of_lt
      ((List.pairwise_append.mp hinc).2.2 t hf last (by simp))
  · exact Nat.le_of_eq (List.mem_singleton.mp hl)

theorem edited_down (h : s.Orderly) :
    ∃ srcs, s.Edited .down (s.edit .down) srcs (s.designated .down) := by
  have htrades : ¬ s.Trades .down := not_trades (by decide)
  have hdrawn : s.Drawn .down s.keptAll :=
    drawn_keptAll h (fun _ => id) (fun _ => id) htrades
  cases hlast : s.worklistSelection.getLast? with
  | none =>
    have hedit : s.edit .down = s := by
      simp [edit, cityWorklistTaskDown, hlast]
    rw [hedit]
    exact ⟨s.keptAll, edited_same h hdrawn⟩
  | some last =>
    by_cases hend : last + 1 = s.worklist.length
    · have hedit : s.edit .down = s := by
        simp [edit, cityWorklistTaskDown, hlast, hend]
      rw [hedit]
      exact ⟨s.keptAll, edited_same h hdrawn⟩
    · have hmem := List.mem_of_getLast? hlast
      have hroom : ∀ t ∈ s.worklistSelection,
          t + 1 < s.worklist.length := by
        intro t ht
        have hle := le_of_getLast? h.increasing hlast t ht
        have hlt := h.within last hmem
        omega
      have hin : ∀ t ∈ s.worklistSelection.reverse,
          t + 1 < s.keptAll.length ∧ t < s.keptAll.length := by
        intro t ht
        have := hroom t (List.mem_reverse.mp ht)
        rw [length_keptAll]
        omega
      have hclear :
          s.worklistSelection.reverse.Pairwise (ClearOf (· + 1)) := by
        rw [List.pairwise_reverse]
        apply h.increasing.imp
        intro u t hlt
        show u ≠ t ∧ u ≠ t + 1 ∧ u + 1 ≠ t + 1
        omega
      have hmoved := (getElem?_swapAll hin hclear).2
      have hperm := swapAll_perm hin
      have hdes := map_getElem?_eq s.worklistSelection
        (swapAll (· + 1) s.keptAll s.worklistSelection.reverse)
        (· + 1) .kept ?_
      · have hloop : taskDownLoop s.worklist s.worklistSelection.reverse
            = swapAll (· + 1) s.worklist s.worklistSelection.reverse :=
          taskDownLoop_eq fun t ht => hroom t (List.mem_reverse.mp ht)
        refine ⟨swapAll (· + 1) s.keptAll s.worklistSelection.reverse,
          edited_sent (hdrawn.perm hperm) htrades ?_ ?_ ?_ ?_⟩
        · simp [edit, cityWorklistTaskDown, hlast, hend,
            sendCityWorklist, hloop, List.map_take, swapAll_map,
            keptAll_item]
        · simp [edit, cityWorklistTaskDown, hlast, hend,
            sendCityWorklist]
        · have hinc := h.increasing.map (· + 1)
            fun _ _ hlt => Nat.add_lt_add_right hlt 1
          simpa only [edit, cityWorklistTaskDown, hlast, hend,
            sendCityWorklist, if_false] using hinc
        · simpa only [edit, cityWorklistTaskDown, hlast, hend,
            sendCityWorklist, if_false, designated] using hdes
      · intro t ht
        have hlt := hroom t ht
        have hfits := h.fits
        refine ⟨by omega, ?_⟩
        rw [hmoved t (List.mem_reverse.mpr ht)]
        exact s.keptAll_getElem? (by omega)

/-- The first item of the list is the production's, and the rest as
before. -/
def tradedAll (s : WorklistTab) : List Source := s.keptAll.set 0 .current

theorem mem_tradedAll_current (h0 : 0 < s.worklist.length) :
    .current ∈ s.tradedAll :=
  List.mem_of_getElem? (i := 0) (by simp [tradedAll, h0])

theorem kept_mem_tradedAll {i : Nat} (hi : i < s.worklist.length) :
    .kept i ∈ s.tradedAll ↔ i ≠ 0 := by
  constructor
  · intro hmem heq
    subst heq
    obtain ⟨j, hj⟩ := List.mem_iff_getElem?.mp hmem
    by_cases hj0 : j = 0
    · subst hj0
      simp [tradedAll, hi] at hj
    · simp only [tradedAll, List.getElem?_set, Ne.symm hj0, if_false] at hj
      by_cases hjl : j < s.worklist.length
      · rw [s.keptAll_getElem? hjl, Option.some_inj] at hj
        exact hj0 (Source.kept.inj hj)
      · rw [List.getElem?_eq_none (by simpa using hjl)] at hj
        cases hj
  · intro hne
    apply List.mem_of_getElem? (i := i)
    rw [tradedAll, List.getElem?_set_ne (Ne.symm hne)]
    exact s.keptAll_getElem? hi

theorem drawn_tradedAll (h : s.Orderly) (h0 : 0 < s.worklist.length)
    (htrades : s.Trades .up) : s.Drawn .up s.tradedAll where
  real src hsrc := by
    rcases List.mem_or_eq_of_mem_set hsrc with hk | rfl
    · exact h.real_keptAll src hk
    · rfl
  once := s.nodup_keptAll.set s.not_mem_keptAll_current
  kept i hi := by
    rw [kept_mem_tradedAll hi]
    simp [Loses, htrades]
  chosen j hj := by
    constructor
    · intro hmem
      rcases List.mem_or_eq_of_mem_set hmem with hk | heq
      · exact absurd hk s.not_mem_keptAll_chosen
      · cases heq
    · exact False.elim
  current := ⟨fun _ => htrades, fun _ => mem_tradedAll_current h0⟩

/-- Moving up from a list drawn from `from_`, once position 0 is not
selected any more. -/
theorem edited_finishTaskUp (h : s.Orderly) (t : WorklistTab)
    {origin : List Source} (horigin : s.Drawn .up origin)
    (hwl : t.worklist = origin.map s.item)
    (hlen : origin.length = s.worklist.length)
    (hkept : ∀ i < s.worklist.length, i ≠ 0 →
      origin[i]? = some (.kept i))
    {packets : List WorklistPacket} (hpackets : s.ChangeSent packets .up)
    (hsent : t.sent = s.sent ++ packets) (hcity : t.cityId = s.cityId)
    {rest : List Nat} (hinc : rest.Pairwise (· < ·))
    (hrest : ∀ u ∈ rest, 0 < u ∧ u < s.worklist.length) :
    ∃ srcs, s.Edited .up (t.finishTaskUp rest) srcs
      (rest.map .kept) := by
  have hin : ∀ u ∈ rest, u - 1 < origin.length ∧ u < origin.length := by
    intro u hu
    have := hrest u hu
    omega
  have hclear : rest.Pairwise (ClearOf (· - 1)) := by
    apply hinc.imp_of_mem
    intro a b ha hb hlt
    have hpos := hrest a ha
    show b ≠ a ∧ b ≠ a - 1 ∧ b - 1 ≠ a - 1
    omega
  have hmoved := (getElem?_swapAll hin hclear).2
  have hdes := map_getElem?_eq rest (swapAll (· - 1) origin rest) (· - 1)
    .kept ?_
  · have hloop : taskUpLoop t.worklist rest
        = (swapAll (· - 1) origin rest).map s.item := by
      rw [swapAll_map, ← hwl]
      apply taskUpLoop_eq
      intro u hu
      rw [hwl, List.length_map, hlen]
      exact (hrest u hu).2
    refine ⟨swapAll (· - 1) origin rest,
      { horigin.perm (swapAll_perm hin) with
        worklist := ?_, sent := .inr ⟨packets, hpackets, ?_⟩
        increasing := ?_, designates := ?_ }⟩
    · simp [finishTaskUp, sendCityWorklist, hloop, List.map_take]
    · simp [finishTaskUp, sendCityWorklist, hsent, hcity]
    · show (rest.map (· - 1)).Pairwise (· < ·)
      rw [List.pairwise_map]
      apply hinc.imp_of_mem
      intro a b ha hb hlt
      have hpos := hrest a ha
      omega
    · exact hdes
  · intro u hu
    obtain ⟨hpos, hlt⟩ := hrest u hu
    have hfits := h.fits
    refine ⟨by omega, ?_⟩
    rw [hmoved u hu]
    exact hkept u hlt (by omega)

theorem edited_up (h : s.Orderly) :
    ∃ srcs, s.Edited .up (s.edit .up) srcs (s.designated .up) := by
  have hall : s.keptAll.map s.item = s.worklist := s.keptAll_item
  have hget : ∀ i < s.worklist.length, i ≠ 0 →
      s.keptAll[i]? = some (.kept i) :=
    fun i hi _ => s.keptAll_getElem? hi
  have hplain (htrades : ¬ s.Trades .up) : s.Drawn .up s.keptAll :=
    drawn_keptAll h (fun _ hl => htrades hl.1) (fun _ => id) htrades
  cases hsel : s.worklistSelection with
  | nil =>
    have htrades : ¬ s.Trades .up := by simp [Trades, hsel]
    have hedit : s.edit .up = s := by
      simp [edit, cityWorklistTaskUp, hsel]
    have hdes : s.designated .up = s.worklistSelection.map .kept := by
      simp [designated, hsel]
    rw [hedit, hdes]
    exact ⟨s.keptAll, edited_same h (hplain htrades)⟩
  | cons first rest =>
    have hinc := h.increasing
    rw [hsel] at hinc
    obtain ⟨hbelow, hrinc⟩ := List.pairwise_cons.mp hinc
    have hwithin : ∀ u ∈ rest, u < s.worklist.length := by
      intro u hu
      exact h.within u (by simp [hsel, hu])
    by_cases hzero : first = 0
    · subst hzero
      have h0 : 0 < s.worklist.length := h.within 0 (by simp [hsel])
      have hrest : ∀ u ∈ rest, 0 < u ∧ u < s.worklist.length :=
        fun u hu => ⟨hbelow u hu, hwithin u hu⟩
      have hdes : s.designated .up = rest.map .kept := by
        have hfilter : rest.filter (· ≠ 0) = rest :=
          List.filter_eq_self.mpr fun u hu => by
            simpa using Nat.ne_of_gt (hbelow u hu)
        simpa [designated, hsel] using congrArg (List.map _) hfilter
      obtain ⟨u, hu⟩ := Option.isSome_iff_exists.mp (h.jsGet_isSome h0)
      rw [hdes]
      by_cases hp : u = s.production
      · have htrades : ¬ s.Trades .up := by simp [Trades, hu, hp]
        have hedit : s.edit .up = s.finishTaskUp rest := by
          simp [edit, cityWorklistTaskUp, hsel, hu, hp]
        rw [hedit]
        exact edited_finishTaskUp h s (hplain htrades) hall.symm
          s.length_keptAll hget (.inr ⟨htrades, rfl⟩)
          (by rw [List.append_nil]) rfl hrinc hrest
      · let traded : WorklistTab :=
          { s with worklist := jsSet s.worklist 0 (some s.production) }
        have htrades : s.Trades .up :=
          ⟨rfl, by simp [hsel], by simpa [hu] using hp⟩
        have hdiff : u.kind ≠ s.production.kind
            ∨ u.value ≠ s.production.value := by
          by_contra hsame
          rw [not_or, not_not, not_not] at hsame
          apply hp
          cases u
          cases hprod : s.production
          simp_all
        have hedit : s.edit .up
            = (traded.sendCityChange u).finishTaskUp rest := by
          simp only [edit, cityWorklistTaskUp, hsel, hu, if_true,
            if_pos hdiff, traded]
        rw [hedit]
        refine edited_finishTaskUp h (traded.sendCityChange u)
          (drawn_tradedAll h h0 htrades) ?_ ?_ ?_
          (.inl ⟨htrades, u, hu, rfl⟩) rfl rfl hrinc hrest
        · show jsSet s.worklist 0 (some s.production) = _
          simp [tradedAll, jsSet, h0, List.map_set, hall, item]
        · simp [tradedAll]
        · intro i hi hne
          rw [tradedAll, List.getElem?_set_ne (Ne.symm hne)]
          exact s.keptAll_getElem? hi
    · have hpos : ∀ u ∈ first :: rest, 0 < u := by
        intro u hu
        rcases List.mem_cons.mp hu with rfl | hr
        · omega
        · have := hbelow u hr
          omega
      have htrades : ¬ s.Trades .up := by simp [Trades, hsel, hzero]
      have hedit : s.edit .up = s.finishTaskUp (first :: rest) := by
        simp [edit, cityWorklistTaskUp, hsel, hzero]
      have hdes : s.designated .up = (first :: rest).map .kept := by
        have hfilter :
            (first :: rest).filter (· ≠ 0) = first :: rest :=
          List.filter_eq_self.mpr fun u hu => by
            simpa using Nat.ne_of_gt (hpos u hu)
        simp only [designated, hsel, hfilter]
      rw [hedit, hdes]
      exact edited_finishTaskUp h s (hplain htrades) hall.symm
        s.length_keptAll hget (.inr ⟨htrades, rfl⟩)
        (by rw [List.append_nil]) rfl hinc
        fun u hu => ⟨hpos u hu, h.within u (hsel ▸ hu)⟩

-- ==== removing

theorem splice_nil {α : Type} (l : List α) (i : Nat) :
    splice l i 1 [] = l.eraseIdx i := by
  simp [splice, List.eraseIdx_eq_take_drop_succ]

theorem foldl_splice {α : Type} (l : List α) (sel : List Nat) :
    sel.reverse.foldl (fun wl t => splice wl t 1 []) l
      = eraseAll l sel := by
  rw [List.foldl_reverse]
  simp only [splice_nil]
  rfl

theorem edited_remove (h : s.Orderly) :
    ∃ srcs, s.Edited .remove (s.edit .remove) srcs
      (s.designated .remove) := by
  have htrades : ¬ s.Trades .remove := not_trades (by decide)
  have hdrawn := drawn_gone h (e := .remove) h.increasing
    (fun _ _ => Iff.rfl) (fun _ => id) htrades
  by_cases hnil : s.worklistSelection = []
  · have hedit : s.edit .remove = s := by
      simp [edit, cityWorklistTaskRemove, hnil]
    have hdes : s.designated .remove
        = s.worklistSelection.map .kept := by
      simp [designated, hnil]
    rw [hnil] at hdrawn
    rw [hedit, hdes]
    exact ⟨s.keptAll, edited_same h hdrawn⟩
  · refine ⟨eraseAll s.keptAll s.worklistSelection,
      edited_sent hdrawn htrades ?_ ?_ ?_ ?_⟩
    · rw [List.map_take, eraseAll_map, keptAll_item, ← foldl_splice]
      simp [edit, cityWorklistTaskRemove, hnil, sendCityWorklist]
    · simp [edit, cityWorklistTaskRemove, hnil, sendCityWorklist]
    · simp [edit, cityWorklistTaskRemove, hnil, sendCityWorklist]
    · simp [edit, cityWorklistTaskRemove, hnil, sendCityWorklist,
        designated]

theorem exists_cut (idx : Nat) {sel : List Nat}
    (hinc : sel.Pairwise (· < ·)) :
    ∃ below above, sel = below ++ above
      ∧ (∀ t ∈ below, t ≤ idx) ∧ ∀ t ∈ above, idx < t := by
  induction sel with
  | nil =>
    exact ⟨[], [], rfl, List.forall_mem_nil _, List.forall_mem_nil _⟩
  | cons t rest ih =>
    obtain ⟨hfirst, hrest⟩ := List.pairwise_cons.mp hinc
    by_cases ht : t ≤ idx
    · obtain ⟨below, above, hsel, hb, ha⟩ := ih hrest
      refine ⟨t :: below, above, by rw [hsel, List.cons_append], ?_, ha⟩
      exact List.forall_mem_cons.mpr ⟨ht, hb⟩
    · refine ⟨[], t :: rest, rfl, List.forall_mem_nil _, ?_⟩
      intro u hu
      rcases List.mem_cons.mp hu with rfl | hu
      · omega
      · have := hfirst u hu
        omega

theorem splitAbove_append {idx : Nat} {below above : List Nat}
    (hb : ∀ t ∈ below, t ≤ idx) (ha : ∀ t ∈ above, idx < t) :
    splitAbove idx (below ++ above) = (below, above) := by
  have hstop : below.reverse.takeWhile (idx < ·) = [] := by
    cases hrev : below.reverse with
    | nil => rfl
    | cons t rest =>
      have ht : t ∈ below := by
        rw [← List.mem_reverse, hrev]
        exact List.mem_cons_self
      have := hb t ht
      rw [List.takeWhile_cons_of_neg]
      simpa using this
  have htake : (below ++ above).reverse.takeWhile (idx < ·)
      = above.reverse := by
    rw [List.reverse_append, List.takeWhile_append_of_pos, hstop,
      List.append_nil]
    intro t ht
    simpa using ha t (List.mem_reverse.mp ht)
  simp only [splitAbove, htake, List.reverse_reverse]
  simp

theorem filter_below {idx : Nat} {below : List Nat}
    (hinc : below.Pairwise (· < ·)) (hb : ∀ t ∈ below, t ≤ idx) :
    below.filter (· ≠ idx)
      = if below.getLast? = some idx then below.dropLast else below := by
  by_cases hlast : below.getLast? = some idx
  · obtain ⟨front, rfl⟩ := List.getLast?_eq_some_iff.mp hlast
    have hcross := (List.pairwise_append.mp hinc).2.2
    have hfront : front.filter (· ≠ idx) = front :=
      List.filter_eq_self.mpr fun t ht => by
        simpa using Nat.ne_of_lt (hcross t ht idx (by simp))
    rw [if_pos hlast, List.filter_append, hfront]
    simp
  · rw [if_neg hlast]
    apply List.filter_eq_self.mpr
    intro t ht
    have hne : t ≠ idx := by
      rintro rfl
      cases hl : below.getLast? with
      | none =>
        rw [List.getLast?_eq_none_iff] at hl
        rw [hl] at ht
        cases ht
      | some last =>
        have hle := le_of_getLast? hinc hl t ht
        have hge := hb last (List.mem_of_getLast? hl)
        apply hlast
        rw [hl, Nat.le_antisymm hge hle]
    simpa using hne

/-- The position of an item once the one at `idx` is gone. -/
def movedFrom (idx t : Nat) : Nat := if idx < t then t - 1 else t

theorem shiftAbove_eq {idx : Nat} {sel : List Nat}
    (hinc : sel.Pairwise (· < ·)) :
    shiftAbove idx sel = (sel.filter (· ≠ idx)).map (movedFrom idx) := by
  obtain ⟨below, above, rfl, hb, ha⟩ := exists_cut idx hinc
  have hbinc := (List.pairwise_append.mp hinc).1
  have habove : (above.filter (· ≠ idx)).map (movedFrom idx)
      = above.map (· - 1) := by
    have hkeep : above.filter (· ≠ idx) = above :=
      List.filter_eq_self.mpr fun t ht => by
        simpa using Nat.ne_of_gt (ha t ht)
    rw [hkeep]
    apply List.map_congr_left
    intro t ht
    simp [movedFrom, ha t ht]
  have hbelow : (below.filter (· ≠ idx)).map (movedFrom idx)
      = below.filter (· ≠ idx) := by
    apply (List.map_congr_left ?_).trans (List.map_id _)
    intro t ht
    have := hb t (List.mem_of_mem_filter ht)
    simp [movedFrom, Nat.not_lt.mpr this]
  rw [shiftAbove, splitAbove_append hb ha, List.filter_append,
    List.map_append, habove, hbelow, filter_below hbinc hb]

theorem movedFrom_lt {idx t u : Nat} (hlt : t < u) (ht : t ≠ idx) :
    movedFrom idx t < movedFrom idx u := by
  simp only [movedFrom]
  split <;> split <;> omega

theorem edited_directRemove (h : s.Orderly) (idx : Nat) :
    ∃ srcs, s.Edited (.directRemove idx) (s.edit (.directRemove idx)) srcs
      (s.designated (.directRemove idx)) := by
  have htrades : ¬ s.Trades (.directRemove idx) :=
    not_trades (by simp)
  have hdrawn := drawn_gone h (e := .directRemove idx)
    (List.pairwise_singleton _ idx)
    (fun i _ => by simp [Loses]) (fun _ => id) htrades
  have hdes := map_getElem?_eq (s.worklistSelection.filter (· ≠ idx))
    (s.keptAll.eraseIdx idx) (movedFrom idx) .kept ?_
  · refine ⟨s.keptAll.eraseIdx idx, edited_sent hdrawn htrades
      ?_ ?_ ?_ ?_⟩
    · have hmap := eraseAll_map s.item s.keptAll [idx]
      rw [keptAll_item] at hmap
      show (splice s.worklist idx 1 []).take maxLenWorklist = _
      rw [List.map_take, splice_nil]
      exact congrArg (List.take maxLenWorklist) hmap.symm
    · rfl
    · show (shiftAbove idx s.worklistSelection).Pairwise (· < ·)
      rw [shiftAbove_eq h.increasing, List.pairwise_map]
      apply (h.increasing.filter _).imp_of_mem
      intro t u ht _ hlt
      exact movedFrom_lt hlt (by simpa using List.of_mem_filter ht)
    · show (shiftAbove idx s.worklistSelection).map _ = _
      rw [shiftAbove_eq h.increasing]
      exact hdes
  · intro t ht
    have hlt := h.within t (List.mem_of_mem_filter ht)
    have hfits := h.fits
    have hne : t ≠ idx := by simpa using List.of_mem_filter ht
    simp only [movedFrom]
    by_cases hgt : idx < t
    · rw [if_pos hgt]
      refine ⟨by omega, ?_⟩
      rw [List.getElem?_eraseIdx_of_ge (by omega),
        show t - 1 + 1 = t from by omega]
      exact s.keptAll_getElem? hlt
    · rw [if_neg hgt]
      refine ⟨by omega, ?_⟩
      rw [List.getElem?_eraseIdx_of_lt (by omega)]
      exact s.keptAll_getElem? hlt

-- ==== exchanging

/-- The replacing loop on a list without holes: it does not throw, and
says `same` only of a list it left as it was. -/
theorem exchangeLoop_eq (wl : List (Option Universal))
    (pairs : List (Nat × Universal)) (hwhole : ∀ item ∈ wl, item.isSome)
    (hlt : ∀ p ∈ pairs, p.1 < wl.length) (same : Bool) :
    (exchangeLoop wl same pairs).thrown = false
      ∧ (exchangeLoop wl same pairs).worklist
        = setAll wl (pairs.map fun p => (p.1, some p.2))
      ∧ ((exchangeLoop wl same pairs).same = true → same = true
        ∧ (exchangeLoop wl same pairs).worklist = wl) := by
  induction pairs generalizing wl same with
  | nil => exact ⟨rfl, rfl, fun hs => ⟨hs, rfl⟩⟩
  | cons p rest ih =>
    obtain ⟨t, u⟩ := p
    have ht : t < wl.length := hlt (t, u) List.mem_cons_self
    have hwhole' : ∀ item ∈ wl.set t (some u), item.isSome := by
      intro item hitem
      rcases List.mem_or_eq_of_mem_set hitem with hitem | rfl
      · exact hwhole item hitem
      · rfl
    have hlt' : ∀ q ∈ rest, q.1 < (wl.set t (some u)).length := by
      intro q hq
      rw [List.length_set]
      exact hlt q (List.mem_cons_of_mem (t, u) hq)
    have hset : jsSet wl t (some u) = wl.set t (some u) := by
      simp [jsSet, ht]
    cases same with
    | false =>
      obtain ⟨hthrown, hloop, hsame⟩ := ih _ hwhole' hlt' false
      simp only [exchangeLoop, hset, Bool.false_eq_true, if_false]
      exact ⟨hthrown, hloop, fun hs => nomatch (hsame hs).1⟩
    | true =>
      obtain ⟨item, hitem⟩ :=
        Option.isSome_iff_exists.mp (hwhole _ (List.getElem_mem ht))
      have hget : jsGet wl t = some item := by
        simp [jsGet, List.getElem?_eq_getElem ht, hitem]
      obtain ⟨hthrown, hloop, hsame⟩ := ih _ hwhole' hlt'
        (item.kind == u.kind && item.value == u.value)
      simp only [exchangeLoop, hset, hget, if_true]
      refine ⟨hthrown, hloop, fun hs => ⟨trivial, ?_⟩⟩
      obtain ⟨heq, hwl⟩ := hsame hs
      have hu : item = u := by
        rw [Bool.and_eq_true, beq_iff_eq, beq_iff_eq] at heq
        cases item
        cases u
        rw [Universal.mk.injEq]
        exact heq
      rw [hwl, ← hu, ← hitem, List.set_getElem_self]

/-- The list of sources where the selected items are replaced one by
one. -/
def exchangedAll (s : WorklistTab) : List Source :=
  setAll s.keptAll (s.worklistSelection.zip s.chosenAll)

section

variable (hlen : s.productionSelection.length
  = s.worklistSelection.length)

include hlen

theorem zip_fst :
    (s.worklistSelection.zip s.chosenAll).map Prod.fst
      = s.worklistSelection :=
  List.map_fst_zip (by simp [chosenAll, hlen])

theorem zip_snd :
    (s.worklistSelection.zip s.chosenAll).map Prod.snd = s.chosenAll :=
  List.map_snd_zip (by simp [chosenAll, hlen])

/-- The `j`-th selected position gets the `j`-th chosen item. -/
theorem getElem?_exchangedAll (h : s.Orderly) {j : Nat}
    (hj : j < s.worklistSelection.length) :
    s.exchangedAll[s.worklistSelection[j]]? = some (.chosen j) := by
  have hmem : (s.worklistSelection[j], Source.chosen j)
      ∈ s.worklistSelection.zip s.chosenAll := by
    apply List.mem_of_getElem? (i := j)
    rw [List.getElem?_zip_eq_some]
    simp [chosenAll, hlen, hj]
  apply getElem?_setAll_of_mem _ _ hmem
  · rw [zip_fst hlen]
    exact h.increasing.imp Nat.ne_of_lt
  · intro p hp
    rw [length_keptAll]
    exact h.within p.1 (List.of_mem_zip hp).1

theorem kept_mem_exchangedAll (h : s.Orderly) {i : Nat}
    (hi : i < s.worklist.length) :
    .kept i ∈ s.exchangedAll ↔ i ∉ s.worklistSelection := by
  constructor
  · intro hmem hsel
    obtain ⟨p, hp⟩ := List.mem_iff_getElem?.mp hmem
    by_cases hps : p ∈ s.worklistSelection
    · obtain ⟨j, hj, rfl⟩ := List.getElem_of_mem hps
      rw [getElem?_exchangedAll hlen h hj] at hp
      cases hp
    · rw [exchangedAll, getElem?_setAll_of_notMem] at hp
      · have hlt : p < s.worklist.length := by
          by_contra hge
          rw [List.getElem?_eq_none (by simpa using hge)] at hp
          cases hp
        rw [s.keptAll_getElem? hlt, Option.some_inj] at hp
        exact hps (Source.kept.inj hp ▸ hsel)
      · rw [zip_fst hlen]
        exact hps
  · intro hsel
    apply List.mem_of_getElem? (i := i)
    rw [exchangedAll, getElem?_setAll_of_notMem]
    · exact s.keptAll_getElem? hi
    · rw [zip_fst hlen]
      exact hsel

theorem drawn_exchangedAll (h : s.Orderly) (hex : s.Exchanges) :
    s.Drawn .exchange s.exchangedAll where
  real src hsrc := by
    rcases mem_setAll hsrc with hk | hc
    · exact h.real_keptAll src hk
    · rw [zip_snd hlen] at hc
      exact real_chosenAll src hc
  once := by
    apply nodup_setAll s.nodup_keptAll
    · rw [zip_snd hlen]
      exact s.nodup_chosenAll
    · rw [zip_snd hlen]
      intro src hsrc hk
      obtain ⟨j, -, rfl⟩ := List.mem_map.mp hsrc
      exact s.not_mem_keptAll_chosen hk
  kept i hi := by
    rw [kept_mem_exchangedAll hlen h hi]
    simp [Loses, hex]
  chosen j hj := by
    have hmem := List.mem_of_getElem?
      (getElem?_exchangedAll hlen h (hlen ▸ hj))
    simp [hmem, UsesChosen, hex]
  current := by
    have htrades : ¬ s.Trades .exchange := not_trades (by decide)
    have hnot : Source.current ∉ s.exchangedAll := by
      intro hmem
      rcases mem_setAll hmem with hk | hc
      · exact s.not_mem_keptAll_current hk
      · rw [zip_snd hlen] at hc
        exact s.not_mem_chosenAll_current hc
    simp [hnot, htrades]

omit hlen in
theorem exchangedAll_item :
    s.exchangedAll.map s.item
      = setAll s.worklist
        ((s.worklistSelection.zip s.productionSelection).map
          fun p => (p.1, some p.2)) := by
  have hzip : (s.worklistSelection.zip s.chosenAll).map
      (fun p => (p.1, s.item p.2))
        = (s.worklistSelection.zip s.productionSelection).map
          fun p => (p.1, some p.2) := by
    have hzips : s.worklistSelection.zip (s.chosenAll.map s.item)
        = s.worklistSelection.zip (s.productionSelection.map some) := by
      rw [chosenAll_item]
    rw [List.zip_map_right, List.zip_map_right] at hzips
    exact hzips
  rw [exchangedAll, setAll_map, keptAll_item, hzip]

end

/-- Exchanging one item for several pushes none of them past the limit. -/
def ExchangeFits (s : WorklistTab) : Prop :=
  s.worklistSelection.length = 1 → ∀ i ∈ s.worklistSelection,
    i + s.productionSelection.length ≤ maxLenWorklist

instance : Decidable s.ExchangeFits :=
  inferInstanceAs (Decidable (_ → ∀ _ ∈ _, _))

theorem edited_exchange_each (h : s.Orderly) (hex : s.Exchanges)
    (hlen : s.productionSelection.length = s.worklistSelection.length) :
    ∃ srcs, s.Edited .exchange (s.edit .exchange) srcs
      (s.designated .exchange) := by
  have hdrawn := drawn_exchangedAll hlen h hex
  have hpos : s.productionSelection.length ≠ 0 := by
    simpa using hex.1
  obtain ⟨hthrown, hloop, hsame⟩ := exchangeLoop_eq s.worklist
    (s.worklistSelection.zip s.productionSelection) h.whole
    (fun p hp => h.within p.1 (List.of_mem_zip hp).1) true
  have hitems := s.exchangedAll_item
  rw [← hloop] at hitems
  have hcut : s.exchangedAll.take maxLenWorklist = s.exchangedAll := by
    apply List.take_of_length_le
    rw [exchangedAll, length_setAll, length_keptAll]
    exact h.fits
  have hcutwl : (exchangeLoop s.worklist true
      (s.worklistSelection.zip s.productionSelection)).worklist.take
        maxLenWorklist = (exchangeLoop s.worklist true
          (s.worklistSelection.zip s.productionSelection)).worklist := by
    rw [← hitems, ← List.map_take, hcut]
  have hdes : s.worklistSelection.map
      ((s.exchangedAll.take maxLenWorklist)[·]?)
        = (s.designated .exchange).map some := by
    rw [designated, if_pos hex, hcut, hlen]
    apply List.ext_getElem
    · simp
    · intro j hj _
      rw [List.length_map] at hj
      simp [getElem?_exchangedAll hlen h hj]
  by_cases hs : (exchangeLoop s.worklist true
      (s.worklistSelection.zip s.productionSelection)).same = true
  · have hedit : s.edit .exchange
        = { s with worklist := (exchangeLoop s.worklist true
              (s.worklistSelection.zip s.productionSelection)).worklist } := by
      simp only [edit, cityExchangeWorklistTask, if_neg hpos, if_pos hlen,
        hs, Bool.or_true, if_true]
    rw [hedit]
    exact ⟨s.exchangedAll,
      { hdrawn with
        worklist := by rw [hcut, hitems]
        sent := .inl ⟨rfl, (hsame hs).2⟩
        increasing := h.increasing
        designates := hdes }⟩
  · have hedit : s.edit .exchange
        = sendCityWorklist { s with worklist :=
            (exchangeLoop s.worklist true (s.worklistSelection.zip
              s.productionSelection)).worklist } := by
      simp only [edit, cityExchangeWorklistTask, if_neg hpos, if_pos hlen,
        hthrown, Bool.not_eq_true _ ▸ hs, Bool.or_false, if_false,
        Bool.false_eq_true]
    rw [hedit]
    refine ⟨s.exchangedAll, edited_sent hdrawn (not_trades (by decide))
      ?_ rfl h.increasing hdes⟩
    show List.take maxLenWorklist _ = _
    rw [hcutwl, hcut, hitems]

theorem edited_exchange_one (h : s.Orderly) (hfit : s.ExchangeFits)
    (hex : s.Exchanges) {i : Nat} (hsel : s.worklistSelection = [i])
    (hlen : s.productionSelection.length ≠ s.worklistSelection.length) :
    ∃ srcs, s.Edited .exchange (s.edit .exchange) srcs
      (s.designated .exchange) := by
  have htrades : ¬ s.Trades .exchange := not_trades (by decide)
  have hpos : s.productionSelection.length ≠ 0 := by
    simpa using hex.1
  have hi : i < s.worklist.length := h.within i (by simp [hsel])
  have hgone := drawn_gone_chosen h (e := .exchange)
    (List.pairwise_singleton _ i)
    (fun k _ => by simp [Loses, hex, hsel]) hex htrades
  have hperm : (splice s.keptAll i 1 s.chosenAll).Perm
      (eraseAll s.keptAll [i] ++ s.chosenAll) := by
    show (splice s.keptAll i 1 s.chosenAll).Perm
      (s.keptAll.eraseIdx i ++ s.chosenAll)
    rw [List.eraseIdx_eq_take_drop_succ, splice, List.append_assoc,
      List.append_assoc]
    exact List.Perm.append_left _ List.perm_append_comm
  have hrange : i :: (List.range (s.productionSelection.length - 1)).map
      (i + 1 + ·)
        = (List.range s.productionSelection.length).map (i + ·) := by
    obtain ⟨n, hn⟩ := Nat.exists_eq_succ_of_ne_zero hpos
    rw [hn, List.range_succ_eq_map]
    simp [Nat.add_assoc, Nat.add_comm 1, Function.comp_def]
  have hedit : s.edit .exchange
      = sendCityWorklist { s with
          worklist :=
            splice s.worklist i 1 (s.productionSelection.map some)
          worklistSelection :=
            (List.range s.productionSelection.length).map
              (i + ·) } := by
    rw [← hrange]
    rw [hsel] at hlen
    simp only [edit, cityExchangeWorklistTask, if_neg hpos, hsel,
      if_neg hlen]
  have hdes := map_getElem?_eq (List.range s.productionSelection.length)
    (splice s.keptAll i 1 s.chosenAll) (i + ·) .chosen ?_
  · rw [hedit]
    refine ⟨splice s.keptAll i 1 s.chosenAll,
      edited_sent (hgone.perm hperm) htrades ?_ rfl ?_ ?_⟩
    · show List.take maxLenWorklist _ = _
      rw [List.map_take, splice_map, keptAll_item, chosenAll_item]
    · show ((List.range s.productionSelection.length).map
        (i + ·)).Pairwise (· < ·)
      exact List.pairwise_lt_range.map _
        fun _ _ hlt => Nat.add_lt_add_left hlt i
    · rw [designated, if_pos hex]
      exact hdes
  · intro j hj
    have hjp := List.mem_range.mp hj
    have hroom := hfit (by simp [hsel]) i (by simp [hsel])
    refine ⟨by omega, ?_⟩
    have hpre : (s.keptAll.take i).length = i := by
      simp only [List.length_take, length_keptAll]
      omega
    rw [splice, List.append_assoc, List.getElem?_append_right (by omega),
      hpre, Nat.add_sub_cancel_left,
      List.getElem?_append_left (by simpa [chosenAll] using hjp)]
    simp [chosenAll, hjp]

theorem edited_exchange (h : s.Orderly) (hfit : s.ExchangeFits) :
    ∃ srcs, s.Edited .exchange (s.edit .exchange) srcs
      (s.designated .exchange) := by
  by_cases hex : s.Exchanges
  · by_cases hlen : s.productionSelection.length
        = s.worklistSelection.length
    · exact edited_exchange_each h hex hlen
    · obtain ⟨i, hi⟩ :=
        List.length_eq_one_iff.mp (hex.2.resolve_left hlen)
      exact edited_exchange_one h hfit hex hi hlen
  · have hedit : s.edit .exchange = s := by
      simp only [edit, cityExchangeWorklistTask]
      split
      · rfl
      · rename_i hpos
        have hne : s.productionSelection ≠ [] := by simpa using hpos
        have hor := not_and.mp hex hne
        rw [not_or] at hor
        rw [if_neg hor.1]
        split
        · rename_i i hsel
          exact absurd (by rw [hsel]; rfl) hor.2
        · rfl
    have hdes : s.designated .exchange
        = s.worklistSelection.map .kept := if_neg hex
    rw [hedit, hdes]
    exact ⟨s.keptAll, edited_same h (drawn_keptAll h
      (fun _ hl => hex hl.1) (fun _ => hex) (not_trades (by decide)))⟩

end WorklistTab

end Freeciv3d.Web
