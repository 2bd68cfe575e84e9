/-
Lists edited at a list of positions: items erased, traded with the item
next to them, or overwritten. Each edit is natural in the items, so that a
list is edited as the list of where its items come from is.
-/
import Mathlib.Data.List.Basic
import Mathlib.Data.List.Nodup

namespace Lib

-- ==== erasing

/-- The list without the items at the positions of `gone`, from the last
of them on. -/
def eraseAll {α : Type} (l : List α) (gone : List Nat) : List α :=
  gone.foldr (fun t l => l.eraseIdx t) l

theorem eraseAll_map {α β : Type} (f : α → β) (l : List α)
    (gone : List Nat) :
    (eraseAll l gone).map f = eraseAll (l.map f) gone := by
  induction gone with
  | nil => rfl
  | cons t rest ih =>
    show ((eraseAll l rest).eraseIdx t).map f
      = (eraseAll (l.map f) rest).eraseIdx t
    rw [← ih]
    simp [List.eraseIdx_eq_take_drop_succ, List.map_take, List.map_drop]

theorem eraseAll_sublist {α : Type} (l : List α) (gone : List Nat) :
    (eraseAll l gone).Sublist l := by
  induction gone with
  | nil => exact List.Sublist.refl l
  | cons t rest ih => exact (List.eraseIdx_sublist _ t).trans ih

/-- Below the positions that go nothing moves. -/
theorem getElem?_eraseAll {α : Type} (l : List α) {gone : List Nat}
    {p : Nat} (h : ∀ t ∈ gone, p < t) : (eraseAll l gone)[p]? = l[p]? := by
  induction gone with
  | nil => rfl
  | cons t rest ih =>
    show ((eraseAll l rest).eraseIdx t)[p]? = _
    rw [List.getElem?_eraseIdx_of_lt (h t List.mem_cons_self)]
    exact ih fun u hu => h u (List.mem_cons_of_mem t hu)

/-- Exactly the items at the positions of `gone` go. -/
theorem mem_eraseAll {α : Type} {l : List α} (hl : l.Nodup)
    {gone : List Nat} (hinc : gone.Pairwise (· < ·)) {a : α} :
    a ∈ eraseAll l gone ↔ a ∈ l ∧ ∀ t ∈ gone, l[t]? ≠ some a := by
  induction gone with
  | nil => simp [eraseAll]
  | cons t rest ih =>
    obtain ⟨hfirst, hrest⟩ := List.pairwise_cons.mp hinc
    have hget := getElem?_eraseAll l hfirst
    have hnodup : (eraseAll l rest).Nodup :=
      hl.sublist (eraseAll_sublist l rest)
    show a ∈ (eraseAll l rest).eraseIdx t ↔ _
    rw [List.mem_eraseIdx_iff_getElem?]
    constructor
    · rintro ⟨i, hi, hia⟩
      obtain ⟨hal, hne⟩ := (ih hrest).mp (List.mem_of_getElem? hia)
      refine ⟨hal, fun u hu => ?_⟩
      rcases List.mem_cons.mp hu with rfl | hu
      · intro hua
        rw [← hget] at hua
        have hlt := (List.getElem?_eq_some_iff.mp hia).1
        exact hi ((List.getElem?_inj hlt hnodup).mp
          (hia.trans hua.symm))
      · exact hne u hu
    · rintro ⟨hal, hne⟩
      have hmem := (ih hrest).mpr
        ⟨hal, fun u hu => hne u (List.mem_cons_of_mem t hu)⟩
      obtain ⟨i, hi⟩ := List.mem_iff_getElem?.mp hmem
      refine ⟨i, ?_, hi⟩
      rintro rfl
      rw [hget] at hi
      exact hne i List.mem_cons_self hi

-- ==== trading

/-- `l[i]` and `l[j]` traded. -/
def swapAt {α : Type} (l : List α) (i j : Nat) : List α :=
  match l[i]?, l[j]? with
  | some a, some b => (l.set i b).set j a
  | _, _ => l

theorem swapAt_of_lt {α : Type} {l : List α} {i j : Nat}
    (hi : i < l.length) (hj : j < l.length) :
    swapAt l i j = (l.set i l[j]).set j l[i] := by
  simp [swapAt, hi, hj]

theorem swapAt_map {α β : Type} (f : α → β) (l : List α) (i j : Nat) :
    (swapAt l i j).map f = swapAt (l.map f) i j := by
  simp only [swapAt, List.getElem?_map]
  cases l[i]? with
  | none => rfl
  | some a =>
    cases l[j]? with
    | none => rfl
    | some b => simp [List.map_set]

theorem swapAt_perm {α : Type} {l : List α} {i j : Nat}
    (hi : i < l.length) (hj : j < l.length) :
    (swapAt l i j).Perm l := by
  rw [swapAt_of_lt hi hj]
  exact List.set_set_perm hi hj

theorem getElem?_swapAt_left {α : Type} {l : List α} {i j : Nat}
    (hi : i < l.length) (hj : j < l.length) :
    (swapAt l i j)[i]? = l[j]? := by
  rw [swapAt_of_lt hi hj, List.getElem?_set]
  by_cases hij : j = i
  · subst hij
    simp [hi]
  · simp [hij, hi, hj]

theorem getElem?_swapAt_of_ne {α : Type} {l : List α} {i j k : Nat}
    (hi : i < l.length) (hj : j < l.length) (hki : k ≠ i)
    (hkj : k ≠ j) : (swapAt l i j)[k]? = l[k]? := by
  rw [swapAt_of_lt hi hj, List.getElem?_set_ne (Ne.symm hkj),
    List.getElem?_set_ne (Ne.symm hki)]
/-- Every selected position traded with the one it moves to. -/
def swapAll {α : Type} (move : Nat → Nat) (l : List α) (sel : List Nat) :
    List α :=
  sel.foldl (fun l t => swapAt l (move t) t) l

theorem swapAll_map {α β : Type} (f : α → β) (move : Nat → Nat)
    (l : List α) (sel : List Nat) :
    (swapAll move l sel).map f = swapAll move (l.map f) sel := by
  induction sel generalizing l with
  | nil => rfl
  | cons t rest ih =>
    show (swapAll move (swapAt l (move t) t) rest).map f = _
    rw [ih, swapAt_map]
    rfl

theorem swapAll_perm {α : Type} {move : Nat → Nat} {l : List α}
    {sel : List Nat}
    (h : ∀ t ∈ sel, move t < l.length ∧ t < l.length) :
    (swapAll move l sel).Perm l := by
  induction sel generalizing l with
  | nil => exact .refl _
  | cons t rest ih =>
    obtain ⟨hm, ht⟩ := h t List.mem_cons_self
    have hperm := swapAt_perm hm ht
    apply (ih ?_).trans hperm
    intro u hu
    rw [hperm.length_eq]
    exact h u (List.mem_cons_of_mem t hu)

/-- No selected position is in the way of one that moves before it. -/
def ClearOf (move : Nat → Nat) (t u : Nat) : Prop :=
  u ≠ t ∧ u ≠ move t ∧ move u ≠ move t

/-- What the trades leave alone, and where a selected item ends. The
induction is on the selection; the first item of it is where it ends after
one trade, and no later trade touches that position. -/
theorem getElem?_swapAll {α : Type} {move : Nat → Nat} {l : List α}
    {sel : List Nat} (h : ∀ t ∈ sel, move t < l.length ∧ t < l.length)
    (hclear : sel.Pairwise (ClearOf move)) :
    (∀ p, (∀ t ∈ sel, p ≠ t ∧ p ≠ move t) →
      (swapAll move l sel)[p]? = l[p]?)
    ∧ ∀ t ∈ sel, (swapAll move l sel)[move t]? = l[t]? := by
  induction sel generalizing l with
  | nil => exact ⟨fun _ _ => rfl, fun _ ht => nomatch ht⟩
  | cons t rest ih =>
    obtain ⟨hm, ht⟩ := h t List.mem_cons_self
    obtain ⟨hfirst, hrest⟩ := List.pairwise_cons.mp hclear
    have hlen := (swapAt_perm hm ht).length_eq
    obtain ⟨hleft, hmoved⟩ := ih (l := swapAt l (move t) t)
      (fun u hu => hlen ▸ h u (List.mem_cons_of_mem t hu)) hrest
    constructor
    · intro p hp
      obtain ⟨hpt, hpm⟩ := hp t List.mem_cons_self
      show (swapAll move (swapAt l (move t) t) rest)[p]? = _
      rw [hleft p fun u hu => hp u (List.mem_cons_of_mem t hu)]
      exact getElem?_swapAt_of_ne hm ht hpm hpt
    · intro u hu
      show (swapAll move (swapAt l (move t) t) rest)[move u]? = _
      rcases List.mem_cons.mp hu with rfl | hu
      · rw [hleft (move u) fun v hv =>
          ⟨(hfirst v hv).2.1.symm, (hfirst v hv).2.2.symm⟩]
        exact getElem?_swapAt_left hm ht
      · rw [hmoved u hu]
        exact getElem?_swapAt_of_ne hm ht (hfirst u hu).2.1
          (hfirst u hu).1

-- ==== overwriting

/-- The items of `pairs` written at their positions. -/
def setAll {α : Type} (l : List α) (pairs : List (Nat × α)) : List α :=
  pairs.foldl (fun l p => l.set p.1 p.2) l

theorem setAll_map {α β : Type} (f : α → β) (l : List α)
    (pairs : List (Nat × α)) :
    (setAll l pairs).map f
      = setAll (l.map f) (pairs.map fun p => (p.1, f p.2)) := by
  induction pairs generalizing l with
  | nil => rfl
  | cons p rest ih =>
    show (setAll (l.set p.1 p.2) rest).map f = _
    rw [ih, List.map_set]
    rfl

theorem length_setAll {α : Type} (l : List α) (pairs : List (Nat × α)) :
    (setAll l pairs).length = l.length := by
  induction pairs generalizing l with
  | nil => rfl
  | cons p rest ih =>
    show (setAll (l.set p.1 p.2) rest).length = _
    rw [ih, List.length_set]

theorem getElem?_setAll_of_notMem {α : Type} {l : List α}
    {pairs : List (Nat × α)} {i : Nat} (hi : i ∉ pairs.map Prod.fst) :
    (setAll l pairs)[i]? = l[i]? := by
  induction pairs generalizing l with
  | nil => rfl
  | cons p rest ih =>
    rw [List.map_cons, List.mem_cons, not_or] at hi
    show (setAll (l.set p.1 p.2) rest)[i]? = _
    rw [ih hi.2, List.getElem?_set_ne (Ne.symm hi.1)]

/-- At different positions nothing is overwritten. -/
theorem getElem?_setAll_of_mem {α : Type} {l : List α}
    {pairs : List (Nat × α)} (hfst : (pairs.map Prod.fst).Nodup)
    (hlt : ∀ p ∈ pairs, p.1 < l.length) {p : Nat × α}
    (hp : p ∈ pairs) : (setAll l pairs)[p.1]? = some p.2 := by
  induction pairs generalizing l with
  | nil => cases hp
  | cons q rest ih =>
    obtain ⟨hq, hrest⟩ := List.nodup_cons.mp hfst
    show (setAll (l.set q.1 q.2) rest)[p.1]? = _
    rcases List.mem_cons.mp hp with rfl | hp
    · rw [getElem?_setAll_of_notMem hq,
        List.getElem?_set_self (hlt p List.mem_cons_self)]
    · apply ih hrest _ hp
      intro r hr
      rw [List.length_set]
      exact hlt r (List.mem_cons_of_mem q hr)

theorem mem_setAll {α : Type} {l : List α} {pairs : List (Nat × α)}
    {a : α} (h : a ∈ setAll l pairs) :
    a ∈ l ∨ a ∈ pairs.map Prod.snd := by
  induction pairs generalizing l with
  | nil => exact .inl h
  | cons p rest ih =>
    rcases ih (l := l.set p.1 p.2) h with hl | hr
    · rcases List.mem_or_eq_of_mem_set hl with hl | rfl
      · exact .inl hl
      · exact .inr List.mem_cons_self
    · exact .inr (List.mem_cons_of_mem p.2 hr)

theorem nodup_setAll {α : Type} {l : List α} {pairs : List (Nat × α)}
    (hl : l.Nodup) (hsnd : (pairs.map Prod.snd).Nodup)
    (hnew : ∀ a ∈ pairs.map Prod.snd, a ∉ l) :
    (setAll l pairs).Nodup := by
  induction pairs generalizing l with
  | nil => exact hl
  | cons p rest ih =>
    obtain ⟨hp, hrest⟩ := List.nodup_cons.mp hsnd
    apply ih (hl.set (hnew p.2 List.mem_cons_self)) hrest
    intro a ha hmem
    rcases List.mem_or_eq_of_mem_set hmem with hmem | rfl
    · exact hnew a (List.mem_cons_of_mem p.2 ha) hmem
    · exact hp ha

end Lib
