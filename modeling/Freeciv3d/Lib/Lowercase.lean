/-
`str.strip()` of a string in parts, and what is relied on of
`str.lower()`, whose table is the runtime's.

# The lower case

A character's lower case may be several characters, and that of a capital
sigma depends on its word. `LowerRules` says what holds of all of them:
blanks and underscores stay and are where a word ends, nothing else becomes
blank or empty, and small ASCII letters stay what they are.
-/
import Mathlib.Data.List.TakeWhile
import Freeciv3d.Lib.PyStr

namespace Lib.PyStr

-- ==== the ends

/-- `s.lstrip()`. -/
def lstripChars (cs : List Char) : List Char := cs.dropWhile isSpace

/-- `s.rstrip()`. -/
def rstripChars (cs : List Char) : List Char :=
  (cs.reverse.dropWhile isSpace).reverse

theorem stripChars_eq (cs : List Char) :
    stripChars cs = rstripChars (lstripChars cs) := rfl

/-- It is blank, every character. -/
def Blank (cs : List Char) : Prop := ∀ c ∈ cs, isSpace c = true

instance (cs : List Char) : Decidable (Blank cs) :=
  inferInstanceAs (Decidable (∀ _ ∈ _, _))

/-- It does not begin with a blank. -/
def SolidStart (cs : List Char) : Prop :=
  ∀ c ∈ cs.head?, isSpace c = false

/-- It does not end in a blank. -/
def SolidEnd (cs : List Char) : Prop :=
  ∀ c ∈ cs.getLast?, isSpace c = false

theorem dropWhile_of_blank {cs : List Char} (h : Blank cs)
    (ds : List Char) : (cs ++ ds).dropWhile isSpace
      = ds.dropWhile isSpace := by
  induction cs with
  | nil => rfl
  | cons c rest ih =>
    rw [List.cons_append, List.dropWhile_cons_of_pos
      (h c List.mem_cons_self)]
    exact ih fun d hd => h d (List.mem_cons_of_mem c hd)

theorem dropWhile_of_not_blank {cs : List Char} (h : ¬ Blank cs)
    (ds : List Char) : (cs ++ ds).dropWhile isSpace
      = cs.dropWhile isSpace ++ ds := by
  induction cs with
  | nil => exact absurd (by simp [Blank]) h
  | cons c rest ih =>
    by_cases hc : isSpace c = true
    · rw [List.cons_append, List.dropWhile_cons_of_pos hc,
        List.dropWhile_cons_of_pos hc]
      refine ih fun hrest => h fun d hd => ?_
      rcases List.mem_cons.mp hd with rfl | hd
      · exact hc
      · exact hrest d hd
    · rw [List.cons_append, List.dropWhile_cons_of_neg hc,
        List.dropWhile_cons_of_neg hc, List.cons_append]

theorem blank_reverse {cs : List Char} : Blank cs.reverse ↔ Blank cs := by
  simp [Blank]

theorem lstrip_of_blank {cs : List Char} (h : Blank cs) (ds : List Char) :
    lstripChars (cs ++ ds) = lstripChars ds :=
  dropWhile_of_blank h ds

theorem lstrip_of_not_blank {cs : List Char} (h : ¬ Blank cs)
    (ds : List Char) : lstripChars (cs ++ ds) = lstripChars cs ++ ds :=
  dropWhile_of_not_blank h ds

theorem rstrip_of_blank {ds : List Char} (h : Blank ds) (cs : List Char) :
    rstripChars (cs ++ ds) = rstripChars cs := by
  unfold rstripChars
  rw [List.reverse_append, dropWhile_of_blank (blank_reverse.mpr h)]

theorem rstrip_of_not_blank {ds : List Char} (h : ¬ Blank ds)
    (cs : List Char) :
    rstripChars (cs ++ ds) = cs ++ rstripChars ds := by
  unfold rstripChars
  rw [List.reverse_append,
    dropWhile_of_not_blank (blank_reverse.not.mpr h),
    List.reverse_append, List.reverse_reverse]

theorem solidStart_lstrip (cs : List Char) :
    SolidStart (lstripChars cs) := by
  intro c hc
  have := List.head?_dropWhile_not isSpace cs
  rw [lstripChars] at hc
  rw [Option.mem_def.mp hc] at this
  simpa using this

theorem lstrip_of_solidStart {cs : List Char} (h : SolidStart cs) :
    lstripChars cs = cs := by
  cases cs with
  | nil => rfl
  | cons c rest =>
    exact List.dropWhile_cons_of_neg (by simp [h c rfl])

theorem rstrip_of_solidEnd {cs : List Char} (h : SolidEnd cs) :
    rstripChars cs = cs := by
  have hstart : SolidStart cs.reverse := by
    intro c hc
    rw [List.head?_reverse] at hc
    exact h c hc
  show (lstripChars cs.reverse).reverse = cs
  rw [lstrip_of_solidStart hstart, List.reverse_reverse]

theorem solidEnd_rstrip (cs : List Char) : SolidEnd (rstripChars cs) := by
  intro c hc
  have hhead : (lstripChars cs.reverse).head? = some c := by
    rw [← List.getLast?_reverse]
    exact hc
  exact solidStart_lstrip _ c hhead

/-- What `lstrip` takes off is blank. -/
theorem exists_lstrip (cs : List Char) :
    ∃ lead, Blank lead ∧ cs = lead ++ lstripChars cs :=
  ⟨cs.takeWhile isSpace, fun _ hc => List.mem_takeWhile_imp hc,
    List.takeWhile_append_dropWhile.symm⟩

/-- What `rstrip` takes off is blank. -/
theorem exists_rstrip (cs : List Char) :
    ∃ trail, Blank trail ∧ cs = rstripChars cs ++ trail := by
  obtain ⟨lead, hlead, hcs⟩ := exists_lstrip cs.reverse
  refine ⟨lead.reverse, blank_reverse.mpr hlead, ?_⟩
  have := congrArg List.reverse hcs
  rw [List.reverse_reverse, List.reverse_append] at this
  exact this

-- ==== the lower case

/-- What is relied on of `str.lower()`. -/
structure LowerRules (lower : List Char → List Char) : Prop where
  nil : lower [] = []
  /-- Blanks and underscores stay, and part words. -/
  apart : ∀ a c b, isSpace c = true ∨ c = '_' →
    lower (a ++ c :: b) = lower a ++ c :: lower b
  /-- A letter's lower case is not empty. -/
  ne_nil : ∀ cs, cs ≠ [] → lower cs ≠ []
  /-- Nor does it begin or end with a blank. -/
  solidStart : ∀ cs, SolidStart cs → SolidStart (lower cs)
  solidEnd : ∀ cs, SolidEnd cs → SolidEnd (lower cs)
  /-- ASCII that has no capitals stays. -/
  small : ∀ a b, (∀ c ∈ a, c.toNat < 128 ∧ c.toLower = c) →
    a <+: lower (a ++ b)

namespace LowerRules

variable {lower : List Char → List Char}

theorem lead (h : LowerRules lower) {cs : List Char} (hcs : Blank cs)
    (ds : List Char) :
    lower (cs ++ ds) = cs ++ lower ds := by
  induction cs with
  | nil => rfl
  | cons c rest ih =>
    have hc : isSpace c = true := hcs c List.mem_cons_self
    have hfirst := h.apart [] c (rest ++ ds) (.inl hc)
    rw [h.nil] at hfirst
    rw [List.cons_append, show c :: (rest ++ ds) = [] ++ c :: (rest ++ ds)
      from rfl, hfirst, ih fun d hd => hcs d (List.mem_cons_of_mem c hd)]
    rfl

theorem trail (h : LowerRules lower) {ds : List Char} (hds : Blank ds)
    (cs : List Char) :
    lower (cs ++ ds) = lower cs ++ ds := by
  cases ds with
  | nil => rw [List.append_nil, List.append_nil]
  | cons c rest =>
    have hc : isSpace c = true := hds c List.mem_cons_self
    have hrest : Blank rest := fun d hd =>
      hds d (List.mem_cons_of_mem c hd)
    have hkept := h.lead hrest []
    rw [List.append_nil, h.nil, List.append_nil] at hkept
    rw [h.apart cs c rest (.inl hc), hkept]

/-- `s.lower().strip()` is `s.strip().lower()`. -/
theorem strip (h : LowerRules lower) (cs : List Char) :
    stripChars (lower cs) = lower (stripChars cs) := by
  obtain ⟨start, hstart, hcs⟩ := exists_lstrip cs
  obtain ⟨stop, hstop, hrest⟩ := exists_rstrip (lstripChars cs)
  have hfirst : lstripChars (lower cs) = lower (lstripChars cs) := by
    have hlower : lower cs = start ++ lower (lstripChars cs) := by
      conv_lhs => rw [hcs]
      exact h.lead hstart _
    rw [hlower, lstrip_of_blank hstart]
    exact lstrip_of_solidStart (h.solidStart _ (solidStart_lstrip cs))
  have hlast : rstripChars (lower (lstripChars cs))
      = lower (rstripChars (lstripChars cs)) := by
    have hlower : lower (lstripChars cs)
        = lower (rstripChars (lstripChars cs)) ++ stop := by
      conv_lhs => rw [hrest]
      exact h.trail hstop _
    rw [hlower, rstrip_of_blank hstop]
    exact rstrip_of_solidEnd (h.solidEnd _ (solidEnd_rstrip _))
  rw [stripChars_eq, stripChars_eq, hfirst, hlast]

end LowerRules

-- ==== ASCII

theorem toNat_toLower (c : Char) :
    c.toLower.toNat
      = if 65 ≤ c.toNat ∧ c.toNat ≤ 90 then c.toNat + 32 else c.toNat := by
  have hcode : c.val.toNat = c.toNat := rfl
  unfold Char.toLower
  by_cases h : c.val ≥ 'A'.val ∧ c.val ≤ 'Z'.val
  · have hbounds : 65 ≤ c.toNat ∧ c.toNat ≤ 90 := h
    rw [dif_pos h, if_pos hbounds]
    show (c.val + ('a'.val - 'A'.val)).toNat = c.toNat + 32
    rw [UInt32.toNat_add, hcode, show ('a'.val - 'A'.val).toNat = 32 from rfl]
    omega
  · have hbounds : ¬ (65 ≤ c.toNat ∧ c.toNat ≤ 90) := h
    rw [dif_neg h, if_neg hbounds]

theorem isSpace_toLower (c : Char) : isSpace c.toLower = isSpace c := by
  unfold isSpace
  simp only [toNat_toLower]
  split
  · rw [Bool.eq_iff_iff]
    simp
    omega
  · rfl

/-- The rules hold where only the ASCII letters have a lower case. -/
theorem lowerRules_ascii : LowerRules (List.map Char.toLower) where
  nil := rfl
  apart a c b hc := by
    have hkeep : c.toLower = c := by
      rcases hc with hc | rfl
      · apply Char.ext
        apply UInt32.toNat_inj.mp
        show c.toLower.toNat = c.toNat
        rw [toNat_toLower, if_neg]
        rintro ⟨hlow, hhigh⟩
        simp [isSpace] at hc
        omega
      · rfl
    rw [List.map_append, List.map_cons, hkeep]
  ne_nil cs hcs := by simpa using hcs
  solidStart cs h c hc := by
    rw [List.head?_map] at hc
    obtain ⟨d, hd, rfl⟩ := Option.map_eq_some_iff.mp hc
    rw [isSpace_toLower]
    exact h d hd
  solidEnd cs h c hc := by
    rw [List.getLast?_map] at hc
    obtain ⟨d, hd, rfl⟩ := Option.map_eq_some_iff.mp hc
    rw [isSpace_toLower]
    exact h d hd
  small a b ha := by
    have hkept : a.map Char.toLower = a := by
      rw [List.map_congr_left fun c hc => (ha c hc).2]
      exact List.map_id' a
    rw [List.map_append, hkept]
    exact List.prefix_append a _

end Lib.PyStr
