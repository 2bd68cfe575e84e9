/-
When the names of a ruleset map back to its numbers: if the mapper is made
and asked only while no unit or no building has come yet, or after all
packets have, and the names are as the tables take them.

# The mapper catches up

As long as a table is empty the next question loads all three
(`Settled`). A load in between fills both and is the last: what comes
later is never found.

# The spellings

`normalize_tech_name` forgets case and how many blanks there are
(`spaced_double`), and takes an underscore for a blank where the blank is
alone (`spaced_join`).
-/
import Mathlib.Data.List.Pairwise
import Mathlib.Logic.Relation
import Freeciv3d.Lib.Lowercase
import Freeciv3d.Proxy.LazyMapper

namespace Freeciv3d.Proxy

open Lib

namespace RulesetMapper

open PyStr

-- ==== the spellings

/-- What `normalize_tech_name` does after `lower()`. -/
def spaced (cs : List Char) : List Char :=
  (collapseSpaces false (stripChars cs)).map fun c =>
    if c = ' ' then '_' else c

theorem collapse_double (first : Bool) (p z : List Char) :
    collapseSpaces first (p ++ ' ' :: ' ' :: z)
      = collapseSpaces first (p ++ ' ' :: z) := by
  induction p generalizing first with
  | nil => cases first <;> rfl
  | cons c rest ih =>
    rw [List.cons_append, List.cons_append]
    unfold collapseSpaces
    rw [ih true, ih false]

theorem collapse_solidStart {z : List Char} (hz : SolidStart z) :
    collapseSpaces true z = collapseSpaces false z := by
  cases z with
  | nil => rfl
  | cons c rest =>
    have hc : isSpace c ≠ true := by simp [hz c rfl]
    unfold collapseSpaces
    rw [if_neg hc, if_neg hc]

theorem collapse_join (first : Bool) {p z : List Char} (hp : SolidEnd p)
    (hne : p ≠ []) (hz : SolidStart z) :
    (collapseSpaces first (p ++ '_' :: z)).map
        (fun c => if c = ' ' then '_' else c)
      = (collapseSpaces first (p ++ ' ' :: z)).map
        (fun c => if c = ' ' then '_' else c) := by
  induction p generalizing first with
  | nil => exact absurd rfl hne
  | cons c rest ih =>
    rw [List.cons_append, List.cons_append]
    cases rest with
    | nil =>
      have hc : isSpace c ≠ true := by simp [hp c rfl]
      have hline : isSpace '_' ≠ true := by decide
      have hblank : isSpace ' ' = true := by decide
      rw [List.nil_append, List.nil_append]
      simp only [collapseSpaces, if_neg hc, if_neg hline, if_pos hblank,
        Bool.false_eq_true, if_false, collapse_solidStart hz,
        List.map_cons]
      rfl
    | cons d rest =>
      have hrest : SolidEnd (d :: rest) := fun e he => hp e (by
        rw [List.getLast?_cons_cons]
        exact he)
      have hih := fun first => ih first hrest (by simp)
      simp only [collapseSpaces]
      split
      · split
        · exact hih true
        · rw [List.map_cons, List.map_cons, hih true]
      · rw [List.map_cons, List.map_cons, hih false]

theorem spaced_double (x y : List Char) :
    spaced (x ++ ' ' :: ' ' :: y) = spaced (x ++ ' ' :: y) := by
  have hone : Blank [' '] := List.forall_mem_singleton.mpr (by decide)
  have htwo : Blank [' ', ' '] :=
    List.forall_mem_cons.mpr ⟨by decide, hone⟩
  unfold spaced
  refine congrArg (List.map _) ?_
  rw [show x ++ ' ' :: ' ' :: y = x ++ ([' ', ' '] ++ y) from rfl,
    show x ++ ' ' :: y = x ++ ([' '] ++ y) from rfl, stripChars_eq,
    stripChars_eq]
  by_cases hx : Blank x
  · rw [lstrip_of_blank hx, lstrip_of_blank hx, lstrip_of_blank htwo,
      lstrip_of_blank hone]
  · rw [lstrip_of_not_blank hx, lstrip_of_not_blank hx]
    by_cases hy : Blank y
    · have hone' : Blank ([' '] ++ y) := fun c hc =>
        (List.mem_append.mp hc).elim (hone c) (hy c)
      have htwo' : Blank ([' ', ' '] ++ y) := fun c hc =>
        (List.mem_append.mp hc).elim (htwo c) (hy c)
      rw [rstrip_of_blank htwo', rstrip_of_blank hone']
    · have hone' : ¬ Blank ([' '] ++ y) := fun h =>
        hy fun c hc => h c (List.mem_append_right _ hc)
      have htwo' : ¬ Blank ([' ', ' '] ++ y) := fun h =>
        hy fun c hc => h c (List.mem_append_right _ hc)
      rw [rstrip_of_not_blank htwo', rstrip_of_not_blank hone',
        rstrip_of_not_blank hy, rstrip_of_not_blank hy]
      exact collapse_double false _ _

theorem not_blank_of_solidStart {cs : List Char} (h : SolidStart cs)
    (hne : cs ≠ []) : ¬ Blank cs := by
  intro hblank
  cases cs with
  | nil => exact hne rfl
  | cons c rest =>
    have hc := h c rfl
    rw [hblank c List.mem_cons_self] at hc
    cases hc

theorem not_blank_of_solidEnd {cs : List Char} (h : SolidEnd cs)
    (hne : cs ≠ []) : ¬ Blank cs := by
  intro hblank
  have hlast := List.getLast?_eq_some_getLast hne
  have hc := h _ hlast
  rw [hblank _ (List.getLast_mem hne)] at hc
  cases hc

theorem solidEnd_lstrip {cs : List Char} (h : SolidEnd cs)
    (hne : cs ≠ []) :
    SolidEnd (lstripChars cs) ∧ lstripChars cs ≠ [] := by
  obtain ⟨lead, hlead, hcs⟩ := exists_lstrip cs
  have hrest : lstripChars cs ≠ [] := by
    intro hnil
    rw [hnil, List.append_nil] at hcs
    exact not_blank_of_solidEnd h hne (hcs ▸ hlead)
  refine ⟨fun c hc => h c ?_, hrest⟩
  rw [hcs, List.getLast?_append_of_ne_nil _ hrest]
  exact hc

theorem solidStart_rstrip {cs : List Char} (h : SolidStart cs)
    (hne : cs ≠ []) : SolidStart (rstripChars cs) := by
  obtain ⟨trail, htrail, hcs⟩ := exists_rstrip cs
  have hrest : rstripChars cs ≠ [] := by
    intro hnil
    rw [hnil, List.nil_append] at hcs
    exact not_blank_of_solidStart h hne (hcs ▸ htrail)
  intro c hc
  refine h c ?_
  rw [hcs, List.head?_append_of_ne_nil _ hrest]
  exact hc

theorem spaced_join {x y : List Char} (hx : SolidEnd x) (hxne : x ≠ [])
    (hy : SolidStart y) (hyne : y ≠ []) :
    spaced (x ++ '_' :: y) = spaced (x ++ ' ' :: y) := by
  have hxb := not_blank_of_solidEnd hx hxne
  have hyb := not_blank_of_solidStart hy hyne
  have hany : ∀ c, ¬ Blank (c :: y) := fun c h =>
    hyb fun d hd => h d (List.mem_cons_of_mem c hd)
  have hcons : ∀ c, rstripChars (c :: y) = c :: rstripChars y := fun c =>
    rstrip_of_not_blank hyb [c]
  unfold spaced
  rw [stripChars_eq, stripChars_eq, lstrip_of_not_blank hxb,
    lstrip_of_not_blank hxb, rstrip_of_not_blank (hany '_'),
    rstrip_of_not_blank (hany ' '), hcons, hcons]
  obtain ⟨hend, hne⟩ := solidEnd_lstrip hx hxne
  exact collapse_join false hend hne (solidStart_rstrip hy hyne)

-- ==== the tables

/-- A table holds nothing but entries of the store. -/
def Sound (key : String → String) (d : Dict Int String)
    (table : Dict String Int) : Prop :=
  ∀ q id, table.get? q = some id → ∃ name, d.get? id = some name ∧ key name = q

/-- A table finds each of the items. -/
def Whole (key : String → String) (items : List (Int × String))
    (table : Dict String Int) : Prop :=
  ∀ item ∈ items, table.get? (key item.2) = some item.1

section

variable {key : String → String} {d : Dict Int String}
  {table : Dict String Int}

theorem loadInto_empty (h : d.size = 0) :
    loadInto key table d = table := by
  have hnil : d.entries = [] := List.length_eq_zero_iff.mp h
  unfold loadInto
  rw [hnil]
  rfl

theorem Sound.load (h : Sound key d table) :
    Sound key d (loadInto key table d) := by
  intro q id hget
  unfold loadInto at hget
  rw [Dict.get?_foldl_set] at hget
  rcases Option.or_eq_some_iff.mp hget with hfound | ⟨-, hold⟩
  · obtain ⟨e, hfind, rfl⟩ := Option.map_eq_some_iff.mp hfound
    have hmem := List.mem_reverse.mp (List.mem_of_find?_eq_some hfind)
    have hkey : e.1 = q := by simpa using List.find?_some hfind
    obtain ⟨⟨id, name⟩, hentry, hvalue⟩ := List.mem_filterMap.mp hmem
    by_cases hname : name = ""
    · simp [hname] at hvalue
    · simp only [if_neg hname, Option.some.injEq] at hvalue
      subst hvalue
      exact ⟨name, Dict.mem_entries_iff.mp hentry, hkey⟩
  · exact h q id hold

theorem isSome_load {id : Int} {name : String} (hd : d.get? id = some name)
    (hname : name ≠ "") :
    ((loadInto key table d).get? (key name)).isSome := by
  unfold loadInto
  rw [Dict.get?_foldl_set, Option.isSome_or, Option.isSome_map,
    List.find?_isSome.mpr, Bool.true_or]
  refine ⟨(key name, id), ?_, by simp⟩
  refine List.mem_reverse.mpr (List.mem_filterMap.mpr ⟨(id, name), ?_, ?_⟩)
  · exact Dict.mem_entries_iff.mpr hd
  · simp [hname]

/-- An entry found under the key of an item is the item's, when no two
items have one key. -/
theorem found_eq {items : List (Int × String)}
    (hd : ∀ id name, d.get? id = some name → (id, name) ∈ items)
    (hkeys : ∀ a ∈ items, ∀ b ∈ items, key a.2 = key b.2 → a = b)
    (h : Sound key d table) {item : Int × String} (hitem : item ∈ items)
    (hsome : (table.get? (key item.2)).isSome) :
    table.get? (key item.2) = some item.1 := by
  obtain ⟨id, hid⟩ := Option.isSome_iff_exists.mp hsome
  obtain ⟨name, hname, hkey⟩ := h _ _ hid
  have heq := hkeys _ (hd id name hname) item hitem hkey
  rw [hid, ← heq]

end

end RulesetMapper

namespace MapperWorld

open PyStr RulesetMapper

variable (rt : PyRuntime)

-- ==== the rulesets

/-- The name of a technology: that of its packet without the mark. -/
def techItem (item : Int × String) : Int × String :=
  (item.1, RulesetNames.techName (some item.2))

def canonical (name : String) : List Char := spaced (rt.lower name.toList)

/-- Two items of one kind have two numbers and two names. -/
def Apart (a b : Int × String) : Prop :=
  a.1 ≠ b.1 ∧ canonical rt a.2 ≠ canonical rt b.2

/-- The names are distinct within each kind. -/
structure Distinct (r : Ruleset) : Prop where
  units : r.units.Pairwise (Apart rt)
  buildings : r.buildings.Pairwise (Apart rt)
  techs : (r.techs.map techItem).Pairwise (Apart rt)

/-- The names are as the tables take them: none is empty, or has blanks
round it, or is in one kind what is in the other in another case; and no
technology has the mark in its name. -/
structure Plain (r : Ruleset) : Prop where
  named : ∀ item ∈ r.units ++ r.buildings,
    item.2 ≠ "" ∧ stripChars item.2.toList = item.2.toList
  crossed : ∀ a ∈ r.units, ∀ b ∈ r.buildings,
    rt.lower a.2.toList = rt.lower b.2.toList → a.2 = b.2
  techs : ∀ item ∈ r.techs, (techItem item).2 ≠ ""
    ∧ ¬ "?tech:".toList <+: rt.lower (techItem item).2.toList

/-- All packets have come. An item without a name leaves nothing. -/
structure Arrived (r : Ruleset) (s : RulesetNames) : Prop where
  units : ∀ item ∈ r.units, item.2 ≠ "" →
    s.unitTypes.get? item.1 = some item.2
  buildings : ∀ item ∈ r.buildings, item.2 ≠ "" →
    s.improvements.get? item.1 = some item.2
  techs : ∀ item ∈ r.techs, (techItem item).2 ≠ "" →
    s.techs.get? item.1 = some (techItem item).2

/-- No unit, or no building, has come yet, or all packets have. -/
def InTime (r : Ruleset) (s : RulesetNames) : Prop :=
  (r.units ≠ [] ∧ s.unitTypes.size = 0)
    ∨ (r.buildings ≠ [] ∧ s.improvements.size = 0) ∨ Arrived r s

/-- The mapper is made, and asked, in time. -/
def Fits (r : Ruleset) (w : MapperWorld) : MapperAct → Prop
  | .unit _ => True
  | .building _ => True
  | .tech _ => True
  | .create => InTime r w.names
  | .mapProduction _ => InTime r w.names
  | .getTech _ => InTime r w.names

def items (r : Ruleset) : List (Int × Int × String) :=
  r.units.map (fun item => (vutUtype, item))
    ++ r.buildings.map (fun item => (vutImprovement, item))

/-- It is the name, in any case and with any blanks round it. -/
def Named (name query : String) : Prop :=
  rt.lower (stripChars query.toList) = rt.lower (stripChars name.toList)

/-- It is exactly the name, but for blanks round it. -/
def IsName (name query : String) : Prop :=
  stripChars query.toList = stripChars name.toList

/-- One change of the spelling; `joins` says where a blank may become an
underscore. -/
inductive Respelled (joins : List Char → List Char → Prop) :
    List Char → List Char → Prop
  | recased {cs ds : List Char} (h : rt.lower cs = rt.lower ds) :
      Respelled joins cs ds
  | doubled (a b : List Char) :
      Respelled joins (a ++ ' ' :: b) (a ++ ' ' :: ' ' :: b)
  | joined (a b : List Char) (h : joins a b) :
      Respelled joins (a ++ ' ' :: b) (a ++ '_' :: b)

/-- A spelling of a technology's name: any changes, and the mark before it
or not. -/
def Spelling (joins : List Char → List Char → Prop) (name s : String) :
    Prop :=
  ∃ body, Relation.ReflTransGen (Respelled rt joins) name.toList body
    ∧ (s.toList = body ∨ s.toList = "?tech:".toList ++ body)

/-- A blank that stands alone between other characters. -/
def Alone (a b : List Char) : Prop :=
  (SolidEnd a ∧ a ≠ []) ∧ SolidStart b ∧ b ≠ []

/-- The names map back: a unit's or building's, in any case, to an item of
that name, and to one of exactly that name if there is one; a technology's,
in any of the spellings, to the technology. -/
def MapsBack (r : Ruleset) (joins : List Char → List Char → Prop)
    (w : MapperWorld) : Prop :=
  Arrived r w.names → ∀ mapper, w.mapper = some mapper →
    (∀ query, (∃ item ∈ items r, Named rt item.2.2 query) →
      ∃ item ∈ items r,
        w.production rt mapper query = some (item.1, item.2.1)
        ∧ Named rt item.2.2 query
        ∧ ((∃ other ∈ items r, IsName other.2.2 query) →
          IsName item.2.2 query))
    ∧ ∀ item ∈ r.techs, ∀ s, Spelling rt joins (techItem item).2 s →
      w.techId rt mapper s = some item.1

section

variable {rt} {r : Ruleset} {w : MapperWorld} {mapper : RulesetMapper}

-- ==== technology names

theorem prefix_append_cons {mark x y : List Char} {c : Char}
    (hc : c ∉ mark) : mark <+: x ++ c :: y ↔ mark <+: x := by
  constructor
  · intro h
    by_cases hle : mark.length ≤ x.length
    · exact List.prefix_of_prefix_length_le h (List.prefix_append x _) hle
    · have hwhole : x ++ [c] <+: x ++ c :: y := ⟨y, by simp⟩
      have hlong : x ++ [c] <+: mark := by
        refine List.prefix_of_prefix_length_le hwhole h ?_
        rw [List.length_append, List.length_singleton]
        omega
      exact absurd (hlong.subset (by simp)) hc
  · intro h
    exact h.trans (List.prefix_append x _)

theorem Respelled.marked (hrt : LowerRules rt.lower)
    {joins : List Char → List Char → Prop} {cs ds : List Char}
    (h : Respelled rt joins cs ds) :
    "?tech:".toList <+: rt.lower cs ↔ "?tech:".toList <+: rt.lower ds := by
  cases h with
  | recased h => rw [h]
  | doubled a b =>
    rw [hrt.apart a ' ' b (.inl rfl), hrt.apart a ' ' (' ' :: b) (.inl rfl),
      prefix_append_cons (by decide), prefix_append_cons (by decide)]
  | joined a b _ =>
    rw [hrt.apart a ' ' b (.inl rfl), hrt.apart a '_' b (.inr rfl),
      prefix_append_cons (by decide), prefix_append_cons (by decide)]

theorem Respelled.spaced (hrt : LowerRules rt.lower) {cs ds : List Char}
    (h : Respelled rt Alone cs ds) :
    RulesetMapper.spaced (rt.lower cs)
      = RulesetMapper.spaced (rt.lower ds) := by
  cases h with
  | recased h => rw [h]
  | doubled a b =>
    have hblank := hrt.apart [] ' ' b (.inl rfl)
    rw [hrt.nil, List.nil_append, List.nil_append] at hblank
    rw [hrt.apart a ' ' b (.inl rfl), hrt.apart a ' ' (' ' :: b) (.inl rfl),
      hblank, spaced_double]
  | joined a b h =>
    obtain ⟨⟨hend, ha⟩, hstart, hb⟩ := h
    rw [hrt.apart a ' ' b (.inl rfl), hrt.apart a '_' b (.inr rfl)]
    exact (spaced_join (hrt.solidEnd a hend) (hrt.ne_nil a ha)
      (hrt.solidStart b hstart) (hrt.ne_nil b hb)).symm

theorem Respelled.ne_nil (hrt : LowerRules rt.lower)
    {joins : List Char → List Char → Prop} {cs ds : List Char}
    (h : Respelled rt joins cs ds) (hcs : cs ≠ []) : ds ≠ [] := by
  cases h with
  | recased h =>
    rintro rfl
    rw [hrt.nil] at h
    exact hrt.ne_nil cs hcs h
  | doubled a b => simp
  | joined a b _ => simp

theorem respelled_all (hrt : LowerRules rt.lower) {cs ds : List Char}
    (h : Relation.ReflTransGen (Respelled rt Alone) cs ds) :
    RulesetMapper.spaced (rt.lower cs) = RulesetMapper.spaced (rt.lower ds)
      ∧ ("?tech:".toList <+: rt.lower cs ↔ "?tech:".toList <+: rt.lower ds)
      ∧ (cs ≠ [] → ds ≠ []) := by
  induction h with
  | refl => exact ⟨rfl, Iff.rfl, id⟩
  | tail _ hstep ih =>
    obtain ⟨hspaced, hmark, hne⟩ := ih
    exact ⟨hspaced.trans (hstep.spaced hrt),
      hmark.trans (hstep.marked hrt),
      fun hcs => hstep.ne_nil hrt (hne hcs)⟩

theorem not_marked (hrt : LowerRules rt.lower) {cs : List Char}
    (h : ¬ "?tech:".toList <+: rt.lower cs) : ¬ "?tech:".toList <+: cs := by
  rintro ⟨rest, rfl⟩
  have hsmall : "?tech:".toList.all
      (fun c => decide (c.toNat < 128 ∧ c.toLower = c)) = true := by decide
  exact h (hrt.small _ rest fun c hc =>
    of_decide_eq_true (List.all_eq_true.mp hsmall c hc))

theorem normalize_unmarked {s : String}
    (h : ¬ "?tech:".toList <+: s.toList) :
    normalizeTechName rt s
      = String.ofList (RulesetMapper.spaced (rt.lower s.toList)) := by
  have hstart : startsWith s "?tech:" ≠ true := by
    intro hstart
    exact h (List.isPrefixOf_iff_prefix.mp hstart)
  unfold normalizeTechName
  rw [if_neg hstart]
  rfl

theorem normalize_marked {s : String} {body : List Char}
    (h : s.toList = "?tech:".toList ++ body) :
    normalizeTechName rt s
      = String.ofList (RulesetMapper.spaced (rt.lower body)) := by
  have hstart : startsWith s "?tech:" = true := by
    unfold startsWith
    rw [h]
    exact List.isPrefixOf_iff_prefix.mpr (List.prefix_append _ body)
  have hrest : (dropChars 6 s).toList = body := by
    unfold dropChars
    rw [h, String.toList_ofList]
    rfl
  unfold normalizeTechName
  rw [if_pos hstart]
  simp only [hrest]
  rfl

theorem normalize_spelling (hrt : LowerRules rt.lower) {name s : String}
    (hname : name ≠ "") (hmark : ¬ "?tech:".toList <+: rt.lower name.toList)
    (h : Spelling rt Alone name s) :
    s ≠ "" ∧ normalizeTechName rt s = normalizeTechName rt name := by
  obtain ⟨body, hbody, hs⟩ := h
  obtain ⟨hspaced, hmarked, hne⟩ := respelled_all hrt hbody
  have hbodyne : body ≠ [] := hne (by simpa using hname)
  have hnobody : ¬ "?tech:".toList <+: body :=
    not_marked hrt (hmarked.not.mp hmark)
  rw [normalize_unmarked (not_marked hrt hmark), hspaced]
  rcases hs with rfl | hs
  · exact ⟨by simpa using hbodyne, normalize_unmarked hnobody⟩
  · refine ⟨?_, normalize_marked hs⟩
    rintro rfl
    simp at hs

-- ==== the keys

instance symm_apart : Std.Symm (Apart rt) :=
  ⟨fun _ _ h => ⟨h.1.symm, h.2.symm⟩⟩

theorem eq_of_canonical {l : List (Int × String)}
    (hl : l.Pairwise (Apart rt)) {a b : Int × String} (ha : a ∈ l)
    (hb : b ∈ l) (h : canonical rt a.2 = canonical rt b.2) : a = b := by
  by_contra hne
  exact (hl.forall ha hb hne).2 h

theorem eq_of_number {l : List (Int × String)}
    (hl : l.Pairwise (Apart rt)) {a b : Int × String} (ha : a ∈ l)
    (hb : b ∈ l) (h : a.1 = b.1) : a = b := by
  by_contra hne
  exact (hl.forall ha hb hne).1 h

theorem eq_of_lower {l : List (Int × String)}
    (hl : l.Pairwise (Apart rt)) {a b : Int × String} (ha : a ∈ l)
    (hb : b ∈ l) (h : lower rt a.2 = lower rt b.2) : a = b :=
  eq_of_canonical hl ha hb
    (congrArg RulesetMapper.spaced (String.ofList_injective h))

theorem eq_of_normalized (hrt : LowerRules rt.lower)
    (hplain : Plain rt r) (hl : (r.techs.map techItem).Pairwise (Apart rt))
    {a b : Int × String} (ha : a ∈ r.techs.map techItem)
    (hb : b ∈ r.techs.map techItem)
    (h : normalizeTechName rt a.2 = normalizeTechName rt b.2) : a = b := by
  have hunmarked : ∀ item ∈ r.techs.map techItem,
      normalizeTechName rt item.2
        = String.ofList (canonical rt item.2) := by
    intro item hitem
    obtain ⟨raw, hraw, rfl⟩ := List.mem_map.mp hitem
    exact normalize_unmarked (not_marked hrt (hplain.techs raw hraw).2)
  rw [hunmarked a ha, hunmarked b hb] at h
  exact eq_of_canonical hl ha hb (String.ofList_injective h)

-- ==== the stores

/-- The store of a kind holds items of the ruleset. -/
def KnownIn (l : List (Int × String)) (table : Dict Int String) : Prop :=
  ∀ id name, table.get? id = some name → (id, name) ∈ l

theorem get?_register {table : Dict Int String} (item : Int × String)
    (id : Int) :
    (RulesetNames.register table (packetOf item)).get? id
      = if item.2 ≠ "" ∧ id = item.1 then some item.2
        else table.get? id := by
  unfold RulesetNames.register packetOf
  dsimp only
  by_cases hname : item.2 = ""
  · rw [if_pos hname, if_neg fun h => h.1 hname]
  · rw [if_neg hname, Dict.get?_set]
    by_cases hid : id = item.1
    · rw [if_pos hid, if_pos ⟨hname, hid⟩]
    · rw [if_neg hid, if_neg fun h => hid h.2]

theorem KnownIn.register {l : List (Int × String)}
    {table : Dict Int String} (h : KnownIn l table) {item : Int × String}
    (hitem : item ∈ l) :
    KnownIn l (RulesetNames.register table (packetOf item)) := by
  intro id name hget
  rw [get?_register] at hget
  split at hget
  · rename_i hnew
    rw [hnew.2, ← Option.some.inj hget]
    exact hitem
  · exact h id name hget

theorem register_grows {l : List (Int × String)}
    (hl : l.Pairwise (Apart rt)) {table : Dict Int String}
    (h : KnownIn l table) {item : Int × String} (hitem : item ∈ l)
    {id : Int} {name : String} (hget : table.get? id = some name) :
    (RulesetNames.register table (packetOf item)).get? id
      = some name := by
  rw [get?_register]
  split
  · rename_i hnew
    have heq := eq_of_number hl (h id name hget) hitem hnew.2
    exact congrArg some (congrArg Prod.snd heq).symm
  · exact hget

theorem sound_grow {key : String → String} {d d' : Dict Int String}
    {table : Dict String Int} (h : Sound key d table)
    (hgrow : ∀ id name, d.get? id = some name → d'.get? id = some name) :
    Sound key d' table := by
  intro q id hget
  obtain ⟨name, hname, hkey⟩ := h q id hget
  exact ⟨name, hgrow id name hname, hkey⟩

theorem size_of_sound {key : String → String} {d : Dict Int String}
    {table : Dict String Int} (h : Sound key d table) (hd : d.size = 0) :
    table.size = 0 := by
  by_contra hne
  obtain ⟨e, he⟩ := List.exists_mem_of_length_pos (Nat.pos_of_ne_zero hne)
  obtain ⟨name, hname, -⟩ := h e.1 e.2 (Dict.mem_entries_iff.mp he)
  have hmem := Dict.mem_entries_iff.mpr hname
  rw [List.length_eq_zero_iff.mp hd] at hmem
  cases hmem

-- ==== the mapper

/-- The stores hold items of the ruleset. -/
structure Known (r : Ruleset) (s : RulesetNames) : Prop where
  units : KnownIn r.units s.unitTypes
  buildings : KnownIn r.buildings s.improvements
  techs : KnownIn (r.techs.map techItem) s.techs

/-- The tables hold nothing but entries of the stores. -/
structure Backed (rt : PyRuntime) (s : RulesetNames)
    (mapper : RulesetMapper) : Prop where
  units : Sound (lower rt) s.unitTypes mapper.unitTypes
  buildings : Sound (lower rt) s.improvements mapper.buildings
  techs : Sound (normalizeTechName rt) s.techs mapper.techs

/-- The tables find every item. -/
structure Complete (rt : PyRuntime) (r : Ruleset)
    (mapper : RulesetMapper) : Prop where
  units : Whole (lower rt) r.units mapper.unitTypes
  buildings : Whole (lower rt) r.buildings mapper.buildings
  techs : Whole (normalizeTechName rt) (r.techs.map techItem) mapper.techs

/-- The tables find every item, or one of units and of buildings is empty
that will not stay so. -/
def Settled (rt : PyRuntime) (r : Ruleset) (mapper : RulesetMapper) :
    Prop :=
  Complete rt r mapper ∨ (r.units ≠ [] ∧ mapper.unitTypes.size = 0)
    ∨ (r.buildings ≠ [] ∧ mapper.buildings.size = 0)

variable {s : RulesetNames}

theorem Backed.load (h : Backed rt s mapper) :
    Backed rt s (mapper.loadMappings rt s) :=
  { units := h.units.load
    buildings := h.buildings.load
    techs := h.techs.load }

theorem Backed.empty : Backed rt s RulesetMapper.empty where
  units := fun _ _ h => by cases h
  buildings := fun _ _ h => by cases h
  techs := fun _ _ h => by cases h

section

variable (hrt : LowerRules rt.lower) (hdistinct : Distinct rt r)
  (hplain : Plain rt r)

include hrt hdistinct hplain

theorem complete_of_arrived (hknown : Known r s)
    (hbacked : Backed rt s mapper) (hall : Arrived r s) :
    Complete rt r (mapper.loadMappings rt s) where
  units item hitem := by
    have hname := (hplain.named item (List.mem_append_left _ hitem)).1
    exact found_eq hknown.units
      (fun _ ha _ hb => eq_of_lower hdistinct.units ha hb)
      hbacked.load.units hitem
      (isSome_load (hall.units item hitem hname) hname)
  buildings item hitem := by
    have hname := (hplain.named item (List.mem_append_right _ hitem)).1
    exact found_eq hknown.buildings
      (fun _ ha _ hb => eq_of_lower hdistinct.buildings ha hb)
      hbacked.load.buildings hitem
      (isSome_load (hall.buildings item hitem hname) hname)
  techs item hitem := by
    obtain ⟨raw, hraw, rfl⟩ := List.mem_map.mp hitem
    have hname := (hplain.techs raw hraw).1
    exact found_eq hknown.techs
      (fun _ ha _ hb =>
        eq_of_normalized hrt hplain hdistinct.techs ha hb)
      hbacked.load.techs hitem
      (isSome_load (hall.techs raw hraw hname) hname)

theorem settled_load (hknown : Known r s) (hbacked : Backed rt s mapper)
    (hin : InTime r s) : Settled rt r (mapper.loadMappings rt s) := by
  rcases hin with ⟨hne, hzero⟩ | ⟨hne, hzero⟩ | hall
  · refine .inr (.inl ⟨hne, ?_⟩)
    show (loadInto _ _ _).size = 0
    rw [loadInto_empty hzero]
    exact size_of_sound hbacked.units hzero
  · refine .inr (.inr ⟨hne, ?_⟩)
    show (loadInto _ _ _).size = 0
    rw [loadInto_empty hzero]
    exact size_of_sound hbacked.buildings hzero
  · exact .inl (complete_of_arrived hrt hdistinct hplain hknown hbacked hall)

end

theorem ensureLoaded_cases (hbacked : Backed rt s mapper) :
    (∃ last, Backed rt s last
        ∧ mapper.ensureLoaded rt s = last.loadMappings rt s)
      ∨ mapper.ensureLoaded rt s = mapper
        ∧ (mapper.unitTypes.size = 0 → s.unitTypes.size = 0)
        ∧ (mapper.buildings.size = 0 → s.improvements.size = 0) := by
  unfold RulesetMapper.ensureLoaded
  by_cases hunits : mapper.unitTypes.size = 0 ∧ s.unitTypes.size ≠ 0
  · simp only [if_pos hunits]
    split
    · exact .inl ⟨_, hbacked.load, rfl⟩
    · exact .inl ⟨mapper, hbacked, rfl⟩
  · simp only [if_neg hunits]
    split
    · exact .inl ⟨mapper, hbacked, rfl⟩
    · rename_i hbuildings
      refine .inr ⟨rfl, fun h => ?_, fun h => ?_⟩
      · exact Decidable.of_not_not fun hne => hunits ⟨h, hne⟩
      · exact Decidable.of_not_not fun hne => hbuildings ⟨h, hne⟩

theorem Backed.ensureLoaded (h : Backed rt s mapper) :
    Backed rt s (mapper.ensureLoaded rt s) := by
  rcases ensureLoaded_cases h with ⟨last, hlast, heq⟩ | ⟨heq, -⟩
  · rw [heq]
    exact hlast.load
  · rw [heq]
    exact h

-- ==== the runs

/-- What holds between packets and questions: the stores are the
ruleset's, the tables are the stores', and a mapper that does not find
everything will load again. -/
structure Orderly (rt : PyRuntime) (r : Ruleset) (w : MapperWorld) :
    Prop where
  known : Known r w.names
  backed : ∀ mapper, w.mapper = some mapper → Backed rt w.names mapper
  settled : ∀ mapper, w.mapper = some mapper → Settled rt r mapper

theorem orderly_init : Orderly rt r MapperWorld.init where
  known :=
    { units := fun _ _ h => by cases h
      buildings := fun _ _ h => by cases h
      techs := fun _ _ h => by cases h }
  backed := fun _ h => by cases h
  settled := fun _ h => by cases h

section

variable (hrt : LowerRules rt.lower) (hdistinct : Distinct rt r)
  (hplain : Plain rt r)

include hdistinct

theorem Orderly.unit (h : Orderly rt r w) {item : Int × String}
    (hitem : item ∈ r.units) :
    Orderly rt r
      { w with names := w.names.handleRulesetUnit (packetOf item) } where
  known := { h.known with units := h.known.units.register hitem }
  backed mapper hmapper :=
    { h.backed mapper hmapper with
      units := sound_grow (h.backed mapper hmapper).units fun _ _ =>
        register_grows hdistinct.units h.known.units hitem }
  settled := h.settled

theorem Orderly.building (h : Orderly rt r w) {item : Int × String}
    (hitem : item ∈ r.buildings) :
    Orderly rt r
      { w with names := w.names.handleRulesetBuilding (packetOf item) } where
  known := { h.known with buildings := h.known.buildings.register hitem }
  backed mapper hmapper :=
    { h.backed mapper hmapper with
      buildings := sound_grow (h.backed mapper hmapper).buildings fun _ _ =>
        register_grows hdistinct.buildings h.known.buildings hitem }
  settled := h.settled

theorem Orderly.tech (h : Orderly rt r w) {item : Int × String}
    (hitem : item ∈ r.techs) :
    Orderly rt r
      { w with names := w.names.handleRulesetTech (packetOf item) } where
  known :=
    { h.known with
      techs := h.known.techs.register (List.mem_map_of_mem hitem) }
  backed mapper hmapper :=
    { h.backed mapper hmapper with
      techs := sound_grow (h.backed mapper hmapper).techs fun _ _ =>
        register_grows hdistinct.techs h.known.techs
          (List.mem_map_of_mem hitem) }
  settled := h.settled

include hrt hplain

theorem Orderly.create (h : Orderly rt r w) (hin : InTime r w.names) :
    Orderly rt r
      { w with
        mapper := some (RulesetMapper.empty.loadMappings rt w.names) } where
  known := h.known
  backed mapper hmapper := by
    cases hmapper
    exact Backed.empty.load
  settled mapper hmapper := by
    cases hmapper
    exact settled_load hrt hdistinct hplain h.known Backed.empty hin

theorem Orderly.ask (h : Orderly rt r w) (hin : InTime r w.names)
    {w' : MapperWorld} (hask : w.ask rt = some w') : Orderly rt r w' := by
  obtain ⟨mapper, hmapper, rfl⟩ := Option.map_eq_some_iff.mp hask
  have hbacked := h.backed mapper hmapper
  refine
    { known := h.known
      backed := fun m hm => ?_
      settled := fun m hm => ?_ }
  · cases hm
    exact hbacked.ensureLoaded
  · cases hm
    rcases ensureLoaded_cases hbacked with ⟨last, hlast, heq⟩ | ⟨heq, -⟩
    · rw [heq]
      exact settled_load hrt hdistinct hplain h.known hlast hin
    · rw [heq]
      exact h.settled mapper hmapper

theorem orderly_step {act : MapperAct} {w' : MapperWorld}
    (h : Orderly rt r w) (hfits : Fits r w act)
    (hstep : w.step rt r act = some w') : Orderly rt r w' := by
  cases act with
  | unit item =>
    obtain ⟨hitem, heq⟩ := Option.ite_none_right_eq_some.mp hstep
    cases heq
    exact h.unit hdistinct hitem
  | building item =>
    obtain ⟨hitem, heq⟩ := Option.ite_none_right_eq_some.mp hstep
    cases heq
    exact h.building hdistinct hitem
  | tech item =>
    obtain ⟨hitem, heq⟩ := Option.ite_none_right_eq_some.mp hstep
    cases heq
    exact h.tech hdistinct hitem
  | create =>
    obtain ⟨-, heq⟩ := Option.ite_none_right_eq_some.mp hstep
    cases heq
    exact h.create hrt hdistinct hplain hfits
  | mapProduction name | getTech name =>
    exact h.ask hrt hdistinct hplain hfits hstep

theorem complete_ensureLoaded (h : Orderly rt r w)
    (hall : Arrived r w.names) (hmapper : w.mapper = some mapper) :
    Complete rt r (mapper.ensureLoaded rt w.names) := by
  rcases ensureLoaded_cases (h.backed mapper hmapper) with
    ⟨last, hlast, heq⟩ | ⟨heq, hunits, hbuildings⟩
  · rw [heq]
    exact complete_of_arrived hrt hdistinct hplain h.known hlast hall
  · rw [heq]
    rcases h.settled mapper hmapper with
      hcomplete | ⟨hne, hzero⟩ | ⟨hne, hzero⟩
    · exact hcomplete
    · obtain ⟨item, hitem⟩ := List.exists_mem_of_ne_nil _ hne
      have hname := (hplain.named item (List.mem_append_left _ hitem)).1
      have hmem := Dict.mem_entries_iff.mpr (hall.units item hitem hname)
      rw [List.length_eq_zero_iff.mp (hunits hzero)] at hmem
      cases hmem
    · obtain ⟨item, hitem⟩ := List.exists_mem_of_ne_nil _ hne
      have hname := (hplain.named item (List.mem_append_right _ hitem)).1
      have hmem := Dict.mem_entries_iff.mpr
        (hall.buildings item hitem hname)
      rw [List.length_eq_zero_iff.mp (hbuildings hzero)] at hmem
      cases hmem

-- ==== the answers

omit hrt in
/-- Items of one name in any case have one name, whatever their kind. -/
theorem name_unique {a b : Int × Int × String} (ha : a ∈ items r)
    (hb : b ∈ items r)
    (h : rt.lower a.2.2.toList = rt.lower b.2.2.toList) :
    a.2.2 = b.2.2 := by
  have hkey : lower rt a.2.2 = lower rt b.2.2 := congrArg String.ofList h
  rcases List.mem_append.mp ha with ha | ha
  · obtain ⟨x, hx, rfl⟩ := List.mem_map.mp ha
    rcases List.mem_append.mp hb with hb | hb
    · obtain ⟨y, hy, rfl⟩ := List.mem_map.mp hb
      exact congrArg Prod.snd (eq_of_lower hdistinct.units hx hy hkey)
    · obtain ⟨y, hy, rfl⟩ := List.mem_map.mp hb
      exact hplain.crossed x hx y hy h
  · obtain ⟨x, hx, rfl⟩ := List.mem_map.mp ha
    rcases List.mem_append.mp hb with hb | hb
    · obtain ⟨y, hy, rfl⟩ := List.mem_map.mp hb
      exact (hplain.crossed y hy x hx h.symm).symm
    · obtain ⟨y, hy, rfl⟩ := List.mem_map.mp hb
      exact congrArg Prod.snd (eq_of_lower hdistinct.buildings hx hy hkey)

omit hrt hdistinct in
theorem strip_item {item : Int × Int × String} (h : item ∈ items r) :
    stripChars item.2.2.toList = item.2.2.toList := by
  rcases List.mem_append.mp h with h | h
  · obtain ⟨x, hx, rfl⟩ := List.mem_map.mp h
    exact (hplain.named x (List.mem_append_left _ hx)).2
  · obtain ⟨x, hx, rfl⟩ := List.mem_map.mp h
    exact (hplain.named x (List.mem_append_right _ hx)).2

omit hdistinct hplain in
/-- A complete mapper finds an item under its name in lower case: a unit
if there is one, else a building. -/
theorem mapProduction_of_complete (hknown : Known r s)
    (hbacked : Backed rt s mapper) (hcomplete : Complete rt r mapper)
    {item : Int × Int × String} (hitem : item ∈ items r) {query : String}
    (hquery : rt.lower (stripChars query.toList)
      = rt.lower item.2.2.toList) :
    ∃ found ∈ items r,
      mapper.mapProductionToKindValue rt query = some (found.1, found.2.1)
      ∧ rt.lower found.2.2.toList = rt.lower item.2.2.toList := by
  have hkey : String.ofList (stripChars (rt.lower query.toList))
      = lower rt item.2.2 := by
    rw [hrt.strip, hquery]
    rfl
  unfold mapProductionToKindValue
  simp only [hkey]
  cases hunit : mapper.unitTypes.get? (lower rt item.2.2) with
  | some id =>
    obtain ⟨name, hname, hsame⟩ := hbacked.units _ _ hunit
    refine ⟨(vutUtype, id, name), List.mem_append_left _
      (List.mem_map_of_mem (hknown.units id name hname)), rfl, ?_⟩
    exact String.ofList_injective hsame
  | none =>
    rcases List.mem_append.mp hitem with hitem | hitem
    · obtain ⟨x, hx, rfl⟩ := List.mem_map.mp hitem
      rw [hcomplete.units x hx] at hunit
      cases hunit
    · obtain ⟨x, hx, rfl⟩ := List.mem_map.mp hitem
      have hbuilding := hcomplete.buildings x hx
      refine ⟨(vutImprovement, x), List.mem_append_right _
        (List.mem_map_of_mem hx), ?_, rfl⟩
      rw [hbuilding]
      rfl

theorem Orderly.mapsBack (h : Orderly rt r w) : MapsBack rt r Alone w := by
  intro hall mapper hmapper
  have hbacked := (h.backed mapper hmapper).ensureLoaded
  have hcomplete := complete_ensureLoaded hrt hdistinct hplain h hall hmapper
  constructor
  · rintro query ⟨item, hitem, hnamed⟩
    rw [Named, strip_item hplain hitem] at hnamed
    obtain ⟨found, hfound, hanswer, hsame⟩ := mapProduction_of_complete hrt
      h.known hbacked hcomplete hitem hnamed
    refine ⟨found, hfound, hanswer, ?_, ?_⟩
    · rw [Named, strip_item hplain hfound, hnamed, hsame]
    · rintro ⟨other, hother, hexact⟩
      rw [IsName, strip_item hplain hother] at hexact
      have hname : found.2.2 = other.2.2 := by
        refine name_unique hdistinct hplain hfound hother ?_
        rw [hsame, ← hnamed, hexact]
      rw [IsName, strip_item hplain hfound, hname, hexact]
  · intro item hitem query hspelling
    obtain ⟨hname, hmark⟩ := hplain.techs item hitem
    obtain ⟨hne, hkey⟩ := normalize_spelling hrt hname hmark hspelling
    show (if query = "" then none else _) = some item.1
    rw [if_neg hne, hkey]
    exact hcomplete.techs _ (List.mem_map_of_mem hitem)

end

/-- In every run in which the mapper is made and asked in time, the names
map back once all packets have come. -/
theorem names_map_back (rt : PyRuntime) (hrt : LowerRules rt.lower)
    (r : Ruleset) (hdistinct : Distinct rt r) (hplain : Plain rt r)
    (acts : List MapperAct)
    (hfits : (mapperRuns rt r).Along (Fits r) MapperWorld.init acts) :
    (mapperRuns rt r).Always (MapsBack rt r Alone) MapperWorld.init acts :=
  Lts.always_of_along (J := Orderly rt r)
    (fun _ h => h.mapsBack hrt hdistinct hplain)
    (fun _ _ _ h hf hstep => orderly_step hrt hdistinct hplain h hf hstep)
    orderly_init hfits

end

instance (rt : PyRuntime) (a b : Int × String) : Decidable (Apart rt a b) :=
  inferInstanceAs (Decidable (_ ∧ _))

def smallRuleset : Ruleset where
  units := [(0, "Settlers"), (1, "Workers")]
  buildings := [(0, "Palace")]
  techs := [(3, "?tech:Bronze Working")]

theorem smallRuleset_distinct : Distinct .ascii smallRuleset where
  units := by decide
  buildings := by decide
  techs := by decide

theorem smallRuleset_plain : Plain .ascii smallRuleset where
  named := by decide
  crossed := by decide
  techs := by decide

theorem names_map_back_early :
    (mapperRuns .ascii smallRuleset).Always
      (MapsBack .ascii smallRuleset Alone) MapperWorld.init
      [.unit (0, "Settlers"), .create, .unit (1, "Workers"),
        .mapProduction "settlers", .tech (3, "?tech:Bronze Working"),
        .building (0, "Palace"), .getTech "bronze_working"] := by
  have hnone : smallRuleset.buildings ≠ [] := by decide
  refine names_map_back .ascii lowerRules_ascii smallRuleset
    smallRuleset_distinct smallRuleset_plain _ ?_
  refine ⟨trivial, .inr (.inl ⟨hnone, rfl⟩), trivial,
    .inr (.inl ⟨hnone, rfl⟩), trivial, trivial, .inr (.inr ?_), trivial⟩
  exact ⟨by decide, by decide, by decide⟩

def loudRuleset : Ruleset where
  units := [(0, "Barracks")]
  buildings := [(5, "BARRACKS")]
  techs := []

/-- A mapper made when the first unit and building are there does not find
the second unit; the two underscores of a doubled blank are not one; and a
building's own name is answered by the unit that has it in another case. -/
theorem names_do_not_map_back :
    (¬ ∀ acts, (mapperRuns .ascii smallRuleset).Always
        (MapsBack .ascii smallRuleset Alone) MapperWorld.init acts)
    ∧ (¬ ∀ acts, (mapperRuns .ascii smallRuleset).Along (Fits smallRuleset)
          MapperWorld.init acts →
        (mapperRuns .ascii smallRuleset).Always
          (MapsBack .ascii smallRuleset fun _ _ => True) MapperWorld.init
          acts)
    ∧ Distinct .ascii loudRuleset
    ∧ ¬ ∀ acts, (mapperRuns .ascii loudRuleset).Along (Fits loudRuleset)
          MapperWorld.init acts →
        (mapperRuns .ascii loudRuleset).Always
          (MapsBack .ascii loudRuleset Alone) MapperWorld.init acts := by
  refine ⟨?_, ?_, ⟨by decide, by decide, by decide⟩, ?_⟩
  · intro hall
    have hrun := hall [.unit (0, "Settlers"), .building (0, "Palace"),
      .create, .unit (1, "Workers"), .tech (3, "?tech:Bronze Working")]
    have hlast := hrun.2.2.2.2.2
      ⟨by decide, by decide, by decide⟩ _ rfl
    obtain ⟨item, -, hanswer, -⟩ := hlast.1 "Workers"
      ⟨(vutUtype, 1, "Workers"), by decide, rfl⟩
    cases hanswer
  · intro hall
    have hrun := hall [.unit (0, "Settlers"), .unit (1, "Workers"),
      .building (0, "Palace"), .tech (3, "?tech:Bronze Working"), .create]
      ⟨trivial, trivial, trivial, trivial,
        .inr (.inr ⟨by decide, by decide, by decide⟩), trivial⟩
    have hlast := hrun.2.2.2.2.2
      ⟨by decide, by decide, by decide⟩ _ rfl
    have hanswer := hlast.2 (3, "?tech:Bronze Working") (by decide)
      "Bronze__Working"
      ⟨"Bronze__Working".toList,
        ((Relation.ReflTransGen.refl.tail
          (.doubled "Bronze".toList "Working".toList)).tail
          (.joined "Bronze".toList " Working".toList trivial)).tail
          (.joined "Bronze_".toList "Working".toList trivial),
        .inl rfl⟩
    cases hanswer
  · intro hall
    have hrun := hall [.unit (0, "Barracks"), .building (5, "BARRACKS"),
      .create]
      ⟨trivial, trivial,
        .inr (.inr ⟨by decide, by decide, by decide⟩), trivial⟩
    have hlast := hrun.2.2.2
      ⟨by decide, by decide, by decide⟩ _ rfl
    obtain ⟨item, hitem, hanswer, -, hexact⟩ := hlast.1 "BARRACKS"
      ⟨(vutImprovement, 5, "BARRACKS"), by decide, rfl⟩
    have hname := hexact ⟨(vutImprovement, 5, "BARRACKS"), by decide, rfl⟩
    have hcases : item = (vutUtype, 0, "Barracks")
        ∨ item = (vutImprovement, 5, "BARRACKS") := by
      simpa [items, loudRuleset] using hitem
    rcases hcases with rfl | rfl
    · have hne : stripChars "BARRACKS".toList
          ≠ stripChars "Barracks".toList := by decide
      exact hne hname
    · cases hanswer

end MapperWorld

end Freeciv3d.Proxy
