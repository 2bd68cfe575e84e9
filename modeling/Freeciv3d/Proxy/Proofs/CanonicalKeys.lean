/-
What `_parse_canonical_action` makes of a canonical string, and that it is
never what was said.

# The two matches

The type ends after its first word (`typeGroup_text`). The pairs are found
one after the other, without those that have no value
(`findPairs_render`); their keys are the names with what stands before
them.

# Never

A type of several words is cut. One of a single word has no mapping, so
every key that is found must have been given, and none begins with an
underscore: what is left is a first parameter called like the type itself,
whose key is longer (`not_faithful`).
-/
import Freeciv3d.Proxy.CanonicalAction

namespace Freeciv3d.Proxy

open Lib

namespace CanonicalAction

-- ==== the type

theorem isTypeChar_of_lower {c : Char} (h : 'a' ≤ c ∧ c ≤ 'z') :
    isTypeChar c = true := by
  simp [isTypeChar, h]

theorem ne_underscore {c : Char} (h : 'a' ≤ c ∧ c ≤ 'z') : c ≠ '_' := by
  rintro rfl
  exact absurd h (by decide)

theorem endsType_of_lower {c : Char} (h : 'a' ≤ c ∧ c ≤ 'z')
    (rest : List Char) : endsType (c :: rest) = false := by
  have hnewline : c ≠ '\n' := by
    rintro rfl
    exact absurd h (by decide)
  unfold endsType
  split
  · cases ‹c :: rest = []›
  · rename_i heq
    cases heq
    exact absurd rfl (ne_underscore h)
  · rename_i heq
    cases heq
    simp [hnewline]

theorem endsType_of_name {name : List Char} (hne : name ≠ [])
    (hname : ∀ c ∈ name, isTypeChar c = true) (rest : List Char) :
    endsType ('_' :: name ++ '(' :: rest) = true := by
  have hparen : isTypeChar '(' = false := by decide
  show (!((name ++ '(' :: rest).takeWhile isTypeChar).isEmpty
    && ((name ++ '(' :: rest).dropWhile isTypeChar).head? == some '(') = true
  rw [List.takeWhile_append_of_pos hname, List.dropWhile_append_of_pos hname,
    List.takeWhile_cons, List.dropWhile_cons, hparen]
  simp [hne]

/-- The group takes the letters before the first place where it may
end. -/
theorem typeGroup_word {w : List Char} (hw : IsWord w) {rest : List Char}
    (hrest : endsType rest = true) (taken : List Char) :
    typeGroup taken (w ++ rest) = some (taken ++ w) := by
  obtain ⟨hne, hlower⟩ := hw
  induction w generalizing taken with
  | nil => exact absurd rfl hne
  | cons c w ih =>
    have hc := hlower c List.mem_cons_self
    rw [List.cons_append, typeGroup, if_pos (isTypeChar_of_lower hc)]
    cases w with
    | nil => rw [List.nil_append, if_pos hrest]
    | cons d w =>
      have hd := hlower d (List.mem_cons_of_mem _ List.mem_cons_self)
      rw [List.cons_append, endsType_of_lower hd, if_neg Bool.false_ne_true]
      have hih := ih (taken ++ [c]) (List.cons_ne_nil d w)
        fun c hc => hlower c (List.mem_cons_of_mem _ hc)
      rw [List.cons_append] at hih
      rw [hih, List.append_assoc]
      rfl

-- ==== words

/-- An underscore and a word, for each of some words. -/
def underscored (words : List (List Char)) : List Char :=
  words.flatMap fun word => '_' :: word

theorem Words.text_eq (w : Words) :
    w.text = w.first ++ underscored w.rest := by
  obtain ⟨first, rest, hwords⟩ := w
  show PyStr.joinChars '_' (first :: rest) = first ++ underscored rest
  clear hwords
  induction rest generalizing first with
  | nil => simp [PyStr.joinChars, underscored]
  | cons word rest ih =>
    rw [PyStr.joinChars, List.intercalate_cons_cons]
    have := ih word
    rw [PyStr.joinChars] at this
    rw [this]
    simp [underscored]

theorem Words.first_isWord (w : Words) : IsWord w.first :=
  w.isWord _ List.mem_cons_self

theorem underscored_chars {words : List (List Char)}
    (h : ∀ w ∈ words, IsWord w) :
    ∀ c ∈ underscored words, isTypeChar c = true := by
  intro c hc
  obtain ⟨w, hw, hcw⟩ := List.mem_flatMap.mp hc
  rcases List.mem_cons.mp hcw with rfl | hcw
  · rfl
  · exact isTypeChar_of_lower ((h w hw).2 c hcw)

theorem Words.chars (w : Words) : ∀ c ∈ w.text, isTypeChar c = true := by
  rw [w.text_eq]
  intro c hc
  rcases List.mem_append.mp hc with hc | hc
  · exact isTypeChar_of_lower (w.first_isWord.2 c hc)
  · exact underscored_chars
      (fun x hx => w.isWord x (List.mem_cons_of_mem _ hx)) c hc

theorem Words.text_cons (w : Words) :
    ∃ c rest, w.text = c :: rest ∧ 'a' ≤ c ∧ c ≤ 'z' := by
  obtain ⟨hne, hlower⟩ := w.first_isWord
  rw [w.text_eq]
  cases hfirst : w.first with
  | nil => exact absurd hfirst hne
  | cons c rest =>
    refine ⟨c, rest ++ underscored w.rest, rfl, ?_⟩
    exact hlower c (hfirst ▸ List.mem_cons_self)

theorem Words.text_ne_nil (w : Words) : w.text ≠ [] := by
  obtain ⟨c, rest, hw, -⟩ := w.text_cons
  rw [hw]
  exact List.cons_ne_nil c rest

theorem Action.typeGroup_text (a : Action) :
    typeGroup [] a.text = some a.type.first := by
  have hname := a.param.name.chars
  have hne := a.param.name.text_ne_nil
  have htext : ∃ run rest, run ≠ [] ∧ (∀ c ∈ run, isTypeChar c = true)
      ∧ a.text = a.type.first ++ ('_' :: run ++ '(' :: rest) := by
    unfold Action.text
    rw [a.type.text_eq, List.flatMap_cons]
    cases hrest : a.type.rest with
    | nil =>
      refine ⟨a.param.name.text, a.param.value
        ++ ')' :: a.params.flatMap Param.text, hne, hname, ?_⟩
      simp [underscored, Param.text]
    | cons word words =>
      have hwords : ∀ w ∈ word :: words, IsWord w := fun w hw =>
        a.type.isWord w (List.mem_cons_of_mem _ (hrest ▸ hw))
      refine ⟨word ++ underscored words ++ '_' :: a.param.name.text,
        a.param.value ++ ')' :: a.params.flatMap Param.text, by simp,
        ?_, ?_⟩
      · intro c hc
        rcases List.mem_append.mp hc with hc | hc
        · exact underscored_chars hwords c
            (List.mem_cons_of_mem _ (by simpa [underscored] using hc))
        · rcases List.mem_cons.mp hc with rfl | hc
          · rfl
          · exact hname c hc
      · simp [underscored, Param.text]
  obtain ⟨run, rest, hrun, hchars, heq⟩ := htext
  rw [heq, typeGroup_word a.type.first_isWord
    (endsType_of_name hrun hchars rest)]
  rfl

-- ==== the pairs

/-- `key(value)` for each pair. -/
def render (pairs : List (List Char × List Char)) : List Char :=
  pairs.flatMap fun pair => pair.1 ++ '(' :: pair.2 ++ [')']

section Pairs

variable {word : Char → Bool}

/-- Parentheses are no word characters. -/
def ParensEnd (word : Char → Bool) : Prop :=
  word '(' = false ∧ word ')' = false

theorem pairAt_pair (hparens : ParensEnd word) {key value : List Char}
    (hkey : ∀ c ∈ key, word c = true) (hvalue : ')' ∉ value)
    (rest : List Char) :
    pairAt word (key ++ '(' :: value ++ ')' :: rest)
      = if key.isEmpty || value.isEmpty then none
        else some (key, value, rest) := by
  have hne : ∀ c ∈ value, (c != ')') = true := by
    intro c hc
    rw [bne_iff_ne]
    rintro rfl
    exact hvalue hc
  unfold pairAt
  rw [List.append_assoc, List.takeWhile_append_of_pos hkey,
    List.dropWhile_append_of_pos hkey, List.cons_append,
    List.takeWhile_cons, List.dropWhile_cons, hparens.1]
  simp only [Bool.false_eq_true, if_false, List.append_nil]
  rw [List.takeWhile_append_of_pos hne, List.dropWhile_append_of_pos hne]
  simp

theorem findPairs_none {c : Char} {rest : List Char} (fuel : Nat)
    (h : pairAt word (c :: rest) = none) :
    findPairs word (fuel + 1) (c :: rest) = findPairs word fuel rest := by
  rw [findPairs, h]

theorem findPairs_some {text key value after : List Char} (fuel : Nat)
    (h : pairAt word text = some (key, value, after)) :
    findPairs word (fuel + 1) text
      = (key, value) :: findPairs word fuel after := by
  cases text with
  | nil =>
    unfold pairAt at h
    cases h
  | cons c rest => rw [findPairs, h]

theorem pairAt_empty (hparens : ParensEnd word) {key : List Char}
    (hkey : ∀ c ∈ key, word c = true) (rest : List Char) :
    pairAt word (key ++ '(' :: ')' :: rest) = none := by
  have h := pairAt_pair hparens hkey (List.not_mem_nil (a := ')')) rest
  rw [List.isEmpty_nil, Bool.or_true, if_pos rfl, List.append_assoc] at h
  exact h

theorem findPairs_skip (hparens : ParensEnd word) {key : List Char}
    (hkey : ∀ c ∈ key, word c = true) (rest : List Char) (fuel : Nat) :
    findPairs word (key.length + 2 + fuel) (key ++ '(' :: ')' :: rest)
      = findPairs word fuel rest := by
  have hnone := pairAt_empty hparens hkey rest
  induction key with
  | nil =>
    have hclosing : pairAt word (')' :: rest) = none := by
      unfold pairAt
      rw [List.dropWhile_cons, hparens.2]
      rfl
    have hfuel : ([] : List Char).length + 2 + fuel = fuel + 1 + 1 := by
      simp
      omega
    rw [hfuel, List.nil_append, findPairs_none _ hnone,
      findPairs_none _ hclosing]
  | cons c key ih =>
    have hfuel : (c :: key).length + 2 + fuel
        = key.length + 2 + fuel + 1 := by
      simp
      omega
    have hkey' : ∀ d ∈ key, word d = true := fun d hd =>
      hkey d (List.mem_cons_of_mem _ hd)
    rw [List.cons_append] at hnone
    rw [hfuel, List.cons_append, findPairs_none _ hnone]
    exact ih hkey' (pairAt_empty hparens hkey' rest)

theorem findPairs_render (hparens : ParensEnd word)
    {pairs : List (List Char × List Char)}
    (hpairs : ∀ pair ∈ pairs, pair.1 ≠ []
      ∧ (∀ c ∈ pair.1, word c = true) ∧ ')' ∉ pair.2)
    {fuel : Nat} (hfuel : (render pairs).length ≤ fuel) :
    findPairs word fuel (render pairs)
      = pairs.filter fun pair => !pair.2.isEmpty := by
  induction pairs generalizing fuel with
  | nil => cases fuel <;> rfl
  | cons pair pairs ih =>
    obtain ⟨hne, hkey, hvalue⟩ := hpairs pair List.mem_cons_self
    obtain ⟨key, value⟩ := pair
    have hrest : ∀ pair ∈ pairs, _ := fun pair h =>
      hpairs pair (List.mem_cons_of_mem _ h)
    have htext : render ((key, value) :: pairs)
        = key ++ '(' :: value ++ ')' :: render pairs := by
      simp [render]
    rw [htext] at hfuel ⊢
    simp only [List.length_append, List.length_cons] at hfuel
    cases value with
    | nil =>
      have hsplit : fuel
          = key.length + 2 + (fuel - key.length - 2) := by
        simp at hfuel
        omega
      rw [List.filter_cons_of_neg (by simp), hsplit, List.append_assoc]
      refine (findPairs_skip hparens hkey _ _).trans (ih hrest ?_)
      simp at hfuel
      omega
    | cons v value =>
      have hpair := pairAt_pair hparens hkey hvalue (render pairs)
      have hkeyNe : key.isEmpty = false := by simpa using hne
      rw [hkeyNe, List.isEmpty_cons, Bool.or_false,
        if_neg Bool.false_ne_true] at hpair
      obtain ⟨n, rfl⟩ : ∃ n, fuel = n + 1 := ⟨fuel - 1, by omega⟩
      rw [List.filter_cons_of_pos (by simp), findPairs_some n hpair,
        ih hrest (by omega)]

end Pairs

-- ==== the result

namespace Action

variable (a : Action)

/-- The pairs of the text: the type is part of the first key, the
underscore of each. -/
def pairs : List (List Char × List Char) :=
  (a.type.text ++ '_' :: a.param.name.text, a.param.value)
    :: a.params.map fun p => ('_' :: p.name.text, p.value)

theorem text_eq : a.text = render a.pairs := by
  have hparam : Param.text = fun p =>
      '_' :: p.name.text ++ '(' :: p.value ++ [')'] := rfl
  unfold text pairs render
  rw [List.flatMap_cons, List.flatMap_cons, List.flatMap_map, hparam]
  simp

theorem first_not_mapped : String.ofList a.type.first ∉ mappedTypes := by
  intro hmem
  have hunderscore : '_' ∈ a.type.first := by
    have : ∀ s ∈ mappedTypes, '_' ∈ s.toList := by decide
    simpa using this _ hmem
  exact absurd rfl
    (ne_underscore (a.type.first_isWord.2 '_' hunderscore))

variable {rt : PyRuntime} (hparens : ParensEnd rt.isWord)
variable (hletters : ∀ c, isTypeChar c = true → rt.isWord c = true)

theorem mapFields_of_not_mapped {type : String} (h : type ∉ mappedTypes)
    (params : PyDict) :
    mapFields rt type params
      = .ok (((∅ : PyDict).set "type" (.str type)).addMissing params) := by
  simp only [mappedTypes, List.mem_cons, List.not_mem_nil, or_false,
    not_or] at h
  simp only [mapFields, h, if_false, or_self]

include hparens hletters in
theorem findPairs_text :
    findPairs rt.isWord a.text.length a.text
      = a.pairs.filter fun pair => !pair.2.isEmpty := by
  rw [text_eq]
  refine findPairs_render hparens (fun pair hpair => ?_) (Nat.le_refl _)
  rcases List.mem_cons.mp hpair with rfl | hpair
  · refine ⟨by simp, fun c hc => hletters c ?_, a.param.noParens.2⟩
    rcases List.mem_append.mp hc with hc | hc
    · exact a.type.chars c hc
    · rcases List.mem_cons.mp hc with rfl | hc
      · rfl
      · exact a.param.name.chars c hc
  · obtain ⟨p, -, rfl⟩ := List.mem_map.mp hpair
    refine ⟨by simp, fun c hc => hletters c ?_, p.noParens.2⟩
    rcases List.mem_cons.mp hc with rfl | hc
    · rfl
    · exact p.name.chars c hc

def found (rt : PyRuntime) : PyDict :=
  toParams rt.toCharTables (a.pairs.filter fun pair => !pair.2.isEmpty)

include hparens hletters in
/-- What comes of the text: its first word as the type, and the pairs that
have a value. -/
theorem parse_text :
    parse rt a.text
      = .ok (((∅ : PyDict).set "type"
          (.str (String.ofList a.type.first))).addMissing
        (a.found rt)) := by
  unfold parse
  rw [a.typeGroup_text]
  dsimp only
  rw [mapFields_of_not_mapped a.first_not_mapped,
    a.findPairs_text hparens hletters]
  rfl

-- -------------------- the keys that are found

theorem of_found {k : String} {v : PyVal}
    (h : (a.found rt).get? k = some v) :
    ∃ pair ∈ a.pairs, pair.2 ≠ [] ∧ k = String.ofList pair.1
      ∧ v = convert rt.toCharTables pair.2 := by
  obtain ⟨pair, hpair, heq⟩ := List.mem_map.mp (Dict.mem_of_get?_ofList h)
  cases heq
  obtain ⟨hmem, hvalue⟩ := List.mem_filter.mp hpair
  exact ⟨pair, hmem, by simpa using hvalue, rfl, rfl⟩

theorem of_given {k : String} {v : PyVal}
    (h : (a.given rt).get? k = some v) :
    ∃ p ∈ a.param :: a.params, k = String.ofList p.name.text
      ∧ v = convert rt.toCharTables p.value := by
  obtain ⟨pair, hpair, heq⟩ := List.mem_map.mp (Dict.mem_of_get?_ofList h)
  obtain ⟨p, hp, rfl⟩ := List.mem_map.mp hpair
  cases heq
  exact ⟨p, hp, rfl, rfl⟩

theorem get?_toParams {t : PyStr.CharTables}
    {pairs : List (List Char × List Char)} {pair : List Char × List Char}
    (h : pair ∈ pairs) :
    ∃ v, (toParams t pairs).get? (String.ofList pair.1) = some v := by
  unfold toParams
  rw [Dict.get?_ofList, ← Option.isSome_iff_exists, Option.isSome_map,
    List.find?_isSome]
  refine ⟨(String.ofList pair.1, convert t pair.2), ?_, by simp⟩
  exact List.mem_reverse.mpr (List.mem_map.mpr ⟨pair, h, rfl⟩)

theorem name_ne (w : Words) (cs : List Char) : w.text ≠ '_' :: cs := by
  obtain ⟨c, rest, hw, hlower⟩ := w.text_cons
  rw [hw]
  intro h
  exact ne_underscore hlower (List.cons.inj h).1

theorem convert_nil (t : PyStr.CharTables) : convert t [] = .str "" := rfl

theorem convert_ne_empty (t : PyStr.CharTables) {cs : List Char}
    (h : cs ≠ []) : convert t cs ≠ .str "" := by
  unfold convert
  split
  · nofun
  · intro heq
    have hstring : String.ofList cs = "" := by injection heq
    exact h (by simpa using congrArg String.toList hstring)

theorem not_found_of_name {k : String} {v : PyVal}
    (hk : k = String.ofList a.param.name.text) :
    (a.found rt).get? k ≠ some v := by
  intro h
  obtain ⟨pair, hpair, -, hkey, -⟩ := a.of_found h
  have hname : a.param.name.text = pair.1 :=
    String.ofList_injective (hk.symm.trans hkey)
  rcases List.mem_cons.mp hpair with rfl | hpair
  · have := congrArg List.length hname
    simp at this
    omega
  · obtain ⟨p, -, rfl⟩ := List.mem_map.mp hpair
    exact name_ne _ _ hname

include hparens hletters in
theorem not_faithful : ¬ a.Faithful rt := by
  rintro ⟨result, hparse, htype, hfields⟩
  rw [a.parse_text hparens hletters] at hparse
  have hget : ∀ k, result.get? k
      = (if k = "type" then some (.str (String.ofList a.type.first))
          else none).or ((a.found rt).get? k) := by
    intro k
    cases hparse
    rw [Dict.get?_addMissing, Dict.get?_set, Dict.get?_empty]
  have hother : ∀ k, k ≠ "type" →
      result.get? k = (a.found rt).get? k := by
    intro k hk
    rw [hget, if_neg hk, Option.none_or]
  -- the type is one word, and so without a mapping
  have hword : a.type.text = a.type.first := by
    rw [hget, if_pos rfl] at htype
    exact (String.ofList_injective
      (PyVal.str.inj (Option.some_inj.mp htype))).symm
  rw [hword, if_neg a.first_not_mapped] at hfields
  obtain ⟨hcopied, honly⟩ := hfields
  -- what is found under another key than the type's was given
  have hgiven : ∀ pair ∈ a.pairs, pair.2 ≠ [] →
      String.ofList pair.1 ≠ "type" →
      ∃ p ∈ a.param :: a.params, p.name.text = pair.1
        ∧ p.value ≠ [] := by
    intro pair hpair hvalue hkey
    obtain ⟨u, hu⟩ := get?_toParams (t := rt.toCharTables)
      (List.mem_filter.mpr ⟨hpair, by simpa using hvalue⟩ :
        pair ∈ a.pairs.filter fun pair => !pair.2.isEmpty)
    have hresult := (hother _ hkey).trans hu
    rcases honly _ (by rw [hresult]; simp) with htype | hsome
    · exact absurd htype hkey
    · obtain ⟨v, hv⟩ := Option.ne_none_iff_exists'.mp hsome
      obtain ⟨p, hp, hname, hconvert⟩ := a.of_given hv
      refine ⟨p, hp, (String.ofList_injective hname).symm, fun hempty => ?_⟩
      have hsame := (hcopied _ _ hv).symm.trans hresult
      obtain ⟨pair', -, hvalue', -, hu'⟩ := a.of_found hu
      rw [Option.some_inj.mp hsame, hu', hempty, convert_nil] at hconvert
      exact convert_ne_empty _ hvalue' hconvert
  -- so a later parameter has no value
  have hlater : ∀ p ∈ a.params, p.value = [] := by
    intro p hp
    by_contra hvalue
    obtain ⟨q, -, hname, -⟩ := hgiven ('_' :: p.name.text, p.value)
      (List.mem_cons_of_mem _ (List.mem_map.mpr ⟨p, hp, rfl⟩)) hvalue
      (fun h => by simpa using congrArg (·.toList.head?) h)
    exact name_ne _ _ hname
  -- and the first one is named like the type
  obtain ⟨v, hv⟩ := get?_toParams (t := rt.toCharTables)
    (List.mem_map.mpr ⟨a.param, List.mem_cons_self, rfl⟩ :
      (a.param.name.text, a.param.value)
        ∈ (a.param :: a.params).map fun p => (p.name.text, p.value))
  have hcopy := hcopied _ _ hv
  have hname : String.ofList a.param.name.text = "type" := by
    by_contra hname
    exact a.not_found_of_name rfl ((hother _ hname).symm.trans hcopy)
  obtain ⟨p, hp, -, hvalue⟩ := a.of_given hv
  rw [hname, htype, hword, Option.some_inj] at hcopy
  have hne : a.param.value ≠ [] := by
    intro hempty
    have hnone : p.value = [] := by
      rcases List.mem_cons.mp hp with rfl | hp
      · exact hempty
      · exact hlater p hp
    rw [hvalue, hnone, convert_nil] at hcopy
    have hfirst : String.ofList a.type.first = "" := PyVal.str.inj hcopy
    exact a.type.first_isWord.1
      (by simpa using congrArg String.toList hfirst)
  -- then its key was not given either
  have hlonger : a.param.name.text
      ≠ a.type.text ++ '_' :: a.param.name.text := by
    intro h
    have := congrArg List.length h
    simp at this
    omega
  obtain ⟨q, hq, hqname, hqvalue⟩ := hgiven
    (a.type.text ++ '_' :: a.param.name.text, a.param.value)
    List.mem_cons_self hne
    (fun h => hlonger (String.ofList_injective (hname.trans h.symm)))
  rcases List.mem_cons.mp hq with rfl | hq
  · exact hlonger hqname
  · exact hqvalue (hlater q hq)

end Action

/-- The characters of a name are word characters, and parentheses are
not. -/
def KnowsNames (t : PyStr.CharTables) : Prop :=
  ParensEnd t.isWord ∧ ∀ c, isTypeChar c = true → t.isWord c = true

/-- No canonical string with a parameter is parsed faithfully. -/
theorem canonical_never_faithful (rt : PyRuntime)
    (hnames : KnowsNames rt.toCharTables) (a : Action) :
    ¬ a.Faithful rt :=
  a.not_faithful hnames.1 hnames.2

theorem isWord_of_all {cs : List Char} (hne : cs ≠ [])
    (h : cs.all (fun c => decide ('a' ≤ c ∧ c ≤ 'z')) = true) : IsWord cs :=
  ⟨hne, fun c hc => of_decide_eq_true (List.all_eq_true.mp h c hc)⟩

theorem isWord_lower : ∀ w ∈ ["tech", "research", "player", "target"],
    IsWord w.toList := by
  intro w hw
  simp only [List.mem_cons, List.not_mem_nil, or_false] at hw
  rcases hw with rfl | rfl | rfl | rfl <;>
    exact isWord_of_all (by decide) (by decide)

/-- `tech_research_player(1)_target(Alphabet)`. -/
def techResearch : Action where
  type := ⟨"tech".toList, ["research".toList], by
    simpa using And.intro (isWord_lower "tech" (by simp))
      (isWord_lower "research" (by simp))⟩
  param := ⟨⟨"player".toList, [], by
    simpa using isWord_lower "player" (by simp)⟩, ['1'], by decide⟩
  params := [⟨⟨"target".toList, [], by
    simpa using isWord_lower "target" (by simp)⟩, "Alphabet".toList,
      by decide⟩]

theorem knowsNames_ascii : KnowsNames .ascii := by
  refine ⟨⟨by decide, by decide⟩, fun c hc => ?_⟩
  simp only [isTypeChar, Bool.or_eq_true, Bool.and_eq_true,
    decide_eq_true_eq, beq_iff_eq] at hc
  rcases hc with hc | rfl
  · have hlower : c.isLower = true :=
      Bool.and_eq_true_iff.mpr ⟨decide_eq_true hc.1, decide_eq_true hc.2⟩
    show (((c.isUpper || c.isLower) || c.isDigit) || c == '_') = true
    rw [hlower, Bool.or_true, Bool.true_or, Bool.true_or]
  · rfl

theorem techResearch_not_faithful : ¬ techResearch.Faithful .ascii :=
  canonical_never_faithful .ascii knowsNames_ascii techResearch

/-- Its type comes out as `tech`, and it has no `tech_name`. -/
theorem techResearch_parsed_as_tech :
    ∃ result, parse .ascii techResearch.text = .ok result
      ∧ result.get? "type" = some (.str "tech")
      ∧ result.get? "tech_name" = none
      ∧ ¬ techResearch.Faithful .ascii := by
  refine ⟨_, techResearch.parse_text knowsNames_ascii.1 knowsNames_ascii.2,
    ?_, ?_, techResearch.not_faithful knowsNames_ascii.1 knowsNames_ascii.2⟩
  · rw [Dict.get?_addMissing, Dict.get?_set]
    rfl
  · rfl

end CanonicalAction

end Freeciv3d.Proxy
