/-
JSON texts one after the other, with commas between and brackets around.

# A text before another

A token is read up to where it ends, and the reader looks one character
further. Before a mark that no number and no word goes on with, a text has
the tokens it has alone (`tokenize_append`), and the parse of its tokens
puts its value where one is wanted (`parse_below`).
-/
import Mathlib.Data.List.Find
import Freeciv3d.Lib.JsonRead

namespace Lib

namespace JsonRead

def tokenize (cs : List Nat) : List Token := tokens cs.length cs

theorem tokens_of_le {fuel : Nat} {cs : List Nat} (h : cs.length ≤ fuel) :
    tokens fuel cs = tokenize cs := by
  induction h with
  | refl => rfl
  | step h ih => rw [tokens_fuel h, ih]

theorem tokenize_of_dropWhile {cs rest : List Nat} {c : Nat}
    (h : cs.dropWhile isBlank = c :: rest) :
    tokenize cs = (nextToken c rest).1 :: tokenize (nextToken c rest).2 := by
  have hskip := length_dropWhile_le isBlank cs
  have hnext := length_nextToken c rest
  rw [h, List.length_cons] at hskip
  rw [← tokens_of_le (Nat.le_succ cs.length)]
  unfold tokens
  rw [h]
  dsimp only
  rw [tokens_of_le (by omega)]

theorem tokenize_cons {c : Nat} (hc : isBlank c = false) (cs : List Nat) :
    tokenize (c :: cs)
      = (nextToken c cs).1 :: tokenize (nextToken c cs).2 :=
  tokenize_of_dropWhile (by rw [List.dropWhile_cons, hc]; rfl)

-- ==== before another text

/-- The text begins with a mark that ends what comes before it. -/
def Apart (ext : List Nat) : Prop :=
  ∃ c ∈ [code ',', code ']', code '"'], ext.head? = some c

variable {ext : List Nat}

/-- A run of characters ends before the mark. -/
theorem Apart.runs (h : Apart ext) {p : Nat → Bool}
    (hp : ∀ c ∈ [code ',', code ']', code '"'], p c = false)
    (cs : List Nat) :
    (cs ++ ext).takeWhile p = cs.takeWhile p
      ∧ (cs ++ ext).dropWhile p = cs.dropWhile p ++ ext := by
  induction cs with
  | nil =>
    obtain ⟨c, hc, hhead⟩ := h
    cases ext with
    | nil => cases hhead
    | cons d rest =>
      cases hhead
      simp [hp c hc]
  | cons c cs ih =>
    cases hc : p c <;> simp [hc, ih]

theorem Apart.digits (h : Apart ext) (cs : List Nat) :
    (cs ++ ext).takeWhile isDigit = cs.takeWhile isDigit
      ∧ (cs ++ ext).dropWhile isDigit = cs.dropWhile isDigit ++ ext :=
  h.runs (by decide) cs

/-- A word does not reach over the mark. -/
theorem Apart.isPrefixOf (h : Apart ext) {word : PyText}
    (hword : ∀ c ∈ [code ',', code ']', code '"'], c ∉ word)
    (cs : List Nat) : word.isPrefixOf (cs ++ ext) = word.isPrefixOf cs := by
  induction word generalizing cs with
  | nil => rfl
  | cons w word ih =>
    cases cs with
    | nil =>
      obtain ⟨c, hc, hhead⟩ := h
      cases ext with
      | nil => cases hhead
      | cons d rest =>
        cases hhead
        have hne : w ≠ c := fun heq =>
          hword c hc (heq ▸ List.mem_cons_self)
        simp [List.isPrefixOf, hne]
    | cons c cs =>
      rw [List.cons_append, List.isPrefixOf, List.isPrefixOf,
        ih fun d hd hmem => hword d hd (List.mem_cons_of_mem _ hmem)]

theorem scanString_append {cs rest : List Nat} {s : List (Nat × Bool)}
    (h : scanString cs = some (s, rest)) :
    scanString (cs ++ ext) = some (s, rest ++ ext) := by
  induction s generalizing cs with
  | nil =>
    obtain ⟨-, rfl⟩ | ⟨p, s', cs', heq, -⟩ := scanString_cases h
    · rw [List.cons_append, scanString.eq_def]
      exact if_pos rfl
    · cases heq
  | cons p s ih =>
    obtain ⟨heq, -⟩ | ⟨p', s', cs', heq, h', -, happend⟩ := scanString_cases h
    · cases heq
    · cases heq
      rw [happend, ih h']
      rfl

theorem Apart.cons (h : Apart ext) : ∃ c rest, ext = c :: rest
    ∧ c ∈ [code ',', code ']', code '"'] := by
  obtain ⟨c, hc, hhead⟩ := h
  cases ext with
  | nil => cases hhead
  | cons d rest =>
    cases hhead
    exact ⟨c, rest, rfl, hc⟩

theorem Apart.scanDigits (h : Apart ext) (cs : List Nat) :
    JsonRead.scanDigits (cs ++ ext)
      = (JsonRead.scanDigits cs).map fun r => (r.1, r.2 ++ ext) := by
  cases cs with
  | nil =>
    obtain ⟨c, rest, rfl, hc⟩ := h.cons
    have hall : ∀ c ∈ [code ',', code ']', code '"'],
        c ≠ code '0' ∧ isDigit c = false := by decide
    simp [JsonRead.scanDigits, hall c hc]
  | cons c cs =>
    obtain ⟨htake, hdrop⟩ := h.digits cs
    rw [List.cons_append, JsonRead.scanDigits, JsonRead.scanDigits]
    split
    · rfl
    · rw [htake, hdrop]
      split <;> rfl

theorem Apart.scanFraction (h : Apart ext) (cs : List Nat) :
    JsonRead.scanFraction (cs ++ ext)
      = ((JsonRead.scanFraction cs).1,
        (JsonRead.scanFraction cs).2 ++ ext) := by
  cases cs with
  | nil =>
    obtain ⟨c, rest, rfl, hc⟩ := h.cons
    have hall : ∀ c ∈ [code ',', code ']', code '"'], c ≠ code '.' := by
      decide
    simp [JsonRead.scanFraction, hall c hc]
  | cons c cs =>
    obtain ⟨htake, hdrop⟩ := h.digits cs
    rw [List.cons_append, JsonRead.scanFraction, JsonRead.scanFraction,
      htake, hdrop]
    split <;> rfl

theorem Apart.scanExponent (h : Apart ext) (cs : List Nat) :
    JsonRead.scanExponent (cs ++ ext)
      = ((JsonRead.scanExponent cs).1,
        (JsonRead.scanExponent cs).2 ++ ext) := by
  cases cs with
  | nil =>
    obtain ⟨c, rest, rfl, hc⟩ := h.cons
    have hall : ∀ c ∈ [code ',', code ']', code '"'],
        c ≠ code 'e' ∧ c ≠ code 'E' := by decide
    simp [JsonRead.scanExponent, hall c hc]
  | cons c cs =>
    have hsign := (h.runs (p := fun d => d == code '+' || d == code '-')
      (by decide) cs).1
    have hle := (List.takeWhile_sublist (l := cs)
      fun d => d == code '+' || d == code '-').length_le
    rw [List.cons_append, JsonRead.scanExponent, JsonRead.scanExponent,
      hsign]
    generalize cs.takeWhile (fun d => d == code '+' || d == code '-')
      = sign at hle ⊢
    rw [List.drop_append_of_le_length hle, (h.digits _).1]
    have hdigits := (List.takeWhile_sublist (l := cs.drop sign.length)
      isDigit).length_le
    rw [List.length_drop] at hdigits
    split
    · rw [List.drop_append_of_le_length (by omega)]
    · rfl

theorem Apart.scanNumber (h : Apart ext) (c : Nat) (cs : List Nat) :
    JsonRead.scanNumber (c :: cs ++ ext)
      = (JsonRead.scanNumber (c :: cs)).map fun r => (r.1, r.2 ++ ext) := by
  have hbody : (if (some c == some (code '-')) = true
        then (c :: cs ++ ext).drop 1 else c :: cs ++ ext)
      = (if (some c == some (code '-')) = true
        then (c :: cs).drop 1 else c :: cs) ++ ext := by
    split <;> rfl
  unfold JsonRead.scanNumber
  rw [List.cons_append, List.head?_cons, List.head?_cons]
  dsimp only
  rw [← List.cons_append, hbody, h.scanDigits, Option.map_map,
    Option.map_map]
  congr 1
  funext r
  dsimp only [Function.comp_apply]
  rw [h.scanFraction]
  rw [h.scanExponent]
  split <;> rfl

/-- A token that is none of the bad ones ends before the mark. -/
theorem Apart.nextToken (h : Apart ext) {c : Nat} {cs : List Nat}
    (hgood : (JsonRead.nextToken c cs).1 ≠ .bad) :
    JsonRead.nextToken c (cs ++ ext)
      = ((JsonRead.nextToken c cs).1, (JsonRead.nextToken c cs).2 ++ ext) := by
  unfold JsonRead.nextToken at hgood ⊢
  split
  next hquote =>
    rw [if_pos hquote] at hgood
    cases hscan : scanString cs with
    | none =>
      rw [hscan] at hgood
      exact absurd rfl hgood
    | some r => rw [scanString_append hscan]
  next hquote =>
    rw [if_neg hquote] at hgood
    cases hmark : marks.lookup c with
    | some mark => rfl
    | none =>
      have hwords : ∀ w ∈ words, ∀ c ∈ [code ',', code ']', code '"'],
          c ∉ w.1 := by decide
      have hfind : (words.find? fun word =>
            word.1.isPrefixOf (c :: cs ++ ext))
          = words.find? fun word => word.1.isPrefixOf (c :: cs) :=
        List.find?_congr fun w hw => h.isPrefixOf (hwords w hw) (c :: cs)
      rw [hmark] at hgood
      rw [List.cons_append] at hfind
      rw [hfind]
      cases hword : words.find? fun word => word.1.isPrefixOf (c :: cs) with
      | some word =>
        have hprefix : word.1 <+: c :: cs :=
          List.isPrefixOf_iff_prefix.mp
            (by simpa using List.find?_some hword)
        have hle := hprefix.length_le
        rw [List.length_cons] at hle
        dsimp only
        rw [List.drop_append_of_le_length (by omega)]
      | none =>
        rw [hword] at hgood
        rw [← List.cons_append, h.scanNumber]
        cases hnumber : JsonRead.scanNumber (c :: cs) with
        | none =>
          rw [hnumber] at hgood
          exact absurd rfl hgood
        | some r => rfl

/-- A text without bad tokens, before a mark. -/
theorem tokenize_append (h : Apart ext) {cs : List Nat}
    (hgood : ∀ t ∈ tokenize cs, t ≠ .bad) :
    tokenize (cs ++ ext) = tokenize cs ++ tokenize ext := by
  induction hn : cs.length using Nat.strongRecOn generalizing cs with
  | ind n ih =>
    have hblank := (h.runs (p := isBlank) (by decide) cs).2
    cases hrest : cs.dropWhile isBlank with
    | nil =>
      obtain ⟨c, rest, rfl, hc⟩ := h.cons
      have hall : ∀ c ∈ [code ',', code ']', code '"'],
          isBlank c = false := by decide
      have hnone : tokenize cs = [] := by
        rw [← tokens_of_le (Nat.le_succ cs.length)]
        unfold tokens
        rw [hrest]
      rw [hnone, List.nil_append, tokenize_cons (hall c hc)]
      refine tokenize_of_dropWhile ?_
      rw [hblank, hrest]
      rfl
    | cons c rest =>
      rw [hrest, List.cons_append] at hblank
      have hcons := tokenize_of_dropWhile hrest
      rw [hcons] at hgood ⊢
      have hskip := length_dropWhile_le isBlank cs
      have hnext := length_nextToken c rest
      rw [hrest, List.length_cons] at hskip
      rw [tokenize_of_dropWhile hblank,
        h.nextToken (hgood _ List.mem_cons_self), List.cons_append]
      congr 1
      exact ih _ (by omega)
        (fun t ht => hgood t (List.mem_cons_of_mem _ ht)) rfl

-- ==== inside an array

variable {limit : Nat} {items : List JsonValue}

/-- What comes next where the array with these items is open below. -/
def within (items : List JsonValue) : Want × List Frame → Want × List Frame
  | (.done v, _) => (.commaOrEnd, [.array (items ++ [v])])
  | (want, stack) => (want, stack ++ [.array items])

theorem deliver_within (v : JsonValue) (stack : List Frame) :
    deliver v (stack ++ [.array items]) = within items (deliver v stack) := by
  cases stack with
  | nil => rfl
  | cons frame stack => cases frame <;> rfl

theorem readValue_within (items : List JsonValue) {t : Token}
    {stack : List Frame} {next : Want × List Frame}
    (h : readValue limit t stack = .ok next) :
    readValue (limit + 1) t (stack ++ [.array items])
      = .ok (within items next) := by
  have hlength : (stack ++ [Frame.array items]).length = stack.length + 1 :=
    List.length_append
  cases t with
  | value v =>
    cases v with
    | error e => cases h
    | ok v =>
      cases h
      exact congrArg Except.ok (deliver_within v stack)
  | str s =>
    cases h
    exact congrArg Except.ok (deliver_within _ stack)
  | leftBrace | leftBracket =>
    simp only [readValue, hlength, Nat.add_le_add_iff_right] at h ⊢
    split at h
    · cases h
    · rename_i hroom
      cases h
      rw [if_neg hroom]
      rfl
  | rightBrace | rightBracket | colon | comma | bad => cases h

theorem read_within {t : Token} {want : Want} {stack : List Frame}
    {next : Want × List Frame} (h : read limit t want stack = .ok next) :
    read (limit + 1) t (within items (want, stack)).1
      (within items (want, stack)).2 = .ok (within items next) := by
  unfold read at h
  split at h <;> try cases h
  case h_1 => exact readValue_within items h
  case h_2 => exact congrArg Except.ok (deliver_within _ _)
  case h_3 hne =>
    have hvalue := readValue_within items h
    cases t with
    | rightBracket => cases h
    | _ => exact hvalue
  case h_6 => exact congrArg Except.ok (deliver_within _ _)
  case h_10 => exact congrArg Except.ok (deliver_within _ _)
  case h_11 => exact congrArg Except.ok (deliver_within _ _)
  all_goals rfl

/-- The tokens of a value put it into the array that is open. -/
theorem parse_within {ts more : List Token} {want : Want}
    {stack : List Frame} {v : JsonValue}
    (h : parse limit ts want stack = .ok v) :
    parse (limit + 1) (ts ++ more) (within items (want, stack)).1
        (within items (want, stack)).2
      = parse (limit + 1) more .commaOrEnd [.array (items ++ [v])] := by
  induction ts generalizing want stack with
  | nil =>
    cases want <;> cases h
    rfl
  | cons t ts ih =>
    unfold parse at h
    split at h
    next hread =>
      rw [List.cons_append, parse, read_within hread]
      exact ih h
    next => cases h

theorem good_of_parse {ts : List Token} {want : Want} {stack : List Frame}
    {v : JsonValue} (h : parse limit ts want stack = .ok v) :
    ∀ t ∈ ts, t ≠ .bad := by
  induction ts generalizing want stack with
  | nil => simp
  | cons t ts ih =>
    unfold parse at h
    split at h
    next hread =>
      refine List.forall_mem_cons.mpr ⟨?_, ih h⟩
      rintro rfl
      unfold read at hread
      split at hread <;> contradiction
    next => cases h

-- ==== the array

/-- Texts with commas before them, and the closing bracket. -/
def arrayTail (texts : List PyText) : PyText :=
  texts.flatMap (code ',' :: ·) ++ [code ']']

theorem apart_arrayTail (texts : List PyText) : Apart (arrayTail texts) := by
  cases texts with
  | nil => exact ⟨code ']', by decide, rfl⟩
  | cons text texts => exact ⟨code ',', by decide, rfl⟩

theorem intercalate_eq (text : PyText) (texts : List PyText) :
    code '[' :: [code ','].intercalate (text :: texts) ++ [code ']']
      = code '[' :: (text ++ arrayTail texts) := by
  induction texts generalizing text with
  | nil => simp [arrayTail]
  | cons second texts ih =>
    have hrest : [code ','].intercalate (second :: texts) ++ [code ']']
        = second ++ arrayTail texts := List.cons.inj (ih second) |>.2
    rw [List.intercalate_cons_cons, List.cons_append, List.append_assoc,
      List.append_assoc, hrest]
    simp [arrayTail]

theorem tokens_of_loads {text : PyText} {v : JsonValue}
    (h : loads limit text = .ok v) :
    parse limit (tokenize text) .value [] = .ok v := by
  unfold loads at h
  split at h
  · cases h
  · exact h

theorem parse_arrayTail {texts : List PyText} {vs : List JsonValue}
    (h : List.Forall₂ (fun text v => loads limit text = .ok v) texts vs)
    (items : List JsonValue) :
    parse (limit + 1) (tokenize (arrayTail texts)) .commaOrEnd
      [.array items] = .ok (.list (items ++ vs)) := by
  induction h generalizing items with
  | nil =>
    rw [List.append_nil]
    rfl
  | @cons text v texts vs hfirst _ ih =>
    have hparse := tokens_of_loads hfirst
    have htail : arrayTail (text :: texts)
        = code ',' :: (text ++ arrayTail texts) := by
      simp [arrayTail]
    rw [htail, tokenize_cons rfl]
    show parse (limit + 1) (tokenize (text ++ arrayTail texts)) .value
      [.array items] = _
    rw [tokenize_append (apart_arrayTail texts) (good_of_parse hparse)]
    exact (parse_within hparse).trans (by rw [ih, List.append_assoc]; rfl)

/-- Texts that are read alone make the array of their values. -/
theorem loads_array {texts : List PyText} {vs : List JsonValue}
    (hne : texts ≠ [])
    (h : List.Forall₂ (fun text v => loads limit text = .ok v) texts vs) :
    loads (limit + 1)
        (code '[' :: [code ','].intercalate texts ++ [code ']'])
      = .ok (.list vs) := by
  cases h with
  | nil => exact absurd rfl hne
  | @cons text v texts vs hfirst hrest =>
    have hparse := tokens_of_loads hfirst
    rw [intercalate_eq]
    show parse (limit + 1) (tokenize (code '[' :: (text ++ arrayTail texts)))
      .value [] = _
    rw [tokenize_cons rfl]
    show parse (limit + 1) (tokenize (text ++ arrayTail texts)) .valueOrEnd
      [.array []] = _
    have hvalue : parse (limit + 1) (tokenize (text ++ arrayTail texts))
        .value [.array []] = .ok (.list (v :: vs)) := by
      rw [tokenize_append (apart_arrayTail texts) (good_of_parse hparse)]
      exact (parse_within hparse).trans (parse_arrayTail hrest _)
    cases htokens : tokenize (text ++ arrayTail texts) with
    | nil =>
      rw [htokens] at hvalue
      cases hvalue
    | cons t ts =>
      rw [htokens] at hvalue
      cases t with
      | rightBracket => cases hvalue
      | _ => exact hvalue

end JsonRead

end Lib
