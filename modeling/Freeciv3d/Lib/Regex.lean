/-
Python's `re`, as far as matching goes: a pattern either matches at a
place or it does not, so a matcher is the list of places where a match
from a given place can end. Greediness and captures only decide which
end comes first.
-/
import Mathlib.Data.List.Basic

namespace Lib

/-- A regular expression. -/
inductive Regex where
  /-- One character of a class. -/
  | char (p : Char → Bool)
  | seq (r s : Regex)
  | alt (r s : Regex)
  | star (r : Regex)
  | empty
  /-- `\b`. -/
  | boundary
  /-- `$`: at the end, or before a newline that ends the string. -/
  | finish

namespace Regex

/-- A place in the string: the character before it and those after. -/
structure Place where
  prev : Option Char
  rest : List Char

/-- The places a repetition reaches from `p`; each round must consume
something, so the number of characters left is fuel enough. -/
def repeatEnds (ends : Place → List Place) : Nat → Place → List Place
  | 0, p => [p]
  | fuel + 1, p =>
    p :: (ends p).flatMap fun q =>
      if q.rest.length < p.rest.length then repeatEnds ends fuel q else []

/-- Where a match that starts at `p` can end; `word` are the word
characters. -/
def ends (word : Char → Bool) : Regex → Place → List Place
  | char cls, p =>
    match p.rest with
    | [] => []
    | c :: cs => if cls c then [⟨some c, cs⟩] else []
  | seq r s, p => (ends word r p).flatMap (ends word s)
  | alt r s, p => ends word r p ++ ends word s p
  | star r, p => repeatEnds (ends word r) p.rest.length p
  | empty, p => [p]
  | boundary, p =>
    if p.prev.any word = p.rest.head?.any word then [] else [p]
  | finish, p => if p.rest = [] ∨ p.rest = ['\n'] then [p] else []

def literal (s : String) : Regex :=
  s.toList.foldr (fun c r => seq (char (· == c)) r) empty

/-- `r+`. -/
def plus (r : Regex) : Regex := seq r (star r)

/-- `r{0,n}`. -/
def atMost (r : Regex) : Nat → Regex
  | 0 => empty
  | n + 1 => alt empty (seq r (atMost r n))

/-- `r{1,n+1}`. -/
def oneAndAtMost (r : Regex) (n : Nat) : Regex := seq r (atMost r n)

/-- One of several patterns. -/
def oneOf : List Regex → Regex
  | [] => char fun _ => false
  | r :: rs => alt r (oneOf rs)

/-- `re.match(r, s)`: a match at the start. -/
def isMatch (word : Char → Bool) (r : Regex) (s : List Char) : Bool :=
  !(ends word r ⟨none, s⟩).isEmpty

/-- Is there a match from some place on? -/
def searchFrom (word : Char → Bool) (r : Regex) :
    Option Char → List Char → Bool
  | prev, [] => !(ends word r ⟨prev, []⟩).isEmpty
  | prev, c :: cs =>
    !(ends word r ⟨prev, c :: cs⟩).isEmpty
      || searchFrom word r (some c) cs

/-- `re.search(r, s)`. -/
def search (word : Char → Bool) (r : Regex) (s : List Char) : Bool :=
  searchFrom word r none s

-- ==== repeated classes

variable {word : Char → Bool} {p : Char → Bool}

theorem ends_char_prefix {x q : Place} (h : q ∈ ends word (char p) x) :
    ∃ pre, x.rest = pre ++ q.rest ∧ ∀ c ∈ pre, p c = true := by
  unfold ends at h
  split at h
  next => cases h
  next c cs hrest =>
    split at h
    case isTrue hc =>
      rw [List.mem_singleton] at h
      subst h
      exact ⟨[c], hrest, by simpa using hc⟩
    case isFalse => cases h

theorem ends_atMost_prefix {n : Nat} {x q : Place}
    (h : q ∈ ends word (atMost (char p) n) x) :
    ∃ pre, x.rest = pre ++ q.rest ∧ ∀ c ∈ pre, p c = true := by
  induction n generalizing x with
  | zero =>
    simp only [atMost, ends, List.mem_singleton] at h
    subst h
    exact ⟨[], rfl, by simp⟩
  | succ n ih =>
    rcases List.mem_append.mp h with hempty | hmore
    · rw [List.mem_singleton.mp hempty]
      exact ⟨[], rfl, by simp⟩
    · obtain ⟨y, hy, hq⟩ := List.mem_flatMap.mp hmore
      obtain ⟨pre, hpre, hall⟩ := ends_char_prefix hy
      obtain ⟨pre', hpre', hall'⟩ := ih hq
      refine ⟨pre ++ pre', by rw [hpre, hpre', List.append_assoc], ?_⟩
      intro c hc
      rcases List.mem_append.mp hc with hc | hc
      · exact hall c hc
      · exact hall' c hc

/-- What `^[…]{1,n}$` lets through: the class, and a newline at the
end. -/
theorem mem_of_isMatch {n : Nat} {s : List Char}
    (h : (seq (oneAndAtMost (char p) n) finish).isMatch word s = true)
    {c : Char} (hc : c ∈ s) : p c = true ∨ c = '\n' := by
  unfold isMatch at h
  rw [Bool.not_eq_true', List.isEmpty_eq_false_iff_exists_mem] at h
  obtain ⟨q, hq⟩ := h
  obtain ⟨y, hy, hq⟩ := List.mem_flatMap.mp hq
  obtain ⟨x, hx, hy⟩ := List.mem_flatMap.mp hy
  simp only [ends] at hq
  obtain ⟨pre, hpre, hall⟩ := ends_char_prefix hx
  obtain ⟨pre', hpre', hall'⟩ := ends_atMost_prefix hy
  dsimp only at hpre
  rw [hpre, hpre', List.mem_append, List.mem_append] at hc
  rcases hc with hc | hc | hc
  · exact .inl (hall c hc)
  · exact .inl (hall' c hc)
  · split at hq
    next hrest =>
      rcases hrest with hrest | hrest
      · rw [hrest] at hc
        cases hc
      · rw [hrest, List.mem_singleton] at hc
        exact .inr hc
    next => cases hq

end Regex

end Lib
