/-
Whether requirements are met, as far as the client can tell:
`are_reqs_active`.

# The code

An evaluation answers yes, no or maybe, and the sign of the requirement and
the kind of probability asked for make a truth value of it. The labels of
the `switch` are tested in order, and `VUT_BASEFLAG`, right behind
`VUT_NATIONALITY`, is declared nowhere: to come to it raises.

# When the answer is right

`evaluate_reads` compares the evaluation with what is open. A kind that is
not implemented is read as no, and so is a technology another member of the
team may know (`Misread`).
-/
import Mathlib.Tactic.ByContra

namespace Freeciv3d.Web

namespace Requirements

-- ==== the code

inductive Tri where
  | no
  | yes
  | maybe

inductive ProbType where
  | possible
  | certain

structure Requirement where
  kind : Nat
  range : Nat
  value : Int
  present : Bool

structure Player where
  government : Int
  /-- `inventions`, as far as it has been received. -/
  inventions : Int → Option Nat

def vutNone : Nat := 0
def vutAdvance : Nat := 1
def vutGovernment : Nat := 2
def vutNationality : Nat := 20

def reqRangePlayer : Nat := 7
def reqRangeTeam : Nat := 8

def techUnknown : Nat := 0
def techKnown : Nat := 2

def playerInventionState (pplayer : Option Player) (techId : Int) : Nat :=
  match pplayer with
  | none => techUnknown
  | some pplayer => (pplayer.inventions techId).getD techUnknown

def knows (targetPlayer : Option Player) (tech : Int) : Bool :=
  targetPlayer.isSome && playerInventionState targetPlayer tech == techKnown

def isTechInRange (targetPlayer : Option Player) (range : Nat) (tech : Int) :
    Tri :=
  if range = reqRangeTeam ∨ range = reqRangePlayer then
    if knows targetPlayer tech then .yes else .no
  else .maybe

/-- The `switch`; `none` is the error that a label is not declared. -/
def evaluate (targetPlayer : Option Player) (req : Requirement) :
    Option Tri :=
  if req.kind = vutNone then some .yes
  else if req.kind = vutAdvance then
    some (isTechInRange targetPlayer req.range req.value)
  else if req.kind = vutGovernment then
    match targetPlayer with
    | none => some .maybe
    | some player =>
      some (if player.government = req.value then .yes else .no)
  else if req.kind ≤ vutNationality then
    -- `VUT_IMPROVEMENT` to `VUT_NATIONALITY`: not implemented
    some .no
  else none

def isReqActive (targetPlayer : Option Player) (req : Requirement)
    (probType : ProbType) : Option Bool :=
  match evaluate targetPlayer req, probType with
  | none, _ => none
  | some .maybe, .possible => some true
  | some .maybe, .certain => some false
  | some .yes, _ => some req.present
  | some .no, _ => some !req.present

def areReqsActive (targetPlayer : Option Player) (probType : ProbType) :
    List Requirement → Option Bool
  | [] => some true
  | req :: rest =>
    match isReqActive targetPlayer req probType with
    | none => none
    | some false => some false
    | some true => areReqsActive targetPlayer probType rest

-- ==== the statement

/-- What a requirement is about, whatever its sign. -/
abbrev Matter := Nat × Nat × Int

def Requirement.matter (req : Requirement) : Matter :=
  (req.kind, req.range, req.value)

/-- Whether a requirement without its sign is met. `truth` settles what the
client cannot evaluate; that somebody else in the team knows a technology is
part of that. -/
def met (targetPlayer : Option Player) (truth : Matter → Bool)
    (req : Requirement) : Bool :=
  if req.kind = vutNone then true
  else if req.kind = vutAdvance then
    if req.range = reqRangePlayer then knows targetPlayer req.value
    else if req.range = reqRangeTeam then
      knows targetPlayer req.value
        || targetPlayer.isSome && truth req.matter
    else truth req.matter
  else if req.kind = vutGovernment then
    match targetPlayer with
    | none => truth req.matter
    | some player => player.government = req.value
  else truth req.matter

def Holds (targetPlayer : Option Player) (truth : Matter → Bool)
    (req : Requirement) : Prop :=
  met targetPlayer truth req = req.present

/-- What is certain holds for every truth of what is open, and what holds
for one is possible. -/
def Sound (targetPlayer : Option Player) (reqs : List Requirement) : Prop :=
  (areReqsActive targetPlayer .certain reqs = some true →
      ∀ truth, ∀ req ∈ reqs, Holds targetPlayer truth req)
    ∧ ((∃ truth, ∀ req ∈ reqs, Holds targetPlayer truth req) →
      areReqsActive targetPlayer .possible reqs = some true)

/-- Open, and read as no. -/
def Misread (targetPlayer : Option Player) (req : Requirement) : Prop :=
  (vutGovernment < req.kind ∧ req.kind ≤ vutNationality)
    ∨ req.kind = vutAdvance ∧ req.range = reqRangeTeam
      ∧ targetPlayer.isSome = true ∧ knows targetPlayer req.value = false

def Sure (targetPlayer : Option Player) (req : Requirement) : Prop :=
  ∀ truth, Holds targetPlayer truth req

/-- A negated requirement that is misread is accompanied by one that is
neither sure nor such a one; and if the requirements can all hold, none is
misread without a negation or of a kind behind the missing label. -/
def Harmless (targetPlayer : Option Player) (reqs : List Requirement) :
    Prop :=
  (∀ req ∈ reqs, Misread targetPlayer req → req.present = false →
      ∃ other ∈ reqs, ¬ Sure targetPlayer other
        ∧ ¬ (Misread targetPlayer other ∧ other.present = false))
    ∧ ((∃ truth, ∀ req ∈ reqs, Holds targetPlayer truth req) →
      ∀ req ∈ reqs, req.kind ≤ vutNationality
        ∧ (Misread targetPlayer req → req.present = false))

-- ==== one requirement

variable {player : Option Player} {req : Requirement}
  {reqs : List Requirement}

/-- What an evaluation is worth. -/
inductive Reads (player : Option Player) (req : Requirement) :
    Option Tri → Prop where
  | yes (hmet : ∀ truth, met player truth req = true)
      (hread : ¬ Misread player req) (hkind : req.kind ≤ vutNationality) :
      Reads player req (some .yes)
  | no (hmet : ∀ truth, met player truth req = false)
      (hread : ¬ Misread player req) (hkind : req.kind ≤ vutNationality) :
      Reads player req (some .no)
  | misread (hmet : ∀ truth, met player truth req = truth req.matter)
      (hread : Misread player req) (hkind : req.kind ≤ vutNationality) :
      Reads player req (some .no)
  | maybe (hmet : ∀ truth, met player truth req = truth req.matter)
      (hread : ¬ Misread player req) (hkind : req.kind ≤ vutNationality) :
      Reads player req (some .maybe)
  | raises (hmet : ∀ truth, met player truth req = truth req.matter)
      (hread : ¬ Misread player req) (hkind : ¬ req.kind ≤ vutNationality) :
      Reads player req none

theorem evaluate_reads : Reads player req (evaluate player req) := by
  unfold evaluate
  by_cases hnone : req.kind = vutNone
  · rw [if_pos hnone]
    refine .yes (fun truth => if_pos hnone) ?_ (by rw [hnone]; decide)
    simp [Misread, hnone, vutNone, vutGovernment, vutAdvance]
  rw [if_neg hnone]
  by_cases hadvance : req.kind = vutAdvance
  · have hkind : req.kind ≤ vutNationality := by rw [hadvance]; decide
    have hmet (truth : Matter → Bool) : met player truth req
        = if req.range = reqRangePlayer then knows player req.value
          else if req.range = reqRangeTeam then
            knows player req.value || player.isSome && truth req.matter
          else truth req.matter := by
      unfold met
      rw [if_neg hnone, if_pos hadvance]
    have hread : Misread player req ↔ req.range = reqRangeTeam
        ∧ player.isSome = true ∧ knows player req.value = false := by
      simp [Misread, hadvance, vutAdvance, vutGovernment]
    rw [if_pos hadvance]
    unfold isTechInRange
    by_cases hplayer : req.range = reqRangePlayer
    · have hnot : ¬ Misread player req := by
        rw [hread, hplayer]
        exact fun h => absurd h.1 (by decide)
      simp only [if_pos hplayer] at hmet
      rw [if_pos (.inr hplayer)]
      cases hknows : knows player req.value with
      | true => exact .yes (fun truth => by rw [hmet, hknows]) hnot hkind
      | false => exact .no (fun truth => by rw [hmet, hknows]) hnot hkind
    · by_cases hteam : req.range = reqRangeTeam
      · simp only [if_neg hplayer, if_pos hteam] at hmet
        rw [if_pos (.inl hteam)]
        cases hknows : knows player req.value with
        | true =>
          refine .yes (fun truth => by rw [hmet, hknows]; rfl) ?_ hkind
          rw [hread, hknows]
          exact fun h => nomatch h.2.2
        | false =>
          cases hsome : player.isSome with
          | true =>
            refine .misread (fun truth => ?_)
              (hread.mpr ⟨hteam, hsome, hknows⟩) hkind
            rw [hmet, hknows, hsome]
            rfl
          | false =>
            refine .no (fun truth => ?_) ?_ hkind
            · rw [hmet, hknows, hsome]
              rfl
            · rw [hread, hsome]
              exact fun h => nomatch h.2.1
      · simp only [if_neg hplayer, if_neg hteam] at hmet
        rw [if_neg (by simp [hteam, hplayer])]
        exact .maybe hmet (fun h => hteam (hread.mp h).1) hkind
  rw [if_neg hadvance]
  by_cases hgov : req.kind = vutGovernment
  · have hkind : req.kind ≤ vutNationality := by rw [hgov]; decide
    have hnot : ¬ Misread player req := by
      simp [Misread, hgov, vutAdvance, vutGovernment]
    rw [if_pos hgov]
    cases player with
    | none =>
      refine .maybe (fun truth => ?_) hnot hkind
      unfold met
      rw [if_neg hnone, if_neg hadvance, if_pos hgov]
    | some player =>
      have hmet (truth : Matter → Bool) : met (some player) truth req
          = decide (player.government = req.value) := by
        unfold met
        rw [if_neg hnone, if_neg hadvance, if_pos hgov]
      by_cases hsame : player.government = req.value
      · simp only [if_pos hsame]
        exact .yes (fun truth => by simp [hmet, hsame]) hnot hkind
      · simp only [if_neg hsame]
        exact .no (fun truth => by simp [hmet, hsame]) hnot hkind
  rw [if_neg hgov]
  have hmet (truth : Matter → Bool) : met player truth req
      = truth req.matter := by
    unfold met
    rw [if_neg hnone, if_neg hadvance, if_neg hgov]
  by_cases hkind : req.kind ≤ vutNationality
  · rw [if_pos hkind]
    refine .misread hmet (.inl ⟨?_, hkind⟩) hkind
    unfold vutNone vutAdvance vutGovernment at *
    omega
  · rw [if_neg hkind]
    refine .raises hmet ?_ hkind
    rintro (⟨-, hle⟩ | ⟨hadv, -⟩)
    · exact hkind hle
    · exact hadvance hadv

theorem misread_not_sure (h : Misread player req) : ¬ Sure player req := by
  intro hsure
  have hreads : Reads player req (evaluate player req) := evaluate_reads
  generalize evaluate player req = result at hreads
  cases hreads with
  | yes hmet hread hkind => exact hread h
  | no hmet hread hkind => exact hread h
  | misread hmet hread hkind =>
    have hone := hsure fun _ => !req.present
    rw [Holds, hmet] at hone
    simp at hone
  | maybe hmet hread hkind => exact hread h
  | raises hmet hread hkind => exact hread h

theorem certain_iff : isReqActive player req .certain = some true
    ↔ Sure player req ∨ Misread player req ∧ req.present = false := by
  have hopen (hmet : ∀ truth, met player truth req = truth req.matter) :
      ¬ Sure player req := by
    intro hsure
    have hone := hsure fun _ => !req.present
    rw [Holds, hmet] at hone
    simp at hone
  have hreads : Reads player req (evaluate player req) := evaluate_reads
  unfold isReqActive
  generalize evaluate player req = result at hreads
  cases hreads with
  | yes hmet hread hkind =>
    simp [hread, Sure, Holds, hmet]
  | no hmet hread hkind =>
    simp [hread, Sure, Holds, hmet]
  | misread hmet hread hkind =>
    simp [hread, hopen hmet]
  | maybe hmet hread hkind =>
    simp [hread, hopen hmet]
  | raises hmet hread hkind =>
    simp [hread, hopen hmet]

theorem possible_iff {truth : Matter → Bool} (h : Holds player truth req) :
    isReqActive player req .possible = some true
      ↔ req.kind ≤ vutNationality
        ∧ (Misread player req → req.present = false) := by
  have hreads : Reads player req (evaluate player req) := evaluate_reads
  unfold Holds at h
  unfold isReqActive
  generalize evaluate player req = result at hreads
  cases hreads with
  | yes hmet hread hkind =>
    rw [hmet] at h
    simp [hread, hkind, ← h]
  | no hmet hread hkind =>
    rw [hmet] at h
    simp [hread, hkind, ← h]
  | misread hmet hread hkind => simp [hread, hkind]
  | maybe hmet hread hkind => simp [hread, hkind]
  | raises hmet hread hkind => simp [hkind]

-- ==== all of them

theorem areReqsActive_iff {probType : ProbType} :
    areReqsActive player probType reqs = some true
      ↔ ∀ req ∈ reqs, isReqActive player req probType = some true := by
  induction reqs with
  | nil => simp [areReqsActive]
  | cons req reqs ih =>
    rw [List.forall_mem_cons, ← ih, areReqsActive]
    cases isReqActive player req probType with
    | none => simp
    | some active => cases active <;> simp

theorem sound_certain_iff :
    (areReqsActive player .certain reqs = some true →
        ∀ truth, ∀ req ∈ reqs, Holds player truth req)
      ↔ ∀ req ∈ reqs, Misread player req → req.present = false →
        ∃ other ∈ reqs, ¬ Sure player other
          ∧ ¬ (Misread player other ∧ other.present = false) := by
  simp only [areReqsActive_iff, certain_iff]
  constructor
  · intro h req hreq hread hpresent
    by_contra hnone
    refine misread_not_sure hread fun truth => h (fun other hother => ?_)
      truth req hreq
    by_contra hboth
    exact hnone ⟨other, hother, not_or.mp hboth⟩
  · intro h hactive truth req hreq
    rcases hactive req hreq with hsure | ⟨hread, hpresent⟩
    · exact hsure truth
    · obtain ⟨other, hother, hboth⟩ := h req hreq hread hpresent
      exact absurd (hactive other hother) (not_or.mpr hboth)

/-- The answers are right exactly if the requirements that are misread, and
those of a kind behind the missing label, do no harm. -/
theorem requirements_sound_iff (player : Option Player)
    (reqs : List Requirement) :
    Sound player reqs ↔ Harmless player reqs := by
  refine and_congr sound_certain_iff (forall_congr' fun ⟨truth, h⟩ => ?_)
  rw [areReqsActive_iff]
  exact forall₂_congr fun req hreq => possible_iff (h req hreq)

/-- Not from a size of eight on: taken for certain of any city. -/
theorem negated_size_taken_for_met :
    ¬ Sound none
      [{ kind := 12, range := 4, value := 8, present := false }] := by
  intro h
  have hall := h.1 rfl (fun _ => true) _ List.mem_cons_self
  rw [Holds] at hall
  nomatch hall

end Requirements

end Freeciv3d.Web
