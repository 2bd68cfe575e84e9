/-
Whether a technology is on the way to another: `is_tech_req_for_goal`.

# The code

A search through the requirements that came with the technologies, depth
first and without marks. What a requirement is about is not looked at: the
number of a building is taken for that of a technology.

# When the answer is right

`returns_present` and `searchReturns_cons` say what the search does, and
nothing later speaks of fuel. A requirement of another kind is harmless if
its number is that of a technology required anyway (`Harmless`).
-/
import Freeciv3d.Lib.Dict
import Freeciv3d.Lib.Ranks

namespace Freeciv3d.Web

namespace TechGoal

open Lib Relation

-- ==== the code

structure Requirement where
  kind : Nat
  value : Int

/-- `VUT_ADVANCE`. -/
def vutAdvance : Nat := 1

/-- `PACKET_RULESET_TECH`; the server sends from `A_FIRST` on. -/
structure TechPacket where
  id : Nat
  id_pos : 0 < id
  researchReqs : List Requirement

abbrev Techs := Dict Int TechPacket

def handleRulesetTech (techs : Techs) (packet : TechPacket) : Techs :=
  techs.set packet.id packet

def received (packets : List TechPacket) : Techs :=
  packets.foldl handleRulesetTech ∅

def searchReqs (recurse : Int → Option Bool) (checkTechId : Int) :
    List Requirement → Option Bool
  | [] => some false
  | req :: rest =>
    let rid := req.value
    if checkTechId = rid then some true
    else
      match recurse rid with
      | none => none
      | some true => some true
      | some false => searchReqs recurse checkTechId rest

/-- `none` when the calls are nested deeper than the fuel. -/
def isTechReqForGoal (techs : Techs) : Nat → Int → Int → Option Bool
  | 0, _, _ => none
  | fuel + 1, checkTechId, goalTechId =>
    if checkTechId = goalTechId then some true
    else if goalTechId = 0 ∨ checkTechId = 0 then some false
    else
      match techs.get? goalTechId with
      | none => some false
      | some goalTech =>
        searchReqs (isTechReqForGoal techs fuel checkTechId) checkTechId
          goalTech.researchReqs

-- ==== the statement

/-- A research requirement of kind advance names `a`. -/
def Requires (techs : Techs) (b a : Int) : Prop :=
  ∃ tech, techs.get? b = some tech
    ∧ ∃ req ∈ tech.researchReqs, req.kind = vutAdvance ∧ req.value = a

def Present (techs : Techs) (a : Int) : Prop :=
  ∃ tech, techs.get? a = some tech

def Returns (techs : Techs) (a b : Int) (answer : Bool) : Prop :=
  ∃ fuel, isTechReqForGoal techs fuel a b = some answer

/-- The call returns, and with the right answer. -/
def Exact (techs : Techs) (a b : Int) : Prop :=
  ∃ answer, Returns techs a b answer
    ∧ (answer = true ↔ a = b ∨ TransGen (Requires techs) b a)

/-- A requirement of another kind has the number of a technology that is
required anyway; or of the one that has it, and every other one is found
before it. -/
def Harmless (techs : Techs) : Prop :=
  ∀ b tech before req after, techs.get? b = some tech →
    tech.researchReqs = before ++ req :: after → req.kind ≠ vutAdvance →
    Present techs req.value →
      TransGen (Requires techs) b req.value
        ∨ req.value = b ∧ ∀ a, Present techs a → a ≠ b →
          ∃ q ∈ before, q.value = a ∨ TransGen (Requires techs) q.value a

-- ==== the search

variable {techs : Techs} {a b : Int} {l : List Requirement}
  {req : Requirement} {answer answer' : Bool}

theorem searchReqs_mono {f g : Int → Option Bool}
    (hfg : ∀ v answer, f v = some answer → g v = some answer)
    (h : searchReqs f a l = some answer) : searchReqs g a l = some answer := by
  induction l with
  | nil => exact h
  | cons req rest ih =>
    unfold searchReqs at h ⊢
    dsimp only at h ⊢
    split at h
    · next heq => rw [if_pos heq, h]
    · next hne =>
        rw [if_neg hne]
        cases hf : f req.value with
        | none =>
          rw [hf] at h
          nomatch h
        | some found =>
          rw [hf] at h
          rw [hfg _ _ hf]
          cases found with
          | true => exact h
          | false => exact ih h

theorem isTechReqForGoal_succ {fuel : Nat}
    (h : isTechReqForGoal techs fuel a b = some answer) :
    isTechReqForGoal techs (fuel + 1) a b = some answer := by
  induction fuel generalizing b answer with
  | zero => nomatch h
  | succ fuel ih =>
    unfold isTechReqForGoal at h ⊢
    split at h
    · next heq => rw [if_pos heq, h]
    · next hne =>
        rw [if_neg hne]
        split at h
        · next hzero => rw [if_pos hzero, h]
        · next hzero =>
            rw [if_neg hzero]
            cases htech : techs.get? b with
            | none =>
              rw [htech] at h
              exact h
            | some tech =>
              rw [htech] at h
              exact searchReqs_mono (fun v answer => ih) h

theorem isTechReqForGoal_mono {fuel fuel' : Nat} (hle : fuel ≤ fuel')
    (h : isTechReqForGoal techs fuel a b = some answer) :
    isTechReqForGoal techs fuel' a b = some answer := by
  induction hle with
  | refl => exact h
  | step _ ih => exact isTechReqForGoal_succ ih

theorem Returns.unique (h : Returns techs a b answer)
    (h' : Returns techs a b answer') : answer = answer' := by
  obtain ⟨fuel, h⟩ := h
  obtain ⟨fuel', h'⟩ := h'
  have hmax := isTechReqForGoal_mono (Nat.le_max_left fuel fuel') h
  rw [isTechReqForGoal_mono (Nat.le_max_right fuel fuel') h'] at hmax
  exact (Option.some.inj hmax).symm

theorem returns_self : Returns techs a a true :=
  ⟨1, if_pos rfl⟩

theorem returns_absent (hne : a ≠ b) (h : techs.get? b = none) :
    Returns techs a b false := by
  refine ⟨1, ?_⟩
  unfold isTechReqForGoal
  rw [if_neg hne, h]
  split <;> rfl

def SearchReturns (techs : Techs) (a : Int) (l : List Requirement)
    (answer : Bool) : Prop :=
  ∃ fuel, searchReqs (isTechReqForGoal techs fuel a) a l = some answer

theorem returns_present {tech : TechPacket} (hne : a ≠ b) (ha : a ≠ 0)
    (hb : b ≠ 0) (htech : techs.get? b = some tech) :
    Returns techs a b answer
      ↔ SearchReturns techs a tech.researchReqs answer := by
  have hsucc (fuel : Nat) : isTechReqForGoal techs (fuel + 1) a b
      = searchReqs (isTechReqForGoal techs fuel a) a tech.researchReqs := by
    rw [isTechReqForGoal, if_neg hne, if_neg (by simp [ha, hb]), htech]
  constructor
  · rintro ⟨fuel, h⟩
    cases fuel with
    | zero => nomatch h
    | succ fuel => exact ⟨fuel, (hsucc fuel).symm.trans h⟩
  · rintro ⟨fuel, h⟩
    exact ⟨fuel + 1, (hsucc fuel).trans h⟩

theorem searchReturns_nil : SearchReturns techs a [] false := ⟨0, rfl⟩

theorem searchReturns_cons :
    SearchReturns techs a (req :: l) answer
      ↔ Returns techs a req.value true ∧ answer = true
        ∨ Returns techs a req.value false
          ∧ SearchReturns techs a l answer := by
  constructor
  · rintro ⟨fuel, h⟩
    unfold searchReqs at h
    dsimp only at h
    split at h
    · next heq =>
        rw [← heq]
        exact .inl ⟨returns_self, (Option.some.inj h).symm⟩
    · cases hfound : isTechReqForGoal techs fuel a req.value with
      | none =>
        rw [hfound] at h
        nomatch h
      | some found =>
        rw [hfound] at h
        cases found with
        | true => exact .inl ⟨⟨fuel, hfound⟩, (Option.some.inj h).symm⟩
        | false => exact .inr ⟨⟨fuel, hfound⟩, fuel, h⟩
  · rintro (⟨⟨fuel, hfound⟩, rfl⟩ | ⟨⟨fuel, hfound⟩, fuel', h⟩)
    · refine ⟨fuel, ?_⟩
      rw [searchReqs, hfound]
      simp
    · refine ⟨max fuel fuel', ?_⟩
      have hmax := isTechReqForGoal_mono (Nat.le_max_left fuel fuel') hfound
      have hrest := searchReqs_mono (fun v answer =>
        isTechReqForGoal_mono (Nat.le_max_right fuel fuel')) h
      rw [searchReqs, hmax]
      rw [hrest, if_neg]
      intro heq
      rw [← heq] at hfound
      nomatch returns_self.unique ⟨fuel, hfound⟩

theorem searchReturns_mem (h : SearchReturns techs a l answer)
    (hmem : ∃ req ∈ l, req.value = a) : answer = true := by
  induction l with
  | nil => simp at hmem
  | cons req l ih =>
    rcases searchReturns_cons.mp h with ⟨-, rfl⟩ | ⟨hfalse, h⟩
    · rfl
    · refine ih h ?_
      obtain ⟨q, hq, rfl⟩ := hmem
      rcases List.mem_cons.mp hq with rfl | hq
      · nomatch returns_self.unique hfalse
      · exact ⟨q, hq, rfl⟩

theorem searchReturns_true (h : SearchReturns techs a l true) :
    ∃ q ∈ l, Returns techs a q.value true := by
  induction l with
  | nil =>
    obtain ⟨fuel, h⟩ := h
    nomatch h
  | cons req l ih =>
    rcases searchReturns_cons.mp h with ⟨hfound, -⟩ | ⟨-, h⟩
    · exact ⟨req, List.mem_cons_self, hfound⟩
    · obtain ⟨q, hq, hfound⟩ := ih h
      exact ⟨q, List.mem_cons_of_mem _ hq, hfound⟩

theorem searchReturns_append {l' : List Requirement}
    (h : SearchReturns techs a l true) :
    SearchReturns techs a (l ++ l') true := by
  induction l with
  | nil =>
    obtain ⟨fuel, h⟩ := h
    nomatch h
  | cons req l ih =>
    rw [List.cons_append]
    rcases searchReturns_cons.mp h with hfound | ⟨hfalse, h⟩
    · exact searchReturns_cons.mpr (.inl hfound)
    · exact searchReturns_cons.mpr (.inr ⟨hfalse, ih h⟩)

/-- Exact calls make an exact search. -/
theorem searchReturns_exact (h : ∀ q ∈ l, Exact techs a q.value) :
    ∃ answer, SearchReturns techs a l answer
      ∧ (answer = true ↔ ∃ q ∈ l,
        a = q.value ∨ TransGen (Requires techs) q.value a) := by
  induction l with
  | nil => exact ⟨false, searchReturns_nil, by simp⟩
  | cons req l ih =>
    obtain ⟨found, hfound, hiff⟩ := h req List.mem_cons_self
    cases found with
    | true =>
      exact ⟨true, searchReturns_cons.mpr (.inl ⟨hfound, rfl⟩),
        iff_of_true rfl ⟨req, List.mem_cons_self, hiff.mp rfl⟩⟩
    | false =>
      obtain ⟨answer, hsearch, hrest⟩ :=
        ih fun q hq => h q (List.mem_cons_of_mem _ hq)
      refine ⟨answer, searchReturns_cons.mpr (.inr ⟨hfound, hsearch⟩), ?_⟩
      have hno : ¬ (a = req.value
          ∨ TransGen (Requires techs) req.value a) :=
        fun hyes => Bool.false_ne_true (hiff.mpr hyes)
      rw [hrest, List.exists_mem_cons_iff, or_iff_right hno]

/-- A requirement with the number of the technology that has it ends the
search only if the answer has been found before it. -/
theorem found_before {tech : TechPacket} {before after : List Requirement}
    (hne : a ≠ b) (htech : techs.get? b = some tech)
    (hreqs : tech.researchReqs = before ++ req :: after)
    (hself : req.value = b) (ha : a ≠ 0) (hb : b ≠ 0)
    (h : Returns techs a b answer) : SearchReturns techs a before true := by
  obtain ⟨fuel, h⟩ := h
  induction fuel generalizing answer with
  | zero => nomatch h
  | succ fuel ih =>
    rw [isTechReqForGoal, if_neg hne, if_neg (by simp [ha, hb]), htech]
      at h
    dsimp only at h
    rw [hreqs] at h
    have hsplit : SearchReturns techs a before true
        ∨ ∃ answer, isTechReqForGoal techs fuel a b = some answer := by
      clear hreqs ih
      induction before with
      | nil =>
        rw [List.nil_append, searchReqs, hself, if_neg hne] at h
        cases hfound : isTechReqForGoal techs fuel a b with
        | none =>
          rw [hfound] at h
          nomatch h
        | some found => exact .inr ⟨found, rfl⟩
      | cons q before ihb =>
        rw [List.cons_append, searchReqs] at h
        split at h
        · next heq =>
            exact .inl (searchReturns_cons.mpr
              (.inl ⟨heq ▸ returns_self, rfl⟩))
        · cases hfound : isTechReqForGoal techs fuel a q.value with
          | none =>
            rw [hfound] at h
            nomatch h
          | some found =>
            rw [hfound] at h
            cases found with
            | true =>
              exact .inl (searchReturns_cons.mpr
                (.inl ⟨⟨fuel, hfound⟩, rfl⟩))
            | false =>
              refine (ihb h).imp_left fun hbefore => ?_
              exact searchReturns_cons.mpr
                (.inr ⟨⟨fuel, hfound⟩, hbefore⟩)
    rcases hsplit with hbefore | ⟨answer, h⟩
    · exact hbefore
    · exact ih h

-- ==== what is required

variable {packets : List TechPacket}

theorem received_id {techs : Techs}
    (h : ∀ a tech, techs.get? a = some tech → a = tech.id) {tech : TechPacket}
    (htech : (packets.foldl handleRulesetTech techs).get? a = some tech) :
    a = tech.id := by
  induction packets generalizing techs with
  | nil => exact h a tech htech
  | cons packet packets ih =>
    refine ih (fun a tech htech => ?_) htech
    rw [handleRulesetTech, Dict.get?_set] at htech
    split at htech
    · next heq =>
        cases htech
        exact heq
    · exact h a tech htech

theorem present_ne_zero (h : Present (received packets) a) : a ≠ 0 := by
  obtain ⟨tech, htech⟩ := h
  have hid := received_id (fun a tech h => by
    rw [Dict.get?_empty] at h
    nomatch h) htech
  have hpos := tech.id_pos
  omega

theorem present_finite : {x | Present techs x}.Finite := by
  refine (List.finite_toSet techs.keys).subset fun x hx => ?_
  exact Dict.mem_keys_iff.mpr hx

theorem TransGen.present (h : TransGen (Requires techs) b a) :
    Present techs b := by
  obtain ⟨v, ⟨tech, htech, -⟩, -⟩ := TransGen.head'_iff.mp h
  exact ⟨tech, htech⟩

theorem exact_absent (ha : Present techs a) (hb : ¬ Present techs b) :
    Exact techs a b := by
  have hne : a ≠ b := fun heq => hb (heq ▸ ha)
  refine ⟨false, returns_absent hne ?_, ?_⟩
  · cases htech : techs.get? b with
    | none => rfl
    | some tech => exact absurd ⟨tech, htech⟩ hb
  · simp only [Bool.false_eq_true, false_iff, not_or]
    exact ⟨hne, fun h => hb (TransGen.present h)⟩

/-- Every other requirement is a technology required anyway. -/
theorem below_of_harmless (hharmless : Harmless techs) {tech : TechPacket}
    (htech : techs.get? b = some tech) (hreq : req ∈ tech.researchReqs)
    (hpresent : Present techs req.value) (hne : req.value ≠ b) :
    TransGen (Requires techs) b req.value := by
  by_cases hkind : req.kind = vutAdvance
  · exact .single ⟨tech, htech, req, hreq, hkind, rfl⟩
  · obtain ⟨before, after, hsplit⟩ := List.append_of_mem hreq
    refine (hharmless b tech before req after htech hsplit hkind
      hpresent).resolve_right fun h => hne h.1

theorem exact_of_harmless
    (hacyclic : ∀ x, ¬ TransGen (Requires techs) x x)
    (hzero : ∀ x, Present techs x → x ≠ 0) (hharmless : Harmless techs)
    (ha : Present techs a) (hb : Present techs b) : Exact techs a b := by
  refine acyclic_induction (C := fun b => Exact techs a b) present_finite
    hacyclic (fun b hb ih => ?_) hb
  by_cases hne : a = b
  · exact ⟨true, hne ▸ returns_self, iff_of_true rfl (.inl hne)⟩
  obtain ⟨tech, htech⟩ := hb
  have hbelow : ∀ q ∈ tech.researchReqs, q.value ≠ b →
      Exact techs a q.value := by
    intro q hq hself
    by_cases hpresent : Present techs q.value
    · exact ih _ hpresent
        (below_of_harmless hharmless htech hq hpresent hself)
    · exact exact_absent ha hpresent
  have hreturns {answer : Bool} : Returns techs a b answer
      ↔ SearchReturns techs a tech.researchReqs answer :=
    returns_present hne (hzero a ha) (hzero b ⟨tech, htech⟩) htech
  have hyes {q : Requirement} (hq : q ∈ tech.researchReqs)
      (hself : q.value ≠ b)
      (h : a = q.value ∨ TransGen (Requires techs) q.value a) :
      TransGen (Requires techs) b a := by
    rcases h with rfl | h
    · exact below_of_harmless hharmless htech hq ha hself
    · exact (below_of_harmless hharmless htech hq
        (TransGen.present h) hself).trans h
  by_cases hself : b ∈ tech.researchReqs.map Requirement.value
  · -- the first one that names `b` itself is not come to
    obtain ⟨vs, ws, hvals, hnot⟩ := List.eq_append_cons_of_mem hself
    obtain ⟨before, rest, hreqs, rfl, hrest⟩ :=
      List.map_eq_append_iff.mp hvals
    obtain ⟨req, after, rfl, hvalue, -⟩ := List.map_eq_cons_iff.mp hrest
    have hmem : req ∈ tech.researchReqs := by simp [hreqs]
    have hbefore : ∀ q ∈ before, q ∈ tech.researchReqs ∧ q.value ≠ b :=
      fun q hq => ⟨by simp [hreqs, hq],
        fun heq => hnot (List.mem_map.mpr ⟨q, hq, heq⟩)⟩
    have hkind : req.kind ≠ vutAdvance := fun hkind =>
      hacyclic b (.single ⟨tech, htech, req, hmem, hkind, hvalue⟩)
    have hfound := (hharmless b tech before req after htech hreqs hkind
      (hvalue ▸ ⟨tech, htech⟩)).resolve_left (hvalue ▸ hacyclic b)
    obtain ⟨q, hq, hqa⟩ := hfound.2 a ha hne
    obtain ⟨answer, hsearch, hiff⟩ := searchReturns_exact fun q hq =>
      hbelow q (hbefore q hq).1 (hbefore q hq).2
    obtain rfl : answer = true := hiff.mpr ⟨q, hq, hqa.imp_left Eq.symm⟩
    refine ⟨true, hreturns.mpr ?_, iff_of_true rfl (.inr ?_)⟩
    · rw [hreqs]
      exact searchReturns_append hsearch
    · exact hyes (hbefore q hq).1 (hbefore q hq).2 (hqa.imp_left Eq.symm)
  · have hothers : ∀ q ∈ tech.researchReqs, q.value ≠ b :=
      fun q hq heq => hself (List.mem_map.mpr ⟨q, hq, heq⟩)
    obtain ⟨answer, hsearch, hiff⟩ := searchReturns_exact fun q hq =>
      hbelow q hq (hothers q hq)
    refine ⟨answer, hreturns.mpr hsearch, hiff.trans ⟨?_, ?_⟩⟩
    · rintro ⟨q, hq, hqa⟩
      exact .inr (hyes hq (hothers q hq) hqa)
    · intro h
      obtain ⟨v, ⟨tech', htech', q, hq, -, rfl⟩, hv⟩ :=
        TransGen.head'_iff.mp (h.resolve_left hne)
      cases htech.symm.trans htech'
      exact ⟨q, hq, reflTransGen_iff_eq_or_transGen.mp hv⟩

theorem harmless_of_exact (hzero : ∀ x, Present techs x → x ≠ 0)
    (hexact : ∀ a b, Present techs a → Present techs b → Exact techs a b) :
    Harmless techs := by
  intro b tech before req after htech hreqs hkind hpresent
  have hb : Present techs b := ⟨tech, htech⟩
  by_cases hself : req.value = b
  · refine .inr ⟨hself, fun a ha hne => ?_⟩
    obtain ⟨answer, hreturns, -⟩ := hexact a b ha hb
    obtain ⟨q, hq, hfound⟩ := searchReturns_true (found_before hne htech
      hreqs hself (hzero a ha) (hzero b hb) hreturns)
    refine ⟨q, hq, ?_⟩
    by_cases hqp : Present techs q.value
    · obtain ⟨answer, hexact, hiff⟩ := hexact a q.value ha hqp
      cases hexact.unique hfound
      exact (hiff.mp rfl).imp_left Eq.symm
    · obtain ⟨answer, hfalse, hiff⟩ := exact_absent ha hqp
      cases hfalse.unique hfound
      exact (hiff.mp rfl).imp_left Eq.symm
  · obtain ⟨answer, hreturns, hiff⟩ := hexact req.value b hpresent hb
    have hsearch := (returns_present hself (hzero _ hpresent) (hzero b hb)
      htech).mp hreturns
    obtain rfl := searchReturns_mem hsearch
      ⟨req, by simp [hreqs], rfl⟩
    exact .inl ((hiff.mp rfl).resolve_left hself)

/-- Every call between two technologies returns, and with the right answer,
exactly if the requirements of other kinds are harmless. -/
theorem tech_req_for_goal_iff (packets : List TechPacket)
    (hacyclic : ∀ x, ¬ TransGen (Requires (received packets)) x x) :
    (∀ a b, Present (received packets) a → Present (received packets) b →
        Exact (received packets) a b)
      ↔ Harmless (received packets) :=
  ⟨harmless_of_exact fun _ => present_ne_zero,
    fun h _ _ ha hb =>
      exact_of_harmless hacyclic (fun _ => present_ne_zero) h ha hb⟩

/-- Two technologies; the second requires number 1 of the given kinds. -/
def twoTechs (kinds : List Nat) : List TechPacket :=
  [{ id := 1, id_pos := Nat.one_pos, researchReqs := [] },
    { id := 2
      id_pos := Nat.two_pos
      researchReqs := kinds.map fun kind => { kind, value := 1 } }]

theorem twoTechs_requires {kinds : List Nat} {b a : Int}
    (h : Requires (received (twoTechs kinds)) b a) :
    a = 1 ∧ b = 2 ∧ vutAdvance ∈ kinds := by
  obtain ⟨tech, htech, req, hreq, hkind, rfl⟩ := h
  have hmem := Dict.mem_entries_iff.mpr htech
  rcases List.mem_cons.mp hmem with heq | hmem
  · cases heq
    cases hreq
  · cases List.mem_singleton.mp hmem
    obtain ⟨kind, hmem, rfl⟩ := List.mem_map.mp hreq
    exact ⟨rfl, rfl, hkind ▸ hmem⟩

theorem twoTechs_acyclic {kinds : List Nat} (x : Int) :
    ¬ TransGen (Requires (received (twoTechs kinds))) x x := by
  have hless (b a : Int)
      (h : TransGen (Requires (received (twoTechs kinds))) b a) : a < b := by
    induction h with
    | single h =>
      have := twoTechs_requires h
      omega
    | tail _ h ih =>
      have := twoTechs_requires h
      omega
  exact fun h => Int.lt_irrefl x (hless x x h)

/-- Technology 1 and building 1 are both required. -/
theorem required_twice_exact :
    Exact (received (twoTechs [vutAdvance, 3])) 1 2 := by
  refine (tech_req_for_goal_iff _ twoTechs_acyclic).mpr ?_ 1 2 ⟨_, rfl⟩
    ⟨_, rfl⟩
  intro b tech before req after htech hreqs hkind _
  have hmem := Dict.mem_entries_iff.mpr htech
  rcases List.mem_cons.mp hmem with heq | hmem
  · cases heq
    simp at hreqs
  · cases List.mem_singleton.mp hmem
    have hreq : req ∈ ([vutAdvance, 3].map fun kind =>
        ({ kind, value := 1 } : Requirement)) := by
      rw [show [vutAdvance, 3].map _ = before ++ req :: after from hreqs]
      simp
    obtain ⟨kind, -, rfl⟩ := List.mem_map.mp hreq
    exact .inl (.single ⟨_, htech, _, List.mem_cons_self, rfl, rfl⟩)

/-- Only building 1 is required. -/
theorem building_taken_for_tech :
    (∀ x, ¬ TransGen (Requires (received (twoTechs [3]))) x x)
      ∧ ¬ Exact (received (twoTechs [3])) 1 2 := by
  refine ⟨twoTechs_acyclic, fun ⟨answer, hreturns, hiff⟩ => ?_⟩
  cases hreturns.unique ⟨2, rfl⟩
  have hrequired := (hiff.mp rfl).resolve_left (by decide)
  obtain ⟨v, h, -⟩ := TransGen.head'_iff.mp hrequired
  exact absurd (twoTechs_requires h).2.2 (by decide)

end TechGoal

end Freeciv3d.Web
