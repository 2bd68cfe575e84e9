/-
What a negotiation of two players keeps, and what a treaty does when it
comes into force.

# The clause list

Two clauses of a list are `Distinct`: neither equal, nor both pacts, nor
both gold of one giver. `add_clause` merges in place, and keeps this
(`addToClauses_distinct`).

# The consent

An edit takes both acceptances back, so a side that has accepted has
accepted the list as it stands (`Kept.consent`).

# The gold

What a giver has was checked against each of its gold clauses, of which
there is one at most; so the gold clauses of a treaty are paid in any
order (`executeGold_sound`), as long as no number is negative and none
overflows. A requirement that has lapsed makes the handler return with
the treaty still there.
-/
import Freeciv3d.Server.Proofs.TreatiesMirrored

namespace Freeciv3d.Server

open Lib

-- ==== the property

/-- Two clauses that may stand in one treaty. -/
def Clause.Distinct (c d : Clause) : Prop :=
  c ≠ d ∧ ¬ (c.type.isPact = true ∧ d.type.isPact = true) ∧
    ¬ (c.type = .gold ∧ d.type = .gold ∧ c.giver = d.giver)

/-- Both players agreed to what was executed, no gold got negative, and
none was made. -/
structure Execution.Sound (a b : Nat) (e : Execution) : Prop where
  consent : ∀ p, p = a ∨ p = b → e.consent p = some e.clauses
  solvent : ∀ p, p = a ∨ p = b → 0 ≤ e.before p → 0 ≤ e.after p
  sum : e.after a + e.after b ≤ e.before a + e.before b

structure SoundTreaties (a b : Nat) (s : Negotiation) : Prop where
  clauses : ∀ parties t, s.treaty = some (parties, t) →
    t.clauses.Pairwise Clause.Distinct
  executed : ∀ e ∈ s.executed, e.Sound a b
  ended : s.ended = true → s.treaty = none

-- ==== the condition

/-- A gold clause is no debt, and nothing overflows. -/
structure Clause.Payable (a b cost : Nat) (gold : Purses) (c : Clause) :
    Prop where
  nonneg : 0 ≤ c.amount
  percent : c.amount * (100 - cost) < 2 ^ 31
  room : gold (counterpart a b c.giver) + goldReceived cost c < 2 ^ 31

/-- When the second player agrees, no requirement of the first one's
clauses has lapsed, and the gold clauses that are executed are payable. -/
def Sober (a b cost : Nat) (s : Negotiation) : TreatyEvent → Prop
  | .request p (.acceptTreaty k) => ∀ parties t,
      s.treaty = some (parties, t) →
      parties.Agrees t (parties.sideOf p) (k.keeps s.gold p) →
      let promise := k.promise s.gold (counterpart a b p)
      let unkept := parties.firstUnkept t (parties.sideOf p) promise
      unkept.map promise ≠ some .lapsed ∧
        (unkept = none → ∀ c ∈ t.clauses, c.type = .gold →
          c.Payable a b cost s.gold)
  | _ => True

-- ==== the clause list

/-- What `add_clause` may put into a list: the clause, or an old one in its
place. -/
def Clause.Like (c d : Clause) : Prop :=
  d = c ∨ (c.type.isPact = true ∧ d.type.isPact = true) ∨
    (c.type = .gold ∧ d.type = .gold ∧ d.giver = c.giver)

theorem mem_addToClauses {c d : Clause} {l l' : List Clause}
    (h : Treaty.addToClauses c l = some l') (hd : d ∈ l') :
    d ∈ l ∨ c.Like d := by
  induction l generalizing l' with
  | nil =>
    cases h
    exact .inr (.inl (List.mem_singleton.mp hd))
  | cons old rest ih =>
    unfold Treaty.addToClauses at h
    split at h
    · cases h
    · split at h
      · next hpact =>
          cases h
          rcases List.mem_cons.mp hd with rfl | hd
          · obtain ⟨hc, -⟩ := Bool.and_eq_true_iff.mp hpact
            exact .inr (.inr (.inl ⟨hc, hc⟩))
          · exact .inl (List.mem_cons_of_mem _ hd)
      · split at h
        · next hgold =>
            cases h
            rcases List.mem_cons.mp hd with rfl | hd
            · exact .inr (.inr (.inr hgold))
            · exact .inl (List.mem_cons_of_mem _ hd)
        · obtain ⟨tail, htail, rfl⟩ := Option.map_eq_some_iff.mp h
          rcases List.mem_cons.mp hd with rfl | hd
          · exact .inl List.mem_cons_self
          · exact (ih htail hd).imp_left (List.mem_cons_of_mem _)

theorem giver_addToClauses {c : Clause} {l l' : List Clause}
    {P : Nat → Prop} (hc : P c.giver) (hl : ∀ e ∈ l, P e.giver)
    (h : Treaty.addToClauses c l = some l') : ∀ d ∈ l', P d.giver := by
  induction l generalizing l' with
  | nil =>
    cases h
    intro d hd
    rw [List.mem_singleton.mp hd]
    exact hc
  | cons old rest ih =>
    obtain ⟨hold, hrest⟩ := List.forall_mem_cons.mp hl
    unfold Treaty.addToClauses at h
    split at h
    · cases h
    · split at h
      · cases h
        exact List.forall_mem_cons.mpr ⟨hold, hrest⟩
      · split at h
        · cases h
          exact List.forall_mem_cons.mpr ⟨hold, hrest⟩
        · obtain ⟨tail, htail, rfl⟩ := Option.map_eq_some_iff.mp h
          exact List.forall_mem_cons.mpr ⟨hold, ih hrest htail⟩

theorem distinct_of_like {old c d : Clause} (hne : old ≠ c)
    (hpact : ¬ (c.type.isPact = true ∧ old.type.isPact = true))
    (hgold : ¬ (c.type = .gold ∧ old.type = .gold ∧ old.giver = c.giver))
    (hd : c.Like d) : old.Distinct d := by
  rcases hd with rfl | ⟨hc, hd⟩ | ⟨hc, hd, hgiver⟩
  · exact ⟨hne, fun h => hpact ⟨h.2, h.1⟩,
      fun h => hgold ⟨h.2.1, h.1, h.2.2⟩⟩
  · have hold : ¬ old.type.isPact = true := fun h => hpact ⟨hc, h⟩
    refine ⟨?_, fun h => hold h.1, ?_⟩
    · rintro rfl
      exact hold hd
    · rintro ⟨-, h, -⟩
      rw [h] at hd
      exact Bool.false_ne_true hd
  · have hold : ¬ (old.type = .gold ∧ old.giver = d.giver) := fun h =>
      hgold ⟨hc, h.1, h.2.trans hgiver⟩
    refine ⟨?_, ?_, fun h => hold ⟨h.1, h.2.2⟩⟩
    · rintro rfl
      exact hold ⟨hd, rfl⟩
    · rintro ⟨-, h⟩
      rw [hd] at h
      exact Bool.false_ne_true h

theorem addToClauses_distinct {c : Clause} {l l' : List Clause}
    (hl : l.Pairwise Clause.Distinct)
    (h : Treaty.addToClauses c l = some l') :
    l'.Pairwise Clause.Distinct := by
  induction l generalizing l' with
  | nil =>
    cases h
    exact List.pairwise_singleton _ _
  | cons old rest ih =>
    obtain ⟨hold, hrest⟩ := List.pairwise_cons.mp hl
    unfold Treaty.addToClauses at h
    split at h
    · cases h
    · next hne =>
        split at h
        · next hpact =>
            cases h
            obtain ⟨hc, ho⟩ := Bool.and_eq_true_iff.mp hpact
            refine List.pairwise_cons.mpr ⟨fun d hd => ?_, hrest⟩
            have hd' : ¬ d.type.isPact = true := fun h =>
              (hold d hd).2.1 ⟨ho, h⟩
            refine ⟨?_, fun h => hd' h.2, ?_⟩
            · rintro rfl
              exact hd' hc
            · rintro ⟨h, -, -⟩
              rw [h] at hc
              exact Bool.false_ne_true hc
        · next hpact =>
            split at h
            · next hgold =>
                cases h
                refine List.pairwise_cons.mpr ⟨fun d hd => ?_, hrest⟩
                have hd' : ¬ (d.type = .gold ∧ old.giver = d.giver) :=
                  fun h => (hold d hd).2.2 ⟨hgold.2.1, h.1, h.2⟩
                refine ⟨?_, ?_, fun h => hd' ⟨h.2.1, h.2.2⟩⟩
                · rintro rfl
                  exact hd' ⟨hgold.2.1, rfl⟩
                · rintro ⟨h, -⟩
                  rw [hgold.2.1] at h
                  exact Bool.false_ne_true h
            · next hgold =>
                obtain ⟨tail, htail, rfl⟩ := Option.map_eq_some_iff.mp h
                refine List.pairwise_cons.mpr
                  ⟨fun d hd => ?_, ih hrest htail⟩
                rcases mem_addToClauses htail hd with hd | hd
                · exact hold d hd
                · exact distinct_of_like hne
                    (fun h => hpact (Bool.and_eq_true_iff.mpr h)) hgold hd

-- ==== the gold

theorem goldReceived_le {cost : Nat} {c : Clause} (hcost : cost ≤ 100)
    (h0 : 0 ≤ c.amount) (h : c.amount * (100 - cost) < 2 ^ 31) :
    0 ≤ goldReceived cost c ∧ goldReceived cost c ≤ c.amount := by
  have hrate : (0 : Int) ≤ 100 - cost := by omega
  have hprod : 0 ≤ c.amount * (100 - cost) := Int.mul_nonneg h0 hrate
  have hmax : c.amount * (100 - cost) ≤ c.amount * 100 :=
    Int.mul_le_mul_of_nonneg_left (by omega) h0
  have hfits : Width.sint32.Fits (c.amount * (100 - cost)) := by
    refine ⟨?_, ?_⟩
    · show (-2 ^ 31 : Int) ≤ _
      omega
    · show _ ≤ (2 ^ 31 - 1 : Int)
      omega
  unfold goldReceived
  rw [int32_of_fits hfits, Int.tdiv_eq_ediv_of_nonneg hprod]
  omega

section TwoPlayers

variable {a b : Nat} (hab : a ≠ b) {p : Nat} (hp : p = a ∨ p = b)

include hab hp

omit hab hp in
theorem counterpart_seat : counterpart a b p = a ∨ counterpart a b p = b := by
  unfold counterpart
  split
  · exact .inr rfl
  · exact .inl rfl

theorem counterpart_ne : counterpart a b p ≠ p := by
  unfold counterpart
  rcases hp with rfl | rfl
  · rw [if_pos rfl]
    exact hab.symm
  · rw [if_neg hab.symm]
    exact hab

theorem seat_cases {q : Nat} (hq : q = a ∨ q = b) :
    q = p ∨ q = counterpart a b p := by
  unfold counterpart
  rcases hp with rfl | rfl
  · rw [if_pos rfl]
    exact hq
  · rw [if_neg hab.symm]
    exact hq.symm

theorem counterpart_counterpart :
    counterpart a b (counterpart a b p) = p := by
  rcases hp with rfl | rfl
  · simp [counterpart, hab.symm]
  · simp [counterpart, hab.symm]

theorem sum_seats (f : Nat → Int) :
    f a + f b = f p + f (counterpart a b p) := by
  unfold counterpart
  rcases hp with rfl | rfl
  · rw [if_pos rfl]
  · rw [if_neg hab.symm]
    exact Int.add_comm _ _

end TwoPlayers

/-- The gold of both players is an `int`. -/
def PursesFit (a b : Nat) (gold : Purses) : Prop :=
  ∀ p, p = a ∨ p = b → Width.sint32.Fits (gold p)

/-- A gold clause that its giver can pay. -/
structure Clause.Paid (a b cost : Nat) (gold : Purses) (c : Clause) :
    Prop where
  payable : c.Payable a b cost gold
  has : c.amount ≤ gold c.giver

section Gold

variable {a b cost : Nat} {gold : Purses} {c : Clause} (hab : a ≠ b)
  (hcost : cost ≤ 100) (hgiver : c.giver = a ∨ c.giver = b)
  (hfit : PursesFit a b gold) (hpaid : c.Paid a b cost gold)

include hab hcost hgiver hfit hpaid

theorem giveGold_eq :
    giveGold a b cost gold c c.giver = gold c.giver - c.amount ∧
      giveGold a b cost gold c (counterpart a b c.giver) =
        gold (counterpart a b c.giver) + goldReceived cost c := by
  have hne := counterpart_ne hab hgiver
  have hg : gold c.giver ≤ 2 ^ 31 - 1 := (hfit _ hgiver).2
  have hd : -2 ^ 31 ≤ gold (counterpart a b c.giver) :=
    (hfit _ (counterpart_seat)).1
  have h0 := hpaid.payable.nonneg
  have hhas := hpaid.has
  have hroom := hpaid.payable.room
  obtain ⟨hr, -⟩ := goldReceived_le hcost h0 hpaid.payable.percent
  have hless : Width.sint32.Fits (gold c.giver - c.amount) := by
    constructor
    · show (-2 ^ 31 : Int) ≤ _
      omega
    · show _ ≤ (2 ^ 31 - 1 : Int)
      omega
  have hmore : Width.sint32.Fits
      (gold (counterpart a b c.giver) + goldReceived cost c) := by
    constructor
    · show (-2 ^ 31 : Int) ≤ _
      omega
    · show _ ≤ (2 ^ 31 - 1 : Int)
      omega
  unfold giveGold
  constructor
  · rw [Function.update_of_ne hne.symm, Function.update_self,
      int32_of_fits hless]
  · rw [Function.update_self, Function.update_of_ne hne,
      int32_of_fits hmore]

theorem giveGold_fits : PursesFit a b (giveGold a b cost gold c) := by
  obtain ⟨hg, hd⟩ := giveGold_eq hab hcost hgiver hfit hpaid
  have h0 := hpaid.payable.nonneg
  have hhas := hpaid.has
  have hroom := hpaid.payable.room
  obtain ⟨hr, -⟩ := goldReceived_le hcost h0 hpaid.payable.percent
  intro q hq
  rcases seat_cases hab hgiver hq with rfl | rfl
  · have hle : gold c.giver ≤ 2 ^ 31 - 1 := (hfit _ hgiver).2
    rw [hg]
    constructor
    · show (-2 ^ 31 : Int) ≤ _
      omega
    · show _ ≤ (2 ^ 31 - 1 : Int)
      omega
  · have hle : -2 ^ 31 ≤ gold (counterpart a b c.giver) :=
      (hfit _ (counterpart_seat)).1
    rw [hd]
    constructor
    · show (-2 ^ 31 : Int) ≤ _
      omega
    · show _ ≤ (2 ^ 31 - 1 : Int)
      omega

theorem paid_giveGold {d : Clause} (hd : d.giver = counterpart a b c.giver)
    (hpaid' : d.Paid a b cost gold) :
    d.Paid a b cost (giveGold a b cost gold c) := by
  obtain ⟨hg, hdest⟩ := giveGold_eq hab hcost hgiver hfit hpaid
  have h0 := hpaid.payable.nonneg
  obtain ⟨hr, -⟩ := goldReceived_le hcost h0 hpaid.payable.percent
  have hhas := hpaid'.has
  have hroom := hpaid'.payable.room
  have hback : counterpart a b d.giver = c.giver := by
    rw [hd, counterpart_counterpart hab hgiver]
  rw [hback] at hroom
  refine ⟨⟨hpaid'.payable.nonneg, hpaid'.payable.percent, ?_⟩, ?_⟩
  · rw [hback, hg]
    calc gold c.giver - c.amount + goldReceived cost d
        ≤ gold c.giver + goldReceived cost d :=
          Int.add_le_add_right (Int.sub_le_self _ h0) _
      _ < 2 ^ 31 := hroom
  · rw [hd] at hhas
    rw [hd, hdest]
    exact Int.le_trans hhas (Int.le_add_of_nonneg_right hr)

end Gold

theorem executeGold_sound {a b cost : Nat} {clauses : List Clause}
    (hab : a ≠ b) (hcost : cost ≤ 100) {gold : Purses}
    (hdistinct : clauses.Pairwise Clause.Distinct)
    (hgiver : ∀ c ∈ clauses, c.giver = a ∨ c.giver = b)
    (hfit : PursesFit a b gold)
    (hpaid : ∀ c ∈ clauses, c.type = .gold → c.Paid a b cost gold) :
    PursesFit a b (executeGold a b cost gold clauses) ∧
    (∀ p, p = a ∨ p = b → 0 ≤ gold p →
      0 ≤ executeGold a b cost gold clauses p) ∧
    executeGold a b cost gold clauses a +
        executeGold a b cost gold clauses b ≤ gold a + gold b := by
  induction clauses generalizing gold with
  | nil => exact ⟨hfit, fun _ _ h => h, Int.le_refl _⟩
  | cons c rest ih =>
    obtain ⟨hhead, hrest⟩ := List.pairwise_cons.mp hdistinct
    have hgivers : ∀ d ∈ rest, d.giver = a ∨ d.giver = b := fun d hd =>
      hgiver d (List.mem_cons_of_mem _ hd)
    have hstep : executeGold a b cost gold (c :: rest) =
        executeGold a b cost
          (if c.type = .gold then giveGold a b cost gold c else gold)
          rest := rfl
    rw [hstep]
    by_cases hgold : c.type = .gold
    · rw [if_pos hgold]
      have hc := hpaid c List.mem_cons_self hgold
      have hseat := hgiver c List.mem_cons_self
      have hothers : ∀ d ∈ rest, d.type = .gold →
          d.Paid a b cost (giveGold a b cost gold c) := by
        intro d hd htype
        -- the other gold clauses are of the other player
        have hother : d.giver = counterpart a b c.giver := by
          refine (seat_cases hab hseat (hgivers d hd)).resolve_left ?_
          intro hsame
          exact (hhead d hd).2.2 ⟨hgold, htype, hsame.symm⟩
        exact paid_giveGold hab hcost hseat hfit hc hother
          (hpaid d (List.mem_cons_of_mem _ hd) htype)
      obtain ⟨hfit', hsolvent, hsum⟩ := ih hrest hgivers
        (giveGold_fits hab hcost hseat hfit hc) hothers
      obtain ⟨hg, hd⟩ := giveGold_eq hab hcost hseat hfit hc
      have h0 := hc.payable.nonneg
      have hhas := hc.has
      obtain ⟨hr, hle⟩ := goldReceived_le hcost h0 hc.payable.percent
      refine ⟨hfit', fun p hp hpos => hsolvent p hp ?_, ?_⟩
      · rcases seat_cases hab hseat hp with rfl | rfl
        · rw [hg]
          exact Int.sub_nonneg_of_le hhas
        · rw [hd]
          exact Int.add_nonneg hpos hr
      · rw [sum_seats hab hseat gold]
        rw [sum_seats hab hseat (giveGold a b cost gold c), hg, hd] at hsum
        omega
    · rw [if_neg hgold]
      exact ih hrest hgivers hfit fun d hd =>
        hpaid d (List.mem_cons_of_mem _ hd)

-- ==== the requests

namespace Parties

theorem handleAccept_cases (parties : Parties) (t : Treaty) (side : Side)
    (keeps : Clause → Bool) (promise : Clause → Promise) :
    let handled := parties.handleAcceptTreatyReq t side keeps promise
    (¬ parties.Agrees t side keeps ∧ handled = ⟨some t, [], []⟩) ∨
    (¬ parties.Agrees t side keeps ∧
      handled.treaty = some (t.toggleAccept side) ∧
      handled.toPlayer.any TreatyPacket.isCancel = false) ∨
    (parties.Agrees t side keeps ∧
      handled.treaty = (if (parties.firstUnkept t side promise).map promise
        = some .lapsed then some (t.toggleAccept side) else none) ∧
      handled.toPlayer.any TreatyPacket.isCancel = true) := by
  unfold handleAcceptTreatyReq
  dsimp only
  by_cases hrefused :
      (!t.accept side && !parties.keepsAll t side keeps) = true
  · rw [if_pos hrefused]
    refine .inl ⟨?_, rfl⟩
    rintro ⟨-, -, hkeeps⟩
    rw [hkeeps, Bool.not_true, Bool.and_false] at hrefused
    exact Bool.false_ne_true hrefused
  · rw [if_neg hrefused, Treaty.accept_and side,
      Treaty.accept_toggleAccept, Treaty.accept_other_toggleAccept,
      firstUnkept_toggleAccept]
    by_cases hboth : t.accept side = false ∧ t.accept side.other = true
    · obtain ⟨hside, hother⟩ := hboth
      have hkeeps : parties.keepsAll t side keeps = true := by
        simpa [hside] using hrefused
      simp only [hside, hother, Bool.not_false, Bool.and_self, if_true]
      exact .inr (.inr ⟨⟨hside, hother, hkeeps⟩, trivial, rfl⟩)
    · have hnot : ¬ (!t.accept side && t.accept side.other) = true := by
        simpa using hboth
      rw [if_neg hnot]
      exact .inr (.inl ⟨fun h => hboth ⟨h.1, h.2.1⟩, rfl, rfl⟩)

end Parties

/-- An edit leaves the treaty, or a changed one that nobody has
accepted. -/
theorem handle_edit (parties : Parties) (t : Treaty) (side : Side)
    {r : PlayerRequest} {gold : Purses} {p other : Nat}
    (hr : ∀ k, r ≠ .acceptTreaty k)
    (ht : t.clauses.Pairwise Clause.Distinct)
    (hgives : ∀ c ∈ t.clauses, parties.Gives c.giver) :
    let handled := parties.handle (some t) side (r.weigh gold p other)
    (handled.treaty = some t ∧
      handled.toPlayer.any TreatyPacket.isCancel = false) ∨
    (∃ t', handled.treaty = some t' ∧
      handled.toPlayer.any TreatyPacket.isCancel = false ∧
      t'.accept0 = false ∧ t'.accept1 = false ∧
      t'.clauses.Pairwise Clause.Distinct ∧
      ∀ c ∈ t'.clauses, parties.Gives c.giver) ∨
    handled.treaty = none := by
  cases r with
  | createClause clause admits =>
    dsimp only [PlayerRequest.weigh, Parties.handle,
      Parties.handleCreateClauseReq]
    split
    · next hgiver =>
        cases hadd : t.addClause admits clause with
        | none => exact .inl ⟨rfl, rfl⟩
        | some t' =>
          unfold Treaty.addClause at hadd
          split at hadd
          · obtain ⟨l, hl, rfl⟩ := Option.map_eq_some_iff.mp hadd
            exact .inr (.inl ⟨_, rfl, rfl, rfl, rfl,
              addToClauses_distinct ht hl,
              giver_addToClauses hgiver hgives hl⟩)
          · cases hadd
    · exact .inl ⟨rfl, rfl⟩
  | removeClause clause =>
    dsimp only [PlayerRequest.weigh, Parties.handle,
      Parties.handleRemoveClauseReq]
    split
    · cases hremove : t.removeClause clause with
      | none => exact .inl ⟨rfl, rfl⟩
      | some t' =>
        obtain ⟨-, rfl⟩ := Treaty.removeClause_eq hremove
        exact .inr (.inl ⟨_, rfl, rfl, rfl, rfl,
          ht.sublist List.erase_sublist,
          fun c hc => hgives c (List.mem_of_mem_erase hc)⟩)
    · exact .inl ⟨rfl, rfl⟩
  | acceptTreaty k => exact absurd rfl (hr k)
  | cancelMeeting => exact .inr (.inr rfl)

-- ==== the run

/-- A treaty in the making: between the two players, its clauses distinct
and theirs, accepted only as it stands. -/
structure TreatyKept (a b : Nat) (consent : Nat → Option (List Clause))
    (parties : Parties) (t : Treaty) : Prop where
  seats : parties = ⟨a, b⟩ ∨ parties = ⟨b, a⟩
  distinct : t.clauses.Pairwise Clause.Distinct
  gives : ∀ c ∈ t.clauses, parties.Gives c.giver
  consent : ∀ p, p = a ∨ p = b → t.accept (parties.sideOf p) = true →
    consent p = some t.clauses

structure NegotiationKept (a b : Nat) (s : Negotiation) : Prop where
  treaty : ∀ parties t, s.treaty = some (parties, t) →
    TreatyKept a b s.consent parties t
  fits : PursesFit a b s.gold
  executed : ∀ e ∈ s.executed, e.Sound a b
  ended : s.ended = true → s.treaty = none

theorem NegotiationKept.sound {a b : Nat} {s : Negotiation}
    (h : NegotiationKept a b s) : SoundTreaties a b s :=
  ⟨fun parties t ht => (h.treaty parties t ht).distinct, h.executed, h.ended⟩

section Seats

variable {a b : Nat} {parties : Parties} (hab : a ≠ b)
  (hparties : parties = ⟨a, b⟩ ∨ parties = ⟨b, a⟩) {p : Nat}
  (hp : p = a ∨ p = b)

include hab hparties hp

theorem number_sideOf : parties.number (parties.sideOf p) = p := by
  unfold Parties.sideOf
  rcases hparties with rfl | rfl
  · rcases hp with rfl | rfl
    · rw [if_pos rfl]
      rfl
    · rw [if_neg hab.symm]
      rfl
  · rcases hp with rfl | rfl
    · rw [if_neg hab]
      rfl
    · rw [if_pos rfl]
      rfl

theorem sideOf_counterpart :
    parties.sideOf (counterpart a b p) = (parties.sideOf p).other := by
  unfold Parties.sideOf counterpart
  rcases hparties with rfl | rfl
  · rcases hp with rfl | rfl
    · simp [hab.symm, Side.other]
    · simp [hab.symm, Side.other]
  · rcases hp with rfl | rfl
    · simp [hab, Side.other]
    · simp [hab, hab.symm, Side.other]

theorem number_other :
    parties.number (parties.sideOf p).other = counterpart a b p := by
  rw [← sideOf_counterpart hab hparties hp]
  exact number_sideOf hab hparties counterpart_seat

theorem giver_cases {c : Clause} (hc : parties.Gives c.giver) :
    c.giver = p ∨ c.giver = counterpart a b p := by
  apply seat_cases hab hp
  unfold Parties.Gives at hc
  rcases hparties with rfl | rfl
  · exact hc
  · exact hc.symm

end Seats

section Steps

variable {a b cost : Nat} {s : Negotiation} {p : Nat} {parties : Parties}
  {t : Treaty} (hab : a ≠ b) (hp : p = a ∨ p = b)
  (hs : NegotiationKept a b s) (ht : s.treaty = some (parties, t))

theorem accept_of_fresh {t : Treaty} (h0 : t.accept0 = false)
    (h1 : t.accept1 = false) (side : Side) : t.accept side = false := by
  cases side with
  | plr0 => exact h0
  | plr1 => exact h1

include hs ht

/-- Whatever is not an acceptance. -/
theorem kept_edit {r : PlayerRequest} (hr : ∀ k, r ≠ .acceptTreaty k) :
    NegotiationKept a b (s.request a b cost p r parties t) := by
  have hk := hs.treaty parties t ht
  have hno : ¬ parties.Executes t (parties.sideOf p)
      (r.weigh s.gold p (counterpart a b p)) := by
    cases r with
    | acceptTreaty k => exact absurd rfl (hr k)
    | createClause clause admits | removeClause clause | cancelMeeting =>
      exact id
  have hconsent : ∀ handled, consentAfter s.consent p t
      (parties.sideOf p) handled r = s.consent := by
    intro handled
    cases r with
    | acceptTreaty k => exact absurd rfl (hr k)
    | createClause clause admits => rfl
    | removeClause clause => rfl
    | cancelMeeting => rfl
  unfold Negotiation.request
  dsimp only
  rw [if_neg hno, if_neg hno, hconsent]
  rcases handle_edit parties t (parties.sideOf p) hr hk.distinct hk.gives
    with ⟨htreaty, hover⟩ | ⟨t', htreaty, hover, h0, h1, hdistinct, hgives⟩
      | htreaty
  · rw [htreaty, hover]
    refine ⟨fun parties' t' h => ?_, hs.fits, hs.executed, nofun⟩
    cases h
    exact hk
  · rw [htreaty, hover]
    refine ⟨fun parties' t' h => ?_, hs.fits, hs.executed, nofun⟩
    cases h
    refine ⟨hk.seats, hdistinct, hgives, fun q _ haccept => ?_⟩
    rw [accept_of_fresh h0 h1] at haccept
    exact absurd haccept Bool.false_ne_true
  · rw [htreaty]
    exact ⟨nofun, hs.fits, hs.executed, fun _ => rfl⟩

include hab hp

theorem kept_toggle : TreatyKept a b
    (Function.update s.consent p
      (if t.accept (parties.sideOf p) then none else some t.clauses))
    parties (t.toggleAccept (parties.sideOf p)) := by
  have hk := hs.treaty parties t ht
  have hclauses := t.clauses_toggleAccept (parties.sideOf p)
  refine ⟨hk.seats, ?_, ?_, fun q hq haccept => ?_⟩
  · rw [hclauses]
    exact hk.distinct
  · rw [hclauses]
    exact hk.gives
  · rw [hclauses]
    rcases seat_cases hab hp hq with rfl | rfl
    · rw [Treaty.accept_toggleAccept, Bool.not_eq_true'] at haccept
      rw [Function.update_self, haccept]
      rfl
    · rw [sideOf_counterpart hab hk.seats hp,
        Treaty.accept_other_toggleAccept,
        ← sideOf_counterpart hab hk.seats hp] at haccept
      rw [Function.update_of_ne (counterpart_ne hab hp)]
      exact hk.consent _ hq haccept

theorem consent_of_agrees {keeps : Clause → Bool}
    (h : parties.Agrees t (parties.sideOf p) keeps) {q : Nat}
    (hq : q = a ∨ q = b) :
    Function.update s.consent p (some t.clauses) q = some t.clauses := by
  have hk := hs.treaty parties t ht
  rcases seat_cases hab hp hq with rfl | rfl
  · exact Function.update_self _ _ _
  · rw [Function.update_of_ne (counterpart_ne hab hp)]
    apply hk.consent _ hq
    rw [sideOf_counterpart hab hk.seats hp]
    exact h.2.1

theorem has_of_checks {k : AcceptChecks}
    (hkeeps : parties.keepsAll t (parties.sideOf p) (k.keeps s.gold p) = true)
    (hunkept : parties.firstUnkept t (parties.sideOf p)
      (k.promise s.gold (counterpart a b p)) = none)
    {c : Clause} (hc : c ∈ t.clauses) (hgold : c.type = .gold) :
    c.amount ≤ s.gold c.giver := by
  have hk := hs.treaty parties t ht
  rcases giver_cases hab hk.seats hp (hk.gives c hc) with hgiver | hgiver
  · have hown := List.all_eq_true.mp hkeeps c hc
    rw [number_sideOf hab hk.seats hp, hgiver] at hown
    unfold AcceptChecks.keeps at hown
    rw [hgold] at hown
    rw [hgiver]
    have hboth : (¬ c.giver = p ∨ k.reqs c = true) ∧
        c.amount ≤ s.gold p := by
      simpa using hown
    exact hboth.2
  · have hother := List.find?_eq_none.mp hunkept c hc
    rw [number_other hab hk.seats hp, hgiver] at hother
    rw [beq_self_eq_true, Bool.true_and, bne_iff_ne, not_not] at hother
    unfold AcceptChecks.promise at hother
    rw [hgold] at hother
    rw [hgiver]
    dsimp only at hother
    split at hother
    · cases hother
    · split at hother
      · cases hother
      · next hhas => exact Int.not_lt.mp hhas

theorem kept_accept {k : AcceptChecks} (hcost : cost ≤ 100)
    (hc : Sober a b cost s (.request p (.acceptTreaty k))) :
    NegotiationKept a b
      (s.request a b cost p (.acceptTreaty k) parties t) := by
  have hk := hs.treaty parties t ht
  have hhandle : parties.handle (some t) (parties.sideOf p)
      (PlayerRequest.weigh s.gold p (counterpart a b p) (.acceptTreaty k)) =
      parties.handleAcceptTreatyReq t (parties.sideOf p)
        (k.keeps s.gold p) (k.promise s.gold (counterpart a b p)) := rfl
  have hexecutes : parties.Executes t (parties.sideOf p)
      (PlayerRequest.weigh s.gold p (counterpart a b p) (.acceptTreaty k)) =
      (parties.Agrees t (parties.sideOf p) (k.keeps s.gold p) ∧
        parties.firstUnkept t (parties.sideOf p)
          (k.promise s.gold (counterpart a b p)) = none) := rfl
  have htoggled : t.toggleAccept (parties.sideOf p) ≠ t := by
    intro h
    have hsame := t.accept_toggleAccept (parties.sideOf p)
    rw [h] at hsame
    exact (Bool.eq_not_self _).mp hsame
  unfold Negotiation.request consentAfter
  dsimp only
  rw [hhandle]
  simp only [hexecutes]
  rcases parties.handleAccept_cases t (parties.sideOf p)
      (k.keeps s.gold p) (k.promise s.gold (counterpart a b p)) with
    ⟨hno, hhandled⟩ | ⟨hno, htreaty, hover⟩ | ⟨hagrees, htreaty, hover⟩
  · have hidle : ¬ (parties.Agrees t (parties.sideOf p)
        (k.keeps s.gold p) ∧ parties.firstUnkept t (parties.sideOf p)
          (k.promise s.gold (counterpart a b p)) = none) :=
      fun h => hno h.1
    rw [hhandled, if_pos rfl, if_neg hidle, if_neg hidle]
    refine ⟨fun parties' t' h => ?_, hs.fits, hs.executed, nofun⟩
    cases h
    exact hk
  · have hidle : ¬ (parties.Agrees t (parties.sideOf p)
        (k.keeps s.gold p) ∧ parties.firstUnkept t (parties.sideOf p)
          (k.promise s.gold (counterpart a b p)) = none) :=
      fun h => hno h.1
    have hother : some (t.toggleAccept (parties.sideOf p)) ≠ some t :=
      fun h => htoggled (Option.some.inj h)
    rw [htreaty, hover, if_neg hother, if_neg hidle, if_neg hidle]
    refine ⟨fun parties' t' h => ?_, hs.fits, hs.executed, nofun⟩
    cases h
    exact kept_toggle hab hp hs ht
  · obtain ⟨hlapsed, hpay⟩ := hc parties t ht hagrees
    rw [if_neg hlapsed] at htreaty
    have hgone : (none : Option Treaty) ≠ some t := nofun
    rw [htreaty, if_neg hgone, hagrees.1, if_neg Bool.false_ne_true]
    by_cases hkept : parties.firstUnkept t (parties.sideOf p)
        (k.promise s.gold (counterpart a b p)) = none
    · have hboth := And.intro hagrees hkept
      rw [if_pos hboth, if_pos hboth]
      obtain ⟨hfit, hsolvent, hsum⟩ := executeGold_sound hab hcost
        hk.distinct
        (fun c hc => by
          rcases giver_cases hab hk.seats hp (hk.gives c hc) with h | h
          · rw [h]
            exact hp
          · rw [h]
            exact counterpart_seat)
        hs.fits
        (fun c hc hgold => ⟨hpay hkept c hc hgold,
          has_of_checks hab hp hs ht hagrees.2.2 hkept hc hgold⟩)
      refine ⟨nofun, hfit, fun e he => ?_, fun _ => rfl⟩
      rcases List.mem_append.mp he with he | he
      · exact hs.executed e he
      · rw [List.mem_singleton.mp he]
        exact ⟨fun q hq => consent_of_agrees hab hp hs ht hagrees hq,
          hsolvent, hsum⟩
    · have hbroken : ¬ (parties.Agrees t (parties.sideOf p)
          (k.keeps s.gold p) ∧ parties.firstUnkept t (parties.sideOf p)
            (k.promise s.gold (counterpart a b p)) = none) :=
        fun h => hkept h.2
      rw [if_neg hbroken, if_neg hbroken]
      exact ⟨nofun, hs.fits, hs.executed, fun _ => rfl⟩

end Steps

theorem kept_step {a b cost : Nat} (hab : a ≠ b) (hcost : cost ≤ 100)
    {s s' : Negotiation} {e : TreatyEvent} (hs : NegotiationKept a b s)
    (hc : Sober a b cost s e)
    (h : (negotiations a b cost).step s e = some s') :
    NegotiationKept a b s' := by
  change s.step a b cost e = some s' at h
  unfold Negotiation.step at h
  cases e with
  | initMeeting p meets =>
    dsimp only at h
    split at h
    · next hp =>
        cases h
        split
        · refine ⟨fun parties t ht => ?_, hs.fits, hs.executed, nofun⟩
          cases ht
          refine ⟨?_, List.Pairwise.nil,
            fun c hc => absurd hc List.not_mem_nil,
            fun q _ hq => ?_⟩
          · unfold counterpart
            rcases hp with rfl | rfl
            · rw [if_pos rfl]
              exact .inl rfl
            · rw [if_neg hab.symm]
              exact .inr rfl
          · rw [accept_of_fresh rfl rfl] at hq
            exact absurd hq Bool.false_ne_true
        · exact hs
    · cases h
  | request p r =>
    dsimp only at h
    split at h
    · next hp =>
        cases h
        cases ht : s.treaty with
        | none =>
          exact ⟨nofun, hs.fits, hs.executed, nofun⟩
        | some found =>
          obtain ⟨parties, t⟩ := found
          cases r with
          | acceptTreaty k => exact kept_accept hab hp.1 hs ht hcost hc
          | createClause clause admits | removeClause clause
          | cancelMeeting => exact kept_edit hs ht nofun
    · cases h
  | gold gold =>
    dsimp only at h
    split at h
    · next hfit =>
        cases h
        refine ⟨hs.treaty, ?_, hs.executed, hs.ended⟩
        rintro p (rfl | rfl)
        · exact hfit.1
        · exact hfit.2
    · cases h

/-- In every sequence of requests of two players, with their gold and the
rest of the game changing in between: while every agreement is sober, the
clause lists are well formed, what is executed was agreed to and pays in
gold that is there, and a treaty whose end was announced is gone. -/
theorem treaties_sound {a b cost : Nat} (hab : a ≠ b) (hcost : cost ≤ 100)
    {gold : Purses} (ha : Width.sint32.Fits (gold a))
    (hb : Width.sint32.Fits (gold b)) {es : List TreatyEvent}
    (h : (negotiations a b cost).Along (Sober a b cost) (.start gold) es) :
    (negotiations a b cost).Always (SoundTreaties a b) (.start gold) es := by
  have hstart : NegotiationKept a b (.start gold) := by
    refine ⟨nofun, ?_, fun e he => absurd he List.not_mem_nil, nofun⟩
    rintro p (rfl | rfl)
    · exact ha
    · exact hb
  exact Lts.always_of_along (J := NegotiationKept a b)
    (fun _ hs => hs.sound)
    (fun _ _ _ hs hc hstep => kept_step hab hcost hs hc hstep) hstart h

-- ==== examples

def noObjection : AcceptChecks where
  reqs _ := true
  canGive _ := true
  stillReqs _ := true
  stillGives _ := true

/-- Player 0 opens a meeting, offers gold, and accepts; then player 1
accepts. -/
def goldDeal (value : Nat) (k : AcceptChecks) : List TreatyEvent :=
  [.initMeeting 0 true, .request 0 (.createClause ⟨.gold, 0, value⟩ true),
    .request 0 (.acceptTreaty noObjection), .request 1 (.acceptTreaty k)]

/-- Each player has 100 gold. -/
theorem thirty_gold_sound :
    (negotiations 0 1 20).Always (SoundTreaties 0 1)
      (.start fun _ => 100) (goldDeal 30 noObjection) := by
  apply treaties_sound (by decide) (by decide) (by decide) (by decide)
  refine ⟨trivial, trivial, ?_, ?_, trivial⟩
  · intro parties t ht hagrees
    cases ht
    exact nomatch hagrees.2.1
  · intro parties t ht _
    cases ht
    refine ⟨nofun, fun _ c hc _ => ?_⟩
    cases List.mem_singleton.mp hc
    exact ⟨by decide, by decide, by decide⟩

/-- A value of 2^32 - 1000 is a debt of 1000 that the other player pays
with gold that is not there. A requirement that has lapsed ends the meeting
but not the treaty. -/
theorem treaties_not_sound :
    ¬ (negotiations 0 1 0).Always (SoundTreaties 0 1) (.start fun _ => 100)
      (goldDeal (2 ^ 32 - 1000) noObjection) ∧
    ¬ (negotiations 0 1 0).Always (SoundTreaties 0 1) (.start fun _ => 100)
      (goldDeal 30 { noObjection with stillReqs := fun _ => false }) := by
  constructor
  · intro h
    have hpaid := (h.2.2.2.2.executed _ (List.mem_singleton.mpr rfl)).solvent 1
      (.inr rfl) (by decide)
    exact absurd hpaid (by decide)
  · intro h
    exact nomatch h.2.2.2.2.ended rfl

end Freeciv3d.Server
