/-
When the pictures of a meeting agree with the server's treaty.

# What the server does to a clause

It puts a pact in the place of a pact, and gold in the place of the same
player's gold. Both pictures take the packet for one clause more.

# What the pictures do

The web client takes out the first clause of the removed one's giver and
type. The proxy takes none out, and never hears of its own side's
acceptance: it looks for `i_accepted`, and the field is `I_accepted`.
-/
import Freeciv3d.Server.Treaty

namespace Freeciv3d.Server

open Lib

-- ==== the statement

/-- As sets, the clauses a side is shown are those of the treaty. -/
def SameClauses (shown : List Clause) (treaty : Option Treaty) : Prop :=
  ∀ clause, clause ∈ shown ↔ ∃ t ∈ treaty, clause ∈ t.clauses

/-- The web client shows the clauses of the treaty, and no meeting when
there is none. -/
def WebDiplomacy.Shows (w : WebDiplomacy) (counterpart : Nat)
    (treaty : Option Treaty) : Prop :=
  SameClauses (((w.diplomacyClauseMap.get? counterpart).getD []).map
      WebClause.clause) treaty
    ∧ (treaty = none → counterpart ∉ w.dialogs)

/-- The proxy has the clauses and the acceptances of the treaty, and no
meeting when there is none. -/
def ProxyDiplomacy.Shows (p : ProxyDiplomacy) (counterpart : Nat)
    (side : Side) : Option Treaty → Prop
  | none => p.diplomacyMeetings.get? counterpart = none
  | some t =>
    ∃ meeting ∈ p.diplomacyMeetings.get? counterpart,
      SameClauses meeting.clauses (some t)
        ∧ meeting.acceptSelf = t.accept side
        ∧ meeting.acceptOther = t.accept side.other

namespace Meeting

/-- After the last packet delivered to it, the web client of a side agrees
with the treaty the packet was sent about. -/
def WebAgrees (parties : Parties) (side : Side) (s : Meeting) : Prop :=
  ∀ treaty ∈ s.told side,
    (s.web side).Shows (parties.number side.other) treaty

def ProxyAgrees (parties : Parties) (side : Side) (s : Meeting) : Prop :=
  ∀ treaty ∈ s.told side,
    (s.proxy side).Shows (parties.number side.other) side treaty

end Meeting

-- ==== the conditions

namespace Treaty

/-- A clause takes the place of none. -/
def Adds (t : Treaty) (clause : Clause) : Prop :=
  ∀ old ∈ t.clauses, old ≠ clause →
    ¬ (clause.type.isPact = true ∧ old.type.isPact = true)
      ∧ ¬ (clause.type = .gold ∧ old.type = .gold
        ∧ old.giver = clause.giver)

instance (t : Treaty) (clause : Clause) : Decidable (t.Adds clause) :=
  inferInstanceAs (Decidable (∀ _ ∈ _, _))

/-- The first clause of its giver and type. -/
def First (t : Treaty) (clause : Clause) : Prop :=
  clause ∈ t.clauses →
    t.clauses.find? (fun c =>
      clause.giver == c.giver && clause.type == c.type) = some clause

instance (t : Treaty) (clause : Clause) : Decidable (t.First clause) :=
  inferInstanceAs (Decidable (_ → _))

end Treaty

namespace Parties

variable (parties : Parties) (t : Treaty) (side : Side)

/-- The web client follows a request: a clause that is added takes the
place of none, one that is removed is the first of its giver and type, and
a treaty that both accept has no lapsed clause. -/
def WebFollows : TreatyRequest → Prop
  | .createClause clause admits =>
    parties.Gives clause.giver → admits = true → t.Adds clause
  | .removeClause clause => t.First clause
  | .acceptTreaty _ promise =>
    t.accept side = false → t.accept side.other = true →
      (parties.firstUnkept t side promise).map promise ≠ some .lapsed
  | .cancelMeeting => True

/-- The proxy of `q` follows a request: a clause that is added takes the
place of none, none is removed, and `q` itself does not accept. -/
def ProxyFollows (q : Side) : TreatyRequest → Prop
  | .createClause clause admits =>
    parties.Gives clause.giver → admits = true → t.Adds clause
  | .removeClause clause =>
    parties.Gives clause.giver → clause ∉ t.clauses
  | .acceptTreaty keeps _ =>
    side = q → parties.keepsAll t side keeps = false
  | .cancelMeeting => True

instance : DecidablePred (parties.WebFollows t side)
  | .createClause _ _ => inferInstanceAs (Decidable (_ → _ → _))
  | .removeClause clause => inferInstanceAs (Decidable (t.First clause))
  | .acceptTreaty _ _ => inferInstanceAs (Decidable (_ → _ → _))
  | .cancelMeeting => instDecidableTrue

instance (q : Side) : DecidablePred (parties.ProxyFollows t side q)
  | .createClause _ _ => inferInstanceAs (Decidable (_ → _ → _))
  | .removeClause _ => inferInstanceAs (Decidable (_ → _))
  | .acceptTreaty _ _ => inferInstanceAs (Decidable (_ → _))
  | .cancelMeeting => instDecidableTrue

end Parties

namespace Meeting

variable (parties : Parties)

def WebFollows (s : Meeting) : MeetingAct → Prop
  | .request side request =>
    ∀ t ∈ s.treaty, parties.WebFollows t side request
  | .deliver _ => True

def ProxyFollows (q : Side) (s : Meeting) : MeetingAct → Prop
  | .request side request =>
    ∀ t ∈ s.treaty, parties.ProxyFollows t side q request
  | .deliver _ => True

instance (s : Meeting) : DecidablePred (s.WebFollows parties)
  | .request _ _ => inferInstanceAs (Decidable (∀ _ ∈ _, _))
  | .deliver _ => instDecidableTrue

instance (q : Side) (s : Meeting) : DecidablePred (s.ProxyFollows parties q)
  | .request _ _ => inferInstanceAs (Decidable (∀ _ ∈ _, _))
  | .deliver _ => instDecidableTrue

end Meeting

-- ==== the server

namespace Treaty

variable {t t' : Treaty} {clause : Clause}

theorem addToClauses_eq {l l' : List Clause}
    (h : ∀ old ∈ l, old ≠ clause →
      ¬ (clause.type.isPact = true ∧ old.type.isPact = true)
        ∧ ¬ (clause.type = .gold ∧ old.type = .gold
          ∧ old.giver = clause.giver))
    (hadd : addToClauses clause l = some l') : l' = l ++ [clause] := by
  induction l generalizing l' with
  | nil =>
    cases hadd
    rfl
  | cons old rest ih =>
    simp only [addToClauses] at hadd
    by_cases hold : old = clause
    · rw [if_pos hold] at hadd
      cases hadd
    · obtain ⟨hpact, hgold⟩ := h old List.mem_cons_self hold
      rw [if_neg hold, if_neg (by simpa using hpact),
        if_neg hgold] at hadd
      obtain ⟨tail, htail, rfl⟩ := Option.map_eq_some_iff.mp hadd
      rw [ih (fun c hc => h c (List.mem_cons_of_mem old hc)) htail,
        List.cons_append]

theorem addClause_eq {admits : Bool} (h : admits = true → t.Adds clause)
    (hadd : t.addClause admits clause = some t') :
    t' = { accept0 := false, accept1 := false
           clauses := t.clauses ++ [clause] } := by
  unfold addClause at hadd
  split at hadd
  case isTrue hadmits =>
    obtain ⟨clauses, hclauses, rfl⟩ := Option.map_eq_some_iff.mp hadd
    rw [addToClauses_eq (h hadmits) hclauses]
  case isFalse => cases hadd

theorem removeClause_eq (hremove : t.removeClause clause = some t') :
    clause ∈ t.clauses ∧ t' = { accept0 := false, accept1 := false
                                clauses := t.clauses.erase clause } := by
  unfold removeClause at hremove
  split at hremove
  case isTrue hmem =>
    cases hremove
    exact ⟨hmem, rfl⟩
  case isFalse => cases hremove

@[simp]
theorem clauses_toggleAccept (side : Side) :
    (t.toggleAccept side).clauses = t.clauses := by
  cases side <;> rfl

@[simp]
theorem accept_toggleAccept (side : Side) :
    (t.toggleAccept side).accept side = !t.accept side := by
  cases side <;> rfl

@[simp]
theorem accept_other_toggleAccept (side : Side) :
    (t.toggleAccept side).accept side.other = t.accept side.other := by
  cases side <;> rfl

theorem accept_and (side : Side) :
    (t.accept0 && t.accept1)
      = (t.accept side && t.accept side.other) := by
  cases side with
  | plr0 => rfl
  | plr1 => exact Bool.and_comm _ _

end Treaty

@[simp]
theorem Side.other_other (side : Side) : side.other.other = side := by
  cases side <;> rfl

theorem Side.eq_other_of_ne {q side : Side} (h : q ≠ side) :
    q = side.other := by
  cases q <;> cases side <;> first | rfl | exact absurd rfl h

namespace Parties

variable {parties : Parties} {t : Treaty}

theorem firstUnkept_toggleAccept (parties : Parties) (t : Treaty)
    (side : Side) (promise : Clause → Promise) :
    parties.firstUnkept (t.toggleAccept side) side promise
      = parties.firstUnkept t side promise := by
  unfold firstUnkept
  rw [Treaty.clauses_toggleAccept]

def acceptPacket (parties : Parties) (t : Treaty) (q : Side) :
    TreatyPacket :=
  .acceptTreaty (parties.number q.other) (t.accept q) (t.accept q.other)

/-- What a request can do to a treaty, and what each side is sent. -/
inductive Outcome (parties : Parties) (t : Treaty) (side : Side) :
    TreatyRequest → Option Treaty → (Side → List TreatyPacket) → Prop
  | nothing (request : TreatyRequest) :
      Outcome parties t side request (some t) fun _ => []
  | created {clause : Clause} {admits : Bool} {t' : Treaty}
      (hgives : parties.Gives clause.giver)
      (hadd : t.addClause admits clause = some t') :
      Outcome parties t side (.createClause clause admits) (some t')
        fun q => [.createClause (parties.number q.other) clause]
  | removed {clause : Clause} {t' : Treaty}
      (hgives : parties.Gives clause.giver)
      (hremove : t.removeClause clause = some t') :
      Outcome parties t side (.removeClause clause) (some t')
        fun q => [.removeClause (parties.number q.other) clause]
  | toggled {keeps : Clause → Bool} {promise : Clause → Promise}
      (hkeeps : t.accept side = true
        ∨ parties.keepsAll t side keeps = true)
      (hnot : ¬ (t.accept side = false ∧ t.accept side.other = true)) :
      Outcome parties t side (.acceptTreaty keeps promise)
        (some (t.toggleAccept side))
        fun q => [parties.acceptPacket (t.toggleAccept side) q]
  | agreed {keeps : Clause → Bool} {promise : Clause → Promise}
      (hkeeps : parties.keepsAll t side keeps = true)
      (hside : t.accept side = false)
      (hother : t.accept side.other = true) :
      Outcome parties t side (.acceptTreaty keeps promise)
        (if (parties.firstUnkept t side promise).map promise
            = some .lapsed then some (t.toggleAccept side) else none)
        fun q => [parties.acceptPacket (t.toggleAccept side) q,
          .cancelMeeting (parties.number q.other) (parties.number side)]
  | cancelled :
      Outcome parties t side .cancelMeeting none
        fun q => [.cancelMeeting (parties.number q.other)
          (parties.number side)]

theorem toSides {α : Type} (side q : Side) (f : Side → α) :
    (if q = side then f side else f side.other) = f q := by
  by_cases hq : q = side
  · rw [if_pos hq, hq]
  · rw [if_neg hq, Side.eq_other_of_ne hq]

theorem handle_outcome (parties : Parties) (t : Treaty) (side : Side)
    (request : TreatyRequest) :
    ∃ treaty packets, Outcome parties t side request treaty packets
      ∧ (parties.handle (some t) side request).treaty = treaty
      ∧ ∀ q, (if q = side then
            (parties.handle (some t) side request).toPlayer
          else (parties.handle (some t) side request).toOther)
        = packets q := by
  cases request with
  | createClause clause admits =>
    simp only [handle, handleCreateClauseReq]
    split
    case isTrue hgives =>
      cases hadd : t.addClause admits clause with
      | none =>
        exact ⟨_, _, .nothing _, rfl, fun q => ite_self _⟩
      | some t' =>
        refine ⟨_, _, .created hgives hadd, rfl, fun q => ?_⟩
        rw [← toSides side q fun q => [TreatyPacket.createClause
          (parties.number q.other) clause], Side.other_other]
    case isFalse =>
      exact ⟨_, _, .nothing _, rfl, fun q => ite_self _⟩
  | removeClause clause =>
    simp only [handle, handleRemoveClauseReq]
    split
    case isTrue hgives =>
      cases hremove : t.removeClause clause with
      | none =>
        exact ⟨_, _, .nothing _, rfl, fun q => ite_self _⟩
      | some t' =>
        refine ⟨_, _, .removed hgives hremove, rfl, fun q => ?_⟩
        rw [← toSides side q fun q => [TreatyPacket.removeClause
          (parties.number q.other) clause], Side.other_other]
    case isFalse =>
      exact ⟨_, _, .nothing _, rfl, fun q => ite_self _⟩
  | acceptTreaty keeps promise =>
    simp only [handle, handleAcceptTreatyReq]
    by_cases hrefused :
        (!t.accept side && !parties.keepsAll t side keeps) = true
    · rw [if_pos hrefused]
      exact ⟨_, _, .nothing _, rfl, fun q => ite_self _⟩
    · rw [if_neg hrefused, Treaty.accept_and side,
        Treaty.accept_toggleAccept, Treaty.accept_other_toggleAccept,
        firstUnkept_toggleAccept]
      by_cases hboth :
          t.accept side = false ∧ t.accept side.other = true
      · have hkeeps : parties.keepsAll t side keeps = true := by
          simpa [hboth.1] using hrefused
        simp only [hboth.1, hboth.2, Bool.not_false, Bool.and_self,
          if_true]
        refine ⟨_, _, .agreed hkeeps hboth.1 hboth.2, rfl,
          fun q => ?_⟩
        rw [← toSides side q fun q =>
          [parties.acceptPacket (t.toggleAccept side) q,
            .cancelMeeting (parties.number q.other)
              (parties.number side)]]
        simp [acceptPacket, hboth.1, hboth.2]
      · have hnot : ¬ (!t.accept side && t.accept side.other) = true := by
          simpa using hboth
        rw [if_neg hnot]
        refine ⟨_, _, .toggled ?_ hboth, rfl, fun q => ?_⟩
        · cases hside : t.accept side with
          | true => exact .inl rfl
          | false => exact .inr (by simpa [hside] using hrefused)
        · rw [← toSides side q fun q =>
            [parties.acceptPacket (t.toggleAccept side) q]]
          simp [acceptPacket]
  | cancelMeeting =>
    refine ⟨_, _, .cancelled, rfl, fun q => ?_⟩
    rw [← toSides side q fun q => [TreatyPacket.cancelMeeting
      (parties.number q.other) (parties.number side)],
      Side.other_other]
    rfl

end Parties

-- ==== the web client

namespace WebDiplomacy

variable {w : WebDiplomacy} {counterpart : Nat}

/-- The list of the web client is the server's, in its order. -/
def Tracks (counterpart : Nat) (w : WebDiplomacy) :
    Option Treaty → Prop
  | some t =>
    w.diplomacyClauseMap.get? counterpart
      = some (t.clauses.map fun clause => { counterpart, clause })
  | none =>
    w.diplomacyClauseMap.get? counterpart = some []
      ∧ counterpart ∉ w.dialogs

theorem Tracks.shows {treaty : Option Treaty}
    (h : w.Tracks counterpart treaty) : w.Shows counterpart treaty := by
  cases treaty with
  | none =>
    obtain ⟨hmap, hdialog⟩ := h
    refine ⟨fun clause => ?_, fun _ => hdialog⟩
    simp [hmap]
  | some t =>
    have hmap : w.diplomacyClauseMap.get? counterpart = _ := h
    refine ⟨fun clause => ?_, fun hnone => by cases hnone⟩
    simp [hmap, Function.comp_def]

theorem tracks_cancelMeeting :
    (w.cancelMeeting counterpart).Tracks counterpart none := by
  constructor
  · exact Dict.get?_set_self _ _ _
  · simp [cancelMeeting]

theorem tracks_initMeeting (initiator : Nat) :
    (w.receive (.initMeeting counterpart initiator)).Tracks counterpart
      (some initTreaty) :=
  Dict.get?_set_self _ _ _

theorem tracks_createClause {t : Treaty} {clause : Clause}
    (h : w.Tracks counterpart (some t)) :
    (w.receive (.createClause counterpart clause)).Tracks counterpart
      (some { accept0 := false, accept1 := false
              clauses := t.clauses ++ [clause] }) := by
  have hmap : w.diplomacyClauseMap.get? counterpart = _ := h
  show Dict.get? (Dict.set _ _ _) _ = _
  rw [Dict.get?_set_self, hmap]
  simp

theorem eraseP_matchesRemoved {clause : Clause} {l : List Clause}
    (hfirst : l.find? (fun c =>
      clause.giver == c.giver && clause.type == c.type) = some clause) :
    (l.map fun c => { counterpart, clause := c : WebClause }).eraseP
        (matchesRemoved counterpart clause)
      = (l.erase clause).map fun c => { counterpart, clause := c } := by
  induction l with
  | nil => cases hfirst
  | cons c rest ih =>
    rw [List.find?_cons] at hfirst
    rw [List.map_cons]
    by_cases hc : (clause.giver == c.giver && clause.type == c.type) = true
    · rw [hc] at hfirst
      cases hfirst
      rw [List.eraseP_cons_of_pos (by simp [matchesRemoved]),
        List.erase_cons_head]
    · have hne : ¬ c = clause := by
        rintro rfl
        simp at hc
      have hnot : matchesRemoved counterpart clause
          { counterpart, clause := c } ≠ true := by
        simpa [matchesRemoved] using hc
      rw [Bool.not_eq_true] at hc
      rw [hc] at hfirst
      rw [List.eraseP_cons_of_neg hnot, ih hfirst,
        List.erase_cons_tail (by simpa using hne), List.map_cons]

theorem tracks_removeClause {t : Treaty} {clause : Clause}
    (hfirst : t.First clause) (hmem : clause ∈ t.clauses)
    (h : w.Tracks counterpart (some t)) :
    (w.receive (.removeClause counterpart clause)).Tracks counterpart
      (some { accept0 := false, accept1 := false
              clauses := t.clauses.erase clause }) := by
  have hmap : w.diplomacyClauseMap.get? counterpart = _ := h
  simp only [receive, hmap]
  show Dict.get? (Dict.set _ _ _) _ = _
  rw [Dict.get?_set_self, eraseP_matchesRemoved (hfirst hmem)]

theorem receive_acceptTreaty (iAccepted otherAccepted : Bool) :
    w.receive (.acceptTreaty counterpart iAccepted otherAccepted)
      = if iAccepted && otherAccepted then w.cancelMeeting counterpart
        else w := by
  simp only [receive, TreatyPacket.bool?]
  cases iAccepted <;> cases otherAccepted <;> rfl

theorem inStep_outcome {parties : Parties} {t : Treaty} {side q : Side}
    {request : TreatyRequest} {treaty : Option Treaty}
    {packets : Side → List TreatyPacket}
    (hout : parties.Outcome t side request treaty packets)
    (hfollows : parties.WebFollows t side request)
    (h : w.Tracks (parties.number q.other) (some t)) :
    InStep receive (Tracks (parties.number q.other)) w
      ((packets q).map fun packet => (packet, treaty)) treaty := by
  cases hout with
  | nothing => exact h
  | created hgives hadd =>
    apply InStep.singleton
    rw [Treaty.addClause_eq (hfollows hgives) hadd]
    exact tracks_createClause h
  | removed hgives hremove =>
    obtain ⟨hmem, rfl⟩ := Treaty.removeClause_eq hremove
    exact InStep.singleton (tracks_removeClause hfollows hmem h)
  | toggled hkeeps hnot =>
    apply InStep.singleton
    have hsome : w.diplomacyClauseMap.get? (parties.number q.other)
        = _ := h
    have hboth : ((t.toggleAccept side).accept q
        && (t.toggleAccept side).accept q.other) = false := by
      rw [← Treaty.accept_and, Treaty.accept_and side,
        Treaty.accept_toggleAccept, Treaty.accept_other_toggleAccept]
      simpa using hnot
    rw [Parties.acceptPacket, receive_acceptTreaty, hboth]
    simpa [Tracks] using hsome
  | agreed hkeeps hside hother =>
    rw [if_neg (hfollows hside hother)]
    have hboth : ((t.toggleAccept side).accept q
        && (t.toggleAccept side).accept q.other) = true := by
      rw [← Treaty.accept_and, Treaty.accept_and side,
        Treaty.accept_toggleAccept, Treaty.accept_other_toggleAccept,
        hside, hother]
      rfl
    constructor
    · rw [Parties.acceptPacket, receive_acceptTreaty, hboth]
      exact tracks_cancelMeeting
    · exact InStep.singleton tracks_cancelMeeting
  | cancelled => exact InStep.singleton tracks_cancelMeeting

end WebDiplomacy

-- ==== the proxy

namespace ProxyDiplomacy

variable {p : ProxyDiplomacy} {counterpart : Nat}

/-- The proxy has the server's list, in its order, while its own side has
not accepted. -/
def Tracks (counterpart : Nat) (side : Side) (p : ProxyDiplomacy) :
    Option Treaty → Prop
  | some t =>
    t.accept side = false
      ∧ p.diplomacyMeetings.get? counterpart
        = some { clauses := t.clauses, acceptSelf := false
                 acceptOther := t.accept side.other }
  | none => p.diplomacyMeetings.get? counterpart = none

theorem Tracks.shows {side : Side} {treaty : Option Treaty}
    (h : p.Tracks counterpart side treaty) :
    p.Shows counterpart side treaty := by
  cases treaty with
  | none => exact h
  | some t =>
    obtain ⟨haccept, hget⟩ := h
    refine ⟨_, hget, fun clause => ?_, haccept.symm, rfl⟩
    simp

theorem tracks_cancelMeeting (side : Side) (initiator : Nat) :
    (p.receive (.cancelMeeting counterpart initiator)).Tracks counterpart
      side none :=
  Dict.get?_erase_self _ _

theorem tracks_initMeeting (side : Side) (initiator : Nat) :
    (p.receive (.initMeeting counterpart initiator)).Tracks counterpart
      side (some initTreaty) := by
  have hother : initTreaty.accept side.other = false := by
    cases side <;> rfl
  refine ⟨by cases side <;> rfl, ?_⟩
  show Dict.get? (Dict.set _ _ _) _ = _
  rw [Dict.get?_set_self, hother]
  rfl

theorem accept_fresh (clauses : List Clause) (side : Side) :
    Treaty.accept { accept0 := false, accept1 := false, clauses } side
      = false := by
  cases side <;> rfl

theorem tracks_createClause {side : Side} {t : Treaty} {clause : Clause}
    (h : p.Tracks counterpart side (some t)) :
    (p.receive (.createClause counterpart clause)).Tracks counterpart side
      (some { accept0 := false, accept1 := false
              clauses := t.clauses ++ [clause] }) := by
  obtain ⟨-, hget⟩ := h
  refine ⟨accept_fresh _ _, ?_⟩
  simp only [receive, hget]
  rw [Dict.get?_set_self, accept_fresh]

theorem get?_receive_acceptTreaty {meeting : ProxyMeeting}
    (hget : p.diplomacyMeetings.get? counterpart = some meeting)
    (iAccepted otherAccepted : Bool) :
    (p.receive (.acceptTreaty counterpart iAccepted
        otherAccepted)).diplomacyMeetings.get? counterpart
      = some { meeting with
          acceptSelf := false, acceptOther := otherAccepted } := by
  have hself : (TreatyPacket.acceptTreaty counterpart iAccepted
      otherAccepted).bool? "i_accepted" = none := by
    simp [TreatyPacket.bool?]
  have hother : (TreatyPacket.acceptTreaty counterpart iAccepted
      otherAccepted).bool? "other_accepted" = some otherAccepted := by
    simp [TreatyPacket.bool?]
  simp [receive, hget, hself, hother]

theorem inStep_outcome {parties : Parties} {t : Treaty} {side q : Side}
    {request : TreatyRequest} {treaty : Option Treaty}
    {packets : Side → List TreatyPacket}
    (hout : parties.Outcome t side request treaty packets)
    (hfollows : parties.ProxyFollows t side q request)
    (h : p.Tracks (parties.number q.other) q (some t)) :
    InStep receive (Tracks (parties.number q.other) q) p
      ((packets q).map fun packet => (packet, treaty)) treaty := by
  cases hout with
  | nothing => exact h
  | created hgives hadd =>
    apply InStep.singleton
    rw [Treaty.addClause_eq (hfollows hgives) hadd]
    exact tracks_createClause h
  | removed hgives hremove =>
    exact absurd (Treaty.removeClause_eq hremove).1 (hfollows hgives)
  | toggled hkeeps hnot =>
    apply InStep.singleton
    obtain ⟨haccept, hget⟩ := h
    have hne : q ≠ side := by
      rintro rfl
      rcases hkeeps with hside | hkeeps
      · rw [haccept] at hside
        cases hside
      · rw [hfollows rfl] at hkeeps
        cases hkeeps
    have hq : q = side.other := Side.eq_other_of_ne hne
    have hstill : (t.toggleAccept side).accept q = false := by
      rw [hq, Treaty.accept_other_toggleAccept, ← hq]
      exact haccept
    refine ⟨hstill, ?_⟩
    rw [Parties.acceptPacket, get?_receive_acceptTreaty hget,
      Treaty.clauses_toggleAccept]
  | agreed hkeeps hside hother =>
    obtain ⟨haccept, -⟩ := h
    by_cases hq : q = side
    · rw [hfollows hq.symm] at hkeeps
      cases hkeeps
    · rw [Side.eq_other_of_ne hq, hother] at haccept
      cases haccept
  | cancelled => exact InStep.singleton (tracks_cancelMeeting q _)

end ProxyDiplomacy

-- ==== the runs

namespace Meeting

variable {μ : Type} {receive : μ → TreatyPacket → μ}
  {Tracks : μ → Option Treaty → Prop} {parties : Parties} {q : Side}

/-- A picture of the side `q` agrees with what it was last told, and the
packets on their way bring it to the treaty as it is. -/
structure Abreast (receive : μ → TreatyPacket → μ)
    (Tracks : μ → Option Treaty → Prop) (q : Side) (m : μ) (s : Meeting) :
    Prop where
  told : ∀ treaty ∈ s.told q, Tracks m treaty
  queue : InStep receive Tracks m (s.queue q) s.treaty

theorem abreast_begun {initiator : Side} {m : μ} {s : Meeting}
    (h : s.Begun parties initiator)
    (hinit : ∀ n, Tracks
      (receive m (.initMeeting (parties.number q.other) n))
      (some initTreaty)) : Abreast receive Tracks q m s where
  told treaty ht := by
    rw [h.told q] at ht
    cases ht
  queue := by
    rw [h.queue q, h.treaty]
    exact InStep.singleton (hinit _)

theorem abreast_request {m : μ} {s : Meeting} {side : Side}
    {request : TreatyRequest} (h : Abreast receive Tracks q m s)
    (hsent : ∀ t ∈ s.treaty, ∀ treaty packets,
      parties.Outcome t side request treaty packets →
        ∀ m, Tracks m (some t) → InStep receive Tracks m
          ((packets q).map fun packet => (packet, treaty)) treaty) :
    Abreast receive Tracks q m (s.request parties side request) where
  told := h.told
  queue := by
    apply h.queue.append
    intro m hm
    show InStep receive Tracks m _
      (parties.handle s.treaty side request).treaty
    cases ht : s.treaty with
    | none =>
      rw [ht] at hm
      simpa [Parties.handle, InStep] using hm
    | some t =>
      obtain ⟨treaty, packets, hout, htreaty, hpackets⟩ :=
        parties.handle_outcome t side request
      rw [ht] at hm
      rw [hpackets q, htreaty]
      exact hsent t ht treaty packets hout m hm

/-- One delivery: the side it goes to takes the packet in, the other is
left alone. -/
theorem abreast_deliver (view : Meeting → μ) {s s' : Meeting}
    {side : Side} (h : Abreast receive Tracks q (view s) s)
    (hs : s.deliver side = some s')
    (hview : ∀ packet treaty rest, s.queue side = (packet, treaty) :: rest →
      view s' = if q = side then receive (view s) packet else view s) :
    Abreast receive Tracks q (view s') s' := by
  unfold deliver at hs
  split at hs
  · cases hs
  · rename_i packet treaty rest hqueue
    cases hs
    rw [hview packet treaty rest hqueue]
    by_cases hq : q = side
    · subst hq
      have hin := h.queue
      rw [hqueue] at hin
      rw [if_pos rfl]
      exact
        { told := by
            intro t ht
            simp only [if_true, Option.mem_some] at ht
            exact ht ▸ hin.1
          queue := by
            simp only [if_true]
            exact hin.2 }
    · simp only [if_neg hq]
      exact
        { told := by
            simp only [if_neg hq]
            exact h.told
          queue := by
            simp only [if_neg hq]
            exact h.queue }

theorem views_deliver {s s' : Meeting} {side : Side}
    (hs : s.deliver side = some s') {packet : TreatyPacket}
    {treaty : Option Treaty} {rest : List (TreatyPacket × Option Treaty)}
    (hqueue : s.queue side = (packet, treaty) :: rest) :
    s'.web q = (if q = side then (s.web q).receive packet else s.web q)
      ∧ s'.proxy q
        = if q = side then (s.proxy q).receive packet else s.proxy q := by
  simp only [deliver, hqueue] at hs
  cases hs
  exact ⟨rfl, rfl⟩

/-- The web client of a side, at any time of a run it follows. -/
def WebAbreast (parties : Parties) (q : Side) (s : Meeting) : Prop :=
  Abreast WebDiplomacy.receive
    (fun w t => w.Tracks (parties.number q.other) t) q (s.web q) s

/-- The proxy of a side, at any time of a run it follows. -/
def ProxyAbreast (parties : Parties) (q : Side) (s : Meeting) : Prop :=
  Abreast ProxyDiplomacy.receive
    (fun p t => p.Tracks (parties.number q.other) q t) q (s.proxy q) s

theorem webAbreast_act {s s' : Meeting} {a : MeetingAct}
    (h : s.WebAbreast parties q) (hfollows : s.WebFollows parties a)
    (hs : s.act parties a = some s') : s'.WebAbreast parties q := by
  cases a with
  | request side request =>
    cases hs
    exact abreast_request h fun t ht _ _ hout _ hm =>
      WebDiplomacy.inStep_outcome hout (hfollows t ht) hm
  | deliver side =>
    exact abreast_deliver (fun s => s.web q) h hs
      fun _ _ _ hqueue => (views_deliver hs hqueue).1

theorem proxyAbreast_act {s s' : Meeting} {a : MeetingAct}
    (h : s.ProxyAbreast parties q)
    (hfollows : s.ProxyFollows parties q a)
    (hs : s.act parties a = some s') : s'.ProxyAbreast parties q := by
  cases a with
  | request side request =>
    cases hs
    exact abreast_request h fun t ht _ _ hout _ hm =>
      ProxyDiplomacy.inStep_outcome hout (hfollows t ht) hm
  | deliver side =>
    exact abreast_deliver (fun s => s.proxy q) h hs
      fun _ _ _ hqueue => (views_deliver hs hqueue).2

/-- In every run of a meeting whose requests they follow the web client of
a side shows after each packet what the packet was sent about; and so does
its proxy in every run whose requests it follows. -/
theorem treaties_mirrored (parties : Parties) (initiator q : Side)
    (s : Meeting) (h : s.Begun parties initiator)
    (acts : List MeetingAct) :
    ((meetingRuns parties initiator).Along (WebFollows parties) s acts →
        (meetingRuns parties initiator).Always (WebAgrees parties q) s
          acts)
      ∧ ((meetingRuns parties initiator).Along (ProxyFollows parties q) s
          acts →
        (meetingRuns parties initiator).Always (ProxyAgrees parties q) s
          acts) := by
  constructor
  · intro hfollows
    have hbegun : s.WebAbreast parties q :=
      abreast_begun h fun n => WebDiplomacy.tracks_initMeeting n
    exact Lts.always_of_along (J := WebAbreast parties q)
      (fun s hs treaty ht => (hs.told treaty ht).shows)
      (fun s a s' hs hf hstep => webAbreast_act hs hf hstep) hbegun
      hfollows
  · intro hfollows
    have hbegun : s.ProxyAbreast parties q :=
      abreast_begun h fun n => ProxyDiplomacy.tracks_initMeeting q n
    exact Lts.always_of_along (J := ProxyAbreast parties q)
      (fun s hs treaty ht => (hs.told treaty ht).shows)
      (fun s a s' hs hf hstep => proxyAbreast_act hs hf hstep) hbegun
      hfollows

/-- A meeting that has just begun, of sides that have shown nothing
before. -/
def start (parties : Parties) (initiator : Side) : Meeting :=
  { treaty := some initTreaty
    queue := fun q =>
      [(.initMeeting (parties.number q.other) (parties.number initiator),
        some initTreaty)]
    web := fun _ => { diplomacyClauseMap := ∅, dialogs := [] }
    proxy := fun _ =>
      { diplomacyMeetings := ∅, visionSharedWith := [], proposed := [] }
    told := fun _ => none }

theorem begun_start (parties : Parties) (initiator : Side) :
    (start parties initiator).Begun parties initiator :=
  ⟨rfl, fun _ => rfl, fun _ => rfl⟩

/-- Gold for a technology, which the first side accepts; then the meeting
is cancelled. -/
def bargain : List MeetingAct :=
  [.request .plr0 (.createClause ⟨.gold, 1, 50⟩ true),
    .deliver .plr1, .deliver .plr1,
    .request .plr1 (.createClause ⟨.advance, 2, 7⟩ true),
    .request .plr0 (.acceptTreaty (fun _ => true) fun _ => .holds),
    .deliver .plr1, .deliver .plr1, .deliver .plr0,
    .request .plr1 .cancelMeeting,
    .deliver .plr1, .deliver .plr0]

theorem treaties_mirrored_bargain :
    (meetingRuns ⟨1, 2⟩ .plr0).Always (WebAgrees ⟨1, 2⟩ .plr1)
        (start ⟨1, 2⟩ .plr0) bargain
      ∧ (meetingRuns ⟨1, 2⟩ .plr0).Always (ProxyAgrees ⟨1, 2⟩ .plr1)
        (start ⟨1, 2⟩ .plr0) bargain :=
  ⟨(treaties_mirrored ⟨1, 2⟩ .plr0 .plr1 _ (begun_start _ _) bargain).1
      (by decide),
    (treaties_mirrored ⟨1, 2⟩ .plr0 .plr1 _ (begun_start _ _) bargain).2
      (by decide)⟩

/-- More gold in the place of less is shown by the web client beside it;
a clause that has been removed stays with the proxy, and so does an
acceptance that it has never heard of. -/
theorem treaties_not_mirrored :
    (¬ ∀ (parties : Parties) (initiator q : Side) (s : Meeting),
      s.Begun parties initiator → ∀ acts,
        (meetingRuns parties initiator).Always (WebAgrees parties q) s
          acts)
    ∧ (¬ ∀ (parties : Parties) (initiator q : Side) (s : Meeting),
      s.Begun parties initiator → ∀ acts,
        (meetingRuns parties initiator).Always (ProxyAgrees parties q) s
          acts)
    ∧ ¬ (meetingRuns ⟨1, 2⟩ .plr0).Always (ProxyAgrees ⟨1, 2⟩ .plr0)
        (start ⟨1, 2⟩ .plr0)
        [.request .plr0 (.acceptTreaty (fun _ => true) fun _ => .holds),
          .deliver .plr0, .deliver .plr0] := by
  refine ⟨fun hall => ?_, fun hall => ?_, fun hrun => ?_⟩
  · have hrun := hall ⟨1, 2⟩ .plr0 .plr1 _ (begun_start _ _)
      [.request .plr0 (.createClause ⟨.gold, 1, 10⟩ true),
        .request .plr0 (.createClause ⟨.gold, 1, 20⟩ true),
        .deliver .plr1, .deliver .plr1, .deliver .plr1]
    have hlast := hrun.2.2.2.2.2 _ rfl
    obtain ⟨t, ht, hmem⟩ :=
      (hlast.1 ⟨.gold, 1, 10⟩).mp (by decide)
    cases ht
    revert hmem
    decide
  · have hrun := hall ⟨1, 2⟩ .plr0 .plr1 _ (begun_start _ _)
      [.request .plr0 (.createClause ⟨.advance, 1, 5⟩ true),
        .request .plr0 (.removeClause ⟨.advance, 1, 5⟩),
        .deliver .plr1, .deliver .plr1, .deliver .plr1]
    obtain ⟨meeting, hmeeting, hsame, -⟩ := hrun.2.2.2.2.2 _ rfl
    cases hmeeting
    obtain ⟨t, ht, hmem⟩ := (hsame ⟨.advance, 1, 5⟩).mp (by decide)
    cases ht
    revert hmem
    decide
  · obtain ⟨meeting, hmeeting, -, haccept, -⟩ := hrun.2.2.2 _ rfl
    cases hmeeting
    revert haccept
    decide

end Meeting

end Freeciv3d.Server
