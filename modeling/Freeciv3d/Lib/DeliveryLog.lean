/-
A bounded log whose entries are handed out by reads, and the account of
what became of each entry. The log keeps the newest `cap` entries; a
read may carry the log away, may empty it, or both; other operations
may empty it too. Which of these a program's operations do is what a
model of the program decides.

# The account

The ledger keeps ghosts beside the log: all entries recorded, those
recorded since the last read, those the bound is allowed to cost (the
oldest of more than `cap` entries between two reads), and those reads
have returned. `Accounted` says every recorded entry is in exactly one
of: cost by the bound, returned, still logged.

`apply_accounted_iff` is the step: under the invariant, the account
stays balanced exactly when the operation is `Fair`.
-/
import Mathlib.Data.List.Basic
import Mathlib.Tactic.Common

namespace Lib

/-- A log and its account. -/
structure Ledger (ε : Type) where
  log : List ε
  recorded : List ε
  sinceRead : List ε
  overrun : List ε
  returned : List ε

inductive LogOp (ε : Type) where
  | record (e : ε)
  /-- No read: the log is emptied or not. -/
  | touch (drains : Bool)
  /-- A read: whether it empties the log, whether it returns it. -/
  | read (drains carries : Bool)

namespace Ledger

variable {ε : Type} {cap : Nat}

/-- The oldest entry of more than `cap` since the last read, when one
more is recorded. -/
def overflow (cap : Nat) (sinceRead : List ε) (e : ε) : List ε :=
  if cap ≤ sinceRead.length then
    ((sinceRead ++ [e]).drop (sinceRead.length - cap)).take 1
  else []

/-- One operation. -/
def apply (cap : Nat) (l : Ledger ε) : LogOp ε → Ledger ε
  | .record e =>
    { log := (l.log ++ [e]).drop (l.log.length + 1 - cap)
      recorded := l.recorded ++ [e]
      sinceRead := l.sinceRead ++ [e]
      overrun := l.overrun ++ overflow cap l.sinceRead e
      returned := l.returned }
  | .touch drains => { l with log := if drains then [] else l.log }
  | .read drains carries =>
    { l with
      log := if drains then [] else l.log
      sinceRead := []
      returned := l.returned ++ if carries then l.log else [] }

/-- Every recorded entry is cost by the bound, returned, or logged, and
only one of these. -/
def Accounted (l : Ledger ε) : Prop :=
  l.recorded.Perm (l.overrun ++ l.returned ++ l.log)

/-- What the program's operations keep whatever they do, plus the lower
bound on the log that fair operations keep. -/
structure Inv (cap : Nat) (l : Ledger ε) : Prop where
  log_suffix : l.log <:+ l.recorded
  since_suffix : l.sinceRead <:+ l.recorded
  length_le : l.log.length ≤ cap
  since_le : min cap l.sinceRead.length ≤ l.log.length

/-- The operations that keep the account: a full log is only recorded
to when the bound has been reached since the last read; a log with
entries is not emptied except by the read that returns it, and not
returned except when it is emptied. -/
def Fair (cap : Nat) (l : Ledger ε) : LogOp ε → Prop
  | .record _ => l.log.length < cap ∨ cap ≤ l.sinceRead.length
  | .touch drains => drains = true → l.log = []
  | .read drains carries => drains = carries ∨ l.log = []

-- ==== recording

theorem record_log_room {l : List ε} (e : ε) (h : l.length < cap) :
    (l ++ [e]).drop (l.length + 1 - cap) = l ++ [e] := by
  rw [show l.length + 1 - cap = 0 by omega, List.drop_zero]

theorem record_log_full {l : List ε} (e : ε) (h0 : 0 < cap)
    (h : l.length = cap) :
    ∃ x rest, l = x :: rest
      ∧ (l ++ [e]).drop (l.length + 1 - cap) = rest ++ [e] := by
  cases l with
  | nil => simp only [List.length_nil] at h; omega
  | cons x rest =>
    refine ⟨x, rest, rfl, ?_⟩
    rw [show (x :: rest).length + 1 - cap = 1 by omega]
    rfl

/-- With the bound reached since the last read, the log is the newest
part of what was recorded since. -/
theorem log_eq_drop {l : Ledger ε} (hI : Inv cap l)
    (h : cap ≤ l.sinceRead.length) :
    l.log = l.sinceRead.drop (l.sinceRead.length - cap) := by
  have hlen : l.log.length = cap := by
    have := hI.since_le
    have := hI.length_le
    omega
  have hsuf : l.log <:+ l.sinceRead := by
    refine List.suffix_of_suffix_length_le hI.log_suffix hI.since_suffix ?_
    omega
  have := List.suffix_iff_eq_drop.mp hsuf
  rwa [hlen] at this

/-- Then the entry a recording costs is the one the bound allows. -/
theorem overflow_eq_head {l : Ledger ε} (hI : Inv cap l) (e x : ε)
    (rest : List ε) (hlog : l.log = x :: rest)
    (h : cap ≤ l.sinceRead.length) :
    overflow cap l.sinceRead e = [x] := by
  have hdrop := log_eq_drop hI h
  rw [overflow, if_pos h, List.drop_append_of_le_length (by omega),
    ← hdrop, hlog]
  rfl

/-- No cost while the bound is not reached. -/
theorem overflow_eq_nil {l : List ε} (e : ε) (h : l.length < cap) :
    overflow cap l e = [] := by
  rw [overflow, if_neg (by omega)]

-- ==== the step

theorem Accounted.length_eq {l : Ledger ε} (h : Accounted l) :
    l.recorded.length
      = l.overrun.length + l.returned.length + l.log.length := by
  have := List.Perm.length_eq h
  simpa only [List.length_append] using this

theorem record_accounted {l : Ledger ε} (h0 : 0 < cap) (hI : Inv cap l)
    (hA : Accounted l) (e : ε) (hF : Fair cap l (.record e)) :
    Accounted (l.apply cap (.record e)) := by
  show (l.recorded ++ [e]).Perm (l.overrun ++ overflow cap l.sinceRead e
    ++ l.returned ++ (l.log ++ [e]).drop (l.log.length + 1 - cap))
  rcases Nat.lt_or_ge l.log.length cap with hroom | hfull
  · -- room in the log: then the bound is not reached since the last read
    have hsince : l.sinceRead.length < cap := by
      have := hI.since_le
      omega
    rw [record_log_room e hroom, overflow_eq_nil e hsince, List.append_nil,
      ← List.append_assoc]
    exact List.Perm.append_right [e] hA
  · have hlen : l.log.length = cap := Nat.le_antisymm hI.length_le hfull
    have hsince : cap ≤ l.sinceRead.length := by
      rcases hF with h | h
      · omega
      · exact h
    obtain ⟨x, rest, hlog, hrest⟩ := record_log_full e h0 hlen
    rw [hrest, overflow_eq_head hI e x rest hlog hsince]
    -- the oldest logged entry moves to what the bound cost
    have hA' : l.recorded.Perm
        (l.overrun ++ [x] ++ l.returned ++ rest) := by
      refine List.Perm.trans hA ?_
      rw [hlog]
      simp only [List.append_assoc, List.singleton_append]
      exact List.Perm.append_left _ List.perm_middle
    rw [← List.append_assoc]
    exact List.Perm.append_right [e] hA'

/-- Recording to a log left full by the last read loses an entry that
is not accounted for. -/
theorem not_record_accounted {l : Ledger ε} (hA : Accounted l) (e : ε)
    (hlog : cap ≤ l.log.length) (hsince : l.sinceRead.length < cap) :
    ¬ Accounted (l.apply cap (.record e)) := by
  intro h
  have hlen := h.length_eq
  have hold := hA.length_eq
  have hnil := overflow_eq_nil e hsince
  simp only [apply, hnil, List.append_nil, List.length_append,
    List.length_drop, List.length_singleton] at hlen
  omega

/-- One operation keeps the account exactly when it is fair. -/
theorem apply_accounted_iff {l : Ledger ε} (h0 : 0 < cap)
    (hI : Inv cap l) (hA : Accounted l) (op : LogOp ε) :
    Accounted (l.apply cap op) ↔ Fair cap l op := by
  have hold := hA.length_eq
  cases op with
  | record e =>
    refine ⟨fun h => ?_, record_accounted h0 hI hA e⟩
    by_contra hF
    simp only [Fair, not_or, Nat.not_lt, Nat.not_le] at hF
    exact not_record_accounted hA e hF.1 hF.2 h
  | touch drains =>
    cases drains with
    | false => exact ⟨fun _ => Bool.noConfusion, fun _ => hA⟩
    | true =>
      constructor
      · intro h _
        have hlen := h.length_eq
        simp only [apply, if_true, List.length_nil] at hlen
        exact List.eq_nil_of_length_eq_zero (by omega)
      · intro h
        have hnil := h rfl
        show l.recorded.Perm (l.overrun ++ l.returned ++ [])
        rw [← hnil]
        exact hA
  | read drains carries =>
    constructor
    · intro h
      have hlen := h.length_eq
      rcases eq_or_ne drains carries with heq | hne
      · exact Or.inl heq
      · refine Or.inr (List.eq_nil_of_length_eq_zero ?_)
        cases drains <;> cases carries <;>
          simp only [apply, ne_eq, reduceCtorEq, not_true, not_false_eq_true,
            Bool.false_eq_true, if_true, if_false, List.length_append,
            List.length_nil] at hlen hne <;>
          omega
    · intro h
      show l.recorded.Perm (l.overrun
        ++ (l.returned ++ if carries then l.log else [])
        ++ if drains then [] else l.log)
      rcases h with rfl | hnil
      · cases drains with
        | true =>
          simp only [if_true, List.append_nil, ← List.append_assoc]
          exact hA
        | false =>
          simp only [Bool.false_eq_true, if_false, List.append_nil]
          exact hA
      · rw [hnil, ite_self, ite_self, List.append_nil, List.append_nil]
        have hA' : l.recorded.Perm (l.overrun ++ l.returned ++ l.log) := hA
        rwa [hnil, List.append_nil] at hA'

theorem suffix_snoc {l r : List ε} (h : l <:+ r) (e : ε) :
    l ++ [e] <:+ r ++ [e] := by
  obtain ⟨t, rfl⟩ := h
  exact ⟨t, (List.append_assoc t l [e]).symm⟩

/-- A fair operation keeps the invariant. -/
theorem apply_inv {l : Ledger ε} (h0 : 0 < cap) (hI : Inv cap l)
    (op : LogOp ε) (hF : Fair cap l op) : Inv cap (l.apply cap op) := by
  cases op with
  | record e =>
    have hlog := hI.length_le
    have hsince := hI.since_le
    refine ⟨?_, ?_, ?_, ?_⟩
    · exact (List.drop_suffix _ _).trans (suffix_snoc hI.log_suffix e)
    · exact suffix_snoc hI.since_suffix e
    · show ((l.log ++ [e]).drop _).length ≤ cap
      rw [List.length_drop, List.length_append, List.length_singleton]
      omega
    · show min cap (l.sinceRead ++ [e]).length
        ≤ ((l.log ++ [e]).drop _).length
      rw [List.length_drop, List.length_append, List.length_append,
        List.length_singleton]
      omega
  | touch drains =>
    have hlog : (l.apply cap (.touch drains)).log = l.log := by
      show (if drains then [] else l.log) = l.log
      split
      next h => exact (hF h).symm
      next => rfl
    exact ⟨hlog ▸ hI.log_suffix, hI.since_suffix, hlog ▸ hI.length_le,
      hlog ▸ hI.since_le⟩
  | read drains carries =>
    refine ⟨?_, List.nil_suffix, ?_, ?_⟩
    · show (if drains then [] else l.log) <:+ l.recorded
      split
      · exact List.nil_suffix
      · exact hI.log_suffix
    · show (if drains then [] else l.log).length ≤ cap
      split
      · exact Nat.zero_le _
      · exact hI.length_le
    · show min cap 0 ≤ _
      omega

end Ledger

end Lib
