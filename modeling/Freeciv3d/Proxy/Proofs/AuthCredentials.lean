/-
The credentials of `SimpleAuthenticator`: its keys say what was signed,
and the sessions of a player stay within their maximum until one is
created in an instant in which others expire.

# The instant of expiry

A session that expires now is valid and does not count. When a player
with the maximum of valid sessions has such a one, the next session is
let in beside it. Before and after that instant the two comparisons
agree, so the bound holds along a run exactly if no session is created
in that state (`LeavesRoom`).
-/
import Freeciv3d.Proxy.Proofs.ApiKeys

namespace Freeciv3d.Proxy

open Lib

namespace AuthSessions

variable {l : AuthLimits} {a : AuthSessions} {p q : Int} {now : Rat}
  {issued : List String}

def isValid (p : Int) (now : Rat) (s : AuthSession) : Bool :=
  ofPlayer p s && decide (now ≤ s.expiresAt)

def isExpiring (p : Int) (now : Rat) (s : AuthSession) : Bool :=
  ofPlayer p s && decide (s.expiresAt = now)

def expiringSessions (a : AuthSessions) (p : Int) (now : Rat) : Nat :=
  a.activeSessions.countVals (isExpiring p now)

/-- A session is stored under its id, which was drawn. -/
def Filed (a : AuthSessions) (issued : List String) : Prop :=
  ∀ k s, a.activeSessions.get? k = some s →
    s.sessionId = k ∧ k ≠ "" ∧ k ∈ issued

-- ==== the counts

theorem validSessions_eq (h : a.Filed issued) :
    a.validSessions p now = a.activeSessions.countVals (isValid p now) := by
  unfold validSessions Dict.countVals Dict.values
  rw [List.countP_map]
  refine List.countP_congr fun e he => ?_
  have hget := Dict.mem_entries_iff.mp he
  have hne := (h e.1 e.2 hget).2.1
  have hvalid : (a.validateSession e.1 now).1.isSome
      = decide (now ≤ e.2.expiresAt) := by
    unfold validateSession SimpleAuthenticator.validateSession
    rw [if_neg hne, hget]
    dsimp only
    by_cases hexp : e.2.expiresAt < now
    · rw [if_pos hexp]
      simp [hexp]
    · rw [if_neg hexp]
      simp [not_lt.mp hexp]
  rw [hvalid]
  rfl

theorem countVals_isValid (a : AuthSessions) (p : Int) (now : Rat) :
    a.activeSessions.countVals (isValid p now)
      = (a.playerSessions p now).length + a.expiringSessions p now := by
  unfold playerSessions expiringSessions Dict.countVals
  rw [← List.countP_eq_length_filter]
  generalize a.activeSessions.values = l
  induction l with
  | nil => rfl
  | cons s l ih =>
    have hone : (if isValid p now s then 1 else 0)
        = (if (ofPlayer p s && decide (now < s.expiresAt)) = true
            then 1 else 0)
          + (if isExpiring p now s then 1 else 0) := by
      unfold isValid isExpiring
      rcases lt_trichotomy now s.expiresAt with hlt | heq | hgt
      · simp [hlt, hlt.le, hlt.ne']
      · simp [heq]
      · simp [hgt.not_ge, hgt.not_gt, hgt.ne]
    simp only [List.countP_cons, ih, hone]
    omega

-- ==== the calls that take away

theorem Filed.of_get? {b : AuthSessions} {issued' : List String}
    (h : a.Filed issued)
    (hget : ∀ k s, b.activeSessions.get? k = some s →
      a.activeSessions.get? k = some s)
    (hsub : issued ⊆ issued') : b.Filed issued' := by
  intro k s hs
  obtain ⟨hid, hne, hissued⟩ := h k s (hget k s hs)
  exact ⟨hid, hne, hsub hissued⟩

theorem Filed.filter (h : a.Filed issued) (f : AuthSession → Bool)
    (t : Rat) :
    Filed { a with
      activeSessions := a.activeSessions.filter fun _ s => f s
      lastCleanup := t } issued := by
  refine h.of_get? (fun k s hs => ?_) (List.Subset.refl _)
  rw [Dict.get?_filter, Option.filter_eq_some_iff] at hs
  exact hs.1

theorem Filed.erase (h : a.Filed issued) (k : String) :
    Filed { a with activeSessions := a.activeSessions.erase k } issued := by
  refine h.of_get? (fun k' s hs => ?_) (List.Subset.refl _)
  rw [Dict.get?_erase] at hs
  split at hs
  · cases hs
  · exact hs

theorem countVals_erase_le (d : Dict String AuthSession) (k : String)
    (f : AuthSession → Bool) : (d.erase k).countVals f ≤ d.countVals f := by
  have hsub : (d.erase k).entries.Sublist d.entries := List.filter_sublist
  exact (hsub.map Prod.snd).countP_le

theorem countVals_cleanup {f : AuthSession → Bool}
    (hf : ∀ s, f s = true → now ≤ s.expiresAt) :
    (a.cleanupExpiredSessions now).activeSessions.countVals f
      = a.activeSessions.countVals f := by
  unfold cleanupExpiredSessions
  split
  · rfl
  · dsimp only
    rw [Dict.countVals_filter]
    refine Dict.countVals_congr _ fun s _ => ?_
    cases hfs : f s with
    | false => rfl
    | true => simp [hf s hfs]

theorem Filed.cleanup (h : a.Filed issued) (now : Rat) :
    (a.cleanupExpiredSessions now).Filed issued := by
  unfold cleanupExpiredSessions
  split
  · exact h
  · exact h.filter (fun s => !decide (s.expiresAt < now)) now

theorem le_of_isValid {s : AuthSession} (h : isValid p now s = true) :
    now ≤ s.expiresAt := by
  unfold isValid at h
  rw [Bool.and_eq_true, decide_eq_true_eq] at h
  exact h.2

-- ==== a new session

theorem Filed.addSession (h : a.Filed issued) (g : GameId)
    (perms : Option (List String)) {sid : String} (hne : sid ≠ "") :
    (a.addSession l p g perms sid now).Filed (sid :: issued) := by
  intro k s hs
  unfold AuthSessions.addSession at hs
  rw [Dict.get?_set] at hs
  split at hs
  next heq =>
    cases hs
    exact ⟨heq.symm, heq ▸ hne, heq ▸ List.mem_cons_self⟩
  next =>
    obtain ⟨hid, hk, hissued⟩ := h k s hs
    exact ⟨hid, hk, List.mem_cons_of_mem _ hissued⟩

/-- One valid session more for the player, unless it has expired
already. -/
theorem countVals_addSession (h : a.Filed issued) (g : GameId)
    (perms : Option (List String)) {sid : String} (hnew : sid ∉ issued) :
    (a.addSession l p g perms sid now).activeSessions.countVals
        (isValid q now)
      = a.activeSessions.countVals (isValid q now)
        + if p = q ∧ 0 ≤ l.sessionTimeout then 1 else 0 := by
  have hfree : a.activeSessions.contains sid = false := by
    rw [← Bool.not_eq_true]
    intro hc
    obtain ⟨s, hs⟩ := Dict.contains_iff.mp hc
    exact hnew (h sid s hs).2.2
  unfold AuthSessions.addSession
  rw [Dict.countVals_set_of_new hfree]
  congr 1
  unfold isValid ofPlayer
  have hcast : (0 : Rat) ≤ (l.sessionTimeout : Rat)
      ↔ 0 ≤ l.sessionTimeout := Int.cast_nonneg_iff
  simp [hcast]

theorem countVals_removeOldest (h : a.Filed issued) {b : AuthSessions}
    (hb : a.removeOldest (a.playerSessions p now) = some b) :
    b.Filed issued
      ∧ b.activeSessions.countVals (isValid p now) + 1
        = a.activeSessions.countVals (isValid p now)
      ∧ b.activeSessions.countVals (isValid q now)
        ≤ a.activeSessions.countVals (isValid q now) := by
  obtain ⟨oldest, hold, rfl⟩ := Option.map_eq_some_iff.mp hb
  have hmem := List.argmin_mem hold
  unfold playerSessions at hmem
  rw [List.mem_filter, Dict.mem_values_iff] at hmem
  obtain ⟨⟨k, hk⟩, hcounts⟩ := hmem
  rw [Bool.and_eq_true, decide_eq_true_eq] at hcounts
  have hkey := (h k oldest hk).1
  refine ⟨h.erase _, ?_, countVals_erase_le _ _ _⟩
  have hcount := Dict.countVals_erase (hkey ▸ hk) (isValid p now)
  have hvalid : isValid p now oldest = true := by
    unfold isValid
    rw [hcounts.1]
    simp [hcounts.2.le]
  rw [if_pos hvalid] at hcount
  exact hcount

/-- What a new session makes of the number of valid ones: as many at
most when the maximum counts, else one more, unless it has expired. -/
theorem createSession_cases (h : a.Filed issued) (g : GameId)
    (perms : Option (List String)) {sid : String} (hne : sid ≠ "")
    (hnew : sid ∉ issued) (now : Rat) :
    let b := (a.createSession l p g perms sid now).1
    b.Filed (sid :: issued)
      ∧ (∀ q ≠ p, b.activeSessions.countVals (isValid q now)
          ≤ a.activeSessions.countVals (isValid q now))
      ∧ (l.maxSessionsPerPlayer ≤ (a.playerSessions p now).length →
          b.activeSessions.countVals (isValid p now)
            ≤ a.activeSessions.countVals (isValid p now))
      ∧ (¬ l.maxSessionsPerPlayer ≤ (a.playerSessions p now).length →
          b.activeSessions.countVals (isValid p now)
            = a.activeSessions.countVals (isValid p now)
              + if 0 ≤ l.sessionTimeout then 1 else 0) := by
  have hvalid : ∀ q, (a.cleanupExpiredSessions now).activeSessions.countVals
      (isValid q now) = a.activeSessions.countVals (isValid q now) :=
    fun q => countVals_cleanup fun s => le_of_isValid
  have hcounted : ((a.cleanupExpiredSessions now).playerSessions p
      now).length = (a.playerSessions p now).length := by
    unfold playerSessions
    rw [← List.countP_eq_length_filter, ← List.countP_eq_length_filter]
    refine countVals_cleanup fun s hs => ?_
    rw [Bool.and_eq_true, decide_eq_true_eq] at hs
    exact hs.2.le
  have hfiled := h.cleanup now
  simp only [← hvalid, ← hcounted]
  unfold createSession
  dsimp only
  generalize a.cleanupExpiredSessions now = c at hfiled
  split
  case isTrue hfull =>
    cases hrem : c.removeOldest (c.playerSessions p now) with
    | none =>
      refine ⟨?_, fun _ _ => Nat.le_refl _, fun _ => Nat.le_refl _,
        fun hn => absurd hfull hn⟩
      exact hfiled.of_get? (fun _ _ => id) (List.subset_cons_self _ _)
    | some b =>
      obtain ⟨hb, hone, -⟩ := countVals_removeOldest (q := p) hfiled hrem
      refine ⟨hb.addSession g perms hne, fun q hq => ?_, fun _ => ?_,
        fun hn => absurd hfull hn⟩
      · rw [countVals_addSession hb g perms hnew, if_neg fun hpq =>
          hq hpq.1.symm]
        exact (countVals_removeOldest (q := q) hfiled hrem).2.2
      · rw [countVals_addSession hb g perms hnew]
        split <;> omega
  case isFalse hroom =>
    refine ⟨hfiled.addSession g perms hne, fun q hq => ?_,
      fun hfull => absurd hfull hroom, fun _ => ?_⟩
    · rw [countVals_addSession hfiled g perms hnew, if_neg fun hpq =>
        hq hpq.1.symm]
      exact Nat.le_refl _
    · rw [countVals_addSession hfiled g perms hnew]
      simp

theorem validateSession_cases (a : AuthSessions) (sid : String)
    (now : Rat) :
    (a.validateSession sid now).2 = a
      ∨ (a.validateSession sid now).2
        = { a with activeSessions := a.activeSessions.erase sid } := by
  unfold validateSession SimpleAuthenticator.validateSession
  split
  · exact .inl rfl
  · split
    · exact .inl rfl
    · split
      · exact .inr rfl
      · exact .inl rfl

theorem revokeSession_cases (a : AuthSessions) (sid : String) :
    (a.revokeSession sid).1 = a
      ∨ (a.revokeSession sid).1
        = { a with activeSessions := a.activeSessions.erase sid } := by
  unfold revokeSession
  split
  · exact .inr rfl
  · exact .inl rfl

end AuthSessions

-- ==== the runs

namespace AuthRun

open AuthSessions (isValid)

variable {l : AuthLimits} {s s' : AuthRun} {act : AuthAct}

/-- No more sessions of a player validate than the maximum. -/
def Bounded (l : AuthLimits) (s : AuthRun) : Prop :=
  ∀ p, (s.sessions.validSessions p s.now : Int)
    ≤ max 0 l.maxSessionsPerPlayer

/-- A session that is let in beside those that count has room beside
those that expire now, too. -/
def LeavesRoom (l : AuthLimits) (s : AuthRun) : AuthAct → Prop
  | .create p _ _ _ =>
    0 ≤ l.sessionTimeout →
      ((s.sessions.playerSessions p s.now).length : Int)
        < l.maxSessionsPerPlayer →
      ((s.sessions.playerSessions p s.now).length : Int)
        + s.sessions.expiringSessions p s.now < l.maxSessionsPerPlayer
  | _ => True

instance (l : AuthLimits) (s : AuthRun) (act : AuthAct) :
    Decidable (LeavesRoom l s act) := by
  unfold LeavesRoom
  split <;> infer_instance

def Filed (s : AuthRun) : Prop := s.sessions.Filed s.issued

theorem bounded_iff (h : s.Filed) :
    Bounded l s ↔ ∀ p,
      (s.sessions.activeSessions.countVals (isValid p s.now) : Int)
        ≤ max 0 l.maxSessionsPerPlayer := by
  unfold Bounded
  simp only [AuthSessions.validSessions_eq h]

theorem Bounded.of_le (hb : Bounded l s) (h : s.Filed) (h' : s'.Filed)
    (hle : ∀ p, s'.sessions.activeSessions.countVals (isValid p s'.now)
      ≤ s.sessions.activeSessions.countVals (isValid p s.now)) :
    Bounded l s' := by
  rw [bounded_iff h'] at *
  rw [bounded_iff h] at hb
  intro p
  have hp := hb p
  have hlep := hle p
  omega

theorem create_step_iff (hb : Bounded l s) (h : s.Filed) {p : Int}
    {g : GameId} {perms : Option (List String)} {sid : String}
    (hstep : (authRuns l).step s (.create p g perms sid) = some s') :
    s'.Filed ∧ (Bounded l s' ↔ LeavesRoom l s (.create p g perms sid)) := by
  simp only [authRuns] at hstep
  split at hstep
  case isTrue => cases hstep
  case isFalse hfresh =>
    cases hstep
    rw [not_or] at hfresh
    obtain ⟨hfiled, hothers, hfull, hroom⟩ :=
      AuthSessions.createSession_cases (l := l) (p := p) h g perms
        hfresh.1 hfresh.2 s.now
    refine ⟨hfiled, ?_⟩
    have hnext : Filed { s with
        sessions := (s.sessions.createSession l p g perms sid s.now).1
        issued := sid :: s.issued } := hfiled
    rw [bounded_iff hnext]
    rw [bounded_iff h] at hb
    have hsplit := AuthSessions.countVals_isValid s.sessions p s.now
    have hp := hb p
    unfold LeavesRoom
    dsimp only
    constructor
    · intro hall htime hlt
      have hcount := hroom (by omega)
      have hp' := hall p
      rw [hcount, if_pos htime] at hp'
      omega
    · intro hcond q
      by_cases hq : q = p
      · subst hq
        by_cases hle : l.maxSessionsPerPlayer
            ≤ (s.sessions.playerSessions q s.now).length
        · have hcount := hfull hle
          omega
        · have hcount := hroom hle
          rw [hcount]
          by_cases htime : 0 ≤ l.sessionTimeout
          · have hlt := hcond htime (by omega)
            rw [if_pos htime]
            omega
          · rw [if_neg htime]
            omega
      · have hcount := hothers q hq
        have hq' := hb q
        omega

theorem step_iff (hb : Bounded l s) (h : s.Filed)
    (hstep : (authRuns l).step s act = some s') :
    s'.Filed ∧ (Bounded l s' ↔ LeavesRoom l s act) := by
  cases act with
  | create p g perms sid => exact create_step_iff hb h hstep
  | tick d =>
    simp only [authRuns] at hstep
    split at hstep
    case isFalse => cases hstep
    case isTrue hd =>
      cases hstep
      refine ⟨h, iff_of_true (hb.of_le h h fun p => ?_) trivial⟩
      refine List.countP_mono_left fun u _ hu => ?_
      unfold isValid at hu ⊢
      rw [Bool.and_eq_true, decide_eq_true_eq] at hu ⊢
      exact ⟨hu.1, le_trans (le_add_of_nonneg_right hd) hu.2⟩
  | validate sid =>
    cases hstep
    rcases s.sessions.validateSession_cases sid s.now with heq | heq <;>
      simp only [Filed, heq]
    · exact ⟨h, iff_of_true (hb.of_le h h fun _ => Nat.le_refl _) trivial⟩
    · have h' := h.erase sid
      exact ⟨h', iff_of_true (hb.of_le h h' fun _ =>
        AuthSessions.countVals_erase_le _ _ _) trivial⟩
  | revoke sid =>
    cases hstep
    rcases s.sessions.revokeSession_cases sid with heq | heq <;>
      simp only [Filed, heq]
    · exact ⟨h, iff_of_true (hb.of_le h h fun _ => Nat.le_refl _) trivial⟩
    · have h' := h.erase sid
      exact ⟨h', iff_of_true (hb.of_le h h' fun _ =>
        AuthSessions.countVals_erase_le _ _ _) trivial⟩
  | revokeAll p =>
    cases hstep
    have h' := h.filter (fun u => !AuthSessions.ofPlayer p u)
      s.sessions.lastCleanup
    refine ⟨h', iff_of_true (hb.of_le h h' fun q => ?_) trivial⟩
    dsimp only [AuthSessions.revokeAllSessions]
    rw [Dict.countVals_filter]
    refine List.countP_mono_left fun u _ hu => ?_
    rw [Bool.and_eq_true] at hu
    exact hu.1

theorem bounded_iff_leavesRoom (h0 : (authRuns l).init s)
    (acts : List AuthAct) :
    (authRuns l).Always (Bounded l) s acts
      ↔ (authRuns l).Along (LeavesRoom l) s acts := by
  obtain ⟨hempty, -, -⟩ := h0
  have hfiled : s.Filed := by
    intro k u hu
    rw [hempty] at hu
    cases hu
  refine Lts.always_iff_along_of (J := Filed)
    (fun s a s' hb h hstep => (step_iff hb h hstep).2)
    (fun s a s' hb h _ hstep => (step_iff hb h hstep).1) ?_ hfiled acts
  rw [bounded_iff hfiled, hempty]
  exact fun p => le_max_left _ _

end AuthRun

-- ==== the main result

theorem knowsDigits_ascii : PyStr.CharTables.ascii.KnowsDigits := by
  intro c hc
  simp [PyStr.CharTables.ascii, hc]

open SimpleAuthenticator (signature signedKey RoundTrips WithinMaxAge
  IsClockTime) in
/-- A key is read back if its player id has a text; a key that is
accepted was signed, and when no other text has the signature of one
that was issued, a key that ends in an issued signature is the issued
key; and the sessions of a player stay within their maximum along a run
exactly if every new one has room. -/
theorem api_credentials_sound {env : Env} (hhex : env.SignsInHex)
    (hchars : env.chars.KnowsDigits) {a : SimpleAuthenticator}
    {secret : String} (hsecret : a.apiKeySecret = some secret) :
    (∀ (p : Int) (value : String) (g : GameId) (t t' : Rat), 0 ≤ p →
        InputSanitizer.sanitizeGameId env.chars value = .ok g →
        IsClockTime t → WithinMaxAge env t t' →
        (RoundTrips env a p g t t' ↔ p < 10 ^ PyStr.maxStrDigits))
    ∧ (∀ (key : String) (now : Rat) (caller : Int × GameId),
        a.validateApiKey env key now = .ok (some caller) →
        (∃ payload, key = signedKey env secret payload)
        ∧ ∀ issued : Set String,
            (∀ payload₀ ∈ issued, ∀ payload, signature env secret payload
              = signature env secret payload₀ → payload = payload₀) →
            (∃ text, ∃ payload₀ ∈ issued, key
              = text ++ String.singleton '_'
                ++ signature env secret payload₀) →
            ∃ payload₀ ∈ issued, key = signedKey env secret payload₀)
    ∧ ∀ (l : AuthLimits) (s : AuthRun) (acts : List AuthAct),
        (authRuns l).init s →
        ((authRuns l).Always (AuthRun.Bounded l) s acts
          ↔ (authRuns l).Along (AuthRun.LeavesRoom l) s acts) := by
  refine ⟨?_, ?_, fun l s acts h0 => AuthRun.bounded_iff_leavesRoom h0 acts⟩
  · intro p value g t t' hp hg ht hage
    exact SimpleAuthenticator.roundTrips_iff hhex hchars hsecret hg hp ht
      hage
  · intro key now caller hv
    obtain ⟨payload, rfl, -⟩ :=
      SimpleAuthenticator.eq_signedKey_of_validateApiKey hsecret hv
    refine ⟨⟨payload, rfl⟩, ?_⟩
    rintro issued hinjective ⟨text, payload₀, hissued, hkey⟩
    have hsame := hinjective payload₀ hissued payload
      (SimpleAuthenticator.signedKey_eq_of_signature hhex hkey)
    exact ⟨payload₀, hissued, by rw [hsame]⟩

/-- An environment in which one payload has a signature of its own. -/
def plainEnv : Env where
  getenv _ := none
  chars := .ascii
  hexdigest _ payload :=
    if payload = "0:global:0" then "0123456789abcdef" else "fedcba9876543210"
  llmConfig := none

def plainAuthenticator : SimpleAuthenticator := ⟨some "secret", ∅⟩

def AuthRun.start : AuthRun := ⟨⟨plainAuthenticator, 0⟩, 0, []⟩

theorem plainEnv_signsInHex : plainEnv.SignsInHex := by
  intro secret payload
  show ∀ c ∈ (if payload = "0:global:0" then "0123456789abcdef"
    else "fedcba9876543210").toList, c ∈ "0123456789abcdef".toList
  split
  · exact fun c hc => hc
  · have hall : ("fedcba9876543210".toList.all fun c =>
        "0123456789abcdef".toList.contains c) = true := by
      decide
    exact fun c hc =>
      List.contains_iff_mem.mp (List.all_eq_true.mp hall c hc)

open SimpleAuthenticator (signature signedKey RoundTrips) in
theorem api_credentials_sound_global :
    RoundTrips plainEnv plainAuthenticator 0 "global" 0 60
    ∧ (∃ payload₀ ∈ ({"0:global:0"} : Set String),
        "fcv_0:global:0_0123456789abcdef"
          = signedKey plainEnv "secret" payload₀)
    ∧ (authRuns .default).Always (AuthRun.Bounded .default) .start
        [.create 0 "global" none "a", .tick 60,
          .create 0 "global" none "b", .validate "a"] := by
  have hsound := api_credentials_sound plainEnv_signsInHex
    knowsDigits_ascii
    (show plainAuthenticator.apiKeySecret = some "secret" from rfl)
  refine ⟨?_, ?_, ?_⟩
  · refine (hsound.1 0 "global" "global" 0 60 (by decide) (by decide)
      ⟨by norm_num, by positivity⟩ ⟨365, by decide, ?_⟩).mpr ?_
    · rw [show (0 : Rat).floor = 0 from rfl]
      norm_num
    · positivity
  · refine (hsound.2.1 "fcv_0:global:0_0123456789abcdef" 60 (0, "global")
      (by decide +kernel)).2 {"0:global:0"} ?_ ⟨"fcv_0:global:0",
        "0:global:0", rfl, by decide⟩
    rintro _ rfl payload hsame
    by_contra hne
    revert hsame
    simp only [signature, plainEnv, if_neg hne, if_pos]
    decide
  · exact (hsound.2.2 .default .start _ ⟨rfl, rfl, rfl⟩).mpr
      (by decide +kernel)

/-- Three sessions, and a fourth one in the instant in which they
expire: all four validate. -/
theorem api_sessions_exceed_maximum :
    ∃ s, (authRuns .default).exec .start
        [.create 0 "global" none "a", .create 0 "global" none "b",
          .create 0 "global" none "c", .tick 3600,
          .create 0 "global" none "d"] = some s
      ∧ s.sessions.validSessions 0 s.now = 4
      ∧ ¬ AuthRun.Bounded .default s := by
  refine ⟨_, rfl, by decide +kernel, ?_⟩
  intro hb
  have h0 := hb 0
  revert h0
  decide +kernel

end Freeciv3d.Proxy
