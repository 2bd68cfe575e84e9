/-
API keys: what `generate_api_key` makes `validate_api_key` reads back,
and it accepts nothing that was not signed.

# The text of a key

A key is split at its last `_`, and a signature has none; the payload is
split at `:`, and neither a number nor a sanitized game id has one. A
game id may have `_`, and a newline at its end: it comes back as it
was. A player id of more digits than Python writes has no key at all.
-/
import Mathlib.Algebra.Order.Floor.Ring
import Freeciv3d.Proxy.Auth

namespace Freeciv3d.Proxy

open Lib

/-- `hexdigest` is made of hexadecimal digits. -/
def Env.SignsInHex (env : Env) : Prop :=
  ∀ secret payload, ∀ c ∈ (env.hexdigest secret payload).toList,
    c ∈ "0123456789abcdef".toList

namespace SimpleAuthenticator

variable {env : Env} {a : SimpleAuthenticator} {secret payload key : String}
  {p : Int} {g : GameId} {now : Rat}

theorem mem_signature (h : env.SignsInHex) {c : Char}
    (hc : c ∈ (signature env secret payload).toList) :
    c ∈ "0123456789abcdef".toList := by
  unfold signature PyStr.takeChars at hc
  rw [String.toList_ofList] at hc
  exact h secret payload c (List.mem_of_mem_take hc)

theorem underscore_notMem_signature (h : env.SignsInHex) :
    '_' ∉ (signature env secret payload).toList := by
  intro hc
  have hmem := mem_signature h hc
  revert hmem
  decide

theorem ascii_signature (h : env.SignsInHex) :
    ((signature env secret payload).toList.any fun c => 128 ≤ c.toNat)
      = false := by
  have hhex : ("0123456789abcdef".toList.all fun c =>
      !decide (128 ≤ c.toNat)) = true := by
    decide
  rw [List.any_eq_false]
  intro c hc
  have hsmall := List.all_eq_true.mp hhex c (mem_signature h hc)
  rw [Bool.not_eq_true', decide_eq_false_iff_not] at hsmall
  rwa [decide_eq_true_eq]

-- ==== what is signed

theorem signedKey_eq : signedKey env secret payload
    = "fcv_" ++ (payload ++ String.singleton '_'
      ++ signature env secret payload) := by
  unfold signedKey
  rw [String.append_assoc, String.append_assoc]
  simp [String.append_assoc]

theorem validateApiKey_signedKey (h : env.SignsInHex)
    (hsecret : a.apiKeySecret = some secret) :
    a.validateApiKey env (signedKey env secret payload) now
      = .ok (readPayload env payload now) := by
  have hne : signedKey env secret payload ≠ "" := by
    intro heq
    rw [signedKey_eq] at heq
    have hlen := congrArg String.length heq
    simp at hlen
  unfold validateApiKey
  rw [hsecret]
  dsimp only
  rw [if_neg hne, signedKey_eq, PyStr.startsWith_append,
    show (4 : Nat) = "fcv_".length from rfl, PyStr.dropChars_append,
    PyStr.rsplitOnce_append '_' payload _ (underscore_notMem_signature h)]
  simp [ascii_signature h]

theorem eq_signedKey_of_validateApiKey {caller : Int × GameId}
    (hsecret : a.apiKeySecret = some secret)
    (hv : a.validateApiKey env key now = .ok (some caller)) :
    ∃ payload, key = signedKey env secret payload
      ∧ readPayload env payload now = some caller := by
  unfold validateApiKey at hv
  rw [hsecret] at hv
  dsimp only at hv
  split at hv
  · cases hv
  · split at hv
    · cases hv
    next hstart =>
      split at hv
      · cases hv
      next payload provided hparts =>
        split at hv
        · cases hv
        · split at hv
          · cases hv
          next hsigned =>
            rw [ne_eq, not_not] at hsigned
            refine ⟨payload, ?_, Except.ok.inj hv⟩
            have hrest := PyStr.eq_of_rsplitOnce hparts
            rw [Bool.not_eq_true', Bool.not_eq_false] at hstart
            rw [signedKey_eq, ← hsigned, ← hrest]
            exact PyStr.eq_append_of_startsWith hstart

/-- The signature of another text, taken over: the key is the other
one. -/
theorem signedKey_eq_of_signature (h : env.SignsInHex)
    {payload₀ text : String}
    (hkey : signedKey env secret payload
      = text ++ String.singleton '_' ++ signature env secret payload₀) :
    signature env secret payload = signature env secret payload₀ := by
  have hlast : PyStr.rsplitOnce '_' (signedKey env secret payload)
      = some ("fcv_" ++ payload, signature env secret payload) := by
    rw [signedKey_eq, ← String.append_assoc, ← String.append_assoc,
      PyStr.rsplitOnce_append '_' _ _ (underscore_notMem_signature h)]
  rw [hkey, PyStr.rsplitOnce_append '_' text _
    (underscore_notMem_signature h)] at hlast
  exact (Prod.mk.inj (Option.some.inj hlast)).2.symm

-- ==== the round trip

/-- The key made at `t` is read back at `t'`. -/
def RoundTrips (env : Env) (a : SimpleAuthenticator) (p : Int)
    (g : GameId) (t t' : Rat) : Prop :=
  ∃ key, a.generateApiKey env p g t = .ok (some key)
    ∧ a.validateApiKey env key t' = .ok (some (p, g))

/-- `t'` is no more than `API_KEY_MAX_AGE_DAYS` after the second of
`t`. -/
def WithinMaxAge (env : Env) (t t' : Rat) : Prop :=
  ∃ days, PyStr.toInt env.chars
      ((env.getenv "API_KEY_MAX_AGE_DAYS").getD "365") = some days
    ∧ t' - (t.floor : Rat) ≤ ((days * 24 * 3600 : Int) : Rat)

def floatMaxExp : Nat := 1024

/-- What `time.time()` can answer. -/
def IsClockTime (t : Rat) : Prop := 0 ≤ t ∧ t < ((2 ^ floatMaxExp : Nat) : Rat)

theorem IsClockTime.exists_stamp {t : Rat} (ht : IsClockTime t) :
    ∃ n : Nat, t.floor = n ∧ n < 10 ^ PyStr.maxStrDigits := by
  have hnonneg : 0 ≤ t.floor := Rat.le_floor_iff.mpr (by simpa using ht.1)
  obtain ⟨n, hn⟩ := Int.eq_ofNat_of_zero_le hnonneg
  refine ⟨n, hn, ?_⟩
  have hlt : n < 2 ^ floatMaxExp := by
    have hle := Rat.floor_le t
    rw [hn] at hle
    exact Nat.cast_lt.mp (lt_of_le_of_lt (by exact_mod_cast hle) ht.2)
  calc n < 2 ^ floatMaxExp := hlt
    _ ≤ 10 ^ floatMaxExp := Nat.pow_le_pow_left (by decide) floatMaxExp
    _ ≤ 10 ^ PyStr.maxStrDigits :=
      Nat.pow_le_pow_right (by decide) (by decide)

theorem readPayload_eq (hchars : env.chars.KnowsDigits) {n m : Nat}
    {player stamp : String} (hplayer : PyStr.ofInt n = some player)
    (hstamp : PyStr.ofInt m = some stamp) (hg : ':' ∉ g.toList)
    {days : Int} (hdays : PyStr.toInt env.chars
      ((env.getenv "API_KEY_MAX_AGE_DAYS").getD "365") = some days)
    (hage : now - (m : Rat) ≤ ((days * 24 * 3600 : Int) : Rat)) :
    readPayload env (player ++ ":" ++ g ++ ":" ++ stamp) now
      = some ((n : Int), g) := by
  have hsplit : PyStr.split ':' (player ++ ":" ++ g ++ ":" ++ stamp)
      = [player, g, stamp] := by
    have htext : player ++ ":" ++ g ++ ":" ++ stamp
        = player ++ String.singleton ':'
          ++ (g ++ String.singleton ':' ++ stamp) := by
      simp [String.append_assoc]
    rw [htext, PyStr.split_append (PyStr.notMem_of_ofInt hplayer rfl),
      PyStr.split_append hg,
      PyStr.split_of_notMem (PyStr.notMem_of_ofInt hstamp rfl)]
  unfold readPayload
  rw [hsplit]
  dsimp only
  rw [PyStr.toInt_of_ofInt hchars hplayer,
    PyStr.toInt_of_ofInt hchars hstamp, hdays]
  simp only [Option.bind_eq_bind, Option.bind_some]
  rw [if_neg]
  exact not_lt.mpr hage

theorem roundTrips_iff (h : env.SignsInHex)
    (hchars : env.chars.KnowsDigits)
    (hsecret : a.apiKeySecret = some secret) {value : String}
    (hg : InputSanitizer.sanitizeGameId env.chars value = .ok g)
    (hp : 0 ≤ p) {t t' : Rat} (ht : IsClockTime t)
    (hage : WithinMaxAge env t t') :
    RoundTrips env a p g t t' ↔ p < 10 ^ PyStr.maxStrDigits := by
  obtain ⟨n, rfl⟩ := Int.eq_ofNat_of_zero_le hp
  obtain ⟨m, hm, hmlt⟩ := ht.exists_stamp
  obtain ⟨stamp, hstamp⟩ :=
    Option.isSome_iff_exists.mp (PyStr.ofInt_isSome_iff.mpr hmlt)
  obtain ⟨days, hdays, hle⟩ := hage
  have hcolon : ':' ∉ g.toList := by
    intro hmem
    have hclass := InputSanitizer.mem_of_sanitizeGameId hg hmem
    revert hclass
    decide
  rw [show ((n : Int) < 10 ^ PyStr.maxStrDigits)
    ↔ n < 10 ^ PyStr.maxStrDigits from by exact_mod_cast Iff.rfl,
    ← PyStr.ofInt_isSome_iff]
  unfold RoundTrips generateApiKey
  rw [hsecret, hm, hstamp]
  cases hplayer : PyStr.ofInt (n : Int) with
  | none => simp
  | some player =>
    simp only [Option.isSome_some, iff_true]
    refine ⟨_, rfl, ?_⟩
    rw [validateApiKey_signedKey h hsecret,
      readPayload_eq hchars hplayer hstamp hcolon hdays (by
        rw [hm] at hle
        exact_mod_cast hle)]

end SimpleAuthenticator

end Freeciv3d.Proxy
