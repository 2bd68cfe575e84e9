/-
A diplomatic message from the agent's action to the line of chat at the
server: the sanitizer, the converter, the reader of the packet and the
dispatch of the line.

# What goes wrong

The converter writes `/msg N` before a message to a player. The server has
no such command: every line with a slash in front goes to the command
parser, and a message to one player is written with the player's name and
a colon. The sanitizer takes leading slashes away, but the server reads
the message in the percent notation: `%2F` is a slash again.

# What remains

`Arrives` is the exact condition. A message without a target arrives,
unless it starts with `%2F` or decodes to bytes that are no text. A
message with a target does not; when it is too long to be read at all, it
is no command either, and one with a quote was promised nothing more.
-/
import Freeciv3d.Proxy.Proofs.SamePackets
import Freeciv3d.Server.Chat

namespace Freeciv3d.Server

open Lib CStr Proxy ActionSanitizer ActionPackets KeptFields
  SamePackets

namespace DiplomacyMessage

variable {rt : PyRuntime} {action s : PyDict} {raw : String}
  {target : Option Nat} {unescape : CStr → CStr} {g : ChatGame}
  {sender : ChatSender}

-- ==== the property

/-- What the server does with a packet dict of the converter. -/
def receivePacket (unescape : CStr → CStr) (g : ChatGame)
    (sender : ChatSender) (p : Fields) : Option Dispatch :=
  match p.lookup "message" with
  | some (.str message) => receiveChatMsgReq unescape g sender message
  | _ => none

/-- The line is not given to the command parser, and the server knows what
the line is. -/
def NeverCommand (d : Option Dispatch) : Prop :=
  d ≠ some .unset ∧ ∀ line, d ≠ some (.command line)

/-- The line is a private message to a player. -/
def PrivateTo (number : Nat) (d : Option Dispatch) : Prop :=
  ∃ text, d = some (.player number text)

/-- No quote, angle bracket or line break. -/
def Plain (raw : String) : Prop :=
  ∀ c ∈ raw.toList, c ∉ ['"', '\'', '<', '>', '\n', '\r']

instance (raw : String) : Decidable (Plain raw) :=
  inferInstanceAs (Decidable (∀ c ∈ raw.toList, _))

/-- A message is chat, and private to its target. -/
def Delivered (unescape : CStr → CStr) (g : ChatGame) (sender : ChatSender)
    (target : Option Nat) (raw : String) (p : Fields) : Prop :=
  NeverCommand (receivePacket unescape g sender p)
    ∧ ∀ number, target = some number → Plain raw →
      PrivateTo number (receivePacket unescape g sender p)

/-- When a message arrives: without a target, the kept text is too long
for the server, or a text that does not start with an escaped slash; with
a target, only when nothing was promised and nothing can be read. -/
def Arrives (unescape : CStr → CStr) (target : Option Nat) (raw : String) :
    Prop :=
  let kept := utf8 (cleanMessage raw)
  match target with
  | none => maxLenMsg ≤ kept.length
      ∨ isUtf8 (untilNul (unescape kept)) = true ∧ ¬ Escapes 47 kept
  | some number => ¬ Plain raw
      ∧ maxLenMsg ≤ 6 + (utf8 (toString (number : Int))).length + kept.length

-- ==== the sanitizer

theorem get?_copied {key : String} {check : PyVal → Except PyError PyVal}
    {s s' : PyDict} (h : copy key check action s = .ok s') :
    (action.get? key = none ∧ s' = s)
      ∨ ∃ v w, action.get? key = some v ∧ check v = .ok w
        ∧ s'.get? key = some w := by
  cases hv : action.get? key with
  | none =>
    unfold copy at h
    rw [hv] at h
    cases h
    exact Or.inl ⟨rfl, rfl⟩
  | some v =>
    obtain ⟨w, hw, hget⟩ := get?_copy_self h hv
    exact Or.inr ⟨v, w, rfl, hw, hget⟩

theorem message_supported :
    branches.lookup "diplomacy_message" = some .message := by
  decide

theorem sanitized_message
    (htype : actionType action = .str "diplomacy_message")
    (hmessage : action.get? "message" = some (.str raw))
    (htarget : action.get? "target_player_id"
      = target.map fun n : Nat => PyVal.int n)
    (hs : sanitizeActionData rt action = .ok s) :
    s.get? "type" = some (.str "diplomacy_message")
      ∧ s.get? "message" = some (.str (cleanMessage raw))
      ∧ s.get? "target_player_id" = target.map fun n : Nat => PyVal.int n := by
  obtain ⟨t, s₄, ht, hbranch, hsafe⟩ := sanitizeActionData_eq_ok hs
  rw [htype] at ht
  cases ht
  have hdiplomacy : diplomacyFields rt action
      (cleanType "diplomacy_message") = .ok s₄ := hbranch
  obtain ⟨s₁, h₁, hdiplomacy⟩ := bind_eq_ok.mp hdiplomacy
  obtain ⟨s₂, h₂, h₃⟩ := bind_eq_ok.mp hdiplomacy
  refine ⟨?_, ?_, ?_⟩
  · rw [get?_safeFields hsafe (by decide) (by decide),
      get?_copy_of_ne h₃ (by decide), get?_copy_of_ne h₂ (by decide),
      get?_copy_of_ne h₁ (by decide)]
    unfold cleanType
    rw [if_neg (by decide), Dict.get?_set_self,
      clean_of_supported message_supported]
  · obtain ⟨w, hw, hget⟩ := get?_copy_self h₃ hmessage
    rw [get?_safeFields hsafe (by decide) (by decide), hget,
      sanitizeMessage_str hw]
  · rw [get?_safeFields hsafe (by decide) (by decide),
      get?_copy_of_ne h₃ (by decide), get?_copy_of_ne h₂ (by decide)]
    rcases get?_copied h₁ with ⟨hnone, rfl⟩ | ⟨v, w, hv, hw, hget⟩
    · rw [hnone] at htarget
      rw [← htarget]
      rfl
    · rw [hv] at htarget
      rw [hget, ← htarget]
      obtain ⟨n, -, rfl⟩ := Option.map_eq_some_iff.mp htarget.symm
      rw [sanitizeId_int hw]

-- ==== the converter

def packetText (target : Option Nat) (message : String) : String :=
  messageText (target.elim (-1) fun n => (n : Int)) message

theorem convertMessage_of_target {civcom : Option Mirror} {message : String}
    (hm : s.get? "message" = some (.str message))
    (hn : s.get? "target_player_id" = target.map fun n : Nat => PyVal.int n) :
    convertBranch rt civcom s .message
      = .ok [("pid", .int 26),
        ("message", .str (packetText target message))] := by
  cases target with
  | some n => exact convertMessage_eq hm hn
  | none =>
    have hm' : firstOf s ["message"] (.str "") = .str message := by
      unfold firstOf
      rw [List.findSome?_cons, hm]
      rfl
    have hn' : firstOf s ["target_player_id"] (.int (-1))
        = .int (-1) := by
      unfold firstOf
      rw [List.findSome?_cons, hn]
      rfl
    have hge : (PyVal.int (-1)).ge 0 = .ok false := by decide +kernel
    simp only [convertBranch, convertMessage, hm', hn', hge, bind,
      Except.bind]
    rfl

theorem converted_message (rt : PyRuntime) (civcom : Option Mirror)
    (found : Bool) {message : String}
    (htype : s.get? "type" = some (.str "diplomacy_message"))
    (hm : s.get? "message" = some (.str message))
    (hn : s.get? "target_player_id" = target.map fun n : Nat => PyVal.int n) :
    ∃ p, convertActionToPacket rt civcom s found = .ok p
      ∧ p.lookup "message" = some (.str (packetText target message)) := by
  have hb : branchOf s = some .message := by
    unfold branchOf
    rw [htype]
    exact message_supported
  rw [converted_eq hb, convertMessage_of_target hm hn]
  refine ⟨_, rfl, ?_⟩
  rw [lookup_packetSent rfl (by decide)]
  rfl

-- ==== the server

def decoded (unescape : CStr → CStr) (message : String) : CStr :=
  untilNul (unescape (utf8 message))

theorem receive_of_fits (hf : PercentDecodes unescape) {message : String}
    (hfits : (utf8 message).length < maxLenMsg) :
    receiveChatMsgReq unescape g sender message
      = some (if isUtf8 (decoded unescape message) then
          dispatchLine g sender
            ((decoded unescape message).takeWhile fun b => !endsLine b)
        else .unset) := by
  have hlength : (decoded unescape message).length < maxLenMsg :=
    calc (decoded unescape message).length
        ≤ (unescape (utf8 message)).length :=
          (List.takeWhile_sublist _).length_le
      _ ≤ (utf8 message).length := hf.length_le _
      _ < maxLenMsg := hfits
  have htake : (decoded unescape message).take (maxLenMsg - 1)
      = decoded unescape message :=
    List.take_of_length_le (by omega)
  unfold receiveChatMsgReq getEstring
  rw [if_neg (by omega)]
  show some (handleChatMsgReq g sender
    ((decoded unescape message).take (maxLenMsg - 1))) = _
  rw [htake]
  unfold handleChatMsgReq
  rw [strlcpy_of_fits hlength]
  cases isUtf8 (decoded unescape message) with
  | true => rfl
  | false => rfl

theorem receive_of_long {message : String}
    (hlong : maxLenMsg ≤ (utf8 message).length) :
    receiveChatMsgReq unescape g sender message = none := by
  unfold receiveChatMsgReq getEstring
  rw [if_pos hlong]
  rfl

theorem head?_decoded (hf : PercentDecodes unescape) {message : String} :
    (decoded unescape message).head? = some 47
      ↔ (utf8 message).head? = some 47 ∨ Escapes 47 (utf8 message) := by
  unfold decoded untilNul
  rw [head?_takeWhile (by decide), hf.head?_eq_iff (by decide)]

theorem neverCommand_iff (hf : PercentDecodes unescape) {message : String} :
    NeverCommand (receiveChatMsgReq unescape g sender message)
      ↔ maxLenMsg ≤ (utf8 message).length
        ∨ isUtf8 (decoded unescape message) = true
          ∧ (decoded unescape message).head? ≠ some 47 := by
  by_cases hlong : maxLenMsg ≤ (utf8 message).length
  · rw [receive_of_long hlong]
    exact ⟨fun _ => Or.inl hlong, fun _ => ⟨nofun, nofun⟩⟩
  · rw [receive_of_fits hf (by omega)]
    by_cases hutf8 : isUtf8 (decoded unescape message) = true
    · rw [if_pos hutf8]
      constructor
      · rintro ⟨-, hline⟩
        refine Or.inr ⟨hutf8, fun hslash => ?_⟩
        exact hline _ (congrArg some (dispatchLine_slash
          (head?_line.mpr hslash)))
      · rintro (h | ⟨-, hslash⟩)
        · exact absurd h hlong
        · have hnot : ((decoded unescape message).takeWhile
              fun b => !endsLine b).head? ≠ some 47 :=
            fun h => hslash (head?_line.mp h)
          refine ⟨fun h => ?_, fun line h => ?_⟩
          · exact (dispatchLine_not_command g sender [] hnot).2
              (Option.some.inj h)
          · exact (dispatchLine_not_command g sender line hnot).1
              (Option.some.inj h)
    · rw [if_neg hutf8]
      constructor
      · rintro ⟨hunset, -⟩
        exact absurd rfl hunset
      · rintro (h | ⟨h, -⟩)
        · exact absurd h hlong
        · exact absurd h hutf8

-- ==== the message

theorem of_head?_dropWhile {α : Type} {p : α → Bool} {l : List α} {x : α}
    (h : (l.dropWhile p).head? = some x) : p x = false := by
  have hnot := List.head?_dropWhile_not p l
  rw [h] at hnot
  exact hnot

theorem head?_cleanMessage (raw : String) :
    (utf8 (cleanMessage raw)).head? ≠ some 47 := by
  rw [Ne, head?_utf8 (by decide)]
  rintro ⟨c, hc, hslash⟩
  have hc' : c = '/' := Char.ext (UInt32.toNat_inj.mp hslash)
  unfold cleanMessage at hc
  rw [String.toList_ofList] at hc
  have hnot := of_head?_dropWhile hc
  rw [hc', beq_self_eq_true] at hnot
  cases hnot

theorem utf8_packetText (number : Nat) (message : String) :
    utf8 (packetText (some number) message)
      = utf8 "/msg " ++ utf8 (toString (number : Int)) ++ utf8 " "
        ++ utf8 message := by
  show utf8 (messageText (number : Int) message) = _
  unfold messageText
  rw [if_pos (Int.natCast_nonneg number), utf8_append, utf8_append,
    utf8_append]

theorem delivered_without_target (hf : PercentDecodes unescape) {p : Fields}
    (hp : p.lookup "message"
      = some (.str (packetText none (cleanMessage raw)))) :
    Delivered unescape g sender none raw p ↔ Arrives unescape none raw := by
  unfold Delivered receivePacket
  rw [hp]
  show NeverCommand (receiveChatMsgReq unescape g sender (cleanMessage raw))
    ∧ _ ↔ _
  rw [neverCommand_iff hf, Ne, head?_decoded hf, not_or]
  constructor
  · rintro ⟨hlong | ⟨hutf8, -, hescape⟩, -⟩
    · exact Or.inl hlong
    · exact Or.inr ⟨hutf8, hescape⟩
  · rintro (hlong | ⟨hutf8, hescape⟩)
    · exact ⟨Or.inl hlong, nofun⟩
    · exact ⟨Or.inr ⟨hutf8, head?_cleanMessage raw, hescape⟩, nofun⟩

theorem delivered_with_target (hf : PercentDecodes unescape) {p : Fields}
    {number : Nat}
    (hp : p.lookup "message"
      = some (.str (packetText (some number) (cleanMessage raw)))) :
    Delivered unescape g sender (some number) raw p
      ↔ Arrives unescape (some number) raw := by
  have hbytes := utf8_packetText number (cleanMessage raw)
  have hlength : (utf8 (packetText (some number) (cleanMessage raw))).length
      = 6 + (utf8 (toString (number : Int))).length
        + (utf8 (cleanMessage raw)).length := by
    rw [hbytes, List.length_append, List.length_append, List.length_append]
    have h₁ : (utf8 "/msg ").length = 5 := by decide
    have h₂ : (utf8 " ").length = 1 := by decide
    omega
  have hslash : (decoded unescape
      (packetText (some number) (cleanMessage raw))).head? = some 47 := by
    refine (head?_decoded hf).mpr (Or.inl ?_)
    rw [hbytes]
    rfl
  unfold Delivered receivePacket Arrives
  rw [hp]
  dsimp only
  rw [neverCommand_iff hf, ← hlength]
  constructor
  · rintro ⟨hlong | ⟨-, hnot⟩, hprivate⟩
    · refine ⟨fun hplain => ?_, hlong⟩
      obtain ⟨text, h⟩ := hprivate number rfl hplain
      rw [receive_of_long hlong] at h
      cases h
    · exact absurd hslash hnot
  · rintro ⟨hplain, hlong⟩
    exact ⟨Or.inl hlong, fun _ _ h => absurd h hplain⟩

-- ==== the whole way

/-- For every accepted message the converter makes a packet, and the server
delivers it exactly under `Arrives`. -/
theorem messages_delivered_iff (rt : PyRuntime) (unescape : CStr → CStr)
    (hf : PercentDecodes unescape) (g : ChatGame) (sender : ChatSender)
    (civcom : Option Mirror) (found : Bool) (action s : PyDict)
    (raw : String) (target : Option Nat)
    (htype : actionType action = .str "diplomacy_message")
    (hmessage : action.get? "message" = some (.str raw))
    (htarget : action.get? "target_player_id"
      = target.map fun n : Nat => PyVal.int n)
    (hs : sanitizeActionData rt action = .ok s) :
    ∃ p, convertActionToPacket rt civcom s found = .ok p
      ∧ (Delivered unescape g sender target raw p
        ↔ Arrives unescape target raw) := by
  obtain ⟨htype', hmessage', htarget'⟩ :=
    sanitized_message htype hmessage htarget hs
  obtain ⟨p, hconvert, hp⟩ :=
    converted_message rt civcom found htype' hmessage' htarget'
  refine ⟨p, hconvert, ?_⟩
  cases target with
  | none => exact delivered_without_target hf hp
  | some number => exact delivered_with_target hf hp

def twoPlayers : ChatGame where
  players := [⟨0, utf8 "Anna"⟩, ⟨1, utf8 "Bert"⟩]
  connections := [⟨1, utf8 "anna"⟩, ⟨2, utf8 "bert"⟩]

def messageAction (target : Option Nat) (raw : String) : PyDict :=
  Dict.ofList ([("type", .str "diplomacy_message"), ("message", .str raw)]
    ++ (target.map fun n : Nat => ("target_player_id", PyVal.int n)).toList)

/-- A greeting to all arrives. -/
theorem greeting_arrives :
    ∃ s p, sanitizeActionData .ascii (messageAction none "hello") = .ok s
      ∧ convertActionToPacket .ascii none s true = .ok p
      ∧ Delivered percentDecode twoPlayers ⟨some 0, false⟩ none "hello" p := by
  obtain ⟨s, hs⟩ : ∃ s,
      sanitizeActionData .ascii (messageAction none "hello") = .ok s :=
    ⟨_, rfl⟩
  obtain ⟨p, hp, hiff⟩ := messages_delivered_iff .ascii percentDecode
    percentDecodes twoPlayers ⟨some 0, false⟩ none true
    (messageAction none "hello") s "hello" none rfl rfl rfl hs
  refine ⟨s, p, hs, hp, hiff.mpr (Or.inr ⟨by decide +kernel, ?_⟩)⟩
  rintro ⟨d, e, t, x, y, h, -⟩
  have hhead : (utf8 (cleanMessage "hello")).head? = some 37 :=
    congrArg List.head? h
  exact absurd hhead (by decide +kernel)

/-- A greeting to one player is a server command, and so is a message that
starts with `%2F`. -/
theorem greeting_is_a_command :
    (∃ s p, sanitizeActionData .ascii (messageAction (some 1) "hello") = .ok s
      ∧ convertActionToPacket .ascii none s true = .ok p
      ∧ receivePacket percentDecode twoPlayers ⟨some 0, false⟩ p
        = some (.command (utf8 "/msg 1 hello"))
      ∧ ¬ Delivered percentDecode twoPlayers ⟨some 0, false⟩ (some 1)
        "hello" p)
    ∧ ∃ s p, sanitizeActionData .ascii (messageAction none "%2Fquit") = .ok s
      ∧ convertActionToPacket .ascii none s true = .ok p
      ∧ receivePacket percentDecode twoPlayers ⟨some 0, false⟩ p
        = some (.command (utf8 "/quit")) := by
  constructor
  · have hcommand : receiveChatMsgReq percentDecode twoPlayers
        ⟨some 0, false⟩ "/msg 1 hello"
        = some (.command (utf8 "/msg 1 hello")) := by
      decide +kernel
    refine ⟨_, _, rfl, rfl, hcommand, ?_⟩
    rintro ⟨⟨-, hnever⟩, -⟩
    exact hnever _ hcommand
  · have hcommand : receiveChatMsgReq percentDecode twoPlayers
        ⟨some 0, false⟩ "%2Fquit" = some (.command (utf8 "/quit")) := by
      decide +kernel
    exact ⟨_, _, rfl, rfl, hcommand⟩

end DiplomacyMessage

end Freeciv3d.Server
