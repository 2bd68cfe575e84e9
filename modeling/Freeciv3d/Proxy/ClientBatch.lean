/-
The batches a `CivCom` has for its client: the packets and errors that are
queued, joined by commas between brackets.

# Texts

A packet that comes is text in UTF-8, and what is encoded to be queued is
decoded again, so a fragment is kept as its characters. To encode half of a
surrogate pair is an error, and nothing is queued.

# Fragments

Nothing is escaped. The text of an error is a JSON object with the message
in it just if the message needs no escapes (`Plain`).
-/
import Freeciv3d.Lib.JsonArray
import Freeciv3d.Lib.Lts

namespace Freeciv3d.Proxy

open Lib JsonRead

namespace ClientBatch

-- ==== the code

/-- The text `send_error_to_client` puts together. -/
def errorText (message : PyText) : PyText :=
  pyText "\x7b\"pid\":25,\"event\":100,\"message\":\"" ++ message
    ++ pyText "\"\x7d"

/-- A text with half of a surrogate pair cannot be encoded. -/
def encodes (text : PyText) : Bool :=
  text.all fun c => !(isHigh c || isLow c)

def sendErrorToClient (sendBuffer : List PyText) (message : PyText) :
    List PyText × Bool :=
  if encodes (errorText message) then
    (sendBuffer ++ [errorText message], true)
  else (sendBuffer, false)

def getClientResultString (sendBuffer : List PyText) : Option PyText :=
  if 0 < sendBuffer.length then
    some (code '[' :: [code ','].intercalate sendBuffer ++ [code ']'])
  else none

-- ==== the statement

def errorPacket (message : PyText) : JsonValue :=
  .dict [(pyText "pid", .int 25), (pyText "event", .int 100),
    (pyText "message", .str message)]

/-- The buffer; what was queued since the last batch; and the batches, each
with what was queued for it. -/
structure Batches where
  sendBuffer : List PyText
  queued : List JsonValue
  results : List (Option PyText × List JsonValue)

inductive Event where
  | packet (text : PyText)
  | error (message : PyText)
  | collect

/-- One call. A packet is the text of an object that a reader with room for
`limit + 1` open ones can read. -/
def step (limit : Nat) (s : Batches) : Event → Option Batches
  | .packet text =>
    match loads (limit + 1) text with
    | .ok (.dict entries) =>
      some { s with sendBuffer := s.sendBuffer ++ [text],
                    queued := s.queued ++ [.dict entries] }
    | _ => none
  | .error message =>
    some { s with sendBuffer := (sendErrorToClient s.sendBuffer message).1,
                  queued := s.queued ++ [errorPacket message] }
  | .collect =>
    some ⟨[], [], (getClientResultString s.sendBuffer, s.queued)
      :: s.results⟩

def clientRuns (limit : Nat) : Lts Batches Event where
  init s := s = ⟨[], [], []⟩
  step := step limit

/-- Nothing was queued, or the text is an array of what was. The array is
one level more than the packets. -/
def RightResult (limit : Nat) (queued : List JsonValue) :
    Option PyText → Prop
  | none => queued = []
  | some text => queued ≠ [] ∧ loads (limit + 2) text = .ok (.list queued)

def Batches.Right (limit : Nat) (s : Batches) : Prop :=
  ∀ r ∈ s.results, RightResult limit r.2 r.1

/-- A text that stands in a JSON string as it is. -/
def Plain (message : PyText) : Prop :=
  ∀ c ∈ message, 32 ≤ c ∧ c ≠ code '"' ∧ c ≠ code '\\'
    ∧ isHigh c = false ∧ isLow c = false

def PlainErrors (_ : Batches) : Event → Prop
  | .error message => Plain message
  | _ => True

-- ==== an error packet

theorem scanString_plain {message : PyText} (h : Plain message)
    (rest : List Nat) :
    scanString (message ++ code '"' :: rest)
      = some (message.map fun c => (c, false), rest) := by
  induction message with
  | nil => rw [List.nil_append, scanString.eq_def]; exact if_pos rfl
  | cons c message ih =>
    obtain ⟨hc, hmessage⟩ := List.forall_mem_cons.mp h
    obtain ⟨hcontrol, hquote, hslash, -⟩ := hc
    rw [List.cons_append, scanString.eq_def]
    dsimp only
    rw [if_neg hquote, if_neg hslash, if_neg (by omega), ih hmessage]
    rfl

theorem joinPairs_plain (message : PyText) :
    joinPairs (message.map fun c => (c, false)) = message := by
  induction message with
  | nil => rfl
  | cons c message ih =>
    rw [List.map_cons, joinPairs, ih]
    simp

def beforeMessage : PyText :=
  pyText "\x7b\"pid\":25,\"event\":100,\"message\":"

def opensError : List Token → Bool
  | [.leftBrace, .str pid, .colon, .value (.ok (.int x)), .comma, .str event,
      .colon, .value (.ok (.int y)), .comma, .str message, .colon] =>
    pid == pyText "pid" && x == 25 && event == pyText "event" && y == 100
      && message == pyText "message"
  | _ => false

theorem tokenize_beforeMessage :
    tokenize beforeMessage
      = [.leftBrace, .str (pyText "pid"), .colon, .value (.ok (.int 25)),
        .comma, .str (pyText "event"), .colon, .value (.ok (.int 100)),
        .comma, .str (pyText "message"), .colon] := by
  have h : opensError (tokenize beforeMessage) = true := by decide +kernel
  unfold opensError at h
  split at h
  next heq =>
    simp only [Bool.and_eq_true, beq_iff_eq] at h
    obtain ⟨⟨⟨⟨rfl, rfl⟩, rfl⟩, rfl⟩, rfl⟩ := h
    exact heq
  next => cases h

theorem loads_errorText {message : PyText} (h : Plain message)
    (limit : Nat) :
    loads (limit + 1) (errorText message) = .ok (errorPacket message) := by
  have htail : tokenize (code '"' :: (message ++ code '"' :: [code '\x7d']))
      = [.str message, .rightBrace] := by
    rw [tokenize_cons (by decide)]
    unfold nextToken
    rw [if_pos rfl, scanString_plain h]
    dsimp only
    rw [joinPairs_plain]
    rfl
  have htext : errorText message
      = beforeMessage
        ++ code '"' :: (message ++ code '"' :: [code '\x7d']) := by
    have hopen : pyText "\x7b\"pid\":25,\"event\":100,\"message\":\""
        = beforeMessage ++ [code '"'] := by decide +kernel
    have hclose : pyText "\"\x7d" = [code '"', code '\x7d'] := by
      decide +kernel
    rw [errorText, hopen, hclose, List.append_assoc, List.append_assoc]
    rfl
  have happart : Apart (code '"' :: (message ++ code '"' :: [code '\x7d'])) :=
    ⟨code '"', by decide, rfl⟩
  have htokens : tokenize (errorText message)
      = tokenize beforeMessage ++ [Token.str message, Token.rightBrace] := by
    rw [htext, tokenize_append happart (by simp [tokenize_beforeMessage]),
      htail]
  have hhead : (errorText message).head? = some (code '\x7b') := by
    have hbefore : beforeMessage.head? = some (code '\x7b') := by
      decide +kernel
    rw [htext, List.head?_append, hbefore]
    rfl
  unfold loads
  rw [hhead, if_neg (by decide)]
  show parse (limit + 1) (tokenize (errorText message)) .value [] = _
  rw [htokens, tokenize_beforeMessage]
  rfl

-- ==== the runs

/-- Each fragment is read as what was queued. -/
structure Sound (limit : Nat) (s : Batches) : Prop where
  fragments : List.Forall₂ (fun text v => loads (limit + 1) text = .ok v)
    s.sendBuffer s.queued
  right : s.Right limit

theorem Sound.rightResult {limit : Nat} {s : Batches} (h : Sound limit s) :
    RightResult limit s.queued (getClientResultString s.sendBuffer) := by
  unfold getClientResultString
  have hlength := h.fragments.length_eq
  split
  next hpos =>
    refine ⟨?_, loads_array (List.ne_nil_of_length_pos hpos) h.fragments⟩
    exact List.ne_nil_of_length_pos (hlength ▸ hpos)
  next hpos => exact List.eq_nil_of_length_eq_zero (by omega)

theorem sendErrorToClient_plain {message : PyText} (h : Plain message)
    (sendBuffer : List PyText) :
    (sendErrorToClient sendBuffer message).1
      = sendBuffer ++ [errorText message] := by
  have hmessage : encodes message = true := by
    refine List.all_eq_true.mpr fun c hc => ?_
    simp [(h c hc).2.2.2]
  have hencodes : encodes (errorText message) = true := by
    unfold errorText encodes
    rw [List.all_append, List.all_append]
    show (_ && encodes message && _) = true
    rw [hmessage]
    rfl
  simp [sendErrorToClient, hencodes]

theorem Sound.step {limit : Nat} {s s' : Batches} {e : Event}
    (h : Sound limit s) (he : PlainErrors s e)
    (hs : (clientRuns limit).step s e = some s') : Sound limit s' := by
  cases e with
  | packet text =>
    simp only [clientRuns, ClientBatch.step] at hs
    split at hs
    next entries hloads =>
      cases hs
      exact ⟨List.rel_append h.fragments (.cons hloads .nil), h.right⟩
    next => cases hs
  | error message =>
    cases hs
    refine ⟨?_, h.right⟩
    rw [sendErrorToClient_plain he]
    exact List.rel_append h.fragments
      (.cons (loads_errorText he limit) .nil)
  | collect =>
    cases hs
    exact ⟨.nil, List.forall_mem_cons.mpr ⟨h.rightResult, h.right⟩⟩

/-- In a run whose errors are plain every batch is right. -/
theorem batches_right_of_plain (limit : Nat) (s : Batches)
    (h : (clientRuns limit).ReachVia PlainErrors s) : s.Right limit := by
  have hsound : Sound limit s := by
    refine Lts.ReachVia.invariant (I := Sound limit) ?_ ?_ h
    · rintro s rfl
      exact ⟨.nil, fun r hr => (by cases hr)⟩
    · exact fun s e s' hI he hs => hI.step he hs
  exact hsound.right

def afterError (message : PyText) : Batches :=
  ⟨[], [], [(some (code '[' :: errorText message ++ [code ']']),
    [errorPacket message])]⟩

theorem unreachable_host_right :
    (afterError (pyText "no host")).Right 0 := by
  refine batches_right_of_plain 0 _ ?_
  have hplain : Plain (pyText "no host") := by
    unfold Plain
    decide +kernel
  have hqueued : (clientRuns 0).ReachVia PlainErrors
      ⟨[errorText (pyText "no host")], [errorPacket (pyText "no host")], []⟩ :=
    .step (.init rfl) (a := .error (pyText "no host")) hplain rfl
  exact .step hqueued (a := .collect) trivial rfl

/-- `Connection thread crashed: "a'b"`, as after `KeyError("a'b")`. -/
theorem batch_with_quote_fails :
    ∃ s, (clientRuns 0).Reach s ∧ ¬ s.Right 0 := by
  refine ⟨afterError (pyText "Connection thread crashed: \"a'b\""),
    .step (.step (.init rfl)
      (a := .error (pyText "Connection thread crashed: \"a'b\"")) rfl)
      (a := .collect) rfl, ?_⟩
  intro h
  have hright := (h _ List.mem_cons_self).2
  have herror : (loads 2 (code '['
      :: errorText (pyText "Connection thread crashed: \"a'b\"")
        ++ [code ']'])).toBool = false := by decide +kernel
  rw [show loads 2 _ = _ from hright] at herror
  cases herror

end ClientBatch

end Freeciv3d.Proxy
