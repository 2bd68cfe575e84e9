/-
A line of chat at the server: what `dio_get_estring_json` reads of it and
where `handle_chat_msg_req` sends it (`handchat.c`, as it is built for the
web client).

# Where a line goes

A line is a server command, a message to allies, a message to one player
or connection whose name stands before a colon, or a message to all; or
the sender is told why it is none of them. `Dispatch` keeps the text each
receiver gets, without leading spaces.

# Names

A name is matched as a prefix, without regard to case and to quotes around
it. Two names may match; an exact match wins over others.
-/
import Freeciv3d.Lib.CStr

namespace Freeciv3d.Server

open Lib CStr

def maxLenMsg : Nat := 1536

def maxLenName : Nat := 48

-- ==== who is there

structure ChatPlayer where
  number : Nat
  name : CStr

/-- What chat reads of a connection, as a receiver. -/
structure ChatConn where
  id : Nat
  username : CStr

/-- The players by slot, and `game.all_connections`. -/
structure ChatGame where
  players : List ChatPlayer
  connections : List ChatConn

structure ChatSender where
  playing : Option Nat
  observer : Bool

inductive Dispatch
  /-- `handle_stdin_input`: the command parser. -/
  | command (line : CStr)
  | allies (text : CStr)
  | globalObservers (text : CStr)
  | player (number : Nat) (text : CStr)
  | connection (id : Nat) (text : CStr)
  | all (text : CStr)
  | complaint (text : CStr)
  /-- The buffer of the line was left unset: anything may follow. -/
  | unset
  /-- The buffer of the name was left unset: any receiver. -/
  | unsetName
  deriving DecidableEq

-- ==== names

/-- `enum m_pre_result`, with the index found. -/
inductive PrefixMatch
  | exact (i : Nat)
  | only (i : Nat)
  | ambiguous
  | empty
  | long
  | fail

/-- The index of `result < M_PRE_AMBIGUOUS`. -/
def PrefixMatch.found : PrefixMatch → Option Nat
  | exact i => some i
  | only i => some i
  | _ => none

def unquote (s : CStr) : CStr :=
  if s.head? = some 34 ∧ s.getLast? = some 34 then
    (s.drop 1).take (s.length - 2)
  else s

/-- `fc_strncasequotecmp(s, t, n) == 0`. -/
def sameNoCase (s t : CStr) (n : Nat) : Bool :=
  let s := unquote s
  let t := unquote t
  if s.length < n ∨ t.length < n then s.map toLower == t.map toLower
  else (s.take n).map toLower == (t.take n).map toLower

/-- `match_prefix`, with the comparison the names are matched by. -/
def matchPrefix (names : List CStr) (start : CStr) : PrefixMatch :=
  let len := (unquote start).length
  if len = 0 then .empty
  else if maxLenName - 1 < len then .long
  else
    let hits := names.zipIdx.filter fun e => sameNoCase e.1 start len
    match hits.find? fun e => e.1.length == len with
    | some e => .exact e.2
    | none =>
      match hits with
      | [] => .fail
      | [e] => .only e.2
      | _ => .ambiguous

def playerByNamePrefix (g : ChatGame) (name : CStr) :
    PrefixMatch × Option ChatPlayer :=
  let result := matchPrefix (g.players.map ChatPlayer.name) name
  (result, result.found.bind fun i => g.players[i]?)

def connByUserPrefix (g : ChatGame) (name : CStr) :
    PrefixMatch × Option ChatConn :=
  let result := matchPrefix (g.connections.map ChatConn.username) name
  (result, result.found.bind fun i => g.connections[i]?)

-- ==== the line

def skipLeadingSpaces (s : CStr) : CStr := s.dropWhile isSpace

/-- A byte that ends the line: a line break, an angle bracket, a quote. -/
def endsLine (b : UInt8) : Bool :=
  b == 10 || b == 13 || b == 60 || b == 62 || b == 34 || b == 39

def ambiguousPlayer (name : CStr) : Dispatch :=
  .complaint (name ++ utf8 " is an ambiguous player name-prefix.")

def ambiguousConnection (name : CStr) : Dispatch :=
  .complaint (name ++ utf8 " is an ambiguous connection name-prefix.")

def anonymousPlayer (name : CStr) : Dispatch :=
  .complaint (name ++ utf8 " is an anonymous name. Use connection name.")

/-- The match against connection names, when it decides. -/
def toConnection (g : ChatGame) (name text : CStr) : Option Dispatch :=
  match connByUserPrefix g name with
  | (.ambiguous, _) => some (ambiguousConnection name)
  | (_, some conn) => some (.connection conn.id (skipLeadingSpaces text))
  | (_, none) => none

/-- The match against player names, and then connection names, when it
decides. That a player is not connected is never told: the player was sent
the message before. -/
def toPlayer (g : ChatGame) (name text : CStr) : Option Dispatch :=
  match playerByNamePrefix g name with
  | (.ambiguous, _) => some (ambiguousPlayer name)
  | (_, some p) =>
    if p.name = utf8 "noname" then some (anonymousPlayer name)
    else some (.player p.number (skipLeadingSpaces text))
  | (_, none) => toConnection g name text

/-- A line with a colon at `i`, not its first byte. -/
def addressed (g : ChatGame) (line : CStr) (i : Nat) : Dispatch :=
  match strlcpy (min maxLenName (i + 1)) line with
  | none => .unsetName
  | some name =>
    let doubleColon := (line)[i + 1]? == some 58
    let matched :=
      if doubleColon then toConnection g name (line.drop (i + 2))
      else toPlayer g name (line.drop (i + 1))
    match matched with
    | some d => d
    | none =>
      -- a space before the colon: no name was meant
      if (line.take i).contains 32 then .all (skipLeadingSpaces line)
      else if doubleColon then
        .complaint (utf8 "There is no connection by the name " ++ name
          ++ utf8 ".")
      else .complaint (utf8 "There is no player nor connection by the name "
        ++ name ++ utf8 ".")

def toAllies (sender : ChatSender) (text : CStr) : Dispatch :=
  if sender.playing = none ∧ sender.observer = false then
    .complaint (utf8 "You are not attached to a player.")
  else if sender.playing ≠ none then .allies (skipLeadingSpaces text)
  else .globalObservers (skipLeadingSpaces text)

def dispatchLine (g : ChatGame) (sender : ChatSender) (line : CStr) :
    Dispatch :=
  if line.head? = some 47 then .command line
  else if line.head? = some 46 then toAllies sender (line.drop 1)
  else
    match line.findIdx? (· == 58) with
    | some (i + 1) => addressed g line (i + 1)
    | _ => .all (skipLeadingSpaces line)

def handleChatMsgReq (g : ChatGame) (sender : ChatSender) (message : CStr) :
    Dispatch :=
  match strlcpy maxLenMsg message with
  | none => .unset
  | some line => dispatchLine g sender (line.takeWhile fun b => !endsLine b)

/-- `dio_get_estring_json` on a string of a packet, into a buffer of `n`
bytes. -/
def getEstring (unescape : CStr → CStr) (n : Nat) (s : CStr) : Option CStr :=
  if n ≤ s.length then none
  else some ((untilNul (unescape s)).take (n - 1))

/-- A PACKET_CHAT_MSG_REQ with a string for a message; nothing happens to
one that cannot be read. -/
def receiveChatMsgReq (unescape : CStr → CStr) (g : ChatGame)
    (sender : ChatSender) (message : String) : Option Dispatch :=
  (getEstring unescape maxLenMsg (utf8 message)).map
    (handleChatMsgReq g sender)

-- ==== the first byte

theorem toConnection_not_command {g : ChatGame} {name text line : CStr}
    {d : Dispatch} (h : toConnection g name text = some d) :
    d ≠ .command line ∧ d ≠ .unset := by
  unfold toConnection at h
  split at h
  · cases h
    exact ⟨Dispatch.noConfusion, Dispatch.noConfusion⟩
  · cases h
    exact ⟨Dispatch.noConfusion, Dispatch.noConfusion⟩
  · cases h

theorem toPlayer_not_command {g : ChatGame} {name text line : CStr}
    {d : Dispatch} (h : toPlayer g name text = some d) :
    d ≠ .command line ∧ d ≠ .unset := by
  unfold toPlayer at h
  split at h
  · cases h
    exact ⟨Dispatch.noConfusion, Dispatch.noConfusion⟩
  · split at h
    · cases h
      exact ⟨Dispatch.noConfusion, Dispatch.noConfusion⟩
    · cases h
      exact ⟨Dispatch.noConfusion, Dispatch.noConfusion⟩
  · exact toConnection_not_command h

theorem addressed_not_command (g : ChatGame) (line' line : CStr) (i : Nat) :
    addressed g line i ≠ .command line' ∧ addressed g line i ≠ .unset := by
  unfold addressed
  split
  · exact ⟨Dispatch.noConfusion, Dispatch.noConfusion⟩
  · dsimp only
    split
    · next name hname d h =>
        split at h
        · exact toConnection_not_command h
        · exact toPlayer_not_command h
    · split
      · exact ⟨Dispatch.noConfusion, Dispatch.noConfusion⟩
      · split
        · exact ⟨Dispatch.noConfusion, Dispatch.noConfusion⟩
        · exact ⟨Dispatch.noConfusion, Dispatch.noConfusion⟩

theorem dispatchLine_slash {g : ChatGame} {sender : ChatSender} {line : CStr}
    (h : line.head? = some 47) : dispatchLine g sender line = .command line :=
  if_pos h

theorem dispatchLine_not_command (g : ChatGame) (sender : ChatSender)
    {line : CStr} (line' : CStr) (h : line.head? ≠ some 47) :
    dispatchLine g sender line ≠ .command line'
      ∧ dispatchLine g sender line ≠ .unset := by
  unfold dispatchLine
  rw [if_neg h]
  split
  · unfold toAllies
    split
    · exact ⟨Dispatch.noConfusion, Dispatch.noConfusion⟩
    · split
      · exact ⟨Dispatch.noConfusion, Dispatch.noConfusion⟩
      · exact ⟨Dispatch.noConfusion, Dispatch.noConfusion⟩
  · split
    · exact addressed_not_command g line' line _
    · exact ⟨Dispatch.noConfusion, Dispatch.noConfusion⟩

theorem head?_line {line : CStr} :
    (line.takeWhile fun b => !endsLine b).head? = some 47
      ↔ line.head? = some 47 :=
  head?_takeWhile (by decide)

end Freeciv3d.Server
