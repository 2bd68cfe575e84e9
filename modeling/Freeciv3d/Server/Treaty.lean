/-
A meeting of two players at the server: the treaty of `diptreaty.c` and the
handlers of `diplhand.c`, with the packets they send.

# What is left open

Whether a clause may be offered, kept or has lapsed depends on the rest of
the game: a request carries what these checks answer. What the players get
when a treaty comes into force is not part of the meeting, and the messages
to them are left out. The players of the computer answer with requests of their own.

# The moment of a packet

The server handles one request at a time and sends what it has buffered
between them: a packet goes with the treaty as the request leaves it.

# Execution

Treaties that come into force: the gold of two players, the checks of
`handle_diplomacy_accept_treaty_req` that look at it, and the execution of
the gold clauses.

# Two players, one treaty

The players are `a` and `b`; a treaty between them is found whoever asked
for it. The checks that ask the rest of the game come with a request, and
so do changes of gold by anything else.

# Ghosts

Beside the state of the server stand what each player has agreed to since
the treaty was opened, the executions so far, and whether the last handler
told the clients that the meeting is over.

# Mirrors

The two pictures a party has of a meeting: `diplomacy_clause_map` with the
dialogs of the web client, and `diplomacy_meetings` of the proxy; and the
meeting as a whole, with the packets on their way.

# The connections

Each side gets its packets in order. What either picture does depends on
the packets delivered to it only, so both are kept for both sides.

# What is left out

The contents of the dialogs and the log. The proxy's other reactions to a
treaty; what it proposes by itself is kept.
-/
import Freeciv3d.Lib.Dict
import Freeciv3d.Lib.Lts
import Freeciv3d.Server.DataioRaw

namespace Freeciv3d.Server

inductive ClauseType
  | advance | gold | map | seamap | city | ceasefire | peace | alliance
  | vision | embassy | sharedTiles
  deriving DecidableEq

def ClauseType.isPact : ClauseType → Bool
  | .ceasefire | .peace | .alliance => true
  | _ => false

/-- `struct Clause`; players by their number. -/
structure Clause where
  type : ClauseType
  giver : Nat
  value : Nat
  deriving DecidableEq

/-- The two parties of a meeting: `plr0` asked for it. -/
inductive Side
  | plr0 | plr1
  deriving DecidableEq

def Side.other : Side → Side
  | .plr0 => .plr1
  | .plr1 => .plr0

structure Treaty where
  accept0 : Bool
  accept1 : Bool
  clauses : List Clause
  deriving DecidableEq

def initTreaty : Treaty :=
  { accept0 := false, accept1 := false, clauses := [] }

namespace Treaty

variable (t : Treaty)

def accept : Side → Bool
  | .plr0 => t.accept0
  | .plr1 => t.accept1

def toggleAccept : Side → Treaty
  | .plr0 => { t with accept0 := !t.accept0 }
  | .plr1 => { t with accept1 := !t.accept1 }

/-- `remove_clause`, where it answers `TRUE`. -/
def removeClause (clause : Clause) : Option Treaty :=
  if clause ∈ t.clauses then
    some { accept0 := false, accept1 := false
           clauses := t.clauses.erase clause }
  else none

/-- The loop over the clauses of `add_clause`, and the clause appended
after it. -/
def addToClauses (clause : Clause) : List Clause → Option (List Clause)
  | [] => some [clause]
  | old :: rest =>
    if old = clause then none
    else if clause.type.isPact && old.type.isPact then
      some ({ old with type := clause.type } :: rest)
    else if clause.type = .gold ∧ old.type = .gold
        ∧ old.giver = clause.giver then
      some ({ old with value := clause.value } :: rest)
    else (addToClauses clause rest).map (old :: ·)

/-- `add_clause`, where it answers `TRUE`; `admits` is what its checks of
the rest of the game say. -/
def addClause (admits : Bool) (clause : Clause) : Option Treaty :=
  if admits then
    (addToClauses clause t.clauses).map fun clauses =>
      { accept0 := false, accept1 := false, clauses }
  else none

end Treaty

-- ==== the packets

/-- The packets of a meeting to one of its parties. -/
inductive TreatyPacket
  | initMeeting (counterpart initiatedFrom : Nat)
  | cancelMeeting (counterpart initiatedFrom : Nat)
  | createClause (counterpart : Nat) (clause : Clause)
  | removeClause (counterpart : Nat) (clause : Clause)
  | acceptTreaty (counterpart : Nat) (iAccepted otherAccepted : Bool)

/-- A field of a packet that is a `BOOL`, under its name in
`packets.def`. -/
def TreatyPacket.bool? (field : String) : TreatyPacket → Option Bool
  | .acceptTreaty _ iAccepted otherAccepted =>
    if field = "I_accepted" then some iAccepted
    else if field = "other_accepted" then some otherAccepted
    else none
  | _ => none

-- ==== the requests

/-- What the checks of `handle_diplomacy_accept_treaty_req` say of a clause
of the one who accepted first. -/
inductive Promise
  | holds
  /-- Its requirements do not hold any more: the handler returns. -/
  | lapsed
  /-- It cannot be given any more: the treaty is removed. -/
  | broken
  deriving DecidableEq

inductive TreatyRequest
  | createClause (clause : Clause) (admits : Bool)
  | removeClause (clause : Clause)
  /-- `keeps` says whether the one who accepts can keep a clause. -/
  | acceptTreaty (keeps : Clause → Bool) (promise : Clause → Promise)
  | cancelMeeting

/-- What a request leaves of the treaty, and what it sends to the one who
made it and to the other. -/
structure Handled where
  treaty : Option Treaty
  toPlayer : List TreatyPacket
  toOther : List TreatyPacket

structure Parties where
  plr0 : Nat
  plr1 : Nat

namespace Parties

variable (parties : Parties)

def number : Side → Nat
  | .plr0 => parties.plr0
  | .plr1 => parties.plr1

/-- The giver is one of the two. -/
def Gives (giver : Nat) : Prop :=
  giver = parties.plr0 ∨ giver = parties.plr1

instance (giver : Nat) : Decidable (parties.Gives giver) :=
  inferInstanceAs (Decidable (_ ∨ _))

def handleCreateClauseReq (t : Treaty) (side : Side) (clause : Clause)
    (admits : Bool) : Handled :=
  if parties.Gives clause.giver then
    match t.addClause admits clause with
    | some t' =>
      { treaty := some t'
        toPlayer :=
          [.createClause (parties.number side.other) clause]
        toOther := [.createClause (parties.number side) clause] }
    | none => { treaty := some t, toPlayer := [], toOther := [] }
  else { treaty := some t, toPlayer := [], toOther := [] }

def handleRemoveClauseReq (t : Treaty) (side : Side) (clause : Clause) :
    Handled :=
  if parties.Gives clause.giver then
    match t.removeClause clause with
    | some t' =>
      { treaty := some t'
        toPlayer :=
          [.removeClause (parties.number side.other) clause]
        toOther := [.removeClause (parties.number side) clause] }
    | none => { treaty := some t, toPlayer := [], toOther := [] }
  else { treaty := some t, toPlayer := [], toOther := [] }

/-- Whether a party may accept: it keeps what it promises. A pact is of
both. -/
def keepsAll (t : Treaty) (side : Side) (keeps : Clause → Bool) : Bool :=
  t.clauses.all fun clause =>
    !(clause.giver == parties.number side || clause.type.isPact)
      || keeps clause

/-- The first clause of the other party that does not hold any more. -/
def firstUnkept (t : Treaty) (side : Side) (promise : Clause → Promise) :
    Option Clause :=
  t.clauses.find? fun clause =>
    clause.giver == parties.number side.other
      && promise clause != .holds

def handleAcceptTreatyReq (t : Treaty) (side : Side)
    (keeps : Clause → Bool) (promise : Clause → Promise) : Handled :=
  if !t.accept side && !parties.keepsAll t side keeps then
    { treaty := some t, toPlayer := [], toOther := [] }
  else
    let t' := t.toggleAccept side
    let number := parties.number side
    let other := parties.number side.other
    let toPlayer := TreatyPacket.acceptTreaty other (t'.accept side)
      (t'.accept side.other)
    let toOther := TreatyPacket.acceptTreaty number
      (t'.accept side.other) (t'.accept side)
    if t'.accept0 && t'.accept1 then
      let lapsed :=
        (parties.firstUnkept t' side promise).map promise = some .lapsed
      -- with a lapsed clause the treaty stays, after the cancellation
      { treaty := if lapsed then some t' else none
        toPlayer := [toPlayer, .cancelMeeting other number]
        toOther := [toOther, .cancelMeeting number number] }
    else
      { treaty := some t', toPlayer := [toPlayer], toOther := [toOther] }

def handleCancelMeetingReq (side : Side) : Handled :=
  let number := parties.number side
  { treaty := none
    toPlayer := [.cancelMeeting (parties.number side.other) number]
    toOther := [.cancelMeeting number number] }

/-- A request of a party: nothing is done when there is no treaty. -/
def handle (treaty : Option Treaty) (side : Side)
    (request : TreatyRequest) : Handled :=
  match treaty with
  | none => { treaty := none, toPlayer := [], toOther := [] }
  | some t =>
    match request with
    | .createClause clause admits =>
      parties.handleCreateClauseReq t side clause admits
    | .removeClause clause =>
      parties.handleRemoveClauseReq t side clause
    | .acceptTreaty keeps promise =>
      parties.handleAcceptTreatyReq t side keeps promise
    | .cancelMeeting => parties.handleCancelMeetingReq side

end Parties

-- ==== treaties in force

open Lib

/-- The value of a clause in an `int`; the packet carries 32 bits. -/
def Clause.amount (c : Clause) : Int := int32 c.value

abbrev Purses := Nat → Int

/-- What is left of a value after `diplgoldcost` percent. -/
def goldReceived (cost : Nat) (c : Clause) : Int :=
  (int32 (c.amount * (100 - cost))).tdiv 100

def counterpart (a b p : Nat) : Nat := if p = a then b else a

/-- `case CLAUSE_GOLD` of the execution. -/
def giveGold (a b cost : Nat) (gold : Purses) (c : Clause) : Purses :=
  let dest := counterpart a b c.giver
  let gold := Function.update gold c.giver
    (int32 (gold c.giver - c.amount))
  Function.update gold dest (int32 (gold dest + goldReceived cost c))

/-- The execution of a treaty, as far as it is about gold. -/
def executeGold (a b cost : Nat) (gold : Purses) (clauses : List Clause) :
    Purses :=
  clauses.foldl (fun gold c =>
    if c.type = .gold then giveGold a b cost gold c else gold) gold

/-- What the checks of the rest of the game answer for a clause. -/
structure AcceptChecks where
  /-- The requirements of giver and receiver, as one accepts. -/
  reqs : Clause → Bool
  /-- An embassy, a technology, a city, a pact can be given. -/
  canGive : Clause → Bool
  /-- The requirements, for the one who accepted first. -/
  stillReqs : Clause → Bool
  stillGives : Clause → Bool

def AcceptChecks.keeps (k : AcceptChecks) (gold : Purses) (p : Nat)
    (c : Clause) : Bool :=
  (c.giver != p || k.reqs c) &&
    match c.type with
    | .gold => !decide (gold p < c.amount)
    | .embassy | .advance | .city | .ceasefire | .peace | .alliance =>
      k.canGive c
    | .map | .seamap | .vision | .sharedTiles => true

def AcceptChecks.promise (k : AcceptChecks) (gold : Purses) (other : Nat)
    (c : Clause) : Promise :=
  if !k.stillReqs c then .lapsed
  else
    match c.type with
    | .gold => if gold other < c.amount then .broken else .holds
    | .city | .ceasefire | .peace | .alliance =>
      if k.stillGives c then .holds else .broken
    | _ => .holds

inductive PlayerRequest
  | createClause (clause : Clause) (admits : Bool)
  | removeClause (clause : Clause)
  | acceptTreaty (checks : AcceptChecks)
  | cancelMeeting

def PlayerRequest.weigh (gold : Purses) (p other : Nat) :
    PlayerRequest → TreatyRequest
  | .createClause clause admits => .createClause clause admits
  | .removeClause clause => .removeClause clause
  | .acceptTreaty k => .acceptTreaty (k.keeps gold p) (k.promise gold other)
  | .cancelMeeting => .cancelMeeting

namespace Parties

variable (parties : Parties)

def sideOf (p : Nat) : Side := if p = parties.plr0 then .plr0 else .plr1

/-- The second of two acceptances, which passes its own checks. -/
def Agrees (t : Treaty) (side : Side) (keeps : Clause → Bool) : Prop :=
  t.accept side = false ∧ t.accept side.other = true ∧
    parties.keepsAll t side keeps = true

instance (t : Treaty) (side : Side) (keeps : Clause → Bool) :
    Decidable (parties.Agrees t side keeps) :=
  inferInstanceAs (Decidable (_ ∧ _ ∧ _))

/-- The handler comes to the execution of the treaty. -/
def Executes (t : Treaty) (side : Side) : TreatyRequest → Prop
  | .acceptTreaty keeps promise =>
    parties.Agrees t side keeps ∧
      parties.firstUnkept t side promise = none
  | _ => False

instance (t : Treaty) (side : Side) :
    DecidablePred (parties.Executes t side)
  | .acceptTreaty _ _ => inferInstanceAs (Decidable (_ ∧ _))
  | .createClause _ _ => instDecidableFalse
  | .removeClause _ => instDecidableFalse
  | .cancelMeeting => instDecidableFalse

end Parties

def TreatyPacket.isCancel : TreatyPacket → Bool
  | .cancelMeeting _ _ => true
  | _ => false

structure Execution where
  clauses : List Clause
  consent : Nat → Option (List Clause)
  before : Purses
  after : Purses

structure Negotiation where
  treaty : Option (Parties × Treaty)
  gold : Purses
  consent : Nat → Option (List Clause)
  executed : List Execution
  /-- The last handler has sent the cancel-meeting packets. -/
  ended : Bool

/-- What a player has agreed to after a request: accepting the treaty and
taking it back count. -/
def consentAfter (consent : Nat → Option (List Clause)) (p : Nat)
    (t : Treaty) (side : Side) (handled : Option Treaty) :
    PlayerRequest → Nat → Option (List Clause)
  | .acceptTreaty _ =>
    if handled = some t then consent
    else
      Function.update consent p
        (if t.accept side then none else some t.clauses)
  | _ => consent

inductive TreatyEvent
  /-- `handle_diplomacy_init_meeting_req`; `meets` says whether the two
  could meet. -/
  | initMeeting (p : Nat) (meets : Bool)
  | request (p : Nat) (r : PlayerRequest)
  | gold (gold : Purses)

def PlayerRequest.Fits : PlayerRequest → Prop
  | .createClause clause _ => clause.value < 2 ^ 32
  | .removeClause clause => clause.value < 2 ^ 32
  | _ => True

instance : DecidablePred PlayerRequest.Fits
  | .createClause _ _ => inferInstanceAs (Decidable (_ < _))
  | .removeClause _ => inferInstanceAs (Decidable (_ < _))
  | .acceptTreaty _ => instDecidableTrue
  | .cancelMeeting => instDecidableTrue

namespace Negotiation

variable (a b cost : Nat) (s : Negotiation)

def request (p : Nat) (r : PlayerRequest) (parties : Parties)
    (t : Treaty) : Negotiation :=
  let side := parties.sideOf p
  let weighed := r.weigh s.gold p (counterpart a b p)
  let handled := parties.handle (some t) side weighed
  let consent := consentAfter s.consent p t side handled.treaty r
  let after := executeGold a b cost s.gold t.clauses
  { treaty := handled.treaty.map (parties, ·)
    gold := if parties.Executes t side weighed then after else s.gold
    consent := consent
    executed :=
      if parties.Executes t side weighed then
        s.executed ++ [⟨t.clauses, consent, s.gold, after⟩]
      else s.executed
    ended := handled.toPlayer.any TreatyPacket.isCancel }

def step : TreatyEvent → Option Negotiation
  | .initMeeting p meets =>
    if p = a ∨ p = b then
      some (if meets && s.treaty.isNone then
        { s with
          treaty := some (⟨p, counterpart a b p⟩, initTreaty)
          consent := fun _ => none
          ended := false }
      else s)
    else none
  | .request p r =>
    if (p = a ∨ p = b) ∧ r.Fits then
      some (match s.treaty with
      | none => { s with ended := false }
      | some (parties, t) => s.request a b cost p r parties t)
    else none
  | .gold gold =>
    if Width.sint32.Fits (gold a) ∧ Width.sint32.Fits (gold b) then
      some { s with gold := gold }
    else none

def start (gold : Purses) : Negotiation where
  treaty := none
  gold := gold
  consent _ := none
  executed := []
  ended := false

end Negotiation

def negotiations (a b cost : Nat) : Lts Negotiation TreatyEvent where
  init s := ∃ gold : Purses, Width.sint32.Fits (gold a) ∧
    Width.sint32.Fits (gold b) ∧ s = .start gold
  step s e := s.step a b cost e

-- ==== the web client

/-- A clause as the web client keeps it: the packet it came with. -/
structure WebClause where
  counterpart : Nat
  clause : Clause

/-- What `diplomacy.js` keeps of meetings. -/
structure WebDiplomacy where
  diplomacyClauseMap : Dict Nat (List WebClause)
  dialogs : List Nat

namespace WebDiplomacy

variable (w : WebDiplomacy)

/-- `diplomacy_clause_map[counterpart] = []` and
`cleanup_diplomacy_dialog`. -/
def cancelMeeting (counterpart : Nat) : WebDiplomacy :=
  { diplomacyClauseMap := w.diplomacyClauseMap.set counterpart []
    dialogs := w.dialogs.filter (· ≠ counterpart) }

/-- The condition of `remove_clause` in `diplomacy.js`. -/
def matchesRemoved (counterpart : Nat) (clause : Clause)
    (check : WebClause) : Bool :=
  counterpart == check.counterpart && clause.giver == check.clause.giver
    && clause.type == check.clause.type

/-- The handlers `handle_diplomacy_…` of `packhand.js`. -/
def receive : TreatyPacket → WebDiplomacy
  | .initMeeting counterpart _ =>
    { diplomacyClauseMap := w.diplomacyClauseMap.set counterpart []
      dialogs := counterpart :: w.dialogs }
  | .cancelMeeting counterpart _ => w.cancelMeeting counterpart
  | .createClause counterpart clause =>
    let clauses := (w.diplomacyClauseMap.get? counterpart).getD []
    { w with
      diplomacyClauseMap := w.diplomacyClauseMap.set counterpart
        (clauses ++ [{ counterpart, clause }]) }
  | .removeClause counterpart clause =>
    match w.diplomacyClauseMap.get? counterpart with
    -- `clause_list.length` throws
    | none => w
    | some clauses =>
      { w with
        diplomacyClauseMap := w.diplomacyClauseMap.set counterpart
          (clauses.eraseP (matchesRemoved counterpart clause)) }
  | .acceptTreaty counterpart iAccepted otherAccepted =>
    let packet :=
      TreatyPacket.acceptTreaty counterpart iAccepted otherAccepted
    if packet.bool? "I_accepted" = some true
        ∧ packet.bool? "other_accepted" = some true then
      w.cancelMeeting counterpart
    else w

end WebDiplomacy

-- ==== the proxy

/-- An entry of `diplomacy_meetings`. -/
structure ProxyMeeting where
  clauses : List Clause
  acceptSelf : Bool
  acceptOther : Bool

/-- What `CivCom` keeps of meetings. -/
structure ProxyDiplomacy where
  diplomacyMeetings : Dict Nat ProxyMeeting
  visionSharedWith : List Nat
  /-- The counterparts it has proposed shared vision to. -/
  proposed : List Nat

/-- The part of `parse_and_store_packet` that is about meetings. -/
def ProxyDiplomacy.receive (p : ProxyDiplomacy) :
    TreatyPacket → ProxyDiplomacy
  | .initMeeting counterpart _ =>
    { p with
      diplomacyMeetings := p.diplomacyMeetings.set counterpart
        { clauses := [], acceptSelf := false, acceptOther := false } }
  | .createClause counterpart clause =>
    match p.diplomacyMeetings.get? counterpart with
    | none => p
    | some meeting =>
      { p with
        diplomacyMeetings := p.diplomacyMeetings.set counterpart
          { clauses := meeting.clauses ++ [clause]
            acceptSelf := false, acceptOther := false } }
  | .acceptTreaty counterpart iAccepted otherAccepted =>
    let packet :=
      TreatyPacket.acceptTreaty counterpart iAccepted otherAccepted
    let acceptSelf := (packet.bool? "i_accepted").getD false
    let acceptOther := (packet.bool? "other_accepted").getD false
    match p.diplomacyMeetings.get? counterpart with
    | none => p
    | some meeting =>
      let p := { p with
        diplomacyMeetings := p.diplomacyMeetings.set counterpart
          { meeting with acceptSelf, acceptOther } }
      if acceptSelf && acceptOther
          && meeting.clauses.any (·.type.isPact)
          && !p.visionSharedWith.contains counterpart then
        { p with
          visionSharedWith := counterpart :: p.visionSharedWith
          proposed := p.proposed ++ [counterpart] }
      else p
  | .cancelMeeting counterpart _ =>
    { p with
      diplomacyMeetings := p.diplomacyMeetings.erase counterpart }
  -- there is no branch for PACKET_DIPLOMACY_REMOVE_CLAUSE
  | .removeClause _ _ => p

-- ==== the meeting

/-- The server's treaty, the packets on their way, each with the treaty
it was sent about, and what the sides have of the meeting. -/
structure Meeting where
  treaty : Option Treaty
  queue : Side → List (TreatyPacket × Option Treaty)
  web : Side → WebDiplomacy
  proxy : Side → ProxyDiplomacy
  /-- The treaty the last packet delivered to a side was sent about. -/
  told : Side → Option (Option Treaty)

inductive MeetingAct
  | request (side : Side) (request : TreatyRequest)
  | deliver (side : Side)

namespace Meeting

variable (s : Meeting)

def request (parties : Parties) (side : Side) (request : TreatyRequest) :
    Meeting :=
  let out := parties.handle s.treaty side request
  { s with
    treaty := out.treaty
    queue := fun q =>
      s.queue q ++ (if q = side then out.toPlayer else out.toOther).map
        fun packet => (packet, out.treaty) }

def deliver (side : Side) : Option Meeting :=
  match s.queue side with
  | [] => none
  | (packet, treaty) :: rest =>
    some { s with
      queue := fun q => if q = side then rest else s.queue q
      web := fun q =>
        if q = side then (s.web q).receive packet else s.web q
      proxy := fun q =>
        if q = side then (s.proxy q).receive packet else s.proxy q
      told := fun q => if q = side then some treaty else s.told q }

def act (parties : Parties) : MeetingAct → Option Meeting
  | .request side request => some (s.request parties side request)
  | .deliver side => s.deliver side

/-- The treaty has just been made, for `initiator`; nothing is delivered
yet. -/
structure Begun (parties : Parties) (initiator : Side) : Prop where
  treaty : s.treaty = some initTreaty
  queue : ∀ q, s.queue q
    = [(.initMeeting (parties.number q.other) (parties.number initiator),
        some initTreaty)]
  told : ∀ q, s.told q = none

end Meeting

/-- The runs of one meeting, whatever the sides had before. -/
def meetingRuns (parties : Parties) (initiator : Side) :
    Lts Meeting MeetingAct where
  init s := s.Begun parties initiator
  step s a := s.act parties a

end Freeciv3d.Server
