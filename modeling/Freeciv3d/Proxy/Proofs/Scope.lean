/-
What a scoped credential gets done at the endpoints of a game.

# The two GETs

They compare the player they have sanitized, an integer, with the text
of the credential's player. The two are never equal, so no scoped
credential passes, its own player's included
(`acceptQuery_passes`, `playerMismatch_scoped`).

# The two POSTs

They ask for a caller and then never look at who it is: what they let
through depends on the request and the registry only
(`ForceEndTurnHandler.accept_passes`, `TerminateGameHandler.accept_passes`).

`scope_kept_iff` puts both together: a request keeps the scope just if
it is none that should have passed a GET, and none that leaves the
scope at a POST.
-/
import Freeciv3d.Proxy.Endpoints

namespace Freeciv3d.Proxy.Http

open Lib Guarded

-- ==== what a handler gets done

/-- From `w`, the handler adds `l` to what is performed. -/
def Performs {α : Type} (x : Handler α) (w : ApiWorld)
    (l : List ApiAction) : Prop :=
  (x.eval w).2.performed = w.performed ++ l

/-- Nothing is performed, however the handler ends. -/
abbrev Quiet {α : Type} (x : Handler α) : Prop := Frame ApiWorld.performed x

theorem Performs.of_quiet {α : Type} {x : Handler α} (h : Quiet x)
    (w : ApiWorld) : Performs x w [] := by
  show (x.eval w).2.performed = w.performed ++ []
  rw [List.append_nil]
  exact h w

theorem Performs.bind {α β : Type} {x : Handler α} {f : α → Handler β}
    {w t : ApiWorld} {a : α} {l l' : List ApiAction} (hx : Performs x w l)
    (hp : x.Passes w a t) (hf : Performs (f a) t l') :
    Performs (x >>= f) w (l ++ l') := by
  unfold Performs at *
  unfold Passes at hp
  rw [eval_bind, hp]
  rw [hp] at hx
  rw [← List.append_assoc, ← hx]
  exact hf

theorem Performs.bind_of_not_passes {α β : Type} {x : Handler α}
    {f : α → Handler β} {w : ApiWorld} {l : List ApiAction}
    (hx : Performs x w l) (hp : ∀ a t, ¬ x.Passes w a t) :
    Performs (x >>= f) w l := by
  unfold Performs at *
  rw [eval_bind]
  rcases hr : x.eval w with ⟨r, t⟩
  cases r with
  | ok a => exact absurd hr (hp a t)
  | error e =>
    rw [hr] at hx
    exact hx

theorem Performs.bind_quiet {α β : Type} {x : Handler α}
    {f : α → Handler β} {w : ApiWorld} {l : List ApiAction}
    (hx : Performs x w l) (hf : ∀ a, Quiet (f a)) :
    Performs (x >>= f) w l := by
  unfold Performs at *
  rw [eval_bind]
  rcases hr : x.eval w with ⟨r, t⟩
  rw [hr] at hx
  cases r with
  | ok a => exact (hf a t).trans hx
  | error e => exact hx

theorem performs_perform (a : ApiAction) (w : ApiWorld) :
    Performs (perform a) w [a] := rfl

-- ==== the checks

variable {c : Setting}

theorem requireCaller_passes {r : Request} {perm : String} {w t : ApiWorld}
    {caller : Caller} :
    (requireCaller c r perm).Passes w caller t
      ↔ (authenticateRequest c r perm w.authenticator).1 = some caller
        ∧ { w with authenticator :=
              (authenticateRequest c r perm w.authenticator).2 } = t := by
  unfold requireCaller
  rw [passes_bind]
  constructor
  · intro hall
    rcases hall with ⟨a, u, ha, hu⟩
    obtain ⟨rfl, rfl⟩ := passes_step.mp ha
    exact passes_ofOption.mp hu
  · intro h
    exact ⟨_, _, passes_step.mpr ⟨rfl, rfl⟩, passes_ofOption.mpr h⟩

theorem requireCaller_quiet (r : Request) (perm : String) :
    Quiet (requireCaller c r perm) :=
  .bind (.step fun _ => rfl) fun _ => .ofOption _ _

theorem requireLimits_quiet (onException : Raised → Reply) (r : Request)
    (p : Int) : Quiet (requireLimits c onException r p) := by
  refine .bind (.step fun _ => rfl) fun answer => ?_
  intro w
  split <;> rfl

theorem acceptQuery_quiet (onException : Raised → Reply) (perm : String)
    (r : Request) (p : Int) (format : String) (since : Option Int) :
    Quiet (acceptQuery c onException perm r p format since) :=
  .bind (requireCaller_quiet r perm) fun _ =>
    .bind (.require _ _) fun _ =>
      .bind (.ofExcept _ _) fun _ =>
        .bind (requireLimits_quiet onException r _) fun _ => .pure _

theorem playerArgument_quiet (onException : Raised → Reply) (r : Request) :
    Quiet (playerArgument c onException r) :=
  .bind (.ofOption _ _) fun _ => .ofExcept _ _

theorem acceptQuery_passes {onException : Raised → Reply} {perm : String}
    {r : Request} {p : Int} {format : String} {since : Option Int}
    {w t : ApiWorld} {q : Query}
    (h : (acceptQuery c onException perm r p format since).Passes w q t) :
    ∃ caller, (authenticateRequest c r perm w.authenticator).1 = some caller
      ∧ caller.playerId = none := by
  unfold acceptQuery at h
  obtain ⟨caller, u, hcaller, h⟩ := passes_bind.mp h
  obtain ⟨_, _, hmatch, _⟩ := passes_bind.mp h
  refine ⟨caller, (requireCaller_passes.mp hcaller).1, ?_⟩
  obtain ⟨hmatch, -⟩ := passes_require.mp hmatch
  cases hp : caller.playerId with
  | none => rfl
  | some a =>
    unfold playerMismatch at hmatch
    rw [hp] at hmatch
    cases hmatch

-- ==== the GETs

namespace StateExtractorHandler

theorem accept_quiet (r : Request) : Quiet (accept c r) :=
  .bind (playerArgument_quiet _ r) fun _ =>
    .bind (.require _ _) fun _ =>
      .bind (.ofExcept _ _) fun _ => acceptQuery_quiet _ _ r _ _ _

theorem accept_passes {r : Request} {w t : ApiWorld} {q : Query}
    (h : (accept c r).Passes w q t) :
    ∃ caller, (authenticateRequest c r "state_read" w.authenticator).1
        = some caller ∧ caller.playerId = none := by
  unfold accept at h
  obtain ⟨p, u, hp, h⟩ := passes_bind.mp h
  obtain ⟨_, u', hformat, h⟩ := passes_bind.mp h
  obtain ⟨since, u'', hsince, h⟩ := passes_bind.mp h
  obtain ⟨raw, v, hraw, hp⟩ := passes_bind.mp hp
  obtain ⟨-, rfl⟩ := passes_ofOption.mp hraw
  obtain ⟨-, rfl⟩ := passes_ofExcept.mp hp
  obtain ⟨-, rfl⟩ := passes_require.mp hformat
  obtain ⟨-, rfl⟩ := passes_ofExcept.mp hsince
  exact acceptQuery_passes h

end StateExtractorHandler

namespace LegalActionsHandler

theorem accept_quiet (r : Request) : Quiet (accept c r) :=
  .bind (playerArgument_quiet _ r) fun _ => acceptQuery_quiet _ _ r _ _ _

theorem accept_passes {r : Request} {w t : ApiWorld} {q : Query}
    (h : (accept c r).Passes w q t) :
    ∃ caller, (authenticateRequest c r "actions_read" w.authenticator).1
        = some caller ∧ caller.playerId = none := by
  unfold accept at h
  obtain ⟨p, u, hp, h⟩ := passes_bind.mp h
  obtain ⟨raw, v, hraw, hp⟩ := passes_bind.mp hp
  obtain ⟨-, rfl⟩ := passes_ofOption.mp hraw
  obtain ⟨-, rfl⟩ := passes_ofExcept.mp hp
  exact acceptQuery_passes h

end LegalActionsHandler

-- ==== the POSTs

theorem gameIdArgument_passes {r : Request} {w t : ApiWorld} {g : GameId} :
    (gameIdArgument c r).Passes w g t
      ↔ InputSanitizer.sanitizeGameId c.env.chars r.gameId = .ok g
        ∧ w = t :=
  passes_ofExcept

/-- What `force_end_turn` asks for: the `CivCom`s of the agents the
body names, in the game of the path. -/
structure ForcedTurns (c : Setting) (w : ApiWorld) (r : Request)
    (o : ForceEndTurnHandler.Order) : Prop where
  gameId : InputSanitizer.sanitizeGameId c.env.chars r.gameId = .ok o.gameId
  targets : ∃ fields agentId, r.body.fields = .ok fields
    ∧ ForceEndTurnHandler.agentArgument c fields = .ok agentId
    ∧ ForceEndTurnHandler.targets w o.gameId agentId = .ok o.targets

structure Termination (c : Setting) (r : Request) (g : GameId)
    (mode : TerminateMode) : Prop where
  gameId : InputSanitizer.sanitizeGameId c.env.chars r.gameId = .ok g
  mode : ∃ fields, r.body.fields = .ok fields
    ∧ TerminateGameHandler.modeArgument fields = .ok mode

namespace ForceEndTurnHandler

theorem accept_quiet (r : Request) : Quiet (accept c r) :=
  .bind (.ofExcept _ _) fun _ =>
    .bind (requireCaller_quiet r _) fun _ =>
      .bind (.ofExcept _ _) fun _ =>
        .bind (.ofExcept _ _) fun _ =>
          .bind (.step fun _ => rfl) fun _ =>
            .bind (.ofExcept _ _) fun _ => .pure _

theorem accept_passes {r : Request} {w t : ApiWorld} {o : Order} :
    (accept c r).Passes w o t
      ↔ ForcedTurns c w r o
        ∧ (authenticateRequest c r "actions_read" w.authenticator).1.isSome
        ∧ { w with authenticator :=
              (authenticateRequest c r "actions_read" w.authenticator).2 }
            = t := by
  unfold accept
  simp only [passes_bind, gameIdArgument_passes, requireCaller_passes,
    passes_ofExcept, passes_step, passes_pure]
  constructor
  · rintro ⟨g, _, ⟨hg, rfl⟩, caller, _, ⟨hcaller, rfl⟩, fields, _,
      ⟨hfields, rfl⟩, agentId, _, ⟨hagent, rfl⟩, _, _, ⟨rfl, rfl⟩, ts, _,
      ⟨hts, rfl⟩, rfl, rfl⟩
    exact ⟨⟨hg, fields, agentId, hfields, hagent, hts⟩,
      Option.isSome_of_mem hcaller, rfl⟩
  · rintro ⟨⟨hg, fields, agentId, hfields, hagent, hts⟩, hsome, rfl⟩
    obtain ⟨caller, hcaller⟩ := Option.isSome_iff_exists.mp hsome
    exact ⟨_, _, ⟨hg, rfl⟩, _, _, ⟨hcaller, rfl⟩, _, _, ⟨hfields, rfl⟩,
      _, _, ⟨hagent, rfl⟩, _, _, ⟨rfl, rfl⟩, _, _, ⟨hts, rfl⟩, rfl, rfl⟩

theorem endTurns_performs (g : GameId) (ts : List (AgentId × CivComId))
    (w : ApiWorld) :
    Performs (endTurns c g ts) w
      (ts.map fun t => .endTurn g t.1 (w.civcoms t.2).playerId) := by
  induction ts generalizing w with
  | nil => exact .of_quiet (.pure _) w
  | cons target rest ih =>
    have hone : Performs (endTurn c g target) w
        [.endTurn g target.1 (w.civcoms target.2).playerId] := rfl
    -- the next targets are looked up in the same heap
    exact hone.bind (passes_step.mpr ⟨rfl, rfl⟩)
      ((ih _).bind_quiet fun _ => .pure _)

theorem post_performs {r : Request} {w : ApiWorld}
    (h : (authenticateRequest c r "actions_read" w.authenticator).1.isSome) :
    (∀ o, ForcedTurns c w r o → Performs (post c r) w
        (o.targets.map fun t =>
          .endTurn o.gameId t.1 (w.civcoms t.2).playerId))
      ∧ ((∀ o, ¬ ForcedTurns c w r o) → Performs (post c r) w []) := by
  have hquiet := Performs.of_quiet (accept_quiet (c := c) r) w
  unfold post
  constructor
  · intro o ho
    have hp := accept_passes.mpr ⟨ho, h, rfl⟩
    exact hquiet.bind hp
      ((endTurns_performs o.gameId o.targets _).bind_quiet fun _ => .pure _)
  · intro hnone
    refine hquiet.bind_of_not_passes fun o t hp => ?_
    exact hnone o (accept_passes.mp hp).1

end ForceEndTurnHandler

namespace TerminateGameHandler

theorem accept_quiet (r : Request) : Quiet (accept c r) :=
  .bind (.ofExcept _ _) fun _ =>
    .bind (requireCaller_quiet r _) fun _ =>
      .bind (.ofExcept _ _) fun _ =>
        .bind (.ofExcept _ _) fun _ => .pure _

theorem accept_passes {r : Request} {w t : ApiWorld}
    {o : GameId × TerminateMode} :
    (accept c r).Passes w o t
      ↔ Termination c r o.1 o.2
        ∧ (authenticateRequest c r "actions_read" w.authenticator).1.isSome
        ∧ { w with authenticator :=
              (authenticateRequest c r "actions_read" w.authenticator).2 }
            = t := by
  unfold accept
  simp only [passes_bind, gameIdArgument_passes, requireCaller_passes,
    passes_ofExcept, passes_pure]
  constructor
  · rintro ⟨g, _, ⟨hg, rfl⟩, caller, _, ⟨hcaller, rfl⟩, fields, _,
      ⟨hfields, rfl⟩, mode, _, ⟨hmode, rfl⟩, rfl, rfl⟩
    exact ⟨⟨hg, fields, hfields, hmode⟩, Option.isSome_of_mem hcaller, rfl⟩
  · rintro ⟨⟨hg, fields, hfields, hmode⟩, hsome, rfl⟩
    obtain ⟨caller, hcaller⟩ := Option.isSome_iff_exists.mp hsome
    exact ⟨_, _, ⟨hg, rfl⟩, _, _, ⟨hcaller, rfl⟩, _, _, ⟨hfields, rfl⟩,
      _, _, ⟨hmode, rfl⟩, rfl, rfl⟩

theorem post_performs {r : Request} {w : ApiWorld}
    (h : (authenticateRequest c r "actions_read" w.authenticator).1.isSome) :
    (∀ g mode, Termination c r g mode →
        Performs (post c r) w [.terminate g mode])
      ∧ ((∀ g mode, ¬ Termination c r g mode) →
        Performs (post c r) w []) := by
  have hquiet := Performs.of_quiet (accept_quiet (c := c) r) w
  unfold post
  constructor
  · intro g mode ho
    have hp := (accept_passes (o := (g, mode))).mpr ⟨ho, h, rfl⟩
    refine hquiet.bind hp ((performs_perform _ _).bind_quiet fun _ => ?_)
    exact .bind (.ofExcept _ _) fun _ => .pure _
  · intro hnone
    refine hquiet.bind_of_not_passes fun o t hp => ?_
    exact hnone o.1 o.2 (accept_passes.mp hp).1

end TerminateGameHandler

-- ==== the scope

variable (c)

def newly (w : ApiWorld) (e : Endpoint) (r : Request) : List ApiAction :=
  (handle c w e r).2.performed.drop w.performed.length

/-- A game is the credential's, or the credential is for the global
game. -/
def InGame (g gameId : GameId) : Prop := gameId = g ∨ g = "global"

instance (g gameId : GameId) : Decidable (InGame g gameId) :=
  inferInstanceAs (Decidable (_ ∨ _))

/-- Work within the scope of a credential for player `p` of game
`g`. -/
def ApiAction.InScope (p : Int) (g : GameId) : ApiAction → Prop
  | extractState gameId playerId _ _ => InGame g gameId ∧ playerId = p
  | getLegalActions gameId playerId => InGame g gameId ∧ playerId = p
  | endTurn gameId _ playerId => InGame g gameId ∧ playerId = some p
  | terminate gameId _ => InGame g gameId

/-- A GET whose parameters are in order, for player `p`. -/
structure WellFormed (e : Endpoint) (r : Request) (p : Int) : Prop where
  playerId : (r.arguments.get? "player_id").bind (PyStr.toInt c.env.chars)
    = some p
  range : 0 ≤ p ∧ p ≤ 29
  gameId : PyStr.isBlank r.gameId = false ∧ r.gameId.length ≤ 50
    ∧ gameIdChars c r.gameId = true
  format : e = .state →
    (StateFormat.ofValue ((r.arguments.get? "format").getD "full")).isSome
  sinceTurn : e = .state → ∀ raw, r.arguments.get? "since_turn" = some raw →
    ∃ t, PyStr.toInt c.env.chars raw = some t ∧ 0 ≤ t
      ∧ t ≤ c.maxTurnNumber ∧ t ≤ 10000

/-- A GET of the credential's own player and game, within the rate
limits. -/
structure OwnQuery (w : ApiWorld) (e : Endpoint) (r : Request) (p : Int)
    (g : GameId) : Prop where
  get : e = .state ∨ e = .legalActions
  wellFormed : WellFormed c e r p
  inGame : InGame g r.gameId
  limits : w.apiRateLimiter.WithinLimits p r.clientIp c.now

/-- A request of a credential for player `p` of game `g` keeps its
scope: what it gets done is in the scope, and a query of its own is not
refused. -/
structure ScopeKept (w : ApiWorld) (e : Endpoint) (r : Request) (p : Int)
    (g : GameId) : Prop where
  contained : ∀ a ∈ newly c w e r, a.InScope p g
  served : OwnQuery c w e r p g → newly c w e r ≠ []

/-- The requests that keep the scope: no GET of one's own, no forced
turn of another player or game, no termination of another game. -/
def Harmless (w : ApiWorld) (e : Endpoint) (r : Request) (p : Int)
    (g : GameId) : Prop :=
  match e with
  | .state => ¬ OwnQuery c w .state r p g
  | .legalActions => ¬ OwnQuery c w .legalActions r p g
  | .forceEndTurn => ∀ o, ForcedTurns c w r o → ∀ t ∈ o.targets,
      InGame g o.gameId ∧ (w.civcoms t.2).playerId = some p
  | .terminate => ∀ gameId mode, Termination c r gameId mode →
      InGame g gameId

variable {c}

theorem newly_eq {w : ApiWorld} {e : Endpoint} {r : Request}
    {l : List ApiAction} (h : Performs (e.handler c r) w l) :
    newly c w e r = l := by
  have hworld : (handle c w e r).2 = ((e.handler c r).eval w).2 := by
    unfold handle
    split <;> simp [*]
  unfold newly
  rw [hworld, h, List.drop_left]

theorem newly_state {w : ApiWorld} {r : Request} {p : Int} {g : GameId}
    (h : (authenticateRequest c r "state_read" w.authenticator).1
      = some (.scoped p g)) : newly c w .state r = [] := by
  refine newly_eq (Performs.bind_of_not_passes
    (.of_quiet (StateExtractorHandler.accept_quiet r) w) fun q t hq => ?_)
  obtain ⟨caller, hcaller, hnone⟩ := StateExtractorHandler.accept_passes hq
  rw [h] at hcaller
  cases hcaller
  cases hnone

theorem newly_legalActions {w : ApiWorld} {r : Request} {p : Int}
    {g : GameId}
    (h : (authenticateRequest c r "actions_read" w.authenticator).1
      = some (.scoped p g)) : newly c w .legalActions r = [] := by
  refine newly_eq (Performs.bind_of_not_passes
    (.of_quiet (LegalActionsHandler.accept_quiet r) w) fun q t hq => ?_)
  obtain ⟨caller, hcaller, hnone⟩ := LegalActionsHandler.accept_passes hq
  rw [h] at hcaller
  cases hcaller
  cases hnone

/-- Where nothing is got done, the scope is kept but for one's own
queries. -/
theorem scopeKept_of_nil {w : ApiWorld} {e : Endpoint} {r : Request}
    {p : Int} {g : GameId} (h : newly c w e r = []) :
    ScopeKept c w e r p g ↔ ¬ OwnQuery c w e r p g := by
  constructor
  · intro hk hown
    exact hk.served hown h
  · intro hown
    refine ⟨?_, fun h => absurd h hown⟩
    rw [h]
    intro a ha
    cases ha

theorem scopeKept_post {w : ApiWorld} {e : Endpoint} {r : Request}
    {p : Int} {g : GameId} (h : e = .forceEndTurn ∨ e = .terminate) :
    ScopeKept c w e r p g ↔ ∀ a ∈ newly c w e r, a.InScope p g := by
  refine ⟨ScopeKept.contained, fun hc => ⟨hc, fun hown => ?_⟩⟩
  rcases hown.get with rfl | rfl <;> rcases h with h | h <;> cases h

theorem forall_newly_forceEndTurn {w : ApiWorld} {r : Request}
    (h : (authenticateRequest c r "actions_read" w.authenticator).1.isSome)
    (P : ApiAction → Prop) :
    (∀ a ∈ newly c w .forceEndTurn r, P a)
      ↔ ∀ o, ForcedTurns c w r o → ∀ t ∈ o.targets,
        P (.endTurn o.gameId t.1 (w.civcoms t.2).playerId) := by
  obtain ⟨hdone, hnone⟩ := ForceEndTurnHandler.post_performs h
  constructor
  · intro hc o ho t ht
    rw [newly_eq (e := .forceEndTurn) (hdone o ho)] at hc
    exact hc _ (List.mem_map_of_mem ht)
  · intro hh a ha
    by_cases ho : ∃ o, ForcedTurns c w r o
    · obtain ⟨o, ho⟩ := ho
      rw [newly_eq (e := .forceEndTurn) (hdone o ho)] at ha
      obtain ⟨t, ht, rfl⟩ := List.mem_map.mp ha
      exact hh o ho t ht
    · rw [newly_eq (e := .forceEndTurn) (hnone (not_exists.mp ho))] at ha
      cases ha

theorem forall_newly_terminate {w : ApiWorld} {r : Request}
    (h : (authenticateRequest c r "actions_read" w.authenticator).1.isSome)
    (P : ApiAction → Prop) :
    (∀ a ∈ newly c w .terminate r, P a)
      ↔ ∀ g mode, Termination c r g mode → P (.terminate g mode) := by
  obtain ⟨hdone, hnone⟩ := TerminateGameHandler.post_performs h
  constructor
  · intro hc g mode ho
    rw [newly_eq (e := .terminate) (hdone g mode ho)] at hc
    exact hc _ (List.mem_singleton_self _)
  · intro hh a ha
    by_cases ho : ∃ g mode, Termination c r g mode
    · obtain ⟨g, mode, ho⟩ := ho
      rw [newly_eq (e := .terminate) (hdone g mode ho),
        List.mem_singleton] at ha
      subst ha
      exact hh g mode ho
    · have hno : ∀ g mode, ¬ Termination c r g mode := by
        intro g mode hT
        exact ho ⟨g, mode, hT⟩
      rw [newly_eq (e := .terminate) (hnone hno)] at ha
      cases ha

/-- **A request of a scoped credential keeps its scope just if it is
harmless**: no GET keeps out what it should let in, no POST leaves the
game or the player. -/
theorem scope_kept_iff (w : ApiWorld) (e : Endpoint) (r : Request) (p : Int)
    (g : GameId)
    (h : (authenticateRequest c r e.requiredPermission w.authenticator).1
      = some (.scoped p g)) :
    ScopeKept c w e r p g ↔ Harmless c w e r p g := by
  cases e with
  | state => exact scopeKept_of_nil (newly_state h)
  | legalActions => exact scopeKept_of_nil (newly_legalActions h)
  | forceEndTurn =>
    rw [scopeKept_post (.inl rfl)]
    exact forall_newly_forceEndTurn (Option.isSome_of_mem h) _
  | terminate =>
    rw [scopeKept_post (.inr rfl)]
    exact forall_newly_terminate (Option.isSome_of_mem h) _

-- ==== an example

namespace Example

/-- A server with authentication on and idle limits. -/
def setting : Setting where
  env :=
    { getenv := fun _ => none
      chars := .ascii
      hexdigest := fun _ _ => "5e884898da28047151d0e56f8dc6292773603d0d"
      llmConfig := some ⟨true, 10, ["orchestrator-token"]⟩ }
  maxTurnNumber := 10000
  backend :=
    { extractState := fun _ _ _ _ => .ok "state"
      getLegalActions := fun _ _ => .ok "actions"
      terminate := fun _ _ => .ok "terminated"
      sendsOk := fun _ => true }
  now := 1000

/-- Player 3 of `game1` has a session; bob plays player 5 in
`game2`. -/
def world : ApiWorld where
  authenticator :=
    { apiKeySecret := none
      activeSessions := Dict.ofList [("s3",
        { sessionId := "s3"
          playerId := 3
          gameId := "game1"
          authenticatedAt := 900
          expiresAt := 4500
          permissions := ["state_read", "actions_read"] })] }
  apiRateLimiter := .init 60 120 0
  civcoms := fun id =>
    { CivCom.init 0 with playerId := some id, socket := true }
  registry :=
    { instances := Dict.ofList [(("game2", "bob"), 5)], metadata := ∅ }
  turns := fun _ => ⟨4, true, true, [], []⟩
  performed := []

def request (gameId : GameId) (arguments : List (String × String))
    (body : Body) : Request where
  gameId := gameId
  arguments := Dict.ofList (("session_id", "s3") :: arguments)
  headers := ∅
  remoteIp := some "10.0.0.1"
  body := body

def ownState : Request := request "game1" [("player_id", "3")] .empty

def forceBob : Request :=
  request "game2" [] (.object (Dict.ofList [("agent_id", .str "bob")]))

theorem ownState_ownQuery :
    OwnQuery setting world .state ownState 3 "game1" where
  get := .inl rfl
  wellFormed :=
    { playerId := by decide
      range := by decide
      gameId := by decide
      format := fun _ => by decide
      sinceTurn := fun _ raw h => by cases h }
  inGame := .inl rfl
  limits := by decide +kernel

end Example

/-- Player 3 may terminate its own game. -/
theorem scope_kept_iff_own_game :
    ScopeKept Example.setting Example.world .terminate
      (Example.request "game1" [] .empty) 3 "game1" := by
  refine (scope_kept_iff _ _ _ _ _ (by decide +kernel)).mpr ?_
  intro gameId mode h
  exact .inl (InputSanitizer.eq_of_sanitizeGameId h.gameId)

/-- **The session of player 3 of `game1`** is refused its own state, and
ends bob's turn in `game2`. -/
theorem scope_broken_both_ways :
    (handle Example.setting Example.world .state Example.ownState).1
        = .error 403 "Player ID in request does not match authenticated user"
      ∧ ¬ ScopeKept Example.setting Example.world .state Example.ownState 3
        "game1"
      ∧ newly Example.setting Example.world .forceEndTurn Example.forceBob
        = [.endTurn "game2" "bob" (some 5)]
      ∧ ¬ ScopeKept Example.setting Example.world .forceEndTurn
        Example.forceBob 3 "game1" := by
  have hforced : newly Example.setting Example.world .forceEndTurn
      Example.forceBob = [.endTurn "game2" "bob" (some 5)] := by
    decide +kernel
  refine ⟨by decide +kernel, ?_, hforced, ?_⟩
  · intro hk
    exact hk.served Example.ownState_ownQuery (by decide +kernel)
  · intro hk
    have hout := hk.contained (.endTurn "game2" "bob" (some 5))
    rw [hforced] at hout
    exact absurd (hout (List.mem_singleton_self _)).2 (by decide)

end Freeciv3d.Proxy.Http
