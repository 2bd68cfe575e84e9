/-
`InputSanitizer`: the checks on ids that come from outside.

# Case and Unicode

`_check_sql_injection` looks at the upper-cased value. Only ASCII
letters are mapped here: a game id with any other character fails the
id pattern right after, with an error of the same class.
-/
import Freeciv3d.Lib.PyStr
import Freeciv3d.Lib.Regex
import Freeciv3d.Proxy.CivCom

namespace Freeciv3d.Proxy

open Lib

/-- An exception, by the classes the request handlers tell apart. -/
inductive Raised where
  | valueError (message : String)
  /-- `ConnectionError`, `OSError` or `TimeoutError`. -/
  | connectionError (message : String)
  | exception (message : String)
  deriving DecidableEq

/-- `str(e)`. -/
def Raised.message : Raised → String
  | valueError m => m
  | connectionError m => m
  | exception m => m

namespace InputSanitizer

def securityError (message : String) : Raised := .exception message

/-- `sanitize_player_id` on an integer: ids 0 to 29. -/
def sanitizePlayerNumber (playerId : Int) : Except Raised Int :=
  if 0 ≤ playerId ∧ playerId ≤ 29 then .ok playerId
  else
    .error (securityError ("Invalid player_id range: " ++ toString playerId))

def sanitizePlayerId (t : PyStr.CharTables) (value : String) :
    Except Raised Int :=
  match PyStr.toInt t value with
  | none => .error (securityError ("Invalid player_id type: " ++ value))
  | some playerId => sanitizePlayerNumber playerId

/-- `\s`. -/
def space : Regex := .char PyStr.isSpace

/-- `\d`. -/
def digit (t : PyStr.CharTables) : Regex :=
  .char fun c => (t.decimal c).isSome

/-- `SQL_INJECTION_PATTERNS`, on upper-cased text: keywords, comments,
tautologies, and three phrases. -/
def sqlInjectionPatterns (t : PyStr.CharTables) : List Regex :=
  [ .seq .boundary (.seq (.oneOf (["SELECT", "INSERT", "UPDATE", "DELETE",
      "DROP", "CREATE", "ALTER", "EXEC", "UNION"].map .literal)) .boundary),
    .oneOf (["--", "#", "/*", "*/"].map .literal),
    .seq .boundary (.seq (.oneOf (["OR", "AND"].map .literal))
      (.seq (.plus space) (.seq (.plus (digit t)) (.seq (.star space)
        (.seq (.literal "=") (.seq (.star space) (.plus (digit t)))))))),
    .seq .boundary (.seq (.literal "UNION") (.seq (.plus space)
      (.literal "SELECT"))),
    .seq .boundary (.seq (.literal "INTO") (.seq (.plus space)
      (.literal "OUTFILE"))),
    .seq .boundary (.seq (.literal "LOAD_FILE") (.seq (.star space)
      (.literal "("))) ]

def checkSqlInjection (t : PyStr.CharTables) (value fieldName : String) :
    Except Raised Unit :=
  let upper := PyStr.upperChars value.toList
  if (sqlInjectionPatterns t).any fun r => r.search t.isWord upper then
    .error (securityError ("Potential SQL injection in " ++ fieldName))
  else .ok ()

/-- `^[a-zA-Z0-9_-]{1,50}$`. -/
def gameIdPattern : Regex :=
  .seq (.oneAndAtMost
    (.char fun c => c.isAlphanum || c == '_' || c == '-') 49) .finish

def sanitizeGameId (t : PyStr.CharTables) (value : String) :
    Except Raised GameId :=
  match checkSqlInjection t value "game_id" with
  | .error e => .error e
  | .ok () =>
    if gameIdPattern.isMatch t.isWord value.toList then .ok value
    else .error (securityError ("Invalid game_id format: " ++ value))

-- ==== lemmas

variable {t : PyStr.CharTables}

theorem eq_of_sanitizeGameId {value : String} {g : GameId}
    (h : sanitizeGameId t value = .ok g) : g = value := by
  unfold sanitizeGameId at h
  split at h
  · cases h
  · split at h
    · cases h
      rfl
    · cases h

/-- A game id is made of the characters of its class; a newline may end
it. -/
theorem mem_of_sanitizeGameId {value : String} {g : GameId}
    (h : sanitizeGameId t value = .ok g) {c : Char} (hc : c ∈ g.toList) :
    (c.isAlphanum || c == '_' || c == '-') = true ∨ c = '\n' := by
  have heq := eq_of_sanitizeGameId h
  unfold sanitizeGameId at h
  split at h
  · cases h
  · split at h
    case isTrue hmatch =>
      rw [heq] at hc
      exact Regex.mem_of_isMatch hmatch hc
    case isFalse => cases h

end InputSanitizer

end Freeciv3d.Proxy
