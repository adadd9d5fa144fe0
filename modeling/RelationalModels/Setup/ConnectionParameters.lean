import RelationalModels.Setup.DatabaseDriver
import RelationalModels.Text.Blank
import RelationalModels.Text.Case

/-!
# Connection parameters

What an address says has to fit its driver. An SQLite address names a file and nothing else; some
parameters of its query are numbers or truth values. The query of a server's address may list
several hosts and ports. `DatabaseDriver.checkParameters` makes these checks.
-/

namespace RelationalModels

open Decimal Text

inductive NumberKind where
  | integer
  | decimal
  deriving DecidableEq

inductive ParameterError where
  | notFile (address : DatabaseUrl)
  | numeral (e : NumeralError)
  | severalNumbers (kind : NumberKind)
  | notTruth (text : String)
  | noFile
  | mixedPorts
  | severalPorts
  | notPorts (ports : List (Option String))
  | unmatchedPorts
  | missingHosts
  | missingPorts
  deriving DecidableEq

namespace ParameterError

def shownPorts (ports : List (Option String)) : String :=
  let shown := ports.map fun port => (port.map Text.shown).getD "None"
  "(" ++ ", ".intercalate shown ++ (if ports.length = 1 then ",)" else ")")

def message : ParameterError → String
  | notFile address =>
    "Invalid SQLite URL: " ++ address.shown ++ "\nValid SQLite URL forms are:\n" ++
      " sqlite:///:memory: (or, sqlite://)\n sqlite:///relative/path/to/file.db\n" ++
      " sqlite:////absolute/path/to/file.db"
  | numeral e => e.message
  | severalNumbers .integer =>
    "int() argument must be a string, a bytes-like object or a real number, not 'tuple'"
  | severalNumbers .decimal => "float() argument must be a string or a real number, not 'tuple'"
  | notTruth text => "String is not true/false: " ++ Text.shown text
  | noFile => "unsupported operand type(s) for +=: 'NoneType' and 'str'"
  | mixedPorts =>
    "Can't mix 'multihost' formats together; use \"host=h1,h2,h3&port=p1,p2,p3\" or " ++
      "\"host=h1:p1&host=h2:p2&host=h3:p3\" separately"
  | severalPorts => "too many values to unpack (expected 2)"
  | notPorts ports => "Received non-integer port arguments: " ++ shownPorts ports
  | unmatchedPorts => "number of hosts and ports don't match"
  | missingHosts => "All hosts are required to be present for asyncpg multiple host URL"
  | missingPorts => "All ports are required to be present for asyncpg multiple host URL"

end ParameterError

/-! ### Single parameters -/

def checkNumber (kind : NumberKind) : Option (List String) → Except ParameterError Unit
  | none => .ok ()
  | some [value] =>
    match kind with
    | .integer => ((readInteger value).map fun _ => ()).mapError .numeral
    | .decimal => ((readDecimal value).map fun _ => ()).mapError .numeral
  | some _ => .error (.severalNumbers kind)

def parameterTrueWords : List String := ["true", "yes", "on", "y", "t", "1"]

def parameterFalseWords : List String := ["false", "no", "off", "n", "f", "0"]

/-- The truth value of a parameter; a repeated one counts as true, a missing one as false. -/
def readTruth : Option (List String) → Except ParameterError Bool
  | none => .ok false
  | some [value] =>
    let word := String.ofList (lowerFrom [] (trimSpace value.toList))
    if word ∈ parameterTrueWords then .ok true
    else if word ∈ parameterFalseWords then .ok false
    else .error (.notTruth word)
  | some _ => .ok true

/-! ### SQLite -/

/-- The parameters that go to the driver; all others go to the file. -/
def sqliteParameters : List String :=
  ["uri", "timeout", "isolation_level", "detect_types", "check_same_thread", "cached_statements"]

def DatabaseUrl.namesServer (u : DatabaseUrl) : Bool :=
  let given (part : Option String) : Bool := (part.map fun s => !s.isEmpty).getD false
  given u.user || given u.password || given u.host || (u.port.map fun n => n != 0).getD false

def checkSqlite (u : DatabaseUrl) : Except ParameterError Unit := do
  if u.namesServer then throw (.notFile u)
  let uri ← readTruth (u.query.get? "uri")
  checkNumber .decimal (u.query.get? "timeout")
  checkNumber .integer (u.query.get? "detect_types")
  let _ ← readTruth (u.query.get? "check_same_thread")
  checkNumber .integer (u.query.get? "cached_statements")
  let ofFile := u.query.names.filter fun name => !sqliteParameters.contains name
  if uri && u.database.isNone && !ofFile.isEmpty then throw .noFile

/-! ### Several hosts -/

/-- A host and the port after its colon, if any; several ports are as good as none. -/
def splitHostPort (token : String) : List (Option String) :=
  match (splitOnChar ':' token.toList).map fun part => some (String.ofList part) with
  | [host] => [host, none]
  | parts => parts

def hostWithPort? (token : String) : Option (String × Option String) :=
  let isHostChar (c : Char) : Bool := isAsciiWord c && c != '_' || c == '.' || c == '-'
  let cs := token.toList
  -- one line feed may follow the port
  let body := if cs.getLast? = some '\n' then cs.dropLast else cs
  match cutAt (· == ':') body with
  | (host, some port) =>
    if host.all isHostChar && port.all fun c => (decimalDigit? c).isSome then
      some (String.ofList host, if port.isEmpty then none else some (String.ofList port))
    else none
  | (_, none) => none

structure HostList where
  hosts : Option (List String) := none
  ports : Option (List (Option String)) := none
  isJoint : Bool := false
  deriving DecidableEq, Inhabited

def jointHosts (u : DatabaseUrl) : Except ParameterError HostList :=
  match u.query.get? "host" with
  | none => .ok {}
  | some [value] =>
    let hosts := (splitOnChar ',' value.toList).map String.ofList
    match hosts, u.query.contains "port" with
    | [token], false =>
      match hostWithPort? token with
      | some (host, port) => .ok ⟨some [host], some [port], true⟩
      | none => .ok { hosts := some hosts }
    | _, _ => .ok { hosts := some hosts }
  | some tokens =>
    let rows := tokens.map splitHostPort
    -- what stands behind a second colon is dropped as soon as one host has none
    if rows.all fun row => decide (2 < row.length) then .error .severalPorts
    else
      .ok ⟨some (rows.map fun row => (row.head?.join).getD ""),
        some (rows.map fun row => ((row.drop 1).head?).join), true⟩

def separatePorts? (u : DatabaseUrl) : Option (List (Option String)) :=
  match u.query.get? "port" with
  | none => none
  | some [value] => some ((splitOnChar ',' value.toList).map fun part => some (String.ofList part))
  | some values => some (values.map some)

def readPort : Option String → Option (Option Int)
  | none => some none
  | some text =>
    if text.isEmpty then some none
    else
      match readInteger text with
      | .ok n => some (some n)
      | .error _ => none

def checkHosts (u : DatabaseUrl) : Except ParameterError Unit := do
  let listed ← jointHosts u
  let separate := separatePorts? u
  if separate.isSome && listed.isJoint then throw .mixedPorts
  let written := (separate.or listed.ports).getD []
  let some ports := written.mapM readPort | throw (.notPorts written)
  let hosts := listed.hosts.getD []
  let several := decide (1 < hosts.length) || decide (1 < ports.length)
  if !ports.isEmpty && hosts.length != ports.length && several then throw .unmatchedPorts
  if 1 < hosts.length then
    if hosts.any String.isEmpty then throw .missingHosts
    let given (port : Option Int) : Bool := (port.map fun n => n != 0).getD false
    if ports.isEmpty || !ports.all given then throw .missingPorts

/-! ### All drivers -/

def DatabaseDriver.checkParameters (d : DatabaseDriver) (u : DatabaseUrl) :
    Except ParameterError Unit := do
  match d with
  | asyncpg =>
    checkHosts u
    checkNumber .integer (u.query.get? "prepared_statement_cache_size")
  | _ => checkSqlite u

end RelationalModels
