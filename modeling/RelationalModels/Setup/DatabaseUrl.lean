import RelationalModels.Decimal.NumeralError
import RelationalModels.OrderedMap
import RelationalModels.Text.Cut
import RelationalModels.Text.Percent
import RelationalModels.Text.Word

/-!
# Database addresses

An address names a backend, possibly with a driver after a plus sign, then credentials, a host and a
port, after a slash the database, and after a question mark a query. `DatabaseUrl.ofText` takes a
text apart and `DatabaseUrl.shown` puts an address together again, without the password.
-/

namespace RelationalModels

open Decimal Text

/-- The parts of an address. A parameter of the query may have been given several times. -/
structure DatabaseUrl where
  scheme : String
  user : Option String := none
  password : Option String := none
  host : Option String := none
  port : Option Int := none
  database : Option String := none
  query : OrderedMap (List String) := .empty
  deriving DecidableEq, Inhabited

inductive UrlError where
  | unreadable
  | badPort (e : NumeralError)
  | emptyPort
  deriving DecidableEq

def UrlError.message : UrlError → String
  | unreadable => "Could not parse SQLAlchemy URL from given URL string"
  | badPort e => e.message
  | emptyPort => "Port argument must be an integer or None"

namespace DatabaseUrl

def backend (u : DatabaseUrl) : String :=
  String.ofList (cutAt (· == '+') u.scheme.toList).1

/-! ### Taking an address apart -/

/--
The user and the password in front of an at sign, and what follows it. A user holds neither a colon
nor a slash; a password follows a colon and holds no at sign.
-/
def splitCredentials (cs : List Char) : Option (List Char × Option (List Char)) × List Char :=
  let endsUser (c : Char) : Bool := c == ':' || c == '/'
  let user := cs.takeWhile fun c => !endsUser c
  let rest := cs.dropWhile fun c => !endsUser c
  let withoutPassword : Option (List Char × Option (List Char)) × List Char :=
    match cutAtLast (· == '@') user with
    | (some before, after) => (some (before, none), after ++ rest)
    | (none, _) => (none, cs)
  match rest with
  | ':' :: more =>
    match cutAt (· == '@') more with
    | (password, some after) => (some (user, some password), after)
    -- without an at sign behind it, the colon announces a port and no password
    | (_, none) => withoutPassword
  | _ => withoutPassword

def endsHost (c : Char) : Bool := c == '/' || c == '?'

def splitHost (cs : List Char) : Option (List Char) × List Char :=
  let plainEnd (c : Char) : Bool := endsHost c || c == ':'
  let plain := cs.takeWhile fun c => !plainEnd c
  let afterPlain := cs.dropWhile fun c => !plainEnd c
  let withoutBrackets := (if plain.isEmpty then none else some plain, afterPlain)
  match cs with
  | '[' :: more =>
    let rest := more.dropWhile fun c => !endsHost c
    match cutAtLast (· == ']') (more.takeWhile fun c => !endsHost c) with
    | (some (c :: inner), after) => (some (c :: inner), after ++ rest)
    | _ => withoutBrackets
  | _ => withoutBrackets

def splitPart (mark : Char) (p : Char → Bool) (cs : List Char) : Option (List Char) × List Char :=
  match cs with
  | [] => (none, [])
  | c :: rest =>
    if c = mark then (some (rest.takeWhile fun d => !p d), rest.dropWhile fun d => !p d)
    else (none, cs)

def parameters (cs : List Char) : OrderedMap (List String) :=
  (splitOnChar '&' cs).foldl
    (fun m part =>
      match cutAt (· == '=') part with
      | (name, some (c :: value)) =>
        let name := Percent.decodeQuery name
        m.insert name ((m.get? name).getD [] ++ [Percent.decodeQuery (c :: value)])
      | _ => m)
    .empty

def portOf : Option (List Char) → Except UrlError (Option Int)
  | none => .ok none
  | some [] => .error .emptyPort
  | some digits => ((readInteger (String.ofList digits)).map some).mapError .badPort

def ofRest (scheme : String) (cs : List Char) : Except UrlError DatabaseUrl := do
  let (credentials, rest) := splitCredentials cs
  let (host, rest) := splitHost rest
  let (port, rest) := splitPart ':' endsHost rest
  let (database, rest) := splitPart '/' (· == '?') rest
  let (query, _) := splitPart '?' (· == '\n') rest
  return {
    scheme := scheme
    user := credentials.map fun c => Percent.decode c.1
    password := credentials.bind fun c => c.2.map Percent.decode
    host := host.map String.ofList
    port := ← portOf port
    database := database.map Percent.decode
    query := parameters (query.getD []) }

def ofText (s : String) : Except UrlError DatabaseUrl :=
  let isPart (c : Char) : Bool := isWord c || c == '+'
  let name := s.toList.takeWhile isPart
  match s.toList.dropWhile isPart with
  | ':' :: '/' :: '/' :: rest =>
    if name.isEmpty then .error .unreadable else ofRest (String.ofList name) rest
  | _ => .error .unreadable

/-! ### Putting an address together -/

def single? (u : DatabaseUrl) (name : String) : Option String :=
  match u.query.get? name with
  | some [value] => some value
  | _ => none

def withoutParameters (u : DatabaseUrl) (names : List String) : DatabaseUrl :=
  { u with query := names.foldl OrderedMap.erase u.query }

/-- The text of an address with the password hidden; parameters are sorted by name. -/
def shown (u : DatabaseUrl) : String :=
  let credentials :=
    match u.user with
    | none => ""
    | some user => Percent.encode " +" user ++ (if u.password.isSome then ":***" else "") ++ "@"
  let host :=
    match u.host with
    | none => ""
    | some host => if host.toList.contains ':' then "[" ++ host ++ "]" else host
  let port := (u.port.map fun n => ":" ++ toString n).getD ""
  let database := (u.database.map fun d => "/" ++ Percent.encode " +/" d).getD ""
  let sorted := u.query.entries.mergeSort fun a b => decide (a.1 ≤ b.1)
  let written := sorted.flatMap fun e =>
    e.2.map fun value => Percent.encodeQuery e.1 ++ "=" ++ Percent.encodeQuery value
  let query := if written.isEmpty then "" else "?" ++ "&".intercalate written
  u.scheme ++ "://" ++ credentials ++ host ++ port ++ database ++ query

end DatabaseUrl

end RelationalModels
