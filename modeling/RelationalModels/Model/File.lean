import RelationalModels.Json.Reader
import RelationalModels.Model.Definition
import RelationalModels.Text.Utf8

/-!
# Model files

A file with a JSON object of models, in UTF-8. `loadModels` admits its models, or says what is
wrong with the bytes, the JSON or the models.
-/

namespace RelationalModels

inductive LoadError where
  | undecodable (e : Text.Utf8.DecodeError)
  | oversizedInteger (digits : Nat)
  | tooDeep (nesting : Json.Nesting)
  | model (e : ModelError)
  deriving DecidableEq

def loadModels (file : String) (bytes : List UInt8) : Except LoadError Models :=
  match Text.Utf8.decode bytes with
  | .error e => .error (.undecodable e)
  | .ok text =>
    match Json.read text with
    | .error .malformed => .error (.model (.fileNotJson file))
    | .error (.oversizedInteger n) => .error (.oversizedInteger n)
    | .error (.tooDeep nesting) => .error (.tooDeep nesting)
    | .ok (.map entries) =>
      match parseModels (OrderedMap.ofList (entries.map fun e => (e.1, .raw e.2))) with
      | .error e => .error (.model e)
      | .ok models => .ok models
    | .ok _ => .error (.model (.fileNotObject file))

end RelationalModels
