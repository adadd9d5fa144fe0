/-!
# Issues

What is wrong with one place of a datum: the place, as a path from the outermost value, and the
flaw found there. `Flaw.code` names a flaw and `Flaw.message` describes it.
-/

namespace RelationalModels

inductive PathStep where
  | key (name : String)
  | index (n : Nat)
  deriving DecidableEq

inductive Flaw where
  | missing
  | notText
  | notInteger
  | unreadableInteger
  | oversizedInteger
  | fractionalInteger
  | infiniteInteger
  | notBoolean
  | unreadableBoolean
  | notMapping
  | notList
  | notRecord (name : String)
  | notAmong (options : List String)
  | below (bound : Int)
  | above (bound : Int)
  | refused (reason : String)
  deriving DecidableEq

def joinOptions : List String → String
  | [] => ""
  | [a] => "'" ++ a ++ "'"
  | [a, b] => "'" ++ a ++ "' or '" ++ b ++ "'"
  | a :: rest => "'" ++ a ++ "', " ++ joinOptions rest

namespace Flaw

def code : Flaw → String
  | missing => "missing"
  | notText => "string_type"
  | notInteger => "int_type"
  | unreadableInteger => "int_parsing"
  | oversizedInteger => "int_parsing_size"
  | fractionalInteger => "int_from_float"
  | infiniteInteger => "finite_number"
  | notBoolean => "bool_type"
  | unreadableBoolean => "bool_parsing"
  | notMapping => "dict_type"
  | notList => "list_type"
  | notRecord _ => "model_type"
  | notAmong _ => "enum"
  | below _ => "greater_than_equal"
  | above _ => "less_than_equal"
  | refused _ => "value_error"

def message : Flaw → String
  | missing => "Field required"
  | notText => "Input should be a valid string"
  | notInteger => "Input should be a valid integer"
  | unreadableInteger => "Input should be a valid integer, unable to parse string as an integer"
  | oversizedInteger => "Unable to parse input string as an integer, exceeded maximum size"
  | fractionalInteger => "Input should be a valid integer, got a number with a fractional part"
  | infiniteInteger => "Input should be a finite number"
  | notBoolean => "Input should be a valid boolean"
  | unreadableBoolean => "Input should be a valid boolean, unable to interpret input"
  | notMapping => "Input should be a valid dictionary"
  | notList => "Input should be a valid list"
  | notRecord name => "Input should be a valid dictionary or instance of " ++ name
  | notAmong options => "Input should be " ++ joinOptions options
  | below bound => "Input should be greater than or equal to " ++ toString bound
  | above bound => "Input should be less than or equal to " ++ toString bound
  | refused reason => "Value error, " ++ reason

end Flaw

structure Issue where
  path : List PathStep
  flaw : Flaw
  deriving DecidableEq

def Issue.under (step : PathStep) (i : Issue) : Issue := { i with path := step :: i.path }

end RelationalModels
