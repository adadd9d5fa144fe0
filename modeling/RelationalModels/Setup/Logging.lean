import RelationalModels.Text.Case
import RelationalModels.Value.Number
import RelationalModels.Value.Shown

/-!
# Logging

The level of the root logger is asked for by name. A name without a level means `info`; two names
belong to message formats and are refused. The loggers of the database layer speak up from warnings
on.
-/

namespace RelationalModels

inductive LogLevel where
  | notset
  | debug
  | info
  | warning
  | error
  | critical
  deriving DecidableEq, Inhabited

namespace LogLevel

def name : LogLevel → String
  | notset => "NOTSET"
  | debug => "DEBUG"
  | info => "INFO"
  | warning => "WARNING"
  | error => "ERROR"
  | critical => "CRITICAL"

def byName : List (String × LogLevel) :=
  [("CRITICAL", critical), ("FATAL", critical), ("ERROR", error), ("WARNING", warning),
   ("WARN", warning), ("INFO", info), ("DEBUG", debug), ("NOTSET", notset)]

end LogLevel

structure LogSetup where
  root : LogLevel
  handlers : Nat := 1
  format : String := "%(asctime)s [%(levelname)s] %(name)s: %(message)s"
  dateFormat : String := "%Y-%m-%dT%H:%M:%S"
  loggers : List (String × LogLevel) :=
    [("sqlalchemy.engine", .warning), ("aiosqlite", .warning)]
  deriving DecidableEq, Inhabited

/-- A style of message formats: its mark, its name and the format it starts from. -/
structure FormatStyle where
  mark : String
  name : String
  format : String
  deriving DecidableEq, Inhabited

def messageFormat : String := "%(levelname)s:%(name)s:%(message)s"

def formatStyles : List FormatStyle :=
  [⟨"%", "PercentStyle", messageFormat⟩,
   ⟨"\x7b", "StrFormatStyle", "\x7blevelname\x7d:\x7bname\x7d:\x7bmessage\x7d"⟩,
   ⟨"$", "StringTemplateStyle", "$\x7blevelname\x7d:$\x7bname\x7d:$\x7bmessage\x7d"⟩]

def FormatStyle.shown (s : FormatStyle) : String :=
  Text.shown s.mark ++ ": (<class 'logging." ++ s.name ++ "'>, " ++ Text.shown s.format ++ ")"

inductive LevelError where
  | notText (kind : String)
  | namesFormat
  | namesStyles
  deriving DecidableEq

def LevelError.message : LevelError → String
  | notText kind => "'" ++ kind ++ "' object has no attribute 'upper'"
  | namesFormat => "Unknown level: " ++ Text.shown messageFormat
  | namesStyles =>
    "Level not an integer or a valid string: \x7b" ++
      ", ".intercalate (formatStyles.map FormatStyle.shown) ++ "\x7d"

def otherNames : List (String × LevelError) :=
  [("BASIC_FORMAT", .namesFormat), ("_STYLES", .namesStyles)]

def setupLogging (given settingsLevel : Value) : Except LevelError LogSetup :=
  match if given.isTruthy then given else settingsLevel with
  | .text asked =>
    let name := String.ofList (asked.toList.flatMap Text.upperToAscii)
    match otherNames.lookup name with
    | some e => .error e
    | none => .ok { root := (LogLevel.byName.lookup name).getD .info }
  | v => .error (.notText v.kindName)

end RelationalModels
