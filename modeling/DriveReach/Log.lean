/-!
# Log lines

A line has a level; a verbosity admits the levels up to a limit.
-/

namespace DriveReach

/-- The importance of a log line, most important first. -/
inductive LogLevel where
  | error
  | warn
  | info
  | debug
  | trace
  deriving DecidableEq, Repr

/-- The position of a level, 1 for the most important. -/
def LogLevel.rank : LogLevel → Nat
  | error => 1
  | warn => 2
  | info => 3
  | debug => 4
  | trace => 5

def LogLevel.name : LogLevel → String
  | error => "Error"
  | warn => "Warn"
  | info => "Info"
  | debug => "Debug"
  | trace => "Trace"

/-- The levels that are let through. -/
inductive Verbosity where
  | off
  /-- A level and the more important ones. -/
  | upTo (limit : LogLevel)
  deriving DecidableEq, Repr

def Verbosity.name : Verbosity → String
  | off => "Off"
  | upTo limit => limit.name

/-- The verbosity of a name, in any mix of capitals. -/
def Verbosity.ofName? (name : String) : Option Verbosity :=
  [off, upTo .error, upTo .warn, upTo .info, upTo .debug, upTo .trace].find?
    (·.name.toLower == name.toLower)

/-- The verbosity lets the level through. -/
def Verbosity.admits (v : Verbosity) (level : LogLevel) : Bool :=
  match v with
  | off => false
  | upTo limit => level.rank ≤ limit.rank

structure LogLine where
  level : LogLevel
  text : String
  deriving DecidableEq, Repr

/-- The line as it is written: the level in capitals and the text. -/
def LogLine.render (line : LogLine) : String := line.level.name.toUpper ++ " " ++ line.text

end DriveReach
