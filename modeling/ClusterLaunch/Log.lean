/-! # Log records

What the launcher reports while it works. A record is written with the identity of
the reporting process in front, and a filter keeps the records of a level or
above.
-/

namespace ClusterLaunch

/-- How urgent a record is, most urgent first. -/
inductive LogLevel where
  | error
  | warn
  | info
  | debug
  deriving Repr, DecidableEq

namespace LogLevel

def name : LogLevel → String
  | error => "ERROR"
  | warn => "WARN"
  | info => "INFO"
  | debug => "DEBUG"

def paddedName : LogLevel → String
  | error => "ERROR"
  | warn => "WARN "
  | info => "INFO "
  | debug => "DEBUG"

def detail : LogLevel → Nat
  | error => 1
  | warn => 2
  | info => 3
  | debug => 4

end LogLevel

structure LogRecord where
  level : LogLevel
  message : String
  deriving Repr, DecidableEq

namespace LogRecord

/-- The message with the identity of the process that reports it; a process
    without one is shown by a dash. -/
def identified (record : LogRecord) (identity : Option String) : String :=
  let name := identity.getD "-"
  s!"({name}) {record.message}"

/-- A text whose further lines are indented by four spaces. -/
def indentLines (text : String) : String :=
  String.ofList
    (text.toList.flatMap fun c => if c = '\n' then ['\n', ' ', ' ', ' ', ' '] else [c])

/-- A record as it is written, the end of its line included. -/
def written (record : LogRecord) (identity : String) : String :=
  s!"[{record.level.paddedName}] {indentLines (record.identified (some identity))}\n"

end LogRecord

/-- The least urgent level that is shown, or nothing at all. -/
inductive LogFilter where
  | off
  | upTo (level : LogLevel)
  deriving Repr, DecidableEq

namespace LogFilter

/-- Does the filter let records of a level through? -/
def shows : LogFilter → LogLevel → Bool
  | off, _ => false
  | upTo bound, level => level.detail ≤ bound.detail

/-- The filter of a name, in any case of its letters. -/
def ofName? (name : String) : Option LogFilter :=
  match name.toLower with
  | "off" => some off
  | "error" => some (upTo .error)
  | "warn" => some (upTo .warn)
  | "info" => some (upTo .info)
  | "debug" | "trace" => some (upTo .debug)
  | _ => none

/-- The filter that the environment asks for. Where it says nothing, information is
    shown; an empty text asks for errors alone, and one that names no level is
    meant for some other program. -/
def ofSetting : Option String → LogFilter
  | none => upTo .info
  | some "" => upTo .error
  | some name => (ofName? name).getD off

end LogFilter

end ClusterLaunch
