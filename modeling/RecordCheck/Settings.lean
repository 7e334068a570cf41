import RecordCheck.Environment
import RecordCheck.Json
import RecordCheck.Trace
import RecordCheck.Text.WhiteSpace

/-!
# Settings of a validator

The one setting is the level at which failures are told: a severity below
errors, or off. It is read from text in any case, from the environment, where a
wrong text is ignored with a warning, and from JSON, where only the exact names
count.
-/

namespace RecordCheck

/-! ## Failure levels -/

/-- The level at which failures are told. -/
inductive FailureLevel
  | off
  | trace
  | debug
  | info
  | warn
  deriving DecidableEq

/-- A text that names no failure level. -/
structure UnknownFailureLevel where
  text : String
  deriving DecidableEq

/-- The sentence that reports the error. -/
def UnknownFailureLevel.message (e : UnknownFailureLevel) : String :=
  "unknown failure level `" ++ e.text ++ "`, expected one of off, trace, debug, info, warn"

namespace FailureLevel

/-- Every level. -/
def all : List FailureLevel := [.off, .trace, .debug, .info, .warn]

/-- The lower-case name. -/
def name : FailureLevel → String
  | .off => "off"
  | .trace => "trace"
  | .debug => "debug"
  | .info => "info"
  | .warn => "warn"

/-- The severity of the events that tell a failure. -/
def severity? : FailureLevel → Option Severity
  | .off => none
  | .trace => some .trace
  | .debug => some .debug
  | .info => some .info
  | .warn => some .warn

/-- The level with exactly this name. -/
def named? (name : String) : Option FailureLevel := all.find? fun level => level.name == name

/-- The level that a text names in any case and between white space; `none` and
`warning` are names too. -/
def parse (text : String) : Except UnknownFailureLevel FailureLevel :=
  match Text.caseless text with
  | "none" => .ok .off
  | "warning" => .ok .warn
  | name =>
    match named? name with
    | some level => .ok level
    | none => .error ⟨text⟩

end FailureLevel

/-! ## Settings -/

/-- The settings of a validator. -/
structure Settings where
  failureLevel : FailureLevel := .warn
  deriving DecidableEq

namespace Settings

/-- The variable that holds the failure level. -/
def failureLevelVariable : String := "CHAINABLE_FAILURE_LEVEL"

/-- Where events about settings come from. -/
def target : String := "chainable_validator::config"

/-- The warning about a text that names no failure level. -/
def ignoring (e : UnknownFailureLevel) : Event where
  severity := .warn
  target := target
  message := "ignoring invalid failure level"
  fields := [("variable", .string failureLevelVariable), ("err", .text e.message)]

/-- The settings that the environment asks for, and what is told about it. -/
def ofEnvironment (environment : Environment) : Settings × Trace :=
  match environment.get? failureLevelVariable with
  | none => ({}, [])
  | some text =>
    match FailureLevel.parse text with
    | .ok level => ({ failureLevel := level }, [])
    | .error e => ({}, [.event (ignoring e)])

/-- A failure level as JSON has it. -/
def failureLevelOfJson? (json : Json) : Option FailureLevel :=
  json.word?.bind FailureLevel.named?

/-- Settings from JSON: an object or an array of their one field. -/
def ofJson? (json : Json) : Option Settings := do
  let fields ← json.fields? ["failure_level"]
  let level ← Json.field fields "failure_level" ({} : Settings).failureLevel failureLevelOfJson?
  return { failureLevel := level }

/-- The settings as JSON. -/
def toJson (settings : Settings) : Json :=
  .ofMembers [("failure_level", .string settings.failureLevel.name)]

end Settings

end RecordCheck
