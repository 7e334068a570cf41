import RecordCheck.Environment
import RecordCheck.Json
import RecordCheck.Text.WhiteSpace

/-!
# Configurations of a logger

A configuration says which events a logger writes, in which layout, and under
which service name. It comes from one of three presets, from the environment or
from JSON; what none of them says is the default.
-/

namespace RecordCheck.Log

/-! ## Layouts -/

/-- How events are laid out. -/
inductive Format
  | pretty
  | compact
  | json
  deriving DecidableEq

/-- A text that names no layout. -/
structure UnknownFormat where
  text : String
  deriving DecidableEq

/-- The sentence that reports the error. -/
def UnknownFormat.message (e : UnknownFormat) : String := "unknown log format `" ++ e.text ++ "`"

namespace Format

/-- Every layout. -/
def all : List Format := [.pretty, .compact, .json]

/-- The lower-case name. -/
def name : Format → String
  | .pretty => "pretty"
  | .compact => "compact"
  | .json => "json"

/-- The layout with exactly this name. -/
def named? (name : String) : Option Format := all.find? fun format => format.name == name

/-- The layout that a text names in any case and between white space. Letters
outside ASCII have none of these names in lower case. -/
def parse (text : String) : Except UnknownFormat Format :=
  match named? (Text.caseless text) with
  | some format => .ok format
  | none => .error ⟨text⟩

end Format

/-! ## Configurations -/

/-- What the defaults depend on: how the program was built and where it writes. -/
structure Host where
  debugBuild : Bool
  terminal : Bool

/-- Which parts of an event are written. -/
structure Display where
  time : Bool
  source : Bool
  target : Bool
  threadIds : Bool
  colors : Bool
  spanList : Bool
  flatten : Bool
  deriving DecidableEq

/-- Time, target, all spans and top-level fields; the place in the source in
debug builds, and colours on a terminal. -/
def Display.standard (host : Host) : Display where
  time := true
  source := host.debugBuild
  target := true
  threadIds := false
  colors := host.terminal
  spanList := true
  flatten := true

/-- What a logger writes and how. -/
structure Config where
  level : String
  format : Format
  display : Display
  service : Option String
  deriving DecidableEq

namespace Config

/-- The default: information and what is more important, in compact lines. -/
def standard (host : Host) : Config where
  level := "info"
  format := .compact
  display := .standard host
  service := none

/-- The preset for development: more events, in a layout for reading. -/
def development (host : Host) : Config :=
  { standard host with
    level := "debug"
    format := .pretty
    display := { Display.standard host with colors := true, source := true } }

/-- The preset for production: JSON without colours and places in the source. -/
def production (host : Host) : Config :=
  { standard host with
    level := "info"
    format := .json
    display :=
      { Display.standard host with colors := false, source := false, flatten := true } }

/-- The configuration with another level. -/
def withLevel (config : Config) (level : String) : Config := { config with level }

/-- The configuration with another layout. -/
def withFormat (config : Config) (format : Format) : Config := { config with format }

/-- The configuration with a service name. -/
def withService (config : Config) (service : String) : Config :=
  { config with service := some service }

end Config

/-! ## From the environment -/

/-- The level that the environment asks for: the library's own variable counts
before the general one. -/
def environmentLevel? (environment : Environment) : Option String :=
  environment.get? "CHAINABLE_LOG" <|> environment.get? "RUST_LOG"

/-- A switch in the environment: on if it is set, unless to `0` or `false`. -/
def environmentFlag? (environment : Environment) (name : String) : Option Bool :=
  (environment.get? name).map fun text => text != "0" && text != "false"

/-- The parts that the environment switches on and off. -/
def Display.adjusted (display : Display) (environment : Environment) : Display :=
  { display with
    time := (environmentFlag? environment "CHAINABLE_LOG_TIME").getD display.time
    source := (environmentFlag? environment "CHAINABLE_LOG_SOURCE").getD display.source
    colors := (environmentFlag? environment "CHAINABLE_LOG_COLORS").getD display.colors }

/-- The layout that a text names, or compact lines. -/
def Format.parseOrCompact (text : String) : Format :=
  match Format.parse text with
  | .ok format => format
  | .error _ => .compact

/-- The default as the environment changes it. -/
def Config.ofEnvironment (host : Host) (environment : Environment) : Config :=
  let standard := Config.standard host
  { level := (environmentLevel? environment).getD standard.level
    format :=
      ((environment.get? "CHAINABLE_LOG_FORMAT").map Format.parseOrCompact).getD standard.format
    display := standard.display.adjusted environment
    service := environment.get? "CHAINABLE_SERVICE" }

/-! ## JSON -/

namespace Display

/-- The names of the parts, in the order of an array. -/
def fieldNames : List String :=
  ["time", "source", "target", "thread_ids", "colors", "span_list", "flatten"]

/-- The parts from JSON: an object or an array of truth values. -/
def ofJson? (host : Host) (json : Json) : Option Display := do
  let fields ← json.fields? fieldNames
  let default := standard host
  let time ← Json.field fields "time" default.time Json.boolean?
  let source ← Json.field fields "source" default.source Json.boolean?
  let target ← Json.field fields "target" default.target Json.boolean?
  let threadIds ← Json.field fields "thread_ids" default.threadIds Json.boolean?
  let colors ← Json.field fields "colors" default.colors Json.boolean?
  let spanList ← Json.field fields "span_list" default.spanList Json.boolean?
  let flatten ← Json.field fields "flatten" default.flatten Json.boolean?
  return { time, source, target, threadIds, colors, spanList, flatten }

/-- The parts as JSON. -/
def toJson (display : Display) : Json :=
  .ofMembers
    [("time", .boolean display.time), ("source", .boolean display.source),
     ("target", .boolean display.target), ("thread_ids", .boolean display.threadIds),
     ("colors", .boolean display.colors), ("span_list", .boolean display.spanList),
     ("flatten", .boolean display.flatten)]

end Display

namespace Config

/-- The names of the fields, in the order of an array. -/
def fieldNames : List String := ["level", "format", "display", "service"]

/-- A service name, where `null` stands for none. -/
def serviceOfJson? : Json → Option (Option String)
  | .null => some none
  | .string s => some (some s)
  | _ => none

/-- A configuration from JSON: an object or an array of its fields. -/
def ofJson? (host : Host) (json : Json) : Option Config := do
  let fields ← json.fields? fieldNames
  let default := standard host
  let level ← Json.field fields "level" default.level Json.string?
  let format ← Json.field fields "format" default.format fun json =>
    json.word?.bind Format.named?
  let display ← Json.field fields "display" default.display (Display.ofJson? host)
  let service ← Json.field fields "service" default.service serviceOfJson?
  return { level, format, display, service }

/-- The configuration as JSON. -/
def toJson (config : Config) : Json :=
  .ofMembers
    [("level", .string config.level), ("format", .string config.format.name),
     ("display", config.display.toJson),
     ("service", match config.service with
       | some service => .string service
       | none => .null)]

end Config

end RecordCheck.Log
