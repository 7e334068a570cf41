import RecordCheck.Log.Plain

/-!
# Installing a logger

A process has at most one logger, and the first that is installed stays. A
configuration is installed only if its filter can be read, which is checked
first. Installing a configuration with a service name enters a root span that
lasts until the guard is dropped.

A session is the state of a process in this respect: the logger, the spans that
are entered, the guards, and the entries that were let through. It stands on a
backend, which is the plain one unless another is named.
-/

namespace RecordCheck.Log

/-- The logger of a process. -/
structure Logger (backend : Backend) where
  config : Config
  filter : backend.Filter

/-- Why a logger is not installed. -/
inductive InstallError
  | badFilter (text : String)
  | alreadyInstalled
  deriving DecidableEq

/-- The message where the cause is not a text of the caller. -/
def InstallError.message : InstallError → String
  | .badFilter text => "Invalid filter '" ++ text ++ "'"
  | .alreadyInstalled =>
    "Logger initialization failed: a global default trace dispatcher has already been set"

/-- What a caller holds of an installation: the root span, if one was entered. -/
structure Guard where
  root : Option Span
  deriving DecidableEq

/-- The guard that holds nothing. -/
def Guard.inert : Guard := ⟨none⟩

/-- The span of a whole service. -/
def rootSpan (service : String) : Span where
  severity := .info
  target := "chainable_log::builder"
  name := "app"
  fields := [("service", .string service)]

/-- The state of a process. A span that the filter does not let through is
entered as `none`. -/
structure Session (backend : Backend := .plain) where
  logger : Option (Logger backend) := none
  spans : List (Option Span) := []
  guards : List Guard := []
  entries : List Entry := []

namespace Session

variable {backend : Backend}

/-! ## Telling -/

/-- The spans that exist, the outermost first. -/
def currentSpans (session : Session backend) : List Span := session.spans.filterMap id

/-- Whether a span is let through that is entered now. -/
def letsEnter (session : Session backend) (span : Span) : Bool :=
  session.logger.any fun logger => backend.letsEnter logger.filter session.currentSpans span

/-- Whether an entry is let through. -/
def letsTell (session : Session backend) (entry : Entry) : Bool :=
  session.logger.any fun logger => backend.letsTell logger.filter entry

/-- The session after something is told. -/
def tell (session : Session backend) (signal : Signal) : Session backend :=
  match signal with
  | .enter span =>
    let entered := if session.letsEnter span then some span else none
    { session with spans := session.spans ++ [entered] }
  | .exit => { session with spans := session.spans.dropLast }
  | .event event =>
    let entry : Entry := ⟨session.currentSpans, event⟩
    if session.letsTell entry then { session with entries := session.entries ++ [entry] }
    else session

/-- The session after a trace is told. -/
def tellAll (session : Session backend) (trace : Trace) : Session backend :=
  trace.foldl tell session

/-- What was written. -/
def written (session : Session backend) : List backend.Line :=
  match session.logger with
  | some logger => session.entries.flatMap (backend.lines logger.config)
  | none => []

/-- The lines that were written in plain layouts. -/
def lines (session : Session) : List Line := session.written.map Layout.line

/-! ## Installing -/

/-- The session with the guard kept, and its root span entered. -/
def hold (session : Session backend) (guard : Guard) : Session backend :=
  let session := { session with guards := session.guards ++ [guard] }
  match guard.root with
  | some span => session.tell (.enter span)
  | none => session

/-- Installs a configuration, if its filter can be read and there is no logger yet. -/
def install (session : Session backend) (config : Config) :
    Except InstallError Guard × Session backend :=
  match backend.parse? config.level with
  | none => (.error (.badFilter config.level), session)
  | some filter =>
    match session.logger with
    | some _ => (.error .alreadyInstalled, session)
    | none =>
      let guard : Guard := ⟨config.service.map rootSpan⟩
      (.ok guard, { session with logger := some ⟨config, filter⟩ }.hold guard)

/-- Installs the default configuration. -/
def installStandard (session : Session backend) (host : Host) :
    Except InstallError Guard × Session backend :=
  session.install (.standard host)

/-- The configuration for a process that asks for nothing in particular: what the
environment says if it says a level, and else the preset for the build. -/
def automatic (host : Host) (environment : Environment) : Config :=
  if (environmentLevel? environment).isSome then .ofEnvironment host environment
  else if host.debugBuild then .development host
  else .production host

/-- Installs the automatic configuration; where there is a logger, does nothing
and succeeds. -/
def installAutomatic (session : Session backend) (host : Host) (environment : Environment) :
    Except InstallError Guard × Session backend :=
  if session.logger.isSome then (.ok .inert, session.hold .inert)
  else session.install (automatic host environment)

/-- Drops all guards and leaves their spans. -/
def dropGuards (session : Session backend) : Session backend :=
  let roots := session.guards.filter fun guard => guard.root.isSome
  { session with
    guards := []
    spans := session.spans.take (session.spans.length - roots.length) }

end Session

end RecordCheck.Log
