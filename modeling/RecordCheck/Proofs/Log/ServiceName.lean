import RecordCheck.Builder
import RecordCheck.Log.Session
import RecordCheck.Validator

/-!
# The service name in the lines of a log

A configuration with a service name enters a root span, and the name is a field of this span. So a
line carries the name if it shows the root span. Which spans a line shows is up to the backend:
compact lines show all spans around an event, and JSON lines the innermost one and, if the spans
are listed, all of them (`Backend.ShowsSpans`).

* `Trace.open?` gives the spans that a trace has entered and not left. A trace that leaves more
  than it has entered has none; a validation leaves what it enters (`Validator.open?_trace`).
* `Backend.entered` is what becomes of spans that are entered one inside the other: each exists if
  the filter lets it through inside those around it that exist.
* `Session.Stands` says which spans are entered in a session, and it is kept along a trace
  (`Session.Stands.tellAll`), so the root span stays below all that come later.
-/

namespace RecordCheck

/-! ## Open spans -/

/-- The open spans after a signal, the outermost first, if it leaves none but an open one. -/
def Signal.open? (spans : List Span) : Signal → Option (List Span)
  | .enter span => some (spans ++ [span])
  | .event _ => some spans
  | .exit => if spans.isEmpty then none else some spans.dropLast

/-- The spans that a trace enters and does not leave, if it leaves none but what it entered. -/
def Trace.open? (trace : Trace) : Option (List Span) := trace.foldlM Signal.open? []

theorem Trace.foldlM_events (events : List Event) (spans : List Span) :
    (events.map Signal.event).foldlM Signal.open? spans = some spans := by
  induction events with
  | nil => rfl
  | cons event rest ih => exact ih

/-- A validation leaves the span that it enters, and no other. -/
theorem Validator.open?_trace {ρ : Type} [Record ρ] (validator : Validator) (record : ρ)
    (spans : List Span) :
    (validator.trace record).foldlM Signal.open? spans = some spans := by
  let inner := spans ++ [Validator.span validator.schema.size]
  have inside := Trace.foldlM_events ((validator.run record).events ++
    [Validator.recordValidated (validator.run record).failures.length]) inner
  have left : Signal.open? inner .exit = some spans := by
    simp [inner, Signal.open?]
  show ((_ : Trace) ++ [Signal.exit]).foldlM Signal.open? inner = some spans
  rw [List.foldlM_append, inside, Option.bind_eq_bind, Option.bind_some, List.foldlM_cons, left]
  rfl

/-- So what is open before a validation is open after it. -/
theorem Trace.open?_append_validation {ρ : Type} [Record ρ] {before : Trace} {spans : List Span}
    (held : before.open? = some spans) (validator : Validator) (record : ρ) :
    Trace.open? (before ++ validator.trace record) = some spans := by
  unfold Trace.open? at held ⊢
  rw [List.foldlM_append, held]
  exact validator.open?_trace record spans

/-- The span has the service name as a field. -/
def Span.Names (service : String) (span : Span) : Prop := ("service", .string service) ∈ span.fields

namespace Log

/-! ## Lines that show spans -/

/-- The service name stands in a line: the line shows a span that has it as a field. -/
def Backend.Carries (backend : Backend) (service : String) (line : backend.Line) : Prop :=
  ∃ span ∈ backend.shown line, span.Names service

/-- What is assumed of a backend: it writes an entry on one line, where the compact layout shows
all spans around the event, and JSON the innermost span, and all only if they are listed. -/
structure Backend.ShowsSpans (backend : Backend) : Prop where
  compact : ∀ {config : Config}, config.format = .compact → ∀ entry : Entry,
    ∃ line, backend.lines config entry = [line] ∧ backend.shown line = entry.spans
  json : ∀ {config : Config}, config.format = .json → ∀ entry : Entry,
    ∃ line, backend.lines config entry = [line] ∧ backend.shown line =
      if config.display.spanList then entry.spans else entry.spans.getLast?.toList

theorem Backend.plain_showsSpans : Backend.plain.ShowsSpans where
  compact {config} layout entry := by
    let line : Layout := ⟨.text (entry.compact config.display), entry.spans⟩
    refine ⟨line, ?_, rfl⟩
    show entry.layouts config = _
    rw [Entry.layouts, layout]
    rfl
  json {config} layout entry := by
    let line : Layout := ⟨.object (entry.toJson config.display),
      if config.display.spanList then entry.spans else entry.spans.getLast?.toList⟩
    refine ⟨line, ?_, rfl⟩
    show entry.layouts config = _
    rw [Entry.layouts, layout]
    rfl

section Lines

variable {backend : Backend} {service : String} {innermost : Span}

/-- Every line of an entry inside the root span shows it, but for JSON without the list of spans,
where only the innermost span can have the name. -/
theorem Backend.ShowsSpans.exists_line (shows : backend.ShowsSpans) {config : Config}
    (laidOut : config.format ≠ .pretty) (entry : Entry) (around : rootSpan service ∈ entry.spans)
    (last : entry.spans.getLast? = some innermost) :
    ∃ line, backend.lines config entry = [line] ∧
      (backend.Carries service line ↔
        (config.format = .json → config.display.spanList = false → innermost.Names service)) := by
  have named : (rootSpan service).Names service := List.mem_singleton_self _
  cases layout : config.format with
  | pretty => exact absurd layout laidOut
  | compact =>
    obtain ⟨line, written, shown⟩ := shows.compact layout entry
    exact ⟨line, written, iff_of_true ⟨_, shown ▸ around, named⟩ nofun⟩
  | json =>
    obtain ⟨line, written, shown⟩ := shows.json layout entry
    refine ⟨line, written, ?_⟩
    unfold Backend.Carries
    rw [shown]
    cases listed : config.display.spanList with
    | true => exact iff_of_true ⟨_, around, named⟩ nofun
    | false => simp [last]

end Lines

/-! ## Spans inside each other -/

section Entered

variable (backend : Backend) (filter : backend.Filter)

/-- What is entered for a span inside others: the span, if the filter lets it through. -/
def Backend.enter (outer : List Span) (span : Span) : Option Span :=
  if backend.letsEnter filter outer span then some span else none

/-- What is entered for spans of which each lies inside those before it. -/
def Backend.entered (outer : List Span) : List Span → List (Option Span)
  | [] => []
  | span :: rest =>
    backend.enter filter outer span ::
      Backend.entered (outer ++ (backend.enter filter outer span).toList) rest

/-- Those of the spans that the filter lets through. -/
def Backend.existing (outer spans : List Span) : List Span :=
  (backend.entered filter outer spans).filterMap id

theorem Backend.entered_concat (outer spans : List Span) (span : Span) :
    backend.entered filter outer (spans ++ [span]) = backend.entered filter outer spans ++
      [backend.enter filter (outer ++ backend.existing filter outer spans) span] := by
  induction spans generalizing outer with
  | nil => simp [entered, existing]
  | cons first rest ih =>
    have scope : outer ++ backend.existing filter outer (first :: rest) =
        outer ++ (backend.enter filter outer first).toList ++
          backend.existing filter (outer ++ (backend.enter filter outer first).toList) rest := by
      rw [List.append_assoc, existing, entered, List.filterMap_cons]
      cases backend.enter filter outer first <;> rfl
    rw [scope, List.cons_append, entered, ih, entered, List.cons_append]

theorem Backend.existing_sublist (outer spans : List Span) :
    (backend.existing filter outer spans).Sublist spans := by
  induction spans generalizing outer with
  | nil => exact List.Sublist.refl _
  | cons span rest ih =>
    have later := ih (outer ++ (backend.enter filter outer span).toList)
    rw [existing, entered, List.filterMap_cons]
    unfold Backend.existing at later
    cases through : backend.enter filter outer span with
    | none =>
      rw [through] at later
      exact later.cons span
    | some entered =>
      rw [through] at later
      unfold Backend.enter at through
      split at through
      · cases through
        exact later.cons_cons span
      · cases through

end Entered

/-! ## What a session has entered -/

/-- The session has this logger, and above what was entered before it has entered the spans. -/
structure Session.Stands {backend : Backend} (session : Session backend) (logger : Logger backend)
    (base : List (Option Span)) (spans : List Span) : Prop where
  installed : session.logger = some logger
  entered : session.spans = base ++ backend.entered logger.filter (base.filterMap id) spans

section Stands

variable {backend : Backend} {session : Session backend} {logger : Logger backend}
  {base : List (Option Span)} {spans next : List Span}

theorem Session.Stands.currentSpans (stands : session.Stands logger base spans) :
    session.currentSpans =
      base.filterMap id ++ backend.existing logger.filter (base.filterMap id) spans := by
  rw [Session.currentSpans, stands.entered, List.filterMap_append, Backend.existing]

theorem Session.Stands.tell {signal : Signal} (stands : session.Stands logger base spans)
    (opened : Signal.open? spans signal = some next) :
    (session.tell signal).Stands logger base next := by
  cases signal with
  | enter span =>
    cases opened
    refine ⟨stands.installed, ?_⟩
    show session.spans ++ [if session.letsEnter span then _ else _] = _
    rw [Backend.entered_concat, ← stands.currentSpans, ← List.append_assoc, ← stands.entered,
      Session.letsEnter, stands.installed]
    rfl
  | event event =>
    cases opened
    unfold Session.tell
    dsimp only
    split
    · exact ⟨stands.installed, stands.entered⟩
    · exact stands
  | exit =>
    rcases List.eq_nil_or_concat spans with rfl | ⟨front, span, rfl⟩
    · cases opened
    · rw [List.concat_eq_append] at stands opened
      have left : front = next := by simpa [Signal.open?] using opened
      refine ⟨stands.installed, ?_⟩
      show session.spans.dropLast = _
      rw [stands.entered, Backend.entered_concat, ← List.append_assoc, List.dropLast_concat, left]

theorem Session.Stands.tellAll {trace : Trace} (stands : session.Stands logger base spans)
    (opened : trace.foldlM Signal.open? spans = some next) :
    (session.tellAll trace).Stands logger base next := by
  induction trace generalizing session spans with
  | nil =>
    cases opened
    exact stands
  | cons signal rest ih =>
    rw [List.foldlM_cons] at opened
    obtain ⟨between, first, later⟩ := Option.bind_eq_some_iff.mp opened
    exact ih (stands.tell first) later

/-- A successful installation enters the root span, if the filter lets it through. -/
theorem Session.stands_of_install {installed : Session backend} {config : Config} {guard : Guard}
    {filter : backend.Filter} {service : String} (named : config.service = some service)
    (read : backend.parse? config.level = some filter)
    (rooted : backend.letsEnter filter session.currentSpans (rootSpan service) = true)
    (success : session.install config = (.ok guard, installed)) :
    installed.Stands ⟨config, filter⟩ (session.spans ++ [some (rootSpan service)]) [] := by
  unfold Session.install at success
  rw [read, named] at success
  dsimp only at success
  split at success
  · cases success
  · cases success
    refine ⟨rfl, ?_⟩
    show session.spans ++ [if backend.letsEnter filter session.currentSpans _ then _ else _] = _
    rw [if_pos rooted, Backend.entered, List.append_nil]

end Stands

/-! ## Lines are only added -/

section Written

variable {backend : Backend}

theorem Session.logger_tell (session : Session backend) (signal : Signal) :
    (session.tell signal).logger = session.logger := by
  cases signal with
  | event event =>
    unfold Session.tell
    dsimp only
    split <;> rfl
  | _ => rfl

theorem Session.entries_tell (session : Session backend) (signal : Signal) :
    session.entries <+: (session.tell signal).entries := by
  cases signal with
  | event event =>
    unfold Session.tell
    dsimp only
    split
    · exact List.prefix_append _ _
    · exact List.prefix_rfl
  | _ => exact List.prefix_rfl

theorem Session.written_tell (session : Session backend) (signal : Signal) :
    session.written <+: (session.tell signal).written := by
  obtain ⟨added, entries⟩ := session.entries_tell signal
  unfold Session.written
  rw [session.logger_tell signal, ← entries]
  cases session.logger with
  | none => exact List.prefix_rfl
  | some logger =>
    dsimp only
    rw [List.flatMap_append]
    exact List.prefix_append _ _

theorem Session.written_tellAll (session : Session backend) (trace : Trace) :
    session.written <+: (session.tellAll trace).written := by
  induction trace generalizing session with
  | nil => exact List.prefix_rfl
  | cons signal rest ih => exact (session.written_tell signal).trans (ih _)

/-- An event that is let through adds the lines of its entry. -/
theorem Session.written_tell_event {session : Session backend} {logger : Logger backend}
    {event : Event} (installed : session.logger = some logger)
    (through : backend.letsTell logger.filter ⟨session.currentSpans, event⟩ = true) :
    (session.tell (.event event)).written =
      session.written ++ backend.lines logger.config ⟨session.currentSpans, event⟩ := by
  have enabled : session.letsTell ⟨session.currentSpans, event⟩ = true := by
    rw [Session.letsTell, installed]
    exact through
  have told : session.tell (.event event) =
      { session with entries := session.entries ++ [⟨session.currentSpans, event⟩] } := by
    unfold Session.tell
    dsimp only
    rw [if_pos enabled]
  rw [told, Session.written, Session.written, installed]
  dsimp only
  rw [List.flatMap_append, List.flatMap_singleton]

/-- Inside the root span, an event that is let through adds its line, and what is told later does
not take it away. -/
theorem Backend.ShowsSpans.exists_line_of_event (shows : backend.ShowsSpans)
    {session : Session backend} {logger : Logger backend} {service : String} {innermost : Span}
    {event : Event} (installed : session.logger = some logger)
    (laidOut : logger.config.format ≠ .pretty) (around : rootSpan service ∈ session.currentSpans)
    (last : session.currentSpans.getLast? = some innermost)
    (through : backend.letsTell logger.filter ⟨session.currentSpans, event⟩ = true)
    (after : Trace) :
    ∃ line later,
      (session.tellAll (.event event :: after)).written = session.written ++ line :: later ∧
      backend.lines logger.config ⟨session.currentSpans, event⟩ = [line] ∧
      (backend.Carries service line ↔
        (logger.config.format = .json → logger.config.display.spanList = false →
          innermost.Names service)) := by
  obtain ⟨line, written, carries⟩ :=
    shows.exists_line laidOut ⟨session.currentSpans, event⟩ around last
  obtain ⟨later, rest⟩ := (session.tell (.event event)).written_tellAll after
  refine ⟨line, later, ?_, written, carries⟩
  show ((session.tell (.event event)).tellAll after).written = _
  rw [← rest, Session.written_tell_event installed through, written, List.append_assoc]
  rfl

end Written

/-! ## Installing with a service -/

/-- After an installation with a service name, if the filter lets the root span through, every
event that it lets through while the root span is entered is written on a line. The line carries
the name, but in JSON without the list of spans it does so only by the innermost span; that is the
root span, unless the event lies in a further span that the filter lets through. This is so inside
validations and outside, and a validation leaves the spans as it found them. -/
theorem Session.service_on_line {backend : Backend} (shows : backend.ShowsSpans)
    {session installed : Session backend} {config : Config} {guard : Guard}
    {filter : backend.Filter} {service : String}
    (named : config.service = some service) (laidOut : config.format ≠ .pretty)
    (read : backend.parse? config.level = some filter)
    (rooted : backend.letsEnter filter session.currentSpans (rootSpan service) = true)
    (success : session.install config = (.ok guard, installed))
    {before : Trace} {spans : List Span} (held : before.open? = some spans) :
    let inside := installed.tellAll before
    let inner := backend.existing filter (session.currentSpans ++ [rootSpan service]) spans
    inside.currentSpans = session.currentSpans ++ rootSpan service :: inner ∧
    inner.Sublist spans ∧
    (∀ event after, backend.letsTell filter ⟨inside.currentSpans, event⟩ = true →
      ∃ line later,
        (installed.tellAll (before ++ .event event :: after)).written =
          inside.written ++ line :: later ∧
        backend.lines config ⟨inside.currentSpans, event⟩ = [line] ∧
        ((config.format = .json → config.display.spanList = false → inner = []) →
          backend.Carries service line) ∧
        (backend.Carries service line ↔
          (config.format = .json → config.display.spanList = false →
            (inner.getLastD (rootSpan service)).Names service))) ∧
    ∀ (ρ : Type) [Record ρ] (validator : Validator) (record : ρ),
      Trace.open? (before ++ validator.trace record) = some spans ∧
      (inside.tellAll (validator.trace record)).spans = inside.spans := by
  intro inside inner
  have stands : inside.Stands ⟨config, filter⟩ (session.spans ++ [some (rootSpan service)]) spans :=
    (Session.stands_of_install named read rooted success).tellAll held
  have base : (session.spans ++ [some (rootSpan service)]).filterMap id =
      session.currentSpans ++ [rootSpan service] := by
    rw [List.filterMap_append]
    rfl
  have current : inside.currentSpans = session.currentSpans ++ rootSpan service :: inner := by
    rw [stands.currentSpans, base, List.append_assoc]
    rfl
  refine ⟨current, backend.existing_sublist filter _ spans, fun event after through => ?_,
    fun ρ _ validator record => ⟨Trace.open?_append_validation held validator record, ?_⟩⟩
  · have around : rootSpan service ∈ inside.currentSpans := by
      rw [current]
      exact List.mem_append_right _ List.mem_cons_self
    have last : inside.currentSpans.getLast? = some (inner.getLastD (rootSpan service)) := by
      rw [current, List.getLast?_append, List.getLast?_cons, Option.some_or,
        List.getLastD_eq_getLast?]
    obtain ⟨line, later, added, written, carries⟩ :=
      shows.exists_line_of_event stands.installed laidOut around last through after
    have run : installed.tellAll (before ++ .event event :: after) =
        inside.tellAll (.event event :: after) := List.foldl_append
    refine ⟨line, later, run ▸ added, written, fun hidden => carries.mpr fun layout unlisted => ?_,
      carries⟩
    rw [hidden layout unlisted]
    exact List.mem_singleton_self _
  · have kept := stands.tellAll (validator.open?_trace record spans)
    rw [kept.entered, stands.entered]

/-- A configuration for a service that writes JSON without the list of spans. -/
def Config.unlisted (level : String) : Config where
  level := level
  format := .json
  display :=
    { time := false, source := false, target := true, threadIds := false, colors := false
      spanList := false, flatten := true }
  service := some "svc"

/-- Where the filter does not let the span of a validation through, the warning about a field
shows the root span, in a second validation as in the first. -/
theorem Session.service_on_line_of_warning :
    let validator : Validator := ⟨.ofList [("name", Builder.string.pipeline.markRequired)], {}⟩
    let before : Trace := validator.trace (Json.object []) ++ [.enter (Validator.span 1)]
    let inside := (({} : Session).install (.unlisted "info")).2.tellAll before
    let warning := Validator.notice .warn ⟨.required, "name", none, .none⟩
    inside.currentSpans = [rootSpan "svc"] ∧
    ∃ line later,
      ((({} : Session).install (.unlisted "info")).2.tellAll
          (before ++ .event warning :: [.exit])).written = inside.written ++ line :: later ∧
      Backend.plain.Carries "svc" line := by
  intro validator before inside warning
  have success : ({} : Session).install (.unlisted "info") =
      (.ok ⟨some (rootSpan "svc")⟩, (({} : Session).install (.unlisted "info")).2) := rfl
  have read : Filter.parse? "info" = some ⟨[⟨"", some .info⟩]⟩ := by decide
  have rooted : Filter.enables ⟨[⟨"", some .info⟩]⟩ (rootSpan "svc").target .info = true := rfl
  have compact : (Config.unlisted "info").format ≠ .pretty := by decide
  have start : Trace.open? [] = some [] := rfl
  obtain ⟨-, -, -, validations⟩ :=
    Session.service_on_line Backend.plain_showsSpans rfl compact read rooted success start
  obtain ⟨validated, -⟩ := validations Json validator (Json.object [])
  have held : before.open? = some [Validator.span 1] := by
    unfold Trace.open? at validated ⊢
    rw [List.foldlM_append, ← List.nil_append (validator.trace _), validated]
    rfl
  obtain ⟨current, -, lines, -⟩ :=
    Session.service_on_line Backend.plain_showsSpans rfl compact read rooted success held
  obtain ⟨line, later, added, -, carries, -⟩ := lines warning [.exit] rfl
  exact ⟨current, line, later, added, carries fun _ _ => rfl⟩

/-- JSON without the list of spans does not show the service inside a validation that the filter
lets through, and compact lines do not where the filter does not let the root span through. -/
theorem Session.service_not_on_every_line :
    Backend.plain.ShowsSpans ∧
    (∃ guard installed line,
      ({} : Session).install (.unlisted "debug") = (.ok guard, installed) ∧
      (installed.tellAll (Validator.trace ⟨.empty, {}⟩ (Json.object []))).written = [line] ∧
      ¬ Backend.plain.Carries "svc" line) ∧
    ∃ guard installed line,
      ({} : Session).install ((Config.unlisted "warn").withFormat .compact) =
        (.ok guard, installed) ∧
      (installed.tellAll [.event ⟨.warn, "oracle", "w", [("fields", .count 2)]⟩]).written =
        [line] ∧
      ¬ Backend.plain.Carries "svc" line := by
  refine ⟨Backend.plain_showsSpans, ⟨_, _, _, rfl, rfl, ?_⟩, ⟨_, _, _, rfl, rfl, ?_⟩⟩
  · rintro ⟨span, shown, named⟩
    cases List.mem_singleton.mp shown
    have same : "service" = "fields" := congrArg Prod.fst (List.mem_singleton.mp named)
    exact absurd same (by decide)
  · rintro ⟨span, shown, -⟩
    cases shown

end Log

end RecordCheck
