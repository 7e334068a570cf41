import RecordCheck.Proofs.Log.ServiceName

/-!
# The first acceptable configuration wins

A process asks for a logger by calls of three kinds, in any order and any number, each with its own
configuration or environment. The configuration in force after all of them is that of the first
call whose filter can be read (`Session.first_acceptable_wins`).

* `Session.perform_of_free` and `Session.perform_of_taken` say what one call does to the whole
  session, before and after there is a logger, and `Session.Ends` is the three ways in which it
  can end, from which all that a call keeps follows.
* `Session.logger_afterAll`, `Session.spans_afterAll` and `Session.rooted_afterAll` carry this
  along a run: calls that are refused leave no trace, and one that is answered after the
  installation only adds a guard that holds nothing.
-/

namespace RecordCheck.Log

/-! ## Calls -/

/-- A call that asks for a logger: with the default configuration, with a given one, or with the
one for a process that asks for nothing in particular. -/
inductive Request
  | standard (host : Host)
  | given (config : Config)
  | automatic (host : Host) (environment : Environment)

namespace Request

/-- The configuration that the call installs, if it installs one. -/
def config : Request → Config
  | .standard host => .standard host
  | .given config => config
  | .automatic host environment => Session.automatic host environment

/-- Whether the call is content with the logger that there is. -/
def isAutomatic : Request → Bool
  | .automatic .. => true
  | _ => false

/-- The logger of the call's configuration, if the backend can read the filter. -/
def logger? (backend : Backend) (request : Request) : Option (Logger backend) :=
  (backend.parse? request.config.level).map (Logger.mk request.config)

end Request

section Logger

variable {backend : Backend} (logger : Logger backend)

/-- The guard of an installation. -/
def Logger.guard : Guard := ⟨logger.config.service.map rootSpan⟩

/-- The root span that a logger enters for its service inside the spans that there are, as far as
its filter lets it through. -/
def Logger.root (outer : List Span) : List (Option Span) :=
  (logger.guard.root.map (backend.enter logger.filter outer)).toList

end Logger

namespace Session

variable {backend : Backend}

/-- What a call answers, and the session after it. -/
def perform (session : Session backend) : Request → Except InstallError Guard × Session backend
  | .standard host => session.installStandard host
  | .given config => session.install config
  | .automatic host environment => session.installAutomatic host environment

/-- The session after all calls of a run. -/
def afterAll (session : Session backend) (requests : List Request) : Session backend :=
  requests.foldl (fun session request => (session.perform request).2) session

/-- What the calls of a run answer. -/
def answers (session : Session backend) : List Request → List (Except InstallError Guard)
  | [] => []
  | request :: rest => (session.perform request).1 :: (session.perform request).2.answers rest

/-- The session in which a logger was just installed. -/
def equipped (session : Session backend) (logger : Logger backend) : Session backend :=
  { session with
    logger := some logger
    guards := session.guards ++ [logger.guard]
    spans := session.spans ++ logger.root session.currentSpans }

/-! ## One call -/

section Perform

variable {session : Session backend} {logger : Logger backend}

theorem hold_inert (session : Session backend) :
    session.hold .inert = { session with guards := session.guards ++ [.inert] } := rfl

theorem hold_guard (session : Session backend) (logger : Logger backend) :
    { session with logger := some logger }.hold logger.guard = session.equipped logger := by
  unfold hold equipped Logger.root
  cases logger.guard.root with
  | none => simp
  | some span => rfl

theorem install_of_unreadable {config : Config} (unreadable : backend.parse? config.level = none) :
    session.install config = (.error (.badFilter config.level), session) := by
  rw [install, unreadable]

theorem install_of_free {config : Config} {filter : backend.Filter} (free : session.logger = none)
    (read : backend.parse? config.level = some filter) :
    session.install config =
      (.ok (Logger.guard ⟨config, filter⟩), session.equipped ⟨config, filter⟩) := by
  rw [install, read, free, ← hold_guard]
  rfl

theorem install_of_taken {config : Config} {filter : backend.Filter}
    (taken : session.logger = some logger) (read : backend.parse? config.level = some filter) :
    session.install config = (.error .alreadyInstalled, session) := by
  rw [install, read, taken]

theorem installAutomatic_of_free (free : session.logger = none) (host : Host)
    (environment : Environment) :
    session.installAutomatic host environment = session.install (automatic host environment) := by
  rw [installAutomatic, free, Option.isSome_none, if_neg Bool.false_ne_true]

/-- Before there is a logger, every call only depends on its configuration. -/
theorem perform_of_free (free : session.logger = none) (request : Request) :
    session.perform request =
      match request.logger? backend with
      | none => (.error (.badFilter request.config.level), session)
      | some logger => (.ok logger.guard, session.equipped logger) := by
  have installs : session.perform request = session.install request.config := by
    cases request with
    | standard host => rfl
    | given config => rfl
    | automatic host environment => exact installAutomatic_of_free free host environment
  rw [installs]
  unfold Request.logger?
  cases read : backend.parse? request.config.level with
  | none => exact install_of_unreadable read
  | some filter => exact install_of_free free read

/-- When there is a logger, only its guards change, and only by an inert one. -/
theorem perform_of_taken (taken : session.logger = some logger) (request : Request) :
    session.perform request =
      if request.isAutomatic then
        (.ok .inert, { session with guards := session.guards ++ [.inert] })
      else if (request.logger? backend).isSome then (.error .alreadyInstalled, session)
      else (.error (.badFilter request.config.level), session) := by
  have refuses (config : Config) : session.install config =
      if ((backend.parse? config.level).map (Logger.mk config)).isSome
      then (.error .alreadyInstalled, session)
      else (.error (.badFilter config.level), session) := by
    cases read : backend.parse? config.level with
    | none => exact install_of_unreadable read
    | some filter => exact install_of_taken taken read
  cases request with
  | standard host => exact refuses (.standard host)
  | given config => exact refuses config
  | automatic host environment =>
    simp [perform, installAutomatic, taken, hold_inert, Request.isAutomatic]

end Perform

/-- How a session handles a call: whole sessions are compared, so nothing else changes. -/
structure Handles (session : Session backend) (request : Request) : Prop where
  /-- A filter that cannot be read is reported, unless there is a logger and any will do. -/
  refuses : request.logger? backend = none → session.logger = none ∨ request.isAutomatic = false →
    session.perform request = (.error (.badFilter request.config.level), session)
  /-- Before there is a logger, a filter that can be read is enough. -/
  installs : ∀ logger, request.logger? backend = some logger → session.logger = none →
    session.perform request =
      (.ok ⟨request.config.service.map rootSpan⟩, session.equipped logger)
  /-- When there is a logger, no other is installed. -/
  comesTooLate : (request.logger? backend).isSome → session.logger.isSome →
    request.isAutomatic = false →
    session.perform request = (.error .alreadyInstalled, session)
  /-- When there is a logger and any will do, the configuration does not count. -/
  isContent : session.logger.isSome → request.isAutomatic = true →
    session.perform request =
      (.ok .inert, { session with guards := session.guards ++ [.inert] })

theorem handles (session : Session backend) (request : Request) : session.Handles request := by
  cases present : session.logger with
  | none =>
    have once := perform_of_free present request
    refine ⟨fun unreadable _ => ?_, fun logger read _ => ?_, ?_, ?_⟩
    · rw [once, unreadable]
    · rw [once, read]
      obtain ⟨filter, -, rfl⟩ := Option.map_eq_some_iff.mp read
      rfl
    · simp [present]
    · simp [present]
  | some logger =>
    have once := perform_of_taken present request
    refine ⟨fun unreadable demanding => ?_, ?_, fun read _ demanding => ?_, fun _ content => ?_⟩
    · rw [once, demanding.resolve_left (by simp [present]), unreadable]
      rfl
    · simp [present]
    · rw [once, demanding, if_neg Bool.false_ne_true, if_pos read]
    · rw [once, if_pos content]

/-! ## What a call keeps -/

/-- The three ways in which a call can end, with what it answers and the session after it. -/
inductive Ends (session : Session backend) (request : Request) :
    Except InstallError Guard × Session backend → Prop
  | refused (error : InstallError)
    (known : session.logger.or (request.logger? backend) = session.logger) :
    Ends session request (.error error, session)
  | content {logger : Logger backend} (taken : session.logger = some logger) :
    Ends session request (.ok .inert, { session with guards := session.guards ++ [.inert] })
  | installed {logger : Logger backend} (free : session.logger = none)
    (read : request.logger? backend = some logger) :
    Ends session request (.ok logger.guard, session.equipped logger)

theorem ends_perform (session : Session backend) (request : Request) :
    session.Ends request (session.perform request) := by
  cases present : session.logger with
  | none =>
    rw [perform_of_free present]
    cases read : request.logger? backend with
    | none => exact .refused _ (by rw [present, read, Option.or_none])
    | some logger => exact .installed present read
  | some logger =>
    have known : session.logger.or (request.logger? backend) = session.logger := by
      rw [present, Option.some_or]
    rw [perform_of_taken present]
    split
    · exact .content present
    · split <;> exact .refused _ known

theorem logger_perform (session : Session backend) (request : Request) :
    (session.perform request).2.logger = session.logger.or (request.logger? backend) := by
  have ends := session.ends_perform request
  generalize session.perform request = result at ends
  cases ends with
  | refused error known => exact known.symm
  | content taken => rw [taken, Option.some_or]
  | installed free read => rw [free, read, Option.none_or]; rfl

theorem spans_perform_of_taken {session : Session backend} {logger : Logger backend}
    (taken : session.logger = some logger) (request : Request) :
    (session.perform request).2.spans = session.spans := by
  have ends := session.ends_perform request
  generalize session.perform request = result at ends
  cases ends with
  | refused | content => rfl
  | installed free => cases free.symm.trans taken

/-- The caller keeps the guards that were answered. -/
theorem guards_perform (session : Session backend) (request : Request) :
    (session.perform request).2.guards =
      session.guards ++ (session.perform request).1.toOption.toList := by
  have ends := session.ends_perform request
  generalize session.perform request = result at ends
  cases ends with
  | refused => exact (List.append_nil _).symm
  | content | installed => rfl

/-- The number of guards that hold a root span. -/
def rooted (session : Session backend) : Nat := session.guards.countP fun guard => guard.root.isSome

/-- There is one guard with a root span for a logger at most, and none before there is one. -/
theorem rooted_perform {session : Session backend}
    (single : session.rooted ≤ session.logger.toList.length) (request : Request) :
    (session.perform request).2.rooted ≤ (session.perform request).2.logger.toList.length := by
  have ends := session.ends_perform request
  generalize session.perform request = result at ends
  cases ends with
  | refused => exact single
  | content =>
    show (session.guards ++ [Guard.inert]).countP _ ≤ session.logger.toList.length
    rw [List.countP_append]
    exact single
  | @installed logger free =>
    rw [free] at single
    have none : session.rooted = 0 := Nat.le_zero.mp single
    have one : [logger.guard].countP (fun guard => guard.root.isSome) ≤ 1 :=
      List.countP_le_length
    show (session.guards ++ [logger.guard]).countP _ ≤ 1
    rw [List.countP_append]
    exact Nat.add_le_add (Nat.le_of_eq none) one

/-! ## Runs -/

section Runs

variable {session : Session backend} {logger : Logger backend}

theorem afterAll_append (session : Session backend) (before after : List Request) :
    session.afterAll (before ++ after) = (session.afterAll before).afterAll after :=
  List.foldl_append

theorem answers_append (session : Session backend) (before after : List Request) :
    session.answers (before ++ after) =
      session.answers before ++ (session.afterAll before).answers after := by
  induction before generalizing session with
  | nil => rfl
  | cons request rest ih => exact congrArg (List.cons _) (ih _)

theorem length_answers (session : Session backend) (requests : List Request) :
    (session.answers requests).length = requests.length := by
  induction requests generalizing session with
  | nil => rfl
  | cons request rest ih => exact congrArg Nat.succ (ih _)

/-- The logger after a run is the one from before it, or that of the first call whose filter can
be read. -/
theorem logger_afterAll (session : Session backend) (requests : List Request) :
    (session.afterAll requests).logger =
      session.logger.or (requests.findSome? (Request.logger? backend)) := by
  induction requests generalizing session with
  | nil => exact Option.or_none.symm
  | cons request rest ih =>
    show ((session.perform request).2.afterAll rest).logger = _
    rw [ih, logger_perform, Option.or_assoc, List.findSome?_cons]
    cases request.logger? backend <;> rfl

theorem spans_afterAll_of_taken (taken : session.logger = some logger) (requests : List Request) :
    (session.afterAll requests).spans = session.spans := by
  induction requests generalizing session with
  | nil => rfl
  | cons request rest ih =>
    have next : (session.perform request).2.logger = some logger := by
      rw [logger_perform, taken, Option.some_or]
    exact (ih next).trans (spans_perform_of_taken taken request)

/-- The one logger that a run installs enters its root span, and nothing else is entered. -/
theorem spans_afterAll_of_free (free : session.logger = none) (requests : List Request) :
    (session.afterAll requests).spans =
      session.spans ++ (requests.findSome? (Request.logger? backend)).toList.flatMap fun logger =>
        logger.root session.currentSpans := by
  induction requests with
  | nil => exact (List.append_nil _).symm
  | cons request rest ih =>
    show ((session.perform request).2.afterAll rest).spans = _
    rw [perform_of_free free, List.findSome?_cons]
    cases request.logger? backend with
    | none => exact ih
    | some logger =>
      have taken : (session.equipped logger).logger = some logger := rfl
      rw [spans_afterAll_of_taken taken]
      simp [equipped]

theorem guards_afterAll (session : Session backend) (requests : List Request) :
    (session.afterAll requests).guards =
      session.guards ++ (session.answers requests).filterMap Except.toOption := by
  induction requests generalizing session with
  | nil => exact (List.append_nil _).symm
  | cons request rest ih =>
    show ((session.perform request).2.afterAll rest).guards = _
    rw [ih, guards_perform, List.append_assoc, answers, List.filterMap_cons]
    cases (session.perform request).1.toOption <;> rfl

theorem rooted_afterAll (single : session.rooted ≤ session.logger.toList.length)
    (requests : List Request) :
    (session.afterAll requests).rooted ≤ (session.afterAll requests).logger.toList.length := by
  induction requests generalizing session with
  | nil => exact single
  | cons request rest ih => exact ih (rooted_perform single request)

end Runs

/-- In every run of calls, each call is handled as the calls before it leave the session, and there
is a logger from the first call on whose filter can be read. The run ends with the logger of this
call, with its root span and with no other, and one guard at most holds a root span. -/
theorem first_acceptable_wins (requests : List Request) :
    let final := ({} : Session backend).afterAll requests
    let answers := ({} : Session backend).answers requests
    let first := requests.findSome? (Request.logger? backend)
    (∀ before request after, requests = before ++ request :: after →
      let session := ({} : Session backend).afterAll before
      answers[before.length]? = some (session.perform request).1 ∧
      ({} : Session backend).afterAll (before ++ [request]) = (session.perform request).2 ∧
      session.Handles request ∧
      (session.logger = none ↔ ∀ earlier ∈ before, earlier.logger? backend = none) ∧
      ∀ logger, session.logger = some logger →
        final.logger = some logger ∧ final.spans = session.spans) ∧
    final.logger = first ∧
    final.spans = (first.toList.flatMap fun logger => logger.root []) ∧
    final.guards = answers.filterMap Except.toOption ∧
    final.rooted ≤ 1 := by
  intro final answers first
  have last : final.logger = first := logger_afterAll {} requests
  refine ⟨?_, last, spans_afterAll_of_free rfl requests, guards_afterAll {} requests, ?_⟩
  · intro before request after split session
    have rest : final = session.afterAll (request :: after) := by
      simp only [final, session, split, afterAll_append]
    refine ⟨?_, afterAll_append {} before [request], session.handles request, ?_, ?_⟩
    · simp only [answers, split, answers_append]
      rw [← length_answers {} before, List.getElem?_append_right (Nat.le_refl _), Nat.sub_self]
      rfl
    · simp [session, logger_afterAll]
    · intro logger taken
      rw [rest, logger_afterAll, taken]
      exact ⟨Option.some_or, spans_afterAll_of_taken taken _⟩
  · have none : ({} : Session backend).rooted ≤ ({} : Session backend).logger.toList.length :=
      Nat.le_refl _
    exact Nat.le_trans (rooted_afterAll none requests) (by cases final.logger <;> simp)

/-- A filter that cannot be read, then one that can, and then the default, which comes too late. -/
theorem first_acceptable_wins_second :
    let requests := [.given (.unlisted "app=loud"), .given (.unlisted "info"),
      .standard ⟨true, false⟩, .automatic ⟨true, false⟩ ⟨[("CHAINABLE_LOG", "trace")]⟩]
    let info : Logger .plain := ⟨.unlisted "info", (⟨[⟨"", some .info⟩]⟩ : Filter)⟩
    (({} : Session).answers requests)[2]? = some (.error .alreadyInstalled) ∧
    (({} : Session).afterAll requests).logger = some info ∧
    (({} : Session).afterAll requests).spans = [some (rootSpan "svc")] := by
  intro requests info
  have loud : Filter.parse? "app=loud" = none := by decide
  have read : Filter.parse? "info" = some ⟨[⟨"", some .info⟩]⟩ := by decide
  have unreadable : (Request.given (.unlisted "app=loud")).logger? .plain = none :=
    Option.map_eq_none_iff.mpr loud
  have readable : (Request.given (.unlisted "info")).logger? .plain = some info :=
    Option.map_eq_some_iff.mpr ⟨_, read, rfl⟩
  have standard : ((Request.standard ⟨true, false⟩).logger? .plain).isSome = true :=
    Option.isSome_map.trans (congrArg Option.isSome read)
  have first : requests.findSome? (Request.logger? .plain) = some info := by
    simp [requests, unreadable, readable]
  obtain ⟨calls, last, root, -, -⟩ := @first_acceptable_wins .plain requests
  rw [first] at last root
  refine ⟨?_, last, root⟩
  obtain ⟨answered, -, handled, free, -⟩ := calls
    [.given (.unlisted "app=loud"), .given (.unlisted "info")] (.standard ⟨true, false⟩) _ rfl
  have taken := mt free.mp fun all => by simpa [readable] using all (.given (.unlisted "info"))
  rw [handled.comesTooLate standard (Option.isSome_iff_ne_none.mpr taken) rfl] at answered
  exact answered

end Session

end RecordCheck.Log
