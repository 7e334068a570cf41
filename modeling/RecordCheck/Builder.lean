import RecordCheck.Rule.Builtin
import RecordCheck.Pipeline
import RecordCheck.Bound

/-!
# Building pipelines

A pipeline is built from a start by a chain of calls. What may be called depends
on the stage: bounds on the length need a measure, numeric refinements need the
digits of a number, and decimal places need a number with a fraction. Calls may
come in any order; where their steps go does not depend on it:

- coercions go in front of everything,
- the refinement goes directly behind the check of the tag,
- bounds go to the end, in the order of their calls.
-/

namespace RecordCheck

/-! ## Stages and calls -/

/-- A refinement of numbers. -/
inductive Subtype
  | integer
  | float
  deriving DecidableEq

namespace Subtype

/-- The lower-case name, which is also the parameter of the rule. -/
def name : Subtype → String
  | .integer => "integer"
  | .float => "float"

/-- The rule that the refinement adds. -/
def rule : Subtype → Rule
  | .integer => .isInteger
  | .float => .isFloat

end Subtype

/-- What a pipeline under construction is about. -/
inductive Stage
  /-- Nothing yet. -/
  | bare
  /-- Values of a tag without a length. -/
  | unbounded (target : Tag)
  /-- Values of a tag, measured as collections. -/
  | collection (target : Tag)
  /-- Values of a tag, measured by their digits. -/
  | digits (target : Tag)
  /-- Numbers of a subtype. -/
  | refined (subtype : Subtype)
  deriving DecidableEq

namespace Stage

/-- How bounds measure a value at this stage, if they may be set. -/
def measure? : Stage → Option Measure
  | .bare => none
  | .unbounded _ => none
  | .collection _ => some .collection
  | .digits _ => some .digits
  | .refined _ => some .digits

/-- The tag that is asked for; refined numbers do not tell. -/
def target? : Stage → Option Tag
  | .unbounded target => some target
  | .collection target => some target
  | .digits target => some target
  | _ => none

/-- The subtype, if numbers are refined. -/
def subtype? : Stage → Option Subtype
  | .refined subtype => some subtype
  | _ => none

end Stage

/-- A call in a chain. -/
inductive Call
  | required
  | greedy
  | integer
  | float
  | maxLength (bound : Numeral)
  | minLength (bound : Numeral)
  | length (bound : Numeral)
  | decimal (bound : Numeral)

namespace Call

/-- The name of the call. -/
def method : Call → String
  | .required => "required"
  | .greedy => "greedy"
  | .integer => "integer"
  | .float => "float"
  | .maxLength _ => "max_len"
  | .minLength _ => "min_len"
  | .length _ => "len"
  | .decimal _ => "decimal"

/-- Whether the call may be made at a stage. -/
def admittedAt (call : Call) (stage : Stage) : Bool :=
  match call with
  | .required => true
  | .greedy => stage.measure? = some .digits
  | .integer | .float => stage.measure? = some .digits && stage.subtype?.isNone
  | .maxLength _ | .minLength _ | .length _ => stage.measure?.isSome
  | .decimal _ => stage.subtype? = some .float

end Call

/-- Why a chain ends early. -/
inductive ChainError
  | badBound (cause : BoundError)
  | notAdmitted (call : Call)

/-! ## Builders -/

/-- A pipeline under construction and its stage. -/
structure Builder where
  stage : Stage
  pipeline : Pipeline

namespace Builder

/-- A builder without any check. -/
def bare : Builder := ⟨.bare, .empty⟩

/-- A builder at a stage that asks for a tag; its first step checks it. -/
def checking (stage : Stage) (target : Tag) : Builder :=
  ⟨stage, Pipeline.empty.append (.check (.typeMatch target))⟩

/-- Values of a tag without a length. -/
def unbounded (target : Tag) : Builder := checking (.unbounded target) target

/-- Values of a tag, measured as collections. -/
def collection (target : Tag) : Builder := checking (.collection target) target

/-- Values of a tag, measured by their digits. -/
def digits (target : Tag) : Builder := checking (.digits target) target

/-- The builder with its pipeline changed. -/
def mapPipeline (builder : Builder) (f : Pipeline → Pipeline) : Builder :=
  { builder with pipeline := f builder.pipeline }

/-- The builder with a rule behind all steps. -/
def addRule (builder : Builder) (rule : Rule) : Builder :=
  builder.mapPipeline (·.append (.check rule))

/-- The builder for the numbers of a subtype. -/
def refine (builder : Builder) (subtype : Subtype) : Builder :=
  { stage := .refined subtype, pipeline := builder.pipeline.refine (.check subtype.rule) }

/-- The builder with a rule made of a bound. -/
def addBound (builder : Builder) (kind : FailureKind) (bound : Numeral) (rule : Nat → Rule) :
    Except ChainError Builder :=
  match bound.toBound kind with
  | .ok n => .ok (builder.addRule (rule n))
  | .error cause => .error (.badBound cause)

/-- The builder with a rule made of a bound on the length by the measure of its stage. -/
def addLength (builder : Builder) (call : Call) (kind : FailureKind) (bound : Numeral)
    (rule : Nat → Measure → Rule) : Except ChainError Builder :=
  match builder.stage.measure? with
  | some measure => builder.addBound kind bound (rule · measure)
  | none => .error (.notAdmitted call)

/-- The builder after a call. -/
def call (builder : Builder) (call : Call) : Except ChainError Builder :=
  if call.admittedAt builder.stage then
    match call with
    | .required => .ok (builder.mapPipeline .markRequired)
    | .greedy => .ok (builder.mapPipeline (·.prepend (.replace .numericCoercion)))
    | .integer => .ok (builder.refine .integer)
    | .float => .ok (builder.refine .float)
    | .maxLength bound => builder.addLength call .maxLength bound .maxLength
    | .minLength bound => builder.addLength call .minLength bound .minLength
    | .length bound => builder.addLength call .length bound .exactLength
    | .decimal bound => builder.addBound .decimal bound .decimalPlaces
  else
    .error (.notAdmitted call)

/-- The builder after a chain of calls. -/
def chain (builder : Builder) (calls : List Call) : Except ChainError Builder :=
  calls.foldlM Builder.call builder

/-! ## The starts -/

/-- Strings, measured by their characters. -/
def string : Builder := collection .string

/-- Arrays, measured by their elements. -/
def array : Builder := collection .array

/-- Numbers, measured by their digits. -/
def number : Builder := digits .number

/-- Numbers without a fractional part. -/
def integer : Builder := number.refine .integer

/-- Numbers with a fractional part. -/
def float : Builder := number.refine .float

/-- Truth values. -/
def boolean : Builder := unbounded .boolean

/-- Objects. -/
def object : Builder := unbounded .object

/-- Functions. -/
def function : Builder := unbounded .function

/-- Symbols. -/
def symbol : Builder := unbounded .symbol

/-- Regular expressions. -/
def regex : Builder := unbounded .regex

/-- Points in time. -/
def date : Builder := unbounded .date

/-- The explicit null. -/
def null : Builder := unbounded .null

/-- The start that goes by a name. -/
def named? : String → Option Builder
  | "pipeline" => some bare
  | "string" => some string
  | "array" => some array
  | "number" => some number
  | "integer" => some integer
  | "float" => some float
  | "double" => some float
  | "boolean" => some boolean
  | "object" => some object
  | "function" => some function
  | "symbol" => some symbol
  | "regex" => some regex
  | "date" => some date
  | "null" => some null
  | _ => none

end Builder

end RecordCheck
