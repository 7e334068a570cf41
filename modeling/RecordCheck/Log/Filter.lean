import RecordCheck.Number.Literal
import RecordCheck.Text.Alphanumeric
import RecordCheck.Text.WhiteSpace
import RecordCheck.Trace

/-!
# Plain filters

A plain filter is a list of directives separated by commas. A directive sets a level
for all targets, or for one target and what is below it; a target alone lets
everything of it through, and so does a target before `=` and nothing. The
directive with the longest matching target decides. Where no directive matches
nothing is let through, but a filter without any directive lets errors through.
Directives about spans and their fields, which stand in brackets, are not plain.
-/

namespace RecordCheck.Log

/-! ## Directives -/

/-- The least important severity that is let through, or `none` for nothing at all. -/
abbrev Threshold := Option Severity

namespace Threshold

/-- The threshold that lets everything through. -/
def everything : Threshold := some .trace

/-- The threshold with a number: how many severities are let through. -/
def ofNat? : Nat → Option Threshold
  | 0 => some none
  | 1 => some (some .error)
  | 2 => some (some .warn)
  | 3 => some (some .info)
  | 4 => some (some .debug)
  | 5 => some (some .trace)
  | _ => none

/-- The threshold whose number is written in digits, with or without a plus sign. -/
def ofDigits? (word : List Char) : Option Threshold :=
  let digits := if word.head? = some '+' then word.tail else word
  if digits.isEmpty ∨ !digits.all Char.isDigit then none
  else ofNat? (Literal.digitsValue digits)

/-- The threshold that a word names in any case, or by its number. -/
def parse? (word : List Char) : Option Threshold :=
  match String.ofList (word.map Char.toLower) with
  | "off" => some none
  | "error" => some (some .error)
  | "warn" => some (some .warn)
  | "info" => some (some .info)
  | "debug" => some (some .debug)
  | "trace" => some (some .trace)
  | _ => ofDigits? word

/-- Whether a severity is let through. -/
def admits (threshold : Threshold) (severity : Severity) : Bool :=
  match threshold with
  | some least => least.rank ≤ severity.rank
  | none => false

end Threshold

/-- A threshold for a target and what is below it; the empty target is above all. -/
structure Directive where
  target : String
  threshold : Threshold
  deriving DecidableEq

namespace Directive

/-- Whether a directive can start with the character. -/
def isStart (c : Char) : Bool := c = '-' || c = ':' || c = '_' || Text.isAlphanumeric c

/-- A directive without `=`: a level for all targets, or a target. -/
def ofWord (word : List Char) : Directive :=
  match Threshold.parse? word with
  | some threshold => ⟨"", threshold⟩
  | none => ⟨String.ofList word, .everything⟩

/-- A directive as it is written: a level, a target, or both with `=` between,
where the level may be left out. White space before a directive is only put up
with where there is no `=`, and then belongs to the target. -/
def parse? (word : List Char) : Option Directive :=
  let lead := word.takeWhile Text.isWhiteSpace
  match word.drop lead.length, word.dropWhile (· != '=') with
  | [], _ => none
  | first :: _, [] => if isStart first then some (ofWord word) else none
  | first :: _, _ :: level =>
    if !isStart first ∨ !lead.isEmpty then none
    else
      let target := String.ofList (word.takeWhile (· != '='))
      if level.isEmpty then some ⟨target, .everything⟩
      else (Threshold.parse? level).map (⟨target, ·⟩)

/-- Whether the directive is about a target. -/
def covers (directive : Directive) (target : String) : Bool :=
  directive.target.toList.isPrefixOf target.toList

end Directive

/-! ## Filters -/

/-- The parts of a text between separators. -/
def splitAtEach (separator : Char) : List Char → List (List Char)
  | [] => [[]]
  | c :: rest =>
    if c = separator then [] :: splitAtEach separator rest
    else
      match splitAtEach separator rest with
      | word :: words => (c :: word) :: words
      | [] => [[c]]

/-- The directives of a filter, in the order in which they are written. -/
structure Filter where
  directives : List Directive
  deriving DecidableEq

namespace Filter

/-- The filter that a text writes; empty directives are skipped. -/
def parse? (text : String) : Option Filter :=
  let words := (splitAtEach ',' text.toList).filter fun word => !word.isEmpty
  (words.mapM Directive.parse?).map Filter.mk

/-- The one of two directives with the longer target, the later if they are equal. -/
def closer (best : Option Directive) (directive : Directive) : Option Directive :=
  match best with
  | some other =>
    if other.target.length ≤ directive.target.length then some directive else some other
  | none => some directive

/-- The directive that decides about a target. -/
def deciding? (filter : Filter) (target : String) : Option Directive :=
  (filter.directives.filter (·.covers target)).foldl closer none

/-- Whether an event or span of a target and severity is let through. -/
def enables (filter : Filter) (target : String) (severity : Severity) : Bool :=
  if filter.directives.isEmpty then Threshold.admits (some .error) severity
  else
    match filter.deciding? target with
    | some directive => directive.threshold.admits severity
    | none => false

end Filter

end RecordCheck.Log
