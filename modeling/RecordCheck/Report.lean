import RecordCheck.Failure

/-!
# Reports

The outcome of checking a record: how many fields there were, and the failures
in the order of the fields.
-/

namespace RecordCheck

/-- The outcome of checking a record. -/
structure Report where
  checked : Nat
  failures : List Failure

namespace Report

/-- Whether no field failed. -/
def passed (report : Report) : Bool := report.failures.isEmpty

/-- The first failure of a field. -/
def failureFor? (report : Report) (key : String) : Option Failure :=
  report.failures.find? fun failure => failure.key = key

/-- Nothing, or the failures of a report that has any. -/
def result (report : Report) : Except (List Failure) Unit :=
  if report.passed then .ok () else .error report.failures

/-- The lines of the report: a summary, and one line for each failure. -/
def lines (report : Report) : List String :=
  if report.passed then
    ["validation passed (" ++ toString report.checked ++ " fields checked)"]
  else
    ("validation failed with " ++ toString report.failures.length ++ " failure(s)") ::
      report.failures.map fun failure => "  - " ++ failure.message

/-- The lines of the report as one text. -/
def text (report : Report) : String := "\n".intercalate report.lines

/-- The report as JSON. -/
def toJson (report : Report) : Json :=
  .ofMembers
    [("passed", .boolean report.passed), ("failures", .array (report.failures.map Failure.toJson))]

/-- Whether two reports are equal. -/
def equal (a b : Report) : Bool := a.checked == b.checked && a.failures == b.failures

instance : BEq Report := ⟨equal⟩

end Report

end RecordCheck
