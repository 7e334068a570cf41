/-!
# Environment variables

What a program finds in its environment: texts under names. A variable that is
set to something that is not text counts as unset, so it is left out here.
-/

namespace RecordCheck

/-- Each variable that is set, with its text; of two under one name the first counts. -/
structure Environment where
  assignments : List (String × String) := []

/-- The text of a variable, if it is set. -/
def Environment.get? (environment : Environment) (name : String) : Option String :=
  environment.assignments.lookup name

end RecordCheck
