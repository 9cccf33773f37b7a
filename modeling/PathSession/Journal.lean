/-!
# The journal

What the engine remarks while it works: entries with a level, a text and named values, in the
order in which they arise.
-/

namespace PathSession

/-- How much an entry matters. -/
inductive Level
  | error
  | warn
  | info
  | debug
  | trace
  deriving DecidableEq, Repr

/-- The name of a level. -/
def Level.label : Level → String
  | error => "ERROR"
  | warn => "WARN"
  | info => "INFO"
  | debug => "DEBUG"
  | trace => "TRACE"

/-- One remark. -/
structure Entry where
  level : Level
  text : String
  fields : List (String × String)
  deriving DecidableEq, Repr

/-- The remarks of an operation, in order. -/
abbrev Journal := List Entry

/-- The named values of an entry as `name=value`. -/
def Entry.fieldTexts (e : Entry) : List String :=
  e.fields.map fun (name, value) => name ++ "=" ++ value

end PathSession
