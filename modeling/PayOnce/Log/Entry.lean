/-!
Log entries, and the stretches of work that they lie in.
-/

namespace PayOnce

/-- How much an entry matters, the most pressing first. -/
inductive Level
  | error
  | warn
  | info
  | debug
  | trace
deriving DecidableEq, Repr

namespace Level

/-- The name of a level. -/
def name : Level → String
  | error => "ERROR"
  | warn => "WARN"
  | info => "INFO"
  | debug => "DEBUG"
  | trace => "TRACE"

/-- How far down a level is: one for errors, five for traces. -/
def rank : Level → Nat
  | error => 1
  | warn => 2
  | info => 3
  | debug => 4
  | trace => 5

end Level

/-- Named texts, in order. -/
abbrev Fields := List (String × String)

/-- A stretch of work with a name, in a part of the program, and what is told about it. Some of its
    fields are texts of clients and are written in quotes where entries are written for people. All
    stretches are of level info. -/
structure LogSpan where
  name : String
  part : String
  shown : Fields
  quoted : Fields := []
deriving DecidableEq, Repr

/-- All fields of a stretch of work. -/
def LogSpan.fields (s : LogSpan) : Fields :=
  s.shown ++ s.quoted

/-- An entry with its fields, from a part of the program, and the stretches of work that it lies in,
    the outermost first. -/
structure LogEntry where
  level : Level
  part : String
  message : String
  fields : Fields
  spans : List LogSpan
deriving DecidableEq, Repr

namespace LogEntry

/-- An entry outside any stretch of work. -/
def make (part : String) (level : Level) (message : String) (fields : Fields) : LogEntry :=
  ⟨level, part, message, fields, []⟩

/-- An entry inside a stretch of work, which is around those that the entry lies in already. -/
def within (span : LogSpan) (e : LogEntry) : LogEntry :=
  { e with spans := span :: e.spans }

/-- The names of what an entry tells, its message included. -/
def fieldNames (e : LogEntry) : List String :=
  "message" :: e.fields.map (·.1)

/-- The fields of the innermost stretch of work. -/
def innermost (e : LogEntry) : Option Fields :=
  e.spans.getLast?.map (·.fields)

end LogEntry

end PayOnce
