/-!
Media types: type, subtype with an optional suffix, and parameters. Only what decides whether a
body is JSON is kept; the parameters are read for their form alone.
-/

namespace PayOnce.Http

/-- A media type in lower case; the suffix is what follows the last plus sign. -/
structure MediaType where
  type : String
  subtype : String
  suffix : Option String
deriving DecidableEq, Repr

namespace MediaType

/-- A character of a token. -/
def isTokenChar (c : Char) : Bool :=
  c.isAlphanum || "!#$%&'*+-.^_`|~".toList.contains c

/-- A character inside a quoted parameter. -/
def isQuotedChar (c : Char) : Bool :=
  c.toNat > 31 && c.toNat != 127

/-- Where a reader of parameters stands. -/
inductive Spot
  /-- Before a parameter, or at the end. -/
  | between
  /-- Inside a name. -/
  | name
  /-- After the equals sign. -/
  | valueStart
  /-- Inside a token. -/
  | value
  /-- After an opening quote. -/
  | quotedStart
  /-- Inside quotes. -/
  | quoted
  /-- After a closing quote. -/
  | afterQuoted
deriving DecidableEq, Repr

/-- Looks at one more character of the parameters. A quoted value is not empty. -/
def Spot.step (s : Spot) (c : Char) : Option Spot :=
  match s with
  | between => if c = ' ' then some between else if isTokenChar c then some name else none
  | name => if c = '=' then some valueStart else if isTokenChar c then some name else none
  | valueStart =>
    if c = '"' then some quotedStart else if isTokenChar c then some value else none
  | value => if c = ';' then some between else if isTokenChar c then some value else none
  | quotedStart => if isQuotedChar c then some quoted else none
  | quoted =>
    if c = '"' then some afterQuoted else if isQuotedChar c then some quoted else none
  | afterQuoted =>
    if c = ';' then some between else if c = ' ' then some afterQuoted else none

/-- May the parameters end here? -/
def Spot.accepts : Spot → Bool
  | between => true
  | valueStart => true
  | value => true
  | afterQuoted => true
  | _ => false

/-- Are these the parameters of a media type, after the first semicolon? -/
def areParameters (cs : List Char) : Bool :=
  match cs.foldlM Spot.step .between with
  | some s => s.accepts
  | none => false

/-- The parts of a subtype before and after its last plus sign; a plus sign at the very start
    belongs to the subtype. -/
def splitSuffix (cs : List Char) : List Char × Option (List Char) :=
  let reversed := cs.reverse
  let suffix := (reversed.takeWhile (· != '+')).reverse
  let before := (reversed.dropWhile (· != '+')).drop 1 |>.reverse
  if before.isEmpty then (cs, none) else (before, some suffix)

/-- Reads a media type. -/
def ofText? (s : String) : Option MediaType :=
  let lower := s.toList.map Char.toLower
  let type := lower.takeWhile isTokenChar
  match lower.drop type.length with
  | '/' :: rest =>
    let whole := rest.takeWhile isTokenChar
    let after := rest.drop whole.length
    let parameters := after.isEmpty
      || (after.head? == some ';' && !whole.isEmpty && areParameters (after.drop 1))
    if !type.isEmpty && parameters then
      let (subtype, suffix) := splitSuffix whole
      some ⟨String.ofList type, String.ofList subtype, suffix.map String.ofList⟩
    else none
  | _ => none

/-- A media type whose bodies are JSON. -/
def isJson (m : MediaType) : Bool :=
  m.type == "application" && (m.subtype == "json" || m.suffix == some "json")

end MediaType

end PayOnce.Http
