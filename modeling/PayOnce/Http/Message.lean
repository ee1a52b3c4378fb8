import PayOnce.Http.Uri
import PayOnce.Json.Value
import PayOnce.Text.Utf8
import PayOnce.Time.Span
/-!
Requests and responses.
-/

namespace PayOnce.Http

/-- Bytes, for instance of a header's value. -/
abbrev Bytes := List UInt8

/-- A header. Names are compared without regard to case. -/
structure Header where
  name : String
  value : Bytes
deriving DecidableEq, Repr

/-- The first value of the header with a name in lower case. -/
def firstValue? (headers : List Header) (name : String) : Option Bytes :=
  (headers.find? fun h => h.name.toList.map Char.toLower == name.toList).map (·.value)

/-- A header's value as a text, if it holds visible ASCII characters, spaces and tabs only. -/
def visibleText? (value : Bytes) : Option String :=
  if value.all fun b => b.toNat == 9 || (32 ≤ b.toNat && b.toNat < 127) then
    some (String.ofList (value.map fun b => Char.ofNat b.toNat))
  else none

/-- A piece of a body, and how long it takes to come. -/
structure Piece where
  delay : Span
  bytes : Bytes
deriving DecidableEq, Repr

/-- What follows the last piece of a body. -/
inductive BodyEnd
  /-- The body is complete. -/
  | complete
  /-- Nothing more ever comes. -/
  | silent
  /-- The connection breaks. -/
  | broken (detail : String)
deriving DecidableEq, Repr

/-- A body as it comes in. -/
structure Body where
  pieces : List Piece
  ending : BodyEnd
deriving DecidableEq, Repr

/-- A request. -/
structure Request where
  method : String
  target : Uri
  headers : List Header
  body : Body
deriving DecidableEq, Repr

/-- The content of a response. -/
inductive Content
  | text (s : String)
  | json (v : Json.Value)
deriving Repr

/-- No content. -/
def Content.empty : Content :=
  .text ""

/-- A response; header names are in lower case. -/
structure Response where
  status : Nat
  headers : List Header
  content : Content
deriving Repr

namespace Response

/-- A response without content. -/
def empty (status : Nat) : Response :=
  ⟨status, [], .empty⟩

/-- A response with a JSON value. -/
def json (status : Nat) (v : Json.Value) : Response :=
  ⟨status, [⟨"content-type", Text.Utf8.encode "application/json"⟩], .json v⟩

/-- A response with a text for people. -/
def text (status : Nat) (s : String) : Response :=
  ⟨status, [⟨"content-type", Text.Utf8.encode "text/plain; charset=utf-8"⟩], .text s⟩

/-- Adds a header. -/
def withHeader (r : Response) (name value : String) : Response :=
  { r with headers := r.headers ++ [⟨name, Text.Utf8.encode value⟩] }

end Response

end PayOnce.Http
