/-!
Request targets and other identifiers of resources: a path, a host, or scheme, host and path.
-/

namespace PayOnce.Http

/-- The parts of an identifier; a fragment is not kept. -/
structure Uri where
  scheme : Option String
  authority : String
  path : String
  query : Option String
deriving DecidableEq, Repr

namespace Uri

/-- A character of a scheme. -/
def isSchemeChar (c : Char) : Bool :=
  c.isAlphanum || c == '+' || c == '-' || c == '.' || c == '~'

/-- A character that may stand in an identifier without escape. -/
def isPlain (c : Char) : Bool :=
  0x21 ≤ c.toNat && c.toNat ≤ 0x7E
    && !("\"%<>\\^`".toList.contains c || c == '{' || c == '|' || c == '}')

/-- A character of a path; some that ought to be escaped are let pass. -/
def isPathChar (c : Char) : Bool :=
  let n := c.toNat
  n == 0x21 || n == 0x22 || (0x24 ≤ n && n ≤ 0x3B) || n == 0x3D || (0x40 ≤ n && n ≤ 0x5F)
    || (0x61 ≤ n && n != 0x7F)

/-- A character of a query. -/
def isQueryChar (c : Char) : Bool :=
  let n := c.toNat
  n == 0x21 || (0x24 ≤ n && n ≤ 0x3B) || n == 0x3D || (0x3F ≤ n && n != 0x7F)

/-- Splits off a scheme, which `://` follows. -/
def splitScheme? (cs : List Char) : Option (List Char × List Char) :=
  match cs.dropWhile isSchemeChar with
  | ':' :: '/' :: '/' :: rest => some (cs.takeWhile isSchemeChar, rest)
  | _ => none

/-- What was seen of an authority so far. -/
structure AuthorityScan where
  colons : Nat := 0
  opened : Bool := false
  closed : Bool := false
  percent : Bool := false
  afterAt : Bool := false

/-- Looks at one more character of an authority. Colons and percent signs before an `@` or inside
    brackets do not count. -/
def AuthorityScan.step (s : AuthorityScan) (c : Char) : Option AuthorityScan :=
  if c = ':' then
    if s.colons ≥ 8 then none else some { s with colons := s.colons + 1, afterAt := false }
  else if c = '[' then
    if s.percent || s.opened then none else some { s with opened := true, afterAt := false }
  else if c = ']' then
    if !s.opened || s.closed then none
    else some { s with closed := true, colons := 0, percent := false, afterAt := false }
  else if c = '@' then some { s with colons := 0, percent := false, afterAt := true }
  else if c = '%' then some { s with percent := true, afterAt := false }
  else if isPlain c then some { s with afterAt := false }
  else none

/-- Ends an authority: brackets are paired, at most one colon leads to a port, and a host follows
    the user. -/
def AuthorityScan.accepts (s : AuthorityScan) : Bool :=
  s.opened == s.closed && s.colons ≤ 1 && !s.afterAt && !s.percent

/-- The end of an authority. -/
def endsAuthority (c : Char) : Bool :=
  c == '/' || c == '?' || c == '#'

/-- Splits off an authority, which may be empty. -/
def splitAuthority? (cs : List Char) : Option (List Char × List Char) := do
  let host := cs.takeWhile (!endsAuthority ·)
  let scan ← host.foldlM AuthorityScan.step {}
  if scan.accepts then some (host, cs.drop host.length) else none

/-- Reads a path with its query; an empty path is the root. -/
def ofPath? (scheme : Option String) (authority : String) (cs : List Char) : Option Uri :=
  let kept := cs.takeWhile (· != '#')
  let path := kept.takeWhile (· != '?')
  let query := kept.drop path.length
  if path.all isPathChar && (query.drop 1).all isQueryChar then
    some
      { scheme
        authority
        path := if path.isEmpty then "/" else String.ofList path
        query := if query.isEmpty then none else some (String.ofList (query.drop 1)) }
  else none

/-- The longest identifier. -/
def longest : Nat := 65534

/-- Reads an identifier that does not start with a slash. -/
def ofAbsolute? (cs : List Char) : Option Uri :=
  match splitScheme? cs with
  | none => do
    let (authority, rest) ← splitAuthority? cs
    if rest.isEmpty then some ⟨none, String.ofList authority, "", none⟩ else none
  | some (scheme, rest) =>
    let lower := scheme.map Char.toLower
    -- A scheme that is well known is shown in lower case, any other one as it is spelled.
    let known := lower = "http".toList ∨ lower = "https".toList
    if known ∨ scheme.length ≤ 64 then do
      let (authority, rest) ← splitAuthority? rest
      let shown := String.ofList (if known then lower else scheme)
      if authority.isEmpty then none
      else ofPath? (some shown) (String.ofList authority) rest
    else none

/-- Reads an identifier. -/
def ofText? (s : String) : Option Uri :=
  if s.utf8ByteSize > longest then none
  else match s.toList with
    | [] => none
    | ['*'] => some ⟨none, "", "*", none⟩
    | '/' :: rest => ofPath? none "" ('/' :: rest)
    | cs => ofAbsolute? cs

/-- The text of an identifier. -/
def text (u : Uri) : String :=
  (match u.scheme with
    | some s => s ++ "://"
    | none => "")
    ++ u.authority ++ u.path
    ++ match u.query with
      | some q => "?" ++ q
      | none => ""

end Uri

end PayOnce.Http
