import PayOnce.Text.Decimal
import PayOnce.Text.Hex
/-!
Socket addresses: an IPv4 address and a port, or an IPv6 address in brackets, which may name a
zone, and a port. Reading accepts every usual spelling; printing gives the shortest one.
-/

namespace PayOnce.Net

open Text

/-- An address with a port. -/
inductive SocketAddress
  | v4 (octets : List Nat) (port : Nat)
  | v6 (groups : List Nat) (zone port : Nat)
deriving DecidableEq, Repr

namespace SocketAddress

/-- Reads the longest row of digits as a number below a bound. -/
def readNumber (digit? : Char → Option Nat) (value? : Nat → List Char → Option Nat)
    (most bound : Nat) (cs : List Char) : Option (Nat × List Char) := do
  let ds := cs.takeWhile fun c => (digit? c).isSome
  if ds.isEmpty || ds.length > most then none
  else
    let n ← value? 0 ds
    if n < bound then some (n, cs.drop ds.length) else none

/-- Reads a decimal number below a bound. -/
def readDecimal (bound : Nat) (cs : List Char) : Option (Nat × List Char) :=
  readNumber Decimal.digit? Decimal.value? cs.length bound cs

/-- Reads one number of an IPv4 address, which has no leading zeros. -/
def readOctet (cs : List Char) : Option (Nat × List Char) :=
  match cs with
  | '0' :: c :: _ =>
    if Decimal.isDigit c then none else readNumber Decimal.digit? Decimal.value? 3 256 cs
  | _ => readNumber Decimal.digit? Decimal.value? 3 256 cs

/-- Reads one group of an IPv6 address: one to four hexadecimal digits. -/
def readGroup (cs : List Char) : Option (Nat × List Char) :=
  readNumber Hex.digit? Hex.value? 4 65536 cs

/-- Reads one character. -/
def readMark (c : Char) : List Char → Option (List Char)
  | d :: rest => if d = c then some rest else none
  | [] => none

/-- Reads an IPv4 address. -/
def readV4 (cs : List Char) : Option (List Nat × List Char) := do
  let (a, cs) ← readOctet cs
  let (b, cs) ← readOctet (← readMark '.' cs)
  let (c, cs) ← readOctet (← readMark '.' cs)
  let (d, cs) ← readOctet (← readMark '.' cs)
  return ([a, b, c, d], cs)

/-- The two groups that an IPv4 address fills. -/
def groupsOfV4 : List Nat → List Nat
  | [a, b, c, d] => [256 * a + b, 256 * c + d]
  | _ => []

/-- Reads up to `left` groups with colons between them, as many as there are. An IPv4 address may
    stand for the last two. Gives the groups, whether an IPv4 address ended them, and the rest. -/
def readGroups (first : Bool) : (left : Nat) → List Char → List Nat × Bool × List Char
  | 0, cs => ([], false, cs)
  | left + 1, cs =>
    match if first then some cs else readMark ':' cs with
    | none => ([], false, cs)
    -- An IPv4 address fills two groups, so one that is left is not enough.
    | some front => match if left > 0 then readV4 front else none with
      | some (octets, rest) => (groupsOfV4 octets, true, rest)
      | none => match readGroup front with
        | none => ([], false, cs)
        | some (g, rest) =>
          let (gs, dotted, rest) := readGroups false left rest
          (g :: gs, dotted, rest)

/-- Reads an IPv6 address. Two colons stand for at least one group of zero. -/
def readV6 (cs : List Char) : Option (List Nat × List Char) :=
  let (head, dotted, rest) := readGroups true 8 cs
  if head.length = 8 then some (head, rest)
  -- Only at the end of an address may an IPv4 address stand.
  else if dotted then none
  else do
    let rest ← readMark ':' (← readMark ':' rest)
    let (tail, _, rest) := readGroups true (7 - head.length) rest
    return (head ++ List.replicate (8 - head.length - tail.length) 0 ++ tail, rest)

/-- Reads a port after its colon, and nothing after it. -/
def readPort (cs : List Char) : Option Nat := do
  let (port, rest) ← readDecimal 65536 (← readMark ':' cs)
  if rest.isEmpty then some port else none

/-- Reads a zone if there is one. -/
def readZone (cs : List Char) : Nat × List Char :=
  match (readMark '%' cs).bind (readDecimal (Nat.pow 2 32)) with
  | some r => r
  | none => (0, cs)

/-- Reads a socket address. -/
def ofText? (s : String) : Option SocketAddress :=
  match readV4 s.toList with
  | some (octets, rest) => (readPort rest).map (v4 octets)
  | none => do
    let (groups, rest) ← readV6 (← readMark '[' s.toList)
    let (zone, rest) := readZone rest
    let port ← readPort (← readMark ']' rest)
    return v6 groups zone port

/-- Texts with a mark between them. -/
def joinWith (mark : Char) : List (List Char) → List Char
  | [] => []
  | [a] => a
  | a :: b :: rest => a ++ mark :: joinWith mark (b :: rest)

/-- Where the first of the longest runs of zeros starts, and how long it is. -/
def longestZeros : (index : Nat) → List Nat → Nat × Nat
  | _, [] => (0, 0)
  | index, g :: gs =>
    let here := ((g :: gs).takeWhile (· == 0)).length
    let later := longestZeros (index + 1) gs
    if here ≥ later.2 then (index, here) else later

/-- The text of an IPv4 address. -/
def v4Chars (octets : List Nat) : List Char :=
  joinWith '.' (octets.map Decimal.digits)

/-- Groups with colons between them. -/
def groupChars (groups : List Nat) : List Char :=
  joinWith ':' (groups.map Hex.digits)

/-- The text of an IPv6 address: an embedded IPv4 address with points, and the longest run of at
    least two zeros left out. -/
def v6Chars (groups : List Nat) : List Char :=
  match groups with
  | [0, 0, 0, 0, 0, 0xFFFF, g, h] =>
    "::ffff:".toList ++ v4Chars [g / 256, g % 256, h / 256, h % 256]
  | _ =>
    let (start, length) := longestZeros 0 groups
    if length > 1 then
      groupChars (groups.take start) ++ "::".toList ++ groupChars (groups.drop (start + length))
    else groupChars groups

/-- The text of a socket address. -/
def text : SocketAddress → String
  | v4 octets port => String.ofList (v4Chars octets ++ ':' :: Decimal.digits port)
  | v6 groups zone port =>
    let shownZone := if zone = 0 then [] else '%' :: Decimal.digits zone
    String.ofList ('[' :: v6Chars groups ++ shownZone ++ ']' :: ':' :: Decimal.digits port)

end SocketAddress

end PayOnce.Net
