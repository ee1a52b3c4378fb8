import PayOnce.Service.Call
import PayOnce.Text.Utf8
/-!
An idempotency cache on a server that is shared with other services. Every operation is one command
under a key of the service's own, and a reading of its reply.
-/

namespace PayOnce

open Text

/-- The key on the server for a key of the service. -/
def fullKey (space key : String) : String :=
  space ++ ":idempotency:" ++ key

/-- The arguments of a command. -/
abbrev RedisCommand := List String

/-- The reply of the server. -/
inductive RedisReply
  | nil
  | bulk (bytes : List UInt8)
  | simple (s : String)
  | int (n : Int)
  | error (detail : String)
deriving DecidableEq, Repr

namespace RedisCache

/-- Why a reply of another type cannot be used. -/
def unfit : CacheError :=
  .unavailable "response was of incompatible type"

/-- Reads the reply to `GET`: bytes that are a text, or nothing. -/
def readValue : RedisReply → Except CacheError (Option String)
  | .nil => .ok none
  | .bulk bytes => match Utf8.decode bytes with
    | .ok s => .ok (some s)
    | .error fault => .error (.corrupt fault.message)
  | .simple _ | .int _ => .error unfit
  | .error detail => .error (.unavailable detail)

/-- Reads the reply to `SET`: a text, or nothing when the key has a value already. -/
def readStored : RedisReply → Except CacheError Unit
  -- Nobody is told that somebody else was first; the value is there.
  | .nil => .ok ()
  | .bulk bytes => match Utf8.decode bytes with
    | .ok _ => .ok ()
    | .error _ => .error unfit
  | .simple _ => .ok ()
  | .int _ => .ok ()
  | .error detail => .error (.unavailable detail)

/-- Reads a text that spells a number. -/
def readCountText (s : String) : Except CacheError Unit :=
  match Decimal.unsigned (Nat.pow 2 64) s.toList with
  | .ok _ => .ok ()
  | .error _ => .error unfit

/-- Reads the reply to `DEL`: a number, or a text that spells one. -/
def readCount : RedisReply → Except CacheError Unit
  | .int _ => .ok ()
  | .simple s => readCountText s
  | .bulk bytes => match Utf8.decode bytes with
    | .ok s => readCountText s
    | .error _ => .error unfit
  | .nil => .error unfit
  | .error detail => .error (.unavailable detail)

/-- Reads the reply to `PING`: a text. -/
def readPong : RedisReply → Except CacheError Unit
  | .nil => .error unfit
  | r => readStored r

/-- The largest number of milliseconds that a command takes. -/
def mostMillis : Nat := Nat.pow 2 64 - 1

/-- The command for a call. A value is written only if there is none, and expires by itself. -/
def command (space : String) : CacheCall → RedisCommand
  | .get key => ["GET", fullKey space key]
  | .set key value ttl =>
    ["SET", fullKey space key, value, "NX", "PX",
      Decimal.text (min ttl.millis mostMillis)]
  | .evict key => ["DEL", fullKey space key]
  | .ping => ["PING"]

/-- What the reply to the command of a call means. -/
def read : (c : CacheCall) → RedisReply → c.Reply
  | .get _, r => readValue r
  | .set .., r => readStored r
  | .evict _, r => readCount r
  | .ping, r => readPong r

end RedisCache

end PayOnce
