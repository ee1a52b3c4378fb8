import PayOnce.Http.Handler
import PayOnce.Net.SocketAddress
/-!
The configuration of the service, read from named variables. A variable that is blank counts as
unset; the first one that cannot be used is told.
-/

namespace PayOnce

open Text

/-- Settings of the database. -/
structure DatabaseConfig where
  url : String
  maxConnections : Nat
  minConnections : Nat
  maxLifetime : Span
  idleTimeout : Span
  runMigrations : Bool
deriving DecidableEq, Repr

/-- Settings of the cache server. -/
structure CacheConfig where
  url : String
  space : String
deriving DecidableEq, Repr

/-- The configuration. -/
structure Config where
  environment : String
  host : String
  port : Nat
  limits : Http.Limits
  shutdownTimeout : Span
  database : DatabaseConfig
  cache : CacheConfig
  deadlines : Deadlines
  otlpEndpoint : Option String
deriving DecidableEq, Repr

/-- Why a configuration cannot be used. -/
inductive ConfigFault
  /-- The database is not named. -/
  | noDatabase
  /-- A variable is no number of its type. -/
  | number (name value : String) (cause : Decimal.Fault)
  /-- A variable is neither true nor false. -/
  | boolean (name value : String)
  /-- Host and port make no address. -/
  | address
deriving DecidableEq, Repr

/-- The wording of a fault. -/
def ConfigFault.message : ConfigFault → String
  | .noDatabase => "DATABASE_URL must be set"
  | .number name value cause =>
    name ++ " is invalid (" ++ Quoted.text value ++ "): " ++ cause.message
  | .boolean name value =>
    name ++ " is invalid (" ++ Quoted.text value
      ++ "): provided string was not `true` or `false`"
  | .address => "invalid HOST:PORT combination: invalid socket address syntax"

namespace Config

/-- Named variables. -/
abbrev Lookup := String → Option String

/-- A variable that is set and not blank. -/
def given (lookup : Lookup) (name : String) : Option String :=
  (lookup name).filter (!isBlank ·)

/-- A variable, or its default. -/
def var (lookup : Lookup) (name default : String) : String :=
  (given lookup name).getD default

/-- A variable that holds a number below a bound, blanks around it apart. -/
def number (lookup : Lookup) (bound : Nat) (name default : String) : Except ConfigFault Nat :=
  let value := var lookup name default
  match Decimal.unsigned bound (trimChars value.toList) with
  | .ok n => .ok n
  | .error cause => .error (.number name value cause)

/-- A variable that holds true or false, blanks around it apart. -/
def boolean (lookup : Lookup) (name default : String) : Except ConfigFault Bool :=
  let value := var lookup name default
  if trim value = "true" then .ok true
  else if trim value = "false" then .ok false
  else .error (.boolean name value)

/-- A variable that holds a number of seconds. -/
def seconds (lookup : Lookup) (name default : String) : Except ConfigFault Span :=
  (number lookup (Nat.pow 2 64) name default).map Span.ofSeconds

/-- A variable that holds a number of milliseconds. -/
def millis (lookup : Lookup) (name default : String) : Except ConfigFault Span :=
  (number lookup (Nat.pow 2 64) name default).map Span.ofMillis

/-- Reads the configuration. -/
def read (lookup : Lookup) : Except ConfigFault Config := do
  let some url := given lookup "DATABASE_URL" | .error .noDatabase
  let port ← number lookup (Nat.pow 2 16) "PORT" "3000"
  let read ← seconds lookup "HTTP_READ_TIMEOUT_SECS" "10"
  let request ← seconds lookup "HTTP_REQUEST_TIMEOUT_SECS" "30"
  let shutdownTimeout ← seconds lookup "HTTP_SHUTDOWN_TIMEOUT_SECS" "15"
  let maxConnections ← number lookup (Nat.pow 2 32) "DATABASE_MAX_CONNS" "20"
  let minConnections ← number lookup (Nat.pow 2 32) "DATABASE_MIN_CONNS" "5"
  let maxLifetime ← seconds lookup "DATABASE_MAX_CONN_LIFETIME_SECS" "3600"
  let idleTimeout ← seconds lookup "DATABASE_MAX_CONN_IDLE_SECS" "1800"
  let runMigrations ← boolean lookup "DATABASE_RUN_MIGRATIONS" "true"
  let cache ← millis lookup "CACHE_TIMEOUT_MS" "500"
  let store ← millis lookup "STORE_TIMEOUT_MS" "5000"
  return {
    environment := var lookup "APP_ENV" "development"
    host := var lookup "HOST" "0.0.0.0"
    port
    limits := ⟨read, request⟩
    shutdownTimeout
    database :=
      { url, maxConnections, minConnections, maxLifetime, idleTimeout, runMigrations }
    cache :=
      { url := var lookup "REDIS_URL" "redis://127.0.0.1:6379"
        space := var lookup "REDIS_NAMESPACE" "payment-service" }
    deadlines := ⟨cache, store⟩
    otlpEndpoint := given lookup "OTEL_EXPORTER_OTLP_ENDPOINT" }

/-- Is this the configuration of a service that real clients use? -/
def forProduction (c : Config) : Bool :=
  c.environment == "production"

/-- The address to listen on. -/
def listenAddress (c : Config) : Except ConfigFault Net.SocketAddress :=
  match Net.SocketAddress.ofText? (c.host ++ ":" ++ Decimal.text c.port) with
  | some a => .ok a
  | none => .error .address

end Config

/-- An error of the service as a whole. -/
inductive ServiceError
  | config (detail : String)
  | cache (cause : CacheError)
  | telemetry (detail : String)
  | server (detail : String)
deriving DecidableEq, Repr

/-- The wording of an error of the service. -/
def ServiceError.message : ServiceError → String
  | .config detail => "configuration error: " ++ detail
  | .cache cause => "cache error: " ++ cause.message
  | .telemetry detail => "telemetry error: " ++ detail
  | .server detail => "server error: " ++ detail

/-- A fault of the configuration, as an error of the service. -/
def ConfigFault.toServiceError (f : ConfigFault) : ServiceError :=
  .config f.message

end PayOnce
