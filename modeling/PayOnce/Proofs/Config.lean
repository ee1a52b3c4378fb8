import PayOnce.Config
import PayOnce.Proofs.Payment.Move
import PayOnce.Proofs.Text.Numerals
/-!
How the configuration is read. It is accepted exactly when the database is named and each variable
with a type is unset, blank, or holds a value of its type; then each setting is what its variable
says, or its default. What is told of a refused one is the first variable that cannot be used.
-/

namespace PayOnce.Config

open Text

/-! ## What variables say -/

/-- A variable is not set, or blank. -/
def Unset (lookup : Lookup) (name : String) : Prop :=
  ∀ text, lookup name = some text → isBlank text = true

/-- A text holds an unsigned number of so many bits, with blanks around it. -/
def HoldsNumber (bits : Nat) (text : String) (n : Nat) : Prop :=
  ∃ cs, Trimmed text cs ∧ Decimal.Numeral cs n ∧ n < 2 ^ bits

/-- A text holds a number of units of time. -/
def HoldsSpan (unit : Nat → Span) (text : String) (s : Span) : Prop :=
  ∃ n, HoldsNumber 64 text n ∧ s = unit n

/-- A text holds a truth value, with blanks around it. -/
def HoldsBool (text : String) (b : Bool) : Prop :=
  Trimmed text (if b then "true" else "false").toList

/-- A setting is the default where its variable is unset, and else what the variable holds. -/
inductive Gives {α : Type} (lookup : Lookup) (name : String) (default : α)
    (Holds : String → α → Prop) : α → Prop
  | default (h : Unset lookup name) : Gives lookup name default Holds default
  | given {text : String} {a : α} (htext : lookup name = some text)
      (hblank : isBlank text = false) (h : Holds text a) : Gives lookup name default Holds a

/-- All settings are what the variables say. A text is taken as it stands, blanks included. -/
@[mk_iff]
structure Describes (lookup : Lookup) (c : Config) : Prop where
  environment : Gives lookup "APP_ENV" "development" Eq c.environment
  host : Gives lookup "HOST" "0.0.0.0" Eq c.host
  port : Gives lookup "PORT" 3000 (HoldsNumber 16) c.port
  readTimeout :
    Gives lookup "HTTP_READ_TIMEOUT_SECS" (.ofSeconds 10) (HoldsSpan .ofSeconds) c.limits.read
  requestTimeout :
    Gives lookup "HTTP_REQUEST_TIMEOUT_SECS" (.ofSeconds 30) (HoldsSpan .ofSeconds) c.limits.request
  shutdownTimeout :
    Gives lookup "HTTP_SHUTDOWN_TIMEOUT_SECS" (.ofSeconds 15) (HoldsSpan .ofSeconds)
      c.shutdownTimeout
  databaseUrl : lookup "DATABASE_URL" = some c.database.url ∧ isBlank c.database.url = false
  maxConnections : Gives lookup "DATABASE_MAX_CONNS" 20 (HoldsNumber 32) c.database.maxConnections
  minConnections : Gives lookup "DATABASE_MIN_CONNS" 5 (HoldsNumber 32) c.database.minConnections
  maxLifetime :
    Gives lookup "DATABASE_MAX_CONN_LIFETIME_SECS" (.ofSeconds 3600) (HoldsSpan .ofSeconds)
      c.database.maxLifetime
  idleTimeout :
    Gives lookup "DATABASE_MAX_CONN_IDLE_SECS" (.ofSeconds 1800) (HoldsSpan .ofSeconds)
      c.database.idleTimeout
  runMigrations : Gives lookup "DATABASE_RUN_MIGRATIONS" true HoldsBool c.database.runMigrations
  cacheUrl : Gives lookup "REDIS_URL" "redis://127.0.0.1:6379" Eq c.cache.url
  cacheSpace : Gives lookup "REDIS_NAMESPACE" "payment-service" Eq c.cache.space
  cacheDeadline :
    Gives lookup "CACHE_TIMEOUT_MS" (.ofMillis 500) (HoldsSpan .ofMillis) c.deadlines.cache
  storeDeadline :
    Gives lookup "STORE_TIMEOUT_MS" (.ofMillis 5000) (HoldsSpan .ofMillis) c.deadlines.store
  otlpEndpoint :
    Gives lookup "OTEL_EXPORTER_OTLP_ENDPOINT" none (fun text e => e = some text) c.otlpEndpoint

/-! ## Variables with a type -/

/-- The type of a variable. -/
inductive Kind
  | number (bits : Nat)
  | boolean
deriving DecidableEq, Repr

namespace Kind

/-- A text holds a value of the type. -/
def Accepts : Kind → String → Prop
  | number bits, text => ∃ n, HoldsNumber bits text n
  | boolean, text => ∃ b, HoldsBool text b

/-- The words in which it is told why a text holds no value of the type. -/
inductive Refuses : Kind → String → String → Prop
  | tooLarge {bits : Nat} {text : String} {cs : List Char} (htext : Trimmed text cs)
      (hlarge : Decimal.Reaches Decimal.Numeral (2 ^ bits) cs) :
      Refuses (number bits) text "number too large to fit in target type"
  | notNumber {bits : Nat} {text : String} {cs : List Char} (htext : Trimmed text cs)
      (hsmall : ¬ Decimal.Reaches Decimal.Numeral (2 ^ bits) cs)
      (hnone : ¬ Accepts (number bits) text) :
      Refuses (number bits) text "invalid digit found in string"
  | notBoolean {text : String} (hnone : ¬ Accepts boolean text) :
      Refuses boolean text "provided string was not `true` or `false`"

end Kind

/-- A variable with a type. -/
structure Variable where
  name : String
  kind : Kind
  /-- What is read where the variable is unset. -/
  default : String
deriving DecidableEq, Repr

namespace Variable

/-- All variables with a type, in the order in which they are read. -/
def inOrder : List Variable :=
  [⟨"PORT", .number 16, "3000"⟩,
    ⟨"HTTP_READ_TIMEOUT_SECS", .number 64, "10"⟩,
    ⟨"HTTP_REQUEST_TIMEOUT_SECS", .number 64, "30"⟩,
    ⟨"HTTP_SHUTDOWN_TIMEOUT_SECS", .number 64, "15"⟩,
    ⟨"DATABASE_MAX_CONNS", .number 32, "20"⟩,
    ⟨"DATABASE_MIN_CONNS", .number 32, "5"⟩,
    ⟨"DATABASE_MAX_CONN_LIFETIME_SECS", .number 64, "3600"⟩,
    ⟨"DATABASE_MAX_CONN_IDLE_SECS", .number 64, "1800"⟩,
    ⟨"DATABASE_RUN_MIGRATIONS", .boolean, "true"⟩,
    ⟨"CACHE_TIMEOUT_MS", .number 64, "500"⟩,
    ⟨"STORE_TIMEOUT_MS", .number 64, "5000"⟩]

/-- The variable is unset, blank, or holds a value of its type. -/
def Valid (lookup : Lookup) (v : Variable) : Prop :=
  Unset lookup v.name ∨ ∃ text, lookup v.name = some text ∧ v.kind.Accepts text

/-- The variable is not valid, and each one before it is. -/
def FirstInvalid (lookup : Lookup) (v : Variable) : Prop :=
  ¬ v.Valid lookup ∧
    ∃ before after, inOrder = before ++ v :: after ∧ ∀ u ∈ before, u.Valid lookup

/-- The words in which a variable is refused with the text that it is set to. -/
def refusal (v : Variable) (text reason : String) : String :=
  v.name ++ " is invalid (" ++ Quoted.text text ++ "): " ++ reason

end Variable

/-- What is told of variables that make no configuration. -/
inductive Told (lookup : Lookup) : String → Prop
  | noDatabase (h : Unset lookup "DATABASE_URL") : Told lookup "DATABASE_URL must be set"
  | invalid {v : Variable} {text reason : String} (hurl : ¬ Unset lookup "DATABASE_URL")
      (hfirst : v.FirstInvalid lookup) (htext : lookup v.name = some text)
      (hreason : v.kind.Refuses text reason) : Told lookup (v.refusal text reason)

/-- Two lookups differ at most in which variables are unset and which are blank. -/
def SameButUnset (lookup other : Lookup) : Prop :=
  ∀ name, other name = lookup name ∨ (Unset lookup name ∧ Unset other name)

section Outcomes

variable {ε α β : Type} {x : Except ε α}

theorem map_eq_ok_iff {g : α → β} {b : β} : x.map g = .ok b ↔ ∃ a, x = .ok a ∧ b = g a := by
  cases x <;> simp [Except.map, eq_comm]

theorem map_eq_error_iff {g : α → β} {e : ε} : x.map g = .error e ↔ x = .error e := by
  cases x <;> simp [Except.map]

/-- Whether a step succeeds does not depend on what becomes of its value. -/
theorem map_unit_eq_ok_iff : (x.map fun _ => ()) = .ok () ↔ ∃ a, x = .ok a := by
  simp [map_eq_ok_iff]

end Outcomes

section Reading

variable {lookup : Lookup} {name default : String}

/-! ## Reading one variable -/

theorem given_eq_none_iff : given lookup name = none ↔ Unset lookup name := by
  simp [given, Unset, Option.filter_eq_none_iff]

theorem given_eq_some_iff {text : String} :
    given lookup name = some text ↔ lookup name = some text ∧ isBlank text = false := by
  simp [given, Option.filter_eq_some_iff]

/-- What a setting is, by what was given. -/
theorem gives_iff {α : Type} {fallback a : α} {Holds : String → α → Prop} :
    Gives lookup name fallback Holds a ↔
      match given lookup name with
      | none => a = fallback
      | some text => Holds text a := by
  constructor
  · intro h
    cases h with
    | default hunset => rw [given_eq_none_iff.2 hunset]
    | given htext hblank h => rwa [given_eq_some_iff.2 ⟨htext, hblank⟩]
  · intro h
    cases hgiven : given lookup name with
    | none =>
      rw [hgiven] at h
      subst h
      exact .default (given_eq_none_iff.1 hgiven)
    | some text =>
      rw [hgiven] at h
      obtain ⟨htext, hblank⟩ := given_eq_some_iff.1 hgiven
      exact .given htext hblank h

/-- A setting is what is held by the text that is read, also where that is the default. -/
theorem gives_iff_var {α : Type} {fallback a : α} {Holds : String → α → Prop}
    (hdefault : ∀ b, Holds default b ↔ b = fallback) :
    Gives lookup name fallback Holds a ↔ Holds (var lookup name default) a := by
  rw [gives_iff, var]
  cases given lookup name with
  | none => exact (hdefault a).symm
  | some text => rfl

theorem var_eq_iff {text : String} :
    var lookup name default = text ↔ Gives lookup name default Eq text := by
  rw [gives_iff_var fun _ => eq_comm]

theorem given_eq_iff {e : Option String} :
    given lookup name = e ↔ Gives lookup name none (fun text e => e = some text) e := by
  rw [gives_iff]
  cases given lookup name <;> exact eq_comm

theorem unsigned_trimChars_eq_ok_iff {bits n : Nat} {text : String} :
    Decimal.unsigned (Nat.pow 2 bits) (trimChars text.toList) = .ok n ↔
      HoldsNumber bits text n := by
  have hbound : 0 < Nat.pow 2 bits := Nat.two_pow_pos bits
  rw [Decimal.unsigned_eq_ok_iff hbound]
  constructor
  · rintro ⟨hnumeral, hlt⟩
    exact ⟨_, trimmed_trimChars text, hnumeral, hlt⟩
  · rintro ⟨cs, htrimmed, hnumeral, hlt⟩
    rw [(trimmed_iff text cs).1 htrimmed]
    exact ⟨hnumeral, hlt⟩

theorem HoldsNumber.eq_iff {bits n m : Nat} {text : String} (h : HoldsNumber bits text n) :
    HoldsNumber bits text m ↔ m = n := by
  rw [← unsigned_trimChars_eq_ok_iff] at h ⊢
  rw [h, Except.ok.injEq, eq_comm]

theorem HoldsNumber.span_eq_iff {n : Nat} {unit : Nat → Span} {text : String} {s : Span}
    (h : HoldsNumber 64 text n) : HoldsSpan unit text s ↔ s = unit n := by
  simp [HoldsSpan, h.eq_iff]

theorem holdsBool_iff {text : String} {b : Bool} :
    HoldsBool text b ↔ trim text = if b then "true" else "false" := by
  rw [HoldsBool, trimmed_iff, trim, ← String.toList_inj, String.toList_ofList]

theorem HoldsBool.eq_iff {a b : Bool} {text : String} (h : HoldsBool text a) :
    HoldsBool text b ↔ b = a := by
  rw [holdsBool_iff] at h ⊢
  rw [h]
  cases a <;> cases b <;> decide

theorem number_eq_ok_iff_var {bits n : Nat} :
    number lookup (Nat.pow 2 bits) name default = .ok n ↔
      HoldsNumber bits (var lookup name default) n := by
  rw [← unsigned_trimChars_eq_ok_iff, number]
  cases Decimal.unsigned (Nat.pow 2 bits) (trimChars (var lookup name default).toList) <;> simp

/-- A number is read as its variable gives it. -/
theorem number_eq_ok_iff {bits fallback n : Nat} (hdefault : HoldsNumber bits default fallback) :
    number lookup (Nat.pow 2 bits) name default = .ok n ↔
      Gives lookup name fallback (HoldsNumber bits) n := by
  rw [number_eq_ok_iff_var, gives_iff_var fun _ => hdefault.eq_iff]

/-- A span of time is read as its variable gives it. -/
theorem span_eq_ok_iff {fallback : Nat} {unit : Nat → Span} {s : Span}
    (hdefault : HoldsNumber 64 default fallback) :
    (number lookup (Nat.pow 2 64) name default).map unit = .ok s ↔
      Gives lookup name (unit fallback) (HoldsSpan unit) s := by
  rw [gives_iff_var fun _ => hdefault.span_eq_iff, map_eq_ok_iff]
  simp only [number_eq_ok_iff_var]
  rfl

theorem boolean_eq_ok_iff_var {b : Bool} :
    boolean lookup name default = .ok b ↔ HoldsBool (var lookup name default) b := by
  rw [holdsBool_iff, boolean]
  by_cases htrue : trim (var lookup name default) = "true"
  · cases b <;> simp [htrue]
  · by_cases hfalse : trim (var lookup name default) = "false"
    · cases b <;> simp [hfalse]
    · cases b <;> simp [htrue, hfalse]

/-- A truth value is read as its variable gives it. -/
theorem boolean_eq_ok_iff {fallback b : Bool} (hdefault : HoldsBool default fallback) :
    boolean lookup name default = .ok b ↔ Gives lookup name fallback HoldsBool b := by
  rw [boolean_eq_ok_iff_var, gives_iff_var fun _ => hdefault.eq_iff]

/-! ## Reading all variables -/

/-- A configuration is read exactly when it is what the variables say. -/
theorem read_eq_ok_iff {c : Config} : read lookup = .ok c ↔ Describes lookup c := by
  -- The defaults are texts that are read like any other.
  have h5 : HoldsNumber 32 "5" 5 := unsigned_trimChars_eq_ok_iff.1 rfl
  have h10 : HoldsNumber 64 "10" 10 := unsigned_trimChars_eq_ok_iff.1 rfl
  have h15 : HoldsNumber 64 "15" 15 := unsigned_trimChars_eq_ok_iff.1 rfl
  have h20 : HoldsNumber 32 "20" 20 := unsigned_trimChars_eq_ok_iff.1 rfl
  have h30 : HoldsNumber 64 "30" 30 := unsigned_trimChars_eq_ok_iff.1 rfl
  have h500 : HoldsNumber 64 "500" 500 := unsigned_trimChars_eq_ok_iff.1 rfl
  have h1800 : HoldsNumber 64 "1800" 1800 := unsigned_trimChars_eq_ok_iff.1 rfl
  have h3000 : HoldsNumber 16 "3000" 3000 := unsigned_trimChars_eq_ok_iff.1 rfl
  have h3600 : HoldsNumber 64 "3600" 3600 := unsigned_trimChars_eq_ok_iff.1 rfl
  have h5000 : HoldsNumber 64 "5000" 5000 := unsigned_trimChars_eq_ok_iff.1 rfl
  have htrue : HoldsBool "true" true := holdsBool_iff.2 rfl
  rw [describes_iff]
  simp only [← var_eq_iff, ← given_eq_iff, ← given_eq_some_iff, ← number_eq_ok_iff h5,
    ← number_eq_ok_iff h20, ← number_eq_ok_iff h3000, ← span_eq_ok_iff h10, ← span_eq_ok_iff h15,
    ← span_eq_ok_iff h30, ← span_eq_ok_iff h500, ← span_eq_ok_iff h1800, ← span_eq_ok_iff h3600,
    ← span_eq_ok_iff h5000, ← boolean_eq_ok_iff htrue]
  constructor
  · intro h
    unfold read at h
    split at h
    · next url hurl =>
      obtain ⟨port, hport, h⟩ := bind_eq_ok_iff.1 h
      obtain ⟨readTimeout, hread, h⟩ := bind_eq_ok_iff.1 h
      obtain ⟨requestTimeout, hrequest, h⟩ := bind_eq_ok_iff.1 h
      obtain ⟨shutdownTimeout, hshutdown, h⟩ := bind_eq_ok_iff.1 h
      obtain ⟨maxConnections, hmax, h⟩ := bind_eq_ok_iff.1 h
      obtain ⟨minConnections, hmin, h⟩ := bind_eq_ok_iff.1 h
      obtain ⟨maxLifetime, hlifetime, h⟩ := bind_eq_ok_iff.1 h
      obtain ⟨idleTimeout, hidle, h⟩ := bind_eq_ok_iff.1 h
      obtain ⟨runMigrations, hmigrations, h⟩ := bind_eq_ok_iff.1 h
      obtain ⟨cacheDeadline, hcache, h⟩ := bind_eq_ok_iff.1 h
      obtain ⟨storeDeadline, hstore, h⟩ := bind_eq_ok_iff.1 h
      cases h
      exact ⟨rfl, rfl, hport, hread, hrequest, hshutdown, hurl, hmax, hmin, hlifetime, hidle,
        hmigrations, rfl, rfl, hcache, hstore, rfl⟩
    · cases h
  · rintro ⟨henvironment, hhost, hport, hread, hrequest, hshutdown, hurl, hmax, hmin, hlifetime,
      hidle, hmigrations, hcacheUrl, hspace, hcache, hstore, hendpoint⟩
    unfold read seconds millis
    simp only [hurl, hport, hread, hrequest, hshutdown, hmax, hmin, hlifetime, hidle, hmigrations,
      hcache, hstore, henvironment, hhost, hcacheUrl, hspace, hendpoint]
    rfl

end Reading

/-! ## Checking one variable after the other -/

section Checks

variable {lookup : Lookup} {name default text reason : String}

/-- A number is refused in the words that are told of its digits. -/
theorem Kind.refuses_number_iff {bits : Nat} (hblank : isBlank text = false) :
    (Kind.number bits).Refuses text reason ↔
      ∃ cause, Decimal.unsigned (Nat.pow 2 bits) (trimChars text.toList) = .error cause ∧
        cause.message = reason := by
  have hbound : 0 < Nat.pow 2 bits := Nat.two_pow_pos bits
  constructor
  · intro h
    cases h with
    | tooLarge htext hlarge =>
      obtain rfl := (trimmed_iff _ _).1 htext
      exact ⟨.tooLarge, (Decimal.unsigned_eq_tooLarge_iff hbound).2 hlarge, rfl⟩
    | notNumber htext hsmall hnone =>
      obtain rfl := (trimmed_iff _ _).1 htext
      cases hread : Decimal.unsigned (Nat.pow 2 bits) (trimChars text.toList) with
      | ok n => exact absurd ⟨n, unsigned_trimChars_eq_ok_iff.1 hread⟩ hnone
      | error cause =>
        cases cause with
        | empty => exact absurd hread (Decimal.unsigned_ne_empty hblank _)
        | invalidDigit => exact ⟨.invalidDigit, rfl, rfl⟩
        | tooLarge => exact absurd ((Decimal.unsigned_eq_tooLarge_iff hbound).1 hread) hsmall
  · rintro ⟨cause, hread, rfl⟩
    cases cause with
    | empty => exact absurd hread (Decimal.unsigned_ne_empty hblank _)
    | invalidDigit =>
      refine .notNumber (trimmed_trimChars text) (fun hlarge => ?_) ?_
      · cases hread.symm.trans ((Decimal.unsigned_eq_tooLarge_iff hbound).2 hlarge)
      · rintro ⟨n, hn⟩
        cases hread.symm.trans (unsigned_trimChars_eq_ok_iff.2 hn)
    | tooLarge =>
      exact .tooLarge (trimmed_trimChars text) ((Decimal.unsigned_eq_tooLarge_iff hbound).1 hread)

theorem Kind.refuses_boolean_iff :
    Kind.boolean.Refuses text reason ↔
      ¬ Kind.boolean.Accepts text ∧
        "provided string was not `true` or `false`" = reason := by
  constructor
  · intro h
    cases h with
    | notBoolean hnone => exact ⟨hnone, rfl⟩
  · rintro ⟨hnone, rfl⟩
    exact .notBoolean hnone

namespace Variable

/-- Reads a variable, whatever is then done with its value. -/
def check (lookup : Lookup) (v : Variable) : Except ConfigFault Unit :=
  match v.kind with
  | .number bits => (number lookup (Nat.pow 2 bits) v.name v.default).map fun _ => ()
  | .boolean => (boolean lookup v.name v.default).map fun _ => ()

variable {v : Variable}

theorem check_eq_ok_iff :
    v.check lookup = .ok () ↔ v.kind.Accepts (var lookup v.name v.default) := by
  obtain ⟨name, kind, default⟩ := v
  cases kind with
  | number bits => simp only [check, map_unit_eq_ok_iff, number_eq_ok_iff_var, Kind.Accepts]
  | boolean => simp only [check, map_unit_eq_ok_iff, boolean_eq_ok_iff_var, Kind.Accepts]

/-- Each default holds a value of its type. -/
theorem accepts_default (hv : v ∈ inOrder) : v.kind.Accepts v.default := by
  have hunset : ∀ u ∈ inOrder, u.check (fun _ => none) = .ok () := by decide +kernel
  exact check_eq_ok_iff.1 (hunset v hv)

theorem check_eq_ok_iff_valid (hv : v ∈ inOrder) :
    v.check lookup = .ok () ↔ v.Valid lookup := by
  rw [check_eq_ok_iff, Valid, var]
  cases hgiven : given lookup v.name with
  | none =>
    rw [given_eq_none_iff] at hgiven
    exact iff_of_true (accepts_default hv) (.inl hgiven)
  | some text =>
    obtain ⟨htext, hblank⟩ := given_eq_some_iff.1 hgiven
    simp [Unset, htext, hblank]

/-- A text that is refused is told, and what is wrong with it. -/
theorem exists_check_eq_error_iff {message : String}
    (hblank : isBlank (var lookup v.name v.default) = false) :
    (∃ f, v.check lookup = .error f ∧ f.message = message) ↔
      ∃ reason, v.kind.Refuses (var lookup v.name v.default) reason ∧
        v.refusal (var lookup v.name v.default) reason = message := by
  obtain ⟨name, kind, default⟩ := v
  cases kind with
  | number bits =>
    simp only [check, Kind.refuses_number_iff hblank, number]
    cases Decimal.unsigned (Nat.pow 2 bits) (trimChars (var lookup name default).toList) <;>
      simp [Except.map, ConfigFault.message, refusal]
  | boolean =>
    simp only [check, Kind.refuses_boolean_iff, Kind.Accepts, ← boolean_eq_ok_iff_var, boolean]
    by_cases htrue : trim (var lookup name default) = "true"
    · simp [htrue, Except.map]
    · by_cases hfalse : trim (var lookup name default) = "false"
      · simp [hfalse, Except.map]
      · simp [htrue, hfalse, Except.map, ConfigFault.message, refusal, String.append_assoc]

/-- A variable that is not valid is set to a text, and that is read. -/
theorem exists_text_of_not_valid (h : ¬ v.Valid lookup) :
    ∃ text, lookup v.name = some text ∧ isBlank text = false ∧
      var lookup v.name v.default = text := by
  cases hgiven : given lookup v.name with
  | none => exact absurd (.inl (given_eq_none_iff.1 hgiven)) h
  | some text =>
    obtain ⟨htext, hblank⟩ := given_eq_some_iff.1 hgiven
    exact ⟨text, htext, hblank, by rw [var, hgiven]; rfl⟩

/-- A variable is refused where it is not valid. -/
theorem refused_iff {message : String} (hv : v ∈ inOrder) :
    (∃ f, v.check lookup = .error f ∧ f.message = message) ↔
      ¬ v.Valid lookup ∧ ∃ text reason, lookup v.name = some text ∧
        v.kind.Refuses text reason ∧ v.refusal text reason = message := by
  by_cases hvalid : v.Valid lookup
  · simp [(check_eq_ok_iff_valid hv).2 hvalid, hvalid]
  · obtain ⟨text, htext, hblank, hvar⟩ := exists_text_of_not_valid hvalid
    rw [exists_check_eq_error_iff (hvar ▸ hblank), hvar]
    simp [hvalid, htext]

end Variable

/-- Steps made one after the other succeed together if each of them does. -/
theorem forM_eq_ok_iff {ε α : Type} {f : α → Except ε Unit} {as : List α} :
    as.forM f = .ok () ↔ ∀ a ∈ as, f a = .ok () := by
  induction as with
  | nil => simp [List.forM, pure, Except.pure]
  | cons a as ih =>
    rw [List.forall_mem_cons, ← ih]
    exact bind_eq_ok_iff.trans ⟨fun ⟨_, ha, has⟩ => ⟨ha, has⟩, fun ⟨ha, has⟩ => ⟨(), ha, has⟩⟩

/-- Steps made one after the other fail with the first one that fails. -/
theorem forM_eq_error_iff {ε α : Type} {f : α → Except ε Unit} {as : List α} {e : ε} :
    as.forM f = .error e ↔
      ∃ before a after, as = before ++ a :: after ∧ (∀ b ∈ before, f b = .ok ()) ∧
        f a = .error e := by
  induction as with
  | nil => simp [List.forM, pure, Except.pure]
  | cons a as ih =>
    change (f a >>= fun _ => as.forM f) = _ ↔ _
    -- Either the first step fails, or what fails is among the other steps.
    constructor
    · intro h
      cases ha : f a with
      | error e' =>
        rw [ha] at h
        cases h
        exact ⟨[], a, as, rfl, by simp, ha⟩
      | ok u =>
        rw [ha] at h
        obtain ⟨before, b, after, rfl, hbefore, hb⟩ := ih.1 h
        exact ⟨a :: before, b, after, rfl, List.forall_mem_cons.2 ⟨ha, hbefore⟩, hb⟩
    · rintro ⟨before, b, after, has, hbefore, hb⟩
      cases before with
      | nil =>
        obtain ⟨rfl, rfl⟩ := List.cons.inj has
        rw [hb]
        rfl
      | cons a' before =>
        obtain ⟨rfl, rfl⟩ := List.cons.inj has
        obtain ⟨ha, hbefore⟩ := List.forall_mem_cons.1 hbefore
        rw [ha]
        exact ih.2 ⟨before, b, after, rfl, hbefore, hb⟩

/-- What goes on with the value of a variable fails where the variable does, or later on. -/
theorem map_bind_eq_forM {α β : Type} {x : Except ConfigFault α} {next : α → Except ConfigFault β}
    {v : Variable} {vs : List Variable} (hx : (x.map fun _ => ()) = v.check lookup)
    (hnext : ∀ a, ((next a).map fun _ => ()) = vs.forM (Variable.check lookup)) :
    ((x >>= next).map fun _ => ()) = (v :: vs).forM (Variable.check lookup) := by
  change _ = (v.check lookup >>= fun _ => vs.forM (Variable.check lookup))
  rw [← hx]
  cases x with
  | error f => rfl
  | ok a => exact hnext a

theorem map_number_eq_check (bits : Nat) :
    ((number lookup (Nat.pow 2 bits) name default).map fun _ => ()) =
      Variable.check lookup ⟨name, .number bits, default⟩ := rfl

theorem map_span_eq_check (unit : Nat → Span) :
    (((number lookup (Nat.pow 2 64) name default).map unit).map fun _ => ()) =
      Variable.check lookup ⟨name, .number 64, default⟩ := by
  rw [← map_number_eq_check]
  cases number lookup (Nat.pow 2 64) name default <;> rfl

/-- Once the database is named, reading the configuration is checking the variables in order. -/
theorem map_read {url : String} (hurl : given lookup "DATABASE_URL" = some url) :
    ((read lookup).map fun _ => ()) = Variable.inOrder.forM (Variable.check lookup) := by
  unfold read
  rw [hurl]
  refine map_bind_eq_forM rfl fun port => ?_
  refine map_bind_eq_forM (map_span_eq_check _) fun readTimeout => ?_
  refine map_bind_eq_forM (map_span_eq_check _) fun requestTimeout => ?_
  refine map_bind_eq_forM (map_span_eq_check _) fun shutdownTimeout => ?_
  refine map_bind_eq_forM rfl fun maxConnections => ?_
  refine map_bind_eq_forM rfl fun minConnections => ?_
  refine map_bind_eq_forM (map_span_eq_check _) fun maxLifetime => ?_
  refine map_bind_eq_forM (map_span_eq_check _) fun idleTimeout => ?_
  refine map_bind_eq_forM rfl fun runMigrations => ?_
  refine map_bind_eq_forM (map_span_eq_check _) fun cacheDeadline => ?_
  refine map_bind_eq_forM (map_span_eq_check _) fun storeDeadline => ?_
  rfl

end Checks

/-! ## Reading exactly what is given -/

section Results

variable {lookup : Lookup}

theorem read_of_unset (h : Unset lookup "DATABASE_URL") : read lookup = .error .noDatabase := by
  unfold read
  rw [given_eq_none_iff.2 h]

theorem exists_given_of_set (h : ¬ Unset lookup "DATABASE_URL") :
    ∃ url, given lookup "DATABASE_URL" = some url :=
  Option.ne_none_iff_exists'.1 (mt given_eq_none_iff.1 h)

/-- A configuration is accepted exactly when all its variables are valid. -/
theorem exists_read_eq_ok_iff :
    (∃ c, read lookup = .ok c) ↔
      ¬ Unset lookup "DATABASE_URL" ∧ ∀ v ∈ Variable.inOrder, v.Valid lookup := by
  by_cases hunset : Unset lookup "DATABASE_URL"
  · simp [read_of_unset hunset, hunset]
  · obtain ⟨url, hurl⟩ := exists_given_of_set hunset
    rw [← map_unit_eq_ok_iff, map_read hurl, forM_eq_ok_iff, and_iff_right hunset]
    exact forall₂_congr fun v hv => Variable.check_eq_ok_iff_valid hv

/-- Checking the variables fails with the first one that is not valid. -/
theorem exists_forM_eq_error_iff {message : String} :
    (∃ f, Variable.inOrder.forM (Variable.check lookup) = .error f ∧ f.message = message) ↔
      ∃ v : Variable, v.FirstInvalid lookup ∧ ∃ text reason, lookup v.name = some text ∧
        v.kind.Refuses text reason ∧ v.refusal text reason = message := by
  simp only [forM_eq_error_iff]
  constructor
  · rintro ⟨f, ⟨before, v, after, horder, hbefore, hf⟩, hmessage⟩
    obtain ⟨hnot, htold⟩ := (Variable.refused_iff (by simp [horder])).1 ⟨f, hf, hmessage⟩
    refine ⟨v, ⟨hnot, before, after, horder, fun u hu => ?_⟩, htold⟩
    exact (Variable.check_eq_ok_iff_valid (by simp [horder, hu])).1 (hbefore u hu)
  · rintro ⟨v, ⟨hnot, before, after, horder, hbefore⟩, htold⟩
    obtain ⟨f, hf, hmessage⟩ := (Variable.refused_iff (by simp [horder])).2 ⟨hnot, htold⟩
    refine ⟨f, ⟨before, v, after, horder, fun u hu => ?_, hf⟩, hmessage⟩
    exact (Variable.check_eq_ok_iff_valid (by simp [horder, hu])).2 (hbefore u hu)

/-- What is told of a configuration that is refused. -/
theorem exists_read_eq_error_iff {message : String} :
    (∃ f, read lookup = .error f ∧ f.message = message) ↔ Told lookup message := by
  by_cases hunset : Unset lookup "DATABASE_URL"
  · rw [read_of_unset hunset]
    constructor
    · rintro ⟨f, hf, rfl⟩
      cases hf
      exact .noDatabase hunset
    · intro h
      cases h with
      | noDatabase => exact ⟨.noDatabase, rfl, rfl⟩
      | invalid hurl => exact absurd hunset hurl
  · obtain ⟨url, hurl⟩ := exists_given_of_set hunset
    -- With the database named, only the checks can fail.
    have hchecked (f : ConfigFault) : read lookup = .error f ↔
        Variable.inOrder.forM (Variable.check lookup) = .error f := by
      rw [← map_read hurl, map_eq_error_iff]
    simp only [hchecked, exists_forM_eq_error_iff]
    constructor
    · rintro ⟨v, hfirst, text, reason, htext, hreason, rfl⟩
      exact .invalid hunset hfirst htext hreason
    · intro h
      cases h with
      | noDatabase h => exact absurd h hunset
      | invalid _ hfirst htext hreason => exact ⟨_, hfirst, _, _, htext, hreason, rfl⟩

/-- A blank variable counts as one that is not set. -/
theorem SameButUnset.read_eq {other : Lookup} (h : SameButUnset lookup other) :
    read other = read lookup := by
  have hgiven : given other = given lookup := by
    funext name
    rcases h name with hsame | ⟨hlookup, hother⟩
    · rw [given, given, hsame]
    · rw [given_eq_none_iff.2 hlookup, given_eq_none_iff.2 hother]
  unfold read seconds millis number boolean var
  rw [hgiven]

/-- The variables are read exactly. They make a configuration if the database is named and each
    variable with a type is unset, blank, or holds a value of its type, which blanks may surround.
    Each setting is then the value of its variable, or the default where that is unset or blank, and
    a text is taken as it stands. Otherwise the error tells that the database is not named, or else
    the first variable that is not valid, with the text that it is set to. A blank variable cannot
    be told from one that is not set. -/
theorem variables_read_exactly (lookup : Lookup) :
    ((∃ c, read lookup = .ok c) ↔
        ¬ Unset lookup "DATABASE_URL" ∧ ∀ v ∈ Variable.inOrder, v.Valid lookup) ∧
      (∀ c, read lookup = .ok c ↔ Describes lookup c) ∧
      (∀ message, (∃ f, read lookup = .error f ∧ f.toServiceError = .config message) ↔
        Told lookup message) ∧
      ∀ other, SameButUnset lookup other → read other = read lookup := by
  refine ⟨exists_read_eq_ok_iff, fun _ => read_eq_ok_iff, fun message => ?_,
    fun _ => SameButUnset.read_eq⟩
  rw [← exists_read_eq_error_iff]
  simp only [ConfigFault.toServiceError, ServiceError.config.injEq]

end Results

/-- Variables at the limits of their types, with blanks around them, and blank ones. -/
def brimming : Lookup
  | "DATABASE_URL" => some " postgres://localhost/payflow"
  | "APP_ENV" => some "production "
  | "HOST" => some "\t"
  | "PORT" => some "\u3000+0065535\n"
  | "HTTP_READ_TIMEOUT_SECS" => some "18446744073709551615"
  | "DATABASE_MAX_CONNS" => some "4294967295"
  | "DATABASE_MIN_CONNS" => some ""
  | "DATABASE_RUN_MIGRATIONS" => some " false"
  | "CACHE_TIMEOUT_MS" => some "00"
  | "OTEL_EXPORTER_OTLP_ENDPOINT" => some " "
  | _ => none

/-- The configuration that these variables make. -/
def brimmed : Config where
  environment := "production "
  host := "0.0.0.0"
  port := 65535
  limits := ⟨.ofSeconds 18446744073709551615, .ofSeconds 30⟩
  shutdownTimeout := .ofSeconds 15
  database :=
    ⟨" postgres://localhost/payflow", 4294967295, 5, .ofSeconds 3600, .ofSeconds 1800, false⟩
  cache := ⟨"redis://127.0.0.1:6379", "payment-service"⟩
  deadlines := ⟨.ofMillis 0, .ofMillis 5000⟩
  otlpEndpoint := none

/-- The same variables with a port that is too large and a time that is no number. -/
def overfull : Lookup
  | "PORT" => some "65536 or so"
  | "CACHE_TIMEOUT_MS" => some "soon"
  | name => brimming name

/-- The limits are reached and not exceeded, and blank variables may as well be taken away. -/
theorem variables_read_exactly_atTheLimits :
    (∀ v ∈ Variable.inOrder, v.Valid brimming) ∧ Describes brimming brimmed ∧
      read (given brimming) = .ok brimmed ∧
      Told overfull
        "PORT is invalid (\"65536 or so\"): number too large to fit in target type" := by
  have hread : read brimming = .ok brimmed := by decide +kernel
  have hrefused : read overfull = .error (.number "PORT" "65536 or so" .tooLarge) := by
    decide +kernel
  have hsame : SameButUnset brimming (given brimming) := by
    intro name
    cases hgiven : given brimming name with
    | none => exact .inr ⟨given_eq_none_iff.1 hgiven, fun text htext => by simp [hgiven] at htext⟩
    | some text => exact .inl (given_eq_some_iff.1 hgiven).1.symm
  obtain ⟨hvalid, hdescribes, -, hunset⟩ := variables_read_exactly brimming
  obtain ⟨-, -, htold, -⟩ := variables_read_exactly overfull
  exact ⟨(hvalid.1 ⟨_, hread⟩).2, (hdescribes _).1 hread, (hunset _ hsame).trans hread,
    (htold _).1 ⟨_, hrefused, by decide +kernel⟩⟩

end PayOnce.Config
