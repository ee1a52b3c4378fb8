import PayOnce.Proofs.Config
import PayOnce.Proofs.Net.Addresses
/-!
Where the service listens. A configuration that was accepted names a host as it was given and a port
of 16 bits; the two make an address if the host is an IPv4 address, or an IPv6 address in brackets.
-/

namespace PayOnce.Config

open Net SocketAddress Text

section Accepted

variable {lookup : Lookup} {c : Config}

/-- The host and the port of a configuration are those that were given, or the defaults. -/
theorem given_of_read (h : read lookup = .ok c) :
    c.host = var lookup "HOST" "0.0.0.0" ∧
      number lookup (Nat.pow 2 16) "PORT" "3000" = .ok c.port := by
  have hc := read_eq_ok_iff.1 h
  have hdefault : HoldsNumber 16 "3000" 3000 := unsigned_trimChars_eq_ok_iff.1 rfl
  exact ⟨(var_eq_iff.2 hc.host).symm, (number_eq_ok_iff hdefault).2 hc.port⟩

theorem port_lt_of_read (h : read lookup = .ok c) : c.port < 65536 := by
  obtain ⟨cs, -, -, hlt⟩ := number_eq_ok_iff_var.1 (given_of_read h).2
  exact hlt

/-- The service listens at the address that its host spells with its port. -/
theorem listenAddress_eq_ok_iff (h : read lookup = .ok c) (a : SocketAddress) :
    c.listenAddress = .ok a ↔ SpellsHost c.port c.host.toList a := by
  rw [← ofText?_host (port_lt_of_read h), listenAddress]
  cases ofText? (c.host ++ ":" ++ Decimal.text c.port) <;> simp

/-- A host that spells no address is what the error says. -/
theorem listenAddress_eq_error_iff (h : read lookup = .ok c) (f : ConfigFault) :
    c.listenAddress = .error f ↔ f = .address ∧ ∀ a, ¬ SpellsHost c.port c.host.toList a := by
  constructor
  · intro herror
    refine ⟨?_, fun a hhost => ?_⟩
    · unfold listenAddress at herror
      split at herror
      · cases herror
      · exact (Except.error.inj herror).symm
    · cases herror.symm.trans ((listenAddress_eq_ok_iff h a).2 hhost)
  · rintro ⟨rfl, hnone⟩
    cases hlisten : c.listenAddress with
    | ok a => exact absurd ((listenAddress_eq_ok_iff h a).1 hlisten) (hnone a)
    | error f =>
      unfold listenAddress at hlisten
      split at hlisten
      · cases hlisten
      · exact congrArg Except.error (Except.error.inj hlisten).symm

theorem listenAddress_of_unbracketed (h : read lookup = .ok c) {groups : List Nat}
    (hspells : SpellsV6 c.host.toList groups) : c.listenAddress = .error .address :=
  (listenAddress_eq_error_iff h _).2 ⟨rfl, hspells.not_spellsHost c.port⟩

/-- The service listens exactly where its configuration says, whatever else was configured. Its host
    and port are the given ones. A host that is the text of an IPv4 address, or a spelling of an
    IPv6 address in brackets, such as its standard text, gives that address and the port; so does
    one that names a zone, and no other host gives any. The error is always the same one. In
    particular an IPv6 address without brackets is refused, in all of its spellings. -/
theorem listens_exactly (h : read lookup = .ok c) :
    (c.host = var lookup "HOST" "0.0.0.0" ∧
        number lookup (Nat.pow 2 16) "PORT" "3000" = .ok c.port) ∧
      (∀ octets : List Nat, Octets octets → c.host.toList = v4Chars octets →
        c.listenAddress = .ok (.v4 octets c.port)) ∧
      (∀ groups : List Nat, Groups groups → SpellsV6 (v6Chars groups) groups) ∧
      (∀ (cs : List Char) (groups : List Nat), SpellsV6 cs groups →
        c.host.toList = '[' :: (cs ++ [']']) → c.listenAddress = .ok (.v6 groups 0 c.port)) ∧
      (∀ groups : List Nat, SpellsV6 c.host.toList groups →
        c.listenAddress = .error .address) ∧
      (∀ a : SocketAddress, c.listenAddress = .ok a ↔ SpellsHost c.port c.host.toList a) ∧
      ∀ f : ConfigFault, c.listenAddress = .error f ↔
        f = .address ∧ ∀ a, ¬ SpellsHost c.port c.host.toList a := by
  refine ⟨given_of_read h, ?_, fun _ => spells_v6Chars, ?_, fun _ => listenAddress_of_unbracketed h,
    listenAddress_eq_ok_iff h, listenAddress_eq_error_iff h⟩
  · intro octets hoctets hhost
    rw [listenAddress_eq_ok_iff h, hhost]
    exact .v4 hoctets
  · intro cs groups hspells hhost
    have hinside : SpellsHost c.port ('[' :: (cs ++ [] ++ [']'])) (.v6 groups 0 c.port) :=
      .v6 hspells .none
    rw [List.append_nil] at hinside
    rw [listenAddress_eq_ok_iff h, hhost]
    exact hinside

end Accepted

/-- Variables that name a database, a host and a port. -/
def setting (host : String) : Lookup
  | "DATABASE_URL" => some "postgres://localhost/payflow"
  | "HOST" => some host
  | "PORT" => some "8080"
  | _ => none

/-- The configuration that these variables make. -/
def settled (host : String) : Config where
  environment := "development"
  host := host
  port := 8080
  limits := ⟨.ofSeconds 10, .ofSeconds 30⟩
  shutdownTimeout := .ofSeconds 15
  database := ⟨"postgres://localhost/payflow", 20, 5, .ofSeconds 3600, .ofSeconds 1800, true⟩
  cache := ⟨"redis://127.0.0.1:6379", "payment-service"⟩
  deadlines := ⟨.ofMillis 500, .ofMillis 5000⟩
  otlpEndpoint := none

/-- The service listens at both loopback addresses, if the one of version 6 is in brackets. -/
theorem listens_exactly_loopback :
    (∀ host ∈ ["127.0.0.1", "[::1]", "::1"], read (setting host) = .ok (settled host)) ∧
      (settled "127.0.0.1").listenAddress = .ok (.v4 [127, 0, 0, 1] 8080) ∧
      (settled "[::1]").listenAddress = .ok (.v6 [0, 0, 0, 0, 0, 0, 0, 1] 0 8080) ∧
      (settled "::1").listenAddress = .error .address := by
  have hread : ∀ host ∈ ["127.0.0.1", "[::1]", "::1"],
      read (setting host) = .ok (settled host) := by
    decide +kernel
  have hbare : (settled "::1").host.toList = v6Chars [0, 0, 0, 0, 0, 0, 0, 1] := by
    decide +kernel
  obtain ⟨-, hv4, -⟩ := listens_exactly (hread "127.0.0.1" (by simp))
  obtain ⟨-, -, hspells, hv6, -⟩ := listens_exactly (hread "[::1]" (by simp))
  obtain ⟨-, -, -, -, hrefused, -⟩ := listens_exactly (hread "::1" (by simp))
  have hloopback := hspells [0, 0, 0, 0, 0, 0, 0, 1] ⟨rfl, by decide⟩
  exact ⟨hread, hv4 _ ⟨rfl, by decide⟩ (by decide +kernel), hv6 _ _ hloopback (by decide +kernel),
    hrefused _ (hbare ▸ hloopback)⟩

/-- The standard text of an IPv6 address is refused as a host. -/
theorem loopback_refused :
    ¬ ∀ (lookup : Lookup) (c : Config) (groups : List Nat), read lookup = .ok c → Groups groups →
      c.host.toList = v6Chars groups → c.listenAddress = .ok (.v6 groups 0 c.port) := by
  intro hall
  have hlisten := hall (setting "::1") (settled "::1") [0, 0, 0, 0, 0, 0, 0, 1] (by decide +kernel)
    ⟨rfl, by decide⟩ (by decide +kernel)
  revert hlisten
  decide +kernel

end PayOnce.Config
