import PayOnce.Proofs.Json.Parser
import PayOnce.Proofs.Json.Spelling
import Mathlib.Data.List.DropRight
/-!
The grammar of JSON, with blanks wherever they may stand, and the reader that passes over values: it
passes over every value of the grammar, of any size and depth, and stops right behind it.
-/

namespace PayOnce.Json

open Text Value

/-! ## Blanks -/

/-- Blanks between tokens. -/
structure Gap where
  chars : List Char
  blank : ∀ c ∈ chars, isGap (some c) = true

namespace Gap

/-- No blanks at all. -/
def none : Gap := ⟨[], by simp⟩

/-- The glyphs of blanks. -/
def glyphs (g : Gap) : Glyphs := g.chars.map some

@[simp] theorem skipGaps_append (g : Gap) (cs : Glyphs) :
    skipGaps (g.glyphs ++ cs) = skipGaps cs := by
  refine List.dropWhile_append_of_pos ?_
  intro c hc
  obtain ⟨d, hd, rfl⟩ := List.mem_map.1 hc
  exact g.blank d hd

end Gap

@[simp] theorem skipGaps_skipGaps (cs : Glyphs) : skipGaps (skipGaps cs) = skipGaps cs :=
  List.dropWhile_idempotent isGap cs

/-! ## Numbers -/

/-- At least one digit. -/
def Digits (ds : List Char) : Prop :=
  ds ≠ [] ∧ ∀ d ∈ ds, Decimal.isDigit d = true

/-- The sign of a number. -/
inductive Sign : List Char → Prop
  | plus : Sign []
  | minus : Sign ['-']

/-- The whole digits of a number, which has no leading zero unless zero is all there is. -/
inductive Whole : List Char → Prop
  | zero : Whole ['0']
  | digits {d : Char} {ds : List Char} (hzero : d ≠ '0') (h : Digits (d :: ds)) : Whole (d :: ds)

/-- The fraction of a number, if it has one. -/
inductive Fraction : List Char → Prop
  | none : Fraction []
  | digits {ds : List Char} (h : Digits ds) : Fraction ('.' :: ds)

/-- The exponent of a number, if it has one. -/
inductive Exponent : List Char → Prop
  | none : Exponent []
  | digits {e : Char} {sign ds : List Char} (he : e = 'e' ∨ e = 'E')
      (hsign : sign = [] ∨ sign = ['+'] ∨ sign = ['-']) (h : Digits ds) :
      Exponent (e :: sign ++ ds)

namespace Number

theorem ends_of_delimited {cs : Glyphs} (h : Delimited (skipGaps cs)) : Ends cs := by
  cases cs with
  | nil => simp [Ends]
  | cons c cs =>
    have hc : c = some ' ' ∨ c = some '\t' ∨ c = some '\n' ∨ c = some '\r' ∨
        c = some ',' ∨ c = some ']' ∨ c = some '}' := by
      cases hgap : isGap c with
      | true =>
        cases c with
        | none => cases hgap
        | some c =>
          simp only [isGap, Bool.or_eq_true, beq_iff_eq] at hgap
          simp only [Option.some.injEq]
          tauto
      | false =>
        simp only [skipGaps, List.dropWhile_cons, hgap] at h
        obtain h | h | h := h <;> simp [h]
    intro d hd
    cases hd
    obtain rfl | rfl | rfl | rfl | rfl | rfl | rfl := hc <;> decide

theorem skipSomeDigits_digits {ds : List Char} (h : Digits ds) {cs : Glyphs}
    (hcs : ∀ c ∈ cs.head?, digitOf c = none) :
    skipSomeDigits (ds.map some ++ cs) = some cs := by
  obtain ⟨hne, hdigits⟩ := h
  cases ds with
  | nil => exact absurd rfl hne
  | cons d ds =>
    have hfirst : (digitOf (some d)).isSome = true := hdigits d List.mem_cons_self
    have hrest : skipDigits (ds.map some ++ cs) = skipDigits cs := by
      refine List.dropWhile_append_of_pos ?_
      intro c hc
      obtain ⟨e, he, rfl⟩ := List.mem_map.1 hc
      exact hdigits e (List.mem_cons_of_mem _ he)
    have hend : skipDigits cs = cs := by
      cases cs with
      | nil => rfl
      | cons c cs => simp [skipDigits, hcs c rfl]
    simp [skipSomeDigits, hfirst, hrest, hend]

theorem skipExponent_unsigned {e : Char} (he : e = 'e' ∨ e = 'E') {cs : Glyphs}
    (hcs : ∀ c ∈ cs.head?, c ≠ some '+' ∧ c ≠ some '-') :
    skipExponent (some e :: cs) = skipSomeDigits cs := by
  cases cs with
  | nil => obtain rfl | rfl := he <;> rfl
  | cons c cs =>
    obtain ⟨hplus, hminus⟩ := hcs c rfl
    obtain rfl | rfl := he <;> unfold skipExponent <;> split <;> simp_all

theorem skipExponent_exponent {e : List Char} (h : Exponent e) {cs : Glyphs} (hcs : Ends cs) :
    skipExponent (e.map some ++ cs) = some cs := by
  cases h with
  | none =>
    cases cs with
    | nil => rfl
    | cons c cs =>
      obtain ⟨-, -, he, hE⟩ := hcs c rfl
      rw [List.map_nil, List.nil_append]
      unfold skipExponent
      split <;> simp_all
  | @digits e sign ds he hsign hds =>
    have hskip := skipSomeDigits_digits hds fun c hc => (hcs c hc).1
    have hunsigned : skipExponent (some e :: (ds.map some ++ cs)) = some cs := by
      rw [skipExponent_unsigned he, hskip]
      -- A first digit is no sign.
      obtain ⟨d, ds, rfl⟩ := List.exists_cons_of_ne_nil hds.1
      have hdigit := hds.2 d List.mem_cons_self
      intro c hc
      cases hc
      constructor <;> rintro ⟨⟩ <;> cases hdigit
    obtain rfl | rfl | rfl := hsign
    · exact hunsigned
    · obtain rfl | rfl := he <;> exact hskip
    · obtain rfl | rfl := he <;> exact hskip

/-- Behind its whole digits a number goes on with a fraction, an exponent, or not at all. -/
def skipPart (cs : Glyphs) : Option Glyphs :=
  match cs with
  | some '.' :: rest => (skipSomeDigits rest).bind skipExponent
  | _ => skipExponent cs

theorem skip_whole {sign whole : List Char} (hsign : Sign sign) (hwhole : Whole whole)
    {cs : Glyphs} (hcs : ∀ c ∈ cs.head?, digitOf c = none) :
    skip (sign.map some ++ (whole.map some ++ cs)) = skipPart cs := by
  cases hwhole with
  | zero =>
    have hend : (cs.head?.bind digitOf).isSome = false := by
      cases cs with
      | nil => rfl
      | cons c cs => simp [hcs c rfl]
    cases hsign <;> simp [skip, hend] <;> rfl
  | @digits d ds hzero hds =>
    have hskip := skipSomeDigits_digits hds hcs
    have hminus : d ≠ '-' := by
      rintro rfl
      cases hds.2 _ List.mem_cons_self
    rw [List.map_cons, List.cons_append] at hskip ⊢
    cases hsign <;> simp [skip, hminus, hzero, hskip] <;> rfl

theorem head?_exponent {e : List Char} (h : Exponent e) {cs : Glyphs} (hcs : Ends cs) :
    ∀ c ∈ (e.map some ++ cs).head?, digitOf c = none ∧ c ≠ some '.' := by
  cases h with
  | none =>
    intro c hc
    obtain ⟨hdigit, hpoint, -⟩ := hcs c hc
    exact ⟨hdigit, hpoint⟩
  | digits he =>
    rintro c ⟨⟩
    obtain rfl | rfl := he <;> decide

theorem skipPart_fraction {fraction e : List Char} (h : Fraction fraction) (he : Exponent e)
    {cs : Glyphs} (hcs : Ends cs) :
    skipPart (fraction.map some ++ (e.map some ++ cs)) = some cs := by
  have hhead := head?_exponent he hcs
  rw [← skipExponent_exponent he hcs]
  generalize e.map some ++ cs = rest at hhead ⊢
  cases h with
  | none =>
    rw [List.map_nil, List.nil_append]
    unfold skipPart
    split
    · exact absurd rfl (hhead _ rfl).2
    · rfl
  | digits h =>
    have hskip := skipSomeDigits_digits h fun c hc => (hhead c hc).1
    simp [skipPart, hskip]

theorem head?_fraction {fraction e : List Char} (h : Fraction fraction) (he : Exponent e)
    {cs : Glyphs} (hcs : Ends cs) :
    ∀ c ∈ (fraction.map some ++ (e.map some ++ cs)).head?, digitOf c = none := by
  cases h with
  | none => exact fun c hc => (head?_exponent he hcs c hc).1
  | digits h =>
    rintro c ⟨⟩
    rfl

end Number

/-- The spelling of a number. -/
inductive Numeral : List Char → Prop
  | mk {sign whole fraction e : List Char} (hsign : Sign sign) (hwhole : Whole whole)
      (hfraction : Fraction fraction) (he : Exponent e) :
      Numeral (sign ++ whole ++ fraction ++ e)

namespace Numeral

/-- A number starts with a minus sign or a digit, and so with no blank, quote or bracket and not
    like a word. -/
theorem exists_eq_cons {v : List Char} (h : Numeral v) :
    ∃ c cs, v = c :: cs ∧ isGap (some c) = false ∧
      ∀ d : Char, d.toNat < 45 ∨ 57 < d.toNat → c ≠ d := by
  obtain ⟨c, cs, hv, hlow, hhigh⟩ :
      ∃ c cs, v = c :: cs ∧ 45 ≤ c.toNat ∧ c.toNat ≤ 57 := by
    obtain ⟨hsign, hwhole, -, -⟩ := h
    cases hsign with
    | minus => exact ⟨'-', _, rfl, by decide, by decide⟩
    | plus =>
      cases hwhole with
      | zero => exact ⟨'0', _, rfl, by decide, by decide⟩
      | @digits d ds hzero h =>
        have hdigit := (Decimal.isDigit_iff d).1 (h.2 d List.mem_cons_self)
        exact ⟨d, _, rfl, by omega, hdigit.2⟩
  have hne (d : Char) (hd : d.toNat < 45 ∨ 57 < d.toNat) : c ≠ d := by
    rintro rfl
    omega
  refine ⟨c, cs, hv, ?_, hne⟩
  simp only [isGap, Bool.or_eq_false_iff, beq_eq_false_iff_ne]
  exact ⟨⟨⟨hne ' ' (by decide), hne '\t' (by decide)⟩, hne '\n' (by decide)⟩, hne '\r' (by decide)⟩

/-- A number is passed over. -/
theorem skip {v : List Char} (h : Numeral v) {cs : Glyphs} (hends : Number.Ends cs) :
    Number.skip (v.map some ++ cs) = some cs := by
  obtain ⟨hsign, hwhole, hfraction, he⟩ := h
  simp only [List.map_append, List.append_assoc]
  rw [Number.skip_whole hsign hwhole (Number.head?_fraction hfraction he hends),
    Number.skipPart_fraction hfraction he hends]

end Numeral

/-! ## Values -/

/-- An item of a list as it is spelled, or what stands behind the colon of a member. -/
structure ItemText where
  before : Gap
  value : List Char
  after : Gap

/-- The characters of an item. -/
def ItemText.chars (i : ItemText) : List Char :=
  i.before.chars ++ i.value ++ i.after.chars

theorem ItemText.glyphs (i : ItemText) (cs : Glyphs) :
    i.chars.map some ++ cs
      = i.before.glyphs ++ (i.value.map some ++ (i.after.glyphs ++ cs)) := by
  simp [chars, Gap.glyphs]

/-- A member of an object as it is spelled. -/
structure MemberText where
  before : Gap
  name : List Piece
  behind : Gap
  item : ItemText

/-- The characters of a member. -/
def MemberText.chars (m : MemberText) : List Char :=
  m.before.chars ++ quoted m.name ++ m.behind.chars ++ ':' :: m.item.chars

theorem MemberText.glyphs (m : MemberText) (cs : Glyphs) :
    m.chars.map some ++ cs = m.before.glyphs ++ ((quoted m.name).map some ++
      (m.behind.glyphs ++ some ':' :: (m.item.chars.map some ++ cs))) := by
  simp [chars, Gap.glyphs]

/-- A member behind the opening quote of its name, and what follows it. -/
def MemberText.fromName (m : MemberText) (cs : Glyphs) : Glyphs :=
  (m.name.flatMap Piece.chars ++ ['"']).map some
    ++ (m.behind.glyphs ++ some ':' :: (m.item.chars.map some ++ cs))

theorem MemberText.glyphs_fromName (m : MemberText) (cs : Glyphs) :
    m.chars.map some ++ cs = m.before.glyphs ++ some '"' :: m.fromName cs := by
  rw [m.glyphs]
  rfl

/-- A list of items, with blanks before them, which are all there is in an empty list. -/
def listText (inner : Gap) (items : List ItemText) : List Char :=
  '[' :: inner.chars ++ allParts ']' ItemText.chars items

/-- An object of members, with blanks before them. -/
def objectText (inner : Gap) (ms : List MemberText) : List Char :=
  '{' :: inner.chars ++ allParts '}' MemberText.chars ms

/-- The characters spell a value of JSON. -/
inductive Spelt : List Char → Prop
  | null : Spelt "null".toList
  | yes : Spelt "true".toList
  | no : Spelt "false".toList
  | number {v : List Char} (h : Numeral v) : Spelt v
  | text (ps : List Piece) : Spelt (quoted ps)
  | list (inner : Gap) (items : List ItemText) (h : ∀ i ∈ items, Spelt i.value) :
      Spelt (listText inner items)
  | object (inner : Gap) (ms : List MemberText) (h : ∀ m ∈ ms, Spelt m.item.value) :
      Spelt (objectText inner ms)

/-- A value starts with a character that is neither blank nor a closing bracket. -/
theorem Spelt.exists_eq_cons {v : List Char} (h : Spelt v) :
    ∃ c cs, v = c :: cs ∧ isGap (some c) = false ∧ c ≠ ']' := by
  cases h with
  | null | yes | no | text | list | object => exact ⟨_, _, rfl, by decide, by decide⟩
  | number h =>
    obtain ⟨c, cs, hv, hgap, hne⟩ := h.exists_eq_cons
    exact ⟨c, cs, hv, hgap, hne ']' (by decide)⟩

theorem Spelt.skipGaps {v : List Char} (h : Spelt v) (cs : Glyphs) :
    skipGaps (v.map some ++ cs) = v.map some ++ cs := by
  obtain ⟨c, ds, rfl, hgap, -⟩ := h.exists_eq_cons
  exact skipGaps_cons hgap _

/-- A value is a string, or it starts with no quote. -/
theorem Spelt.eq_quoted_or {v : List Char} (h : Spelt v) :
    (∃ ps, v = quoted ps) ∨ ∃ c cs, v = c :: cs ∧ isGap (some c) = false ∧ c ≠ '"' := by
  cases h with
  | text ps => exact .inl ⟨ps, rfl⟩
  | null | yes | no | list | object => exact .inr ⟨_, _, rfl, by decide, by decide⟩
  | number h =>
    obtain ⟨c, cs, hv, hgap, hne⟩ := h.exists_eq_cons
    exact .inr ⟨c, cs, hv, hgap, hne '"' (by decide)⟩

/-- A value is an object, or it starts with no brace. -/
theorem Spelt.eq_objectText_or {v : List Char} (h : Spelt v) :
    (∃ inner ms, v = objectText inner ms ∧ ∀ m ∈ ms, Spelt m.item.value) ∨
      ∃ c cs, v = c :: cs ∧ isGap (some c) = false ∧ c ≠ '{' := by
  cases h with
  | object inner ms hms => exact .inl ⟨inner, ms, rfl, hms⟩
  | null | yes | no | list | text => exact .inr ⟨_, _, rfl, by decide, by decide⟩
  | number h =>
    obtain ⟨c, cs, hv, hgap, hne⟩ := h.exists_eq_cons
    exact .inr ⟨c, cs, hv, hgap, hne '{' (by decide)⟩

theorem readWord_null_eq_some_iff {v : List Char} (hv : Spelt v) (cs rest : Glyphs) :
    readWord "null".toList (v.map some ++ cs) = some rest ↔ v = "null".toList ∧ rest = cs := by
  constructor
  · intro h
    cases hv with
    | null =>
      cases h
      exact ⟨rfl, rfl⟩
    | number hnumber =>
      obtain ⟨c, ds, rfl, -, hne⟩ := hnumber.exists_eq_cons
      have hn : c ≠ 'n' := hne 'n' (by decide)
      simp [readWord, hn] at h
    | yes | no | text | list | object => cases h
  · rintro ⟨rfl, rfl⟩
    rfl

/-! ## Values that are passed over -/

theorem skipFrom_value_skipGaps (fuel : Nat) (stack : List Bracket) (cs : Glyphs) :
    skipFrom fuel .value stack (skipGaps cs) = skipFrom fuel .value stack cs := by
  cases fuel with
  | zero => rfl
  | succ fuel => simp only [skipFrom, skipGaps_skipGaps]

theorem skipFrom_value_gap (fuel : Nat) (stack : List Bracket) (g : Gap) (cs : Glyphs) :
    skipFrom fuel .value stack (g.glyphs ++ cs) = skipFrom fuel .value stack cs := by
  rw [← skipFrom_value_skipGaps, g.skipGaps_append, skipFrom_value_skipGaps]

theorem skipFrom_closed_gap (fuel : Nat) (b : Bracket) (stack : List Bracket) (g : Gap)
    (cs : Glyphs) :
    skipFrom fuel .closed (b :: stack) (g.glyphs ++ cs)
      = skipFrom fuel .closed (b :: stack) cs := by
  cases fuel with
  | zero => rfl
  | succ fuel => simp only [skipFrom, g.skipGaps_append]

theorem skipGaps_quoted (ps : List Piece) (cs : Glyphs) :
    skipGaps ((quoted ps).map some ++ cs) = (quoted ps).map some ++ cs :=
  skipGaps_cons (by decide) _

theorem skipName_quoted {cs : Glyphs} {name : List Piece} {behind : Gap} {rest : Glyphs}
    (h : skipGaps cs = (quoted name).map some ++ (behind.glyphs ++ some ':' :: rest)) :
    skipName cs = some rest := by
  have hskip := skipString_pieces name (behind.glyphs ++ some ':' :: rest)
  have hcolon : isGap (some ':') = false := by decide
  rw [quoted, List.cons_append, List.map_cons, List.cons_append] at h
  simp only [skipName, h, hskip, Option.bind_eq_bind, Option.bind_some, Gap.skipGaps_append,
    skipGaps_cons hcolon]

/-- A value is passed over in some number of steps. -/
def Skipped (v : List Char) (n : Nat) : Prop :=
  ∀ fuel stack cs, Delimited (skipGaps cs) →
    skipFrom (fuel + n) .value stack (v.map some ++ cs) = skipFrom fuel .closed stack cs

theorem skipped_scalar {c : Char} {v : List Char} (hgap : isGap (some c) = false)
    (hlist : c ≠ '[') (hobject : c ≠ '{')
    (hskip : ∀ cs, Delimited (skipGaps cs) → skipScalar ((c :: v).map some ++ cs) = some cs) :
    Skipped (c :: v) 1 := by
  intro fuel stack cs hcs
  have hscalar := hskip cs hcs
  rw [List.map_cons, List.cons_append] at hscalar ⊢
  rw [skipFrom, skipGaps_cons hgap]
  split
  · next heq => exact absurd (by simpa using congrArg List.head? heq) hlist
  · next heq => exact absurd (by simpa using congrArg List.head? heq) hobject
  · simp only [hscalar]

theorem skipped_number {v : List Char} (h : Numeral v) : 1 < 2 * v.length ∧ Skipped v 1 := by
  have hskip (cs : Glyphs) (hcs : Delimited (skipGaps cs)) :=
    h.skip (Number.ends_of_delimited hcs)
  obtain ⟨c, ds, rfl, hgap, hne⟩ := h.exists_eq_cons
  refine ⟨by rw [List.length_cons]; omega,
    skipped_scalar hgap (hne '[' (by decide)) (hne '{' (by decide)) ?_⟩
  intro cs hcs
  rw [← hskip cs hcs, List.map_cons, List.cons_append, skipScalar]
  all_goals
    intro rest heq
    have hhead := congrArg List.head? heq
    simp only [List.head?_cons, Option.some.injEq] at hhead
    exact absurd hhead (hne _ (by decide))

theorem Skipped.item {i : ItemText} {n : Nat} (h : Skipped i.value n) (fuel : Nat) (b : Bracket)
    (stack : List Bracket) {cs : Glyphs} (hcs : Delimited (skipGaps cs)) :
    skipFrom (fuel + n) .value (b :: stack) (i.chars.map some ++ cs)
      = skipFrom fuel .closed (b :: stack) cs := by
  have hafter : Delimited (skipGaps (i.after.glyphs ++ cs)) := by rwa [Gap.skipGaps_append]
  rw [i.glyphs, skipFrom_value_gap, h fuel _ _ hafter, skipFrom_closed_gap]

/-! ### Values in brackets -/

section Parts

variable {α : Type} {b : Bracket} {close : Char} {write : α → List Char} {item : α → ItemText}

/-- How a reader that skips gets into a bracket and out of it: to the item of a part from the
    opening bracket or a comma, and away at the closing bracket. -/
structure Enclosed (b : Bracket) (close : Char) (write : α → List Char) (item : α → ItemText) :
    Prop where
  bracket : close = ']' ∨ close = '}'
  length : ∀ a, (item a).value.length ≤ (write a).length
  first : ∀ fuel stack (g : Gap) a cs, Spelt (item a).value →
    skipFrom (fuel + 1) .opened (b :: stack) (g.glyphs ++ ((write a).map some ++ cs))
      = skipFrom fuel .value (b :: stack) ((item a).chars.map some ++ cs)
  next : ∀ fuel stack a cs,
    skipFrom (fuel + 1) .closed (b :: stack) (some ',' :: ((write a).map some ++ cs))
      = skipFrom fuel .value (b :: stack) ((item a).chars.map some ++ cs)
  empty : ∀ fuel stack (g : Gap) cs,
    skipFrom (fuel + 1) .opened (b :: stack) (g.glyphs ++ some close :: cs)
      = skipFrom fuel .closed stack cs
  last : ∀ fuel stack cs,
    skipFrom (fuel + 1) .closed (b :: stack) (some close :: cs) = skipFrom fuel .closed stack cs

theorem delimited_furtherParts (write : α → List Char) (hclose : close = ']' ∨ close = '}')
    (as : List α) (cs : Glyphs) :
    Delimited (skipGaps ((furtherParts close write as).map some ++ cs)) := by
  obtain ⟨c, ds, hc, hparts⟩ := furtherParts_eq_cons close write as
  have hgap : isGap (some c) = false := by
    obtain rfl | rfl := hc
    · decide
    · obtain rfl | rfl := hclose <;> decide
  rw [hparts, List.map_cons, List.cons_append, skipGaps_cons hgap]
  exact delimited_cons hclose hc _

/-- Further parts are passed over, and the closing bracket is. -/
theorem Enclosed.further (h : Enclosed b close write item) {as : List α}
    (has : ∀ a ∈ as, ∃ n, n < 2 * (item a).value.length ∧ Skipped (item a).value n) :
    ∃ n, n < 2 * (furtherParts close write as).length ∧ ∀ fuel stack cs,
      skipFrom (fuel + n) .closed (b :: stack) ((furtherParts close write as).map some ++ cs)
        = skipFrom fuel .closed stack cs := by
  induction as with
  | nil => exact ⟨1, by simp [furtherParts], h.last⟩
  | cons a as ih =>
    obtain ⟨m, hm, hvalue⟩ := has a List.mem_cons_self
    obtain ⟨n, hn, hrest⟩ := ih fun a' ha' => has a' (List.mem_cons_of_mem _ ha')
    have hlength := h.length a
    refine ⟨n + m + 1, ?_, ?_⟩
    · simp only [furtherParts, List.length_cons, List.length_append]
      omega
    · intro fuel stack cs
      have hdelimited := delimited_furtherParts write h.bracket as cs
      rw [furtherParts, List.cons_append, List.map_cons, List.map_append, List.cons_append,
        List.append_assoc, ← Nat.add_assoc, h.next, ← Nat.add_assoc,
        hvalue.item _ _ _ hdelimited, hrest]

/-- What stands in a bracket is passed over, and the closing bracket is. -/
theorem Enclosed.all (h : Enclosed b close write item) (inner : Gap) {as : List α}
    (hspelt : ∀ a ∈ as, Spelt (item a).value)
    (has : ∀ a ∈ as, ∃ n, n < 2 * (item a).value.length ∧ Skipped (item a).value n) :
    ∃ n, n < 2 * (allParts close write as).length ∧ ∀ fuel stack cs,
      skipFrom (fuel + n) .opened (b :: stack)
          (inner.glyphs ++ ((allParts close write as).map some ++ cs))
        = skipFrom fuel .closed stack cs := by
  cases as with
  | nil => exact ⟨1, by simp [allParts], fun fuel stack cs => h.empty fuel stack inner cs⟩
  | cons a as =>
    obtain ⟨m, hm, hvalue⟩ := has a List.mem_cons_self
    obtain ⟨n, hn, hrest⟩ := h.further fun a' ha' => has a' (List.mem_cons_of_mem _ ha')
    have hlength := h.length a
    refine ⟨n + m + 1, ?_, ?_⟩
    · simp only [allParts, List.length_append]
      omega
    · intro fuel stack cs
      have hdelimited := delimited_furtherParts write h.bracket as cs
      rw [allParts, List.map_append, List.append_assoc, ← Nat.add_assoc,
        h.first _ _ _ _ _ (hspelt a List.mem_cons_self), ← Nat.add_assoc,
        hvalue.item _ _ _ hdelimited, hrest]

end Parts

theorem enclosed_list : Enclosed .list ']' ItemText.chars id where
  bracket := .inl rfl
  length i := by
    simp only [ItemText.chars, List.length_append, id]
    omega
  first fuel stack g i cs hspelt := by
    rw [id] at hspelt ⊢
    obtain ⟨c, v, hv, -, hclose⟩ := hspelt.exists_eq_cons
    rw [i.glyphs, skipFrom_value_gap, skipFrom, Gap.skipGaps_append, Gap.skipGaps_append,
      hspelt.skipGaps]
    split
    · next heq =>
      rw [hv, List.map_cons, List.cons_append] at heq
      exact absurd (by simpa using congrArg List.head? heq) hclose
    · rfl
  next fuel stack i cs := by
    have hcomma : isGap (some ',') = false := by decide
    simp only [skipFrom, skipGaps_cons hcomma, id]
  empty fuel stack g cs := by
    have hclose : isGap (some ']') = false := by decide
    simp only [skipFrom, Gap.skipGaps_append, skipGaps_cons hclose]
  last fuel stack cs := by
    have hclose : isGap (some ']') = false := by decide
    simp only [skipFrom, skipGaps_cons hclose]

theorem enclosed_object : Enclosed .object '}' MemberText.chars MemberText.item where
  bracket := .inr rfl
  length m := by
    simp only [MemberText.chars, ItemText.chars, List.length_append, List.length_cons]
    omega
  first fuel stack g m cs _ := by
    have hname := skipName_quoted
      (skipGaps_quoted m.name (m.behind.glyphs ++ some ':' :: (m.item.chars.map some ++ cs)))
    rw [skipFrom, Gap.skipGaps_append, m.glyphs, Gap.skipGaps_append, skipGaps_quoted]
    split
    -- A quote is no closing brace.
    · next heq => cases heq
    · simp only [hname]
  next fuel stack m cs := by
    have hname : skipName (m.chars.map some ++ cs) = some (m.item.chars.map some ++ cs) := by
      apply skipName_quoted
      rw [m.glyphs, Gap.skipGaps_append, skipGaps_quoted]
    have hcomma : isGap (some ',') = false := by decide
    simp only [skipFrom, skipGaps_cons hcomma, hname]
  empty fuel stack g cs := by
    have hclose : isGap (some '}') = false := by decide
    simp only [skipFrom, Gap.skipGaps_append, skipGaps_cons hclose]
  last fuel stack cs := by
    have hclose : isGap (some '}') = false := by decide
    simp only [skipFrom, skipGaps_cons hclose]

/-- A bracket is opened. -/
theorem Enclosed.opened {α : Type} {b : Bracket} {close : Char} {write : α → List Char}
    {item : α → ItemText} (h : Enclosed b close write item) {c : Char}
    (hopen : ∀ fuel stack cs,
      skipFrom (fuel + 1) .value stack (some c :: cs) = skipFrom fuel .opened (b :: stack) cs)
    (inner : Gap) {as : List α} (hspelt : ∀ a ∈ as, Spelt (item a).value)
    (has : ∀ a ∈ as, ∃ n, n < 2 * (item a).value.length ∧ Skipped (item a).value n) :
    ∃ n, n < 2 * (c :: inner.chars ++ allParts close write as).length ∧
      Skipped (c :: inner.chars ++ allParts close write as) n := by
  obtain ⟨n, hn, hskip⟩ := h.all inner hspelt has
  refine ⟨n + 1, ?_, ?_⟩
  · simp only [List.length_append, List.length_cons]
    omega
  · intro fuel stack cs _
    rw [List.cons_append, List.map_cons, List.cons_append, ← Nat.add_assoc, hopen,
      List.map_append, List.append_assoc]
    exact hskip fuel stack cs

/-- A value of the grammar is passed over in less than two steps for each of its characters. -/
theorem Spelt.skipped {v : List Char} (h : Spelt v) : ∃ n, n < 2 * v.length ∧ Skipped v n := by
  have hlist : isGap (some '[') = false := by decide
  have hobject : isGap (some '{') = false := by decide
  induction h with
  | null => exact ⟨1, by decide, skipped_scalar (by decide) (by decide) (by decide) fun _ _ => rfl⟩
  | yes => exact ⟨1, by decide, skipped_scalar (by decide) (by decide) (by decide) fun _ _ => rfl⟩
  | no => exact ⟨1, by decide, skipped_scalar (by decide) (by decide) (by decide) fun _ _ => rfl⟩
  | number h => exact ⟨1, skipped_number h⟩
  | text ps =>
    refine ⟨1, ?_, skipped_scalar (by decide) (by decide) (by decide) ?_⟩
    · simp only [quoted, List.cons_append, List.length_cons]
      omega
    · exact fun cs _ => skipString_pieces ps cs
  | list inner items h ih =>
    refine enclosed_list.opened ?_ inner h ih
    intro fuel stack cs
    simp only [skipFrom, skipGaps_cons hlist]
  | object inner ms h ih =>
    refine enclosed_object.opened ?_ inner h ih
    intro fuel stack cs
    simp only [skipFrom, skipGaps_cons hobject]

/-- A value of the grammar is passed over, and blanks before it are. -/
theorem skipValue_spelt {v : List Char} (h : Spelt v) (g : Gap) {cs : Glyphs}
    (hcs : Delimited (skipGaps cs)) :
    skipValue (g.glyphs ++ (v.map some ++ cs)) = some cs := by
  obtain ⟨n, hn, hskip⟩ := h.skipped
  have hfuel : 2 * (g.glyphs ++ (v.map some ++ cs)).length + 2
      = 2 * (g.glyphs ++ (v.map some ++ cs)).length + 1 - n + 1 + n := by
    simp only [List.length_append, List.length_map]
    omega
  rw [skipValue, hfuel, skipFrom_value_gap, hskip _ _ _ hcs]
  rfl

end PayOnce.Json
