import PayOnce.Proofs.Json.Integers
import PayOnce.Proofs.Json.Tokens
/-!
Only JSON is accepted. Whatever a reader takes off a text, be it used or skipped, is a value of the
grammar with blanks before it, and a text that is read to its end as a record is JSON.
-/

namespace PayOnce.Json

open Text Value

/-- A value with blanks before it is taken off a text, and the rest is left. -/
def TakenOff (t : List Char) (rest : Glyphs) : Prop :=
  ∃ (g : Gap) (v u : List Char), t = g.chars ++ v ++ u ∧ Spelt v ∧ rest = u.map some

/-- A text is JSON: a value with blanks around it. -/
def WellFormed (t : List Char) : Prop :=
  ∃ (lead : Gap) (v : List Char) (tail : Gap), t = lead.chars ++ v ++ tail.chars ∧ Spelt v

/-- A text is what stands behind a value in a bracket, up to and with the closing bracket, and what
    is left behind that. -/
def Closes : Bracket → List Char → List Char → Prop
  | .list, t, u => ∃ (g : Gap) (items : List ItemText), (∀ i ∈ items, Spelt i.value) ∧
    t = g.chars ++ furtherParts ']' ItemText.chars items ++ u
  | .object, t, u => ∃ (g : Gap) (ms : List MemberText), (∀ m ∈ ms, Spelt m.item.value) ∧
    t = g.chars ++ furtherParts '}' MemberText.chars ms ++ u

/-- So are open brackets closed, the innermost one first. -/
def ClosesAll : List Bracket → List Char → List Char → Prop
  | [], t, u => t = u
  | b :: stack, t, u => ∃ t', Closes b t t' ∧ ClosesAll stack t' u

theorem closesAll_nil (t : List Char) : ClosesAll [] t t :=
  rfl

/-- The character that opens a bracket. -/
def Bracket.opening : Bracket → Char
  | list => '['
  | object => '{'

/-- The character that closes a bracket. -/
def Bracket.closing : Bracket → Char
  | list => ']'
  | object => '}'

/-- What is passed over from a phase on: what the phase calls for, and then the rest of the brackets
    that are open. -/
def Passes : Phase → List Bracket → List Char → List Char → Prop
  | .value, stack, t, u =>
    ∃ (g : Gap) (v t' : List Char), t = g.chars ++ v ++ t' ∧ Spelt v ∧ ClosesAll stack t' u
  | .opened, b :: stack, t, u =>
    ∃ w t', t = w ++ t' ∧ Spelt (b.opening :: w) ∧ ClosesAll stack t' u
  | .opened, [], _, _ => False
  | .closed, stack, t, u => ClosesAll stack t u

/-- The name of a member with its colon. -/
def nameText (before : Gap) (name : List Piece) (behind : Gap) : List Char :=
  before.chars ++ quoted name ++ behind.chars ++ [':']

section Steps

variable {b : Bracket} {stack : List Bracket} {g before behind : Gap} {name : List Piece}
  {t u : List Char}

theorem Passes.gap (h : Passes .value stack t u) : Passes .value stack (g.chars ++ t) u := by
  obtain ⟨g', v, t, rfl, hv, hall⟩ := h
  refine ⟨⟨g.chars ++ g'.chars, ?_⟩, v, t, by simp, hv, hall⟩
  intro c hc
  exact (List.mem_append.1 hc).elim (g.blank c) (g'.blank c)

theorem Passes.open (h : Passes .opened (b :: stack) t u) :
    Passes .value stack (g.chars ++ b.opening :: t) u := by
  obtain ⟨w, t, rfl, hw, hall⟩ := h
  exact ⟨g, b.opening :: w, t, by simp, hw, hall⟩

theorem Passes.empty (h : ClosesAll stack t u) :
    Passes .opened (b :: stack) (g.chars ++ b.closing :: t) u := by
  refine ⟨g.chars ++ [b.closing], t, by simp, ?_, h⟩
  cases b with
  | list => exact .list g [] (by simp)
  | object => exact .object g [] (by simp)

/-- A value in a list is its first item, with whatever the list goes on with. -/
theorem Passes.list_first (h : Passes .value (.list :: stack) t u) :
    Passes .opened (.list :: stack) (g.chars ++ t) u := by
  obtain ⟨before, v, _, rfl, hv, t, ⟨after, items, hitems, rfl⟩, hall⟩ := h
  have hspelt := Spelt.list g (⟨before, v, after⟩ :: items) (List.forall_mem_cons.2 ⟨hv, hitems⟩)
  exact ⟨_, t, by simp [allParts, ItemText.chars], hspelt, hall⟩

theorem Passes.object_first (h : Passes .value (.object :: stack) t u) :
    Passes .opened (.object :: stack) (g.chars ++ (nameText before name behind ++ t)) u := by
  obtain ⟨front, v, _, rfl, hv, t, ⟨after, ms, hms, rfl⟩, hall⟩ := h
  have hspelt := Spelt.object g (⟨before, name, behind, front, v, after⟩ :: ms)
    (List.forall_mem_cons.2 ⟨hv, hms⟩)
  exact ⟨_, t, by simp [allParts, MemberText.chars, ItemText.chars, nameText], hspelt, hall⟩

theorem ClosesAll.last (h : ClosesAll stack t u) :
    ClosesAll (b :: stack) (g.chars ++ b.closing :: t) u := by
  refine ⟨t, ?_, h⟩
  cases b with
  | list => exact ⟨g, [], by simp, by simp [furtherParts, Bracket.closing]⟩
  | object => exact ⟨g, [], by simp, by simp [furtherParts, Bracket.closing]⟩

theorem ClosesAll.list_next (h : Passes .value (.list :: stack) t u) :
    ClosesAll (.list :: stack) (g.chars ++ ',' :: t) u := by
  obtain ⟨before, v, _, rfl, hv, t, ⟨after, items, hitems, rfl⟩, hall⟩ := h
  refine ⟨t, ⟨g, ⟨before, v, after⟩ :: items, List.forall_mem_cons.2 ⟨hv, hitems⟩, ?_⟩, hall⟩
  simp [furtherParts, ItemText.chars]

theorem ClosesAll.object_next (h : Passes .value (.object :: stack) t u) :
    ClosesAll (.object :: stack) (g.chars ++ ',' :: (nameText before name behind ++ t)) u := by
  obtain ⟨front, v, _, rfl, hv, t, ⟨after, ms, hms, rfl⟩, hall⟩ := h
  refine ⟨t, ⟨g, ⟨before, name, behind, front, v, after⟩ :: ms, List.forall_mem_cons.2 ⟨hv, hms⟩,
    ?_⟩, hall⟩
  simp [furtherParts, MemberText.chars, ItemText.chars, nameText]

end Steps

/-! ## Values that are skipped -/

theorem skipScalar_sound {t : List Char} {rest : Glyphs}
    (h : skipScalar (t.map some) = some rest) :
    ∃ v u, t = v ++ u ∧ Spelt v ∧ rest = u.map some := by
  unfold skipScalar at h
  split at h
  · next ht =>
    obtain ⟨t, rfl, rfl⟩ := exists_of_map_some_eq_cons ht
    obtain ⟨u, rfl, hrest⟩ := readWord_sound h
    exact ⟨_, u, rfl, .null, hrest⟩
  · next ht =>
    obtain ⟨t, rfl, rfl⟩ := exists_of_map_some_eq_cons ht
    obtain ⟨u, rfl, hrest⟩ := readWord_sound h
    exact ⟨_, u, rfl, .yes, hrest⟩
  · next ht =>
    obtain ⟨t, rfl, rfl⟩ := exists_of_map_some_eq_cons ht
    obtain ⟨u, rfl, hrest⟩ := readWord_sound h
    exact ⟨_, u, rfl, .no, hrest⟩
  · next ht =>
    obtain ⟨t, rfl, rfl⟩ := exists_of_map_some_eq_cons ht
    obtain ⟨ps, u, rfl, hrest⟩ := skipString_sound t h
    exact ⟨quoted ps, u, by simp [quoted], .text ps, hrest⟩
  · obtain ⟨v, u, rfl, hv, hrest⟩ := Number.skip_sound h
    exact ⟨v, u, rfl, .number hv, hrest⟩

/-- Behind blanks a text starts with the character that a reader has found there. -/
theorem exists_of_skipGaps_eq_cons {t : List Char} {c : Char} {cs : Glyphs}
    (h : skipGaps (t.map some) = some c :: cs) :
    ∃ (g : Gap) (u : List Char), t = g.chars ++ c :: u ∧ cs = u.map some := by
  obtain ⟨g, u, rfl, hskip⟩ := exists_gap t
  rw [hskip] at h
  obtain ⟨u, rfl, hcs⟩ := exists_of_map_some_eq_cons h
  exact ⟨g, u, rfl, hcs⟩

theorem skipName_sound {t : List Char} {rest : Glyphs} (h : skipName (t.map some) = some rest) :
    ∃ before name behind u, t = nameText before name behind ++ u ∧ rest = u.map some := by
  unfold skipName at h
  split at h
  · next hquote =>
    obtain ⟨before, t, rfl, rfl⟩ := exists_of_skipGaps_eq_cons hquote
    obtain ⟨cs, hskip, h⟩ := Option.bind_eq_some_iff.1 h
    obtain ⟨name, t, rfl, rfl⟩ := skipString_sound t hskip
    split at h
    · next hcolon =>
      obtain ⟨behind, u, rfl, rfl⟩ := exists_of_skipGaps_eq_cons hcolon
      cases h
      exact ⟨before, name, behind, u, by simp [nameText, quoted], rfl⟩
    · cases h
  · cases h

/-- What is skipped with some fuel is what the phase calls for. -/
def SkipsSoundly (fuel : Nat) : Prop :=
  ∀ {phase : Phase} {stack : List Bracket} {t : List Char} {rest : Glyphs},
    skipFrom fuel phase stack (t.map some) = some rest →
      ∃ u, rest = u.map some ∧ Passes phase stack t u

section SkipsSoundly

variable {fuel : Nat} {b : Bracket} {stack : List Bracket} {t : List Char} {rest : Glyphs}

theorem SkipsSoundly.value (ih : SkipsSoundly fuel)
    (h : skipFrom (fuel + 1) .value stack (t.map some) = some rest) :
    ∃ u, rest = u.map some ∧ Passes .value stack t u := by
  unfold skipFrom at h
  split at h
  · next hopen =>
    obtain ⟨g, t, rfl, rfl⟩ := exists_of_skipGaps_eq_cons hopen
    obtain ⟨u, hrest, hpasses⟩ := ih h
    exact ⟨u, hrest, hpasses.open⟩
  · next hopen =>
    obtain ⟨g, t, rfl, rfl⟩ := exists_of_skipGaps_eq_cons hopen
    obtain ⟨u, hrest, hpasses⟩ := ih h
    exact ⟨u, hrest, hpasses.open⟩
  · obtain ⟨g, t, rfl, hskip⟩ := exists_gap t
    rw [hskip] at h
    split at h
    · next hscalar =>
      obtain ⟨v, t, rfl, hv, rfl⟩ := skipScalar_sound hscalar
      obtain ⟨u, hrest, hall⟩ := ih h
      exact ⟨u, hrest, g, v, t, by simp, hv, hall⟩
    · cases h

theorem SkipsSoundly.opened (ih : SkipsSoundly fuel)
    (h : skipFrom (fuel + 1) .opened (b :: stack) (t.map some) = some rest) :
    ∃ u, rest = u.map some ∧ Passes .opened (b :: stack) t u := by
  cases b with
  | list =>
    unfold skipFrom at h
    split at h
    · next hclose =>
      obtain ⟨g, t, rfl, rfl⟩ := exists_of_skipGaps_eq_cons hclose
      obtain ⟨u, hrest, hall⟩ := ih h
      exact ⟨u, hrest, .empty hall⟩
    · obtain ⟨g, t, rfl, hskip⟩ := exists_gap t
      rw [hskip] at h
      obtain ⟨u, hrest, hpasses⟩ := ih h
      exact ⟨u, hrest, hpasses.list_first⟩
  | object =>
    unfold skipFrom at h
    split at h
    · next hclose =>
      obtain ⟨g, t, rfl, rfl⟩ := exists_of_skipGaps_eq_cons hclose
      obtain ⟨u, hrest, hall⟩ := ih h
      exact ⟨u, hrest, .empty hall⟩
    · obtain ⟨g, t, rfl, hskip⟩ := exists_gap t
      rw [hskip] at h
      split at h
      · next hname =>
        obtain ⟨before, name, behind, t, rfl, rfl⟩ := skipName_sound hname
        obtain ⟨u, hrest, hpasses⟩ := ih h
        exact ⟨u, hrest, hpasses.object_first⟩
      · cases h

theorem SkipsSoundly.closed (ih : SkipsSoundly fuel)
    (h : skipFrom (fuel + 1) .closed (b :: stack) (t.map some) = some rest) :
    ∃ u, rest = u.map some ∧ ClosesAll (b :: stack) t u := by
  unfold skipFrom at h
  split at h
  · next hcomma =>
    obtain ⟨g, t, rfl, rfl⟩ := exists_of_skipGaps_eq_cons hcomma
    obtain ⟨u, hrest, hpasses⟩ := ih h
    exact ⟨u, hrest, .list_next hpasses⟩
  · next hclose =>
    obtain ⟨g, t, rfl, rfl⟩ := exists_of_skipGaps_eq_cons hclose
    obtain ⟨u, hrest, hall⟩ := ih h
    exact ⟨u, hrest, .last hall⟩
  · next hcomma =>
    obtain ⟨g, t, rfl, rfl⟩ := exists_of_skipGaps_eq_cons hcomma
    split at h
    · next hname =>
      obtain ⟨before, name, behind, t, rfl, rfl⟩ := skipName_sound hname
      obtain ⟨u, hrest, hpasses⟩ := ih h
      exact ⟨u, hrest, .object_next hpasses⟩
    · cases h
  · next hclose =>
    obtain ⟨g, t, rfl, rfl⟩ := exists_of_skipGaps_eq_cons hclose
    obtain ⟨u, hrest, hall⟩ := ih h
    exact ⟨u, hrest, .last hall⟩
  · cases h

end SkipsSoundly

/-- What is skipped is what the phase calls for, whatever fuel there is. -/
theorem skipsSoundly (fuel : Nat) : SkipsSoundly fuel := by
  induction fuel with
  | zero => exact nofun
  | succ fuel ih =>
    intro phase stack t rest h
    cases phase with
    | value => exact ih.value h
    | opened =>
      cases stack with
      | nil => cases h
      | cons b stack => exact ih.opened h
    | closed =>
      cases stack with
      | nil =>
        cases h
        exact ⟨t, rfl, rfl⟩
      | cons b stack => exact ih.closed h

/-- What is skipped is a value. -/
theorem skipValue_sound {t : List Char} {rest : Glyphs} (h : skipValue (t.map some) = some rest) :
    TakenOff t rest := by
  obtain ⟨u, rfl, g, v, _, rfl, hv, rfl⟩ := skipsSoundly _ h
  exact ⟨g, v, _, rfl, hv, rfl⟩

/-- A text is JSON if a value can be skipped and only blanks are left. -/
theorem wellFormed_iff (t : List Char) :
    WellFormed t ↔ (skipValue (t.map some)).any (fun rest => (skipGaps rest).isEmpty) = true := by
  constructor
  · rintro ⟨lead, v, tail, rfl, hv⟩
    have hblank : skipGaps tail.glyphs = [] :=
      List.isEmpty_iff.1 ((isEmpty_skipGaps_iff _).2 tail.blank)
    have hend : Delimited (skipGaps tail.glyphs) := by
      rw [hblank]
      trivial
    have hskip := skipValue_spelt hv lead hend
    rw [List.map_append, List.map_append, List.append_assoc]
    change (skipValue (lead.glyphs ++ (v.map some ++ tail.glyphs))).any _ = true
    rw [hskip, Option.any_some, hblank]
    rfl
  · intro h
    cases hskip : skipValue (t.map some) with
    | none => simp [hskip] at h
    | some rest =>
      obtain ⟨g, v, u, rfl, hv, rfl⟩ := skipValue_sound hskip
      rw [hskip, Option.any_some] at h
      exact ⟨g, v, ⟨u, (isEmpty_skipGaps_iff u).1 h⟩, rfl, hv⟩

instance : DecidablePred WellFormed := fun t =>
  decidable_of_iff _ (wellFormed_iff t).symm

/-! ## Values that are used -/

/-- A reader takes values off texts, and nothing else. -/
def TakesValues {V : Type} (read : Reader V) : Prop :=
  ∀ ⦃t : List Char⦄ ⦃x : V⦄ ⦃rest : Glyphs⦄, read (t.map some) = .ok (x, rest) → TakenOff t rest

theorem takesValues_readText : TakesValues readText := by
  intro t s rest h
  unfold readText at h
  split at h
  · next hquote =>
    obtain ⟨g, t, rfl, rfl⟩ := exists_of_skipGaps_eq_cons hquote
    obtain ⟨ps, u, rfl, hrest⟩ := readString_sound (orMalformed_eq_ok_iff.1 h)
    exact ⟨g, quoted ps, u, by simp [quoted], .text ps, hrest⟩
  · cases h

theorem takesValues_readInt64 : TakesValues readInt64 := by
  intro t n rest h
  obtain ⟨g, t, rfl, hskip⟩ := exists_gap t
  obtain ⟨hread, -⟩ := readInt64_eq_ok h
  rw [hskip] at hread
  obtain ⟨v, u, rfl, hdigits, rfl⟩ := List.map_eq_append_iff.1 (Number.read_int hread).1
  rw [List.map_injective_iff.2 (Option.some_injective _) hdigits]
  exact ⟨g, _, u, by simp, .number (Number.numeral_intChars n), rfl⟩

/-! ## Records -/

section Records

variable {V : Type} {fields : List (Member V)}

theorem readColon_sound {t : List Char} {rest : Glyphs} (h : readColon (t.map some) = some rest) :
    ∃ (g : Gap) (u : List Char), t = g.chars ++ ':' :: u ∧ rest = u.map some := by
  unfold readColon at h
  split at h
  · next hcolon =>
    cases h
    exact exists_of_skipGaps_eq_cons hcolon
  · cases h

/-- Behind the quote of its name, a member is read from the name with a colon, and a value. -/
theorem readMember_sound (hfields : ∀ field ∈ fields, TakesValues field.read)
    {found found' : Found V} {t : List Char} {rest : Glyphs}
    (h : readMember fields found (t.map some) = .ok (found', rest)) (before : Gap) :
    ∃ name behind t', before.chars ++ '"' :: t = nameText before name behind ++ t' ∧
      TakenOff t' rest := by
  unfold readMember at h
  split at h
  · cases h
  next s rest' hname =>
  obtain ⟨name, t, rfl, rfl⟩ := readString_sound hname
  split at h
  · split at h
    · next hskip =>
      cases h
      obtain ⟨cs, hcolon, hskip⟩ := Option.bind_eq_some_iff.1 hskip
      obtain ⟨behind, t, rfl, rfl⟩ := readColon_sound hcolon
      exact ⟨name, behind, t, by simp [nameText, quoted], skipValue_sound hskip⟩
    · cases h
  next field hfield =>
  split at h
  · cases h
  split at h
  · cases h
  next hcolon =>
  obtain ⟨behind, t, rfl, rfl⟩ := readColon_sound hcolon
  split at h
  · next hread =>
    cases h
    have hread := (readAt_eq_ok_iff ..).1 hread
    have htaken := hfields field (List.mem_of_find?_eq_some hfield) hread
    exact ⟨name, behind, t, by simp [nameText, quoted], htaken⟩
  · cases h

/-- A value that is taken off is what a phase before a value calls for. -/
theorem TakenOff.passes {stack : List Bracket} {t : List Char} {cs : Glyphs} (h : TakenOff t cs)
    {rest : Glyphs}
    (hrest : ∀ {t : List Char}, cs = t.map some → ∃ u, rest = u.map some ∧ ClosesAll stack t u) :
    ∃ u, rest = u.map some ∧ Passes .value stack t u := by
  obtain ⟨g, v, t, rfl, hv, rfl⟩ := h
  obtain ⟨u, rfl, hall⟩ := hrest rfl
  exact ⟨u, rfl, g, v, t, rfl, hv, hall⟩

/-- Behind its opening bracket or behind a part, a record goes on with its closing bracket or with
    another part. -/
def phaseOf (first : Bool) : Phase :=
  if first then .opened else .closed

theorem Passes.close {b : Bracket} {g : Gap} {stack : List Bracket} {t u : List Char}
    (h : ClosesAll stack t u) (first : Bool) :
    Passes (phaseOf first) (b :: stack) (g.chars ++ b.closing :: t) u := by
  cases first with
  | true => exact .empty h
  | false => exact ClosesAll.last h

/-- Members are read as what an object goes on with. -/
theorem readMembers_sound (hfields : ∀ field ∈ fields, TakesValues field.read) {fuel : Nat}
    {first : Bool} {found found' : Found V} {t : List Char} {rest : Glyphs}
    (h : readMembers fields fuel first found (t.map some) = .ok (found', rest)) :
    ∃ u, rest = u.map some ∧ Passes (phaseOf first) [.object] t u := by
  -- By induction on the fuel, of which each member takes one.
  induction fuel generalizing first found t with
  | zero => cases h
  | succ fuel ih =>
    -- Behind the quote of a name there is a member, and the other members behind that.
    have hmember {found found₁ : Found V} {t : List Char} {cs : Glyphs}
        (hread : readMember fields found (t.map some) = .ok (found₁, cs))
        (h : readMembers fields fuel false found₁ cs = .ok (found', rest)) (before : Gap) :
        ∃ name behind u t', before.chars ++ '"' :: t = nameText before name behind ++ t' ∧
          rest = u.map some ∧ Passes .value [.object] t' u := by
      obtain ⟨name, behind, t', ht, htaken⟩ := readMember_sound hfields hread before
      obtain ⟨u, hrest, hpasses⟩ := htaken.passes fun heq => ih (heq ▸ h)
      exact ⟨name, behind, u, t', ht, hrest, hpasses⟩
    simp only [readMembers] at h
    split at h
    · next hclose =>
      cases h
      obtain ⟨g, t, rfl, rfl⟩ := exists_of_skipGaps_eq_cons hclose
      exact ⟨t, rfl, .close (closesAll_nil t) _⟩
    · next hquote =>
      obtain ⟨g, t, rfl, rfl⟩ := exists_of_skipGaps_eq_cons hquote
      split at h
      · next hread =>
        obtain ⟨name, behind, u, t', ht, hrest, hpasses⟩ := hmember hread h g
        rw [ht]
        exact ⟨u, hrest, Passes.object_first (g := .none) hpasses⟩
      · cases h
    · next hcomma =>
      obtain ⟨g, t, rfl, rfl⟩ := exists_of_skipGaps_eq_cons hcomma
      split at h
      · next hquote =>
        obtain ⟨before, t, rfl, rfl⟩ := exists_of_skipGaps_eq_cons hquote
        split at h
        · next hread =>
          obtain ⟨name, behind, u, t', ht, hrest, hpasses⟩ := hmember hread h before
          rw [ht]
          exact ⟨u, hrest, ClosesAll.object_next hpasses⟩
        · cases h
      · cases h
    · cases h

/-- Items are read as what a list goes on with. -/
theorem readItems_sound (hfields : ∀ field ∈ fields, TakesValues field.read) {index : Nat}
    {found found' : Found V} {t : List Char} {rest : Glyphs}
    (h : readItems fields index found (t.map some) = .ok (found', rest)) :
    ∃ u, rest = u.map some ∧ Passes (phaseOf (index == 0)) [.list] t u := by
  -- By induction on the fields, each of which takes an item.
  induction fields generalizing index found t with
  | nil =>
    unfold readItems at h
    split at h
    · next hclose =>
      cases h
      obtain ⟨g, t, rfl, rfl⟩ := exists_of_skipGaps_eq_cons hclose
      exact ⟨t, rfl, .close (closesAll_nil t) _⟩
    · cases h
  | cons field fields ih =>
    obtain ⟨hfield, hfields⟩ := List.forall_mem_cons.1 hfields
    have hitem {t : List Char} {v : V} {cs : Glyphs}
        (hread : readAt (.item index) field.read (t.map some) = .ok (v, cs))
        (h : readItems fields (index + 1) ((field.name, v) :: found) cs = .ok (found', rest)) :
        ∃ u, rest = u.map some ∧ Passes .value [.list] t u := by
      have htaken := hfield ((readAt_eq_ok_iff ..).1 hread)
      exact htaken.passes fun heq => @ih hfields (index + 1) _ _ (heq ▸ h)
    simp only [readItems] at h
    split at h
    · next hclose =>
      cases h
      obtain ⟨g, t, rfl, rfl⟩ := exists_of_skipGaps_eq_cons hclose
      exact ⟨t, rfl, .close (closesAll_nil t) _⟩
    · obtain ⟨g, t, rfl, hskip⟩ := exists_gap t
      rw [hskip] at h
      split at h
      · next hread =>
        obtain ⟨u, hrest, hpasses⟩ := hitem hread h
        exact ⟨u, hrest, hpasses.list_first⟩
      · cases h
    · next hcomma =>
      obtain ⟨g, t, rfl, rfl⟩ := exists_of_skipGaps_eq_cons hcomma
      split at h
      · cases h
      · obtain ⟨before, t, rfl, hskip⟩ := exists_gap t
        rw [hskip] at h
        split at h
        · next hread =>
          obtain ⟨u, hrest, hpasses⟩ := hitem hread h
          exact ⟨u, hrest, ClosesAll.list_next hpasses.gap⟩
        · cases h
    · cases h

/-- What is read as a record is an object or a list. -/
theorem takesValues_readRecord (shape : String)
    (hfields : ∀ field ∈ fields, TakesValues field.read) :
    TakesValues (readRecord shape fields) := by
  intro t found rest h
  unfold readRecord at h
  split at h
  · next hopen =>
    obtain ⟨g, t, rfl, rfl⟩ := exists_of_skipGaps_eq_cons hopen
    obtain ⟨u, rfl, w, _, rfl, hw, rfl⟩ := readMembers_sound hfields h
    exact ⟨g, '{' :: w, _, by simp, hw, rfl⟩
  · next hopen =>
    obtain ⟨g, t, rfl, rfl⟩ := exists_of_skipGaps_eq_cons hopen
    obtain ⟨u, rfl, w, _, rfl, hw, rfl⟩ := readItems_sound hfields h
    exact ⟨g, '[' :: w, _, by simp, hw, rfl⟩
  · cases h

/-- A text that is read to its end is JSON. -/
theorem wellFormed_of_readAll {read : Reader V} (hread : TakesValues read) {t : List Char} {x : V}
    (h : readAll read (t.map some) = .ok x) : WellFormed t := by
  unfold readAll at h
  cases hvalue : read (t.map some) with
  | error fault =>
    rw [hvalue] at h
    cases h
  | ok r =>
    obtain ⟨g, v, u, rfl, hv, hrest⟩ := hread hvalue
    simp only [hvalue, hrest, bind, Except.bind] at h
    split at h
    · next hblank => exact ⟨g, v, ⟨u, (isEmpty_skipGaps_iff u).1 hblank⟩, rfl, hv⟩
    · cases h

end Records

end PayOnce.Json
