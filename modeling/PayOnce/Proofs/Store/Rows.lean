import PayOnce.Proofs.Store.Database
/-!
Rows of the table of payments and the records of payments. What a save binds to the columns comes
back under the same names, and is the record that was saved; a row that is no record is never taken
for a payment.
-/

namespace PayOnce

open Text

/-! ## Columns by name -/

namespace Statement

/-- The names in a list with commas between them. -/
def namesIn (cs : List Char) : List String :=
  (cs.splitOnP (· == ',')).map fun name => String.ofList (trimChars name)

/-- What stands in the first parentheses of a text. -/
def inParentheses (cs : List Char) : List Char :=
  ((cs.dropWhile (· != '(')).drop 1).takeWhile (· != ')')

/-- The names of the first parameters of a statement. -/
def parameterNames (n : Nat) : List String :=
  (List.range n).map fun i => "$" ++ Decimal.text (i + 1)

/-- The columns that the text of an insertion names, each with the value of the parameter that the
    text puts in its place. -/
def written (s : Statement) : List (String × SqlValue) :=
  let text := s.sql.toList
  let parameters := (parameterNames s.values.length).zip s.values
  let places := namesIn (inParentheses (text.dropWhile (· != ')')))
  (namesIn (inParentheses text)).zip (places.filterMap fun place => parameters.lookup place)

/-- The columns that the text of a selection asks for. -/
def asked (s : Statement) : List String :=
  namesIn ((s.sql.toList.drop "SELECT".length).takeWhile (· != 'F'))

/-- What a selection finds in a row that holds the given columns. -/
def finds (s : Statement) (columns : List (String × SqlValue)) : List (String × SqlValue) :=
  s.asked.zip (s.asked.filterMap fun name => columns.lookup name)

/-- The names of the columns, in order. -/
def columnNames : List String :=
  ["id", "order_id", "customer_id", "amount_cents", "currency", "status", "provider_ref",
    "failure_reason", "idempotency_key", "created_at", "updated_at", "version"]

end Statement

namespace SqlValue

def id? : SqlValue → Option Uuid
  | id u => some u
  | _ => none

def text? : SqlValue → Option String
  | text s => some s
  | _ => none

def int? : SqlValue → Option Int
  | int n => some n
  | _ => none

def time? : SqlValue → Option Instant
  | time t => some t
  | _ => none

end SqlValue

/-- The row that some columns make, each of them taken by its name. -/
def PaymentRow.ofColumns (columns : List (String × SqlValue)) : Option PaymentRow := do
  let column (name : String) : Option SqlValue := columns.lookup name
  return {
    id := ← (← column "id").id?
    orderId := ← (← column "order_id").text?
    customerId := ← (← column "customer_id").text?
    amount := ← (← column "amount_cents").int?
    currency := ← (← column "currency").text?
    status := ← (← column "status").text?
    providerRef := ← (← column "provider_ref").text?
    failureReason := ← (← column "failure_reason").text?
    idempotencyKey := ← (← column "idempotency_key").text?
    createdAt := ← (← column "created_at").time?
    updatedAt := ← (← column "updated_at").time?
    version := ← (← column "version").int? }

/-- Values that are bound to different names are found under their names. -/
theorem filterMap_lookup_zip {names : List String} {values : List SqlValue} (hnames : names.Nodup)
    (hlength : names.length = values.length) :
    (names.filterMap fun name => (names.zip values).lookup name) = values := by
  induction names generalizing values with
  | nil => rw [List.length_eq_zero_iff.1 hlength.symm]; rfl
  | cons name names ih =>
    obtain ⟨v, values, rfl⟩ := List.exists_cons_of_length_eq_add_one hlength.symm
    obtain ⟨hnew, hnames⟩ := List.nodup_cons.1 hnames
    have hrest : ∀ n ∈ names,
        List.lookup n ((name, v) :: names.zip values) = (names.zip values).lookup n := by
      intro n hn
      rw [List.lookup_cons, beq_eq_false_iff_ne.2 (ne_of_mem_of_not_mem hn hnew)]
    rw [List.zip_cons_cons, List.filterMap_cons, List.lookup_cons, beq_self_eq_true]
    simp only
    rw [List.filterMap_congr hrest, ih hnames (by simpa using hlength)]

namespace Statement

theorem chars_columns :
    columns.toList = List.intercalate [',', ' '] (columnNames.map String.toList) := by
  unfold columns
  rewrite [String.toList_append, String.toList_ofList, String.toList_ofList]
  decide +kernel

/-- The text of an upsert names all columns, and puts the parameters in their places in order. -/
theorem places_upsert (r : PaymentFacts) :
    namesIn (inParentheses (upsert r).sql.toList) = columnNames ∧
      namesIn (inParentheses ((upsert r).sql.toList.dropWhile (· != ')'))) =
        parameterNames 12 := by
  dsimp only [sql]
  iterate 7 rewrite [String.toList_append]
  iterate 7 rewrite [String.toList_ofList]
  rewrite [chars_columns]
  decide +kernel

/-- A save binds the columns of the record, each value to its own name. -/
theorem written_upsert (r : PaymentFacts) :
    (upsert r).written = columnNames.zip (rowValues (.ofFacts r)) := by
  obtain ⟨hcolumns, hplaces⟩ := places_upsert r
  have hnames : (parameterNames 12).Nodup := by decide +kernel
  have hlength : (rowValues (.ofFacts r)).length = 12 := rfl
  have hvalues : (upsert r).values = rowValues (.ofFacts r) := rfl
  simp only [written, hcolumns, hplaces, hvalues, hlength]
  rw [filterMap_lookup_zip hnames rfl]

theorem asked_selectByKey (key : String) : (selectByKey key).asked = columnNames := by
  dsimp only [asked, sql]
  iterate 2 rewrite [String.toList_append]
  rewrite [chars_columns]
  iterate 2 rewrite [String.toList_ofList]
  decide +kernel

theorem asked_selectById (id : Uuid) : (selectById id).asked = columnNames := by
  dsimp only [asked, sql]
  iterate 2 rewrite [String.toList_append]
  rewrite [chars_columns]
  iterate 2 rewrite [String.toList_ofList]
  decide +kernel

/-- A selection of all columns finds a row as it is. -/
theorem ofColumns_finds {s : Statement} (hasked : s.asked = columnNames) (row : PaymentRow) :
    PaymentRow.ofColumns (s.finds (columnNames.zip (rowValues row))) = some row := by
  have hnames : columnNames.Nodup := by decide +kernel
  rw [finds, hasked, filterMap_lookup_zip hnames rfl]
  rfl

end Statement

/-! ## Rows in order -/

namespace PaymentRow

/-- A row that is the row of a payment, or of one whose currency is spelled in another way. -/
structure InOrder (row : PaymentRow) : Prop where
  amount : 0 < row.amount
  currency : (trim row.currency).toList.length = 3 ∧
    ∀ c ∈ (trim row.currency).toList, c.isAlpha = true
  status : row.status ∈ ["PENDING", "PROCESSING", "COMPLETED", "FAILED"]

/-- The row with its currency spelled as records spell it. -/
def normal (row : PaymentRow) : PaymentRow :=
  { row with currency := upperAscii (trim row.currency) }

theorem mem_names_iff (name : String) :
    name ∈ ["PENDING", "PROCESSING", "COMPLETED", "FAILED"] ↔ ∃ s : Status, name = s.name := by
  constructor
  · intro h
    simp only [List.mem_cons, List.not_mem_nil, or_false] at h
    rcases h with rfl | rfl | rfl | rfl
    exacts [⟨.pending, rfl⟩, ⟨.processing, rfl⟩, ⟨.completed, rfl⟩, ⟨.failed, rfl⟩]
  · rintro ⟨s, rfl⟩
    cases s <;> simp [Status.name]

theorem ofName_eq_ok_iff (name : String) (s : Status) :
    Status.ofName name = .ok s ↔ name = s.name := by
  rw [← Status.ofName?_eq_some_iff, Status.ofName]
  cases Status.ofName? name <;> simp

/-- A row is in order if money and a status can be made of it. -/
theorem inOrder_iff (row : PaymentRow) :
    row.InOrder ↔ ∃ m s, Money.make row.amount row.currency = .ok m ∧
      Status.ofName row.status = .ok s := by
  simp only [Money.make_eq_ok_iff, ofName_eq_ok_iff, Money.isCurrencyCode, Bool.and_eq_true,
    beq_iff_eq, List.all_eq_true]
  constructor
  · rintro ⟨hamount, hcurrency, hstatus⟩
    obtain ⟨s, hs⟩ := (mem_names_iff _).1 hstatus
    exact ⟨_, s, ⟨⟨hamount, hcurrency⟩, rfl⟩, hs⟩
  · rintro ⟨m, s, ⟨⟨hamount, hcurrency⟩, -⟩, hs⟩
    exact ⟨hamount, hcurrency, (mem_names_iff _).2 ⟨s, hs⟩⟩

/-- A row in order becomes the record with its columns; any other row is refused as a value. -/
theorem toFacts_cases (row : PaymentRow) :
    (row.InOrder ∧ ∃ r, row.toFacts = .ok r ∧ ofFacts r = row.normal ∧ r.amount.Valid) ∨
      (¬ row.InOrder ∧ ∃ cause, row.toFacts = .error (.validation cause)) := by
  rw [inOrder_iff]
  unfold toFacts
  cases hmake : Money.make row.amount row.currency with
  | error e =>
    obtain ⟨cause, rfl⟩ := Money.exists_of_make_error hmake
    exact .inr ⟨by simp, cause, rfl⟩
  | ok m =>
    cases hname : Status.ofName row.status with
    | error e =>
      refine .inr ⟨by simp, .status row.status, ?_⟩
      unfold Status.ofName at hname
      split at hname <;> cases hname
      rfl
    | ok s =>
      have hm := (Money.make_eq_ok_iff.1 hmake).2
      have hs := (ofName_eq_ok_iff _ _).1 hname
      refine .inl ⟨⟨m, s, rfl, rfl⟩, _, rfl, ?_, Money.valid_of_make hmake⟩
      subst hm
      simp only [ofFacts, normal, hs]
      rfl

theorem toFacts_ofFacts {r : PaymentFacts} (h : r.amount.Valid) : (ofFacts r).toFacts = .ok r := by
  have hread := toPayment_ofFacts h
  unfold toPayment at hread
  split at hread
  · next hfacts =>
    rw [hfacts]
    exact congrArg (·.map Payment.facts) hread
  · cases hread

/-! ## Lookups -/

/-- A lookup that finds a row answers with what the row is taken for. -/
theorem lookups_found {σ : Type} {r : σ → Statement → SqlReply × σ} {d : σ} (row : PaymentRow) :
    (∀ key, (r d (.selectByKey key)).1 = .found (some row) →
      ((SqlStore.findByKey key).run r d).1 = row.toPayment.map some) ∧
    ∀ id, (r d (.selectById id)).1 = .found (some row) →
      ((SqlStore.findById id).run r d).1 = row.toPayment := by
  constructor
  · intro key hrow
    simp [SqlStore.findByKey, SqlStore.selectRow, Session.run_bind, hrow]
  · intro id hrow
    simp [SqlStore.findById, SqlStore.selectRow, Session.run_bind, hrow]

/-- What a lookup has to answer that finds a row: the payment with the columns of a row in order,
    and for any other row a failure that names it. -/
inductive Taken (row : PaymentRow) : Except DomainError Payment → Prop
  | payment (r : PaymentFacts) (inOrder : row.InOrder) (columns : ofFacts r = row.normal) :
      Taken row (.ok (.ofFacts r))
  | corrupt (cause : Invalid) (outOfOrder : ¬ row.InOrder) :
      Taken row (.error (.infrastructure
        ("corrupt payment row " ++ row.id.text ++ ": " ++ (DomainError.validation cause).message)))

theorem taken_toPayment (row : PaymentRow) : row.Taken row.toPayment := by
  obtain ⟨hrow, r, hr, hcolumns, -⟩ | ⟨hrow, cause, hcause⟩ := row.toFacts_cases
  · rw [toPayment, hr]
    exact .payment r hrow hcolumns
  · rw [toPayment, hcause]
    exact .corrupt cause hrow

/-- What a save binds is found again by both lookups as the record that was saved. A row becomes a
    record exactly if it is in order; the record has its columns, up to the spelling of the
    currency, and is stable from then on. A lookup that finds a row answers what it is taken for,
    and never a payment for a row that is not in order. -/
theorem rows_carry_records :
    (∀ p : Payment, (∃ amount code, Money.make amount code = .ok p.facts.amount) →
      ∀ s : Statement, s = .selectByKey p.facts.idempotencyKey ∨ s = .selectById p.facts.id →
        ∃ row q, ofColumns (s.finds (Statement.upsert p.facts).written) = some row ∧
          row.toPayment = .ok q ∧ q.facts = p.facts) ∧
    ∀ row : PaymentRow,
      ((∃ r, row.toFacts = .ok r) ↔ row.InOrder) ∧
      (∀ r, row.toFacts = .ok r → ofFacts r = row.normal ∧ (ofFacts r).toFacts = .ok r) ∧
      ∀ (σ : Type) (reply : σ → Statement → SqlReply × σ) (d : σ),
        (∀ key, (reply d (.selectByKey key)).1 = .found (some row) →
          ∃ answer, row.Taken answer ∧
            ((SqlStore.findByKey key).run reply d).1 = answer.map some) ∧
        ∀ id, (reply d (.selectById id)).1 = .found (some row) →
          row.Taken ((SqlStore.findById id).run reply d).1 := by
  constructor
  · rintro p ⟨amount, code, hmoney⟩ s hs
    have hasked : s.asked = Statement.columnNames := by
      rcases hs with rfl | rfl
      exacts [Statement.asked_selectByKey _, Statement.asked_selectById _]
    refine ⟨ofFacts p.facts, .ofFacts p.facts, ?_, toPayment_ofFacts (Money.valid_of_make hmoney),
      rfl⟩
    rw [Statement.written_upsert, Statement.ofColumns_finds hasked]
  · intro row
    refine ⟨?_, ?_, ?_⟩
    · obtain ⟨hrow, r, hr, -⟩ | ⟨hrow, cause, hcause⟩ := row.toFacts_cases
      · exact ⟨fun _ => hrow, fun _ => ⟨r, hr⟩⟩
      · simp [hrow, hcause]
    · intro r hr
      obtain ⟨-, r', hr', hcolumns, hvalid⟩ | ⟨-, cause, hcause⟩ := row.toFacts_cases
      · obtain rfl : r = r' := by simpa [hr] using hr'
        exact ⟨hcolumns, toFacts_ofFacts hvalid⟩
      · simp [hr] at hcause
    · intro σ reply d
      obtain ⟨hbyKey, hbyId⟩ := lookups_found (r := reply) (d := d) row
      exact ⟨fun key hrow => ⟨_, row.taken_toPayment, hbyKey key hrow⟩,
        fun id hrow => by rw [hbyId id hrow]; exact row.taken_toPayment⟩

/-- A payment of zloty with quotes, commas and blanks in its texts is found again as it was saved;
    its row with a currency in small letters becomes the same record, and its row with a status in
    small letters is a failure. -/
theorem rows_carry_records_zloty :
    ∃ r : PaymentFacts, Money.make 1250 " pln " = .ok r.amount ∧
      (∃ row q, ofColumns ((Statement.selectById r.id).finds (Statement.upsert r).written) =
          some row ∧ row.toPayment = .ok q ∧ q.facts = r) ∧
      (∃ r', ({ ofFacts r with currency := "pln" } : PaymentRow).toFacts = .ok r' ∧
        ofFacts r' = ({ ofFacts r with currency := "pln" } : PaymentRow).normal) ∧
      ∃ e, ((SqlStore.findById r.id).run
        (fun (_ : Unit) _ => (.found (some { ofFacts r with status := "pending" }), ())) ()).1 =
          .error (.infrastructure e) := by
  have hm : Money.make 1250 " pln " = .ok ⟨1250, "PLN"⟩ := by decide +kernel
  let r : PaymentFacts :=
    { id := ⟨5⟩, orderId := "\"; --", customerId := "zażółć, gęślą", amount := ⟨1250, "PLN"⟩,
      status := .pending, providerRef := "", failureReason := "", idempotencyKey := " a,b ($1) ",
      createdAt := ⟨0, 0⟩, updatedAt := ⟨1, 5⟩, version := 3 }
  refine ⟨r, hm, ?_, ?_, ?_⟩
  · exact rows_carry_records.1 ⟨r, false, []⟩ ⟨1250, " pln ", hm⟩ _ (.inr rfl)
  · have hmake : Money.make 1250 "pln" = .ok ⟨1250, "PLN"⟩ := by decide +kernel
    have hrow : ({ ofFacts r with currency := "pln" } : PaymentRow).InOrder :=
      (inOrder_iff _).2 ⟨_, .pending, hmake, rfl⟩
    obtain ⟨r', hr'⟩ := (rows_carry_records.2 _).1.2 hrow
    exact ⟨r', hr', ((rows_carry_records.2 _).2.1 r' hr').1⟩
  · have htaken := ((rows_carry_records.2 { ofFacts r with status := "pending" }).2.2 Unit
      (fun _ _ => (.found (some { ofFacts r with status := "pending" }), ())) ()).2 r.id rfl
    generalize ((SqlStore.findById r.id).run _ _).1 = answer at htaken ⊢
    cases htaken with
    | payment _ inOrder => exact absurd inOrder.status (by decide)
    | corrupt cause _ => exact ⟨_, rfl⟩

end PaymentRow
end PayOnce
