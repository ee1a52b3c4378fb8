import PayOnce.Http.Server
import Mathlib.Algebra.GroupWithZero.Nat
/-!
Taking in the body of a request. A body that comes in time and is not too long is collected whole,
however it is cut into pieces, and nobody is called meanwhile.
-/

namespace PayOnce

namespace Program

variable {α σ τ : Type} {env : Environment σ τ} {budget : Option Span}

/-- Waiting twice is waiting once, also where the budget ends. -/
theorem run_wait_wait (d d' : Span) (p : Program α) (s : Progress σ τ) :
    (wait d (wait d' p)).run env budget s = (wait (d + d') p).run env budget s := by
  simp only [run, ← Nat.add_assoc]
  cases budget with
  | none => rfl
  | some b =>
    by_cases hfirst : s.elapsed + d < b
    · simp only [withinBudget, hfirst, decide_true, if_true]
      rfl
    · have hboth : ¬ s.elapsed + d + d' < b :=
        fun h => hfirst (Nat.lt_of_le_of_lt (Nat.le_add_right _ _) h)
      simp only [withinBudget, hfirst, hboth, decide_false, Bool.false_eq_true, if_false]

theorem run_wait_congr {p q : Program α} (h : ∀ s, p.run env budget s = q.run env budget s)
    (d : Span) (s : Progress σ τ) : (wait d p).run env budget s = (wait d q).run env budget s := by
  simp only [run, h]

theorem run_bind_congr {β : Type} {p q : Program α} {s : Progress σ τ}
    (h : p.run env budget s = q.run env budget s) (f : α → Program β) :
    (p.bind f).run env budget s = (q.bind f).run env budget s := by
  rw [run_bind, run_bind, h]

end Program

namespace Http

open Program

/-- The body brings these bytes within a time: every piece comes before the limit, and so does the
    end, and the whole is not too long. -/
structure Body.Brings (limit : Span) (b : Body) (time : Span) (bytes : Bytes) : Prop where
  complete : b.ending = .complete
  endsInTime : 0 < limit
  comesInTime : ∀ p ∈ b.pieces, p.delay < limit
  lasts : (b.pieces.map Piece.delay).sum = time
  holds : b.pieces.flatMap Piece.bytes = bytes
  fits : bytes.length ≤ longestBody

/-- So it does, however long it is. -/
structure Body.Comes (limit : Span) (b : Body) (time : Span) (bytes : Bytes) : Prop where
  complete : b.ending = .complete
  endsInTime : 0 < limit
  comesInTime : ∀ p ∈ b.pieces, p.delay < limit
  lasts : (b.pieces.map Piece.delay).sum = time
  holds : b.pieces.flatMap Piece.bytes = bytes

theorem Body.Comes.brings {limit time : Span} {b : Body} {bytes : Bytes}
    (h : b.Comes limit time bytes) (hfits : bytes.length ≤ longestBody) :
    b.Brings limit time bytes :=
  { h with fits := hfits }

section Intake

variable {σ τ : Type} {env : Environment σ τ} {budget : Option Span} {limit time : Span}
  {r : Request} {bytes : Bytes}

theorem run_collect (hlimit : 0 < limit) {ps : List Piece} (hps : ∀ p ∈ ps, p.delay < limit)
    {size : Nat} (hsize : size + (ps.flatMap Piece.bytes).length ≤ longestBody) (done : List UInt8)
    (s : Progress σ τ) :
    (collect limit .complete ps size done).run env budget s =
      (Program.wait (ps.map Piece.delay).sum
        (.done (.ok (done.reverse ++ ps.flatMap Piece.bytes)))).run env budget s := by
  induction ps generalizing size done s with
  | nil =>
    have hend : await limit 0 = .wait 0 (.done (.ok ())) := if_pos hlimit
    have hcollect : collect limit .complete [] size done =
        (await limit 0).bind fun taken => .done (taken.map fun () => done.reverse) := rfl
    rw [hcollect, hend, List.flatMap_nil, List.append_nil]
    rfl
  | cons p ps ih =>
    obtain ⟨hp, hps⟩ := List.forall_mem_cons.1 hps
    rw [List.flatMap_cons, List.length_append] at hsize
    have hpiece : await limit p.delay = .wait p.delay (.done (.ok ())) := if_pos hp
    have hshort : ¬ size + p.bytes.length > longestBody := by omega
    have hcollect : collect limit .complete (p :: ps) size done =
        .wait p.delay (collect limit .complete ps (size + p.bytes.length)
          (p.bytes.reverseAux done)) := by
      rw [collect, hpiece]
      exact congrArg (Program.wait p.delay) (if_neg hshort)
    rw [hcollect, run_wait_congr (ih hps (by omega) _), run_wait_wait, List.map_cons, List.sum_cons,
      List.flatMap_cons, List.reverseAux_eq, List.reverse_append, List.reverse_reverse,
      List.append_assoc]

/-- A body that is too long is given up at the piece that makes it so. -/
theorem run_collect_tooLong {ps : List Piece} (hps : ∀ p ∈ ps, p.delay < limit) {size : Nat}
    (hsize : size ≤ longestBody) (hlong : longestBody < size + (ps.flatMap Piece.bytes).length)
    (done : List UInt8) :
    ∃ d ≤ (ps.map Piece.delay).sum, ∀ s : Progress σ τ,
      (collect limit .complete ps size done).run env budget s =
        (Program.wait d (.done (.error .tooLong))).run env budget s := by
  -- By induction on the pieces, with what fits so far as the invariant.
  induction ps generalizing size done with
  | nil => exact absurd hlong (Nat.not_lt.2 hsize)
  | cons p ps ih =>
    obtain ⟨hp, hps⟩ := List.forall_mem_cons.1 hps
    rw [List.flatMap_cons, List.length_append] at hlong
    have hpiece : await limit p.delay = .wait p.delay (.done (.ok ())) := if_pos hp
    have hcollect : collect limit .complete (p :: ps) size done = .wait p.delay
        (if size + p.bytes.length > longestBody then .done (.error .tooLong)
          else collect limit .complete ps (size + p.bytes.length) (p.bytes.reverseAux done)) := by
      rw [collect, hpiece]
      rfl
    rw [hcollect, List.map_cons, List.sum_cons]
    split
    · exact ⟨p.delay, Nat.le_add_right _ _, fun _ => rfl⟩
    · next hshort =>
      obtain ⟨d, hd, hrest⟩ := ih hps (Nat.le_of_not_lt hshort) (by omega) _
      refine ⟨p.delay + d, Nat.add_le_add_left hd _, fun s => ?_⟩
      rw [run_wait_congr hrest, run_wait_wait]

/-- What is made of a body that has been collected, or has not. -/
def decodeCollected : Except BodyFault Bytes → Program (Except BodyFault InitiationRequest)
  | .error fault => .done (.error fault)
  | .ok bytes => .done ((InitiationRequest.decode (Text.Utf8.glyphs bytes)).mapError .json)

theorem takeIn_announced (hjson : announcesJson r.headers = true) (limit : Span) :
    takeIn limit r = (collect limit r.body.ending r.body.pieces 0 []).bind decodeCollected :=
  (if_pos hjson).trans (congrArg (Program.bind _) (funext fun taken => by cases taken <;> rfl))

/-- A body that is announced as JSON is read when it has come. -/
theorem run_takeIn (hbody : r.body.Brings limit time bytes)
    (hjson : announcesJson r.headers = true) (s : Progress σ τ) :
    (takeIn limit r).run env budget s =
      (Program.wait time (.done ((InitiationRequest.decode (Text.Utf8.glyphs bytes)).mapError
        .json))).run env budget s := by
  have hsize : 0 + (r.body.pieces.flatMap Piece.bytes).length ≤ longestBody := by
    rw [Nat.zero_add, hbody.holds]
    exact hbody.fits
  rw [takeIn_announced hjson, hbody.complete,
    run_bind_congr (run_collect hbody.endsInTime hbody.comesInTime hsize [] s), hbody.lasts,
    hbody.holds]
  rfl

theorem takeIn_unannounced (hjson : announcesJson r.headers = false) (limit : Span) :
    takeIn limit r = .done (.error .mediaType) :=
  if_neg (by simp [hjson])

/-! ## Spans of the log -/

theorem inSpan_await (span : LogSpan) (limit delay : Span) :
    (await limit delay).inSpan span = await limit delay := by
  unfold await
  split <;> rfl

theorem inSpan_collect (span : LogSpan) (limit : Span) (ending : BodyEnd) (ps : List Piece)
    (size : Nat) (done : List UInt8) :
    (collect limit ending ps size done).inSpan span = collect limit ending ps size done := by
  induction ps generalizing size done with
  | nil =>
    cases ending with
    | complete => exact (inSpan_bind span (await limit 0) _).trans (by rw [inSpan_await]; rfl)
    | silent => rfl
    | broken detail => exact (inSpan_bind span (await limit 0) _).trans (by rw [inSpan_await]; rfl)
  | cons p ps ih =>
    refine (inSpan_bind span (await limit p.delay) _).trans ?_
    rw [inSpan_await]
    refine congrArg (Program.bind _) (funext fun taken => ?_)
    cases taken with
    | error fault => rfl
    | ok _ =>
      simp only
      split
      · rfl
      · exact ih _ _

/-- Nothing is written to the log while a body is taken in. -/
theorem inSpan_takeIn (span : LogSpan) (limit : Span) (r : Request) :
    (takeIn limit r).inSpan span = takeIn limit r := by
  unfold takeIn
  split
  · refine (inSpan_bind span (collect ..) _).trans ?_
    rw [inSpan_collect]
    refine congrArg (Program.bind _) (funext fun taken => ?_)
    cases taken <;> rfl
  · rfl

end Intake

/-! ## Requests for an initiation -/

/-- A request to initiate a payment. -/
structure Request.Orders (r : Request) : Prop where
  method : r.method = "POST"
  path : r.target.path = "/v1/payments"

/-- What is done once the body of a request for an initiation has been taken in. -/
def answerTaken (deadlines : Deadlines) (headers : List Header) :
    Except BodyFault InitiationRequest → Program Response
  | .error fault =>
    .done (.json 400 (errorBody "invalid_json" ("cannot parse request body: " ++ fault.message)))
  | .ok request => (postInitiation deadlines headers request).bind fun
    | .ok receipt => .done (.json 201 receipt.toJson)
    | .error e => answerError e

theorem Request.Orders.handle_eq {r : Request} (h : r.Orders) (deadlines : Deadlines)
    (limits : Limits) :
    handle deadlines limits r = (takeIn limits.read r).bind (answerTaken deadlines r.headers) := by
  have hroute : Route.ofPath? r.target.path = some .payments := by
    rw [h.path]
    decide
  have hmethod : r.method ∈ Route.payments.methods := by
    rw [h.method]
    decide
  simp only [handle, hroute, Route.handle, if_pos hmethod]
  exact congrArg (Program.bind _) (funext fun taken => by cases taken <;> rfl)

/-- A request for an initiation is answered by what is done once its body has been taken in. -/
theorem Request.Orders.run_handle {σ τ : Type} {env : Environment σ τ} {budget : Option Span}
    {r : Request} (h : r.Orders) {limits : Limits} {time : Span} {bytes : Bytes}
    (hbody : r.body.Brings limits.read time bytes) (hjson : announcesJson r.headers = true)
    (deadlines : Deadlines) (span : LogSpan) (s : Progress σ τ) :
    ((handle deadlines limits r).inSpan span).run env budget s =
      (Program.wait time ((answerTaken deadlines r.headers
        ((InitiationRequest.decode (Text.Utf8.glyphs bytes)).mapError .json)).inSpan
          span)).run env budget s := by
  rw [h.handle_eq, inSpan_bind, inSpan_takeIn, run_bind_congr (run_takeIn hbody hjson s)]
  rfl

end Http

end PayOnce
