import PayOnce.Store.Script
/-!
Sessions against a database. A database is anything that replies to one statement after the other;
what it was sent, and how it replied, is the transcript of a session.
-/

namespace PayOnce

theorem SqlScript.reply_sent (script : SqlScript) (s : Statement) :
    (script.reply s).2.sent = s :: script.sent := by
  unfold SqlScript.reply
  split <;> rfl

namespace Session

variable {σ α β : Type}

/-- Runs a session against a database. -/
def run (reply : σ → Statement → SqlReply × σ) : Session α → σ → α × σ
  | done a, d => (a, d)
  | send s next, d => (next (reply d s).1).run reply (reply d s).2

/-- The statements that a session sends to a database, each with its reply, the earliest first. -/
def transcript (reply : σ → Statement → SqlReply × σ) :
    Session α → σ → List (Statement × SqlReply)
  | done _, _ => []
  | send s next, d =>
    (s, (reply d s).1) :: (next (reply d s).1).transcript reply (reply d s).2

variable (reply : σ → Statement → SqlReply × σ)

@[simp] theorem run_pure (a : α) (d : σ) : (pure a : Session α).run reply d = (a, d) := rfl

@[simp] theorem run_query (s : Statement) (d : σ) : (query s).run reply d = reply d s := rfl

@[simp] theorem transcript_pure (a : α) (d : σ) :
    (pure a : Session α).transcript reply d = [] := rfl

@[simp] theorem transcript_query (s : Statement) (d : σ) :
    (query s).transcript reply d = [(s, (reply d s).1)] := rfl

theorem run_bind (m : Session α) (f : α → Session β) (d : σ) :
    (m >>= f).run reply d = (f (m.run reply d).1).run reply (m.run reply d).2 := by
  induction m generalizing d with
  | done a => rfl
  | send s next ih => exact ih _ _

theorem transcript_bind (m : Session α) (f : α → Session β) (d : σ) :
    (m >>= f).transcript reply d =
      m.transcript reply d ++ (f (m.run reply d).1).transcript reply (m.run reply d).2 := by
  induction m generalizing d with
  | done a => rfl
  | send s next ih => exact congrArg (_ :: ·) (ih _ _)

/-! ## Scripted databases -/

theorem runScripted_eq_run (m : Session α) (script : SqlScript) :
    m.runScripted script = m.run SqlScript.reply script := by
  induction m generalizing script with
  | done a => rfl
  | send s next ih => exact ih _ _

/-- A scripted database keeps the statements of the transcript. -/
theorem sent_runScripted (m : Session α) (script : SqlScript) :
    (m.runScripted script).2.sent =
      ((m.transcript SqlScript.reply script).map Prod.fst).reverse ++ script.sent := by
  induction m generalizing script with
  | done a => rfl
  | send s next ih =>
    calc ((send s next).runScripted script).2.sent
        = (((next (script.reply s).1).transcript SqlScript.reply (script.reply s).2).map
            Prod.fst).reverse ++ (script.reply s).2.sent := ih _ _
      _ = _ := by simp [transcript, SqlScript.reply_sent]

end Session

end PayOnce
