import Mathlib.Tactic
import ChatBot.Calculator.Worker

/-!
What a worker can bring about in a reply.

A worker may write anything and end with any exit code, hang, or not start at all. Of what it leaves
behind only the report counts, and of the report only the value or the kind of the error.

* `Worker.left?`: what a worker leaves behind, `Worker.report?`: the report that it amounts to;
* `WorkerReply.gist`: what counts of a report;
* `failureBodies`: the errors that are ever reported;
* `calculate_spec`: the replies to a calculation, for every worker.
-/

namespace ChatBot.Calculator

/-- What counts of a report: the value or the kind of the error, but no detail. -/
def WorkerReply.gist : WorkerReply → WorkerReply
  | .value x => .value x
  | .error (.malformed _) => .error (.malformed "")
  | .error cause => .error cause

/-- Reports with the same gist come to the same outcome. -/
lemma WorkerReply.ofResult_gist (report : WorkerReply) :
    Outcome.ofResult report.gist.result = Outcome.ofResult report.result := by
  cases report with
  | value x => rfl
  | error cause => cases cause <;> rfl

namespace Worker

/-- What a worker leaves behind: the text that it wrote and its exit code. One that hangs and one
that cannot be started leave nothing. -/
def left? (worker : Worker) (expression : List Char) : Option (List Char × Int) :=
  match worker with
  | .faithful => some ((respond expression).write ++ ['\n'], 0)
  | .scripted output exitCode => some (output.toList, exitCode)
  | .hanging | .missing => none

/-- The report of a worker: its text without the blanks around it, if it exits with
zero and the text is one. -/
def report? (worker : Worker) (expression : List Char) : Option WorkerReply := do
  let (output, exitCode) ← worker.left? expression
  if exitCode = 0 then WorkerReply.ofText? (Text.trim output) else none

/-- What is reported where a worker reports nothing. -/
def fault : Worker → Failure
  | .faithful | .scripted _ _ => .internal "calculation failed"
  | .hanging => .timeout
  | .missing => .internal "calculator unavailable"

/-- The report of a worker decides on the outcome. -/
lemma run_eq (worker : Worker) (expression : List Char) :
    worker.run expression =
      match worker.report? expression with
      | some report => .ofResult report.result
      | none => .failure worker.fault := by
  cases worker with
  | faithful | scripted => rfl
  | hanging | missing => rfl

end Worker

/-! ### Replies -/

/-- The errors that a calculation may report. -/
def failureBodies : List String :=
  ["Syntax error", "Error: Division by zero", "Output too long", "Execution exceeded time limit",
    "Error: math range error", "Error: math domain error", "Error: calculation failed",
    "Error: calculator unavailable"]

/-- A failure that is no matter of length has one of the bodies, which is not that of a too long
output. -/
lemma message_ofEvalError (cause : EvalError) :
    (Failure.ofEvalError cause).message ∈ failureBodies ∧
      (Failure.ofEvalError cause).message ≠ "Output too long" := by
  cases cause with
  | malformed detail =>
      show "Syntax error" ∈ failureBodies ∧ "Syntax error" ≠ "Output too long"
      decide
  | divisionByZero | overflow | domain => decide

lemma message_fault (worker : Worker) :
    worker.fault.message ∈ failureBodies ∧ worker.fault.message ≠ "Output too long" := by
  cases worker with
  | faithful | hanging | missing => decide
  | scripted output exitCode =>
      show "Error: calculation failed" ∈ failureBodies ∧
        "Error: calculation failed" ≠ "Output too long"
      decide

/-- The reply to a calculation, case by case: an answer that fits, one that does not, and a failure
that is reported whatever the limit. -/
lemma calculate_cases (worker : Worker) (raw : String) (platform : Platform) :
    (∃ v, worker.report? (sanitize raw.toList) = some (.value v) ∧
        calculate worker raw platform =
          if (answer (sanitize raw.toList) v).length ≤ platform.messageLimit
          then .text (answer (sanitize raw.toList) v) else .failure "Output too long") ∨
      (∀ v, worker.report? (sanitize raw.toList) ≠ some (.value v)) ∧
        ∃ body ∈ failureBodies, body ≠ "Output too long" ∧
          calculate worker raw platform = .failure body := by
  simp only [calculate, Worker.run_eq]
  cases worker.report? (sanitize raw.toList) with
  | none =>
      obtain ⟨hmem, hne⟩ := message_fault worker
      exact .inr ⟨by simp, _, hmem, hne, rfl⟩
  | some report =>
      cases report with
      | value v => exact .inl ⟨v, rfl, rfl⟩
      | error cause =>
          obtain ⟨hmem, hne⟩ := message_ofEvalError cause
          exact .inr ⟨by simp, _, hmem, hne, rfl⟩

section

variable {worker : Worker} {raw : String} {platform : Platform}

/-- A text is the answer to a reported value, and keeps to the limit. -/
lemma calculate_eq_text_iff {body : String} :
    calculate worker raw platform = .text body ↔
      ∃ v, worker.report? (sanitize raw.toList) = some (.value v) ∧
        body = answer (sanitize raw.toList) v ∧ body.length ≤ platform.messageLimit := by
  rcases calculate_cases worker raw platform with ⟨v, hv, h⟩ | ⟨hnone, text, -, -, h⟩
  · rw [h, hv]
    split
    · next hle =>
      rw [Reply.text.injEq]
      constructor
      · rintro rfl
        exact ⟨v, rfl, rfl, hle⟩
      · rintro ⟨w, hw, rfl, -⟩
        cases hw
        rfl
    · next hlong =>
      refine iff_of_false (by simp) ?_
      rintro ⟨w, hw, rfl, hle⟩
      cases hw
      exact hlong hle
  · rw [h]
    refine iff_of_false (by simp) ?_
    rintro ⟨v, hv, -⟩
    exact hnone v hv

/-- Only the answer to a reported value is ever too long. -/
lemma calculate_eq_outputTooLong_iff :
    calculate worker raw platform = .failure "Output too long" ↔
      ∃ v, worker.report? (sanitize raw.toList) = some (.value v) ∧
        platform.messageLimit < (answer (sanitize raw.toList) v).length := by
  rcases calculate_cases worker raw platform with ⟨v, hv, h⟩ | ⟨hnone, body, -, hne, h⟩
  · rw [h, hv]
    split
    · next hle =>
      refine iff_of_false (by simp) ?_
      rintro ⟨w, hw, hlong⟩
      cases hw
      exact absurd hle hlong.not_ge
    · next hlong => exact iff_of_true rfl ⟨v, rfl, not_le.mp hlong⟩
  · rw [h]
    refine iff_of_false (fun heq => hne (Reply.failure.inj heq)) ?_
    rintro ⟨v, hv, -⟩
    exact hnone v hv

/-- Nothing but the gist of a report shows. -/
lemma calculate_congr {other : Worker} {report report' : WorkerReply}
    (hreport : worker.report? (sanitize raw.toList) = some report)
    (hreport' : other.report? (sanitize raw.toList) = some report')
    (hgist : report.gist = report'.gist) :
    calculate worker raw platform = calculate other raw platform := by
  have hrun : worker.run (sanitize raw.toList) = other.run (sanitize raw.toList) := by
    rw [Worker.run_eq, Worker.run_eq, hreport, hreport']
    simp only
    rw [← report.ofResult_gist, hgist, report'.ofResult_gist]
  simp only [calculate, hrun]

end

/-- **Controlled replies**: whatever a worker writes and however it ends, the reply is a text or one
of eight errors. It is a text exactly if the worker exits with zero and reports a value whose answer
keeps to the limit of the platform, and then it is that answer; the output is too long exactly if
the worker reports a value whose answer does not. Of two workers that report the same value, or
errors of the same kind, the replies are the same. -/
theorem calculate_spec (worker : Worker) (raw : String) (platform : Platform) :
    ((∃ body, calculate worker raw platform = .text body) ∨
        ∃ body ∈ failureBodies, calculate worker raw platform = .failure body) ∧
      (∀ body, calculate worker raw platform = .text body ↔
        ∃ v, worker.report? (sanitize raw.toList) = some (.value v) ∧
          body = String.ofList (sanitize raw.toList) ++ " = " ++ showValue v ∧
          body.length ≤ platform.messageLimit) ∧
      (calculate worker raw platform = .failure "Output too long" ↔
        ∃ v, worker.report? (sanitize raw.toList) = some (.value v) ∧
          platform.messageLimit <
            (String.ofList (sanitize raw.toList) ++ " = " ++ showValue v).length) ∧
      ∀ (other : Worker) (report report' : WorkerReply),
        worker.report? (sanitize raw.toList) = some report →
          other.report? (sanitize raw.toList) = some report' → report.gist = report'.gist →
            calculate worker raw platform = calculate other raw platform := by
  refine ⟨?_, fun _ => calculate_eq_text_iff, calculate_eq_outputTooLong_iff,
    fun _ _ _ => calculate_congr⟩
  rcases calculate_cases worker raw platform with ⟨v, -, h⟩ | ⟨-, body, hmem, -, h⟩
  · rw [h]
    split
    · exact .inl ⟨_, rfl⟩
    · exact .inr ⟨_, by decide, rfl⟩
  · exact .inr ⟨body, hmem, h⟩

/-- Two workers that are at odds over the detail of an error, one of which
says more than asked for. -/
theorem calculate_spec_of_details :
    calculate (.scripted
      "\x7b\"status\":\"error\",\"error\":\x7b\"kind\":\"syntax\",\"detail\":\"a\"\x7d\x7d" 0)
        "2+" .twitch =
      calculate (.scripted
      " \x7b\"n\":1,\"error\":\x7b\"detail\":\"b\",\"kind\":\"syntax\"\x7d,\"status\":\"error\"\x7d\n" 0)
      "2+" .twitch :=
  (calculate_spec _ "2+" .twitch).2.2.2 _ (.error (.malformed "a")) (.error (.malformed "b"))
    (by decide +kernel) (by decide +kernel) rfl

end ChatBot.Calculator
