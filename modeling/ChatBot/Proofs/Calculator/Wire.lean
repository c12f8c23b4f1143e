import ChatBot.Calculator.Worker
import ChatBot.Proofs.Json.Layout

/-!
What comes of the text in which a calculating process reports.

* `layout_write`: the text is a layout of its node. `node_write` says that it is read as that node;
* `WorkerReply.reread`: the report that is read. `ofText?_write` says so;
* `outcomeOf_write_eq`: the outcome of the calculation. `outcomeOf_write` is the case of a value;
* `outcomeOf_write_eq_success_iff`: the value comes through exactly if reading its digits, in two
  roundings, gives it back. `outcomeOf_write_ne_success` says that this is not so for all values.
-/

namespace ChatBot.Calculator

open ChatBot.Json (Node Layout reread)

namespace WorkerReply

/-! ### The text -/

lemma hasNumeral_real {x : Float} (hx : x.isFinite = true) : (Json.Number.real x).HasNumeral := by
  obtain ⟨n, hn, htext, -⟩ := Json.exists_numeral_of_isFinite hx
  exact ⟨n, hn, htext⟩

lemma within_errorJson (e : EvalError) : (errorJson e).Within Json.Number.HasNumeral 1 := by
  have htexts : ∀ fields : Json.Fields, (∀ f ∈ fields, ∃ s, f.2 = .string s) →
      (Json.object fields).Within Json.Number.HasNumeral 1 := fun fields h => .object fun f hf => by
    obtain ⟨s, hs⟩ := h f hf
    exact hs ▸ .string s
  cases e <;> exact htexts _ (by simp)

/-- The text of a report is a layout of its node. -/
lemma layout_write (r : WorkerReply) : Layout (Node.ofWritten r.json).lexemes r.write := by
  have hwithin : r.json.Within Json.Number.HasNumeral 2 := by
    cases r with
    | value x =>
        refine .object fun f hf => ?_
        obtain rfl | rfl : f = ("status", .string "value") ∨
            f = ("value", if x.isFinite then .number (.real x) else .null) := by simpa using hf
        · exact .string _
        · by_cases hx : x.isFinite = true
          · exact (if_pos hx).symm ▸ .number (hasNumeral_real hx)
          · exact (if_neg hx).symm ▸ .null
    | error e =>
        refine .object fun f hf => ?_
        obtain rfl | rfl : f = ("status", .string "error") ∨ f = ("error", errorJson e) := by
          simpa using hf
        · exact .string _
        · exact within_errorJson e
  exact Json.layout_compact hwithin

/-- The node of the text. -/
lemma node_write (r : WorkerReply) : Node.ofText? r.write = some (Node.ofWritten r.json) :=
  Node.ofText?_of_layout (layout_write r)

/-- The text starts and ends with a brace. -/
lemma exists_write_eq (r : WorkerReply) : ∃ cs, r.write = '\x7b' :: (cs ++ ['\x7d']) := by
  cases r <;> exact ⟨_, rfl⟩

/-! ### What is read -/

/-- A value as it is read. -/
def valueNode (x : Float) : Node :=
  if x.isFinite then .number ((Json.reread x).map .real) else .null

lemma ofWritten_value (x : Float) :
    Node.ofWritten (if x.isFinite then .number (.real x) else .null) = valueNode x := by
  rw [valueNode]
  by_cases hx : x.isFinite = true
  · obtain ⟨n, hn, htext, hvalue⟩ := Json.exists_numeral_of_isFinite hx
    rw [if_pos hx, if_pos hx, Node.ofWritten, Json.Number.reread_eq hn htext, hvalue]
  · rw [if_neg hx, if_neg hx, Node.ofWritten]

/-- The report that is read: an error is the same, and a value is what reading its digits gives. -/
def reread : WorkerReply → Option WorkerReply
  | .value x => if x.isFinite then (Json.reread x).map .value else none
  | .error e => some (.error e)

/-- The report that is read from the text. -/
lemma ofText?_write (r : WorkerReply) : ofText? r.write = r.reread := by
  rw [ofText?, node_write]
  cases r with
  | value x =>
      have hnode : Node.ofWritten (value x).json =
          .object [(some "status", .string (some "value")), (some "value", valueNode x)] := by
        rw [← ofWritten_value]
        rfl
      rw [hnode, valueNode, reread]
      by_cases hx : x.isFinite = true
      · rw [if_pos hx, if_pos hx]
        cases Json.reread x <;> rfl
      · rw [if_neg hx, if_neg hx]
        rfl
  | error e => cases e <;> rfl

end WorkerReply

namespace Worker

variable {x : Float}

/-! ### The outcome -/

lemma trim_newLine (cs : List Char) :
    Text.trim ('\x7b' :: (cs ++ ['\x7d']) ++ ['\n']) = '\x7b' :: (cs ++ ['\x7d']) := by
  have hopen : Text.isBlank '\x7b' = false := by decide
  have hclose : Text.isBlank '\x7d' = false := by decide
  have hline : Text.isBlank '\n' = true := by decide
  simp [Text.trim, Text.trimStart, Text.trimEnd, hopen, hclose, hline]

/-- The outcome of a calculation whose process reports. -/
lemma outcomeOf_write_eq (r : WorkerReply) :
    outcomeOf (r.write ++ ['\n']) 0 =
      r.reread.elim (.failure (.internal "calculation failed")) fun r' => .ofResult r'.result := by
  obtain ⟨cs, hcs⟩ := r.exists_write_eq
  have hread := r.ofText?_write
  rw [hcs] at hread ⊢
  rw [outcomeOf, if_pos rfl, trim_newLine, hread]
  cases r.reread <;> rfl

/-- The outcome of a calculation whose process reports a value: the number that is read back
from the text of the value. -/
lemma outcomeOf_write (hx : x.isFinite = true) :
    outcomeOf ((WorkerReply.value x).write ++ ['\n']) 0 =
      match reread x with
      | some y => .success y
      | none => .failure (.internal "calculation failed") := by
  rw [outcomeOf_write_eq, WorkerReply.reread, if_pos hx]
  cases reread x <;> rfl

/-- **Values on the wire**: a value that a process reports comes through if and only if reading back
its digits gives it. The digits, those of the shortest decimal, are rounded to a number; this is
multiplied or divided by a power of ten that is rounded as well, which rounds once more. -/
theorem outcomeOf_write_eq_success_iff (x : Float) (hx : x.isFinite = true) :
    outcomeOf ((WorkerReply.value x).write ++ ['\n']) 0 = .success x ↔ reread x = some x := by
  rw [outcomeOf_write hx]
  cases reread x with
  | none => simp
  | some y => simp

/-- A quarter comes through. -/
theorem outcomeOf_write_quarter :
    (0.25 : Float).isFinite = true ∧ reread 0.25 = some 0.25 ∧
      outcomeOf ((WorkerReply.value 0.25).write ++ ['\n']) 0 = .success 0.25 := by
  have hfinite : (0.25 : Float).isFinite = true := by decide +kernel
  have hread : reread 0.25 = some 0.25 := by decide +kernel
  exact ⟨hfinite, hread, (outcomeOf_write_eq_success_iff 0.25 hfinite).mpr hread⟩

/-- The greatest odd number of 53 bits does not come through: with the zero behind its point it has
17 digits, which make up no number. -/
theorem outcomeOf_write_ne_success :
    (9007199254740991 : Float).isFinite = true ∧
      outcomeOf ((WorkerReply.value 9007199254740991).write ++ ['\n']) 0 =
        .success 9007199254740990 ∧
      outcomeOf ((WorkerReply.value 9007199254740991).write ++ ['\n']) 0 ≠
        .success 9007199254740991 := by
  have hoff : outcomeOf ((WorkerReply.value 9007199254740991).write ++ ['\n']) 0 =
      .success 9007199254740990 := by decide +kernel
  have hne : (9007199254740990 : Float) ≠ 9007199254740991 := by decide +kernel
  refine ⟨by decide +kernel, hoff, ?_⟩
  rw [hoff]
  exact fun h => hne (Outcome.success.inj h)

end Worker

example : calculate .faithful "9007199254740991" .discord =
    .text "9007199254740991 = 9007199254740990" := by
  decide +kernel

end ChatBot.Calculator
