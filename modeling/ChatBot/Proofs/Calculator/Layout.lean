import ChatBot.Proofs.Calculator.Wire
import ChatBot.Proofs.Json.Layout
import ChatBot.Proofs.Json.Record

/-!
What is read from the answer of a calculating process, in whatever layout it is written.

* `IsExtra`, `HasFields`: fields that answers do not have, and objects with certain fields among
  those;
* `WorkerReply.Presents`: a node has the fields of an answer, and extra ones. `presents_node` says
  so of the node that is written;
* `splitStatus?_of_perm`: the status is found wherever it stands;
* `WorkerReply.ofNode?_of_presents`: what is read from a node that presents an answer;
* `WorkerReply.ofText?_layout`: errors are read back from every layout, and values as reading their
  digits gives them, unless an extra field has no value.
-/

namespace ChatBot.Calculator

open ChatBot.Json (Node Record Layout)
open ChatBot.Json.Record (keyed named?_of_perm)

/-! ### Fields -/

/-- The names of the fields of answers, and of the errors in them. -/
def fieldNames : List String := ["status", "value", "error", "kind", "detail"]

/-- The field is none of an answer, and its value is nested less than 100 deep. -/
def IsExtra (f : Option String × Node) : Prop :=
  (∃ name, f.1 = some name ∧ name ∉ fieldNames) ∧ f.2.depth < 100

/-- The node is an object that has the fields, in any order, and extra ones. -/
def HasFields (core : List (String × Node)) (n : Node) : Prop :=
  ∃ fields extras, n = .object fields ∧ (∀ f ∈ extras, IsExtra f) ∧
    fields.Perm (keyed core ++ extras)

/-- Extra fields are none of some fields of answers. -/
lemma IsExtra.not_mem {f : Option String × Node} (h : IsExtra f) (names : List String)
    (hnames : ∀ name ∈ names, name ∈ fieldNames) : ∃ name, f.1 = some name ∧ name ∉ names := by
  obtain ⟨⟨name, hname, hnot⟩, -⟩ := h
  exact ⟨name, hname, fun hmem => hnot (hnames name hmem)⟩

/-- The fields of an error. -/
def errorFields : EvalError → List (String × Node)
  | .malformed detail => [("kind", .string (some "syntax")), ("detail", .string (some detail))]
  | .divisionByZero => [("kind", .string (some "division_by_zero"))]
  | .overflow => [("kind", .string (some "overflow"))]
  | .domain => [("kind", .string (some "domain"))]

namespace WorkerReply

/-- The node has the fields of the answer, and extra ones. -/
def Presents : WorkerReply → Node → Prop
  | .value x, n => HasFields [("status", .string (some "value")), ("value", valueNode x)] n
  | .error e, n => ∃ inner, HasFields (errorFields e) inner ∧
      HasFields [("status", .string (some "error")), ("error", inner)] n

/-! ### The status -/

lemma splitStatus?_of_ne {fields : List (Option String × Node)}
    (h : ∀ f ∈ fields, f.1 ≠ some "status") : splitStatus? fields = some (none, fields) := by
  induction fields with
  | nil => rfl
  | cons f rest ih =>
      have hf : (f.1 == some "status") = false := beq_eq_false_iff_ne.mpr (h f List.mem_cons_self)
      simp only [splitStatus?, ih fun g hg => h g (List.mem_cons_of_mem f hg), hf,
        Option.bind_eq_bind, Option.bind_some, Bool.false_eq_true, if_false]

lemma splitStatus?_append {before behind : List (Option String × Node)} {status : Node}
    (hbefore : ∀ f ∈ before, f.1 ≠ some "status") (hbehind : ∀ f ∈ behind, f.1 ≠ some "status") :
    splitStatus? (before ++ (some "status", status) :: behind) =
      some (some status, before ++ behind) := by
  induction before with
  | nil =>
      simp only [List.nil_append, splitStatus?, splitStatus?_of_ne hbehind, Option.bind_eq_bind,
        Option.bind_some, beq_self_eq_true, Option.isSome_none, Bool.false_eq_true, if_true,
        if_false]
  | cons f rest ih =>
      have hf : (f.1 == some "status") = false :=
        beq_eq_false_iff_ne.mpr (hbefore f List.mem_cons_self)
      simp only [List.cons_append, splitStatus?,
        ih fun g hg => hbefore g (List.mem_cons_of_mem f hg), hf, Option.bind_eq_bind,
        Option.bind_some, Bool.false_eq_true, if_false]

/-- The status is found wherever it stands, and the other fields are left. -/
lemma splitStatus?_of_perm {fields rest : List (Option String × Node)} {status : Node}
    (h : fields.Perm ((some "status", status) :: rest)) (hrest : ∀ f ∈ rest, f.1 ≠ some "status") :
    ∃ others, splitStatus? fields = some (some status, others) ∧ others.Perm rest := by
  obtain ⟨before, behind, rfl⟩ := List.append_of_mem (h.mem_iff.mpr List.mem_cons_self)
  have hothers : (before ++ behind).Perm rest := (List.perm_middle.symm.trans h).cons_inv
  have hne : ∀ f ∈ before ++ behind, f.1 ≠ some "status" :=
    fun f hf => hrest f (hothers.mem_iff.mp hf)
  exact ⟨before ++ behind, splitStatus?_append (fun f hf => hne f (List.mem_append_left _ hf))
    fun f hf => hne f (List.mem_append_right _ hf), hothers⟩

/-! ### Nodes that present an answer -/

/-- An error is read from every object that has its fields. -/
lemma errorOfNode?_of_hasFields {e : EvalError} {inner : Node}
    (h : HasFields (errorFields e) inner) : errorOfNode? inner = some e := by
  obtain ⟨fields, extras, rfl, hextras, hfields⟩ := h
  have hnames : ∀ f ∈ errorFields e, f.1 ∈ ["kind", "detail"] := by
    cases e <;> simp [errorFields]
  have hnodup : ((errorFields e).map Prod.fst).Nodup := by
    cases e <;> simp [errorFields]
  obtain ⟨present, hpresent, hlookup⟩ := named?_of_perm hfields hnodup hnames
    fun f hf => (hextras f hf).not_mem _ (by decide)
  have hrecord : Record.ofNode? ["kind", "detail"] (.object fields) = some ⟨false, present⟩ := by
    rw [Record.ofNode?, hpresent]
    rfl
  simp only [errorOfNode?, hrecord, Record.required?, hlookup, Option.bind_eq_bind,
    Option.bind_some]
  cases e <;> rfl

/-- The only field of an answer besides the status is found. -/
lemma required?_of_perm {α : Type} {name : String} {node : Node}
    {others extras : List (Option String × Node)} (hname : name ∈ fieldNames)
    (h : others.Perm (keyed [(name, node)] ++ extras)) (hextras : ∀ f ∈ extras, IsExtra f)
    (value? : Node → Option α) :
    ((Record.ofNode? [name] (.object others)).bind fun r => r.required? name value?) =
      value? node := by
  have hothers : ∀ f ∈ extras, ∃ other, f.1 = some other ∧ other ∉ [name] := fun f hf =>
    (hextras f hf).not_mem [name] fun other hother => List.mem_singleton.mp hother ▸ hname
  obtain ⟨present, hpresent, hlookup⟩ := named?_of_perm h (by simp) (by simp) hothers
  have hrecord : Record.ofNode? [name] (.object others) = some ⟨false, present⟩ := by
    rw [Record.ofNode?, hpresent]
    rfl
  have hfound : present.lookup name = some node := by simp [hlookup]
  rw [hrecord]
  simp only [Option.bind_some, Record.required?, hfound, Option.bind_eq_bind]

/-- An object of flat fields is nested as deep as its extra fields. -/
lemma depth_of_hasFields {core : List (String × Node)} {n : Node} (h : HasFields core n)
    (hcore : ∀ f ∈ core, f.2.depth = 0) : n.depth ≤ 100 := by
  obtain ⟨fields, extras, rfl, hextras, hfields⟩ := h
  refine Nat.succ_le_succ (Node.fieldsDepth_le fun f hf => ?_)
  rcases List.mem_append.mp (hfields.mem_iff.mp hf) with hf | hf
  · obtain ⟨g, hg, rfl⟩ := List.mem_map.mp hf
    exact (hcore g hg).le.trans (Nat.zero_le 99)
  · exact Nat.le_of_lt_succ (hextras f hf).2

/-- The status decides about the other fields, if all of them have values. -/
lemma ofNode?_of_hasFields {status name : String} {node n : Node} (hname : name ≠ "status")
    (hdepth : node.depth ≤ 100)
    (h : HasFields [("status", .string (some status)), (name, node)] n) :
    ∃ others extras, others.Perm (keyed [(name, node)] ++ extras) ∧ (∀ f ∈ extras, IsExtra f) ∧
      ofNode? n = if n.isSound then ofStatus? status (.object others) else none := by
  obtain ⟨fields, extras, rfl, hextras, hfields⟩ := h
  have hrest : ∀ f ∈ keyed [(name, node)] ++ extras, f.1 ≠ some "status" := by
    intro f hf
    rcases List.mem_append.mp hf with hf | hf
    · obtain rfl := List.mem_singleton.mp hf
      exact fun h => hname (Option.some.inj h)
    · obtain ⟨other, hother, hnot⟩ := (hextras f hf).not_mem ["status"] (by decide)
      exact fun h => hnot (List.mem_singleton.mpr (Option.some.inj (hother.symm.trans h)))
  obtain ⟨others, hsplit, hothers⟩ := splitStatus?_of_perm hfields hrest
  have hsound : (Node.object fields).isSound = (Node.object others).isSound := by
    have hall : fields.Perm ((some "status", .string (some status)) :: others) :=
      hfields.trans (hothers.symm.cons _)
    rw [Node.isSound, Node.isSound, Node.fieldsSound_of_perm hall]
    rfl
  have hroom : (Node.object others).depth ≤ Json.maxDepth := by
    have hfits : Node.fieldsDepth others ≤ 100 := by
      refine Node.fieldsDepth_le fun f hf => ?_
      rcases List.mem_append.mp (hothers.mem_iff.mp hf) with hf | hf
      · obtain rfl := List.mem_singleton.mp hf
        exact hdepth
      · exact (hextras f hf).2.le
    exact (Nat.succ_le_succ hfits).trans (by decide)
  refine ⟨others, extras, hothers, hextras, ?_⟩
  have hvalue := Node.isSome_value? (.object others) Json.maxDepth hroom
  rw [hsound, ← hvalue]
  simp only [ofNode?, hsplit, Option.bind_eq_bind, Option.bind_some]
  cases (Node.object others).value? Json.maxDepth with
  | none => rfl
  | some v => rfl

lemma ofStatus?_value (fields : Node) : ofStatus? "value" fields =
    ((Record.ofNode? ["value"] fields).bind fun r => r.required? "value" Node.float?).map
      .value := by
  cases h : Record.ofNode? ["value"] fields with
  | none => simp [ofStatus?, h]
  | some r => simp [ofStatus?, h, Option.map_eq_bind]

lemma ofStatus?_error (fields : Node) : ofStatus? "error" fields =
    ((Record.ofNode? ["error"] fields).bind fun r => r.required? "error" errorOfNode?).map
      .error := by
  cases h : Record.ofNode? ["error"] fields with
  | none => simp [ofStatus?, h]
  | some r => simp [ofStatus?, h, Option.map_eq_bind]

lemma float?_valueNode (x : Float) : (valueNode x).float?.map .value = (value x).reread := by
  rw [valueNode, reread]
  by_cases hx : x.isFinite = true
  · rw [if_pos hx, if_pos hx]
    cases Json.reread x <;> rfl
  · rw [if_neg hx, if_neg hx]
    rfl

/-- **What is read** from a node that presents an answer, if all of its fields have values. -/
theorem ofNode?_of_presents {r : WorkerReply} {n : Node} (h : r.Presents n) :
    ofNode? n = if n.isSound then r.reread else none := by
  cases r with
  | value x =>
      have hdepth : (valueNode x).depth ≤ 100 := by
        unfold valueNode
        split <;> exact Nat.zero_le 100
      obtain ⟨others, extras, hothers, hextras, hread⟩ := ofNode?_of_hasFields (by decide) hdepth h
      rw [hread, ofStatus?_value, required?_of_perm (by decide) hothers hextras, float?_valueNode]
  | error e =>
      obtain ⟨inner, hinner, h⟩ := h
      have hflat : ∀ f ∈ errorFields e, f.2.depth = 0 := by
        cases e <;> simp [errorFields, Node.depth]
      have hdepth := depth_of_hasFields hinner hflat
      obtain ⟨others, extras, hothers, hextras, hread⟩ := ofNode?_of_hasFields (by decide) hdepth h
      rw [hread, ofStatus?_error, required?_of_perm (by decide) hothers hextras,
        errorOfNode?_of_hasFields hinner]
      rfl

/-! ### Texts of answers -/

/-- A field that stands alone is in the right order, among no others. -/
lemma hasFields_keyed (core : List (String × Node)) : HasFields core (.object (keyed core)) :=
  ⟨keyed core, [], rfl, nofun, by rw [List.append_nil]⟩

lemma ofWritten_errorJson (e : EvalError) :
    Node.ofWritten (errorJson e) = .object (keyed (errorFields e)) := by
  cases e <;> rfl

/-- The node that is written presents the answer. -/
lemma presents_node (r : WorkerReply) : r.Presents (Node.ofWritten r.json) := by
  cases r with
  | value x =>
      have hnode : Node.ofWritten (value x).json =
          .object (keyed [("status", .string (some "value")), ("value", valueNode x)]) := by
        rw [← ofWritten_value]
        rfl
      rw [hnode]
      exact hasFields_keyed _
  | error e =>
      have hnode : Node.ofWritten (error e).json =
        .object (keyed [("status", .string (some "error")),
          ("error", .object (keyed (errorFields e)))]) := by
        rw [← ofWritten_errorJson]
        rfl
      rw [hnode]
      exact ⟨_, hasFields_keyed _, hasFields_keyed _⟩

/-- **What is read** from a text that presents an answer, in whatever layout. -/
theorem ofText?_of_layout {r : WorkerReply} {n : Node} {cs : List Char} (h : r.Presents n)
    (hcs : Layout n.lexemes cs) : ofText? cs = if n.isSound then r.reread else none := by
  rw [ofText?, Node.ofText?_of_layout hcs]
  exact ofNode?_of_presents h

/-- **Answers come through in every layout.** An error that a process reports is read back as it is,
and is the outcome of the calculation. Furthermore an answer is read back from every text that
presents it: with the fields in any order, with any white space, with every lexeme written in any
way, and with any extra fields whose numbers are not too large and whose escapes make up characters.
A text with another extra field is not read at all. Of values this is said only if reading their
digits gives them back. The text that is written is such a text. -/
theorem ofText?_layout :
    (∀ e : EvalError, ofText? (error e).write = some (.error e) ∧
      Worker.outcomeOf ((error e).write ++ ['\n']) 0 = .failure (.ofEvalError e)) ∧
    (∀ r : WorkerReply, (∀ x, r = .value x → x.isFinite = true ∧ Json.reread x = some x) →
      ∀ (n : Node) (cs : List Char), r.Presents n → Layout n.lexemes cs →
        ofText? cs = if n.isSound then some r else none) ∧
    ∀ r : WorkerReply, r.Presents (Node.ofWritten r.json) ∧
      Layout (Node.ofWritten r.json).lexemes r.write := by
  refine ⟨fun e => ⟨ofText?_write (.error e), Worker.outcomeOf_write_eq (.error e)⟩,
    fun r hr n cs hn hcs => ?_, fun r => ⟨presents_node r, layout_write r⟩⟩
  have hreread : r.reread = some r := by
    cases r with
    | value x =>
        obtain ⟨hx, hsame⟩ := hr x rfl
        rw [reread, if_pos hx, hsame, Option.map_some]
    | error e => rfl
  rw [ofText?_of_layout hn hcs, hreread]

/-- An error is read back behind an extra field, with the status at the end. -/
theorem ofText?_layout_of_overflow :
    let n : Node := .object [(some "x", .array [.null]),
      (some "error", .object [(some "kind", .string (some "overflow"))]),
      (some "status", .string (some "error"))]
    let cs :=
      "\x7b \"x\":[null],\"error\":\x7b\"kind\":\"overflow\"\x7d,\"status\":\"error\"\x7d".toList
    (error .overflow).Presents n ∧ Layout n.lexemes cs ∧ n.isSound = true ∧
      ofText? cs = some (.error .overflow) := by
  intro n cs
  have hextra : ∀ f ∈ [(some "x", Node.array [.null])], IsExtra f := by
    intro f hf
    obtain rfl := List.mem_singleton.mp hf
    exact ⟨⟨"x", rfl, by decide⟩, by decide⟩
  have hpresents : (error .overflow).Presents n :=
    ⟨_, hasFields_keyed _, _, _, rfl, hextra, List.reverse_perm [_, _, _]⟩
  have hlayout : Layout n.lexemes cs := by
    have hend := (Layout.single (.mark (c := '\x7d') rfl)).token (.quote "error")
    have hstatus := ((hend.key "status").mark (c := ',') rfl).mark (c := '\x7d') rfl
    have hkind := ((hstatus.token (.quote "overflow")).key "kind").mark (c := '\x7b') rfl
    have herror := ((hkind.key "error").mark (c := ',') rfl).mark (c := ']') rfl
    have hextra := ((herror.token .null).mark (c := '[') rfl).key "x"
    exact (hextra.blanks [' '] (by simp [Json.Blank, Json.isBlank])).mark (c := '\x7b') rfl
  refine ⟨hpresents, hlayout, rfl, ?_⟩
  exact (ofText?_layout.2.1 (.error .overflow) (by simp) n cs hpresents hlayout)

/-- An extra field with a number beyond all numbers keeps an error from being read. -/
theorem ofText?_layout_too_large :
    let n : Node := .object [(some "status", .string (some "error")),
      (some "error", .object [(some "kind", .string (some "overflow"))]), (some "x", .number none)]
    let cs :=
      "\x7b\"status\":\"error\",\"error\":\x7b\"kind\":\"overflow\"\x7d,\"x\":1e999\x7d".toList
    (error .overflow).Presents n ∧ Layout n.lexemes cs ∧ ofText? cs ≠ some (.error .overflow) := by
  intro n cs
  have hextra : ∀ f ∈ [(some "x", Node.number none)], IsExtra f := by
    intro f hf
    obtain rfl := List.mem_singleton.mp hf
    exact ⟨⟨"x", rfl, by decide⟩, by decide⟩
  have hnumber : Json.Lexeme.Written (.leaf (.number none)) "1e999".toList := by
    let numeral : Json.Numeral := ⟨false, ['1'], none, some (false, ['9', '9', '9'])⟩
    have hn : numeral.WellFormed := ⟨⟨nofun, List.all_eq_true.mp rfl⟩, by simp [numeral], nofun, by
      rintro e he
      obtain rfl : (false, ['9', '9', '9']) = e := Option.some.inj he
      exact ⟨nofun, List.all_eq_true.mp rfl⟩⟩
    have hnone : numeral.number? = none := by decide +kernel
    exact hnone ▸ .number hn ⟨_, .bare (.inl rfl) _, rfl⟩
  have hlayout : Layout n.lexemes cs := by
    have hend := (Layout.single (.mark (c := '\x7d') rfl)).token hnumber
    have hx := ((hend.key "x").mark (c := ',') rfl).mark (c := '\x7d') rfl
    have hkind := ((hx.token (.quote "overflow")).key "kind").mark (c := '\x7b') rfl
    have herror := ((hkind.key "error").mark (c := ',') rfl).token (.quote "error")
    exact (herror.key "status").mark (c := '\x7b') rfl
  have hnone : ofText? cs = none := by decide +kernel
  refine ⟨⟨_, hasFields_keyed _, _, _, rfl, hextra, .refl _⟩, hlayout, ?_⟩
  rw [hnone]
  exact nofun

end WorkerReply

end ChatBot.Calculator
