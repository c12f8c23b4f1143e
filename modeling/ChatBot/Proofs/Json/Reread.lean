import ChatBot.Proofs.Json.Real
import ChatBot.Proofs.Json.Text

/-!
What is read back from the text of a value.

* `Number.reread`: the number that is read back from the text of a number, and
  `Number.IsExact`: it is the same one. Whole numbers of 64 bits are exact, and other numbers
  if `isExact_real_iff` says so;
* `Reads cs ls lost`: the text `cs` has the lexemes `ls`, unless it cannot be read. Only the texts
  of infinities and of what is no number cannot;
* `Node.ofWritten`: the node of the text of a value. `ofText?_pretty_eq` says that what is read back
  is what this node stands for;
* `ofText?_pretty_iff`: the value itself is read back exactly if its numbers are
  exact and there is room enough.
-/

namespace ChatBot

namespace Json

open Lexeme (scan? first? ofChar?)
open ChatBot.Binary64 (parts)

/-! ### Numbers -/

/-- The number that is read back from the text of a number. -/
def Number.reread (x : Number) : Option Number :=
  match Numeral.read? x.text with
  | some (n, []) => n.number?
  | _ => none

/-- The number is read back from its text. -/
def Number.IsExact (x : Number) : Prop := x.reread = some x

/-- What is read back is what the numeral stands for. -/
lemma Number.reread_eq {x : Number} {n : Numeral} (hn : n.WellFormed) (h : x.text = n.text) :
    x.reread = n.number? := by
  have hread := Numeral.read?_text hn EndsNumeral.nil
  rw [List.append_nil] at hread
  rw [reread, h, hread]

/-- The number is a whole one that 64 bits hold, with or without sign. -/
def Number.IsWhole64 : Number → Prop
  | .integer n => -2 ^ 63 ≤ n ∧ n < 2 ^ 64
  | .real _ => False

lemma Number.IsWhole64.isExact {x : Number} (h : x.IsWhole64) : x.IsExact := by
  cases x with
  | integer n =>
      rw [IsExact, reread_eq (Numeral.wellFormed_ofInt n) (Number.text_integer n)]
      exact Numeral.number?_ofInt h.1 h.2
  | real x => exact h.elim

/-- **Exact numbers**: a finite number is exact if and only if it is the one that
comes of reading its digits. -/
theorem Number.isExact_real_iff {x : Float} (hx : x.isFinite = true) :
    (Number.real x).IsExact ↔ Json.reread x = some x := by
  obtain ⟨n, hn, htext, hvalue⟩ := exists_numeral_of_isFinite hx
  rw [IsExact, reread_eq hn htext, hvalue]
  cases Json.reread x with
  | none => simp
  | some y => simp

/-! ### Texts that cannot be read -/

/-- The text `cs` has the lexemes `ls`, in front of every text that does not go on with a number, or
else it cannot be read in front of any, and then `lost` holds. -/
def Reads (cs : List Char) (ls : List Lexeme) (lost : Prop) : Prop :=
  Spells cs ls ∨ lost ∧ ∀ rest, EndsNumeral rest → scan? (cs ++ rest) = none

namespace Reads

variable {cs ds : List Char} {ls ms : List Lexeme} {p q : Prop}

lemma imp (h : Reads cs ls p) (hpq : p → q) : Reads cs ls q :=
  h.imp_right fun ⟨hp, hcs⟩ => ⟨hpq hp, hcs⟩

lemma append (h : Reads cs ls p) (h' : Reads ds ms q) (hd : EndsNumeral ds) :
    Reads (cs ++ ds) (ls ++ ms) (p ∨ q) := by
  rcases h with h | ⟨hp, hcs⟩
  · rcases h' with h' | ⟨hq, hds⟩
    · exact .inl (h.append h' hd)
    · refine .inr ⟨.inr hq, fun rest hrest => ?_⟩
      rw [List.append_assoc, h _ (hd.append hrest), hds rest hrest]
      rfl
  · refine .inr ⟨.inl hp, fun rest hrest => ?_⟩
    rw [List.append_assoc]
    exact hcs _ (hd.append hrest)

lemma prepend (h : Opens cs ls) (h' : Reads ds ms q) : Reads (cs ++ ds) (ls ++ ms) q := by
  rcases h' with h' | ⟨hq, hds⟩
  · exact .inl (h'.prepend h)
  · refine .inr ⟨hq, fun rest hrest => ?_⟩
    rw [List.append_assoc, h, hds rest hrest]
    rfl

/-- What follows can be read. -/
lemma close (h : Reads cs ls p) (h' : Opens ds ms) (hd : EndsNumeral ds) :
    Reads (cs ++ ds) (ls ++ ms) p :=
  (h.append (q := False) (.inl h'.spells) hd).imp fun hor => hor.resolve_right id

end Reads

/-- A number has the lexeme of what is read back, unless it is an infinity or no number at all:
their texts cannot be read. -/
lemma Number.reads (x : Number) : Reads x.text [.leaf (.number x.reread)] (x.reread = none) := by
  cases x with
  | integer n =>
      rw [reread_eq (Numeral.wellFormed_ofInt n) (text_integer n), text_integer]
      exact .inl (Spells.numeral (Numeral.wellFormed_ofInt n))
  | real x =>
      cases hparts : parts x with
      | finite negative m e =>
          obtain ⟨hm, hlow, hhigh⟩ := Binary64.parts_bounds hparts
          have hn : (Numeral.ofFinite negative m e).WellFormed :=
            Numeral.wellFormed_ofFinite hm hlow hhigh
          rw [reread_eq hn (Numeral.text_real hparts), Numeral.text_real hparts]
          exact .inl (Spells.numeral hn)
      | notANumber =>
          have htext : (Number.real x).text = "NaN".toList := by
            simp only [text, Binary64.Layout.write, hparts]
          rw [reread, htext]
          exact .inr ⟨rfl, fun rest _ => scan?_eq_none rfl rfl⟩
      | infinite negative =>
          have htext : (Number.real x).text = if negative then "-inf".toList else "inf".toList := by
            simp only [text, Binary64.Layout.write, hparts]
          rw [reread, htext]
          cases negative with
          | false => exact .inr ⟨rfl, fun rest _ => scan?_eq_none rfl rfl⟩
          | true => exact .inr ⟨rfl, fun rest _ => scan?_eq_none rfl rfl⟩

/-! ### Values -/

namespace Node

mutual

/-- The node of the text of a value: its numbers are those that are read back. -/
def ofWritten : Json → Node
  | .null => .null
  | .bool b => .bool b
  | .number x => .number x.reread
  | .string s => .string (some s)
  | .array items => .array (ofWrittenItems items)
  | .object fields => .object (ofWrittenFields fields)

/-- The nodes of the items of an array. -/
def ofWrittenItems : List Json → List Node
  | [] => []
  | item :: rest => ofWritten item :: ofWrittenItems rest

/-- The nodes of the fields of an object. -/
def ofWrittenFields : List (String × Json) → List (Option String × Node)
  | [] => []
  | (key, value) :: rest => (some key, ofWritten value) :: ofWrittenFields rest

end

/-- The node has no value, whatever room there is. -/
def IsLost (n : Node) : Prop := ∀ room, n.value? room = none

/-- One of the items has no value. -/
def AreLost (items : List Node) : Prop := ∀ room, values? room items = none

/-- One of the fields has no value. -/
def FieldsLost (fields : List (Option String × Node)) : Prop :=
  ∀ room done, fields? room done fields = none

lemma AreLost.cons {n : Node} {rest : List Node} (h : n.IsLost ∨ AreLost rest) :
    AreLost (n :: rest) := by
  intro room
  rcases h with h | h
  · simp [values?, h room]
  · cases hn : n.value? room with
    | none => simp [values?, hn]
    | some v => simp [values?, hn, h room]

lemma FieldsLost.cons (key : String) {n : Node} {rest : List (Option String × Node)}
    (h : n.IsLost ∨ FieldsLost rest) : FieldsLost ((some key, n) :: rest) := by
  intro room done
  rcases h with h | h
  · simp [fields?, h room]
  · cases hn : n.value? room with
    | none => simp [fields?, hn]
    | some v => simp [fields?, hn, h room]

lemma AreLost.array {items : List Node} (h : AreLost items) : (Node.array items).IsLost := by
  intro room
  rw [value?, h]
  exact ite_self none

lemma FieldsLost.object {fields : List (Option String × Node)} (h : FieldsLost fields) :
    (Node.object fields).IsLost := by
  intro room
  rw [value?, h]
  exact ite_self none

end Node

lemma reads_prettyItems {level : ℕ} {items : List Json}
    (ih : ∀ v ∈ items, Reads (v.prettyAt level) (Node.ofWritten v).lexemes
      (Node.ofWritten v).IsLost) :
    Reads (prettyItems level items) (Node.itemLexemes (Node.ofWrittenItems items))
      (Node.AreLost (Node.ofWrittenItems items)) := by
  induction items with
  | nil => exact .inl .nil
  | cons v rest ihrest =>
      have hv := ih v List.mem_cons_self
      have hrest := ihrest fun w hw => ih w (List.mem_cons_of_mem _ hw)
      rcases rest with _ | ⟨w, rest⟩
      · exact (hv.prepend (Opens.newLine level)).imp fun hlost => .cons (.inl hlost)
      · have hcomma := hrest.prepend (Opens.mark (c := ',') rfl rfl)
        have hall := ((hv.append hcomma (EndsNumeral.cons (by decide))).prepend
          (Opens.newLine level)).imp Node.AreLost.cons
        simpa [prettyItems, Node.ofWrittenItems, Node.itemLexemes] using hall

lemma reads_prettyFields {level : ℕ} {fields : Fields}
    (ih : ∀ f ∈ fields,
      Reads (f.2.prettyAt level) (Node.ofWritten f.2).lexemes (Node.ofWritten f.2).IsLost) :
    Reads (prettyFields level fields) (Node.fieldLexemes (Node.ofWrittenFields fields))
      (Node.FieldsLost (Node.ofWrittenFields fields)) := by
  induction fields with
  | nil => exact .inl .nil
  | cons f rest ihrest =>
      obtain ⟨key, v⟩ := f
      have hv := (ih (key, v) List.mem_cons_self).prepend (Opens.key key)
      have hrest := ihrest fun g hg => ih g (List.mem_cons_of_mem _ hg)
      rcases rest with _ | ⟨g, rest⟩
      · have hall := (hv.prepend (Opens.newLine level)).imp fun hlost =>
          show Node.FieldsLost [(some key, Node.ofWritten v)] from .cons key (.inl hlost)
        simpa [prettyFields, Node.ofWrittenFields, Node.fieldLexemes] using hall
      · have hcomma := hrest.prepend (Opens.mark (c := ',') rfl rfl)
        have hall := ((hv.append hcomma (EndsNumeral.cons (by decide))).prepend
          (Opens.newLine level)).imp (Node.FieldsLost.cons key)
        simpa [prettyFields, Node.ofWrittenFields, Node.fieldLexemes] using hall

/-- The text of a value has the lexemes of its node, or it cannot be read
and its node has no value. -/
lemma reads_prettyAt (v : Json) :
    ∀ level, Reads (v.prettyAt level) (Node.ofWritten v).lexemes (Node.ofWritten v).IsLost := by
  induction v using induct with
  | null => exact fun _ => .inl .null
  | bool b => exact fun _ => .inl (.bool b)
  | number x =>
      refine fun _ => x.reads.imp fun hlost room => ?_
      simp [Node.ofWritten, Node.value?, hlost]
  | string s => exact fun _ => .inl (.quote s)
  | array items ih =>
      intro level
      have hend := (Opens.newLine level).append (Opens.mark (c := ']') rfl rfl)
      have hitems := ((reads_prettyItems fun v hv => ih v hv (level + 1)).close hend
        (endsNumeral_newLine _ _)).prepend (Opens.mark (c := '[') rfl rfl)
      rcases items with _ | ⟨v, items⟩
      · exact .inl (Spells.nil.mark rfl rfl |>.mark rfl rfl)
      · simpa [prettyAt, Node.ofWritten, Node.lexemes] using hitems.imp Node.AreLost.array
  | object fields ih =>
      intro level
      have hend := (Opens.newLine level).append (Opens.mark (c := braceClose) rfl rfl)
      have hfields := ((reads_prettyFields fun f hf => ih f hf (level + 1)).close hend
        (endsNumeral_newLine _ _)).prepend (Opens.mark (c := braceOpen) rfl rfl)
      rcases fields with _ | ⟨f, fields⟩
      · exact .inl (Spells.nil.mark rfl rfl |>.mark rfl rfl)
      · simpa [prettyAt, Node.ofWritten, Node.lexemes] using hfields.imp Node.FieldsLost.object

/-- What is read back from the text of a value is what its node stands for. -/
theorem ofText?_pretty_eq (v : Json) : ofText? v.pretty = (Node.ofWritten v).value? maxDepth := by
  have hnil : scan? [] = some [] := by rw [scan?]
  rcases reads_prettyAt v 0 with hspells | ⟨hlost, hnone⟩
  · have hscan := hspells [] EndsNumeral.nil
    rw [List.append_nil, hnil] at hscan
    have hsteps : (Node.ofWritten v).lexemes.foldlM State.step? (.due []) =
        some (.read (Node.ofWritten v) []) := (Node.ofWritten v).leads []
    simp [ofText?, pretty, Node.ofText?, hscan, Node.ofLexemes?, hsteps, State.result?]
  · have hscan := hnone [] EndsNumeral.nil
    rw [List.append_nil] at hscan
    simp [ofText?, pretty, Node.ofText?, hscan, hlost maxDepth]

/-! ### Values that are read back -/

namespace Node

/-- Exact numbers are written as they are. -/
lemma ofWritten_eq_ofValue {room : ℕ} {v : Json} (h : v.Within Number.IsExact room) :
    ofWritten v = ofValue v := by
  induction h with
  | null | bool | string => rfl
  | number hx => exact congrArg Node.number hx
  | @array room items _ ih =>
      have hitems : ∀ vs : List Json, (∀ v ∈ vs, ofWritten v = ofValue v) →
          ofWrittenItems vs = ofValues vs := by
        intro vs
        induction vs with
        | nil => exact fun _ => rfl
        | cons v rest ihrest =>
            intro hvs
            rw [ofWrittenItems, ofValues, hvs v List.mem_cons_self,
              ihrest fun w hw => hvs w (List.mem_cons_of_mem _ hw)]
      exact congrArg Node.array (hitems items ih)
  | @object room fields _ ih =>
      have hfields : ∀ fs : Fields, (∀ f ∈ fs, ofWritten f.2 = ofValue f.2) →
          ofWrittenFields fs = ofFields fs := by
        intro fs
        induction fs with
        | nil => exact fun _ => rfl
        | cons f rest ihrest =>
            intro hfs
            rw [ofWrittenFields, ofFields, hfs f List.mem_cons_self,
              ihrest fun g hg => hfs g (List.mem_cons_of_mem _ hg)]
      exact congrArg Node.object (hfields fields ih)

/-- Items that are read back are so one by one. -/
lemma forall_of_values? {room : ℕ} {items : List Json}
    (h : values? room (ofWrittenItems items) = some items) :
    ∀ v ∈ items, (ofWritten v).value? room = some v := by
  induction items with
  | nil => simp
  | cons v rest ih =>
      simp only [ofWrittenItems, values?, Option.bind_eq_bind, Option.bind_eq_some_iff,
        Option.pure_def, Option.some.injEq] at h
      obtain ⟨w, hw, ws, hws, heq⟩ := h
      obtain ⟨rfl, rfl⟩ := List.cons.inj heq
      intro u hu
      rcases List.mem_cons.mp hu with rfl | hu
      · exact hw
      · exact ih hws u hu

/-- Fields behind those that are there are put at the end, each with what stands for it. -/
lemma exists_of_fields? {room : ℕ} {done fields out : Fields}
    (ha : Fields.Ascending (done ++ fields))
    (h : fields? room done (ofWrittenFields fields) = some out) :
    ∃ rest, out = done ++ rest ∧
      List.Forall₂ (fun f g => (ofWritten f.2).value? room = some g.2) fields rest := by
  induction fields generalizing done with
  | nil =>
      obtain rfl : done = out := by simpa [ofWrittenFields, fields?] using h
      exact ⟨[], by simp, .nil⟩
  | cons f rest ih =>
      obtain ⟨key, v⟩ := f
      simp only [ofWrittenFields, fields?, Option.bind_eq_bind, Option.bind_some,
        Option.bind_eq_some_iff] at h
      obtain ⟨w, hw, hrest⟩ := h
      have hlast : ∀ g ∈ done, g.1 < key := fun g hg =>
        (List.pairwise_append.mp ha).2.2 g hg (key, v) List.mem_cons_self
      rw [Fields.insert_of_forall_lt hlast] at hrest
      -- only the keys count for the order
      have ha' : Fields.Ascending (done ++ [(key, w)] ++ rest) := by
        unfold Fields.Ascending at ha ⊢
        rw [← List.pairwise_map (f := Prod.fst) (R := (· < ·))] at ha ⊢
        simpa using ha
      obtain ⟨others, rfl, hothers⟩ := ih ha' hrest
      exact ⟨(key, w) :: others, by simp, .cons hw hothers⟩

/-- A value is read back by its node only if its numbers are exact and there is room for it. -/
lemma within_of_value? (v : Json) :
    ∀ room, v.Ordered → (ofWritten v).value? room = some v → v.Within Number.IsExact room := by
  induction v using Json.induct with
  | null => exact fun _ _ _ => .null
  | bool b => exact fun _ _ _ => .bool b
  | number x =>
      intro room _ h
      obtain ⟨y, hy, heq⟩ := Option.map_eq_some_iff.mp h
      obtain rfl := Json.number.inj heq
      exact .number hy
  | string s => exact fun _ _ _ => .string s
  | array items ih =>
      intro room ho h
      cases ho with
      | array ho =>
          rw [ofWritten, value?] at h
          split at h
          · cases h
          · next hroom =>
            obtain ⟨n, rfl⟩ := Nat.exists_eq_succ_of_ne_zero hroom
            obtain ⟨vs, hvs, heq⟩ := Option.map_eq_some_iff.mp h
            obtain rfl := Json.array.inj heq
            have hall := forall_of_values? hvs
            exact .array fun v hv => ih v hv n (ho v hv) (hall v hv)
  | object fields ih =>
      intro room ho h
      cases ho with
      | object ha ho =>
          rw [ofWritten, value?] at h
          split at h
          · cases h
          · next hroom =>
            obtain ⟨n, rfl⟩ := Nat.exists_eq_succ_of_ne_zero hroom
            obtain ⟨fs, hfs, heq⟩ := Option.map_eq_some_iff.mp h
            obtain rfl := Json.object.inj heq
            have hall : Fields.Ascending ([] ++ _) := ha
            obtain ⟨rest, heq, hrest⟩ := exists_of_fields? hall hfs
            obtain rfl : fs = rest := heq
            exact .object fun f hf => ih f hf n (ho f hf) (List.forall₂_same.mp hrest f hf)

end Node

/-- **Reading back**: a value in order is read back from its text exactly if its numbers are, and
its arrays and objects do not enclose one another too often. -/
theorem ofText?_pretty_iff {v : Json} (ho : v.Ordered) :
    ofText? v.pretty = some v ↔ v.Within Number.IsExact maxDepth := by
  rw [ofText?_pretty_eq]
  refine ⟨Node.within_of_value? v maxDepth ho, fun h => ?_⟩
  rw [Node.ofWritten_eq_ofValue h]
  exact Node.value?_ofValue h ho

end Json

end ChatBot
