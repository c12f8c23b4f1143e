import ChatBot.Proofs.Json.Reread

/-!
Texts of JSON in every layout.

* `Lexeme.Written`: the ways in which a lexeme may be written;
* `Layout ls cs`: the text `cs` has the lexemes `ls`, with white space around them;
* `Node.ofText?_of_layout`: every layout of the lexemes of a node is read as the node;
* `layout_compact`: the text without any blank is a layout;
* `Node.depth`, `Node.isSound`: how deep the arrays and objects of a node are nested, and
  whether all that is in it has a value. `Node.isSome_value?` says that nothing else is
  asked for, if there is room.
-/

namespace ChatBot

namespace Json

open Lexeme (scan? first? ofChar?)

/-! ### Layouts -/

namespace Lexeme

/-- The ways in which a lexeme may be written. -/
inductive Written : Lexeme → List Char → Prop
  | mark {c : Char} {l : Lexeme} (h : ofChar? c = some l) : Written l [c]
  | null : Written (.leaf .null) "null".toList
  | bool (b : Bool) : Written (.leaf (.bool b)) (if b then "true".toList else "false".toList)
  | number {n : Numeral} {cs : List Char} (hn : n.WellFormed) (h : n.Written cs) :
      Written (.leaf (.number n.number?)) cs
  | string {ps : List Piece} {cs : List Char} (h : Quoted ps cs) :
      Written (.leaf (.string ((characters? ps).map String.ofList))) ('"' :: cs ++ ['"'])

/-- The quoted form of a text is one of them. -/
lemma Written.quote (s : String) : Written (.leaf (.string (some s))) (Json.quote s) := by
  obtain ⟨ps, cs, hquote, hquoted, hvalue⟩ := exists_quote_eq s
  exact hquote ▸ hvalue ▸ .string hquoted

/-- The lexeme is a value. -/
def isLeaf : Lexeme → Bool
  | .leaf _ => true
  | _ => false

/-- The characters that are lexemes by themselves. -/
lemma ofChar?_spec {c : Char} {l : Lexeme} (h : ofChar? c = some l) :
    l.isLeaf = false ∧ isBlank c = false ∧ Text.isDigit c = false ∧ c ≠ '.' ∧ c ≠ 'e' ∧
    c ≠ 'E' := by
  have hmarks : c = '[' ∨ c = ']' ∨ c = '\x7b' ∨ c = '\x7d' ∨ c = ',' ∨ c = ':' := by
    by_contra hnone
    simp only [not_or] at hnone
    simp [ofChar?, hnone] at h
  rcases hmarks with rfl | rfl | rfl | rfl | rfl | rfl
  all_goals
    obtain rfl := Option.some.inj h
    decide

end Lexeme

/-- White space, and nothing else. -/
def Blank (ws : List Char) : Prop := ∀ c ∈ ws, isBlank c = true

/-- The text `cs` has the lexemes `ls`, with white space around them. -/
inductive Layout : List Lexeme → List Char → Prop
  | nil {ws : List Char} (hws : Blank ws) : Layout [] ws
  | cons {ws token cs : List Char} {l : Lexeme} {ls : List Lexeme} (hws : Blank ws)
      (htoken : l.Written token) (h : Layout ls cs) : Layout (l :: ls) (ws ++ token ++ cs)

/-- No value stands right behind another one. -/
def Separated : List Lexeme → Prop
  | [] => True
  | l :: ls => (l.isLeaf = true → ∀ m ∈ ls.head?, m.isLeaf = false) ∧ Separated ls

lemma Separated.mark {l : Lexeme} {ls : List Lexeme} (h : Separated ls) (hl : l.isLeaf = false) :
    Separated (l :: ls) :=
  ⟨fun hleaf => absurd (hl.symm.trans hleaf) Bool.false_ne_true, h⟩

lemma Separated.leaf {node : Node} {ls : List Lexeme} (h : Separated ls)
    (hfirst : ∀ l ∈ ls.head?, l.isLeaf = false) : Separated (.leaf node :: ls) :=
    ⟨fun _ => hfirst, h⟩

/-- The head of a list with a mark in front is no value. -/
lemma isLeaf_head?_cons {l : Lexeme} (hl : l.isLeaf = false) (ls : List Lexeme) :
    ∀ m ∈ (l :: ls).head?, m.isLeaf = false := by
  intro m hm
  rw [← Option.some.inj hm]
  exact hl

lemma scan?_blanks {ws : List Char} (hws : Blank ws) (cs : List Char) :
    scan? (ws ++ cs) = scan? cs := by
  induction ws with
  | nil => rfl
  | cons c ws ih =>
      rw [List.cons_append, scan?_blank (hws c List.mem_cons_self)]
      exact ih fun d hd => hws d (List.mem_cons_of_mem c hd)

lemma Blank.endsNumeral {ws : List Char} (hws : Blank ws) {cs : List Char} (hcs : EndsNumeral cs) :
    EndsNumeral (ws ++ cs) := by
  rcases ws with _ | ⟨c, ws⟩
  · exact hcs
  · have hc := hws c List.mem_cons_self
    simp only [isBlank, Bool.or_eq_true, beq_iff_eq] at hc
    refine EndsNumeral.cons ?_
    rcases hc with ((rfl | rfl) | rfl) | rfl
    all_goals decide

/-- What is written for a lexeme is read as the lexeme. -/
lemma Lexeme.Written.spells {l : Lexeme} {token : List Char} (h : l.Written token) :
    Spells token [l] := by
  cases h with
  | mark h => exact (Opens.mark h (ofChar?_spec h).2.1).spells
  | null => exact Spells.null
  | bool b => exact Spells.bool b
  | number hn h => exact Spells.written hn h
  | string h => exact (Opens.quoted h).spells

/-- What is written for a lexeme that is no value is read so whatever follows. -/
lemma Lexeme.Written.opens {l : Lexeme} {token : List Char} (h : l.Written token)
    (hl : l.isLeaf = false) : Opens token [l] := by
  cases h with
  | mark h => exact Opens.mark h (ofChar?_spec h).2.1
  | null | bool | number | string => exact nomatch hl

namespace Layout

variable {ls ms : List Lexeme} {cs ds : List Char}

/-- A layout does not start in the middle of a number, if no value comes first. -/
lemma endsNumeral (h : Layout ls cs) (hfirst : ∀ l ∈ ls.head?, l.isLeaf = false) :
    EndsNumeral cs := by
  cases h with
  | nil hws => exact List.append_nil cs ▸ hws.endsNumeral EndsNumeral.nil
  | cons hws htoken h =>
      have hl := hfirst _ rfl
      rw [List.append_assoc]
      refine hws.endsNumeral ?_
      cases htoken with
      | mark hmark => exact EndsNumeral.cons (Lexeme.ofChar?_spec hmark).2.2
      | null | bool | number | string => exact nomatch hl

/-- The lexemes of a layout are those that it was made of. -/
theorem scan?_eq (h : Layout ls cs) (hsep : Separated ls) : scan? cs = some ls := by
  induction h with
  | @nil ws hws => rw [← List.append_nil ws, scan?_blanks hws, scan?]
  | @cons ws token cs l ls hws htoken h ih =>
      obtain ⟨hfirst, hrest⟩ := hsep
      rw [List.append_assoc, scan?_blanks hws]
      have hread : scan? (token ++ cs) = (scan? cs).map ([l] ++ ·) := by
        cases hl : l.isLeaf with
        | false => exact htoken.opens hl cs
        | true => exact htoken.spells cs (h.endsNumeral (hfirst hl))
      rw [hread, ih hrest]
      rfl

lemma blanks (h : Layout ls cs) (ws : List Char) (hws : Blank ws) : Layout ls (ws ++ cs) := by
  have hboth : ∀ us : List Char, Blank us → Blank (ws ++ us) := fun us hus c hc =>
    (List.mem_append.mp hc).elim (hws c) (hus c)
  cases h with
  | nil hus => exact .nil (hboth _ hus)
  | @cons us token cs l ls hus htoken h =>
      rw [← List.append_assoc, ← List.append_assoc]
      exact .cons (hboth us hus) htoken h

lemma append (h : Layout ls cs) (h' : Layout ms ds) : Layout (ls ++ ms) (cs ++ ds) := by
  induction h with
  | nil hws => exact h'.blanks _ hws
  | cons hws htoken _ ih =>
      rw [List.append_assoc]
      exact .cons hws htoken ih

/-- A lexeme without white space in front. -/
lemma token {l : Lexeme} {token : List Char} (htoken : l.Written token) (h : Layout ls cs) :
    Layout (l :: ls) (token ++ cs) := by
  have hnone : Blank [] := nofun
  exact .cons hnone htoken h

lemma mark {c : Char} {l : Lexeme} (hc : ofChar? c = some l) (h : Layout ls cs) :
    Layout (l :: ls) (c :: cs) := h.token (.mark hc)

/-- A key, in front of its value. -/
lemma key (key : String) (h : Layout ls cs) :
    Layout (.leaf (.string (some key)) :: .colon :: ls) (quote key ++ ':' :: cs) :=
  (h.mark (c := ':') rfl).token (.quote key)

lemma single {l : Lexeme} {token : List Char} (htoken : l.Written token) : Layout [l] token := by
  have hnil : Layout [] [] := .nil nofun
  have h := hnil.token htoken
  rwa [List.append_nil] at h

end Layout

/-! ### Layouts of nodes -/

lemma separated_items {items : List Node}
    (ih : ∀ n ∈ items, ∀ ls, Separated ls → (∀ l ∈ ls.head?, l.isLeaf = false) →
      Separated (n.lexemes ++ ls))
    (ls : List Lexeme) (hsep : Separated ls) (hfirst : ∀ l ∈ ls.head?, l.isLeaf = false) :
    Separated (Node.itemLexemes items ++ ls) := by
  induction items with
  | nil => exact hsep
  | cons n rest ihrest =>
      have hn := ih n List.mem_cons_self
      rcases rest with _ | ⟨m, rest⟩
      · exact hn ls hsep hfirst
      · have hrest := ihrest fun u hu => ih u (List.mem_cons_of_mem n hu)
        rw [Node.itemLexemes_cons_cons, List.append_assoc]
        exact hn _ (hrest.mark rfl) (isLeaf_head?_cons rfl _)

lemma separated_fields {fields : List (Option String × Node)}
    (ih : ∀ f ∈ fields, ∀ ls, Separated ls → (∀ l ∈ ls.head?, l.isLeaf = false) →
      Separated (f.2.lexemes ++ ls))
    (ls : List Lexeme) (hsep : Separated ls) (hfirst : ∀ l ∈ ls.head?, l.isLeaf = false) :
    Separated (Node.fieldLexemes fields ++ ls) := by
  induction fields with
  | nil => exact hsep
  | cons f rest ihrest =>
      obtain ⟨key, n⟩ := f
      have hn := ih (key, n) List.mem_cons_self
      have hkey : ∀ {ms}, Separated ms → Separated (.leaf (.string key) :: .colon :: ms) :=
        fun hms => (hms.mark rfl).leaf (isLeaf_head?_cons rfl _)
      rcases rest with _ | ⟨g, rest⟩
      · exact hkey (hn ls hsep hfirst)
      · have hrest := ihrest fun h hh => ih h (List.mem_cons_of_mem _ hh)
        have hall := hkey (hn _ (hrest.mark (l := .comma) rfl) (isLeaf_head?_cons rfl _))
        simpa [Node.fieldLexemes] using hall

namespace Node

/-- No value stands right behind another one in a node. -/
lemma separated (n : Node) : ∀ ls : List Lexeme, Separated ls →
    (∀ l ∈ ls.head?, l.isLeaf = false) → Separated (n.lexemes ++ ls) := by
  induction n using Node.induct with
  | null | bool | number | string => exact fun _ hsep hfirst => hsep.leaf hfirst
  | array items ih =>
      intro ls hsep hfirst
      have hitems := separated_items ih _ (hsep.mark rfl)
        (isLeaf_head?_cons (l := .bracketClose) rfl ls)
      rw [lexemes, List.cons_append, List.cons_append, List.append_assoc]
      exact hitems.mark rfl
  | object fields ih =>
      intro ls hsep hfirst
      have hfields := separated_fields ih _ (hsep.mark rfl)
        (isLeaf_head?_cons (l := .braceClose) rfl ls)
      rw [lexemes, List.cons_append, List.cons_append, List.append_assoc]
      exact hfields.mark rfl

/-- **Every layout** of the lexemes of a node is read as the node. -/
theorem ofText?_of_layout {n : Node} {cs : List Char} (h : Layout n.lexemes cs) :
    ofText? cs = some n := by
  have hsep : Separated n.lexemes := List.append_nil n.lexemes ▸ n.separated [] trivial nofun
  have hsteps : n.lexemes.foldlM State.step? (.due []) = some (.read n []) := n.leads []
  rw [ofText?, h.scan?_eq hsep]
  simp only [ofLexemes?, hsteps, Option.bind_eq_bind, Option.bind_some, State.result?]

end Node

/-! ### The text without blanks -/

/-- The text of the number is that of a numeral. -/
def Number.HasNumeral (x : Number) : Prop := ∃ n : Numeral, n.WellFormed ∧ x.text = n.text

lemma Number.HasNumeral.written {x : Number} (hx : x.HasNumeral) :
    Lexeme.Written (.leaf (.number x.reread)) x.text := by
  obtain ⟨n, hn, htext⟩ := hx
  rw [reread_eq hn htext, htext]
  exact .number hn n.written_text

lemma layout_compactItems {items : List Json}
    (ih : ∀ v ∈ items, Layout (Node.ofWritten v).lexemes v.compact) :
    Layout (Node.itemLexemes (Node.ofWrittenItems items)) (compactItems items) := by
  induction items with
  | nil => exact .nil nofun
  | cons v rest ihrest =>
      have hv := ih v List.mem_cons_self
      have hrest := ihrest fun w hw => ih w (List.mem_cons_of_mem v hw)
      rcases rest with _ | ⟨w, rest⟩
      · exact hv
      · have hall := hv.append (hrest.mark (c := ',') rfl)
        simpa [compactItems, Node.ofWrittenItems, Node.itemLexemes] using hall

lemma layout_compactFields {fields : Fields}
    (ih : ∀ f ∈ fields, Layout (Node.ofWritten f.2).lexemes f.2.compact) :
    Layout (Node.fieldLexemes (Node.ofWrittenFields fields)) (compactFields fields) := by
  induction fields with
  | nil => exact .nil nofun
  | cons f rest ihrest =>
      obtain ⟨key, v⟩ := f
      have hv := ih (key, v) List.mem_cons_self
      have hrest := ihrest fun g hg => ih g (List.mem_cons_of_mem _ hg)
      rcases rest with _ | ⟨g, rest⟩
      · exact hv.key key
      · have hall := (hv.append (hrest.mark (c := ',') rfl)).key key
        simpa [compactFields, Node.ofWrittenFields, Node.fieldLexemes] using hall

/-- The text of a value without blanks is a layout, if its numbers are written as numerals. -/
theorem layout_compact {room : ℕ} {v : Json} (h : v.Within Number.HasNumeral room) :
    Layout (Node.ofWritten v).lexemes v.compact := by
  induction h with
  | null => exact .single .null
  | bool b => exact .single (.bool b)
  | number hx => exact .single hx.written
  | string s => exact .single (.quote s)
  | @array room items _ ih =>
      have hend : Layout [.bracketClose] [']'] := .single (.mark rfl)
      have hall := ((layout_compactItems ih).append hend).mark (c := '[') rfl
      simpa [compact, Node.ofWritten, Node.lexemes] using hall
  | @object room fields _ ih =>
      have hend : Layout [.braceClose] [braceClose] := .single (.mark rfl)
      have hall := ((layout_compactFields ih).append hend).mark (c := braceOpen) rfl
      simpa [compact, Node.ofWritten, Node.lexemes] using hall

/-! ### Values of nodes -/

namespace Node

mutual

/-- How deep arrays and objects are nested. -/
def depth : Node → ℕ
  | .array items => itemsDepth items + 1
  | .object fields => fieldsDepth fields + 1
  | _ => 0

/-- How deep the items of an array are nested. -/
def itemsDepth : List Node → ℕ
  | [] => 0
  | item :: rest => max (depth item) (itemsDepth rest)

/-- How deep the fields of an object are nested. -/
def fieldsDepth : List (Option String × Node) → ℕ
  | [] => 0
  | (_, node) :: rest => max (depth node) (fieldsDepth rest)

end

mutual

/-- All numbers, texts and keys in the node have values: no number is too large, and all
escapes make up characters. -/
def isSound : Node → Bool
  | .number n => n.isSome
  | .string s => s.isSome
  | .array items => areSound items
  | .object fields => fieldsSound fields
  | _ => true

/-- All items of an array are sound. -/
def areSound : List Node → Bool
  | [] => true
  | item :: rest => isSound item && areSound rest

/-- All fields of an object are sound. -/
def fieldsSound : List (Option String × Node) → Bool
  | [] => true
  | (key, node) :: rest => key.isSome && isSound node && fieldsSound rest

end

lemma fieldsDepth_le {fields : List (Option String × Node)} {room : ℕ}
    (h : ∀ f ∈ fields, f.2.depth ≤ room) : fieldsDepth fields ≤ room := by
  induction fields with
  | nil => exact Nat.zero_le room
  | cons f rest ih =>
      exact max_le (h f List.mem_cons_self) (ih fun g hg => h g (List.mem_cons_of_mem f hg))

lemma fieldsSound_eq (fields : List (Option String × Node)) :
    fieldsSound fields = fields.all fun f => f.1.isSome && f.2.isSound := by
  induction fields with
  | nil => rfl
  | cons f rest ih => rw [fieldsSound, ih, List.all_cons]

lemma fieldsSound_of_perm {fields others : List (Option String × Node)} (h : fields.Perm others) :
    fieldsSound fields = fieldsSound others := by
  rw [fieldsSound_eq, fieldsSound_eq, h.all_eq]

lemma isSome_values? {items : List Node} {room : ℕ}
    (ih : ∀ n ∈ items, ∀ room, n.depth ≤ room → (n.value? room).isSome = n.isSound)
    (hroom : itemsDepth items ≤ room) : (values? room items).isSome = areSound items := by
  induction items with
  | nil => rfl
  | cons n rest ihrest =>
      have hn := ih n List.mem_cons_self room ((le_max_left _ _).trans hroom)
      have hrest := ihrest (fun m hm => ih m (List.mem_cons_of_mem n hm))
        ((le_max_right _ _).trans hroom)
      rw [areSound, ← hn, ← hrest, values?]
      cases n.value? room with
      | none => rfl
      | some v => cases values? room rest <;> rfl

lemma isSome_fields? {fields : List (Option String × Node)} {room : ℕ}
    (ih : ∀ f ∈ fields, ∀ room, f.2.depth ≤ room → (f.2.value? room).isSome = f.2.isSound)
    (hroom : fieldsDepth fields ≤ room) (done : Fields) :
    (fields? room done fields).isSome = fieldsSound fields := by
  induction fields generalizing done with
  | nil => rfl
  | cons f rest ihrest =>
      obtain ⟨key, n⟩ := f
      have hn := ih (key, n) List.mem_cons_self room ((le_max_left _ _).trans hroom)
      have hrest := fun done => ihrest (fun g hg => ih g (List.mem_cons_of_mem _ hg))
        ((le_max_right _ _).trans hroom) done
      rw [fieldsSound, ← hn, fields?]
      cases key with
      | none => rfl
      | some key =>
          cases n.value? room with
          | none => simp
          | some v => simp [hrest]

/-- A node has a value exactly if it is sound, if there is room for it. -/
theorem isSome_value? (n : Node) :
    ∀ room, n.depth ≤ room → (n.value? room).isSome = n.isSound := by
  induction n using Node.induct with
  | null | bool => exact fun _ _ => rfl
  | number x => exact fun _ _ => Option.isSome_map
  | string s => exact fun _ _ => Option.isSome_map
  | array items ih =>
      intro room hroom
      have hpos : room ≠ 0 := fun h => by simp [h, depth] at hroom
      rw [value?, if_neg hpos, Option.isSome_map, isSound]
      exact isSome_values? ih (by rw [depth] at hroom; omega)
  | object fields ih =>
      intro room hroom
      have hpos : room ≠ 0 := fun h => by simp [h, depth] at hroom
      rw [value?, if_neg hpos, Option.isSome_map, isSound]
      exact isSome_fields? ih (by rw [depth] at hroom; omega) []

end Node

end Json

end ChatBot
