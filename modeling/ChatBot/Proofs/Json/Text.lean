import ChatBot.Proofs.Json.Numeral
import ChatBot.Proofs.Json.Quoted
import ChatBot.Proofs.Json.Value

/-!
Texts of JSON, lexeme by lexeme.

* `Opens cs ls`: the text `cs` has the lexemes `ls`, whatever follows, and `Spells cs ls`: it
  has them in front of what does not go on with a number. There is one lemma for each way in
  which a text is put together;
* `Node.lexemes`: the lexemes of a node;
* `Node.leads`: reading the lexemes of a node leads to it, and to no other one.
-/

namespace ChatBot

namespace Json

open Lexeme (scan? first? ofChar?)

/-! ### Texts and their lexemes -/

lemma scan?_blank {c : Char} {cs : List Char} (h : isBlank c = true) :
    scan? (c :: cs) = scan? cs := by
  rw [scan?, if_pos h]

lemma scan?_cons {c : Char} {cs rest : List Char} {l : Lexeme} (hb : isBlank c = false)
    (h : first? c cs = some (l, rest)) : scan? (c :: cs) = (scan? rest).map (l :: ·) := by
  rw [scan?, if_neg (by simp [hb])]
  split
  · next heq => simp [h] at heq
  · next heq =>
    obtain ⟨rfl, rfl⟩ : l = _ ∧ rest = _ := by simpa [h] using heq
    rfl

lemma scan?_eq_none {c : Char} {cs : List Char} (hb : isBlank c = false) (h : first? c cs = none) :
    scan? (c :: cs) = none := by
  rw [scan?, if_neg (by simp [hb])]
  split
  · rfl
  · next heq => simp [h] at heq

/-- No mark, no quote and no letter can be the start of a numeral. -/
lemma first?_eq_of_starts {c : Char} {cs : List Char} (hc : Numeral.Starts c) :
    first? c cs =
      (Numeral.read? (c :: cs)).map fun (n, rest) => (.leaf (.number n.number?), rest) := by
  have hmark : ofChar? c = none := by
    simp only [ofChar?, hc.ne '[' rfl, hc.ne ']' rfl, hc.ne '\x7b' rfl, hc.ne '\x7d' rfl,
      hc.ne ',' rfl, hc.ne ':' rfl, if_false]
  have hliteral : literal? (c :: cs) = none := by
    unfold literal?
    split
    · next heq => exact absurd (List.cons.inj heq).1 (hc.ne 'n' rfl)
    · next heq => exact absurd (List.cons.inj heq).1 (hc.ne 't' rfl)
    · next heq => exact absurd (List.cons.inj heq).1 (hc.ne 'f' rfl)
    · rfl
  simp only [first?, hmark, hliteral, hc.ne '"' rfl, if_false]

lemma isBlank_eq_false_of_starts {c : Char} (hc : Numeral.Starts c) : isBlank c = false := by
  simp [isBlank, hc.ne ' ' rfl, hc.ne '\n' rfl, hc.ne '\r' rfl, hc.ne '\t' rfl]

/-- The text `cs` has the lexemes `ls`, whatever follows. -/
def Opens (cs : List Char) (ls : List Lexeme) : Prop :=
  ∀ rest, scan? (cs ++ rest) = (scan? rest).map (ls ++ ·)

namespace Opens

lemma nil : Opens [] [] := by
  intro rest
  cases h : scan? rest <;> simp [h]

lemma append {cs ds : List Char} {ls ms : List Lexeme} (h : Opens cs ls) (h' : Opens ds ms) :
    Opens (cs ++ ds) (ls ++ ms) := by
  intro rest
  rw [List.append_assoc, h, h', Option.map_map]
  congr 1
  funext ks
  exact (List.append_assoc ls ms ks).symm

lemma blank {c : Char} (hc : isBlank c = true) : Opens [c] [] := by
  intro rest
  rw [List.singleton_append, scan?_blank hc]
  exact nil rest

/-- A mark of one character. -/
lemma mark {c : Char} {l : Lexeme} (hc : ofChar? c = some l) (hb : isBlank c = false) :
    Opens [c] [l] := by
  intro rest
  have hfirst : first? c rest = some (l, rest) := by simp only [first?, hc]
  exact scan?_cons hb hfirst

lemma newLine (level : ℕ) : Opens (newLine level) [] := by
  have hblanks : ∀ n, Opens (List.replicate n ' ') [] := by
    intro n
    induction n with
    | zero => exact nil
    | succ n ih => exact (blank rfl).append ih
  exact (blank (c := '\n') rfl).append (hblanks _)

/-- A quoted text, however it is written. -/
lemma quoted {ps : List Piece} {cs : List Char} (h : Quoted ps cs) :
    Opens ('"' :: cs ++ ['"']) [.leaf (.string ((characters? ps).map String.ofList))] := by
  intro rest
  have hmark : ofChar? '"' = none := rfl
  have hfirst : first? '"' (cs ++ '"' :: rest) =
      some (.leaf (.string ((characters? ps).map String.ofList)), rest) := by
    simp only [first?, hmark, if_true, h.pieces? rest, Option.map_some]
  rw [List.cons_append, List.cons_append, List.append_assoc, List.singleton_append,
    scan?_cons rfl hfirst]
  rfl

lemma quote (s : String) : Opens (quote s) [.leaf (.string (some s))] := by
  obtain ⟨ps, cs, hquote, hquoted, hvalue⟩ := exists_quote_eq s
  exact hquote ▸ hvalue ▸ quoted hquoted

/-- A key and what stands behind it, up to the value. -/
lemma key (key : String) :
    Opens (Json.quote key ++ [':', ' ']) [.leaf (.string (some key)), .colon] :=
  (quote key).append ((mark (c := ':') rfl rfl).append (blank (c := ' ') rfl))

end Opens

/-- The text `cs` has the lexemes `ls`, in front of every text that does not go on with a number. -/
def Spells (cs : List Char) (ls : List Lexeme) : Prop :=
  ∀ rest, EndsNumeral rest → scan? (cs ++ rest) = (scan? rest).map (ls ++ ·)

lemma EndsNumeral.append {cs rest : List Char} (h : EndsNumeral cs) (h' : EndsNumeral rest) :
    EndsNumeral (cs ++ rest) := by
  rcases cs with _ | ⟨c, cs⟩
  · exact h'
  · exact EndsNumeral.cons (h c rfl)

lemma Opens.spells {cs : List Char} {ls : List Lexeme} (h : Opens cs ls) : Spells cs ls :=
  fun rest _ => h rest

namespace Spells

variable {cs ds : List Char} {ls ms : List Lexeme}

lemma nil : Spells [] [] := Opens.nil.spells

lemma append (h : Spells cs ls) (h' : Spells ds ms) (hd : EndsNumeral ds) :
    Spells (cs ++ ds) (ls ++ ms) := by
  intro rest hrest
  rw [List.append_assoc, h _ (hd.append hrest), h' rest hrest, Option.map_map]
  congr 1
  funext ks
  exact (List.append_assoc ls ms ks).symm

lemma prepend (h : Opens cs ls) (h' : Spells ds ms) : Spells (cs ++ ds) (ls ++ ms) := by
  intro rest hrest
  rw [List.append_assoc, h, h' rest hrest, Option.map_map]
  congr 1
  funext ks
  exact (List.append_assoc ls ms ks).symm

/-- A mark of one character. -/
lemma mark {c : Char} {l : Lexeme} (hc : ofChar? c = some l) (hb : isBlank c = false)
    (h : Spells cs ls) : Spells (c :: cs) (l :: ls) := prepend (Opens.mark hc hb) h

lemma null : Spells "null".toList [.leaf .null] := by
  intro rest _
  exact scan?_cons rfl rfl

lemma bool (b : Bool) :
    Spells (if b then "true".toList else "false".toList) [.leaf (.bool b)] := by
  intro rest _
  cases b with
  | true => exact scan?_cons rfl rfl
  | false => exact scan?_cons rfl rfl

lemma quote (s : String) : Spells (quote s) [.leaf (.string (some s))] := (Opens.quote s).spells

/-- A numeral, however it is written. -/
lemma written {n : Numeral} (h : n.WellFormed) (hcs : n.Written cs) :
    Spells cs [.leaf (.number n.number?)] := by
  intro rest hrest
  obtain ⟨c, ds, rfl, hc⟩ := h.exists_eq_cons hcs
  have hread := Numeral.read?_written h hcs hrest
  rw [List.cons_append] at hread ⊢
  have hfirst : first? c (ds ++ rest) = some (.leaf (.number n.number?), rest) := by
    rw [first?_eq_of_starts hc, hread]
    rfl
  rw [scan?_cons (isBlank_eq_false_of_starts hc) hfirst]
  rfl

lemma numeral {n : Numeral} (h : n.WellFormed) : Spells n.text [.leaf (.number n.number?)] :=
  written h n.written_text

end Spells

/-! ### The lexemes of a node -/

namespace Node

mutual

/-- The lexemes of a node. -/
def lexemes : Node → List Lexeme
  | .array items => .bracketOpen :: itemLexemes items ++ [.bracketClose]
  | .object fields => .braceOpen :: fieldLexemes fields ++ [.braceClose]
  | leaf => [.leaf leaf]

/-- The lexemes of the items of an array. -/
def itemLexemes : List Node → List Lexeme
  | [] => []
  | [item] => lexemes item
  | item :: rest => lexemes item ++ .comma :: itemLexemes rest

/-- The lexemes of the fields of an object. -/
def fieldLexemes : List (Option String × Node) → List Lexeme
  | [] => []
  | [(key, node)] => .leaf (.string key) :: .colon :: lexemes node
  | (key, node) :: rest =>
    .leaf (.string key) :: .colon :: (lexemes node ++ .comma :: fieldLexemes rest)

end

lemma itemLexemes_cons_cons (n m : Node) (rest : List Node) :
    itemLexemes (n :: m :: rest) = n.lexemes ++ .comma :: itemLexemes (m :: rest) := by
  rw [itemLexemes]
  simp

end Node

/-! ### From lexemes to nodes -/

/-- The lexemes `ls` lead from the state `s` to the state `s'`. -/
def Leads (s : State) (ls : List Lexeme) (s' : State) : Prop := ls.foldlM State.step? s = some s'

namespace Leads

variable {s s' s'' : State} {ls ms : List Lexeme}

lemma nil : Leads s [] s := rfl

lemma cons {l : Lexeme} (h' : Leads s' ls s'') (h : s.step? l = some s') :
    Leads s (l :: ls) s'' := by
  unfold Leads at h' ⊢
  rw [List.foldlM_cons, h]
  exact h'

lemma append (h : Leads s ls s') (h' : Leads s' ms s'') : Leads s (ls ++ ms) s'' := by
  unfold Leads at h h' ⊢
  rw [List.foldlM_append, h]
  exact h'

end Leads

/-- The lexemes of a node lead to it, whatever is open around it. -/
def Node.IsRead (n : Node) : Prop := ∀ stack, Leads (.due stack) n.lexemes (.read n stack)

lemma leads_items {items : List Node} (ih : ∀ n ∈ items, n.IsRead) (hne : items ≠ [])
    (done : List Node) (stack : List Frame) :
    Leads (.due (.items done :: stack)) (Node.itemLexemes items ++ [.bracketClose])
      (.read (.array (done.reverse ++ items)) stack) := by
  induction items generalizing done with
  | nil => exact absurd rfl hne
  | cons n rest ihrest =>
      have hn := ih n List.mem_cons_self
      rcases rest with _ | ⟨m, rest⟩
      · have hend := (hn (.items done :: stack)).append (Leads.nil.cons (l := .bracketClose) rfl)
        simpa [Node.itemLexemes] using hend
      · have hrest := ihrest (fun u hu => ih u (List.mem_cons_of_mem _ hu)) (by simp) (n :: done)
        have hall := (hn (.items done :: stack)).append (hrest.cons (l := .comma) rfl)
        simpa [Node.itemLexemes] using hall

lemma leads_fields {fields : List (Option String × Node)} (ih : ∀ f ∈ fields, f.2.IsRead)
    (hne : fields ≠ []) (done : List (Option String × Node)) (stack : List Frame) :
    Leads (.keyDue done stack) (Node.fieldLexemes fields ++ [.braceClose])
      (.read (.object (done.reverse ++ fields)) stack) := by
  induction fields generalizing done with
  | nil => exact absurd rfl hne
  | cons f rest ihrest =>
      obtain ⟨key, n⟩ := f
      have hn : n.IsRead := ih (key, n) List.mem_cons_self
      rcases rest with _ | ⟨g, rest⟩
      · have hend := (hn (.value done key :: stack)).append (Leads.nil.cons (l := .braceClose) rfl)
        have hall := (hend.cons (l := .colon) rfl).cons
          (l := .leaf (.string key)) (s := .keyDue done stack) rfl
        simpa [Node.fieldLexemes] using hall
      · have hrest := ihrest (fun g hg => ih g (List.mem_cons_of_mem _ hg)) (by simp)
          ((key, n) :: done)
        have hend := (hn (.value done key :: stack)).append (hrest.cons (l := .comma) rfl)
        have hall := (hend.cons (l := .colon) rfl).cons
          (l := .leaf (.string key)) (s := .keyDue done stack) rfl
        simpa [Node.fieldLexemes] using hall

/-- The first lexeme of a node does not end an array. -/
lemma Leads.opened {n : Node} {stack : List Frame} {ls : List Lexeme} {s : State}
    (h : Leads (.due (.items [] :: stack)) (n.lexemes ++ ls) s) :
    Leads (.opened stack) (n.lexemes ++ ls) s := by
  cases n <;> exact h

/-- The lexemes of every node lead to it. -/
theorem Node.leads (n : Node) : n.IsRead := by
  induction n using Node.induct with
  | null | bool | number | string => exact fun _ => rfl
  | array items ih =>
      intro stack
      rcases items with _ | ⟨n, rest⟩
      · rfl
      · have hitems := leads_items ih (by simp) [] stack
        have hopened : Leads (.opened stack) (itemLexemes (n :: rest) ++ [.bracketClose])
            (.read (.array (n :: rest)) stack) := by
          rcases rest with _ | ⟨m, rest⟩
          · exact hitems.opened
          · rw [itemLexemes_cons_cons, List.append_assoc] at hitems ⊢
            exact hitems.opened
        exact hopened.cons rfl
  | object fields ih =>
      intro stack
      rcases fields with _ | ⟨f, rest⟩
      · rfl
      · have hfields := leads_fields ih (by simp) [] stack
        have hbraced : Leads (.braced stack) (fieldLexemes (f :: rest) ++ [.braceClose])
            (.read (.object (f :: rest)) stack) := by
          rcases rest with _ | ⟨g, rest⟩ <;> exact hfields
        exact hbraced.cons rfl

lemma endsNumeral_newLine (level : ℕ) (cs : List Char) : EndsNumeral (newLine level ++ cs) :=
  EndsNumeral.cons (by decide)

end Json

end ChatBot
