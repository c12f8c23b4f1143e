import ChatBot.Proofs.Routing

/-!
Commands are found by what was registered.

* `Command.GoesBy`: a text is the name or an alias of a command in any case of letters;
* `IsKept`: the commands that are left of those registered, the last one of each name;
* `Registry.mem_registerAll_iff`, `Registry.nodup_registerAll`: a registry
  holds these, each name once;
* `Unambiguous`: no text is a name or alias of two commands that are left;
* `Registry.find?_registerAll`: then a text finds the command that goes by it, whatever the order.
-/

namespace ChatBot

namespace Command

/-- The name and the aliases. -/
def names (c : Command) : List String := c.name :: c.aliases

/-- The text is the name or an alias, in any case of letters. -/
def GoesBy (c : Command) (input : String) : Prop :=
  ∃ name ∈ c.names, name.lowercase = input.lowercase

lemma matches_iff {c : Command} {input : String} : c.matches input = true ↔ c.GoesBy input := by
  simp [Command.matches, GoesBy, names]

end Command

/-- Of the commands that are registered one after the other, this is the last one of its name. -/
def IsKept (cs : List Command) (c : Command) : Prop :=
  ∃ before after, cs = before ++ c :: after ∧ ∀ other ∈ after, other.name ≠ c.name

/-- No name or alias in lower case belongs to two commands that are left. -/
def Unambiguous (cs : List Command) : Prop :=
  ∀ c c', IsKept cs c → IsKept cs c' → ∀ name ∈ c.names, ∀ name' ∈ c'.names,
    name.lowercase = name'.lowercase → c = c'

variable {cs cs' : List Command} {c c' new old : Command} {input : String}

/-! ### Commands that are left -/

lemma not_isKept_nil : ¬IsKept [] c := by
  rintro ⟨before, after, heq, -⟩
  simp at heq

lemma IsKept.mem (h : IsKept cs c) : c ∈ cs := by
  obtain ⟨before, after, rfl, -⟩ := h
  exact List.mem_append_right before List.mem_cons_self

/-- One more command takes the place of the one of its name. -/
lemma isKept_concat : IsKept (cs ++ [new]) c ↔ c = new ∨ c.name ≠ new.name ∧ IsKept cs c := by
  constructor
  · rintro ⟨before, after, heq, hafter⟩
    rcases List.eq_nil_or_concat after with rfl | ⟨after, last, rfl⟩
    · obtain ⟨-, hlast⟩ := List.append_inj' heq rfl
      exact .inl (List.singleton_inj.mp hlast).symm
    · rw [List.concat_eq_append] at heq hafter
      rw [← List.cons_append, ← List.append_assoc] at heq
      obtain ⟨rfl, hlast⟩ := List.append_inj' heq rfl
      obtain rfl := List.singleton_inj.mp hlast
      rw [List.forall_mem_append, List.forall_mem_singleton] at hafter
      exact .inr ⟨hafter.2.symm, before, after, rfl, hafter.1⟩
  · rintro (rfl | ⟨hne, before, after, rfl, hafter⟩)
    · exact ⟨cs, [], rfl, nofun⟩
    · refine ⟨before, after ++ [new], by simp, List.forall_mem_append.mpr ⟨hafter, ?_⟩⟩
      exact List.forall_mem_singleton.mpr hne.symm

/-- The commands of its name decide whether a command is left. -/
lemma isKept_iff_getLast? : IsKept cs c ↔ (cs.filter (·.name == c.name)).getLast? = some c := by
  induction cs using List.reverseRecOn with
  | nil => simp [not_isKept_nil]
  | append_singleton cs new ih =>
      rw [isKept_concat, ih, List.filter_append]
      by_cases hname : new.name = c.name
      · simp [hname, eq_comm]
      · have hne : c ≠ new := fun heq => hname (heq ▸ rfl)
        simp [hname, hne, Ne.symm hname]

namespace Registry

/-! ### Registries -/

lemma registerAll_concat (r : Registry) (cs : List Command) (c : Command) :
    r.registerAll (cs ++ [c]) = (r.registerAll cs).register c := by
  rw [registerAll, List.foldl_concat, registerAll]

lemma map_name_replace (new : Command) (cs : List Command) :
    (replace new cs).map (·.name) =
      if new.name ∈ cs.map (·.name) then cs.map (·.name) else cs.map (·.name) ++ [new.name] := by
  induction cs with
  | nil => rfl
  | cons c cs ih =>
      unfold replace
      by_cases hname : c.name = new.name
      · simp [hname]
      · have hne : new.name ≠ c.name := Ne.symm hname
        rw [if_neg (by simpa using hname), List.map_cons, ih, List.map_cons]
        simp only [List.mem_cons, hne, false_or]
        split <;> rfl

/-- Where no name is twice, a command that is replaced is gone. -/
lemma mem_replace_iff (hnodup : (cs.map (·.name)).Nodup) :
    c ∈ replace new cs ↔ c = new ∨ c.name ≠ new.name ∧ c ∈ cs := by
  induction cs with
  | nil => simp [replace]
  | cons other cs ih =>
      rw [List.map_cons, List.nodup_cons] at hnodup
      unfold replace
      by_cases hname : other.name = new.name
      · rw [if_pos (by simpa using hname), List.mem_cons, List.mem_cons]
        refine or_congr_right ⟨fun hmem => ⟨fun heq => ?_, .inr hmem⟩, ?_⟩
        · exact hnodup.1 (hname.trans heq.symm ▸ List.mem_map_of_mem hmem)
        · rintro ⟨hne, rfl | hmem⟩
          · exact absurd hname hne
          · exact hmem
      · rw [if_neg (by simpa using hname), List.mem_cons, List.mem_cons, ih hnodup.2]
        constructor
        · rintro (rfl | rfl | ⟨hne, hmem⟩)
          · exact .inr ⟨hname, .inl rfl⟩
          · exact .inl rfl
          · exact .inr ⟨hne, .inr hmem⟩
        · rintro (rfl | ⟨hne, rfl | hmem⟩)
          · exact .inr (.inl rfl)
          · exact .inl rfl
          · exact .inr (.inr ⟨hne, hmem⟩)

/-- No two commands of a registry have the same name. -/
lemma nodup_registerAll (cs : List Command) :
    ((registerAll {} cs).commands.map (·.name)).Nodup := by
  induction cs using List.reverseRecOn with
  | nil => exact List.nodup_nil
  | append_singleton cs new ih =>
      rw [registerAll_concat, register, map_name_replace]
      split
      · exact ih
      · next hnot =>
        rw [← List.concat_eq_append]
        exact ih.concat hnot

/-- The commands of a registry are those that are left. -/
lemma mem_registerAll_iff : c ∈ (registerAll {} cs).commands ↔ IsKept cs c := by
  induction cs using List.reverseRecOn with
  | nil => exact iff_of_false List.not_mem_nil not_isKept_nil
  | append_singleton cs new ih =>
      rw [registerAll_concat, register, mem_replace_iff (nodup_registerAll cs), isKept_concat, ih]

/-- The names are those of all commands that were registered. -/
lemma mem_names_registerAll {name : String} :
    name ∈ (registerAll {} cs).commands.map (·.name) ↔ name ∈ cs.map (·.name) := by
  induction cs using List.reverseRecOn with
  | nil => exact .rfl
  | append_singleton cs new ih =>
      rw [registerAll_concat, register, map_name_replace, List.map_append]
      split
      · next hmem =>
        rw [List.mem_append, ih, List.map_singleton, List.mem_singleton, or_iff_left_of_imp]
        rintro rfl
        exact ih.mp hmem
      · rw [List.mem_append, List.mem_append, ih, List.map_singleton]

/-- There are as many commands as names were registered. -/
lemma size_registerAll (cs : List Command) :
    (registerAll {} cs).size = (cs.map (·.name)).toFinset.card := by
  have hnames : ((registerAll {} cs).commands.map (·.name)).toFinset = (cs.map (·.name)).toFinset :=
    Finset.ext fun name => by rw [List.mem_toFinset, List.mem_toFinset, mem_names_registerAll]
  rw [← hnames, List.toFinset_card_of_nodup (nodup_registerAll cs), List.length_map, size]

/-! ### Looking up -/

variable {r : Registry}

/-- A command that is found goes by the text, if its name is in lower case. -/
lemma goesBy_of_find? (hlower : ∀ c ∈ r.commands, c.name.lowercase = c.name)
    (h : r.find? input = some c) : c ∈ r.commands ∧ c.GoesBy input := by
  obtain ⟨hmem, hname | hmatches⟩ := of_find? h
  · exact ⟨hmem, c.name, List.mem_cons_self, (hlower c hmem).trans hname⟩
  · exact ⟨hmem, Command.matches_iff.mp hmatches⟩

/-- A command that goes by the text is found, or another one that does. -/
lemma exists_find? (hmem : c ∈ r.commands) (h : c.GoesBy input) :
    ∃ found, r.find? input = some found := by
  refine Option.ne_none_iff_exists'.mp fun hnone => ?_
  have hmatches := (find?_eq_none_iff.mp hnone c hmem).2
  exact absurd (Command.matches_iff.mpr h) (by simp [hmatches])

/-- Where all names are in lower case and only one command can go by the text, it is found. -/
lemma find?_eq_some_iff (hlower : ∀ c ∈ r.commands, c.name.lowercase = c.name)
    (hunique : ∀ c ∈ r.commands, ∀ c' ∈ r.commands, c.GoesBy input → c'.GoesBy input → c = c') :
    r.find? input = some c ↔ c ∈ r.commands ∧ c.GoesBy input := by
  refine ⟨goesBy_of_find? hlower, fun ⟨hmem, hgoes⟩ => ?_⟩
  obtain ⟨found, hfound⟩ := exists_find? hmem hgoes
  obtain ⟨hmem', hgoes'⟩ := goesBy_of_find? hlower hfound
  rw [hfound, hunique found hmem' c hmem hgoes' hgoes]

/-- At most one of the commands that are left goes by a text. -/
lemma eq_of_goesBy (h : Unambiguous cs) (hkept : IsKept cs c) (hkept' : IsKept cs c')
    (hgoes : c.GoesBy input) (hgoes' : c'.GoesBy input) : c = c' := by
  obtain ⟨name, hname, heq⟩ := hgoes
  obtain ⟨name', hname', heq'⟩ := hgoes'
  exact h c c' hkept hkept' name hname name' hname' (heq.trans heq'.symm)

lemma find?_registerAll_iff (hlower : ∀ c ∈ cs, c.name.lowercase = c.name) (h : Unambiguous cs) :
    (registerAll {} cs).find? input = some c ↔ IsKept cs c ∧ c.GoesBy input := by
  rw [find?_eq_some_iff, mem_registerAll_iff]
  · exact fun c hc => hlower c (mem_registerAll_iff.mp hc).mem
  · exact fun c hc c' hc' => eq_of_goesBy h (mem_registerAll_iff.mp hc) (mem_registerAll_iff.mp hc')

/-- Another order of the commands is one in which those of each name come in the same order. -/
lemma find?_registerAll_congr (hlower : ∀ c ∈ cs, c.name.lowercase = c.name) (h : Unambiguous cs)
    (horder : ∀ name : String, cs'.filter (·.name == name) = cs.filter (·.name == name)) :
    (registerAll {} cs').find? input = (registerAll {} cs).find? input := by
  have hkept (c : Command) : IsKept cs' c ↔ IsKept cs c := by
    rw [isKept_iff_getLast?, isKept_iff_getLast?, horder]
  have hmem : ∀ c ∈ cs', c ∈ cs := by
    intro c hc
    have hfilter : c ∈ cs'.filter (·.name == c.name) := List.mem_filter.mpr ⟨hc, by simp⟩
    exact List.mem_of_mem_filter (horder c.name ▸ hfilter)
  have h' : Unambiguous cs' := fun c c' hc hc' => h c c' ((hkept c).mp hc) ((hkept c').mp hc')
  refine Option.ext fun c => ?_
  rw [find?_registerAll_iff (fun c hc => hlower c (hmem c hc)) h', find?_registerAll_iff hlower h,
    hkept]

/-- In any other order of its commands a registry finds the same. -/
lemma find?_of_perm (hlower : ∀ c ∈ cs, c.name.lowercase = c.name) (h : Unambiguous cs)
    {commands : List Command} (hperm : commands.Perm (registerAll {} cs).commands) :
    find? ⟨commands⟩ input = (registerAll {} cs).find? input := by
  have hkept {c : Command} : c ∈ commands ↔ IsKept cs c := hperm.mem_iff.trans mem_registerAll_iff
  refine Option.ext fun c => ?_
  rw [find?_registerAll_iff hlower h, find?_eq_some_iff, hkept]
  · exact fun c hc => hlower c (hkept.mp hc).mem
  · exact fun c hc c' hc' => eq_of_goesBy h (hkept.mp hc) (hkept.mp hc')

/-- What a replaced command went by is left to the new one alone. -/
lemma find?_register_of_goesBy (hlower : ∀ c ∈ cs, c.name.lowercase = c.name) (h : Unambiguous cs)
    (hold : IsKept cs old) (hname : new.name = old.name) (hgoes : old.GoesBy input) :
    ((registerAll {} cs).register new).find? input = some c ↔ c = new ∧ new.GoesBy input := by
  have hmem (c : Command) : c ∈ ((registerAll {} cs).register new).commands ↔
      c = new ∨ c.name ≠ new.name ∧ IsKept cs c := by
    rw [register, mem_replace_iff (nodup_registerAll cs), mem_registerAll_iff]
  -- every other command that goes by the text is the replaced one, whose name is gone
  have honly : ∀ c ∈ ((registerAll {} cs).register new).commands, c.GoesBy input → c = new := by
    intro c hc hgoes'
    refine ((hmem c).mp hc).resolve_right fun ⟨hne, hkept⟩ => hne ?_
    rw [eq_of_goesBy h hkept hold hgoes' hgoes, hname]
  rw [find?_eq_some_iff]
  · constructor
    · rintro ⟨hc, hgoes'⟩
      obtain rfl := honly c hc hgoes'
      exact ⟨rfl, hgoes'⟩
    · rintro ⟨rfl, hgoes'⟩
      exact ⟨(hmem c).mpr (.inl rfl), hgoes'⟩
  · intro c hc
    rcases (hmem c).mp hc with rfl | ⟨-, hkept⟩
    · rw [hname]
      exact hlower old hold.mem
    · exact hlower c hkept.mem
  · exact fun c hc c' hc' hgoes hgoes' => (honly c hc hgoes).trans (honly c' hc' hgoes').symm

/-- **Lookup of commands**: of commands that are registered one after the other with names in lower
case, the last one of each name is left. If no name or alias in lower case belongs to two of these,
then a text finds the one that goes by it in any case of letters, and nothing if none does. Neither
the order in which the registry holds its commands nor the order in which commands of different
names were registered matters. What a command went by finds after its replacement the new command of
its name if this goes by it, and else nothing. There are as many commands as different names. -/
theorem find?_registerAll (hlower : ∀ c ∈ cs, c.name.lowercase = c.name) (h : Unambiguous cs) :
    let r := registerAll {} cs
    (∀ input c, r.find? input = some c ↔ IsKept cs c ∧ c.GoesBy input) ∧
    (∀ input, r.find? input = none ↔ ∀ c, IsKept cs c → ¬c.GoesBy input) ∧
    (∀ commands, commands.Perm r.commands → ∀ input, find? ⟨commands⟩ input = r.find? input) ∧
    (∀ cs' : List Command, (∀ name, cs'.filter (·.name == name) = cs.filter (·.name == name)) →
      ∀ input, (registerAll {} cs').find? input = r.find? input) ∧
    (∀ old new input, IsKept cs old → new.name = old.name → old.GoesBy input →
      (new.GoesBy input → (r.register new).find? input = some new) ∧
      (¬new.GoesBy input → (r.register new).find? input = none)) ∧
    r.size = (cs.map (·.name)).toFinset.card := by
  intro r
  have hfind (input : String) (c : Command) :
      r.find? input = some c ↔ IsKept cs c ∧ c.GoesBy input :=
    find?_registerAll_iff hlower h
  refine ⟨hfind, fun input => ?_, fun commands hperm input => find?_of_perm hlower h hperm,
    fun cs' horder input => find?_registerAll_congr hlower h horder,
    fun old new input hold hname hgoes => ?_,
    size_registerAll cs⟩
  · simp only [Option.eq_none_iff_forall_ne_some, ne_eq, hfind, not_and]
  · have hregister (c : Command) := find?_register_of_goesBy (c := c) hlower h hold hname hgoes
    exact ⟨fun hnew => (hregister new).mpr ⟨rfl, hnew⟩, fun hnot =>
      Option.eq_none_iff_forall_ne_some.mpr fun c hc => hnot ((hregister c).mp hc).2⟩

/-- A command with an alias that is registered twice, the second time without. -/
theorem find?_registerAll_of_calculate :
    let old : Command := { name := "calculate", aliases := ["calc", "calculator"] }
    let new : Command := { name := "calculate", aliases := ["Calculator"] }
    let cs := [old, { name := "sqrt" }]
    (∀ c ∈ cs, c.name.lowercase = c.name) ∧ Unambiguous cs ∧
      (registerAll {} cs).find? "CALC" = some old ∧
      ((registerAll {} cs).register new).find? "CALC" = none ∧
      ((registerAll {} cs).register new).find? "calculaTOR" = some new := by
  intro old new cs
  have hlower : ∀ c ∈ cs, c.name.lowercase = c.name := by
    simp only [cs, List.forall_mem_cons, List.not_mem_nil, false_implies, implies_true, and_true]
    decide +kernel
  have hapart : ∀ name ∈ old.names, name.lowercase ≠ "sqrt".lowercase := by decide +kernel
  have h : Unambiguous cs := by
    intro c c' hc hc' name hname name' hname' heq
    have hmem := hc.mem
    have hmem' := hc'.mem
    simp only [cs, List.mem_cons, List.not_mem_nil, or_false] at hmem hmem'
    rcases hmem with rfl | rfl <;> rcases hmem' with rfl | rfl
    · rfl
    · obtain rfl := List.mem_singleton.mp hname'
      exact absurd heq (hapart name hname)
    · obtain rfl := List.mem_singleton.mp hname
      exact absurd heq.symm (hapart name' hname')
    · rfl
  have hold : IsKept cs old := ⟨[], _, rfl, by simp [old]⟩
  have hcalc : old.GoesBy "CALC" := Command.matches_iff.mp (by decide +kernel)
  have hcalculator : old.GoesBy "calculaTOR" := Command.matches_iff.mp (by decide +kernel)
  obtain ⟨hfind, -, -, -, hregister, -⟩ := find?_registerAll hlower h
  refine ⟨hlower, h, (hfind "CALC" old).mpr ⟨hold, hcalc⟩, ?_, ?_⟩
  · refine (hregister old new "CALC" hold rfl hcalc).2 fun hnew => ?_
    exact absurd (Command.matches_iff.mpr hnew) (by decide +kernel)
  · exact (hregister old new "calculaTOR" hold rfl hcalculator).1
      (Command.matches_iff.mp (by decide +kernel))

end Registry

end ChatBot
