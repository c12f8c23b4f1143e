import Mathlib.Tactic
import ChatBot.Dispatch
import ChatBot.Proofs.Text.Blank

/-!
What a line of text says.

* `IsCommand`: a name, the blanks behind it and the rest, as they stand behind the mark of commands;
* `CommandMark.Writes`: the ways in which a command can be written in a line;
* `readTrimmed_command_iff`, `readTrimmed_cases`: what is read as a command, and
  that all else stays as it is;
* `CommandMark.read_writes`: a line is read as the command that it writes, and as
  plain text if it writes none;
* `CommandMark.read_text`: plain text is plain text also when it is read again;
* `Dispatcher.respond_eq_dispatch`: a line has the reply of a message with the line as its text.
-/

namespace ChatBot

open ChatBot.Text

/-- What stands behind the mark of a command: its name, blanks, and the rest without blanks at its
ends. Blanks separate the name from the rest, and only that. -/
structure IsCommand (name gap rest : List Char) : Prop where
  name_ne_nil : name ≠ []
  solid : ∀ c ∈ name, isBlank c = false
  blank : ∀ c ∈ gap, isBlank c = true
  trimmed : IsTrimmed rest
  gap_eq_nil_iff : gap = [] ↔ rest = []

namespace CommandMark

variable {mark cs name gap rest : List Char}

/-! ### Names -/

/-- A name ends at the first blank. -/
lemma splitName_append (hsolid : ∀ c ∈ name, isBlank c = false)
    (hblank : ∀ c ∈ gap, isBlank c = true) (hhead : ∀ c ∈ rest.head?, isBlank c = false)
    (hrest : gap = [] → rest = []) :
    splitName (name ++ (gap ++ rest)) = (name, rest) := by
  unfold splitName
  cases gap with
  | nil =>
      obtain rfl := hrest rfl
      have hnone : breakAtBlank name = none := breakAtBlank_eq_none_iff.mpr hsolid
      simp only [List.append_nil, hnone]
  | cons c gap =>
      obtain ⟨hc, hblank⟩ := List.forall_mem_cons.mp hblank
      have hbreak : breakAtBlank (name ++ (c :: gap ++ rest)) = some (name, gap ++ rest) :=
        breakAtBlank_eq_some_iff.mpr ⟨hsolid, c, hc, rfl⟩
      simp only [hbreak, trimStart_append hblank, trimStart_eq_self hhead]

/-- The parts that a text is split into, with the blanks that stand between them. -/
lemma exists_gap_splitName (h : splitName cs = (name, rest)) : ∃ gap,
    cs = name ++ (gap ++ rest) ∧ (∀ c ∈ name, isBlank c = false) ∧ (∀ c ∈ gap, isBlank c = true) ∧
      (∀ c ∈ rest.head?, isBlank c = false) ∧ (gap = [] → rest = []) := by
  unfold splitName at h
  split at h
  · next before after hbreak =>
    obtain ⟨hsolid, c, hc, rfl⟩ := breakAtBlank_eq_some_iff.mp hbreak
    obtain ⟨rfl, rfl⟩ := Prod.mk.inj h
    refine ⟨c :: after.takeWhile isBlank, ?_, hsolid, ?_, head?_trimStart after, by simp⟩
    · rw [List.cons_append, trimStart, List.takeWhile_append_dropWhile]
    · exact List.forall_mem_cons.mpr ⟨hc, fun _ hd => List.mem_takeWhile_imp hd⟩
  · next hbreak =>
    obtain ⟨rfl, rfl⟩ := Prod.mk.inj h
    exact ⟨[], by simp, breakAtBlank_eq_none_iff.mp hbreak, by simp, by simp, fun _ => rfl⟩

/-! ### Commands -/

/-- A command has no blanks at its ends. -/
lemma isTrimmed_append (hmark : ∀ c ∈ mark.head?, isBlank c = false) (h : IsCommand name gap rest) :
    IsTrimmed (mark ++ (name ++ (gap ++ rest))) := by
  obtain ⟨first, others, rfl⟩ := List.exists_cons_of_ne_nil h.name_ne_nil
  refine ⟨fun c hc => ?_, fun c hc => ?_⟩
  · cases mark with
    | nil =>
        obtain rfl : first = c := by simpa using hc
        exact h.solid first List.mem_cons_self
    | cons d mark => exact hmark c hc
  · by_cases hrest : rest = []
    · -- nothing stands behind the name
      obtain rfl := hrest
      obtain rfl := h.gap_eq_nil_iff.mpr rfl
      rw [List.append_nil, List.append_nil, List.getLast?_append_of_ne_nil _ h.name_ne_nil] at hc
      exact h.solid c (List.mem_of_getLast? hc)
    · rw [List.getLast?_append_of_ne_nil _ (by simp),
        List.getLast?_append_of_ne_nil _ (by simp [hrest]),
        List.getLast?_append_of_ne_nil _ hrest] at hc
      exact h.trimmed.last c hc

/-- The parts of a text without blanks at its ends are those of a command, if there is a name. -/
lemma isCommand_of_splitName (hcs : IsTrimmed (mark ++ cs)) (h : splitName cs = (name, rest))
    (hname : name ≠ []) : ∃ gap, cs = name ++ (gap ++ rest) ∧ IsCommand name gap rest := by
  obtain ⟨gap, rfl, hsolid, hblank, hhead, hgap⟩ := exists_gap_splitName h
  refine ⟨gap, rfl, hname, hsolid, hblank, ⟨hhead, fun c hc => hcs.last c ?_⟩, hgap,
    fun hrest => ?_⟩
  · simp [List.getLast?_append, Option.mem_def.mp hc]
  · -- a blank in the end would have been trimmed away
    subst hrest
    by_contra hne
    obtain ⟨c, hc⟩ := Option.isSome_iff_exists.mp (List.getLast?_isSome.mpr hne)
    have hlast := hcs.last c (by simp [List.getLast?_append, hc])
    rw [hblank c (List.mem_of_getLast? hc)] at hlast
    exact absurd hlast (by decide)

/-- A text without blanks at its ends is read as a command exactly if it is the mark
with a command behind it. -/
lemma readTrimmed_command_iff {name rest : String} {args : List String} (hcs : IsTrimmed cs) :
    readTrimmed mark cs = .command name args rest ↔
      args = rest.words ∧ ∃ gap, IsCommand name.toList gap rest.toList ∧
        cs = mark ++ (name.toList ++ (gap ++ rest.toList)) := by
  constructor
  · intro h
    unfold readTrimmed at h
    split_ifs at h with hempty hprefix
    obtain ⟨behind, rfl⟩ := List.isPrefixOf_iff_prefix.mp hprefix
    rw [List.drop_left] at h
    obtain ⟨⟨called, told⟩, hsplit⟩ : ∃ parts, splitName behind = parts := ⟨_, rfl⟩
    simp only [hsplit] at h
    split_ifs at h with hname
    obtain ⟨rfl, rfl, rfl⟩ := Content.command.inj h
    obtain ⟨gap, rfl, hcommand⟩ := isCommand_of_splitName hcs hsplit (by simpa using hname)
    exact ⟨by simp [String.words], gap, by simpa using hcommand, by simp⟩
  · rintro ⟨rfl, gap, hcommand, rfl⟩
    have hne : (mark ++ (name.toList ++ (gap ++ rest.toList))).isEmpty = false := by
      simp [hcommand.name_ne_nil]
    have hname : name.toList.isEmpty = false := by simpa using hcommand.name_ne_nil
    have hsplit : splitName (name.toList ++ (gap ++ rest.toList)) = (name.toList, rest.toList) :=
      splitName_append hcommand.solid hcommand.blank hcommand.trimmed.head
        hcommand.gap_eq_nil_iff.mp
    have hprefix : mark.isPrefixOf (mark ++ (name.toList ++ (gap ++ rest.toList))) = true :=
      List.isPrefixOf_iff_prefix.mpr (List.prefix_append _ _)
    simp only [readTrimmed, hne, hprefix, List.drop_left, hsplit, hname, Bool.false_eq_true,
      if_true, if_false, String.ofList_toList, String.words]

/-- What is not read as a command stays as it is. -/
lemma readTrimmed_cases (mark cs : List Char) :
    (∃ name args rest, readTrimmed mark cs = .command name args rest) ∨
      readTrimmed mark cs = if cs = [] then .empty else .text (String.ofList cs) := by
  unfold readTrimmed
  by_cases hcs : cs = []
  · simp [hcs]
  · simp only [hcs, List.isEmpty_iff, if_false]
    split_ifs
    · exact .inr rfl
    · exact .inl ⟨_, _, _, rfl⟩
    · exact .inr rfl

/-! ### Lines -/

/-- A line is a way to write a command: behind the mark, which does not start with a blank, and with
nothing but blanks around it. -/
def Writes (m : CommandMark) (line name rest : String) : Prop :=
  (∀ c ∈ m.mark.toList.head?, isBlank c = false) ∧ ∃ before gap after : List Char,
    (∀ c ∈ before, isBlank c = true) ∧ (∀ c ∈ after, isBlank c = true) ∧
      IsCommand name.toList gap rest.toList ∧
      line.toList = before ++ (m.mark.toList ++ (name.toList ++ (gap ++ rest.toList)) ++ after)

variable {m : CommandMark} {line : String}

/-- A line is read as a command exactly if it is a way to write it. -/
lemma read_command_iff {name rest : String} {args : List String} :
    m.read line = .command name args rest ↔ args = rest.words ∧ m.Writes line name rest := by
  rw [read, readTrimmed_command_iff (isTrimmed_trim _)]
  refine and_congr_right fun _ => ⟨?_, ?_⟩
  · rintro ⟨gap, hcommand, htrim⟩
    obtain ⟨before, after, hbefore, hafter, hline⟩ := exists_eq_append_trim line.toList
    refine ⟨fun c hc => ?_, before, gap, after, hbefore, hafter, hcommand, htrim ▸ hline⟩
    have hhead := (isTrimmed_trim line.toList).head c
    rw [htrim, List.head?_append, Option.mem_def.mp hc] at hhead
    exact hhead rfl
  · rintro ⟨hmark, before, gap, after, hbefore, hafter, hcommand, hline⟩
    exact ⟨gap, hcommand, hline ▸ trim_append hbefore (isTrimmed_append hmark hcommand) hafter⟩

/-- **Commands in lines**: a line that is read as a command consists of the mark, the name, blanks
and the rest, up to blanks at its ends. The name has no blanks, the rest has none at its ends, and
the arguments are the words of the rest.

Whatever is written so is read so, for any mark that does not start with a blank. Any other line
says nothing if it is blank, and else it is plain text without the blanks at its ends. -/
theorem read_writes (m : CommandMark) (line : String) :
    (∀ name args rest, m.read line = .command name args rest →
      name.toList ≠ [] ∧ (∀ c ∈ name.toList, isBlank c = false) ∧ IsTrimmed rest.toList ∧
        HasWords rest.toList (args.map String.toList) ∧
        ∃ gap : String, (∀ c ∈ gap.toList, isBlank c = true) ∧
          line.trimBlanks = m.mark ++ name ++ gap ++ rest) ∧
      (∀ name rest, m.Writes line name rest → m.read line = .command name rest.words rest) ∧
      ((∀ name rest, ¬m.Writes line name rest) → m.read line =
        if line.toList.all isBlank then .empty else .text line.trimBlanks) := by
  refine ⟨fun name args rest h => ?_, fun name rest h => read_command_iff.mpr ⟨rfl, h⟩,
    fun hnone => ?_⟩
  · obtain ⟨rfl, gap, hcommand, htrim⟩ := (readTrimmed_command_iff (isTrimmed_trim _)).mp h
    have hargs : rest.words.map String.toList = words rest.toList := by
      simp [String.words, Function.comp_def]
    refine ⟨hcommand.name_ne_nil, hcommand.solid, hcommand.trimmed, hargs ▸ hasWords_words _,
      String.ofList gap, by simpa using hcommand.blank, ?_⟩
    rw [String.trimBlanks, htrim]
    simp [String.append_assoc]
  · rcases readTrimmed_cases m.mark.toList (trim line.toList) with ⟨name, args, rest, hread⟩ | hread
    · exact absurd (read_command_iff.mp hread).2 (hnone name rest)
    · rw [read, hread, String.trimBlanks]
      simp only [trim_eq_nil_iff, List.all_eq_true]

/-- The blanks of a mark count, and those behind a name do not. -/
theorem read_writes_of_open_mark :
    let m : CommandMark := ⟨"hey bot, ", .twitch⟩
    m.Writes " hey bot, say\t hi  all\n" "say" "hi  all" ∧
      m.read " hey bot, say\t hi  all\n" = .command "say" ["hi", "all"] "hi  all" ∧
      (∀ name rest, ¬m.Writes "hey bot,  say" name rest) ∧
      m.read "hey bot,  say" = .text "hey bot,  say" := by
  intro m
  have hmark : trimStart m.mark.toList = m.mark.toList := by decide
  have hcommand : IsCommand "say".toList ['\t', ' '] "hi  all".toList :=
    ⟨by decide, breakAtBlank_eq_none_iff.mp (by decide), trim_eq_nil_iff.mp (by decide),
      isTrimmed_iff.mpr (by decide), by decide⟩
  have hwrites : m.Writes " hey bot, say\t hi  all\n" "say" "hi  all" :=
    ⟨hmark ▸ head?_trimStart _, [' '], ['\t', ' '], ['\n'], trim_eq_nil_iff.mp (by decide),
      trim_eq_nil_iff.mp (by decide), hcommand, by decide⟩
  have hread := (read_writes m " hey bot, say\t hi  all\n").2.1 _ _ hwrites
  have hnone : ∀ name rest, ¬m.Writes "hey bot,  say" name rest := by
    intro name rest h
    have hcommand := (read_writes m "hey bot,  say").2.1 _ _ h
    exact absurd hcommand (by
      rw [show m.read "hey bot,  say" = .text "hey bot,  say" by decide +kernel]
      exact nofun)
  refine ⟨hwrites, ?_, hnone, ?_⟩
  · rw [hread]
    decide +kernel
  · rw [(read_writes m "hey bot,  say").2.2 hnone]
    decide +kernel

/-- Plain text is what the line says without the blanks at its ends. -/
lemma eq_trimBlanks_of_read_text {body : String} (h : m.read line = .text body) :
    body = line.trimBlanks := by
  rcases readTrimmed_cases m.mark.toList (trim line.toList) with ⟨name, args, rest, hread⟩ | hread
  · rw [read, hread] at h
    exact nomatch h
  · rw [read, hread] at h
    split_ifs at h
    exact (Content.text.inj h).symm

/-- Plain text is plain text also when it is read again. -/
lemma read_text {body : String} (h : m.read line = .text body) : m.read body = .text body := by
  have hbody := eq_trimBlanks_of_read_text h
  have htrim : trim body.toList = trim line.toList := by
    rw [hbody, String.trimBlanks, String.toList_ofList, trim_trim]
  rw [← h, read, read, htrim]

end CommandMark

/-! ### Lines and messages -/

namespace Dispatcher

open ChatBot.Storage

variable {d : Dispatcher}

/-- The reply to a message is that to what is read from it. -/
lemma dispatch_congr {m m' : Message} (h : d.reread m = d.reread m') (c : Circumstances)
    (s : Store) : d.dispatch m c s = d.dispatch m' c s := by
  simp only [dispatch, h]

/-- A message that was read is the same when it is read again. -/
lemma reread_message (d : Dispatcher) (chat line : String) :
    d.reread (d.mark.message chat line none) = d.mark.message chat line none := by
  unfold reread
  split
  · next body hbody =>
    have hbody : d.mark.read line = .text body := hbody
    show d.mark.message chat body none = _
    rw [CommandMark.message, CommandMark.message, CommandMark.read_text hbody, hbody]
  · rfl

/-- **Lines and messages**: a line gets the reply of a message that has it as its text, asks the
same of services and leaves the same in the store. For what was once read as plain text is no
command when it is read again. -/
theorem respond_eq_dispatch (d : Dispatcher) (chat line : String) (platform : Platform)
    (c : Circumstances) (s : Store) :
    d.respond chat line c s = d.dispatch { chat, content := .text line, platform } c s ∧
      ∀ body, d.mark.read line = .text body → d.mark.read body = .text body :=
  ⟨dispatch_congr (d.reread_message chat line) c s, fun _ => CommandMark.read_text⟩

/-- With a mark that ends in a blank, a text may start with the mark and be plain all the same. -/
theorem respond_eq_dispatch_of_open_mark :
    let d : Dispatcher := ⟨⟨"! ", .twitch⟩, ⟨"! ", {}⟩, []⟩
    d.mark.read "\t!  version " = .text "!  version" ∧
        d.mark.read "!  version" = .text "!  version" := by
  intro d
  have hread : d.mark.read "\t!  version " = .text "!  version" := by decide +kernel
  exact ⟨hread, (respond_eq_dispatch d "#a" "\t!  version " .twitch default
    ⟨⟨true, []⟩, .ofFiles [], []⟩).2 _
    hread⟩

end Dispatcher

end ChatBot
