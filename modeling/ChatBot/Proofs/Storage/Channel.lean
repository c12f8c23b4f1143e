import Mathlib.Data.List.DropRight
import ChatBot.Proofs.Text.LetterCase
import ChatBot.Proofs.Storage.FileTree
import ChatBot.Storage.Store

/-!
Where the tables of channels are.

* `TableKind`, `tableName`, `tablePath`: a table is that of a kind and of the name of a channel
  without the number signs in front and in lower case;
* `Text.split_of_not_mem`, `ofText_fileName`: a name without slashes is a path of one name;
* `lexical_tablePath_inj`: different tables have different places, if there is no slash in their
  names.
-/

namespace ChatBot

namespace Text

/-- A text without the mark is one part. -/
lemma split_of_not_mem {mark : Char} {cs : List Char} (h : mark ∉ cs) : split mark cs = [cs] := by
  induction cs with
  | nil => rfl
  | cons c cs ih =>
      obtain ⟨hc, hcs⟩ := not_or.mp (List.mem_cons.not.mp h)
      rw [split, if_neg (Ne.symm hc), ih hcs]

end Text

namespace Storage

/-- The kinds of tables that a channel has. -/
inductive TableKind where
  | commands
  | aliases
  | variables
  deriving DecidableEq

/-- The folders of a kind of table, below the root. -/
def TableKind.folders : TableKind → List String
  | .commands => ["commands"]
  | .aliases => ["commands", "aliases"]
  | .variables => ["variables"]

/-- The name by which a channel has its tables. -/
def tableName (channel : String) : String := (channelName channel).lowercase

/-- The name of the tables does not depend on number signs in front. -/
lemma tableName_channelName (chat : String) : tableName (channelName chat) = tableName chat := by
  simp [tableName, channelName, List.dropWhile_idempotent]

/-- Chats that are equal up to number signs in front and the case of ASCII letters share their
tables. -/
lemma tableName_eq_of_equalsIgnoringAsciiCase {chat other : String}
    (h : (channelName chat).equalsIgnoringAsciiCase (channelName other) = true) :
    tableName chat = tableName other :=
  String.lowercase_eq_of_equalsIgnoringAsciiCase h

/-- The path of a table. -/
def tablePath (root : Path) (kind : TableKind) (name : String) : Path :=
  (root.join ⟨false, kind.folders⟩).join (.ofText (name ++ ".json"))

/-! ### Names without slashes -/

/-- The name of a table has no slash if the channel has none. -/
lemma slash_not_mem_tableName {channel : String} (h : '/' ∉ channel.toList) :
    '/' ∉ (tableName channel).toList := by
  have hname : '/' ∉ channel.toList.dropWhile (· == '#') :=
    fun hmem => h ((List.dropWhile_sublist _).subset hmem)
  simpa [tableName, channelName, String.lowercase] using Text.slash_not_mem_lowercase hname

lemma fileName_ne (name : String) {other : String} (h : ¬".json".toList <:+ other.toList) :
    name ++ ".json" ≠ other := by
  rintro rfl
  exact h ⟨name.toList, by simp⟩

/-- The name of a file without slashes is a path of one name. -/
lemma ofText_fileName {name : String} (h : '/' ∉ name.toList) :
    Path.ofText (name ++ ".json") = ⟨false, [name ++ ".json"]⟩ := by
  have hslash : '/' ∉ (name ++ ".json").toList := by
    simp [h]
  have hempty : name ++ ".json" ≠ "" := fileName_ne name (by decide)
  have hdot : name ++ ".json" ≠ "." := fileName_ne name (by decide)
  have hhead : ((name ++ ".json").toList.head? == some '/') = false := by
    rcases hcs : (name ++ ".json").toList with _ | ⟨c, cs⟩
    · rfl
    · have hc : c ≠ '/' := by
        rintro rfl
        exact hslash (by simp [hcs])
      simpa using hc
  rw [Path.ofText, Text.split_of_not_mem hslash, hhead]
  simp [hempty, hdot]

lemma folders_ne_above {kind : TableKind} : ∀ folder ∈ kind.folders, folder ≠ Path.above := by
  cases kind <;> decide

/-! ### Places -/

lemma foldl_follow_of_ne {names : List String} (h : ∀ name ∈ names, name ≠ Path.above) (p : Path) :
    names.foldl Path.follow p = ⟨p.isAbsolute, p.names ++ names⟩ := by
  induction names generalizing p with
  | nil => simp
  | cons name rest ih =>
      have hname : (name == Path.above) = false := beq_eq_false_iff_ne.2 (h name List.mem_cons_self)
      rw [List.foldl_cons, ih fun n hn => h n (List.mem_cons_of_mem _ hn)]
      simp [Path.follow, hname, Path.child]

lemma lexical_tablePath {root : Path} {kind : TableKind} {name : String} (h : '/' ∉ name.toList) :
    (tablePath root kind name).lexical =
      ⟨root.lexical.isAbsolute, root.lexical.names ++ (kind.folders ++ [name ++ ".json"])⟩ := by
  have hnames : ∀ n ∈ kind.folders ++ [name ++ ".json"], n ≠ Path.above := by
    intro n hn
    rcases List.mem_append.mp hn with hn | hn
    · exact folders_ne_above n hn
    · obtain rfl := List.mem_singleton.mp hn
      exact fileName_ne name (by decide)
  rw [← foldl_follow_of_ne hnames, tablePath, ofText_fileName h]
  simp [Path.lexical, Path.join, List.foldl_append]

/-- Different tables have different places. -/
theorem lexical_tablePath_inj {root : Path} {k l : TableKind} {m n : String} (hm : '/' ∉ m.toList)
    (hn : '/' ∉ n.toList) (h : (tablePath root k m).lexical = (tablePath root l n).lexical) :
    k = l ∧ m = n := by
  rw [lexical_tablePath hm, lexical_tablePath hn] at h
  obtain ⟨hfolders, hname⟩ : k.folders = l.folders ∧ m ++ ".json" = n ++ ".json" := by
    simpa using (Path.mk.inj h).2
  refine ⟨?_, ?_⟩
  · cases k <;> cases l <;> first | rfl | exact absurd hfolders (by decide)
  · simpa using hname

end Storage

end ChatBot
