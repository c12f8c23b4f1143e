import Mathlib.Tactic
import ChatBot.Storage.FileTree

/-!
What saving a file does to the other files.

* `Path.lexical`: the place that a path leads to if it leads anywhere. `place_eq_lexical` says so;
* `Keeps t t' q`: from `t` to `t'` all folders stay, and so do all files but those at the place `q`;
* `makeFolders_keeps`: making folders changes no file;
* `folder_of_makeFolders`: a path leads to a folder once its folders are made;
* `read_of_keeps`: a file that is read stays as it is unless its place may change;
* `save_spec`: a file that is saved can be read, and no other file changes. `exists_save_of_read`:
  what can be read can be saved.
-/

namespace ChatBot.Storage

namespace Path

/-- The place that a name leads to from another place. -/
def follow (p : Path) (name : String) : Path := if name == above then p.up else p.child name

/-- The place that a path leads to if it leads anywhere: each `..` goes up
and each other name down. -/
def lexical (p : Path) : Path := p.names.foldl follow ⟨p.isAbsolute, []⟩

/-- The path of a file with the name `name` leads to the child of where its folder is. -/
lemma lexical_of_getLast? {p : Path} {name : String} (h : p.names.getLast? = some name)
    (hname : name ≠ above) : p.lexical = p.dropLast.lexical.child name := by
  have hsplit : p.names = p.names.dropLast ++ [name] := (List.dropLast_append_getLast? name h).symm
  rw [lexical, hsplit, List.foldl_append]
  simp only [List.foldl_cons, List.foldl_nil, follow, beq_iff_eq, hname, if_false]
  rfl

lemma isOutermost_child {p : Path} {name : String} (hname : name ≠ above) :
    (p.child name).isOutermost = false := by
  simp [isOutermost, child, hname]

end Path

namespace FileTree

variable {t t' t'' : FileTree}

/-! ### Where a path leads -/

lemma enter_eq_follow {folder next : Path} {name : String} (h : t.enter folder name = .ok next) :
    next = folder.follow name := by
  unfold enter at h
  unfold Path.follow
  split at h
  · next habove =>
    obtain rfl : folder.up = next := by simpa using h
    rw [if_pos habove]
  · next habove =>
    rw [if_neg habove]
    split at h
    · simp at h
    · split at h
      · exact (Except.ok.inj h).symm
      · simp at h
      · simp at h

lemma get?_eq_none_of_enter {folder : Path} {name : String}
    (h : t.enter folder name = .error .missing) : t.get? (folder.child name) = none := by
  unfold enter at h
  split at h
  · simp at h
  · split at h
    · simp at h
    · split at h
      · simp at h
      · simp at h
      · next hnone => exact hnone

lemma foldlM_enter_eq {names : List String} {folder last : Path}
    (h : names.foldlM t.enter folder = .ok last) : last = names.foldl Path.follow folder := by
  induction names generalizing folder with
  | nil => exact (Except.ok.inj h).symm
  | cons name rest ih =>
      rw [List.foldlM_cons] at h
      cases hnext : t.enter folder name with
      | error cause => simp [hnext, bind, Except.bind] at h
      | ok next =>
          rw [hnext] at h
          rw [List.foldl_cons, ← enter_eq_follow hnext]
          exact ih h

lemma folder_eq_lexical {p q : Path} (h : t.folder p = .ok q) : q = p.lexical := by
  unfold folder at h
  split at h
  · exact foldlM_enter_eq h
  · simp at h

lemma isProper_of_folder {p q : Path} (h : t.folder p = .ok q) : isProper p = true := by
  unfold folder at h
  split at h
  · next hproper => exact hproper
  · simp at h

/-- A path to a folder leads through folders. -/
lemma folder_of_folder_child {p q : Path} {name : String} (h : t.folder (p.child name) = .ok q) :
    ∃ folder, t.folder p = .ok folder := by
  have hall := isProper_of_folder h
  have hproper : isProper p = true := by
    rw [isProper, Path.child, List.all_append, Bool.and_eq_true] at hall
    exact hall.1
  rw [folder, if_pos hall, Path.child, List.foldlM_append] at h
  rw [folder, if_pos hproper]
  cases hp : p.names.foldlM t.enter ⟨p.isAbsolute, []⟩ with
  | ok folder => exact ⟨folder, rfl⟩
  | error cause => simp [hp, bind, Except.bind] at h

/-- All that makes a path lead to a place. -/
lemma place_eq_ok_iff {p q : Path} :
    t.place p = .ok q ↔ ∃ name, p.names.getLast? = some name ∧ isProper p = true ∧
      name ≠ Path.above ∧ isTooLong name = false ∧
      t.folder p.dropLast = .ok p.dropLast.lexical ∧ q = p.dropLast.lexical.child name := by
  unfold place
  constructor
  · intro h
    split at h
    · simp at h
    · next name hlast =>
      split at h
      · simp at h
      · next hok =>
        obtain ⟨hproper, hname⟩ : isProper p = true ∧ name ≠ Path.above := by simpa using hok
        cases hfolder : t.folder p.dropLast with
        | error cause => simp [hfolder, bind, Except.bind] at h
        | ok folder =>
            obtain rfl := folder_eq_lexical hfolder
            simp only [hfolder, bind, Except.bind] at h
            split at h
            · simp at h
            · next hlong =>
              exact ⟨name, hlast, hproper, hname, by simpa using hlong, rfl, (Except.ok.inj h).symm⟩
  · rintro ⟨name, hlast, hproper, hname, hlong, hfolder, rfl⟩
    simp only [hlast, hproper, Bool.not_true, Bool.false_or, beq_iff_eq, hname, if_false, hfolder,
      bind, Except.bind, hlong, Bool.false_eq_true]

/-- A path leads to no other than its place. -/
lemma place_eq_lexical {p q : Path} (h : t.place p = .ok q) : q = p.lexical := by
  obtain ⟨name, hlast, -, hname, -, -, rfl⟩ := place_eq_ok_iff.mp h
  exact (Path.lexical_of_getLast? hlast hname).symm

/-- Nothing is missing at an outermost place. -/
lemma isOutermost_eq_false_of_get? {x : Path} (hx : t.get? x = none) : x.isOutermost = false := by
  cases hout : x.isOutermost with
  | false => rfl
  | true => simp [get?, hout] at hx

lemma lookup_filter_ne {α : Type} {q x : Path} (hx : x ≠ q) (entries : List (Path × α)) :
    (entries.filter (·.1 != q)).lookup x = entries.lookup x := by
  induction entries with
  | nil => rfl
  | cons e rest ih =>
      obtain ⟨place, entry⟩ := e
      by_cases hplace : place = q
      · subst hplace
        simpa [List.lookup_cons, beq_eq_false_iff_ne.2 hx] using ih
      · rw [List.filter_cons_of_pos (by simpa using hplace), List.lookup_cons, List.lookup_cons, ih]

lemma get?_put_self {q : Path} {entry : Entry} (hq : q.isOutermost = false) :
    (t.put q entry).get? q = some entry := by
  simp [get?, hq, put]

lemma get?_put_of_ne {q x : Path} {entry : Entry} (hx : x ≠ q) :
    (t.put q entry).get? x = t.get? x := by
  unfold get? put
  split
  · rfl
  · rw [List.lookup_cons, beq_eq_false_iff_ne.2 hx]
    exact lookup_filter_ne hx _

/-! ### What stays -/

/-- From `t` to `t'` all folders stay, and so do all files but those at the places `q`. -/
structure Keeps (t t' : FileTree) (q : Path → Prop) : Prop where
  folder : ∀ x, t.get? x = some .folder → t'.get? x = some .folder
  file : ∀ x, ¬q x → ∀ body, t'.get? x = some (.file body) ↔ t.get? x = some (.file body)

lemma Keeps.refl (t : FileTree) (q : Path → Prop) : Keeps t t q := ⟨fun _ h => h, fun _ _ _ => .rfl⟩

lemma Keeps.trans {q r : Path → Prop} (h : Keeps t t' q) (h' : Keeps t' t'' r) :
    Keeps t t'' fun x => q x ∨ r x where
  folder x hx := h'.folder x (h.folder x hx)
  file x hx body := by
    rw [not_or] at hx
    exact (h'.file x hx.2 body).trans (h.file x hx.1 body)

lemma Keeps.mono {q r : Path → Prop} (h : Keeps t t' q) (hqr : ∀ x, q x → r x) : Keeps t t' r :=
  ⟨h.folder, fun x hx => h.file x fun hq => hx (hqr x hq)⟩

/-- A folder where nothing stands changes no file. -/
lemma keeps_put_folder {q : Path} (hq : t.get? q = none) :
    Keeps t (t.put q .folder) fun _ => False where
  folder x hx := by
    have hne : x ≠ q := by
      rintro rfl
      simp [hq] at hx
    rw [get?_put_of_ne hne, hx]
  file x _ body := by
    by_cases hx : x = q
    · subst hx
      have hout : x.isOutermost = false := isOutermost_eq_false_of_get? hq
      simp [get?_put_self hout, hq]
    · rw [get?_put_of_ne hx]

/-- A file in no folder's place changes no other file. -/
lemma keeps_put_file {q : Path} {body : String} (hq : t.get? q ≠ some .folder) :
    Keeps t (t.put q (.file body)) (· = q) where
  folder x hx := by
    have hne : x ≠ q := by
      rintro rfl
      exact hq hx
    rw [get?_put_of_ne hne, hx]
  file x hx _ := by rw [get?_put_of_ne hx]

lemma makeFrom_keeps (names : List String) (folder : Path) :
    Keeps t (t.makeFrom folder names).2 fun _ => False := by
  induction names generalizing t folder with
  | nil => exact Keeps.refl t _
  | cons name rest ih =>
      unfold makeFrom
      split
      · exact ih _
      · next hmissing =>
        have hnone := get?_eq_none_of_enter hmissing
        exact ((keeps_put_folder hnone).trans (ih _)).mono (by simp)
      · exact Keeps.refl t _

lemma makeFolders_keeps (p : Path) : Keeps t (t.makeFolders p).2 fun _ => False := by
  unfold makeFolders
  split
  · exact makeFrom_keeps _ _
  · exact Keeps.refl t _

lemma enter_of_keeps {q : Path → Prop} {folder next : Path} {name : String} (h : Keeps t t' q)
    (hn : t.enter folder name = .ok next) : t'.enter folder name = .ok next := by
  unfold enter at hn ⊢
  split at hn
  · next habove => rw [if_pos habove, hn]
  · next habove =>
    rw [if_neg habove]
    split at hn
    · simp at hn
    · next hlong =>
      rw [if_neg hlong]
      split at hn
      · next hfolder => rw [h.folder _ hfolder, hn]
      · simp at hn
      · simp at hn

lemma folder_of_keeps {q : Path → Prop} {p x : Path} (h : Keeps t t' q)
    (hp : t.folder p = .ok x) : t'.folder p = .ok x := by
  have hnames : ∀ (names : List String) (folder : Path),
      names.foldlM t.enter folder = .ok x → names.foldlM t'.enter folder = .ok x := by
    intro names
    induction names with
    | nil => exact fun _ hx => hx
    | cons name rest ih =>
        intro folder hx
        rw [List.foldlM_cons] at hx ⊢
        cases hnext : t.enter folder name with
        | error cause => simp [hnext, bind, Except.bind] at hx
        | ok next =>
            rw [hnext] at hx
            rw [enter_of_keeps h hnext]
            exact ih next hx
  unfold folder at hp ⊢
  split at hp
  · next hproper =>
    rw [if_pos hproper]
    exact hnames _ _ hp
  · simp at hp

/-- A folder that was missing can be entered once it is made. -/
lemma enter_put_folder {folder : Path} {name : String}
    (h : t.enter folder name = .error .missing) :
    (t.put (folder.child name) .folder).enter folder name = .ok (folder.child name) := by
  have hout := isOutermost_eq_false_of_get? (get?_eq_none_of_enter h)
  unfold enter at h ⊢
  split at h
  · simp at h
  · next habove =>
    rw [if_neg habove]
    split at h
    · simp at h
    · next hlong =>
      rw [if_neg hlong, get?_put_self hout]

lemma foldlM_enter_of_makeFrom {names : List String} {folder : Path}
    (h : t.makeFrom folder names = (.ok (), t')) :
    ∃ last, names.foldlM t'.enter folder = .ok last := by
  induction names generalizing t folder with
  | nil => exact ⟨folder, rfl⟩
  | cons name rest ih =>
      -- the first folder can be entered in a tree from which all folders stay
      have hfirst : ∀ {made : FileTree} {next : Path}, made.enter folder name = .ok next →
          made.makeFrom next rest = (.ok (), t') →
          ∃ last, (name :: rest).foldlM t'.enter folder = .ok last := by
        intro made next henter hmade
        have hkeeps : Keeps made t' fun _ => False := by
          simpa only [hmade] using makeFrom_keeps (t := made) rest next
        rw [List.foldlM_cons, enter_of_keeps hkeeps henter]
        exact ih hmade
      unfold makeFrom at h
      split at h
      · next henter => exact hfirst henter h
      · next hmissing => exact hfirst (enter_put_folder hmissing) h
      · simp at h

/-- A path leads to a folder once its folders are made. -/
lemma folder_of_makeFolders {p : Path} (h : t.makeFolders p = (.ok (), t')) :
    ∃ last, t'.folder p = .ok last := by
  unfold makeFolders at h
  split at h
  · next hproper =>
    rw [folder, if_pos hproper]
    exact foldlM_enter_of_makeFrom h
  · simp at h

/-- A path that leads to a place still leads there. -/
lemma place_of_keeps {q : Path → Prop} {p x : Path} (h : Keeps t t' q) (hp : t.place p = .ok x) :
    t'.place p = .ok x := by
  obtain ⟨name, hlast, hproper, hname, hlong, hfolder, rfl⟩ := place_eq_ok_iff.mp hp
  exact place_eq_ok_iff.mpr ⟨name, hlast, hproper, hname, hlong, folder_of_keeps h hfolder, rfl⟩

/-! ### Reading and saving a file -/

lemma read_eq_ok_iff {p : Path} {body : String} :
    t.read p = .ok body ↔ t.place p = .ok p.lexical ∧ t.get? p.lexical = some (.file body) := by
  unfold read
  cases hplace : t.place p with
  | error cause => simp [bind, Except.bind]
  | ok q =>
      obtain rfl := place_eq_lexical hplace
      simp only [bind, Except.bind, true_and]
      split
      · next hget => simp [hget]
      · next hget => simp [hget]
      · next hget => simp [hget]

/-- A file that is read stays as it is, unless it is one of those that may change. -/
lemma read_of_keeps {q : Path → Prop} {p : Path} {body : String} (h : Keeps t t' q)
    (hq : ¬q p.lexical) (hp : t.read p = .ok body) : t'.read p = .ok body := by
  obtain ⟨hplace, hget⟩ := read_eq_ok_iff.mp hp
  exact read_eq_ok_iff.mpr ⟨place_of_keeps h hplace, (h.file _ hq body).mpr hget⟩

/-- A file that is written can be read, and no other file changes. -/
lemma write_spec {p : Path} {body : String} (h : t.write p body = .ok t') :
    t'.read p = .ok body ∧ Keeps t t' (· = p.lexical) := by
  unfold write at h
  cases hplace : t.place p with
  | error cause => simp [hplace, bind, Except.bind] at h
  | ok q =>
      obtain rfl := place_eq_lexical hplace
      simp only [hplace, bind, Except.bind] at h
      split at h
      · simp at h
      · next hget =>
        obtain rfl := Except.ok.inj h
        have hkeeps : Keeps t (t.put p.lexical (.file body)) (· = p.lexical) := keeps_put_file hget
        obtain ⟨name, hlast, -, hname, -, -, -⟩ := place_eq_ok_iff.mp hplace
        have hout : p.lexical.isOutermost = false := by
          rw [Path.lexical_of_getLast? hlast hname]
          exact Path.isOutermost_child hname
        exact ⟨read_eq_ok_iff.mpr ⟨place_of_keeps hkeeps hplace, get?_put_self hout⟩, hkeeps⟩

/-- A file that is saved can be read, and no other file changes. -/
theorem save_spec {p : Path} {body : String} (h : t.save p body = (.ok (), t')) :
    t'.read p = .ok body ∧ Keeps t t' (· = p.lexical) := by
  unfold save at h
  have hfolders : Keeps t (t.makeFolders p.dropLast).2 fun _ => False := makeFolders_keeps _
  split at h
  · simp at h
  · next made hmade =>
    rw [hmade] at hfolders
    split at h
    · next written hwritten =>
      obtain rfl : written = t' := by simpa using h
      obtain ⟨hread, hkeeps⟩ := write_spec hwritten
      exact ⟨hread, (hfolders.trans hkeeps).mono (by simp)⟩
    · simp at h

/-! ### Saving over a file -/

lemma makeFrom_of_foldlM_enter {names : List String} {folder last : Path}
    (h : names.foldlM t.enter folder = .ok last) : t.makeFrom folder names = (.ok (), t) := by
  induction names generalizing folder with
  | nil => rfl
  | cons name rest ih =>
      rw [List.foldlM_cons] at h
      cases hnext : t.enter folder name with
      | error cause => simp [hnext, bind, Except.bind] at h
      | ok next =>
          rw [hnext] at h
          rw [makeFrom, hnext]
          exact ih h

/-- Where a path leads to a folder, none has to be made. -/
lemma makeFolders_of_folder {p last : Path} (h : t.folder p = .ok last) :
    t.makeFolders p = (.ok (), t) := by
  unfold folder at h
  split at h
  · next hproper =>
    rw [makeFolders, if_pos hproper]
    exact makeFrom_of_foldlM_enter h
  · cases h

/-- A file that can be read can be saved. -/
lemma exists_save_of_read {p : Path} {body : String} (h : t.read p = .ok body) (body' : String) :
    ∃ t', t.save p body' = (.ok (), t') := by
  obtain ⟨hplace, hget⟩ := read_eq_ok_iff.mp h
  obtain ⟨name, -, -, -, -, hfolder, -⟩ := place_eq_ok_iff.mp hplace
  have hwrite : t.write p body' = .ok (t.put p.lexical (.file body')) := by
    rw [write, hplace]
    simp only [bind, Except.bind, hget]
  rw [save, makeFolders_of_folder hfolder]
  simp only [hwrite]
  exact ⟨_, rfl⟩

end FileTree

end ChatBot.Storage
