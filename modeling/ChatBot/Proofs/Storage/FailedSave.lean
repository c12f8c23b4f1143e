import ChatBot.Proofs.Storage.Channel

/-!
What is left when a file cannot be saved.

* `read_eq_of_keeps`: where folders are made, only a file that is missing
  may be found in another way;
* `save_error_keeps`: a file that cannot be saved leaves all files, but perhaps more folders;
* `Rooted`: what stands anywhere stands in a folder. `CanStand`: a file may have the name;
* `save_error_eq`: no folder is left either, if the folder of the file was there, or if the names on
  its path can all be had by files.
-/

namespace ChatBot.Storage.FileTree

variable {t t' : FileTree} {q : Path → Prop}

/-! ### Paths that cannot be used -/

section Unusable

variable (h : Keeps t t' q) (hq : ∀ x, q x → ∃ body, t'.get? x = some (.file body))

include h hq

/-- Where a file stands, one still does. -/
lemma Keeps.exists_file {x : Path} {body : String} (hx : t.get? x = some (.file body)) :
    ∃ body, t'.get? x = some (.file body) := by
  by_cases hqx : q x
  · exact hq x hqx
  · exact ⟨body, (h.file x hqx body).mpr hx⟩

lemma Keeps.enter_unusable {folder : Path} {name : String}
    (hn : t.enter folder name = .error .unusable) : t'.enter folder name = .error .unusable := by
  unfold enter at hn ⊢
  split at hn
  · cases hn
  · next habove =>
    rw [if_neg habove]
    split at hn
    · next hlong => rw [if_pos hlong]
    · next hlong =>
      rw [if_neg hlong]
      split at hn
      · cases hn
      · next hfile =>
        obtain ⟨body, hbody⟩ := h.exists_file hq hfile
        rw [hbody]
      · cases hn

lemma Keeps.folder_unusable {p : Path} (hp : t.folder p = .error .unusable) :
    t'.folder p = .error .unusable := by
  have hnames : ∀ (names : List String) (folder : Path),
      names.foldlM t.enter folder = .error .unusable →
      names.foldlM t'.enter folder = .error .unusable := by
    intro names
    induction names with
    | nil => exact fun _ hx => nomatch hx
    | cons name rest ih =>
        intro folder hx
        rw [List.foldlM_cons] at hx ⊢
        cases hnext : t.enter folder name with
        | error cause =>
            obtain rfl : cause = .unusable := by simpa [hnext, bind, Except.bind] using hx
            rw [h.enter_unusable hq hnext]
            rfl
        | ok next =>
            rw [hnext] at hx
            rw [enter_of_keeps h hnext]
            exact ih next hx
  unfold FileTree.folder at hp ⊢
  split at hp
  · next hproper =>
    rw [if_pos hproper]
    exact hnames _ _ hp
  · next hproper => rw [if_neg hproper]

lemma Keeps.place_unusable {p : Path} (hp : t.place p = .error .unusable) :
    t'.place p = .error .unusable := by
  unfold place at hp ⊢
  split at hp
  · rfl
  · next name hlast =>
    split at hp
    · next hbad => rw [if_pos hbad]
    · next hok =>
      rw [if_neg hok]
      cases hfolder : t.folder p.dropLast with
      | error cause =>
          obtain rfl : cause = .unusable := by simpa [hfolder, bind, Except.bind] using hp
          rw [h.folder_unusable hq hfolder]
          rfl
      | ok folder =>
          rw [hfolder] at hp
          rw [folder_of_keeps h hfolder]
          exact hp

/-- A path along which nothing could be read is still such a path. -/
lemma Keeps.read_unusable {p : Path} (hp : t.read p = .error .unusable) :
    t'.read p = .error .unusable := by
  unfold read at hp ⊢
  cases hplace : t.place p with
  | error cause =>
      obtain rfl : cause = .unusable := by simpa [hplace, bind, Except.bind] using hp
      rw [h.place_unusable hq hplace]
      rfl
  | ok x =>
      rw [place_of_keeps h hplace]
      simp only [hplace, bind, Except.bind] at hp ⊢
      split at hp
      · cases hp
      · next hfolder => rw [h.folder x hfolder]
      · cases hp

end Unusable

/-- A file that cannot be saved leaves what stood before, and the folders on its path so far as they
could be made. -/
lemma save_error_eq_makeFolders {p : Path} {body : String} {cause : FileError}
    (h : t.save p body = (.error cause, t')) : t' = (t.makeFolders p.dropLast).2 := by
  unfold save at h
  split at h
  · next hmade =>
    rw [hmade]
    exact (congrArg Prod.snd h).symm
  · next hmade =>
    rw [hmade]
    split at h
    · exact nomatch congrArg Prod.fst h
    · exact (congrArg Prod.snd h).symm

lemma save_error_keeps {p : Path} {body : String} {cause : FileError}
    (h : t.save p body = (.error cause, t')) : Keeps t t' fun _ => False := by
  rw [save_error_eq_makeFolders h]
  exact makeFolders_keeps _

/-! ### Trees -/

/-- What stands anywhere stands in a folder. -/
def Rooted (t : FileTree) : Prop :=
  ∀ (folder : Path) (name : String),
    t.get? (folder.child name) ≠ none → t.get? folder = some .folder

/-- A file can have the name. -/
def CanStand (name : String) : Prop :=
  name ≠ Path.above ∧ isTooLong name = false ∧ '\x00' ∉ name.toList

/-- The place of some names behind another. -/
def descend (place : Path) (names : List String) : Path := ⟨place.isAbsolute, place.names ++ names⟩

lemma descend_nil (place : Path) : descend place [] = place := by
  simp [descend]

lemma descend_child (place : Path) (name : String) (names : List String) :
    descend (place.child name) names = descend place (name :: names) := by
  simp [descend, Path.child]

lemma descend_concat (place : Path) (names : List String) (name : String) :
    descend place (names ++ [name]) = (descend place names).child name := by
  simp [descend, Path.child]

/-- Below nothing there is nothing. -/
lemma Rooted.get?_descend (h : t.Rooted) {place : Path} (hplace : t.get? place = none)
    (names : List String) : t.get? (descend place names) = none := by
  induction names using List.reverseRecOn with
  | nil => rwa [descend_nil]
  | append_singleton names name ih =>
      rw [descend_concat]
      by_contra hsome
      rw [h _ _ hsome] at ih
      cases ih

lemma enter_of_canStand {folder : Path} {name : String} (hname : CanStand name) :
    t.enter folder name =
      match t.get? (folder.child name) with
      | some .folder => .ok (folder.child name)
      | some (.file _) => .error .unusable
      | none => .error .missing := by
  obtain ⟨habove, hlong, -⟩ := hname
  unfold enter
  exact (if_neg (by simpa using habove)).trans (if_neg (by simp [hlong]))

/-- Folders can be made where nothing stands, and nothing stands in the last one. -/
lemma makeFrom_of_missing {name : String} {rest : List String}
    (hnames : ∀ n ∈ name :: rest, CanStand n) {folder : Path}
    (hmissing : ∀ below, t.get? (descend folder (name :: below)) = none) :
    ∃ t', t.makeFrom folder (name :: rest) = (.ok (), t') ∧
      ∀ below, below ≠ [] → t'.get? (descend folder (name :: rest ++ below)) = none := by
  induction rest generalizing t folder name with
  | nil =>
      obtain ⟨hname, -⟩ := List.forall_mem_cons.mp hnames
      rw [makeFrom, enter_of_canStand hname, ← descend_nil (folder.child name), descend_child,
        hmissing []]
      refine ⟨_, rfl, fun below hbelow => ?_⟩
      rw [get?_put_of_ne (by simpa [descend] using hbelow)]
      exact hmissing below
  | cons next rest ih =>
      obtain ⟨hname, hrest⟩ := List.forall_mem_cons.mp hnames
      rw [makeFrom, enter_of_canStand hname, ← descend_nil (folder.child name), descend_child,
        hmissing []]
      have hinside : ∀ below, (t.put (descend folder [name]) .folder).get?
          (descend (descend folder [name]) (next :: below)) = none := by
        intro below
        rw [get?_put_of_ne (by simp [descend]), ← hmissing (next :: below)]
        simp [descend]
      obtain ⟨t', hmade, ht'⟩ := ih hrest hinside
      refine ⟨t', hmade, fun below hbelow => ?_⟩
      simpa [descend] using ht' below hbelow

/-- Either no folder is made, or all are, and nothing stands in the last one. -/
lemma makeFrom_cases (hrooted : t.Rooted) {names : List String}
    (hnames : ∀ name ∈ names, CanStand name) (folder : Path) :
    (t.makeFrom folder names).2 = t ∨ ∃ t', t.makeFrom folder names = (.ok (), t') ∧
      ∀ below, below ≠ [] → t'.get? (descend folder (names ++ below)) = none := by
  induction names generalizing folder with
  | nil => exact .inl rfl
  | cons name rest ih =>
      obtain ⟨hname, hrest⟩ := List.forall_mem_cons.mp hnames
      cases hfirst : t.get? (folder.child name) with
      | none =>
          refine .inr (makeFrom_of_missing hnames fun below => ?_)
          rw [← descend_child]
          exact hrooted.get?_descend hfirst below
      | some entry =>
          rw [makeFrom, enter_of_canStand hname, hfirst]
          cases entry with
          | file body => exact .inl rfl
          | folder =>
              simp only [List.cons_append, ← descend_child]
              exact ih hrest (folder.child name)

lemma isProper_of_canStand {p : Path} (h : ∀ name ∈ p.names, CanStand name) :
    isProper p = true := by
  rw [isProper, List.all_eq_true]
  intro name hname
  simpa using (h name hname).2.2

/-- A file can be written into a folder where nothing stands. -/
lemma exists_write {p : Path} {name : String} (hlast : p.names.getLast? = some name)
    (hnames : ∀ name ∈ p.names, CanStand name) {folder : Path}
    (hfolder : t.folder p.dropLast = .ok folder)
    (hnone : t.get? (p.dropLast.lexical.child name) = none) (body : String) :
    ∃ t', t.write p body = .ok t' := by
  obtain ⟨habove, hlong, -⟩ := hnames name (List.mem_of_getLast? hlast)
  have hplace : t.place p = .ok (p.dropLast.lexical.child name) :=
    place_eq_ok_iff.mpr ⟨name, hlast, isProper_of_canStand hnames, habove, hlong,
      by rw [hfolder, folder_eq_lexical hfolder], rfl⟩
  rw [write, hplace]
  simp only [bind, Except.bind, hnone]
  exact ⟨_, rfl⟩

/-- **Files that cannot be saved**: if files can have the names on the path of a file, then nothing
is left when it cannot be saved. -/
theorem save_error_eq (hrooted : t.Rooted) {p : Path} (hnames : ∀ name ∈ p.names, CanStand name)
    {body : String} {cause : FileError} (h : t.save p body = (.error cause, t')) : t' = t := by
  have hdrop : ∀ name ∈ p.dropLast.names, CanStand name :=
    fun name hname => hnames name (List.dropLast_subset _ hname)
  have hmake : t.makeFolders p.dropLast = t.makeFrom ⟨p.isAbsolute, []⟩ p.dropLast.names := by
    rw [makeFolders, if_pos (isProper_of_canStand hdrop)]
    rfl
  rcases makeFrom_cases hrooted hdrop ⟨p.isAbsolute, []⟩ with hsame | ⟨made, hmade, hempty⟩
  · rw [save_error_eq_makeFolders h, hmake, hsame]
  · rw [← hmake] at hmade
    cases hlast : p.names.getLast? with
    | none =>
        have hnil : p.dropLast.names = [] := by
          rw [Path.dropLast, List.getLast?_eq_none_iff.mp hlast]
          rfl
        rw [save_error_eq_makeFolders h, hmake, hnil]
        rfl
    | some name =>
        -- the folder has just been made, so the file could have been written
        obtain ⟨folder, hfolder⟩ := folder_of_makeFolders hmade
        have hlexical : p.dropLast.lexical = ⟨p.isAbsolute, p.dropLast.names⟩ := by
          rw [Path.lexical, foldl_follow_of_ne fun name hname => (hdrop name hname).1]
          rfl
        have hnone : made.get? (p.dropLast.lexical.child name) = none := by
          rw [hlexical]
          exact hempty [name] (by simp)
        obtain ⟨written, hwritten⟩ := exists_write hlast hnames hfolder hnone body
        simp only [save, hmade, hwritten] at h
        cases congrArg Prod.fst h

/-- Nothing is left of a file that cannot be saved, if its folder was there. -/
lemma save_error_eq_of_folder {p folder : Path} (hfolder : t.folder p.dropLast = .ok folder)
    {body : String} {cause : FileError} (h : t.save p body = (.error cause, t')) : t' = t := by
  rw [save_error_eq_makeFolders h, makeFolders_of_folder hfolder]

end ChatBot.Storage.FileTree
