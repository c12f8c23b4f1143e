import ChatBot.Proofs.Storage.FailedSave

/-!
What saving a file leaves of the others.

* `foldlM_enter_ne_unusable_iff`: where everything stands in a folder, a way cannot be walked
  only if a file stands on it;
* `IsClear`: nothing comes to light along a path when folders are made. Its folder is there, or
  everything stands in a folder and files can have the names on the path;
* `get?_eq_none_of_read`: nothing stands where a file is missing;
* `exists_save_of_isClear`: a file that is there or missing can be saved;
* `get?_makeFrom`, `get?_save`: nothing else changes but folders on the way;
* `Rooted.save`: everything still stands in a folder;
* `read_missing_of_save`: a file that is missing stays so, unless it is saved or
  something is made on its way.
-/

namespace ChatBot.Storage.FileTree

variable {t t' : FileTree} {p q : Path} {f g place : Path} {name : String} {names : List String}

/-! ### Ways -/

/-- Below what is no folder there is nothing. -/
lemma Rooted.get?_below (h : t.Rooted) (hplace : t.get? place ≠ some .folder)
    (hnames : names ≠ []) : t.get? (descend place names) = none := by
  induction names using List.reverseRecOn with
  | nil => exact absurd rfl hnames
  | append_singleton names name ih =>
      rw [descend_concat]
      by_contra hsome
      have hfolder := h _ _ hsome
      by_cases hnil : names = []
      · rw [hnil, descend_nil] at hfolder
        exact hplace hfolder
      · rw [ih hnil] at hfolder
        cases hfolder

/-- Where everything stands in a folder, a way can be walked or ends early
exactly if no file stands on it. -/
lemma foldlM_enter_ne_unusable_iff (h : t.Rooted) (hnames : ∀ name ∈ names, CanStand name) :
    names.foldlM t.enter f ≠ .error .unusable ↔
      ∀ way, way ≠ [] → way <+: names → ∀ body, t.get? (descend f way) ≠ some (.file body) := by
  induction names generalizing f with
  | nil =>
      refine iff_of_true (by simp [pure, Except.pure]) fun way hway hnil => ?_
      exact absurd (List.prefix_nil.mp hnil) hway
  | cons name rest ih =>
      obtain ⟨hname, hrest⟩ := List.forall_mem_cons.mp hnames
      have hways : (∀ way, way ≠ [] → way <+: name :: rest → ∀ body,
          t.get? (descend f way) ≠ some (.file body)) ↔
          ∀ way, way <+: rest →
          ∀ body, t.get? (descend (f.child name) way) ≠ some (.file body) := by
        constructor
        · intro hall way hway
          rw [descend_child]
          exact hall _ (List.cons_ne_nil _ _) (List.prefix_cons_inj name |>.mpr hway)
        · rintro hall way hne hway
          obtain rfl | ⟨others, rfl, hothers⟩ := List.prefix_cons_iff.mp hway
          · exact absurd rfl hne
          · rw [← descend_child]
            exact hall others hothers
      rw [List.foldlM_cons, enter_of_canStand hname, hways]
      cases hfirst : t.get? (f.child name) with
      | none =>
          refine iff_of_true (by simp [bind, Except.bind]) fun way _ body => ?_
          rw [h.get?_descend hfirst]
          simp
      | some entry =>
          cases entry with
          | file body =>
              refine iff_of_false (by simp [bind, Except.bind]) fun hall => ?_
              refine hall [] List.nil_prefix body ?_
              rw [descend_nil, hfirst]
          | folder =>
              refine (ih hrest).trans ⟨fun hall way hway body => ?_, fun hall way _ => hall way⟩
              by_cases hnil : way = []
              · rw [hnil, descend_nil, hfirst]
                simp
              · exact hall way hnil hway body

/-- The way to something can be walked. -/
lemma foldlM_enter_of_get? (h : t.Rooted) (hnames : ∀ name ∈ names, CanStand name)
    (hget : t.get? (descend f names) = some .folder) :
    names.foldlM t.enter f = .ok (descend f names) := by
  induction names generalizing f with
  | nil => rw [descend_nil]; rfl
  | cons name rest ih =>
      obtain ⟨hname, hrest⟩ := List.forall_mem_cons.mp hnames
      rw [← descend_child] at hget ⊢
      have hfirst : t.get? (f.child name) = some .folder := by
        by_cases hnil : rest = []
        · rwa [hnil, descend_nil] at hget
        · by_contra hne
          rw [h.get?_below hne hnil] at hget
          cases hget
      rw [List.foldlM_cons, enter_of_canStand hname, hfirst]
      exact ih hrest hget

/-- A way that can be walked ends at a folder. -/
lemma get?_of_foldlM_enter (hnames : ∀ name ∈ names, CanStand name) (hf : t.get? f = some .folder)
    (hwalk : names.foldlM t.enter f = .ok g) : t.get? g = some .folder := by
  induction names generalizing f with
  | nil => rwa [← Except.ok.inj hwalk]
  | cons name rest ih =>
      obtain ⟨hname, hrest⟩ := List.forall_mem_cons.mp hnames
      rw [List.foldlM_cons, enter_of_canStand hname] at hwalk
      cases hfirst : t.get? (f.child name) with
      | none => simp [hfirst, bind, Except.bind] at hwalk
      | some entry =>
          rw [hfirst] at hwalk
          cases entry with
          | file body => simp [bind, Except.bind] at hwalk
          | folder => exact ih hrest hfirst hwalk

/-! ### Clear paths -/

/-- Nothing comes to light along the path when folders are made: its folder is there, or everything
stands in a folder and files can have the names on the path. -/
def IsClear (t : FileTree) (p : Path) : Prop :=
  (∃ folder, t.folder p.dropLast = .ok folder) ∨ (t.Rooted ∧ ∀ name ∈ p.names, CanStand name)

/-- Where one starts. -/
lemma get?_start (b : Bool) : t.get? ⟨b, []⟩ = some .folder := rfl

lemma lexical_of_canStand (hnames : ∀ name ∈ p.names, CanStand name) : p.lexical = p := by
  rw [Path.lexical, foldl_follow_of_ne fun name hname => (hnames name hname).1]
  rfl

lemma canStand_dropLast (hnames : ∀ name ∈ p.names, CanStand name) :
    ∀ name ∈ p.dropLast.names, CanStand name :=
  fun name hname => hnames name (List.dropLast_subset _ hname)

lemma folder_of_canStand (hnames : ∀ name ∈ p.names, CanStand name) :
    t.folder p = p.names.foldlM t.enter ⟨p.isAbsolute, []⟩ := by
  rw [folder, if_pos (isProper_of_canStand hnames)]

lemma descend_start (p : Path) : descend ⟨p.isAbsolute, []⟩ p.names = p := by
  simp [descend]

/-- Where a path leads to its folder, it leads to a place or cannot be used. -/
lemma place_of_folder (hfolder : t.folder p.dropLast = .ok g) :
    t.place p = .ok p.lexical ∨ t.place p = .error .unusable := by
  cases hplace : t.place p with
  | ok x => exact .inl (by rw [place_eq_lexical hplace])
  | error cause =>
      unfold place at hplace
      split at hplace
      · exact .inr hplace.symm
      · split at hplace
        · exact .inr hplace.symm
        · simp only [hfolder, bind, Except.bind] at hplace
          split at hplace
          · exact .inr hplace.symm
          · cases hplace

lemma place_of_canStand (hnames : ∀ name ∈ p.names, CanStand name) (hne : p.names ≠ []) :
    t.place p = (t.folder p.dropLast).map fun _ => p := by
  have hlast := List.getLast?_eq_some_getLast hne
  obtain ⟨habove, hlong, -⟩ := hnames _ (List.getLast_mem hne)
  cases hfolder : t.folder p.dropLast with
  | ok folder =>
      have hplace := place_eq_ok_iff.mpr ⟨_, hlast, isProper_of_canStand hnames, habove, hlong,
        by rw [hfolder, folder_eq_lexical hfolder], rfl⟩
      rw [hplace, place_eq_lexical hplace, lexical_of_canStand hnames]
      rfl
  | error cause =>
      have hok : ¬(!isProper p || p.names.getLast hne == Path.above) = true := by
        simp [isProper_of_canStand hnames, habove]
      unfold place
      simp only [hlast, if_neg hok, hfolder, bind, Except.bind]
      rfl

/-- A path that leads to a place is read there. -/
lemma read_of_place (hplace : t.place p = .ok q) :
    t.read p = match t.get? q with
      | some (.file body) => .ok body
      | some .folder => .error .unusable
      | none => .error .missing := by
  rw [read, hplace]
  rfl

lemma read_of_place_error {cause : FileError} (hplace : t.place p = .error cause) :
    t.read p = .error cause := by
  rw [read, hplace]
  rfl

/-- The path of what stands somewhere leads there. -/
lemma place_of_get? (h : t.Rooted) (hnames : ∀ name ∈ p.names, CanStand name) (hne : p.names ≠ [])
    (hget : t.get? p ≠ none) : t.place p = .ok p := by
  have hdrop := canStand_dropLast hnames
  have hchild : p = p.dropLast.child (p.names.getLast hne) := by
    rw [Path.child, Path.dropLast, List.dropLast_append_getLast hne]
  have hfolder : t.get? (descend ⟨p.dropLast.isAbsolute, []⟩ p.dropLast.names) = some .folder := by
    rw [descend_start]
    rw [hchild] at hget
    exact h _ _ hget
  have hwalk := foldlM_enter_of_get? h hdrop hfolder
  rw [descend_start, ← folder_of_canStand hdrop] at hwalk
  rw [place_of_canStand hnames hne, hwalk]
  rfl

/-- Nothing stands where a file is missing. -/
lemma get?_eq_none_of_read (h : t.IsClear p) (hne : p.names ≠ [])
    (hread : t.read p = .error .missing) : t.get? p.lexical = none := by
  rcases h with ⟨folder, hfolder⟩ | ⟨hrooted, hnames⟩
  · rcases place_of_folder hfolder with hplace | hplace
    · rw [read_of_place hplace] at hread
      split at hread
      · cases hread
      · cases hread
      · next hnone => exact hnone
    · rw [read_of_place_error hplace] at hread
      cases hread
  · rw [lexical_of_canStand hnames]
    by_contra hsome
    rw [read_of_place (place_of_get? hrooted hnames hne hsome)] at hread
    split at hread
    · cases hread
    · cases hread
    · next hnone => exact hsome hnone

/-! ### Making folders -/

/-- Folders are made only on the way. -/
lemma get?_makeFrom (hnames : ∀ name ∈ names, CanStand name) (f x : Path) :
    (t.makeFrom f names).2.get? x = t.get? x ∨
      ((t.makeFrom f names).2.get? x = some .folder ∧
        ∃ way, way <+: names ∧ x = descend f way) := by
  induction names generalizing t f with
  | nil => exact .inl rfl
  | cons name rest ih =>
      obtain ⟨hname, hrest⟩ := List.forall_mem_cons.mp hnames
      have hway : ∀ {made : FileTree},
        ((made.makeFrom (f.child name) rest).2.get? x = some .folder ∧
          ∃ way, way <+: rest ∧ x = descend (f.child name) way) →
          (made.makeFrom (f.child name) rest).2.get? x = some .folder ∧
            ∃ way, way <+: name :: rest ∧ x = descend f way := by
        rintro made ⟨hfolder, way, hway, hx⟩
        exact ⟨hfolder, name :: way,
          (List.prefix_cons_inj name).mpr hway, by rw [hx, descend_child]⟩
      rw [makeFrom, enter_of_canStand hname]
      cases hfirst : t.get? (f.child name) with
      | none =>
          simp only
          rcases ih (t := t.put (f.child name) .folder) hrest (f.child name) with hsame | hmade
          · by_cases hx : x = f.child name
            · subst hx
              have hout := isOutermost_eq_false_of_get? hfirst
              refine .inr ⟨by rw [hsame, get?_put_self hout], [name], ?_, ?_⟩
              · exact (List.prefix_cons_inj name).mpr List.nil_prefix
              · rw [← descend_child, descend_nil]
            · rw [hsame, get?_put_of_ne hx]
              exact .inl rfl
          · exact .inr (hway hmade)
      | some entry =>
          cases entry with
          | file body => exact .inl rfl
          | folder => exact (ih hrest (f.child name)).imp id hway

/-- Folders that are there are walked through, and only the others made. -/
lemma makeFrom_append (hwalk : names.foldlM t.enter f = .ok g) (others : List String) :
    t.makeFrom f (names ++ others) = t.makeFrom g others := by
  induction names generalizing f with
  | nil => rw [← Except.ok.inj hwalk]; rfl
  | cons name rest ih =>
      rw [List.foldlM_cons] at hwalk
      cases hnext : t.enter f name with
      | error cause => simp [hnext, bind, Except.bind] at hwalk
      | ok next =>
          rw [hnext] at hwalk
          rw [List.cons_append, makeFrom, hnext]
          exact ih hwalk

/-- Folders can be made on a way that no file stands on. -/
lemma exists_makeFrom (h : t.Rooted) (hnames : ∀ name ∈ names, CanStand name)
    (hwalk : names.foldlM t.enter f ≠ .error .unusable) :
    ∃ t', t.makeFrom f names = (.ok (), t') := by
  induction names generalizing f with
  | nil => exact ⟨t, rfl⟩
  | cons name rest ih =>
      obtain ⟨hname, hrest⟩ := List.forall_mem_cons.mp hnames
      cases hfirst : t.get? (f.child name) with
      | none =>
          obtain ⟨t', hmade, -⟩ := makeFrom_of_missing hnames fun below => by
            rw [← descend_child]
            exact h.get?_descend hfirst below
          exact ⟨t', hmade⟩
      | some entry =>
          rw [List.foldlM_cons, enter_of_canStand hname, hfirst] at hwalk
          rw [makeFrom, enter_of_canStand hname, hfirst]
          cases entry with
          | file body => simp [bind, Except.bind] at hwalk
          | folder => exact ih hrest hwalk

/-- A path does not lead to where its folder is. -/
lemma ne_descend_dropLast (hne : p.names ≠ []) {way : List String}
    (hway : way <+: p.dropLast.names) : p ≠ descend ⟨p.dropLast.isAbsolute, []⟩ way := by
  intro h
  have hlength := congrArg (fun x => x.names.length) h
  have hle := hway.length_le
  have hpos := List.length_pos_iff.mpr hne
  simp only [descend, List.nil_append] at hlength
  simp only [Path.dropLast, List.length_dropLast] at hle
  omega

/-! ### Saving a file -/

/-- A file is saved after its folders are made, or only those of its
folders are made that can be. -/
lemma save_cases {body : String} {r : Except FileError Unit} (h : t.save p body = (r, t')) :
    (∃ cause, r = .error cause ∧ t' = (t.makeFolders p.dropLast).2) ∨
      r = .ok () ∧ (t.makeFolders p.dropLast).2.place p = .ok p.lexical ∧
        (t.makeFolders p.dropLast).2.get? p.lexical ≠ some .folder ∧
        t' = (t.makeFolders p.dropLast).2.put p.lexical (.file body) := by
  cases r with
  | error cause => exact .inl ⟨cause, rfl, save_error_eq_makeFolders h⟩
  | ok =>
      refine .inr ⟨rfl, ?_⟩
      unfold save at h
      split at h
      · cases congrArg Prod.fst h
      · next made hmade =>
        rw [hmade]
        split at h
        · next written hwritten =>
          obtain rfl : written = t' := congrArg Prod.snd h
          unfold write at hwritten
          cases hplace : made.place p with
          | error cause => simp [hplace, bind, Except.bind] at hwritten
          | ok x =>
              obtain rfl := place_eq_lexical hplace
              simp only [hplace, bind, Except.bind] at hwritten
              split at hwritten
              · cases hwritten
              · next hget => exact ⟨rfl, hget, (Except.ok.inj hwritten).symm⟩
        · cases congrArg Prod.fst h

/-- A path that is not the one saved and where no folder is made has what it had. -/
lemma get?_save {body : String} {r : Except FileError Unit} (h : t.save p body = (r, t')) {x : Path}
    (hx : x ≠ p.lexical) : t'.get? x = (t.makeFolders p.dropLast).2.get? x := by
  rcases save_cases h with ⟨cause, -, rfl⟩ | ⟨-, -, -, rfl⟩
  · rfl
  · exact get?_put_of_ne hx

lemma child_inj {name' : String} (h : f.child name = g.child name') : f = g ∧ name = name' := by
  obtain ⟨b, ms⟩ := f
  obtain ⟨c, ns⟩ := g
  obtain ⟨rfl, hnames⟩ := Path.mk.inj h
  obtain ⟨rfl, hname⟩ := List.append_inj' hnames rfl
  exact ⟨rfl, List.singleton_inj.mp hname⟩

lemma ne_child (f : Path) (name : String) : f ≠ f.child name := by
  intro h
  have := congrArg (fun x => x.names.length) h
  simp [Path.child] at this

/-- Everything still stands in a folder when something is put into one, but in place of no
folder. -/
lemma Rooted.put (h : t.Rooted) (hfolder : t.get? f = some .folder) {entry : Entry}
    (hput : t.get? (f.child name) = some .folder → entry = .folder) :
    (t.put (f.child name) entry).Rooted := by
  intro x other hsome
  by_cases heq : x.child other = f.child name
  · obtain ⟨rfl, rfl⟩ := child_inj heq
    rwa [get?_put_of_ne (ne_child x other)]
  · rw [get?_put_of_ne heq] at hsome
    have hx := h x other hsome
    by_cases hself : x = f.child name
    · rw [← hself] at hput ⊢
      obtain rfl := hput hx
      cases hout : x.isOutermost with
      | true => rw [get?, if_pos hout]
      | false => exact get?_put_self hout
    · rwa [get?_put_of_ne hself]

lemma Rooted.makeFrom (h : t.Rooted) (hnames : ∀ name ∈ names, CanStand name)
    (hf : t.get? f = some .folder) : (t.makeFrom f names).2.Rooted := by
  induction names generalizing t f with
  | nil => exact h
  | cons name rest ih =>
      obtain ⟨hname, hrest⟩ := List.forall_mem_cons.mp hnames
      rw [FileTree.makeFrom, enter_of_canStand hname]
      cases hfirst : t.get? (f.child name) with
      | none =>
          have hput : (t.put (f.child name) .folder).Rooted := h.put hf fun _ => rfl
          exact ih hput hrest (get?_put_self (isOutermost_eq_false_of_get? hfirst))
      | some entry =>
          cases entry with
          | file body => exact h
          | folder => exact ih h hrest hfirst

lemma makeFolders_of_canStand (hnames : ∀ name ∈ p.names, CanStand name) :
    t.makeFolders p = t.makeFrom ⟨p.isAbsolute, []⟩ p.names := by
  rw [makeFolders, if_pos (isProper_of_canStand hnames)]

lemma Rooted.makeFolders (h : t.Rooted) (hnames : ∀ name ∈ p.names, CanStand name) :
    (t.makeFolders p).2.Rooted := by
  rw [makeFolders_of_canStand hnames]
  exact h.makeFrom hnames (get?_start p.isAbsolute)

/-- Everything still stands in a folder after a file was saved. -/
lemma Rooted.save (h : t.Rooted) (hnames : ∀ name ∈ p.dropLast.names, CanStand name) {body : String}
    {r : Except FileError Unit} (hsave : t.save p body = (r, t')) : t'.Rooted := by
  have hmade := h.makeFolders hnames
  rcases save_cases hsave with ⟨cause, -, rfl⟩ | ⟨-, hplace, hget, rfl⟩
  · exact hmade
  · obtain ⟨name, hlast, -, hname, -, hfolder, hlexical⟩ := place_eq_ok_iff.mp hplace
    rw [hlexical] at hget ⊢
    refine hmade.put ?_ fun hfile => absurd hfile hget
    rw [folder_of_canStand hnames] at hfolder
    exact get?_of_foldlM_enter hnames (get?_start p.dropLast.isAbsolute) hfolder

/-- A file that is there or missing can be saved. -/
lemma exists_save_of_isClear (h : t.IsClear p) (hne : p.names ≠ [])
    (hread : t.read p ≠ .error .unusable) (body : String) : ∃ t', t.save p body = (.ok (), t') := by
  -- once the folders are made, the file can be written unless a folder stands in its place
  have hwrite : ∀ made : FileTree, t.makeFolders p.dropLast = (.ok (), made) →
      made.place p = .ok p.lexical → made.get? p.lexical ≠ some .folder →
        ∃ t', t.save p body = (.ok (), t') := by
    intro made hmade hplace hget
    have hwritten : made.write p body = .ok (made.put p.lexical (.file body)) := by
      rw [write, hplace]
      simp only [bind, Except.bind]
    rw [save, hmade]
    simp only [hwritten]
    exact ⟨_, rfl⟩
  rcases h with ⟨folder, hfolder⟩ | ⟨hrooted, hnames⟩
  · rcases place_of_folder hfolder with hplace | hplace
    · refine hwrite t (makeFolders_of_folder hfolder) hplace fun hget => hread ?_
      rw [read_of_place hplace, hget]
    · exact absurd (read_of_place_error hplace) hread
  · have hdrop := canStand_dropLast hnames
    have hwalk : t.folder p.dropLast ≠ .error .unusable := by
      intro hfolder
      have hplace := place_of_canStand (t := t) hnames hne
      rw [hfolder] at hplace
      exact hread (read_of_place_error hplace)
    rw [folder_of_canStand hdrop] at hwalk
    obtain ⟨made, hmade⟩ := exists_makeFrom hrooted hdrop hwalk
    rw [← makeFolders_of_canStand hdrop] at hmade
    obtain ⟨folder, hfolder⟩ := folder_of_makeFolders hmade
    have hplace := place_of_canStand (t := made) hnames hne
    rw [hfolder] at hplace
    refine hwrite made hmade (by rw [hplace, lexical_of_canStand hnames]; rfl) ?_
    rw [lexical_of_canStand hnames]
    intro hget
    have hmakes := get?_makeFrom (t := t) hdrop ⟨p.dropLast.isAbsolute, []⟩ p
    rw [← makeFolders_of_canStand hdrop, hmade] at hmakes
    rcases hmakes with hsame | ⟨-, way, hway, hp⟩
    · rw [hget] at hsame
      have hplace := place_of_get? hrooted hnames hne (by rw [← hsame]; simp)
      exact hread (by rw [read_of_place hplace, ← hsame])
    · exact absurd hp (ne_descend_dropLast hne hway)

/-- A file that is saved changes no other file and no folder. -/
lemma keeps_save {body : String} {r : Except FileError Unit} (h : t.save p body = (r, t')) :
    Keeps t t' (· = p.lexical) := by
  cases r with
  | ok => exact (save_spec h).2
  | error cause => exact (save_error_keeps h).mono fun _ => False.elim

/-- The path of another file that is not missing leads to the same as before. -/
lemma read_of_save {body : String} {r : Except FileError Unit} (h : t.save p body = (r, t'))
    (hpq : q.lexical ≠ p.lexical) (hread : t.read q ≠ .error .missing) : t'.read q = t.read q := by
  cases hq : t.read q with
  | ok found => exact read_of_keeps (keeps_save h) hpq hq
  | error cause =>
      cases cause with
      | missing => exact absurd hq hread
      | unusable =>
          cases r with
          | error cause => exact (save_error_keeps h).read_unusable (fun _ => False.elim) hq
          | ok =>
              obtain ⟨hbody, hkeeps⟩ := save_spec h
              refine hkeeps.read_unusable (fun x hx => ⟨body, ?_⟩) hq
              rw [hx]
              exact (read_eq_ok_iff.mp hbody).2

/-- A file that is missing at the end of a clear path is still missing after another one was saved,
if that made no folder in its place and stands not on its way. -/
lemma read_missing_of_save {body : String} {r : Except FileError Unit} (h : t.save p body = (r, t'))
    (hclear : t.IsClear q) (hne : q.names ≠ []) (hpq : q.lexical ≠ p.lexical)
    (hmade : (t.makeFolders p.dropLast).2.get? q.lexical = t.get? q.lexical)
    (hway : (∀ name ∈ q.names, CanStand name) → (∀ name ∈ p.dropLast.names, CanStand name) ∧
      ∀ way, way <+: q.dropLast.names → descend ⟨q.dropLast.isAbsolute, []⟩ way ≠ p.lexical)
    (hread : t.read q = .error .missing) : t'.read q = .error .missing := by
  have hnone : t'.get? q.lexical = none := by
    rw [get?_save h hpq, hmade]
    exact get?_eq_none_of_read hclear hne hread
  rcases hclear with ⟨folder, hfolder⟩ | ⟨hrooted, hnames⟩
  · rcases place_of_folder hfolder with hplace | hplace
    · rw [read_of_place (place_of_keeps (keeps_save h) hplace), hnone]
    · rw [read_of_place_error hplace] at hread
      cases hread
  · obtain ⟨hdrop, hapart⟩ := hway hnames
    have hqdrop := canStand_dropLast hnames
    have hplace := place_of_canStand (t := t) hnames hne
    have hplace' := place_of_canStand (t := t') hnames hne
    have hwalk : t.folder q.dropLast ≠ .error .unusable := by
      intro hfolder
      rw [hfolder] at hplace
      rw [read_of_place_error hplace] at hread
      cases hread
    have hwalk' : t'.folder q.dropLast ≠ .error .unusable := by
      rw [folder_of_canStand hqdrop, foldlM_enter_ne_unusable_iff hrooted hqdrop] at hwalk
      rw [folder_of_canStand hqdrop, foldlM_enter_ne_unusable_iff (hrooted.save hdrop h) hqdrop]
      intro way hnil hprefix found hfile
      rw [get?_save h (hapart way hprefix), makeFolders_of_canStand hdrop] at hfile
      rcases get?_makeFrom (t := t) hdrop ⟨p.dropLast.isAbsolute, []⟩
        (descend ⟨q.dropLast.isAbsolute, []⟩ way) with hsame | ⟨hfolder, -⟩
      · exact hwalk way hnil hprefix found (by rw [← hsame, hfile])
      · rw [hfolder] at hfile
        cases hfile
    cases hfolder : t'.folder q.dropLast with
    | ok folder =>
        rw [hfolder] at hplace'
        rw [lexical_of_canStand hnames] at hnone
        rw [read_of_place hplace', hnone]
    | error cause =>
        rw [hfolder] at hplace' hwalk'
        rw [read_of_place_error hplace']
        cases cause with
        | missing => rfl
        | unusable => exact absurd rfl hwalk'

end ChatBot.Storage.FileTree
