import Mathlib.Tactic
import ChatBot.Config

/-!
When the settings of a bot are valid.

* `check_eq_ok_iff`: a check lets through what is valid, and as it is;
* `valid_of_load`: so the settings of a file are valid if they are loaded at all;
* `valid_ofEnvironment_iff`: the defaults are valid unless the text in front of
  commands is taken away from outside;
* `choose_check_iff`: a bot runs with valid settings, whatever its file holds, exactly if it is not
  told from outside that commands start with nothing. `choose_of_empty_mark` is a run where it is.
-/

namespace ChatBot.Config

variable {body : Option String} {e : Environment} {c c' : Config}

/-- A check lets through what is valid, and as it is. -/
lemma check_eq_ok_iff : c.check = .ok c' ↔ c' = c ∧ c.Valid := by
  have hmark : c.bot.mark.isEmpty = true ↔ c.bot.mark = "" := String.isEmpty_iff
  unfold check Valid
  split
  · next hempty => simp [hmark.mp hempty]
  · next hempty =>
    rw [hmark] at hempty
    split
    · next htimeout => simp [htimeout]
    · next htimeout =>
      split
      · next hworkers => simp [hworkers]
      · next hworkers =>
        have hvalid : c.bot.mark ≠ "" ∧ 1 ≤ c.calculator.timeoutSeconds ∧
            1 ≤ c.calculator.maxWorkers :=
          ⟨hempty, Nat.one_le_iff_ne_zero.mpr htimeout, Nat.one_le_iff_ne_zero.mpr hworkers⟩
        simp only [Except.ok.injEq, hvalid, and_true, ne_eq, not_false_eq_true]
        exact eq_comm

/-- The settings of a file, with those that come from outside, were checked. -/
lemma exists_check_of_load (h : load body e = .ok c) :
    ∃ read : Config, (read.overridden e).check = .ok c := by
  unfold load at h
  split at h
  · cases h
  · split at h
    · next read _ => exact ⟨read, h⟩
    · cases h

/-- The settings of a file are valid if they are loaded at all. -/
lemma valid_of_load (h : load body e = .ok c) : c.Valid := by
  obtain ⟨read, hcheck⟩ := exists_check_of_load h
  obtain ⟨rfl, hvalid⟩ := check_eq_ok_iff.mp hcheck
  exact hvalid

/-- A text in front of commands that comes from outside wins over the one in the file. -/
lemma mark_of_load {mark : String} (hmark : e.mark = some mark) (h : load body e = .ok c) :
    c.bot.mark = mark := by
  obtain ⟨read, hcheck⟩ := exists_check_of_load h
  obtain ⟨rfl, -⟩ := check_eq_ok_iff.mp hcheck
  rw [overridden, hmark]
  rfl

/-- Nothing from outside bears on the limits of evaluations. -/
lemma limits_ofEnvironment (e : Environment) : 1 ≤ (ofEnvironment e).calculator.timeoutSeconds ∧
    1 ≤ (ofEnvironment e).calculator.maxWorkers :=
  ⟨show 1 ≤ 10 by decide, show 1 ≤ 4 by decide⟩

/-- The defaults are valid unless commands start with nothing. -/
lemma valid_ofEnvironment_iff : (ofEnvironment e).Valid ↔ e.mark ≠ some "" := by
  have hmark : (ofEnvironment e).bot.mark = e.mark.getD "!" := rfl
  rw [Valid, and_iff_left (limits_ofEnvironment e), hmark]
  cases e.mark with
  | none => simp
  | some mark => simp

/-- The settings are those of the file if these are valid, and else the defaults. -/
lemma choose_cases (body : Option String) (e : Environment) :
    load body e = .ok (choose body e) ∨
      (∃ cause, load body e = .error cause) ∧ choose body e = ofEnvironment e := by
  unfold choose
  cases h : load body e with
  | ok c => exact .inl rfl
  | error cause => exact .inr ⟨⟨cause, rfl⟩, rfl⟩

/-- **Valid settings**: whether the file is missing or holds anything whatsoever, the settings that
a bot runs with pass the check exactly if it is not told from outside that commands start with
nothing. The limits of evaluations are always valid. -/
theorem choose_check_iff (body : Option String) (e : Environment) :
    ((choose body e).check = .ok (choose body e) ↔ e.mark ≠ some "") ∧
      1 ≤ (choose body e).calculator.timeoutSeconds ∧
      1 ≤ (choose body e).calculator.maxWorkers := by
  rw [check_eq_ok_iff, and_iff_right rfl]
  rcases choose_cases body e with hload | ⟨-, hdefault⟩
  · have hvalid := valid_of_load hload
    exact ⟨iff_of_true hvalid fun hmark => hvalid.1 (mark_of_load hmark hload), hvalid.2⟩
  · rw [hdefault]
    exact ⟨valid_ofEnvironment_iff, limits_ofEnvironment e⟩

/-- Told from outside that commands start with nothing, a bot with an empty file refuses the file
for this reason and then runs with just that. -/
theorem choose_of_empty_mark :
    let e : Environment := { mark := some "" }
    load (some "") e = .error (.invalidValue "bot.prefix must not be empty") ∧
      (choose (some "") e).bot.mark = "" ∧ ¬(choose (some "") e).Valid := by
  decide +kernel

end ChatBot.Config
