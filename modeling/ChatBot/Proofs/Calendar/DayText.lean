import Mathlib.Tactic
import ChatBot.Calendar.Date
import ChatBot.Proofs.Calendar.Holiday
import ChatBot.Proofs.Text.Blank
import ChatBot.Proofs.Text.Integer

/-!
How days are written.

* `Numeral`: a number with blanks in front and a sign. `number?_eq_some_iff` and
  `year?_eq_some_iff` say which of them are read;
* `WrittenDay`: year, month and day of the month with hyphens between them.
  `ofText?_eq_some_iff` says that exactly these are read, and `WrittenDay.text_injective` that
  no text is written in two ways;
* `HasPlainForm`: a day of four digits, two digits and two digits. `hasPlainForm_iff` says which
  of the written days these are.
-/

namespace ChatBot.Date

open Text (isBlank isDigit numberOfDigits trimStart)

/-! ### Numbers -/

/-- What may stand right in front of the digits of a number. -/
inductive Sign where
  | none
  | plus
  | minus

namespace Sign

/-- A sign in text. -/
def text : Sign → List Char
  | none => []
  | plus => ['+']
  | minus => ['-']

/-- A number with its sign. -/
def apply : Sign → ℕ → ℤ
  | none, n => n
  | plus, n => n
  | minus, n => -n

/-- A sign is told from digits. -/
lemma append_inj {s t : Sign} {cs ds : List Char} (hcs : ∀ c ∈ cs.head?, isDigit c = true)
    (hds : ∀ c ∈ ds.head?, isDigit c = true) (h : s.text ++ cs = t.text ++ ds) :
    s = t ∧ cs = ds := by
  have hplus : isDigit '+' = false := by decide
  have hminus : isDigit '-' = false := by decide
  cases s <;> cases t <;> grind [text]

end Sign

/-- A number as it may be written: blanks, a sign and digits. -/
structure Numeral where
  gap : List Char
  sign : Sign
  digits : List Char
  gap_blank : ∀ c ∈ gap, isBlank c = true
  digits_isDigit : ∀ c ∈ digits, isDigit c = true
  digits_ne_nil : digits ≠ []

namespace Numeral

/-- The text of a number. -/
def text (n : Numeral) : List Char := n.gap ++ (n.sign.text ++ n.digits)

/-- The number without its sign. -/
def number (n : Numeral) : ℕ := numberOfDigits n.digits

/-- The number. -/
def value (n : Numeral) : ℤ := n.sign.apply n.number

/-- The number has no sign and at most so many digits. -/
def Fits (n : Numeral) (width : ℕ) : Prop := n.sign = .none ∧ n.digits.length ≤ width

/-- A number without a sign has at most so many digits, and one with a sign any number of them. -/
def FitsSigned (n : Numeral) (width : ℕ) : Prop := n.sign = .none → n.digits.length ≤ width

/-- The number is nothing but so many digits. -/
def IsPlain (n : Numeral) (width : ℕ) : Prop :=
  n.gap = [] ∧ n.sign = .none ∧ n.digits.length = width

lemma head?_digits (n : Numeral) (rest : List Char) :
    ∀ c ∈ (n.digits ++ rest).head?, isDigit c = true := by
  obtain ⟨d, ds, hds⟩ := List.exists_cons_of_ne_nil n.digits_ne_nil
  intro c hc
  rw [hds] at hc
  obtain rfl := Option.some.inj hc
  exact n.digits_isDigit d (hds ▸ List.mem_cons_self)

/-- No blank follows those in front. -/
lemma head?_sign (n : Numeral) (rest : List Char) :
    ∀ c ∈ (n.sign.text ++ (n.digits ++ rest)).head?, isBlank c = false := by
  intro c hc
  cases hsign : n.sign with
  | none =>
      rw [hsign] at hc
      exact Text.isBlank_eq_false_of_isDigit (n.head?_digits rest c hc)
  | plus | minus =>
      rw [hsign] at hc
      obtain rfl := Option.some.inj hc
      decide

lemma trimStart_text (n : Numeral) (rest : List Char) :
    trimStart (n.text ++ rest) = n.sign.text ++ (n.digits ++ rest) := by
  rw [text, List.append_assoc, List.append_assoc, Text.trimStart_append n.gap_blank,
    Text.trimStart_eq_self (n.head?_sign rest)]

/-- A text starts with one number only. -/
lemma append_inj {m n : Numeral} {rest rest' : List Char}
    (hrest : ∀ c ∈ rest.head?, isDigit c = false) (hrest' : ∀ c ∈ rest'.head?, isDigit c = false)
    (h : m.text ++ rest = n.text ++ rest') :
    m = n ∧ rest = rest' := by
  have hgap (n : Numeral) (rest : List Char) : (n.text ++ rest).takeWhile isBlank = n.gap := by
    rw [text, List.append_assoc, List.append_assoc,
      Text.takeWhile_run n.gap_blank (n.head?_sign rest)]
  have hgaps : m.gap = n.gap := by rw [← hgap m rest, h, hgap]
  have htrimmed := (m.trimStart_text rest).symm.trans
    ((congrArg trimStart h).trans (n.trimStart_text rest'))
  obtain ⟨hsigns, hbodies⟩ := Sign.append_inj (m.head?_digits rest) (n.head?_digits rest') htrimmed
  have hdigits : m.digits = n.digits := by
    rw [← Text.takeWhile_run m.digits_isDigit hrest, hbodies,
      Text.takeWhile_run n.digits_isDigit hrest']
  refine ⟨?_, List.append_cancel_left (hdigits ▸ hbodies)⟩
  cases m
  cases n
  congr

end Numeral

open Numeral

variable {cs rest : List Char} {width k : ℕ} {y : ℤ}

lemma number?_append (n : Numeral) (hwidth : n.digits.length ≤ width)
    (hrest : ∀ c ∈ rest.head?, isDigit c = false) :
    number? width (n.digits ++ rest) = some (n.number, rest) := by
  have hcut : ∀ c ∈ (rest.take (width - n.digits.length)).head?, isDigit c = false := by
    intro c hc
    rw [List.head?_take] at hc
    split_ifs at hc
    · exact nomatch hc
    · exact hrest c hc
  have hrun : ((n.digits ++ rest).take width).takeWhile isDigit = n.digits := by
    rw [List.take_append, List.take_of_length_le hwidth, Text.takeWhile_run n.digits_isDigit hcut]
  have hne : n.digits.isEmpty = false := by simpa using n.digits_ne_nil
  rw [number?, hrun, hne, if_neg Bool.false_ne_true, List.drop_left, number]

lemma exists_of_number?_eq_some (h : number? width cs = some (k, rest)) :
    ∃ ds, cs = ds ++ rest ∧ ds ≠ [] ∧
    (∀ c ∈ ds, isDigit c = true) ∧ ds.length ≤ width ∧ numberOfDigits ds = k := by
  obtain ⟨tail, htail⟩ : (cs.take width).takeWhile isDigit <+: cs :=
    (List.takeWhile_prefix isDigit).trans (List.take_prefix width cs)
  have hlength : ((cs.take width).takeWhile isDigit).length ≤ width :=
    (List.takeWhile_prefix isDigit).length_le.trans (List.length_take_le width cs)
  have hdigits : ∀ c ∈ (cs.take width).takeWhile isDigit, isDigit c = true :=
    fun c hc => List.mem_takeWhile_imp hc
  unfold number? at h
  generalize (cs.take width).takeWhile isDigit = ds at h htail hlength hdigits
  subst htail
  simp only [List.drop_left, Option.ite_none_left_eq_some, List.isEmpty_iff, Option.some.injEq,
    Prod.mk.injEq] at h
  obtain ⟨hne, hk, rfl⟩ := h
  exact ⟨ds, rfl, hne, hdigits, hlength, hk⟩

/-- Digits that are read behind blanks and a sign make a number with them. -/
lemma exists_numeral (sign : Sign) {tail : List Char} (htail : trimStart cs = sign.text ++ tail)
    (h : number? width tail = some (k, rest)) :
    ∃ n : Numeral, n.sign = sign ∧ n.digits.length ≤ width ∧ n.number = k ∧
    n.text ++ rest = cs := by
  obtain ⟨ds, rfl, hne, hdigits, hlength, hk⟩ := exists_of_number?_eq_some h
  obtain ⟨gap, hgap, hcs⟩ := Text.exists_eq_append_trimStart cs
  refine ⟨⟨gap, sign, ds, hgap, hdigits, hne⟩, rfl, hlength, hk, ?_⟩
  rw [hcs, htail, Numeral.text, List.append_assoc, List.append_assoc]

lemma exists_signed (sign : Sign) {tail : List Char} (htail : trimStart cs = sign.text ++ tail)
    (h : (number? width tail).map (fun read => (sign.apply read.1, read.2)) = some (y, rest)) :
    ∃ n : Numeral, n.sign = sign ∧ n.digits.length ≤ width ∧ n.value = y ∧ n.text ++ rest = cs := by
  obtain ⟨⟨k, _⟩, hnumber, heq⟩ := Option.map_eq_some_iff.mp h
  obtain ⟨rfl, rfl⟩ := Prod.mk.inj heq
  obtain ⟨n, rfl, hlength, rfl, hcs⟩ := exists_numeral _ htail hnumber
  exact ⟨n, rfl, hlength, rfl, hcs⟩

/-- A number is read behind blanks. -/
lemma number?_eq_some_iff (hrest : ∀ c ∈ rest.head?, isDigit c = false) :
    number? width (trimStart cs) = some (k, rest) ↔
      ∃ n : Numeral, n.Fits width ∧ n.number = k ∧ n.text ++ rest = cs := by
  constructor
  · intro h
    obtain ⟨n, hsign, hlength, hk, hcs⟩ := exists_numeral .none rfl h
    exact ⟨n, ⟨hsign, hlength⟩, hk, hcs⟩
  · rintro ⟨n, ⟨hsign, hlength⟩, rfl, rfl⟩
    rw [n.trimStart_text, hsign]
    exact number?_append n hlength hrest

/-- A year is read behind blanks, and it may have a sign. -/
lemma year?_eq_some_iff (hrest : ∀ c ∈ rest.head?, isDigit c = false) :
    year? (trimStart cs) = some (y, rest) ↔
      ∃ n : Numeral, n.FitsSigned 4 ∧ n.value = y ∧ n.text ++ rest = cs := by
  constructor
  · intro h
    unfold year? at h
    split at h
    · next tail htail =>
      obtain ⟨n, hsign, -, hy, hcs⟩ := exists_signed .minus htail h
      exact ⟨n, fun hnone => absurd (hsign.symm.trans hnone) nofun, hy, hcs⟩
    · next tail htail =>
      obtain ⟨n, hsign, -, hy, hcs⟩ := exists_signed .plus htail h
      exact ⟨n, fun hnone => absurd (hsign.symm.trans hnone) nofun, hy, hcs⟩
    · obtain ⟨n, -, hlength, hy, hcs⟩ := exists_signed .none rfl h
      exact ⟨n, fun _ => hlength, hy, hcs⟩
  · rintro ⟨n, hwidth, rfl, rfl⟩
    have hlong : n.digits.length ≤ (n.digits ++ rest).length := by simp
    rw [n.trimStart_text, value]
    cases hsign : n.sign with
    | minus | plus =>
        rw [Sign.text, List.singleton_append, year?, number?_append n hlong hrest, Option.map_some,
          Sign.apply]
    | none =>
        have hdigit := n.head?_digits rest
        rw [Sign.text, List.nil_append, year?]
        · rw [number?_append n (hwidth hsign) hrest, Option.map_some, Sign.apply]
        · rintro tail heq
          exact absurd (hdigit '-' (by rw [heq]; rfl)) (by decide)
        · rintro tail heq
          exact absurd (hdigit '+' (by rw [heq]; rfl)) (by decide)

lemma hyphen?_eq_some_iff : hyphen? cs = some rest ↔ cs = '-' :: rest := by
  unfold hyphen?
  split
  · simp
  · next hne => exact iff_of_false nofun (hne rest)

/-- No number goes on at a hyphen. -/
lemma head?_hyphen (rest : List Char) : ∀ c ∈ ('-' :: rest).head?, isDigit c = false := by
  intro c hc
  obtain rfl := Option.some.inj hc
  decide

/-! ### Days -/

/-- A day as it may be written: three numbers, of which the year may have a sign. -/
structure WrittenDay where
  year : Numeral
  month : Numeral
  day : Numeral
  year_fits : year.FitsSigned 4
  month_fits : month.Fits 2
  day_fits : day.Fits 2

namespace WrittenDay

/-- The text of a day. -/
def text (w : WrittenDay) : List Char := w.year.text ++ '-' :: (w.month.text ++ '-' :: w.day.text)

/-- There is such a day. -/
def HasDay (w : WrittenDay) : Prop := IsDay w.year.value w.month.number w.day.number

/-- The day that is written. -/
def Names (w : WrittenDay) (d : Date) : Prop :=
  d.year = w.year.value ∧ d.month = w.month.number ∧ d.day = w.day.number

/-- The numbers have no blanks and no sign, and four, two and two digits. -/
def IsPlain (w : WrittenDay) : Prop := w.year.IsPlain 4 ∧ w.month.IsPlain 2 ∧ w.day.IsPlain 2

lemma hasDay_iff {w : WrittenDay} : w.HasDay ↔ ∃ d : Date, w.Names d :=
  ⟨fun h => ⟨⟨_, _, _, h⟩, rfl, rfl, rfl⟩, fun ⟨d, hyear, hmonth, hday⟩ => by
    have h := d.exists_day
    rwa [hyear, hmonth, hday] at h⟩

/-- A text is written in one way only. -/
lemma text_injective : Function.Injective text := by
  intro v w h
  obtain ⟨hyear, hrest⟩ := Numeral.append_inj (head?_hyphen _) (head?_hyphen _) h
  obtain ⟨hmonth, hrest⟩ :=
    Numeral.append_inj (head?_hyphen _) (head?_hyphen _) (List.cons.inj hrest).2
  have hdays : v.day.text ++ [] = w.day.text ++ [] := congrArg (· ++ []) (List.cons.inj hrest).2
  obtain ⟨hday, -⟩ := Numeral.append_inj (by simp) (by simp) hdays
  cases v
  cases w
  congr

end WrittenDay

/-- **Reading days**: a text is read as a day exactly if this day is written in it. -/
theorem ofText?_eq_some_iff {d : Date} :
    ofText? cs = some d ↔ ∃ w : WrittenDay, w.text = cs ∧ w.Names d := by
  constructor
  · intro h
    simp only [ofText?, Option.bind_eq_bind, Option.bind_eq_some_iff, Prod.exists,
      hyphen?_eq_some_iff, Option.ite_none_right_eq_some, List.isEmpty_iff, of?_eq_some_iff] at h
    obtain ⟨_, _, hy, _, rfl, _, _, hm, _, rfl, _, _, hd, rfl, rfl, rfl, rfl⟩ := h
    obtain ⟨year, hyearfits, hyear, rfl⟩ := (year?_eq_some_iff (head?_hyphen _)).mp hy
    obtain ⟨month, hmonthfits, hmonth, rfl⟩ := (number?_eq_some_iff (head?_hyphen _)).mp hm
    obtain ⟨day, hdayfits, hday, rfl⟩ := (number?_eq_some_iff (by simp)).mp hd
    refine ⟨⟨year, month, day, hyearfits, hmonthfits, hdayfits⟩, ?_, hyear.symm, hmonth.symm,
      hday.symm⟩
    rw [List.append_nil, WrittenDay.text]
  · rintro ⟨w, rfl, hyear, hmonth, hday⟩
    have hy : year? (trimStart w.text) = some (w.year.value, _) :=
      (year?_eq_some_iff (head?_hyphen _)).mpr ⟨w.year, w.year_fits, rfl, rfl⟩
    have hm : number? 2 (trimStart (w.month.text ++ '-' :: w.day.text)) =
        some (w.month.number, _) :=
      (number?_eq_some_iff (head?_hyphen _)).mpr ⟨w.month, w.month_fits, rfl, rfl⟩
    have hd : number? 2 (trimStart w.day.text) = some (w.day.number, []) :=
      (number?_eq_some_iff (by simp)).mpr ⟨w.day, w.day_fits, rfl, List.append_nil _⟩
    simp only [ofText?, hy, hm, hd, hyphen?, Option.bind_eq_bind, Option.bind_some,
      List.isEmpty_nil, if_true]
    exact of?_eq_some_iff.mpr ⟨hyear, hmonth, hday⟩

/-- A text names a day. -/
def IsReadable (cs : List Char) : Prop := ∃ w : WrittenDay, w.text = cs ∧ w.HasDay

lemma isSome_ofText?_iff : (ofText? cs).isSome = true ↔ IsReadable cs := by
  simp only [Option.isSome_iff_exists, ofText?_eq_some_iff, IsReadable, WrittenDay.hasDay_iff]
  exact ⟨fun ⟨d, w, hw, hd⟩ => ⟨w, hw, d, hd⟩, fun ⟨w, hw, d, hd⟩ => ⟨d, w, hw, hd⟩⟩

/-! ### The plain form -/

/-- A text is a day in plain form: four, two and two digits with hyphens between
them, for a day that exists. -/
def HasPlainForm (cs : List Char) : Prop :=
  ∃ year month day : List Char, cs = year ++ '-' :: (month ++ '-' :: day) ∧
    year.length = 4 ∧ month.length = 2 ∧ day.length = 2 ∧
    (∀ c ∈ year ++ (month ++ day), isDigit c = true) ∧
    IsDay (numberOfDigits year) (numberOfDigits month) (numberOfDigits day)

/-- Digits as a number. -/
def Numeral.ofDigits (ds : List Char) (hdigits : ∀ c ∈ ds, isDigit c = true) (hne : ds ≠ []) :
    Numeral :=
  ⟨[], .none, ds, by simp, hdigits, hne⟩

lemma Numeral.IsPlain.text_eq {n : Numeral} (h : n.IsPlain width) : n.text = n.digits := by
  rw [Numeral.text, h.1, h.2.1, Sign.text, List.nil_append, List.nil_append]

lemma Numeral.IsPlain.value_eq {n : Numeral} (h : n.IsPlain width) : n.value = n.number := by
  rw [value, h.2.1, Sign.apply]

lemma hasPlainForm_iff :
    HasPlainForm cs ↔ ∃ w : WrittenDay, w.text = cs ∧ w.HasDay ∧ w.IsPlain := by
  constructor
  · rintro ⟨year, month, day, rfl, hyear, hmonth, hday, hdigits, hexists⟩
    simp only [List.forall_mem_append] at hdigits
    obtain ⟨hyeardigits, hmonthdigits, hdaydigits⟩ := hdigits
    let w : WrittenDay := {
      year := .ofDigits year hyeardigits (List.ne_nil_of_length_pos (by omega))
      month := .ofDigits month hmonthdigits (List.ne_nil_of_length_pos (by omega))
      day := .ofDigits day hdaydigits (List.ne_nil_of_length_pos (by omega))
      year_fits := fun _ => hyear.le
      month_fits := ⟨rfl, hmonth.le⟩
      day_fits := ⟨rfl, hday.le⟩ }
    exact ⟨w, rfl, hexists, ⟨rfl, rfl, hyear⟩, ⟨rfl, rfl, hmonth⟩, rfl, rfl, hday⟩
  · rintro ⟨w, rfl, hexists, hyear, hmonth, hday⟩
    refine ⟨w.year.digits, w.month.digits, w.day.digits, ?_, hyear.2.2, hmonth.2.2, hday.2.2, ?_,
      ?_⟩
    · rw [WrittenDay.text, hyear.text_eq, hmonth.text_eq, hday.text_eq]
    · simp only [List.forall_mem_append]
      exact ⟨w.year.digits_isDigit, w.month.digits_isDigit, w.day.digits_isDigit⟩
    · rw [WrittenDay.HasDay, hyear.value_eq] at hexists
      exact hexists

/-- A day in plain form is read. -/
lemma HasPlainForm.isReadable (h : HasPlainForm cs) : IsReadable cs := by
  obtain ⟨w, hw, hexists, -⟩ := hasPlainForm_iff.mp h
  exact ⟨w, hw, hexists⟩

/-- A day in plain form has ten characters. -/
lemma HasPlainForm.length (h : HasPlainForm cs) : cs.length = 10 := by
  obtain ⟨year, month, day, rfl, hyear, hmonth, hday, -⟩ := h
  simp [hyear, hmonth, hday]

/-- The days that are read are those in plain form, as far as they are written plainly. -/
lemma isReadable_iff_hasPlainForm_iff :
    (IsReadable cs ↔ HasPlainForm cs) ↔ ∀ w : WrittenDay, w.text = cs → w.HasDay → w.IsPlain := by
  constructor
  · intro hiff w hw hexists
    obtain ⟨v, hv, -, hplain⟩ := hasPlainForm_iff.mp (hiff.mp ⟨w, hw, hexists⟩)
    exact WrittenDay.text_injective (hw.trans hv.symm) ▸ hplain
  · rintro hplain
    refine ⟨fun ⟨w, hw, hexists⟩ => ?_, HasPlainForm.isReadable⟩
    exact hasPlainForm_iff.mpr ⟨w, hw, hexists, hplain w hw hexists⟩

end ChatBot.Date
