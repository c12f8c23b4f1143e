import Mathlib.Tactic
import ChatBot.Calculator.Value

/-!
The grammar of expressions, and that the readers of `Calculator.Tree` follow it.

* `Derives`: the derivations of the grammar. A derivation gives the tokens of a nonterminal, their
  tree, and the greatest number of constructs that one of the tokens stands in: groups and calls
  around their insides, signs around their operand, `**` around its exponent;
* `Gives`: a reader gives a tree and leaves a rest; one inversion lemma for each
  reader says all that it can do;
* `Sound`: what is read is derived. `sound_within` goes down one construct at a time;
* `Covered`: what is derived is read, in front of every rest that does not go on with it.
  `Derives.covered` is by induction on the derivation;
* `parse_iff_derives`: a text is parsed into a tree exactly if its tokens derive that tree within
  200 constructs, and else there is a syntax error.
-/

namespace ChatBot.Calculator

/-! ### The grammar -/

/-- The nonterminals of the grammar. -/
inductive Nonterminal where
  | expr
  | term
  | unary
  | power
  | primary

/-- The signs that make up sums, and their operators. -/
inductive SumSign : Token → Operator → Prop
  | plus : SumSign .plus .add
  | minus : SumSign .minus .sub

/-- The signs that make up products, and their operators. -/
inductive ProductSign : Token → Operator → Prop
  | star : ProductSign .star .mul
  | slash : ProductSign .slash .div
  | doubleSlash : ProductSign .doubleSlash .floorDiv
  | percent : ProductSign .percent .mod

/-- The derivations: `Derives X d ts t` if the tokens `ts` are an `X` with the tree `t`, and `d` is
the greatest number of constructs that one of them stands in. Sums and products grow on their right,
so their operators group to the left. -/
inductive Derives : Nonterminal → ℕ → List Token → Tree → Prop
  | number (x : Float) : Derives .primary 0 [.number x] (.number x)
  | pi : Derives .primary 0 [.pi] (.number piValue)
  | e : Derives .primary 0 [.e] (.number eValue)
  | call {d ts t} (f : Func) (h : Derives .expr d ts t) :
      Derives .primary (d + 1) (.func f :: .parenOpen :: (ts ++ [.parenClose])) (.call f t)
  | group {d ts t} (h : Derives .expr d ts t) :
      Derives .primary (d + 1) (.parenOpen :: (ts ++ [.parenClose])) t
  | base {d ts t} (h : Derives .primary d ts t) : Derives .power d ts t
  | pow {d k ts us b x} (h : Derives .primary d ts b) (h' : Derives .unary k us x) :
      Derives .power (max d (k + 1)) (ts ++ .doubleStar :: us) (.binary .pow b x)
  | unsigned {d ts t} (h : Derives .power d ts t) : Derives .unary d ts t
  | plus {d ts t} (h : Derives .unary d ts t) : Derives .unary (d + 1) (.plus :: ts) t
  | minus {d ts t} (h : Derives .unary d ts t) : Derives .unary (d + 1) (.minus :: ts) (.neg t)
  | factor {d ts t} (h : Derives .unary d ts t) : Derives .term d ts t
  | product {d k ts us l r s op} (h : Derives .term d ts l) (hs : ProductSign s op)
      (h' : Derives .unary k us r) : Derives .term (max d k) (ts ++ s :: us) (.binary op l r)
  | summand {d ts t} (h : Derives .term d ts t) : Derives .expr d ts t
  | sum {d k ts us l r s op} (h : Derives .expr d ts l) (hs : SumSign s op)
      (h' : Derives .term k us r) : Derives .expr (max d k) (ts ++ s :: us) (.binary op l r)

/-- No nonterminal is empty. -/
lemma Derives.ne_nil {X : Nonterminal} {d : ℕ} {ts : List Token} {t : Tree}
    (h : Derives X d ts t) : ts ≠ [] := by
  induction h with
  | number | pi | e | call | group | plus | minus => simp
  | base _ ih | unsigned _ ih | factor _ ih | summand _ ih => exact ih
  | pow | product | sum => simp

lemma sumOperator?_eq_some_iff {s : Token} {op : Operator} :
    sumOperator? s = some op ↔ SumSign s op := by
  constructor
  · intro h
    cases s <;> simp only [sumOperator?, Option.some.injEq, reduceCtorEq] at h <;> subst h <;>
      constructor
  · rintro (_ | _) <;> rfl

lemma productOperator?_eq_some_iff {s : Token} {op : Operator} :
    productOperator? s = some op ↔ ProductSign s op := by
  constructor
  · intro h
    cases s <;> simp only [productOperator?, Option.some.injEq, reduceCtorEq] at h <;> subst h <;>
      constructor
  · rintro (_ | _ | _ | _) <;> rfl

/-! ### What each reader does -/

/-- What was read is the tree `t`, and `rest` is left. -/
def Gives {n : ℕ} (x : Except SyntaxError (Taken n)) (t : Tree) (rest : List Token) : Prop :=
  ∃ h, x = .ok ⟨t, rest, h⟩

section Readers

variable {n m : ℕ} {ts rest : List Token} {t left : Tree} {deeper : Readers}
  {operator? : Token → Option Operator} {operand : Reader}

lemma gives_ok_iff {u : Tree} {us : List Token} {h : us.length < n} :
    Gives (.ok ⟨u, us, h⟩) t rest ↔ t = u ∧ rest = us := by
  simp only [Gives, Except.ok.injEq, Taken.mk.injEq]
  constructor
  · rintro ⟨_, rfl, rfl⟩
    exact ⟨rfl, rfl⟩
  · rintro ⟨rfl, rfl⟩
    exact ⟨h, rfl, rfl⟩

lemma not_gives_error {cause : SyntaxError} :
    ¬Gives (.error cause : Except SyntaxError (Taken n)) t rest := by
  simp [Gives]

/-- One reader after another: what comes of the second depends on what the first one gives. -/
lemma gives_bind_iff {x : Except SyntaxError (Taken n)}
    {next : Taken n → Except SyntaxError (Taken m)} (P : Tree → List Token → Prop)
    (h : ∀ a, Gives (next a) t rest ↔ P a.tree a.rest) :
    Gives (x >>= next) t rest ↔ ∃ u us, Gives x u us ∧ P u us := by
  cases x with
  | error cause => simp [Gives, bind, Except.bind]
  | ok a =>
      refine (h a).trans ⟨fun hP => ⟨a.tree, a.rest, ⟨a.shorter, rfl⟩, hP⟩, ?_⟩
      rintro ⟨u, us, ⟨_, hx⟩, hP⟩
      cases hx
      exact hP

/-- A reader whose tree is changed and whose rest is kept. -/
lemma gives_map_iff {x : Except SyntaxError (Taken n)} (f : Tree → Tree)
    {h : ∀ a : Taken n, a.rest.length < m} :
    Gives (do let a ← x; return ⟨f a.tree, a.rest, h a⟩) t rest ↔
      ∃ u, Gives x u rest ∧ t = f u := by
  refine (gives_bind_iff (fun u us => t = f u ∧ rest = us) fun a => gives_ok_iff).trans ⟨?_, ?_⟩
  · rintro ⟨u, _, hx, ht, rfl⟩
    exact ⟨u, hx, ht⟩
  · rintro ⟨u, hx, ht⟩
    exact ⟨u, rest, hx, ht, rfl⟩

/-- A reader whose result is kept. -/
lemma gives_keep_iff {x : Except SyntaxError (Taken n)} {h : ∀ a : Taken n, a.rest.length < m} :
    Gives (do let a ← x; return ⟨a.tree, a.rest, h a⟩) t rest ↔ Gives x t rest := by
  refine (gives_map_iff id).trans ⟨?_, fun hx => ⟨t, hx, rfl⟩⟩
  rintro ⟨u, hx, rfl⟩
  exact hx

lemma gives_chain_nil_iff :
    Gives (chain operator? operand left []) t rest ↔ t = left ∧ rest = [] := by
  rw [chain, gives_ok_iff]

lemma gives_chain_cons_iff {s : Token} :
    Gives (chain operator? operand left (s :: ts)) t rest ↔
      (operator? s = none ∧ t = left ∧ rest = s :: ts) ∨
        ∃ op, operator? s = some op ∧ ∃ r us, Gives (operand ts) r us ∧
          Gives (chain operator? operand (.binary op left r) us) t rest := by
  rw [chain]
  cases hs : operator? s with
  | none => simp [gives_ok_iff]
  | some op =>
      refine (gives_bind_iff
        (fun r us => Gives (chain operator? operand (.binary op left r) us) t rest)
        fun right => gives_keep_iff).trans ?_
      simp

lemma gives_chained_iff :
    Gives (chained operator? operand ts) t rest ↔
      ∃ l us, Gives (operand ts) l us ∧ Gives (chain operator? operand l us) t rest := by
  rw [chained]
  exact gives_bind_iff (fun l us => Gives (chain operator? operand l us) t rest)
    fun left => gives_keep_iff

lemma gives_group_iff :
    Gives (deeper.group ts) t rest ↔ Gives (deeper.expr ts) t (.parenClose :: rest) := by
  rw [Readers.group]
  refine (gives_bind_iff (fun u us => t = u ∧ us = .parenClose :: rest) ?_).trans ?_
  · rintro ⟨u, us, h⟩
    rcases us with _ | ⟨s, us⟩
    · simp [not_gives_error, throw, throwThe, MonadExceptOf.throw]
    · cases s <;> simp [not_gives_error, throw, throwThe, MonadExceptOf.throw, pure, Except.pure,
        gives_ok_iff, eq_comm]
  · simp

lemma gives_power_iff :
    Gives (deeper.power ts) t rest ↔
      (Gives (deeper.primary ts) t rest ∧ rest.head? ≠ some .doubleStar) ∨
        ∃ b us x, Gives (deeper.primary ts) b (.doubleStar :: us) ∧ Gives (deeper.unary us) x rest ∧
          t = .binary .pow b x := by
  rw [Readers.power]
  refine (gives_bind_iff (fun u us => (t = u ∧ rest = us ∧ us.head? ≠ some .doubleStar) ∨
    ∃ vs x, us = .doubleStar :: vs ∧ Gives (deeper.unary vs) x rest ∧ t = .binary .pow u x)
    ?_).trans ?_
  · rintro ⟨u, us, h⟩
    rcases us with _ | ⟨s, us⟩
    · simp [pure, Except.pure, gives_ok_iff]
    · cases s
      case doubleStar =>
        refine (gives_map_iff _).trans ?_
        simp
      all_goals simp [pure, Except.pure, gives_ok_iff]
  · constructor
    · rintro ⟨u, us, hx, ⟨rfl, rfl, hh⟩ | ⟨vs, x, rfl, hr, rfl⟩⟩
      · exact .inl ⟨hx, hh⟩
      · exact .inr ⟨u, vs, x, hx, hr, rfl⟩
    · rintro (⟨hx, hh⟩ | ⟨b, us, x, hx, hr, rfl⟩)
      · exact ⟨t, rest, hx, .inl ⟨rfl, rfl, hh⟩⟩
      · exact ⟨b, _, hx, .inr ⟨us, x, rfl, hr, rfl⟩⟩

/-- A primary is a number, a constant, a call or a group. -/
lemma gives_primary_iff :
    Gives (deeper.primary ts) t rest ↔
      (∃ x, ts = .number x :: rest ∧ t = .number x) ∨
        (ts = .pi :: rest ∧ t = .number piValue) ∨ (ts = .e :: rest ∧ t = .number eValue) ∨
        (∃ f us u, ts = .func f :: .parenOpen :: us ∧
          Gives (deeper.expr us) u (.parenClose :: rest) ∧ t = .call f u) ∨
        ∃ us, ts = .parenOpen :: us ∧ Gives (deeper.expr us) t (.parenClose :: rest) := by
  unfold Readers.primary
  split
  · simp [gives_ok_iff, and_comm, eq_comm]
  · simp [gives_ok_iff, and_comm, eq_comm]
  · simp [gives_ok_iff, and_comm, eq_comm]
  · refine (gives_map_iff _).trans ?_
    simp [gives_group_iff]
  · next f us hus =>
    simp only [not_gives_error, false_iff]
    rintro (⟨x, h, -⟩ | ⟨h, -⟩ | ⟨h, -⟩ | ⟨g, vs, u, h, -⟩ | ⟨vs, h, -⟩)
    all_goals simp only [List.cons.injEq, reduceCtorEq, false_and] at h
    exact hus _ h.2
  · refine gives_keep_iff.trans ?_
    simp [gives_group_iff]
  · next s us h1 h2 h3 h4 h5 h6 =>
    simp only [not_gives_error, false_iff]
    rintro (⟨x, h, -⟩ | ⟨h, -⟩ | ⟨h, -⟩ | ⟨g, vs, u, h, -⟩ | ⟨vs, h, -⟩)
    all_goals simp only [List.cons.injEq] at h
    · exact h1 _ h.1
    · exact h2 h.1
    · exact h3 h.1
    · exact h5 _ h.1
    · exact h6 h.1
  · simp [not_gives_error]

/-- A sign stands in front of a smaller operand; without a sign there is a power. -/
lemma gives_signed_iff :
    Gives (deeper.signed ts) t rest ↔
      (∃ us, ts = .plus :: us ∧ Gives (deeper.unary us) t rest) ∨
        (∃ us u, ts = .minus :: us ∧ Gives (deeper.unary us) u rest ∧ t = .neg u) ∨
        Gives (deeper.power ts) t rest := by
  unfold Readers.signed
  split
  · refine gives_keep_iff.trans ?_
    simp [gives_power_iff, gives_primary_iff]
  · refine (gives_map_iff _).trans ?_
    simp [gives_power_iff, gives_primary_iff]
  · next h1 h2 =>
    refine ⟨fun h => .inr (.inr h), ?_⟩
    rintro (⟨us, h, -⟩ | ⟨us, u, h, -⟩ | h)
    · exact (h1 us h).elim
    · exact (h2 us h).elim
    · exact h

end Readers

/-! ### What is read is derived -/

/-- The reader gives derivations of `X` only, in which each token stands in fewer than `n`
constructs. -/
def Sound (X : Nonterminal) (n : ℕ) (r : Reader) : Prop :=
  ∀ ts t rest, Gives (r ts) t rest → ∃ us, ts = us ++ rest ∧ ∃ d < n, Derives X d us t

section Sound

variable {n : ℕ} {deeper : Readers} {X Y : Nonterminal}
  {operator? : Token → Option Operator} {operand : Reader}

lemma sound_primary (h : Sound .expr n deeper.expr) : Sound .primary (n + 1) deeper.primary := by
  intro ts t rest hg
  rw [gives_primary_iff] at hg
  rcases hg with ⟨x, rfl, rfl⟩ | ⟨rfl, rfl⟩ | ⟨rfl, rfl⟩ | ⟨f, vs, u, rfl, hu, rfl⟩ | ⟨vs, rfl, hu⟩
  · exact ⟨[.number x], rfl, 0, by omega, .number x⟩
  · exact ⟨[.pi], rfl, 0, by omega, .pi⟩
  · exact ⟨[.e], rfl, 0, by omega, .e⟩
  · obtain ⟨us, rfl, d, hd, hD⟩ := h _ _ _ hu
    exact ⟨.func f :: .parenOpen :: (us ++ [.parenClose]), by simp, d + 1, by omega, .call f hD⟩
  · obtain ⟨us, rfl, d, hd, hD⟩ := h _ _ _ hu
    exact ⟨.parenOpen :: (us ++ [.parenClose]), by simp, d + 1, by omega, .group hD⟩

lemma sound_power (h : Sound .primary (n + 1) deeper.primary) (h' : Sound .unary n deeper.unary) :
    Sound .power (n + 1) deeper.power := by
  intro ts t rest hg
  rw [gives_power_iff] at hg
  rcases hg with ⟨hg, -⟩ | ⟨b, vs, x, hb, hx, rfl⟩
  · obtain ⟨us, rfl, d, hd, hD⟩ := h _ _ _ hg
    exact ⟨us, rfl, d, hd, .base hD⟩
  · obtain ⟨us, rfl, d, hd, hD⟩ := h _ _ _ hb
    obtain ⟨ws, rfl, k, hk, hK⟩ := h' _ _ _ hx
    exact ⟨us ++ .doubleStar :: ws, by simp, max d (k + 1), by omega, .pow hD hK⟩

lemma sound_signed (h : Sound .power (n + 1) deeper.power) (h' : Sound .unary n deeper.unary) :
    Sound .unary (n + 1) deeper.signed := by
  intro ts t rest hg
  rw [gives_signed_iff] at hg
  rcases hg with ⟨vs, rfl, hg⟩ | ⟨vs, u, rfl, hg, rfl⟩ | hg
  · obtain ⟨us, rfl, d, hd, hD⟩ := h' _ _ _ hg
    exact ⟨.plus :: us, rfl, d + 1, by omega, .plus hD⟩
  · obtain ⟨us, rfl, d, hd, hD⟩ := h' _ _ _ hg
    exact ⟨.minus :: us, rfl, d + 1, by omega, .minus hD⟩
  · obtain ⟨us, rfl, d, hd, hD⟩ := h _ _ _ hg
    exact ⟨us, rfl, d, hd, .unsigned hD⟩

/-- A chain of `Y`s extends the `X` on its left. The induction is on a bound for the length of the
tokens, since an operand takes any number of them. -/
lemma sound_chain (hY : Sound Y n operand)
    (hX : ∀ {d k ts us l r s op}, Derives X d ts l → operator? s = some op → Derives Y k us r →
      Derives X (max d k) (ts ++ s :: us) (.binary op l r)) :
    ∀ (m : ℕ) (ts rest vs : List Token) (left t : Tree) (d : ℕ), ts.length ≤ m → d < n →
      Derives X d vs left → Gives (chain operator? operand left ts) t rest →
        ∃ us, ts = us ++ rest ∧ ∃ k < n, Derives X k (vs ++ us) t := by
  intro m
  induction m with
  | zero =>
      intro ts rest vs left t d hm hd hD hg
      obtain rfl := List.length_eq_zero_iff.mp (Nat.le_zero.mp hm)
      obtain ⟨rfl, rfl⟩ := gives_chain_nil_iff.mp hg
      exact ⟨[], rfl, d, hd, by simpa using hD⟩
  | succ m ih =>
      intro ts rest vs left t d hm hd hD hg
      rcases ts with _ | ⟨s, ts⟩
      · obtain ⟨rfl, rfl⟩ := gives_chain_nil_iff.mp hg
        exact ⟨[], rfl, d, hd, by simpa using hD⟩
      rcases gives_chain_cons_iff.mp hg with ⟨-, rfl, rfl⟩ | ⟨op, hop, r, ws, hr, hall⟩
      · exact ⟨[], rfl, d, hd, by simpa using hD⟩
      · obtain ⟨us, rfl, k, hk, hK⟩ := hY _ _ _ hr
        have hlen : ws.length ≤ m := by
          simp only [List.length_cons, List.length_append] at hm
          omega
        obtain ⟨us', rfl, k', hk', hK'⟩ :=
          ih ws rest (vs ++ s :: us) _ t (max d k) hlen (max_lt hd hk) (hX hD hop hK) hall
        exact ⟨s :: us ++ us', by simp, k', hk', by simpa using hK'⟩

lemma sound_chained (hY : Sound Y n operand) (hYX : ∀ {d ts t}, Derives Y d ts t → Derives X d ts t)
    (hX : ∀ {d k ts us l r s op}, Derives X d ts l → operator? s = some op → Derives Y k us r →
      Derives X (max d k) (ts ++ s :: us) (.binary op l r)) :
    Sound X n (chained operator? operand) := by
  intro ts t rest hg
  obtain ⟨l, ws, hl, hall⟩ := gives_chained_iff.mp hg
  obtain ⟨us, rfl, d, hd, hD⟩ := hY _ _ _ hl
  obtain ⟨us', rfl, k, hk, hK⟩ :=
    sound_chain hY hX ws.length ws rest us l t d le_rfl hd (hYX hD) hall
  exact ⟨us ++ us', by simp, k, hk, hK⟩

lemma sound_term (h : Sound .unary n operand) :
    Sound .term n (chained productOperator? operand) :=
  sound_chained h .factor fun hl hs hr => .product hl (productOperator?_eq_some_iff.mp hs) hr

lemma sound_expr (h : Sound .term n operand) : Sound .expr n (chained sumOperator? operand) :=
  sound_chained h .summand fun hl hs hr => .sum hl (sumOperator?_eq_some_iff.mp hs) hr

/-- The step from the readers below a construct to those around it. -/
lemma sound_under (h : Sound .expr n deeper.expr) (h' : Sound .unary n deeper.unary) :
    Sound .expr (n + 1) deeper.under.expr ∧ Sound .unary (n + 1) deeper.under.unary := by
  have hsigned : Sound .unary (n + 1) deeper.signed :=
    sound_signed (sound_power (sound_primary h) h') h'
  exact ⟨sound_expr (sound_term hsigned), hsigned⟩

/-- The readers that may descend `n` times are sound up to `n` constructs. -/
lemma sound_within (n : ℕ) :
    Sound .expr (n + 1) (Readers.within n).expr ∧
    Sound .unary (n + 1) (Readers.within n).unary := by
  induction n with
  | zero =>
      refine sound_under ?_ ?_
      all_goals
        intro ts t rest hg
        exact absurd hg not_gives_error
  | succ n ih => exact sound_under ih.1 ih.2

end Sound

/-! ### What is derived is read -/

/-- The readers that stand below `n` more constructs at most: none at all for `n = 0`. -/
def below : ℕ → Readers
  | 0 => .refusing
  | n + 1 => .within n

lemma within_eq_under (n : ℕ) : Readers.within n = (below n).under := by
  cases n <;> rfl

/-- The rest does not go on with a power. -/
def EndsPower (rest : List Token) : Prop := rest.head? ≠ some .doubleStar

/-- The rest goes on neither with a power nor with a product. -/
def EndsProduct (rest : List Token) : Prop :=
  EndsPower rest ∧ ∀ s ∈ rest.head?, productOperator? s = none

/-- In front of every rest that does not go on with them, the tokens `us` are read as `X` with the
tree `t`, where at most `n` more constructs may be entered. For sums and products what comes of the
chain behind `us` is what comes of all. -/
def Covered (n : ℕ) (us : List Token) (t : Tree) : Nonterminal → Prop
  | .primary => ∀ rest, Gives ((below n).primary (us ++ rest)) t rest
  | .power => ∀ rest, EndsPower rest → Gives ((below n).power (us ++ rest)) t rest
  | .unary => ∀ rest, EndsPower rest → Gives ((below n).signed (us ++ rest)) t rest
  | .term => ∀ rest u vs, EndsPower rest →
      Gives (chain productOperator? (below n).signed t rest) u vs →
        Gives (chained productOperator? (below n).signed (us ++ rest)) u vs
  | .expr => ∀ rest u vs, EndsProduct rest →
      Gives (chain sumOperator? (chained productOperator? (below n).signed) t rest) u vs →
        Gives (chained sumOperator? (chained productOperator? (below n).signed) (us ++ rest)) u vs

/-- A chain ends where no operator follows. -/
lemma gives_chain_of_head {operator? : Token → Option Operator} {operand : Reader}
    {rest : List Token} {t : Tree} (h : ∀ s ∈ rest.head?, operator? s = none) :
    Gives (chain operator? operand t rest) t rest := by
  rcases rest with _ | ⟨s, rest⟩
  · exact gives_chain_nil_iff.mpr ⟨rfl, rfl⟩
  · exact gives_chain_cons_iff.mpr (.inl ⟨h s rfl, rfl, rfl⟩)

lemma Covered.gives_term {n : ℕ} {us rest : List Token} {t : Tree} (h : Covered n us t .term)
    (hrest : EndsProduct rest) :
    Gives (chained productOperator? (below n).signed (us ++ rest)) t rest :=
  h rest t rest hrest.1 (gives_chain_of_head hrest.2)

lemma Covered.gives_expr {n : ℕ} {us rest : List Token} {t : Tree} (h : Covered n us t .expr)
    (hrest : EndsProduct rest) (hsum : ∀ s ∈ rest.head?, sumOperator? s = none) :
    Gives ((Readers.within n).expr (us ++ rest)) t rest := by
  rw [within_eq_under]
  exact h rest t rest hrest (gives_chain_of_head hsum)

/-- An expression in front of a closing parenthesis is read up to it. -/
lemma Covered.gives_inside {n : ℕ} {us : List Token} {t : Tree} (h : Covered n us t .expr)
    (rest : List Token) :
    Gives ((Readers.within n).expr (us ++ [.parenClose] ++ rest)) t (.parenClose :: rest) := by
  rw [List.append_assoc]
  exact h.gives_expr (by simp [EndsProduct, EndsPower, productOperator?]) (by simp [sumOperator?])

/-- A unary operand is read by the readers below its sign or behind its `**`. -/
lemma Covered.gives_unary {n : ℕ} {us rest : List Token} {t : Tree} (h : Covered n us t .unary)
    (hrest : EndsPower rest) : Gives ((Readers.within n).unary (us ++ rest)) t rest := by
  rw [within_eq_under]
  exact h rest hrest

/-- Every derivation is read where its constructs may be entered. -/
lemma Derives.covered {X : Nonterminal} {d : ℕ} {us : List Token} {t : Tree}
    (h : Derives X d us t) : ∀ n, d ≤ n → Covered n us t X := by
  induction h with
  | number x =>
      intro n _ rest
      exact gives_primary_iff.mpr (.inl ⟨x, rfl, rfl⟩)
  | pi =>
      intro n _ rest
      exact gives_primary_iff.mpr (.inr (.inl ⟨rfl, rfl⟩))
  | e =>
      intro n _ rest
      exact gives_primary_iff.mpr (.inr (.inr (.inl ⟨rfl, rfl⟩)))
  | call f _ ih =>
      intro n hn rest
      obtain ⟨n, rfl⟩ : ∃ m, n = m + 1 := ⟨n - 1, by omega⟩
      exact gives_primary_iff.mpr
        (.inr (.inr (.inr (.inl ⟨f, _, _, rfl, (ih n (by omega)).gives_inside rest, rfl⟩))))
  | group _ ih =>
      intro n hn rest
      obtain ⟨n, rfl⟩ : ∃ m, n = m + 1 := ⟨n - 1, by omega⟩
      exact gives_primary_iff.mpr
        (.inr (.inr (.inr (.inr ⟨_, rfl, (ih n (by omega)).gives_inside rest⟩))))
  | base _ ih =>
      intro n hn rest hrest
      exact gives_power_iff.mpr (.inl ⟨ih n hn rest, hrest⟩)
  | @pow d k ts us b x _ _ ih ih' =>
      intro n hn rest hrest
      obtain ⟨n, rfl⟩ : ∃ m, n = m + 1 := ⟨n - 1, by omega⟩
      have hb := ih (n + 1) (by omega) (.doubleStar :: (us ++ rest))
      have hx := (ih' n (by omega)).gives_unary hrest
      rw [List.append_assoc, List.cons_append]
      exact gives_power_iff.mpr (.inr ⟨b, us ++ rest, x, hb, hx, rfl⟩)
  | unsigned _ ih =>
      intro n hn rest hrest
      exact gives_signed_iff.mpr (.inr (.inr (ih n hn rest hrest)))
  | plus _ ih =>
      intro n hn rest hrest
      obtain ⟨n, rfl⟩ : ∃ m, n = m + 1 := ⟨n - 1, by omega⟩
      exact gives_signed_iff.mpr (.inl ⟨_, rfl, (ih n (by omega)).gives_unary hrest⟩)
  | minus _ ih =>
      intro n hn rest hrest
      obtain ⟨n, rfl⟩ : ∃ m, n = m + 1 := ⟨n - 1, by omega⟩
      exact gives_signed_iff.mpr (.inr (.inl ⟨_, _, rfl, (ih n (by omega)).gives_unary hrest, rfl⟩))
  | factor _ ih =>
      intro n hn rest u vs hrest hg
      exact gives_chained_iff.mpr ⟨_, rest, ih n hn rest hrest, hg⟩
  | @product d k ts us l r s op _ hs _ ih ih' =>
      intro n hn rest u vs hrest hg
      have hr := ih' n (by omega) rest hrest
      have hall := gives_chain_cons_iff.mpr
        (.inr ⟨op, productOperator?_eq_some_iff.mpr hs, r, rest, hr, hg⟩)
      rw [List.append_assoc, List.cons_append]
      refine ih n (by omega) _ u vs ?_ hall
      cases hs <;> simp [EndsPower]
  | summand _ ih =>
      intro n hn rest u vs hrest hg
      exact gives_chained_iff.mpr ⟨_, rest, (ih n hn).gives_term hrest, hg⟩
  | @sum d k ts us l r s op _ hs _ ih ih' =>
      intro n hn rest u vs hrest hg
      have hr := (ih' n (by omega)).gives_term hrest
      have hall := gives_chain_cons_iff.mpr
        (.inr ⟨op, sumOperator?_eq_some_iff.mpr hs, r, rest, hr, hg⟩)
      rw [List.append_assoc, List.cons_append]
      refine ih n (by omega) _ u vs ?_ hall
      cases hs <;> simp [EndsProduct, EndsPower, productOperator?]

/-! ### The tree of a text -/

/-- The readers that may descend `n` times read all of `ts` as an expression exactly if it is one
within `n` constructs. -/
lemma gives_expr_iff_derives {n : ℕ} {ts : List Token} {t : Tree} :
    Gives ((Readers.within n).expr ts) t [] ↔ ∃ d ≤ n, Derives .expr d ts t := by
  constructor
  · intro hg
    obtain ⟨us, rfl, d, hd, hD⟩ := (sound_within n).1 _ _ _ hg
    exact ⟨d, by omega, by simpa using hD⟩
  · rintro ⟨d, hd, hD⟩
    have hend : EndsProduct [] := by simp [EndsProduct, EndsPower]
    have hg := (hD.covered n hd).gives_expr hend (by simp)
    rwa [List.append_nil] at hg

lemma ofTokens_eq_ok_iff {ts : List Token} {t : Tree} :
    Tree.ofTokens ts = .ok t ↔ Gives ((Readers.within maxDepth).expr ts) t [] := by
  unfold Tree.ofTokens
  split
  · next hts =>
    obtain rfl := List.isEmpty_iff.mp hts
    simp only [reduceCtorEq, false_iff]
    rw [gives_expr_iff_derives]
    rintro ⟨d, -, hD⟩
    exact hD.ne_nil rfl
  · cases (Readers.within maxDepth).expr ts with
    | error cause => simp [Gives, bind, Except.bind]
    | ok all =>
        obtain ⟨u, us, h⟩ := all
        rcases us with _ | ⟨s, us⟩
        · simp [gives_ok_iff, bind, Except.bind, pure, Except.pure, eq_comm]
        · simp [gives_ok_iff, bind, Except.bind, throw, throwThe, MonadExceptOf.throw]

/-- **The grammar of texts**: a text is parsed into a tree exactly if it has tokens that derive this
tree, with none of them in more than 200 constructs. Every other text has a syntax error. -/
theorem parse_iff_derives (cs : List Char) :
    (∀ t, parse cs = .ok t ↔ ∃ ts, Token.scan cs = .ok ts ∧ ∃ d ≤ 200, Derives .expr d ts t) ∧
      ((∃ t, parse cs = .ok t) ∨ ∃ detail, parse cs = .error (.malformed detail)) := by
  constructor
  · intro t
    unfold parse Tree.ofText
    cases Token.scan cs with
    | error cause => simp [bind, Except.bind, Except.mapError]
    | ok ts =>
        have hts : Tree.ofTokens ts = .ok t ↔ ∃ d ≤ 200, Derives .expr d ts t :=
          ofTokens_eq_ok_iff.trans gives_expr_iff_derives
        cases h : Tree.ofTokens ts with
        | error cause => simp [bind, Except.bind, Except.mapError, ← hts, h]
        | ok u => simp [bind, Except.bind, Except.mapError, ← hts, h]
  · unfold parse
    cases Tree.ofText cs with
    | error cause => exact .inr ⟨cause.message, rfl⟩
    | ok t => exact .inl ⟨t, rfl⟩

end ChatBot.Calculator
