import ChatBot.Proofs.Counting
import ChatBot.Proofs.Routing
import ChatBot.Proofs.Storage.Ready

/-!
The order of messages does not matter.

* `counterFor?_of_tables`: the counter of a name, by the tables of its channel;
* `deliver_alike`, `deliver_counted`: a message that is meant for no counter changes no
  table, and any other one counts;
* `deliver_congr`: which counter a message is meant for, and the reply if there is none, depend on
  the tables of texts and of other names alone;
* `Dispatcher.countedBy`: the variables of a name that messages count;
* `Held`: the invariant of a run. All tables are those of the start, but for the variables counted
  so far, and so are the files;
* `Reorders`: what is left in the files, the replies and the counts do not depend on the order.
  `reorders_of_prepare` is for stores whose folders have been made;
* `after_perm`: it is so wherever the tables can be read and are at the end of clear paths.
-/

namespace ChatBot

open ChatBot.Storage
open ChatBot.Json (Fields)

namespace Dispatcher

variable {d : Dispatcher} {s u : Store} {channel name : String} {x : Delivery}
    {aliases commands : Table}

/-! ### Answers from tables -/

/-- The counter of a name, by the tables of its channel. -/
lemma counterFor?_of_tables (d : Dispatcher) (name : String) (h : s.Ready (tableName channel))
    (haliases : s.table (Store.aliasesPath s.root channel) = .ok aliases)
    (hcommands : s.table (Store.commandsPath s.root channel) = .ok commands) :
    d.counterFor? s.content channel name =
      match textIn? commands (targetIn aliases name) with
      | some _ => none
      | none => d.counters.find? (·.answers channel (targetIn aliases name)) := by
  rw [Store.eq_shown_of_table_eq (h.reaches .aliases) haliases,
    Store.eq_shown_of_table_eq (h.reaches .commands) hcommands]
  rfl

/-- A name without a counter is answered from the tables, which are kept. -/
lemma channelReply_of_none (h : s.Ready (tableName channel))
    (haliases : s.table (Store.aliasesPath s.root channel) = .ok aliases)
    (hcommands : s.table (Store.commandsPath s.root channel) = .ok commands)
    (hnone : d.counterFor? s.content channel name = none) :
    (d.channelReply channel name).perform s =
      (.ok ((textIn? commands (targetIn aliases name)).map .text),
        s.keepBoth channel aliases commands) := by
  rw [counterFor?_of_tables d name h haliases hcommands] at hnone
  rw [channelReply_of_tables d name haliases hcommands]
  cases htext : textIn? commands (targetIn aliases name) with
  | some text => rfl
  | none =>
      rw [htext] at hnone
      simp only [perform_counterReply, hnone]
      rfl

/-- A name with a counter is answered by counting, after the tables are kept. -/
lemma channelReply_of_some {c : Counter} (h : s.Ready (tableName channel))
    (haliases : s.table (Store.aliasesPath s.root channel) = .ok aliases)
    (hcommands : s.table (Store.commandsPath s.root channel) = .ok commands)
    (hsome : d.counterFor? s.content channel name = some c) :
    (d.channelReply channel name).perform s =
      (((Store.increment channel c.variableName).perform
          (s.keepBoth channel aliases commands)).1.map fun n => some (.text (c.text n)),
        ((Store.increment channel c.variableName).perform
          (s.keepBoth channel aliases commands)).2) := by
  rw [counterFor?_of_tables d name h haliases hcommands] at hsome
  rw [channelReply_of_tables d name haliases hcommands]
  cases htext : textIn? commands (targetIn aliases name) with
  | some text =>
      rw [htext] at hsome
      cases hsome
  | none =>
      rw [htext] at hsome
      simp only [perform_counterReply, hsome]

/-- Both tables that decide about the names of a channel can be had and kept. -/
lemma exists_tables (h : s.Ready (tableName channel)) :
    ∃ aliases commands, s.table (Store.aliasesPath s.root channel) = .ok aliases ∧
      s.table (Store.commandsPath s.root channel) = .ok commands ∧
      Store.Alike s (s.keepBoth channel aliases commands) := by
  obtain ⟨aliases, haliases⟩ := h.table .aliases
  obtain ⟨commands, hcommands⟩ := h.table .commands
  exact ⟨aliases, commands, haliases, hcommands, rfl, rfl, Store.table_keepBoth haliases hcommands⟩

/-! ### One message -/

lemma ready_channel {m : Message} (h : s.Ready (tableName m.chat)) :
    s.Ready (tableName m.channel) := by
  rwa [tableName_channel]

lemma counterOf?_of_commandOf? {t : Tables} (h : d.commandOf? x.message = some name) :
    d.counterOf? t x.message = d.counterFor? t x.message.channel name := by
  rw [counterOf?, h, Option.bind_some]

/-- What the channel answers is the reply. -/
lemma deliver_of_channelReply {reply : Option Reply} (h : d.commandOf? x.message = some name)
    (hreply : (d.channelReply x.message.channel name).perform s = (.ok reply, u)) :
    d.deliver x s = (reply, u) := by
  have hrun : (d.channelReply x.message.channel name).run.run s = (.ok reply, u) := hreply
  rw [deliver_of_commandOf? h, fallback, hrun]

/-- A message that is meant for no counter changes no table. -/
lemma deliver_alike (h : s.Ready (tableName x.message.chat))
    (hnone : d.counterOf? s.content x.message = none) : Store.Alike s (d.deliver x s).2 := by
  cases hcommand : d.commandOf? x.message with
  | none =>
      obtain ⟨reply, hdeliver⟩ := deliver_of_none hcommand
      rw [hdeliver s]
      exact .refl s
  | some name =>
      have hready := ready_channel h
      obtain ⟨aliases, commands, haliases, hcommands, halike⟩ := exists_tables hready
      rw [counterOf?_of_commandOf? hcommand] at hnone
      rw [deliver_of_channelReply hcommand (channelReply_of_none hready haliases hcommands hnone)]
      exact halike

/-- A message that is meant for a counter counts, and the reply tells the number. -/
lemma deliver_counted {c : Counter} {table : Table} (h : s.Ready (tableName x.message.chat))
    (htable : s.table (tablePath s.root .variables (tableName x.message.chat)) = .ok table)
    (hsome : d.counterOf? s.content x.message = some c) :
    (d.deliver x s).1 = some (.text (c.text
        (Store.successor (Store.countOf (Fields.get? table c.variableName))))) ∧
      Store.Counted s (d.deliver x s).2 (tableName x.message.chat) c.variableName table := by
  cases hcommand : d.commandOf? x.message with
  | none => simp [counterOf?, hcommand] at hsome
  | some name =>
      have hready := ready_channel h
      obtain ⟨aliases, commands, haliases, hcommands, halike⟩ := exists_tables hready
      rw [counterOf?_of_commandOf? hcommand] at hsome
      rw [← tableName_channel, ← Store.variablesPath_eq] at htable
      have hvariables := (halike.table _).trans htable
      obtain ⟨hcount, hcounted⟩ :=
        Store.increment_of_ready (halike.ready hready) hvariables c.variableName
      have hreply := channelReply_of_some hready haliases hcommands hsome
      rw [hcount] at hreply
      rw [deliver_of_channelReply hcommand hreply, ← tableName_channel]
      dsimp only
      exact ⟨rfl, halike.counted hcounted⟩

/-- The counter that a message is meant for, and the reply if there is none, are the same in stores
with the same texts and other names. -/
lemma deliver_congr (h : s.Ready (tableName x.message.chat))
    (h' : u.Ready (tableName x.message.chat))
    (hroot : u.root = s.root) (htable : ∀ kind, kind ≠ .variables →
      u.table (tablePath s.root kind (tableName x.message.chat)) =
        s.table (tablePath s.root kind (tableName x.message.chat))) :
    d.counterOf? u.content x.message = d.counterOf? s.content x.message ∧
      (d.counterOf? s.content x.message = none → (d.deliver x u).1 = (d.deliver x s).1) := by
  cases hcommand : d.commandOf? x.message with
  | none =>
      obtain ⟨reply, hdeliver⟩ := deliver_of_none hcommand
      rw [counterOf?, counterOf?, hcommand, hdeliver s, hdeliver u, Option.bind_none,
        Option.bind_none]
      exact ⟨rfl, fun _ => rfl⟩
  | some name =>
      have hready := ready_channel h
      have hready' := ready_channel h'
      obtain ⟨aliases, commands, haliases, hcommands, -⟩ := exists_tables hready
      rw [← tableName_channel] at htable
      have haliases' : u.table (Store.aliasesPath u.root x.message.channel) = .ok aliases := by
        rw [hroot, ← haliases]
        exact htable .aliases (by decide)
      have hcommands' : u.table (Store.commandsPath u.root x.message.channel) = .ok commands := by
        rw [hroot, ← hcommands]
        exact htable .commands (by decide)
      have hcounter : d.counterFor? u.content x.message.channel name =
          d.counterFor? s.content x.message.channel name := by
        rw [counterFor?_of_tables d name hready haliases hcommands,
          counterFor?_of_tables d name hready' haliases' hcommands']
      rw [counterOf?_of_commandOf? hcommand, counterOf?_of_commandOf? hcommand]
      refine ⟨hcounter, fun hnone => ?_⟩
      rw [deliver_of_channelReply hcommand (channelReply_of_none hready haliases hcommands hnone),
        deliver_of_channelReply hcommand
          (channelReply_of_none hready' haliases' hcommands' (hcounter.trans hnone))]

/-! ### Runs -/

/-- The variable of a name that a message counts. -/
def countedBy? (d : Dispatcher) (t : Tables) (name : String) (x : Delivery) : Option String :=
  if tableName x.message.chat = name then (d.counterOf? t x.message).map Counter.variableName
  else none

/-- The variables of a name that messages count, one after the other. -/
def countedKeys (d : Dispatcher) (t : Tables) (name : String) (xs : List Delivery) : List String :=
  xs.filterMap (d.countedBy? t name)

/-- The store `u` comes after `s` by the messages `past`: all tables are those of `s`, but for the
variables that were counted, and so are all files. -/
structure Held (d : Dispatcher) (s : Store) (past : List Delivery) (u : Store) : Prop where
  root : u.root = s.root
  ready : ∀ n, s.Ready n → u.Ready n
  same : ∀ n, s.Ready n → ∀ kind, kind ≠ .variables →
    u.table (tablePath s.root kind n) = s.table (tablePath s.root kind n)
  counted : ∀ n table, s.Ready n → s.table (tablePath s.root .variables n) = .ok table →
    u.table (tablePath s.root .variables n) =
      .ok ((d.countedKeys s.content n past).foldl bump table)
  written : ∀ n table, s.Ready n → s.table (tablePath s.root .variables n) = .ok table →
    d.countedKeys s.content n past ≠ [] → u.files.get? (tablePath s.root .variables n).lexical =
      some (.file (tableText ((d.countedKeys s.content n past).foldl bump table)))
  unwritten : ∀ place, (∀ n, s.Ready n → d.countedKeys s.content n past ≠ [] →
      place ≠ (tablePath s.root .variables n).lexical) →
    ∀ body, u.files.get? place = some (.file body) ↔ s.files.get? place = some (.file body)

variable {past rest xs ys : List Delivery}

lemma Held.start (d : Dispatcher) (s : Store) : d.Held s [] s where
  root := rfl
  ready _ h := h
  same _ _ _ _ := rfl
  counted _ _ _ h := h
  written _ _ _ _ h := absurd rfl h
  unwritten _ _ _ := .rfl

lemma countedKeys_concat (t : Tables) (n : String) :
    d.countedKeys t n (past ++ [x]) = d.countedKeys t n past ++ (d.countedBy? t n x).toList := by
  rw [countedKeys, List.filterMap_append, countedKeys]
  cases h : d.countedBy? t n x <;> simp [h]

lemma countedKeys_concat_of_none {t : Tables} {n : String} (h : d.countedBy? t n x = none) :
    d.countedKeys t n (past ++ [x]) = d.countedKeys t n past := by
  rw [countedKeys_concat, h]
  exact List.append_nil _

lemma countedKeys_cons (t : Tables) (n : String) :
    d.countedKeys t n (x :: rest) = (d.countedBy? t n x).toList ++ d.countedKeys t n rest := by
  rw [countedKeys, List.filterMap_cons, countedKeys]
  cases d.countedBy? t n x <;> rfl

/-- Messages that change no table hold nothing up. -/
lemma Held.alike {u' : Store} (h : d.Held s past u) (halike : Store.Alike u u')
    (hkeys : ∀ n, d.countedBy? s.content n x = none) : d.Held s (past ++ [x]) u' := by
  have hsame : ∀ n, d.countedKeys s.content n (past ++ [x]) = d.countedKeys s.content n past :=
    fun n => countedKeys_concat_of_none (hkeys n)
  obtain ⟨hroot, hready, htable, hcounted, hwritten, hunwritten⟩ := h
  constructor
  · exact halike.root.trans hroot
  · exact fun n hn => halike.ready (hready n hn)
  · exact fun n hn kind hkind => (halike.table _).trans (htable n hn kind hkind)
  · intro n table hn hs
    rw [halike.table, hsame]
    exact hcounted n table hn hs
  · intro n table hn hs
    rw [halike.files, hsame]
    exact hwritten n table hn hs
  · intro place hplace
    simp only [hsame] at hplace
    rw [halike.files]
    exact hunwritten place hplace

/-- A message that counts adds its variable to those that were counted. -/
lemma Held.count {u' : Store} {name key : String} {table : Table} (h : d.Held s past u)
    (hname : s.Ready name) (hs : s.table (tablePath s.root .variables name) = .ok table)
    (hcount : Store.Counted u u' name key ((d.countedKeys s.content name past).foldl bump table))
    (hself : d.countedBy? s.content name x = some key)
    (hother : ∀ n, n ≠ name → d.countedBy? s.content n x = none) : d.Held s (past ++ [x]) u' := by
  have hkeys : d.countedKeys s.content name (past ++ [x]) =
      d.countedKeys s.content name past ++ [key] := by
    rw [countedKeys_concat, hself]
    rfl
  have hsame : ∀ n, n ≠ name →
      d.countedKeys s.content n (past ++ [x]) = d.countedKeys s.content n past :=
    fun n hn => countedKeys_concat_of_none (hother n hn)
  have hbump : (d.countedKeys s.content name (past ++ [x])).foldl bump table =
      bump ((d.countedKeys s.content name past).foldl bump table) key := by
    rw [hkeys, List.foldl_append]
    rfl
  obtain ⟨hroot, hready, htable, hcounted, hwritten, hunwritten⟩ := h
  obtain ⟨hroot', hself', hother', hwritten', helsewhere', hready'⟩ := hcount
  rw [hroot] at hself' hother' hwritten' helsewhere'
  constructor
  · exact hroot'.trans hroot
  · exact fun n hn => hready' n (hready n hn)
  · intro n hn kind hkind
    rw [hother' kind n (hready n hn) fun hvariables => hkind hvariables.1]
    exact htable n hn kind hkind
  · intro n t hn ht
    by_cases heq : n = name
    · subst heq
      obtain rfl : table = t := Except.ok.inj (hs.symm.trans ht)
      rw [hbump]
      exact hself'
    · rw [hsame n heq, hother' .variables n (hready n hn) fun hvariables => heq hvariables.2]
      exact hcounted n t hn ht
  · intro n t hn ht hne
    by_cases heq : n = name
    · subst heq
      obtain rfl : table = t := Except.ok.inj (hs.symm.trans ht)
      rw [hbump]
      exact hwritten'
    · rw [hsame n heq] at hne ⊢
      refine (helsewhere' _ (fun hplace => heq ?_) _).mpr (hwritten n t hn ht hne)
      exact (lexical_tablePath_inj hn.slash hname.slash hplace).2
  · intro place hplace body
    have hne : place ≠ (tablePath s.root .variables name).lexical :=
      hplace name hname (by rw [hkeys]; simp)
    refine (helsewhere' place hne body).trans
      (hunwritten place (fun n hn hkeys => hplace n hn ?_) body)
    rw [countedKeys_concat]
    exact List.append_ne_nil_of_left_ne_nil hkeys _

/-- **One message**: it holds up the invariant. -/
theorem Held.deliver (h : d.Held s past u) (hx : s.Ready (tableName x.message.chat)) :
    d.Held s (past ++ [x]) (d.deliver x u).2 := by
  have hu := h.ready _ hx
  obtain ⟨hcounter, -⟩ := deliver_congr (d := d) hx hu h.root (h.same _ hx)
  cases hfor : d.counterOf? s.content x.message with
  | none =>
      rw [hfor] at hcounter
      refine h.alike (deliver_alike hu hcounter) fun n => ?_
      rw [countedBy?, hfor]
      simp
  | some c =>
      rw [hfor] at hcounter
      obtain ⟨table, htable⟩ := hx.table .variables
      have hcounted := h.counted _ table hx htable
      rw [← h.root] at hcounted
      refine h.count hx htable (deliver_counted hu hcounted hcounter).2 ?_ fun n hn => ?_
      · rw [countedBy?, if_pos rfl, hfor]
        rfl
      · rw [countedBy?, if_neg hn.symm]

/-- **Runs**: they hold up the invariant. -/
theorem Held.after (h : d.Held s past u) (hrest : ∀ x ∈ rest, s.Ready (tableName x.message.chat)) :
    d.Held s (past ++ rest) (d.after rest u) := by
  induction rest generalizing past u with
  | nil =>
      rw [List.append_nil]
      exact h
  | cons x rest ih =>
      obtain ⟨hx, hrest⟩ := List.forall_mem_cons.mp hrest
      have hafter := ih (h.deliver hx) hrest
      rw [List.append_assoc] at hafter
      exact hafter

/-! ### Counts -/

variable {key : String} {table : Table}

lemma countIn_of_table (h : s.Ready (tableName channel))
    (htable : s.table (tablePath s.root .variables (tableName channel)) = .ok table) :
    countIn s channel key = Store.countOf (Fields.get? table key) := by
  rw [Store.eq_shown_of_table_eq (h.reaches .variables) htable]
  rfl

/-- A variable gets as far as it was counted. -/
lemma Held.countOf (h : d.Held s past u) (hchannel : s.Ready (tableName channel)) :
    ∃ table, u.table (tablePath u.root .variables (tableName channel)) = .ok table ∧
      Store.countOf (Fields.get? table key) =
        Store.successor^[(d.countedKeys s.content (tableName channel) past).count key]
          (countIn s channel key) := by
  obtain ⟨table, htable⟩ := hchannel.table .variables
  refine ⟨_, h.root.symm ▸ h.counted _ table hchannel htable, ?_⟩
  rw [countOf_foldl_bump, countIn_of_table hchannel htable]

/-- A message counts a variable in a run if it would have counted it at the start. -/
lemma Held.hit?_eq (h : d.Held s past u) (hx : s.Ready (tableName x.message.chat)) :
    d.hit? channel key x u = d.hit? channel key x s := by
  rw [hit?, (deliver_congr hx (h.ready _ hx) h.root (h.same _ hx)).1, hit?]

/-- Whether a message counts a variable. -/
lemma countedBy?_eq_some_iff : d.countedBy? s.content (tableName channel) x = some key ↔
    (d.hit? channel key x s).isSome = true := by
  rw [countedBy?, hit?]
  cases d.counterOf? s.content x.message with
  | none => simp
  | some c => simp [Option.filter, apply_ite]

/-- How often a message counts a variable: once, or not at all. -/
lemma count_countedBy? : (d.countedBy? s.content (tableName channel) x).toList.count key =
    if (d.hit? channel key x s).isSome then 1 else 0 := by
  split
  · next hhit =>
    rw [countedBy?_eq_some_iff.mpr hhit]
    exact List.count_singleton_self
  · next hhit =>
    rw [List.count_eq_zero, Option.mem_toList]
    exact fun hmem => hhit (countedBy?_eq_some_iff.mp hmem)

/-- The reply to a message that counts a variable tells the next number. -/
lemma Held.hit (h : d.Held s past u) (hx : s.Ready (tableName x.message.chat)) {c : Counter}
    (hhit : d.hit? channel key x u = some c) :
    (d.deliver x u).1 = some (.text (c.text (Store.successor^[
      (d.countedKeys s.content (tableName channel) past).count key + 1]
        (countIn s channel key)))) := by
  obtain ⟨hcounter, hsame⟩ := Option.filter_eq_some_iff.mp hhit
  obtain ⟨hname, rfl⟩ : tableName x.message.chat = tableName channel ∧ c.variableName = key := by
    simpa using hsame
  have hu := h.ready _ hx
  rw [hname] at hx
  obtain ⟨table, htable, hcount⟩ := h.countOf hx
  rw [← hname] at htable
  rw [(deliver_counted hu htable hcounter).1, hcount, Function.iterate_succ_apply']

/-- The numbers that are told go up one by one, from where the variable has got so far. -/
lemma Held.hits (channel key : String) (h : d.Held s past u)
    (hrest : ∀ x ∈ rest, s.Ready (tableName x.message.chat)) :
    (∀ (i : ℕ) (c : Counter) (reply : Option Reply),
      (d.hits channel key rest u)[i]? = some (c, reply) →
      reply = some (.text (c.text (Store.successor^[
        (d.countedKeys s.content (tableName channel) past).count key + i + 1]
          (countIn s channel key))))) ∧
    (d.hits channel key rest u).length =
      (d.countedKeys s.content (tableName channel) rest).count key := by
  induction rest generalizing past u with
  | nil => simp [Dispatcher.hits, countedKeys]
  | cons x rest ih =>
      obtain ⟨hx, hrest⟩ := List.forall_mem_cons.mp hrest
      obtain ⟨ihreply, ihlength⟩ := ih (h.deliver hx) hrest
      rw [countedKeys_concat, List.count_append, count_countedBy?, ← h.hit?_eq hx] at ihreply
      rw [Dispatcher.hits, countedKeys_cons, List.count_append, count_countedBy?, ← h.hit?_eq hx]
      cases hhit : d.hit? channel key x u with
      | none =>
          rw [hhit] at ihreply
          rw [ihlength]
          exact ⟨ihreply, (Nat.zero_add _).symm⟩
      | some c =>
          rw [hhit] at ihreply
          let count := (d.countedKeys s.content (tableName channel) past).count key
          refine ⟨told_cons (f := fun i => Store.successor^[count + i + 1] (countIn s channel key))
            (h.hit hx hhit) fun i c' reply hi => ?_, ?_⟩
          · have hnumber : count + 1 + i + 1 = count + (i + 1) + 1 := by omega
            exact hnumber ▸ ihreply i c' reply hi
          · rw [List.length_cons, ihlength]
            exact Nat.add_comm _ 1

/-! ### Orders -/

/-- The files are the same after two runs that count the same. -/
lemma Held.bodies {v : Store} (h : d.Held s xs u) (h' : d.Held s ys v)
    (hkeys : ∀ n, (d.countedKeys s.content n xs).Perm (d.countedKeys s.content n ys))
    (place : Path) (body : String) :
    u.files.get? place = some (.file body) ↔ v.files.get? place = some (.file body) := by
  by_cases hplace : ∃ n, s.Ready n ∧ d.countedKeys s.content n xs ≠ [] ∧
      place = (tablePath s.root .variables n).lexical
  · obtain ⟨n, hn, hne, rfl⟩ := hplace
    obtain ⟨table, htable⟩ := hn.table .variables
    have hne' : d.countedKeys s.content n ys ≠ [] := fun hnil => hne ((hnil ▸ hkeys n).eq_nil)
    rw [h.written n table hn htable hne, h'.written n table hn htable hne',
      foldl_bump_perm (hkeys n)]
  · have hxs : ∀ n, s.Ready n → d.countedKeys s.content n xs ≠ [] →
        place ≠ (tablePath s.root .variables n).lexical :=
      fun n hn hne heq => hplace ⟨n, hn, hne, heq⟩
    have hys : ∀ n, s.Ready n → d.countedKeys s.content n ys ≠ [] →
        place ≠ (tablePath s.root .variables n).lexical :=
      fun n hn hne => hxs n hn fun hnil => hne ((hnil ▸ hkeys n).nil_eq.symm)
    exact (h.unwritten place hxs body).trans (h'.unwritten place hys body).symm

/-- What is left in the files is the same in both orders. Whether a message is meant for a counter,
and its reply if it is not, are those of the start. The messages that count a variable are equally
many and tell the same numbers, one after the other. -/
structure Reorders (d : Dispatcher) (xs ys : List Delivery) (s : Store) : Prop where
  bodies : ∀ place body, (d.after ys s).files.get? place = some (.file body) ↔
    (d.after xs s).files.get? place = some (.file body)
  handled : ∀ past x rest, ys = past ++ x :: rest →
    d.counterOf? (d.after past s).content x.message = d.counterOf? s.content x.message ∧
      (d.counterOf? s.content x.message = none →
        (d.deliver x (d.after past s)).1 = (d.deliver x s).1)
  hits : ∀ channel key, (d.hits channel key ys s).length = (d.hits channel key xs s).length ∧
    ∀ (i : ℕ) (c : Counter) (reply : Option Reply),
      (d.hits channel key ys s)[i]? = some (c, reply) →
      reply = some (.text (c.text (Store.successor^[i + 1] (countIn s channel key))))

lemma reorders {xs ys : List Delivery} (hperm : ys.Perm xs)
    (hslash : ∀ x ∈ xs, '/' ∉ x.message.chat.toList)
    (hread : ∀ x ∈ xs, ∀ kind, ∃ table,
      readTable s.files (tablePath s.root kind (tableName x.message.chat)) = .ok table)
    (hclear : ∀ x ∈ xs, ∀ kind,
      s.files.IsClear (tablePath s.root kind (tableName x.message.chat))) :
    d.Reorders xs ys s := by
  have hready : ∀ x ∈ xs, s.Ready (tableName x.message.chat) := fun x hx =>
    Store.ready_of_readTable (slash_not_mem_tableName (hslash x hx)) (hread x hx) (hclear x hx)
  have hready' : ∀ y ∈ ys, s.Ready (tableName y.message.chat) := fun y hy =>
    hready y (hperm.mem_iff.mp hy)
  have hkeys : ∀ n, (d.countedKeys s.content n ys).Perm (d.countedKeys s.content n xs) :=
    fun n => hperm.filterMap _
  have hstart := Held.start d s
  refine ⟨(hstart.after hready').bodies (hstart.after hready) hkeys, fun past x rest hys => ?_,
    fun channel key => ?_⟩
  · subst hys
    have hx := hready' x (by simp)
    have hpast := hstart.after fun y hy => hready' y (List.mem_append_left _ hy)
    exact deliver_congr hx (hpast.ready _ hx) hpast.root (hpast.same _ hx)
  · obtain ⟨hreply, hlength⟩ := hstart.hits channel key hready'
    obtain ⟨-, hlength'⟩ := hstart.hits channel key hready
    refine ⟨?_, ?_⟩
    · rw [hlength, hlength']
      exact (hkeys _).count_eq key
    · simpa [countedKeys] using hreply

/-- It is so for a store whose folders have been made, if the tables can be read. -/
theorem reorders_of_prepare {xs ys : List Delivery} {s₀ : Store}
    (hprepare : Store.prepare.perform s₀ = (.ok (), s)) (hperm : ys.Perm xs)
    (hslash : ∀ x ∈ xs, '/' ∉ x.message.chat.toList)
    (hread : ∀ x ∈ xs, ∀ kind, ∃ table,
      readTable s.files (tablePath s.root kind (tableName x.message.chat)) = .ok table) :
    d.Reorders xs ys s :=
  reorders hperm hslash hread fun x hx _ =>
    Store.isClear_of_prepare (slash_not_mem_tableName (hslash x hx)) hprepare

/-- **Orders of messages**: messages from chats without slashes in their names, whose tables
can be read and are at the end of clear paths, as all are once the folders of a store are made,
may be handled in any order. What is left in the files is the same. A message that is meant for
a counter in one order is meant for it in any other, and has else the reply that it would have
had at the start. The messages that count a variable are equally many and tell the same
numbers, one after the other. -/
theorem after_perm (d : Dispatcher) {xs ys : List Delivery} (s : Store) (hperm : ys.Perm xs)
    (hslash : ∀ x ∈ xs, '/' ∉ x.message.chat.toList)
    (hread : ∀ x ∈ xs, ∀ kind, ∃ table,
      readTable s.files (tablePath s.root kind (tableName x.message.chat)) = .ok table)
    (hclear : ∀ x ∈ xs, ∀ kind,
      s.files.IsClear (tablePath s.root kind (tableName x.message.chat))) :
    (∀ place body, (d.after ys s).files.get? place = some (.file body) ↔
      (d.after xs s).files.get? place = some (.file body)) ∧
    (∀ past x rest, ys = past ++ x :: rest →
      d.counterOf? (d.after past s).content x.message = d.counterOf? s.content x.message ∧
      (d.counterOf? s.content x.message = none →
        (d.deliver x (d.after past s)).1 = (d.deliver x s).1)) ∧
    ∀ channel key, (d.hits channel key ys s).length = (d.hits channel key xs s).length ∧
      ∀ (i : ℕ) (c : Counter) (reply : Option Reply),
        (d.hits channel key ys s)[i]? = some (c, reply) →
        reply = some (.text (c.text (Store.successor^[i + 1] (countIn s channel key)))) := by
  obtain ⟨hbodies, hhandled, hhits⟩ := reorders hperm hslash hread hclear
  exact ⟨hbodies, hhandled, hhits⟩

/-- Three messages count two variables of a channel in a new store, and come in another order. -/
theorem after_perm_of_ticks :
    let tick : Counter := ⟨"mikki", "tick", "ticks", "\x7bcount\x7d ticks"⟩
    let tock : Counter := ⟨"mikki", "tock", "tocks", "\x7bcount\x7d tocks"⟩
    let d : Dispatcher := ⟨⟨"!", .twitch⟩, ⟨"!", {}⟩, [tick, tock]⟩
    let x := Ticks.message "#mikki" "!tick"
    let y := Ticks.message "#Mikki" "!tock"
    let s : Store := (Store.prepare.perform ⟨⟨false, ["data"]⟩, {}, []⟩).2
    let body := "\x7b\n  \"ticks\": 2,\n  \"tocks\": 1\n\x7d"
    (d.after [x, y, x] s).files.get? ⟨false, ["data", "variables", "mikki.json"]⟩ =
      some (.file body) ∧
      (d.after [y, x, x] s).files.get? ⟨false, ["data", "variables", "mikki.json"]⟩ =
        some (.file body) ∧
      (d.hits "mikki" "tocks" [y, x, x] s).length = 1 := by
  intro tick tock d x y s body
  have hprepare : Store.prepare.perform ⟨⟨false, ["data"]⟩, {}, []⟩ = (.ok (), s) :=
    Prod.ext (by decide +kernel) rfl
  have hbody : (d.after [x, y, x] s).files.get? ⟨false, ["data", "variables", "mikki.json"]⟩ =
      some (.file body) := by decide +kernel
  have hname : ∀ z ∈ [x, y, x], tableName z.message.chat = "mikki" := by decide +kernel
  have hslash : ∀ z ∈ [x, y, x], '/' ∉ z.message.chat.toList := by decide +kernel
  have hread : ∀ z ∈ [x, y, x], ∀ kind, ∃ table,
      readTable s.files (tablePath s.root kind (tableName z.message.chat)) = .ok table := by
    intro z hz kind
    have hmissing : s.files.read (tablePath s.root kind "mikki") = .error .missing := by
      cases kind <;> decide +kernel
    rw [hname z hz, readTable, hmissing]
    exact ⟨[], rfl⟩
  have hclear : ∀ z ∈ [x, y, x], ∀ kind,
      s.files.IsClear (tablePath s.root kind (tableName z.message.chat)) :=
    fun z hz _ => Store.isClear_of_prepare (slash_not_mem_tableName (hslash z hz)) hprepare
  obtain ⟨hfiles, -, hcounts⟩ := after_perm d s (List.Perm.swap x y [x]) hslash hread hclear
  have hhits : (d.hits "mikki" "tocks" [x, y, x] s).length = 1 := by decide +kernel
  exact ⟨hbody, (hfiles _ _).mpr hbody, (hcounts _ _).1.trans hhits⟩

end Dispatcher

end ChatBot
