import ChatBot.Proofs.Dispatch
import ChatBot.Proofs.Storage.Content

/-!
Counters count once for each message that is meant for them.

* `Replaced`: a text with all occurrences of a pattern replaced. `Counter.replaced_text` says that
  the reply of a counter is its template with the count in all places;
* `Dispatcher.counterOf?`: the counter that a message is meant for;
* `Settles`: a counter that was found has counted. `channelReply_spec` says that what a
  channel answers is settled so;
* `CountsOnce`: a message counts once if it is meant for a counter, and changes nothing else.
  `deliver_countsOnce` says that every message does, if the files can be used;
* `Dispatcher.after`, `Dispatcher.hits`: the store after a run, and what in it counts a variable;
* `CountsAll`: all messages of a run count once, and the counts that are told go up one by one.
  `countsAll_of_prepare` is for stores whose folders have been made;
* `counters_count`: it is so wherever files are found along their paths.
-/

namespace ChatBot

open ChatBot.Storage

/-! ### Templates -/

namespace Text

/-- The text `out` is `cs` with every occurrence of the pattern replaced, from left to right. -/
inductive Replaced (pattern replacement : List Char) : List Char → List Char → Prop
  | nil : Replaced pattern replacement [] []
  | here {rest out : List Char} (h : Replaced pattern replacement rest out) :
      Replaced pattern replacement (pattern ++ rest) (replacement ++ out)
  | pass {c : Char} {rest out : List Char} (hc : ¬pattern <+: c :: rest)
      (h : Replaced pattern replacement rest out) :
        Replaced pattern replacement (c :: rest) (c :: out)

lemma replaced_replaceAll (first : Char) (others replacement cs : List Char) :
    Replaced (first :: others) replacement cs (replaceAll first others replacement cs) := by
  fun_induction replaceAll first others replacement cs with
  | case1 => exact .nil
  | case2 c cs hprefix ih =>
      obtain ⟨rest, hrest⟩ := List.isPrefixOf_iff_prefix.mp hprefix
      obtain ⟨rfl, hcs⟩ := List.cons.inj hrest
      have hcs : others ++ rest = cs := hcs
      subst hcs
      rw [List.drop_left] at ih ⊢
      exact ih.here
  | case3 c cs hprefix ih =>
      exact ih.pass fun h => hprefix (List.isPrefixOf_iff_prefix.mpr h)

end Text

/-- The reply of a counter is its template with the count in all places. -/
lemma Counter.replaced_text (c : Counter) (n : ℤ) :
    Text.Replaced "\x7bcount\x7d".toList (toString n).toList c.template.toList
      (c.text n).toList := by
  have hplace : "\x7bcount\x7d".toList = '\x7b' :: Counter.placeRest := by decide
  rw [hplace, Counter.text, String.toList_ofList]
  exact Text.replaced_replaceAll _ _ _ _

/-! ### Meant for a counter -/

namespace Dispatcher

/-- What a name stands for in a channel. -/
def target (t : Tables) (channel name : String) : String :=
  ((t .aliases (tableName channel) name).bind Json.string?).getD name

/-- The first counter of a channel and of what a name stands for there, if that is no command of the
channel. -/
def counterFor? (d : Dispatcher) (t : Tables) (channel name : String) : Option Counter :=
  match (t .commands (tableName channel) (target t channel name)).bind Json.string? with
  | some _ => none
  | none => d.counters.find? (·.answers channel (target t channel name))

/-- The counter that a message is meant for: the message is a command that no command of the bot
answers, and its name has a counter in the channel. -/
def counterOf? (d : Dispatcher) (t : Tables) (m : Message) : Option Counter :=
  (d.commandOf? m).bind (d.counterFor? t m.channel)

lemma tableName_channel (m : Message) : tableName m.channel = tableName m.chat :=
  tableName_channelName m.chat

/-- The count of a variable that comes next. -/
def nextCount (t : Tables) (channel : String) (c : Counter) : ℤ :=
  Store.countOf (t .variables (tableName channel) c.variableName) + 1

/-- The tables after a counter has counted. -/
def counted (t : Tables) (channel : String) (c : Counter) : Tables :=
  t.put .variables (tableName channel) c.variableName (.number (.integer (nextCount t channel c)))

/-! ### What a channel answers -/

variable {d : Dispatcher} {s s' : Store} {channel name : String} {reply : Option Reply}

/-- The counter that was found has counted: the reply tells the next count, and the store holds it.
If there is none, the store holds what it did. -/
def Settles (s s' : Store) (channel : String) (reply : Option Reply) : Option Counter → Prop
  | some c => ∃ n, n = Store.successor (Store.countOf
      (s.content .variables (tableName channel) c.variableName)) ∧
      reply = some (.text (c.text n)) ∧ Store.Becomes s s'
        (s.content.put .variables (tableName channel) c.variableName (.number (.integer n)))
  | none => Store.Becomes s s' s.content

/-- What happens before a counter counts does not matter, if it leaves the
store with what it holds. -/
lemma Settles.behind {between : Store} {found : Option Counter} (hfinds : s.Finds channel)
    (hbecomes : Store.Becomes s between s.content) (h : Settles between s' channel reply found) :
    Settles s s' channel reply found := by
  cases found with
  | none => exact hbecomes.trans_same h
  | some c =>
      obtain ⟨n, hn, hreply, hput⟩ := h
      rw [hbecomes.content .variables _ hfinds.slash] at hn
      exact ⟨n, hn, hreply, hbecomes.trans_put hput⟩

lemma counterReply_spec {target : String} (hfinds : s.Finds channel)
    (hok : (d.counterReply channel target).perform s = (.ok reply, s')) :
    Settles s s' channel reply (d.counters.find? (·.answers channel target)) := by
  rw [counterReply] at hok
  cases hfind : d.counters.find? (·.answers channel target) with
  | none =>
      rw [hfind] at hok
      obtain ⟨-, rfl⟩ := Prod.mk.inj hok
      exact Store.Becomes.refl s
  | some c =>
      rw [hfind] at hok
      obtain ⟨n, between, hincrement, hrest⟩ := of_perform_bind hok
      obtain ⟨hreply, rfl⟩ := Prod.mk.inj hrest
      obtain ⟨hn, hbecomes⟩ :=
        Store.increment_spec hfinds.slash (hfinds.reaches .variables) hincrement
      exact ⟨n, hn, (Except.ok.inj hreply).symm, hbecomes⟩

lemma channelReply_spec (hfinds : s.Finds channel)
    (hok : (d.channelReply channel name).perform s = (.ok reply, s')) :
    Settles s s' channel reply (d.counterFor? s.content channel name) := by
  obtain ⟨stood, s₁, hstood, hrest⟩ := of_perform_bind hok
  obtain ⟨rfl, hbecomes₁⟩ := Store.aliasOf?_spec (hfinds.reaches .aliases) hstood
  have hfinds₁ := hfinds.becomes hbecomes₁
  obtain ⟨own, s₂, hown, hrest⟩ := of_perform_bind hrest
  obtain ⟨rfl, hbecomes₂⟩ := Store.commandText?_spec (hfinds₁.reaches .commands) hown
  have hbecomes : Store.Becomes s s₂ s.content := hbecomes₁.trans_same hbecomes₂
  rw [hbecomes₁.content .commands _ hfinds.slash] at hrest
  rw [counterFor?, target]
  cases htext : (s.content .commands (tableName channel)
      (((s.content .aliases (tableName channel) name).bind Json.string?).getD name)).bind
      Json.string? with
  | some text =>
      rw [htext] at hrest
      obtain ⟨-, rfl⟩ := Prod.mk.inj hrest
      exact hbecomes
  | none =>
      rw [htext] at hrest
      exact (counterReply_spec (hfinds.becomes hbecomes) hrest).behind hfinds hbecomes

/-! ### One message -/

/-- The store can do what the message needs: what it leaves to the channel does not fail. -/
def Succeeds (d : Dispatcher) (x : Delivery) (s : Store) : Prop :=
  ∀ name ∈ d.commandOf? x.message, ((d.channelReply x.message.channel name).perform s).1.isOk = true

instance (d : Dispatcher) (x : Delivery) (s : Store) : Decidable (d.Succeeds x s) :=
  inferInstanceAs (Decidable (∀ name ∈ d.commandOf? x.message, _))

/-- The count that the message makes go up stays within 64 bits with a sign. -/
def Fits (d : Dispatcher) (x : Delivery) (s : Store) : Prop :=
  ∀ c ∈ d.counterOf? s.content x.message,
    -2 ^ 63 < nextCount s.content x.message.chat c ∧
      nextCount s.content x.message.chat c ≤ Binary64.int64Max

instance (d : Dispatcher) (x : Delivery) (s : Store) : Decidable (d.Fits x s) :=
  inferInstanceAs (Decidable (∀ c ∈ d.counterOf? s.content x.message, _))

/-- A message counts once if it is meant for a counter, and changes nothing else. Variables change
if and only if it is meant for one (`changes_iff`). Then the variable of the counter, and nothing
else, goes up by one, and the reply tells it (`hit`). Otherwise nothing changes (`pass`). -/
structure CountsOnce (d : Dispatcher) (x : Delivery) (s : Store) : Prop where
  changes_iff : (∃ name key, '/' ∉ name.toList ∧
    (d.deliver x s).2.content .variables name key ≠ s.content .variables name key) ↔
      ∃ c, d.counterOf? s.content x.message = some c
  hit : ∀ c, d.counterOf? s.content x.message = some c →
    (∃ text, (d.deliver x s).1 = some (.text text) ∧
      Text.Replaced "\x7bcount\x7d".toList (toString (nextCount s.content x.message.chat c)).toList
        c.template.toList text.toList) ∧
    ∀ kind name key, '/' ∉ name.toList →
      (d.deliver x s).2.content kind name key = counted s.content x.message.chat c kind name key
  pass : d.counterOf? s.content x.message = none →
    ∀ kind name key, '/' ∉ name.toList →
      (d.deliver x s).2.content kind name key = s.content kind name key

variable {x : Delivery}

lemma deliver_spec (hfinds : s.Finds x.message.chat) (hsucceeds : d.Succeeds x s)
    (hfits : d.Fits x s) :
    match d.counterOf? s.content x.message with
    | some c => (d.deliver x s).1 = some (.text (c.text (nextCount s.content x.message.chat c))) ∧
        Store.Becomes s (d.deliver x s).2 (counted s.content x.message.chat c)
    | none => Store.Becomes s (d.deliver x s).2 s.content := by
  have hname := tableName_channel x.message
  cases hcommand : d.commandOf? x.message with
  | none =>
      obtain ⟨reply, hdeliver⟩ := deliver_of_none hcommand
      rw [counterOf?, hcommand, hdeliver s]
      exact .refl s
  | some name =>
      have hok := hsucceeds name hcommand
      rcases hperform : (d.channelReply x.message.channel name).perform s with ⟨cause | reply, s'⟩
      · rw [hperform] at hok
        exact absurd hok (by simp [Except.isOk, Except.toBool])
      have hdeliver : d.deliver x s = (reply, s') := by
        have hrun : (d.channelReply x.message.channel name).run.run s = (.ok reply, s') := hperform
        rw [deliver_of_commandOf? hcommand, fallback, hrun]
      have hchannel : s.Finds x.message.channel := hfinds.channelName
      have hspec := channelReply_spec hchannel hperform
      have hcounter : d.counterOf? s.content x.message =
          d.counterFor? s.content x.message.channel name := by
        rw [counterOf?, hcommand, Option.bind_some]
      rw [hdeliver, hcounter]
      cases hfor : d.counterFor? s.content x.message.channel name with
      | none =>
          rw [hfor] at hspec
          exact hspec
      | some c =>
          obtain ⟨hlow, hhigh⟩ := hfits c (hcounter.trans hfor)
          rw [hfor] at hspec
          obtain ⟨n, hn, hreply, hbecomes⟩ := hspec
          have hnext : n = nextCount s.content x.message.chat c := by
            unfold nextCount at hlow hhigh ⊢
            rw [hn, hname]
            exact successor_eq (by omega) hhigh
          rw [hname, hnext] at hbecomes
          exact ⟨hnext ▸ hreply, hbecomes⟩

lemma deliver_hit {c : Counter} (hfinds : s.Finds x.message.chat) (hsucceeds : d.Succeeds x s)
    (hfits : d.Fits x s) (h : d.counterOf? s.content x.message = some c) :
    (d.deliver x s).1 = some (.text (c.text (nextCount s.content x.message.chat c))) ∧
      Store.Becomes s (d.deliver x s).2 (counted s.content x.message.chat c) := by
  have hspec := deliver_spec hfinds hsucceeds hfits
  rw [h] at hspec
  exact hspec

lemma deliver_pass (hfinds : s.Finds x.message.chat) (hsucceeds : d.Succeeds x s)
    (hfits : d.Fits x s) (h : d.counterOf? s.content x.message = none) :
    Store.Becomes s (d.deliver x s).2 s.content := by
  have hspec := deliver_spec hfinds hsucceeds hfits
  rw [h] at hspec
  exact hspec

lemma counted_self (t : Tables) (channel : String) (c : Counter) :
    counted t channel c .variables (tableName channel) c.variableName =
      some (.number (.integer (nextCount t channel c))) := by
  rw [counted, Tables.put_self]

lemma countOf_integer {n : ℤ} (h : n ≤ Binary64.int64Max) :
    Store.countOf (some (.number (.integer n))) = n := by
  rw [countOf_number, if_pos h]

/-- A variable that counts holds another value than before. -/
lemma counted_ne (t : Tables) (channel : String) (c : Counter)
    (h : nextCount t channel c ≤ Binary64.int64Max) :
    counted t channel c .variables (tableName channel) c.variableName ≠
      t .variables (tableName channel) c.variableName := by
  intro heq
  have hcount := congrArg Store.countOf heq
  rw [counted_self, countOf_integer h] at hcount
  unfold nextCount at hcount
  omega

/-- Every message counts once if it is meant for a counter, as long as files can be used. -/
theorem deliver_countsOnce (hfinds : s.Finds x.message.chat) (hsucceeds : d.Succeeds x s)
    (hfits : d.Fits x s) : d.CountsOnce x s := by
  cases hcounter : d.counterOf? s.content x.message with
  | none =>
      have hbecomes := deliver_pass hfinds hsucceeds hfits hcounter
      have hsame : ∀ kind name key, '/' ∉ name.toList →
          (d.deliver x s).2.content kind name key = s.content kind name key :=
        fun kind name key hname => congrFun (hbecomes.content kind name hname) key
      refine ⟨⟨?_, ?_⟩, ?_, fun _ => hsame⟩
      · rintro ⟨name, key, hname, hne⟩
        exact absurd (hsame _ name key hname) hne
      · rintro ⟨c, hc⟩
        exact nomatch hcounter.symm.trans hc
      · exact fun c hc => nomatch hcounter.symm.trans hc
  | some c =>
      obtain ⟨hreply, hbecomes⟩ := deliver_hit hfinds hsucceeds hfits hcounter
      refine ⟨⟨fun _ => ⟨c, hcounter⟩, fun _ => ?_⟩, fun c' hc' => ?_, fun h => ?_⟩
      · refine ⟨tableName x.message.chat, c.variableName, hfinds.slash, ?_⟩
        rw [hbecomes.content .variables _ hfinds.slash]
        exact counted_ne _ _ c (hfits c hcounter).2
      · obtain rfl : c = c' := Option.some.inj (hcounter.symm.trans hc')
        exact ⟨⟨_, hreply, c.replaced_text _⟩,
          fun kind name key hname => congrFun (hbecomes.content kind name hname) key⟩
      · exact nomatch hcounter.symm.trans h

/-! ### Whole runs -/

/-- The store after some messages. -/
def after (d : Dispatcher) (xs : List Delivery) (s : Store) : Store :=
  xs.foldl (fun s x => (d.deliver x s).2) s

/-- The counter that a message is meant for, if it counts the variable of the channel. -/
def hit? (d : Dispatcher) (channel key : String) (x : Delivery) (s : Store) : Option Counter :=
  (d.counterOf? s.content x.message).filter fun c =>
    tableName x.message.chat = tableName channel ∧ c.variableName = key

/-- The messages of a run that count a variable of a channel, each with its counter and reply. -/
def hits (d : Dispatcher) (channel key : String) :
    List Delivery → Store → List (Counter × Option Reply)
  | [], _ => []
  | x :: rest, s =>
    match d.hit? channel key x s with
    | some c => (c, (d.deliver x s).1) :: hits d channel key rest (d.deliver x s).2
    | none => hits d channel key rest (d.deliver x s).2

/-- No message of a run meets a failure of the store, and no count leaves the 64 bits. -/
def RunsWell (d : Dispatcher) : List Delivery → Store → Prop
  | [], _ => True
  | x :: rest, s => d.Succeeds x s ∧ d.Fits x s ∧ RunsWell d rest (d.deliver x s).2

instance decidableRunsWell (d : Dispatcher) :
    (xs : List Delivery) → (s : Store) → Decidable (d.RunsWell xs s)
  | [], _ => inferInstanceAs (Decidable True)
  | x :: rest, s =>
    have := decidableRunsWell d rest (d.deliver x s).2
    inferInstanceAs (Decidable (d.Succeeds x s ∧ d.Fits x s ∧ d.RunsWell rest (d.deliver x s).2))

/-- What the tables of a store say that a variable of a channel has counted. -/
def countIn (s : Store) (channel key : String) : ℤ :=
  Store.countOf (s.content .variables (tableName channel) key)

variable {key : String}

lemma hit?_spec (key : String) (hslash : '/' ∉ (tableName channel).toList)
    (hfinds : s.Finds x.message.chat) (hsucceeds : d.Succeeds x s) (hfits : d.Fits x s) :
    match d.hit? channel key x s with
    | some c => (d.deliver x s).1 = some (.text (c.text (countIn s channel key + 1))) ∧
        countIn (d.deliver x s).2 channel key = countIn s channel key + 1
    | none => countIn (d.deliver x s).2 channel key = countIn s channel key := by
  cases hcounter : d.counterOf? s.content x.message with
  | none =>
      have hbecomes := deliver_pass hfinds hsucceeds hfits hcounter
      rw [hit?, hcounter, Option.filter_none]
      exact congrArg (fun t => Store.countOf (t key)) (hbecomes.content .variables _ hslash)
  | some c =>
      obtain ⟨-, hhigh⟩ := hfits c hcounter
      obtain ⟨hreply, hbecomes⟩ := deliver_hit hfinds hsucceeds hfits hcounter
      have hcontent := hbecomes.content .variables _ hslash
      by_cases hsame : tableName x.message.chat = tableName channel ∧ c.variableName = key
      · have hhit : d.hit? channel key x s = some c := by
          simp [hit?, hcounter, hsame]
        obtain ⟨hname, rfl⟩ := hsame
        have hnext : nextCount s.content x.message.chat c =
            countIn s channel c.variableName + 1 := by
          rw [nextCount, countIn, hname]
        rw [hhit]
        refine ⟨hnext ▸ hreply, ?_⟩
        rw [countIn, hcontent, ← hname, counted_self, countOf_integer hhigh, hnext]
      · have hhit : d.hit? channel key x s = none := by
          simpa [hit?, hcounter] using hsame
        have hother : counted s.content x.message.chat c .variables (tableName channel) key =
            s.content .variables (tableName channel) key :=
          Tables.put_of_ne fun h => hsame ⟨h.2.1.symm, h.2.2.symm⟩
        rw [hhit]
        exact congrArg Store.countOf ((congrFun hcontent key).trans hother)

lemma finds_deliver {channel : String} (h : s.Finds channel) (hfinds : s.Finds x.message.chat)
    (hsucceeds : d.Succeeds x s) (hfits : d.Fits x s) : (d.deliver x s).2.Finds channel := by
  cases hcounter : d.counterOf? s.content x.message with
  | none => exact h.becomes (deliver_pass hfinds hsucceeds hfits hcounter)
  | some c => exact h.becomes (deliver_hit hfinds hsucceeds hfits hcounter).2

/-- Replies tell the numbers of a sequence one after the other, if the first one tells the first
number and the rest the numbers behind it. -/
lemma told_cons {f : ℕ → ℤ} {c : Counter} {first : Option Reply}
    {told : List (Counter × Option Reply)} (hfirst : first = some (.text (c.text (f 0))))
    (hrest : ∀ (i : ℕ) (c' : Counter) (reply : Option Reply), told[i]? = some (c', reply) →
      reply = some (.text (c'.text (f (i + 1)))))
    (i : ℕ) (c' : Counter) (reply : Option Reply)
    (hi : ((c, first) :: told)[i]? = some (c', reply)) : reply = some (.text (c'.text (f i))) := by
  cases i with
  | zero =>
      obtain ⟨rfl, rfl⟩ := Prod.mk.inj (Option.some.inj hi)
      exact hfirst
  | succ i => exact hrest i c' reply hi

/-- The counts of a variable that are told go up one by one, and so does the variable. -/
lemma hits_spec (hslash : '/' ∉ (tableName channel).toList) {xs : List Delivery}
    (hfinds : ∀ x ∈ xs, s.Finds x.message.chat) (hwell : d.RunsWell xs s) :
    (∀ (i : ℕ) (c : Counter) (reply : Option Reply),
      (d.hits channel key xs s)[i]? = some (c, reply) →
      reply = some (.text (c.text (countIn s channel key + i + 1)))) ∧
    countIn (d.after xs s) channel key =
      countIn s channel key + (d.hits channel key xs s).length := by
  induction xs generalizing s with
  | nil => simp [hits, after]
  | cons x rest ih =>
      obtain ⟨hsucceeds, hfits, hrest⟩ := hwell
      have hx := hfinds x List.mem_cons_self
      obtain ⟨ihhits, ihcount⟩ := ih (fun y hy =>
        finds_deliver (hfinds y (List.mem_cons_of_mem x hy)) hx hsucceeds hfits) hrest
      have hstep := hit?_spec key hslash hx hsucceeds hfits
      unfold hits
      cases hhit : d.hit? channel key x s with
      | none =>
          rw [hhit] at hstep
          rw [hstep] at ihhits ihcount
          exact ⟨ihhits, ihcount⟩
      | some c =>
          rw [hhit] at hstep
          obtain ⟨hreply, hcount⟩ := hstep
          rw [hcount] at ihhits ihcount
          refine ⟨told_cons (f := fun i => countIn s channel key + i + 1) (by simpa using hreply)
            fun i c' reply hi => ?_, ?_⟩
          · have hi' : countIn s channel key + 1 + i + 1 =
                countIn s channel key + (i + 1 : ℕ) + 1 := by
              omega
            rw [ihhits i c' reply hi, hi']
          · have hlength : countIn s channel key + 1 +
              (d.hits channel key rest (d.deliver x s).2).length =
                countIn s channel key +
                  ((c, (d.deliver x s).1) :: d.hits channel key rest (d.deliver x s).2).length := by
              rw [List.length_cons]
              omega
            exact ihcount.trans hlength

lemma countsOnce_of_run {past rest : List Delivery}
    (hfinds : ∀ y ∈ past ++ x :: rest, s.Finds y.message.chat)
    (hwell : d.RunsWell (past ++ x :: rest) s) : d.CountsOnce x (d.after past s) := by
  induction past generalizing s with
  | nil => exact deliver_countsOnce (hfinds x List.mem_cons_self) hwell.1 hwell.2.1
  | cons y past ih =>
      obtain ⟨hsucceeds, hfits, hrest⟩ := hwell
      have hy := hfinds y List.mem_cons_self
      exact ih (fun z hz => finds_deliver (hfinds z (List.mem_cons_of_mem y hz)) hy hsucceeds hfits)
        hrest

/-- All messages of a run count once, and change nothing else. Those that count one
variable of a channel tell the numbers behind its count, one after the other, and the
variable ends at the last one. -/
structure CountsAll (d : Dispatcher) (xs : List Delivery) (s : Store) : Prop where
  once : ∀ past x rest, xs = past ++ x :: rest → d.CountsOnce x (d.after past s)
  told : ∀ channel key, '/' ∉ channel.toList →
    ∀ (i : ℕ) (c : Counter) (reply : Option Reply),
      (d.hits channel key xs s)[i]? = some (c, reply) →
      reply = some (.text (c.text (countIn s channel key + i + 1)))
  total : ∀ channel key, '/' ∉ channel.toList →
    countIn (d.after xs s) channel key =
      countIn s channel key + (d.hits channel key xs s).length

lemma countsAll {xs : List Delivery} (hslash : ∀ x ∈ xs, '/' ∉ x.message.chat.toList)
    (hreaches : ∀ x ∈ xs, ∀ kind, s.Reaches (tablePath s.root kind (tableName x.message.chat)))
    (hwell : d.RunsWell xs s) : d.CountsAll xs s := by
  have hfinds : ∀ x ∈ xs, s.Finds x.message.chat :=
    fun x hx => ⟨slash_not_mem_tableName (hslash x hx), hreaches x hx⟩
  refine ⟨fun past x rest hxs => ?_, fun channel key hchannel => ?_, fun channel key hchannel => ?_⟩
  · subst hxs
    exact countsOnce_of_run hfinds hwell
  · exact (hits_spec (slash_not_mem_tableName hchannel) hfinds hwell).1
  · exact (hits_spec (slash_not_mem_tableName hchannel) hfinds hwell).2

/-- It is so for a store whose folders have been made, if files can have the names of the tables. -/
theorem countsAll_of_prepare {xs : List Delivery} {s₀ : Store}
    (hprepare : Store.prepare.perform s₀ = (.ok (), s))
    (hslash : ∀ x ∈ xs, '/' ∉ x.message.chat.toList)
    (hproper : ∀ x ∈ xs, '\x00' ∉ (tableName x.message.chat).toList)
    (hlong : ∀ x ∈ xs, FileTree.isTooLong (tableName x.message.chat ++ ".json") = false)
    (hwell : d.RunsWell xs s) : d.CountsAll xs s :=
  countsAll hslash (fun x hx _ => Store.reaches_of_prepare (slash_not_mem_tableName (hslash x hx))
    (hproper x hx) (hlong x hx) hprepare) hwell

/-- **Counters count once**: in a run that meets no failure of the store, where the files of the
chats are found as they are once the folders are made, all messages count once if they are meant for
a counter, and change nothing else. The messages that count one variable of a channel tell the
numbers behind its count, one after the other, and the variable ends at the last one. Chats that are
equal up to number signs in front and the case of ASCII letters share their variables. -/
theorem counters_count (d : Dispatcher) (xs : List Delivery) (s : Store)
    (hslash : ∀ x ∈ xs, '/' ∉ x.message.chat.toList)
    (hreaches : ∀ x ∈ xs, ∀ kind, s.Reaches (tablePath s.root kind (tableName x.message.chat)))
    (hwell : d.RunsWell xs s) :
    (∀ past x rest, xs = past ++ x :: rest → d.CountsOnce x (d.after past s)) ∧
    (∀ channel key, '/' ∉ channel.toList →
      (∀ (i : ℕ) (c : Counter) (reply : Option Reply),
        (d.hits channel key xs s)[i]? = some (c, reply) →
          reply = some (.text (c.text (countIn s channel key + i + 1)))) ∧
      countIn (d.after xs s) channel key =
        countIn s channel key + (d.hits channel key xs s).length) ∧
    ∀ chat other, (channelName chat).equalsIgnoringAsciiCase (channelName other) = true →
      tableName chat = tableName other := by
  obtain ⟨honce, htold, htotal⟩ := countsAll hslash hreaches hwell
  refine ⟨honce, fun channel key hchannel => ?_, fun chat other h => ?_⟩
  · exact ⟨htold channel key hchannel, htotal channel key hchannel⟩
  · exact tableName_eq_of_equalsIgnoringAsciiCase h

/-! ### A bot that counts ticks -/

namespace Ticks

def counter : Counter := ⟨"Mikki", "tick", "ticks", "Mikki has wasted \x7bcount\x7d ticks."⟩

def dispatcher : Dispatcher := ⟨⟨"!", .twitch⟩, ⟨"!", {}⟩, [counter]⟩

def message (chat text : String) : Delivery :=
  ⟨⟨chat, .text text, none, .twitch⟩, default, [], .error ""⟩

/-- A store with 41 ticks, and with a file that holds no names for commands. -/
def store : Store :=
  ⟨⟨false, ["data"]⟩, FileTree.ofFiles
    [("data/variables/mikki.json", "\x7b\"ticks\": 41\x7d"),
      ("data/commands/aliases/broken.json", "[")], []⟩

end Ticks

/-- Two messages count on from 41. -/
theorem counters_count_of_ticks :
    let c := Ticks.counter
    let d := Ticks.dispatcher
    let x := Ticks.message "#mikki" "!tick"
    let y := Ticks.message "mikki" " !TICK now"
    let s := Ticks.store
    d.RunsWell [x, y] s ∧
      d.hits "mikki" "ticks" [x, y] s = [(c, some (.text "Mikki has wasted 42 ticks.")),
        (c, some (.text "Mikki has wasted 43 ticks."))] ∧
      d.CountsOnce y (d.after [x] s) ∧ countIn (d.after [x, y] s) "mikki" "ticks" = 43 := by
  intro c d x y s
  have hwell : d.RunsWell [x, y] s := by decide +kernel
  have hhits : d.hits "mikki" "ticks" [x, y] s = [(c, some (.text "Mikki has wasted 42 ticks.")),
      (c, some (.text "Mikki has wasted 43 ticks."))] := by decide +kernel
  have hslash : ∀ z ∈ [x, y], '/' ∉ z.message.chat.toList := by
    intro z hz
    obtain rfl | rfl : z = x ∨ z = y := by simpa using hz
    · decide
    · decide
  have hreaches : ∀ z ∈ [x, y], ∀ kind,
      s.Reaches (tablePath s.root kind (tableName z.message.chat)) := by
    intro z hz kind
    have hname : tableName z.message.chat = "mikki" := by
      obtain rfl | rfl : z = x ∨ z = y := by simpa using hz
      · decide +kernel
      · decide +kernel
    rw [hname]
    cases kind <;> exact Store.reaches_of_read (by decide +kernel)
  obtain ⟨honce, hcounts, -⟩ := counters_count d [x, y] s hslash hreaches hwell
  refine ⟨hwell, hhits, honce [x] y [] rfl, ?_⟩
  have hcount : countIn s "mikki" "ticks" = 41 := by decide +kernel
  rw [(hcounts "mikki" "ticks" (by decide)).2, hcount, hhits]
  rfl

end Dispatcher

end ChatBot
