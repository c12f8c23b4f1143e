import Mathlib.Logic.Relation
import ChatBot.Proofs.Counting
import ChatBot.Service

/-!
A bot at work on a connection, step by step.

Every message that comes in gets a handler of its own. A handler first finds the reply, which is
when the store may change, and then sends it. In between, any other handler may get its turn.

* `Message.texts`, `Dispatcher.texts`: what is due to chats when messages are answered in order;
* `Task`, `Work`: the handler of a message, and all handlers with what they have done so far;
* `Serving.Step`: the steps of a bot. `Serving.Run` is a run of them;
* `Accounts`: the books of a run: which messages are answered, and what of their replies is not yet
  sent. `Serving.Kept.step` says that every step keeps them;
* `Serving.Ends`: whatever is done next, the bot stops, and with a result of some kind.
  `ends_of_kept` says that all runs end, as every step takes some of the `effort` that is left;
* `run_answers`: the handlers may get their turns in any order.
-/

namespace ChatBot

open ChatBot.Storage
open scoped List

/-! ### What is due -/

/-- What is sent because of a message: its reply as its platform shows it, to its own chat, if there
is a reply and the chat takes it. -/
def Message.texts (m : Message) (accepts : String → Bool) (reply : Option Reply) :
    List (String × String) :=
  ((reply.map m.platform.render).filter fun _ => accepts m.chat).toList.map fun text =>
    (m.chat, text)

namespace Dispatcher

variable (d : Dispatcher) (accepts : String → Bool)

/-- What is due to chats when messages are answered in order. -/
def texts : List Delivery → Store → List (String × String)
  | [], _ => []
  | x :: rest, s => x.message.texts accepts (d.deliver x s).1 ++ texts rest (d.deliver x s).2

lemma after_append (xs ys : List Delivery) (s : Store) :
    d.after (xs ++ ys) s = d.after ys (d.after xs s) := List.foldl_append

lemma texts_append (xs ys : List Delivery) (s : Store) :
    d.texts accepts (xs ++ ys) s = d.texts accepts xs s ++ d.texts accepts ys (d.after xs s) := by
  induction xs generalizing s with
  | nil => rfl
  | cons x rest ih =>
      simp only [List.cons_append, texts, ih, List.append_assoc]
      rfl

lemma texts_concat (xs : List Delivery) (x : Delivery) (s : Store) :
    d.texts accepts (xs ++ [x]) s =
      d.texts accepts xs s ++ x.message.texts accepts (d.deliver x (d.after xs s)).1 := by
  rw [texts_append]
  exact congrArg (_ ++ ·) (List.append_nil _)

end Dispatcher

/-! ### Handlers -/

/-- How far the handler of a message has come: it is to find the reply, it is to send it, or there
is nothing left to do. -/
inductive Task where
  | waiting (x : Delivery)
  | replying (chat text : String)
  | finished

namespace Task

/-- The handler once the reply is found. -/
def ofReply (m : Message) : Option Reply → Task
  | some reply => .replying m.chat (m.platform.render reply)
  | none => .finished

/-- The message that is still to be answered. -/
def message : Task → List Delivery
  | .waiting x => [x]
  | _ => []

/-- The reply that is still to be sent, if the chat takes it. -/
def owed (accepts : String → Bool) : Task → List (String × String)
  | .replying chat text => if accepts chat then [(chat, text)] else []
  | _ => []

lemma message_ofReply (m : Message) (reply : Option Reply) : (ofReply m reply).message = [] := by
  cases reply <;> rfl

lemma owed_ofReply (accepts : String → Bool) (m : Message) (reply : Option Reply) :
    (ofReply m reply).owed accepts = m.texts accepts reply := by
  cases reply with
  | none => rfl
  | some reply => cases h : accepts m.chat <;> simp [ofReply, owed, Message.texts, Option.filter, h]

end Task

/-- All handlers, and what they have done so far: what was sent to which chat, and the store. -/
structure Work where
  tasks : List Task := []
  sent : List (String × String) := []
  store : Store

namespace Work

/-- The messages that are still to be answered. -/
def waiting (w : Work) : List Delivery := w.tasks.flatMap Task.message

/-- The replies that are still to be sent. -/
def unsent (w : Work) (accepts : String → Bool) : List (String × String) :=
  w.tasks.flatMap (Task.owed accepts)

lemma waiting_perm (before behind : List Task) (t : Task) (sent : List (String × String))
    (s : Store) : (waiting ⟨before ++ t :: behind, sent, s⟩).Perm
      (t.message ++ (before ++ behind).flatMap Task.message) :=
  List.perm_middle.flatMap_right _

lemma unsent_perm (before behind : List Task) (t : Task) (sent : List (String × String)) (s : Store)
    (accepts : String → Bool) :
    (unsent ⟨before ++ t :: behind, sent, s⟩ accepts).Perm
      (t.owed accepts ++ (before ++ behind).flatMap (Task.owed accepts)) :=
  List.perm_middle.flatMap_right _

/-- A handler gets its turn. -/
inductive Step (d : Dispatcher) (accepts : String → Bool) : Work → Work → Prop
  /-- The reply to a message is found. -/
  | answer (before behind : List Task) (x : Delivery) (sent : List (String × String)) (s : Store) :
      Step d accepts ⟨before ++ .waiting x :: behind, sent, s⟩
        ⟨before ++ .ofReply x.message (d.deliver x s).1 :: behind, sent, (d.deliver x s).2⟩
  /-- A reply is sent, which may fail. -/
  | send (before behind : List Task) (chat text : String) (sent : List (String × String))
      (s : Store) :
      Step d accepts ⟨before ++ .replying chat text :: behind, sent, s⟩
        ⟨before ++ .finished :: behind, sent ++ (Task.replying chat text).owed accepts, s⟩
  /-- A handler is dropped that has nothing left to do. -/
  | reap (before behind : List Task) (sent : List (String × String)) (s : Store) :
      Step d accepts ⟨before ++ .finished :: behind, sent, s⟩ ⟨before ++ behind, sent, s⟩

end Work

/-! ### The bot -/

/-- What comes in on a connection, where each message has what its reply may depend on. There may be
a reason why there is no connection at all, or why nothing comes in behind the messages; if there is
none, the connection closes. A chat that does not accept takes nothing that is sent to it. -/
structure Source where
  startFailure : Option BotError := none
  messages : List Delivery
  failure : Option BotError := none
  accepts : String → Bool := fun _ => true

/-- How far a bot has come: there is no connection yet, messages come in, the connection is closed
and the handlers that are left go on, or the bot has stopped. -/
inductive Serving where
  | starting (s : Store)
  | receiving (coming : List Delivery) (w : Work)
  | draining (w : Work)
  | stopped (r : Dispatcher.Served)

namespace Serving

/-- A step of a bot. -/
inductive Step (d : Dispatcher) (c : Source) : Serving → Serving → Prop
  /-- There is no connection. -/
  | refuse (s : Store) {cause : BotError} (h : c.startFailure = some cause) :
      Step d c (.starting s) (.stopped ⟨some cause, [], s⟩)
  /-- There is a connection. -/
  | start (s : Store) (h : c.startFailure = none) :
      Step d c (.starting s) (.receiving c.messages { store := s })
  /-- A message comes in, and gets a handler. -/
  | receive (x : Delivery) (coming : List Delivery) (w : Work) :
      Step d c (.receiving (x :: coming) w)
        (.receiving coming { w with tasks := w.tasks ++ [.waiting x] })
  /-- A handler gets its turn while messages come in. -/
  | handle (coming : List Delivery) {w w' : Work} (h : w.Step d c.accepts w') :
      Step d c (.receiving coming w) (.receiving coming w')
  /-- The connection fails, and the handlers that are left are given up. -/
  | fail (w : Work) {cause : BotError} (h : c.failure = some cause) :
      Step d c (.receiving [] w) (.stopped ⟨some cause, w.sent, w.store⟩)
  /-- The connection closes. -/
  | close (w : Work) (h : c.failure = none) : Step d c (.receiving [] w) (.draining w)
  /-- A handler gets its turn after the connection is closed. -/
  | drain {w w' : Work} (h : w.Step d c.accepts w') : Step d c (.draining w) (.draining w')
  /-- No handler is left. -/
  | finish (sent : List (String × String)) (s : Store) :
      Step d c (.draining ⟨[], sent, s⟩) (.stopped ⟨none, sent, s⟩)

/-- A run of a bot. -/
def Run (d : Dispatcher) (c : Source) : Serving → Serving → Prop := Relation.ReflTransGen (Step d c)

end Serving

/-! ### The books -/

/-- The books of a run from the store `s`: all messages are answered, in some order, but for some
that are undone, and what is due for them is sent but for some texts. -/
def Accounts (d : Dispatcher) (c : Source) (s : Store) (undone : List Delivery)
    (unsent sent : List (String × String)) (now : Store) : Prop :=
  ∃ ys : List Delivery, (ys ++ undone).Perm c.messages ∧ now = d.after ys s ∧
    (sent ++ unsent).Perm (d.texts c.accepts ys s)

variable {d : Dispatcher} {c : Source} {s : Store}

/-- The books do not tell in which order messages are undone, nor what is
sent from what is not yet. -/
lemma Accounts.congr {undone undone' : List Delivery}
    {unsent unsent' sent sent' : List (String × String)} {now : Store}
    (h : Accounts d c s undone unsent sent now) (hundone : undone' ~ undone)
    (hsent : sent' ++ unsent' ~ sent ++ unsent) : Accounts d c s undone' unsent' sent' now := by
  obtain ⟨ys, hmessages, hstore, htexts⟩ := h
  exact ⟨ys, (hundone.append_left ys).trans hmessages, hstore, hsent.trans htexts⟩

/-- An answer is no longer owed, but perhaps a text. -/
lemma Accounts.answer {x : Delivery} {undone : List Delivery} {unsent sent : List (String × String)}
    {now : Store} (h : Accounts d c s (x :: undone) unsent sent now) :
    Accounts d c s undone (unsent ++ x.message.texts c.accepts (d.deliver x now).1) sent
      (d.deliver x now).2 := by
  obtain ⟨ys, hmessages, hstore, htexts⟩ := h
  refine ⟨ys ++ [x], ?_, ?_, ?_⟩
  · rwa [List.append_assoc]
  · rw [d.after_append, hstore]
    rfl
  · rw [d.texts_concat, ← hstore, ← List.append_assoc]
    exact htexts.append_right _

/-- Every turn of a handler keeps the books. -/
lemma Accounts.step {coming : List Delivery} {w w' : Work} (hstep : w.Step d c.accepts w')
    (h : Accounts d c s (w.waiting ++ coming) (w.unsent c.accepts) w.sent w.store) :
    Accounts d c s (w'.waiting ++ coming) (w'.unsent c.accepts) w'.sent w'.store := by
  cases hstep with
  | answer before behind x sent now =>
      have hwaiting := Work.waiting_perm before behind (.waiting x) sent now
      have hunsent := Work.unsent_perm before behind (.waiting x) sent now c.accepts
      have hwaiting' := Work.waiting_perm before behind
        (.ofReply x.message (d.deliver x now).1) sent (d.deliver x now).2
      have hunsent' := Work.unsent_perm before behind (.ofReply x.message (d.deliver x now).1) sent
        (d.deliver x now).2 c.accepts
      rw [Task.message_ofReply, List.nil_append] at hwaiting'
      rw [Task.owed_ofReply] at hunsent'
      have howed : Accounts d c s (x :: ((before ++ behind).flatMap Task.message ++ coming))
          ((before ++ behind).flatMap (Task.owed c.accepts)) sent now :=
        h.congr (hwaiting.append_right coming).symm (hunsent.append_left sent).symm
      exact howed.answer.congr (hwaiting'.append_right coming)
        ((hunsent'.trans List.perm_append_comm).append_left sent)
  | send before behind chat text sent now =>
      have hwaiting := Work.waiting_perm before behind (.replying chat text) sent now
      have hunsent := Work.unsent_perm before behind (.replying chat text) sent now c.accepts
      have hwaiting' := Work.waiting_perm before behind .finished
        (sent ++ (Task.replying chat text).owed c.accepts) now
      have hunsent' := Work.unsent_perm before behind .finished
        (sent ++ (Task.replying chat text).owed c.accepts) now c.accepts
      refine h.congr ((hwaiting'.trans hwaiting.symm).append_right coming) ?_
      rw [List.append_assoc]
      exact ((hunsent'.append_left _).trans hunsent.symm).append_left sent
  | reap before behind sent now =>
      have hwaiting := Work.waiting_perm before behind .finished sent now
      have hunsent := Work.unsent_perm before behind .finished sent now c.accepts
      exact h.congr (hwaiting.symm.append_right coming) (hunsent.symm.append_left sent)

namespace Serving

/-- What a bot that has stopped was to do: nothing at all if there was no connection, and else all
but what a failure of the connection has kept it from. -/
def Result (d : Dispatcher) (c : Source) (s : Store) (r : Dispatcher.Served) : Prop :=
  match c.startFailure with
  | some cause => r = ⟨some cause, [], s⟩
  | none => r.failure = c.failure ∧ ∃ undone unsent, Accounts d c s undone unsent r.sent r.store ∧
      (c.failure = none → undone = [] ∧ unsent = [])

/-- The books of a bot are right. -/
def Kept (d : Dispatcher) (c : Source) (s : Store) : Serving → Prop
  | .starting now => now = s
  | .receiving coming w => c.startFailure = none ∧
      Accounts d c s (w.waiting ++ coming) (w.unsent c.accepts) w.sent w.store
  | .draining w => c.startFailure = none ∧ c.failure = none ∧
      Accounts d c s w.waiting (w.unsent c.accepts) w.sent w.store
  | .stopped r => Result d c s r

/-- Every step of a bot keeps its books. -/
theorem Kept.step {u v : Serving} (h : Kept d c s u) (hstep : Step d c u v) : Kept d c s v := by
  cases hstep with
  | refuse now hstart =>
      have hnow : now = s := h
      show Result d c s _
      rw [Result, hstart, hnow]
  | start now hstart =>
      have hnow : now = s := h
      exact ⟨hstart, [], .refl _, hnow, .refl _⟩
  | receive x coming w =>
      obtain ⟨hstart, hbooks⟩ := h
      refine ⟨hstart, ?_⟩
      have hwaiting : ({ w with tasks := w.tasks ++ [.waiting x] } : Work).waiting ++ coming =
          w.waiting ++ x :: coming := by
        simp [Work.waiting, Task.message]
      have hunsent : ({ w with tasks := w.tasks ++ [.waiting x] } : Work).unsent c.accepts =
          w.unsent c.accepts := by
        simp [Work.unsent, Task.owed]
      rw [hwaiting, hunsent]
      exact hbooks
  | handle coming hturn => exact ⟨h.1, h.2.step hturn⟩
  | fail w hfailure =>
      obtain ⟨hstart, hbooks⟩ := h
      show Result d c s _
      rw [Result, hstart]
      exact ⟨hfailure.symm, _, _, hbooks, fun hnone => nomatch hfailure.symm.trans hnone⟩
  | close w hfailure =>
      obtain ⟨hstart, hbooks⟩ := h
      rw [List.append_nil] at hbooks
      exact ⟨hstart, hfailure, hbooks⟩
  | drain hturn =>
      obtain ⟨hstart, hfailure, hbooks⟩ := h
      rw [← List.append_nil (Work.waiting _)] at hbooks
      have hnext := hbooks.step hturn
      rw [List.append_nil] at hnext
      exact ⟨hstart, hfailure, hnext⟩
  | finish sent now =>
      obtain ⟨hstart, hfailure, hbooks⟩ := h
      show Result d c s _
      rw [Result, hstart]
      exact ⟨hfailure.symm, [], [], hbooks, fun _ => ⟨rfl, rfl⟩⟩

lemma kept_of_run {u : Serving} (hrun : Run d c (.starting s) u) : Kept d c s u := by
  induction hrun with
  | refl => rfl
  | tail _ hstep ih => exact ih.step hstep

end Serving

/-! ### All runs end -/

/-- How many turns a handler still needs. -/
def Task.effort : Task → ℕ
  | .waiting _ => 3
  | .replying _ _ => 2
  | .finished => 1

lemma Task.effort_ofReply (m : Message) (reply : Option Reply) : (ofReply m reply).effort ≤ 2 := by
  cases reply with
  | none => exact Nat.le_succ 1
  | some reply => exact le_refl 2

/-- How many turns all handlers still need. -/
def Work.effort (w : Work) : ℕ := (w.tasks.map Task.effort).sum

lemma Work.Step.effort_lt {accepts : String → Bool} {w w' : Work} (h : w.Step d accepts w') :
    w'.effort < w.effort := by
  cases h with
  | answer before behind x sent now =>
      have hreply := Task.effort_ofReply x.message (d.deliver x now).1
      have hwaiting : (Task.waiting x).effort = 3 := rfl
      simp only [Work.effort, List.map_append, List.map_cons, List.sum_append, List.sum_cons,
        hwaiting]
      omega
  | send before behind chat text sent now =>
      simp only [Work.effort, List.map_append, List.map_cons, List.sum_append, List.sum_cons,
        Task.effort]
      omega
  | reap before behind sent now =>
      simp only [Work.effort, List.map_append, List.map_cons, List.sum_append, List.sum_cons,
        Task.effort]
      omega

/-- As long as there is a handler, one can get its turn. -/
lemma Work.exists_step (d : Dispatcher) (accepts : String → Bool) {w : Work} (h : w.tasks ≠ []) :
    ∃ w', w.Step d accepts w' := by
  obtain ⟨tasks, sent, now⟩ := w
  obtain ⟨task, behind, rfl⟩ := List.exists_cons_of_ne_nil h
  cases task with
  | waiting x => exact ⟨_, .answer [] behind x sent now⟩
  | replying chat text => exact ⟨_, .send [] behind chat text sent now⟩
  | finished => exact ⟨_, .reap [] behind sent now⟩

namespace Serving

/-- How many steps a bot can make at most. -/
def effort (c : Source) : Serving → ℕ
  | .starting _ => 4 * c.messages.length + 3
  | .receiving coming w => 4 * coming.length + w.effort + 2
  | .draining w => w.effort + 1
  | .stopped _ => 0

lemma Step.effort_lt {u v : Serving} (h : Step d c u v) : v.effort c < u.effort c := by
  cases h with
  | refuse _ _ => exact Nat.succ_pos _
  | start _ _ => exact Nat.lt_succ_self _
  | receive x coming w =>
      have hnew : ({ w with tasks := w.tasks ++ [.waiting x] } : Work).effort = w.effort + 3 := by
        simp [Work.effort, Task.effort]
      simp only [effort, hnew, List.length_cons]
      omega
  | handle coming hturn => exact Nat.add_lt_add_right (Nat.add_lt_add_left hturn.effort_lt _) 2
  | fail _ _ => exact Nat.succ_pos _
  | close w _ =>
      simp only [effort, List.length_nil]
      omega
  | drain hturn => exact Nat.add_lt_add_right hturn.effort_lt 1
  | finish _ _ => exact Nat.succ_pos _

/-- A bot goes on until it stops. -/
lemma exists_step (d : Dispatcher) (c : Source) {u : Serving} (h : ∀ r, u ≠ .stopped r) :
    ∃ v, Step d c u v := by
  cases u with
  | starting now =>
      cases hstart : c.startFailure with
      | none => exact ⟨_, .start now hstart⟩
      | some cause => exact ⟨_, .refuse now hstart⟩
  | receiving coming w =>
      cases coming with
      | cons x rest => exact ⟨_, .receive x rest w⟩
      | nil =>
          cases hfailure : c.failure with
          | none => exact ⟨_, .close w hfailure⟩
          | some cause => exact ⟨_, .fail w hfailure⟩
  | draining w =>
      obtain ⟨_ | ⟨task, rest⟩, sent, now⟩ := w
      · exact ⟨_, .finish sent now⟩
      · obtain ⟨w', hturn⟩ :=
          Work.exists_step d c.accepts (w := ⟨task :: rest, sent, now⟩) (by simp)
        exact ⟨_, .drain hturn⟩
  | stopped r => exact absurd rfl (h r)

/-- Whatever is done next, the bot stops at last, and with a result of some kind. -/
inductive Ends (d : Dispatcher) (c : Source) (kind : Dispatcher.Served → Prop) : Serving → Prop
  | stopped {r : Dispatcher.Served} (h : kind r) : Ends d c kind (.stopped r)
  | next {u : Serving} (hnext : ∃ v, Step d c u v) (h : ∀ v, Step d c u v → Ends d c kind v) :
      Ends d c kind u

lemma Ends.mono {kind kind' : Dispatcher.Served → Prop} {u : Serving} (h : Ends d c kind u)
    (himp : ∀ r, kind r → kind' r) : Ends d c kind' u := by
  induction h with
  | stopped h => exact .stopped (himp _ h)
  | next hnext _ ih => exact .next hnext ih

/-- All runs end with right books. -/
theorem ends_of_kept {u : Serving} (h : Kept d c s u) : Ends d c (Result d c s) u := by
  induction heffort : u.effort c using Nat.strongRecOn generalizing u with
  | ind n ih =>
      by_cases hstopped : ∃ r, u = .stopped r
      · obtain ⟨r, rfl⟩ := hstopped
        exact .stopped h
      · refine .next (exists_step d c (not_exists.mp hstopped)) fun v hstep => ?_
        exact ih _ (heffort ▸ hstep.effort_lt) (h.step hstep) rfl

lemma ends_starting (d : Dispatcher) (c : Source) (s : Store) :
    Ends d c (Result d c s) (.starting s) := ends_of_kept rfl

end Serving

/-! ### Turns in any order -/

/-- The handler of a message does all it has to, one turn after the other. -/
lemma Work.run_answer (d : Dispatcher) (accepts : String → Bool) (before behind : List Task)
    (x : Delivery) (sent : List (String × String)) (s : Store) :
    Relation.ReflTransGen (Step d accepts) ⟨before ++ .waiting x :: behind, sent, s⟩
      ⟨before ++ behind, sent ++ x.message.texts accepts (d.deliver x s).1, (d.deliver x s).2⟩ := by
  have hanswer : Step d accepts _ _ := .answer before behind x sent s
  rw [← Task.owed_ofReply]
  cases hreply : (d.deliver x s).1 with
  | none =>
      rw [hreply] at hanswer
      have hnothing : sent ++ (Task.ofReply x.message none).owed accepts = sent :=
        List.append_nil sent
      rw [hnothing]
      exact .head hanswer (.single (.reap before behind sent _))
  | some reply =>
      rw [hreply] at hanswer
      exact .head hanswer (.head (.send before behind _ _ sent _)
        (.single (.reap before behind _ _)))

/-- Handlers may get their turns in any order, each all at once. -/
lemma Work.run_answers (d : Dispatcher) (accepts : String → Bool) {ys rest : List Delivery}
    {tasks : List Task} (htasks : tasks.Perm ((ys ++ rest).map .waiting))
    (sent : List (String × String)) (s : Store) :
    ∃ left : List Task, left.Perm (rest.map .waiting) ∧
      Relation.ReflTransGen (Step d accepts) ⟨tasks, sent, s⟩
        ⟨left, sent ++ d.texts accepts ys s, d.after ys s⟩ := by
  induction ys generalizing tasks sent s with
  | nil => exact ⟨tasks, htasks, by rw [Dispatcher.texts, List.append_nil]; exact .refl⟩
  | cons y ys ih =>
      have hmem : Task.waiting y ∈ tasks := htasks.mem_iff.mpr List.mem_cons_self
      obtain ⟨before, behind, rfl⟩ := List.append_of_mem hmem
      have hothers : (before ++ behind).Perm ((ys ++ rest).map .waiting) :=
        (List.perm_middle.symm.trans htasks).cons_inv
      obtain ⟨left, hleft, hrun⟩ := ih hothers
        (sent ++ y.message.texts accepts (d.deliver y s).1) (d.deliver y s).2
      rw [List.append_assoc] at hrun
      exact ⟨left, hleft, (run_answer d accepts before behind y sent s).trans hrun⟩

namespace Serving

lemma run_handle (coming : List Delivery) {w w' : Work}
    (h : Relation.ReflTransGen (Work.Step d c.accepts) w w') :
    Run d c (.receiving coming w) (.receiving coming w') :=
  h.lift (Serving.receiving coming) fun _ _ hturn => .handle coming hturn

/-- All messages may come in before any handler gets its turn. -/
lemma run_receive (xs : List Delivery) (w : Work) :
    Run d c (.receiving xs w) (.receiving [] { w with tasks := w.tasks ++ xs.map .waiting }) := by
  induction xs generalizing w with
  | nil =>
      rw [List.map_nil, List.append_nil]
      exact .refl
  | cons x rest ih =>
      have hrest := ih { w with tasks := w.tasks ++ [.waiting x] }
      rw [List.append_assoc] at hrest
      exact .head (.receive x rest w) hrest

/-- Messages may be answered in any order before the connection ends. -/
lemma run_answers (hstart : c.startFailure = none) {ys rest : List Delivery}
    (hmessages : (ys ++ rest).Perm c.messages) :
    ∃ left : List Task, left.Perm (rest.map .waiting) ∧ Run d c (.starting s)
      (.receiving [] ⟨left, d.texts c.accepts ys s, d.after ys s⟩) := by
  obtain ⟨left, hleft, hturns⟩ :=
    Work.run_answers d c.accepts (hmessages.symm.map Task.waiting) [] s
  exact ⟨left, hleft,
    .head (.start s hstart) ((run_receive c.messages { store := s }).trans (run_handle [] hturns))⟩

/-- A connection that fails may do so once some of the messages are answered, in any order. -/
lemma run_stopped_of_failure (hstart : c.startFailure = none) {cause : BotError}
    (hfailure : c.failure = some cause) {ys rest : List Delivery}
    (hmessages : (ys ++ rest).Perm c.messages) :
    Run d c (.starting s) (.stopped ⟨some cause, d.texts c.accepts ys s, d.after ys s⟩) := by
  obtain ⟨left, -, hrun⟩ := run_answers (d := d) (s := s) hstart hmessages
  exact hrun.tail (.fail _ hfailure)

/-- The messages of a connection that closes may be answered in any order. -/
lemma run_stopped_of_close (hstart : c.startFailure = none) (hfailure : c.failure = none)
    {ys : List Delivery} (hmessages : ys.Perm c.messages) :
    Run d c (.starting s) (.stopped ⟨none, d.texts c.accepts ys s, d.after ys s⟩) := by
  rw [← List.append_nil ys] at hmessages
  obtain ⟨left, hleft, hrun⟩ := run_answers (d := d) (s := s) hstart hmessages
  obtain rfl := hleft.eq_nil
  exact (hrun.tail (.close _ hfailure)).tail (.finish _ _)

end Serving

end ChatBot
