import Messaging.Proofs.Consumer.Handling
import Messaging.Proofs.Queue.Conservation
import Messaging.Proofs.Poller.Turn
import Messaging.Proofs.System.Onward

/-!
# What a poller takes

With each of its steps a poller takes one message from its queue and handles it, or no message moves
at all: receive calls are made or end without a message, cycles begin and end, and nothing else
happens.  So what a poller does over all of its cycles is told message by message, whatever its
settings are and however time passes.
-/

namespace Messaging

/-! ## Answers and deliveries -/

/-- What a queue answered to an offer, if the entry tells of one. -/
def Entry.answer? (e : Entry) : Option (QueueId × Outcome) :=
  match e.event with
  | .offered id _ outcome => some (id, outcome)
  | _ => none

namespace Broker

/-- The answers of queues to all offers, the latest first. -/
def answers (b : Broker) : List (QueueId × Outcome) := b.journal.filterMap Entry.answer?

/-- Entries that tell of nothing that was received leave what was delivered as it is. -/
theorem delivered_of_journal_eq {b b' : Broker} {new : List Entry}
    (hnew : b'.journal = new ++ b.journal) (hall : ∀ e ∈ new, e.delivered? = none) (id : QueueId) :
    b'.delivered id = b.delivered id := by
  have hnone : (new.filter fun e ↦ e.event.queue? = some id).reverse.filterMap
      Entry.delivered? = [] := by
    refine List.filterMap_eq_nil_iff.mpr fun e he ↦ hall e ?_
    exact (List.mem_filter.mp (List.mem_reverse.mp he)).1
  rw [delivered, history, hnew, List.filter_append, List.reverse_append, List.filterMap_append,
    hnone, List.append_nil]
  rfl

/-- A turn that ends delivers what it ends with. -/
theorem delivered_serve {b b' : Broker} {id : QueueId} {task : TaskId} {got : Option Message}
    (h : b.serve id task = some (got, b')) : b'.delivered id = b.delivered id ++ got.toList := by
  obtain ⟨q, w, q', -, -, -, rfl⟩ := serve_eq_some_iff.mp h
  rw [delivered, history_record_of_eq _ rfl, Queue.filterMap_reverse_cons, history_setQueue]
  rfl

namespace Sends

variable {ids : List QueueId} {b b' : Broker}

/-- The journal tells of nothing that was received, and of answers of these queues only. -/
theorem journal_eq (h : b.Sends ids b') :
    ∃ new, b'.journal = new ++ b.journal ∧ ∀ e ∈ new, e.delivered? = none ∧
      ∀ id outcome, e.answer? = some (id, outcome) → id ∈ ids := by
  induction h with
  | refl => exact ⟨[], rfl, by simp⟩
  | @offer b' id m _ hid ih =>
    obtain ⟨new, hnew, hall⟩ := ih
    unfold Broker.offer
    split
    · rename_i q _
      refine ⟨⟨b'.clock, .offered id m q.answer⟩ :: new, congrArg (List.cons _) hnew,
        List.forall_mem_cons.mpr ⟨⟨rfl, ?_⟩, hall⟩⟩
      rintro _ _ ⟨⟩
      exact hid
    · exact ⟨new, hnew, hall⟩
  | issue _ ih => exact ih
  | @note b' event _ he _ ih =>
    obtain ⟨new, hnew, hall⟩ := ih
    refine ⟨⟨b'.clock, event⟩ :: new, congrArg (List.cons _) hnew,
      List.forall_mem_cons.mpr ⟨?_, hall⟩⟩
    cases event with
    | invoked | began | ended => exact ⟨rfl, fun _ _ h ↦ nomatch h⟩
    | offered | closed | called | received => cases he

theorem delivered_eq (h : b.Sends ids b') (id : QueueId) : b'.delivered id = b.delivered id := by
  obtain ⟨new, hnew, hall⟩ := h.journal_eq
  exact delivered_of_journal_eq hnew (fun e he ↦ (hall e he).1) id

theorem mem_of_mem_answers (h : b.Sends ids b') {id : QueueId} {outcome : Outcome}
    (hmem : (id, outcome) ∈ b'.answers) : (id, outcome) ∈ b.answers ∨ id ∈ ids := by
  obtain ⟨new, hnew, hall⟩ := h.journal_eq
  rw [answers, hnew, List.filterMap_append] at hmem
  rcases List.mem_append.mp hmem with hmem | hmem
  · obtain ⟨e, he, hanswer⟩ := List.mem_filterMap.mp hmem
    exact .inr ((hall e he).2 id outcome hanswer)
  · exact .inl hmem

end Sends

/-! ## Brokers at rest -/

/-- The broker after receive calls on a queue were made, or ended without a message, the queue was
closed, things were noted that concern no queue, or time passed. -/
inductive Rests (id : QueueId) (b : Broker) : Broker → Prop
  /-- Nothing happened. -/
  | refl : Rests id b b
  /-- A receive call was made. -/
  | enter {b' : Broker} (task : TaskId) (timeout : Nat) :
      Rests id b b' → Rests id b (b'.enter id task timeout)
  /-- A receive call ended without a message. -/
  | serve {b' b'' : Broker} {task : TaskId} :
      Rests id b b' → b'.serve id task = some (none, b'') → Rests id b b''
  /-- The queue was closed. -/
  | close {b' : Broker} : Rests id b b' → Rests id b (b'.close id)
  /-- Something was noted. -/
  | note {b' : Broker} {event : Event} :
      Rests id b b' → event.queue? = none → Rests id b (b'.record event)
  /-- Time passed. -/
  | wait {b' : Broker} {instant : Nat} :
      Rests id b b' → b'.clock ≤ instant → Rests id b { b' with clock := instant }

namespace Rests

variable {id : QueueId} {b b' : Broker}

theorem getElem?_of_ne (h : b.Rests id b') {i : QueueId} (hi : id ≠ i) :
    b'.queues[i]? = b.queues[i]? := by
  induction h with
  | refl => rfl
  | enter task timeout _ ih => rw [getElem?_enter_of_ne _ task timeout hi, ih]
  | serve _ hs ih => rw [getElem?_serve_of_ne hs hi, ih]
  | close _ ih => rw [getElem?_close_of_ne _ hi, ih]
  | note _ _ ih => exact ih
  | wait _ _ ih => exact ih

theorem later (h : b.Rests id b') : b.clock ≤ b'.clock ∧ b.issued ≤ b'.issued := by
  have hreaches : b.Reaches b' := by
    induction h with
    | refl => exact .refl b
    | enter task timeout _ ih => exact ih.trans (Step.enter _ id task timeout).reaches
    | serve _ hs ih => exact ih.trans (Step.serve hs).reaches
    | close _ ih => exact ih.trans (Step.close _ id).reaches
    | note _ he ih => exact ih.trans (Step.note _ he).reaches
    | wait _ hle ih => exact ih.trans (Step.wait _ hle).reaches
  exact hreaches.later

theorem passes (h : b.Rests id b') {ids : List QueueId} (hid : id ∉ ids) : b.Passes ids b' :=
  ⟨fun _ hi ↦ h.getElem?_of_ne fun he ↦ hid (he ▸ hi), h.later.1, h.later.2⟩

theorem exists_queue (h : b.Rests id b') {q : Queue} (hq : b.queues[id]? = some q) :
    ∃ q', b'.queues[id]? = some q' ∧ q'.items = q.items := by
  induction h with
  | refl => exact ⟨q, hq, rfl⟩
  | enter task timeout _ ih =>
    obtain ⟨q', hq', hitems⟩ := ih
    rw [enter_eq hq']
    exact ⟨_, getElem?_setQueue_self _ hq', hitems⟩
  | serve _ hs ih =>
    obtain ⟨q', hq', hitems⟩ := ih
    obtain ⟨q₁, w, q₂, hq₁, hserve, -, rfl⟩ := serve_eq_some_iff.mp hs
    obtain rfl := Option.some.inj (hq₁.symm.trans hq')
    refine ⟨q₂, getElem?_setQueue_self _ hq₁, ?_⟩
    obtain ⟨-, ⟨m, rest, -, hgot, -⟩ | ⟨-, -, -, rfl⟩⟩ := Queue.serve_eq_some_iff.mp hserve
    · cases hgot
    · exact hitems
  | close _ ih =>
    obtain ⟨q', hq', hitems⟩ := ih
    refine ⟨q'.close, ?_, hitems⟩
    rw [Broker.close, hq']
    exact getElem?_setQueue_self _ hq'
  | note _ _ ih => exact ih
  | wait _ _ ih => exact ih

/-- The journal tells of nothing that was received and of nothing that was offered. -/
theorem journal_eq (h : b.Rests id b') :
    ∃ new, b'.journal = new ++ b.journal ∧
      ∀ e ∈ new, e.delivered? = none ∧ e.answer? = none := by
  have more : ∀ {b₁ : Broker} {e : Event},
      (∃ new, b₁.journal = new ++ b.journal ∧
        ∀ e ∈ new, e.delivered? = none ∧ e.answer? = none) →
      Entry.delivered? ⟨b₁.clock, e⟩ = none → Entry.answer? ⟨b₁.clock, e⟩ = none →
      ∃ new, (⟨b₁.clock, e⟩ :: b₁.journal : List Entry) = new ++ b.journal ∧
        ∀ e ∈ new, e.delivered? = none ∧ e.answer? = none := by
    rintro b₁ e ⟨new, hnew, hall⟩ hdelivered hanswer
    exact ⟨⟨b₁.clock, e⟩ :: new, congrArg (List.cons _) hnew,
      List.forall_mem_cons.mpr ⟨⟨hdelivered, hanswer⟩, hall⟩⟩
  induction h with
  | refl => exact ⟨[], rfl, by simp⟩
  | enter task timeout _ ih =>
    unfold Broker.enter
    split
    · exact more ih rfl rfl
    · exact ih
  | serve _ hs ih =>
    obtain ⟨q, w, q', -, -, -, rfl⟩ := serve_eq_some_iff.mp hs
    exact more ih rfl rfl
  | close _ ih =>
    unfold Broker.close
    split
    · exact more ih rfl rfl
    · exact ih
  | @note _ event _ he ih =>
    cases event with
    | invoked | began | ended => exact more ih rfl rfl
    | offered | closed | called | received => cases he
  | wait _ _ ih => exact ih

theorem delivered_eq (h : b.Rests id b') (i : QueueId) : b'.delivered i = b.delivered i := by
  obtain ⟨new, hnew, hall⟩ := h.journal_eq
  exact delivered_of_journal_eq hnew (fun e he ↦ (hall e he).1) i

theorem answers_eq (h : b.Rests id b') : b'.answers = b.answers := by
  obtain ⟨new, hnew, hall⟩ := h.journal_eq
  have hnone : new.filterMap Entry.answer? = [] :=
    List.filterMap_eq_nil_iff.mpr fun e he ↦ (hall e he).2
  rw [answers, hnew, List.filterMap_append, hnone, List.nil_append]
  rfl

end Rests

end Broker

/-! ## Steps of a poller -/

theorem Consumer.proceed_rests (c : Consumer) (task : TaskId) (count : Nat) (b : Broker) :
    b.Rests c.input (c.proceed task count b).2 := by
  unfold proceed
  split
  · exact .note .refl rfl
  · exact .enter task _ .refl

theorem Broker.Rests.trans {id : QueueId} {a b c : Broker} (h : a.Rests id b) (h' : b.Rests id c) :
    a.Rests id c := by
  induction h' with
  | refl => exact h
  | enter task timeout _ ih => exact ih.enter task timeout
  | serve _ hs ih => exact ih.serve hs
  | close _ ih => exact ih.close
  | note _ he ih => exact ih.note he
  | wait _ hle ih => exact ih.wait hle

/-- With a step a poller takes one message and handles it, or no message moves. -/
theorem Poller.advance_cases {task : TaskId} {b b' : Broker} {p : Poller} {k' : Task}
    (h : Task.Advance task b (.poller p) k' b') :
    ∃ p', k' = .poller p' ∧ p'.consumer = p.consumer ∧
      (b.Rests p.consumer.input b' ∨
        ∃ m b₁, b.serve p.consumer.input task = some (some m, b₁) ∧
          (p.consumer.process m b₁).Rests p.consumer.input b') := by
  cases h with
  | @woken _ due hp hdue =>
    refine ⟨_, rfl, ?_⟩
    unfold wake
    split
    · exact ⟨rfl, .inl .refl⟩
    · split
      · exact ⟨rfl, .inl .refl⟩
      · refine ⟨p.during_consumer _ _ _, .inl ?_⟩
        exact (Broker.Rests.refl.note rfl).trans (p.consumer.proceed_rests task 0 _)
  | @resumed _ due count got b₁ hp hs =>
    refine ⟨_, rfl, p.during_consumer _ _ _, ?_⟩
    cases got with
    | none => exact .inl ((Broker.Rests.refl.serve hs).note rfl)
    | some m => exact .inr ⟨m, b₁, hs, p.consumer.proceed_rests task (count + 1) _⟩

theorem Poller.during_ne_broken (p : Poller) (due : Nat) (cycle : Cycle) (now : Nat) :
    (p.during due cycle now).phase ≠ .broken := by
  cases cycle <;> exact Phase.noConfusion

/-- A poller that has a schedule does not break. -/
theorem Poller.ne_broken_of_advance {task : TaskId} {b b' : Broker} {p p' : Poller}
    (hpos : 0 < p.consumer.settings.interval)
    (h : Task.Advance task b (.poller p) (.poller p') b') : p'.phase ≠ .broken := by
  cases h with
  | woken =>
    unfold wake
    split
    · rename_i hnone
      exact (Nat.ne_of_gt hpos hnone.2).elim
    · split
      · exact Phase.noConfusion
      · exact p.during_ne_broken _ _ _
  | resumed => exact p.during_ne_broken _ _ _

/-! ## Systems with one poller -/

namespace System

/-- Where there is one task only, each step is a step of that task. -/
theorem advance_of_singleton {s t : System} {k : Task} {task : TaskId} (hs : s.tasks = [k])
    (h : s.step? task = some t) :
    task = 0 ∧ ∃ k', t.tasks = [k'] ∧ Task.Advance 0 s.broker k k' t.broker := by
  obtain ⟨k₁, k', b', hk, hstep, rfl⟩ := step?_eq_some_iff.mp h
  rw [hs] at hk ⊢
  cases task with
  | zero =>
    obtain rfl := Option.some.inj hk
    exact ⟨rfl, k', rfl, Task.step_eq_some_iff.mp hstep⟩
  | succ task => cases hk

/-- The only task is a poller of this consumer, which is not broken, and this holds of the broker
after some number of messages. -/
def Attends (c : Consumer) (P : Nat → Broker → Prop) (s : System) : Prop :=
  ∃ p n, s.tasks = [.poller p] ∧ p.consumer = c ∧ p.phase ≠ .broken ∧ P n s.broker

namespace Attends

variable {c : Consumer} {P : Nat → Broker → Prop} {s t : System}

theorem stop (h : Attends c P s) (task : TaskId) : Attends c P (s.stop task) := by
  obtain ⟨p, n, hs, hc, hne, hP⟩ := h
  rw [System.stop, hs]
  cases task with
  | zero => exact ⟨{ p with stopping := true }, n, rfl, hc, hne, hP⟩
  | succ task => exact ⟨p, n, hs, hc, hne, hP⟩

/-- What is kept while no message moves, and by each message that is taken and handled, is kept in a
system whose only task is a poller. -/
theorem onward (hpos : 0 < c.settings.interval)
    (rests : ∀ {n : Nat} {b b' : Broker}, P n b → b.Rests c.input b' → P n b')
    (takes : ∀ {n : Nat} {b b₁ : Broker} {task : TaskId} {m : Message}, P n b →
      b.serve c.input task = some (some m, b₁) → P (n + 1) (c.process m b₁))
    (h : Attends c P s) (run : s.Onward t) : Attends c P t := by
  unfold Onward at run
  induction run with
  | refl => exact h
  | tail _ goes ih =>
    obtain ⟨p, n, htasks, rfl, hne, hP⟩ := ih
    cases goes with
    | wait hle => exact ⟨p, n, htasks, rfl, hne, rests hP (Broker.Rests.refl.wait hle)⟩
    | step h =>
      obtain ⟨-, k', htasks', hadv⟩ := advance_of_singleton htasks h
      obtain ⟨p', rfl, hc, hmoves⟩ := Poller.advance_cases hadv
      have hne' := Poller.ne_broken_of_advance hpos hadv
      rcases hmoves with hrests | ⟨m, b₁, hserve, hrests⟩
      · exact ⟨p', n, htasks', hc, hne', rests hP hrests⟩
      · exact ⟨p', n + 1, htasks', hc, hne', rests (takes hP hserve) hrests⟩

end Attends

end System

end Messaging
