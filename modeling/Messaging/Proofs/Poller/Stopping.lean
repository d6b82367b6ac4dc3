import Messaging.Proofs.Poller.Turn

/-!
# Pollers that were told to stop

A poller that was told to stop begins no other cycle.  If it is in a cycle, then that cycle goes on
to its end, and all that the poller still does belongs to it; if the poller waits for its next
cycle, then it does nothing more, and comes to its end at the instant at which the cycle would have
begun.
-/

namespace Messaging

/-- The event belongs to a receive call, which was made or ended. -/
def Event.isReceiving : Event → Bool
  | .called .. | .received .. => true
  | .offered .. | .closed _ | .invoked .. | .began _ | .ended .. => false

namespace Poller

/-- Whether the poller is in a poll cycle. -/
def isPolling (p : Poller) : Bool :=
  match p.phase with
  | .polling .. => true
  | .waiting _ | .finished | .broken => false

/-! ## The course of a poller -/

/-- How a poller that was told to stop has gone on, with what its diary tells since then, the latest
entry first. -/
inductive WindsUp (task : TaskId) (p : Poller) : Poller → List Entry → Prop
  /-- It was not in a cycle, and has done nothing but to come to its end. -/
  | idle {p' : Poller} (hp : p.isPolling = false) (hp' : p'.isPolling = false) :
      WindsUp task p p' []
  /-- It is still in the cycle in which it was. -/
  | going {p' : Poller} {taken : List Entry} (hp : p.isPolling = true) (hp' : p'.isPolling = true)
      (htaken : ∀ e ∈ taken, e.event.isReceiving = true) : WindsUp task p p' taken
  /-- The cycle in which it was has ended. -/
  | ended {p' : Poller} {instant count : Nat} {taken : List Entry} (hp : p.isPolling = true)
      (hp' : p'.isPolling = false) (htaken : ∀ e ∈ taken, e.event.isReceiving = true) :
      WindsUp task p p' (⟨instant, .ended task count⟩ :: taken)

variable {task : TaskId} {p p' p'' : Poller}

theorem WindsUp.refl (task : TaskId) (p : Poller) : WindsUp task p p [] := by
  cases hp : p.isPolling with
  | false => exact .idle hp hp
  | true => exact .going hp hp (by simp)

/-- A poller that is not in a cycle and was told to stop can only come to its end. -/
theorem Turn.over_of_stopping {now : Nat} {events : List Event} (h : p.Turn task now events p')
    (hstop : p.stopping = true) (hp : p.isPolling = false) :
    events = [] ∧ p'.isOver = true ∧ p'.isPolling = false := by
  cases h with
  | broken => exact ⟨rfl, rfl, rfl⟩
  | finished => exact ⟨rfl, rfl, rfl⟩
  | begun _ _ hnot => cases hnot.symm.trans hstop
  | resumed hphase =>
    rw [isPolling, hphase] at hp
    cases hp

/-- A poller that is in a cycle takes its turns with receive calls, until the cycle ends. -/
theorem Turn.resumed_of_polling {now : Nat} {events : List Event} (h : p.Turn task now events p')
    (hp : p.isPolling = true) :
    ∃ taken : List Event, (∀ e ∈ taken, e.isReceiving = true) ∧
      (events = taken ∧ p'.isPolling = true ∨
        (∃ count, events = .ended task count :: taken) ∧ p'.isPolling = false) := by
  cases h with
  | broken hphase | finished hphase | begun hphase =>
    rw [isPolling, hphase] at hp
    cases hp
  | @resumed _ _ since got _ _ _ hmarks =>
    have hgot : ∀ e ∈ [Event.received p.consumer.input task since got], e.isReceiving = true := by
      simp [Event.isReceiving]
    cases hmarks with
    | called => exact ⟨_, by simp [Event.isReceiving], .inl ⟨rfl, rfl⟩⟩
    | stuck => exact ⟨_, hgot, .inl ⟨rfl, rfl⟩⟩
    | ended count => exact ⟨_, hgot, .inr ⟨⟨count, rfl⟩, rfl⟩⟩

/-- Each turn of a poller that was told to stop is of the cycle in which it was, or its end. -/
theorem WindsUp.turn {now : Nat} {events : List Event} {new : List Entry}
    (h : p.WindsUp task p' new) (hstop : p'.stopping = true) (ht : p'.Turn task now events p'') :
    p.WindsUp task p'' (Event.entries now events ++ new) := by
  cases h with
  | idle hp hp' =>
    obtain ⟨rfl, -, hp''⟩ := ht.over_of_stopping hstop hp'
    exact .idle hp hp''
  | ended hp hp' htaken =>
    obtain ⟨rfl, -, hp''⟩ := ht.over_of_stopping hstop hp'
    exact .ended hp hp'' htaken
  | going hp hp' htaken =>
    obtain ⟨taken, hreceiving, hcase⟩ := ht.resumed_of_polling hp'
    have hall : ∀ e ∈ Event.entries now taken ++ new, e.event.isReceiving = true := by
      intro e he
      rcases List.mem_append.mp he with he | he
      · obtain ⟨event, hevent, rfl⟩ := List.mem_map.mp he
        exact hreceiving event hevent
      · exact htaken e he
    rcases hcase with ⟨rfl, hp''⟩ | ⟨⟨count, rfl⟩, hp''⟩
    · exact .going hp hp'' hall
    · exact .ended hp hp'' hall

/-- What the diary of a poller tells after it was told to stop: receive calls, then perhaps the end
of a cycle, and nothing at all if it was not in a cycle. -/
theorem WindsUp.eq_append {new : List Entry} (h : p.WindsUp task p' new) :
    ∃ closing taken, new = closing ++ taken ∧ (∀ e ∈ taken, e.event.isReceiving = true) ∧
      (closing = [] ∨ ∃ instant count, closing = [⟨instant, .ended task count⟩]) ∧
      (p.isPolling = false → new = []) := by
  cases h with
  | idle => exact ⟨[], [], rfl, by simp, .inl rfl, fun _ ↦ rfl⟩
  | going hp _ htaken =>
    refine ⟨[], _, rfl, htaken, .inl rfl, fun hp' ↦ ?_⟩
    cases hp.symm.trans hp'
  | ended hp _ htaken =>
    refine ⟨[_], _, rfl, htaken, .inr ⟨_, _, rfl⟩, fun hp' ↦ ?_⟩
    cases hp.symm.trans hp'

theorem WindsUp.began_eq_nil {new : List Entry} (h : p.WindsUp task p' new) :
    new.reverse.filterMap Entry.began? = [] := by
  rw [List.filterMap_reverse, List.reverse_eq_nil_iff, List.filterMap_eq_nil_iff]
  have hnone : ∀ e : Entry, e.event.isReceiving = true → e.began? = none := by
    rintro ⟨instant, event⟩ he
    cases event <;> first | rfl | cases he
  cases h with
  | idle => simp
  | going _ _ htaken => exact fun e he ↦ hnone e (htaken e he)
  | ended _ _ htaken =>
    intro e he
    rcases List.mem_cons.mp he with rfl | he
    · rfl
    · exact hnone e (htaken e he)

/-- A poller that has come to its end takes no turn. -/
theorem Turn.isOver_eq_false {now : Nat} {events : List Event} (h : p.Turn task now events p') :
    p.isOver = false := by
  cases h with
  | broken hphase | finished hphase | begun hphase | resumed hphase =>
    simp [isOver, hphase]

/-- A poller that waits takes no turn before its next cycle is due. -/
theorem Turn.due_le {now due : Nat} {events : List Event} (h : p.Turn task now events p')
    (hp : p.phase = .waiting due) : due ≤ now := by
  cases h with
  | broken hphase hdue | finished hphase hdue | begun hphase hdue =>
    exact Phase.waiting.inj (hphase.symm.trans hp) ▸ hdue
  | resumed hphase => cases hphase.symm.trans hp

end Poller

/-! ## Runs -/

namespace System

variable {s t : System} {task : TaskId} {p : Poller}

theorem isOver_eq_of_poller (hp : s.tasks[task]? = some (.poller p)) :
    s.isOver task = p.isOver := by
  rw [System.isOver, hp]
  rfl

/-- A poller that was told to stop winds up in every run. -/
theorem Reaches.windsUp (run : s.Reaches t) (hp : s.tasks[task]? = some (.poller p))
    (hstop : p.stopping = true) :
    ∃ p' new, t.tasks[task]? = some (.poller p') ∧ p'.stopping = true ∧
      t.broker.diary task = new ++ s.broker.diary task ∧ p.WindsUp task p' new := by
  unfold Reaches at run
  induction run with
  | refl => exact ⟨p, [], hp, hstop, rfl, .refl task p⟩
  | tail _ move ih =>
    obtain ⟨p', new, hp', hstop', hdiary', h⟩ := ih
    rcases move.cases_at_poller hp' with ⟨p'', events, hp'', hturn, hdiary, -⟩ |
      ⟨_, -, -, -, rfl⟩ | ⟨-, hdiary, p'', hp'', hsame⟩
    · refine ⟨p'', _, hp'', hturn.stopping_eq.trans hstop', ?_, h.turn hstop' hturn⟩
      rw [hdiary, hdiary', List.append_assoc]
    · exact ⟨p', new, hp', hstop', hdiary', h⟩
    · have heq : p'' = p' := by
        rcases hsame with rfl | rfl
        · rfl
        · rw [← hstop']
      exact ⟨p', new, heq ▸ hp'', hstop', hdiary.trans hdiary', h⟩

/-- A poller that waits for its next cycle and was told to stop waits until the cycle is due, and
comes to its end then. -/
theorem Reaches.waits_or_over {due : Nat} (run : s.Reaches t)
    (hp : s.tasks[task]? = some (.poller p)) (hstop : p.stopping = true)
    (hwait : p.phase = .waiting due) :
    t.tasks[task]? = some (.poller p) ∧ s.clock ≤ t.clock ∧ t.clock ≤ max due s.clock ∨
      t.isOver task = true ∧ max due s.clock ≤ t.clock := by
  unfold Reaches at run
  induction run with
  | refl => exact .inl ⟨hp, Nat.le_refl _, Nat.le_max_right _ _⟩
  | tail run move ih =>
    rcases ih with ⟨hp', hle, hmax⟩ | ⟨hover, hmax⟩
    · rcases move.cases_at_poller hp' with ⟨p'', events, hp'', hturn, -, hclock, -⟩ |
        ⟨instant, hsettled, hlater, hnext, rfl⟩ | ⟨hclock, -, p'', hp'', hsame⟩
      · have hidle : p.isPolling = false := by rw [Poller.isPolling, hwait]
        rw [hclock, isOver_eq_of_poller hp'']
        exact .inr ⟨(hturn.over_of_stopping hstop hidle).2.1,
          Nat.max_le.mpr ⟨hturn.due_le hwait, hle⟩⟩
      -- While the poller waits, its next cycle is among what is due, and time stops there.
      · have hlt := hsettled.lt_due hp' hwait
        have hdue : instant ≤ due := hnext due (mem_dues_of_waiting hp' hwait) hlt
        exact .inl ⟨hp', Nat.le_trans hle (Nat.le_of_lt hlater),
          Nat.le_trans hdue (Nat.le_max_left _ _)⟩
      · have heq : p'' = p := by
          rcases hsame with rfl | rfl
          · rfl
          · rw [← hstop]
        exact .inl ⟨heq ▸ hp'', hclock ▸ hle, hclock ▸ hmax⟩
    · obtain ⟨p', -, hp', -⟩ := Reaches.windsUp run hp hstop
      have hover' := (isOver_eq_of_poller hp').symm.trans hover
      rcases move.cases_at_poller hp' with ⟨_, _, -, hturn, -⟩ | ⟨_, -, hlater, -, rfl⟩ |
        ⟨hclock, -, p'', hp'', hsame⟩
      · cases hover'.symm.trans hturn.isOver_eq_false
      · exact .inr ⟨hover, Nat.le_trans hmax (Nat.le_of_lt hlater)⟩
      · refine .inr ⟨(isOver_eq_of_poller hp'').trans ?_, hclock ▸ hmax⟩
        rcases hsame with rfl | rfl <;> exact hover'

/-- Once a poller was told to stop, this is so for good, and it begins no other cycle in any run.
Its diary tells of nothing but receive calls and then the end of the cycle in which it was, and of
nothing at all if it was in none.  If it waited for its next cycle, then it does so until that is
due; by the end of that instant it has come to its end; and the step that it takes then leaves the
broker as it is. -/
theorem stopped_poller_begins_no_cycle (hp : s.tasks[task]? = some (.poller p))
    (hstop : p.stopping = true) (run : s.Reaches t) :
    (∃ p', t.tasks[task]? = some (.poller p') ∧ p'.stopping = true) ∧
      t.broker.starts task = s.broker.starts task ∧
      (∃ closing taken, t.broker.diary task = closing ++ taken ++ s.broker.diary task ∧
        (∀ e ∈ taken, e.event.isReceiving = true) ∧
        (closing = [] ∨ ∃ instant count, closing = [⟨instant, .ended task count⟩])) ∧
      (p.isPolling = false → t.broker.diary task = s.broker.diary task) ∧
      ∀ due, p.phase = .waiting due →
        let wakes := max due s.clock
        (t.clock < wakes → t.tasks[task]? = some (.poller p)) ∧
        (wakes < t.clock ∨ wakes ≤ t.clock ∧ t.Settled → t.isOver task = true) ∧
        ∀ u, t.step? task = some u →
          t.clock = wakes ∧ u.isOver task = true ∧ u.broker = t.broker := by
  obtain ⟨p', new, hp', hstop', hdiary, h⟩ := run.windsUp hp hstop
  obtain ⟨closing, taken, rfl, htaken, hclosing, hnil⟩ := h.eq_append
  refine ⟨⟨p', hp', hstop'⟩, ?_, ⟨closing, taken, hdiary, htaken, hclosing⟩, ?_, ?_⟩
  · rw [Broker.starts_of_diary_eq hdiary, h.began_eq_nil, List.append_nil]
  · intro hidle
    rw [hdiary, hnil hidle, List.nil_append]
  · intro due hwait wakes
    rcases run.waits_or_over hp hstop hwait with ⟨hp₁, hle, hmax⟩ | ⟨hover, hmax⟩
    · refine ⟨fun _ ↦ hp₁, ?_, fun u hu ↦ ?_⟩
      · rintro (hlt | ⟨hge, hsettled⟩)
        · exact (Nat.not_lt_of_le hmax hlt).elim
        · have hlt := hsettled.lt_due hp₁ hwait
          exact (Nat.not_le_of_lt hlt (Nat.le_trans (Nat.le_max_left _ _) hge)).elim
      · obtain ⟨p'', events, hp'', hturn, -, -, hquiet⟩ := turn_of_step hu hp₁
        have hidle : p.isPolling = false := by rw [Poller.isPolling, hwait]
        obtain ⟨-, hover, -⟩ := hturn.over_of_stopping hstop hidle
        have hge : wakes ≤ t.clock := Nat.max_le.mpr ⟨hturn.due_le hwait, hle⟩
        exact ⟨Nat.le_antisymm hmax hge, (isOver_eq_of_poller hp'').trans hover, hquiet hover⟩
    · refine ⟨fun hlt ↦ (Nat.not_lt_of_le hmax hlt).elim, fun _ ↦ hover, fun u hu ↦ ?_⟩
      obtain ⟨p'', events, -, hturn, -⟩ := turn_of_step hu hp'
      cases ((isOver_eq_of_poller hp').symm.trans hover).symm.trans hturn.isOver_eq_false

/-- A poller is told to stop in its initial delay, and has come to its end when that is over. -/
theorem stopped_poller_begins_no_cycle_of_delay :
    let binder : Binder :=
      ⟨"ship", [⟨0, .value, none, none, false, false⟩], [.payload], some 0, none, none⟩
    let c : Consumer :=
      { input := 0
        endpoint := { label := "ship", binder := binder, handler := fun _ _ ↦ .ok none }
        settings := { initialDelay := 5 } }
    let q : Queue := { name := "orders", capacity := 1 }
    let s := ((({} : System).withBroker (({} : Broker).addQueue q)).spawn c false).stop 0
    let p : Poller := ⟨c, true, .waiting 5⟩
    s.tasks[0]? = some (.poller p) ∧ p.stopping = true ∧ s.Reaches (s.atInstant 5) ∧
      ∃ u, (s.atInstant 5).step? 0 = some u ∧ u.isOver 0 = true ∧ u.broker.journal = [] := by
  intro binder c q s p
  have hp : s.tasks[0]? = some (.poller p) := rfl
  have run : s.Reaches (s.atInstant 5) :=
    .single (.wait (settled_iff_ready?.mpr rfl) (by decide) (by decide))
  obtain ⟨-, -, -, -, hwaiting⟩ := stopped_poller_begins_no_cycle hp rfl run
  obtain ⟨-, hover, hbroker⟩ := (hwaiting 5 rfl).2.2 _ rfl
  exact ⟨hp, rfl, run, _, rfl, hover, congrArg Broker.journal hbroker⟩

end System

end Messaging
