import Messaging.Proofs.Poller.Turn

/-!
# Pollers keep their schedules

The first poll cycle of a poller is due when its initial delay is over.  With a fixed delay, the
next one is due an interval after the end of this one.  At a fixed rate, the cycles are due on a
grid of intervals that is laid down with the first of them, and one that is still going on when the
next is due only delays the next to its own end.  Every cycle begins at the very instant at which it
is due, as long as the poller is not told to stop.

The invariant is `Poller.OnSchedule`.  A poller that waits knows an instant `due` on its grid, which
may have passed already; the next cycle is due at the later one of `due` and the end of the last
cycle, and the clock never goes beyond that while the poller waits, for time passes only where no
task can take a step.
-/

namespace Messaging

/-- The cycle number `k` is due at this instant, where the first one is due at `first` and the
cycles so far ended at the instants `ends`. -/
inductive PollerSettings.Due (s : PollerSettings) (first : Nat) (ends : List Nat) : Nat → Nat → Prop
  /-- The first cycle. -/
  | first : Due s first ends 0 first
  /-- With a fixed delay, a cycle is due an interval after the end of the one before. -/
  | delayed {k last : Nat} (hmode : s.fixedRate = false) (hlast : ends[k]? = some last) :
      Due s first ends (k + 1) (last + s.interval)
  /-- At a fixed rate, a cycle is due at its place on the grid, or when the one before ends if that
  is later. -/
  | onGrid {k last : Nat} (hmode : s.fixedRate = true) (hlast : ends[k]? = some last) :
      Due s first ends (k + 1) (max (first + (k + 1) * s.interval) last)

namespace PollerSettings.Due

variable {s : PollerSettings} {first k instant instant' : Nat} {ends : List Nat}

theorem unique (h : s.Due first ends k instant) (h' : s.Due first ends k instant') :
    instant = instant' := by
  cases h with
  | first =>
    cases h' with
    | first => rfl
  | delayed hmode hlast =>
    cases h' with
    | delayed _ hlast' => rw [Option.some.inj (hlast.symm.trans hlast')]
    | onGrid hmode' => cases hmode.symm.trans hmode'
  | onGrid hmode hlast =>
    cases h' with
    | delayed hmode' => cases hmode.symm.trans hmode'
    | onGrid _ hlast' => rw [Option.some.inj (hlast.symm.trans hlast')]

/-- When a cycle is due only depends on the cycles before. -/
theorem append (h : s.Due first ends k instant) (more : List Nat) :
    s.Due first (ends ++ more) k instant := by
  have keep : ∀ {k last : Nat}, ends[k]? = some last → (ends ++ more)[k]? = some last := by
    intro k last hlast
    rw [List.getElem?_append_left (List.getElem?_eq_some_iff.mp hlast).1, hlast]
  cases h with
  | first => exact .first
  | delayed hmode hlast => exact .delayed hmode (keep hlast)
  | onGrid hmode hlast => exact .onGrid hmode (keep hlast)

theorem le_length (h : s.Due first ends k instant) : k ≤ ends.length := by
  cases h with
  | first => exact Nat.zero_le _
  | delayed _ hlast => exact (List.getElem?_eq_some_iff.mp hlast).1
  | onGrid _ hlast => exact (List.getElem?_eq_some_iff.mp hlast).1

/-- When a cycle ends, the next one is due at the later one of this instant and the one that the
poller notes down. -/
theorem exists_next {noted : Nat} (now : Nat)
    (hgrid : s.fixedRate = true → noted = first + ends.length * s.interval) :
    ∃ next, s.Due first (ends ++ [now]) (ends.length + 1) next ∧ s.nextDue noted now ≤ next ∧
      now ≤ next ∧ next ≤ max (s.nextDue noted now) now ∧
      (s.fixedRate = true → s.nextDue noted now = first + (ends.length + 1) * s.interval) := by
  have hlast : (ends ++ [now])[ends.length]? = some now := List.getElem?_concat_length
  cases hmode : s.fixedRate with
  | false =>
    have hnext : s.nextDue noted now = now + s.interval := if_neg (Bool.eq_false_iff.mp hmode)
    rw [hnext]
    refine ⟨_, .delayed hmode hlast, Nat.le_refl _, Nat.le_add_right _ _, Nat.le_max_left _ _, ?_⟩
    rintro ⟨⟩
  | true =>
    have hnext : s.nextDue noted now = first + (ends.length + 1) * s.interval := by
      rw [PollerSettings.nextDue, if_pos hmode, hgrid hmode, Nat.succ_mul, Nat.add_assoc]
    rw [hnext]
    exact ⟨_, .onGrid hmode hlast, Nat.le_max_left _ _, Nat.le_max_right _ _, Nat.le_refl _,
      fun _ ↦ rfl⟩

end PollerSettings.Due

namespace Poller

/-! ## The invariant -/

/-- Where a poller stands after its cycles so far, if it keeps its schedule. -/
inductive Stage (p : Poller) (first now : Nat) (starts ends : List Nat) : Prop
  /-- It waits for its next cycle, and is not late for it. -/
  | waiting {due next : Nat} (hp : p.phase = .waiting due) (hlen : starts.length = ends.length)
      (hgrid : p.consumer.settings.fixedRate = true →
        due = first + ends.length * p.consumer.settings.interval)
      (hnext : p.consumer.settings.Due first ends ends.length next) (hdue : due ≤ next)
      (hnow : now ≤ next) (hlate : next ≤ max due now)
  /-- It is in a cycle. -/
  | polling {due count : Nat} (hp : p.phase = .polling due count)
      (hlen : starts.length = ends.length + 1)
      (hgrid : p.consumer.settings.fixedRate = true →
        due = first + ends.length * p.consumer.settings.interval)
  /-- It was told to stop, and has come to its end. -/
  | finished (hp : p.phase = .finished) (hstop : p.stopping = true)

/-- A poller keeps its schedule: its cycles so far began at these instants, when they were due, and
ended at those. -/
structure OnSchedule (p : Poller) (first now : Nat) (starts ends : List Nat) : Prop where
  begun : ∀ {k start : Nat}, starts[k]? = some start →
    p.consumer.settings.Due first ends k start ∧ start ≤ now
  ended : ∀ {k last : Nat}, ends[k]? = some last →
    ∃ start, starts[k]? = some start ∧ start ≤ last
  stage : p.Stage first now starts ends

variable {p p' : Poller} {first now : Nat} {starts ends : List Nat}

private theorem getElem?_concat_eq_some {l : List Nat} {x y k : Nat}
    (h : (l ++ [x])[k]? = some y) : l[k]? = some y ∨ k = l.length ∧ x = y := by
  rcases Nat.lt_trichotomy k l.length with hlt | rfl | hgt
  · exact .inl (by rwa [List.getElem?_append_left hlt] at h)
  · rw [List.getElem?_concat_length] at h
    exact .inr ⟨rfl, Option.some.inj h⟩
  · have hle : (l ++ [x]).length ≤ k := by
      rw [List.length_append, List.length_singleton]
      exact hgt
    rw [List.getElem?_eq_none hle] at h
    cases h

/-- A cycle that begins when it is due keeps the schedule. -/
theorem OnSchedule.beginCycle {due : Nat} (h : p.OnSchedule first now starts ends)
    (hp : p.phase = .waiting due) (hdue : due ≤ now) (count : Nat) :
    (p.during due (.going count) now).OnSchedule first now (starts ++ [now]) ends := by
  obtain @⟨_, next, hp', hlen, hgrid, hnext, -, hnow, hlate⟩ | ⟨hp', -⟩ | ⟨hp', -⟩ := h.stage
  · obtain rfl := Phase.waiting.inj (hp.symm.trans hp')
    -- The poller does not wake before `next`, and the clock has not gone beyond it.
    have heq : next = now := by omega
    refine ⟨?_, ?_, .polling rfl ?_ hgrid⟩
    · intro k start hstart
      rcases getElem?_concat_eq_some hstart with hstart | ⟨rfl, rfl⟩
      · exact h.begun hstart
      · rw [hlen]
        exact ⟨heq ▸ hnext, Nat.le_refl _⟩
    · intro k last hlast
      obtain ⟨start, hstart, hle⟩ := h.ended hlast
      refine ⟨start, ?_, hle⟩
      rw [List.getElem?_append_left (List.getElem?_eq_some_iff.mp hstart).1, hstart]
    · rw [List.length_append, List.length_singleton, hlen]
  · cases hp.symm.trans hp'
  · cases hp.symm.trans hp'

/-- A cycle that goes on keeps the schedule. -/
theorem OnSchedule.goOn {due count : Nat} (h : p.OnSchedule first now starts ends)
    (hp : p.phase = .polling due count) (count' : Nat) :
    (p.during due (.going count') now).OnSchedule first now starts ends := by
  obtain ⟨hp', -⟩ | ⟨hp', hlen, hgrid⟩ | ⟨hp', -⟩ := h.stage
  · cases hp.symm.trans hp'
  · obtain ⟨rfl, -⟩ := Phase.polling.inj (hp.symm.trans hp')
    exact ⟨h.begun, h.ended, .polling rfl hlen hgrid⟩
  · cases hp.symm.trans hp'

/-- When a cycle ends, the next one is due on the grid or after the delay. -/
theorem OnSchedule.endCycle {due count : Nat} (h : p.OnSchedule first now starts ends)
    (hp : p.phase = .polling due count) (count' : Nat) :
    (p.during due (.complete count') now).OnSchedule first now starts (ends ++ [now]) := by
  obtain ⟨hp', -⟩ | ⟨hp', hlen, hgrid⟩ | ⟨hp', -⟩ := h.stage
  · cases hp.symm.trans hp'
  · obtain ⟨rfl, -⟩ := Phase.polling.inj (hp.symm.trans hp')
    have hlength : (ends ++ [now]).length = ends.length + 1 := by simp
    obtain ⟨next, hnext, hdue, hnow, hlate, hgrid'⟩ :=
      PollerSettings.Due.exists_next now hgrid
    refine ⟨fun hstart ↦ ⟨(h.begun hstart).1.append _, (h.begun hstart).2⟩, ?_, ?_⟩
    · intro k last hlast
      rcases getElem?_concat_eq_some hlast with hlast | ⟨rfl, rfl⟩
      · exact h.ended hlast
      · have hlt : ends.length < starts.length := by omega
        have hstart := List.getElem?_eq_getElem hlt
        exact ⟨_, hstart, (h.begun hstart).2⟩
    · refine .waiting rfl (hlen.trans hlength.symm) ?_ ?_ hdue hnow hlate
      · rw [hlength]
        exact hgrid'
      · rw [hlength]
        exact hnext
  · cases hp.symm.trans hp'

/-- Whatever turn a poller takes, it keeps its schedule. -/
theorem OnSchedule.turn {task : TaskId} {events : List Event}
    (hpos : 0 < p.consumer.settings.interval) (h : p.OnSchedule first now starts ends)
    (ht : p.Turn task now events p') :
    p'.OnSchedule first now
      (starts ++ (Event.entries now events).reverse.filterMap Entry.began?)
      (ends ++ (Event.entries now events).reverse.filterMap Entry.ended?) := by
  cases ht with
  | broken _ _ _ hzero => exact (Nat.ne_of_gt hpos hzero).elim
  | finished hp hdue hstop =>
    simp only [Event.entries_nil, List.reverse_nil, List.filterMap_nil, List.append_nil]
    exact ⟨h.begun, h.ended, .finished rfl hstop⟩
  | begun hp hdue _ hmarks =>
    have hbegan := h.beginCycle hp hdue
    cases hmarks with
    | called count => simpa [Entry.began?, Entry.ended?, List.filterMap_cons] using hbegan count
    | stuck count => simpa [Entry.began?, Entry.ended?, List.filterMap_cons] using hbegan count
    | ended count =>
      simpa [Entry.began?, Entry.ended?, List.filterMap_cons] using (hbegan 0).endCycle rfl count
  | resumed hp hmarks =>
    cases hmarks with
    | called count => simpa [Entry.began?, Entry.ended?, List.filterMap_cons] using h.goOn hp count
    | stuck count => simpa [Entry.began?, Entry.ended?, List.filterMap_cons] using h.goOn hp count
    | ended count =>
      simpa [Entry.began?, Entry.ended?, List.filterMap_cons] using h.endCycle hp count

/-- While a poller waits, time passes until its next cycle is due, and not beyond. -/
theorem OnSchedule.wait {instant : Nat} (h : p.OnSchedule first now starts ends)
    (hlater : now ≤ instant)
    (hwait : ∀ due, p.phase = .waiting due → now < due ∧ instant ≤ due) :
    p.OnSchedule first instant starts ends := by
  refine ⟨fun hstart ↦ ⟨(h.begun hstart).1, Nat.le_trans (h.begun hstart).2 hlater⟩, h.ended, ?_⟩
  obtain ⟨hp, hlen, hgrid, hnext, hdue, hnow, hlate⟩ | ⟨hp, hlen, hgrid⟩ | ⟨hp, hstop⟩ := h.stage
  · obtain ⟨hlt, hle⟩ := hwait _ hp
    exact .waiting hp hlen hgrid hnext hdue (by omega) (by omega)
  · exact .polling hp hlen hgrid
  · exact .finished hp hstop

theorem OnSchedule.stop (h : p.OnSchedule first now starts ends) :
    ({ p with stopping := true } : Poller).OnSchedule first now starts ends := by
  refine ⟨h.begun, h.ended, ?_⟩
  obtain ⟨hp, hlen, hgrid, hnext, hdue, hnow, hlate⟩ | ⟨hp, hlen, hgrid⟩ | ⟨hp, hstop⟩ := h.stage
  · exact .waiting hp hlen hgrid hnext hdue hnow hlate
  · exact .polling hp hlen hgrid
  · exact .finished hp rfl

/-- A poller that was not told to stop begins the cycle that is due no later than it is due. -/
theorem OnSchedule.getElem?_starts {k instant : Nat} (h : p.OnSchedule first now starts ends)
    (hstop : p.stopping = false) (hinstant : p.consumer.settings.Due first ends k instant)
    (hpast : instant < now ∨ instant ≤ now ∧ ∀ due, p.phase = .waiting due → now < due) :
    starts[k]? = some instant := by
  rcases Nat.lt_or_ge k starts.length with hlt | hge
  · have hstart := List.getElem?_eq_getElem hlt
    rw [hstart, hinstant.unique (h.begun hstart).1]
  · have hle := hinstant.le_length
    obtain ⟨hp, hlen, -, hnext, hdue, hnow, -⟩ | ⟨-, hlen, -⟩ | ⟨-, hstop'⟩ := h.stage
    · obtain rfl : k = ends.length := by omega
      obtain rfl := hinstant.unique hnext
      rcases hpast with hlt | ⟨hle, hwait⟩
      · omega
      · have := hwait _ hp
        omega
    · omega
    · cases hstop.symm.trans hstop'

end Poller

/-! ## Runs -/

namespace System

variable {s t : System} {c : Consumer} {stopping : Bool}

/-- A poller keeps its schedule from the moment it is started. -/
theorem Reaches.onSchedule (hs : s.Reachable) (hpos : 0 < c.settings.interval)
    (run : (s.spawn c stopping).Reaches t) :
    ∃ p, t.tasks[s.nextTask]? = some (.poller p) ∧ p.consumer = c ∧
      p.OnSchedule (s.clock + c.settings.initialDelay) t.clock (t.broker.starts s.nextTask)
        (t.broker.ends s.nextTask) := by
  unfold Reaches at run
  induction run with
  | refl =>
    have hdiary : s.broker.diary s.nextTask = [] := hs.diary_eq_nil (Nat.le_refl _)
    have hstarts : s.broker.starts s.nextTask = [] := by rw [Broker.starts, hdiary]; rfl
    have hends : s.broker.ends s.nextTask = [] := by rw [Broker.ends, hdiary]; rfl
    refine ⟨_, List.getElem?_concat_length, rfl, ?_⟩
    show Poller.OnSchedule _ _ s.clock (s.broker.starts s.nextTask) (s.broker.ends s.nextTask)
    rw [hstarts, hends]
    refine ⟨by simp, by simp, .waiting rfl rfl (fun _ ↦ ?_) .first ?_ ?_ ?_⟩
    · simp
    · exact Nat.le_refl _
    · exact Nat.le_add_right _ _
    · exact Nat.le_max_left _ _
  | tail _ move ih =>
    obtain ⟨p, hp, rfl, hsched⟩ := ih
    rcases move.cases_at_poller hp with ⟨p', events, hp', hturn, hdiary, hclock, -⟩ |
      ⟨instant, hsettled, hlater, hnext, rfl⟩ | ⟨hclock, hdiary, p', hp', hsame⟩
    · refine ⟨p', hp', hturn.consumer_eq, ?_⟩
      rw [Broker.starts_of_diary_eq hdiary, Broker.ends_of_diary_eq hdiary, hclock]
      exact hsched.turn hpos hturn
    · refine ⟨p, hp, rfl, hsched.wait (Nat.le_of_lt hlater) fun due hwait ↦ ?_⟩
      have hlt := hsettled.lt_due hp hwait
      exact ⟨hlt, hnext due (mem_dues_of_waiting hp hwait) hlt⟩
    · rw [hclock, Broker.starts, Broker.ends, hdiary]
      rcases hsame with rfl | rfl
      · exact ⟨_, hp', rfl, hsched⟩
      · exact ⟨_, hp', rfl, hsched.stop⟩

/-- From when a poller is started with an interval that is not zero, in every run and however long
its cycles last: each cycle begins when it is due, which is an interval after the end of the cycle
before, or at the later one of that end and the cycle's place on the grid; each that ends has begun;
and each that is due begins by then, unless the poller was told to stop. -/
theorem cycles_begin_when_due (hs : s.Reachable) (hpos : 0 < c.settings.interval)
    (run : (s.spawn c stopping).Reaches t) :
    let task := s.nextTask
    let first := s.clock + c.settings.initialDelay
    let starts := t.broker.starts task
    let ends := t.broker.ends task
    ∃ p, t.tasks[task]? = some (.poller p) ∧ p.consumer = c ∧
      (∀ k start : Nat, starts[k]? = some start → c.settings.Due first ends k start) ∧
      (∀ k last : Nat, ends[k]? = some last →
        ∃ start, starts[k]? = some start ∧ start ≤ last) ∧
      (p.stopping = false → ∀ k instant : Nat, c.settings.Due first ends k instant →
        (instant < t.clock ∨ instant ≤ t.clock ∧ t.Settled) → starts[k]? = some instant) := by
  intro task first starts ends
  obtain ⟨p, hp, rfl, hsched⟩ := run.onSchedule hs hpos
  refine ⟨p, hp, rfl, fun k start h ↦ (hsched.begun h).1, fun k last h ↦ hsched.ended h, ?_⟩
  intro hstop k instant hinstant hpast
  refine hsched.getElem?_starts hstop hinstant ?_
  rcases hpast with hlt | ⟨hle, hsettled⟩
  · exact .inl hlt
  · exact .inr ⟨hle, fun due hwait ↦ hsettled.lt_due hp hwait⟩

/-- A cycle at a fixed rate of ten milliseconds waits twelve of them for a message, so the next one
begins two milliseconds late. -/
theorem cycles_begin_when_due_of_late_cycle :
    let binder : Binder :=
      ⟨"ship", [⟨0, .value, none, none, false, false⟩], [.payload], some 0, none, none⟩
    let c : Consumer :=
      { input := 0
        endpoint := { label := "ship", binder := binder, handler := fun _ _ ↦ .ok none }
        settings :=
          { interval := 10, initialDelay := 5, fixedRate := true, receiveTimeout := 12 } }
    let q : Queue := { name := "orders", capacity := 1 }
    let s : System := ({} : System).withBroker (({} : Broker).addQueue q)
    s.Reachable ∧ 0 < c.settings.interval ∧ ∃ t, (s.spawn c false).Reaches t ∧
      t.broker.starts 0 = [5, 17] ∧ t.broker.ends 0 = [17] ∧ c.settings.Due 5 [17] 1 17 := by
  intro binder c q s
  have hq : Queue.create "orders" 1 = .ok q := rfl
  have hs : s.Reachable := .single (.create {} hq)
  have first : (s.spawn c false).Reaches (atInstant _ 5) :=
    .single (.wait (settled_iff_ready?.mpr rfl) (by decide) (by decide))
  have slow := first.tail (.step 0 rfl)
  have late : (s.spawn c false).Reaches (atInstant _ 17) :=
    slow.tail (.wait (settled_iff_ready?.mpr rfl) (by decide) (by decide))
  have run := (late.tail (.step 0 rfl)).tail (.step 0 rfl)
  obtain ⟨_, -, -, hbegun, -⟩ := cycles_begin_when_due hs (by decide) run
  exact ⟨hs, by decide, _, run, rfl, rfl, hbegun 1 17 rfl⟩

end System

end Messaging
