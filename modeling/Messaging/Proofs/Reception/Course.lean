import Messaging.Reception

/-!
# The course of a receive call

Whatever a reception does, it agrees with the line and the turn of its queue: the calls are those of
the line, in the same order, and the call that holds the lock has the turn.  What is more, that call
never sleeps for too long.  As long as it sleeps, there is no message, and no signal has reached it;
and if the queue was closed in the meantime, then the signal is still to come, because the call had
registered before it looked whether the queue was closed.

So when the call ends, it is with what the queue gives whoever has the turn, and whoever has the
turn and could end it is awake or about to be woken.

`Holder.Sound` is the invariant of the call that holds the lock, and `Reception.Fits` that of the
reception as a whole.  There is a lemma for each thing that can happen to a queue and its reception.
-/

namespace Messaging

/-! ## The invariant -/

/-- What holds of the call that holds the lock, as long as so many closings have yet to give their
signal. -/
structure Holder.Sound (h : Holder) (q : Queue) (signals now : Nat) : Prop where
  /-- Before it waits, no time has passed since it took the lock, and it does not sleep. -/
  turn_eq : h.deadline? = none → q.turn = now ∧ h.awake = true
  /-- Its deadline is that of the turn. -/
  deadline_eq : ∀ deadline, h.deadline? = some deadline → deadline = q.turn + h.waiter.timeout
  /-- While it registers and checks, there is still no message. -/
  items_eq_nil : h.isMidway = true → q.items = []
  /-- While it sleeps, there is nothing to be woken for. -/
  asleep : h.awake = false → q.items = [] ∧ h.signalled = false
  /-- Only a closing has given it a signal. -/
  closed_of_signalled : h.signalled = true → q.closed = true
  /-- If the queue is closed while it waits, the signal has come or is still to come. -/
  informed : h.deadline?.isSome = true → q.closed = true → h.signalled = true ∨ 0 < signals

/-- The reception belongs to this queue. -/
structure Reception.Fits (r : Reception) (q : Queue) (now : Nat) : Prop where
  calls_eq : r.calls = q.line
  /-- Nobody stands in line for a lock that is free. -/
  line_eq_nil : r.holder = none → r.line = []
  /-- Signals are given by closings only. -/
  closed_of_signals : 0 < r.signals → q.closed = true
  sound : ∀ h, r.holder = some h → h.Sound q r.signals now

/-! ## The call that holds the lock -/

namespace Holder

variable {h h' : Holder} {q q' : Queue} {first : Branch} {signals now : Nat}

/-- A call has just taken the lock. -/
theorem sound_taken (w : Waiter) (hturn : q.turn = now) :
    ({ waiter := w } : Holder).Sound q signals now where
  turn_eq := fun _ ↦ ⟨hturn, rfl⟩
  deadline_eq := nofun
  items_eq_nil := nofun
  asleep := nofun
  closed_of_signalled := nofun
  informed := nofun

/-- Whichever branch ends a wait, it takes the first message; without any there is a reason to
end. -/
theorem poll_eq_some {items rest : List Message} {deadline : Nat} {branch : Branch}
    {got : Option Message} (h : Holder)
    (hpoll : h.poll items deadline now branch = some (got, rest)) :
    got = items.head? ∧ rest = items.tail ∧
      (items = [] → deadline ≤ now ∨ h.signalled = true) := by
  cases branch with
  | message =>
    cases items with
    | cons m items =>
      cases hpoll
      exact ⟨rfl, rfl, nofun⟩
    | nil =>
      simp only [poll] at hpoll
      split at hpoll
      · rename_i hle
        cases hpoll
        exact ⟨rfl, rfl, fun _ ↦ .inl hle⟩
      · cases hpoll
  | signal =>
    simp only [poll] at hpoll
    split at hpoll
    · rename_i hsignalled
      cases hpoll
      exact ⟨rfl, rfl, fun _ ↦ .inr hsignalled⟩
    · cases hpoll

/-- A branch of the wait ends the turn as the queue does. -/
theorem Sound.serve_of_poll (hs : h.Sound q signals now) (hhead : q.line.head? = some h.waiter)
    {deadline : Nat} (hd : h.deadline? = some deadline) {branch : Branch} {got : Option Message}
    {rest : List Message} (hpoll : h.poll q.items deadline now branch = some (got, rest)) :
    q.serve now = some (h.waiter, got, { q.passTurn now with items := rest }) := by
  obtain ⟨rfl, rfl, hreason⟩ := h.poll_eq_some hpoll
  refine Queue.serve_eq_some_iff.mpr ⟨hhead, ?_⟩
  cases hitems : q.items with
  | cons m items => exact .inl ⟨m, items, rfl, rfl, rfl⟩
  | nil =>
    refine .inr ⟨rfl, ?_, rfl, by rw [Queue.passTurn, hitems]; rfl⟩
    rcases hreason hitems with hle | hsignalled
    · exact .inr (hs.deadline_eq deadline hd ▸ hle)
    · exact .inl (hs.closed_of_signalled hsignalled)

/-- When a call ends, it ends as the turn does. -/
theorem Sound.serve_of_ends (hs : h.Sound q signals now) (hhead : q.line.head? = some h.waiter)
    {got : Option Message} {rest : List Message}
    (hnext : h.next first q.items q.closed now = .ends got rest) :
    q.serve now = some (h.waiter, got, { q.passTurn now with items := rest }) := by
  cases hstage : h.stage with
  | looking =>
    cases hitems : q.items with
    | nil => simp [next, hstage, hitems] at hnext
    | cons m items =>
      simp only [next, hstage, hitems] at hnext
      cases hnext
      exact Queue.serve_eq_some_iff.mpr ⟨hhead, .inl ⟨m, _, hitems, rfl, rfl⟩⟩
  | registering => simp [next, hstage] at hnext
  | checking =>
    simp only [next, hstage] at hnext
    split at hnext
    · rename_i hclosed
      cases hnext
      have hitems : q.items = [] := hs.items_eq_nil (by rw [isMidway, hstage]; rfl)
      exact Queue.serve_eq_some_iff.mpr ⟨hhead, .inr ⟨hitems, .inl hclosed, rfl, rfl⟩⟩
    · cases hnext
  | waiting deadline =>
    have hd : h.deadline? = some deadline := by rw [deadline?, hstage]
    simp only [next, hstage] at hnext
    split at hnext
    · rename_i got' rest' hpoll
      cases hnext
      rcases Option.or_eq_some_iff.mp hpoll with hp | ⟨-, hp⟩
      · exact hs.serve_of_poll hhead hd hp
      · exact hs.serve_of_poll hhead hd hp
    · cases hnext

theorem poll_eq_none_iff {items : List Message} {deadline : Nat} :
    (h.poll items deadline now first).or (h.poll items deadline now first.other) = none ↔
      items = [] ∧ now < deadline ∧ h.signalled = false := by
  have hmessage : h.poll items deadline now .message = none ↔ items = [] ∧ now < deadline := by
    cases items <;> simp [poll]
  have hsignal : h.poll items deadline now .signal = none ↔ h.signalled = false := by
    simp [poll]
  rw [Option.or_eq_none_iff]
  cases first with
  | message => rw [Branch.other, hmessage, hsignal, and_assoc]
  | signal => rw [Branch.other, hmessage, hsignal, and_comm, and_assoc]

/-- A call that has not ended keeps to the invariant. -/
theorem Sound.goes (hs : h.Sound q signals now)
    (hnext : h.next first q.items q.closed now = .goes h') :
    h'.waiter = h.waiter ∧ h'.Sound q signals now := by
  cases hstage : h.stage with
  | looking =>
    obtain ⟨hturn, hawake⟩ := hs.turn_eq (by rw [deadline?, hstage])
    cases hitems : q.items with
    | cons m items => simp [next, hstage, hitems] at hnext
    | nil =>
      simp only [next, hstage, hitems] at hnext
      cases hnext
      exact ⟨rfl, fun _ ↦ ⟨hturn, hawake⟩, nofun, fun _ ↦ hitems, hs.asleep,
        hs.closed_of_signalled, nofun⟩
  | registering =>
    obtain ⟨hturn, hawake⟩ := hs.turn_eq (by rw [deadline?, hstage])
    have hitems := hs.items_eq_nil (by rw [isMidway, hstage]; rfl)
    simp only [next, hstage] at hnext
    cases hnext
    exact ⟨rfl, fun _ ↦ ⟨hturn, hawake⟩, nofun, fun _ ↦ hitems, hs.asleep,
      hs.closed_of_signalled, nofun⟩
  | checking =>
    obtain ⟨hturn, hawake⟩ := hs.turn_eq (by rw [deadline?, hstage])
    simp only [next, hstage] at hnext
    split at hnext
    · cases hnext
    · -- The queue is open, and every closing from here on finds the call registered.
      rename_i hopen
      cases hnext
      refine ⟨rfl, nofun, ?_, nofun, hs.asleep, hs.closed_of_signalled,
        fun _ hclosed ↦ (hopen hclosed).elim⟩
      rintro deadline ⟨⟩
      rw [hturn]
  | waiting deadline =>
    have hd : h.deadline? = some deadline := by rw [deadline?, hstage]
    simp only [next, hstage] at hnext
    split at hnext
    · cases hnext
    · rename_i hpoll
      cases hnext
      obtain ⟨hitems, -, hsignalled⟩ := poll_eq_none_iff.mp hpoll
      exact ⟨rfl, nofun, fun d hd' ↦ hs.deadline_eq d (hd.trans hd'), nofun,
        fun _ ↦ ⟨hitems, hsignalled⟩, hs.closed_of_signalled, fun _ ↦ hs.informed (by rw [hd]; rfl)⟩

/-- A call that sleeps has nothing to miss, apart from its deadline and a signal that is still to
come. -/
theorem Sound.idle (hs : h.Sound q signals now) (hready : h.isReady now = false) :
    q.items = [] ∧ now < q.turn + h.waiter.timeout ∧ (q.closed = true → 0 < signals) := by
  obtain ⟨hasleep, hlate⟩ := Bool.or_eq_false_iff.mp hready
  obtain ⟨hitems, hsignalled⟩ := hs.asleep hasleep
  cases hd : h.deadline? with
  | none => cases hasleep.symm.trans (hs.turn_eq hd).2
  | some deadline =>
    have hlater : now < deadline := by simpa [hd] using hlate
    refine ⟨hitems, hs.deadline_eq deadline hd ▸ hlater, fun hclosed ↦ ?_⟩
    refine (hs.informed (by rw [hd]; rfl) hclosed).resolve_left fun h' ↦ ?_
    cases hsignalled.symm.trans h'

/-! ### What happens to its queue -/

/-- A message was accepted, while the call was neither registering nor checking. -/
theorem Sound.wake (hs : h.Sound q signals now) (hfree : h.isMidway = false)
    (hturn : q'.turn = q.turn) (hclosed : q'.closed = q.closed) :
    ({ h with awake := true } : Holder).Sound q' signals now where
  turn_eq := fun hd ↦ ⟨hturn.trans (hs.turn_eq hd).1, rfl⟩
  deadline_eq := fun deadline hd ↦ hturn ▸ hs.deadline_eq deadline hd
  items_eq_nil := fun hmidway ↦ (Bool.false_ne_true (hfree.symm.trans hmidway)).elim
  asleep := nofun
  closed_of_signalled := fun hsignalled ↦ hclosed ▸ hs.closed_of_signalled hsignalled
  informed := fun hd hclosed' ↦ hs.informed hd (hclosed ▸ hclosed')

/-- Nothing that concerns the call happened to its queue. -/
theorem Sound.of_eq (hs : h.Sound q signals now) (hturn : q'.turn = q.turn)
    (hclosed : q'.closed = q.closed) (hitems : q'.items = q.items) : h.Sound q' signals now where
  turn_eq := fun hd ↦ ⟨hturn.trans (hs.turn_eq hd).1, (hs.turn_eq hd).2⟩
  deadline_eq := fun deadline hd ↦ hturn ▸ hs.deadline_eq deadline hd
  items_eq_nil := fun hmidway ↦ hitems.trans (hs.items_eq_nil hmidway)
  asleep := fun hasleep ↦ ⟨hitems.trans (hs.asleep hasleep).1, (hs.asleep hasleep).2⟩
  closed_of_signalled := fun hsignalled ↦ hclosed ▸ hs.closed_of_signalled hsignalled
  informed := fun hd hclosed' ↦ hs.informed hd (hclosed ▸ hclosed')

theorem Sound.close (hs : h.Sound q signals now) : h.Sound q.close (signals + 1) now where
  turn_eq := hs.turn_eq
  deadline_eq := hs.deadline_eq
  items_eq_nil := hs.items_eq_nil
  asleep := hs.asleep
  closed_of_signalled := fun _ ↦ rfl
  informed := fun _ _ ↦ .inr signals.succ_pos

/-- A signal was given: a call that waits has registered, and so it has been reached. -/
theorem Sound.signal (hs : h.Sound q signals now) (hclosed : q.closed = true) :
    h.signal.Sound q (signals - 1) now := by
  unfold Holder.signal
  split
  · exact ⟨fun hd ↦ ⟨(hs.turn_eq hd).1, rfl⟩, hs.deadline_eq, hs.items_eq_nil, nofun,
      fun _ ↦ hclosed, fun _ _ ↦ .inl rfl⟩
  · rename_i hregistered
    refine ⟨hs.turn_eq, hs.deadline_eq, hs.items_eq_nil, hs.asleep, hs.closed_of_signalled,
      fun hd ↦ ?_⟩
    cases hstage : h.stage with
    | waiting deadline => simp [isRegistered, hstage] at hregistered
    | looking | registering | checking => simp [deadline?, hstage] at hd

/-- Time passes only where the call waits. -/
theorem Sound.later (hs : h.Sound q signals now) (hwaits : h.deadline?.isSome = true)
    (later : Nat) : h.Sound q signals later where
  turn_eq := by
    intro hd
    rw [hd] at hwaits
    cases hwaits
  deadline_eq := hs.deadline_eq
  items_eq_nil := hs.items_eq_nil
  asleep := hs.asleep
  closed_of_signalled := hs.closed_of_signalled
  informed := hs.informed

end Holder

/-! ## The reception as a whole -/

namespace Reception

variable {r : Reception} {q q' : Queue} {h h' : Holder} {first : Branch} {now : Nat}

theorem calls_eq_cons (hholder : r.holder = some h) : r.calls = h.waiter :: r.line := by
  rw [calls, hholder]
  rfl

theorem calls_eq_nil_iff (hfits : r.Fits q now) : r.calls = [] ↔ r.holder = none := by
  cases hholder : r.holder with
  | none => simp [calls, hholder, hfits.line_eq_nil hholder]
  | some h => simp [calls_eq_cons hholder]

theorem fits_new (hline : q.line = []) (now : Nat) : ({} : Reception).Fits q now where
  calls_eq := hline.symm
  line_eq_nil := fun _ ↦ rfl
  closed_of_signals := fun hpos ↦ (Nat.lt_irrefl 0 hpos).elim
  sound := nofun

namespace Fits

/-- The call that holds the lock is the first of the line. -/
theorem head?_eq (hfits : r.Fits q now) (hholder : r.holder = some h) :
    q.line.head? = some h.waiter := by
  rw [← hfits.calls_eq, calls_eq_cons hholder, List.head?_cons]

/-- The first of the line holds the lock. -/
theorem exists_holder (hfits : r.Fits q now) {w : Waiter} (hhead : q.line.head? = some w) :
    ∃ h, r.holder = some h ∧ h.waiter = w := by
  cases hholder : r.holder with
  | none =>
    rw [← hfits.calls_eq, (calls_eq_nil_iff hfits).mpr hholder] at hhead
    cases hhead
  | some h =>
    rw [hfits.head?_eq hholder] at hhead
    exact ⟨h, rfl, Option.some.inj hhead⟩

theorem goes (hfits : r.Fits q now) (hholder : r.holder = some h)
    (hnext : h.next first q.items q.closed now = .goes h') :
    ({ r with holder := some h' } : Reception).Fits q now := by
  obtain ⟨hwaiter, hsound⟩ := (hfits.sound h hholder).goes hnext
  refine ⟨?_, nofun, hfits.closed_of_signals, ?_⟩
  · rw [← hfits.calls_eq, calls_eq_cons hholder, ← hwaiter]
    rfl
  · rintro _ ⟨⟩
    exact hsound

theorem call (hfits : r.Fits q now) {w : Waiter} (hw : w.called = now) :
    (r.call w).Fits (q.enter w) now := by
  cases hholder : r.holder with
  | none =>
    have hline : q.line = [] := hfits.calls_eq.symm.trans ((calls_eq_nil_iff hfits).mpr hholder)
    have hcall : r.call w = { r with holder := some { waiter := w } } := by
      rw [Reception.call, hholder]
    rw [hcall]
    refine ⟨?_, nofun, hfits.closed_of_signals, ?_⟩
    · rw [Queue.enter, hline, calls_eq_cons rfl, hfits.line_eq_nil hholder]
      rfl
    · rintro _ ⟨⟩
      refine Holder.sound_taken w ?_
      rw [Queue.enter, hline]
      exact hw
  | some h =>
    have hcall : r.call w = { r with line := r.line ++ [w] } := by
      rw [Reception.call, hholder]
    have hline : q.line = h.waiter :: r.line := hfits.calls_eq.symm.trans (calls_eq_cons hholder)
    rw [hcall]
    refine ⟨?_, fun hnone ↦ ?_, hfits.closed_of_signals, fun h' hh' ↦ ?_⟩
    · show (r.holder.map Holder.waiter).toList ++ (r.line ++ [w]) = q.line ++ [w]
      rw [← hfits.calls_eq, calls, List.append_assoc]
    · cases hholder.symm.trans hnone
    · refine (hfits.sound h' hh').of_eq ?_ rfl rfl
      rw [Queue.enter, hline]
      rfl

/-- A call has ended, and the next one has the turn. -/
theorem release (hfits : r.Fits q now) (items : List Message) :
    r.release.Fits { q.passTurn now with items } now where
  calls_eq := by
    show r.release.calls = q.line.tail
    rw [← hfits.calls_eq]
    cases hholder : r.holder with
    | none =>
      rw [(calls_eq_nil_iff hfits).mpr hholder, calls, Reception.release,
        hfits.line_eq_nil hholder]
      rfl
    | some h =>
      rw [calls_eq_cons hholder, calls, Reception.release]
      cases r.line <;> rfl
  line_eq_nil := by
    intro hnone
    have hline : r.line = [] := by simpa [Reception.release] using hnone
    rw [Reception.release, hline]
    rfl
  closed_of_signals := hfits.closed_of_signals
  sound := by
    intro h hh
    obtain ⟨w, -, rfl⟩ := Option.map_eq_some_iff.mp hh
    exact Holder.sound_taken w rfl

/-- The queue has accepted messages; it has not while a call was registering or checking. -/
theorem accept (hfits : r.Fits q now) (ms : List Message)
    (hspares : ∀ h, r.holder = some h → h.isMidway = true → ms = []) :
    (if q.items.length < (q.items ++ ms).length then r.wake else r).Fits
      { q with items := q.items ++ ms } now := by
  cases ms with
  | nil => simpa using hfits
  | cons m ms =>
    rw [if_pos (by simp)]
    refine ⟨?_, fun hnone ↦ ?_, hfits.closed_of_signals, fun h hh ↦ ?_⟩
    · rw [← hfits.calls_eq, calls, calls, Reception.wake, Option.map_map]
      rfl
    · exact hfits.line_eq_nil (Option.map_eq_none_iff.mp hnone)
    · obtain ⟨h₀, hh₀, rfl⟩ := Option.map_eq_some_iff.mp hh
      refine (hfits.sound h₀ hh₀).wake (Bool.eq_false_iff.mpr fun hmidway ↦ ?_) rfl rfl
      cases hspares h₀ hh₀ hmidway

theorem close (hfits : r.Fits q now) : r.close.Fits q.close now where
  calls_eq := hfits.calls_eq
  line_eq_nil := hfits.line_eq_nil
  closed_of_signals := fun _ ↦ rfl
  sound := fun h hh ↦ (hfits.sound h hh).close

theorem signal (hfits : r.Fits q now) (hpos : 0 < r.signals) : r.signal.Fits q now where
  calls_eq := by
    have hwaiter : Holder.waiter ∘ Holder.signal = Holder.waiter := by
      funext h
      show h.signal.waiter = h.waiter
      unfold Holder.signal
      split <;> rfl
    rw [← hfits.calls_eq, calls, calls, Reception.signal, Option.map_map, hwaiter]
  line_eq_nil := fun hnone ↦ hfits.line_eq_nil (Option.map_eq_none_iff.mp hnone)
  closed_of_signals := fun _ ↦ hfits.closed_of_signals hpos
  sound := by
    intro h hh
    obtain ⟨h₀, hh₀, rfl⟩ := Option.map_eq_some_iff.mp hh
    exact (hfits.sound h₀ hh₀).signal (hfits.closed_of_signals hpos)

theorem later (hfits : r.Fits q now)
    (hwaits : ∀ h, r.holder = some h → h.deadline?.isSome = true) (later : Nat) :
    r.Fits q later where
  calls_eq := hfits.calls_eq
  line_eq_nil := hfits.line_eq_nil
  closed_of_signals := hfits.closed_of_signals
  sound := fun h hh ↦ (hfits.sound h hh).later (hwaits h hh) later

end Fits

end Reception

end Messaging
