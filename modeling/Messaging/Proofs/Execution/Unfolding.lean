import Messaging.Proofs.Execution.Run

/-!
# Every run of a system, step by step

Taking receive calls apart rules nothing out.  Whatever a system does, some execution does it, too:
a call whose turn ends takes its steps up to the last one in a row, a closing gives its signal at
once, and before time passes all calls that hold a lock fall asleep.

It suffices to do that from one calm moment to the next.  At such a moment no call is registering or
checking, and every closing has given its signal; so nobody has to be spared then.  A call on its
way comes to its end because every step leaves fewer steps to take, and because the call is awake as
long as its turn can end.
-/

namespace Messaging

/-! ## How many steps a call takes -/

/-- How many steps a call that holds the lock takes at most before it ends or sleeps, if nobody
wakes it. -/
def Holder.left (h : Holder) : Nat :=
  match h.stage with
  | .looking => 4
  | .registering => 3
  | .checking => 2
  | .waiting _ => if h.awake then 1 else 0

namespace Holder

variable {h h' : Holder} {first : Branch} {items rest : List Message} {closed : Bool} {now : Nat}
  {got : Option Message}

theorem left_lt_of_goes (hready : h.isReady now = true)
    (hnext : h.next first items closed now = .goes h') : h'.left < h.left := by
  cases hstage : h.stage with
  | looking =>
    cases items with
    | cons m items => simp [next, hstage] at hnext
    | nil =>
      simp only [next, hstage] at hnext
      cases hnext
      simp [left, hstage]
  | registering =>
    simp only [next, hstage] at hnext
    cases hnext
    simp [left, hstage]
  | checking =>
    simp only [next, hstage] at hnext
    split at hnext
    · cases hnext
    · cases hnext
      simp only [left, hstage]
      split <;> omega
  | waiting deadline =>
    simp only [next, hstage] at hnext
    split at hnext
    · cases hnext
    · rename_i hpoll
      cases hnext
      obtain ⟨-, hlate, -⟩ := poll_eq_none_iff.mp hpoll
      -- Its time is not over, so it was ready because it was awake.
      have hawake : h.awake = true := by
        simpa [isReady, deadline?, hstage, Nat.not_le_of_lt hlate] using hready
      simp [left, hstage, hawake]

/-- A call that ends while it is checking has received nothing, and leaves the messages behind. -/
theorem eq_of_ends_midway (hmidway : h.isMidway = true)
    (hnext : h.next first items closed now = .ends got rest) : got = none ∧ rest = items := by
  cases hstage : h.stage with
  | looking | waiting => simp [isMidway, hstage] at hmidway
  | registering => simp [next, hstage] at hnext
  | checking =>
    simp only [next, hstage] at hnext
    split at hnext
    · cases hnext
      exact ⟨rfl, rfl⟩
    · cases hnext

end Holder

/-! ## Calm moments -/

theorem forall_mem_modify {α : Type} {P : α → Prop} {l : List α} (h : ∀ a ∈ l, P a) (i : Nat)
    {f : α → α} (hf : ∀ a, P a → P (f a)) : ∀ a ∈ l.modify i f, P a := by
  intro a ha
  obtain ⟨j, hj⟩ := List.mem_iff_getElem?.mp ha
  rw [List.getElem?_modify] at hj
  obtain ⟨a₀, ha₀, rfl⟩ := Option.map_eq_some_iff.mp hj
  have hP := h a₀ (List.mem_of_getElem? ha₀)
  split
  · exact hf a₀ hP
  · exact hP

/-- No call is registering or checking, and no closing has yet to give its signal. -/
structure Reception.Calm (r : Reception) : Prop where
  signals_eq : r.signals = 0
  notMidway : ∀ h, r.holder = some h → h.isMidway = false

namespace Reception.Calm

variable {r : Reception}

theorem new : ({} : Reception).Calm := ⟨rfl, nofun⟩

theorem call (hr : r.Calm) (w : Waiter) : (r.call w).Calm := by
  unfold Reception.call
  split
  · refine ⟨hr.signals_eq, ?_⟩
    rintro _ ⟨⟩
    rfl
  · exact ⟨hr.signals_eq, hr.notMidway⟩

theorem wake (hr : r.Calm) : r.wake.Calm := by
  refine ⟨hr.signals_eq, fun h hh ↦ ?_⟩
  obtain ⟨h₀, hh₀, rfl⟩ := Option.map_eq_some_iff.mp hh
  exact hr.notMidway h₀ hh₀

/-- Whoever has just taken the lock has yet to look for a message. -/
theorem release (hr : r.signals = 0) : r.release.Calm := by
  refine ⟨hr, fun h hh ↦ ?_⟩
  obtain ⟨w, -, rfl⟩ := Option.map_eq_some_iff.mp hh
  rfl

theorem close_signal (hr : r.Calm) : r.close.signal.Calm := by
  refine ⟨hr.signals_eq, fun h hh ↦ ?_⟩
  obtain ⟨h₀, hh₀, rfl⟩ := Option.map_eq_some_iff.mp hh
  have hstage : h₀.signal.stage = h₀.stage := by
    unfold Holder.signal
    split <;> rfl
  rw [Holder.isMidway, hstage]
  exact hr.notMidway h₀ hh₀

end Reception.Calm

namespace Execution

/-- No receive call is on its way. -/
def Calm (rs : List Reception) : Prop := ∀ r ∈ rs, r.Calm

variable {x y : Execution} {rs : List Reception} {b b' : Broker} {id : QueueId} {task : TaskId}

namespace Calm

theorem spares (h : Calm rs) (b b' : Broker) : Spares rs b b' := by
  intro id r holder hr hh hmidway
  cases ((h r (List.mem_of_getElem? hr)).notMidway holder hh).symm.trans hmidway

theorem signals_eq (h : Calm rs) : ∀ r ∈ rs, r.signals = 0 := fun r hr ↦ (h r hr).signals_eq

theorem awakened (h : Calm rs) (b b' : Broker) : Calm (awakened b b' rs) := by
  intro r hr
  obtain ⟨i, hi⟩ := List.mem_iff_getElem?.mp hr
  rw [Execution.awakened, List.getElem?_mapIdx] at hi
  obtain ⟨r₀, hr₀, rfl⟩ := Option.map_eq_some_iff.mp hi
  have hcalm := h r₀ (List.mem_of_getElem? hr₀)
  split
  · exact hcalm.wake
  · exact hcalm

theorem followed (h : Calm rs) (task : TaskId) (k : Task) (b b' : Broker) :
    Calm (followed task k b b' rs) := by
  unfold Execution.followed
  split
  · exact forall_mem_modify (h.awakened b b') _ fun r hr ↦ hr.call _
  · exact h.awakened b b'

end Calm

/-- The receptions are calm but for the one of a queue, on which a call may be on its way. -/
structure CalmBut (id : QueueId) (rs : List Reception) : Prop where
  signals_eq : ∀ r ∈ rs, r.signals = 0
  calm : ∀ i r, rs[i]? = some r → i ≠ id → r.Calm

namespace CalmBut

theorem setHolder (hcalm : CalmBut id x.receptions) (h : Holder) :
    CalmBut id (x.setHolder id h).receptions where
  signals_eq := forall_mem_modify hcalm.signals_eq id fun _ hr ↦ hr
  calm := by
    intro i r hr hne
    rw [Execution.setHolder, List.getElem?_modify_ne _ _ (Ne.symm hne)] at hr
    exact hcalm.calm i r hr hne

theorem release (hcalm : CalmBut id rs) : Calm (rs.modify id Reception.release) := by
  intro r hr
  obtain ⟨i, hi⟩ := List.mem_iff_getElem?.mp hr
  by_cases hne : i = id
  · subst hne
    rw [List.getElem?_modify_eq] at hi
    obtain ⟨r₀, hr₀, rfl⟩ := Option.map_eq_some_iff.mp hi
    exact .release (hcalm.signals_eq r₀ (List.mem_of_getElem? hr₀))
  · rw [List.getElem?_modify_ne _ _ (Ne.symm hne)] at hi
    exact hcalm.calm i r hi hne

end CalmBut

/-! ## Calls on their way -/

/-- How many steps the calls that hold a lock take at most before they end or sleep. -/
def left (x : Execution) : Nat :=
  x.receptions.foldr (fun r n ↦ r.holder.elim 0 Holder.left + n) 0

theorem left_setHolder_lt {h h' : Holder} (hholder : x.holder? id = some h)
    (hlt : h'.left < h.left) : (x.setHolder id h').left < x.left := by
  obtain ⟨r, hr, hh⟩ := holder?_eq_some_iff.mp hholder
  unfold left setHolder
  clear hholder
  -- The induction is on the receptions, up to the one that changes.
  generalize x.receptions = rs at hr
  induction rs generalizing id with
  | nil => cases hr
  | cons r' rs ih =>
    cases id with
    | zero =>
      cases hr
      simpa [hh] using hlt
    | succ id => simpa using ih hr

/-- While a call goes on, nothing happens to any queue. -/
theorem Move.of_goes {first : Branch} {h : Holder}
    (hstep : x.step? first task = some (x.setHolder id h)) : x.Move (x.setHolder id h) :=
  .step first task hstep (spares_of_items_eq (fun _ ↦ rfl) x.receptions)

/-- The end of a call disturbs nobody: if the call did not wait, its queue stays as it is. -/
theorem CalmBut.spares_finish (hcalm : CalmBut id x.receptions) {h : Holder}
    (hholder : x.holder? id = some h) {first : Branch} {got : Option Message}
    {rest : List Message}
    (hnext : h.next first (x.system.broker.items id) (x.system.broker.isClosed id) x.clock =
      .ends got rest) (task : TaskId) (k : Task) :
    Spares x.receptions x.system.broker
      (x.finish task k id h.waiter got rest).system.broker := by
  intro i r h' hr hh hmidway
  by_cases hne : i = id
  · subst hne
    obtain ⟨r', hr', hh'⟩ := holder?_eq_some_iff.mp hholder
    obtain rfl := Option.some.inj (hr'.symm.trans hr)
    obtain rfl := Option.some.inj (hh'.symm.trans hh)
    obtain ⟨rfl, rfl⟩ := Holder.eq_of_ends_midway hmidway hnext
    exact (k.items_resume_none _ _ _).trans (Broker.items_finish_self _ _ _ _ _)
  · cases ((hcalm.calm i r hr hne).notMidway h' hh).symm.trans hmidway

/-- A call whose turn can end takes its steps up to the last one. -/
theorem Valid.exists_ended (hx : x.Valid) (hcalm : CalmBut id x.receptions) {k : Task}
    (hk : x.system.tasks[task]? = some k) (hid : k.awaits? = some id) {got : Option Message}
    (hserve : x.system.broker.serve id task = some (got, b)) :
    ∃ y, x.Reaches y ∧ Calm y.receptions ∧
      y.system = ⟨(k.resume task got b).2, x.system.tasks.set task (k.resume task got b).1⟩ := by
  induction hn : x.left using Nat.strongRecOn generalizing x with
  | ind n ih =>
    obtain ⟨h, hholder, rfl, hready⟩ := hx.agrees.exists_ready hcalm.signals_eq hserve
    cases hnext : h.next .message (x.system.broker.items id) (x.system.broker.isClosed id)
        x.clock with
    | goes h' =>
      have hstep := step?_eq_some_iff.mpr (.went hk hid hholder rfl hready hnext)
      have hlt := left_setHolder_lt hholder (Holder.left_lt_of_goes hready hnext)
      obtain ⟨y, run, hy⟩ := ih _ (hn ▸ hlt) (hx.move (.of_goes hstep)) (hcalm.setHolder h') hk
        hserve rfl
      exact ⟨y, run.head (.of_goes hstep), hy⟩
    | ends got' rest =>
      cases (hx.agrees.serve hholder hnext).symm.trans hserve
      have hstep := step?_eq_some_iff.mpr (.ended hk hid hholder rfl hready hnext)
      have move := Move.step .message h.waiter.task hstep (hcalm.spares_finish hholder hnext _ k)
      exact ⟨_, .single move, hcalm.release.followed _ _ _ _, rfl⟩

/-- Where no task of the system can take a step, all calls that hold a lock can fall asleep. -/
theorem Valid.exists_settled (hx : x.Valid) (hgiven : ∀ r ∈ x.receptions, r.signals = 0)
    (hsettled : x.system.Settled) :
    ∃ y, x.Reaches y ∧ y.system = x.system ∧ y.Settled := by
  induction hn : x.left using Nat.strongRecOn generalizing x with
  | ind n ih =>
    by_cases hnone : ∀ first task, x.step? first task = none
    · exact ⟨x, .refl, rfl, hnone, hgiven⟩
    · obtain ⟨first, task, hsome⟩ : ∃ first task, x.step? first task ≠ none := by
        simpa using hnone
      obtain ⟨y, hy⟩ := Option.ne_none_iff_exists'.mp hsome
      rcases (step?_eq_some_iff.mp hy).goes_or hx.agrees with
        ⟨id, h, h', hholder, hready, hnext, rfl⟩ | hstep
      · have hlt := left_setHolder_lt hholder (Holder.left_lt_of_goes hready hnext)
        obtain ⟨z, run, hz⟩ := ih _ (hn ▸ hlt) (hx.move (.of_goes hy))
          (forall_mem_modify hgiven id fun _ hr ↦ hr) hsettled rfl
        exact ⟨z, run.head (.of_goes hy), hz⟩
      · cases (hsettled task).symm.trans hstep

theorem Valid.calm (hx : x.Valid) (h : x.Settled) : Calm x.receptions := by
  intro r hr
  refine ⟨h.2 r hr, fun holder hh ↦ ?_⟩
  obtain ⟨id, hid⟩ := List.mem_iff_getElem?.mp hr
  have hwaits := hx.deadline?_isSome h hid hh
  cases hstage : holder.stage with
  | waiting deadline => simp [Holder.isMidway, hstage]
  | looking | registering | checking => simp [Holder.deadline?, hstage] at hwaits

/-- Whatever is due in the execution is due in the system. -/
theorem Valid.mem_system_dues (hx : x.Valid) : ∀ due ∈ x.dues, due ∈ x.system.dues := by
  intro due hdue
  rcases List.mem_append.mp hdue with hreception | htask
  · obtain ⟨r, hmem, hdeadline⟩ := List.mem_filterMap.mp hreception
    obtain ⟨id, hr⟩ := List.mem_iff_getElem?.mp hmem
    obtain ⟨q, hq, hfits⟩ := hx.agrees.exists_queue hr
    obtain ⟨h, hh, hd⟩ := Option.bind_eq_some_iff.mp hdeadline
    refine List.mem_append_left _ (List.mem_filterMap.mpr ⟨q, List.mem_of_getElem? hq, ?_⟩)
    rw [Queue.deadline?, hfits.head?_eq hh, (hfits.sound h hh).deadline_eq due hd]
    rfl
  · exact List.mem_append_right _ htask

/-! ## Whatever a system does -/

/-- A step of a task: its receive call takes all steps up to its end, or the task wakes up by
itself. -/
theorem Valid.exists_step {t : System} (hx : x.Valid) (hcalm : Calm x.receptions)
    (h : x.system.step? task = some t) :
    ∃ y, x.Reaches y ∧ y.system = t ∧ Calm y.receptions := by
  obtain ⟨k, k', b, hk, hstep, rfl⟩ := System.step?_eq_some_iff.mp h
  cases hid : k.awaits? with
  | none =>
    have hwake := (Task.step_of_awaits_none hid).symm.trans hstep
    have move := Move.step .message task (step?_eq_some_iff.mpr (.woken hk hid hwake))
      (hcalm.spares _ _)
    exact ⟨_, .single move, rfl, hcalm.followed _ _ _ _⟩
  | some id =>
    obtain ⟨got, b', hserve, hresume⟩ := (Task.step_eq_some_iff_serve hid).mp hstep
    have hbut : CalmBut id x.receptions :=
      ⟨hcalm.signals_eq, fun i r hr _ ↦ hcalm r (List.mem_of_getElem? hr)⟩
    obtain ⟨y, run, hy, hsystem⟩ := hx.exists_ended hbut hk hid hserve
    rw [hresume] at hsystem
    exact ⟨y, run, hsystem, hy⟩

/-- A wait: first all calls that hold a lock fall asleep. -/
theorem Valid.exists_wait (hx : x.Valid) (hcalm : Calm x.receptions) {instant : Nat}
    (settled : x.system.Settled) (later : x.system.clock < instant)
    (notPast : ∀ due ∈ x.system.dues, x.system.clock < due → instant ≤ due) :
    ∃ y, x.Reaches y ∧ y.system = x.system.atInstant instant ∧ Calm y.receptions := by
  obtain ⟨y, run, hsystem, hy⟩ := hx.exists_settled hcalm.signals_eq settled
  obtain ⟨-, hvalid⟩ := Reaches.system hx run
  rw [← hsystem] at later notPast ⊢
  have move : Move y (y.atInstant instant) :=
    .wait hy later fun due hdue hlt ↦ notPast due (hvalid.mem_system_dues due hdue) hlt
  exact ⟨_, run.tail move, rfl, hvalid.calm hy⟩

/-- A closing: it gives its signal at once. -/
theorem exists_close (hcalm : Calm x.receptions) (id : QueueId) :
    ∃ y, x.Reaches y ∧ y.system = x.system.withBroker (x.system.broker.close id) ∧
      Calm y.receptions := by
  have hclosed : x.Reaches (x.close id) := .single (.close x id)
  cases hr : x.receptions[id]? with
  | none =>
    refine ⟨_, hclosed, rfl, ?_⟩
    rw [close, List.modify_eq_self (List.getElem?_eq_none_iff.mp hr)]
    exact hcalm
  | some r =>
    have hclose : (x.close id).receptions[id]? = some r.close := by
      rw [close, List.getElem?_modify_eq, hr]
      rfl
    refine ⟨_, hclosed.tail (.signal (x.close id) hclose r.signals.succ_pos), rfl, ?_⟩
    show Calm ((x.receptions.modify id Reception.close).modify id Reception.signal)
    rw [List.modify_modify_eq]
    exact forall_mem_modify hcalm id fun r hr ↦ hr.close_signal

/-- From a calm moment on, an execution can do whatever its system can, and be calm again. -/
theorem Valid.exists_reaches {t : System} (hx : x.Valid) (hcalm : Calm x.receptions)
    (move : x.system.Move t) : ∃ y, x.Reaches y ∧ y.system = t ∧ Calm y.receptions := by
  generalize hs : x.system = s at move
  cases move <;> subst hs
  case step task h => exact hx.exists_step hcalm h
  case wait settled later notPast => exact hx.exists_wait hcalm settled later notPast
  case create h =>
    refine ⟨_, .single (.create x h), rfl, fun r hr ↦ ?_⟩
    rcases List.mem_append.mp hr with hmem | hmem
    · exact hcalm r hmem
    · exact List.mem_singleton.mp hmem ▸ .new
  case close id => exact exists_close hcalm id
  case issue => exact ⟨_, .single (.issue x), rfl, hcalm.awakened _ _⟩
  case send channel m =>
    exact ⟨_, .single (.send x channel m (hcalm.spares _ _)), rfl, hcalm.awakened _ _⟩
  case handle e m =>
    exact ⟨_, .single (.handle x e m (hcalm.spares _ _)), rfl, hcalm.awakened _ _⟩
  case receive id timeout =>
    exact ⟨_, .single (.receive x id timeout), rfl,
      forall_mem_modify hcalm id fun r hr ↦ hr.call _⟩
  case poll c => exact ⟨_, .single (.poll x c), rfl, hcalm.followed _ _ _ _⟩
  case spawn c stopping => exact ⟨_, .single (.spawn x c stopping), rfl, hcalm⟩
  case stop task => exact ⟨_, .single (.stop x task), rfl, hcalm⟩

end Execution

/-- The runs of systems are those of executions, with the steps of receive calls left out. -/
theorem System.reachable_iff {s : System} :
    s.Reachable ↔ ∃ x : Execution, x.Reachable ∧ x.system = s := by
  constructor
  · intro hs
    have hrun : ∃ x : Execution, x.Reachable ∧ x.system = s ∧ Execution.Calm x.receptions := by
      unfold Reachable Reaches at hs
      induction hs with
      | refl => exact ⟨{}, .refl, rfl, nofun⟩
      | tail _ move ih =>
        obtain ⟨x, hx, rfl, hcalm⟩ := ih
        obtain ⟨y, run, hy, hcalm'⟩ := hx.valid.exists_reaches hcalm move
        exact ⟨y, hx.trans run, hy, hcalm'⟩
    obtain ⟨x, hx, hsystem, -⟩ := hrun
    exact ⟨x, hx, hsystem⟩
  · rintro ⟨x, hx, rfl⟩
    exact hx.valid.reachable

end Messaging
