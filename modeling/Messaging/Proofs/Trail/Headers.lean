import Messaging.Proofs.Trail.Hop

/-!
# Headers along a trail

A message travels: it is replied to, the reply is passed on, the handling of what is passed on
fails, that is reported, and so on.  In between anything may happen to the broker.  Each hop takes
over the headers of the message before it, so along a trail a header is never lost, and its value is
the last one that a hop gave to it, or else the one at the start.

The identities are those that the broker gave in the meantime.  As long as it has given no identity
twice, and none that the first message already had, a new message never has the identity of the one
from which it follows.
-/

namespace Messaging

/-- The identities of the first 2¹²⁸ new messages are different. -/
theorem Uuid.issued_injective {i j : Nat} (hi : i < Nat.pow 2 128) (hj : j < Nat.pow 2 128)
    (h : issued i = issued j) : i = j := by
  have hbits : first + BitVec.ofNat 128 i = first + BitVec.ofNat 128 j := congrArg Uuid.bits h
  have hnat := congrArg BitVec.toNat (BitVec.add_right_inj first |>.mp hbits)
  rwa [BitVec.toNat_ofNat, BitVec.toNat_ofNat, Nat.mod_eq_of_lt hi, Nat.mod_eq_of_lt hj] at hnat

/-- One hop of a message: how it followed from another one. -/
structure Passage where
  hop : Hop
  request : Message
  result : Message

/-- The value that the hop itself gave to a header. -/
def Passage.given? (p : Passage) (k : String) : Option Value := p.hop.given? p.request k

/-- A message takes some hops, and in between anything may happen. -/
inductive Trail (b : Broker) (m : Message) : List Passage → Broker → Message → Prop
  /-- It has taken none yet. -/
  | start : Trail b m [] b m
  /-- Something else happens. -/
  | pause {ps : List Passage} {b₁ b₂ : Broker} {m₁ : Message} (h : Trail b m ps b₁ m₁)
      (hb : b₁.Reaches b₂) : Trail b m ps b₂ m₁
  /-- It takes one more hop. -/
  | hop {ps : List Passage} {hop : Hop} {b₁ b₂ : Broker} {m₁ m₂ : Message}
      (h : Trail b m ps b₁ m₁) (hm : hop.Leads b₁ m₁ b₂ m₂) :
      Trail b m (ps ++ [⟨hop, m₁, m₂⟩]) b₂ m₂

namespace Trail

variable {b b' : Broker} {m m' : Message} {ps : List Passage}

theorem reaches (h : Trail b m ps b' m') : b.Reaches b' := by
  induction h with
  | start => exact .refl b
  | pause _ hb ih => exact ih.trans hb
  | hop _ hm ih => exact ih.trans hm.reaches

/-- Every hop of a trail leads from its request to its result, while the broker goes from one state
to another between the two ends of the trail. -/
theorem leads (h : Trail b m ps b' m') {p : Passage} (hp : p ∈ ps) :
    ∃ b₁ b₂, p.hop.Leads b₁ p.request b₂ p.result := by
  induction h with
  | start => cases hp
  | pause _ _ ih => exact ih hp
  | hop _ hm ih =>
    rcases List.mem_append.mp hp with hp | hp
    · exact ih hp
    · rw [List.mem_singleton.mp hp]
      exact ⟨_, _, hm⟩

/-- A header has the last value that a hop gave to it, and otherwise the one that it had at the
start. -/
theorem header?_eq (h : Trail b m ps b' m') (k : String) :
    m'.header? k = (ps.filterMap (·.given? k)).getLast?.or (m.header? k) := by
  induction h with
  | start => rfl
  | pause _ _ ih => exact ih
  | @hop ps hop _ _ m₁ m₂ _ hm ih =>
    rw [hm.header?_eq, ih, List.filterMap_append, List.filterMap_cons, List.filterMap_nil]
    show (Passage.given? ⟨hop, m₁, m₂⟩ k).or _ = _
    cases Passage.given? ⟨hop, m₁, m₂⟩ k with
    | none => rw [Option.none_or, List.append_nil]
    | some v => rw [List.getLast?_concat, Option.some_or, Option.some_or]

/-- The identity is the one at the start, or one that the broker has given since. -/
theorem id_eq (h : Trail b m ps b' m') :
    m'.id = m.id ∨ ∃ n, b.issued ≤ n ∧ n < b'.issued ∧ m'.id = Uuid.issued n := by
  induction h with
  | start => exact .inl rfl
  | pause _ hb ih =>
    have hlater := hb.later.2
    rcases ih with hid | ⟨n, hle, hlt, hid⟩
    · exact .inl hid
    · exact .inr ⟨n, hle, Nat.lt_of_lt_of_le hlt hlater, hid⟩
  | @hop ps hop b₁ b₂ m₁ m₂ h hm ih =>
    by_cases hrouted : hop = .routed
    · subst hrouted
      have hlater := hm.reaches.later.2
      rw [hm.eq_of_routed]
      rcases ih with hid | ⟨n, hle, hlt, hid⟩
      · exact .inl hid
      · exact .inr ⟨n, hle, Nat.lt_of_lt_of_le hlt hlater, hid⟩
    · obtain ⟨n, hle, hlt, hid⟩ := hm.id_eq hrouted
      exact .inr ⟨n, Nat.le_trans h.reaches.later.2 hle, hlt, hid⟩

/-- As long as identities are not given twice, each new message has another one than its request. -/
theorem id_ne (h : Trail b m ps b' m') (hunique : b'.issued ≤ Nat.pow 2 128)
    (hfresh : ∀ n, b.issued ≤ n → n < b'.issued → Uuid.issued n ≠ m.id) {p : Passage}
    (hp : p ∈ ps) (hne : p.hop ≠ .routed) : p.result.id ≠ p.request.id := by
  induction h with
  | start => cases hp
  | pause _ hb ih =>
    have hlater := hb.later.2
    exact ih (Nat.le_trans hlater hunique)
      (fun n hle hlt ↦ hfresh n hle (Nat.lt_of_lt_of_le hlt hlater)) hp
  | @hop ps hop b₁ b₂ m₁ m₂ h hm ih =>
    rcases List.mem_append.mp hp with hp | hp
    · have hlater := hm.reaches.later.2
      exact ih (Nat.le_trans hlater hunique)
        (fun n hle hlt ↦ hfresh n hle (Nat.lt_of_lt_of_le hlt hlater)) hp
    · obtain rfl := List.mem_singleton.mp hp
      obtain ⟨n, hle, hlt, hid⟩ := hm.id_eq hne
      have hsince := h.reaches.later.2
      intro heq
      -- The request has the identity of the first message, or an earlier one of the broker.
      rcases h.id_eq with hold | ⟨n', hle', hlt', hold⟩
      · exact hfresh n (Nat.le_trans hsince hle) hlt (hid.symm.trans (heq.trans hold))
      · have hsame : n = n' := Uuid.issued_injective (Nat.lt_of_lt_of_le hlt hunique)
          (by omega) (hid.symm.trans (heq.trans hold))
        omega

/-- Along a trail a header is never lost.  It keeps its value unless a hop gave it one: a reply for
which the handler returned a message with this header, or a report of a failure, which says which
message failed.  A router passes on the message itself; every other hop makes a message with an
identity of its own, if identities are not given twice. -/
theorem headers_survive (h : Trail b m ps b' m') :
    (∀ k v, m.header? k = some v → ∃ w, m'.header? k = some w ∧
      ((∀ p ∈ ps, (∀ r, p.hop = .replied (.message r) → r.header? k = none) ∧
        (p.hop = .reported → k ≠ Consumer.failedMessageId)) → w = v)) ∧
    (∀ p ∈ ps, p.hop = .reported →
      p.result.header? Consumer.failedMessageId = some (.string p.request.id.text)) ∧
    (∀ p ∈ ps, p.hop = .routed → p.result = p.request) ∧
    (b'.issued ≤ Nat.pow 2 128 →
      (∀ n, b.issued ≤ n → n < b'.issued → Uuid.issued n ≠ m.id) →
      ∀ p ∈ ps, p.hop ≠ .routed → p.result.id ≠ p.request.id) := by
  refine ⟨fun k v hv ↦ ?_, fun p hp hreported ↦ ?_, fun p hp hrouted ↦ ?_,
    fun hunique hfresh p hp hne ↦ h.id_ne hunique hfresh hp hne⟩
  · have hlast := h.header?_eq k
    rw [hv] at hlast
    cases hgiven : (ps.filterMap (·.given? k)).getLast? with
    | none =>
      rw [hgiven, Option.none_or] at hlast
      exact ⟨v, hlast, fun _ ↦ rfl⟩
    | some w =>
      rw [hgiven, Option.some_or] at hlast
      refine ⟨w, hlast, fun hnone ↦ ?_⟩
      obtain ⟨p, hp, hw⟩ := List.mem_filterMap.mp (List.mem_of_getLast? hgiven)
      obtain ⟨hreplied, hreported⟩ := hnone p hp
      unfold Passage.given? at hw
      cases hhop : p.hop with
      | replied returned =>
        rw [hhop] at hw
        cases returned with
        | payload value => cases hw
        | message r => cases hw.symm.trans (hreplied r hhop)
      | routed =>
        rw [hhop] at hw
        cases hw
      | reported =>
        rw [hhop, Hop.given?, if_neg (hreported hhop)] at hw
        cases hw
  · obtain ⟨b₁, b₂, hm⟩ := h.leads hp
    rw [hm.header?_eq, hreported, Hop.given?, if_pos rfl, Option.some_or]
  · obtain ⟨b₁, b₂, hm⟩ := h.leads hp
    rw [hrouted] at hm
    exact hm.eq_of_routed

/-- A reply is passed on, and the handling of it fails.  The tenant of the first message, of which
the handler of the first endpoint says nothing, is that of the report; which message failed is what
the report says of the reply, not what the first message said. -/
theorem headers_survive_of_report :
    let binder : Binder :=
      ⟨"ship", [⟨0, .value, none, none, false, false⟩], [.payload], some 0, none, none⟩
    let headers := (Dictionary.empty.insert "tenant" (.string "acme")).insert
      Consumer.failedMessageId (.string "order-1")
    let m : Message := ⟨Uuid.issued 0, Timestamp.epoch, .string "order-2", headers⟩
    let returned : Message :=
      ⟨Uuid.issued 1, Timestamp.epoch, .string "shipped",
        Dictionary.empty.insert "priority" (.string "high")⟩
    let e : Endpoint :=
      { label := "ship", binder := binder, handler := fun _ _ ↦ .ok (some (.message returned)) }
    let r : Router := { name := "parcels", recipients := [.queue 0] }
    let c : Consumer :=
      { input := 0
        endpoint :=
          { label := "bill", binder := binder, handler := fun _ _ ↦ .error ⟨["no account"]⟩ }
        settings := {}
        errors := some (.queue 1) }
    let b : Broker :=
      { issued := 1
        queues := [{ name := "shipped", capacity := 1 }, { name := "failures", capacity := 1 }] }
    let reply : Message :=
      ⟨(b.stampOf 2).id, (b.stampOf 2).time, .string "shipped",
        returned.headers.insertAllIfAbsent headers.entries⟩
    let b₁ := (r.route reply (e.handle m b).2).2
    let error : EndpointError := .handler "ship" "no account"
    let report : Message :=
      ⟨(b.stampOf 4).id, (b.stampOf 4).time, (c.errorDraft reply error).payload,
        (c.errorDraft reply error).headers⟩
    let ps : List Passage := [⟨.replied (.message returned), m, reply⟩, ⟨.routed, reply, reply⟩,
      ⟨.reported, reply, report⟩]
    Trail b m ps (c.process reply b₁) report ∧
      report.header? "tenant" = some (.string "acme") ∧
      report.header? Consumer.failedMessageId = some (.string reply.id.text) ∧
      report.id ≠ reply.id := by
  intro binder headers m returned e r c b reply b₁ error report ps
  have hargs : e.binder.arguments m = .ok [.payload (.string "order-2")] := rfl
  have hreplied : (Hop.replied (.message returned)).Leads b m (e.handle m b).2 reply :=
    .replied hargs rfl rfl
  have hrouted : Hop.routed.Leads (e.handle m b).2 reply b₁ reply :=
    .routed ⟨[_], _, _, _, rfl, List.mem_cons_self⟩
  have hfails : c.endpoint.handle reply b₁ =
      (.error error, (b₁.record (.invoked "bill" [.payload (.string "shipped")])).issue) := rfl
  have hreported : Hop.reported.Leads b₁ reply (c.process reply b₁) report :=
    .reported hfails ⟨[_], _, _, _, rfl, List.mem_cons_self⟩
  have htrail : Trail b m ps (c.process reply b₁) report :=
    ((Trail.start.hop hreplied).hop hrouted).hop hreported
  obtain ⟨hkept, hfailed, -, hids⟩ := headers_survive htrail
  have hlast : ⟨.reported, reply, report⟩ ∈ ps := List.mem_of_getLast? rfl
  obtain ⟨w, htenant, hw⟩ := hkept "tenant" (.string "acme") rfl
  have hunique : (c.process reply b₁).issued ≤ Nat.pow 2 128 :=
    (show 5 ≤ Nat.pow 2 128 by decide)
  refine ⟨htrail, ?_, hfailed _ hlast rfl, hids hunique ?_ _ hlast nofun⟩
  · rw [htenant, hw]
    refine List.forall_mem_cons.mpr ⟨?_, List.forall_mem_cons.mpr ⟨?_,
      List.forall_mem_cons.mpr ⟨?_, List.forall_mem_nil _⟩⟩⟩
    · exact ⟨fun r hr ↦ (by cases hr; rfl), nofun⟩
    · exact ⟨fun r hr ↦ (by cases hr), nofun⟩
    · exact ⟨fun r hr ↦ (by cases hr), fun _ ↦ by decide⟩
  · intro n hle hlt heq
    have hzero : n = 0 :=
      Uuid.issued_injective (Nat.lt_of_lt_of_le hlt hunique) (by decide) heq
    rw [hzero] at hle
    exact absurd hle (by decide)

end Trail

end Messaging
