import Messaging.Proofs.Settings.Capacity

/-!
# Lenient and strict settings

A variable that is set may be unusable: what it is set to is no text, or its text stands for nothing
that the variable can be set to.  The lenient loadings take the variables of a process as if the
unusable ones were not set.  The strict loadings are meant to fail where there are any, and they do
so for those that are set to texts, with the first of them in the order in which they look at the
variables.  A variable that is set to something else than a text slips through, since it is looked
up as if it were not set.  So the two loadings agree wherever the strict one succeeds, and always
once the unusable variables are gone.

What a variable can be set to is said by its `Content`, apart from the readings.  How one variable
is read is described by `Reads`, and a strict reading is a sequence of such readings, each of which
passes the first error on: `Reads.bind` adds one to the sequence.
-/

namespace Messaging

/-! ## What variables can be set to -/

/-- What the text of a variable has to stand for. -/
inductive Content where
  /-- A number. -/
  | number
  /-- A number greater than zero. -/
  | positive
  /-- A truth value. -/
  | flag
  deriving DecidableEq, Repr

namespace Content

variable {content : Content} {cs : List Char} {raw : String}

/-- Whether characters stand for such a thing. -/
def Allows (content : Content) (cs : List Char) : Prop :=
  match content with
  | number => ∃ n, Text.Writes cs n ∧ n < UInt64.size
  | positive => ∃ n, Text.Writes cs n ∧ 0 < n ∧ n < UInt64.size
  | flag => ∃ b, cs = (Text.word b).toList

/-- Whether a text stands for such a thing; the white space around it does not matter. -/
def Accepts (content : Content) (raw : String) : Prop :=
  ∃ core, Text.HasCore raw.toList core ∧ content.Allows core

theorem accepts_iff : content.Accepts raw ↔ content.Allows (Text.trimmed raw.toList) := by
  constructor
  · rintro ⟨core, hcore, hallows⟩
    exact Text.hasCore_iff.mp hcore ▸ hallows
  · intro hallows
    exact ⟨_, Text.hasCore_trimmed _, hallows⟩

theorem accepts_number_iff :
    number.Accepts raw ↔ ∃ n, Text.readNumeral (Text.trim raw) = .ok n := by
  rw [accepts_iff]
  exact exists_congr fun n ↦ Text.readNumeral_trim_eq_ok_iff.symm

theorem accepts_positive_iff :
    positive.Accepts raw ↔ ∃ n, Text.readNumeral (Text.trim raw) = .ok n ∧ 0 < n := by
  rw [accepts_iff]
  refine exists_congr fun n ↦ ?_
  rw [Text.readNumeral_trim_eq_ok_iff, and_assoc, and_comm (b := 0 < n)]

theorem accepts_flag_iff : flag.Accepts raw ↔ ∃ b, Text.readFlag (Text.trim raw) = some b := by
  rw [accepts_iff]
  exact exists_congr fun b ↦ Text.readFlag_trim_eq_some_iff.symm

/-- What has to stand for something is read as that. -/
def reads (content : Content) (raw : String) : Bool :=
  match content with
  | number => (Text.readNumeral (Text.trim raw)).isOk
  | positive => (Text.readNumeral (Text.trim raw)).toOption.any (0 < ·)
  | flag => (Text.readFlag (Text.trim raw)).isSome

theorem reads_iff : content.reads raw = true ↔ content.Accepts raw := by
  cases content with
  | number =>
    rw [accepts_number_iff, reads]
    cases Text.readNumeral (Text.trim raw) <;> simp [Except.isOk, Except.toBool]
  | positive =>
    rw [accepts_positive_iff, reads]
    cases Text.readNumeral (Text.trim raw) <;> simp [Except.toOption]
  | flag => rw [accepts_flag_iff, reads, Option.isSome_iff_exists]

instance (content : Content) (raw : String) : Decidable (content.Accepts raw) :=
  decidable_of_iff _ reads_iff

end Content

/-- A variable, with what it has to be set to. -/
structure Setting where
  key : String
  content : Content
  deriving DecidableEq, Repr

/-- The variables of a poller, in the order in which they are looked at. -/
def PollerSettings.lookups : List Setting :=
  [⟨Variable.interval, .positive⟩, ⟨Variable.limit, .positive⟩, ⟨Variable.initialDelay, .number⟩,
    ⟨Variable.fixedRate, .flag⟩, ⟨Variable.receiveTimeout, .number⟩]

/-- The variables of a queue. -/
def ChannelSettings.lookups : List Setting := [⟨Variable.capacity, .positive⟩]

/-- All variables. -/
def Setting.all : List Setting := PollerSettings.lookups ++ ChannelSettings.lookups

/-- A key belongs to one variable only. -/
theorem Setting.eq_of_key_eq {v w : Setting} (hv : v ∈ all) (hw : w ∈ all) (h : w.key = v.key) :
    w = v := by
  have hall : ∀ v ∈ all, ∀ w ∈ all, w.key = v.key → w = v := by decide
  exact hall v hv w hw h

/-- The variable that is refused. -/
def SettingError.key : SettingError → String
  | .invalidValue key _ => key

namespace Environment

/-- Whether the variable is set to a text that it cannot be set to. -/
def unusable (env : Environment) (v : Setting) : Bool :=
  match env v.key with
  | some raw => ¬v.content.Accepts raw
  | none => false

/-- The first environment has of these variables what the second one has, without the unusable
ones. -/
def Clears (env' env : Environment) (vs : List Setting) : Prop :=
  ∀ v ∈ vs, env' v.key = if env.unusable v = true then none else env v.key

theorem Clears.mono {env env' : Environment} {vs ws : List Setting} (h : env'.Clears env vs)
    (hsub : ∀ v ∈ ws, v ∈ vs) : env'.Clears env ws := fun v hv ↦ h v (hsub v hv)

/-- Where all variables can be used there is nothing to clear. -/
theorem clears_self {env : Environment} {vs : List Setting}
    (h : ∀ v ∈ vs, env.unusable v = false) : env.Clears env vs := by
  intro v hv
  rw [if_neg (Bool.not_eq_true _ ▸ h v hv)]

end Environment

/-! ## Reading one variable -/

/-- This is how a variable is read: `parse` decides about its text, and refuses exactly what the
variable cannot be set to, with an error about the variable. -/
structure Reads {α : Type} (read : Environment → Except SettingError (Option α)) (v : Setting)
    (parse : String → Except SettingError α) : Prop where
  read_unset : ∀ {env : Environment}, env v.key = none → read env = .ok none
  read_set : ∀ {env : Environment} {raw : String}, env v.key = some raw →
    read env = (parse raw).map some
  parse_accepted : ∀ {raw : String}, v.content.Accepts raw → ∃ a, parse raw = .ok a
  parse_refused : ∀ {raw : String}, ¬v.content.Accepts raw →
    ∃ e, parse raw = .error e ∧ e.key = v.key

namespace Reads

variable {α : Type} {read : Environment → Except SettingError (Option α)} {v : Setting}
  {parse : String → Except SettingError α} {env : Environment}

theorem error_of_unusable (h : Reads read v parse) (hbad : env.unusable v = true) :
    ∃ e, read env = .error e ∧ e.key = v.key := by
  unfold Environment.unusable at hbad
  split at hbad
  · rename_i raw hraw
    obtain ⟨e, he, hkey⟩ := h.parse_refused (of_decide_eq_true hbad)
    exact ⟨e, by rw [h.read_set hraw, he]; rfl, hkey⟩
  · cases hbad

theorem ok_of_usable (h : Reads read v parse) (hgood : env.unusable v = false) :
    ∃ setting, read env = .ok setting := by
  unfold Environment.unusable at hgood
  split at hgood
  · rename_i raw hraw
    obtain ⟨a, ha⟩ := h.parse_accepted (not_not.mp (of_decide_eq_false hgood))
    exact ⟨some a, by rw [h.read_set hraw, ha]; rfl⟩
  · rename_i hnone
    exact ⟨none, h.read_unset hnone⟩

/-- Nothing but the text of the variable matters. -/
theorem congr {env' : Environment} (h : Reads read v parse) (heq : env v.key = env' v.key) :
    read env = read env' := by
  cases hraw : env' v.key with
  | none => rw [h.read_unset (heq.trans hraw), h.read_unset hraw]
  | some raw => rw [h.read_set (heq.trans hraw), h.read_set hraw]

end Reads

namespace Environment

/-- The number that a text stands for. -/
def parseNumber (key raw : String) : Except SettingError Nat :=
  (Text.readNumeral (Text.trim raw)).mapError fun e ↦ unreadable key raw e.message

/-- The number greater than zero that a text stands for. -/
def parsePositive (key raw : String) : Except SettingError Nat :=
  match parseNumber key raw with
  | .ok 0 => .error (notPositive key)
  | other => other

/-- The truth value that a text stands for. -/
def parseFlag (key raw : String) : Except SettingError Bool :=
  match Text.readFlag (Text.trim raw) with
  | some b => .ok b
  | none => .error (unreadable key raw "provided string was not \x60true\x60 or \x60false\x60")

variable (key : String)

theorem reads_number? : Reads (number? · key) ⟨key, .number⟩ (parseNumber key) where
  read_unset := by
    intro env h
    simp only [number?, h]
  read_set := by
    intro env raw h
    simp only [number?, h, parseNumber]
    cases Text.readNumeral (Text.trim raw) <;> rfl
  parse_accepted := by
    intro raw h
    obtain ⟨n, hread⟩ := Content.accepts_number_iff.mp h
    exact ⟨n, by rw [parseNumber, hread]; rfl⟩
  parse_refused := by
    intro raw h
    rw [Content.accepts_number_iff] at h
    cases hread : Text.readNumeral (Text.trim raw) with
    | ok n => exact (h ⟨n, hread⟩).elim
    | error e => exact ⟨_, by rw [parseNumber, hread]; rfl, rfl⟩

theorem reads_positive? : Reads (positive? · key) ⟨key, .positive⟩ (parsePositive key) where
  read_unset := by
    intro env h
    simp only [positive?, (reads_number? key).read_unset h]
  read_set := by
    intro env raw h
    simp only [positive?, (reads_number? key).read_set h, parsePositive]
    cases parseNumber key raw with
    | ok n => cases n <;> rfl
    | error e => rfl
  parse_accepted := by
    intro raw h
    obtain ⟨n, hread, hpos⟩ := Content.accepts_positive_iff.mp h
    obtain ⟨n, rfl⟩ := Nat.exists_eq_add_one.mpr hpos
    exact ⟨n + 1, by rw [parsePositive, parseNumber, hread]; rfl⟩
  parse_refused := by
    intro raw h
    rw [Content.accepts_positive_iff] at h
    cases hread : Text.readNumeral (Text.trim raw) with
    | ok n =>
      cases n with
      | zero => exact ⟨notPositive key, by rw [parsePositive, parseNumber, hread]; rfl, rfl⟩
      | succ n => exact (h ⟨n + 1, hread, n.succ_pos⟩).elim
    | error e => exact ⟨_, by rw [parsePositive, parseNumber, hread]; rfl, rfl⟩

theorem reads_flag? : Reads (flag? · key) ⟨key, .flag⟩ (parseFlag key) where
  read_unset := by
    intro env h
    simp only [flag?, h]
  read_set := by
    intro env raw h
    simp only [flag?, h, parseFlag]
    cases Text.readFlag (Text.trim raw) <;> rfl
  parse_accepted := by
    intro raw h
    obtain ⟨b, hb⟩ := Content.accepts_flag_iff.mp h
    exact ⟨b, by rw [parseFlag, hb]⟩
  parse_refused := by
    intro raw h
    rw [Content.accepts_flag_iff, ← Option.isSome_iff_exists, Option.not_isSome_iff_eq_none] at h
    exact ⟨_, by rw [parseFlag, h], rfl⟩

end Environment

/-- Without the unusable variables a reading gives what is usable in the whole environment. -/
theorem Reads.of_clears {α : Type} {read : Environment → Except SettingError (Option α)}
    {v : Setting} {parse : String → Except SettingError α} {vs : List Setting}
    {env env' : Environment} (h : Reads read v parse) (hclear : env'.Clears env vs)
    (hv : v ∈ vs) : read env' = .ok (usable (read env)) := by
  have hkey := hclear v hv
  cases hbad : env.unusable v with
  | true =>
    obtain ⟨e, he, -⟩ := h.error_of_unusable hbad
    rw [hbad, if_pos rfl] at hkey
    rw [h.read_unset hkey, he]
    rfl
  | false =>
    obtain ⟨setting, hset⟩ := h.ok_of_usable hbad
    rw [hbad, if_neg Bool.false_ne_true] at hkey
    rw [h.congr hkey, hset]
    rfl

/-! ## Reading one variable after the other -/

/-- This is the outcome of reading some variables one after the other: it is an error if one of them
is unusable, and then the error is about the first one. -/
def Environment.Checks {α : Type} (env : Environment) (vs : List Setting)
    (outcome : Except SettingError α) : Prop :=
  match vs.find? env.unusable with
  | some v => ∃ e, outcome = .error e ∧ e.key = v.key
  | none => ∃ settings, outcome = .ok settings

theorem Reads.bind {α β : Type} {read : Environment → Except SettingError (Option α)}
    {v : Setting} {parse : String → Except SettingError α} {vs : List Setting} {env : Environment}
    {next : Option α → Except SettingError β} (h : Reads read v parse)
    (hnext : ∀ setting, env.Checks vs (next setting)) :
    env.Checks (v :: vs) (read env >>= next) := by
  unfold Environment.Checks
  cases hbad : env.unusable v with
  | true =>
    obtain ⟨e, he, hkey⟩ := h.error_of_unusable hbad
    rw [List.find?_cons_of_pos hbad, he]
    exact ⟨e, rfl, hkey⟩
  | false =>
    obtain ⟨setting, hset⟩ := h.ok_of_usable hbad
    rw [List.find?_cons_of_neg (Bool.not_eq_true _ ▸ hbad), hset]
    exact hnext setting

namespace Environment.Checks

variable {α : Type} {env : Environment} {vs : List Setting} {outcome : Except SettingError α}

theorem exists_ok_iff (h : env.Checks vs outcome) :
    (∃ settings, outcome = .ok settings) ↔ ∀ v ∈ vs, env.unusable v = false := by
  unfold Checks at h
  split at h
  · rename_i v hfind
    obtain ⟨e, rfl, -⟩ := h
    constructor
    · rintro ⟨settings, hset⟩
      cases hset
    · intro hall
      cases (hall v (List.mem_of_find?_eq_some hfind)).symm.trans (List.find?_some hfind)
  · rename_i hnone
    exact ⟨fun _ v hv ↦ Bool.eq_false_iff.mpr (List.find?_eq_none.mp hnone v hv), fun _ ↦ h⟩

theorem find?_of_error {e : SettingError} (h : env.Checks vs (.error e : Except SettingError α)) :
    (vs.find? env.unusable).map Setting.key = some e.key := by
  unfold Checks at h
  split at h
  · rename_i v hfind
    obtain ⟨e', he, hkey⟩ := h
    cases he
    rw [hfind, Option.map_some, hkey]
  · obtain ⟨settings, hset⟩ := h
    cases hset

end Environment.Checks

theorem Environment.pos_of_usable {env : Environment} {key : String} {n : Nat}
    (h : usable (env.positive? key) = some n) : 0 < n := by
  cases hread : env.positive? key with
  | error e =>
    rw [hread] at h
    cases h
  | ok setting =>
    rw [hread] at h
    obtain rfl : setting = some n := h
    exact (Environment.positive?_eq_some_iff.mp hread).1

/-! ## Pollers and queues -/

namespace PollerSettings

theorem checks_readStrictly (env : Environment) : env.Checks lookups (readStrictly env) := by
  refine (Environment.reads_positive? _).bind fun interval ↦ ?_
  refine (Environment.reads_positive? _).bind fun limit ↦ ?_
  refine (Environment.reads_number? _).bind fun initialDelay ↦ ?_
  refine (Environment.reads_flag? _).bind fun fixedRate ↦ ?_
  refine (Environment.reads_number? _).bind fun receiveTimeout ↦ ?_
  exact ⟨_, rfl⟩

theorem readStrictly_of_clears {env env' : Environment} (h : env'.Clears env lookups) :
    readStrictly env' = .ok (read env) := by
  have hinterval := (Environment.reads_positive? Variable.interval).of_clears h (by decide)
  have hlimit := (Environment.reads_positive? Variable.limit).of_clears h (by decide)
  have hdelay := (Environment.reads_number? Variable.initialDelay).of_clears h (by decide)
  have hrate := (Environment.reads_flag? Variable.fixedRate).of_clears h (by decide)
  have htimeout := (Environment.reads_number? Variable.receiveTimeout).of_clears h (by decide)
  simp only [readStrictly, hinterval, hlimit, hdelay, hrate, htimeout]
  rfl

/-- What the strict reading gives the lenient one gives, too. -/
theorem read_of_readStrictly {env : Environment} {s : PollerSettings}
    (h : readStrictly env = .ok s) : read env = s := by
  have hgood := (checks_readStrictly env).exists_ok_iff.mp ⟨s, h⟩
  exact Except.ok.inj ((readStrictly_of_clears (Environment.clears_self hgood)).symm.trans h)

/-- Cycles can be scheduled with the settings, and each of them may take a message. -/
structure Usable (s : PollerSettings) : Prop where
  interval_pos : 0 < s.interval
  limit_pos : ∀ n, s.limit = some n → 0 < n

theorem usable_read (env : Environment) : (read env).Usable where
  interval_pos := by
    show 0 < (Messaging.usable (env.positive? Variable.interval)).getD 1000
    cases hset : Messaging.usable (env.positive? Variable.interval) with
    | none => decide
    | some n => exact Environment.pos_of_usable hset
  limit_pos := by
    intro n hn
    have hset : Messaging.usable (env.positive? Variable.limit) = some n :=
      Option.or_none.symm.trans hn
    exact Environment.pos_of_usable hset

end PollerSettings

namespace ChannelSettings

theorem checks_readStrictly (env : Environment) : env.Checks lookups (readStrictly env) := by
  refine (Environment.reads_positive? _).bind fun capacity ↦ ?_
  exact ⟨_, rfl⟩

theorem readStrictly_of_clears {env env' : Environment} (h : env'.Clears env lookups) :
    readStrictly env' = .ok (read env) := by
  have hcapacity := (Environment.reads_positive? Variable.capacity).of_clears h (by decide)
  simp only [readStrictly, hcapacity]
  rfl

/-- What the strict reading gives the lenient one gives, too. -/
theorem read_of_readStrictly {env : Environment} {c : ChannelSettings}
    (h : readStrictly env = .ok c) : read env = c := by
  have hgood := (checks_readStrictly env).exists_ok_iff.mp ⟨c, h⟩
  exact Except.ok.inj ((readStrictly_of_clears (Environment.clears_self hgood)).symm.trans h)

theorem capacity_read_pos (env : Environment) : 0 < (read env).capacity := by
  show 0 < (usable (env.positive? Variable.capacity)).getD 1024
  cases hset : usable (env.positive? Variable.capacity) with
  | none => decide
  | some n => exact Environment.pos_of_usable hset

end ChannelSettings

/-! ## The variables of a process -/

namespace ProcessEnvironment

/-- Whether the variable is set to something that it cannot be set to: this is not a text, or the
text does not stand for what it has to. -/
def unusable (p : ProcessEnvironment) (v : Setting) : Bool :=
  match p v.key with
  | .unset => false
  | .garbled => true
  | .text raw => ¬v.content.Accepts raw

/-- The variables without the unusable ones. -/
def usableOnly (p : ProcessEnvironment) : ProcessEnvironment := fun name ↦
  if Setting.all.any fun v ↦ v.key == name && p.unusable v then .unset else p name

variable {p : ProcessEnvironment} {v : Setting}

/-- Whoever asks for texts does not see that a variable is unusable if it is set to no text. -/
theorem unusable_texts_iff :
    p.texts.unusable v = true ↔ p.unusable v = true ∧ p v.key ≠ .garbled := by
  unfold Environment.unusable texts unusable
  cases p v.key <;> simp [Assignment.text?]

theorem unusable_texts_eq_false_iff :
    p.texts.unusable v = false ↔ (p.unusable v = true → p v.key = .garbled) := by
  rw [← Bool.not_eq_true, unusable_texts_iff]
  tauto

theorem usableOnly_key (hv : v ∈ Setting.all) :
    p.usableOnly v.key = if p.unusable v = true then .unset else p v.key := by
  have hany : (Setting.all.any fun w ↦ w.key == v.key && p.unusable w) = p.unusable v := by
    rw [Bool.eq_iff_iff, List.any_eq_true]
    constructor
    · rintro ⟨w, hw, hand⟩
      obtain ⟨hkey, hbad⟩ := Bool.and_eq_true_iff.mp hand
      obtain rfl := Setting.eq_of_key_eq hv hw (eq_of_beq hkey)
      exact hbad
    · intro hbad
      exact ⟨v, hv, by rw [beq_self_eq_true, hbad, Bool.true_and]⟩
  rw [usableOnly, hany]

theorem usableOnly_clears : p.usableOnly.texts.Clears p.texts Setting.all := by
  intro v hv
  show (p.usableOnly v.key).text? = if p.texts.unusable v = true then none else (p v.key).text?
  rw [usableOnly_key hv]
  cases hbad : p.unusable v with
  | false =>
    have hgood : p.texts.unusable v = false := by
      rw [unusable_texts_eq_false_iff, hbad]
      rintro ⟨⟩
    rw [if_neg Bool.false_ne_true, hgood, if_neg Bool.false_ne_true]
  | true =>
    rw [if_pos rfl]
    split
    · rfl
    · -- The variable looks usable, so it is not set to a text.
      rename_i hlooks
      rw [unusable_texts_eq_false_iff.mp (Bool.eq_false_iff.mpr hlooks) hbad]
      rfl

/-- For the variables of every process: a strict loading succeeds exactly if those of its variables
that are unusable are not set to texts.  A lenient loading gives what the strict one gives without
the unusable variables, where that always succeeds; so it gives the same as the strict one wherever
that one succeeds.  A strict loading that fails names the first unusable variable that is set to a
text, in the order of the interval, the limit, the initial delay, the mode and the timeout.  And
whichever loading gives them, the settings can be used: interval, limit and capacity are greater
than zero. -/
theorem strict_loading_is_lenient (p : ProcessEnvironment) :
    ((∃ s, PollerSettings.loadStrictly p = .ok s) ↔
        ∀ v ∈ PollerSettings.lookups, p.unusable v = true → p v.key = .garbled) ∧
      ((∃ c, ChannelSettings.loadStrictly p = .ok c) ↔
        ∀ v ∈ ChannelSettings.lookups, p.unusable v = true → p v.key = .garbled) ∧
      PollerSettings.loadStrictly p.usableOnly = .ok (PollerSettings.load p) ∧
      ChannelSettings.loadStrictly p.usableOnly = .ok (ChannelSettings.load p) ∧
      (∀ s, PollerSettings.loadStrictly p = .ok s → PollerSettings.load p = s) ∧
      (∀ c, ChannelSettings.loadStrictly p = .ok c → ChannelSettings.load p = c) ∧
      (∀ e, PollerSettings.loadStrictly p = .error e →
        (PollerSettings.lookups.find? fun v ↦ p.unusable v ∧ p v.key ≠ .garbled).map Setting.key =
          some e.key) ∧
      (∀ e, ChannelSettings.loadStrictly p = .error e → e.key = Variable.capacity) ∧
      (∀ s, PollerSettings.loadStrictly p = .ok s ∨ PollerSettings.load p = s → s.Usable) ∧
      (∀ c, ChannelSettings.loadStrictly p = .ok c ∨ ChannelSettings.load p = c →
        0 < c.capacity) := by
  have hpoller : p.texts.Checks _ (PollerSettings.loadStrictly p) :=
    PollerSettings.checks_readStrictly p.texts
  have hchannel : p.texts.Checks _ (ChannelSettings.loadStrictly p) :=
    ChannelSettings.checks_readStrictly p.texts
  refine ⟨?_, ?_, ?_, ?_, fun s ↦ PollerSettings.read_of_readStrictly,
    fun c ↦ ChannelSettings.read_of_readStrictly, ?_, ?_, ?_, ?_⟩
  · exact hpoller.exists_ok_iff.trans (forall₂_congr fun v _ ↦ unusable_texts_eq_false_iff)
  · exact hchannel.exists_ok_iff.trans (forall₂_congr fun v _ ↦ unusable_texts_eq_false_iff)
  · exact PollerSettings.readStrictly_of_clears (usableOnly_clears.mono (by decide))
  · exact ChannelSettings.readStrictly_of_clears (usableOnly_clears.mono (by decide))
  · intro e he
    have hlooks : (fun v ↦ decide (p.unusable v = true ∧ p v.key ≠ .garbled)) =
        p.texts.unusable := by
      funext v
      rw [Bool.eq_iff_iff, decide_eq_true_iff, unusable_texts_iff]
    rw [he] at hpoller
    exact hlooks ▸ hpoller.find?_of_error
  · intro e he
    rw [he] at hchannel
    obtain ⟨v, hv, hkey⟩ := Option.map_eq_some_iff.mp hchannel.find?_of_error
    obtain rfl := List.mem_singleton.mp (List.mem_of_find?_eq_some hv)
    exact hkey.symm
  · rintro s (hs | rfl)
    · exact PollerSettings.read_of_readStrictly hs ▸ PollerSettings.usable_read p.texts
    · exact PollerSettings.usable_read p.texts
  · rintro c (hc | rfl)
    · exact ChannelSettings.read_of_readStrictly hc ▸ ChannelSettings.capacity_read_pos p.texts
    · exact ChannelSettings.capacity_read_pos p.texts

/-- A strict loading may succeed although a variable is unusable: here the interval is set to bytes
that are no text. -/
theorem strict_loading_of_garbled :
    ¬∀ p : ProcessEnvironment,
      ((∃ s, PollerSettings.loadStrictly p = .ok s) ↔
        ∀ v ∈ PollerSettings.lookups, p.unusable v = false) := by
  intro h
  let p : ProcessEnvironment := fun name ↦
    if name = Variable.interval then .ofBytes [0x35, 0x30, 0xff] else .unset
  have hload : PollerSettings.loadStrictly p = .ok {} := by rfl
  have hbad : p.unusable ⟨Variable.interval, .positive⟩ = true := by decide +kernel
  have hgood := (h p).mp ⟨_, hload⟩ ⟨Variable.interval, .positive⟩ List.mem_cons_self
  exact Bool.false_ne_true (hgood.symm.trans hbad)

end ProcessEnvironment

end Messaging
