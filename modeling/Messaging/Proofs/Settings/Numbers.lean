import Messaging.Proofs.Settings.Leniency

/-!
# What comes of a variable, by its text

What comes of a variable that has to be a number depends on the core of its text, which is what is
left of it without the white space around it.  The core of a number below 2⁶⁴ is a numeral of it;
every other text is refused, and the error names the variable and says what is wrong with the core:
there is none, or digits at its beginning write a number that is too large, or else it has a
character in the wrong place.

A variable that has to be a truth value has one of two words as the core of its text, and all others
are refused for the same reason.
-/

namespace Messaging

/-- Different reasons are worded differently. -/
theorem NumeralError.message_injective : Function.Injective message := by
  intro a b h
  cases a <;> cases b <;> first | rfl | (revert h; decide)

theorem unreadable_inj {key raw reason reason' : String} :
    unreadable key raw reason = unreadable key raw reason' ↔ reason = reason' := by
  simp [unreadable]

namespace Environment

variable {env : Environment} {key raw : String}

theorem number?_eq (h : env key = some raw) :
    env.number? key = ((Text.readNumeralChars (Text.trimmed raw.toList)).mapError
      fun reason ↦ unreadable key raw reason.message).map some := by
  rw [(reads_number? key).read_set h, parseNumber, Text.readNumeral, Text.trim,
    String.toList_ofList]

theorem number?_eq_ok_iff (h : env key = some raw) {n : Nat} :
    env.number? key = .ok (some n) ↔
      Text.readNumeralChars (Text.trimmed raw.toList) = .ok n := by
  rw [number?_eq h]
  cases Text.readNumeralChars (Text.trimmed raw.toList) <;> simp [Except.map, Except.mapError]

theorem number?_eq_error_iff (h : env key = some raw) {reason : NumeralError} :
    env.number? key = .error (unreadable key raw reason.message) ↔
      Text.readNumeralChars (Text.trimmed raw.toList) = .error reason := by
  rw [number?_eq h]
  cases Text.readNumeralChars (Text.trimmed raw.toList) with
  | ok n => simp [Except.map, Except.mapError]
  | error e =>
    simp [Except.map, Except.mapError, unreadable_inj, NumeralError.message_injective.eq_iff]

/-- A variable is set to some text.  It is read as a number if and only if the core of the text
consists of one or more digits, perhaps after a plus sign, that write a number below 2⁶⁴, and then
as this number; so every such number is read from its decimal text with any white space around it.
Otherwise the error names the variable, and its reason is that there is no core, that digits at the
beginning of the core write a number that is too large, or, in all other cases, that a character is
in the wrong place. -/
theorem number?_by_text (h : env key = some raw) :
    ∃ text, Text.HasCore raw.toList text ∧
      (∀ n, env.number? key = .ok (some n) ↔ Text.Writes text n ∧ n < UInt64.size) ∧
      ((∃ n, env.number? key = .ok (some n)) ∨ ∃ reason : NumeralError,
        env.number? key = .error (unreadable key raw reason.message)) ∧
      (∀ e, env.number? key = .error e → e.key = key) ∧
      (env.number? key = .error (unreadable key raw NumeralError.empty.message) ↔ text = []) ∧
      (env.number? key = .error (unreadable key raw NumeralError.tooLarge.message) ↔
        Text.Exceeds text) ∧
      (env.number? key = .error (unreadable key raw NumeralError.invalidDigit.message) ↔
        text ≠ [] ∧ ¬Text.Exceeds text ∧ ∀ n, ¬Text.Writes text n) ∧
      ∀ n before after, n < UInt64.size → Text.Blank before.toList → Text.Blank after.toList →
        raw = before ++ n.repr ++ after → env.number? key = .ok (some n) := by
  have hok : ∀ n, env.number? key = .ok (some n) ↔
      Text.Writes (Text.trimmed raw.toList) n ∧ n < UInt64.size := fun n ↦
    (number?_eq_ok_iff h).trans Text.readNumeralChars_eq_ok_iff
  refine ⟨Text.trimmed raw.toList, Text.hasCore_trimmed _, hok, ?_, ?_,
    (number?_eq_error_iff h).trans Text.readNumeralChars_eq_empty_iff,
    (number?_eq_error_iff h).trans Text.readNumeralChars_eq_tooLarge_iff,
    (number?_eq_error_iff h).trans Text.readNumeralChars_eq_invalidDigit_iff, ?_⟩
  · cases hread : Text.readNumeralChars (Text.trimmed raw.toList) with
    | ok n => exact .inl ⟨n, (number?_eq_ok_iff h).mpr hread⟩
    | error reason => exact .inr ⟨reason, (number?_eq_error_iff h).mpr hread⟩
  · intro e he
    rw [number?_eq h] at he
    cases hread : Text.readNumeralChars (Text.trimmed raw.toList) with
    | ok n =>
      rw [hread] at he
      cases he
    | error reason =>
      rw [hread] at he
      cases he
      rfl
  · intro n before after hsize hbefore hafter hraw
    rw [hok]
    have hcore := Text.hasCore_iff.mp (Text.hasCore_repr hbefore hafter n)
    rw [hraw, ← hcore, Nat.toList_repr]
    exact ⟨Text.writes_toDigits n, hsize⟩

/-- The first number that is too large, with white space before it and something behind it that is
no digit: what counts is that the number has become too large before. -/
theorem number?_by_text_of_excess :
    let raw := " +018446744073709551616ms"
    let env : Environment := fun key ↦ if key = Variable.interval then some raw else none
    env Variable.interval = some raw ∧
      env.number? Variable.interval =
        .error (unreadable Variable.interval raw NumeralError.tooLarge.message) := by
  intro raw env
  have hset : env Variable.interval = some raw := rfl
  refine ⟨hset, ?_⟩
  obtain ⟨text, hcore, -, -, -, -, hlarge, -, -⟩ := number?_by_text hset
  rw [hlarge, Text.hasCore_iff.mp hcore]
  exact ⟨"018446744073709551616".toList, by decide, by decide, by decide⟩

/-- A variable is set to some text.  It is read as a truth value if and only if the core of the text
is the word for that value, and otherwise the error names the variable and lists the two words. -/
theorem flag?_by_text (h : env key = some raw) :
    ∃ text, Text.HasCore raw.toList text ∧
      (∀ b, env.flag? key = .ok (some b) ↔ text = (Text.word b).toList) ∧
      ((∀ b, text ≠ (Text.word b).toList) ↔
        env.flag? key =
          .error (unreadable key raw "provided string was not \x60true\x60 or \x60false\x60")) := by
  refine ⟨_, Text.hasCore_trimmed _, fun b ↦ ?_, ?_⟩
  · rw [← Text.readFlag_trim_eq_some_iff, (reads_flag? key).read_set h, parseFlag]
    cases Text.readFlag (Text.trim raw) <;> simp [Except.map]
  · simp only [ne_eq, ← Text.readFlag_trim_eq_some_iff, (reads_flag? key).read_set h, parseFlag]
    cases Text.readFlag (Text.trim raw) <;> simp [Except.map]

end Environment

end Messaging
