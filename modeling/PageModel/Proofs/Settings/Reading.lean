import Mathlib.Data.Nat.Digits.Defs
import PageModel.Proofs.Extractor.Compiling
import PageModel.Proofs.Pipeline.Steps
import PageModel.Proofs.Unicode.Tidy
import PageModel.Settings

/-!
# Settings from texts

A text writes a number if it is a row of decimal digits, possibly after a plus sign and with white
space around (`Settings.Writes`). Of such texts those are read whose number has 64 bits
(`Settings.readUnsigned?_trim_eq_some_iff`), so a setting is the number that its text writes, and every
other text offends. How many pages a run works on at once is never less than one: wherever a run waits
with URLs left to start, as many tasks are running as there may be (`Settings.read_exactly`).
-/

namespace PageModel

open Unicode

namespace Settings

/-! ### Texts that write numbers -/

/-- The number that a row of decimal digits denotes, the last of which counts ones. -/
def denoted (digits : List Char) : Nat :=
  Nat.ofDigits 10 (digits.reverse.map fun c => c.toNat - '0'.toNat)

/-- Rows of decimal digits, possibly after a plus sign, and what they denote. -/
inductive IsNumeral : List Char → Nat → Prop
  | digits {sign digits : List Char} :
      sign = [] ∨ sign = ['+'] → digits ≠ [] → (∀ c ∈ digits, '0' ≤ c ∧ c ≤ '9') →
      IsNumeral (sign ++ digits) (denoted digits)

/-- Numerals with white space around. -/
inductive Writes : String → Nat → Prop
  | numeral {value : String} {before text after : List Char} {n : Nat} :
      value.toList = before ++ text ++ after → (∀ c ∈ before, isBlank c = true) →
      (∀ c ∈ after, isBlank c = true) → IsNumeral text n → Writes value n

theorem decimalValue_eq_denoted (digits : List Char) :
  decimalValue digits = denoted digits
  := by
  induction digits using List.reverseRecOn with
  | nil => rfl
  | append_singleton digits d ih =>
      rw [decimalValue, List.foldl_append, ← decimalValue, ih, denoted, denoted,
        List.reverse_append, List.map_append, List.reverse_singleton, List.map_singleton,
        List.singleton_append, Nat.ofDigits_cons, List.foldl_cons, List.foldl_nil]
      apply Nat.add_comm

theorem all_isDigit_iff {digits : List Char} :
  digits.all Char.isDigit = true ↔ ∀ c ∈ digits, '0' ≤ c ∧ c ≤ '9'
  := by
  rw [List.all_eq_true]
  simp only [Char.isDigit, Bool.and_eq_true, decide_eq_true_eq]
  rfl

/-! ### Reading numerals -/

theorem readUnsigned?_plus (ds : List Char) :
  readUnsigned? ('+' :: ds) = readDigits? ds
  := rfl

theorem readUnsigned?_of_ne {cs : List Char} (h : ∀ ds, cs ≠ '+' :: ds) :
  readUnsigned? cs = readDigits? cs
  := by
  rw [readUnsigned?]
  exact h

theorem readDigits?_eq_some_iff {ds : List Char} {n : Nat} :
  readDigits? ds = some n ↔
    ds ≠ [] ∧ (∀ c ∈ ds, '0' ≤ c ∧ c ≤ '9') ∧ denoted ds = n ∧ n < 2 ^ 64
  := by
  rw [readDigits?, decimalValue_eq_denoted, ← all_isDigit_iff]
  change (if _ then none else if 2 ^ 64 ≤ denoted ds then none else some (denoted ds)) = _ ↔ _
  split
  · next h =>
    apply iff_of_false (by rintro ⟨⟩)
    rintro ⟨hne, hall, -⟩
    simp [hne, hall] at h
  · next h =>
    simp only [Bool.or_eq_true, Bool.not_eq_true', List.isEmpty_iff, not_or,
      Bool.not_eq_false] at h
    split
    · next hle =>
      apply iff_of_false (by rintro ⟨⟩)
      rintro ⟨-, -, rfl, hlt⟩
      omega
    · next hlt =>
      constructor
      · rintro ⟨⟩
        exact ⟨h.1, h.2, rfl, Nat.lt_of_not_le hlt⟩
      · rintro ⟨-, -, rfl, -⟩
        rfl

theorem ne_plus_of_digits {digits : List Char} (h : ∀ c ∈ digits, '0' ≤ c ∧ c ≤ '9')
    (ds : List Char) :
  digits ≠ '+' :: ds
  := by
  rintro rfl
  have hlo := (h '+' List.mem_cons_self).1
  revert hlo
  decide

/-- Of the numerals those are read that denote a number of 64 bits. -/
theorem readUnsigned?_eq_some_iff {cs : List Char} {n : Nat} :
  readUnsigned? cs = some n ↔ IsNumeral cs n ∧ n < 2 ^ 64
  := by
  constructor
  · intro h
    by_cases hplus : ∃ ds, cs = '+' :: ds
    · obtain ⟨ds, rfl⟩ := hplus
      obtain ⟨hne, hdigits, rfl, hlt⟩ := readDigits?_eq_some_iff.1 h
      exact ⟨@IsNumeral.digits ['+'] ds (.inr rfl) hne hdigits, hlt⟩
    · rw [readUnsigned?_of_ne (not_exists.1 hplus)] at h
      obtain ⟨hne, hdigits, rfl, hlt⟩ := readDigits?_eq_some_iff.1 h
      exact ⟨@IsNumeral.digits [] cs (.inl rfl) hne hdigits, hlt⟩
  · rintro ⟨⟨rfl | rfl, hne, hdigits⟩, hlt⟩
    · rw [List.nil_append, readUnsigned?_of_ne (ne_plus_of_digits hdigits)]
      apply readDigits?_eq_some_iff.2 ⟨hne, hdigits, rfl, hlt⟩
    · rw [List.singleton_append, readUnsigned?_plus]
      apply readDigits?_eq_some_iff.2 ⟨hne, hdigits, rfl, hlt⟩

/-! ### White space around -/

theorem isBlank_of_isDigit {c : Char} (h : '0' ≤ c ∧ c ≤ '9') :
  isBlank c = false
  := by
  have hlo : 48 ≤ c.toNat := h.1
  have hhi : c.toNat ≤ 57 := h.2
  simp only [isBlank, Bool.or_eq_false_iff, Bool.and_eq_false_iff, decide_eq_false_iff_not,
    beq_eq_false_iff_ne]
  omega

theorem IsNumeral.ne_nil {text : List Char} {n : Nat} (h : IsNumeral text n) :
  text ≠ []
  := by
  obtain ⟨-, hne, -⟩ := h
  apply List.append_ne_nil_of_right_ne_nil _ hne

/-- Numerals have no white space. -/
theorem IsNumeral.isTrimmed {text : List Char} {n : Nat} (h : IsNumeral text n) :
  IsTrimmed text
  := by
  obtain ⟨hsign, -, hdigits⟩ := h
  next sign digits =>
  have hall : ∀ c ∈ sign ++ digits, isBlank c = false := by
    intro c hc
    rcases List.mem_append.1 hc with hc | hc
    · rcases hsign with rfl | rfl
      · cases hc
      · rw [List.mem_singleton.1 hc]
        rfl
    · apply isBlank_of_isDigit (hdigits c hc)
  constructor
  · intro c hc
    apply hall c (List.mem_of_head? hc)
  · intro c hc
    apply hall c (List.mem_of_getLast? hc)

/-- A text writes a number if and only if it is a numeral for it when it is trimmed. -/
theorem writes_iff_isNumeral_trim {value : String} {n : Nat} :
  Writes value n ↔ IsNumeral (trim value.toList) n
  := by
  constructor
  · rintro ⟨hvalue, hbefore, hafter, htext⟩
    rw [hvalue, trim_append_append hbefore hafter htext.ne_nil htext.isTrimmed]
    exact htext
  · intro h
    obtain ⟨before, after, hbefore, hafter, hvalue⟩ := exists_append_trim value.toList
    apply Writes.numeral hvalue hbefore hafter h

/-- The texts that are read are those that write a number of 64 bits. -/
theorem readUnsigned?_trim_eq_some_iff {value : String} {n : Nat} :
  readUnsigned? (trim value.toList) = some n ↔ Writes value n ∧ n < 2 ^ 64
  := by
  rw [readUnsigned?_eq_some_iff, writes_iff_isNumeral_trim]

/-! ### Settings -/

/-- The relation of the text of a setting with the error for it: one for zero, and one for all texts
that write no number, or none of 64 bits. -/
inductive Offends (setting value : String) : Error → Prop
  | zero : Writes value 0 → Offends setting value (.config (.zero setting))
  | notPositive : (∀ n, Writes value n → 2 ^ 64 ≤ n) →
      Offends setting value (.config (.notPositive setting value))

/-- The relation of a setting, which may have a text, with the number that it is set to: the positive
number of 64 bits that the text writes, or the default without one. -/
inductive Sets (default : Nat) : Option String → Nat → Prop
  | unset : Sets default none default
  | written {value : String} {n : Nat} :
      Writes value n → 1 ≤ n → n < 2 ^ 64 → Sets default (some value) n

theorem readPositive_eq_ok_iff {setting value : String} {n : Nat} :
  readPositive setting value = .ok n ↔ Writes value n ∧ 1 ≤ n ∧ n < 2 ^ 64
  := by
  rw [and_left_comm, ← readUnsigned?_trim_eq_some_iff, readPositive]
  split
  · next hnone => simp [hnone]
  · next hzero =>
    simp only [hzero, reduceCtorEq, Option.some.injEq, false_iff]
    omega
  · next k hk hsome =>
    have hpos : k ≠ 0 := hk
    simp only [hsome, Except.ok.injEq, Option.some.injEq]
    omega

theorem readPositive_eq_error_iff {setting value : String} {e : Error} :
  readPositive setting value = .error e ↔ Offends setting value e
  := by
  constructor
  · intro h
    rw [readPositive] at h
    split at h
    · next hnone =>
      cases h
      apply Offends.notPositive
      intro n hn
      by_contra hlt
      have hsome := readUnsigned?_trim_eq_some_iff.2 ⟨hn, Nat.lt_of_not_le hlt⟩
      rw [hnone] at hsome
      cases hsome
    · next hzero =>
      cases h
      apply Offends.zero (readUnsigned?_trim_eq_some_iff.1 hzero).1
    · cases h
  · rintro (hzero | hlarge)
    · rw [readPositive, readUnsigned?_trim_eq_some_iff.2 ⟨hzero, by decide⟩]
      rfl
    · have hnone : readUnsigned? (trim value.toList) = none := by
        apply Option.eq_none_iff_forall_ne_some.2
        intro n hn
        obtain ⟨hwrites, hlt⟩ := readUnsigned?_trim_eq_some_iff.1 hn
        have := hlarge n hwrites
        omega
      rw [readPositive, hnone]

theorem readOr_eq_ok_iff (setting : String) {default n : Nat} {raw : Option String} :
  readOr setting default raw = .ok n ↔ Sets default raw n
  := by
  cases raw with
  | none =>
      constructor
      · rintro ⟨⟩
        apply Sets.unset
      · rintro ⟨⟩
        rfl
  | some value =>
      rw [readOr, readPositive_eq_ok_iff]
      constructor
      · rintro ⟨hwrites, hpos, hlt⟩
        apply Sets.written hwrites hpos hlt
      · rintro (_ | ⟨hwrites, hpos, hlt⟩)
        exact ⟨hwrites, hpos, hlt⟩

theorem readOr_eq_error_iff {setting : String} (default : Nat) {raw : Option String} {e : Error} :
  readOr setting default raw = .error e ↔ ∃ value, raw = some value ∧ Offends setting value e
  := by
  cases raw with
  | none => simp [readOr]
  | some value => simp [readOr, readPositive_eq_error_iff]

/-- The settings are read one after the other. -/
theorem read_eq_bind (concurrency timeout : Option String) :
  read concurrency timeout =
    (readOr concurrencyName 4 concurrency).bind fun n =>
      (readOr timeoutName 30 timeout).map fun k => ⟨n, k⟩
  := by
  have hfirst : readOr concurrencyName ({} : Settings).concurrency concurrency
      = readOr concurrencyName 4 concurrency := rfl
  rw [read, hfirst]
  cases readOr concurrencyName 4 concurrency <;> rfl

theorem read_eq_ok_iff {concurrency timeout : Option String} {s : Settings} :
  read concurrency timeout = .ok s ↔
    Sets 4 concurrency s.concurrency ∧ Sets 30 timeout s.timeoutSeconds
  := by
  rw [read_eq_bind]
  constructor
  · intro h
    obtain ⟨n, hn, h⟩ := exists_of_bind_eq_ok h
    obtain ⟨k, hk, rfl⟩ := exists_of_map_eq_ok h
    exact ⟨(readOr_eq_ok_iff _).1 hn, (readOr_eq_ok_iff _).1 hk⟩
  · rintro ⟨hconcurrency, htimeout⟩
    rw [(readOr_eq_ok_iff _).2 hconcurrency]
    apply map_eq_ok_iff.2 ⟨s.timeoutSeconds, (readOr_eq_ok_iff _).2 htimeout, rfl⟩

theorem read_eq_error_iff {concurrency timeout : Option String} {e : Error} :
  read concurrency timeout = .error e ↔
    (∃ value, concurrency = some value ∧ Offends concurrencyName value e) ∨
      (∃ n, Sets 4 concurrency n) ∧
        ∃ value, timeout = some value ∧ Offends timeoutName value e
  := by
  rw [read_eq_bind, ← readOr_eq_error_iff 4, ← readOr_eq_error_iff 30]
  simp only [← readOr_eq_ok_iff concurrencyName]
  cases readOr concurrencyName 4 concurrency with
  | error e' => simp [Except.bind]
  | ok n => cases readOr timeoutName 30 timeout <;> simp [Except.bind, Except.map]

end Settings

/-- A setting that is not set is the default. One that is set is the number that its text writes, which
has to be positive and of 64 bits; the first setting for which that is not so is the one that is
complained about, and zero is told apart from all else that may be wrong. A number of pages at once
that is asked for is at least one. In a run it is at least one too, whatever it was set to: wherever the
run waits for a page, so many tasks are running, unless cancelling has been noticed or no URL is left to
start. -/
theorem Settings.read_exactly (concurrency timeout : Option String) :
  (∀ s, read concurrency timeout = .ok s ↔
      Sets 4 concurrency s.concurrency ∧ Sets 30 timeout s.timeoutSeconds) ∧
    (∀ e, read concurrency timeout = .error e ↔
      (∃ value, concurrency = some value ∧ Offends concurrencyName value e) ∨
        (∃ n, Sets 4 concurrency n) ∧
          ∃ value, timeout = some value ∧ Offends timeoutName value e) ∧
    (∀ (s : Settings) n, (s.withConcurrency n).concurrency = max n 1 ∧
      (s.withConcurrency n).timeoutSeconds = s.timeoutSeconds) ∧
    ∀ {ρ : Type} (p : Pipeline.Pool ρ) (σ : Pipeline.Schedule ρ) (urls : List String) s,
      Pipeline.Leads p σ (Pipeline.startPoint p urls) (.waiting s) →
        s.cancelled = true ∨ s.pending = [] ∨ s.running.length = max p.concurrency 1
  := by
  refine ⟨fun s => read_eq_ok_iff, fun e => read_eq_error_iff, fun s n => ⟨rfl, rfl⟩, ?_⟩
  intro ρ p σ urls s h
  apply Pipeline.full_of_leads h

example : Settings.read (some " +007\u3000") none = .ok { concurrency := 7 } := by decide

end PageModel
