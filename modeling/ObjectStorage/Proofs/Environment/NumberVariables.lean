import ObjectStorage.Proofs.Environment.GivenText
import ObjectStorage.Proofs.Environment.IntegerText

/-!
# Variables for numbers

* `Variable.number?`: the number that a variable's part of some settings is.
* `Environment.number_of_read`, `Environment.read_of_settings`: the number is what is read from the text.
* `Environment.number_of_text`: the texts that a variable for a number takes and the numbers it has from them.
-/

namespace ObjectStorage

open ObjectStorage.Text ObjectStorage.Text.Numeral ObjectStorage.IntegerText

/-! ## Numbers in settings -/

namespace Variable

/-- The number that a part of some settings is, if the form is that of a number. -/
def Form.number? : (k : Form) → k.Part → Option Int
  | .number, n => some n
  | _, _ => none

/-- The number that a variable's part of some settings is, if the variable is for a number. -/
def number? (v : Variable) (t : Settings) : Option Int := v.form.number? (v.part t)

variable {k : Form} {s : String} {n : Int}

theorem Form.read_of_number (hk : k = .number) (h : IntegerText.read s = .ok n) :
    ∃ x, k.read (.text s) = .ok x ∧ k.number? (k.part x) = some n := by
  subst hk
  refine ⟨n, ?_, rfl⟩
  show Form.readNumber (.text s) = .ok n
  rw [readNumber, h]

theorem Form.number_of_read (hk : k = .number) {x : k.Value} (h : k.read (.text s) = .ok x) :
    ∃ n, IntegerText.read s = .ok n ∧ k.number? (k.part x) = some n := by
  subst hk
  refine ⟨x, ?_, rfl⟩
  have hread : Form.readNumber (.text s) = .ok x := h
  cases hs : IntegerText.read s with
  | ok m =>
    rw [readNumber, hs] at hread
    rw [← Except.ok.inj hread]
  | error e => cases e <;> simp [readNumber, hs] at hread

theorem Form.unreadable_of_read (hk : k = .number) {u : Unreadable} (h : k.read (.text s) = .error u) :
    u = .numeral ∨ u = .numeralTooLong := by
  subst hk
  have hread : Form.readNumber (.text s) = .error u := h
  cases hs : IntegerText.read s with
  | ok m => simp [readNumber, hs] at hread
  | error e =>
    cases e with
    | malformed =>
      rw [readNumber, hs] at hread
      exact .inl (Except.error.inj hread).symm
    | tooLong =>
      rw [readNumber, hs] at hread
      exact .inr (Except.error.inj hread).symm

end Variable

/-! ## Environments -/

namespace Environment

variable {env : Environment} {v : Variable} {s : String} {t : Settings} {n : Int}

/-- A text that is read as an integer gives that number. -/
theorem number_of_read (hv : v.form = .number) (hs : env.HasText v s)
    (hothers : ∀ u, u ≠ v → ∃ o, env.read? u = .ok o) (h : IntegerText.read s = .ok n) :
    ∃ t, env.settings = .ok t ∧ v.number? t = some n := by
  obtain ⟨x, hx, hn⟩ := Variable.Form.read_of_number hv h
  obtain ⟨t, ht, hpart⟩ := part_of_readable hs hothers hx
  refine ⟨t, ht, ?_⟩
  rw [Variable.number?, hpart]
  exact hn

/-- Where a variable for a number has a text and there are settings, the text is read as their number. -/
theorem read_of_settings (hv : v.form = .number) (hs : env.HasText v s) (ht : env.settings = .ok t) :
    ∃ n, IntegerText.read s = .ok n ∧ v.number? t = some n := by
  obtain ⟨x, hx, hpart⟩ := readable_of_settings hs ht
  obtain ⟨n, hn, hnumber⟩ := Variable.Form.number_of_read hv hx
  refine ⟨n, hn, ?_⟩
  rw [Variable.number?, hpart]
  exact hnumber

/-- A text with which there are no settings cannot be read. -/
theorem read?_of_no_settings (hv : v.form = .number) (hs : env.HasText v s)
    (hnone : ∀ (env : Environment) t, env.HasText v s → env.settings ≠ .ok t) :
    ∃ u, (u = .numeral ∨ u = .numeralTooLong) ∧ env.read? v = .error (fault v u) := by
  cases hread : v.form.read (.text s) with
  | ok x =>
    obtain ⟨n, hn, -⟩ := Variable.Form.number_of_read hv hread
    -- then there are settings where nothing else is set
    have hsingle : (ofTexts [(v.name, s)]).HasText v s := hasText_single hs.2
    obtain ⟨t, ht, -⟩ := number_of_read hv hsingle (fun u hu => ⟨none, read?_single_of_ne hu⟩) hn
    exact absurd ht (hnone _ t hsingle)
  | error u =>
    exact ⟨u, Variable.Form.unreadable_of_read hv hread,
      read?_eq_error_iff.mpr ⟨_, u, given?_of_hasText hs, hread, rfl⟩⟩

/-! ## Texts and numbers -/

/-- **The numerals that a variable takes, and the numbers it has from them.** Let a variable be for a number.
A numeral of an integer that is not too long gives that integer, if the other variables can be read; and the
decimal text of an integer is a numeral of it.
Where the variable has a text and there are settings, their number has at most `digitLimit` digits, and the
text, less its outer blanks, is plain or has a late minus sign, with that number.
A text with which there are no settings is a fault that names the variable, unless one in front of it fails. -/
theorem number_of_text (hv : v.form = .number) (s : String) :
    (∀ (env : Environment) n, IsNumeral n s.toList → s.toList.length ≤ digitLimit → env.HasText v s →
      (∀ u, u ≠ v → ∃ o, env.read? u = .ok o) → ∃ t, env.settings = .ok t ∧ v.number? t = some n) ∧
    (∀ n, IsNumeral n (integer n)) ∧
    (∀ (env : Environment) t, env.HasText v s → env.settings = .ok t →
      ∃ n core, v.number? t = some n ∧ (digits n.natAbs).length ≤ digitLimit ∧
        IsCore isBlank s.toList core ∧ (IsPlain n core ∨ IsLate n core)) ∧
    ((∀ (env : Environment) t, env.HasText v s → env.settings ≠ .ok t) →
      ∀ env : Environment, env.HasText v s →
        (∀ u, [u, v].Sublist Variable.all → ∃ o, env.read? u = .ok o) →
        ∃ u, (u = .numeral ∨ u = .numeralTooLong) ∧ env.settings = .error (.configuration (fault v u))) := by
  refine ⟨?_, isNumeral_integer, ?_, ?_⟩
  · intro env n hn hlen hs hothers
    have hdigits := Nat.le_trans (List.length_filter_le isDigit s.toList) hlen
    exact number_of_read hv hs hothers (read_of_isNumeral hn hdigits)
  · intro env t hs ht
    obtain ⟨n, hn, hnumber⟩ := read_of_settings hv hs ht
    obtain ⟨core, hcore, hform⟩ := isPlain_or_isLate_of_read hn
    exact ⟨n, core, hnumber, length_digits_of_read hn, hcore, hform⟩
  · intro hnone env hs hbefore
    obtain ⟨u, hu, hread⟩ := read?_of_no_settings hv hs hnone
    exact ⟨u, hu, settings_of_fault hread hbefore⟩

/-- Blanks, a sign, leading zeros, underscores and a fraction. -/
def paddedNumeral : String := " +0_01_2.0\u2003"

/-- Two underscores behind a digit that is not a leading zero. -/
def doubledUnderscore : String := "1__2"

theorem isNumeral_paddedNumeral : IsNumeral 12 paddedNumeral.toList := by
  have hblank : ∀ c ∈ [' '] ++ ['\u2003'], isBlank c = true :=
    List.forall_mem_cons.mpr ⟨rfl, List.forall_mem_singleton.mpr rfl⟩
  have hbody : Spaced "0_01_2".toList (List.replicate 2 '0' ++ digits 12) :=
    .gap rfl (.next rfl (.gap rfl (.one rfl)))
  exact ⟨_, ['+'], _, ".0".toList, _, 2, rfl, hblank, .plus, hbody, .inr ⟨0, rfl⟩⟩

theorem number_of_paddedNumeral :
    (∃ t, (ofTexts [(Variable.batchThreads.name, paddedNumeral)]).settings = .ok t ∧
      Variable.batchThreads.number? t = some 12 ∧
      ∃ core, IsCore isBlank paddedNumeral.toList core ∧ (IsPlain 12 core ∨ IsLate 12 core)) ∧
    (ofTexts [(Variable.batchThreads.name, doubledUnderscore)]).settings =
      .error (.configuration (fault .batchThreads .numeral)) := by
  constructor
  · obtain ⟨htaken, -, hform, -⟩ := number_of_text (v := .batchThreads) rfl paddedNumeral
    have hs : (ofTexts [(Variable.batchThreads.name, paddedNumeral)]).HasText .batchThreads paddedNumeral :=
      hasText_single (by decide)
    obtain ⟨t, ht, hn⟩ := htaken _ 12 isNumeral_paddedNumeral (by decide) hs
      fun u hu => ⟨none, read?_single_of_ne hu⟩
    obtain ⟨n, core, hn', -, hcore⟩ := hform _ t hs ht
    obtain rfl : 12 = n := Option.some.inj (hn.symm.trans hn')
    exact ⟨t, ht, hn, core, hcore⟩
  · obtain ⟨-, -, -, hfault⟩ := number_of_text (v := .batchThreads) rfl doubledUnderscore
    have hmalformed : IntegerText.read doubledUnderscore = .error .malformed := rfl
    have hnone : ∀ (env : Environment) t, env.HasText .batchThreads doubledUnderscore →
        env.settings ≠ .ok t := by
      intro env t hs ht
      obtain ⟨n, hn, -⟩ := read_of_settings rfl hs ht
      rw [hmalformed] at hn
      cases hn
    have hbefore : ∀ u, [u, Variable.batchThreads].Sublist Variable.all → u ≠ .batchThreads := by
      rintro u hpair rfl
      exact absurd (Variable.nodup_all.sublist hpair) (by decide)
    obtain ⟨u, rfl | rfl, hu⟩ := hfault hnone _ (hasText_single (by decide))
      fun u hpair => ⟨none, read?_single_of_ne (hbefore u hpair)⟩
    · exact hu
    · exact absurd hu (by decide)

/-- A minus sign behind a zero. -/
def lateMinus : String := "0-5"

/-- A text with a late minus sign is taken, with a number that no plain text has. -/
theorem number_of_lateMinus :
    ∃ t, (ofTexts [(Variable.batchThreads.name, lateMinus)]).settings = .ok t ∧
      Variable.batchThreads.number? t = some (-5) ∧
      ∀ n core, IsCore isBlank lateMinus.toList core → ¬ IsPlain n core := by
  refine ⟨_, rfl, rfl, fun n core hcore => ?_⟩
  have hkept : trim isBlank lateMinus.toList = lateMinus.toList := rfl
  have hbody : IsDigitText ['5'] := (Spaced.one rfl).isDigitText
  have hlate : IsLate (-5) lateMinus.toList :=
    ⟨[], [], [], ['5'], [], rfl, .none, by simp, .inl rfl, hbody, .inr (by simp), .inl rfl, rfl⟩
  rw [← trim_eq_iff.mpr hcore, hkept]
  exact hlate.not_isPlain

end Environment

end ObjectStorage
