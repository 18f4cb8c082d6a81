import ObjectStorage.Proofs.Environment.GivenText
import ObjectStorage.Proofs.Text.LetterCase

/-!
# Variables for names

* `Transport.parse_eq_ok_iff`, `Transport.parse_eq_error_iff`: a text has the transport whose name it spells, and
  a text that spells none is a fault that holds the text.
* `Environment.TakesNames`: how a variable fares with a text, if its values have names: it takes the value whose
  name the text spells, and refuses a text that spells none.
* `Environment.names_of_text`: the variables for the transport and for the mode are such.
-/

namespace ObjectStorage

open ObjectStorage.Text

variable {s : String}

/-! ## Transports and modes -/

namespace Transport

theorem isNameLetter_of_mem_name (t : Transport) : ∀ d ∈ t.name.toList, IsNameLetter d :=
  forall_isNameLetter (by cases t <;> decide)

/-- A text has the transport whose name it spells. -/
theorem parse?_eq_some_iff {t : Transport} : parse? s = some t ↔ Spells s t.name := by
  refine folded?_eq_some_iff (fun t => ?_) isNameLetter_of_mem_name fun _ _ => name_injective
  cases t <;> decide

theorem parse_eq_ok_iff {t : Transport} : parse s = .ok t ↔ Spells s t.name := by
  rw [← parse?_eq_some_iff, parse]
  cases parse? s <;> simp

/-- A text that spells no transport is a fault, and the fault holds the text as it is. -/
theorem parse_eq_error_iff {e : Fault} :
    parse s = .error e ↔ (∀ t : Transport, ¬ Spells s t.name) ∧ e = .unknownTransport s := by
  simp only [← parse?_eq_some_iff, parse]
  cases parse? s <;> simp [eq_comm]

end Transport

namespace RequesterPays.Mode

theorem isNameLetter_of_mem_name (m : Mode) : ∀ d ∈ m.name.toList, IsNameLetter d :=
  forall_isNameLetter (by cases m <;> decide)

/-- A text has the mode whose name it spells. -/
theorem parse?_eq_some_iff {m : Mode} : parse? s = some m ↔ Spells s m.name := by
  refine folded?_eq_some_iff (fun m => ?_) isNameLetter_of_mem_name fun _ _ => name_injective
  cases m <;> decide

end RequesterPays.Mode

namespace Environment

/-! ## Variables whose values have names -/

/-- How a variable fares with a text, if its values have names. -/
structure TakesNames {α : Type} (v : Variable) (s : String) (get : Settings → α) (naming : α → String)
    (reason : String) : Prop where
  /-- It takes the value whose name the text spells, if the other variables can be read. -/
  taken : ∀ (env : Environment) a, Spells s (naming a) → env.HasText v s →
    (∀ u, u ≠ v → ∃ o, env.read? u = .ok o) → ∃ t, env.settings = .ok t ∧ get t = a
  /-- Where there are settings, the text spells the name of their value. -/
  spelled : ∀ (env : Environment) t, env.HasText v s → env.settings = .ok t → Spells s (naming (get t))
  /-- It refuses a text that spells no name, unless a variable in front of it fails. -/
  refused : (∀ a, ¬ Spells s (naming a)) → ∀ env : Environment, env.HasText v s →
    (∀ u, [u, v].Sublist Variable.all → ∃ o, env.read? u = .ok o) →
    env.settings = .error (.configuration ⟨v.name, "is invalid: " ++ reason⟩)

variable {α : Type} {v : Variable} {get : Settings → α} {naming : α → String} {reason : String}

/-- A variable takes names if reading finds the value whose name is spelled. -/
theorem TakesNames.of_read (value : v.Value → α)
    (hget : ∀ t x, v.part t = v.form.part x → get t = value x)
    (hread : ∀ a, (∃ x, v.form.read (.text s) = .ok x ∧ value x = a) ↔ Spells s (naming a))
    (hreason : ∀ u, v.form.read (.text s) = .error u → u.message = reason) :
    TakesNames v s get naming reason where
  taken env a ha hs hothers := by
    obtain ⟨x, hx, hvalue⟩ := (hread a).mpr ha
    obtain ⟨t, ht, hpart⟩ := part_of_readable hs hothers hx
    exact ⟨t, ht, (hget t x hpart).trans hvalue⟩
  spelled env t hs ht := by
    obtain ⟨x, hx, hpart⟩ := readable_of_settings hs ht
    exact (hread _).mp ⟨x, hx, (hget t x hpart).symm⟩
  refused hnone env hs hbefore := by
    cases hx : v.form.read (.text s) with
    | ok x => exact absurd ((hread _).mp ⟨x, hx, rfl⟩) (hnone _)
    | error u =>
      rw [settings_of_unreadable hs hx hbefore, fault, hreason u hx]

theorem takesNames_transport (s : String) :
    TakesNames .transport s (·.transport) Transport.name
      ("Value error, " ++ (Fault.unknownTransport s).message) := by
  refine .of_read id (fun t x hpart => hpart) (fun t => ?_) fun u hu => ?_
  · rw [← Transport.parse?_eq_some_iff]
    show (∃ x, Variable.Form.readTransport (.text s) = .ok x ∧ x = t) ↔ _
    rw [exists_eq_right, Variable.Form.readTransport]
    cases Transport.parse? s <;> simp
  · have hread : Variable.Form.readTransport (.text s) = .error u := hu
    rw [Variable.Form.readTransport] at hread
    cases hparse : Transport.parse? s <;> rw [hparse] at hread <;> cases hread
    rfl

theorem takesNames_mode (s : String) :
    TakesNames .payerMode s (·.requesterPays.mode) RequesterPays.Mode.name
      "Input should be 'disabled', 'enabled', 'auto' or 'custom'" := by
  refine .of_read id (fun t x hpart => hpart) (fun m => ?_) fun u hu => ?_
  · rw [← RequesterPays.Mode.parse?_eq_some_iff]
    show (∃ x, Variable.Form.readMode (.text s) = .ok x ∧ x = m) ↔ _
    rw [exists_eq_right, Variable.Form.readMode]
    cases RequesterPays.Mode.parse? s <;> simp
  · have hread : Variable.Form.readMode (.text s) = .error u := hu
    rw [Variable.Form.readMode] at hread
    cases hparse : RequesterPays.Mode.parse? s <;> rw [hparse] at hread <;> cases hread
    rfl

/-! ## Texts and names -/

/-- **The texts that a name is read from.** A text has the transport whose name it spells: less its outer blanks
it is that name, up to the case of the letters of ASCII. A text that spells none is a fault of the sort of
values, which quotes the text as it is. No text with a character outside ASCII between its outer blanks spells
the name of a transport or of a mode.
The variables for the transport and for the mode take the names that the text spells and no others: the first
refuses a text with the wording of that fault, the second with the names of the modes. -/
theorem names_of_text (s : String) :
    (∀ t, Transport.parse s = .ok t ↔ Spells s t.name) ∧
    (∀ e, Transport.parse s = .error e ↔
      (∀ t : Transport, ¬ Spells s t.name) ∧ e = .unknownTransport s) ∧
    ((Fault.unknownTransport s).kind = .value ∧ (Fault.unknownTransport s).message =
      "Unknown transport type '" ++ s ++ "'; expected one of: urllib3, crt") ∧
    (∀ cs, IsCore isOuterBlank s.toList cs →
      ((∃ t : Transport, Spells s t.name) ∨ ∃ m : RequesterPays.Mode, Spells s m.name) →
      ∀ c ∈ cs, c.toNat < 128) ∧
    TakesNames .transport s (·.transport) Transport.name
      ("Value error, " ++ (Fault.unknownTransport s).message) ∧
    TakesNames .payerMode s (·.requesterPays.mode) RequesterPays.Mode.name
      "Input should be 'disabled', 'enabled', 'auto' or 'custom'" := by
  refine ⟨fun t => Transport.parse_eq_ok_iff, fun e => Transport.parse_eq_error_iff, ⟨rfl, rfl⟩, ?_,
    takesNames_transport s, takesNames_mode s⟩
  rintro cs hcs (⟨t, ht⟩ | ⟨m, hm⟩)
  · exact ht.ascii (fun d hd => (t.isNameLetter_of_mem_name d hd).ascii) hcs
  · exact hm.ascii (fun d hd => (m.isNameLetter_of_mem_name d hd).ascii) hcs

/-- A name between a control character and a wide blank, in mixed case. -/
def mixedName : String := "\x1f CrT\u3000"

/-- A name with a capital that has two characters in lower case, of which the first is in ASCII. -/
def dottedName : String := "D\u0130SABLED"

theorem spells_mixedName : Spells mixedName Transport.crt.name :=
  Transport.parse?_eq_some_iff.mp (by decide)

theorem not_spells_dottedName (m : RequesterPays.Mode) : ¬ Spells dottedName m.name := by
  rw [← RequesterPays.Mode.parse?_eq_some_iff]
  cases m <;> decide

theorem names_of_mixedName :
    Transport.parse mixedName = .ok .crt ∧
    (∃ t, (ofTexts [(Variable.transport.name, mixedName)]).settings = .ok t ∧ t.transport = .crt) ∧
    (ofTexts [(Variable.payerMode.name, dottedName)]).settings =
      .error (.configuration ⟨Variable.payerMode.name,
        "is invalid: Input should be 'disabled', 'enabled', 'auto' or 'custom'"⟩) := by
  obtain ⟨hparse, -, -, -, htransport, -⟩ := names_of_text mixedName
  obtain ⟨-, -, -, -, -, hmode⟩ := names_of_text dottedName
  refine ⟨(hparse .crt).mpr spells_mixedName, ?_, ?_⟩
  · exact htransport.taken _ .crt spells_mixedName (hasText_single (by decide))
      fun u hu => ⟨none, read?_single_of_ne hu⟩
  · have hbefore : ∀ u, [u, Variable.payerMode].Sublist Variable.all → u ≠ .payerMode := by
      rintro u hpair rfl
      exact absurd (Variable.nodup_all.sublist hpair) (by decide)
    exact hmode.refused not_spells_dottedName _ (hasText_single (by decide))
      fun u hpair => ⟨none, read?_single_of_ne (hbefore u hpair)⟩

end Environment

end ObjectStorage
