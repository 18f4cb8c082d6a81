import ObjectStorage.Proofs.Command.Endings
import ObjectStorage.Proofs.Document.Alike
import ObjectStorage.Proofs.Document.Numbers
import ObjectStorage.Proofs.Document.Outline

/-!
# Settings that plain text identifies

* `Settings.IsLegible`: settings whose texts keep to their lines and are none of the words for what is missing,
  and whose integers can be written.
* `Kind.toldApart`: an outline tells two legible values of one kind apart.
* `Settings.print_of_isLegible`: legible settings are printed.
* `Command.display_eq_iff`: two legible settings print the same plain text exactly if they are equal.
-/

namespace ObjectStorage

open ObjectStorage.Outline ObjectStorage.Text.Numeral

/-! ## Values -/

/-- A requester-pays value whose project is legible, with bucket names that can be told from their neighbours
and are not the word for no names. -/
structure RequesterPays.IsLegible (r : RequesterPays) : Prop where
  project : ∀ p ∈ r.project, Outline.IsLegible p
  names : ∀ name ∈ r.buckets.names, IsItem name
  names_ne : r.buckets.names ≠ ["(none)"]

/-- A value whose texts are legible; numbers, words and write channels always are. -/
def Kind.IsLegible : (k : Kind) → k.Value → Prop
  | .text, o => ∀ s ∈ o, Outline.IsLegible s
  | .flag, _ => True
  | .number, _ => True
  | .transport, _ => True
  | .writeChannel, _ => True
  | .requesterPays, r => r.IsLegible

instance (r : RequesterPays) : Decidable r.IsLegible :=
  decidable_of_iff ((∀ p ∈ r.project, Outline.IsLegible p) ∧ (∀ name ∈ r.buckets.names, IsItem name) ∧
      r.buckets.names ≠ ["(none)"])
    ⟨fun ⟨hproject, hnames, hne⟩ => ⟨hproject, hnames, hne⟩, fun h => ⟨h.project, h.names, h.names_ne⟩⟩

instance : (k : Kind) → DecidablePred k.IsLegible
  | .text => fun o => inferInstanceAs (Decidable (∀ s ∈ o, Outline.IsLegible s))
  | .flag => fun _ => inferInstanceAs (Decidable True)
  | .number => fun _ => inferInstanceAs (Decidable True)
  | .transport => fun _ => inferInstanceAs (Decidable True)
  | .writeChannel => fun _ => inferInstanceAs (Decidable True)
  | .requesterPays => fun r => inferInstanceAs (Decidable r.IsLegible)

theorem Transport.unbroken_name (t : Transport) : '\n' ∉ t.name.toList := by
  cases t <;> decide

theorem RequesterPays.Mode.unbroken_name (m : Mode) : '\n' ∉ m.name.toList := by
  cases m <;> decide

variable {depth : Nat}

theorem WriteChannel.toldApart (w w' : WriteChannel) : ToldApart depth w.document w'.document :=
  toldApart_object <|
    .cons ⟨rfl, toldApart_number w.bufferSize w'.bufferSize⟩ <|
    .cons ⟨rfl, toldApart_number w.pipeBufferSize w'.pipeBufferSize⟩ <|
    .cons ⟨rfl, toldApart_number w.uploadChunkSize w'.uploadChunkSize⟩ <|
    .cons ⟨rfl, toldApart_flag w.directUpload w'.directUpload⟩ .nil

theorem RequesterPays.toldApart {r r' : RequesterPays} (h : r.IsLegible) (h' : r'.IsLegible) :
    ToldApart depth r.document r'.document :=
  toldApart_object <|
    .cons ⟨rfl, toldApart_text r.mode.unbroken_name r'.mode.unbroken_name⟩ <|
    .cons ⟨rfl, toldApart_ofOption h.project h'.project⟩ <|
    .cons ⟨rfl, toldApart_list h.names h'.names h.names_ne h'.names_ne⟩ .nil

/-- An outline tells two legible values of one kind apart. -/
theorem Kind.toldApart {k : Kind} {v v' : k.Value} (h : k.IsLegible v) (h' : k.IsLegible v') :
    ToldApart depth (k.document v) (k.document v') := by
  cases k with
  | text => exact toldApart_ofOption h h'
  | flag => exact toldApart_flag v v'
  | number => exact toldApart_number v v'
  | transport => exact toldApart_text v.unbroken_name v'.unbroken_name
  | writeChannel => exact WriteChannel.toldApart v v'
  | requesterPays => exact RequesterPays.toldApart h h'

/-! ## Settings -/

namespace Settings

/-- Settings with legible values and with integers that can be written. -/
structure IsLegible (s : Settings) : Prop where
  fields : ∀ f : Field, f.kind.IsLegible (s.get f)
  numbers : ∀ n ∈ s.document.numbers, (digits n.natAbs).length ≤ digitLimit

variable {s s' : Settings}

theorem entriesToldApart (h : s.IsLegible) (h' : s'.IsLegible) :
    EntriesToldApart depth s.entries s'.entries := by
  refine List.forall₂_map_left_iff.mpr (List.forall₂_map_right_iff.mpr (List.forall₂_same.mpr ?_))
  intro f _
  exact ⟨rfl, Kind.toldApart (h.fields f) (h'.fields f)⟩

/-- Legible settings with the same outline are equal. -/
theorem eq_of_outline (h : s.IsLegible) (h' : s'.IsLegible) (heq : s.entries.outline = s'.entries.outline) :
    s = s' := by
  have hentries := outline_inj (entriesToldApart h h') heq
  refine Settings.alike_document_iff.mp ?_
  rw [document, hentries]
  exact Document.alike_refl _

/-- Legible settings are printed as their outline. -/
theorem print_of_isLegible (h : s.IsLegible) : s.entries.print false = .ok s.entries.outline := by
  refine if_pos ((Document.entriesWritable_iff _).mpr fun n hn => ?_)
  exact isWritable_iff.mpr (h.numbers n hn)

end Settings

namespace Command

variable {s s' : Settings}

/-- **Plain text identifies settings.** Let the texts of two settings be none of the words for what is missing,
keep to their lines, and as bucket names be nonempty and without commas; and let their integers have at most
`digitLimit` digits. Then both are printed, and the same text is printed exactly if the settings are equal, also
by `show` in environments with these settings. -/
theorem display_eq_iff (hs : s.IsLegible) (hs' : s'.IsLegible) :
    (∃ text text', s.entries.print false = .ok text ∧ s'.entries.print false = .ok text' ∧
      (text = text' ↔ s = s')) ∧
    ∀ env env' : Environment, env.settings = .ok s → env'.settings = .ok s' →
      ((Report.display env false).stdout = (Report.display env' false).stdout ↔ s = s') := by
  have hprint := Settings.print_of_isLegible hs
  have hprint' := Settings.print_of_isLegible hs'
  have hiff : s.entries.outline = s'.entries.outline ↔ s = s' :=
    ⟨Settings.eq_of_outline hs hs', fun heq => by rw [heq]⟩
  refine ⟨⟨_, _, hprint, hprint', hiff⟩, fun env env' henv henv' => ?_⟩
  rw [Report.display_of_settings henv, Report.display_of_settings henv', hprint, hprint']
  exact hiff

/-- Settings with texts that look like words, keys and neighbours in a list. -/
def wordySettings : Settings :=
  { Settings.default with
    projectId := some "None"
    appName := some ""
    proxyAddress := some "proxy_address: (unset)"
    requesterPays := ⟨.custom, some "(none)", ⟨[" (none)", "(unset)"], by decide⟩⟩ }

theorem isLegible_default : Settings.default.IsLegible where
  fields f := by cases f <;> decide
  numbers := by decide

theorem isLegible_wordySettings : wordySettings.IsLegible where
  fields f := by cases f <;> decide
  numbers := by decide

theorem display_of_wordySettings :
    ∃ text text', Settings.default.entries.print false = .ok text ∧
      wordySettings.entries.print false = .ok text' ∧ text ≠ text' := by
  obtain ⟨⟨text, text', htext, htext', hiff⟩, -⟩ := display_eq_iff isLegible_default isLegible_wordySettings
  exact ⟨text, text', htext, htext', fun heq => absurd (hiff.mp heq) (by decide)⟩

end Command

end ObjectStorage
