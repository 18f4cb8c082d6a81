import Mathlib.Data.List.Forall2
import ObjectStorage.Workspace.Basic

/-!
# Documents as mappings

* `Document.Alike d d'`: the two are the same where the order of the keys does not count.
* `Document.alike_refl`: every document is like itself.
* `Settings.lookup_entries`: the document of settings holds the one of each field under its key.
* `Value.alike_document_iff`: finished values are equal exactly if their documents are alike, whatever the sort
  of the two.
-/

namespace ObjectStorage

namespace Document

/-- Two documents are the same as mappings: the same words, lists in the same order, and the same keys with
the same documents under them, in whatever order the keys stand. -/
inductive Alike : Document → Document → Prop
  | null : Alike .null .null
  | flag (b : Bool) : Alike (.flag b) (.flag b)
  | number (n : Int) : Alike (.number n) (.number n)
  | text (s : String) : Alike (.text s) (.text s)
  | list {ds ds' : List Document} : List.Forall₂ Alike ds ds' → Alike (.list ds) (.list ds')
  | object {es es' : Entries} : (∀ key, Option.Rel Alike (es.lookup key) (es'.lookup key)) →
      Alike (.object es) (.object es')

mutual

/-- Every document is like itself. -/
theorem alike_refl : (d : Document) → d.Alike d
  | .null => .null
  | .flag b => .flag b
  | .number n => .number n
  | .text s => .text s
  | .list ds => .list (alike_refl_items ds)
  | .object es => .object (alike_refl_entries es)

theorem alike_refl_items : (ds : List Document) → List.Forall₂ Alike ds ds
  | [] => .nil
  | d :: ds => .cons (alike_refl d) (alike_refl_items ds)

theorem alike_refl_entries : (es : Entries) → ∀ key, Option.Rel Alike (es.lookup key) (es.lookup key)
  | [], _ => .none
  | (k, d) :: es, key => by
    rw [List.lookup_cons]
    cases key == k with
    | true => exact .some (alike_refl d)
    | false => exact alike_refl_entries es key

end

/-! ## Words and lists -/

theorem alike_flag_iff {b b' : Bool} : (flag b).Alike (flag b') ↔ b = b' := by
  constructor
  · rintro ⟨⟩
    rfl
  · rintro rfl
    exact .flag b

theorem alike_number_iff {n n' : Int} : (number n).Alike (number n') ↔ n = n' := by
  constructor
  · rintro ⟨⟩
    rfl
  · rintro rfl
    exact .number n

theorem alike_text_iff {s s' : String} : (text s).Alike (text s') ↔ s = s' := by
  constructor
  · rintro ⟨⟩
    rfl
  · rintro rfl
    exact .text s

theorem alike_ofOption_iff {o o' : Option String} : (ofOption o).Alike (ofOption o') ↔ o = o' := by
  constructor
  · intro h
    cases o <;> cases o' <;> cases h <;> rfl
  · rintro rfl
    exact alike_refl _

/-- Lists of texts are alike if they hold the same texts in the same order. -/
theorem alike_texts_iff {names names' : List String} :
    (list (names.map .text)).Alike (list (names'.map .text)) ↔ names = names' := by
  constructor
  · intro h
    cases h with
    | list hitems =>
      rw [List.forall₂_map_left_iff, List.forall₂_map_right_iff] at hitems
      simpa only [alike_text_iff, List.forall₂_eq_eq_eq] using hitems
  · rintro rfl
    exact alike_refl _

/-! ## Objects -/

section Objects

variable {es es' : Entries}

/-- Under one key, alike objects hold alike documents. -/
theorem Alike.lookup (h : (Document.object es).Alike (Document.object es')) (key : String)
    {d d' : Document} (hd : es.lookup key = some d) (hd' : es'.lookup key = some d') : d.Alike d' := by
  cases h with
  | object hentries =>
    have hkey := hentries key
    rw [hd, hd'] at hkey
    cases hkey with
    | some halike => exact halike

/-- Objects of which one alone has a key are not alike. -/
theorem not_alike_of_lookup (key : String) (h : (es.lookup key).isSome ≠ (es'.lookup key).isSome) :
    ¬ (object es).Alike (object es') := by
  intro halike
  cases halike with
  | object hentries =>
    have hkey := hentries key
    generalize es.lookup key = o, es'.lookup key = o' at h hkey
    cases hkey <;> exact h rfl

end Objects

end Document

open Document

/-! ## Finished values -/

theorem WriteChannel.alike_document_iff {w w' : WriteChannel} :
    w.document.Alike w'.document ↔ w = w' := by
  constructor
  · intro h
    have hbuffer := alike_number_iff.mp (h.lookup "buffer_size" rfl rfl)
    have hpipe := alike_number_iff.mp (h.lookup "pipe_buffer_size" rfl rfl)
    have hchunk := alike_number_iff.mp (h.lookup "upload_chunk_size" rfl rfl)
    have hdirect := alike_flag_iff.mp (h.lookup "direct_upload_enabled" rfl rfl)
    obtain ⟨buffer, pipe, chunk, direct⟩ := w
    obtain ⟨buffer', pipe', chunk', direct'⟩ := w'
    obtain rfl : buffer = buffer' := hbuffer
    obtain rfl : pipe = pipe' := hpipe
    obtain rfl : chunk = chunk' := hchunk
    obtain rfl : direct = direct' := hdirect
    rfl
  · rintro rfl
    exact alike_refl _

theorem RequesterPays.alike_document_iff {r r' : RequesterPays} :
    r.document.Alike r'.document ↔ r = r' := by
  constructor
  · intro h
    have hmode := alike_text_iff.mp (h.lookup "mode" rfl rfl)
    have hproject := alike_ofOption_iff.mp (h.lookup "project_id" rfl rfl)
    have hbuckets := alike_texts_iff.mp (h.lookup "buckets" rfl rfl)
    obtain ⟨m, p, names, hnames⟩ := r
    obtain ⟨m', p', names', hnames'⟩ := r'
    obtain rfl : m = m' := Mode.name_injective hmode
    obtain rfl : p = p' := hproject
    obtain rfl : names = names' := hbuckets
    rfl
  · rintro rfl
    exact alike_refl _

/-- Two values of one kind are equal exactly if their documents are alike. -/
theorem Kind.alike_document_iff {k : Kind} {v v' : k.Value} :
    (k.document v).Alike (k.document v') ↔ v = v' := by
  cases k with
  | text => exact alike_ofOption_iff
  | flag => exact alike_flag_iff
  | number => exact alike_number_iff
  | transport => exact alike_text_iff.trans ⟨Transport.name_injective, congrArg Transport.name⟩
  | writeChannel => exact WriteChannel.alike_document_iff
  | requesterPays => exact RequesterPays.alike_document_iff

/-- The document of settings holds the one of each field under the key of the field. -/
theorem Settings.lookup_entries (s : Settings) (f : Field) :
    s.entries.lookup f.key = some (f.kind.document (s.get f)) := by
  cases f <;> rfl

theorem Settings.alike_document_iff {s s' : Settings} : s.document.Alike s'.document ↔ s = s' := by
  constructor
  · intro h
    refine Settings.ext_get fun f => Kind.alike_document_iff.mp ?_
    exact h.lookup f.key (s.lookup_entries f) (s'.lookup_entries f)
  · rintro rfl
    exact alike_refl _

/-- Two finished values are equal exactly if their documents are the same as mappings. -/
theorem Value.alike_document_iff {v v' : Value} : v.document.Alike v'.document ↔ v = v' := by
  cases v with
  | settings s =>
    cases v' with
    | settings s' =>
      rw [settings.injEq]
      exact Settings.alike_document_iff
    | writeChannel w' => exact iff_of_false (not_alike_of_lookup "buffer_size" nofun) nofun
    | requesterPays r' => exact iff_of_false (not_alike_of_lookup "mode" nofun) nofun
  | writeChannel w =>
    cases v' with
    | settings s' => exact iff_of_false (not_alike_of_lookup "buffer_size" nofun) nofun
    | writeChannel w' =>
      rw [writeChannel.injEq]
      exact WriteChannel.alike_document_iff
    | requesterPays r' => exact iff_of_false (not_alike_of_lookup "mode" nofun) nofun
  | requesterPays r =>
    cases v' with
    | settings s' => exact iff_of_false (not_alike_of_lookup "mode" nofun) nofun
    | writeChannel w' => exact iff_of_false (not_alike_of_lookup "mode" nofun) nofun
    | requesterPays r' =>
      rw [requesterPays.injEq]
      exact RequesterPays.alike_document_iff

end ObjectStorage
