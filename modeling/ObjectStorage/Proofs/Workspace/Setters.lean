import Mathlib.Data.List.Basic
import ObjectStorage.Proofs.Draft.Setting
import ObjectStorage.Proofs.Workspace.Recorded
import ObjectStorage.Proofs.Workspace.Traceless

/-!
# Runs of setters and of replacements

* `Given.read_congr`: names that stand for settings, or for nothing, are no values of a field.
* `NamesExist`: every finished value and every write-channel draft that has a name exists, as it does after
  every run.
* `run_set`, `run_setChannel`: setters on one draft change that draft alone, all of them as `setAll` says.
* `step_build_of_error`, `step_build_of_ok`: a build answers and adds the settings that it makes, and does
  nothing else.
* `value?_run_replace`, `value?_run_replaceChannel`: replacements under one name leave there what
  `replaceAll`, or `changeAll`, says.
-/

namespace ObjectStorage

/-! ## Changing a write channel -/

/-- The write channel with the settings of the given names changed, where their values can be used. -/
def WriteChannel.changeAll (w : WriteChannel) (xs : List (String × Given)) : WriteChannel :=
  xs.foldl (fun w x => ((change x.1 x.2).map w.apply).toOption.getD w) w

/-! ## Values by name -/

/-- The key of the field that a setter is for: the former name is for the marker files. -/
def Setter.key : Setter → String
  | field f => f.key
  | createMarkerObjects => "marker_file_creation_enabled"

theorem Setter.key_eq (x : Setter) : x.key = x.target.key := by
  cases x <;> rfl

/-- The step that replaces the field of a setter in the value of a name. -/
def Step.replacing (value : String) (x : Setting) : Step :=
  .replace value x.setter.key x.given value

/-- A finished value as it may be given for a field, which never holds settings. -/
def Value.part? : Value → Option Value
  | settings _ => none
  | v => some v

section Reading

variable {value? value?' : String → Option Value} {xs : List Setting}

/-- Of the value of a name, only the part that can be given for a field is read. -/
theorem Given.read_named (value? : String → Option Value) (name : String) (k : Kind) :
    (named name).read value? k = (named name).read (fun _ => (value? name).bind Value.part?) k := by
  cases k with
  | writeChannel =>
    simp only [read]
    rcases value? name with _ | (_ | _ | _) <;> rfl
  | requesterPays =>
    simp only [read]
    rcases value? name with _ | (_ | _ | _) <;> rfl
  | _ => rfl

/-- A given value is read alike wherever its name stands for the same part. -/
theorem Given.read_congr {x : Given}
    (h : ∀ name, x = .named name → (value? name).bind Value.part? = (value?' name).bind Value.part?)
    (k : Kind) : x.read value? k = x.read value?' k := by
  cases x with
  | named name => rw [read_named value?, read_named value?', h name rfl]
  | text s => cases k <;> first | rfl | (cases s <;> rfl)
  | _ => cases k <;> rfl

theorem Settings.replaceAll_congr
    (h : ∀ x ∈ xs, ∀ k, x.given.read value? k = x.given.read value?' k) (s : Settings) :
    s.replaceAll value? xs = s.replaceAll value?' xs := by
  refine List.foldl_ext _ _ s fun s x hx => ?_
  rw [replace_key, replace_key, h x hx]

end Reading

namespace Workspace

variable {ws : Workspace} {name : String}

/-! ## Names that stand for something -/

/-- Every finished value and every write-channel draft that has a name exists. -/
structure NamesExist (ws : Workspace) : Prop where
  values : ws.ValuesExist
  channels : ∀ name c, ws.channelDraft? name = some c → c < ws.channelDrafts.length

theorem namesExist_run (ss : List Step) : (empty.run ss).2.NamesExist where
  values := valuesExist_run ss (by simp [ValuesExist, object?, empty])
  channels := (recorded_run ss).named

@[simp] theorem value?_addValue_self (v : Value) : (ws.addValue name v).value? name = some v := by
  rw [value?, addValue, object?_bind_self]
  exact List.getElem?_concat_length

@[simp] theorem draft?_addDraft_self (d : Draft) :
    (ws.addDraft name d).draft? name = some (ws.drafts.length, d) := by
  rw [draft?, addDraft, object?_bind_self]
  show ((ws.drafts ++ [d])[ws.drafts.length]?).map _ = _
  rw [List.getElem?_concat_length]
  rfl

@[simp] theorem channelDraft?_addChannelDraft_self (w : WriteChannel) :
    (ws.addChannelDraft name w).channelDraft? name = some ws.channelDrafts.length := by
  rw [channelDraft?, addChannelDraft, object?_bind_self]

theorem value?_addDraft_of_ne {other : String} (h : other ≠ name) (d : Draft) :
    (ws.addDraft name d).value? other = ws.value? other := by
  have hobject : (ws.addDraft name d).object? other = ws.object? other := object?_bind_of_ne _ h _
  unfold value?
  rw [hobject]
  rfl

/-! ## Setters of a draft -/

section Drafts

variable {p : Nat} {d : Draft}

theorem draft?_putDraft (hd : ws.draft? name = some (p, d)) (d' : Draft) :
    (ws.putDraft p d').draft? name = some (p, d') := by
  obtain ⟨hname, hplace⟩ := draft?_eq_some_iff.mp hd
  exact draft?_eq_some_iff.mpr
    ⟨hname, List.getElem?_set_self (List.getElem?_eq_some_iff.mp hplace).1⟩

theorem putDraft_self (hd : ws.drafts[p]? = some d) : ws.putDraft p d = ws := by
  obtain ⟨hp, rfl⟩ := List.getElem?_eq_some_iff.mp hd
  rw [putDraft, List.set_getElem_self]

/-- A setter changes the draft of the name, if its value can be used, and nothing else. -/
theorem step_set (hd : ws.draft? name = some (p, d)) (x : Setting) :
    (ws.step (.set name x)).2 = ws.putDraft p ((d.applySetting ws.value? x).result.toOption.getD d) := by
  rw [step, setOn, hd]
  dsimp only
  cases h : (d.applySetting ws.value? x).result with
  | error e => exact (putDraft_self (getElem?_of_draft? hd)).symm
  | ok d' => rfl

/-- Setters change the draft of the name, all of them as `setAll` says, and nothing else. -/
theorem run_set (hd : ws.draft? name = some (p, d)) (xs : List Setting) :
    (ws.run (xs.map (.set name))).2 = ws.putDraft p (d.setAll ws.value? xs) := by
  induction xs generalizing ws d with
  | nil => exact (putDraft_self (getElem?_of_draft? hd)).symm
  | cons x xs ih =>
    rw [List.map_cons, run_cons, step_set hd, ih (draft?_putDraft hd _)]
    show { ws with drafts := (ws.drafts.set p _).set p _ } = { ws with drafts := ws.drafts.set p _ }
    rw [List.set_set]
    rfl

/-! ## Building -/

/-- A build that fails leaves the workspace as it is. -/
theorem step_build_of_error {e : Fault} (hd : ws.draft? name = some (p, d))
    (h : (d.build ws.content).result = .error e) (other : String) :
    ws.step (.build name other) = (⟨.error e, d.log, []⟩, ws) := by
  have hmade : ((d.build ws.content).map Value.settings).result = .error e := by
    rw [Outcome.map, h]
    rfl
  rw [step, buildOn, hd]
  dsimp only
  rw [keep, hmade]
  rfl

theorem step_build_of_ok {s : Settings} (hd : ws.draft? name = some (p, d))
    (h : (d.build ws.content).result = .ok s) (other : String) :
    ws.step (.build name other) =
      (⟨.ok (.value (.settings s)), d.log, []⟩, ws.addValue other (.settings s)) := by
  have hmade : (d.build ws.content).map Value.settings = ⟨.ok (.settings s), d.log, []⟩ := by
    rw [Outcome.map, h]
    rfl
  rw [step, buildOn, hd]
  dsimp only
  rw [hmade]
  rfl

/-- A build step answers what the draft of the name is built to. -/
theorem step_build_result (hd : ws.draft? name = some (p, d)) (other : String) :
    (ws.step (.build name other)).1.result = (d.build ws.content).result.map (.value <| .settings ·) := by
  cases h : (d.build ws.content).result with
  | error e => rw [step_build_of_error hd h, Except.map]
  | ok s => rw [step_build_of_ok hd h, Except.map]

theorem step_build_eq_ok_iff {s : Settings} {other : String} (hd : ws.draft? name = some (p, d)) :
    (ws.step (.build name other)).1.result = .ok (.value (.settings s)) ↔
      (d.build ws.content).result = .ok s := by
  rw [step_build_result hd]
  cases (d.build ws.content).result <;> simp [Except.map]

end Drafts

/-! ## Replacing in settings -/

/-- Another value under a name that stands for settings is read alike for every field. -/
theorem read_addValue (hws : ws.ValuesExist) {s s' : Settings}
    (h : ws.value? name = some (.settings s)) (x : Given) (k : Kind) :
    x.read (ws.addValue name (.settings s')).value? k = x.read ws.value? k := by
  refine Given.read_congr (fun other _ => ?_) k
  by_cases hother : other = name
  · subst hother
    rw [value?_addValue_self, h]
    rfl
  · rw [(agreeExcept_addValue hws name _).value? other hother]

/-- Replacements of fields leave under the name what `replaceAll` says. -/
theorem value?_run_replace (hws : ws.ValuesExist) {s : Settings}
    (h : ws.value? name = some (.settings s)) (xs : List Setting) :
    (ws.run (xs.map (.replacing name))).2.value? name = some (.settings (s.replaceAll ws.value? xs)) := by
  induction xs generalizing ws s with
  | nil => exact h
  | cons x xs ih =>
    have hstep : ws.step (.replacing name x) =
        ws.keep name (.ofExcept ((s.replace ws.value? x.setter.target.key x.given).map .settings)) := by
      rw [Step.replacing, Setter.key_eq, step, onValue, h]
      rfl
    rw [List.map_cons, run_cons, hstep, Settings.replaceAll, List.foldl_cons, ← Settings.replaceAll]
    cases s.replace ws.value? x.setter.target.key x.given with
    | error e => exact ih hws h
    | ok s' =>
      have hnext := ih (hws.transition (.keep ws name (.settings s'))) (value?_addValue_self _)
      rw [Settings.replaceAll_congr fun x _ k => read_addValue hws h x.given k] at hnext
      exact hnext

/-! ## Write channels -/

section Channels

variable {c : ChannelId} {w : WriteChannel}

theorem putChannelDraft_self (hw : ws.channelDrafts[c]? = some w) : ws.putChannelDraft c w = ws := by
  obtain ⟨hc, rfl⟩ := List.getElem?_eq_some_iff.mp hw
  rw [putChannelDraft, List.set_getElem_self]

theorem content_of_getElem? (hw : ws.channelDrafts[c]? = some w) : ws.content c = w := by
  rw [content, List.getD_eq_getElem?_getD, hw]
  rfl

/-- Setters change the write-channel draft of the name, all of them as `changeAll` says, and nothing
else. -/
theorem run_setChannel (hc : ws.channelDraft? name = some c) (hw : ws.channelDrafts[c]? = some w)
    (xs : List (String × Given)) :
    (ws.run (xs.map fun x => .setChannel name x.1 x.2)).2 = ws.putChannelDraft c (w.changeAll xs) := by
  induction xs generalizing ws w with
  | nil => exact (putChannelDraft_self hw).symm
  | cons x xs ih =>
    rw [List.map_cons, run_cons, step, setOnChannel, hc, WriteChannel.changeAll, List.foldl_cons,
      ← WriteChannel.changeAll]
    dsimp only
    cases WriteChannel.change x.1 x.2 with
    | error e => exact ih hc hw
    | ok change =>
      have hput : (ws.putChannelDraft c (w.apply change)).channelDrafts[c]? = some (w.apply change) :=
        List.getElem?_set_self (List.getElem?_eq_some_iff.mp hw).1
      have hchannel : (ws.putChannelDraft c (w.apply change)).channelDraft? name = some c := hc
      rw [content_of_getElem? hw]
      refine (ih hchannel hput).trans ?_
      show { ws with channelDrafts := (ws.channelDrafts.set c _).set c _ } =
        { ws with channelDrafts := ws.channelDrafts.set c _ }
      rw [List.set_set]
      rfl

/-- Replacements of fields leave under the name what `changeAll` says. -/
theorem value?_run_replaceChannel (h : ws.value? name = some (.writeChannel w))
    (xs : List (String × Given)) :
    (ws.run (xs.map fun x => .replace name x.1 x.2 name)).2.value? name =
      some (.writeChannel (w.changeAll xs)) := by
  induction xs generalizing ws w with
  | nil => exact h
  | cons x xs ih =>
    have hstep : ws.step (.replace name x.1 x.2 name) =
        ws.keep name (.ofExcept ((WriteChannel.change x.1 x.2).map (.writeChannel <| w.apply ·))) := by
      rw [step, onValue, h]
      rfl
    rw [List.map_cons, run_cons, hstep, WriteChannel.changeAll, List.foldl_cons, ← WriteChannel.changeAll]
    cases WriteChannel.change x.1 x.2 with
    | error e => exact ih h
    | ok change => exact ih (value?_addValue_self _)

end Channels

end Workspace

end ObjectStorage
