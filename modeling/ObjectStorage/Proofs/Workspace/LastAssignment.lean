import ObjectStorage.Proofs.Draft.Missing
import ObjectStorage.Proofs.Workspace.Calls
import ObjectStorage.Proofs.Workspace.Setters

/-!
# The last assignment counts

Over every run, each field of what a draft builds, the write channel apart, is what the last setter for
that field on that very draft gave it, or what the draft was made with.

* `exists_build_iff_of_follows`: a draft is built if something gave each field a value.
* `drafts_of_step`: a step that is no call on a draft leaves it as it is, and is no part of what happened
  to it.
* `history_of_error`: a step that fails is no part of the history.
* `values_run`: a finished value stays as it is at its place.
* `get_build_of_run`: what a build answers and keeps, for every draft that a run leaves.
-/

namespace ObjectStorage

/-- The name of the draft that a step is a call on. -/
def Step.onDraft? : Step → Option String
  | set draft _ => some draft
  | source draft => some draft
  | channelDraft draft _ => some draft
  | install draft _ => some draft
  | build draft _ => some draft
  | _ => none

namespace Workspace

/-- A step that is no call on the draft at a place has no event there. -/
theorem draftEvents_events {ws : Workspace} {s : Step} {p : Nat} (hp : p < ws.drafts.length)
    (hs : ∀ name ∈ s.onDraft?, ∀ d, ws.draft? name ≠ some (p, d)) :
    draftEvents p (ws.events s) = [] := by
  have hnew : ws.drafts.length ≠ p := by omega
  -- the draft of a step that is a call on one stands at another place
  have hother : ∀ {name q d}, name ∈ s.onDraft? → ws.draft? name = some (q, d) → q ≠ p := by
    rintro name q d hname hd rfl
    exact hs name hname d hd
  cases s with
  | freshDraft name => simp [events, hnew]
  | bareDraft name => simp [events, hnew]
  | environmentDraft env name =>
    simp only [events]
    split <;> simp [hnew]
  | reopen value name =>
    simp only [events]
    split <;> simp [hnew]
  | set draft x =>
    simp only [events]
    split
    · next hd hv => simp [hother rfl hd]
    · rfl
  | channelDraft draft name =>
    simp only [events]
    split
    · rfl
    · next hd => split <;> simp [hother rfl hd]
  | install draft channel =>
    cases channel with
    | none =>
      simp only [events]
      split
      · next hd => simp [hother rfl hd]
      · rfl
    | some name =>
      simp only [events]
      split
      · next hd hc => simp [hother rfl hd]
      · rfl
  | reopenChannel value name =>
    simp only [events]
    split <;> simp
  | setChannel channel field given =>
    simp only [events]
    split <;> simp
  | freshChannelDraft name => simp [events]
  | _ => rfl

/-- A draft is built exactly if its source can be settled and each field was given a value, or made with
one, but the write channel only while it is set directly. -/
theorem exists_build_iff_of_follows {d : Draft} {origin : Origin} {calls : List DraftCall}
    (h : ∀ f, d.fields.get? f = (lastAssigned? f calls).or (origin.seed? f))
    (content : ChannelId → WriteChannel) :
    (∃ s, (d.build content).result = .ok s) ↔ ¬ (d.source = .drafted ∧ d.held? = none) ∧
      ∀ f, (f = .writeChannel → d.source = .direct) →
        ((lastAssigned? f calls).or (origin.seed? f)).isSome := by
  simp only [Draft.exists_build_iff_forall, h]

variable {ws : Workspace} {ss : List Step}

/-- A step that is no call on a draft leaves it as it is, and is no part of what happened to it. -/
theorem drafts_of_step {s : Step} {p : Nat} {d : Draft} (hws : (empty.run ss).2 = ws)
    (hd : ws.drafts[p]? = some d) (hs : ∀ name ∈ s.onDraft?, ∀ d', ws.draft? name ≠ some (p, d')) :
    (ws.step s).2.drafts[p]? = some d ∧
      draftEvents p (empty.history (ss ++ [s])) = draftEvents p (empty.history ss) := by
  have hnone := draftEvents_events (List.getElem?_eq_some_iff.mp hd).1 hs
  refine ⟨drafts_of_transition (transition_step ws s) hd hnone, ?_⟩
  rw [history_append, history_cons, hws, draftEvents_append, draftEvents_append, hnone]
  simp

/-- A step that fails is no part of the history. -/
theorem history_of_error {s : Step} {e : Fault} (hws : (empty.run ss).2 = ws)
    (h : (ws.step s).1.result = .error e) : empty.history (ss ++ [s]) = empty.history ss := by
  rw [history_append, history_cons, hws, events_of_error h, history_nil, List.append_nil, List.append_nil]

/-- A finished value stays as it is at its place. -/
theorem values_run {i : Nat} {v : Value} (h : ws.values[i]? = some v) (more : List Step) :
    (ws.run more).2.values[i]? = some v := by
  obtain ⟨later, hlater⟩ := values_of_run ws more
  rw [← hlater, List.getElem?_append_left (List.getElem?_eq_some_iff.mp h).1]
  exact h

/-- A build that succeeds gives its settings a name and a place that they keep. -/
theorem kept_of_build {name other : String} {p : Nat} {d : Draft} {s : Settings}
    (hd : ws.draft? name = some (p, d)) (h : (d.build ws.content).result = .ok s) :
    ∃ i, (ws.step (.build name other)).2.object? other = some (.value i) ∧
      ∀ more, (ws.run (.build name other :: more)).2.values[i]? = some (.settings s) := by
  have hstep := congrArg Prod.snd (step_build_of_ok hd h other)
  have hnew : (ws.addValue other (.settings s)).values[ws.values.length]? = some (.settings s) :=
    List.getElem?_concat_length
  refine ⟨ws.values.length, ?_, fun more => ?_⟩
  · rw [hstep]
    exact object?_bind_self _ _ _
  · rw [run_cons, hstep]
    exact values_run hnew more

/-- **The last assignment counts.** For every draft that a run leaves, with the calls made on that draft
since it was made: a build of it by any name succeeds exactly if its source can be settled and every field
was given a value or made with one. Each field of the settings that it answers, the write channel apart, is
then the value of the last call that set it, or the one that the draft was made with; and these settings get
the other name, at a place where they stay.
A step is among the calls if its name stands for the draft and the value that it hands over stands for
something, and exactly then it succeeds. A step that is no call on this draft leaves it and its calls as they
are, a step that fails is not among the calls, and whatever comes later leaves every finished value as it
is. -/
theorem get_build_of_run (hws : (empty.run ss).2 = ws) {p : Nat} {d : Draft}
    (hd : ws.drafts[p]? = some d) :
    (∃ origin calls, draftEvents p (empty.history ss) = .made origin :: calls.map .called ∧
      ∀ name, ws.draft? name = some (p, d) → ∀ other,
        ((∃ s, (ws.step (.build name other)).1.result = .ok (.value (.settings s))) ↔
          ¬ (d.source = .drafted ∧ d.held? = none) ∧ ∀ f, (f = .writeChannel → d.source = .direct) →
            ((lastAssigned? f calls).or (origin.seed? f)).isSome) ∧
        ∀ s, (ws.step (.build name other)).1.result = .ok (.value (.settings s)) →
          (∀ f, f ≠ .writeChannel → some (s.get f) = (lastAssigned? f calls).or (origin.seed? f)) ∧
          ∃ i, (ws.step (.build name other)).2.object? other = some (.value i) ∧
            ∀ more, (ws.run (.build name other :: more)).2.values[i]? = some (.settings s)) ∧
    (∀ step, ∃ es, empty.history (ss ++ [step]) = empty.history ss ++ es ∧ ws.Recounts step es) ∧
    (∀ step : Step, (∀ name ∈ step.onDraft?, ∀ d', ws.draft? name ≠ some (p, d')) →
      (ws.step step).2.drafts[p]? = some d ∧
        draftEvents p (empty.history (ss ++ [step])) = draftEvents p (empty.history ss)) ∧
    (∀ step e, (ws.step step).1.result = .error e → empty.history (ss ++ [step]) = empty.history ss) ∧
    ∀ (i : Nat) (v : Value), ws.values[i]? = some v → ∀ more, (ws.run more).2.values[i]? = some v := by
  have r := recorded_run ss
  rw [hws] at r
  refine ⟨?_, exists_recounts hws, fun step hstep => drafts_of_step hws hd hstep,
    fun step e he => history_of_error hws he, fun i v hv more => values_run hv more⟩
  obtain ⟨origin, calls, hevents, hfields, -, -⟩ := r.drafts.1 p d hd
  refine ⟨origin, calls, hevents, fun name hname other => ⟨?_, fun s hs => ?_⟩⟩
  · simp only [step_build_eq_ok_iff hname]
    exact exists_build_iff_of_follows hfields ws.content
  · rw [step_build_eq_ok_iff hname] at hs
    refine ⟨fun f hf => ?_, kept_of_build hname hs⟩
    rw [← hfields]
    exact (Draft.get?_of_build hs hf).symm

/-- The environment that names an application. -/
def webEnvironment : Environment := .ofTexts [("CLOUDSTORE_APP_NAME", "web")]

/-- A name goes from one draft to another, which is made from an environment, set by both names of one field,
and once in vain. -/
def renamingRun : List Step :=
  [.freshDraft "a", .set "a" ⟨.field .batchThreads, .number 7⟩,
    .environmentDraft webEnvironment "a",
    .set "a" ⟨.createMarkerObjects, .flag false⟩,
    .set "a" ⟨.field .markerFileCreation, .flag false⟩,
    .set "a" ⟨.createMarkerObjects, .flag true⟩,
    .set "a" ⟨.field .transport, .text (some "CRT")⟩]

/-- The calls that have changed the second of these drafts. -/
def renamingCalls : List DraftCall :=
  [.assigned .createMarkerObjects false, .assigned (.field .markerFileCreation) false,
    .assigned .createMarkerObjects true]

theorem get_build_of_renamingRun :
    ∃ ws d s, (empty.run renamingRun).2 = ws ∧ ws.drafts[1]? = some d ∧
      draftEvents 1 (empty.history renamingRun) =
        .made (.environment webEnvironment) :: renamingCalls.map .called ∧
      (ws.step (.build "a" "v")).1.result = .ok (.value (.settings s)) ∧
      s = { Settings.default with appName := some "web", markerFileCreation := true } ∧
      (∀ f, f ≠ .writeChannel → some (s.get f) =
        (lastAssigned? f renamingCalls).or ((Origin.environment webEnvironment).seed? f)) ∧
      ∃ i, (ws.step (.build "a" "v")).2.object? "v" = some (.value i) ∧
        (ws.run [.build "a" "v", .set "a" ⟨.createMarkerObjects, .flag false⟩, .build "a" "v"]).2.values[i]? =
          some (.settings s) := by
  obtain ⟨d, hd, hname, hcalls, hbuild⟩ : ∃ d, (empty.run renamingRun).2.drafts[1]? = some d ∧
      (empty.run renamingRun).2.draft? "a" = some (1, d) ∧
      draftEvents 1 (empty.history renamingRun) =
        .made (.environment webEnvironment) :: renamingCalls.map .called ∧
      ((empty.run renamingRun).2.step (.build "a" "v")).1.result = .ok (.value (.settings
        { Settings.default with appName := some "web", markerFileCreation := true })) :=
    ⟨_, rfl, rfl, rfl, rfl⟩
  obtain ⟨⟨origin, calls, hevents, hbuilds⟩, -⟩ := get_build_of_run rfl hd
  obtain ⟨rfl, rfl⟩ := ObjectEvent.made_cons_inj.mp (hevents.symm.trans hcalls)
  obtain ⟨hget, i, hi, hkept⟩ := (hbuilds "a" hname "v").2 _ hbuild
  exact ⟨_, d, _, rfl, hd, hcalls, hbuild, rfl, hget, i, hi, hkept _⟩

end Workspace

end ObjectStorage
