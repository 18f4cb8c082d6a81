import ObjectStorage.Proofs.Workspace.Denotation
import ObjectStorage.Proofs.Workspace.Transition

/-!
# What the history says of a step

The history is made while the steps are taken. Here it is said of each step alone which events it causes:
which object its name stands for, and what the value that it hands over stands for.

* `Step.IsCall`: setters, and calls that ask for a write-channel draft or install one.
* `Workspace.Causes`: a step causes an event.
* `mem_events_iff`: the events of a step are those that it causes.
* `ok_iff_events_ne_nil`: a call succeeds exactly if it has events.
* `Workspace.Recounts`, `recounts_events`: both together.
-/

namespace ObjectStorage

/-- A setter, or a call that asks for a write-channel draft or installs one. -/
def Step.IsCall : Step → Prop
  | set _ _ => True
  | channelDraft _ _ => True
  | install _ _ => True
  | setChannel _ _ _ => True
  | _ => False

namespace Workspace

/-- A step causes an event. -/
inductive Causes (ws : Workspace) : Step → Event → Prop
  /-- A draft that is made takes the next place. -/
  | freshDraft (as : String) : Causes ws (.freshDraft as) (.draft ws.drafts.length (.made .defaults))
  | bareDraft (as : String) : Causes ws (.bareDraft as) (.draft ws.drafts.length (.made .bare))
  | environmentDraft {env : Environment} {d : Draft} (hd : env.draft.result = .ok d) (as : String) :
      Causes ws (.environmentDraft env as) (.draft ws.drafts.length (.made (.environment env)))
  | reopen {value : String} {s : Settings} (hs : ws.value? value = some (.settings s)) (as : String) :
      Causes ws (.reopen value as) (.draft ws.drafts.length (.made (.settings s)))
  /-- A setter gives the field what the given value stands for. -/
  | set {draft : String} {p : Nat} {d : Draft} {x : Setting} {v : x.setter.target.Value}
      (hd : ws.draft? draft = some (p, d)) (hv : x.given.Denotes ws.value? x.setter.target.kind v) :
      Causes ws (.set draft x) (.draft p (.called (.assigned x.setter v)))
  /-- A write-channel draft that is asked for is the one that is held, or a new one with the default sizes. -/
  | answerHeld {draft : String} {p : Nat} {d : Draft} {c : ChannelId}
      (hd : ws.draft? draft = some (p, d)) (hc : d.held? = some c) (as : String) :
      Causes ws (.channelDraft draft as) (.draft p (.called (.opened c)))
  | makeNew {draft : String} {p : Nat} {d : Draft} (hd : ws.draft? draft = some (p, d))
      (hc : d.held? = none) (as : String) :
      Causes ws (.channelDraft draft as) (.channel ws.channelDrafts.length (.made .default))
  | answerNew {draft : String} {p : Nat} {d : Draft} (hd : ws.draft? draft = some (p, d))
      (hc : d.held? = none) (as : String) :
      Causes ws (.channelDraft draft as) (.draft p (.called (.opened ws.channelDrafts.length)))
  | installNone {draft : String} {p : Nat} {d : Draft} (hd : ws.draft? draft = some (p, d)) :
      Causes ws (.install draft none) (.draft p (.called (.installed none)))
  | install {draft channel : String} {p : Nat} {d : Draft} {c : ChannelId}
      (hd : ws.draft? draft = some (p, d)) (hc : ws.channelDraft? channel = some c) :
      Causes ws (.install draft (some channel)) (.draft p (.called (.installed (some c))))
  | freshChannelDraft (as : String) :
      Causes ws (.freshChannelDraft as) (.channel ws.channelDrafts.length (.made .default))
  | reopenChannel {value : String} {w : WriteChannel} (hw : ws.value? value = some (.writeChannel w))
      (as : String) : Causes ws (.reopenChannel value as) (.channel ws.channelDrafts.length (.made w))
  /-- A setter of a write-channel draft makes the change that it is named for. -/
  | setChannel {channel field : String} {given : Given} {c : ChannelId} {x : WriteChannel.Change}
      (hc : ws.channelDraft? channel = some c) (hx : WriteChannel.Change.Named field given x) :
      Causes ws (.setChannel channel field given) (.channel c (.called x))

variable {ws : Workspace} {s : Step} {e : Event}

/-- Whatever is an event of a step is caused by it. -/
theorem causes_of_mem_events (h : e ∈ ws.events s) : ws.Causes s e := by
  cases s with
  | freshDraft name =>
    obtain rfl := List.mem_singleton.mp h
    exact .freshDraft name
  | bareDraft name =>
    obtain rfl := List.mem_singleton.mp h
    exact .bareDraft name
  | freshChannelDraft name =>
    obtain rfl := List.mem_singleton.mp h
    exact .freshChannelDraft name
  | environmentDraft env name =>
    simp only [events] at h
    split at h
    · next hd =>
      obtain rfl := List.mem_singleton.mp h
      exact .environmentDraft hd name
    · cases h
  | reopen value name =>
    simp only [events] at h
    split at h
    · next hs =>
      obtain rfl := List.mem_singleton.mp h
      exact .reopen hs name
    · cases h
  | set draft x =>
    simp only [events] at h
    split at h
    · next hd hv =>
      obtain rfl := List.mem_singleton.mp h
      exact .set hd (Given.read_eq_ok_iff.mp hv)
    · cases h
  | channelDraft draft name =>
    simp only [events] at h
    split at h
    · cases h
    · next hd =>
      split at h
      · next hc =>
        obtain rfl := List.mem_singleton.mp h
        exact .answerHeld hd hc name
      · next hc =>
        rcases List.mem_cons.mp h with rfl | h
        · exact .makeNew hd hc name
        · obtain rfl := List.mem_singleton.mp h
          exact .answerNew hd hc name
  | install draft channel =>
    cases channel with
    | none =>
      simp only [events] at h
      split at h
      · next hd =>
        obtain rfl := List.mem_singleton.mp h
        exact .installNone hd
      · cases h
    | some channel =>
      simp only [events] at h
      split at h
      · next hd hc =>
        obtain rfl := List.mem_singleton.mp h
        exact .install hd hc
      · cases h
  | reopenChannel value name =>
    simp only [events] at h
    split at h
    · next hw =>
      obtain rfl := List.mem_singleton.mp h
      exact .reopenChannel hw name
    · cases h
  | setChannel channel field given =>
    simp only [events] at h
    split at h
    · next hc hx =>
      obtain rfl := List.mem_singleton.mp h
      exact .setChannel hc (WriteChannel.change_eq_ok_iff.mp hx)
    · cases h
  | _ => cases h

/-- Whatever a step causes is one of its events. -/
theorem Causes.mem_events (h : ws.Causes s e) : e ∈ ws.events s := by
  cases h with
  | set hd hv => simp [events, hd, hv.read]
  | setChannel hc hx => simp [events, hc, WriteChannel.change_eq_ok_iff.mpr hx]
  | environmentDraft hd name => simp [events, hd]
  | reopen hs name => simp [events, hs]
  | answerHeld hd hc name => simp [events, hd, hc]
  | makeNew hd hc name => simp [events, hd, hc]
  | answerNew hd hc name => simp [events, hd, hc]
  | installNone hd => simp [events, hd]
  | install hd hc => simp [events, hd, hc]
  | reopenChannel hw name => simp [events, hw]
  | _ => exact List.mem_singleton_self _

/-- The events of a step are those that it causes. -/
theorem mem_events_iff : e ∈ ws.events s ↔ ws.Causes s e :=
  ⟨causes_of_mem_events, Causes.mem_events⟩

/-- A call that has no events fails. -/
theorem exists_error_of_events (hs : s.IsCall) (h : ws.events s = []) :
    ∃ e, (ws.step s).1.result = .error e := by
  cases s with
  | set draft x =>
    simp only [events] at h
    simp only [step, setOn, Draft.applySetting]
    cases hd : ws.draft? draft with
    | none => exact ⟨_, rfl⟩
    | some found =>
      cases hv : x.given.read ws.value? x.setter.target.kind with
      | error e => exact ⟨e, rfl⟩
      | ok v => simp [hd, hv] at h
  | channelDraft draft name =>
    simp only [events] at h
    simp only [step, openChannelDraft]
    cases hd : ws.draft? draft with
    | none => exact ⟨_, rfl⟩
    | some found =>
      cases hc : found.2.held? <;> simp [hd, hc] at h
  | install draft channel =>
    cases hd : ws.draft? draft with
    | none => exact ⟨.noObject draft, by simp only [step, installOn, hd]; rfl⟩
    | some found =>
      cases channel with
      | none => simp [events, hd] at h
      | some channel =>
        cases hc : ws.channelDraft? channel with
        | none => exact ⟨.noObject channel, by simp only [step, installOn, hd, hc]; rfl⟩
        | some c => simp [events, hd, hc] at h
  | setChannel channel field given =>
    simp only [events] at h
    simp only [step, setOnChannel]
    cases hc : ws.channelDraft? channel with
    | none => exact ⟨_, rfl⟩
    | some c =>
      cases hx : WriteChannel.change field given with
      | error e => exact ⟨e, rfl⟩
      | ok x => simp [hc, hx] at h
  | _ => cases hs

/-- A call succeeds exactly if it has events. -/
theorem ok_iff_events_ne_nil (hs : s.IsCall) :
    (∃ a, (ws.step s).1.result = .ok a) ↔ ws.events s ≠ [] := by
  constructor
  · rintro ⟨a, ha⟩ h
    obtain ⟨e, he⟩ := exists_error_of_events hs h
    rw [ha] at he
    cases he
  · intro h
    cases hresult : (ws.step s).1.result with
    | ok a => exact ⟨a, rfl⟩
    | error e => exact absurd (events_of_error hresult) h

/-- Events are an account of a step: they are those that the step causes, and a call that fails has none. -/
structure Recounts (ws : Workspace) (s : Step) (es : List Event) : Prop where
  mem_iff : ∀ e, e ∈ es ↔ ws.Causes s e
  ok_iff : s.IsCall → ((∃ a, (ws.step s).1.result = .ok a) ↔ es ≠ [])

theorem recounts_events (ws : Workspace) (s : Step) : ws.Recounts s (ws.events s) :=
  ⟨fun _ => mem_events_iff, ok_iff_events_ne_nil⟩

/-- The history of a run goes on with an account of the next step. -/
theorem exists_recounts {ss : List Step} {ws₀ : Workspace} (hws : (ws₀.run ss).2 = ws) (s : Step) :
    ∃ es, ws₀.history (ss ++ [s]) = ws₀.history ss ++ es ∧ ws.Recounts s es := by
  refine ⟨ws.events s, ?_, recounts_events ws s⟩
  rw [history_append, history_cons, history_nil, List.append_nil, hws]

end Workspace

end ObjectStorage
