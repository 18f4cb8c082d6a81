import ObjectStorage.Proofs.Workspace.History

/-!
# What one step does to the objects

* `Transition ws es ws'`: the nine ways in which a step turns `ws` into `ws'`, with the events of each.
* `transition_step`: every step is one of them, with its own events.
* `events_of_error`: a step that fails has no events.
* `drafts_of_transition`, `values_of_transition`: a draft without events stays as it is, a draft keeps its
  place, and finished values are only added.
-/

namespace ObjectStorage.Workspace

/-! ## Names -/

/-- A name stands for a draft by its place. -/
theorem draft?_eq_some_iff {ws : Workspace} {name : String} {p : Nat} {d : Draft} :
    ws.draft? name = some (p, d) ↔ ws.object? name = some (.draft p) ∧ ws.drafts[p]? = some d := by
  unfold draft?
  rcases ws.object? name with _ | (place | place | place)
  · simp
  · simp only [Option.map_eq_some_iff, Prod.mk.injEq, Option.some.injEq, Object.draft.injEq]
    constructor
    · rintro ⟨_, hd, rfl, rfl⟩
      exact ⟨rfl, hd⟩
    · rintro ⟨rfl, hd⟩
      exact ⟨d, hd, rfl, rfl⟩
  · simp
  · simp

theorem getElem?_of_draft? {ws : Workspace} {name : String} {p : Nat} {d : Draft}
    (h : ws.draft? name = some (p, d)) : ws.drafts[p]? = some d :=
  (draft?_eq_some_iff.mp h).2

/-! ## Transitions -/

/-- How a step changes the objects and their names, with the events at their places. -/
inductive Transition : Workspace → List Event → Workspace → Prop
  | stay (ws : Workspace) : Transition ws [] ws
  | keep (ws : Workspace) (name : String) (v : Value) : Transition ws [] (ws.addValue name v)
  | startDraft (ws : Workspace) (name : String) {d : Draft} {origin : Origin}
      (hd : d.Follows [.made origin]) :
      Transition ws [.draft ws.drafts.length (.made origin)] (ws.addDraft name d)
  | assign (ws : Workspace) {p : Nat} {d : Draft} (hd : ws.drafts[p]? = some d) (x : Setter)
      (v : x.target.Value) :
      Transition ws [.draft p (.called (.assigned x v))] (ws.putDraft p (d.assign x.target v))
  | answerHeld (ws : Workspace) (name : String) {p : Nat} {d : Draft} {c : ChannelId}
      (hd : ws.drafts[p]? = some d) (hc : d.held? = some c) :
      Transition ws [.draft p (.called (.opened c))] (ws.bind name (.channelDraft c))
  | answerNew (ws : Workspace) (name : String) {p : Nat} {d : Draft} (hd : ws.drafts[p]? = some d) :
      Transition ws
        [.channel ws.channelDrafts.length (.made .default),
          .draft p (.called (.opened ws.channelDrafts.length))]
        ((ws.addChannelDraft name .default).putDraft p (d.install (some ws.channelDrafts.length)))
  | install (ws : Workspace) {p : Nat} {d : Draft} {held : Option ChannelId}
      (hd : ws.drafts[p]? = some d) (hheld : ∀ c ∈ held, ∃ name, ws.channelDraft? name = some c) :
      Transition ws [.draft p (.called (.installed held))] (ws.putDraft p (d.install held))
  | startChannelDraft (ws : Workspace) (name : String) (w : WriteChannel) :
      Transition ws [.channel ws.channelDrafts.length (.made w)] (ws.addChannelDraft name w)
  | change (ws : Workspace) {name : String} {c : ChannelId} (hc : ws.channelDraft? name = some c)
      (x : WriteChannel.Change) :
      Transition ws [.channel c (.called x)] (ws.putChannelDraft c ((ws.content c).apply x))

theorem transition_keep (ws : Workspace) (name : String) (made : Outcome Value) :
    Transition ws [] (ws.keep name made).2 := by
  unfold Workspace.keep
  split
  · exact .keep ws name _
  · exact .stay ws

/-- Every step is a transition with its own events. -/
theorem transition_step (ws : Workspace) (s : Step) : Transition ws (ws.events s) (ws.step s).2 := by
  cases s with
  | freshDraft name =>
    refine .startDraft ws name ?_
    rw [Draft.fresh_eq_reopen]
    exact Draft.follows_reopen _ fun _ => rfl
  | bareDraft name => exact .startDraft ws name Draft.follows_bare
  | environmentDraft env name =>
    simp only [step, events, startFrom]
    cases henv : env.draft.result with
    | error e => exact .stay ws
    | ok d =>
      obtain ⟨s, hs, rfl⟩ := Environment.draft_eq_ok_iff.mp henv
      exact .startDraft ws name <|
        Draft.follows_reopen s fun f => by simp [Origin.seed?, hs, Except.toOption]
  | reopen value name =>
    simp only [step, events, onSettings, onValue]
    cases hv : ws.value? value with
    | none => exact .stay ws
    | some v =>
      cases v with
      | settings s => exact .startDraft ws name (Draft.follows_reopen s fun _ => rfl)
      | writeChannel w => exact .stay ws
      | requesterPays r => exact .stay ws
  | set draft x =>
    simp only [step, events, setOn]
    cases hd : ws.draft? draft with
    | none => exact .stay ws
    | some found =>
      obtain ⟨p, d⟩ := found
      simp only [Draft.applySetting]
      cases hv : x.given.read ws.value? x.setter.target.kind with
      | error e => exact .stay ws
      | ok v => exact .assign ws (getElem?_of_draft? hd) x.setter v
  | source draft =>
    simp only [step, events]
    split <;> exact .stay ws
  | channelDraft draft name =>
    simp only [step, events, openChannelDraft]
    cases hd : ws.draft? draft with
    | none => exact .stay ws
    | some found =>
      obtain ⟨p, d⟩ := found
      dsimp only
      cases hc : d.held? with
      | some c => exact .answerHeld ws name (getElem?_of_draft? hd) hc
      | none => exact .answerNew ws name (getElem?_of_draft? hd)
  | install draft channel =>
    cases hd : ws.draft? draft with
    | none => cases channel <;> simp only [step, events, installOn, hd] <;> exact .stay ws
    | some found =>
      obtain ⟨p, d⟩ := found
      cases channel with
      | none =>
        simp only [step, events, installOn, hd]
        exact .install ws (getElem?_of_draft? hd) (by simp)
      | some name =>
        simp only [step, events, installOn, hd]
        cases hc : ws.channelDraft? name with
        | none => exact .stay ws
        | some c => exact .install ws (getElem?_of_draft? hd) (by simpa using ⟨name, hc⟩)
  | build draft name =>
    simp only [step, events, buildOn]
    split
    · exact .stay ws
    · exact transition_keep ws name _
  | freshChannelDraft name => exact .startChannelDraft ws name .default
  | reopenChannel value name =>
    simp only [step, events, onWriteChannel, onValue]
    cases hv : ws.value? value with
    | none => exact .stay ws
    | some v =>
      cases v with
      | writeChannel w => exact .startChannelDraft ws name w
      | settings s => exact .stay ws
      | requesterPays r => exact .stay ws
  | setChannel channel field given =>
    simp only [step, events, setOnChannel]
    cases hc : ws.channelDraft? channel with
    | none => exact .stay ws
    | some c =>
      cases hx : WriteChannel.change field given with
      | error e => exact .stay ws
      | ok x => exact .change ws hc x
  | buildChannel channel name =>
    simp only [step, events]
    split
    · exact .stay ws
    · exact transition_keep ws name _
  | makeChannel w name => exact transition_keep ws name _
  | makeRequesterPays b name => exact transition_keep ws name _
  | replace value field given name =>
    simp only [step, events, onValue]
    split
    · exact .stay ws
    · exact transition_keep ws name _
  | assign value field =>
    simp only [step, events, onValue]
    split <;> exact .stay ws
  | delete value field =>
    simp only [step, events, onValue]
    split <;> exact .stay ws
  | document value =>
    simp only [step, events, onValue]
    split <;> exact .stay ws
  | same x y =>
    simp only [step, events, compare]
    split <;> exact .stay ws
  | equal x y =>
    simp only [step, events, compare]
    split <;> exact .stay ws
  | check value =>
    simp only [step, events, onSettings, onValue]
    split
    · exact .stay ws
    · split <;> exact .stay ws
  | clientConfig value =>
    simp only [step, events, onSettings, onValue]
    split
    · exact .stay ws
    · split <;> exact .stay ws

/-- A step that fails has no events. -/
theorem events_of_error {ws : Workspace} {s : Step} {e : Fault}
    (h : (ws.step s).1.result = .error e) : ws.events s = [] := by
  cases s with
  | freshDraft name => cases h
  | bareDraft name => cases h
  | freshChannelDraft name => cases h
  | environmentDraft env name =>
    simp only [step, events, startFrom] at h ⊢
    cases henv : env.draft.result with
    | error e => rfl
    | ok d =>
      simp only [henv, Outcome.map, Except.map] at h
      cases h
  | reopen value name =>
    simp only [step, events, onSettings, onValue] at h ⊢
    split
    · next hv =>
      rw [hv] at h
      cases h
    · rfl
  | set draft x =>
    simp only [step, events, setOn, Draft.applySetting] at h ⊢
    split
    · next hd hv =>
      rw [hd] at h
      simp only [hv] at h
      cases h
    · rfl
  | channelDraft draft name =>
    simp only [step, events, openChannelDraft] at h ⊢
    cases hd : ws.draft? draft with
    | none => rfl
    | some found =>
      rw [hd] at h
      cases hc : found.2.held? <;> simp only [hc] at h <;> cases h
  | install draft channel =>
    cases channel with
    | none =>
      simp only [step, events, installOn] at h ⊢
      split
      · next hd =>
        rw [hd] at h
        cases h
      · rfl
    | some name =>
      simp only [step, events, installOn] at h ⊢
      split
      · next hd hc =>
        simp only [hd, hc] at h
        cases h
      · rfl
  | reopenChannel value name =>
    simp only [step, events, onWriteChannel, onValue] at h ⊢
    split
    · next hv =>
      rw [hv] at h
      cases h
    · rfl
  | setChannel channel field given =>
    simp only [step, events, setOnChannel] at h ⊢
    split
    · next hc hx =>
      simp only [hc, hx] at h
      cases h
    · rfl
  | _ => rfl

/-! ## What a transition leaves alone -/

/-- A draft stays as it is in a transition without events at its place. -/
theorem drafts_of_transition {ws ws' : Workspace} {es : List Event} (t : Transition ws es ws') {p : Nat}
    {d : Draft} (hd : ws.drafts[p]? = some d) (hes : draftEvents p es = []) :
    ws'.drafts[p]? = some d := by
  have hp : p < ws.drafts.length := (List.getElem?_eq_some_iff.mp hd).1
  cases t with
  | stay => exact hd
  | keep name v => exact hd
  | startDraft name hd' => exact (List.getElem?_append_left hp).trans hd
  | answerHeld name hq hc => exact hd
  | startChannelDraft name w => exact hd
  | change hc x => exact hd
  | @assign q d' hq x v =>
    have hqp : q ≠ p := by
      rintro rfl
      simp at hes
    exact (List.getElem?_set_ne hqp).trans hd
  | @answerNew name q d' hq =>
    have hqp : q ≠ p := by
      rintro rfl
      simp at hes
    exact (List.getElem?_set_ne hqp).trans hd
  | @install q d' held hq hheld =>
    have hqp : q ≠ p := by
      rintro rfl
      simp at hes
    exact (List.getElem?_set_ne hqp).trans hd

/-- Finished values are only added. -/
theorem values_of_transition {ws ws' : Workspace} {es : List Event} (t : Transition ws es ws') :
    ws.values <+: ws'.values := by
  cases t with
  | keep name v => exact List.prefix_append ws.values [v]
  | _ => exact List.prefix_refl ws.values

theorem values_of_run (ws : Workspace) (ss : List Step) : ws.values <+: (ws.run ss).2.values := by
  induction ss generalizing ws with
  | nil => exact List.prefix_refl ws.values
  | cons s ss ih => exact (values_of_transition (transition_step ws s)).trans (ih _)

end ObjectStorage.Workspace
