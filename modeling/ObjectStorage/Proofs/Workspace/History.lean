import ObjectStorage.Proofs.Environment.Drafts
import ObjectStorage.Workspace.Step

/-!
# The history of a run

Names come and go, but the place of an object never changes. A run is therefore read as a list of events
at places, and what became of one object as the events at its own place.

* `ObjectEvent`: an object is made from something, or called; `Event`: the same at a place.
* `Workspace.events`, `Workspace.history`: the events of a step and of a run. A step that fails or only
  reads has none (`events_of_error`).
* `draftEvents`, `channelEvents`: the events at the place of one draft or write-channel draft.
* `lastAssigned?`, `sourceAfter`, `heldAfter`, `Origin.seed?`: what some calls on a draft say about its
  fields, about the source of its write channel and about the write-channel draft that it holds, and what
  its fields are when it is made.
* `Draft.Follows`: a draft is what the events at its place say.
-/

namespace ObjectStorage

/-! ## Events -/

/-- What a draft is made from. -/
inductive Origin
  | bare
  | defaults
  | environment (env : Environment)
  | settings (s : Settings)

/-- A call that changes a draft: a field is given a value, a write-channel draft is asked for and
answered, or one, or none, is installed. -/
inductive DraftCall
  | assigned (setter : Setter) (value : setter.target.Value)
  | opened (channel : ChannelId)
  | installed (channel : Option ChannelId)

/-- What happens to an object. -/
inductive ObjectEvent (Origin Call : Type)
  | made (origin : Origin)
  | called (call : Call)

/-- An object that was made and then called was made from one thing only, and called in one way. -/
theorem ObjectEvent.made_cons_inj {Origin Call : Type} {o o' : Origin} {calls calls' : List Call} :
    (made o :: calls.map called : List (ObjectEvent Origin Call)) = made o' :: calls'.map called ↔
      o = o' ∧ calls = calls' := by
  have hinj : Function.Injective (called : Call → ObjectEvent Origin Call) := fun _ _ => called.inj
  simp [List.map_inj_right hinj]

/-- What happens to the draft or the write-channel draft at a place. -/
inductive Event
  | draft (place : Nat) (event : ObjectEvent Origin DraftCall)
  | channel (place : ChannelId) (event : ObjectEvent WriteChannel WriteChannel.Change)

namespace Event

/-- The event, if it happens to the draft at the place `p`. -/
def onDraft? (p : Nat) : Event → Option (ObjectEvent Origin DraftCall)
  | draft place event => if place = p then some event else none
  | channel _ _ => none

/-- The event, if it happens to the write-channel draft at the place `c`. -/
def onChannel? (c : ChannelId) : Event → Option (ObjectEvent WriteChannel WriteChannel.Change)
  | draft _ _ => none
  | channel place event => if place = c then some event else none

end Event

/-- What happens to the draft at the place `p`. -/
def draftEvents (p : Nat) (h : List Event) : List (ObjectEvent Origin DraftCall) :=
  h.filterMap (·.onDraft? p)

/-- What happens to the write-channel draft at the place `c`. -/
def channelEvents (c : ChannelId) (h : List Event) :
    List (ObjectEvent WriteChannel WriteChannel.Change) :=
  h.filterMap (·.onChannel? c)

section Events

variable (h k : List Event) (p q : Nat)

@[simp] theorem draftEvents_nil : draftEvents p [] = [] := rfl

@[simp] theorem channelEvents_nil : channelEvents p [] = [] := rfl

@[simp] theorem draftEvents_append : draftEvents p (h ++ k) = draftEvents p h ++ draftEvents p k :=
  List.filterMap_append

@[simp] theorem channelEvents_append :
    channelEvents p (h ++ k) = channelEvents p h ++ channelEvents p k :=
  List.filterMap_append

@[simp] theorem draftEvents_draft (e : ObjectEvent Origin DraftCall) :
    draftEvents p (.draft q e :: k) = if q = p then e :: draftEvents p k else draftEvents p k := by
  by_cases hq : q = p <;> simp [draftEvents, Event.onDraft?, hq]

@[simp] theorem draftEvents_channel (e : ObjectEvent WriteChannel WriteChannel.Change) :
    draftEvents p (.channel q e :: k) = draftEvents p k := by
  simp [draftEvents, Event.onDraft?]

@[simp] theorem channelEvents_draft (e : ObjectEvent Origin DraftCall) :
    channelEvents p (.draft q e :: k) = channelEvents p k := by
  simp [channelEvents, Event.onChannel?]

@[simp] theorem channelEvents_channel (e : ObjectEvent WriteChannel WriteChannel.Change) :
    channelEvents p (.channel q e :: k) =
      if q = p then e :: channelEvents p k else channelEvents p k := by
  by_cases hq : q = p <;> simp [channelEvents, Event.onChannel?, hq]

end Events

/-! ## Events of a step and of a run -/

namespace Workspace

/-- The events of one step; a step that fails or only reads has none. -/
def events (ws : Workspace) : Step → List Event
  | .freshDraft _ => [.draft ws.drafts.length (.made .defaults)]
  | .bareDraft _ => [.draft ws.drafts.length (.made .bare)]
  | .environmentDraft env _ =>
    match env.draft.result with
    | .ok _ => [.draft ws.drafts.length (.made (.environment env))]
    | .error _ => []
  | .reopen value _ =>
    match ws.value? value with
    | some (.settings s) => [.draft ws.drafts.length (.made (.settings s))]
    | _ => []
  | .set draft x =>
    match ws.draft? draft, x.given.read ws.value? x.setter.target.kind with
    | some (p, _), .ok v => [.draft p (.called (.assigned x.setter v))]
    | _, _ => []
  | .channelDraft draft _ =>
    match ws.draft? draft with
    | none => []
    | some (p, d) =>
      match d.held? with
      | some c => [.draft p (.called (.opened c))]
      | none =>
        [.channel ws.channelDrafts.length (.made .default),
          .draft p (.called (.opened ws.channelDrafts.length))]
  | .install draft none =>
    match ws.draft? draft with
    | some (p, _) => [.draft p (.called (.installed none))]
    | none => []
  | .install draft (some name) =>
    match ws.draft? draft, ws.channelDraft? name with
    | some (p, _), some c => [.draft p (.called (.installed (some c)))]
    | _, _ => []
  | .freshChannelDraft _ => [.channel ws.channelDrafts.length (.made .default)]
  | .reopenChannel value _ =>
    match ws.value? value with
    | some (.writeChannel w) => [.channel ws.channelDrafts.length (.made w)]
    | _ => []
  | .setChannel channel field given =>
    match ws.channelDraft? channel, WriteChannel.change field given with
    | some c, .ok x => [.channel c (.called x)]
    | _, _ => []
  | _ => []

/-- The events of a list of steps, each on the workspace that the one before left. -/
def history (ws : Workspace) : List Step → List Event
  | [] => []
  | s :: ss => ws.events s ++ (ws.step s).2.history ss

@[simp] theorem history_nil (ws : Workspace) : ws.history [] = [] := rfl

@[simp] theorem history_cons (ws : Workspace) (s : Step) (ss : List Step) :
    ws.history (s :: ss) = ws.events s ++ (ws.step s).2.history ss := rfl

theorem history_append (ws : Workspace) (ss ts : List Step) :
    ws.history (ss ++ ts) = ws.history ss ++ (ws.run ss).2.history ts := by
  induction ss generalizing ws with
  | nil => rfl
  | cons s ss ih => simp [ih]

end Workspace

/-! ## What the events at one place say -/

/-- The value that a field of a draft has when the draft is made. -/
def Origin.seed? : Origin → (f : Field) → Option f.Value
  | bare, .projectId => some none
  | bare, .appName => some none
  | bare, .proxyAddress => some none
  | bare, _ => none
  | defaults, f => some (Settings.default.get f)
  | environment env, f => env.settings.toOption.map (·.get f)
  | settings s, f => some (s.get f)

namespace DraftCall

/-- The value that a call gives to the field `f`. -/
def assigns? (f : Field) : DraftCall → Option f.Value
  | assigned x v => if h : x.target = f then some (h ▸ v) else none
  | opened _ => none
  | installed _ => none

/-- What a draft holds after a call that asks for a write-channel draft or installs one. -/
def holds? : DraftCall → Option (Option ChannelId)
  | assigned _ _ => none
  | opened c => some (some c)
  | installed held => some held

end DraftCall

/-- The value that the last of some calls to give the field `f` one gives it. -/
def lastAssigned? (f : Field) (calls : List DraftCall) : Option f.Value :=
  calls.reverse.findSome? (·.assigns? f)

/-- Where a draft takes its write channel from after some calls: from a write-channel draft, if one of them
asks for such a draft or installs one. -/
def sourceAfter (calls : List DraftCall) : ChannelSource :=
  if calls.any (·.holds?.isSome) then .drafted else .direct

/-- The write-channel draft that a draft holds after some calls: what the last of them holds that asks for
such a draft or installs one. -/
def heldAfter (calls : List DraftCall) : Option ChannelId :=
  (calls.reverse.findSome? (·.holds?)).join

section Readings

variable (calls : List DraftCall) (call : DraftCall)

@[simp] theorem lastAssigned?_nil (f : Field) : lastAssigned? f [] = none := rfl

@[simp] theorem heldAfter_nil : heldAfter [] = none := rfl

theorem lastAssigned?_concat (f : Field) :
    lastAssigned? f (calls ++ [call]) = (call.assigns? f).or (lastAssigned? f calls) := by
  cases h : call.assigns? f <;> simp [lastAssigned?, h]

theorem sourceAfter_concat_of_holds {held : Option ChannelId} (h : call.holds? = some held) :
    sourceAfter (calls ++ [call]) = .drafted := by
  simp [sourceAfter, h]

theorem sourceAfter_concat_of_not_holds (h : call.holds? = none) :
    sourceAfter (calls ++ [call]) = sourceAfter calls := by
  simp [sourceAfter, h]

theorem heldAfter_concat_of_holds {held : Option ChannelId} (h : call.holds? = some held) :
    heldAfter (calls ++ [call]) = held := by
  simp [heldAfter, h]

theorem heldAfter_concat_of_not_holds (h : call.holds? = none) :
    heldAfter (calls ++ [call]) = heldAfter calls := by
  simp [heldAfter, h]

/-- The source is a write-channel draft once a call has asked for one or installed one. -/
theorem sourceAfter_eq_drafted_iff :
    sourceAfter calls = .drafted ↔ ∃ c ∈ calls, c.holds? ≠ none := by
  unfold sourceAfter
  split
  · next h => simpa [Option.isSome_iff_ne_none] using h
  · next h => simpa [Option.isSome_iff_ne_none] using h

/-- As long as the source is direct, no call has made the draft hold a write-channel draft. -/
theorem heldAfter_of_sourceAfter (h : sourceAfter calls = .direct) : heldAfter calls = none := by
  have hnone : ∀ c ∈ calls, c.holds? = none := by
    intro c hc
    by_cases hholds : c.holds? = none
    · exact hholds
    · rw [(sourceAfter_eq_drafted_iff calls).mpr ⟨c, hc, hholds⟩] at h
      cases h
  have hfind : calls.reverse.findSome? (·.holds?) = none :=
    List.findSome?_eq_none_iff.mpr fun c hc => hnone c (List.mem_reverse.mp hc)
  rw [heldAfter, hfind]
  rfl

end Readings

namespace Draft

/-- A draft is what the events at its place say: it was made from something and then called, each field
has the value given to it last, and the source and what is held are those that the calls leave. -/
def Follows (d : Draft) (es : List (ObjectEvent Origin DraftCall)) : Prop :=
  ∃ origin calls, es = .made origin :: calls.map .called ∧
    (∀ f, d.fields.get? f = (lastAssigned? f calls).or (origin.seed? f)) ∧
    d.source = sourceAfter calls ∧ d.held? = heldAfter calls

variable {d : Draft} {es : List (ObjectEvent Origin DraftCall)}

theorem follows_bare : bare.Follows [.made .bare] := by
  refine ⟨.bare, [], rfl, fun f => ?_, rfl, rfl⟩
  cases f <;> rfl

theorem follows_reopen (s : Settings) {origin : Origin} (h : ∀ f, origin.seed? f = some (s.get f)) :
    (reopen s).Follows [.made origin] := by
  rw [reopen_eq]
  exact ⟨origin, [], rfl, fun f => by simp [h, PartialSettings.ofSettings], rfl, rfl⟩

theorem Follows.assign (h : d.Follows es) (x : Setter) (v : x.target.Value) :
    (d.assign x.target v).Follows (es ++ [.called (.assigned x v)]) := by
  obtain ⟨origin, calls, rfl, hfields, hsource, hheld⟩ := h
  refine ⟨origin, calls ++ [.assigned x v], by simp, fun f => ?_, ?_, ?_⟩
  · rw [lastAssigned?_concat]
    by_cases hx : x.target = f
    · subst hx
      simp [Draft.assign, DraftCall.assigns?]
    · simp [Draft.assign, DraftCall.assigns?, hx, PartialSettings.get?_assign_of_ne, hfields]
  · rw [sourceAfter_concat_of_not_holds _ _ rfl, ← hsource]
    rfl
  · rw [heldAfter_concat_of_not_holds _ _ rfl, ← hheld]
    rfl

/-- A call that settles the source leaves every field as it was. -/
theorem Follows.install (h : d.Follows es) {call : DraftCall} {held : Option ChannelId}
    (hcall : call.holds? = some held) : (d.install held).Follows (es ++ [.called call]) := by
  obtain ⟨origin, calls, rfl, hfields, -, -⟩ := h
  have hassigns : ∀ f, call.assigns? f = none := by
    intro f
    cases call with
    | assigned x v => cases hcall
    | opened c => rfl
    | installed held => rfl
  refine ⟨origin, calls ++ [call], by simp, fun f => ?_, ?_, ?_⟩
  · rw [lastAssigned?_concat, hassigns, Option.none_or]
    exact hfields f
  · rw [sourceAfter_concat_of_holds _ _ hcall]
    rfl
  · rw [heldAfter_concat_of_holds _ _ hcall]
    rfl

/-- As long as the source of a draft is direct, it holds no write-channel draft. -/
theorem Follows.held?_of_direct (h : d.Follows es) (hd : d.source = .direct) : d.held? = none := by
  obtain ⟨origin, calls, -, -, hsource, hheld⟩ := h
  rw [hheld]
  exact heldAfter_of_sourceAfter calls (hsource ▸ hd)

/-- A draft that holds a write-channel draft is as if it had been installed. -/
theorem Follows.install_of_held? (h : d.Follows es) {c : ChannelId} (hc : d.held? = some c) :
    d.install (some c) = d := by
  have hsource : d.source = .drafted := by
    cases hd : d.source with
    | direct =>
      rw [h.held?_of_direct hd] at hc
      cases hc
    | drafted => rfl
  obtain ⟨fields, source, held?⟩ := d
  obtain rfl : source = .drafted := hsource
  obtain rfl : held? = some c := hc
  rfl

end Draft

end ObjectStorage
