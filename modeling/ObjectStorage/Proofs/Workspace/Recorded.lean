import ObjectStorage.Proofs.Workspace.Transition

/-!
# Every object is what its events say

* `Told R objects es`: each object is in the relation `R` to the events at its place, and where there is
  no object yet, nothing has happened. `Told.append` and `Told.set` keep it when an object is added or
  replaced.
* `WriteChannel.IsAfter`, `WriteChannel.Follows`: each setting of a write channel is what the last change of it
  gives, or what it was made from.
* `Recorded ws h`: the drafts and write-channel drafts of `ws` are told by the history `h`, and every
  write-channel draft that is held or named exists.
* `recorded_of_transition`, `recorded_run`: one transition keeps this, hence every run does.
-/

namespace ObjectStorage

/-! ## Objects told by the events at their places -/

section Told

variable {α β : Type} {R : α → List β → Prop} {objects : List α} {es es' : Nat → List β}

/-- Each object is what the events at its place say, and nothing has happened elsewhere. -/
def Told (R : α → List β → Prop) (objects : List α) (es : Nat → List β) : Prop :=
  (∀ p a, objects[p]? = some a → R a (es p)) ∧ ∀ p, objects.length ≤ p → es p = []

theorem Told.append (h : Told R objects es) {a : α} {e : β} (ha : R a [e])
    (hes : ∀ p, es' p = es p ++ if objects.length = p then [e] else []) :
    Told R (objects ++ [a]) es' := by
  refine ⟨fun p b hb => ?_, fun p hp => ?_⟩
  · rw [hes]
    rcases Nat.lt_trichotomy p objects.length with hlt | rfl | hgt
    · rw [List.getElem?_append_left hlt] at hb
      simpa [Nat.ne_of_gt hlt] using h.1 p b hb
    · have hab : a = b := by simpa using hb
      simpa [h.2 _ (Nat.le_refl _), ← hab] using ha
    · have hlen := (List.getElem?_eq_some_iff.mp hb).1
      rw [List.length_append, List.length_singleton] at hlen
      omega
  · rw [List.length_append, List.length_singleton] at hp
    have hne : objects.length ≠ p := by omega
    rw [hes, h.2 p (by omega), if_neg hne, List.append_nil]

theorem Told.set (h : Told R objects es) {q : Nat} {a a' : α} {e : β} (ha : objects[q]? = some a)
    (ha' : R a (es q) → R a' (es q ++ [e])) (hes : ∀ p, es' p = es p ++ if q = p then [e] else []) :
    Told R (objects.set q a') es' := by
  have hq : q < objects.length := (List.getElem?_eq_some_iff.mp ha).1
  refine ⟨fun p b hb => ?_, fun p hp => ?_⟩
  · rw [hes]
    by_cases hqp : q = p
    · subst hqp
      have hab : a' = b := by simpa [hq] using hb
      simpa [← hab] using ha' (h.1 q a ha)
    · rw [List.getElem?_set_ne hqp] at hb
      simpa [hqp] using h.1 p b hb
  · rw [List.length_set] at hp
    have hqp : q ≠ p := by omega
    rw [hes, h.2 p hp, if_neg hqp, List.append_nil]

/-- An event that leaves its object as it is. -/
theorem Told.touch (h : Told R objects es) {q : Nat} {a : α} {e : β} (ha : objects[q]? = some a)
    (ha' : R a (es q) → R a (es q ++ [e])) (hes : ∀ p, es' p = es p ++ if q = p then [e] else []) :
    Told R objects es' := by
  have hset : objects.set q a = objects := by
    obtain ⟨hq, rfl⟩ := List.getElem?_eq_some_iff.mp ha
    exact List.set_getElem_self hq
  exact hset ▸ h.set ha ha' hes

end Told

/-! ## Write-channel drafts -/

namespace WriteChannel

namespace Change

/-- The buffer size that a change gives. -/
def bufferSize? : Change → Option Int
  | bufferSize n => some n
  | _ => none

/-- The size of the pipe's buffer that a change gives. -/
def pipeBufferSize? : Change → Option Int
  | pipeBufferSize n => some n
  | _ => none

/-- The chunk size that a change gives. -/
def uploadChunkSize? : Change → Option Int
  | uploadChunkSize n => some n
  | _ => none

/-- The flag for direct uploads that a change gives. -/
def directUpload? : Change → Option Bool
  | directUpload b => some b
  | _ => none

/-- What the last of some changes to give one setting a value gives it. -/
def last? {α : Type} (given? : Change → Option α) (changes : List Change) : Option α :=
  changes.reverse.findSome? given?

theorem last?_concat {α : Type} (given? : Change → Option α) (changes : List Change) (x : Change) :
    last? given? (changes ++ [x]) = (given? x).or (last? given? changes) := by
  cases h : given? x <;> simp [last?, h]

end Change

/-- Each setting of the channel is what the last of some changes of it gives, or that of `start`. -/
structure IsAfter (w start : WriteChannel) (changes : List Change) : Prop where
  bufferSize : w.bufferSize = (Change.last? Change.bufferSize? changes).getD start.bufferSize
  pipeBufferSize : w.pipeBufferSize = (Change.last? Change.pipeBufferSize? changes).getD start.pipeBufferSize
  uploadChunkSize :
    w.uploadChunkSize = (Change.last? Change.uploadChunkSize? changes).getD start.uploadChunkSize
  directUpload : w.directUpload = (Change.last? Change.directUpload? changes).getD start.directUpload

theorem IsAfter.apply {w start : WriteChannel} {changes : List Change} (h : w.IsAfter start changes)
    (x : Change) : (w.apply x).IsAfter start (changes ++ [x]) := by
  obtain ⟨hbuffer, hpipe, hchunk, hdirect⟩ := h
  constructor <;> rw [Change.last?_concat] <;> cases x <;> first | rfl | assumption

/-- A write-channel draft is what it was made from, each setting changed by the last call for it. -/
def Follows (w : WriteChannel) (es : List (ObjectEvent WriteChannel Change)) : Prop :=
  ∃ (start : WriteChannel) (changes : List Change),
    es = .made start :: changes.map .called ∧ w.IsAfter start changes

theorem follows_made (w : WriteChannel) : w.Follows [.made w] :=
  ⟨w, [], rfl, rfl, rfl, rfl, rfl⟩

theorem Follows.apply {w : WriteChannel} {es : List (ObjectEvent WriteChannel Change)}
    (h : w.Follows es) (x : Change) : (w.apply x).Follows (es ++ [.called x]) := by
  obtain ⟨start, changes, rfl, hafter⟩ := h
  exact ⟨start, changes ++ [x], by simp, hafter.apply x⟩

end WriteChannel

/-! ## Workspaces -/

namespace Workspace

theorem channelDraft?_bind {ws : Workspace} {name other : String} {o : Object} {c : ChannelId}
    (h : (ws.bind name o).channelDraft? other = some c) :
    o = .channelDraft c ∨ ws.channelDraft? other = some c := by
  unfold channelDraft? at h ⊢
  by_cases hname : other = name
  · subst hname
    rw [object?_bind_self] at h
    cases o <;> simp_all
  · rw [object?_bind_of_ne ws hname] at h
    exact Or.inr h

theorem getElem?_content {ws : Workspace} {c : ChannelId} (h : c < ws.channelDrafts.length) :
    ws.channelDrafts[c]? = some (ws.content c) := by
  simp [content, h]

/-- The objects of a workspace are what a history says. -/
structure Recorded (ws : Workspace) (h : List Event) : Prop where
  drafts : Told Draft.Follows ws.drafts (draftEvents · h)
  channels : Told WriteChannel.Follows ws.channelDrafts (channelEvents · h)
  held : ∀ d ∈ ws.drafts, ∀ c, d.held? = some c → c < ws.channelDrafts.length
  named : ∀ name c, ws.channelDraft? name = some c → c < ws.channelDrafts.length

theorem recorded_empty : Recorded empty [] :=
  ⟨⟨by simp [empty], fun _ _ => rfl⟩, ⟨by simp [empty], fun _ _ => rfl⟩, by simp [empty],
    by simp [empty, channelDraft?, object?]⟩

section Writing

variable {ws : Workspace} {h : List Event}

theorem Recorded.bind (r : Recorded ws h) (name : String) (o : Object)
    (ho : ∀ c, o = .channelDraft c → c < ws.channelDrafts.length) : Recorded (ws.bind name o) h :=
  ⟨r.drafts, r.channels, r.held, fun other c hc =>
    (channelDraft?_bind hc).elim (ho c) (r.named other c)⟩

theorem Recorded.addValue (r : Recorded ws h) (name : String) (v : Value) :
    Recorded (ws.addValue name v) h := by
  have r' : Recorded { ws with values := ws.values ++ [v] } h :=
    ⟨r.drafts, r.channels, r.held, r.named⟩
  exact r'.bind name _ (by simp)

theorem Recorded.addDraft (r : Recorded ws h) (name : String) {d : Draft} {origin : Origin}
    (hd : d.Follows [.made origin]) :
    Recorded (ws.addDraft name d) (h ++ [.draft ws.drafts.length (.made origin)]) := by
  have hnone : d.held? = none := by
    obtain ⟨_, calls, heq, -, -, hheld⟩ := hd
    have hcalls : calls = [] := by simpa using (List.cons.inj heq).2
    simp [hheld, hcalls]
  have r' : Recorded { ws with drafts := ws.drafts ++ [d] }
      (h ++ [.draft ws.drafts.length (.made origin)]) := by
    refine ⟨r.drafts.append hd fun p => by simp, ?_, fun d' hd' c hc => ?_, r.named⟩
    · simpa using r.channels
    · rcases List.mem_append.mp hd' with hd' | hd'
      · exact r.held d' hd' c hc
      · rw [List.mem_singleton.mp hd', hnone] at hc
        cases hc
  exact r'.bind name _ (by simp)

/-- A call that changes a draft. -/
theorem Recorded.putDraft (r : Recorded ws h) {p : Nat} {d d' : Draft} {call : DraftCall}
    (hd : ws.drafts[p]? = some d)
    (hfollows : ∀ es, d.Follows es → d'.Follows (es ++ [.called call]))
    (hheld : ∀ c, d'.held? = some c → c < ws.channelDrafts.length) :
    Recorded (ws.putDraft p d') (h ++ [.draft p (.called call)]) := by
  refine ⟨r.drafts.set hd (hfollows _) fun q => by simp, ?_, fun d'' hd'' c hc => ?_, r.named⟩
  · simpa [Workspace.putDraft] using r.channels
  · rcases List.mem_or_eq_of_mem_set hd'' with hd'' | rfl
    · exact r.held d'' hd'' c hc
    · exact hheld c hc

theorem Recorded.addChannelDraft (r : Recorded ws h) (name : String) (w : WriteChannel) :
    Recorded (ws.addChannelDraft name w) (h ++ [.channel ws.channelDrafts.length (.made w)]) := by
  have hgrow : ws.channelDrafts.length ≤ (ws.channelDrafts ++ [w]).length := by simp
  have r' : Recorded { ws with channelDrafts := ws.channelDrafts ++ [w] }
      (h ++ [.channel ws.channelDrafts.length (.made w)]) := by
    exact ⟨by simpa using r.drafts, r.channels.append w.follows_made fun p => by simp,
      fun d hd c hc => Nat.lt_of_lt_of_le (r.held d hd c hc) hgrow,
      fun other c hc => Nat.lt_of_lt_of_le (r.named other c hc) hgrow⟩
  exact r'.bind name _ (by simp)

theorem Recorded.putChannelDraft (r : Recorded ws h) {c : ChannelId}
    (hc : c < ws.channelDrafts.length) (x : WriteChannel.Change) :
    Recorded (ws.putChannelDraft c ((ws.content c).apply x)) (h ++ [.channel c (.called x)]) := by
  have hlen : (ws.channelDrafts.set c ((ws.content c).apply x)).length = ws.channelDrafts.length :=
    List.length_set
  refine ⟨?_, r.channels.set (getElem?_content hc) (fun hw => hw.apply x) fun p => by simp,
    fun d hd c' hc' => ?_, fun name c' hc' => ?_⟩
  · simpa [Workspace.putChannelDraft] using r.drafts
  · exact hlen ▸ r.held d hd c' hc'
  · exact hlen ▸ r.named name c' hc'

end Writing

/-! ## Steps and runs -/

/-- A transition keeps the workspace in line with the history. -/
theorem recorded_of_transition {ws ws' : Workspace} {h es : List Event} (r : Recorded ws h)
    (t : Transition ws es ws') : Recorded ws' (h ++ es) := by
  cases t with
  | stay => simpa using r
  | keep name v => simpa using r.addValue name v
  | startDraft name hd => exact r.addDraft name hd
  | @assign p d hd x v =>
    exact r.putDraft hd (fun _ hf => hf.assign x v) (r.held d (List.mem_of_getElem? hd))
  | @answerHeld name p d c hd hc =>
    have hlt := r.held d (List.mem_of_getElem? hd) c hc
    have hfollows : ∀ es, d.Follows es → d.Follows (es ++ [.called (.opened c)]) := fun es hf => by
      have hf' : (d.install (some c)).Follows (es ++ [.called (.opened c)]) := hf.install rfl
      rwa [hf.install_of_held? hc] at hf'
    have r' : Recorded ws (h ++ [.draft p (.called (.opened c))]) :=
      ⟨r.drafts.touch hd (hfollows _) fun q => by simp, by simpa using r.channels, r.held, r.named⟩
    exact r'.bind name _ (by rintro _ ⟨⟩; exact hlt)
  | @answerNew name p d hd =>
    have hd' : (ws.addChannelDraft name .default).drafts[p]? = some d := hd
    have hfollows : ∀ es, d.Follows es → (d.install (some ws.channelDrafts.length)).Follows
        (es ++ [.called (.opened ws.channelDrafts.length)]) := fun _ hf => hf.install rfl
    have r' := (r.addChannelDraft name .default).putDraft hd' hfollows fun c hc => by
      cases hc
      show _ < (ws.channelDrafts ++ [WriteChannel.default]).length
      simp
    simpa using r'
  | install hd hheld =>
    refine r.putDraft hd (fun _ hf => hf.install rfl) fun c hc => ?_
    obtain ⟨name, hname⟩ := hheld c hc
    exact r.named name c hname
  | startChannelDraft name w => exact r.addChannelDraft name w
  | change hc x => exact r.putChannelDraft (r.named _ _ hc) x

/-- After a run of a workspace that is in line with a history, so is the workspace that it leaves. -/
theorem Recorded.run {ws : Workspace} {h : List Event} (r : Recorded ws h) (ss : List Step) :
    Recorded (ws.run ss).2 (h ++ ws.history ss) := by
  induction ss generalizing ws h with
  | nil => simpa using r
  | cons s ss ih =>
    have hnext := ih (recorded_of_transition r (transition_step ws s))
    simpa using hnext

/-- Every object that a run makes is what its history says. -/
theorem recorded_run (ss : List Step) : Recorded (empty.run ss).2 (empty.history ss) :=
  recorded_empty.run ss

end Workspace

end ObjectStorage
