import ObjectStorage.Proofs.Workspace.Transition

/-!
# Steps without a trace

A step that fails, and a step that only reads, leaves the workspace exactly as it was, so that a run
answers alike with and without them.

* `onValue_elim`, `onSettings_elim`, `onWriteChannel_elim`, `compare_elim`: what holds of a refusal and of
  every answer holds of a call.
* `SparedBy`, `KeptBy`, `AddsAs`: what a call leaves of the workspace if it fails, in any case, and if it
  succeeds.
* `step_of_error`, `step_of_isReading`: the workspace after such a step is the one before it.
* `step_of_keepsAs?`, `agreeExcept_addValue`: building and replacing change what one name stands for, and
  nothing else, in a workspace where every named value exists.
* `without`, `run_without`: a run less some of its steps that leave the workspace as it is.
-/

namespace ObjectStorage

namespace Step

/-- The steps that only read. Asking a draft for its write-channel draft is not among them. -/
def isReading : Step → Bool
  | source _ => true
  | document _ => true
  | same _ _ => true
  | equal _ _ => true
  | check _ => true
  | clientConfig _ => true
  | _ => false

/-- The name that a finished value gets from a step that builds one or replaces a field of one. -/
def keepsAs? : Step → Option String
  | build _ name => some name
  | buildChannel _ name => some name
  | replace _ _ _ name => some name
  | _ => none

end Step

namespace Workspace

variable {ws : Workspace}

/-! ## Calls on finished values -/

section Calls

variable {name : String} {P : Effect → Prop}

/-- A call on a finished value is refused, or it is what the value answers. -/
theorem onValue_elim {f : Value → Effect} (hrefuse : ∀ e, P (refuse e ws)) (hf : ∀ v, P (f v)) :
    P (ws.onValue name f) := by
  unfold onValue
  split
  · exact hrefuse _
  · exact hf _

theorem onSettings_elim {f : Settings → Effect} (hrefuse : ∀ e, P (refuse e ws)) (hf : ∀ s, P (f s)) :
    P (ws.onSettings name f) := by
  refine onValue_elim hrefuse fun v => ?_
  cases v with
  | settings s => exact hf s
  | writeChannel w => exact hrefuse _
  | requesterPays r => exact hrefuse _

theorem onWriteChannel_elim {f : WriteChannel → Effect} (hrefuse : ∀ e, P (refuse e ws))
    (hf : ∀ w, P (f w)) : P (ws.onWriteChannel name f) := by
  refine onValue_elim hrefuse fun v => ?_
  cases v with
  | settings s => exact hrefuse _
  | writeChannel w => exact hf w
  | requesterPays r => exact hrefuse _

/-- A comparison is refused, or it is the answer for two objects. -/
theorem compare_elim {x y : String} {f : Object → Object → Answer} (hrefuse : ∀ e, P (refuse e ws))
    (hf : ∀ a b, P (answer (f a b) ws)) : P (ws.compare x y f) := by
  unfold compare
  split
  · exact hf _ _
  · exact hrefuse _
  · exact hrefuse _

end Calls

/-! ## Calls that fail -/

/-- A call that fails leaves the workspace as it is. -/
def SparedBy (ws : Workspace) (x : Effect) : Prop := ∀ e, x.1.result = .error e → x.2 = ws

section Failing

variable {name : String} {x : Effect}

theorem sparedBy_refuse (e : Fault) : ws.SparedBy (refuse e ws) := fun _ _ => rfl

theorem sparedBy_of_ok {a : Answer} (h : x.1.result = .ok a) : ws.SparedBy x := by
  intro e he
  rw [h] at he
  cases he

theorem sparedBy_keep (made : Outcome Value) : ws.SparedBy (ws.keep name made) := by
  unfold Workspace.keep
  cases hmade : made.result with
  | error e => exact fun _ _ => rfl
  | ok v => exact sparedBy_of_ok (a := .value v) (by simp [Outcome.map, hmade, Except.map])

theorem sparedBy_startFrom (env : Environment) : ws.SparedBy (ws.startFrom env name) := by
  unfold startFrom
  cases hmade : env.draft.result with
  | error e =>
    simp only [hmade]
    exact fun _ _ => rfl
  | ok d => exact sparedBy_of_ok (a := .source d.source) (by simp [hmade, Outcome.map, Except.map])

theorem sparedBy_setOn (x : Setting) : ws.SparedBy (ws.setOn name x) := by
  unfold setOn
  split
  · exact sparedBy_refuse _
  · next p d hd =>
    cases hmade : (d.applySetting ws.value? x).result with
    | error e =>
      simp only [hmade]
      exact fun _ _ => rfl
    | ok d' => exact sparedBy_of_ok (a := .chained d'.source) (by simp [hmade, Outcome.map, Except.map])

theorem sparedBy_openChannelDraft (draft : String) : ws.SparedBy (ws.openChannelDraft draft name) := by
  unfold openChannelDraft
  split
  · exact sparedBy_refuse _
  · dsimp only
    split <;> exact sparedBy_of_ok rfl

theorem sparedBy_installOn (draft : String) (channel : Option String) :
    ws.SparedBy (ws.installOn draft channel) := by
  unfold installOn
  split
  · exact sparedBy_refuse _
  · dsimp only
    split
    · exact sparedBy_of_ok rfl
    · split
      · exact sparedBy_of_ok rfl
      · exact sparedBy_refuse _

theorem sparedBy_setOnChannel (field : String) (given : Given) :
    ws.SparedBy (ws.setOnChannel name field given) := by
  unfold setOnChannel
  split
  · exact sparedBy_refuse _
  · split
    · exact sparedBy_refuse _
    · exact sparedBy_of_ok rfl

end Failing

/-- The workspace after a step that fails is the one before it. -/
theorem step_of_error {s : Step} {e : Fault} (h : (ws.step s).1.result = .error e) :
    (ws.step s).2 = ws := by
  revert e
  show ws.SparedBy (ws.step s)
  cases s with
  | freshDraft name => exact sparedBy_of_ok rfl
  | bareDraft name => exact sparedBy_of_ok rfl
  | environmentDraft env name => exact sparedBy_startFrom env
  | reopen value name => exact onSettings_elim sparedBy_refuse fun s => sparedBy_of_ok rfl
  | set draft x => exact sparedBy_setOn x
  | source draft =>
    simp only [step]
    split
    · exact sparedBy_refuse _
    · exact sparedBy_of_ok rfl
  | channelDraft draft name => exact sparedBy_openChannelDraft draft
  | install draft channel => exact sparedBy_installOn draft channel
  | build draft name =>
    simp only [step, buildOn]
    split
    · exact sparedBy_refuse _
    · exact sparedBy_keep _
  | freshChannelDraft name => exact sparedBy_of_ok rfl
  | reopenChannel value name => exact onWriteChannel_elim sparedBy_refuse fun w => sparedBy_of_ok rfl
  | setChannel channel field given => exact sparedBy_setOnChannel field given
  | buildChannel channel name =>
    simp only [step]
    split
    · exact sparedBy_refuse _
    · exact sparedBy_keep _
  | makeChannel w name => exact sparedBy_keep _
  | makeRequesterPays b name => exact sparedBy_keep _
  | replace value field given name => exact onValue_elim sparedBy_refuse fun v => sparedBy_keep _
  | assign value field => exact onValue_elim sparedBy_refuse fun v => sparedBy_refuse _
  | delete value field => exact onValue_elim sparedBy_refuse fun v => sparedBy_refuse _
  | document value => exact onValue_elim sparedBy_refuse fun v => sparedBy_of_ok rfl
  | same x y => exact compare_elim sparedBy_refuse fun a b => sparedBy_of_ok rfl
  | equal x y => exact compare_elim sparedBy_refuse fun a b => sparedBy_of_ok rfl
  | check value => exact onSettings_elim sparedBy_refuse fun s _ _ => rfl
  | clientConfig value => exact onSettings_elim sparedBy_refuse fun s _ _ => rfl

/-! ## Calls that only read -/

/-- A call leaves the workspace as it is. -/
def KeptBy (ws : Workspace) (x : Effect) : Prop := x.2 = ws

theorem keptBy_refuse (e : Fault) : ws.KeptBy (refuse e ws) := rfl

theorem keptBy_answer (a : Answer) : ws.KeptBy (answer a ws) := rfl

/-- The workspace after a step that only reads is the one before it. -/
theorem step_of_isReading {s : Step} (h : s.isReading = true) : (ws.step s).2 = ws := by
  show ws.KeptBy (ws.step s)
  cases s with
  | source draft =>
    simp only [step]
    split
    · exact keptBy_refuse _
    · exact keptBy_answer _
  | document value => exact onValue_elim keptBy_refuse fun v => keptBy_answer _
  | same x y => exact compare_elim keptBy_refuse fun a b => keptBy_answer _
  | equal x y => exact compare_elim keptBy_refuse fun a b => keptBy_answer _
  | check value => exact onSettings_elim keptBy_refuse fun s => rfl
  | clientConfig value => exact onSettings_elim keptBy_refuse fun s => rfl
  | _ => cases h

/-! ## Calls that make a finished value -/

/-- A call that succeeds adds a finished value under a name and answers it. -/
def AddsAs (ws : Workspace) (name : String) (x : Effect) : Prop :=
  ∀ a, x.1.result = .ok a → ∃ v, a = .value v ∧ x.2 = ws.addValue name v

theorem addsAs_refuse {name : String} (e : Fault) : ws.AddsAs name (refuse e ws) := by
  intro a h
  cases h

theorem addsAs_keep {name : String} (made : Outcome Value) : ws.AddsAs name (ws.keep name made) := by
  intro a h
  unfold Workspace.keep at h ⊢
  cases hmade : made.result with
  | error e => simp [hmade] at h
  | ok v =>
    simp only [hmade, Outcome.map, Except.map, Except.ok.injEq] at h ⊢
    exact ⟨v, h.symm, rfl⟩

/-- A step that builds a finished value, or replaces a field of one, adds a value under its name. -/
theorem step_of_keepsAs? {s : Step} {name : String} {a : Answer} (hs : s.keepsAs? = some name)
    (h : (ws.step s).1.result = .ok a) : ∃ v, a = .value v ∧ (ws.step s).2 = ws.addValue name v := by
  revert a
  show ws.AddsAs name (ws.step s)
  cases s with
  | build draft other =>
    obtain rfl := Option.some.inj hs
    simp only [step, buildOn]
    split
    · exact addsAs_refuse _
    · exact addsAs_keep _
  | buildChannel channel other =>
    obtain rfl := Option.some.inj hs
    simp only [step]
    split
    · exact addsAs_refuse _
    · exact addsAs_keep _
  | replace value field given other =>
    obtain rfl := Option.some.inj hs
    exact onValue_elim addsAs_refuse fun v => addsAs_keep _
  | _ => cases hs

/-- Two workspaces have the same drafts, and every name but one stands for the same. -/
structure AgreeExcept (name : String) (ws ws' : Workspace) : Prop where
  drafts : ws'.drafts = ws.drafts
  channelDrafts : ws'.channelDrafts = ws.channelDrafts
  values : ws.values <+: ws'.values
  object? : ∀ other, other ≠ name → ws'.object? other = ws.object? other
  value? : ∀ other, other ≠ name → ws'.value? other = ws.value? other

/-- Every finished value that has a name exists. -/
def ValuesExist (ws : Workspace) : Prop :=
  ∀ name i, ws.object? name = some (.value i) → i < ws.values.length

theorem ValuesExist.bind (h : ws.ValuesExist) (name : String) {o : Object}
    (ho : ∀ i, o = .value i → i < ws.values.length) : (ws.bind name o).ValuesExist := by
  intro other i hi
  by_cases hname : other = name
  · subst hname
    rw [object?_bind_self] at hi
    exact ho i (Option.some.inj hi)
  · rw [object?_bind_of_ne ws hname] at hi
    exact h other i hi

theorem ValuesExist.transition {ws' : Workspace} {es : List Event} (h : ws.ValuesExist)
    (t : Transition ws es ws') : ws'.ValuesExist := by
  cases t with
  | stay => exact h
  | keep name v =>
    have h' : ValuesExist { ws with values := ws.values ++ [v] } := fun other i hi => by
      have hlt := h other i hi
      simp only [List.length_append, List.length_singleton]
      omega
    exact h'.bind name (by rintro _ ⟨⟩; simp)
  | startDraft name hd =>
    have h' (drafts : List Draft) : ValuesExist { ws with drafts } := h
    exact (h' _).bind name (by simp)
  | assign hd x v => exact h
  | answerHeld name hd hc => exact h.bind name (by simp)
  | answerNew name hd =>
    have h' (channelDrafts : List WriteChannel) : ValuesExist { ws with channelDrafts } := h
    exact (h' _).bind name (by simp)
  | install hd hheld => exact h
  | startChannelDraft name w =>
    have h' (channelDrafts : List WriteChannel) : ValuesExist { ws with channelDrafts } := h
    exact (h' _).bind name (by simp)
  | change hc x => exact h

/-- After every run, every finished value that has a name exists. -/
theorem valuesExist_run (ss : List Step) (h : ws.ValuesExist) : (ws.run ss).2.ValuesExist := by
  induction ss generalizing ws with
  | nil => exact h
  | cons s ss ih => exact ih (h.transition (transition_step ws s))

theorem agreeExcept_addValue (h : ws.ValuesExist) (name : String) (v : Value) :
    AgreeExcept name ws (ws.addValue name v) where
  drafts := rfl
  channelDrafts := rfl
  values := List.prefix_append ws.values [v]
  object? other hother := object?_bind_of_ne _ hother _
  value? other hother := by
    have hobject : (ws.addValue name v).object? other = ws.object? other :=
      object?_bind_of_ne _ hother _
    unfold Workspace.value?
    rw [hobject]
    split
    · next i hi => exact List.getElem?_append_left (h other i hi)
    · rfl

/-! ## Runs with and without some of their steps -/

/-- A list less its items at some places. -/
def without {α : Type} (deleted : Nat → Bool) : List α → List α
  | [] => []
  | a :: as =>
    if deleted 0 then without (fun i => deleted (i + 1)) as
    else a :: without (fun i => deleted (i + 1)) as

/-- A run less steps that leave the workspace as it is: the other steps answer as before, and the
workspace at the end is the same. -/
theorem run_without {ss : List Step} {deleted : Nat → Bool}
    (h : ∀ i s, ss[i]? = some s → deleted i = true →
      ((ws.run (ss.take i)).2.step s).2 = (ws.run (ss.take i)).2) :
    ws.run (without deleted ss) = (without deleted (ws.run ss).1, (ws.run ss).2) := by
  induction ss generalizing ws deleted with
  | nil => rfl
  | cons s ss ih =>
    have hrest : ∀ i t, ss[i]? = some t → deleted (i + 1) = true →
        (((ws.step s).2.run (ss.take i)).2.step t).2 = ((ws.step s).2.run (ss.take i)).2 :=
      fun i t ht hi => h (i + 1) t ht hi
    have hnext := ih hrest
    by_cases hfirst : deleted 0 = true
    · have hstays : (ws.step s).2 = ws := h 0 s rfl hfirst
      rw [hstays] at hnext
      simp only [without, if_pos hfirst, run_cons, hstays]
      exact hnext
    · simp only [without, if_neg hfirst, run_cons, hnext]

/-- A step fails or only reads. -/
def IsTraceless (ws : Workspace) (s : Step) : Prop :=
  (∃ e, (ws.step s).1.result = .error e) ∨ s.isReading = true

theorem step_of_isTraceless {s : Step} (h : ws.IsTraceless s) : (ws.step s).2 = ws := by
  rcases h with ⟨e, he⟩ | hread
  · exact step_of_error he
  · exact step_of_isReading hread

/-- **No trace.** In every workspace that a run reaches:
a step that fails leaves it exactly as it is;
a step that only reads does so too, whatever it answers;
a step that builds a finished value or replaces a field of one adds that value under its own name, and
all else stays as it was;
and a further run less any of its steps that fail or only read has the same answer, records and warnings
at every step that is left, and ends in the same workspace. -/
theorem run_without_traceless (before : List Step) (hws : (empty.run before).2 = ws) :
    (∀ s e, (ws.step s).1.result = .error e → (ws.step s).2 = ws) ∧
    (∀ s : Step, s.isReading = true → (ws.step s).2 = ws) ∧
    (∀ s name a, s.keepsAs? = some name → (ws.step s).1.result = .ok a →
      ∃ v, a = .value v ∧ (ws.step s).2 = ws.addValue name v ∧
        AgreeExcept name ws (ws.step s).2) ∧
    ∀ (ss : List Step) (deleted : Nat → Bool),
      (∀ i s, ss[i]? = some s → deleted i = true → (ws.run (ss.take i)).2.IsTraceless s) →
      ws.run (without deleted ss) = (without deleted (ws.run ss).1, (ws.run ss).2) := by
  have hexist : ws.ValuesExist := hws ▸ valuesExist_run before (by simp [ValuesExist, object?, empty])
  refine ⟨fun s e he => step_of_error he, fun s hs => step_of_isReading hs,
    fun s name a hs ha => ?_, fun ss deleted h => ?_⟩
  · obtain ⟨v, rfl, hadd⟩ := step_of_keepsAs? hs ha
    exact ⟨v, rfl, hadd, hadd ▸ agreeExcept_addValue hexist name v⟩
  · exact run_without fun i s hs hi => step_of_isTraceless (h i s hs hi)

/-- A draft that cannot be built yet and one that can. -/
def twoDrafts : List Step := [.bareDraft "b", .freshDraft "d"]

/-- A build that fails, a setter that fails, an assignment, and steps that read, among others. -/
def mixedRun : List Step :=
  [.build "b" "v", .set "d" ⟨.field .transport, .text (some "smoke")⟩, .source "d", .build "d" "v",
    .assign "v" "app_name", .check "v", .channelDraft "d" "s", .equal "v" "v", .build "d" "w"]

/-- The places of the steps of `mixedRun` that fail or only read. -/
def quietPlaces (i : Nat) : Bool := i ∈ [0, 1, 2, 4, 5, 7]

theorem run_without_quietPlaces :
    ∃ ws, (empty.run twoDrafts).2 = ws ∧
      (∃ e, (ws.step (.build "b" "v")).1.result = .error e) ∧ (ws.step (.build "b" "v")).2 = ws ∧
      (ws.step (.source "d")).2 = ws ∧ AgreeExcept "v" ws (ws.step (.build "d" "v")).2 ∧
      (∀ i s, mixedRun[i]? = some s → quietPlaces i = true →
        (ws.run (mixedRun.take i)).2.IsTraceless s) ∧
      (without quietPlaces mixedRun).length = 3 ∧
      ws.run (without quietPlaces mixedRun) =
        (without quietPlaces (ws.run mixedRun).1, (ws.run mixedRun).2) := by
  obtain ⟨hfails, hreads, hkeeps, hdeleted⟩ := run_without_traceless twoDrafts rfl
  have hquiet : ∀ i s, mixedRun[i]? = some s → quietPlaces i = true →
      ((empty.run twoDrafts).2.run (mixedRun.take i)).2.IsTraceless s := by
    intro i s hs hi
    simp only [quietPlaces, List.mem_cons, List.not_mem_nil, or_false, decide_eq_true_eq] at hi
    rcases hi with rfl | rfl | rfl | rfl | rfl | rfl <;> cases hs
    · exact .inl ⟨_, rfl⟩
    · exact .inl ⟨_, rfl⟩
    · exact .inr rfl
    · exact .inl ⟨_, rfl⟩
    · exact .inr rfl
    · exact .inr rfl
  obtain ⟨v, -, -, hagree⟩ := hkeeps (.build "d" "v") "v" _ rfl rfl
  exact ⟨_, rfl, ⟨_, rfl⟩, hfails (.build "b" "v") _ rfl, hreads (.source "d") rfl, hagree, hquiet,
    rfl, hdeleted mixedRun quietPlaces hquiet⟩

end Workspace

end ObjectStorage
