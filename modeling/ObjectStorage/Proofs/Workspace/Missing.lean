import ObjectStorage.Proofs.Draft.Missing
import ObjectStorage.Proofs.Draft.MissingMessage
import ObjectStorage.Proofs.Workspace.Setters

/-!
# Which fields a build misses

Over every run, for every draft that was made bare:

* `Draft.mem_missing_iff_of_bare`: a field is missing if it is required and no call has set it; the write
  channel is not required of a draft that takes it from a write-channel draft.
* `Workspace.exists_build_run_set_iff`: setters make a build succeed exactly if they are for all missing
  fields.
* `Workspace.build_of_bare_run`: which builds fail, what they say, and what makes them succeed.
-/

namespace ObjectStorage

/-- The fields that need not be set: the texts, which are left out from the start. -/
def Field.optional : List Field := [.projectId, .appName, .proxyAddress]

/-- The field that a call gives a value. -/
def DraftCall.target? : DraftCall → Option Field
  | assigned x _ => some x.target
  | opened _ => none
  | installed _ => none

theorem Origin.seed?_bare_eq_none_iff {f : Field} : Origin.bare.seed? f = none ↔ f ∉ Field.optional := by
  cases f <;> simp [seed?, Field.optional]

/-- No call has given a field a value exactly if none was for it. -/
theorem lastAssigned?_eq_none_iff {calls : List DraftCall} {f : Field} :
    lastAssigned? f calls = none ↔ ∀ call ∈ calls, call.target? ≠ some f := by
  rw [lastAssigned?, List.findSome?_eq_none_iff]
  simp only [List.mem_reverse]
  refine forall₂_congr fun call _ => ?_
  cases call <;> simp [DraftCall.assigns?, DraftCall.target?]

/-- What a draft misses that was made bare: every required field that no call was for, but the write channel
only while it is set directly. -/
theorem Draft.mem_missing_iff_of_bare {d : Draft} {calls : List DraftCall} {f : Field}
    (h : d.Follows (.made .bare :: calls.map .called)) :
    f ∈ d.missing ↔ f ∉ Field.optional ∧ (∀ call ∈ calls, call.target? ≠ some f) ∧
      (f = .writeChannel → d.source = .direct) := by
  obtain ⟨origin, calls', heq, hfields, -⟩ := h
  obtain ⟨rfl, rfl⟩ := ObjectEvent.made_cons_inj.mp heq
  rw [mem_missing_iff, hfields, Option.or_eq_none_iff, lastAssigned?_eq_none_iff,
    Origin.seed?_bare_eq_none_iff, and_assoc, and_left_comm]

namespace Workspace

variable {ws : Workspace} {name : String} {p : Nat} {d : Draft}

/-- Setters that succeed make a build succeed exactly if they are for all missing fields. -/
theorem exists_build_run_set_iff (hd : ws.draft? name = some (p, d))
    (hsource : ¬ (d.source = .drafted ∧ d.held? = none)) {xs : List Setting}
    (hxs : ∀ x ∈ xs, ∃ v, x.given.read ws.value? x.setter.target.kind = .ok v) (other : String) :
    (∃ s, ((ws.run (xs.map (.set name))).2.step (.build name other)).1.result =
      .ok (.value (.settings s))) ↔ ∀ f ∈ d.missing, ∃ x ∈ xs, x.setter.target = f := by
  have hd' := draft?_putDraft hd (d.setAll ws.value? xs)
  have hsource' : ¬ ((d.setAll ws.value? xs).source = .drafted ∧ (d.setAll ws.value? xs).held? = none) := by
    rwa [(Draft.source_setAll xs).1, (Draft.source_setAll xs).2]
  have hmissing : (d.setAll ws.value? xs).missing = [] ↔
      ∀ f ∈ d.missing, ∃ x ∈ xs, x.setter.target = f := by
    simp only [List.eq_nil_iff_forall_not_mem, Draft.mem_missing_setAll_iff hxs, not_and, not_forall,
      not_not, exists_prop]
  rw [run_set hd, ← hmissing, ← Draft.exists_build_iff hsource' ws.content]
  exact exists_congr fun s => step_build_eq_ok_iff hd'

/-- **A build without all values fails precisely.** Let a run have made a draft bare and then called it in
any way. If it is to take its write channel from a write-channel draft and holds none, then a build fails
for this reason, whatever else is missing. Otherwise there is a list of fields, each once and in declaration
order: the required ones that no call was for, with the write channel only while it is set directly. If the
list is empty, a build succeeds. If not, it fails, with a message that gives their number and names them in
this order. Under any name of the draft, a failing step leaves the workspace as it is, and a build after
further setters that succeed has a result exactly if these are for all fields of the list. -/
theorem build_of_bare_run (ss : List Step) (hws : (empty.run ss).2 = ws) (hd : ws.drafts[p]? = some d)
    {calls : List DraftCall}
    (hbare : draftEvents p (empty.history ss) = .made .bare :: calls.map .called) :
    (d.source = .drafted ∧ d.held? = none → ∃ e, d.build ws.content = .fail e ∧ e.kind = .assertion) ∧
    (¬ (d.source = .drafted ∧ d.held? = none) → ∃ fs : List Field, fs.Sublist Field.all ∧
      (∀ f, f ∈ fs ↔ f ∉ Field.optional ∧ (∀ call ∈ calls, call.target? ≠ some f) ∧
        (f = .writeChannel → d.source = .direct)) ∧
      (fs = [] → ∃ s, (d.build ws.content).result = .ok s) ∧
      (fs ≠ [] → ∃ e, (d.build ws.content).result = .error e ∧ e = .missingFields fs ∧
        e.kind = .arguments ∧ thirdWord? e.message = some fs.length ∧
        quotedNames e.message = fs.map Field.key) ∧
      ∀ name, ws.draft? name = some (p, d) →
        (fs ≠ [] → ∀ other, (ws.step (.build name other)).2 = ws) ∧
        ∀ xs : List Setting, (∀ x ∈ xs, ∃ v, x.given.read ws.value? x.setter.target.kind = .ok v) →
          ∀ other, (∃ s, ((ws.run (xs.map (.set name))).2.step (.build name other)).1.result =
            .ok (.value (.settings s))) ↔ ∀ f ∈ fs, ∃ x ∈ xs, x.setter.target = f) := by
  have hfollows : d.Follows (.made .bare :: calls.map .called) := by
    rw [← hbare]
    exact (recorded_run ss).drafts.1 p d (hws ▸ hd)
  refine ⟨fun hsource => ?_, fun hsource => ⟨d.missing, d.missing_sublist,
    fun f => Draft.mem_missing_iff_of_bare hfollows,
    fun hnil => Draft.exists_build_of_missing_eq_nil hsource hnil _, fun hne => ?_,
    fun name hname => ⟨fun hne other => ?_, fun xs hxs other => ?_⟩⟩⟩
  · refine ⟨.nothingInstalled, ?_, rfl⟩
    show (⟨(d.build ws.content).result, d.log, []⟩ : Outcome Settings) = _
    rw [Draft.build_of_nothingInstalled hsource.1 hsource.2, Draft.log, hsource.1, hsource.2]
    rfl
  · exact ⟨_, Draft.build_of_missing_ne_nil hsource hne, rfl, rfl, thirdWord?_missingMessage _,
      quotedNames_missingMessage _⟩
  · rw [step_build_of_error hname (Draft.build_of_missing_ne_nil hsource hne)]
  · exact exists_build_run_set_iff hname hsource hxs other

/-- A bare draft with two setters, one by a former name, a build that fails and a write-channel draft. -/
def bareRun : List Step :=
  [.bareDraft "b", .set "b" ⟨.field .serverSideCopy, .flag true⟩, .build "b" "v",
    .channelDraft "b" "c", .set "b" ⟨.createMarkerObjects, .flag false⟩]

/-- Setters for all that such a draft misses, the last declared field first. -/
def lateSetters : List Setting :=
  [⟨.field .requesterPays, .requesterPays ⟨"auto", none, []⟩⟩, ⟨.field .transport, .text (some "crt")⟩,
    ⟨.field .readTimeout, .number 1⟩, ⟨.field .connectTimeout, .number 2⟩,
    ⟨.field .maxHttpRequestRetries, .number 3⟩, ⟨.field .batchThreads, .number 4⟩,
    ⟨.field .maxRequestsPerBatch, .number 5⟩, ⟨.field .maxListItemsPerCall, .number 6⟩,
    ⟨.field .maxWaitMillisForEmptyObject, .number 7⟩,
    ⟨.field .inferImplicitDirectories, .flag true⟩, ⟨.field .autoRepairImplicitDirectories, .flag true⟩]

theorem build_of_bareRun :
    ∃ (ws : Workspace) (d : Draft) (calls : List DraftCall) (fs : List Field),
      (empty.run bareRun).2 = ws ∧ ws.drafts[0]? = some d ∧
      draftEvents 0 (empty.history bareRun) = .made .bare :: calls.map .called ∧
      ¬ (d.source = .drafted ∧ d.held? = none) ∧ .batchThreads ∈ fs ∧ .writeChannel ∉ fs ∧
      (∃ e, (d.build ws.content).result = .error e ∧ quotedNames e.message = fs.map Field.key) ∧
      ∃ s, ((ws.run (lateSetters.map (.set "b"))).2.step (.build "b" "v")).1.result =
        .ok (.value (.settings s)) := by
  obtain ⟨d, calls, hd, hname, hbare, hcalls, hsource, hheld⟩ : ∃ (d : Draft) (calls : List DraftCall),
      (empty.run bareRun).2.drafts[0]? = some d ∧ (empty.run bareRun).2.draft? "b" = some (0, d) ∧
      draftEvents 0 (empty.history bareRun) = .made .bare :: calls.map .called ∧
      calls.map DraftCall.target? = [some .serverSideCopy, none, some .markerFileCreation] ∧
      d.source = .drafted ∧ d.held? = some 0 :=
    ⟨_, [.assigned (.field .serverSideCopy) true, .opened 0, .assigned .createMarkerObjects false],
      rfl, rfl, rfl, rfl, rfl, rfl⟩
  have hsupplied : ¬ (d.source = .drafted ∧ d.held? = none) := by
    rw [hheld]
    simp
  obtain ⟨fs, -, hmem, -, hfails, hlate⟩ := (build_of_bare_run bareRun rfl hd hbare).2 hsupplied
  -- a call was for a field exactly if the field is among the targets
  have htarget (f : Field) : (∀ call ∈ calls, call.target? ≠ some f) ↔
      some f ∉ [some .serverSideCopy, none, some Field.markerFileCreation] := by
    rw [← hcalls, List.mem_map]
    simp
  have hthreads : .batchThreads ∈ fs :=
    (hmem _).mpr ⟨by decide, (htarget _).mpr (by decide), fun h => nomatch h⟩
  have hchannel : .writeChannel ∉ fs := by
    intro h
    have hdirect := ((hmem _).mp h).2.2 rfl
    rw [hsource] at hdirect
    cases hdirect
  have hread : ∀ x ∈ lateSetters,
      ∃ v, x.given.read (empty.run bareRun).2.value? x.setter.target.kind = .ok v := by
    simp only [lateSetters, List.forall_mem_cons]
    exact ⟨⟨_, rfl⟩, ⟨_, rfl⟩, ⟨_, rfl⟩, ⟨_, rfl⟩, ⟨_, rfl⟩, ⟨_, rfl⟩, ⟨_, rfl⟩, ⟨_, rfl⟩, ⟨_, rfl⟩,
      ⟨_, rfl⟩, ⟨_, rfl⟩, fun _ h => nomatch h⟩
  have hall : ∀ f ∈ fs, ∃ x ∈ lateSetters, x.setter.target = f := by
    have htargets : ∀ f : Field, f ∉ Field.optional → f ≠ .writeChannel →
        some f ∉ [some Field.serverSideCopy, none, some .markerFileCreation] →
        f ∈ lateSetters.map (·.setter.target) := by
      intro f
      cases f <;> decide
    intro f hf
    obtain ⟨hrequired, hunset, -⟩ := (hmem f).mp hf
    have hne : f ≠ .writeChannel := by
      rintro rfl
      exact hchannel hf
    exact List.mem_map.mp (htargets f hrequired hne ((htarget f).mp hunset))
  obtain ⟨e, herror, -, -, -, hnames⟩ := hfails (List.ne_nil_of_mem hthreads)
  exact ⟨_, d, calls, fs, rfl, hd, hbare, hsupplied, hthreads, hchannel, ⟨e, herror, hnames⟩,
    ((hlate "b" hname).2 lateSetters hread "v").mpr hall⟩

end Workspace

end ObjectStorage
