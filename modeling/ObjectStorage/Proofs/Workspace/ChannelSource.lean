import ObjectStorage.Proofs.Draft.Build
import ObjectStorage.Proofs.Workspace.Calls
import ObjectStorage.Proofs.Workspace.Recorded
import ObjectStorage.Proofs.Workspace.Setters

/-!
# Where the write channel of a draft comes from

Over every run, however drafts and write-channel drafts are shared and renamed:

* the source of a draft is a write-channel draft from the first call on that asks for one or installs one,
  and before that none is held;
* before that a build has the value that was set directly last, or the one that the draft was made with;
* after it a build has what the held write-channel draft was made from, each setting changed by the last call
  for it.
-/

namespace ObjectStorage

/-- The calls that settle the source are those that ask for a write-channel draft or install one. -/
theorem DraftCall.holds?_ne_none_iff {call : DraftCall} :
    call.holds? ≠ none ↔ (∃ c, call = .opened c) ∨ ∃ held, call = .installed held := by
  cases call <;> simp [holds?]

/-- The source of a draft is a write-channel draft once a call at its place has settled it. -/
theorem Draft.Follows.source_eq_drafted_iff {d : Draft} {es : List (ObjectEvent Origin DraftCall)}
    (h : d.Follows es) :
    d.source = .drafted ↔ ∃ call, .called call ∈ es ∧ call.holds? ≠ none := by
  obtain ⟨origin, calls, rfl, -, hsource, -⟩ := h
  rw [hsource, sourceAfter_eq_drafted_iff]
  simp

namespace Workspace

variable {ws : Workspace} {ss : List Step} {name : String} {p : Nat} {d : Draft}

/-- A draft at whose place something has happened is there. -/
theorem Recorded.exists_draft {h : List Event} (r : Recorded ws h) (hp : draftEvents p h ≠ []) :
    ∃ d, ws.drafts[p]? = some d ∧ d.Follows (draftEvents p h) := by
  cases hd : ws.drafts[p]? with
  | none => exact absurd (r.drafts.2 p (List.getElem?_eq_none_iff.mp hd)) hp
  | some d => exact ⟨d, rfl, r.drafts.1 p d hd⟩

/-- Once the source of a draft is a write-channel draft, it stays one. -/
theorem Recorded.source_run {h : List Event} (r : Recorded ws h) (hd : ws.drafts[p]? = some d)
    (hsource : d.source = .drafted) (more : List Step) :
    ∃ d', (ws.run more).2.drafts[p]? = some d' ∧ d'.source = .drafted := by
  obtain ⟨call, hcall, hholds⟩ := (r.drafts.1 p d hd).source_eq_drafted_iff.mp hsource
  -- the call that settled the source is still part of the longer history
  have hmem : .called call ∈ draftEvents p (h ++ ws.history more) := by
    rw [draftEvents_append]
    exact List.mem_append_left _ hcall
  obtain ⟨d', hd', hfollows⟩ := (r.run more).exists_draft (List.ne_nil_of_mem hmem)
  exact ⟨d', hd', hfollows.source_eq_drafted_iff.mpr ⟨call, hmem, hholds⟩⟩

/-- What a held write-channel draft contains: what it was made from, each setting changed by the last call for
it. -/
theorem Recorded.content_of_held {h : List Event} (r : Recorded ws h) (hd : ws.drafts[p]? = some d)
    {c : ChannelId} (hc : d.held? = some c) : (ws.content c).Follows (channelEvents c h) :=
  r.channels.1 c _ (getElem?_content (r.held d (List.mem_of_getElem? hd) c hc))

/-- Once the write channel is taken from a write-channel draft, a value that is set directly changes no
build. -/
theorem step_build_of_set_writeChannel (hd : ws.draft? name = some (p, d)) (hsource : d.source = .drafted)
    (given : Given) (other : String) :
    ((ws.step (.set name ⟨.field .writeChannel, given⟩)).2.step (.build name other)).1.result =
      (ws.step (.build name other)).1.result := by
  have hd' := draft?_putDraft hd
    ((d.applySetting ws.value? ⟨.field .writeChannel, given⟩).result.toOption.getD d)
  rw [step_set hd, step_build_result hd', step_build_result hd]
  show ((Draft.build _ ws.content).result).map _ = _
  unfold Draft.applySetting
  dsimp only
  cases given.read ws.value? Field.writeChannel.kind with
  | error e => rfl
  | ok w => exact congrArg _ (Draft.build_assign_writeChannel hsource w)

/-- Asking a draft for its write-channel draft gives the other name to the one that it holds from then on,
which is the one that it held before if there was one. -/
theorem exists_held_of_step_channelDraft (hd : ws.draft? name = some (p, d)) (other : String) :
    ∃ c d', (ws.step (.channelDraft name other)).2.channelDraft? other = some c ∧
      (ws.step (.channelDraft name other)).2.drafts[p]? = some d' ∧ d'.held? = some c ∧
      ∀ c', d.held? = some c' → c = c' := by
  have hplace := getElem?_of_draft? hd
  cases hc : d.held? with
  | some c =>
    have hstep : (ws.step (.channelDraft name other)).2 = ws.bind other (.channelDraft c) := by
      simp only [step, openChannelDraft, hd, hc]
    refine ⟨c, d, ?_, ?_, hc, fun c' h => Option.some.inj h⟩
    · rw [hstep, channelDraft?, object?_bind_self]
    · rw [hstep]
      exact hplace
  | none =>
    have hstep : (ws.step (.channelDraft name other)).2 =
        (ws.addChannelDraft other .default).putDraft p (d.install (some ws.channelDrafts.length)) := by
      simp only [step, openChannelDraft, hd, hc]
    refine ⟨ws.channelDrafts.length, d.install (some ws.channelDrafts.length), ?_, ?_, rfl, by simp⟩
    · rw [hstep]
      exact channelDraft?_addChannelDraft_self .default
    · rw [hstep]
      exact List.getElem?_set_self (List.getElem?_eq_some_iff.mp hplace).1

/-- **Where the write channel comes from.** For every draft that a run leaves, with the calls made on that
draft since it was made:
its source is a write-channel draft if and only if one of the calls asks for one or installs one, and then for
good, and as long as it is direct, none is held; what is held is what the last such call answers or installs,
and asking for it gives a further name to the very same one.
A build of the draft by any name answers settings that the other name stands for then. If the source is direct,
their write channel is the value that was set directly last, or the one that the draft was made with. If a
write-channel draft is held, it has what that was made from, each setting changed by the last call for it,
through whichever draft and by whatever name; no value that is set directly, before or after, makes a
difference. There is no build while none is installed.
The calls are those that the steps say: each step goes into the history with what it causes. -/
theorem writeChannel_of_run (hws : (empty.run ss).2 = ws) (hd : ws.drafts[p]? = some d) :
    (∃ origin calls, draftEvents p (empty.history ss) = .made origin :: calls.map .called ∧
      (d.source = .drafted ↔
        ∃ call ∈ calls, (∃ c, call = .opened c) ∨ ∃ held, call = .installed held) ∧
      (d.source = .drafted → ∀ more, ∃ d', (ws.run more).2.drafts[p]? = some d' ∧
        d'.source = .drafted) ∧
      (d.source = .direct → d.held? = none) ∧ d.held? = heldAfter calls ∧
      ∀ name, ws.draft? name = some (p, d) →
        ws.step (.source name) = (.done (.source d.source), ws) ∧
        (∀ other, ∃ c d', (ws.step (.channelDraft name other)).2.channelDraft? other = some c ∧
          (ws.step (.channelDraft name other)).2.drafts[p]? = some d' ∧ d'.held? = some c ∧
          ∀ c', d.held? = some c' → c = c') ∧
        (∀ other s, (ws.step (.build name other)).1.result = .ok (.value (.settings s)) →
          (ws.step (.build name other)).2.value? other = some (.settings s) ∧
          (d.source = .direct → some s.writeChannel =
            (lastAssigned? .writeChannel calls).or (origin.seed? .writeChannel)) ∧
          ∀ c, d.held? = some c → ∃ (start : WriteChannel) (changes : List WriteChannel.Change),
            channelEvents c (empty.history ss) = .made start :: changes.map .called ∧
            s.writeChannel.IsAfter start changes) ∧
        (d.source = .drafted → ∀ given other,
          ((ws.step (.set name ⟨.field .writeChannel, given⟩)).2.step (.build name other)).1.result =
            (ws.step (.build name other)).1.result) ∧
        (d.source = .drafted → d.held? = none → ∀ other,
          (ws.step (.build name other)).1.result = .error .nothingInstalled)) ∧
    ∀ step, ∃ es, empty.history (ss ++ [step]) = empty.history ss ++ es ∧ ws.Recounts step es := by
  have r := recorded_run ss
  rw [hws] at r
  have hfollows := r.drafts.1 p d hd
  have hdirect := hfollows.held?_of_direct
  obtain ⟨origin, calls, hevents, hfields, hsource, hheld⟩ := hfollows
  refine ⟨⟨origin, calls, hevents, ?_, fun h more => r.source_run hd h more, hdirect, hheld,
    fun name hname => ⟨?_, exists_held_of_step_channelDraft hname, fun other s hs => ?_,
      fun h given other => ?_, fun h hnone other => ?_⟩⟩, exists_recounts hws⟩
  · rw [hsource, sourceAfter_eq_drafted_iff]
    simp only [DraftCall.holds?_ne_none_iff]
  · rw [step, hname]
    rfl
  · rw [step_build_eq_ok_iff hname] at hs
    refine ⟨?_, fun h => ?_, fun c hc => ?_⟩
    · rw [step_build_of_ok hname hs]
      exact value?_addValue_self _
    · rw [← hfields]
      exact (Draft.writeChannel_of_direct hs h).symm
    · have hdrafted : d.source = .drafted := by
        cases h : d.source with
        | direct =>
          rw [hdirect h] at hc
          cases hc
        | drafted => rfl
      rw [Draft.writeChannel_of_held hs hdrafted hc]
      exact r.content_of_held hd hc
  · exact step_build_of_set_writeChannel hname h given other
  · rw [step_build_result hname, Draft.build_of_nothingInstalled h hnone]
    rfl

/-- Two drafts share a write-channel draft, which is changed under two names; a direct value is set last. -/
def sharingRun : List Step :=
  [.freshDraft "a", .freshDraft "b", .channelDraft "a" "s", .install "b" (some "s"),
    .setChannel "s" "buffer_size" (.number 7), .channelDraft "b" "t",
    .setChannel "t" "direct_upload_enabled" (.flag true),
    .set "b" ⟨.field .writeChannel, .writeChannel .default⟩]

theorem writeChannel_of_sharingRun :
    ∃ ws d s, (empty.run sharingRun).2 = ws ∧ ws.drafts[1]? = some d ∧
      ws.step (.source "b") = (.done (.source .drafted), ws) ∧
      (ws.step (.build "b" "v")).1.result = .ok (.value (.settings s)) ∧
      (ws.step (.build "b" "v")).2.value? "v" = some (.settings s) ∧
      s.writeChannel.bufferSize = 7 ∧ s.writeChannel.pipeBufferSize = 1048576 ∧
      s.writeChannel.uploadChunkSize = 67108864 ∧ s.writeChannel.directUpload = true := by
  obtain ⟨d, s, hd, hname, hsource, hheld, hbuild, hchanges⟩ : ∃ d s,
      (empty.run sharingRun).2.drafts[1]? = some d ∧
      (empty.run sharingRun).2.draft? "b" = some (1, d) ∧ d.source = .drafted ∧ d.held? = some 0 ∧
      ((empty.run sharingRun).2.step (.build "b" "v")).1.result = .ok (.value (.settings s)) ∧
      channelEvents 0 (empty.history sharingRun) =
        .made .default :: [WriteChannel.Change.bufferSize 7, .directUpload true].map .called :=
    ⟨_, _, rfl, rfl, rfl, rfl, rfl, rfl⟩
  obtain ⟨⟨origin, calls, -, -, -, -, -, hcalls⟩, -⟩ := writeChannel_of_run rfl hd
  obtain ⟨hstep, -, hbuilds, -, -⟩ := hcalls "b" hname
  obtain ⟨hvalue, -, hchannel⟩ := hbuilds "v" s hbuild
  obtain ⟨start, changes, hevents, hafter⟩ := hchannel 0 hheld
  obtain ⟨rfl, rfl⟩ := ObjectEvent.made_cons_inj.mp (hevents.symm.trans hchanges)
  rw [hsource] at hstep
  exact ⟨_, d, s, rfl, hd, hstep, hbuild, hvalue, hafter.bufferSize, hafter.pipeBufferSize,
    hafter.uploadChunkSize, hafter.directUpload⟩

end Workspace

end ObjectStorage
