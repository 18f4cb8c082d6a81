import ObjectStorage.Proofs.Workspace.Setters

/-!
# Reopening is copying, and setting is replacing

* `Makes`: steps that make a finished value under any name, and do nothing else.
* `makes_build_of_set`, `makes_buildChannel_of_set`: what a draft, or a write-channel draft, makes after
  some setters.
* `reopen_run`: a reopened value, and every draft that builds this value directly, make the same after the
  same setters, namely the value in which the same fields are replaced.
-/

namespace ObjectStorage.Workspace

variable {ws : Workspace} {name : String}

/-- Steps that make the finished value `v` under any name, without records and warnings. -/
def Makes (ws : Workspace) (step : String → Step) (v : Value) : Prop :=
  ∀ name, ws.step (step name) = (.done (.value v), ws.addValue name v)

/-! ## Settings -/

section Drafts

variable {p : Nat} {s : Settings}

theorem makes_build_of_directly {d : Draft} (hd : ws.draft? name = some (p, d)) (h : d.Directly s) :
    ws.Makes (.build name) (.settings s) := by
  have hbuild := h.build ws.content
  have hlog : d.log = [] := congrArg Outcome.log hbuild
  intro other
  rw [step_build_of_ok hd (congrArg Outcome.result hbuild), hlog]
  rfl

/-- A draft with the fields of settings makes, after some setters, the settings in which these fields are
replaced, and its source is direct. -/
theorem makes_build_of_set {d : Draft} (hd : ws.draft? name = some (p, d)) (h : d.Directly s)
    (xs : List Setting) :
    (ws.run (xs.map (.set name))).2.Makes (.build name) (.settings (s.replaceAll ws.value? xs)) ∧
      ((ws.run (xs.map (.set name))).2.step (.source name)).1 = .done (.source .direct) := by
  have hset := draft?_putDraft hd (d.setAll ws.value? xs)
  have hdirect : (d.setAll ws.value? xs).Directly (s.replaceAll ws.value? xs) := h.setAll xs
  rw [run_set hd]
  refine ⟨makes_build_of_directly hset hdirect, ?_⟩
  rw [step, hset]
  dsimp only
  rw [hdirect.source]
  rfl

theorem step_reopen {value : String} (h : ws.value? value = some (.settings s)) :
    ws.step (.reopen value name) = (.done (.source .direct), ws.addDraft name (.reopen s)) := by
  rw [step, onSettings, onValue, h]
  dsimp only
  rw [startDraft, (Draft.directly_reopen s).source]
  rfl

/-- The name of the reopened draft is no value of a field, so the setters are read as before. -/
theorem replaceAll_addDraft {xs : List Setting} (hxs : ∀ x ∈ xs, x.given ≠ .named name) (d : Draft)
    (s : Settings) : s.replaceAll (ws.addDraft name d).value? xs = s.replaceAll ws.value? xs := by
  refine Settings.replaceAll_congr (fun x hx => Given.read_congr fun other hother => ?_) s
  have hne : other ≠ name := by
    rintro rfl
    exact hxs x hx hother
  rw [value?_addDraft_of_ne hne]

end Drafts

/-! ## Write channels -/

section Channels

variable {c : ChannelId} {w : WriteChannel}

/-- A write-channel draft makes, after some setters, the write channel with these changes. -/
theorem makes_buildChannel_of_set (hc : ws.channelDraft? name = some c)
    (hw : ws.channelDrafts[c]? = some w) (xs : List (String × Given)) :
    (ws.run (xs.map fun x => .setChannel name x.1 x.2)).2.Makes (.buildChannel name)
      (.writeChannel (w.changeAll xs)) := by
  intro other
  have hchannel : (ws.putChannelDraft c (w.changeAll xs)).channelDraft? name = some c := hc
  rw [run_setChannel hc hw, step, hchannel]
  dsimp only
  rw [content_putChannelDraft_self _ _ (List.getElem?_eq_some_iff.mp hw).1]
  rfl

theorem step_reopenChannel {value : String} (h : ws.value? value = some (.writeChannel w)) :
    ws.step (.reopenChannel value name) =
      (.done (.value (.writeChannel w)), ws.addChannelDraft name w) := by
  rw [step, onWriteChannel, onValue, h]
  rfl

end Channels

/-! ## Both -/

/-- **Reopening is copying, and setting is replacing.** In a workspace in which all names stand for
something, let `value` be the name of settings. Reopened, they are a bare draft after the setters of all
fields, with direct source, wherever the settings came from. Setters on it, however many and in any order,
leave a draft with direct source, which makes the settings that replacing the same fields one after the
other makes: those that were reopened, if there is no setter. Every other draft with direct source that
builds the settings makes the same after the same setters. A name that is given for a field is read when
the setter is called, so it must not be the one that the reopened draft gets.
The same holds for a write channel and its four setters. -/
theorem reopen_run (hws : ws.NamesExist) :
    (∀ value s, ws.value? value = some (.settings s) → ∀ draft xs,
      (∀ x ∈ xs, x.given ≠ .named draft) → ∃ s', (xs = [] → s' = s) ∧
        (ws.run (xs.map (.replacing value))).2.value? value = some (.settings s') ∧
        ws.step (.reopen value draft) = (.done (.source .direct),
          ws.addDraft draft (Field.all.foldl (fun d f => d.assign f (s.get f)) .bare)) ∧
        (ws.run (.reopen value draft :: xs.map (.set draft))).2.Makes (.build draft) (.settings s') ∧
        ((ws.run (.reopen value draft :: xs.map (.set draft))).2.step (.source draft)).1 =
          .done (.source .direct) ∧
        ∀ other p d, ws.draft? other = some (p, d) → d.source = .direct →
          (d.build ws.content).result = .ok s →
          (ws.run (xs.map (.set other))).2.Makes (.build other) (.settings s')) ∧
    (∀ value w, ws.value? value = some (.writeChannel w) → ∀ channel (xs : List (String × Given)),
      ∃ w', (xs = [] → w' = w) ∧
      (ws.run (xs.map fun x => .replace value x.1 x.2 value)).2.value? value =
        some (.writeChannel w') ∧
      ws.step (.reopenChannel value channel) = (.done (.value (.writeChannel w)),
        ws.addChannelDraft channel (w.changes.foldl WriteChannel.apply .default)) ∧
      (ws.run (.reopenChannel value channel :: xs.map fun x => .setChannel channel x.1 x.2)).2.Makes
        (.buildChannel channel) (.writeChannel w') ∧
      ∀ other c, ws.channelDraft? other = some c → ws.content c = w →
        (ws.run (xs.map fun x => .setChannel other x.1 x.2)).2.Makes (.buildChannel other)
          (.writeChannel w')) := by
  refine ⟨fun value s hvalue draft xs hxs => ?_, fun value w hvalue channel xs => ?_⟩
  · have hdraft : (ws.addDraft draft (.reopen s)).draft? draft = some (ws.drafts.length, .reopen s) :=
      draft?_addDraft_self _
    obtain ⟨hmakes, hsource⟩ := makes_build_of_set hdraft (Draft.directly_reopen s) xs
    rw [replaceAll_addDraft hxs] at hmakes
    refine ⟨s.replaceAll ws.value? xs, ?_, value?_run_replace hws.values hvalue xs, ?_, ?_, ?_, ?_⟩
    · rintro rfl
      rfl
    · rw [step_reopen hvalue, Draft.reopen_eq_foldl]
    · rwa [run_cons, step_reopen hvalue]
    · rwa [run_cons, step_reopen hvalue]
    · intro other p d hd hdirect hbuild
      exact (makes_build_of_set hd (Draft.directly_of_build hdirect hbuild) xs).1
  · refine ⟨w.changeAll xs, ?_, value?_run_replaceChannel hvalue xs, ?_, ?_, ?_⟩
    · rintro rfl
      rfl
    · exact step_reopenChannel hvalue
    · have hnew : (ws.addChannelDraft channel w).channelDrafts[ws.channelDrafts.length]? = some w :=
        List.getElem?_concat_length
      rw [run_cons, step_reopenChannel hvalue]
      exact makes_buildChannel_of_set (channelDraft?_addChannelDraft_self w) hnew xs
    · intro other c hc hcontent
      have hw := getElem?_content (hws.channels other c hc)
      rw [hcontent] at hw
      exact makes_buildChannel_of_set hc hw xs

/-- Settings are built with a shared write channel and from a draft that sets everything directly. -/
def sharedChannelRun : List Step :=
  [.freshDraft "b", .channelDraft "b" "c", .setChannel "c" "buffer_size" (.number 1), .build "b" "v",
    .buildChannel "c" "w", .freshDraft "d", .set "d" ⟨.field .writeChannel, .named "w"⟩]

/-- Setters by both names of one field, of the write channel, and one that cannot be used. -/
def manySetters : List Setting :=
  [⟨.createMarkerObjects, .flag true⟩, ⟨.field .writeChannel, .writeChannel .default⟩,
    ⟨.field .transport, .text (some "smoke")⟩, ⟨.field .writeChannel, .named "w"⟩,
    ⟨.field .appName, .text (some "web")⟩]

theorem reopen_run_sharedChannel :
    ∃ ws s w s' w', (empty.run sharedChannelRun).2 = ws ∧ ws.NamesExist ∧
      ws.value? "v" = some (.settings s) ∧ s.writeChannel.bufferSize = 1 ∧
      ws.value? "w" = some (.writeChannel w) ∧
      (∀ x ∈ manySetters, x.given ≠ .named "r") ∧
      (ws.run (.reopen "v" "r" :: manySetters.map (.set "r"))).2.Makes (.build "r") (.settings s') ∧
      (ws.run (manySetters.map (.set "d"))).2.Makes (.build "d") (.settings s') ∧
      (ws.run [.reopenChannel "w" "r", .setChannel "r" "buffer_size" (.number 2)]).2.Makes
        (.buildChannel "r") (.writeChannel w') := by
  obtain ⟨s, hs, hsize, hdirect⟩ : ∃ s, (empty.run sharedChannelRun).2.value? "v" = some (.settings s) ∧
      s.writeChannel.bufferSize = 1 ∧ ∃ p d, (empty.run sharedChannelRun).2.draft? "d" = some (p, d) ∧
        d.source = .direct ∧ (d.build (empty.run sharedChannelRun).2.content).result = .ok s :=
    ⟨_, rfl, rfl, _, _, rfl, rfl, rfl⟩
  obtain ⟨w, hw⟩ : ∃ w, (empty.run sharedChannelRun).2.value? "w" = some (.writeChannel w) := ⟨_, rfl⟩
  obtain ⟨p, d, hd, hsource, hbuild⟩ := hdirect
  have hexist := namesExist_run sharedChannelRun
  have hgiven : ∀ x ∈ manySetters, x.given ≠ .named "r" := by simp [manySetters]
  obtain ⟨hsettings, hchannels⟩ := reopen_run hexist
  obtain ⟨s', -, -, -, hmakes, -, hother⟩ := hsettings "v" s hs "r" manySetters hgiven
  obtain ⟨w', -, -, -, hchannel, -⟩ := hchannels "w" w hw "r" [("buffer_size", .number 2)]
  exact ⟨_, s, w, s', w', rfl, hexist, hs, hsize, hw, hgiven, hmakes, hother "d" p d hd hsource hbuild,
    hchannel⟩

end ObjectStorage.Workspace
