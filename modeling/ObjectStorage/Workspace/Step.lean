import ObjectStorage.Client.Basic
import ObjectStorage.Workspace.Given

/-!
# Working with named objects

* `Step`: one call on the objects of a workspace.
* `Answer`: what a call answers if it succeeds.
* `Workspace.step`: the outcome of a call and the workspace after it.
* `Workspace.run`: the outcomes of a list of calls, each on the workspace that the one before left.
* `run_append`: a run of two lists is a run of the second after the first.
-/

namespace ObjectStorage

/-- One call on the objects of a workspace. A name after `as` is given to the object that is made. -/
inductive Step
  /-- A draft with the documented defaults. -/
  | freshDraft (as : String)
  /-- A draft without defaults. -/
  | bareDraft (as : String)
  /-- A draft with the settings of an environment. -/
  | environmentDraft (env : Environment) (as : String)
  /-- A draft with the fields of finished settings. -/
  | reopen (value as : String)
  /-- A setter of a draft. -/
  | set (draft : String) (setting : Setting)
  /-- Where a draft takes its write channel from. -/
  | source (draft : String)
  /-- The write-channel draft of a draft, made if it has none. -/
  | channelDraft (draft as : String)
  /-- A write-channel draft, or none, for a draft to take from. -/
  | install (draft : String) (channel : Option String)
  /-- The settings of a draft. -/
  | build (draft as : String)
  /-- A write-channel draft with the default sizes. -/
  | freshChannelDraft (as : String)
  /-- A write-channel draft with the sizes of a finished write channel. -/
  | reopenChannel (value as : String)
  /-- A setter of a write-channel draft. -/
  | setChannel (channel field : String) (given : Given)
  /-- The write channel of a write-channel draft. -/
  | buildChannel (channel as : String)
  /-- A finished write channel. -/
  | makeChannel (w : WriteChannel) (as : String)
  /-- A finished requester-pays value. -/
  | makeRequesterPays (b : Billing) (as : String)
  /-- A finished value with one field replaced. -/
  | replace (value field : String) (given : Given) (as : String)
  /-- An assignment to a field of a finished value. -/
  | assign (value field : String)
  /-- A deletion of a field of a finished value. -/
  | delete (value field : String)
  /-- The document of a finished value. -/
  | document (value : String)
  /-- Whether two names stand for one object. -/
  | same (x y : String)
  /-- Whether two names stand for equal objects. -/
  | equal (x y : String)
  /-- Whether finished settings are valid. -/
  | check (value : String)
  /-- The client configuration of finished settings. -/
  | clientConfig (value : String)

/-- What a call answers if it succeeds. -/
inductive Answer
  /-- Nothing. -/
  | none
  /-- Where a draft takes its write channel from. -/
  | source (s : ChannelSource)
  /-- The same, from a setter that answers the draft itself. -/
  | chained (s : ChannelSource)
  /-- The same, with what the write-channel draft holds. -/
  | channelDraft (s : ChannelSource) (w : WriteChannel)
  /-- What a write-channel draft holds after a setter that answers the draft itself. -/
  | chainedChannel (w : WriteChannel)
  /-- A finished value. -/
  | value (v : Value)
  /-- Whether two objects are one. -/
  | same (b : Bool)
  /-- Whether two objects are equal. -/
  | equal (b : Bool)
  /-- A client configuration. -/
  | config (c : ClientConfig)

namespace Workspace

/-- A call that answers and leaves a workspace. -/
abbrev Effect := Outcome Answer × Workspace

/-- A call that answers without records or warnings. -/
def answer (a : Answer) (ws : Workspace) : Effect := (.done a, ws)

/-- A call that fails and leaves the workspace as it is. -/
def refuse (e : Fault) (ws : Workspace) : Effect := (.fail e, ws)

/-- A call that makes a finished value, or fails and leaves the workspace as it is. -/
def keep (ws : Workspace) (name : String) (made : Outcome Value) : Effect :=
  match made.result with
  | .ok v => (made.map .value, ws.addValue name v)
  | .error e => (⟨.error e, made.log, made.warnings⟩, ws)

/-! ## Calls on drafts -/

/-- A new draft under a name. -/
def startDraft (ws : Workspace) (name : String) (d : Draft) : Effect :=
  answer (.source d.source) (ws.addDraft name d)

/-- A new draft with the settings of an environment. -/
def startFrom (ws : Workspace) (env : Environment) (name : String) : Effect :=
  let made := env.draft
  match made.result with
  | .ok d => (made.map fun d => .source d.source, ws.addDraft name d)
  | .error e => (⟨.error e, made.log, made.warnings⟩, ws)

/-- A setter of a draft. -/
def setOn (ws : Workspace) (draft : String) (x : Setting) : Effect :=
  match ws.draft? draft with
  | none => refuse (.noObject draft) ws
  | some (place, d) =>
    let changed := d.applySetting ws.value? x
    match changed.result with
    | .ok d' => (changed.map fun d => .chained d.source, ws.putDraft place d')
    | .error e => (⟨.error e, changed.log, changed.warnings⟩, ws)

/-- The write-channel draft that a draft holds, or a new one that it holds from now on. -/
def openChannelDraft (ws : Workspace) (draft name : String) : Effect :=
  match ws.draft? draft with
  | none => refuse (.noObject draft) ws
  | some (place, d) =>
    let warnings := [Deprecation.getWriteChannelDraft]
    match d.held? with
    | some c =>
      (⟨.ok (.channelDraft d.source (ws.content c)), [], warnings⟩, ws.bind name (.channelDraft c))
    | none =>
      let d' := d.install (some ws.channelDrafts.length)
      (⟨.ok (.channelDraft d'.source .default), [], warnings⟩,
        (ws.addChannelDraft name .default).putDraft place d')

/-- A draft that takes its write channel from a write-channel draft, or from none. -/
def installOn (ws : Workspace) (draft : String) (channel : Option String) : Effect :=
  match ws.draft? draft with
  | none => refuse (.noObject draft) ws
  | some (place, d) =>
    let install (held : Option ChannelId) : Effect :=
      let d' := d.install held
      (⟨.ok (.chained d'.source), [], [.installWriteChannelDraft]⟩, ws.putDraft place d')
    match channel with
    | none => install none
    | some name =>
      match ws.channelDraft? name with
      | some c => install (some c)
      | none => refuse (.noObject name) ws

/-- The settings of a draft under a name. -/
def buildOn (ws : Workspace) (draft name : String) : Effect :=
  match ws.draft? draft with
  | none => refuse (.noObject draft) ws
  | some (_, d) => ws.keep name ((d.build ws.content).map .settings)

/-! ## Calls on write-channel drafts -/

/-- A new write-channel draft under a name. -/
def startChannelDraft (ws : Workspace) (name : String) (w : WriteChannel) : Effect :=
  answer (.value (.writeChannel w)) (ws.addChannelDraft name w)

/-- A setter of a write-channel draft. -/
def setOnChannel (ws : Workspace) (channel field : String) (given : Given) : Effect :=
  match ws.channelDraft? channel with
  | none => refuse (.noObject channel) ws
  | some c =>
    match WriteChannel.change field given with
    | .error e => refuse e ws
    | .ok change =>
      let w := (ws.content c).apply change
      answer (.chainedChannel w) (ws.putChannelDraft c w)

/-! ## Calls on finished values -/

/-- What a finished value answers, if the name stands for one. -/
def onValue (ws : Workspace) (name : String) (f : Value → Effect) : Effect :=
  match ws.value? name with
  | none => refuse (.noObject name) ws
  | some v => f v

/-- What finished settings answer, if the name stands for such. -/
def onSettings (ws : Workspace) (name : String) (f : Settings → Effect) : Effect :=
  ws.onValue name fun
    | .settings s => f s
    | _ => refuse (.noObject name) ws

/-- What a finished write channel answers, if the name stands for one. -/
def onWriteChannel (ws : Workspace) (name : String) (f : WriteChannel → Effect) : Effect :=
  ws.onValue name fun
    | .writeChannel w => f w
    | _ => refuse (.noObject name) ws

/-- Whether the objects at two places are equal: finished values by content, drafts by place. -/
def equalObjects (ws : Workspace) : Object → Object → Bool
  | .value i, .value j => ws.values[i]? = ws.values[j]?
  | x, y => x = y

/-- A comparison of the objects of two names. -/
def compare (ws : Workspace) (x y : String) (f : Object → Object → Answer) : Effect :=
  match ws.object? x, ws.object? y with
  | some a, some b => answer (f a b) ws
  | none, _ => refuse (.noObject x) ws
  | _, none => refuse (.noObject y) ws

/-! ## Steps and runs -/

/-- The outcome of a call and the workspace after it. -/
def step (ws : Workspace) : Step → Effect
  | .freshDraft name => ws.startDraft name .fresh
  | .bareDraft name => ws.startDraft name .bare
  | .environmentDraft env name => ws.startFrom env name
  | .reopen value name => ws.onSettings value fun s => ws.startDraft name (.reopen s)
  | .set draft x => ws.setOn draft x
  | .source draft =>
    match ws.draft? draft with
    | none => refuse (.noObject draft) ws
    | some (_, d) => answer (.source d.source) ws
  | .channelDraft draft name => ws.openChannelDraft draft name
  | .install draft channel => ws.installOn draft channel
  | .build draft name => ws.buildOn draft name
  | .freshChannelDraft name => ws.startChannelDraft name .default
  | .reopenChannel value name => ws.onWriteChannel value fun w => ws.startChannelDraft name w.reopen
  | .setChannel channel field given => ws.setOnChannel channel field given
  | .buildChannel channel name =>
    match ws.channelDraft? channel with
    | none => refuse (.noObject channel) ws
    | some c => ws.keep name (.done (.writeChannel (ws.content c)))
  | .makeChannel w name => ws.keep name (.done (.writeChannel w))
  | .makeRequesterPays b name => ws.keep name (.ofExcept (b.make.map .requesterPays))
  | .replace value field given name =>
    ws.onValue value fun v => ws.keep name (.ofExcept (v.replace ws.value? field given))
  | .assign value field => ws.onValue value fun _ => refuse (.assigned field) ws
  | .delete value field => ws.onValue value fun _ => refuse (.deleted field) ws
  | .document value => ws.onValue value fun v => answer (.value v) ws
  | .same x y => ws.compare x y fun a b => .same (a = b)
  | .equal x y => ws.compare x y fun a b => .equal (ws.equalObjects a b)
  | .check value => ws.onSettings value fun s => (.ofExcept (s.check.map fun _ => .none), ws)
  | .clientConfig value => ws.onSettings value fun s => (.ofExcept (s.clientConfig.map .config), ws)

/-- The outcomes of a list of calls, and the workspace after the last. -/
def run (ws : Workspace) : List Step → List (Outcome Answer) × Workspace
  | [] => ([], ws)
  | s :: ss =>
    let (outcome, next) := ws.step s
    let (outcomes, last) := next.run ss
    (outcome :: outcomes, last)

@[simp] theorem run_nil (ws : Workspace) : ws.run [] = ([], ws) := rfl

@[simp] theorem run_cons (ws : Workspace) (s : Step) (ss : List Step) :
    ws.run (s :: ss) =
      ((ws.step s).1 :: ((ws.step s).2.run ss).1, ((ws.step s).2.run ss).2) := rfl

/-- A run of two lists is a run of the second after the first. -/
theorem run_append (ws : Workspace) (ss ts : List Step) :
    ws.run (ss ++ ts) =
      ((ws.run ss).1 ++ ((ws.run ss).2.run ts).1, ((ws.run ss).2.run ts).2) := by
  induction ss generalizing ws with
  | nil => rfl
  | cons s ss ih => simp [ih]

end Workspace

end ObjectStorage
