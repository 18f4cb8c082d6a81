import ObjectStorage.Draft

/-!
# Objects and their names

A workspace holds drafts, write-channel drafts and finished values, each at a place of its own that it
keeps; names stand for places. Drafts and write-channel drafts change, finished values do not, and
two drafts may hold the same write-channel draft.

* `Value`, `Object`: a finished value; the place of an object.
* `Workspace`: the objects and the names, the latest first.
* `object?`, `draft?`, `channelDraft?`, `value?`: what a name stands for.
* `addDraft`, `addChannelDraft`, `addValue`: a new object under a name.
* `putDraft`, `putChannelDraft`: an object in its place, changed.
-/

namespace ObjectStorage

/-- A finished value. -/
inductive Value
  | settings (s : Settings)
  | writeChannel (w : WriteChannel)
  | requesterPays (r : RequesterPays)
  deriving DecidableEq

/-- The document of a finished value. -/
def Value.document : Value → Document
  | settings s => s.document
  | writeChannel w => w.document
  | requesterPays r => r.document

/-- The place of an object among those of its sort. -/
inductive Object
  | draft (place : Nat)
  | channelDraft (place : ChannelId)
  | value (place : Nat)
  deriving DecidableEq, Repr

/-- Objects and their names. -/
structure Workspace where
  names : List (String × Object)
  drafts : List Draft
  channelDrafts : List WriteChannel
  values : List Value

namespace Workspace

/-- No objects and no names. -/
def empty : Workspace := ⟨[], [], [], []⟩

/-! ## Reading -/

/-- The place that a name stands for. -/
def object? (ws : Workspace) (name : String) : Option Object := ws.names.lookup name

/-- The draft of a name, with its place. -/
def draft? (ws : Workspace) (name : String) : Option (Nat × Draft) :=
  match ws.object? name with
  | some (.draft place) => ws.drafts[place]?.map fun d => (place, d)
  | _ => none

/-- The place of the write-channel draft of a name. -/
def channelDraft? (ws : Workspace) (name : String) : Option ChannelId :=
  match ws.object? name with
  | some (.channelDraft place) => some place
  | _ => none

/-- The finished value of a name. -/
def value? (ws : Workspace) (name : String) : Option Value :=
  match ws.object? name with
  | some (.value place) => ws.values[place]?
  | _ => none

/-- What a write-channel draft holds now. -/
def content (ws : Workspace) (place : ChannelId) : WriteChannel :=
  ws.channelDrafts.getD place .default

/-! ## Writing -/

/-- The workspace in which a name stands for a place. -/
def bind (ws : Workspace) (name : String) (o : Object) : Workspace :=
  { ws with names := (name, o) :: ws.names }

/-- A new draft under a name. -/
def addDraft (ws : Workspace) (name : String) (d : Draft) : Workspace :=
  { ws with drafts := ws.drafts ++ [d] }.bind name (.draft ws.drafts.length)

/-- A new write-channel draft under a name. -/
def addChannelDraft (ws : Workspace) (name : String) (w : WriteChannel) : Workspace :=
  { ws with channelDrafts := ws.channelDrafts ++ [w] }.bind name
    (.channelDraft ws.channelDrafts.length)

/-- A new finished value under a name. -/
def addValue (ws : Workspace) (name : String) (v : Value) : Workspace :=
  { ws with values := ws.values ++ [v] }.bind name (.value ws.values.length)

/-- The draft at a place replaced. -/
def putDraft (ws : Workspace) (place : Nat) (d : Draft) : Workspace :=
  { ws with drafts := ws.drafts.set place d }

/-- The write-channel draft at a place replaced. -/
def putChannelDraft (ws : Workspace) (place : ChannelId) (w : WriteChannel) : Workspace :=
  { ws with channelDrafts := ws.channelDrafts.set place w }

/-! ## What writing leaves alone -/

@[simp] theorem object?_bind_self (ws : Workspace) (name : String) (o : Object) :
    (ws.bind name o).object? name = some o := by
  simp [bind, object?]

theorem object?_bind_of_ne (ws : Workspace) {name other : String} (h : other ≠ name) (o : Object) :
    (ws.bind name o).object? other = ws.object? other := by
  have hb : (other == name) = false := by simp [h]
  simp [bind, object?, List.lookup_cons, hb]

@[simp] theorem content_putChannelDraft_self (ws : Workspace) {place : ChannelId} (w : WriteChannel)
    (h : place < ws.channelDrafts.length) : (ws.putChannelDraft place w).content place = w := by
  simp [putChannelDraft, content, h]

end Workspace

end ObjectStorage
