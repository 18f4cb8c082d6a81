import ObjectStorage.Workspace.Given

/-!
# What given values stand for

* `Given.Denotes`: what a given value stands for as a value of a kind, said without reading it;
  `Given.read_eq_ok_iff` says that this is what is read.
* `Given.ofValue`: a value of a kind as it can be handed over for a field, which then stands for it.
* `WriteChannel.Change.Named`: the setter of a write channel by its name and the value that it takes;
  `WriteChannel.change_eq_ok_iff` says that this is the change that is made.
* `Billing.make_eq_ok_iff`: the parts of a requester-pays value.
-/

namespace ObjectStorage

/-! ## Parts that are named -/

theorem Text.Name.spelled?_eq_some_iff {α : Type} {all : List α} {name : α → String} {s : String} {a : α}
    (ha : spelled? all name (name a) = some a) : spelled? all name s = some a ↔ s = name a := by
  constructor
  · intro h
    exact (spelled?_eq_some h).2.symm
  · rintro rfl
    exact ha

theorem Transport.ofName_eq_ok_iff {name : String} {t : Transport} :
    ofName name = .ok t ↔ name = t.name := by
  rw [← Text.Name.spelled?_eq_some_iff (ofName?_name t), ofName, ofName?]
  cases Text.Name.spelled? all Transport.name name <;> simp

theorem RequesterPays.Mode.ofName_eq_ok_iff {name : String} {m : Mode} :
    ofName name = .ok m ↔ name = m.name := by
  rw [← Text.Name.spelled?_eq_some_iff (ofName?_name m), ofName, ofName?]
  cases Text.Name.spelled? all Mode.name name <;> simp

theorem Billing.make_eq_ok_iff {b : Billing} {r : RequesterPays} :
    b.make = .ok r ↔ b.mode = r.mode.name ∧ b.project = r.project ∧ .ofList b.buckets = r.buckets := by
  rw [← RequesterPays.Mode.ofName_eq_ok_iff, make]
  obtain ⟨m, p, names⟩ := r
  cases RequesterPays.Mode.ofName b.mode <;> simp [Except.map]

/-! ## Values for fields -/

namespace Given

/-- What a given value stands for as a value of a kind, where names stand for finished values. A transport
and a mode are given by their names, and the buckets of a requester-pays value as a list. -/
inductive Denotes (value? : String → Option Value) : (k : Kind) → Given → k.Value → Prop
  | text (s : Option String) : Denotes value? .text (.text s) s
  | flag (b : Bool) : Denotes value? .flag (.flag b) b
  | number (n : Int) : Denotes value? .number (.number n) n
  | transport (t : Transport) : Denotes value? .transport (.text (some t.name)) t
  | writeChannel (w : WriteChannel) : Denotes value? .writeChannel (.writeChannel w) w
  | namedWriteChannel {name : String} {w : WriteChannel} (h : value? name = some (.writeChannel w)) :
      Denotes value? .writeChannel (.named name) w
  | requesterPays (m : RequesterPays.Mode) (project : Option String) (buckets : List String) :
      Denotes value? .requesterPays (.requesterPays ⟨m.name, project, buckets⟩)
        ⟨m, project, .ofList buckets⟩
  | namedRequesterPays {name : String} {r : RequesterPays} (h : value? name = some (.requesterPays r)) :
      Denotes value? .requesterPays (.named name) r

variable {value? : String → Option Value}

/-- What is read is what the given value stands for. -/
theorem denotes_of_read {k : Kind} {x : Given} {v : k.Value} (h : x.read value? k = .ok v) :
    x.Denotes value? k v := by
  unfold read at h
  split at h
  · cases h
    exact .text _
  · cases h
    exact .flag _
  · cases h
    exact .number _
  · obtain rfl := Transport.ofName_eq_ok_iff.mp h
    exact .transport _
  · cases h
    exact .writeChannel _
  · split at h
    · next hname =>
      cases h
      exact .namedWriteChannel hname
    · cases h
  · next b =>
    obtain ⟨mode, project, buckets⟩ := b
    obtain ⟨m, project', names⟩ := v
    obtain ⟨hmode, hproject, hbuckets⟩ := Billing.make_eq_ok_iff.mp h
    dsimp only at hmode hproject hbuckets
    subst hmode hproject hbuckets
    exact .requesterPays m _ _
  · split at h
    · next hname =>
      cases h
      exact .namedRequesterPays hname
    · cases h
  · cases h

theorem Denotes.read {k : Kind} {x : Given} {v : k.Value} (h : x.Denotes value? k v) :
    x.read value? k = .ok v := by
  cases h with
  | transport t => exact Transport.ofName_eq_ok_iff.mpr rfl
  | namedWriteChannel h => simp only [Given.read, h]
  | requesterPays m project buckets => exact Billing.make_eq_ok_iff.mpr ⟨rfl, rfl, rfl⟩
  | namedRequesterPays h => simp only [Given.read, h]
  | _ => rfl

/-- A given value can be read as a value of a kind exactly if it stands for it. -/
theorem read_eq_ok_iff {k : Kind} {x : Given} {v : k.Value} :
    x.read value? k = .ok v ↔ x.Denotes value? k v :=
  ⟨denotes_of_read, Denotes.read⟩

/-- A value of a kind as it can be handed over for a field. -/
def ofValue : (k : Kind) → k.Value → Given
  | .text, s => .text s
  | .flag, b => .flag b
  | .number, n => .number n
  | .transport, t => .text (some t.name)
  | .writeChannel, w => .writeChannel w
  | .requesterPays, r => .requesterPays ⟨r.mode.name, r.project, r.buckets.names⟩

/-- A value that is handed over is read as it is. -/
theorem read_ofValue (value? : String → Option Value) (k : Kind) (v : k.Value) :
    (ofValue k v).read value? k = .ok v := by
  cases k with
  | transport => exact Transport.ofName_eq_ok_iff.mpr rfl
  | requesterPays => exact Billing.make_eq_ok_iff.mpr ⟨rfl, rfl, Buckets.ofList_names _⟩
  | _ => rfl

end Given

/-! ## Settings of write channels -/

namespace WriteChannel

/-- The change that a setter of a write channel makes, by the name of the setter and the value that it takes. -/
inductive Change.Named : String → Given → Change → Prop
  | bufferSize (n : Int) : Named "buffer_size" (.number n) (.bufferSize n)
  | pipeBufferSize (n : Int) : Named "pipe_buffer_size" (.number n) (.pipeBufferSize n)
  | uploadChunkSize (n : Int) : Named "upload_chunk_size" (.number n) (.uploadChunkSize n)
  | directUpload (b : Bool) : Named "direct_upload_enabled" (.flag b) (.directUpload b)

/-- A setter of a write channel makes the change that it is named for. -/
theorem change_eq_ok_iff {field : String} {x : Given} {c : Change} :
    change field x = .ok c ↔ Change.Named field x c := by
  constructor
  · intro h
    unfold change at h
    split at h
    · cases h
      exact .bufferSize _
    · cases h
      exact .pipeBufferSize _
    · cases h
      exact .uploadChunkSize _
    · cases h
      exact .directUpload _
    · cases h
  · intro h
    cases h <;> rfl

end WriteChannel

end ObjectStorage
