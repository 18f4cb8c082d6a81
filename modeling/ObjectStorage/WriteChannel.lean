/-!
# Write channels

* `WriteChannel`: how uploads are buffered.
* `WriteChannel.default`: the documented sizes.
* `WriteChannel.Change`: one setting with its new value.
* `WriteChannel.apply`: the channel with one setting replaced.
* `WriteChannel.reopen`: a channel after the changes to all values of another one; it is that one.
-/

namespace ObjectStorage

/-- How uploads are buffered before they are sent. -/
structure WriteChannel where
  bufferSize : Int
  pipeBufferSize : Int
  uploadChunkSize : Int
  directUpload : Bool
  deriving DecidableEq, Repr

namespace WriteChannel

/-- The buffer sizes of a channel that sets none, in bytes, and no direct upload. -/
def default : WriteChannel where
  bufferSize := 8 * 1024 * 1024
  pipeBufferSize := 1024 * 1024
  uploadChunkSize := 64 * 1024 * 1024
  directUpload := false

/-- One setting of a write channel with a new value. -/
inductive Change
  | bufferSize (bytes : Int)
  | pipeBufferSize (bytes : Int)
  | uploadChunkSize (bytes : Int)
  | directUpload (enabled : Bool)
  deriving DecidableEq, Repr

/-- The channel with one setting replaced. -/
def apply (w : WriteChannel) : Change → WriteChannel
  | .bufferSize n => { w with bufferSize := n }
  | .pipeBufferSize n => { w with pipeBufferSize := n }
  | .uploadChunkSize n => { w with uploadChunkSize := n }
  | .directUpload b => { w with directUpload := b }

/-- The changes to the four values of `w`, in declaration order. -/
def changes (w : WriteChannel) : List Change :=
  [.bufferSize w.bufferSize, .pipeBufferSize w.pipeBufferSize,
    .uploadChunkSize w.uploadChunkSize, .directUpload w.directUpload]

/-- A channel that sets nothing, after the changes to the four values of `w`. -/
def reopen (w : WriteChannel) : WriteChannel := w.changes.foldl apply .default

@[simp] theorem reopen_eq (w : WriteChannel) : w.reopen = w := rfl

end WriteChannel

end ObjectStorage
