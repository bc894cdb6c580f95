/-
Runs: the manager and its element buffer over time.

Between two draws the application may rewrite the buffer, other users of the
buffer may promote its usage, and the renderer may tear the manager down.  A run
is any sequence of these events and of `prepareIndexData` calls, each with its
own collaborator answers; `Reachable` is every state some run leads to from a
fresh manager and a buffer without a static copy.

One element buffer is enough here: a call reads and writes only the buffer it is
given, and the streaming buffers, which are shared by all buffers, see the same
calls whichever buffer they come from.
-/
import IndexTranslation.IndexDataManager

namespace Rx

/-- The manager and the element buffer the draws use. -/
structure State where
  manager : IndexDataManager
  buffer : BufferD3D
  deriving DecidableEq, Repr

/-- What can happen between two observations of the state. -/
inductive Event
  /-- A draw: `prepareIndexData`, the collaborators answering `r`. -/
  | draw (r : Responses) (srcType : IndexType) (count : Nat) (indices : Indices)
      (indexRange : IndexRange) (primitiveRestartFixedIndexEnabled : Bool)
  /-- The application replaces the buffer's content. -/
  | bufferData (data : List UInt8) (supportsDirectBinding : Bool)
  /-- Another user of the buffer reports a use of `dataSize` bytes. -/
  | promote (dataSize : Int) (promotes : Bool)
  /-- `deinitialize()`. -/
  | deinitialize

/-- The state after one event. -/
def step (s : State) : Event → State
  | .draw r srcType count indices indexRange flag =>
    match s.manager.prepareIndexData s.buffer r srcType count indices indexRange flag with
    | (_, manager, buffer) => ⟨manager, buffer⟩
  | .bufferData data supportsDirectBinding =>
    { s with buffer := s.buffer.bufferData data supportsDirectBinding }
  | .promote dataSize promotes => { s with buffer := s.buffer.promoteStaticUsage dataSize promotes }
  | Event.deinitialize => { s with manager := IndexDataManager.deinitialize s.manager }

/-- The state after a sequence of events. -/
def run (s : State) (events : List Event) : State := events.foldl step s

/-- Every event of a run passes the test `p`, each in the state it happens in. -/
def AllAlong (p : State → Event → Bool) : State → List Event → Bool
  | _, [] => true
  | s, e :: events => p s e && AllAlong p (step s e) events

/-- An invariant that every event passing `p` keeps holds after every run whose events
all pass `p`. -/
theorem AllAlong.run {P : State → Prop} {p : State → Event → Bool}
    (hstep : ∀ s e, P s → p s e = true → P (step s e)) {s : State} {events : List Event}
    (hs : P s) (h : AllAlong p s events = true) : P (run s events) := by
  induction events generalizing s with
  | nil => exact hs
  | cons e events ih =>
    simp only [AllAlong, Bool.and_eq_true] at h
    exact ih (hstep s e hs h.1) h.2

/-- A fresh manager with a buffer that has no static copy yet. -/
def State.init (rendererClass : RendererClass) (initialIndexBufferSize : Nat) (buffer : BufferD3D) :
    State :=
  ⟨IndexDataManager.create rendererClass initialIndexBufferSize,
    { buffer with staticIndexBuffer := none }⟩

/-- Every state some run leads to. -/
inductive Reachable : State → Prop
  | init (rendererClass : RendererClass) (initialIndexBufferSize : Nat) (buffer : BufferD3D) :
      Reachable (State.init rendererClass initialIndexBufferSize buffer)
  | step {s : State} (h : Reachable s) (e : Event) : Reachable (step s e)

theorem Reachable.run {s : State} (h : Reachable s) (events : List Event) :
    Reachable (run s events) := by
  induction events generalizing s with
  | nil => exact h
  | cons e events ih => exact ih (h.step e)

end Rx
