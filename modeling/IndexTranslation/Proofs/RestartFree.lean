/-
When the restart flag does not matter to the static copy.

`staticBufferUsable` looks at the copy's index type and at the offset's alignment, not
at the restart flag the copy was converted with, so a draw can be served a copy
converted with the other flag (`staticCache_stale_run`).  What the flag changes in a
conversion is only what becomes of the source restart value: the widening loops remap
it or keep it, and the `memcpy` keeps it (`convertIndices_flag`).  So while the buffer
holds no restart value of the source type, a copy converted with one flag is the copy
for every flag, and draws of one source type may mix flags freely.

`RestartFree b srcType` is that condition on the buffer's bytes, a decidable test.
Along any run in which every draw has one source type and succeeds, and the buffer
holds no restart value of that type whenever it is drawn from, every later draw of
that type reads what it should, whatever its flag and whatever path serves it
(`run_draws_intended_anyFlag`).
-/
import IndexTranslation.Proofs.StaticCopy

namespace Rx

open IndexDataManager

/-! ### Copies converted with either flag -/

/-- The buffer holds no restart value of `srcType` among the elements a copy converts. -/
def RestartFree (b : BufferD3D) (srcType : IndexType) : Bool :=
  (indexValues srcType (convertCount b srcType) b.data).all (· != srcType.primitiveRestartIndex)

/-- Whether a buffer is restart-free reads its bytes and nothing else of it. -/
theorem restartFree_congr {b b' : BufferD3D} (hd : b'.data = b.data) (srcType : IndexType) :
    RestartFree b' srcType = RestartFree b srcType := by
  simp only [RestartFree, convertCount, BufferD3D.getSize, hd]

/-- In a restart-free buffer a copy converted with one flag is a copy for any other. -/
theorem CopyOf.flag {b : BufferD3D} {srcType : IndexType} {flag : Bool} {sb : IndexBuffer}
    (hcopy : CopyOf b srcType flag sb) (hfree : RestartFree b srcType = true) (flag' : Bool) :
    CopyOf b srcType flag' sb := by
  obtain ⟨dstType, htype, hfit, hread⟩ := hcopy
  have hfree' : ∀ v ∈ indexValues srcType (convertCount b srcType) b.data,
      v ≠ srcType.primitiveRestartIndex := by
    simpa [RestartFree] using hfree
  exact ⟨dstType, htype, hfit, hread.trans (convertIndices_flag hfree' flag flag')⟩

theorem StaticCopyOK.flag {b : BufferD3D} {srcType : IndexType} {flag : Bool}
    (hok : StaticCopyOK b srcType flag) (hfree : RestartFree b srcType = true) (flag' : Bool) :
    StaticCopyOK b srcType flag' :=
  fun sb hsb h0 => (hok sb hsb h0).flag hfree flag'

/-! ### Runs of one source type -/

/-- An event that keeps the copy right for draws of source type `srcType` with any flag,
when it happens in state `s`: a draw of that type that succeeds while the buffer is
restart-free, or any event that is not a draw. -/
def KeepsAnyFlag (srcType : IndexType) (s : State) : Event → Bool
  | .draw r srcType' count indices indexRange flag =>
    srcType' == srcType && RestartFree s.buffer srcType &&
      (s.manager.prepareIndexData s.buffer r srcType' count indices indexRange flag).1.isOk
  | _ => true

/-- One event that keeps the copy right for every flag keeps `StaticCopyOK` for every
flag: a draw keeps it for its own flag, and the bytes it leaves are still restart-free. -/
theorem staticCopyOK_anyFlag_step {s : State} {srcType : IndexType} {e : Event}
    (hok : ∀ flag, StaticCopyOK s.buffer srcType flag)
    (hkeep : KeepsAnyFlag srcType s e = true) :
    ∀ flag, StaticCopyOK (step s e).buffer srcType flag := by
  cases e with
  | draw r srcType' count indices indexRange flag' =>
    simp only [KeepsAnyFlag, Bool.and_eq_true, beq_iff_eq] at hkeep
    obtain ⟨⟨rfl, hfree⟩, hsucc⟩ := hkeep
    cases hout : (s.manager.prepareIndexData s.buffer r srcType' count indices indexRange
      flag').1 with
    | error => rw [hout] at hsucc; cases hsucc
    | ok t =>
      refine ((hok flag').prepareIndexData hout).flag ?_
      rw [restartFree_congr (data_prepareIndexData _ _ _ _ _ _ _ _)]
      exact hfree
  | bufferData => rintro _ _ ⟨⟩
  | promote dataSize promotes => exact fun flag => (hok flag).promoteStaticUsage dataSize promotes
  | deinitialize => exact hok

theorem staticCopyOK_anyFlag_run {s : State} {srcType : IndexType} {events : List Event}
    (hok : ∀ flag, StaticCopyOK s.buffer srcType flag)
    (hkeep : AllAlong (KeepsAnyFlag srcType) s events = true) :
    ∀ flag, StaticCopyOK (run s events).buffer srcType flag :=
  @AllAlong.run (fun s => ∀ flag, StaticCopyOK s.buffer srcType flag) _
    (fun _ _ => staticCopyOK_anyFlag_step) _ _ hok hkeep

/-- **Draws of one source type may mix restart flags while the buffer is restart-free.**
Start from a state whose static copy is empty, and run any events in which every draw
has source type `srcType` and succeeds, with any restart flag, while the buffer holds no
restart value of `srcType`; buffer updates, usage promotions and deinitializations may
come in between.  Then a draw of that type that succeeds, with either flag, inside the
application's data and from a buffer under 4 GiB, reads exactly the application's
values, the restart value carried over, whichever path serves it: the copy it may be
served was converted with some flag of the run, and there that flag changed nothing. -/
theorem run_draws_intended_anyFlag {s : State} {events : List Event} {srcType : IndexType}
    {r : Responses} {count : Nat} {indices : Indices} {indexRange : IndexRange} {flag : Bool}
    {t : TranslatedIndexData} {m' : IndexDataManager} {b' : BufferD3D}
    (hempty : staticBufferInitialized s.buffer.staticIndexBuffer = false)
    (hkeep : AllAlong (KeepsAnyFlag srcType) s events = true)
    (h : (run s events).manager.prepareIndexData (run s events).buffer r srcType count indices
      indexRange flag = (.ok t, m', b'))
    (hsize : (run s events).buffer.getSize < 2 ^ 32)
    (hin : DrawInside (run s events).buffer srcType count indices) :
    drawnIndices m' b' t count =
      some (intendedIndices (run s events).buffer srcType t.indexType count indices flag) := by
  by_cases hstatic : t.indexBuffer = some .staticBuffer
  · have hok := staticCopyOK_anyFlag_run (staticCopyOK_of_not_initialized hempty srcType) hkeep
    exact prepareIndexData_draws_static h (hok flag) hstatic hsize hin
  · exact drawnIndices_of_not_staticBuffer h hin.le_length hstatic

/-- A two-byte buffer with no `0xFF`: a byte draw with restart on builds the copy, and a
byte draw with restart off is served that copy and reads `[1, 2]`, as it should. -/
theorem run_draws_intended_anyFlag_mixed :
    staticBufferInitialized
        (State.init .d3d11 4 ⟨[1, 2], false, none, 0, 0⟩).buffer.staticIndexBuffer = false ∧
    AllAlong (KeepsAnyFlag .unsignedByte) (State.init .d3d11 4 ⟨[1, 2], false, none, 0, 0⟩)
      [.promote 0 true,
        .draw ⟨fun _ => false, false⟩ .unsignedByte 2 (.offset 0) ⟨2, 2⟩ true] = true ∧
    run (State.init .d3d11 4 ⟨[1, 2], false, none, 0, 0⟩)
        [.promote 0 true,
          .draw ⟨fun _ => false, false⟩ .unsignedByte 2 (.offset 0) ⟨2, 2⟩ true] =
      ⟨IndexDataManager.create .d3d11 4,
        ⟨[1, 2], false, some ⟨[1, 0, 2, 0], some .unsignedShort, 4, 1⟩, 0, 0⟩⟩ ∧
    (IndexDataManager.create .d3d11 4).prepareIndexData
        ⟨[1, 2], false, some ⟨[1, 0, 2, 0], some .unsignedShort, 4, 1⟩, 0, 0⟩
        ⟨fun _ => false, false⟩ .unsignedByte 2 (.offset 0) ⟨2, 2⟩ false =
      (.ok ⟨.unsignedShort, false, some .staticBuffer, 1, 0, 0,
          ⟨.offset 0, .unsignedByte, 2⟩⟩,
        IndexDataManager.create .d3d11 4,
        ⟨[1, 2], false, some ⟨[1, 0, 2, 0], some .unsignedShort, 4, 1⟩, 0, 0⟩) ∧
    BufferD3D.getSize
      ⟨[1, 2], false, some ⟨[1, 0, 2, 0], some .unsignedShort, 4, 1⟩, 0, 0⟩ < 2 ^ 32 ∧
    DrawInside ⟨[1, 2], false, some ⟨[1, 0, 2, 0], some .unsignedShort, 4, 1⟩, 0, 0⟩
      .unsignedByte 2 (.offset 0) ∧
    drawnIndices (IndexDataManager.create .d3d11 4)
        ⟨[1, 2], false, some ⟨[1, 0, 2, 0], some .unsignedShort, 4, 1⟩, 0, 0⟩
        ⟨.unsignedShort, false, some .staticBuffer, 1, 0, 0,
          ⟨.offset 0, .unsignedByte, 2⟩⟩ 2 =
      some (intendedIndices
        ⟨[1, 2], false, some ⟨[1, 0, 2, 0], some .unsignedShort, 4, 1⟩, 0, 0⟩ .unsignedByte
        .unsignedShort 2 (.offset 0) false) ∧
    intendedIndices ⟨[1, 2], false, some ⟨[1, 0, 2, 0], some .unsignedShort, 4, 1⟩, 0, 0⟩
      .unsignedByte .unsignedShort 2 (.offset 0) false = [1, 2] :=
  ⟨rfl, by decide, rfl, rfl, by decide, by decide,
    @run_draws_intended_anyFlag (State.init .d3d11 4 ⟨[1, 2], false, none, 0, 0⟩)
      [.promote 0 true,
        .draw ⟨fun _ => false, false⟩ .unsignedByte 2 (.offset 0) ⟨2, 2⟩ true]
      .unsignedByte ⟨fun _ => false, false⟩ 2 (.offset 0) ⟨2, 2⟩ false _ _ _ rfl (by decide)
      rfl (by decide) (by decide), by decide⟩

end Rx
