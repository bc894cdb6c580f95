/-
`IndexDataManager`, lines 85-399: the file itself.

A call of `prepareIndexData` picks the destination type, then one of four ways to
hand the backend its indices:

  * Case 1, the indices are in client memory: stream them;
  * Case 2a, the buffer can be bound as it is: point at it;
  * Case 2b, otherwise: point at the buffer's static translated copy, building it
    first if it is empty, or stream the draw's slice when there is no usable copy.

Each collaborator call may fail and is then returned at once, with whatever the
call had changed before it left in place.  The model therefore returns the
manager and the source buffer as they are after the call, on every path.

The streaming buffers are the manager's only state: `getStreamingIndexBuffer`
keeps one per destination type and creates it on first use.
-/
import IndexTranslation.Convert
import IndexTranslation.IndexBuffer

namespace Rx

/-- The `IndexBuffer` a translated draw reads from when it is not the source buffer. -/
inductive IndexBufferRef
  /-- `mStreamingBufferShort`. -/
  | streamingShort
  /-- `mStreamingBufferInt`. -/
  | streamingInt
  /-- The source buffer's static index buffer. -/
  | staticBuffer
  deriving DecidableEq, Repr

/-- `indices`: a pointer to client memory when no element buffer is bound, and a byte
offset into the buffer when one is. -/
inductive Indices
  | pointer (data : List UInt8)
  | offset (value : Nat)
  deriving DecidableEq, Repr

/-- `TranslatedIndexData::srcIndexData`. -/
structure SourceIndexData where
  srcIndices : Indices
  srcIndexType : IndexType
  srcCount : Nat
  deriving DecidableEq, Repr

/-- The fields of `TranslatedIndexData` the file writes.  `storage` says whether
`translated->storage` is the source buffer (Case 2a) rather than `nullptr`. -/
structure TranslatedIndexData where
  indexType : IndexType
  storage : Bool
  indexBuffer : Option IndexBufferRef
  serial : Nat
  startIndex : Nat
  startOffset : Nat
  srcIndexData : SourceIndexData
  deriving DecidableEq, Repr

/-- Lines 239-243: the descriptor before a path is chosen.  Every path that succeeds
overwrites the fields left at `false`, `none` and `0` here. -/
def TranslatedIndexData.start (dstType srcType : IndexType) (count : Nat) (indices : Indices) :
    TranslatedIndexData :=
  { indexType := dstType, storage := false, indexBuffer := none, serial := 0, startIndex := 0,
    startOffset := 0, srcIndexData := ⟨indices, srcType, count⟩ }

/-- The manager.  `initialIndexBufferSize` is `INITIAL_INDEX_BUFFER_SIZE`, a constant of
`IndexDataManager.h`, which is not part of the file. -/
structure IndexDataManager where
  rendererClass : RendererClass
  initialIndexBufferSize : Nat
  streamingBufferShort : Option IndexBuffer
  streamingBufferInt : Option IndexBuffer
  deriving DecidableEq, Repr

/-- `IndexDataManager::UsePrimitiveRestartWorkaround`. -/
def usePrimitiveRestartWorkaround (primitiveRestartFixedIndexEnabled : Bool) (type : IndexType)
    (rendererClass : RendererClass) : Bool :=
  !primitiveRestartFixedIndexEnabled && type == .unsignedShort && rendererClass == .d3d11

/-- `hasPrimitiveRestartIndex`, lines 217-219: fewer vertex indices than indices, or a
range that ends at the restart value. -/
def hasPrimitiveRestartIndex (indexRange : IndexRange) (count : Nat) (srcType : IndexType) : Bool :=
  decide (indexRange.vertexIndexCount < count) || indexRange.endIndex == srcType.primitiveRestartIndex

/-- `dstType`, lines 174-176 and 230-232. -/
def destinationType (srcType : IndexType) (primitiveRestartWorkaround : Bool) : IndexType :=
  if srcType = .unsignedInt || primitiveRestartWorkaround then .unsignedInt else .unsignedShort

/-- The destination type `prepareIndexData` picks, lines 217-232. -/
def translatedType (rendererClass : RendererClass) (srcType : IndexType) (count : Nat)
    (indexRange : IndexRange) (primitiveRestartFixedIndexEnabled : Bool) : IndexType :=
  destinationType srcType
    (usePrimitiveRestartWorkaround primitiveRestartFixedIndexEnabled srcType rendererClass &&
      hasPrimitiveRestartIndex indexRange count srcType)

/-- `IndexDataManager::IsStreamingIndexData`: `glBuffer` is the bound element buffer. -/
def isStreamingIndexData (primitiveRestartEnabled : Bool) (glBuffer : Option BufferD3D)
    (srcType : IndexType) (rendererClass : RendererClass) : Bool :=
  match glBuffer with
  | none => true
  | some buffer =>
    let dstType := destinationType srcType
      (usePrimitiveRestartWorkaround primitiveRestartEnabled srcType rendererClass)
    if buffer.supportsDirectBinding && dstType == srcType then false
    else
      match buffer.staticIndexBuffer with
      | none => true
      | some staticBuffer => staticBuffer.bufferSize == 0 || staticBuffer.indexType != some dstType

/-- `StreamInIndexBuffer`: the offset the data was written at, and the buffer afterwards. -/
def streamInIndexBuffer (r : Responses) (buffer : IndexBuffer) (data : List UInt8) (count : Nat)
    (srcType dstType : IndexType) (usePrimitiveRestartFixedIndex : Bool) :
    Except Error Nat × IndexBuffer :=
  if uintMax >>> dstType.bytesShift < count then
    (.error (.outOfMemory count dstType.bytes), buffer)
  else
    let bufferSizeRequired := toUInt (count <<< dstType.bytesShift)
    if r.fails .reserveBufferSpace then (.error (.collaborator .reserveBufferSpace), buffer)
    else
      let buffer := buffer.reserveBufferSpace bufferSizeRequired dstType
      if r.fails .mapBuffer then (.error (.collaborator .mapBuffer), buffer)
      else
        let mapped := buffer.mapBuffer bufferSizeRequired
        let buffer := mapped.2.write mapped.1
          (convertIndices srcType dstType data count usePrimitiveRestartFixedIndex)
        if r.fails .unmapBuffer then (.error (.collaborator .unmapBuffer), buffer)
        else (.ok mapped.1, buffer)

theorem destinationType_ne_unsignedByte (srcType : IndexType) (workaround : Bool) :
    destinationType srcType workaround ≠ .unsignedByte := by
  unfold destinationType; split <;> simp

theorem translatedType_ne_unsignedByte (rendererClass : RendererClass) (srcType : IndexType)
    (count : Nat) (indexRange : IndexRange) (flag : Bool) :
    translatedType rendererClass srcType count indexRange flag ≠ .unsignedByte :=
  destinationType_ne_unsignedByte _ _

namespace IndexDataManager

/-- The constructor: no streaming buffer exists yet. -/
def create (rendererClass : RendererClass) (initialIndexBufferSize : Nat) : IndexDataManager :=
  ⟨rendererClass, initialIndexBufferSize, none, none⟩

/-- `deinitialize()`. -/
def deinitialize (m : IndexDataManager) : IndexDataManager :=
  { m with streamingBufferShort := none, streamingBufferInt := none }

/-- `streamingBuffer`, lines 387-388: the slot for a destination type. -/
def streamingBuffer (m : IndexDataManager) (t : IndexType) : Option IndexBuffer :=
  if t = .unsignedInt then m.streamingBufferInt else m.streamingBufferShort

/-- Store into the slot for a destination type. -/
def setStreamingBuffer (m : IndexDataManager) (t : IndexType) (b : IndexBuffer) : IndexDataManager :=
  if t = .unsignedInt then { m with streamingBufferInt := some b }
  else { m with streamingBufferShort := some b }

/-- The slot's identity, as `translated->indexBuffer` records it. -/
def streamingRef (t : IndexType) : IndexBufferRef :=
  if t = .unsignedInt then .streamingInt else .streamingShort

@[simp] theorem streamingRef_ne_staticBuffer (t : IndexType) : streamingRef t ≠ .staticBuffer := by
  unfold streamingRef; split <;> simp

/-- The two streaming slots are told apart by their reference. -/
theorem streamingRef_injective {t t' : IndexType} (ht : t ≠ .unsignedByte) (ht' : t' ≠ .unsignedByte)
    (h : streamingRef t = streamingRef t') : t = t' := by
  cases t <;> cases t' <;> simp_all [streamingRef]

@[simp] theorem streamingBuffer_setStreamingBuffer (m : IndexDataManager) (t : IndexType)
    (b : IndexBuffer) : (m.setStreamingBuffer t b).streamingBuffer t = some b := by
  unfold setStreamingBuffer streamingBuffer; split <;> simp_all

/-- Storing into one slot leaves the other as it was. -/
theorem streamingBuffer_setStreamingBuffer_of_ne {m : IndexDataManager} {t t' : IndexType}
    (b : IndexBuffer) (ht : t ≠ .unsignedByte) (ht' : t' ≠ .unsignedByte) (h : t ≠ t') :
    (m.setStreamingBuffer t' b).streamingBuffer t = m.streamingBuffer t := by
  cases t <;> cases t' <;> simp_all [setStreamingBuffer, streamingBuffer]

@[simp] theorem rendererClass_setStreamingBuffer (m : IndexDataManager) (t : IndexType)
    (b : IndexBuffer) : (m.setStreamingBuffer t b).rendererClass = m.rendererClass := by
  unfold setStreamingBuffer; split <;> rfl

@[simp] theorem initialIndexBufferSize_setStreamingBuffer (m : IndexDataManager) (t : IndexType)
    (b : IndexBuffer) :
    (m.setStreamingBuffer t b).initialIndexBufferSize = m.initialIndexBufferSize := by
  unfold setStreamingBuffer; split <;> rfl

/-- `getStreamingIndexBuffer`. -/
def getStreamingIndexBuffer (m : IndexDataManager) (r : Responses) (destinationIndexType : IndexType) :
    Except Error IndexBuffer × IndexDataManager :=
  match m.streamingBuffer destinationIndexType with
  | some b => (.ok b, m)
  | none =>
    if r.fails .initialReserve then (.error (.collaborator .initialReserve), m)
    else
      let newBuffer := IndexBuffer.empty.reserveBufferSpace m.initialIndexBufferSize destinationIndexType
      (.ok newBuffer, m.setStreamingBuffer destinationIndexType newBuffer)

/-- `streamIndexData`. -/
def streamIndexData (m : IndexDataManager) (r : Responses) (data : List UInt8) (count : Nat)
    (srcType dstType : IndexType) (usePrimitiveRestartFixedIndex : Bool)
    (translated : TranslatedIndexData) : Except Error TranslatedIndexData × IndexDataManager :=
  match m.getStreamingIndexBuffer r dstType with
  | (.error e, m) => (.error e, m)
  | (.ok indexBuffer, m) =>
    match streamInIndexBuffer r indexBuffer data count srcType dstType usePrimitiveRestartFixedIndex with
    | (.error e, indexBuffer) => (.error e, m.setStreamingBuffer dstType indexBuffer)
    | (.ok offset, indexBuffer) =>
      (.ok { translated with
          indexBuffer := some (streamingRef dstType), serial := indexBuffer.serial,
          startIndex := offset >>> dstType.bytesShift, startOffset := offset },
        m.setStreamingBuffer dstType indexBuffer)

/-- `offsetAligned`, lines 257-272. -/
def offsetAligned (srcType : IndexType) (offset : Nat) : Bool := offset % srcType.bytes == 0

/-- `staticBufferInitialized`, line 292. -/
def staticBufferInitialized (staticBuffer : Option IndexBuffer) : Bool :=
  staticBuffer.any (·.bufferSize != 0)

/-- `staticBufferUsable`, lines 293-294. -/
def staticBufferUsable (staticBuffer : Option IndexBuffer) (offsetAligned : Bool)
    (dstType : IndexType) : Bool :=
  offsetAligned && staticBuffer.any (·.indexType == some dstType)

/-- Lines 302-319: stream the draw's slice of the buffer, then report the use to it. -/
def streamFromBuffer (m : IndexDataManager) (r : Responses) (buffer : BufferD3D) (offset : Nat)
    (srcType dstType : IndexType) (count : Nat) (flag : Bool) (translated : TranslatedIndexData) :
    Except Error TranslatedIndexData × IndexDataManager × BufferD3D :=
  if r.fails .getData then (.error (.collaborator .getData), m, buffer)
  else
    match m.streamIndexData r (buffer.data.drop offset) count srcType dstType flag translated with
    | (.error e, m) => (.error e, m, buffer)
    | (.ok t, m) =>
      (.ok t, m, buffer.promoteStaticUsage (toGLsizei (count <<< srcType.bytesShift)) r.promotes)

/-- Lines 343-346: the draw reads the static copy. -/
def staticReference (translated : TranslatedIndexData) (staticBuffer : IndexBuffer) (offset : Nat)
    (srcType dstType : IndexType) : TranslatedIndexData :=
  { translated with
    indexBuffer := some .staticBuffer, serial := staticBuffer.serial,
    startIndex := offset >>> srcType.bytesShift,
    startOffset := toUInt ((offset >>> srcType.bytesShift) <<< dstType.bytesShift) }

/-- `convertCount`, line 331: the elements of the whole buffer, as an `unsigned int` size
shifted down. -/
def convertCount (buffer : BufferD3D) (srcType : IndexType) : Nat :=
  toUInt buffer.getSize >>> srcType.bytesShift

/-- Lines 320-347: build the static copy from the whole buffer if it is empty
(`convertCount` elements), and point the draw at it. -/
def useStaticBuffer (m : IndexDataManager) (r : Responses) (buffer : BufferD3D)
    (staticBuffer : IndexBuffer) (staticBufferInitialized : Bool) (offset : Nat)
    (srcType dstType : IndexType) (flag : Bool) (translated : TranslatedIndexData) :
    Except Error TranslatedIndexData × IndexDataManager × BufferD3D :=
  if staticBufferInitialized then
    (.ok (staticReference translated staticBuffer offset srcType dstType), m, buffer)
  else if r.fails .getData then (.error (.collaborator .getData), m, buffer)
  else
    match streamInIndexBuffer r staticBuffer buffer.data (convertCount buffer srcType) srcType
        dstType flag with
    | (.error e, staticBuffer) => (.error e, m, { buffer with staticIndexBuffer := some staticBuffer })
    | (.ok _, staticBuffer) =>
      (.ok (staticReference translated staticBuffer offset srcType dstType), m,
        { buffer with staticIndexBuffer := some staticBuffer })

/-- The bytes `ConvertIndices` reads for a draw: the client array, or the buffer's bytes
from the offset on (`bufferData + offset`). -/
def sourceData (buffer : BufferD3D) : Indices → List UInt8
  | .pointer data => data
  | .offset pointer => buffer.data.drop (toUInt pointer)

/-- `prepareIndexData`.  `buffer` is the bound element buffer, read only when `indices`
is an offset. -/
def prepareIndexData (m : IndexDataManager) (buffer : BufferD3D) (r : Responses)
    (srcType : IndexType) (count : Nat) (indices : Indices) (indexRange : IndexRange)
    (primitiveRestartFixedIndexEnabled : Bool) :
    Except Error TranslatedIndexData × IndexDataManager × BufferD3D :=
  let dstType := translatedType m.rendererClass srcType count indexRange
    primitiveRestartFixedIndexEnabled
  let translated := TranslatedIndexData.start dstType srcType count indices
  match indices with
  | .pointer data =>
    match m.streamIndexData r data count srcType dstType primitiveRestartFixedIndexEnabled
        translated with
    | (result, m) => (result, m, buffer)
  | .offset pointer =>
    let offset := toUInt pointer
    let aligned := offsetAligned srcType offset
    if aligned && buffer.supportsDirectBinding && dstType == srcType then
      (.ok { translated with
          storage := true, indexBuffer := none, serial := buffer.serial,
          startIndex := offset >>> srcType.bytesShift, startOffset := offset }, m, buffer)
    else
      let initialized := staticBufferInitialized buffer.staticIndexBuffer
      let invalidate := initialized && !staticBufferUsable buffer.staticIndexBuffer aligned dstType
      let staticBuffer := if invalidate then none else buffer.staticIndexBuffer
      let buffer := if invalidate then buffer.invalidateStaticData else buffer
      match staticBuffer, aligned with
      | some staticBuffer, true =>
        m.useStaticBuffer r buffer staticBuffer initialized offset srcType dstType
          primitiveRestartFixedIndexEnabled translated
      | _, _ =>
        m.streamFromBuffer r buffer offset srcType dstType count
          primitiveRestartFixedIndexEnabled translated

end IndexDataManager

end Rx
