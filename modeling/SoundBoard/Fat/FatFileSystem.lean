import SoundBoard.Fat.FatInternal

/-!
# FatFileSystem.c

Browsing the root directory, opening a file by name, and reading an open file. The browse
loop and the read loops work on a volume record; the exported functions look the record up
in the heap and write it back.
-/

namespace SoundBoard.Fat

open SoundBoard.Lib

/-- A file name, without its terminator. -/
abbrev Name := List UInt8

/-- A character other than the terminator and the space. -/
def isNameChar (c : UInt8) : Bool := c ≠ 0 && c ≠ 0x20

/-! ## Names -/

/-- Write a C string at the start of a buffer. -/
def writeString (buffer : Bytes) (text : Name) : Bytes := fun i =>
  if i < text.length then text.getD i 0 else if i = text.length then 0 else buffer i

/-- Read a C string of at most `limit` bytes, terminator included. -/
def readString (buffer : Bytes) : Nat → Nat → Exec Name
  | 0, _ => .error .outOfBounds
  | limit + 1, i =>
    if buffer i = 0 then .ok []
    else (readString buffer limit (i + 1)).map (buffer i :: ·)

/-- The loop that both `build_wave_play_list` and `Fat_FileOpen` run on a long name: take the
16-bit units up to the zero unit, and keep their bytes other than zero and space. -/
def squeezeLongName (szName : Bytes) : Nat → Nat → Exec Name
  | 0, _ => .error .outOfBounds
  | limit + 1, i =>
    if szName i = 0 ∧ szName (i + 1) = 0 then .ok []
    else (squeezeLongName szName limit (i + 2)).map
      ((([szName i, szName (i + 1)].filter isNameChar)) ++ ·)

/-- `szWaveFilename` as both functions make it from a directory entry. -/
def waveFilename (context : FileContext) : Exec Name :=
  if context.bLongFilename then squeezeLongName context.szName (maxFilenameLength / 2) 0
  else readString context.szName maxFilenameLength 0

/-- `tolower` on an ASCII letter. -/
def toLower (c : UInt8) : UInt8 := if 0x41 ≤ c ∧ c ≤ 0x5A then c + 0x20 else c

/-- `strcmpi` answers 0. -/
def strcmpiEqual (left right : Name) : Bool := left.map toLower = right.map toLower

/-- `fatComposeShortFilename`. -/
def fatComposeShortFilename (dir : Bytes) (szFilename : Bytes) : Bytes :=
  let field := fun start count => ((List.range count).map (drop dir start)).takeWhile isNameChar
  let extension := if dir 11 &&& 0x30 ≠ 0 then 0x2E :: field 8 3 else []
  writeString szFilename (field 0 8 ++ extension)

/-! ## Browsing -/

/-- `Fat_FileBrowseBegin`. -/
def fatFileBrowseBegin (heap : Heap) (hFat : Nat) : Exec (Option BrowseHandle) :=
  if hFat = 0 then .ok none
  else match heap.volumes hFat with
    | none => .error .danglingPointer
    | some vol => .ok (if vol.bMount then some ⟨4294967295, hFat⟩ else none)

/-- A browse handle keeps its volume. -/
theorem fatFileBrowseBegin_handle {heap : Heap} {hFat : Nat} {handle : BrowseHandle}
    (begun : fatFileBrowseBegin heap hFat = .ok (some handle)) : handle.hFat = hFat := by
  unfold fatFileBrowseBegin at begun
  split at begun
  · simp at begun
  · split at begun
    · contradiction
    · split at begun
      · obtain rfl := Option.some.inj (Except.ok.inj begun)
        rfl
      · simp at begun

/-- What one pass of the browse loop does with the entry it has read. -/
inductive BrowsePass where
  /-- The loop ends, with `bFind`. -/
  | done (bFind : Bool) (context : FileContext)
  /-- The loop goes on to the next entry. -/
  | more (context : FileContext) (orderValue : Int) (bLongFilename : Bool)

/-- The 26 bytes of a name that a long-name entry holds, in three pieces. -/
def longNamePiece (dir : Bytes) : Bytes := fun i =>
  if i < 10 then dir (1 + i) else if i < 22 then dir (14 + (i - 10)) else dir (28 + (i - 22))

/-- A pass over a long-name entry. The order number of the last piece comes first; the
pieces before it have to count down from there. -/
def browseLongEntry (dir : Bytes) (context : FileContext) (orderValue : Int)
    (bLongFilename : Bool) : Exec BrowsePass :=
  let order : Int := (dir 0 &&& 0x3F).toNat
  -- the buffer is cleared before the error is acted on
  let context := if orderValue = 0 then { context with szName := fun _ => 0 } else context
  if if orderValue = 0 then bLongFilename else order ≠ orderValue then .ok (.done false context)
  else
    let orderValue := (if orderValue = 0 then order else orderValue) - 1
    let baseOffset := orderValue * 26
    if 0 ≤ baseOffset ∧ baseOffset + 26 ≤ maxFilenameLength then
      .ok (.more
        { context with szName := copyAt context.szName baseOffset.toNat (longNamePiece dir) 26 }
        orderValue true)
    else .error .outOfBounds

/-- A pass over the entry that names a file, a directory or the volume. -/
def browseShortEntry (dir : Bytes) (index : Nat) (context : FileContext)
    (bLongFilename : Bool) : BrowsePass :=
  let attributes := dir 11
  let found := fun szName => BrowsePass.done true
    { szName
      bLongFilename
      bFile := attributes &&& 0x20 ≠ 0
      bDirectory := attributes &&& 0x10 ≠ 0
      bVolume := attributes &&& 0x08 ≠ 0
      dirEntryIndex := index
      attributes
      firstLogicalClusterHi := word16 (dir 20) (dir 21)
      firstLogicalCluster := word16 (dir 26) (dir 27)
      fileSize := word32 (dir 28) (dir 29) (dir 30) (dir 31) }
  if bLongFilename then
    if attributes &&& 0x30 = 0 then .done false { context with attributes := 0x0F }
    else found context.szName
  else found (fatComposeShortFilename dir context.szName)

/-- One pass of the loop of `Fat_FileBrowseNext` over an entry. -/
def browseEntry (dir : Bytes) (index : Nat) (context : FileContext) (orderValue : Int)
    (bLongFilename : Bool) : Exec BrowsePass :=
  if fatIsValidDir dir ∧ ¬fatIsUnusedDir dir then
    if dir 11 &&& 0x0F = 0x0F then browseLongEntry dir context orderValue bLongFilename
    else .ok (browseShortEntry dir index context bLongFilename)
  else if fatIsLastDir dir then .ok (.done false context)
  else .ok (.more context orderValue bLongFilename)

/-- Number of directory indices. -/
@[irreducible] def indexFuel : Nat := 4294967296

/-- There is at least one. -/
theorem indexFuel_succ : ∃ fuel, indexFuel = fuel + 1 := ⟨4294967295, by rw [indexFuel]⟩

/-- The loop of `Fat_FileBrowseNext`: `bFind`, the index reached, the context and the
volume. -/
def browseLoop : Nat → VolumeInfo → Nat → FileContext → Int → Bool →
    Exec (Bool × Nat × FileContext × VolumeInfo)
  | 0, _, _, _, _, _ => .error .neverReturns
  | fuel + 1, vol, index, context, orderValue, bLongFilename =>
    let index := (index + 1) % 4294967296
    let answer := fatFindDirectory vol index
    match answer.1 with
    | none => .ok (false, index, context, answer.2)
    | some dir =>
      match browseEntry dir index context orderValue bLongFilename with
      | .error fault => .error fault
      | .ok (.done bFind context) => .ok (bFind, index, context, answer.2)
      | .ok (.more context orderValue bLongFilename) =>
        browseLoop fuel answer.2 index context orderValue bLongFilename

/-- `Fat_FileBrowseNext`: the entry it found, if any, with the handle and the heap after. -/
def fatFileBrowseNext (heap : Heap) (handle : BrowseHandle) (context : FileContext) :
    Exec (Bool × BrowseHandle × FileContext × Heap) :=
  if handle.hFat = 0 then .ok (false, handle, context, heap)
  else match heap.volumes handle.hFat with
    | none => .error .danglingPointer
    | some vol =>
      if vol.bMount then
        (browseLoop indexFuel vol handle.directoryIndex context 0 false).map
          fun (bFind, index, context, vol) =>
            (bFind, { handle with directoryIndex := index }, context,
              heap.setVolume handle.hFat vol)
      else .ok (false, handle, context, heap)

/-! ## Opening -/

/-- The test of `Fat_FileOpen` on an entry: long names are compared as they are, short names
without regard to case. -/
def nameMatches (context : FileContext) (pFilename : Name) : Exec Bool :=
  (waveFilename context).map fun szWaveFilename =>
    if context.bLongFilename then szWaveFilename = pFilename
    else strcmpiEqual szWaveFilename pFilename

/-- The loop of `Fat_FileOpen`: the first entry that matches. -/
def openLoop (pFilename : Name) :
    Nat → Heap → BrowseHandle → FileContext → Exec (Option FileContext × Heap)
  | 0, _, _, _ => .error .neverReturns
  | fuel + 1, heap, handle, context =>
    match fatFileBrowseNext heap handle context with
    | .error fault => .error fault
    | .ok (false, _, _, heap) => .ok (none, heap)
    | .ok (true, handle, context, heap) =>
      match nameMatches context pFilename with
      | .error fault => .error fault
      | .ok true => .ok (some context, heap)
      | .ok false => openLoop pFilename fuel heap handle context

/-- The context of a browse that has not found an entry yet. -/
def FileContext.blank : FileContext where
  szName := fun _ => 0
  bLongFilename := false
  bFile := false
  bDirectory := false
  bVolume := false
  dirEntryIndex := 0
  attributes := 0
  firstLogicalClusterHi := 0
  firstLogicalCluster := 0
  fileSize := 0

/-- The record that `Fat_FileOpen` fills for an entry. Only the low half of the first cluster
is taken. -/
def openedFile (hFat : Nat) (context : FileContext) : FatFileInfo where
  isOpened := true
  seekPos := 0
  cluster := context.firstLogicalCluster
  clusterSeq := 0
  directory := context
  fat := hFat

/-- `Fat_FileOpen`: a file pointer, or `NULL` when no entry matches. -/
def fatFileOpen (heap : Heap) (hFat : Nat) (pFilename : Name) : Exec (Nat × Heap) :=
  match fatFileBrowseBegin heap hFat with
  | .error fault => .error fault
  | .ok none => .ok (0, heap)
  | .ok (some handle) =>
    match openLoop pFilename indexFuel heap handle FileContext.blank with
    | .error fault => .error fault
    | .ok (none, heap) => .ok (0, heap)
    | .ok (some context, heap) => .ok (heap.allocFile (openedFile hFat context))

/-! ## Reading -/

/-- The variables of `Fat_FileRead`. The local `Cluster` equals the cluster of the handle
wherever it is used, so it is kept there. -/
structure ReadState where
  vol : VolumeInfo
  file : FatFileInfo
  pos : Nat
  nReadCount : Nat
  pBuffer : Bytes
  bSuccess : Bool

/-- Move the handle to the next cluster of its chain. The sequence number counts the attempt
even when there is no next cluster. -/
def ReadState.nextCluster (st : ReadState) : ReadState :=
  let answer := fatNextCluster st.vol st.file.cluster
  { st with
    vol := answer.2
    bSuccess := st.bSuccess && answer.1 ≠ 0
    file := { st.file with
              cluster := if answer.1 = 0 then st.file.cluster else answer.1
              clusterSeq := (st.file.clusterSeq + 1) % 4294967296 } }

/-- The first loop of `Fat_FileRead`: follow the chain to the cluster of the position. -/
def seekLoop : Nat → ReadState → ReadState
  | 0, st => st
  | fuel + 1, st =>
    if st.vol.nBytesPerCluster ≤ st.pos ∧ st.bSuccess then
      let next := st.nextCluster
      seekLoop fuel { next with pos := st.pos - st.vol.nBytesPerCluster }
    else st

/-- Copy from the sector in the cache to the buffer of the caller. -/
def ReadState.copy (st : ReadState) (nBufferSize : Nat) : ReadState :=
  let nCopyCount := min (st.vol.bpbBytsPerSec - st.pos) (nBufferSize - st.nReadCount)
  { st with
    pBuffer := copyAt st.pBuffer st.nReadCount (drop st.vol.secterData st.pos) nCopyCount
    nReadCount := st.nReadCount + nCopyCount
    pos := 0 }

/-- The inner loop of `Fat_FileRead`, over the sectors of one cluster. -/
def secterLoop (nBufferSize : Nat) : Nat → Nat → ReadState → ReadState
  | 0, _, st => st
  | secters + 1, physicalSecter, st =>
    if st.nReadCount < nBufferSize ∧ st.bSuccess then
      let st :=
        if st.vol.bpbBytsPerSec ≤ st.pos then { st with pos := st.pos - st.vol.bpbBytsPerSec }
        else
          let answer := fatReadSecter st.vol physicalSecter
          let st := { st with vol := answer.2, bSuccess := answer.1 }
          if answer.1 then st.copy nBufferSize else st
      secterLoop nBufferSize secters ((physicalSecter + 1) % 4294967296) st
    else st

/-- `PhysicalSecter`: the first sector of a cluster. The shifts of the source are products
by 32 and 64. -/
def clusterSecter (vol : VolumeInfo) (cluster : Nat) : Nat :=
  ((cluster + 4294967294) % 4294967296 * vol.bpbSecPerCluster + vol.dataEntrySecter) % 4294967296

/-- The outer loop of `Fat_FileRead`, over clusters. -/
def readLoop (nBufferSize : Nat) : Nat → ReadState → ReadState
  | 0, st => st
  | fuel + 1, st =>
    if st.nReadCount < nBufferSize ∧ st.bSuccess then
      let st := secterLoop nBufferSize st.vol.bpbSecPerCluster
        (clusterSecter st.vol st.file.cluster) st
      readLoop nBufferSize fuel (if st.nReadCount < nBufferSize then st.nextCluster else st)
    else st

/-- `Fat_FileRead` on the records behind its pointers. -/
def readFile (vol : VolumeInfo) (file : FatFileInfo) (pBuffer : Bytes) (nBufferSize : Nat) :
    ReadState :=
  -- the shifts for three cluster sizes are this division and product
  let nClusterSeq := file.seekPos / vol.nBytesPerCluster
  let pos := toU32 ((file.seekPos : Int) - file.clusterSeq * vol.nBytesPerCluster)
  let st : ReadState := ⟨vol, file, pos, 0, pBuffer, true⟩
  let st := if nClusterSeq ≠ file.clusterSeq then seekLoop pos st else st
  -- a pass that succeeds reads at least one byte, so the buffer size bounds the passes
  let st := readLoop nBufferSize nBufferSize st
  if st.bSuccess then
    { st with file := { st.file with seekPos := (st.file.seekPos + nBufferSize) % 4294967296 } }
  else st

/-- `Fat_FileRead`: success, the buffer and the heap after. -/
def fatFileRead (heap : Heap) (hFile : Nat) (pBuffer : Bytes) (nBufferSize : Nat) :
    Exec (Bool × Bytes × Heap) :=
  if hFile = 0 then .ok (false, pBuffer, heap)
  else match heap.files hFile with
    | none => .error .danglingPointer
    | some file =>
      if file.fat = 0 then .ok (false, pBuffer, heap)
      else match heap.volumes file.fat with
        | none => .error .danglingPointer
        | some vol =>
          if ¬file.isOpened then .ok (true, pBuffer, heap)
          else if vol.nBytesPerCluster = 0 then .error .divideByZero
          else
            let st := readFile vol file pBuffer nBufferSize
            .ok (st.bSuccess, st.pBuffer, (heap.setFile hFile st.file).setVolume file.fat st.vol)

/-- `Fat_FileSize`. -/
def fatFileSize (heap : Heap) (hFile : Nat) : Exec Nat :=
  match heap.files hFile with
  | none => .error .danglingPointer
  | some file => .ok (if file.isOpened then file.directory.fileSize else 0)

/-- `FAT_SEEK_POS`, with the values that name no place. -/
inductive FatSeekPos where
  | fileSeekBegin
  | fileSeekCurrent
  | fileSeekEnd
  | other
  deriving DecidableEq, Repr

/-- The place that a seek names, before it is taken for a word. -/
def FatFileInfo.target (file : FatFileInfo) (seekPos : FatSeekPos) (nOffset : Int) : Option Int :=
  match seekPos with
  | .fileSeekBegin => some nOffset
  | .fileSeekCurrent => some (file.seekPos + nOffset)
  | .fileSeekEnd => some (file.directory.fileSize + nOffset)
  | .other => none

/-- `Fat_FileSeek`. The record goes back to its first cluster in any case. -/
def fatFileSeek (heap : Heap) (hFile : Nat) (seekPos : FatSeekPos) (nOffset : Int) :
    Exec (Bool × Heap) :=
  if hFile = 0 then .ok (false, heap)
  else match heap.files hFile with
    | none => .error .danglingPointer
    | some file =>
      if file.fat = 0 then .ok (false, heap)
      else if ¬file.isOpened then .ok (false, heap)
      else
        let target := file.target seekPos nOffset
        .ok (target.isSome, heap.setFile hFile { file with
          seekPos := (target.map toU32).getD file.seekPos
          cluster := file.directory.firstLogicalCluster
          clusterSeq := 0 })

/-- `Fat_FileClose`. -/
def fatFileClose (heap : Heap) (hFile : Nat) : Heap :=
  if hFile = 0 then heap else heap.freeFile hFile

/-! ## Queries -/

/-- The loop of `Fat_FileCount`. -/
def countLoop : Nat → Heap → BrowseHandle → FileContext → Nat → Exec (Nat × Heap)
  | 0, _, _, _, _ => .error .neverReturns
  | fuel + 1, heap, handle, context, nCount =>
    match fatFileBrowseNext heap handle context with
    | .error fault => .error fault
    | .ok (false, _, _, heap) => .ok (nCount, heap)
    | .ok (true, handle, context, heap) =>
      countLoop fuel heap handle context ((nCount + 1) % 4294967296)

/-- `Fat_FileCount`. -/
def fatFileCount (heap : Heap) (hFat : Nat) : Exec (Nat × Heap) :=
  match fatFileBrowseBegin heap hFat with
  | .error fault => .error fault
  | .ok none => .ok (0, heap)
  | .ok (some handle) => countLoop indexFuel heap handle FileContext.blank 0

/-- `fatSameLongFilename`: the 16-bit units of two names, up to a unit that is zero in both. -/
def fatSameLongFilename (p1 p2 : Bytes) : Nat → Nat → Exec Bool
  | 0, _ => .error .outOfBounds
  | limit + 1, i =>
    if (p1 i = 0 ∧ p1 (i + 1) = 0) ∧ p2 i = 0 ∧ p2 (i + 1) = 0 then .ok true
    else if p1 i = p2 i ∧ p1 (i + 1) = p2 (i + 1) then fatSameLongFilename p1 p2 limit (i + 2)
    else .ok false

/-- The test of `Fat_FileExist` on an entry. A long name is compared with the bytes of the string
and with what stands behind them, two at a time. -/
def existMatches (context : FileContext) (pFilename : Name) (behind : Bytes) : Exec Bool :=
  if context.bLongFilename then
    fatSameLongFilename context.szName (writeString behind pFilename) (maxFilenameLength / 2) 0
  else (readString context.szName maxFilenameLength 0).map fun szName => strcmpiEqual szName pFilename

/-- The loop of `Fat_FileExist`. -/
def existLoop (pFilename : Name) (behind : Bytes) :
    Nat → Heap → BrowseHandle → FileContext → Exec (Bool × Heap)
  | 0, _, _, _ => .error .neverReturns
  | fuel + 1, heap, handle, context =>
    match fatFileBrowseNext heap handle context with
    | .error fault => .error fault
    | .ok (false, _, _, heap) => .ok (false, heap)
    | .ok (true, handle, context, heap) =>
      match existMatches context pFilename behind with
      | .error fault => .error fault
      | .ok true => .ok (true, heap)
      | .ok false => existLoop pFilename behind fuel heap handle context

/-- `Fat_FileExist`. It ends with `Fat_FileClose` on the volume, which frees it. -/
def fatFileExist (heap : Heap) (hFat : Nat) (pFilename : Name) (behind : Bytes) :
    Exec (Bool × Heap) :=
  match fatFileBrowseBegin heap hFat with
  | .error fault => .error fault
  | .ok none => .ok (false, heap)
  | .ok (some handle) =>
    (existLoop pFilename behind indexFuel heap handle FileContext.blank).map fun (bFind, heap) =>
      (bFind, heap.freeVolume hFat)

end SoundBoard.Fat
