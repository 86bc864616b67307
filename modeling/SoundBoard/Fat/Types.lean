import SoundBoard.Lib.Memory

/-!
# Data of the FAT library

The records of `FatInternal.h` and `FatFileSystem.h`, and the heap that holds them. A pointer
to a volume or to an open file is a number, 0 for `NULL`, and the heap says which pointers
are live. A call that leaves the defined behaviour of C, or that never returns, is a `Fault`.
-/

namespace SoundBoard.Fat

open SoundBoard.Lib

/-- Ways in which a call has no result. -/
inductive Fault where
  /-- A write or a read outside an array. -/
  | outOfBounds
  /-- A loop that does not end. -/
  | neverReturns
  /-- A division by zero. -/
  | divideByZero
  /-- A use of a pointer that was freed or never allocated. -/
  | danglingPointer
  deriving DecidableEq, Repr

/-- The outcome of a call. -/
abbrev Exec := Except Fault

/-- `MY_SECTER_SIZE`. -/
def mySecterSize : Nat := 512

/-- `MAX_FILENAME_LENGTH`. -/
def maxFilenameLength : Nat := 256

/-- The card behind a volume's `ReadBlock512`. -/
structure Device where
  /-- Success of the `n`-th call for a sector, and what the sector buffer holds afterwards. -/
  read : Nat → Nat → Bool × Bytes
  /-- What an uninitialised word of the caller's frame holds after the `n`-th call. -/
  stack : Nat → Nat

/-- A card that answers every read of every sector with the sector of one image. -/
def Device.Holds (device : Device) (image : Nat → Bytes) : Prop :=
  ∀ call secter, device.read call secter = (true, image secter)

/-- The card that always answers from an image. -/
def imageDevice (image : Nat → Bytes) : Device := ⟨fun _ secter => (true, image secter), fun _ => 0⟩

/-- An image's card holds the image. -/
theorem imageDevice_holds (image : Nat → Bytes) : (imageDevice image).Holds image :=
  fun _ _ => rfl

/-- `VOLUME_INFO`. `readBlock512` is the card behind the function pointer; the other
hardware pointers are never used by a read. -/
structure VolumeInfo where
  readBlock512 : Device
  /-- Number of `ReadBlock512` calls made so far. -/
  calls : Nat
  partitionType : Nat
  bMount : Bool
  partitionStartSecter : Nat
  bpbBytsPerSec : Nat
  bpbSecPerCluster : Nat
  bpbRsvdSecCnt : Nat
  bpbNumFATs : Nat
  bpbRootEntCnt : Nat
  bpbFATSz : Nat
  nBytesPerCluster : Nat
  fatEntrySecter : Nat
  rootDirectoryEntrySecter : Nat
  dataEntrySecter : Nat
  secterData : Bytes
  secterIndex : Nat

/-- `FILE_CONTEXT`, without its time stamps. -/
structure FileContext where
  szName : Bytes
  bLongFilename : Bool
  bFile : Bool
  bDirectory : Bool
  bVolume : Bool
  dirEntryIndex : Nat
  attributes : UInt8
  firstLogicalClusterHi : Nat
  firstLogicalCluster : Nat
  fileSize : Nat

/-- `FAT_FILE_INFO`, without the open attribute, which nothing reads. -/
structure FatFileInfo where
  isOpened : Bool
  seekPos : Nat
  cluster : Nat
  clusterSeq : Nat
  directory : FileContext
  fat : Nat

/-- `FAT_BROWSE_HANDLE`. -/
structure BrowseHandle where
  directoryIndex : Nat
  hFat : Nat

/-- The allocations of `malloc` that have not been freed. An address is not used again, so a
pointer says which allocation it came from. -/
structure Heap where
  next : Nat
  volumes : Nat → Option VolumeInfo
  files : Nat → Option FatFileInfo

/-- A heap before the first allocation. -/
def Heap.empty : Heap := ⟨1, fun _ => none, fun _ => none⟩

/-- `malloc` of a file record. -/
def Heap.allocFile (heap : Heap) (file : FatFileInfo) : Nat × Heap :=
  (heap.next, { heap with next := heap.next + 1
                          files := Function.update heap.files heap.next (some file) })

/-- The new record is at its address. -/
theorem Heap.allocFile_files (heap : Heap) (file : FatFileInfo) :
    (heap.allocFile file).2.files heap.next = some file := by simp [Heap.allocFile]

/-- `malloc` of a volume record. -/
def Heap.allocVolume (heap : Heap) (volume : VolumeInfo) : Nat × Heap :=
  (heap.next, { heap with next := heap.next + 1
                          volumes := Function.update heap.volumes heap.next (some volume) })

/-- Write through a volume pointer. -/
def Heap.setVolume (heap : Heap) (pVol : Nat) (volume : VolumeInfo) : Heap :=
  { heap with volumes := Function.update heap.volumes pVol (some volume) }

/-- Write through a file pointer. -/
def Heap.setFile (heap : Heap) (hFile : Nat) (file : FatFileInfo) : Heap :=
  { heap with files := Function.update heap.files hFile (some file) }

/-- `free` of a file record. -/
def Heap.freeFile (heap : Heap) (hFile : Nat) : Heap :=
  { heap with files := Function.update heap.files hFile none }

/-- `free` of a volume record. -/
def Heap.freeVolume (heap : Heap) (pVol : Nat) : Heap :=
  { heap with volumes := Function.update heap.volumes pVol none }

end SoundBoard.Fat
