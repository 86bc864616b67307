import SoundBoard.Fat.Types

/-!
# FatInternal.c

Sector reads through the one-sector cache of a volume, the walk along the cluster chain, the
entries of the root directory, and the mount. All sector and cluster numbers are 32-bit
unsigned words, so every sum, difference and product is a residue.
-/

namespace SoundBoard.Fat

open SoundBoard.Lib

/-- `CLUSTER_TYPE`. -/
inductive ClusterType where
  | unused
  | reserved
  | bad
  | lastInfile
  | nextInfile
  deriving DecidableEq, Repr

/-- `PARTITION_FAT16`. -/
def partitionFat16 : Nat := 6

/-- `PARTITION_FAT32`. -/
def partitionFat32 : Nat := 11

/-- The classification that both FAT widths make, on an entry already masked to its width:
the reserved values are the sixteen largest. -/
def clusterTypeOf (size entry : Nat) : ClusterType :=
  if 0 < entry ∧ entry < size - 16 then .nextInfile
  else if size - 8 ≤ entry then .lastInfile
  else if entry = 0 then .unused
  else if entry ≤ size - 10 then .reserved
  else .bad

/-- `fat16ClusterType`, on the low 16 bits. -/
def fat16ClusterType (fat : Nat) : ClusterType := clusterTypeOf 0x10000 (fat % 0x10000)

/-- `fat32ClusterType`, on the low 28 bits. -/
def fat32ClusterType (fat : Nat) : ClusterType := clusterTypeOf 0x10000000 (fat % 0x10000000)

/-- The index that says that the cache holds no sector, `-1` as an unsigned word. -/
def noSecter : Nat := 4294967295

/-- `fatReadSecter`: read a sector unless the cache holds it. -/
def fatReadSecter (vol : VolumeInfo) (nSecter : Nat) : Bool × VolumeInfo :=
  if nSecter ≠ vol.secterIndex then
    let answer := vol.readBlock512.read vol.calls nSecter
    (answer.1, { vol with calls := vol.calls + 1
                          secterData := answer.2
                          secterIndex := if answer.1 then nSecter else noSecter })
  else (true, vol)

/-- `nFatEntrySize`. -/
def fatEntrySize (vol : VolumeInfo) : Nat := if vol.partitionType = partitionFat32 then 4 else 2

/-- The FAT entry of a cluster in the cached sector of the table. -/
def fatEntryValue (vol : VolumeInfo) (thisCluster : Nat) : Nat :=
  let offset := thisCluster % (vol.bpbBytsPerSec / fatEntrySize vol) * fatEntrySize vol
  let byte := drop vol.secterData offset
  if vol.partitionType = partitionFat32 then word32 (byte 0) (byte 1) (byte 2) (byte 3)
  else word16 (byte 0) (byte 1)

/-- The sector of the table that holds the FAT entry of a cluster. -/
def fatEntrySecterOf (vol : VolumeInfo) (thisCluster : Nat) : Nat :=
  (vol.fatEntrySecter + thisCluster * fatEntrySize vol % 4294967296 / vol.bpbBytsPerSec) %
    4294967296

/-- `fatNextCluster`: the successor of a cluster, or 0. The entry is returned unmasked, and a
failed read returns the local variable without having assigned it. -/
def fatNextCluster (vol : VolumeInfo) (thisCluster : Nat) : Nat × VolumeInfo :=
  let answer := fatReadSecter vol (fatEntrySecterOf vol thisCluster)
  let vol := answer.2
  if answer.1 then
    let nextCluster := fatEntryValue vol thisCluster
    let clusterType :=
      if vol.partitionType = partitionFat32 then fat32ClusterType nextCluster
      else fat16ClusterType nextCluster
    if clusterType ≠ .nextInfile ∧ clusterType ≠ .lastInfile then (0, vol)
    else (nextCluster, vol)
  else (vol.readBlock512.stack vol.calls, vol)

/-- `fatFindDirectory`: the 32 bytes of an entry of the root directory, or `NULL`. -/
def fatFindDirectory (vol : VolumeInfo) (nDirectoryIndex : Nat) : Option Bytes × VolumeInfo :=
  let position := 32 * nDirectoryIndex % 4294967296
  let nSecter := (vol.rootDirectoryEntrySecter + position / vol.bpbBytsPerSec) % 4294967296
  let answer := fatReadSecter vol nSecter
  (if answer.1 then some (drop answer.2.secterData (position % answer.2.bpbBytsPerSec)) else none,
    answer.2)

/-- `fatIsLastDir`. -/
def fatIsLastDir (dir : Bytes) : Bool := dir 0 = 0

/-- `fatIsUnusedDir`. -/
def fatIsUnusedDir (dir : Bytes) : Bool := dir 0 = 0xE5

/-- `szTest` of `fatIsValidDir`: characters with which no entry begins. -/
def invalidDirChars : List UInt8 :=
  [0x00, 0xE5, 0x22, 0x2A, 0x2B, 0x2C, 0x2E, 0x2F, 0x3A, 0x3B, 0x3C, 0x3E, 0x3F, 0x5B, 0x5C, 0x5D,
    0x7C]

/-- `fatIsValidDir`. -/
def fatIsValidDir (dir : Bytes) : Bool := !invalidDirChars.contains (dir 0)

/-- The little-endian 16-bit number at an offset of the boot sector. -/
def bootWord (szBlock : Bytes) (offset : Nat) : Nat := word16 (szBlock offset) (szBlock (offset + 1))

/-- `fatArray2Value` on four bytes: the uninitialised start value is shifted out. -/
def fatArray2Value (szBlock : Bytes) (offset : Nat) : Nat :=
  word32 (szBlock offset) (szBlock (offset + 1)) (szBlock (offset + 2)) (szBlock (offset + 3))

/-- The part of `fatMount` that fills the volume record from the volume's boot sector. -/
def volumeOfBoot (device : Device) (partitionType firstSection : Nat) (szBlock : Bytes) :
    VolumeInfo :=
  let bytsPerSec := bootWord szBlock 0x0B
  let rsvdSecCnt := bootWord szBlock 0x0E
  let numFATs := (szBlock 0x10).toNat
  let rootEntCnt := bootWord szBlock 0x11
  let fatSz :=
    if partitionType = partitionFat32 then fatArray2Value szBlock 0x24 else bootWord szBlock 0x16
  let fatEntrySecter := (firstSection + rsvdSecCnt) % 4294967296
  let rootDirectoryEntrySecter := (fatEntrySecter + numFATs * fatSz) % 4294967296
  { readBlock512 := device
    calls := 2
    partitionType
    bMount := true
    partitionStartSecter := firstSection
    bpbBytsPerSec := bytsPerSec
    bpbSecPerCluster := (szBlock 0x0D).toNat
    bpbRsvdSecCnt := rsvdSecCnt
    bpbNumFATs := numFATs
    bpbRootEntCnt := rootEntCnt
    bpbFATSz := fatSz
    nBytesPerCluster := bytsPerSec * (szBlock 0x0D).toNat
    fatEntrySecter
    rootDirectoryEntrySecter
    dataEntrySecter :=
      (rootDirectoryEntrySecter + (rootEntCnt * 32 + (bytsPerSec - 1)) / bytsPerSec) % 4294967296
    secterData := fun _ => 0
    secterIndex := noSecter }

/-- `fatMount`: the partition table, then the boot sector of the first partition. -/
def fatMount (device : Device) : Option VolumeInfo :=
  let table := device.read 0 0
  if table.1 then
    let partitionType := (table.2 0x01C2).toNat
    if partitionType = partitionFat16 ∨ partitionType = partitionFat32 then
      let firstSection := fatArray2Value table.2 (0x1BE + 8)
      let boot := device.read 1 firstSection
      if boot.1 then
        let vol := volumeOfBoot device partitionType firstSection boot.2
        if vol.bpbBytsPerSec = mySecterSize then some vol else none
      else none
    else none
  else none

/-- Number of times that `fatMountSdcard` initialises the card, `nMaxTry`. -/
def maxTry : Nat := 10

/-- `fatMountSdcard`, given the results of its `SDLIB_Init` calls: the volume pointer, or
`NULL`. A volume that does not mount is freed again. -/
def fatMountSdcard (sdlibInit : Nat → Bool) (device : Device) (heap : Heap) : Nat × Heap :=
  if (List.range maxTry).any sdlibInit then
    match fatMount device with
    | some vol => heap.allocVolume vol
    | none => (0, { heap with next := heap.next + 1 })
  else (0, heap)

end SoundBoard.Fat
