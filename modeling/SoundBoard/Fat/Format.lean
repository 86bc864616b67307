import SoundBoard.Lib.Memory

/-!
# The FAT format

Where the bytes of a file lie on a card with one FAT16 or FAT32 partition and sectors of 512
bytes, as the format defines it. Nothing here is taken from the library: sector and cluster
numbers are unbounded, and no entry of the table is ever used with its reserved bits.
-/

namespace SoundBoard.Fat

open SoundBoard.Lib

/-- The 16-bit field at an offset of a block. -/
def le16 (block : Bytes) (offset : Nat) : Nat := word16 (block offset) (block (offset + 1))

/-- The 32-bit field at an offset of a block. -/
def le32 (block : Bytes) (offset : Nat) : Nat :=
  word32 (block offset) (block (offset + 1)) (block (offset + 2)) (block (offset + 3))

/-- The first cluster of the file of a directory entry. -/
def firstCluster (entry : Bytes) : Nat := le16 entry 20 * 65536 + le16 entry 26

/-- The size of the file of a directory entry. -/
def fileSize (entry : Bytes) : Nat := le32 entry 28

/-- The parts of a partition that a file is read from. -/
structure Layout where
  /-- Entries of the table are 32 bits wide, and otherwise 16. -/
  fat32 : Bool
  /-- The first sector of the first file allocation table. -/
  table : Nat
  /-- The first sector of the first cluster, which has number 2. -/
  data : Nat
  /-- Number of sectors of a cluster. -/
  perCluster : Nat

/-- The layout of the first partition: its type and its place stand in the partition table, and
the rest in its boot sector. -/
def layoutOf (image : Nat → Bytes) : Layout :=
  let start := le32 (image 0) 0x1C6
  let boot := image start
  let fat32 := image 0 0x1C2 = 0x0B
  let tableSize := if fat32 then le32 boot 0x24 else le16 boot 0x16
  { fat32
    table := start + le16 boot 0x0E
    data := start + le16 boot 0x0E + (boot 0x10).toNat * tableSize + (le16 boot 0x11 * 32 + 511) / 512
    perCluster := (boot 0x0D).toNat }

namespace Layout

variable (l : Layout) (image : Nat → Bytes)

/-- Bytes of an entry of the table. -/
def entrySize : Nat := if l.fat32 then 4 else 2

/-- The sector of the table with the entry of a cluster. -/
def entrySecter (cluster : Nat) : Nat := l.table + cluster * l.entrySize / 512

/-- The entry of a cluster: 16 bits, or the low 28 of 32 bits. -/
def entry (cluster : Nat) : Nat :=
  let block := image (l.entrySecter cluster)
  let offset := cluster * l.entrySize % 512
  if l.fat32 then le32 block offset % 0x10000000 else le16 block offset

/-- The mark of a bad cluster. Larger entries end a chain. -/
def badCluster : Nat := if l.fat32 then 0xFFFFFF7 else 0xFFF7

/-- The clusters of a chain. -/
def cluster (first : Nat) : Nat → Nat
  | 0 => first
  | j + 1 => l.entry image (cluster first j)

/-- The first sector of a cluster. -/
def secter (cluster : Nat) : Nat := l.data + (cluster - 2) * l.perCluster

/-- The sector of a block of 512 bytes of a file. -/
def blockSecter (first i : Nat) : Nat :=
  l.secter (l.cluster image first (i / l.perCluster)) + i % l.perCluster

/-- A byte of a file. -/
def fileByte (first n : Nat) : UInt8 := image (l.blockSecter image first (n / 512)) (n % 512)

/-- Bytes of a cluster. -/
def clusterBytes : Nat := 512 * l.perCluster

/-- A well-formed file: its chain is as long as its size needs, without a cycle, and lies on a
card whose sectors have 32-bit numbers. -/
structure WellFormed (first size : Nat) : Prop where
  range : size < 4294967296
  positive : 0 < l.perCluster
  data : ∀ j, j * l.clusterBytes < size →
    2 ≤ l.cluster image first j ∧ l.cluster image first j < l.badCluster
  acyclic : ∀ i j, i * l.clusterBytes < size → j * l.clusterBytes < size →
    l.cluster image first i = l.cluster image first j → i = j
  fits : ∀ j, j * l.clusterBytes < size →
    l.entrySecter (l.cluster image first j) < 4294967296 ∧
      l.secter (l.cluster image first j) + l.perCluster ≤ 4294967296

variable {l image}

/-- A cluster of a well-formed file has a 28-bit number. -/
theorem WellFormed.cluster_lt {first size j : Nat} (file : l.WellFormed image first size)
    (needed : j * l.clusterBytes < size) : l.cluster image first j < 0x10000000 := by
  have last := (file.data j needed).2
  simp only [badCluster] at last
  split at last <;> omega

/-- The beginning of a well-formed file is one. -/
theorem WellFormed.shrink {first size part : Nat} (file : l.WellFormed image first size)
    (order : part ≤ size) : l.WellFormed image first part where
  range := Nat.lt_of_le_of_lt order file.range
  positive := file.positive
  data j needed := file.data j (Nat.lt_of_lt_of_le needed order)
  acyclic i j needed needed' := file.acyclic i j (Nat.lt_of_lt_of_le needed order)
    (Nat.lt_of_lt_of_le needed' order)
  fits j needed := file.fits j (Nat.lt_of_lt_of_le needed order)

/-- The cluster of a block is one that the file needs. -/
theorem block_needed {size i : Nat} (inside : 512 * i < size) :
    i / l.perCluster * l.clusterBytes < size := by
  have whole := Nat.div_mul_le_self i l.perCluster
  calc i / l.perCluster * (512 * l.perCluster)
      = 512 * (i / l.perCluster * l.perCluster) := by ring
    _ ≤ 512 * i := Nat.mul_le_mul_left 512 whole
    _ < size := inside

end Layout

/-! ## Small cards -/

/-- A block with some fields, and zero elsewhere. -/
def blockOf (fields : List (Nat × List UInt8)) : Bytes := fun i =>
  (fields.findSome? fun (offset, bytes) => if offset ≤ i then bytes[i - offset]? else none).getD 0

/-- A FAT32 card with some sectors, and zero elsewhere. Its table begins in sector 2, and cluster
`n` is sector `513 + n`; the root directory is cluster 2. -/
def fat32Card (sectors : List (Nat × Bytes)) : Nat → Bytes := fun n =>
  (List.lookup n ((0, blockOf [(0x1C2, [0x0B]), (0x1C6, [1])]) ::
    (1, blockOf [(0x0B, [0, 2, 1, 1, 0, 1]), (0x24, [1, 2])]) :: sectors)).getD fun _ => 0

/-- The checksum of a short name that stands in the pieces of its long name. -/
def shortChecksum (short : List UInt8) : UInt8 :=
  short.foldl (fun sum c => (if sum % 2 = 1 then 0x80 else 0) + sum / 2 + c) 0

/-- The directory entry with one piece of a long name of ASCII characters: 13 units, the zero
unit behind the last character, and 0xFFFF behind that. -/
def longNameEntry (name : List UInt8) (checksum : UInt8) (order : Nat) (last : Bool) :
    List UInt8 :=
  let unit := fun i =>
    if i < name.length then [name.getD i 0, 0] else if i = name.length then [0, 0] else [0xFF, 0xFF]
  let units := fun start count => (List.range count).flatMap fun i => unit (13 * (order - 1) + start + i)
  [UInt8.ofNat order + if last then 0x40 else 0] ++ units 0 5 ++ [0x0F, 0, checksum] ++ units 5 6 ++
    [0, 0] ++ units 11 2

/-- The directory entries with a long name, its last piece first. -/
def longNameEntries (name short : List UInt8) : List UInt8 :=
  let pieces := (name.length + 12) / 13
  (List.range pieces).flatMap fun i =>
    longNameEntry name (shortChecksum short) (pieces - i) (i = 0)

/-- The directory entry of a file, with its eleven bytes of short name. -/
def fileEntry (short : List UInt8) (cluster : UInt8) (size : List UInt8) : List UInt8 :=
  short ++ [0x20, 0, 0, 0, 0, 0, 0, 0, 0, 0, 0, 0, 0, 0, 0, cluster, 0] ++ size

/-- A file of two clusters of one sector is well formed when the clusters are. -/
theorem Layout.wellFormed_of_two {l : Layout} {image : Nat → Bytes} {first : Nat}
    (bytes : l.perCluster = 1)
    (clusters : ∀ j < 2, 2 ≤ l.cluster image first j ∧ l.cluster image first j < l.badCluster ∧
      l.entrySecter (l.cluster image first j) < 4294967296 ∧
      l.secter (l.cluster image first j) + 1 ≤ 4294967296)
    (apart : l.cluster image first 0 ≠ l.cluster image first 1) :
    l.WellFormed image first 1024 := by
  have two {j : Nat} (needed : j * l.clusterBytes < 1024) : j = 0 ∨ j = 1 := by
    rw [Layout.clusterBytes, bytes] at needed
    omega
  refine ⟨by decide, by omega, fun j needed => ?_, fun i j needed needed' same => ?_,
    fun j needed => ?_⟩
  · obtain ⟨low, high, _⟩ := clusters j (by rcases two needed with rfl | rfl <;> decide)
    exact ⟨low, high⟩
  · rcases two needed with rfl | rfl <;> rcases two needed' with rfl | rfl
    · rfl
    · exact absurd same apart
    · exact absurd same.symm apart
    · rfl
  · rw [bytes]
    exact (clusters j (by rcases two needed with rfl | rfl <;> decide)).2.2

end SoundBoard.Fat
