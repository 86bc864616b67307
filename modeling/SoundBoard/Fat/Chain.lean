import SoundBoard.Fat.Card
import SoundBoard.Fat.Format

/-!
# Files as the library reads them

The library's walk along a cluster chain, compared with the format. The library takes an entry
of a FAT32 table with its four reserved bits, and takes no link to one of the last sixteen
cluster numbers; where neither matters (`Followed`), a read of a block of 512 bytes or of its
beginning returns the bytes that the format says.
-/

namespace SoundBoard.Fat

open SoundBoard.Lib

/-- A volume record whose fields are those of a layout, as 32-bit words. -/
structure Matches (geometry : VolumeInfo) (l : Layout) : Prop where
  mounted : geometry.bMount = true
  bytes : geometry.bpbBytsPerSec = 512
  perCluster : geometry.bpbSecPerCluster = l.perCluster
  clusterBytes : geometry.nBytesPerCluster = l.clusterBytes
  width : decide (geometry.partitionType = partitionFat32) = l.fat32
  table : geometry.fatEntrySecter = l.table % 4294967296
  data : geometry.dataEntrySecter = l.data % 4294967296

/-- A mount takes the layout from the image. -/
theorem fatMount_matches {device : Device} {image : Nat → Bytes} {geometry : VolumeInfo}
    (holds : device.Holds image) (mount : fatMount device = some geometry) :
    Matches geometry (layoutOf image) := by
  simp only [fatMount, holds 0 0, holds 1, ↓reduceIte] at mount
  split at mount
  · split at mount
    · rename_i type bytes
      obtain rfl := Option.some.inj mount
      have secter : bootWord (image (fatArray2Value (image 0) (0x1BE + 8))) 0x0B = 512 := bytes
      have width : decide ((image 0 0x1C2).toNat = partitionFat32) =
          decide (image 0 0x1C2 = 0x0B) :=
        decide_eq_decide.mpr ⟨fun same => UInt8.toNat_inj.mp same, fun same => by rw [same]; rfl⟩
      refine ⟨rfl, bytes, rfl, ?_, width, rfl, ?_⟩
      · simp only [volumeOfBoot, secter]
        rfl
      · have size : (if (image 0 0x1C2).toNat = partitionFat32 then
            fatArray2Value (image (fatArray2Value (image 0) (0x1BE + 8))) 0x24
          else bootWord (image (fatArray2Value (image 0) (0x1BE + 8))) 0x16) =
            if image 0 0x1C2 = 0x0B then le32 (image (le32 (image 0) 0x1C6)) 0x24
            else le16 (image (le32 (image 0) 0x1C6)) 0x16 :=
          if_congr (decide_eq_decide.mp width) rfl rfl
        simp only [volumeOfBoot, secter, size, layoutOf, Nat.mod_add_mod]
        rfl
    · contradiction
  · contradiction

/-! ## Links -/

/-- Number of values that an entry of the table can have. -/
def Layout.entryRange (l : Layout) : Nat := if l.fat32 then 0x10000000 else 0x10000

/-- The first cluster number to which the library follows no link. -/
def Layout.firstReserved (l : Layout) : Nat := l.entryRange - 16

/-- A number with which the library reaches a cluster of a file: it has the cluster's low bits,
and addresses its sectors and, where another link is needed, the sector of its entry. -/
structure Reaches (image : Nat → Bytes) (geometry : VolumeInfo) (l : Layout) (first size j : Nat)
    (thisCluster : Nat) : Prop where
  low : thisCluster % l.entryRange = l.cluster image first j
  secter : clusterSecter geometry thisCluster = l.secter (l.cluster image first j)
  entry : (j + 1) * l.clusterBytes < size →
    fatEntrySecterOf geometry thisCluster = l.entrySecter (l.cluster image first j)

/-- Every link that a file needs is one that the library follows: its entry is none of the
reserved numbers, and reaches the cluster with the four bits that are not part of it. -/
def Followed (image : Nat → Bytes) (geometry : VolumeInfo) (l : Layout) (first size : Nat) : Prop :=
  ∀ j, (j + 1) * l.clusterBytes < size →
    l.cluster image first (j + 1) < l.firstReserved ∧
      Reaches image geometry l first size (j + 1)
        (fatEntry image geometry (l.cluster image first j))

variable {image : Nat → Bytes} {geometry vol : VolumeInfo} {l : Layout} {first size : Nat}

/-- A masked entry is smaller than the range of entries. -/
theorem Layout.badCluster_le (l : Layout) : l.badCluster < l.entryRange := by
  simp only [Layout.badCluster, Layout.entryRange]
  split <;> decide

/-- A cluster's own number reaches it. -/
theorem Layout.WellFormed.reaches (file : l.WellFormed image first size)
    (matched : Matches geometry l) {j : Nat} (needed : j * l.clusterBytes < size) :
    Reaches image geometry l first size j (l.cluster image first j) := by
  have small := file.cluster_lt needed
  obtain ⟨low, high⟩ := file.data j needed
  obtain ⟨table, data⟩ := file.fits j needed
  have positive := file.positive
  refine ⟨Nat.mod_eq_of_lt (Nat.lt_trans high l.badCluster_le), ?_, fun _ => ?_⟩
  · simp only [clusterSecter, matched.perCluster, matched.data]
    simp only [Layout.secter] at data ⊢
    rw [show (l.cluster image first j + 4294967294) % 4294967296 = l.cluster image first j - 2 by
      omega]
    generalize (l.cluster image first j - 2) * l.perCluster = offset at data ⊢
    omega
  · have size : fatEntrySize geometry = l.entrySize := by
      simp only [fatEntrySize, Layout.entrySize, ← matched.width, decide_eq_true_eq]
    have width : l.entrySize ≤ 4 := by
      simp only [Layout.entrySize]
      split <;> decide
    have bytes := Nat.mul_le_mul (Nat.le_of_lt small) width
    simp only [fatEntrySecterOf, size, matched.table, matched.bytes]
    simp only [Layout.entrySecter] at table ⊢
    rw [Nat.mod_eq_of_lt (show l.cluster image first j * l.entrySize < 4294967296 by omega)]
    generalize l.cluster image first j * l.entrySize / 512 = offset at table ⊢
    omega

/-- The entry that is found with a number that reaches a cluster is the cluster's. -/
theorem Reaches.fatEntry {j thisCluster : Nat} (file : l.WellFormed image first size)
    (matched : Matches geometry l) (needed : (j + 1) * l.clusterBytes < size)
    (reaches : Reaches image geometry l first size j thisCluster) :
    fatEntry image geometry thisCluster =
      Fat.fatEntry image geometry (l.cluster image first j) := by
  have before : j * l.clusterBytes < size :=
    Nat.lt_of_le_of_lt (Nat.mul_le_mul_right _ (Nat.le_succ j)) needed
  have own := file.reaches matched before
  have secter := (reaches.entry needed).trans (own.entry needed).symm
  have width := matched.width
  have low := reaches.low
  have offset : thisCluster % (512 / fatEntrySize geometry) =
      l.cluster image first j % (512 / fatEntrySize geometry) := by
    simp only [fatEntrySize, Layout.entryRange, ← width, decide_eq_true_eq] at low ⊢
    split at low <;> rename_i type <;> simp only [type, ↓reduceIte] <;> omega
  simp only [Fat.fatEntry, fatEntryValue, VolumeInfo.cache, secter, fatEntrySize,
    matched.bytes] at offset ⊢
  rw [offset]

/-- The entry of a cluster, without the bits that are not part of it, is the next cluster. -/
theorem fatEntry_mod {j : Nat} (file : l.WellFormed image first size) (matched : Matches geometry l)
    (needed : (j + 1) * l.clusterBytes < size) :
    fatEntry image geometry (l.cluster image first j) % l.entryRange =
      l.cluster image first (j + 1) := by
  have before : j * l.clusterBytes < size :=
    Nat.lt_of_le_of_lt (Nat.mul_le_mul_right _ (Nat.le_succ j)) needed
  have secter := (file.reaches matched before).entry needed
  have width := matched.width
  simp only [fatEntry, fatEntryValue, VolumeInfo.cache, secter, fatEntrySize, matched.bytes,
    Layout.cluster, Layout.entry, Layout.entrySize, Layout.entryRange, ← width,
    decide_eq_true_eq, drop_apply]
  generalize l.cluster image first j = cluster
  split
  · rw [show cluster % (512 / 4) * 4 = cluster * 4 % 512 by omega]
    rfl
  · rw [show cluster % (512 / 2) * 2 = cluster * 2 % 512 by omega]
    exact Nat.mod_eq_of_lt (word16_lt _ _)

/-- A step along the chain of a file whose links the library follows. -/
theorem Reaches.next {j thisCluster : Nat} (file : l.WellFormed image first size)
    (matched : Matches geometry l) (followed : Followed image geometry l first size)
    (needed : (j + 1) * l.clusterBytes < size)
    (reaches : Reaches image geometry l first size j thisCluster) :
    nextCluster image geometry thisCluster ≠ 0 ∧
      Reaches image geometry l first size (j + 1) (nextCluster image geometry thisCluster) := by
  obtain ⟨inside, onward⟩ := followed j needed
  have same := reaches.fatEntry file matched needed
  have masked := fatEntry_mod file matched needed
  have low := (file.data (j + 1) needed).1
  have width := matched.width
  have entry : nextCluster image geometry thisCluster =
      Fat.fatEntry image geometry (l.cluster image first j) := by
    simp only [nextCluster, same]
    rw [if_neg]
    simp only [Layout.firstReserved, Layout.entryRange, ← width, decide_eq_true_eq] at inside masked
    split at masked <;> rename_i type <;> simp only [type, ↓reduceIte] at inside ⊢
    · simp [fat32ClusterType, clusterTypeOf, masked, inside, show 0 < l.cluster image first (j + 1) by omega]
    · simp [fat16ClusterType, clusterTypeOf, masked, inside, show 0 < l.cluster image first (j + 1) by omega]
  rw [entry]
  refine ⟨fun none => ?_, onward⟩
  rw [none, Nat.zero_mod] at masked
  omega

/-! ## Blocks -/

variable {n : Nat}

/-- A finished loop over sectors does nothing more. -/
theorem secterLoop_done (secters physicalSecter : Nat) {st : ReadState}
    (done : n ≤ st.nReadCount) : secterLoop n secters physicalSecter st = st := by
  cases secters with
  | zero => rfl
  | succ secters => exact if_neg fun more => absurd more.1 (Nat.not_lt.mpr done)

/-- The loop over the sectors of a cluster skips those before the position. -/
theorem secterLoop_skip (rest : Nat) :
    ∀ (skipped physicalSecter : Nat) {st : ReadState}, st.vol.bpbBytsPerSec = 512 →
      st.nReadCount < n → st.bSuccess = true → st.pos = 512 * skipped →
      physicalSecter < 4294967296 →
      secterLoop n (skipped + rest) physicalSecter st =
        secterLoop n rest ((physicalSecter + skipped) % 4294967296) { st with pos := 0 }
  | 0, physicalSecter, st, _, _, _, pos, range => by
    have here : st = { st with pos := 0 } := by
      rw [← show st.pos = 0 by omega]
    rw [← here, Nat.zero_add, Nat.add_zero, Nat.mod_eq_of_lt range]
  | skipped + 1, physicalSecter, st, bytes, more, ok, pos, range => by
    have behind : 512 ≤ st.pos := by omega
    have onward : ((physicalSecter + 1) % 4294967296 + skipped) % 4294967296 =
        (physicalSecter + (skipped + 1)) % 4294967296 := by omega
    rw [show skipped + 1 + rest = skipped + rest + 1 by omega, secterLoop, if_pos ⟨more, ok⟩]
    simp only [bytes, behind, ↓reduceIte]
    rw [secterLoop_skip rest skipped, onward]
    · exact bytes
    · exact more
    · exact ok
    · simp only [pos]
      omega
    · exact Nat.mod_lt _ (by decide)

/-- The loop over the sectors of a cluster reads a block, or its beginning, from the sector at
the position. -/
theorem secterLoop_read (secters physicalSecter : Nat) (st : ReadState) {vol : VolumeInfo}
    (bytes : st.vol.bpbBytsPerSec = 512) (bytes' : vol.bpbBytsPerSec = 512)
    (ok : st.bSuccess = true) (count : st.nReadCount = 0) (pos : st.pos = 0) (low : 0 < n)
    (high : n ≤ 512) (read : fatReadSecter st.vol physicalSecter = (true, vol)) :
    secterLoop n (secters + 1) physicalSecter st =
      { st with
        vol
        pBuffer := copyAt st.pBuffer 0 vol.secterData n
        nReadCount := n } := by
  have whole : drop vol.secterData 0 = vol.secterData := by
    funext i
    rw [drop_apply, Nat.zero_add]
  rw [secterLoop, if_pos ⟨by omega, ok⟩]
  simp only [bytes, pos, read, ReadState.copy, bytes', count, whole, show ¬512 ≤ 0 by decide,
    ↓reduceIte, Nat.sub_zero, Nat.zero_add, Nat.min_eq_right high]
  rw [secterLoop_done _ _ (Nat.le_refl n)]
  simp only [ok]

/-- A finished loop over clusters does nothing more. -/
theorem readLoop_done (fuel : Nat) {st : ReadState} (done : n ≤ st.nReadCount) :
    readLoop n fuel st = st := by
  cases fuel with
  | zero => rfl
  | succ fuel => exact if_neg fun more => absurd more.1 (Nat.not_lt.mpr done)

/-- The second loop of a read, at a sector of the cluster that can be read. -/
theorem readLoop_read {st : ReadState} {vol : VolumeInfo} {skipped : Nat}
    (bytes : st.vol.bpbBytsPerSec = 512) (bytes' : vol.bpbBytsPerSec = 512)
    (inside : skipped < st.vol.bpbSecPerCluster) (pos : st.pos = 512 * skipped)
    (count : st.nReadCount = 0) (ok : st.bSuccess = true) (low : 0 < n) (high : n ≤ 512)
    (read : fatReadSecter st.vol
      ((clusterSecter st.vol st.file.cluster + skipped) % 4294967296) = (true, vol)) :
    readLoop n n st =
      { st with
        vol
        pos := 0
        pBuffer := copyAt st.pBuffer 0 vol.secterData n
        nReadCount := n } := by
  have range : clusterSecter st.vol st.file.cluster < 4294967296 := Nat.mod_lt _ (by decide)
  obtain ⟨rest, split⟩ : ∃ rest, st.vol.bpbSecPerCluster = skipped + (rest + 1) :=
    ⟨st.vol.bpbSecPerCluster - skipped - 1, by omega⟩
  obtain ⟨fuel, rfl⟩ : ∃ fuel, n = fuel + 1 := ⟨n - 1, by omega⟩
  rw [readLoop, if_pos ⟨by rw [count]; exact low, ok⟩]
  simp only [split]
  rw [secterLoop_skip _ _ _ bytes (by rw [count]; exact low) ok pos range,
    secterLoop_read rest _ { st with pos := 0 } bytes bytes' ok count rfl low high read]
  simp only [Nat.lt_irrefl, ↓reduceIte]
  exact readLoop_done fuel (Nat.le_refl _)

/-- The library follows the links whose entries are clear of reserved bits and numbers. -/
theorem Layout.WellFormed.followed (file : l.WellFormed image first size)
    (matched : Matches geometry l) (clear : ∀ j, (j + 1) * l.clusterBytes < size →
      fatEntry image geometry (l.cluster image first j) = l.cluster image first (j + 1) ∧
        l.cluster image first (j + 1) < l.firstReserved) :
    Followed image geometry l first size := by
  intro j needed
  obtain ⟨same, below⟩ := clear j needed
  rw [same]
  exact ⟨below, file.reaches matched needed⟩

/-- An open file whose position is the start of a block: the cluster in its record is the one of
the block, or the one before. -/
structure AtBlock (image : Nat → Bytes) (geometry : VolumeInfo) (l : Layout) (first size i : Nat)
    (info : FatFileInfo) : Prop where
  opened : info.isOpened = true
  seekPos : info.seekPos = 512 * i
  low : info.clusterSeq * l.perCluster ≤ i
  high : i ≤ (info.clusterSeq + 1) * l.perCluster
  reaches : Reaches image geometry l first size info.clusterSeq info.cluster

variable {i : Nat} {info : FatFileInfo}

/-- A file that has just been opened is at its first block. -/
theorem Layout.WellFormed.opened (file : l.WellFormed image first size)
    (matched : Matches geometry l) (hFat : Nat) {context : FileContext}
    (cluster : context.firstLogicalCluster = first) (content : 0 < size) :
    AtBlock image geometry l first size 0 (openedFile hFat context) :=
  ⟨rfl, rfl, Nat.le_of_eq (Nat.zero_mul _), Nat.zero_le _, by
    have own := file.reaches matched (show 0 * l.clusterBytes < size by omega)
    rw [openedFile, cluster]
    exact own⟩

/-- The position in the cluster of the record. -/
theorem AtBlock.pos (at_ : AtBlock image geometry l first size i info) (range : 512 * i < size)
    (file : l.WellFormed image first size) :
    toU32 ((info.seekPos : Int) - info.clusterSeq * l.clusterBytes) =
      512 * (i - info.clusterSeq * l.perCluster) := by
  have := file.range
  have low := at_.low
  have bytes : info.clusterSeq * l.clusterBytes = 512 * (info.clusterSeq * l.perCluster) := by
    simp only [Layout.clusterBytes]
    ring
  rw [at_.seekPos, ← Int.natCast_mul, bytes, toU32_of_fits _ (by omega) (by omega)]
  omega

/-- The file after the first loop of a read: its record has the cluster of the block. -/
structure AtCluster (image : Nat → Bytes) (geometry : VolumeInfo) (l : Layout)
    (first size i : Nat) (pBuffer : Bytes) (info : FatFileInfo) (st : ReadState) : Prop where
  card : OnCard image geometry st.vol
  file : st.file = { info with cluster := st.file.cluster, clusterSeq := i / l.perCluster }
  reaches : Reaches image geometry l first size (i / l.perCluster) st.file.cluster
  pos : st.pos = 512 * (i % l.perCluster)
  nReadCount : st.nReadCount = 0
  pBuffer : st.pBuffer = pBuffer
  bSuccess : st.bSuccess = true

/-- The first loop of a read, with one cluster to go. -/
theorem seekLoop_one (fuel : Nat) {st : ReadState} (ok : st.bSuccess = true)
    (full : st.vol.nBytesPerCluster = st.pos)
    (positive : 0 < st.nextCluster.vol.nBytesPerCluster) :
    seekLoop (fuel + 1) st = { st.nextCluster with pos := 0 } := by
  rw [seekLoop, if_pos ⟨Nat.le_of_eq full, ok⟩, full, Nat.sub_self]
  cases fuel with
  | zero => rfl
  | succ fuel => exact if_neg fun more => absurd more.1 (Nat.not_le.mpr positive)

/-- The state in which a read leaves its first loop. -/
def seekStart (vol : VolumeInfo) (info : FatFileInfo) (pBuffer : Bytes) : ReadState :=
  let pos := toU32 ((info.seekPos : Int) - info.clusterSeq * vol.nBytesPerCluster)
  let st : ReadState := ⟨vol, info, pos, 0, pBuffer, true⟩
  if info.seekPos / vol.nBytesPerCluster ≠ info.clusterSeq then seekLoop pos st else st

/-- The parts of a read. -/
theorem readFile_eq (vol : VolumeInfo) (info : FatFileInfo) (pBuffer : Bytes) (n : Nat) :
    readFile vol info pBuffer n =
      let st := readLoop n n (seekStart vol info pBuffer)
      if st.bSuccess then
        { st with file := { st.file with seekPos := (st.file.seekPos + n) % 4294967296 } }
      else st := rfl

/-- The first loop of a read does not look at the buffer. -/
theorem seekStart_onto (vol : VolumeInfo) (info : FatFileInfo) (pBuffer buffer : Bytes) :
    seekStart vol info buffer = { seekStart vol info pBuffer with pBuffer := buffer } := by
  simp only [seekStart]
  split
  · exact seekLoop_onto _ ⟨vol, info, _, 0, pBuffer, true⟩ buffer
  · rfl

/-- Whether a read succeeds, and what it does to the records, does not depend on the buffer. -/
theorem readFile_onto (vol : VolumeInfo) (info : FatFileInfo) (pBuffer buffer : Bytes) (n : Nat) :
    ∃ after, readFile vol info buffer n =
      { readFile vol info pBuffer n with pBuffer := after } := by
  obtain ⟨after, same⟩ := readLoop_onto n n (seekStart vol info pBuffer) buffer
  rw [readFile_eq, readFile_eq, seekStart_onto vol info pBuffer, same]
  dsimp only
  split
  · exact ⟨after, rfl⟩
  · exact ⟨after, rfl⟩

/-- What `Fat_FileRead` does to the heap does not depend on the buffer. -/
theorem fatFileRead_onto {heap after : Heap} {hFile : Nat} {pBuffer bytes : Bytes} {ok : Bool}
    (run : fatFileRead heap hFile pBuffer n = .ok (ok, bytes, after)) (buffer : Bytes) :
    ∃ bytes', fatFileRead heap hFile buffer n = .ok (ok, bytes', after) := by
  unfold fatFileRead at run ⊢
  split at run
  · rename_i none
    obtain ⟨rfl, _, rfl⟩ := Except.ok.inj run
    exact ⟨buffer, if_pos none⟩
  · rename_i some
    rw [if_neg some]
    split at run
    · contradiction
    · rename_i file _
      dsimp only
      split at run
      · rename_i detached
        obtain ⟨rfl, _, rfl⟩ := Except.ok.inj run
        exact ⟨buffer, if_pos detached⟩
      · rename_i attached
        rw [if_neg attached]
        split at run
        · contradiction
        · rename_i vol _
          split at run
          · rename_i closed
            obtain ⟨rfl, _, rfl⟩ := Except.ok.inj run
            exact ⟨buffer, if_pos closed⟩
          · rename_i opened
            rw [if_neg opened]
            split at run
            · contradiction
            · rename_i positive
              obtain ⟨after', same⟩ := readFile_onto vol file pBuffer buffer n
              obtain ⟨rfl, _, rfl⟩ := Except.ok.inj run
              rw [if_neg positive, same]
              exact ⟨after', rfl⟩

/-- The first loop of a read moves to the cluster of the block. -/
theorem AtBlock.seek (at_ : AtBlock image geometry l first size i info)
    (file : l.WellFormed image first size) (matched : Matches geometry l)
    (followed : Followed image geometry l first size) (card : OnCard image geometry vol)
    (inside : 512 * i < size) (pBuffer : Bytes) :
    AtCluster image geometry l first size i pBuffer info (seekStart vol info pBuffer) := by
  have bytes : vol.nBytesPerCluster = l.clusterBytes :=
    (card.field (·.nBytesPerCluster) fun _ _ => rfl).trans matched.clusterBytes
  have quotient : info.seekPos / l.clusterBytes = i / l.perCluster := by
    rw [at_.seekPos, Layout.clusterBytes, Nat.mul_div_mul_left _ _ (by decide)]
  have parts := Nat.div_add_mod' i l.perCluster
  simp only [seekStart, bytes, at_.pos inside file, quotient]
  by_cases here : i / l.perCluster = info.clusterSeq
  · rw [if_neg (not_not.mpr here)]
    have := at_.reaches
    rw [← here] at this
    refine ⟨card, ?_, this, ?_, rfl, rfl, rfl⟩
    · simp only [here]
    · simp only [← here]
      omega
  · have low := at_.low
    have high := at_.high
    have positive := file.positive
    have range := file.range
    -- the block is the first of the next cluster
    have next : i / l.perCluster = info.clusterSeq + 1 := by
      have up : i / l.perCluster ≤ info.clusterSeq + 1 := Nat.div_le_of_le_mul (by
        rwa [Nat.mul_comm])
      have down := (Nat.le_div_iff_mul_le positive).mpr low
      omega
    have first_ : i % l.perCluster = 0 ∧ i - info.clusterSeq * l.perCluster = l.perCluster := by
      rw [next] at parts
      rw [Nat.add_mul, Nat.one_mul] at parts high
      omega
    have needed : (info.clusterSeq + 1) * l.clusterBytes < size := by
      rw [← next]
      exact Layout.block_needed inside
    obtain ⟨some, reaches⟩ := at_.reaches.next file matched followed needed
    obtain ⟨vol', found, card'⟩ := card.next info.cluster
    have bytes' : vol'.nBytesPerCluster = l.clusterBytes :=
      (card'.field (·.nBytesPerCluster) fun _ _ => rfl).trans matched.clusterBytes
    obtain ⟨fuel, enough⟩ : ∃ fuel, 512 * l.perCluster = fuel + 1 :=
      ⟨512 * l.perCluster - 1, by omega⟩
    have step : (ReadState.nextCluster ⟨vol, info, 512 * l.perCluster, 0, pBuffer, true⟩) =
        ⟨vol', { info with
          cluster := nextCluster image geometry info.cluster
          clusterSeq := info.clusterSeq + 1 }, 512 * l.perCluster, 0, pBuffer, true⟩ := by
      simp only [ReadState.nextCluster, found, some, ↓reduceIte, ne_eq, not_false_eq_true,
        decide_true, Bool.and_self]
      have small := Nat.div_le_self i l.perCluster
      rw [Nat.mod_eq_of_lt (by omega)]
    rw [if_pos here, first_.2]
    nth_rewrite 1 [enough]
    rw [seekLoop_one _ rfl bytes (by rw [step, bytes', Layout.clusterBytes]; omega), step]
    rw [← next] at reaches
    refine ⟨card', ?_, reaches, ?_, rfl, rfl, rfl⟩
    · simp only [next]
    · simp only [first_.1]

/-- The second loop of a read, at a sector of the cluster. -/
theorem readLoop_block {st : ReadState} {skipped : Nat} (card : OnCard image geometry st.vol)
    (bytes : geometry.bpbBytsPerSec = 512) (inside : skipped < geometry.bpbSecPerCluster)
    (pos : st.pos = 512 * skipped) (count : st.nReadCount = 0) (ok : st.bSuccess = true)
    (low : 0 < n) (high : n ≤ 512) :
    ∃ vol, OnCard image geometry vol ∧ readLoop n n st =
      { st with
        vol
        pos := 0
        pBuffer := copyAt st.pBuffer 0
          (image ((clusterSecter geometry st.file.cluster + skipped) % 4294967296)) n
        nReadCount := n } := by
  have bytes' := (card.field (·.bpbBytsPerSec) fun _ _ => rfl).trans bytes
  have secters := card.field (·.bpbSecPerCluster) fun _ _ => rfl
  have address := card.field (clusterSecter · st.file.cluster) fun _ _ => rfl
  obtain ⟨calls, read⟩ := card.read
    ((clusterSecter geometry st.file.cluster + skipped) % 4294967296)
  have filled := card.fill calls ((clusterSecter geometry st.file.cluster + skipped) % 4294967296)
  rw [← address] at read filled
  refine ⟨_, filled, ?_⟩
  rw [readLoop_read bytes' ((filled.field (·.bpbBytsPerSec) fun _ _ => rfl).trans bytes)
    (by rwa [secters]) pos count ok low high read, address]
  rfl

/-- The second loop of a read, at the cluster of the block. -/
theorem AtCluster.read {pBuffer : Bytes} {st : ReadState} (file : l.WellFormed image first size)
    (matched : Matches geometry l) (inside : 512 * i < size) (low : 0 < n) (high : n ≤ 512)
    (at_ : AtCluster image geometry l first size i pBuffer info st) :
    ∃ vol, OnCard image geometry vol ∧ readLoop n n st =
      { st with
        vol
        pos := 0
        pBuffer := copyAt pBuffer 0 (image (l.blockSecter image first i)) n
        nReadCount := n } := by
  have within := (file.fits _ (Layout.block_needed inside)).2
  have before := Nat.mod_lt i file.positive
  have secter : (clusterSecter geometry st.file.cluster + i % l.perCluster) % 4294967296 =
      l.blockSecter image first i := by
    rw [at_.reaches.secter, Nat.mod_eq_of_lt (by omega)]
    rfl
  rw [← secter, ← at_.pBuffer]
  exact readLoop_block at_.card matched.bytes (by rwa [matched.perCluster]) at_.pos at_.nReadCount
    at_.bSuccess low high

/-- A read of a block of a file, or of its beginning, returns what the format says. -/
theorem fatFileRead_block {heap : Heap} {hFat hFile : Nat} (file : l.WellFormed image first size)
    (matched : Matches geometry l) (followed : Followed image geometry l first size)
    (mounted : heap.Mounted image geometry hFat) (volume : hFat ≠ 0) (some : hFile ≠ 0)
    (found : heap.files hFile = Option.some info) (fat : info.fat = hFat)
    (at_ : AtBlock image geometry l first size i info) (inside : 512 * i < size) (low : 0 < n)
    (high : n ≤ 512) (pBuffer : Bytes) :
    ∃ heap' info', fatFileRead heap hFile pBuffer n =
        .ok (true, copyAt pBuffer 0 (image (l.blockSecter image first i)) n, heap') ∧
      heap'.Mounted image geometry hFat ∧ heap'.files hFile = Option.some info' ∧
      info'.fat = hFat ∧
      (n = 512 → 512 * (i + 1) < size → AtBlock image geometry l first size (i + 1) info') := by
  obtain ⟨vol, here, card⟩ := mounted
  have atCluster := at_.seek file matched followed card inside pBuffer
  obtain ⟨vol', card', read⟩ := atCluster.read file matched inside low high
  have cluster : vol.nBytesPerCluster ≠ 0 := by
    rw [card.field (·.nBytesPerCluster) fun _ _ => rfl, matched.clusterBytes, Layout.clusterBytes]
    have := file.positive
    omega
  obtain ⟨_, record, reaches, _, _, _, ok⟩ := atCluster
  let info' : FatFileInfo := { info with
    seekPos := (512 * i + n) % 4294967296
    cluster := (seekStart vol info pBuffer).file.cluster
    clusterSeq := i / l.perCluster }
  have whole : readFile vol info pBuffer n =
      ⟨vol', info', 0, n, copyAt pBuffer 0 (image (l.blockSecter image first i)) n, true⟩ := by
    have seekPos : (seekStart vol info pBuffer).file.seekPos = 512 * i := by
      rw [record]
      exact at_.seekPos
    rw [readFile_eq, read]
    simp only [ok, ↓reduceIte, seekPos]
    rw [record]
  refine ⟨(heap.setFile hFile info').setVolume hFat vol', info', ?_,
    ⟨vol', Function.update_self _ _ _, card'⟩, Function.update_self _ _ _, fat, ?_⟩
  · rw [fatFileRead, if_neg some, found]
    dsimp only
    rw [fat, if_neg volume, here]
    dsimp only
    rw [if_neg (not_not.mpr at_.opened), if_neg cluster, whole]
  · intro full more
    have parts := Nat.div_add_mod' i l.perCluster
    have before := Nat.mod_lt i file.positive
    have range := file.range
    refine ⟨at_.opened, ?_, ?_, ?_, reaches⟩
    · change (512 * i + n) % 4294967296 = _
      rw [Nat.mod_eq_of_lt (by omega)]
      omega
    · change i / l.perCluster * l.perCluster ≤ i + 1
      omega
    · change i + 1 ≤ (i / l.perCluster + 1) * l.perCluster
      rw [Nat.add_mul, Nat.one_mul]
      omega

/-! ## Entries of the root directory -/

/-- A browse context with the fields of a directory entry. -/
structure OfEntry (image : Nat → Bytes) (geometry : VolumeInfo) (context : FileContext) : Prop where
  firstLogicalClusterHi : context.firstLogicalClusterHi =
    le16 (dirEntry image geometry context.dirEntryIndex) 20
  firstLogicalCluster : context.firstLogicalCluster =
    le16 (dirEntry image geometry context.dirEntryIndex) 26
  fileSize : context.fileSize = Fat.fileSize (dirEntry image geometry context.dirEntryIndex)

/-- The low half of a first cluster with a 16-bit number is all of it. -/
theorem OfEntry.cluster {context : FileContext} (fields : OfEntry image geometry context)
    (lowHalf : le16 (dirEntry image geometry context.dirEntryIndex) 20 = 0) :
    context.firstLogicalCluster =
      firstCluster (dirEntry image geometry context.dirEntryIndex) := by
  rw [firstCluster, lowHalf, Nat.zero_mul, Nat.zero_add]
  exact fields.firstLogicalCluster

/-- A pass over an entry finds the fields of the entry. -/
theorem browseShortEntry_done {index : Nat} {context context' : FileContext}
    {bLongFilename : Bool}
    (run : browseShortEntry (dirEntry image geometry index) index context bLongFilename =
      .done true context') : OfEntry image geometry context' := by
  simp only [browseShortEntry] at run
  split at run
  · split at run
    · simp at run
    · obtain ⟨_, rfl⟩ := BrowsePass.done.inj run
      exact ⟨rfl, rfl, rfl⟩
  · obtain ⟨_, rfl⟩ := BrowsePass.done.inj run
    exact ⟨rfl, rfl, rfl⟩

/-- A part of a long name ends no search with success. -/
theorem browseLongEntry_done {dir : Bytes} {context context' : FileContext} {orderValue : Int}
    {bLongFilename bFind : Bool}
    (run : browseLongEntry dir context orderValue bLongFilename = .ok (.done bFind context')) :
    bFind = false := by
  by_cases begins : orderValue = 0 <;> simp only [browseLongEntry, begins, ↓reduceIte] at run
  all_goals
    split at run
    · simp only [Except.ok.injEq, BrowsePass.done.injEq] at run
      exact run.1.symm
    · split at run <;> simp at run

/-- Only an entry that is not part of a long name ends a search with success. -/
theorem browseEntry_done {index : Nat} {context context' : FileContext} {orderValue : Int}
    {bLongFilename : Bool}
    (run : browseEntry (dirEntry image geometry index) index context orderValue bLongFilename =
      .ok (.done true context')) : OfEntry image geometry context' := by
  unfold browseEntry at run
  split at run
  · split at run
    · exact absurd (browseLongEntry_done run) (by decide)
    · exact browseShortEntry_done (Except.ok.inj run)
  · split at run <;> simp at run

/-- The browse loop finds the fields of an entry. -/
theorem browseLoop_entry :
    ∀ (fuel : Nat) {vol vol' : VolumeInfo} (index : Nat) {index' : Nat} (context : FileContext)
      {context' : FileContext} (orderValue : Int) (bLongFilename : Bool),
      OnCard image geometry vol →
      browseLoop fuel vol index context orderValue bLongFilename =
        .ok (true, index', context', vol') → OfEntry image geometry context'
  | 0, _, _, _, _, _, _, _, _, _, run => by contradiction
  | fuel + 1, vol, _, index, _, context, _, orderValue, bLongFilename, card, run => by
    obtain ⟨vol', found, card'⟩ := card.findDirectory ((index + 1) % 4294967296)
    simp only [browseLoop, found] at run
    split at run
    · contradiction
    · rename_i bFind context' pass
      simp only [Except.ok.injEq, Prod.mk.injEq] at run
      obtain ⟨rfl, _, rfl, _⟩ := run
      exact browseEntry_done pass
    · exact browseLoop_entry fuel _ _ _ _ card' run

/-- `Fat_FileBrowseNext` finds the fields of an entry. -/
theorem fatFileBrowseNext_entry {hFat : Nat} {heap heap' : Heap} {handle handle' : BrowseHandle}
    {context context' : FileContext} (mounted : heap.Mounted image geometry hFat)
    (here : handle.hFat = hFat)
    (run : fatFileBrowseNext heap handle context = .ok (true, handle', context', heap')) :
    OfEntry image geometry context' := by
  obtain ⟨vol, at_, card⟩ := mounted
  simp only [fatFileBrowseNext, here, at_] at run
  split at run
  · simp at run
  · split at run
    · obtain ⟨⟨bFind, index, entry, vol'⟩, loop, same⟩ := map_eq_ok run
      simp only [Prod.mk.injEq] at same
      obtain ⟨rfl, _, rfl, _⟩ := same
      exact browseLoop_entry indexFuel _ _ _ _ card loop
    · simp at run

/-- The search of `Fat_FileOpen` finds the fields of an entry. -/
theorem openLoop_entry (pFilename : Name) {hFat : Nat} :
    ∀ (fuel : Nat) {heap heap' : Heap} (handle : BrowseHandle) (context : FileContext)
      {context' : FileContext}, handle.hFat = hFat → heap.Mounted image geometry hFat →
      openLoop pFilename fuel heap handle context = .ok (some context', heap') →
        OfEntry image geometry context'
  | 0, _, _, _, _, _, _, _, run => by contradiction
  | fuel + 1, heap, _, handle, context, _, here, mounted, run => by
    have agree := fatFileBrowseNext_agree mounted mounted handle here context
    simp only [openLoop] at run
    split at run
    · contradiction
    · simp at run
    · rename_i handle' entry heap' browsed
      rw [browsed] at agree
      obtain ⟨_, _, same⟩ := agree.of_ok
      split at run
      · contradiction
      · obtain ⟨found, _⟩ := Prod.mk.inj (Except.ok.inj run)
        obtain rfl := Option.some.inj found
        exact fatFileBrowseNext_entry mounted here browsed
      · exact openLoop_entry pFilename fuel handle' entry same.volume same.left.mounted run

/-- A file that opens has the record of an entry of the root directory. -/
theorem fatFileOpen_entry {hFat hFile : Nat} {heap files : Heap} {pFilename : Name}
    (mounted : heap.Mounted image geometry hFat)
    (run : fatFileOpen heap hFat pFilename = .ok (hFile, files)) (some : hFile ≠ 0) :
    ∃ context, files.files hFile = Option.some (openedFile hFat context) ∧
      OfEntry image geometry context := by
  unfold fatFileOpen at run
  split at run
  · contradiction
  · obtain ⟨rfl, _⟩ := Prod.mk.inj (Except.ok.inj run)
    exact absurd rfl some
  · rename_i handle begun
    split at run
    · contradiction
    · obtain ⟨rfl, _⟩ := Prod.mk.inj (Except.ok.inj run)
      exact absurd rfl some
    · rename_i context heap' search
      obtain ⟨rfl, rfl⟩ := Prod.mk.inj (Except.ok.inj run)
      exact ⟨context, heap'.allocFile_files _,
        openLoop_entry pFilename indexFuel handle _ (fatFileBrowseBegin_handle begun) mounted search⟩

/-- The heap keeps the volume mounted. -/
theorem fatFileOpen_mounted {hFat hFile : Nat} {heap files : Heap} {pFilename : Name}
    (mounted : heap.Mounted image geometry hFat)
    (run : fatFileOpen heap hFat pFilename = .ok (hFile, files)) :
    files.Mounted image geometry hFat := by
  have agree := fatFileOpen_agree mounted mounted pFilename
  rw [run] at agree
  obtain ⟨_, _, both⟩ := agree.of_ok
  cases both with
  | none one two => exact one.mounted
  | found context one two => exact one.mounted

/-- Without a volume no file opens. -/
theorem fatFileOpen_volume {hFat hFile : Nat} {heap files : Heap} {pFilename : Name}
    (run : fatFileOpen heap hFat pFilename = .ok (hFile, files)) (some : hFile ≠ 0) : hFat ≠ 0 := by
  intro null
  simp [fatFileOpen, fatFileBrowseBegin, null, Ne.symm some] at run

/-! ## Small cards -/

/-- The volume of a small card. -/
def cardVolume (image : Nat → Bytes) : VolumeInfo :=
  volumeOfBoot (imageDevice image) partitionFat32 1 (image 1)

/-- A small card mounts. -/
theorem fat32Card_mount (sectors : List (Nat × Bytes)) :
    fatMount (imageDevice (fat32Card sectors)) = some (cardVolume (fat32Card sectors)) := by
  have table : fat32Card sectors 0 = blockOf [(0x1C2, [0x0B]), (0x1C6, [1])] := rfl
  have boot : fat32Card sectors 1 =
      blockOf [(0x0B, [0, 2, 1, 1, 0, 1]), (0x24, [1, 2])] := rfl
  have type : (fat32Card sectors 0 0x1C2).toNat = partitionFat32 := by
    rw [table]
    decide
  have start : fatArray2Value (fat32Card sectors 0) (0x1BE + 8) = 1 := by
    rw [table]
    decide
  have bytes : (cardVolume (fat32Card sectors)).bpbBytsPerSec = mySecterSize := by
    change bootWord (fat32Card sectors 1) 0x0B = 512
    rw [boot]
    decide
  simp only [fatMount, imageDevice, ↓reduceIte, type, or_true, start]
  exact if_pos bytes

/-- The volume of a small card is fresh. -/
theorem fat32Card_fresh (sectors : List (Nat × Bytes)) :
    Fresh (fat32Card sectors) (cardVolume (fat32Card sectors)) := by
  have boot : fat32Card sectors 1 =
      blockOf [(0x0B, [0, 2, 1, 1, 0, 1]), (0x24, [1, 2])] := rfl
  refine fatMount_fresh (imageDevice_holds _) (fat32Card_mount sectors) ?_
  simp only [dirSecter, cardVolume, volumeOfBoot, boot]
  decide

end SoundBoard.Fat
