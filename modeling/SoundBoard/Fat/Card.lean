import SoundBoard.Fat.FatFileSystem
import SoundBoard.Lib.Agree

/-!
# A card that does not change

A mounted volume over one image, with all reads successful. The volume's record then consists
of fields that no read changes and of a cache that holds the sector it names, and every
function of the library does the same whatever the cache holds: only the sector in the cache
and the number of device reads depend on what was read before.
-/

namespace SoundBoard.Fat

open SoundBoard.Lib

/-- A volume with its cache filled from an image. -/
def VolumeInfo.cache (geometry : VolumeInfo) (image : Nat → Bytes) (calls secterIndex : Nat) :
    VolumeInfo :=
  { geometry with calls, secterData := image secterIndex, secterIndex }

/-- A volume over an image: its cache holds the sector that it names. -/
structure OnCard (image : Nat → Bytes) (geometry vol : VolumeInfo) : Prop where
  device : geometry.readBlock512.Holds image
  cached : ∃ calls secterIndex, vol = geometry.cache image calls secterIndex

variable {image : Nat → Bytes} {geometry vol other : VolumeInfo}

/-! ## Sectors -/

/-- A sector read succeeds and leaves the sector in the cache. -/
theorem OnCard.read (card : OnCard image geometry vol) (nSecter : Nat) :
    ∃ calls, fatReadSecter vol nSecter = (true, geometry.cache image calls nSecter) := by
  obtain ⟨device, calls, secterIndex, rfl⟩ := card
  by_cases miss : nSecter ≠ secterIndex
  · refine ⟨calls + 1, ?_⟩
    have answer := device calls nSecter
    simp only [fatReadSecter, VolumeInfo.cache, miss, ne_eq, not_false_eq_true, ↓reduceIte, answer]
  · rw [not_not] at miss
    subst miss
    exact ⟨calls, if_neg (not_not.mpr rfl)⟩

/-- A volume with another sector in its cache. -/
theorem OnCard.fill (card : OnCard image geometry vol) (calls secterIndex : Nat) :
    OnCard image geometry (geometry.cache image calls secterIndex) :=
  ⟨card.device, calls, secterIndex, rfl⟩

/-- The sector of an entry of the root directory. -/
def dirSecter (geometry : VolumeInfo) (nDirectoryIndex : Nat) : Nat :=
  (geometry.rootDirectoryEntrySecter + 32 * nDirectoryIndex % 4294967296 / geometry.bpbBytsPerSec) %
    4294967296

/-- An entry of the root directory. -/
def dirEntry (image : Nat → Bytes) (geometry : VolumeInfo) (nDirectoryIndex : Nat) : Bytes :=
  drop (image (dirSecter geometry nDirectoryIndex))
    (32 * nDirectoryIndex % 4294967296 % geometry.bpbBytsPerSec)

/-- The directory lookup finds the entry on the image. -/
theorem OnCard.findDirectory (card : OnCard image geometry vol) (nDirectoryIndex : Nat) :
    ∃ vol', fatFindDirectory vol nDirectoryIndex =
        (some (dirEntry image geometry nDirectoryIndex), vol') ∧
      OnCard image geometry vol' := by
  obtain ⟨calls, read⟩ := card.read (dirSecter geometry nDirectoryIndex)
  refine ⟨_, ?_, card.fill calls (dirSecter geometry nDirectoryIndex)⟩
  obtain ⟨_, _, _, rfl⟩ := card
  exact congrArg (fun answer : Bool × VolumeInfo =>
    (if answer.1 then
      some (drop answer.2.secterData
        (32 * nDirectoryIndex % 4294967296 % answer.2.bpbBytsPerSec)) else none, answer.2)) read

/-- The FAT entry of a cluster, as it stands in the table. -/
def fatEntry (image : Nat → Bytes) (geometry : VolumeInfo) (thisCluster : Nat) : Nat :=
  fatEntryValue (geometry.cache image 0 (fatEntrySecterOf geometry thisCluster)) thisCluster

/-- What `fatNextCluster` makes of a FAT entry. -/
def nextCluster (image : Nat → Bytes) (geometry : VolumeInfo) (thisCluster : Nat) : Nat :=
  let entry := fatEntry image geometry thisCluster
  let clusterType :=
    if geometry.partitionType = partitionFat32 then fat32ClusterType entry
    else fat16ClusterType entry
  if clusterType ≠ .nextInfile ∧ clusterType ≠ .lastInfile then 0 else entry

/-- The successor of a cluster is the one on the image. -/
theorem OnCard.next (card : OnCard image geometry vol) (thisCluster : Nat) :
    ∃ vol', fatNextCluster vol thisCluster = (nextCluster image geometry thisCluster, vol') ∧
      OnCard image geometry vol' := by
  obtain ⟨calls, read⟩ := card.read (fatEntrySecterOf vol thisCluster)
  refine ⟨_, ?_, card.fill calls (fatEntrySecterOf vol thisCluster)⟩
  obtain ⟨_, _, _, rfl⟩ := card
  simp only [fatNextCluster, read, ↓reduceIte]
  exact (apply_ite (·, _) _ 0 _).symm

/-! ## Browsing and opening -/

/-- The results of browsing on two volumes over one card are the same, but for their caches. -/
def SameBrowse (image : Nat → Bytes) (geometry : VolumeInfo)
    (left right : Bool × Nat × FileContext × VolumeInfo) : Prop :=
  left.1 = right.1 ∧ left.2.1 = right.2.1 ∧ left.2.2.1 = right.2.2.1 ∧
    OnCard image geometry left.2.2.2 ∧ OnCard image geometry right.2.2.2

/-- The browse loop does not depend on the cache. -/
theorem browseLoop_agree :
    ∀ (fuel : Nat) {vol other : VolumeInfo} (index : Nat) (context : FileContext)
      (orderValue : Int) (bLongFilename : Bool), OnCard image geometry vol →
      OnCard image geometry other → Agree (SameBrowse image geometry)
        (browseLoop fuel vol index context orderValue bLongFilename)
        (browseLoop fuel other index context orderValue bLongFilename)
  | 0, _, _, _, _, _, _, _, _ => .error _
  | fuel + 1, vol, other, index, context, orderValue, bLongFilename, left, right => by
    obtain ⟨vol', found, left'⟩ := left.findDirectory ((index + 1) % 4294967296)
    obtain ⟨other', found', right'⟩ := right.findDirectory ((index + 1) % 4294967296)
    simp only [browseLoop, found, found']
    split
    · exact .error _
    · exact .ok ⟨rfl, rfl, rfl, left', right'⟩
    · exact browseLoop_agree fuel _ _ _ _ left' right'

/-- A heap with a volume over a card. -/
def Heap.Mounted (image : Nat → Bytes) (geometry : VolumeInfo) (hFat : Nat) (heap : Heap) : Prop :=
  ∃ vol, heap.volumes hFat = some vol ∧ OnCard image geometry vol

/-- A heap after reads of a volume over a card: only the cache of the volume may differ. -/
def Heap.Reads (image : Nat → Bytes) (geometry : VolumeInfo) (hFat : Nat) (before after : Heap) :
    Prop :=
  ∃ vol, OnCard image geometry vol ∧ after = before.setVolume hFat vol

variable {hFat : Nat} {left right before after : Heap}

/-- No read at all. -/
theorem Heap.Mounted.reads (mounted : before.Mounted image geometry hFat) :
    before.Reads image geometry hFat before := by
  obtain ⟨vol, here, card⟩ := mounted
  refine ⟨vol, card, ?_⟩
  rw [Heap.setVolume, ← here, Function.update_eq_self]

/-- The volume stays mounted. -/
theorem Heap.Reads.mounted (reads : before.Reads image geometry hFat after) :
    after.Mounted image geometry hFat := by
  obtain ⟨vol, card, rfl⟩ := reads
  exact ⟨vol, Function.update_self _ _ _, card⟩

/-- Reads after reads. -/
theorem Heap.Reads.trans {last : Heap} (first : before.Reads image geometry hFat after)
    (second : after.Reads image geometry hFat last) : before.Reads image geometry hFat last := by
  obtain ⟨_, _, rfl⟩ := first
  obtain ⟨vol, card, rfl⟩ := second
  refine ⟨vol, card, ?_⟩
  simp only [Heap.setVolume, Function.update_idem]

/-- Browsing the same card in two heaps finds the same entry. -/
structure SameEntry (image : Nat → Bytes) (geometry : VolumeInfo) (hFat : Nat) (left right : Heap)
    (a b : Bool × BrowseHandle × FileContext × Heap) : Prop where
  found : a.1 = b.1
  handle : a.2.1 = b.2.1
  volume : a.2.1.hFat = hFat
  context : a.2.2.1 = b.2.2.1
  left : left.Reads image geometry hFat a.2.2.2
  right : right.Reads image geometry hFat b.2.2.2

/-- `Fat_FileBrowseNext` does not depend on the cache. -/
theorem fatFileBrowseNext_agree (one : left.Mounted image geometry hFat)
    (two : right.Mounted image geometry hFat) (handle : BrowseHandle) (here : handle.hFat = hFat)
    (context : FileContext) :
    Agree (SameEntry image geometry hFat left right) (fatFileBrowseNext left handle context)
      (fatFileBrowseNext right handle context) := by
  have still : Agree (SameEntry image geometry hFat left right)
      (.ok (false, handle, context, left) : Exec _) (.ok (false, handle, context, right)) :=
    .ok ⟨rfl, rfl, here, rfl, one.reads, two.reads⟩
  obtain ⟨vol, found, card⟩ := one
  obtain ⟨other, found', card'⟩ := two
  have mount : vol.bMount = other.bMount := by
    obtain ⟨_, _, _, rfl⟩ := card
    obtain ⟨_, _, _, rfl⟩ := card'
    rfl
  simp only [fatFileBrowseNext, here, found, found', ← mount]
  split
  · exact still
  · split
    · refine (browseLoop_agree indexFuel _ _ _ _ card card').map ?_
      rintro ⟨_, _, _, vol⟩ ⟨_, _, _, other⟩ ⟨rfl, rfl, rfl, card, card'⟩
      exact ⟨rfl, rfl, rfl, rfl, ⟨vol, card, rfl⟩, ⟨other, card', rfl⟩⟩
    · exact still

/-- A volume over an image as a mount leaves it, with nothing in its cache. The number that says
so is not the number of the first sector of the root directory. -/
structure Fresh (image : Nat → Bytes) (vol : VolumeInfo) : Prop where
  device : vol.readBlock512.Holds image
  mounted : vol.bMount = true
  empty : vol.secterIndex = noSecter
  root : dirSecter vol 0 ≠ noSecter

/-- The volume of a mount is fresh. -/
theorem fatMount_fresh {device : Device} (holds : device.Holds image)
    (mount : fatMount device = some vol) (root : dirSecter vol 0 ≠ noSecter) :
    Fresh image vol := by
  simp only [fatMount, holds 0 0, holds 1, ↓reduceIte] at mount
  split at mount
  · split at mount
    · obtain rfl := Option.some.inj mount
      exact ⟨holds, rfl, rfl, root⟩
    · contradiction
  · contradiction

/-- The first browse fills an empty cache as it would fill any other. -/
theorem Fresh.browseNext {heap : Heap} (fresh : Fresh image vol) (some : hFat ≠ 0)
    (here : heap.volumes hFat = Option.some vol) (context : FileContext) :
    fatFileBrowseNext heap ⟨4294967295, hFat⟩ context =
      fatFileBrowseNext (heap.setVolume hFat (vol.cache image vol.calls noSecter))
        ⟨4294967295, hFat⟩ context := by
  obtain ⟨device, mounted, empty, root⟩ := fresh
  have read : fatReadSecter (vol.cache image vol.calls noSecter) (dirSecter vol 0) =
      fatReadSecter vol (dirSecter vol 0) := by
    have answer := device vol.calls (dirSecter vol 0)
    simp only [fatReadSecter, VolumeInfo.cache, empty, root, ne_eq, not_false_eq_true, ↓reduceIte,
      answer]
  have found : fatFindDirectory (vol.cache image vol.calls noSecter) 0 = fatFindDirectory vol 0 :=
    congrArg (fun answer : Bool × VolumeInfo =>
      (if answer.1 then
        Option.some (drop answer.2.secterData (32 * 0 % 4294967296 % answer.2.bpbBytsPerSec)) else none,
        answer.2)) read
  have loop : browseLoop indexFuel (vol.cache image vol.calls noSecter) 4294967295 context 0 false =
      browseLoop indexFuel vol 4294967295 context 0 false := by
    obtain ⟨fuel, enough⟩ := indexFuel_succ
    rw [enough]
    simp only [browseLoop, show (4294967295 + 1) % 4294967296 = 0 by decide, found]
  have volume : (heap.setVolume hFat (vol.cache image vol.calls noSecter)).volumes hFat =
      Option.some (vol.cache image vol.calls noSecter) := Function.update_self _ _ _
  have mounted' : (vol.cache image vol.calls noSecter).bMount = true := mounted
  have again (vol' : VolumeInfo) : (heap.setVolume hFat
      (vol.cache image vol.calls noSecter)).setVolume hFat vol' = heap.setVolume hFat vol' := by
    simp only [Heap.setVolume, Function.update_idem]
  simp only [fatFileBrowseNext, some, here, volume, mounted, mounted', ↓reduceIte, loop, again]

/-- The search of `Fat_FileOpen` does not depend on the cache. -/
theorem openLoop_agree (pFilename : Name) :
    ∀ (fuel : Nat) {left right : Heap} (handle : BrowseHandle) (context : FileContext),
      handle.hFat = hFat → left.Mounted image geometry hFat → right.Mounted image geometry hFat →
      Agree (fun a b => a.1 = b.1 ∧ left.Reads image geometry hFat a.2 ∧
          right.Reads image geometry hFat b.2)
        (openLoop pFilename fuel left handle context)
        (openLoop pFilename fuel right handle context)
  | 0, _, _, _, _, _, _, _ => .error _
  | fuel + 1, left, right, handle, context, here, one, two => by
    have next := fatFileBrowseNext_agree one two handle here context
    simp only [openLoop]
    generalize fatFileBrowseNext left handle context = a at next
    generalize fatFileBrowseNext right handle context = b at next
    cases next with
    | error fault => exact .error fault
    | @ok a b both =>
      obtain ⟨found, handle, entry, left'⟩ := a
      obtain ⟨found', handle', entry', right'⟩ := b
      obtain ⟨rfl, rfl, volume, rfl, reads, reads'⟩ := both
      cases found with
      | false => exact .ok ⟨rfl, reads, reads'⟩
      | true =>
        dsimp only
        split
        · exact .error _
        · exact .ok ⟨rfl, reads, reads'⟩
        · exact (openLoop_agree pFilename fuel handle entry volume reads.mounted reads'.mounted).mono
            fun a b both => ⟨both.1, reads.trans both.2.1, reads'.trans both.2.2⟩

/-- What `Fat_FileOpen` does in two heaps over one card: it finds no file in either, or opens
the file of the same entry in both. -/
inductive SameOpen (image : Nat → Bytes) (geometry : VolumeInfo) (hFat : Nat) (left right : Heap) :
    Nat × Heap → Nat × Heap → Prop where
  | none {left' right' : Heap} (one : left.Reads image geometry hFat left')
      (two : right.Reads image geometry hFat right') :
      SameOpen image geometry hFat left right (0, left') (0, right')
  | found {left' right' : Heap} (context : FileContext)
      (one : left.Reads image geometry hFat left')
      (two : right.Reads image geometry hFat right') :
      SameOpen image geometry hFat left right (left'.allocFile (openedFile hFat context))
        (right'.allocFile (openedFile hFat context))

/-- `Fat_FileOpen` does not depend on the cache. -/
theorem fatFileOpen_agree (one : left.Mounted image geometry hFat)
    (two : right.Mounted image geometry hFat) (pFilename : Name) :
    Agree (SameOpen image geometry hFat left right) (fatFileOpen left hFat pFilename)
      (fatFileOpen right hFat pFilename) := by
  have none : Agree (SameOpen image geometry hFat left right) (.ok (0, left) : Exec _)
      (.ok (0, right)) := .ok (.none one.reads two.reads)
  obtain ⟨vol, found, card⟩ := id one
  obtain ⟨other, found', card'⟩ := id two
  have mount : vol.bMount = other.bMount := by
    obtain ⟨_, _, _, rfl⟩ := card
    obtain ⟨_, _, _, rfl⟩ := card'
    rfl
  by_cases null : hFat = 0
  · simpa only [fatFileOpen, fatFileBrowseBegin, null, ↓reduceIte] using none
  cases mounted : vol.bMount with
  | false =>
    rw [mounted] at mount
    simp only [fatFileOpen, fatFileBrowseBegin, null, ↓reduceIte, found, found', mounted, ← mount]
    exact none
  | true =>
    rw [mounted] at mount
    simp only [fatFileOpen, fatFileBrowseBegin, null, ↓reduceIte, found, found', mounted, ← mount]
    have search := openLoop_agree pFilename indexFuel ⟨4294967295, hFat⟩ FileContext.blank rfl
      one two
    generalize openLoop pFilename indexFuel left _ _ = a at search
    generalize openLoop pFilename indexFuel right _ _ = b at search
    cases search with
    | error fault => exact .error fault
    | @ok a b both =>
      obtain ⟨context, left'⟩ := a
      obtain ⟨context', right'⟩ := b
      obtain ⟨rfl, reads, reads'⟩ := both
      cases context with
      | none => exact .ok (.none reads reads')
      | some context => exact .ok (.found context reads reads')

/-! ## Reading -/

/-- Two states of `Fat_FileRead` over one card that differ in the cache only. -/
inductive SameRead (image : Nat → Bytes) (geometry : VolumeInfo) : ReadState → ReadState → Prop where
  | mk {vol other : VolumeInfo} (one : OnCard image geometry vol)
      (two : OnCard image geometry other) (file : FatFileInfo) (pos nReadCount : Nat)
      (pBuffer : Bytes) (bSuccess : Bool) :
      SameRead image geometry ⟨vol, file, pos, nReadCount, pBuffer, bSuccess⟩
        ⟨other, file, pos, nReadCount, pBuffer, bSuccess⟩

variable {st st' : ReadState}

/-- A step along the cluster chain. -/
theorem SameRead.nextCluster (same : SameRead image geometry st st') :
    SameRead image geometry st.nextCluster st'.nextCluster := by
  obtain ⟨one, two, file, pos, nReadCount, pBuffer, bSuccess⟩ := same
  obtain ⟨vol, found, card⟩ := one.next file.cluster
  obtain ⟨other, found', card'⟩ := two.next file.cluster
  simp only [ReadState.nextCluster, found, found']
  exact .mk card card' _ _ _ _ _

/-- A field of the volume that no read changes. -/
theorem OnCard.field {α : Type} (card : OnCard image geometry vol) (field : VolumeInfo → α)
    (kept : ∀ calls secterIndex, field (geometry.cache image calls secterIndex) = field geometry) :
    field vol = field geometry := by
  obtain ⟨_, calls, secterIndex, rfl⟩ := card
  exact kept calls secterIndex

/-- Another position in both. -/
theorem SameRead.move (same : SameRead image geometry st st') (pos : Nat) :
    SameRead image geometry { st with pos } { st' with pos } := by
  cases same with
  | mk one two => exact .mk one two _ _ _ _ _

/-- The first loop of `Fat_FileRead`. -/
theorem SameRead.seekLoop (fuel : Nat) (same : SameRead image geometry st st') :
    SameRead image geometry (seekLoop fuel st) (seekLoop fuel st') := by
  induction fuel generalizing st st' with
  | zero => exact same
  | succ fuel ih =>
    have next := same.nextCluster
    obtain ⟨one, two, file, pos, nReadCount, pBuffer, bSuccess⟩ := same
    have bytes := one.field (·.nBytesPerCluster) fun _ _ => rfl
    have bytes' := two.field (·.nBytesPerCluster) fun _ _ => rfl
    simp only [Fat.seekLoop, bytes, bytes']
    split
    · exact ih (next.move _)
    · exact .mk one two _ _ _ _ _

/-- The loop over the sectors of a cluster. -/
theorem SameRead.secterLoop (nBufferSize secters : Nat) (physicalSecter : Nat)
    (same : SameRead image geometry st st') :
    SameRead image geometry (secterLoop nBufferSize secters physicalSecter st)
      (secterLoop nBufferSize secters physicalSecter st') := by
  induction secters generalizing st st' physicalSecter with
  | zero => exact same
  | succ secters ih =>
    have moved := same.move
    obtain ⟨one, two, file, pos, nReadCount, pBuffer, bSuccess⟩ := same
    have bytes := one.field (·.bpbBytsPerSec) fun _ _ => rfl
    have bytes' := two.field (·.bpbBytsPerSec) fun _ _ => rfl
    obtain ⟨calls, read⟩ := one.read physicalSecter
    obtain ⟨calls', read'⟩ := two.read physicalSecter
    simp only [Fat.secterLoop, bytes, bytes', read, read', ↓reduceIte]
    split
    · refine ih _ ?_
      split
      · exact moved _
      · exact .mk (one.fill calls _) (two.fill calls' _) _ _ _ _ _
    · exact .mk one two _ _ _ _ _

/-- What the two states have in common. -/
theorem SameRead.fields (same : SameRead image geometry st st') :
    st.file = st'.file ∧ st.nReadCount = st'.nReadCount ∧ st.pBuffer = st'.pBuffer ∧
      st.bSuccess = st'.bSuccess ∧ OnCard image geometry st.vol ∧
      OnCard image geometry st'.vol := by
  cases same with
  | mk one two => exact ⟨rfl, rfl, rfl, rfl, one, two⟩

/-- The loop over clusters. -/
theorem SameRead.readLoop (nBufferSize fuel : Nat) (same : SameRead image geometry st st') :
    SameRead image geometry (readLoop nBufferSize fuel st) (readLoop nBufferSize fuel st') := by
  induction fuel generalizing st st' with
  | zero => exact same
  | succ fuel ih =>
    have cluster := same.secterLoop nBufferSize geometry.bpbSecPerCluster
      (clusterSecter geometry st.file.cluster)
    have next := cluster.nextCluster
    obtain ⟨_, count, _⟩ := cluster.fields
    obtain ⟨one, two, file, pos, nReadCount, pBuffer, bSuccess⟩ := same
    have secters := one.field (·.bpbSecPerCluster) fun _ _ => rfl
    have secters' := two.field (·.bpbSecPerCluster) fun _ _ => rfl
    have first := one.field (clusterSecter · file.cluster) fun _ _ => rfl
    have first' := two.field (clusterSecter · file.cluster) fun _ _ => rfl
    simp only [Fat.readLoop, secters, secters', first, first', ← count]
    split
    · refine ih ?_
      split
      · exact next
      · exact cluster
    · exact .mk one two _ _ _ _ _

/-- The end of `Fat_FileRead`: a successful read moves the seek position. -/
theorem SameRead.finish (same : SameRead image geometry st st') (nBufferSize : Nat) :
    SameRead image geometry
      (if st.bSuccess then
        { st with file :=
          { st.file with seekPos := (st.file.seekPos + nBufferSize) % 4294967296 } } else st)
      (if st'.bSuccess then
        { st' with file :=
          { st'.file with seekPos := (st'.file.seekPos + nBufferSize) % 4294967296 } }
        else st') := by
  obtain ⟨one, two, file, pos, nReadCount, pBuffer, bSuccess⟩ := same
  cases bSuccess <;> exact .mk one two _ _ _ _ _

/-- `Fat_FileRead` on one file over one card does not depend on the cache. -/
theorem readFile_same (one : OnCard image geometry vol) (two : OnCard image geometry other)
    (file : FatFileInfo) (pBuffer : Bytes) (nBufferSize : Nat) :
    SameRead image geometry (readFile vol file pBuffer nBufferSize)
      (readFile other file pBuffer nBufferSize) := by
  have bytes := one.field (·.nBytesPerCluster) fun _ _ => rfl
  have bytes' := two.field (·.nBytesPerCluster) fun _ _ => rfl
  have start := SameRead.mk one two file
    (toU32 ((file.seekPos : Int) - file.clusterSeq * geometry.nBytesPerCluster)) 0 pBuffer true
  simp only [readFile, bytes, bytes']
  split
  · exact ((start.seekLoop _).readLoop _ _).finish _
  · exact (start.readLoop _ _).finish _

/-- What no read changes in the record of a file. -/
def FatFileInfo.identity (file : FatFileInfo) : Bool × FileContext × Nat :=
  (file.isOpened, file.directory, file.fat)

/-- A part of a file's record that does not depend on where in its chain it stands. -/
def OutsideChain {α : Type} (part : FatFileInfo → α) : Prop :=
  ∀ file cluster clusterSeq, part { file with cluster, clusterSeq } = part file

section Parts

variable {α : Type} {part : FatFileInfo → α}

/-- The first loop moves along the chain of the file. -/
theorem seekLoop_part (outside : OutsideChain part) (fuel : Nat) (st : ReadState) :
    part (seekLoop fuel st).file = part st.file := by
  induction fuel generalizing st with
  | zero => rfl
  | succ fuel ih =>
    simp only [seekLoop]
    split
    · exact (ih _).trans (outside st.file _ _)
    · rfl

/-- The loop over sectors leaves the file alone. -/
theorem secterLoop_file (nBufferSize secters physicalSecter : Nat) (st : ReadState) :
    (secterLoop nBufferSize secters physicalSecter st).file = st.file := by
  induction secters generalizing physicalSecter st with
  | zero => rfl
  | succ secters ih =>
    simp only [secterLoop]
    split
    · rw [ih]
      split
      · rfl
      · split <;> rfl
    · rfl

/-- The loop over clusters moves along the chain of the file. -/
theorem readLoop_part (outside : OutsideChain part) (nBufferSize fuel : Nat) (st : ReadState) :
    part (readLoop nBufferSize fuel st).file = part st.file := by
  induction fuel generalizing st with
  | zero => rfl
  | succ fuel ih =>
    have cluster := secterLoop_file nBufferSize st.vol.bpbSecPerCluster
      (clusterSecter st.vol st.file.cluster) st
    simp only [readLoop]
    split
    · refine (ih _).trans (Eq.trans ?_ (congrArg part cluster))
      split
      · exact outside _ _ _
      · rfl
    · rfl

/-- A read leaves such a part alone, up to the step of the seek position. -/
theorem readFile_part (outside : OutsideChain part) (vol : VolumeInfo) (file : FatFileInfo)
    (pBuffer : Bytes) (nBufferSize : Nat) :
    let after := readFile vol file pBuffer nBufferSize
    ∃ moved : FatFileInfo, part moved = part file ∧ after.file =
      if after.bSuccess then
        { moved with seekPos := (moved.seekPos + nBufferSize) % 4294967296 } else moved := by
  have whole : ∀ st : ReadState, part (readLoop nBufferSize nBufferSize st).file = part st.file :=
    readLoop_part outside nBufferSize nBufferSize
  have finish : ∀ st : ReadState, part st.file = part file →
      ∃ moved : FatFileInfo, part moved = part file ∧
        (if st.bSuccess then
          { st with file := { st.file with
              seekPos := (st.file.seekPos + nBufferSize) % 4294967296 } } else st).file =
        if (if st.bSuccess then
          { st with file := { st.file with
              seekPos := (st.file.seekPos + nBufferSize) % 4294967296 } } else st).bSuccess then
          { moved with seekPos := (moved.seekPos + nBufferSize) % 4294967296 } else moved := by
    intro st same
    refine ⟨st.file, same, ?_⟩
    cases ok : st.bSuccess <;> simp [ok]
  simp only [readFile]
  split
  · exact finish _ ((whole _).trans (seekLoop_part outside _ _))
  · exact finish _ (whole _)

end Parts

/-- A read leaves the identity of the file alone. -/
theorem readFile_identity (vol : VolumeInfo) (file : FatFileInfo) (pBuffer : Bytes)
    (nBufferSize : Nat) :
    (readFile vol file pBuffer nBufferSize).file.identity = file.identity := by
  have outside : OutsideChain FatFileInfo.identity := fun _ _ _ => rfl
  obtain ⟨moved, same, after⟩ := readFile_part outside vol file pBuffer nBufferSize
  rw [after, ← same]
  split <;> rfl

/-- A successful read moves the seek position by its size, and one that fails not at all. -/
theorem readFile_seekPos (vol : VolumeInfo) (file : FatFileInfo) (pBuffer : Bytes)
    (nBufferSize : Nat) :
    (readFile vol file pBuffer nBufferSize).file.seekPos =
      if (readFile vol file pBuffer nBufferSize).bSuccess then
        (file.seekPos + nBufferSize) % 4294967296 else file.seekPos := by
  have outside : OutsideChain FatFileInfo.seekPos := fun _ _ _ => rfl
  obtain ⟨moved, same, after⟩ := readFile_part outside vol file pBuffer nBufferSize
  rw [after, ← same]
  split <;> rfl

/-- The results of reading one file through two handles. -/
structure SameFileRead (image : Nat → Bytes) (geometry : VolumeInfo) (hFat hFile hFile' : Nat)
    (file : FatFileInfo) (left right : Heap) (a b : Bool × Bytes × Heap) : Prop where
  success : a.1 = b.1
  buffer : a.2.1 = b.2.1
  file : ∃ after : FatFileInfo, after.identity = file.identity ∧
    (left.setFile hFile after).Reads image geometry hFat a.2.2 ∧
    (right.setFile hFile' after).Reads image geometry hFat b.2.2

/-- `Fat_FileRead` does not depend on the cache. -/
theorem fatFileRead_agree {hFile hFile' : Nat} {file : FatFileInfo}
    (one : left.Mounted image geometry hFat) (two : right.Mounted image geometry hFat)
    (open_ : hFile ≠ 0 ∧ left.files hFile = some file)
    (open' : hFile' ≠ 0 ∧ right.files hFile' = some file) (volume : file.fat = hFat)
    (pBuffer : Bytes) (nBufferSize : Nat) :
    Agree (SameFileRead image geometry hFat hFile hFile' file left right)
      (fatFileRead left hFile pBuffer nBufferSize)
      (fatFileRead right hFile' pBuffer nBufferSize) := by
  have idle : ∀ success, Agree (SameFileRead image geometry hFat hFile hFile' file left right)
      (.ok (success, pBuffer, left) : Exec _) (.ok (success, pBuffer, right)) := fun success => by
    refine .ok ⟨rfl, rfl, file, rfl, ?_, ?_⟩
    · rw [Heap.setFile, ← open_.2, Function.update_eq_self]
      exact one.reads
    · rw [Heap.setFile, ← open'.2, Function.update_eq_self]
      exact two.reads
  obtain ⟨vol, found, card⟩ := one
  obtain ⟨other, found', card'⟩ := two
  have bytes := card.field (·.nBytesPerCluster) fun _ _ => rfl
  have bytes' := card'.field (·.nBytesPerCluster) fun _ _ => rfl
  simp only [fatFileRead, open_, open', ↓reduceIte, volume, found, found', bytes, bytes']
  split
  · exact idle false
  · split
    · exact idle true
    · split
      · exact .error _
      · obtain ⟨same, _, buffer, success, last, last'⟩ :=
          (readFile_same card card' file pBuffer nBufferSize).fields
        refine .ok ⟨success, buffer, _, readFile_identity vol file pBuffer nBufferSize,
          ⟨_, last, rfl⟩, _, last', ?_⟩
        rw [same]

/-! ## The buffer behind a read -/

/-- A read that has written nothing behind the bytes it was asked for. -/
def WritesBelow (n : Nat) (bytes : Bytes) (st : ReadState) : Prop :=
  st.nReadCount ≤ n ∧ ∀ i, n ≤ i → st.pBuffer i = bytes i

variable {n : Nat} {bytes : Bytes}

/-- Steps along the chain write nothing. -/
theorem WritesBelow.seekLoop (below : WritesBelow n bytes st) (fuel : Nat) :
    WritesBelow n bytes (seekLoop fuel st) := by
  induction fuel generalizing st with
  | zero => exact below
  | succ fuel ih =>
    simp only [Fat.seekLoop]
    split
    · exact ih below
    · exact below

/-- A copy ends where the read does. -/
theorem WritesBelow.copy (below : WritesBelow n bytes st) : WritesBelow n bytes (st.copy n) := by
  obtain ⟨count, behind⟩ := below
  refine ⟨?_, fun i late => ?_⟩
  · simp only [ReadState.copy]
    omega
  · simp only [ReadState.copy]
    rw [copyAt_outside _ _ _ _ _ (by omega)]
    exact behind i late

/-- So does the loop over sectors. -/
theorem WritesBelow.secterLoop (below : WritesBelow n bytes st) (secters physicalSecter : Nat) :
    WritesBelow n bytes (secterLoop n secters physicalSecter st) := by
  induction secters generalizing physicalSecter st with
  | zero => exact below
  | succ secters ih =>
    simp only [Fat.secterLoop]
    split
    · apply ih
      split
      · exact below
      · split
        · apply WritesBelow.copy
          exact below
        · exact below
    · exact below

/-- And the loop over clusters. -/
theorem WritesBelow.readLoop (below : WritesBelow n bytes st) (fuel : Nat) :
    WritesBelow n bytes (readLoop n fuel st) := by
  induction fuel generalizing st with
  | zero => exact below
  | succ fuel ih =>
    simp only [Fat.readLoop]
    split
    · apply ih
      split
      · exact below.secterLoop _ _
      · exact below.secterLoop _ _
    · exact below

/-- A read leaves the bytes alone that it was not asked for. -/
theorem readFile_outside (vol : VolumeInfo) (file : FatFileInfo) (pBuffer : Bytes) (n i : Nat)
    (late : n ≤ i) : (readFile vol file pBuffer n).pBuffer i = pBuffer i := by
  have start (pos : Nat) : WritesBelow n pBuffer ⟨vol, file, pos, 0, pBuffer, true⟩ :=
    ⟨Nat.zero_le n, fun _ _ => rfl⟩
  have finish : ∀ st : ReadState, WritesBelow n pBuffer st →
      (if st.bSuccess then
        { st with file := { st.file with seekPos := (st.file.seekPos + n) % 4294967296 } }
        else st).pBuffer i = pBuffer i := by
    intro st below
    split
    · exact below.2 i late
    · exact below.2 i late
  simp only [readFile]
  split
  · exact finish _ (((start _).seekLoop _).readLoop n)
  · exact finish _ ((start _).readLoop n)

/-- `Fat_FileRead` does so. -/
theorem fatFileRead_outside {heap after : Heap} {hFile i : Nat} {pBuffer buffer : Bytes} {ok : Bool}
    (run : fatFileRead heap hFile pBuffer n = .ok (ok, buffer, after)) (late : n ≤ i) :
    buffer i = pBuffer i := by
  unfold fatFileRead at run
  repeat' split at run
  all_goals first
    | contradiction
    | skip
  all_goals
    simp only [Except.ok.injEq, Prod.mk.injEq] at run
    obtain ⟨_, rfl, _⟩ := run
  · rfl
  · rfl
  · rfl
  · exact readFile_outside _ _ _ _ _ late

/-! ## Another buffer -/

/-- A step along the chain does not look at the buffer. -/
theorem seekLoop_onto (fuel : Nat) (st : ReadState) (buffer : Bytes) :
    seekLoop fuel { st with pBuffer := buffer } =
      { seekLoop fuel st with pBuffer := buffer } := by
  induction fuel generalizing st with
  | zero => rfl
  | succ fuel ih =>
    simp only [seekLoop]
    split
    · exact ih { st.nextCluster with pos := st.pos - st.vol.nBytesPerCluster }
    · rfl

/-- The loop over sectors does the same to everything but the buffer. -/
theorem secterLoop_onto (n secters physicalSecter : Nat) (st : ReadState) (buffer : Bytes) :
    ∃ after, secterLoop n secters physicalSecter { st with pBuffer := buffer } =
      { secterLoop n secters physicalSecter st with pBuffer := after } := by
  induction secters generalizing physicalSecter st buffer with
  | zero => exact ⟨buffer, rfl⟩
  | succ secters ih =>
    simp only [secterLoop]
    split
    · split
      · exact ih _ { st with pos := st.pos - st.vol.bpbBytsPerSec } buffer
      · cases answer : (fatReadSecter st.vol physicalSecter).1 with
        | false => exact ih _ { st with
            vol := (fatReadSecter st.vol physicalSecter).2, bSuccess := false } buffer
        | true =>
          let read : ReadState := { st with
            vol := (fatReadSecter st.vol physicalSecter).2, bSuccess := true }
          exact ih _ (read.copy n) ({ read with pBuffer := buffer }.copy n).pBuffer
    · exact ⟨buffer, rfl⟩

/-- So does the loop over clusters. -/
theorem readLoop_onto (n fuel : Nat) (st : ReadState) (buffer : Bytes) :
    ∃ after, readLoop n fuel { st with pBuffer := buffer } =
      { readLoop n fuel st with pBuffer := after } := by
  induction fuel generalizing st buffer with
  | zero => exact ⟨buffer, rfl⟩
  | succ fuel ih =>
    simp only [readLoop]
    split
    · obtain ⟨after, same⟩ := secterLoop_onto n st.vol.bpbSecPerCluster
        (clusterSecter st.vol st.file.cluster) st buffer
      rw [same]
      split
      · exact ih (secterLoop n st.vol.bpbSecPerCluster
          (clusterSecter st.vol st.file.cluster) st).nextCluster after
      · exact ih _ after
    · exact ⟨buffer, rfl⟩

end SoundBoard.Fat
