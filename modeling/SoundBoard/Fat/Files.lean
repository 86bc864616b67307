import SoundBoard.Fat.Listing
import SoundBoard.Fat.Stream

/-!
# Open files

Open files share the cache of their volume, and no more: any interleaving of the calls on any
number of them answers as streams do that share nothing.
-/

namespace SoundBoard.Fat

open SoundBoard.Lib

variable {image : Nat → Bytes} {geometry vol : VolumeInfo} {l : Layout} {n : Nat}
  {info : FatFileInfo}

/-! ## Streams -/

/-- What an open file is for its user: some bytes, how many they are, and the position of the next
one to be read. -/
structure Stream where
  content : Bytes
  size : Nat
  position : Nat

/-- The place in a stream that a seek names, if there is one. -/
def Stream.target (s : Stream) (seekPos : FatSeekPos) (nOffset : Int) : Option Nat :=
  let place : Option Int := match seekPos with
    | .fileSeekBegin => some nOffset
    | .fileSeekCurrent => some (s.position + nOffset)
    | .fileSeekEnd => some (s.size + nOffset)
    | .other => none
  (place.filter fun place : Int => 0 ≤ place ∧ place ≤ s.size).map Int.toNat

/-- What can be asked of a volume. -/
inductive Request where
  | open (pFilename : Name)
  | read (hFile : Nat) (pBuffer : Bytes) (nBufferSize : Nat)
  | seek (hFile : Nat) (seekPos : FatSeekPos) (nOffset : Int)
  | size (hFile : Nat)
  | close (hFile : Nat)

/-- What is answered. -/
inductive Answer where
  | open (hFile : Nat)
  | read (bSuccess : Bool) (pBuffer : Bytes)
  | seek (bSuccess : Bool)
  | size (bytes : Nat)
  | close

/-- One call of the library. -/
def Heap.serve (hFat : Nat) (heap : Heap) : Request → Exec (Answer × Heap)
  | .open pFilename =>
    (fatFileOpen heap hFat pFilename).map fun (hFile, heap) => (.open hFile, heap)
  | .read hFile pBuffer nBufferSize =>
    (fatFileRead heap hFile pBuffer nBufferSize).map fun (ok, bytes, heap) => (.read ok bytes, heap)
  | .seek hFile seekPos nOffset =>
    (fatFileSeek heap hFile seekPos nOffset).map fun (ok, heap) => (.seek ok, heap)
  | .size hFile => (fatFileSize heap hFile).map fun bytes => (.size bytes, heap)
  | .close hFile => .ok (.close, fatFileClose heap hFile)

/-- Calls one after the other. -/
def Heap.serveAll (hFat : Nat) (heap : Heap) : List Request → Exec (List Answer × Heap)
  | [] => .ok ([], heap)
  | request :: requests =>
    (heap.serve hFat request).bind fun (answer, heap) =>
      (heap.serveAll hFat requests).map fun (answers, heap) => (answer :: answers, heap)

/-- Streams by handle, which share nothing, and the handle of the next one. -/
structure Desk where
  streams : Nat → Option Stream
  next : Nat

/-- A desk with another stream for a handle. -/
def Desk.put (desk : Desk) (hFile : Nat) (s : Option Stream) : Desk :=
  { desk with streams := Function.update desk.streams hFile s }

/-- What a catalog knows of a name: the file with the name, or that there is none. -/
inductive Listing where
  | file (s : Stream)
  | missing

/-- What a request means. A name that is opened has to be known to the catalog, a read has to ask
for at least one byte, and reads and seeks have to stay inside the stream. -/
def Desk.serve (catalog : Name → Option Listing) (desk : Desk) : Request → Option (Answer × Desk)
  | .open pFilename => (catalog pFilename).map fun
    | .file s => (.open desk.next, { desk.put desk.next (some s) with next := desk.next + 1 })
    | .missing => (.open 0, desk)
  | .read hFile pBuffer nBufferSize =>
    (desk.streams hFile).bind fun s =>
      if 0 < nBufferSize ∧ s.position + nBufferSize ≤ s.size then
        some (.read true (copyAt pBuffer 0 (drop s.content s.position) nBufferSize),
          desk.put hFile (some { s with position := s.position + nBufferSize }))
      else none
  | .seek hFile seekPos nOffset =>
    (desk.streams hFile).bind fun s => (s.target seekPos nOffset).map fun position =>
      (.seek true, desk.put hFile (some { s with position }))
  | .size hFile => (desk.streams hFile).map fun s => (.size s.size, desk)
  | .close hFile => (desk.streams hFile).map fun _ => (.close, desk.put hFile none)

/-- Requests one after the other. -/
def Desk.serveAll (catalog : Name → Option Listing) (desk : Desk) :
    List Request → Option (List Answer × Desk)
  | [] => some ([], desk)
  | request :: requests =>
    (desk.serve catalog request).bind fun (answer, desk) =>
      (desk.serveAll catalog requests).map fun (answers, desk) => (answer :: answers, desk)

/-- A record that stands for a stream. -/
structure IsStream (image : Nat → Bytes) (geometry : VolumeInfo) (l : Layout) (hFat : Nat)
    (info : FatFileInfo) (s : Stream) : Prop where
  fat : info.fat = hFat
  opened : info.isOpened = true
  position : info.seekPos = s.position
  within : s.position ≤ s.size
  fileSize : info.directory.fileSize = s.size
  content : s.content = l.fileByte image info.directory.firstLogicalCluster
  file : l.WellFormed image info.directory.firstLogicalCluster s.size
  followed : Followed image geometry l info.directory.firstLogicalCluster s.size
  tracks : 0 < s.size →
    Tracks image geometry l info.directory.firstLogicalCluster s.size info

/-- A heap that serves a desk: all of its streams are files of one mounted volume. -/
structure Serves (image : Nat → Bytes) (geometry : VolumeInfo) (l : Layout) (hFat : Nat)
    (heap : Heap) (desk : Desk) : Prop where
  mounted : heap.Mounted image geometry hFat
  next : heap.next = desk.next
  positive : 0 < desk.next
  files : ∀ hFile s, desk.streams hFile = some s → 0 < hFile ∧ hFile < desk.next ∧
    ∃ info, heap.files hFile = some info ∧ IsStream image geometry l hFat info s

variable {hFat hFile index' : Nat} {context' : FileContext} {heap heap' : Heap} {desk desk' : Desk} {s s' : Stream}

/-- Another record for one stream leaves the others as they are. -/
theorem Serves.put {info' : FatFileInfo} (serves : Serves image geometry l hFat heap desk)
    (found : desk.streams hFile = some s) (stream : IsStream image geometry l hFat info' s')
    (mounted : heap'.Mounted image geometry hFat) (next : heap'.next = heap.next)
    (files : heap'.files = Function.update heap.files hFile (some info')) :
    Serves image geometry l hFat heap' (desk.put hFile (some s')) := by
  refine ⟨mounted, next.trans serves.next, serves.positive, fun h t other => ?_⟩
  rw [files]
  by_cases same : h = hFile
  · subst same
    obtain ⟨low, high, -⟩ := serves.files h s found
    have update : (desk.put h (some s')).streams h = some s' := Function.update_self _ _ _
    rw [update] at other
    rw [Function.update_self]
    obtain rfl := Option.some.inj other
    exact ⟨low, high, info', rfl, stream⟩
  · have kept : (desk.put hFile (some s')).streams h = desk.streams h :=
      Function.update_of_ne same _ _
    rw [kept] at other
    rw [Function.update_of_ne same]
    exact serves.files h t other

/-- A read of a stream. -/
theorem Serves.read (matched : Matches geometry l) (volume : hFat ≠ 0)
    (serves : Serves image geometry l hFat heap desk) (found : desk.streams hFile = some s)
    (low : 0 < n) (inside : s.position + n ≤ s.size) (pBuffer : Bytes) :
    ∃ heap', fatFileRead heap hFile pBuffer n =
        .ok (true, copyAt pBuffer 0 (drop s.content s.position) n, heap') ∧
      Serves image geometry l hFat heap'
        (desk.put hFile (some { s with position := s.position + n })) := by
  obtain ⟨vol, here, card⟩ := serves.mounted
  obtain ⟨handle, -, info, record, stream⟩ := serves.files hFile s found
  have positive : vol.nBytesPerCluster ≠ 0 := by
    have := stream.file.positive
    rw [card.field (·.nBytesPerCluster) fun _ _ => rfl, matched.clusterBytes, Layout.clusterBytes]
    omega
  have room : 0 < s.size := by omega
  obtain ⟨vol', info', pos, card', tracks, same, read⟩ := readFile_bytes stream.file matched
    stream.followed card (stream.tracks room) low (by rw [stream.position]; exact inside) pBuffer
  refine ⟨(heap.setFile hFile info').setVolume hFat vol', ?_, ?_⟩
  · rw [fatFileRead, if_neg (Nat.ne_of_gt handle), record]
    simp only [stream.fat, if_neg volume, here, stream.opened, not_true_eq_false, if_false,
      if_neg positive, read, stream.content, stream.position]
  · have directory : info'.directory = info.directory := by rw [same]
    refine serves.put found ⟨?_, ?_, ?_, inside, ?_, ?_, ?_, ?_, fun _ => ?_⟩
      ⟨vol', Function.update_self _ _ _, card'⟩ rfl rfl
    · rw [same]
      exact stream.fat
    · rw [same]
      exact stream.opened
    · rw [same]
      exact congrArg (· + n) stream.position
    · rw [directory]
      exact stream.fileSize
    · rw [directory]
      exact stream.content
    · rw [directory]
      exact stream.file
    · rw [directory]
      exact stream.followed
    · rw [directory]
      exact tracks

/-- A seek to a place in a stream. -/
theorem Serves.seek {position : Nat} {seekPos : FatSeekPos} {nOffset : Int}
    (matched : Matches geometry l) (volume : hFat ≠ 0)
    (serves : Serves image geometry l hFat heap desk) (found : desk.streams hFile = some s)
    (target : s.target seekPos nOffset = some position) :
    ∃ heap', fatFileSeek heap hFile seekPos nOffset = .ok (true, heap') ∧
      Serves image geometry l hFat heap' (desk.put hFile (some { s with position })) := by
  obtain ⟨handle, -, info, record, stream⟩ := serves.files hFile s found
  have range := stream.file.range
  have same : info.target seekPos nOffset = some (position : Int) ∧ position ≤ s.size := by
    cases seekPos <;> simp only [Stream.target, FatFileInfo.target, stream.position,
      stream.fileSize, Option.map_eq_some_iff, Option.filter_eq_some_iff, Option.some.injEq,
      reduceCtorEq, false_and, exists_false, decide_eq_true_eq] at target ⊢
    all_goals
      obtain ⟨place, ⟨rfl, low, high⟩, rfl⟩ := target
      omega
  let info' : FatFileInfo := { info with
    seekPos := position, cluster := info.directory.firstLogicalCluster, clusterSeq := 0 }
  have stream' : IsStream image geometry l hFat info' { s with position } :=
    ⟨stream.fat, stream.opened, rfl, same.2, stream.fileSize, stream.content, stream.file,
      stream.followed, fun room => tracks_first matched stream.file room rfl rfl⟩
  have mounted : (heap.setFile hFile info').Mounted image geometry hFat := serves.mounted
  refine ⟨heap.setFile hFile info', ?_, serves.put found stream' mounted rfl rfl⟩
  have word : toU32 (position : Int) = position := by
    rw [toU32_natCast, Nat.mod_eq_of_lt (by omega)]
  rw [fatFileSeek, if_neg (Nat.ne_of_gt handle), record]
  simp only [stream.fat, if_neg volume, stream.opened, not_true_eq_false, if_false, same.1,
    Option.isSome_some, Option.map_some, Option.getD_some, word, info']

/-- A file that is closed is no longer there. -/
theorem Serves.close (serves : Serves image geometry l hFat heap desk)
    (found : desk.streams hFile = some s) :
    Serves image geometry l hFat (fatFileClose heap hFile) (desk.put hFile none) := by
  obtain ⟨handle, -⟩ := serves.files hFile s found
  have closed : fatFileClose heap hFile = heap.freeFile hFile := if_neg (Nat.ne_of_gt handle)
  rw [closed]
  refine ⟨serves.mounted, serves.next, serves.positive, fun h t other => ?_⟩
  by_cases same : h = hFile
  · have gone : (desk.put hFile none).streams h = none := by
      rw [same]
      exact Function.update_self _ _ _
    rw [gone] at other
    contradiction
  · have kept : (desk.put hFile none).streams h = desk.streams h := Function.update_of_ne same _ _
    rw [kept] at other
    obtain ⟨low, high, info, record, stream⟩ := serves.files h t other
    exact ⟨low, high, info, (Function.update_of_ne same _ _).trans record, stream⟩

/-! ## The directory -/

/-- An entry whose file the library can read: its chain, from the cluster that the library takes
for the first, is well formed and followed. -/
structure Readable (image : Nat → Bytes) (geometry : VolumeInfo) (l : Layout)
    (context : FileContext) : Prop where
  file : l.WellFormed image context.firstLogicalCluster context.fileSize
  followed : Followed image geometry l context.firstLogicalCluster context.fileSize

/-- The file of an entry, at its beginning. -/
def streamOf (image : Nat → Bytes) (l : Layout) (context : FileContext) : Stream where
  content := l.fileByte image context.firstLogicalCluster
  size := context.fileSize
  position := 0

/-- A catalog of a directory: its files are readable ones, the first with their names, and where it
says that there is no file, the whole directory has none. -/
structure Catalogues (image : Nat → Bytes) (geometry : VolumeInfo) (l : Layout)
    (contexts : List FileContext) (index : Nat) (context : FileContext)
    (catalog : Name → Option Listing) : Prop where
  file : ∀ pFilename s, catalog pFilename = some (.file s) → ∃ entry,
    contexts.find? (·.answers pFilename) = some entry ∧ Readable image geometry l entry ∧
      s = streamOf image l entry
  missing : ∀ pFilename, catalog pFilename = some .missing →
    (∀ entry ∈ contexts, entry.answers pFilename = false) ∧ ∃ index' context',
      browseCard image geometry index context = .ok (false, index', context')

variable {contexts : List FileContext} {index : Nat} {context : FileContext}
  {catalog : Name → Option Listing}

/-- A file that is opened is one stream more, at its beginning. -/
theorem Serves.open (matched : Matches geometry l) (volume : hFat ≠ 0)
    (scan : Scan image geometry contexts index context) (few : contexts.length < indexFuel)
    (serves : Serves image geometry l hFat heap desk) {pFilename : Name} {entry : FileContext}
    (answers : contexts.find? (·.answers pFilename) = some entry)
    (readable : Readable image geometry l entry) :
    ∃ heap', fatFileOpen heap hFat pFilename = .ok (desk.next, heap') ∧
      Serves image geometry l hFat heap' { desk.put desk.next (some (streamOf image l entry)) with
        next := desk.next + 1 } := by
  obtain ⟨left, reads, opened⟩ :=
    scan.fatFileOpen pFilename serves.mounted volume matched.mounted (Nat.le_of_lt few) answers
  obtain ⟨vol, card, rfl⟩ := reads
  have record := (heap.setVolume hFat vol).allocFile_files (openedFile hFat entry)
  have handle : (heap.setVolume hFat vol).next = desk.next := serves.next
  rw [handle] at record
  refine ⟨_, opened.trans (congrArg Except.ok (Prod.ext handle rfl)), ?_⟩
  refine ⟨⟨vol, Function.update_self _ _ _, card⟩, congrArg (· + 1) serves.next, Nat.succ_pos _,
    fun h t other => ?_⟩
  by_cases new : h = desk.next
  · subst new
    have update : (desk.put desk.next (some (streamOf image l entry))).streams desk.next =
        some (streamOf image l entry) := Function.update_self _ _ _
    have there : some (streamOf image l entry) = some t := update.symm.trans other
    obtain rfl := Option.some.inj there
    exact ⟨serves.positive, Nat.lt_succ_self _, openedFile hFat entry, record, rfl, rfl, rfl,
      Nat.zero_le _, rfl, rfl, readable.file, readable.followed, fun room =>
        tracks_first matched readable.file room rfl rfl⟩
  · have kept : (desk.put desk.next (some (streamOf image l entry))).streams h = desk.streams h :=
      Function.update_of_ne new _ _
    have there : desk.streams h = some t := kept.symm.trans other
    obtain ⟨low, high, info, record', stream⟩ := serves.files h t there
    refine ⟨low, Nat.lt_succ_of_lt high, info, ?_, stream⟩
    have old : h ≠ heap.next := by
      rw [serves.next]
      exact new
    exact (Function.update_of_ne old _ _).trans record'

/-- A name that no entry has opens nothing. -/
theorem Serves.missing (matched : Matches geometry l) (volume : hFat ≠ 0)
    (scan : Scan image geometry contexts index context) (few : contexts.length < indexFuel)
    (serves : Serves image geometry l hFat heap desk) {pFilename : Name}
    (none : ∀ entry ∈ contexts, entry.answers pFilename = false)
    (last : browseCard image geometry index context = .ok (false, index', context')) :
    ∃ heap', fatFileOpen heap hFat pFilename = .ok (0, heap') ∧
      Serves image geometry l hFat heap' desk := by
  obtain ⟨fuel, enough⟩ : ∃ fuel, indexFuel = contexts.length + (fuel + 1) :=
    ⟨indexFuel - contexts.length - 1, by omega⟩
  obtain ⟨heap₁, reads, same⟩ :=
    scan.openLoop pFilename serves.mounted volume matched.mounted none (fuel + 1)
  obtain ⟨heap₂, reads', browsed⟩ :=
    fatFileBrowseNext_found reads.mounted volume matched.mounted last
  obtain ⟨vol, here, card⟩ := serves.mounted
  have mount : vol.bMount = true := (card.field (·.bMount) fun _ _ => rfl).trans matched.mounted
  obtain ⟨vol', card', rfl⟩ := reads.trans reads'
  refine ⟨heap.setVolume hFat vol', ?_, ⟨vol', Function.update_self _ _ _, card'⟩, serves.next,
    serves.positive, serves.files⟩
  simp only [fatFileOpen, fatFileBrowseBegin, if_neg volume, here, mount, if_true]
  rw [enough, same]
  simp only [openLoop, browsed]

/-! ## Runs -/

section Runs

variable (matched : Matches geometry l) (volume : hFat ≠ 0)
  (scan : Scan image geometry contexts index context) (few : contexts.length < indexFuel)
  (catalogues : Catalogues image geometry l contexts index context catalog)

include matched volume scan few catalogues

/-- One call does what its request means. -/
theorem Serves.serve {request : Request} {answer : Answer}
    (serves : Serves image geometry l hFat heap desk)
    (means : desk.serve catalog request = some (answer, desk')) :
    ∃ heap', heap.serve hFat request = .ok (answer, heap') ∧
      Serves image geometry l hFat heap' desk' := by
  cases request with
  | «open» pFilename =>
    obtain ⟨listing, found, same⟩ := Option.map_eq_some_iff.mp means
    cases listing with
    | file s =>
      obtain ⟨rfl, rfl⟩ := Prod.mk.inj same
      obtain ⟨entry, answers, readable, rfl⟩ := catalogues.file pFilename s found
      obtain ⟨heap', opened, serves'⟩ := serves.open matched volume scan few answers readable
      exact ⟨heap', by rw [Heap.serve, opened]; rfl, serves'⟩
    | missing =>
      obtain ⟨rfl, rfl⟩ := Prod.mk.inj same
      obtain ⟨none, index', context', last⟩ := catalogues.missing pFilename found
      obtain ⟨heap', opened, serves'⟩ := serves.missing matched volume scan few none last
      exact ⟨heap', by rw [Heap.serve, opened]; rfl, serves'⟩
  | read hFile pBuffer nBufferSize =>
    obtain ⟨s, found, rest⟩ := Option.bind_eq_some_iff.mp means
    split at rest
    · rename_i inside
      obtain ⟨rfl, rfl⟩ := Prod.mk.inj (Option.some.inj rest)
      obtain ⟨heap', read, serves'⟩ :=
        serves.read matched volume found inside.1 inside.2 pBuffer
      exact ⟨heap', by rw [Heap.serve, read]; rfl, serves'⟩
    · contradiction
  | seek hFile seekPos nOffset =>
    obtain ⟨s, found, rest⟩ := Option.bind_eq_some_iff.mp means
    obtain ⟨position, target, same⟩ := Option.map_eq_some_iff.mp rest
    obtain ⟨rfl, rfl⟩ := Prod.mk.inj same
    obtain ⟨heap', moved, serves'⟩ := serves.seek matched volume found target
    exact ⟨heap', by rw [Heap.serve, moved]; rfl, serves'⟩
  | size hFile =>
    obtain ⟨s, found, same⟩ := Option.map_eq_some_iff.mp means
    obtain ⟨rfl, rfl⟩ := Prod.mk.inj same
    obtain ⟨-, -, info, record, stream⟩ := serves.files hFile s found
    refine ⟨heap, ?_, serves⟩
    rw [Heap.serve, fatFileSize, record]
    simp only [stream.opened, if_true, stream.fileSize]
    rfl
  | close hFile =>
    obtain ⟨s, found, same⟩ := Option.map_eq_some_iff.mp means
    obtain ⟨rfl, rfl⟩ := Prod.mk.inj same
    exact ⟨_, rfl, serves.close found⟩

/-- Any interleaving of calls does what its requests mean, by induction on the requests. -/
theorem Serves.serveAll {requests : List Request} {answers : List Answer}
    (serves : Serves image geometry l hFat heap desk)
    (means : desk.serveAll catalog requests = some (answers, desk')) :
    ∃ heap', heap.serveAll hFat requests = .ok (answers, heap') ∧
      Serves image geometry l hFat heap' desk' := by
  induction requests generalizing heap desk answers with
  | nil =>
    obtain ⟨rfl, rfl⟩ := Prod.mk.inj (Option.some.inj means)
    exact ⟨heap, rfl, serves⟩
  | cons request requests ih =>
    obtain ⟨⟨answer, desk₁⟩, first, rest⟩ := Option.bind_eq_some_iff.mp means
    obtain ⟨⟨others, desk₂⟩, later, same⟩ := Option.map_eq_some_iff.mp rest
    obtain ⟨rfl, rfl⟩ := Prod.mk.inj same
    obtain ⟨heap₁, served, serves₁⟩ :=
      serves.serve matched volume scan few catalogues first
    obtain ⟨heap₂, served', serves₂⟩ := ih serves₁ later
    refine ⟨heap₂, ?_, serves₂⟩
    rw [Heap.serveAll, served]
    show ((heap₁.serveAll hFat requests).map fun result => _) = _
    rw [served']
    rfl

end Runs

/-! ## Mounts -/

/-- The first search on an empty cache is as on any other. -/
theorem Fresh.fatFileOpen (fresh : Fresh image vol) (volume : hFat ≠ 0)
    (here : heap.volumes hFat = some vol) (pFilename : Name) :
    fatFileOpen heap hFat pFilename =
      fatFileOpen (heap.setVolume hFat (vol.cache image vol.calls noSecter)) hFat pFilename := by
  have filled : (heap.setVolume hFat (vol.cache image vol.calls noSecter)).volumes hFat =
      some (vol.cache image vol.calls noSecter) := Function.update_self _ _ _
  have mounted : (vol.cache image vol.calls noSecter).bMount = true := fresh.mounted
  obtain ⟨fuel, enough⟩ := indexFuel_succ
  simp only [Fat.fatFileOpen, fatFileBrowseBegin, if_neg volume, here, filled, fresh.mounted, mounted,
    if_true]
  rw [enough]
  simp only [openLoop, fresh.browseNext volume here]

/-- A desk on which nothing has been opened. -/
def Desk.empty (next : Nat) : Desk := ⟨fun _ => none, next⟩

/-- On a volume that has just been mounted, any interleaving of calls does what its requests mean for
the entries that browsing finds. -/
theorem Scan.serveAll {device : Device} {sdlibInit : Nat → Bool} {requests : List Request}
    {answers : List Answer} (holds : device.Holds image) (init : ∃ i < maxTry, sdlibInit i = true)
    (mount : fatMount device = some geometry) (root : dirSecter geometry 0 ≠ noSecter)
    (scan : Scan image geometry contexts index context) (few : contexts.length < indexFuel)
    (catalogues : Catalogues image geometry (layoutOf image) contexts index context catalog)
    (start : Heap) (positive : 0 < start.next)
    (means : (Desk.empty (start.next + 1)).serveAll catalog requests = some (answers, desk')) :
    ∃ heap', (let (hFat, heap) := fatMountSdcard sdlibInit device start
      heap.serveAll hFat requests) = .ok (answers, heap') := by
  have matched := fatMount_matches holds mount
  have fresh := fatMount_fresh holds mount root
  have volume : start.next ≠ 0 := Nat.ne_of_gt positive
  have ready : (List.range maxTry).any sdlibInit = true := by
    obtain ⟨i, low, ok⟩ := init
    exact List.any_eq_true.mpr ⟨i, List.mem_range.mpr low, ok⟩
  obtain ⟨heap, heapEq⟩ : ∃ heap, heap = (start.allocVolume geometry).2 := ⟨_, rfl⟩
  have mounted : fatMountSdcard sdlibInit device start = (start.next, heap) := by
    rw [fatMountSdcard, if_pos ready, mount, heapEq]
    rfl
  have here : heap.volumes start.next = some geometry := by
    rw [heapEq]
    exact Function.update_self _ _ _
  let filled := heap.setVolume start.next (geometry.cache image geometry.calls noSecter)
  have serves : Serves image geometry (layoutOf image) start.next filled
      (Desk.empty (start.next + 1)) := by
    refine ⟨⟨_, Function.update_self _ _ _, fresh.device, _, _, rfl⟩, ?_, Nat.succ_pos _,
      fun h s found => by contradiction⟩
    show heap.next = _
    rw [heapEq]
    rfl
  simp only [mounted]
  cases requests with
  | nil =>
    obtain ⟨rfl, rfl⟩ := Prod.mk.inj (Option.some.inj means)
    exact ⟨heap, rfl⟩
  | cons request requests =>
    obtain ⟨heap', served, -⟩ := serves.serveAll matched volume scan few catalogues means
    cases request with
    | «open» pFilename =>
      refine ⟨heap', Eq.trans ?_ served⟩
      rw [Heap.serveAll, Heap.serveAll, Heap.serve, Heap.serve,
        fresh.fatFileOpen volume here pFilename]
    -- before the first open there is no stream to ask for
    | _ => contradiction

/-! ## Files of the format -/

/-- A file that the library can read: its first cluster has a 16-bit number, and its chain is well
formed and followed. -/
structure FileItem.Readable (image : Nat → Bytes) (geometry : VolumeInfo) (l : Layout)
    (file : FileItem) : Prop where
  lowHalf : file.cluster < 65536
  chain : l.WellFormed image file.cluster file.size
  followed : Followed image geometry l file.cluster file.size

/-- A file, at its beginning. -/
def FileItem.stream (image : Nat → Bytes) (l : Layout) (file : FileItem) : Stream where
  content := l.fileByte image file.cluster
  size := file.size
  position := 0

/-- A file is opened by its long name, or by its short name in any case. -/
def FileItem.answers (pFilename : Name) (file : FileItem) : Bool :=
  if file.longName.isSome then file.name = pFilename else strcmpiEqual file.name pFilename

/-- What browsing finds for a file answers as the file does. -/
theorem FileItem.Describes.answers {file : FileItem} {place : Nat}
    (described : file.Describes place context) (pFilename : Name) :
    context.answers pFilename = file.answers pFilename := by
  simp only [FileContext.answers, nameMatches, described.name, Except.map, described.bLongFilename,
    FileItem.answers, Except.ok.injEq]
  split <;> simp

/-- The low half of a cluster with a 16-bit number is all of it. -/
theorem FileItem.Describes.cluster_eq {file : FileItem} {place : Nat}
    (described : file.Describes place context) (lowHalf : file.cluster < 65536) :
    context.firstLogicalCluster = file.cluster := by
  have halves := described.cluster
  have low := described.lowHalf
  omega

/-- A catalog of a directory: it names readable files, each the first that answers to its name, and
says that there is none where no file answers. -/
structure Catalog (image : Nat → Bytes) (geometry : VolumeInfo) (l : Layout) (files : List FileItem)
    (catalog : Name → Option Listing) : Prop where
  file : ∀ pFilename s, catalog pFilename = some (.file s) → ∃ file,
    files.find? (·.answers pFilename) = some file ∧ file.Readable image geometry l ∧
      s = file.stream image l
  missing : ∀ pFilename, catalog pFilename = some .missing →
    ∀ file ∈ files, file.answers pFilename = false

/-- The files of a directory. -/
def filesOf (items : List DirItem) : List FileItem := (filesFrom 0 items).map Prod.snd

variable {items : List DirItem} {stop : Nat}

/-- The first file that answers, and what browsing finds for it. -/
theorem find?_described (pFilename : Name) {places : List (Nat × FileItem)} {file : FileItem}
    (both : List.Forall₂ (fun (place : Nat × FileItem) context => place.2.Describes place.1 context)
      places contexts) (found : (places.map Prod.snd).find? (·.answers pFilename) = some file) :
    ∃ place context, contexts.find? (·.answers pFilename) = some context ∧
      file.Describes place context := by
  induction both with
  | nil => contradiction
  | @cons place context places contexts described both ih =>
    rw [List.map_cons, List.find?_cons] at found
    rw [List.find?_cons, described.answers]
    cases answers : place.2.answers pFilename with
    | true =>
      rw [answers] at found
      obtain rfl := Option.some.inj found
      exact ⟨place.1, context, rfl, described⟩
    | false =>
      rw [answers] at found
      exact ih found

/-- A directory has fewer files than entries. -/
theorem filesFrom_length (start : Nat) (items : List DirItem) :
    (filesFrom start items).length ≤ (items.flatMap DirItem.entries).length := by
  induction items generalizing start with
  | nil => exact Nat.le_refl 0
  | cons item items ih =>
    rw [List.flatMap_cons, List.length_append]
    cases item with
    | free entry => exact Nat.le_trans (ih _) (Nat.le_add_left _ _)
    | file file =>
      have some := file.entries_length
      have rest := ih (start + file.pieces + 1)
      show (filesFrom (start + file.pieces + 1) items).length + 1 ≤ file.entries.length + _
      omega

/-- The catalog of a directory is one of what browsing finds. -/
theorem Catalog.catalogues (names : Catalog image geometry l (filesOf items) catalog)
    (both : List.Forall₂ (fun (place : Nat × FileItem) context => place.2.Describes place.1 context)
      (filesFrom 0 items) contexts)
    (last : ∃ index' context', browseCard image geometry index context =
      .ok (false, index', context')) :
    Catalogues image geometry l contexts index context catalog where
  file pFilename s found := by
    obtain ⟨file, first, readable, rfl⟩ := names.file pFilename s found
    obtain ⟨place, entry, there, described⟩ := find?_described pFilename both first
    have cluster := described.cluster_eq readable.lowHalf
    refine ⟨entry, there, ⟨?_, ?_⟩, ?_⟩
    · rw [cluster, described.fileSize]
      exact readable.chain
    · rw [cluster, described.fileSize]
      exact readable.followed
    · rw [FileItem.stream, streamOf, cluster, described.fileSize]
  missing pFilename found := by
    refine ⟨fun entry inside => ?_, last⟩
    obtain ⟨i, low, rfl⟩ := List.getElem_of_mem inside
    have count := both.length_eq
    have described := both.get (by omega) low
    exact (described.answers pFilename).trans (names.missing pFilename found _
      (List.mem_map_of_mem (List.getElem_mem (by omega))))

/-- On a card whose root directory is laid out as the format says, from the mount on, any
interleaving of opens, reads, seeks, size queries and closes answers as streams do that share
nothing, one for each open file, with the bytes of its chain. -/
theorem fatMountSdcard_serveAll {device : Device} {sdlibInit : Nat → Bool} {requests : List Request}
    {answers : List Answer} (holds : device.Holds image) (init : ∃ i < maxTry, sdlibInit i = true)
    (mount : fatMount device = some geometry) (root : dirSecter geometry 0 ≠ noSecter)
    (directory : Directory image geometry stop 0 items)
    (names : Catalog image geometry (layoutOf image) (filesOf items) catalog)
    (start : Heap) (positive : 0 < start.next)
    (means : (Desk.empty (start.next + 1)).serveAll catalog requests = some (answers, desk')) :
    ∃ heap', (let (hFat, heap) := fatMountSdcard sdlibInit device start
      heap.serveAll hFat requests) = .ok (answers, heap') := by
  have fresh := fatMount_fresh holds mount root
  obtain ⟨contexts, index, context, scan, both, last⟩ := directory.scan fresh.device .nil rfl
  have few : contexts.length < indexFuel := by
    have count := both.length_eq
    have entries := filesFrom_length 0 items
    have ends := directory.ends
    have range := directory.range
    rw [indexFuel]
    omega
  exact scan.serveAll holds init mount root few (names.catalogues both last) start positive means

/-- `A.TXT`, of 700 bytes in clusters 3 and 5. -/
def fileA : FileItem where
  longName := none
  short := [0x41, 0x20, 0x20, 0x20, 0x20, 0x20, 0x20, 0x20, 0x54, 0x58, 0x54]
  attributes := 0x20
  created := List.replicate 8 0
  written := List.replicate 4 0
  cluster := 3
  size := 700

/-- `My second file.txt`, of 600 bytes in clusters 4 and 6. -/
def fileB : FileItem where
  longName := some [0x4D, 0x79, 0x20, 0x73, 0x65, 0x63, 0x6F, 0x6E, 0x64, 0x20, 0x66, 0x69, 0x6C, 0x65,
    0x2E, 0x74, 0x78, 0x74]
  short := [0x4D, 0x59, 0x53, 0x45, 0x43, 0x4F, 0x7E, 0x31, 0x54, 0x58, 0x54]
  attributes := 0x20
  created := List.replicate 8 0
  written := List.replicate 4 0
  cluster := 4
  size := 600

/-- A directory with both files, and a free entry between them. -/
def twoItems : List DirItem := [.file fileA, .free [0xE5], .file fileB]

/-- The sectors of a card with that directory. -/
def twoFiles : List (Nat × Bytes) :=
  [(2, blockOf [(12, [5, 0, 0, 0, 6, 0, 0, 0, 0xFF, 0xFF, 0xFF, 0x0F, 0xFF, 0xFF, 0xFF, 0x0F])]),
    (515, blockOf ((twoItems.flatMap DirItem.entries).mapIdx fun i entry => (32 * i, entry))),
    (516, blockOf [(510, [1, 2])]),
    (518, blockOf [(0, [3, 4])]),
    (517, blockOf [(510, [5, 6])]),
    (519, blockOf [(0, [7, 8])])]

/-- The card. -/
abbrev twoFilesCard : Nat → Bytes := fat32Card twoFiles

/-- Its catalog, with a name that it does not have. -/
def twoFilesCatalog : Name → Option Listing := fun pFilename =>
  if pFilename = fileA.name then some (.file (fileA.stream twoFilesCard (layoutOf twoFilesCard)))
  else if pFilename = fileB.name then
    some (.file (fileB.stream twoFilesCard (layoutOf twoFilesCard)))
  else if pFilename = [0x43] then some .missing
  else none

/-- The card has the directory. -/
theorem twoFiles_directory :
    Directory twoFilesCard (cardVolume twoFilesCard) 5 0 twoItems where
  valid item inside := by
    have a : fileA.Valid := ⟨by decide, by decide, by decide, by decide, by decide, by decide,
      by decide, fun name some => by contradiction⟩
    have b : fileB.Valid := ⟨by decide, by decide, by decide, by decide, by decide, by decide,
      by decide, fun name some => by obtain rfl := Option.some.inj some; decide +kernel⟩
    have free : Skipped (entryOf [0xE5]) := by unfold Skipped; decide +kernel
    simp only [twoItems, List.mem_cons, List.not_mem_nil, or_false] at inside
    rcases inside with rfl | rfl | rfl
    · exact a
    · exact free
    · exact b
  written i entry found := by
    have inside : i < 5 := (List.getElem?_eq_some_iff.mp found).1
    unfold SameEntryBytes
    interval_cases i <;> obtain rfl := Option.some.inj found <;> decide +kernel
  ends := rfl
  mark := by decide +kernel
  range := by decide

/-- Both files are readable. -/
theorem twoFiles_readable {file : FileItem} (one : file = fileA ∨ file = fileB) :
    file.Readable twoFilesCard (cardVolume twoFilesCard) (layoutOf twoFilesCard) := by
  have matched := fatMount_matches (imageDevice_holds _) (fat32Card_mount twoFiles)
  have bytes : (layoutOf twoFilesCard).clusterBytes = 512 := by decide +kernel
  have size : file.size ≤ 1024 := by
    rcases one with rfl | rfl <;> decide
  have whole : (layoutOf twoFilesCard).WellFormed twoFilesCard file.cluster 1024 := by
    rcases one with rfl | rfl <;>
      exact Layout.wellFormed_of_two (by decide +kernel) (by decide +kernel) (by decide +kernel)
  have chain := whole.shrink size
  refine ⟨by rcases one with rfl | rfl <;> decide, chain, chain.followed matched fun j needed => ?_⟩
  obtain rfl : j = 0 := by
    rw [bytes] at needed
    omega
  rcases one with rfl | rfl <;> decide +kernel

/-- The catalog is one of the directory. -/
theorem twoFiles_catalog : Catalog twoFilesCard (cardVolume twoFilesCard) (layoutOf twoFilesCard)
    (filesOf twoItems) twoFilesCatalog where
  file pFilename s found := by
    simp only [twoFilesCatalog] at found
    split at found
    · rename_i same
      obtain rfl := Listing.file.inj (Option.some.inj found)
      exact ⟨fileA, by rw [same]; decide, twoFiles_readable (.inl rfl), rfl⟩
    · split at found
      · rename_i same
        obtain rfl := Listing.file.inj (Option.some.inj found)
        exact ⟨fileB, by rw [same]; decide, twoFiles_readable (.inr rfl), rfl⟩
      · split at found <;> simp at found
  missing pFilename found := by
    simp only [twoFilesCatalog] at found
    split at found
    · simp at found
    · split at found
      · simp at found
      · split at found
        · rename_i same
          rw [same]
          decide
        · simp at found

/-- Reads of both files by turns, across the ends of their clusters. -/
def twoFilesRequests : List Request :=
  [.open fileA.name, .open fileB.name, .read 2 (fun _ => 0) 512, .read 3 (fun _ => 0) 513,
    .open [0x43], .close 3, .seek 2 .fileSeekEnd (-190), .read 2 (fun _ => 0) 4, .size 2]

/-- What they answer. -/
theorem fatMountSdcard_serveAll_twoFiles : ∃ one other again heap',
    (let (hFat, heap) := fatMountSdcard (fun _ => true) (imageDevice twoFilesCard) Heap.empty
    heap.serveAll hFat twoFilesRequests) =
      .ok ([.open 2, .open 3, .read true one, .read true other, .open 0, .close, .seek true,
        .read true again, .size 700], heap') ∧
    other 512 = 7 ∧ (List.range 4).map again = [1, 2, 3, 4] := by
  have first : ∃ i < maxTry, (fun _ : Nat => true) i = true := ⟨0, by decide, rfl⟩
  obtain ⟨heap', served⟩ := fatMountSdcard_serveAll (imageDevice_holds _) first
    (fat32Card_mount twoFiles) (fat32Card_fresh twoFiles).root twoFiles_directory twoFiles_catalog
    Heap.empty (by decide)
    (show (Desk.empty 2).serveAll twoFilesCatalog twoFilesRequests = some _ from rfl)
  exact ⟨_, _, _, heap', served, by decide +kernel, by decide +kernel⟩

end SoundBoard.Fat
