import SoundBoard.Fat.Chain
import SoundBoard.Player.Isolation

/-!
# From the card to the player

The blocks that `waveplay_start` and `waveplay_execute` load, compared with the bytes of the
file on the card. Block number `i` since the start of a song is to hold the bytes of the file
from `512 * i` on.
-/

namespace SoundBoard.Player

open SoundBoard.Lib SoundBoard.Fat SoundBoard.Wave

/-- Loaded blocks hold the bytes of a file, each from 512 times its number on. -/
def LoadsBlocks (content : Nat → UInt8) (size : Nat) (blocks : List (Nat × Bytes)) : Prop :=
  ∀ i count szBuf, blocks[i]? = some (count, szBuf) →
    ∀ b, b < count → 512 * i + b < size → szBuf b = content (512 * i + b)

/-- From its start on, a song loads the blocks of a file, and no load fails before the end of
the file. -/
def LoadsFile (content : Nat → UInt8) (size k : Nat) (p : Globals Heap) : Prop :=
  ∀ garbage out, waveplayStart fatApi garbage k p = .ok out →
    LoadsBlocks content size (loads out.events) ∧ (0 < size → loads out.events ≠ []) ∧
    (out.ok = true → ∀ later n events q, Plays fatApi later k out.player n events q →
      LoadsBlocks content size (loads (out.events ++ events)) ∧
      ∀ garbage' last, ¬atEnd (q.gWavePlay k) → waveplayExecute fatApi garbage' k q = .ok last →
        last.ok = true ∨ size ≤ 512 * (loads (out.events ++ (events ++ last.events))).length)

/-- The directory entry of the file that opens for a song. -/
def OpensEntry (image : Nat → Bytes) (geometry : VolumeInfo) (k : Nat) (p : Globals Heap)
    (entry : Bytes) : Prop :=
  ∃ hFile files context, fatFileOpen p.files p.hFat (p.gWavePlay k).szFilename = .ok (hFile, files) ∧
    hFile ≠ 0 ∧ files.files hFile = some (openedFile p.hFat context) ∧
    entry = dirEntry image geometry context.dirEntryIndex

/-- A song on a mounted and listed card, and the directory entry of its well-formed file. -/
structure SongOnCard (image : Nat → Bytes) (geometry : VolumeInfo) (k : Nat) (p : Globals Heap)
    (entry : Bytes) : Prop where
  mount : ∃ device : Device, device.Holds image ∧ fatMount device = some geometry
  reached : Reached image geometry p
  opens : OpensEntry image geometry k p entry
  file : (layoutOf image).WellFormed image (firstCluster entry) (fileSize entry)

/-- Memory from a song's buffer on, with the first block of a file in the buffer. -/
def startView (k : Nat) (p : Globals Heap) (block : Bytes) (garbage : Garbage) : View :=
  bufView (Function.update p.gWavePlay k { p.gWavePlay k with
    szBuf := copyAt (p.gWavePlay k).szBuf 0 block waveBufSize }) garbage k

/-- The samples begin in the first block, or last for at least a block. -/
def WholeBlocks (offset size : Int) : Prop :=
  toU32 offset ≤ 512 ∨ toU32 (toU32 offset + size) ≤ toU32 offset ∨
    toU32 offset + 512 ≤ toU32 (toU32 offset + size)

/-- The condition under which the blocks of a file are loaded: its first cluster has a 16-bit
number, the library follows its chain, and its header announces samples that are read in whole
blocks. -/
structure Loadable (image : Nat → Bytes) (geometry : VolumeInfo) (k : Nat) (p : Globals Heap)
    (entry : Bytes) : Prop where
  lowHalf : le16 entry 20 = 0
  followed : Followed image geometry (layoutOf image) (firstCluster entry) (fileSize entry)
  whole : ∀ garbage offset size,
    waveGetWaveOffset (startView k p (image ((layoutOf image).blockSecter image
      (firstCluster entry) 0)) garbage) waveBufSize = some offset →
    waveGetDataByteSize (startView k p (image ((layoutOf image).blockSecter image
      (firstCluster entry) 0)) garbage) waveBufSize = some size → WholeBlocks offset size

/-! ## Blocks in order -/

/-- Behind the end of the file any block will do. -/
theorem LoadsBlocks.behind {content : Nat → UInt8} {size : Nat} {blocks : List (Nat × Bytes)}
    (loaded : LoadsBlocks content size blocks) (behind : size ≤ 512 * blocks.length)
    (more : List (Nat × Bytes)) : LoadsBlocks content size (blocks ++ more) := by
  intro i count szBuf found b inside within
  by_cases early : i < blocks.length
  · rw [List.getElem?_append_left early] at found
    exact loaded i count szBuf found b inside within
  · omega

/-- The next block. -/
theorem LoadsBlocks.next {content : Nat → UInt8} {size count : Nat} {szBuf : Bytes}
    {blocks : List (Nat × Bytes)} (loaded : LoadsBlocks content size blocks)
    (block : ∀ b, b < count → szBuf b = content (512 * blocks.length + b)) :
    LoadsBlocks content size (blocks ++ [(count, szBuf)]) := by
  intro i count' szBuf' found b inside within
  by_cases early : i < blocks.length
  · rw [List.getElem?_append_left early] at found
    exact loaded i count' szBuf' found b inside within
  · rw [List.getElem?_append_right (Nat.not_lt.mp early)] at found
    have last : i = blocks.length := by
      have := (List.getElem?_eq_some_iff.mp found).1
      simp only [List.length_singleton] at this
      omega
    rw [last, Nat.sub_self] at found
    obtain ⟨rfl, rfl⟩ := Prod.mk.inj (Option.some.inj found)
    rw [last]
    exact block b inside

/-! ## Runs -/

variable {image : Nat → Bytes} {geometry : VolumeInfo} {l : Layout} {first size k : Nat}
  {p q : Globals Heap} {out : Outcome Heap}

/-- The next load reads block `i`: the file is at the block, and so is the read position. -/
structure BeforeBlock (image : Nat → Bytes) (geometry : VolumeInfo) (l : Layout)
    (first size k i : Nat) (q : Globals Heap) : Prop where
  mounted : q.files.Mounted image geometry q.hFat
  volume : q.hFat ≠ 0
  some : (q.gWavePlay k).hFile ≠ 0
  file : ∃ info, q.files.files (q.gWavePlay k).hFile = Option.some info ∧ info.fat = q.hFat ∧
    AtBlock image geometry l first size i info
  readPos : (q.gWavePlay k).uWaveReadPos = 512 * i
  near : (q.gWavePlay k).uWaveReadPos ≤ (q.gWavePlay k).uWavePlayPos + 512
  whole : (q.gWavePlay k).uWavePlayPos ≤ (q.gWavePlay k).uWaveReadPos ∨
    (q.gWavePlay k).uWaveMaxPlayPos ≤ (q.gWavePlay k).uWavePlayPos ∨
    (q.gWavePlay k).uWavePlayPos + 512 ≤ (q.gWavePlay k).uWaveMaxPlayPos
  range : (q.gWavePlay k).uWaveMaxPlayPos < 4294967296

/-- The samples have all been loaded. -/
structure AllLoaded (k : Nat) (q : Globals Heap) : Prop where
  last : (q.gWavePlay k).uWaveMaxPlayPos ≤ (q.gWavePlay k).uWaveReadPos
  order : (q.gWavePlay k).uWavePlayPos ≤ (q.gWavePlay k).uWaveReadPos
  near : (q.gWavePlay k).uWaveReadPos ≤ (q.gWavePlay k).uWavePlayPos + 512
  range : (q.gWavePlay k).uWaveReadPos < 4294967296

/-- What every call keeps, for the events since the start. -/
structure Loading (image : Nat → Bytes) (geometry : VolumeInfo) (l : Layout) (first size k : Nat)
    (events : List Event) (q : Globals Heap) : Prop where
  loaded : LoadsBlocks (l.fileByte image first) size (loads events)
  next : size ≤ 512 * (loads events).length ∨
    BeforeBlock image geometry l first size k (loads events).length q ∨ AllLoaded k q

/-- The song after a successful read in a refill. -/
def Globals.refilled (q : Globals Heap) (k : Nat) (szBuf : Bytes) (files : Heap) : Globals Heap :=
  { q with files }.setSong k { q.gWavePlay k with
    szBuf
    uWaveReadPos := toU32 ((q.gWavePlay k).uWaveReadPos + readSize (q.gWavePlay k)) }

/-- A refill inside the file reads its next block, or what the samples need of it. -/
theorem BeforeBlock.read {i : Nat} (file : l.WellFormed image first size)
    (matched : Matches geometry l) (followed : Followed image geometry l first size)
    (before : BeforeBlock image geometry l first size k i q) (inside : 512 * i < size)
    (onward : ¬atEnd (q.gWavePlay k))
    (empty : (q.gWavePlay k).uWaveReadPos ≤ (q.gWavePlay k).uWavePlayPos) :
    ∃ files, fatFileRead q.files (q.gWavePlay k).hFile (q.gWavePlay k).szBuf
        (readSize (q.gWavePlay k)) =
        .ok (true, copyAt (q.gWavePlay k).szBuf 0 (image (l.blockSecter image first i))
          (readSize (q.gWavePlay k)), files) ∧
      ∀ szBuf, size ≤ 512 * (i + 1) ∨
        BeforeBlock image geometry l first size k (i + 1) (q.refilled k szBuf files) ∨
          AllLoaded k (q.refilled k szBuf files) := by
  obtain ⟨mounted, volume, some, ⟨info, found, fat, at_⟩, readPos, near, whole, range⟩ := before
  simp only [atEnd, Nat.not_le] at onward
  have count := readSize_eq onward range
  obtain ⟨files, info', read, mounted', found', fat', next⟩ := fatFileRead_block file matched
    followed mounted volume some found fat at_ inside (show 0 < readSize (q.gWavePlay k) by omega)
    (by omega) (q.gWavePlay k).szBuf
  refine ⟨files, read, fun szBuf => ?_⟩
  by_cases behind : size ≤ 512 * (i + 1)
  · exact .inl behind
  refine .inr ?_
  have position := toU32_readPos onward range empty
  by_cases full : readSize (q.gWavePlay k) = 512
  · refine .inl ⟨mounted', volume, ?_, ⟨info', ?_, fat', next full (Nat.not_le.mp behind)⟩,
      ?_, ?_, ?_, ?_⟩ <;> simp only [Globals.refilled, Globals.setSong_self, position]
    · exact some
    · exact found'
    · omega
    · omega
    · omega
    · exact range
  · refine .inr ⟨?_, ?_, ?_, ?_⟩ <;>
      simp only [Globals.refilled, Globals.setSong_self, position] <;> omega

/-- One more load. -/
theorem loads_load (before events : List Event) (count : Nat) (szBuf : Bytes) :
    loads (before ++ (events ++ [.load count szBuf])) =
      loads (before ++ events) ++ [(count, szBuf)] := by
  simp [loads]

variable {before events : List Event}

/-- Behind the end of the file any load will do. -/
theorem Loading.behind (loading : Loading image geometry l first size k (before ++ events) q)
    (behind : size ≤ 512 * (loads (before ++ events)).length) (count : Nat) (szBuf : Bytes)
    (q' : Globals Heap) :
    Loading image geometry l first size k (before ++ (events ++ [.load count szBuf])) q' := by
  refine ⟨?_, .inl ?_⟩ <;> rw [loads_load]
  · exact loading.loaded.behind behind _
  · rw [List.length_append]
    omega

/-- The refill loop. -/
theorem Loading.refill (file : l.WellFormed image first size) (matched : Matches geometry l)
    (followed : Followed image geometry l first size) (fuel : Nat)
    (loading : Loading image geometry l first size k (before ++ events) q)
    (onward : ¬atEnd (q.gWavePlay k)) (run : refillLoop fatApi k fuel events q = .ok out) :
    Loading image geometry l first size k (before ++ out.events) out.player ∧
      (out.ok = true ∨ size ≤ 512 * (loads (before ++ out.events)).length) ∧
      (out.ok = true →
        (out.player.gWavePlay k).uWavePlayPos < (out.player.gWavePlay k).uWaveReadPos) := by
  induction fuel generalizing events q with
  | zero => contradiction
  | succ fuel ih =>
    by_cases ready : (q.gWavePlay k).uWavePlayPos < (q.gWavePlay k).uWaveReadPos
    · rw [refillLoop_ready fuel events ready] at run
      obtain rfl := Except.ok.inj run
      exact ⟨loading, .inl rfl, fun _ => ready⟩
    have empty := Nat.not_lt.mp ready
    have still (szBuf : Bytes) (files : Heap) :
        ¬atEnd ((q.refilled k szBuf files).gWavePlay k) := by
      simpa [Globals.refilled, atEnd] using onward
    by_cases behind : size ≤ 512 * (loads (before ++ events)).length
    · simp only [refillLoop, ready, ↓reduceIte] at run
      split at run
      · contradiction
      · exact ih (loading.behind behind _ _ _) (still _ _) run
      · obtain rfl := Except.ok.inj run
        exact ⟨⟨loading.loaded, .inl behind⟩, .inr behind, by simp⟩
    · rcases loading.next with past | here | done
      · exact absurd past behind
      · obtain ⟨files, read, next⟩ := here.read file matched followed (Nat.not_le.mp behind) onward
          empty
        rw [refillLoop_read fuel events empty read] at run
        refine ih ⟨?_, ?_⟩ (still _ files) run
        · rw [loads_load]
          refine loading.loaded.next fun b inside => ?_
          rw [copyAt_inside _ _ _ _ _ (Nat.zero_le b) (by omega), Layout.fileByte]
          have size := Nat.min_le_left 512
            (toU32 ((q.gWavePlay k).uWaveMaxPlayPos - (q.gWavePlay k).uWavePlayPos))
          change readSize (q.gWavePlay k) ≤ 512 at size
          congr 2 <;> omega
        · have last := next (copyAt (q.gWavePlay k).szBuf 0
            (image (l.blockSecter image first (loads (before ++ events)).length))
            (readSize (q.gWavePlay k)))
          rw [loads_load, List.length_append]
          exact last
      · have last := done.last
        simp only [atEnd, Nat.not_le] at onward
        omega

/-- Playing leaves the file at its block. -/
theorem BeforeBlock.play {i : Nat} (garbage : Garbage)
    (before : BeforeBlock image geometry l first size k i q)
    (ready : (q.gWavePlay k).uWavePlayPos < (q.gWavePlay k).uWaveReadPos)
    (range : (q.gWavePlay k).uWaveReadPos < 4294967296) :
    BeforeBlock image geometry l first size k i (playBuffer garbage k q).2 := by
  obtain ⟨mounted, volume, some, record, readPos, near, whole, last⟩ := before
  have played := Nat.mul_div_le ((q.gWavePlay k).uWaveReadPos - (q.gWavePlay k).uWavePlayPos) 4
  rw [playBuffer_player (Nat.le_of_lt ready) near range]
  refine ⟨mounted, volume, ?_, ?_, ?_, ?_, ?_, ?_⟩ <;> simp only [Globals.setSong_self]
  · exact some
  · exact record
  · exact readPos
  · omega
  · omega
  · exact last

/-- Playing what has been loaded. -/
theorem Loading.play (file : l.WellFormed image first size) (garbage : Garbage)
    (loading : Loading image geometry l first size k before q)
    (ready : (q.gWavePlay k).uWavePlayPos < (q.gWavePlay k).uWaveReadPos) :
    Loading image geometry l first size k (before ++ (playBuffer garbage k q).1)
      (playBuffer garbage k q).2 := by
  have events : loads (before ++ (playBuffer garbage k q).1) = loads before := by
    simp [playBuffer]
  have played := Nat.mul_div_le ((q.gWavePlay k).uWaveReadPos - (q.gWavePlay k).uWavePlayPos) 4
  obtain ⟨loaded, next⟩ := loading
  have limit := file.range
  refine ⟨by rwa [events], ?_⟩
  rw [events]
  by_cases behind : size ≤ 512 * (loads before).length
  · exact .inl behind
  rcases next with past | here | done
  · exact .inl past
  · have readPos := here.readPos
    exact .inr (.inl (here.play garbage ready (by omega)))
  · obtain ⟨last, order, near, range⟩ := done
    rw [playBuffer_player order near range]
    refine .inr (.inr ⟨?_, ?_, ?_, ?_⟩) <;> simp only [Globals.setSong_self] <;> omega

/-- A call that does not begin the song again. -/
theorem Loading.execute (file : l.WellFormed image first size) (matched : Matches geometry l)
    (followed : Followed image geometry l first size) {garbage : Garbage}
    (loading : Loading image geometry l first size k before q) (onward : ¬atEnd (q.gWavePlay k))
    (run : waveplayExecute fatApi garbage k q = .ok out) :
    Loading image geometry l first size k (before ++ out.events) out.player ∧
      (out.ok = true ∨ size ≤ 512 * (loads (before ++ out.events)).length) := by
  by_cases song : k ≤ maxSongs
  · rw [waveplayExecute_onward song onward] at run
    split at run
    · contradiction
    · rename_i refill filled
      obtain ⟨kept, ok, ready⟩ := Loading.refill file matched followed _
        (by rwa [List.append_nil]) onward filled
      split at run
      · rename_i success
        obtain rfl := Except.ok.inj run
        rw [← List.append_assoc]
        exact ⟨kept.play file garbage (ready success), .inl rfl⟩
      · obtain rfl := Except.ok.inj run
        exact ⟨kept, ok⟩
  · simp [waveplayExecute, song] at run

/-- The memory that a start queries, whatever the file record is. -/
theorem bufView_start (block : Bytes) (garbage : Garbage) {szBuf : Bytes}
    (buffer : szBuf = copyAt (p.gWavePlay k).szBuf 0 block waveBufSize) {hFile : Nat}
    (table : q.gWavePlay = Function.update p.gWavePlay k { p.gWavePlay k with hFile, szBuf }) :
    bufView q.gWavePlay garbage k = startView k p block garbage := by
  rw [table, buffer]
  exact bufView_hFile p.gWavePlay garbage k hFile
    { p.gWavePlay k with szBuf := copyAt (p.gWavePlay k).szBuf 0 block waveBufSize }

/-- The song's file is open, its first block is in the buffer, and the header has not been
queried yet. -/
structure FirstLoaded (image : Nat → Bytes) (geometry : VolumeInfo) (l : Layout)
    (first size k : Nat) (p : Globals Heap) (out : Outcome Heap) : Prop where
  ok : out.ok = true
  block : ∃ hFile szBuf,
    szBuf = copyAt (p.gWavePlay k).szBuf 0 (image (l.blockSecter image first 0)) waveBufSize ∧
      out.player.gWavePlay = Function.update p.gWavePlay k { p.gWavePlay k with hFile, szBuf } ∧
      out.events = [.load waveBufSize szBuf]
  mounted : out.player.files.Mounted image geometry out.player.hFat
  volume : out.player.hFat ≠ 0
  handle : (out.player.gWavePlay k).hFile ≠ 0
  file : 512 < size → ∃ info, out.player.files.files (out.player.gWavePlay k).hFile =
    Option.some info ∧ info.fat = out.player.hFat ∧ AtBlock image geometry l first size 1 info

/-- The opening part of a start loads the first block of the file. -/
theorem waveplayOpen_firstLoaded (garbage : Garbage) {hFile : Nat} {files : Heap}
    {context : FileContext} (file : l.WellFormed image first size) (matched : Matches geometry l)
    (followed : Followed image geometry l first size)
    (mounted : p.files.Mounted image geometry p.hFat)
    (opens : fatFileOpen p.files p.hFat (p.gWavePlay k).szFilename = .ok (hFile, files))
    (some : hFile ≠ 0) (found : files.files hFile = Option.some (openedFile p.hFat context))
    (cluster : context.firstLogicalCluster = first) (content : 0 < size) :
    ∃ out, waveplayOpen fatApi garbage k p = .ok out ∧
      FirstLoaded image geometry l first size k p out := by
  have volume := fatFileOpen_volume opens some
  have mounted' := fatFileOpen_mounted mounted opens
  have at_ := file.opened matched p.hFat cluster content
  obtain ⟨files', info', read, mounted'', found', fat', next⟩ := fatFileRead_block file matched
    followed mounted' volume some found rfl at_ (by omega) (show 0 < waveBufSize by decide)
    (by decide) (p.gWavePlay k).szBuf
  refine ⟨_, waveplayOpen_read fatApi opens some read, rfl, ⟨hFile, _, rfl, rfl, rfl⟩, mounted'', volume, ?_, fun more => ?_⟩
  · simpa using some
  · refine ⟨info', ?_, fat', next rfl (by omega)⟩
    simpa using found'

/-- The first block is the first block of the file. -/
theorem FirstLoaded.loads (loaded : FirstLoaded image geometry l first size k p out) :
    LoadsBlocks (l.fileByte image first) size (loads out.events) ∧
      (Player.loads out.events).length = 1 := by
  obtain ⟨_, ⟨hFile, szBuf, buffer, _, events⟩, _⟩ := loaded
  rw [events]
  refine ⟨?_, rfl⟩
  have none : LoadsBlocks (l.fileByte image first) size [] := fun i count szBuf found => by
    simp at found
  refine none.next fun b inside => ?_
  have high : b < 512 := inside
  rw [buffer, copyAt_inside _ _ _ _ _ (Nat.zero_le b) (by omega), Layout.fileByte]
  congr 2 <;> rw [List.length_nil] <;> omega

/-- The header part of a start loads nothing, and prepares the song for its next block. -/
theorem FirstLoaded.prepare {garbage : Garbage} {last : Outcome Heap}
    (loaded : FirstLoaded image geometry l first size k p out)
    (whole : ∀ offset size',
      waveGetWaveOffset (startView k p (image (l.blockSecter image first 0)) garbage)
        waveBufSize = some offset →
      waveGetDataByteSize (startView k p (image (l.blockSecter image first 0)) garbage)
        waveBufSize = some size' → WholeBlocks offset size')
    (run : waveplayPrepare garbage k out.events out.player = .ok last) :
    Player.loads last.events = Player.loads out.events ∧
      (last.ok = true → Loading image geometry l first size k last.events last.player) := by
  obtain ⟨blocks, length⟩ := loaded.loads
  obtain ⟨_, ⟨hFile, szBuf, buffer, table, _⟩, mounted, volume, handle, file⟩ := loaded
  rcases waveplayPrepare_cases run with ⟨refused, events, _⟩ | ⟨_, ⟨rate, events⟩, offset, size',
    prepared⟩
  · rw [events]
    exact ⟨rfl, fun ok => absurd (refused.symm.trans ok) (by decide)⟩
  · have same : Player.loads last.events = Player.loads out.events := by
      rw [events, loads_append, loads_rateEvents, List.append_nil]
    obtain ⟨_, offsetRead, sizeRead, player⟩ := prepared
    rw [bufView_start _ garbage buffer table] at offsetRead sizeRead
    have inOrder := whole offset size' offsetRead sizeRead
    refine ⟨same, fun _ => ⟨?_, ?_⟩⟩ <;> rw [same]
    · exact blocks
    · rw [length, player]
      by_cases behind : size ≤ 512 * 1
      · exact .inl behind
      · refine .inr (.inl ⟨mounted, volume, ?_, ?_, ?_, ?_, ?_, ?_⟩) <;>
          simp only [Globals.setSong_self, PlaywaveContext.prepared, waveBufSize]
        · exact handle
        · exact file (Nat.not_le.mp behind)
        · omega
        · exact inOrder
        · exact toU32_lt _

/-- The blocks of a started song, through all its calls. -/
theorem Loading.plays (file : l.WellFormed image first size) (matched : Matches geometry l)
    (followed : Followed image geometry l first size) {later : Nat → Garbage} {n : Nat}
    (loading : Loading image geometry l first size k before p)
    (run : Plays fatApi later k p n events q) :
    Loading image geometry l first size k (before ++ events) q := by
  refine run.invariant (fun events q =>
    Loading image geometry l first size k (before ++ events) q) (by rwa [List.append_nil]) ?_
  intro n events q out kept onward call
  rw [← List.append_assoc]
  exact (kept.execute file matched followed onward call).1

/-- Where the condition holds, a song loads the blocks of its file. -/
theorem loadsFile_of_loadable {entry : Bytes} (card : SongOnCard image geometry k p entry)
    (loadable : Loadable image geometry k p entry) :
    LoadsFile ((layoutOf image).fileByte image (firstCluster entry)) (fileSize entry) k p := by
  obtain ⟨⟨device, holds, mount⟩, reached, opens, file⟩ := card
  obtain ⟨hFile, files, context, opened, handle, found, rfl⟩ := opens
  obtain ⟨lowHalf, followed, whole⟩ := loadable
  have matched := fatMount_matches holds mount
  have mounted := reached.ready.mounted
  intro garbage out run
  by_cases content : 0 < fileSize (dirEntry image geometry context.dirEntryIndex)
  · have cluster : context.firstLogicalCluster =
        firstCluster (dirEntry image geometry context.dirEntryIndex) := by
      obtain ⟨context', found', fields⟩ := fatFileOpen_entry mounted opened handle
      have same := congrArg (·.directory) (Option.some.inj (found'.symm.trans found))
      change context' = context at same
      subst same
      exact fields.cluster lowHalf
    obtain ⟨firstOut, firstRun, loaded⟩ := waveplayOpen_firstLoaded garbage file matched followed
      mounted opened handle found cluster content
    have song : k ≤ maxSongs := by
      by_contra out_
      simp [waveplayStart, out_] at run
    rw [waveplayStart, if_pos song, firstRun] at run
    simp only [loaded.ok, ↓reduceIte] at run
    obtain ⟨blocks, length⟩ := loaded.loads
    obtain ⟨same, started⟩ := loaded.prepare (whole garbage) run
    rw [same]
    refine ⟨blocks, fun _ none => ?_, fun ok later n events q plays => ?_⟩
    · rw [none] at length
      contradiction
    · have loading := (started ok).plays file matched followed plays
      refine ⟨loading.loaded, fun garbage' last onward call => ?_⟩
      rw [← List.append_assoc]
      exact (loading.execute file matched followed onward call).2
  · have vacuous (blocks : List (Nat × Bytes)) :
        LoadsBlocks ((layoutOf image).fileByte image
          (firstCluster (dirEntry image geometry context.dirEntryIndex)))
          (fileSize (dirEntry image geometry context.dirEntryIndex)) blocks :=
      fun _ _ _ _ _ _ within => by omega
    exact ⟨vacuous _, fun some => absurd some content, fun _ _ _ _ _ _ =>
      ⟨vacuous _, fun _ _ _ _ => .inr (by omega)⟩⟩

/-! ## A file of two clusters -/

/-- The sectors of a card with one file, `A.WAV`, whose first cluster has the low half 3. There
are stereo samples at cluster 3 and at cluster 65539, with different first bytes, each in a chain
of two clusters. -/
def twoChains (high : UInt8) : List (Nat × Bytes) :=
  let header := stereoHeader [0xF8, 3, 0, 0] [0xD4, 3, 0, 0]
  [(2, blockOf [(12, [4, 0, 0, 0, 0xFF, 0xFF, 0xFF, 0x0F])]),
    (514, blockOf [(12, [4, 0, 1, 0, 0xFF, 0xFF, 0xFF, 0x0F])]),
    (515, blockOf [(0, [0x41, 0x20, 0x20, 0x20, 0x20, 0x20, 0x20, 0x20, 0x57, 0x41, 0x56, 0x20]),
      (20, [high, 0]), (26, [3, 0, 0, 4, 0, 0])]),
    (516, blockOf [(0, header ++ [1])]), (66052, blockOf [(0, header ++ [2])])]

/-- The card. -/
abbrev twoChainsCard (high : UInt8) : Nat → Bytes := fat32Card (twoChains high)

/-- The entry of its file. -/
abbrev twoChainsEntry (high : UInt8) : Bytes :=
  dirEntry (twoChainsCard high) (cardVolume (twoChainsCard high)) 0

/-- The file that opens for a song, by the index of its entry. -/
theorem opensEntry_of {index hFile : Nat} (mounted : p.files.Mounted image geometry p.hFat)
    (run : (fatFileOpen p.files p.hFat (p.gWavePlay k).szFilename).map
      (fun opened => (opened.1, (opened.2.files opened.1).map (·.directory.dirEntryIndex))) =
        .ok (hFile, some index)) (open_ : hFile ≠ 0) :
    OpensEntry image geometry k p (dirEntry image geometry index) := by
  obtain ⟨⟨hFile, files⟩, opened, same⟩ := map_eq_ok run
  obtain ⟨rfl, place⟩ := Prod.mk.inj same
  obtain ⟨context, found, _⟩ := fatFileOpen_entry mounted opened open_
  refine ⟨hFile, files, context, opened, open_, found, ?_⟩
  simp only [found, Option.map_some, Option.some.injEq] at place
  rw [← place]
  rfl

/-- The file is well formed, wherever its chain begins. -/
theorem twoChains_wellFormed {high : UInt8} (small : high = 0 ∨ high = 1) :
    (layoutOf (twoChainsCard high)).WellFormed (twoChainsCard high)
      (firstCluster (twoChainsEntry high)) (fileSize (twoChainsEntry high)) := by
  have size : fileSize (twoChainsEntry high) = 1024 := by
    rcases small with rfl | rfl <;> decide +kernel
  rw [size]
  rcases small with rfl | rfl <;>
    exact Layout.wellFormed_of_two (by decide +kernel) (by decide +kernel) (by decide +kernel)

/-- The card is listed with one song, whose file is the file of the entry. -/
theorem twoChains_song {high : UInt8} (small : high = 0 ∨ high = 1) :
    ∃ count p, listCard (twoChains high) = .ok (count, p) ∧
      SongOnCard (twoChainsCard high) (cardVolume (twoChainsCard high)) 0 p
        (twoChainsEntry high) := by
  have run : (listCard (twoChains high)).bind (fun listed =>
      (fatFileOpen listed.2.files listed.2.hFat (listed.2.gWavePlay 0).szFilename).map
        fun opened => (opened.1, (opened.2.files opened.1).map (·.directory.dirEntryIndex))) =
        .ok (4, some 0) := by
    rcases small with rfl | rfl <;> decide +kernel
  obtain ⟨⟨count, p⟩, listed, opened⟩ := bind_eq_ok run
  have reached := Reached.listed (listCard_listed listed)
  exact ⟨count, p, listed, ⟨imageDevice _, imageDevice_holds _, fat32Card_mount _⟩, reached,
    opensEntry_of reached.ready.mounted opened (by decide), twoChains_wellFormed small⟩

/-- A file whose first cluster has a number above 65535 is not the one that is played. -/
theorem not_loadsFile_highCluster : ∃ p,
    SongOnCard (twoChainsCard 1) (cardVolume (twoChainsCard 1)) 0 p (twoChainsEntry 1) ∧
      ¬LoadsFile ((layoutOf (twoChainsCard 1)).fileByte (twoChainsCard 1)
        (firstCluster (twoChainsEntry 1))) (fileSize (twoChainsEntry 1)) 0 p := by
  obtain ⟨count, p, listed, song⟩ := twoChains_song (.inr rfl)
  refine ⟨p, song, fun loadsFile => ?_⟩
  have run : (listCard (twoChains 1)).bind (fun listed =>
      (waveplayStart fatApi .zero 0 listed.2).map fun started =>
        (loads started.events).map fun block => (block.1, block.2 44)) = .ok [(512, 1)] := by
    decide +kernel
  rw [listed] at run
  obtain ⟨out, started, blocks⟩ := map_eq_ok run
  obtain ⟨⟨count, szBuf⟩, one, same⟩ := List.map_eq_singleton_iff.mp blocks
  obtain ⟨rfl, played⟩ := Prod.mk.inj same
  have right := (loadsFile .zero out started).1 0 512 szBuf (by rw [one]; rfl) 44 (by decide)
    (by decide +kernel)
  exact absurd (played.symm.trans right) (by decide +kernel)

/-- Memory with the first block in the buffer holds the block. -/
theorem startView_same (song : k ≤ maxSongs) (block : Bytes) (garbage : Garbage) :
    SameBlock (fun i => block i.toNat) (startView k p block garbage) waveBufSize := by
  intro i low high
  rw [startView, bufView_inside _ _ song low high, Function.update_self]
  exact (copyAt_inside (p.gWavePlay k).szBuf 0 block waveBufSize i.toNat (Nat.zero_le _)
    (by simp only [waveBufSize] at high ⊢; omega)).symm

/-- The library follows the chain that begins at cluster 3. -/
theorem twoChains_followed :
    Followed (twoChainsCard 0) (cardVolume (twoChainsCard 0)) (layoutOf (twoChainsCard 0))
      (firstCluster (twoChainsEntry 0)) 1024 := by
  have matched := fatMount_matches (imageDevice_holds _) (fat32Card_mount (twoChains 0))
  have size : fileSize (twoChainsEntry 0) = 1024 := by decide +kernel
  have file := twoChains_wellFormed (.inl (rfl : (0 : UInt8) = 0))
  rw [size] at file
  refine file.followed matched fun j needed => ?_
  have bytes : (layoutOf (twoChainsCard 0)).clusterBytes = 512 := by decide +kernel
  obtain rfl : j = 0 := by
    rw [bytes] at needed
    omega
  decide +kernel

/-- Whatever lies behind the buffer, the header of that file announces 980 bytes at 44. -/
theorem twoChains_header (p : Globals Heap) (garbage : Garbage) :
    waveGetWaveOffset (startView 0 p (twoChainsCard 0 ((layoutOf (twoChainsCard 0)).blockSecter
        (twoChainsCard 0) (firstCluster (twoChainsEntry 0)) 0)) garbage) waveBufSize = some 44 ∧
      waveGetDataByteSize (startView 0 p (twoChainsCard 0 ((layoutOf (twoChainsCard 0)).blockSecter
        (twoChainsCard 0) (firstCluster (twoChainsEntry 0)) 0)) garbage) waveBufSize =
        some 980 := by
  have stays : Stays (fun i => twoChainsCard 0 516 i.toNat) waveBufSize chunkData 8 := by
    decide +kernel
  have block : (layoutOf (twoChainsCard 0)).blockSecter (twoChainsCard 0)
      (firstCluster (twoChainsEntry 0)) 0 = 516 := by decide +kernel
  rw [block, ← waveGetWaveOffset_same (startView_same (by decide) _ garbage) stays,
    ← waveGetDataByteSize_same (startView_same (by decide) _ garbage) stays]
  decide +kernel

/-- The file of the same card whose chain begins at cluster 3 satisfies the condition. -/
theorem loadsFile_of_loadable_twoChains : ∃ p,
    SongOnCard (twoChainsCard 0) (cardVolume (twoChainsCard 0)) 0 p (twoChainsEntry 0) ∧
      LoadsFile ((layoutOf (twoChainsCard 0)).fileByte (twoChainsCard 0)
        (firstCluster (twoChainsEntry 0))) (fileSize (twoChainsEntry 0)) 0 p := by
  obtain ⟨count, p, listed, song⟩ := twoChains_song (.inl rfl)
  have size : fileSize (twoChainsEntry 0) = 1024 := by decide +kernel
  refine ⟨p, song, loadsFile_of_loadable song
    ⟨by decide +kernel, size ▸ twoChains_followed, fun garbage offset _ offsetRead _ => ?_⟩⟩
  have found := (twoChains_header p garbage).1
  obtain rfl := Option.some.inj (found.symm.trans offsetRead)
  exact .inl (by decide)

end SoundBoard.Player
