import SoundBoard.Fat.Directory
import SoundBoard.Player.Membership

/-!
# Listing a card

The entries of a card's root directory as `build_wave_play_list` meets them, each with the
first block of the file that opens under its name (`DirectoryEntries`), and the passes of the
listing over them.
-/

namespace SoundBoard.Player

open SoundBoard.Lib SoundBoard.Fat SoundBoard.Wave

/-- The entries found so far on a card. The file of an entry is the first one that answers to
its name. -/
structure DirectoryEntries (image : Nat → Bytes) (geometry : VolumeInfo) (entries : List Entry)
    (index : Nat) (context : FileContext) : Prop where
  scan : Scan image geometry (entries.map (·.context)) index context
  content : ∀ entry ∈ entries, ∃ first,
    (entries.map (·.context)).find? (·.answers entry.name) = some first ∧
      entry.content = firstBytes image geometry first

/-- A heap with the volume of a card. -/
def OnHeap (image : Nat → Bytes) (geometry : VolumeInfo) (hFat : Nat) (files : Heap) : Prop :=
  files.Mounted image geometry hFat ∧ 0 < files.next

variable {image : Nat → Bytes} {geometry : VolumeInfo} {l : Layout} {hFat index index' : Nat}
  {context context' : FileContext} {entries : List Entry} {entry : Entry}

/-! ## Entries -/

/-- Before the first browse there are none. -/
theorem DirectoryEntries.nil :
    DirectoryEntries image geometry [] 4294967295 FileContext.blank :=
  ⟨.nil, fun _ inside => absurd inside List.not_mem_nil⟩

/-- The entry that is found next. -/
theorem DirectoryEntries.snoc (directory : DirectoryEntries image geometry entries index context)
    (next : browseCard image geometry index context = .ok (true, index', context')) :
    ∃ entry : Entry, entry.context = context' ∧
      DirectoryEntries image geometry (entries ++ [entry]) index' context' := by
  obtain ⟨name, named⟩ := browseCard_named next
  obtain ⟨first, found⟩ : ∃ first,
      (entries.map (·.context) ++ [context']).find? (·.answers name) = some first :=
    Option.isSome_iff_exists.mp (List.find?_isSome.mpr
      ⟨context', List.mem_append_right _ List.mem_cons_self, FileContext.answers_self named⟩)
  refine ⟨⟨context', name, firstBytes image geometry first, named⟩, rfl, ?_, fun entry inside => ?_⟩
  · rw [List.map_append]
    exact directory.scan.snoc next
  · rw [List.map_append]
    rcases List.mem_append.mp inside with before | last
    · obtain ⟨own, found', content⟩ := directory.content entry before
      exact ⟨own, by rw [List.find?_append, found']; rfl, content⟩
    · obtain rfl := List.mem_singleton.mp last
      exact ⟨first, found, rfl⟩

/-- The last entry and those before it. -/
theorem DirectoryEntries.before
    (directory : DirectoryEntries image geometry (entries ++ [entry]) index' context') :
    ∃ index context, DirectoryEntries image geometry entries index context ∧
      browseCard image geometry index context = .ok (true, index', context') ∧
        entry.context = context' := by
  obtain ⟨scan, content⟩ := directory
  rw [List.map_append, List.map_singleton] at scan
  generalize whole : entries.map (·.context) ++ [entry.context] = contexts at scan
  cases scan with
  | nil => simp at whole
  | @snoc contexts index _ context _ scan next =>
    obtain ⟨same, last⟩ := List.append_inj' whole rfl
    subst same
    refine ⟨index, context, ⟨scan, fun other inside => ?_⟩, next, (List.cons.inj last).1⟩
    obtain ⟨first, found, block⟩ := content other (List.mem_append_left _ inside)
    obtain ⟨own, found'⟩ : ∃ own,
        (entries.map (·.context)).find? (·.answers other.name) = some own :=
      Option.isSome_iff_exists.mp (List.find?_isSome.mpr
        ⟨other.context, List.mem_map_of_mem inside, FileContext.answers_self other.named⟩)
    rw [List.map_append, List.find?_append, found'] at found
    exact ⟨own, found', by rw [block, ← Option.some.inj found]⟩

/-- The volume of a card with sectors of 512 bytes. -/
structure CardVolume (geometry : VolumeInfo) : Prop where
  mounted : geometry.bMount = true
  bytes : geometry.bpbBytsPerSec = 512
  clusterBytes : geometry.nBytesPerCluster = 512 * geometry.bpbSecPerCluster

/-- The file of an entry opens under its name. -/
theorem DirectoryEntries.open (directory : DirectoryEntries image geometry entries index context)
    (volume : CardVolume geometry) (some : hFat ≠ 0) (few : entries.length ≤ indexFuel)
    (inside : entry ∈ entries) {files : Heap} (valid : OnHeap image geometry hFat files) :
    ∃ heap first, files.Reads image geometry hFat heap ∧
      entry.content = firstBytes image geometry first ∧
      fatFileOpen files hFat entry.name = .ok (heap.allocFile (openedFile hFat first)) := by
  obtain ⟨first, found, content⟩ := directory.content entry inside
  rw [← List.length_map (·.context)] at few
  obtain ⟨heap, reads, opened⟩ := directory.scan.fatFileOpen entry.name valid.1 some volume.mounted
    few found
  exact ⟨heap, first, reads, content, opened⟩

/-- On a volume whose clusters have sectors, the file opens and its first block reads. -/
theorem DirectoryEntries.opensAs (directory : DirectoryEntries image geometry entries index context)
    (volume : CardVolume geometry) (some : hFat ≠ 0) (few : entries.length ≤ indexFuel)
    (secters : 0 < geometry.bpbSecPerCluster) (inside : entry ∈ entries) :
    OpensAs fatApi (OnHeap image geometry hFat) hFat entry.name entry.content := by
  intro files valid
  obtain ⟨heap, first, reads, content, opened⟩ := directory.open volume some few inside valid
  have positive : 0 < heap.next := by
    obtain ⟨vol, _, rfl⟩ := reads
    exact valid.2
  have alloc : (heap.allocFile (openedFile hFat first)).2.Mounted image geometry hFat := reads.mounted
  have clusters : geometry.nBytesPerCluster ≠ 0 := by
    rw [volume.clusterBytes]
    omega
  refine ⟨_, _, Nat.ne_of_gt positive, opened, fun szBuf n low high => ?_⟩
  obtain ⟨last, read, mounted, next⟩ := fatFileRead_first alloc some (Nat.ne_of_gt positive)
    (heap.allocFile_files _) volume.bytes secters clusters low high szBuf
  have later : 0 < last.next := by
    rw [next]
    exact Nat.succ_pos _
  refine ⟨last, ?_, ⟨mounted, later⟩, ?_⟩
  · rw [content]
    exact read
  · have closed : fatFileClose last heap.next = last.freeFile heap.next :=
      if_neg (Nat.ne_of_gt positive)
    change OnHeap image geometry hFat (fatFileClose last heap.next)
    rw [closed]
    exact ⟨mounted, later⟩

/-! ## Passes -/

/-- The loop of the listing behind some entries of the card. -/
structure ListingAt (image : Nat → Bytes) (geometry : VolumeInfo) (hFat : Nat)
    (garbage : Nat → Garbage) (entries : List Entry) (index : Nat) (context : FileContext)
    (st : ListState Heap) : Prop where
  directory : DirectoryEntries image geometry entries index context
  walking : Walking (OnHeap image geometry hFat)
    (fun handle fileContext _ => handle = ⟨index, hFat⟩ ∧ fileContext = context) hFat []
    (accepted garbage 0 false entries) st
  flag : st.bFlag = entries.any (endsWithWav ·.name)

variable {garbage : Nat → Garbage} {st st' : ListState Heap}

/-- The loop with the next entry in its browse context. -/
def ListState.browsed (st : ListState Heap) (files : Heap) (hFileBrowse : BrowseHandle)
    (fileContext : FileContext) : ListState Heap :=
  { st.setFiles files with hFileBrowse, fileContext }

/-- There is room in the tables for the name of an entry, if it is added. -/
def RoomFor (garbage : Nat → Garbage) (entries : List Entry) (entry : Entry) : Prop :=
  (((entries ++ [entry]).any (endsWithWav ·.name)) &&
      passes (garbage entries.length) entry.content) = true →
    (accepted garbage 0 false entries).length ≤ maxSongs ∧ nameFits entry.name

/-- A pass over an entry that is found next. -/
structure PassOver (image : Nat → Bytes) (geometry : VolumeInfo) (hFat : Nat)
    (garbage : Nat → Garbage) (entries : List Entry) (entry : Entry) (index' : Nat)
    (st : ListState Heap) (result : Exec (ListState Heap)) : Prop where
  inside : RoomFor garbage entries entry → result ≠ .error .outOfBounds
  returns : ∀ st', result = .ok st' → RoomFor garbage entries entry ∧
    ListingAt image geometry hFat garbage (entries ++ [entry]) index' entry.context st'

/-- What a pass does. -/
theorem ListingAt.pass (at_ : ListingAt image geometry hFat garbage entries index context st)
    (volume : CardVolume geometry) (some : hFat ≠ 0) (few : entries.length < indexFuel)
    (directory : DirectoryEntries image geometry (entries ++ [entry]) index' entry.context)
    {files : Heap} (reads : st.player.files.Reads image geometry hFat files) :
    PassOver image geometry hFat garbage entries entry index' st
      (listEntry fatApi (garbage entries.length)
        (st.browsed files ⟨index', hFat⟩ entry.context)) := by
  obtain ⟨_, ⟨files', volume', _, holds⟩, flag⟩ := at_
  have valid : OnHeap image geometry hFat files := by
    refine ⟨reads.mounted, ?_⟩
    obtain ⟨vol, _, rfl⟩ := reads
    exact files'.2
  have walking : Walking (OnHeap image geometry hFat)
      (fun handle fileContext _ => handle = ⟨index', hFat⟩ ∧ fileContext = entry.context) hFat []
      (accepted garbage 0 false entries) (st.browsed files ⟨index', hFat⟩ entry.context) :=
    ⟨valid, volume', ⟨rfl, rfl⟩, holds.count, holds.list, holds.table⟩
  have whole : (entries ++ [entry]).any (endsWithWav ·.name) =
      (st.bFlag || endsWithWav entry.name) := by
    rw [List.any_append, flag, List.any_cons, List.any_nil, Bool.or_false]
  have names : accepted garbage 0 false (entries ++ [entry]) = accepted garbage 0 false entries ++
      if (st.bFlag || endsWithWav entry.name) && passes (garbage entries.length) entry.content then
        [entry.name] else [] := by
    rw [accepted_append, accepted, accepted, Bool.false_or, ← flag, List.append_nil, Nat.zero_add]
  have last : entry ∈ entries ++ [entry] := List.mem_append_right _ List.mem_cons_self
  have count : (entries ++ [entry]).length ≤ indexFuel := by
    rw [List.length_append, List.length_singleton]
    exact few
  by_cases secters : 0 < geometry.bpbSecPerCluster
  · have opens := directory.opensAs volume some count secters last
    obtain ⟨inside, returns⟩ := walking.entry_bounds opens rfl (garbage entries.length)
    refine ⟨fun room => inside ?_, fun st' run => ⟨?_, directory, ?_, ?_⟩⟩
    · rwa [RoomFor, whole] at room
    · rw [RoomFor, whole]
      exact returns st' run
    · rw [names]
      exact (walking.entry opens rfl run).1
    · rw [whole]
      exact (walking.entry opens rfl run).2
  · have none : geometry.nBytesPerCluster = 0 := by
      rw [volume.clusterBytes]
      omega
    have named : waveFilename entry.context = .ok entry.name := entry.named
    cases up : st.bFlag || endsWithWav entry.name with
    | false =>
      have unflagged : listEntry fatApi (garbage entries.length)
          (st.browsed files ⟨index', hFat⟩ entry.context) =
          .ok { st.browsed files ⟨index', hFat⟩ entry.context with bFlag := false } :=
        listEntry_unflagged named up
      rw [unflagged]
      refine ⟨fun _ => by simp, fun st' run => ⟨fun added => ?_, directory, ?_, ?_⟩⟩
      · rw [whole, up] at added
        contradiction
      · obtain rfl := Except.ok.inj run
        rw [names, up]
        simp only [Bool.false_and, Bool.false_eq_true, ↓reduceIte, List.append_nil]
        exact ⟨valid, volume', ⟨rfl, rfl⟩, holds.count, holds.list, holds.table⟩
      · obtain rfl := Except.ok.inj run
        rw [whole, up]
    | true =>
      obtain ⟨heap, first, onHeap, _, opened⟩ := directory.open volume some count last valid
      have positive : heap.next ≠ 0 := by
        obtain ⟨vol, _, rfl⟩ := onHeap
        exact Nat.ne_of_gt valid.2
      have mounted : (heap.allocFile (openedFile hFat first)).2.Mounted image geometry hFat :=
        onHeap.mounted
      have failed : listEntry fatApi (garbage entries.length)
          (st.browsed files ⟨index', hFat⟩ entry.context) = .error .divideByZero := by
        have opened' : fatApi.fatFileOpen files st.player.hFat entry.name =
            .ok (heap.next, (heap.allocFile (openedFile hFat first)).2) := by
          rw [volume']
          exact opened
        have fault' : fatApi.fatFileRead (heap.allocFile (openedFile hFat first)).2 heap.next
            st.szHeader sizeofHeader = .error .divideByZero :=
          fatFileRead_noSecters mounted some positive (heap.allocFile_files _) none st.szHeader
        simp only [listEntry, ListState.browsed, named, ListState.setFiles, up, ↓reduceIte, opened',
          positive, fault']
      rw [failed]
      exact ⟨fun _ => by simp, fun _ run => by simp at run⟩

/-! ## The loop -/

/-- The loop behind some entries, by what browsing finds next: it fails with the browse, ends, or
makes a pass and goes on. -/
theorem ListingAt.next (at_ : ListingAt image geometry hFat garbage entries index context st)
    (volume : CardVolume geometry) (some : hFat ≠ 0) (fuel pass : Nat) :
    match browseCard image geometry index context with
    | .error fault => listLoop fatApi garbage (fuel + 1) pass st = .error fault
    | .ok (false, _, _) => ∃ st', listLoop fatApi garbage (fuel + 1) pass st = .ok st' ∧
        st'.count = st.count ∧ st'.player.gWavePlay = st.player.gWavePlay ∧
        st'.player.hFat = st.player.hFat
    | .ok (true, index', context') => ∃ files, st.player.files.Reads image geometry hFat files ∧
        listLoop fatApi garbage (fuel + 1) pass st =
          (listEntry fatApi (garbage pass) (st.browsed files ⟨index', hFat⟩ context')).bind
            (listLoop fatApi garbage fuel (pass + 1)) := by
  obtain ⟨_, ⟨⟨mounted, _⟩, _, ⟨handle, here⟩, _⟩, _⟩ := at_
  have agree := fatFileBrowseNext_card mounted some volume.mounted index context
  have browse : fatApi.fatFileBrowseNext st.player.files st.hFileBrowse st.fileContext =
      fatFileBrowseNext st.player.files ⟨index, hFat⟩ context := by
    rw [handle, here]
    rfl
  generalize fatFileBrowseNext st.player.files ⟨index, hFat⟩ context = left at agree browse
  generalize browseCard image geometry index context = right at agree
  cases agree with
  | error fault => simp only [listLoop, browse]
  | @ok a b both =>
    obtain ⟨bFind, hFileBrowse, fileContext, files⟩ := a
    obtain ⟨bFind', index', context'⟩ := b
    obtain ⟨found, reached, same, reads⟩ := both
    simp only at found reached same reads
    subst found reached same
    cases bFind with
    | false =>
      refine ⟨{ st.setFiles files with hFileBrowse := ⟨index', hFat⟩, fileContext }, ?_, rfl, rfl, rfl⟩
      simp only [listLoop, browse, Bool.false_eq_true, ↓reduceIte, ListState.setFiles]
    | true => exact ⟨files, reads, listLoop_found fuel pass browse⟩

end SoundBoard.Player
