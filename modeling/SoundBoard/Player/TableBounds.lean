import SoundBoard.Player.CardListing
import SoundBoard.Player.Isolation

/-!
# The tables of the listing

When the listing of a card writes inside its arrays: the song tables, the names in them, and
the buffer in which a long name is put together. A write outside an array is the fault
`outOfBounds` of the model.
-/

namespace SoundBoard.Player

open SoundBoard.Lib SoundBoard.Fat SoundBoard.Wave

/-- A card whose listing fits into the arrays. The entries are those found so far, at every
point of the listing. -/
structure FitsTables (image : Nat → Bytes) (geometry : VolumeInfo) (garbage : Nat → Garbage) :
    Prop where
  songs : ∀ entries index context, DirectoryEntries image geometry entries index context →
    (accepted garbage 0 false entries).length ≤ maxSongs + 1
  names : ∀ entries index context, DirectoryEntries image geometry entries index context →
    ∀ name ∈ accepted garbage 0 false entries, nameFits name
  longNames : ∀ entries index context, DirectoryEntries image geometry entries index context →
    LongNameFits image geometry indexFuel index

variable {image : Nat → Bytes} {geometry : VolumeInfo} {hFat index : Nat}
  {context : FileContext} {entries : List Entry} {entry : Entry} {garbage : Nat → Garbage}
  {st last : ListState Heap}

/-- The names accepted so far, with one more entry. -/
theorem accepted_snoc (entries : List Entry) (entry : Entry) :
    accepted garbage 0 false (entries ++ [entry]) = accepted garbage 0 false entries ++
      if ((entries ++ [entry]).any (endsWithWav ·.name)) &&
        passes (garbage entries.length) entry.content then [entry.name] else [] := by
  rw [accepted_append, accepted, accepted, Bool.false_or, List.append_nil, Nat.zero_add,
    List.any_append, List.any_cons, List.any_nil, Bool.or_false]

/-- Browsing leaves the name buffer exactly when the next long name does not fit. -/
theorem browseCard_outOfBounds (device : geometry.readBlock512.Holds image) :
    browseCard image geometry index context = .error .outOfBounds ↔
      ¬LongNameFits image geometry indexFuel index := by
  have card : OnCard image geometry (geometry.cache image 0 0) := ⟨device, 0, 0, rfl⟩
  have loop : browseLoop indexFuel (geometry.cache image 0 0) index context 0 false =
      .error .outOfBounds ↔ _ := browseLoop_outOfBounds indexFuel card
  rw [← loop, browseCard]
  cases browseLoop indexFuel (geometry.cache image 0 0) index context 0 false <;> simp [Except.map]

/-- Where the card fits, the loop of the listing stays inside the arrays. -/
theorem ListingAt.inside (volume : CardVolume geometry)
    (device : geometry.readBlock512.Holds image) (some : hFat ≠ 0)
    (fits : FitsTables image geometry garbage) (fuel : Nat)
    (at_ : ListingAt image geometry hFat garbage entries index context st)
    (enough : entries.length + fuel = indexFuel) :
    listLoop fatApi garbage fuel entries.length st ≠ .error .outOfBounds := by
  induction fuel generalizing entries index context st with
  | zero => simp [listLoop]
  | succ fuel ih =>
    have next := at_.next volume some fuel entries.length
    have browse : browseCard image geometry index context ≠ .error .outOfBounds := fun out =>
      (browseCard_outOfBounds device).mp out (fits.longNames entries index context at_.directory)
    cases found : browseCard image geometry index context with
    | error fault =>
      rw [found] at next browse
      rw [next]
      simpa using browse
    | ok answer =>
      obtain ⟨bFind, index', context'⟩ := answer
      rw [found] at next
      cases bFind with
      | false =>
        obtain ⟨st', run, _⟩ := next
        rw [run]
        simp
      | true =>
        obtain ⟨files, reads, run⟩ := next
        obtain ⟨entry, rfl, directory⟩ := at_.directory.snoc found
        have pass := at_.pass volume some (by omega) directory reads
        have room : RoomFor garbage entries entry := by
          intro added
          have songs := fits.songs _ _ _ directory
          have names := fits.names _ _ _ directory
          rw [accepted_snoc, if_pos added] at songs names
          rw [List.length_append, List.length_singleton] at songs
          exact ⟨Nat.le_of_succ_le_succ songs, names _ (List.mem_append_right _ List.mem_cons_self)⟩
        have inside := pass.inside room
        rw [run]
        cases result : listEntry fatApi (garbage entries.length)
            (st.browsed files ⟨index', hFat⟩ entry.context) with
        | error fault =>
          rw [result] at inside
          simpa [Except.bind] using inside
        | ok after =>
          have onward := ih (pass.returns after result).2
            (by rw [List.length_append, List.length_singleton]; omega)
          rw [List.length_append, List.length_singleton] at onward
          exact onward

/-- A listing that returns has gone through every entry of the card, and each has fitted. -/
theorem ListingAt.returned (volume : CardVolume geometry) (some : hFat ≠ 0)
    (start : ListingAt image geometry hFat garbage [] 4294967295 FileContext.blank st)
    (run : listLoop fatApi garbage indexFuel 0 st = .ok last)
    (directory : DirectoryEntries image geometry entries index context) :
    ∃ st fuel, entries.length + fuel = indexFuel ∧
      ListingAt image geometry hFat garbage entries index context st ∧
      listLoop fatApi garbage fuel entries.length st = .ok last ∧
      (accepted garbage 0 false entries).length ≤ maxSongs + 1 ∧
      ∀ name ∈ accepted garbage 0 false entries, nameFits name := by
  induction entries using List.reverseRecOn generalizing index context with
  | nil =>
    have scan := directory.scan
    rw [List.map_nil] at scan
    generalize nothing : ([] : List FileContext) = contexts at scan
    cases scan with
    | nil => exact ⟨st, indexFuel, Nat.zero_add _, start, run, Nat.zero_le _, by simp [accepted]⟩
    | snoc scan next => simp at nothing
  | append_singleton entries entry ih =>
    obtain ⟨before, context₀, directory₀, found, same⟩ := directory.before
    obtain ⟨st₀, fuel, enough, at_, loop, songs, names⟩ := ih directory₀
    obtain ⟨fuel, rfl⟩ : ∃ rest, fuel = rest + 1 := by
      cases fuel with
      | zero => simp [listLoop] at loop
      | succ rest => exact ⟨rest, rfl⟩
    have next := at_.next volume some fuel entries.length
    rw [found] at next
    obtain ⟨files, reads, onward⟩ := next
    subst same
    have pass := at_.pass volume some (by omega) directory reads
    rw [onward] at loop
    obtain ⟨after, result, rest⟩ := bind_eq_ok loop
    obtain ⟨room, at'⟩ := pass.returns after result
    refine ⟨after, fuel, ?_, at', ?_, ?_, ?_⟩
    · rw [List.length_append, List.length_singleton]
      omega
    · rwa [List.length_append, List.length_singleton]
    · rw [accepted_snoc]
      split
      · rename_i added
        rw [List.length_append, List.length_singleton]
        exact Nat.succ_le_succ (room added).1
      · rwa [List.append_nil]
    · rw [accepted_snoc]
      intro name inside
      split at inside
      · rename_i added
        rcases List.mem_append.mp inside with inside | inside
        · exact names name inside
        · obtain rfl := List.mem_singleton.mp inside
          exact (room added).2
      · rw [List.append_nil] at inside
        exact names name inside

/-! ## Listing a card that has been mounted -/

/-- The volume of a mount. -/
theorem fatMount_cardVolume {device : Device} (holds : device.Holds image)
    (mount : fatMount device = some geometry) : CardVolume geometry := by
  have matched := fatMount_matches holds mount
  refine ⟨matched.mounted, matched.bytes, ?_⟩
  rw [matched.clusterBytes, matched.perCluster, Layout.clusterBytes]

/-- The cache of a mount is empty and cleared. -/
theorem fatMount_cache {device : Device} (holds : device.Holds image)
    (mount : fatMount device = some geometry) :
    geometry.readBlock512.Holds image ∧ geometry.secterIndex = noSecter ∧
      geometry.secterData = fun _ => 0 := by
  simp only [fatMount, holds 0 0, holds 1, ↓reduceIte] at mount
  split at mount
  · split at mount
    · obtain rfl := Option.some.inj mount
      exact ⟨holds, rfl, rfl⟩
    · contradiction
  · contradiction

/-- The condition on a card: it fits into the arrays, or its root directory begins at the sector
whose number stands for an empty cache, so that the listing ends at once. -/
def ListsInside (image : Nat → Bytes) (geometry : VolumeInfo) (garbage : Nat → Garbage) : Prop :=
  dirSecter geometry 0 = noSecter ∨ FitsTables image geometry garbage

/-- A root directory that begins in the cleared cache has no entry. -/
theorem browseLoop_cleared {index' : Nat} (fuel : Nat) (last : (index + 1) % 4294967296 = index')
    (here : dirSecter geometry index' = geometry.secterIndex)
    (cleared : geometry.secterData = fun _ => 0) :
    browseLoop (fuel + 1) geometry index context 0 false = .ok (false, index', context, geometry) := by
  have hit : fatReadSecter geometry (dirSecter geometry index') = (true, geometry) :=
    if_neg (not_not.mpr here)
  have found : fatFindDirectory geometry index' = (some fun _ => 0, geometry) := by
    have entry := congrArg (fun answer : Bool × VolumeInfo =>
      (if answer.1 then
        some (drop answer.2.secterData (32 * index' % 4294967296 % answer.2.bpbBytsPerSec)) else none,
        answer.2)) hit
    refine Eq.trans entry ?_
    simp only [cleared, ↓reduceIte]
    rfl
  simp only [browseLoop, last, found, browseEntry]
  rw [if_neg (by decide), if_pos (by decide)]

/-- The listing of a freshly mounted card is its loop, from a state before the first entry. -/
theorem listing_start (fresh : Fresh image geometry) (volume : CardVolume geometry)
    {before : Globals Heap} (some : before.hFat ≠ 0)
    (here : before.files.volumes before.hFat = Option.some geometry)
    (positive : 0 < before.files.next) (garbage : Nat → Garbage) :
    ∃ st, ListingAt image geometry before.hFat garbage [] 4294967295 FileContext.blank st ∧
      buildWavePlayList fatApi garbage before =
        (listLoop fatApi garbage indexFuel 0 st).map fun st =>
          (st.count, { st.player with nFileNum := st.count }) := by
  rw [buildWavePlayList_fresh fresh some here]
  generalize same : before.files.setVolume before.hFat
    (geometry.cache image geometry.calls noSecter) = files
  have mounted : files.Mounted image geometry before.hFat := by
    rw [← same]
    exact ⟨_, Function.update_self _ _ _, fresh.device, _, _, rfl⟩
  have valid : OnHeap image geometry before.hFat files := by
    refine ⟨mounted, ?_⟩
    rw [← same]
    exact positive
  have begun : fatApi.fatFileBrowseBegin files before.hFat =
      .ok (Option.some ⟨4294967295, before.hFat⟩) := by
    obtain ⟨vol, at_, card⟩ := mounted
    have mount : vol.bMount = true := (card.field (·.bMount) fun _ _ => rfl).trans volume.mounted
    simp only [fatApi, fatFileBrowseBegin, some, at_, mount, ↓reduceIte]
  refine ⟨.first (garbage 0) ⟨4294967295, before.hFat⟩ { before with files }, ?_, ?_⟩
  · exact ⟨.nil, ⟨valid, rfl, ⟨rfl, rfl⟩, ⟨rfl, by simp [accepted], by simp [accepted]⟩⟩, rfl⟩
  · simp only [buildWavePlayList, begun]
    rfl

/-- The listing of a mounted card writes inside its arrays where the card fits into them, and
returns only then. -/
theorem listing_inside {device : Device} (holds : device.Holds image)
    (mount : fatMount device = some geometry) {before : Globals Heap} (some : before.hFat ≠ 0)
    (here : before.files.volumes before.hFat = Option.some geometry)
    (positive : 0 < before.files.next) (garbage : Nat → Garbage) :
    (ListsInside image geometry garbage →
      buildWavePlayList fatApi garbage before ≠ .error .outOfBounds) ∧
    ∀ result, buildWavePlayList fatApi garbage before = .ok result →
      ListsInside image geometry garbage := by
  obtain ⟨device', empty, cleared⟩ := fatMount_cache holds mount
  have volume := fatMount_cardVolume holds mount
  by_cases root : dirSecter geometry 0 = noSecter
  · refine ⟨fun _ => ?_, fun _ _ => .inl root⟩
    obtain ⟨fuel, enough⟩ := indexFuel_succ
    have browse : browseLoop (fuel + 1) geometry 4294967295 FileContext.blank 0 false =
        .ok (false, 0, FileContext.blank, geometry) :=
      browseLoop_cleared fuel rfl (root.trans empty.symm) cleared
    simp [buildWavePlayList, fatApi, fatFileBrowseBegin, some, here, volume.mounted, enough, listLoop,
      fatFileBrowseNext, browse, Except.map]
  · obtain ⟨first, start, list⟩ := listing_start ⟨device', volume.mounted, empty, root⟩ volume some
      here positive garbage
    rw [list]
    constructor
    · intro lists
      rcases lists with root' | fits
      · exact absurd root' root
      · have inside := start.inside volume device' some fits indexFuel (Nat.zero_add _)
        rw [List.length_nil] at inside
        cases loop : listLoop fatApi garbage indexFuel 0 first with
        | error fault =>
          rw [loop] at inside
          simpa [Except.map] using inside
        | ok last => simp [Except.map]
    · intro result run
      obtain ⟨last, loop, _⟩ := map_eq_ok run
      refine .inr ⟨?_, ?_, ?_⟩
      · intro entries index context directory
        obtain ⟨_, _, _, _, _, songs, _⟩ := start.returned volume some loop directory
        exact songs
      · intro entries index context directory
        obtain ⟨_, _, _, _, _, _, names⟩ := start.returned volume some loop directory
        exact names
      · intro entries index context directory
        obtain ⟨st, fuel, enough, at_, onward, _⟩ := start.returned volume some loop directory
        by_contra long
        have out : browseCard image geometry index context = .error .outOfBounds :=
          (browseCard_outOfBounds device').mpr long
        cases fuel with
        | zero => simp [listLoop] at onward
        | succ fuel =>
          have next := at_.next volume some fuel entries.length
          rw [out] at next
          rw [next] at onward
          contradiction

/-- A name of 120 characters, for which FAT needs ten directory entries. -/
def longWave : List UInt8 := List.replicate 116 0x61 ++ [0x2E, 0x77, 0x61, 0x76]

/-- Its short name, `AAAAAA~1.WAV`. -/
def longWaveShort : List UInt8 :=
  [0x41, 0x41, 0x41, 0x41, 0x41, 0x41, 0x7E, 0x31, 0x57, 0x41, 0x56]

/-- The sectors of a card with one file under that name. -/
def longNamed : List (Nat × Bytes) :=
  [(515, blockOf [(0, longNameEntries longWave longWaveShort ++
    fileEntry longWaveShort 3 [0, 4, 0, 0])])]

/-- Listing the file writes outside the buffer of its name. -/
theorem not_listing_inside_longNamed :
    fatMount (imageDevice (fat32Card longNamed)) = some (cardVolume (fat32Card longNamed)) ∧
      listCard longNamed = .error .outOfBounds := by
  have count : (listCard longNamed).map (·.1) = .error .outOfBounds := by decide +kernel
  refine ⟨fat32Card_mount longNamed, ?_⟩
  cases run : listCard longNamed with
  | error fault =>
    rw [run] at count
    exact congrArg Except.error (Except.error.inj count)
  | ok listed =>
    rw [run] at count
    contradiction

/-- A name of 31 characters, for which FAT needs three directory entries. -/
def fittingWave : List UInt8 := List.replicate 27 0x61 ++ [0x2E, 0x77, 0x61, 0x76]

/-- The sectors of a card with two files of stereo samples: one under that name, and `C.WAV`. -/
def fittingNamed : List (Nat × Bytes) :=
  let short := [0x43, 0x20, 0x20, 0x20, 0x20, 0x20, 0x20, 0x20, 0x57, 0x41, 0x56]
  let samples := blockOf [(0, stereoHeader [40, 0, 0, 0] [4, 0, 0, 0] ++ [1, 0, 2, 0])]
  [(515, blockOf [(0, longNameEntries fittingWave longWaveShort ++
      fileEntry longWaveShort 3 [48, 0, 0, 0] ++ fileEntry short 4 [48, 0, 0, 0])]),
    (516, samples), (517, samples)]

/-- Both are listed inside the arrays, the name in full. -/
theorem listing_inside_fittingNamed :
    ListsInside (fat32Card fittingNamed) (cardVolume (fat32Card fittingNamed)) (fun _ => .zero) ∧
      (listCard fittingNamed).map (fun listed =>
        (listed.1, listed.2.szFilename 0, (listed.2.gWavePlay 1).szFilename)) =
      .ok (2, fittingWave, [0x43, 0x2E, 0x57, 0x41, 0x56]) := by
  have volume : (mountedCard fittingNamed).files.volumes (mountedCard fittingNamed).hFat =
      some (cardVolume (fat32Card fittingNamed)) := by
    simp [mountedCard, Heap.allocVolume, Heap.empty]
  have listed := listing_inside (imageDevice_holds (fat32Card fittingNamed))
    (fat32Card_mount fittingNamed) Nat.one_ne_zero volume (Nat.zero_lt_succ _) (fun _ => .zero)
  have run : (listCard fittingNamed).map (fun listed =>
      (listed.1, listed.2.szFilename 0, (listed.2.gWavePlay 1).szFilename)) =
      .ok (2, fittingWave, [0x43, 0x2E, 0x57, 0x41, 0x56]) := by decide +kernel
  obtain ⟨result, list, _⟩ := map_eq_ok run
  exact ⟨listed.2 result list, run⟩

end SoundBoard.Player
