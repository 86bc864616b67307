import SoundBoard.Player.TableBounds

/-!
# The file behind a listed name

The play list keeps names, and every start looks its name up again. The directory entry that
the listing has accepted as a song is compared with the one whose file `waveplay_start` opens,
in every state that calls lead to.
-/

namespace SoundBoard.Player

open SoundBoard.Lib SoundBoard.Fat SoundBoard.Wave

/-- The root directory of a card, gone through once from its first entry to its end. -/
structure RootDirectory (image : Nat → Bytes) (geometry : VolumeInfo) (entries : List Entry) :
    Prop where
  whole : ∃ index context index' context', DirectoryEntries image geometry entries index context ∧
    browseCard image geometry index context = .ok (false, index', context')
  once : entries.Pairwise fun one other => one.context.dirEntryIndex ≠ other.context.dirEntryIndex

/-- An entry that the listing accepts as song `k`, with the entries before it. -/
structure AcceptedAs (garbage : Nat → Garbage) (entries : List Entry) (k : Nat)
    (before : List Entry) (entry : Entry) : Prop where
  place : ∃ after, entries = before ++ entry :: after
  number : (accepted garbage 0 false before).length = k
  passes : ((before ++ [entry]).any (endsWithWav ·.name) &&
    passes (garbage before.length) entry.content) = true

/-- The index of the directory entry whose file a start of a song opens. -/
def OpensIndex (k : Nat) (p : Globals Heap) (index : Nat) : Prop :=
  ∃ hFile files context, fatFileOpen p.files p.hFat (p.gWavePlay k).szFilename = .ok (hFile, files) ∧
    hFile ≠ 0 ∧ files.files hFile = some (openedFile p.hFat context) ∧
    context.dirEntryIndex = index

/-- The states that calls lead to. -/
inductive CalledFrom (q : Globals Heap) : Globals Heap → Prop where
  | refl : CalledFrom q q
  | call {p : Globals Heap} {call : Call} {out : Outcome Heap} : CalledFrom q p →
      call.run p = .ok out → CalledFrom q out.player

/-- Every listed song is played from the entry that was listed. -/
def PlaysListed (garbage : Nat → Garbage) (entries : List Entry) (q : Globals Heap) : Prop :=
  ∀ k, k < q.nFileNum → ∃ before entry, AcceptedAs garbage entries k before entry ∧
    ∀ p, CalledFrom q p → OpensIndex k p entry.context.dirEntryIndex

/-- The name of an entry is taken for another: a long name when the characters that are left
without spaces are the same, a short name also when only the case of letters differs. -/
def Entry.TakenFor (entry : Entry) (name : Name) : Prop :=
  if entry.context.bLongFilename then entry.name = name else strcmpiEqual entry.name name = true

/-- No entry before an accepted one is taken for it. -/
def NamesApart (garbage : Nat → Garbage) (entries : List Entry) : Prop :=
  ∀ k before entry, AcceptedAs garbage entries k before entry →
    ∀ other ∈ before, ¬other.TakenFor entry.name

variable {image : Nat → Bytes} {geometry : VolumeInfo} {garbage : Nat → Garbage}
  {entries before other : List Entry} {entry another : Entry} {k : Nat} {p q : Globals Heap}

/-- The test of `Fat_FileOpen` on an entry. -/
theorem Entry.answers_iff (entry : Entry) (name : Name) :
    entry.context.answers name = true ↔ entry.TakenFor name := by
  simp only [FileContext.answers, nameMatches, entry.named, Except.map, decide_eq_true_eq,
    Entry.TakenFor]
  split <;> simp

/-! ## Accepted entries -/

/-- The name of an accepted entry is in its place on the list. -/
theorem AcceptedAs.name (at_ : AcceptedAs garbage entries k before entry) :
    (accepted garbage 0 false entries)[k]? = some entry.name := by
  obtain ⟨⟨after, rfl⟩, number, passes⟩ := at_
  have names : accepted garbage 0 false (before ++ [entry]) =
      accepted garbage 0 false before ++ [entry.name] := by
    rw [accepted_snoc, if_pos passes]
  have split : before ++ entry :: after = before ++ [entry] ++ after := by simp
  rw [split, accepted_append, names, List.append_assoc, List.getElem?_append_right (by omega), number,
    Nat.sub_self]
  rfl

/-- Every place on the list belongs to an accepted entry. -/
theorem AcceptedAs.of_lt (inside : k < (accepted garbage 0 false entries).length) :
    ∃ before entry, AcceptedAs garbage entries k before entry := by
  induction entries using List.reverseRecOn with
  | nil => simp [accepted] at inside
  | append_singleton entries last ih =>
    by_cases early : k < (accepted garbage 0 false entries).length
    · obtain ⟨before, entry, ⟨after, rfl⟩, number, passes⟩ := ih early
      exact ⟨before, entry, ⟨after ++ [last], by simp⟩, number, passes⟩
    · rw [accepted_snoc, List.length_append] at inside
      split at inside
      · rename_i passes
        rw [List.length_singleton] at inside
        exact ⟨entries, last, ⟨[], rfl⟩, by omega, passes⟩
      · rw [List.length_nil] at inside
        omega

/-- An accepted entry makes the list longer. -/
theorem AcceptedAs.more (at_ : AcceptedAs garbage entries k before entry) (after : List Entry) :
    k < (accepted garbage 0 false (before ++ entry :: after)).length := by
  have here : AcceptedAs garbage (before ++ entry :: after) k before entry :=
    ⟨⟨after, rfl⟩, at_.number, at_.passes⟩
  exact (List.getElem?_eq_some_iff.mp here.name).1

/-- There is one entry for a place. -/
theorem AcceptedAs.unique (one : AcceptedAs garbage entries k before entry)
    (two : AcceptedAs garbage entries k other another) : before = other ∧ entry = another := by
  obtain ⟨after, place⟩ := one.place
  obtain ⟨after', place'⟩ := two.place
  rcases List.append_eq_append_iff.mp (place.symm.trans place') with ⟨gap, longer, rest⟩ |
    ⟨gap, longer, rest⟩
  · cases gap with
    | nil => exact ⟨by rw [longer, List.append_nil], (List.cons.inj rest).1⟩
    | cons head gap =>
      obtain ⟨rfl, _⟩ := List.cons.inj rest
      have more := one.more gap
      rw [← longer, two.number] at more
      exact absurd more (Nat.lt_irrefl k)
  · cases gap with
    | nil => exact ⟨by rw [longer, List.append_nil], (List.cons.inj rest).1.symm⟩
    | cons head gap =>
      obtain ⟨rfl, _⟩ := List.cons.inj rest
      have more := two.more gap
      rw [← longer, one.number] at more
      exact absurd more (Nat.lt_irrefl k)

/-! ## Looking a name up -/

/-- Calls keep the card and the names. -/
theorem CalledFrom.kept (called : CalledFrom q p) (ready : Ready image geometry q) :
    Ready image geometry p ∧ p.hFat = q.hFat ∧
      ∀ k, (p.gWavePlay k).szFilename = (q.gWavePlay k).szFilename := by
  induction called with
  | refl => exact ⟨ready, rfl, fun _ => rfl⟩
  | @call p call out _ run ih =>
    obtain ⟨ready', volume, names⟩ := ih
    have only : OnlySong call.songnummer p out.player := by
      unfold Call.run at run
      split at run
      · exact waveplayExecute_only run
      · exact waveplayStart_only run
    refine ⟨(ready'.call run).1, only.hFat.trans volume, fun k => ?_⟩
    rw [← names k]
    by_cases own : k = call.songnummer
    · rw [own]
      exact only.name
    · rw [only.others k own]

/-- The lookup of a name in the whole directory finds the first entry that is taken for it. -/
theorem AcceptedAs.first (at_ : AcceptedAs garbage entries k before entry) :
    ∃ one ∈ before ++ [entry], one.TakenFor entry.name ∧
      (entries.map (·.context)).find? (·.answers entry.name) = some one.context ∧
      ((∀ other ∈ before, ¬other.TakenFor entry.name) → one = entry) ∧
      ((∃ other ∈ before, other.TakenFor entry.name) → one ∈ before) := by
  obtain ⟨⟨after, rfl⟩, _, _⟩ := at_
  have own : entry.context.answers entry.name = true := FileContext.answers_self entry.named
  by_cases early : ∃ other ∈ before, other.TakenFor entry.name
  · obtain ⟨one, found⟩ : ∃ one, before.find? (·.context.answers entry.name) = some one :=
      Option.isSome_iff_exists.mp (List.find?_isSome.mpr
        (early.imp fun other taken => ⟨taken.1, (other.answers_iff _).mpr taken.2⟩))
    have inside := List.mem_of_find?_eq_some found
    have taken := (one.answers_iff entry.name).mp (by simpa using List.find?_some found)
    refine ⟨one, List.mem_append_left _ inside, taken, ?_, fun apart => absurd taken (apart one inside),
      fun _ => inside⟩
    rw [List.find?_map, List.find?_append]
    simp only [Function.comp_def, found, Option.some_or, Option.map_some]
  · have apart : ∀ other ∈ before, other.context.answers entry.name = false := by
      intro other inside
      by_contra answers
      exact early ⟨other, inside, (other.answers_iff _).mp (by simpa using answers)⟩
    have none : before.find? (·.context.answers entry.name) = Option.none :=
      List.find?_eq_none.mpr fun other inside => by simp [apart other inside]
    refine ⟨entry, List.mem_append_right _ List.mem_cons_self, (entry.answers_iff _).mp own, ?_,
      fun _ => rfl, fun some => absurd some early⟩
    rw [List.find?_map, List.find?_append]
    simp only [Function.comp_def, none, Option.none_or, List.find?_cons, own, Option.map_some]

/-- A directory with an end mark is gone through once. -/
theorem DirectoryEntries.rootDirectory {index index' last : Nat} {context context' : FileContext}
    (directory : DirectoryEntries image geometry entries index context)
    (device : geometry.readBlock512.Holds image) (small : last < 4294967296)
    (mark : fatIsLastDir (dirEntry image geometry last) = true)
    (ended : browseCard image geometry index context = .ok (false, index', context')) :
    RootDirectory image geometry entries := by
  refine ⟨⟨index, context, index', context', directory, ended⟩, ?_⟩
  have ascending := (directory.scan.ascending small mark device).1
  rw [List.pairwise_map] at ascending
  exact ascending.imp fun before => Nat.ne_of_lt before

/-- After the listing the names of the songs are those of the accepted entries. -/
theorem RootDirectory.listed (directory : RootDirectory image geometry entries)
    (fresh : Fresh image geometry) (volume : CardVolume geometry) {start : Globals Heap}
    (some : start.hFat ≠ 0) (here : start.files.volumes start.hFat = Option.some geometry)
    (positive : 0 < start.files.next) {count : Nat}
    (run : buildWavePlayList fatApi garbage start = .ok (count, q)) :
    entries.length ≤ indexFuel ∧ q.hFat = start.hFat ∧
      q.nFileNum = (accepted garbage 0 false entries).length ∧
      ∀ k name, (accepted garbage 0 false entries)[k]? = Option.some name →
        (q.gWavePlay k).szFilename = name := by
  obtain ⟨index, context, index', context', scanned, ended⟩ := directory.whole
  obtain ⟨first, begins, list⟩ := listing_start fresh volume some here positive garbage
  rw [list] at run
  obtain ⟨last, loop, same⟩ := map_eq_ok run
  obtain ⟨rfl, rfl⟩ := Prod.mk.inj same
  obtain ⟨st, fuel, enough, at_, onward, _⟩ := begins.returned volume some loop scanned
  obtain ⟨fuel, rfl⟩ : ∃ rest, fuel = rest + 1 := by
    cases fuel with
    | zero => simp [listLoop] at onward
    | succ rest => exact ⟨rest, rfl⟩
  have next := at_.next volume some fuel entries.length
  rw [ended] at next
  obtain ⟨st', stops, number, table, hFat⟩ := next
  obtain rfl := Except.ok.inj (stops.symm.trans onward)
  refine ⟨by omega, hFat.trans at_.walking.volume, number.trans at_.walking.holds.count,
    fun k name inside => ?_⟩
  rw [table]
  exact at_.walking.holds.table k name inside

/-- On a mounted card every listed song is played from the entry that was listed exactly when no
entry before it is taken for it. -/
theorem playsListed_iff {device : Device} (holds : device.Holds image)
    (mount : fatMount device = some geometry) (root : dirSecter geometry 0 ≠ noSecter)
    (directory : RootDirectory image geometry entries) {start : Globals Heap}
    (some : start.hFat ≠ 0) (here : start.files.volumes start.hFat = Option.some geometry)
    (positive : 0 < start.files.next) (none : ∀ hFile, start.files.files hFile = Option.none)
    (cleared : ∀ k, start.gWavePlay k = .cleared) {count : Nat}
    (run : buildWavePlayList fatApi garbage start = .ok (count, q)) :
    PlaysListed garbage entries q ↔ NamesApart garbage entries := by
  have fresh := fatMount_fresh holds mount root
  have volume := fatMount_cardVolume holds mount
  have listed : Listed image geometry q :=
    ⟨start, garbage, count, fresh, some, here, positive, none, cleared, run⟩
  have ready := (listed.ready 0).1
  obtain ⟨few, hFat, number, names⟩ := directory.listed fresh volume some here positive run
  obtain ⟨index, context, _, _, scanned, _⟩ := directory.whole
  have opens (k : Nat) (before : List Entry) (entry : Entry)
      (at_ : AcceptedAs garbage entries k before entry) (p : Globals Heap) (called : CalledFrom q p)
      (first : FileContext)
      (found : (entries.map (·.context)).find? (·.answers entry.name) = Option.some first) :
      OpensIndex k p first.dirEntryIndex ∧
        ∀ index, OpensIndex k p index → index = first.dirEntryIndex := by
    obtain ⟨ready', volume', same⟩ := called.kept ready
    have named : (p.gWavePlay k).szFilename = entry.name :=
      (same k).trans (names k entry.name at_.name)
    have some' : p.hFat ≠ 0 := by rwa [volume', hFat]
    obtain ⟨heap, reads, opened⟩ := scanned.scan.fatFileOpen entry.name ready'.mounted some'
      volume.mounted (by rwa [List.length_map]) found
    have positive' : 0 < heap.next := by
      obtain ⟨_, _, rfl⟩ := reads
      exact ready'.positive
    rw [← named] at opened
    have fileHere := heap.allocFile_files (openedFile p.hFat first)
    refine ⟨⟨heap.next, _, first, opened, Nat.ne_of_gt positive', fileHere, rfl⟩, ?_⟩
    rintro index ⟨hFile, files, context', opened', _, file, rfl⟩
    obtain ⟨rfl, rfl⟩ := Prod.mk.inj (Except.ok.inj (opened'.symm.trans opened))
    have records := Option.some.inj (file.symm.trans fileHere)
    exact congrArg (·.directory.dirEntryIndex) records
  constructor
  · intro plays k before entry at_ other inside taken
    have below : k < q.nFileNum := by
      rw [number]
      exact (List.getElem?_eq_some_iff.mp at_.name).1
    obtain ⟨before', entry', at', opened⟩ := plays k below
    obtain ⟨rfl, rfl⟩ := at'.unique at_
    obtain ⟨one, _, _, found, _, early⟩ := at_.first
    have same := (opens k _ _ at_ q .refl _ found).2 _ (opened q .refl)
    obtain ⟨after, rfl⟩ := at_.place
    have once := List.pairwise_append.mp directory.once
    exact once.2.2 one (early ⟨other, inside, taken⟩) _ List.mem_cons_self same.symm
  · intro apart k below
    rw [number] at below
    obtain ⟨before, entry, at_⟩ := AcceptedAs.of_lt below
    obtain ⟨one, _, _, found, own, _⟩ := at_.first
    obtain rfl := own (apart k before entry at_)
    exact ⟨before, one, at_, fun p called => (opens k _ _ at_ p called _ found).1⟩

/-! ## A card with two names -/

/-- The sectors of a card with two files of stereo samples: the long name `A B.WAV`, and a short
name. -/
def twoNames (short : List UInt8) : List (Nat × Bytes) :=
  let long := [0x41, 0x20, 0x42, 0x2E, 0x57, 0x41, 0x56]
  let second := [0x41, 0x42, 0x7E, 0x31, 0x20, 0x20, 0x20, 0x20, 0x57, 0x41, 0x56]
  let samples := blockOf [(0, stereoHeader [40, 0, 0, 0] [4, 0, 0, 0] ++ [1, 0, 2, 0])]
  [(515, blockOf [(0, longNameEntries long second ++ fileEntry second 3 [48, 0, 0, 0] ++
      fileEntry short 4 [48, 0, 0, 0])]), (516, samples), (517, samples)]

/-- The short name `AB.WAV`. -/
def shortAB : List UInt8 := [0x41, 0x42, 0x20, 0x20, 0x20, 0x20, 0x20, 0x20, 0x57, 0x41, 0x56]

/-- The short name `C.WAV`. -/
def shortC : List UInt8 := [0x43, 0x20, 0x20, 0x20, 0x20, 0x20, 0x20, 0x20, 0x57, 0x41, 0x56]

/-- The directory of such a card: the entry of the long name has index 1, that of the short name
index 2. -/
theorem twoNames_directory {short : List UInt8} (name : short = shortAB ∨ short = shortC) :
    ∃ one other, RootDirectory (fat32Card (twoNames short)) (cardVolume (fat32Card (twoNames short)))
        [one, other] ∧ one.context.dirEntryIndex = 1 ∧ other.context.dirEntryIndex = 2 ∧
      (short = shortC → ¬one.TakenFor other.name) := by
  let image := fat32Card (twoNames short)
  let geometry := cardVolume image
  have run : (browseCard image geometry 4294967295 FileContext.blank).bind (fun a =>
      (browseCard image geometry a.2.1 a.2.2).bind fun b =>
        (browseCard image geometry b.2.1 b.2.2).bind fun c =>
          (waveFilename b.2.2).map fun name => (a.1, b.1, c.1, a.2.2.dirEntryIndex,
            b.2.2.dirEntryIndex, a.2.2.answers name)) =
      .ok (true, true, false, 1, 2, decide (short = shortAB)) := by
    rcases name with rfl | rfl <;> decide +kernel
  obtain ⟨⟨found, index, context⟩, first, run⟩ := bind_eq_ok run
  obtain ⟨⟨found', index', context'⟩, second, run⟩ := bind_eq_ok run
  obtain ⟨⟨found'', index'', context''⟩, third, run⟩ := bind_eq_ok run
  obtain ⟨name', named, run⟩ := map_eq_ok run
  simp only [Prod.mk.injEq] at run
  obtain ⟨rfl, rfl, rfl, one, two, answers⟩ := run
  obtain ⟨entry, rfl, directory⟩ := DirectoryEntries.nil.snoc first
  obtain ⟨entry', rfl, directory'⟩ := directory.snoc second
  have mark : fatIsLastDir (dirEntry image geometry 3) = true := by
    rcases name with rfl | rfl <;> decide +kernel
  have device : geometry.readBlock512.Holds image := (fat32Card_fresh (twoNames short)).device
  refine ⟨entry, entry', directory'.rootDirectory device (by decide) mark third, one, two, ?_⟩
  rintro rfl taken
  obtain rfl := Except.ok.inj (named.symm.trans entry'.named)
  rw [(entry.answers_iff _).mpr taken] at answers
  exact absurd answers (by decide)

/-- A start opens one file. -/
theorem OpensIndex.unique {index index' : Nat} (one : OpensIndex k p index)
    (two : OpensIndex k p index') : index = index' := by
  obtain ⟨hFile, files, context, opened, _, file, rfl⟩ := one
  obtain ⟨hFile', files', context', opened', _, file', rfl⟩ := two
  obtain ⟨rfl, rfl⟩ := Prod.mk.inj (Except.ok.inj (opened.symm.trans opened'))
  exact congrArg (·.directory.dirEntryIndex) (Option.some.inj (file.symm.trans file'))

/-- With the files `A B.WAV` and `AB.WAV` the second song is played from the first file. -/
theorem not_playsListed_spaces : ∃ entries count q,
    RootDirectory (fat32Card (twoNames shortAB)) (cardVolume (fat32Card (twoNames shortAB))) entries ∧
      listCard (twoNames shortAB) = .ok (count, q) ∧
      ¬PlaysListed (fun _ => .zero) entries q := by
  obtain ⟨one, other, directory, _, index, _⟩ := twoNames_directory (.inl rfl)
  have run : (listCard (twoNames shortAB)).bind (fun listed =>
      (fatFileOpen listed.2.files listed.2.hFat (listed.2.gWavePlay 1).szFilename).map fun opened =>
        (listed.2.nFileNum, opened.1, (opened.2.files opened.1).map (·.directory.dirEntryIndex))) =
      .ok (2, 6, some 1) := by decide +kernel
  obtain ⟨⟨count, q⟩, listed, run⟩ := bind_eq_ok run
  obtain ⟨⟨hFile, files⟩, opened, run⟩ := map_eq_ok run
  simp only [Prod.mk.injEq] at run
  obtain ⟨number, rfl, place⟩ := run
  refine ⟨[one, other], count, q, directory, listed, fun plays => ?_⟩
  obtain ⟨before, entry, ⟨⟨after, whole⟩, length, _⟩, opens⟩ := plays 1 (by omega)
  obtain ⟨first, rest, rfl⟩ : ∃ first rest, before = first :: rest := by
    cases before with
    | nil => simp [accepted] at length
    | cons first rest => exact ⟨first, rest, rfl⟩
  obtain ⟨_, tail⟩ := List.cons.inj whole
  obtain rfl : rest = [] := by
    cases rest with
    | nil => rfl
    | cons second rest => simp at tail
  obtain rfl := (List.cons.inj tail).1
  obtain ⟨hFile', files', context, opened', _, file, same⟩ := opens q .refl
  obtain ⟨rfl, rfl⟩ := Prod.mk.inj (Except.ok.inj (opened.symm.trans opened'))
  rw [file] at place
  simp only [Option.map_some, Option.some.injEq] at place
  exact absurd (index.symm.trans (same.symm.trans place)) (by decide)

/-- With the files `A B.WAV` and `C.WAV` each song is played from its own. -/
theorem playsListed_iff_apart : ∃ entries count q,
    listCard (twoNames shortC) = .ok (count, q) ∧ 0 < count ∧
      PlaysListed (fun _ => .zero) entries q := by
  obtain ⟨one, other, directory, _, _, apart⟩ := twoNames_directory (.inr rfl)
  have run : (listCard (twoNames shortC)).map (·.1) = .ok 2 := by decide +kernel
  obtain ⟨⟨count, q⟩, listed, number⟩ := map_eq_ok run
  have volume : (mountedCard (twoNames shortC)).files.volumes (mountedCard (twoNames shortC)).hFat =
      some (cardVolume (fat32Card (twoNames shortC))) := by
    simp [mountedCard, Heap.allocVolume, Heap.empty]
  refine ⟨[one, other], count, q, listed, by omega, ?_⟩
  refine (playsListed_iff (imageDevice_holds _) (fat32Card_mount _) (fat32Card_fresh _).root directory
    Nat.one_ne_zero volume (Nat.zero_lt_succ _) (fun _ => rfl) (fun _ => rfl) listed).mpr ?_
  rintro k before entry ⟨⟨after, whole⟩, _, _⟩ earlier inside
  cases before with
  | nil => simp at inside
  | cons first rest =>
    obtain ⟨rfl, tail⟩ := List.cons.inj whole
    cases rest with
    | nil =>
      obtain rfl := (List.cons.inj tail).1
      obtain rfl := List.mem_singleton.mp inside
      exact apart rfl
    | cons second rest => simp at tail

end SoundBoard.Player
