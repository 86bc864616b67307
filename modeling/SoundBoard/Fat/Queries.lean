import SoundBoard.Fat.Files

/-!
# Queries of a directory

Whoever browses a directory of the format to its end is given its files, and `Fat_FileCount` counts
them. `Fat_FileExist` finds the files without a long name; it compares a long name with the
characters of its argument two at a time, and frees the volume on its way out.
-/

namespace SoundBoard.Fat

open SoundBoard.Lib

variable {image : Nat → Bytes} {geometry vol : VolumeInfo} {hFat index stop : Nat} {heap : Heap}
  {context : FileContext} {contexts : List FileContext} {items : List DirItem}

/-! ## Browsing to the end -/

/-- What a caller is given that browses until it is told that there is no more. -/
def browseRest : Nat → Heap → BrowseHandle → FileContext → Exec (List FileContext × Heap)
  | 0, _, _, _ => .error .neverReturns
  | fuel + 1, heap, handle, context =>
    match fatFileBrowseNext heap handle context with
    | .error fault => .error fault
    | .ok (false, _, _, heap) => .ok ([], heap)
    | .ok (true, handle, context, heap) =>
      (browseRest fuel heap handle context).map fun (contexts, heap) => (context :: contexts, heap)

/-- What browsing finds behind an index, to its end. -/
def Browses (image : Nat → Bytes) (geometry : VolumeInfo) :
    Nat → FileContext → List FileContext → Prop
  | index, context, [] => ∃ index' context',
      browseCard image geometry index context = .ok (false, index', context')
  | index, context, entry :: contexts => ∃ index',
      browseCard image geometry index context = .ok (true, index', entry) ∧
        Browses image geometry index' entry contexts

/-- From the beginning, it is what a scan has found and what is behind it. -/
theorem Scan.browses {rest : List FileContext} (scan : Scan image geometry contexts index context)
    (browses : Browses image geometry index context rest) :
    Browses image geometry 4294967295 FileContext.blank (contexts ++ rest) := by
  induction scan generalizing rest with
  | nil => exact browses
  | snoc scan next ih =>
    rw [List.append_assoc]
    exact ih ⟨_, next, browses⟩

/-- A caller is given what there is. -/
theorem Browses.browseRest (mounted : heap.Mounted image geometry hFat) (some : hFat ≠ 0)
    (mount : geometry.bMount = true) (fuel : Nat) (enough : contexts.length < fuel)
    (browses : Browses image geometry index context contexts) :
    ∃ heap', heap.Reads image geometry hFat heap' ∧
      browseRest fuel heap ⟨index, hFat⟩ context = .ok (contexts, heap') := by
  induction contexts generalizing fuel heap index context with
  | nil =>
    obtain ⟨fuel, rfl⟩ : ∃ more, fuel = more + 1 := ⟨fuel - 1, by omega⟩
    obtain ⟨_, _, last⟩ := browses
    obtain ⟨heap', reads, browsed⟩ := fatFileBrowseNext_found mounted some mount last
    exact ⟨heap', reads, by simp only [Fat.browseRest, browsed]⟩
  | cons entry contexts ih =>
    rw [List.length_cons] at enough
    obtain ⟨fuel, rfl⟩ : ∃ more, fuel = more + 1 := ⟨fuel - 1, by omega⟩
    obtain ⟨_, next, rest⟩ := browses
    obtain ⟨heap₁, reads, browsed⟩ := fatFileBrowseNext_found mounted some mount next
    obtain ⟨heap', reads', others⟩ := ih reads.mounted fuel (by omega) rest
    refine ⟨heap', reads.trans reads', ?_⟩
    simp only [Fat.browseRest, browsed, others, Except.map]

/-- `Fat_FileCount` counts what a caller is given. -/
theorem countLoop_eq (fuel : Nat) (heap : Heap) (handle : BrowseHandle) (context : FileContext)
    (nCount : Nat) (small : nCount < 4294967296) :
    countLoop fuel heap handle context nCount = (browseRest fuel heap handle context).map
      fun (contexts, heap) => ((nCount + contexts.length) % 4294967296, heap) := by
  induction fuel generalizing heap handle context nCount with
  | zero => rfl
  | succ fuel ih =>
    rw [countLoop, browseRest]
    cases fatFileBrowseNext heap handle context with
    | error fault => rfl
    | ok found =>
      obtain ⟨bFind, handle', entry, heap'⟩ := found
      cases bFind with
      | false =>
        simp only [Except.map, List.length_nil, Nat.add_zero, Nat.mod_eq_of_lt small]
      | true =>
        simp only [ih heap' handle' entry _ (Nat.mod_lt _ (by decide))]
        cases browseRest fuel heap' handle' entry with
        | error fault => rfl
        | ok rest =>
          simp only [Except.map, List.length_cons, Except.ok.injEq, Prod.mk.injEq, and_true]
          omega

/-- The search of `Fat_FileExist` looks at what a caller is given. -/
theorem Browses.existLoop (mounted : heap.Mounted image geometry hFat) (some : hFat ≠ 0)
    (mount : geometry.bMount = true) (pFilename : Name) (behind : Bytes) (answers : FileContext → Bool)
    (matched : ∀ entry ∈ contexts, existMatches entry pFilename behind = .ok (answers entry))
    (fuel : Nat) (enough : contexts.length < fuel)
    (browses : Browses image geometry index context contexts) :
    ∃ heap', heap.Reads image geometry hFat heap' ∧
      existLoop pFilename behind fuel heap ⟨index, hFat⟩ context = .ok (contexts.any answers, heap') := by
  induction contexts generalizing fuel heap index context with
  | nil =>
    obtain ⟨fuel, rfl⟩ : ∃ more, fuel = more + 1 := ⟨fuel - 1, by omega⟩
    obtain ⟨_, _, last⟩ := browses
    obtain ⟨heap', reads, browsed⟩ := fatFileBrowseNext_found mounted some mount last
    exact ⟨heap', reads, by simp only [Fat.existLoop, browsed, List.any_nil]⟩
  | cons entry contexts ih =>
    rw [List.length_cons] at enough
    obtain ⟨fuel, rfl⟩ : ∃ more, fuel = more + 1 := ⟨fuel - 1, by omega⟩
    obtain ⟨_, next, rest⟩ := browses
    obtain ⟨heap₁, reads, browsed⟩ := fatFileBrowseNext_found mounted some mount next
    have first := matched entry List.mem_cons_self
    cases answer : answers entry with
    | true =>
      refine ⟨heap₁, reads, ?_⟩
      rw [answer] at first
      simp only [Fat.existLoop, browsed, first, List.any_cons, answer, Bool.true_or]
    | false =>
      rw [answer] at first
      obtain ⟨heap', reads', others⟩ := ih reads.mounted
        (fun other inside => matched other (List.mem_cons_of_mem _ inside)) fuel (by omega) rest
      refine ⟨heap', reads.trans reads', ?_⟩
      simp only [Fat.existLoop, browsed, first, others, List.any_cons, answer, Bool.false_or]

/-! ## Long names -/

/-- Comparing a long name with memory. -/
theorem HoldsUnits.sameLongFilename {buffer : Bytes} {name : Name}
    (holds : HoldsUnits buffer name) (memory : Bytes) (nonzero : ∀ c ∈ name, c ≠ 0) (limit : Nat) {u : Nat}
    (inside : u ≤ name.length) (enough : name.length - u < limit) :
    fatSameLongFilename buffer memory limit (2 * u) = .ok (decide (∀ v, u ≤ v → v ≤ name.length →
      memory (2 * v) = name.getD v 0 ∧ memory (2 * v + 1) = 0)) := by
  induction limit generalizing u with
  | zero => omega
  | succ limit ih =>
    obtain ⟨low, high⟩ := holds u inside
    by_cases more : u < name.length
    · have some : name.getD u 0 ≠ 0 := by
        rw [List.getD_eq_getElem name 0 more]
        exact nonzero _ (List.getElem_mem more)
      rw [fatSameLongFilename, low, high, if_neg fun both => some both.1.1]
      by_cases same : memory (2 * u) = name.getD u 0 ∧ memory (2 * u + 1) = 0
      · rw [if_pos ⟨same.1.symm, same.2.symm⟩, show 2 * u + 2 = 2 * (u + 1) from rfl,
          ih more (by omega)]
        refine congrArg Except.ok (decide_eq_decide.mpr ⟨fun rest v order fits => ?_,
          fun all v order fits => all v (by omega) fits⟩)
        by_cases first : v = u
        · rw [first]
          exact same
        · exact rest v (by omega) fits
      · rw [if_neg fun both => same ⟨both.1.symm, both.2.symm⟩]
        exact congrArg Except.ok (decide_eq_false fun all => same (all u (Nat.le_refl u) inside)).symm
    · obtain rfl : u = name.length := Nat.le_antisymm inside (Nat.le_of_not_lt more)
      have zero : name.getD name.length 0 = 0 := List.getD_eq_default _ _ (Nat.le_refl _)
      rw [zero] at low
      rw [fatSameLongFilename, low, high]
      by_cases same : memory (2 * name.length) = 0 ∧ memory (2 * name.length + 1) = 0
      · rw [if_pos ⟨⟨rfl, rfl⟩, same⟩]
        refine congrArg Except.ok (decide_eq_true fun v order fits => ?_).symm
        obtain rfl : v = name.length := Nat.le_antisymm fits order
        rw [zero]
        exact same
      · rw [if_neg fun both => same both.2, if_neg fun both => same ⟨both.1.symm, both.2.symm⟩]
        refine congrArg Except.ok (decide_eq_false fun all => same ?_).symm
        have last := all name.length (Nat.le_refl _) (Nat.le_refl _)
        rwa [zero] at last

instance (buffer : Bytes) (name : Name) : Decidable (HoldsUnits buffer name) :=
  inferInstanceAs (Decidable (∀ u ≤ name.length,
    buffer (2 * u) = name.getD u 0 ∧ buffer (2 * u + 1) = 0))

/-- How `Fat_FileExist` knows a file: by its short name in any case, or by the units of its long name
in the memory of the argument. -/
def FileItem.exists (pFilename : Name) (behind : Bytes) (file : FileItem) : Bool :=
  match file.longName with
  | none => strcmpiEqual file.name pFilename
  | some name => HoldsUnits (writeString behind pFilename) name

/-- The test of `Fat_FileExist` on what browsing finds for a file. -/
theorem FileItem.Describes.existMatches {file : FileItem} {place : Nat}
    (described : file.Describes place context) (valid : file.Valid) (pFilename : Name)
    (behind : Bytes) :
    existMatches context pFilename behind = .ok (file.exists pFilename behind) := by
  cases long : file.longName with
  | none =>
    have name := described.name
    have short : context.bLongFilename = false := described.bLongFilename.trans (by rw [long]; rfl)
    simp only [waveFilename, short, Bool.false_eq_true, if_false] at name
    simp only [Fat.existMatches, short, name, Bool.false_eq_true, if_false, Except.map,
      FileItem.exists, long]
  | some name =>
    obtain ⟨-, fits, nonzero, -⟩ := valid.long name long
    have flag : context.bLongFilename = true := described.bLongFilename.trans (by rw [long]; rfl)
    have compared := (described.units name long).sameLongFilename
      (writeString behind pFilename) nonzero (maxFilenameLength / 2) (Nat.zero_le _)
      (show name.length - 0 < 256 / 2 by omega)
    rw [Fat.existMatches, if_pos flag, compared, FileItem.exists, long]
    refine congrArg Except.ok (decide_eq_decide.mpr ⟨fun all u fits => all u (Nat.zero_le u) fits,
      fun holds u _ fits => holds u fits⟩)

/-- A string of two characters or more is no long name. -/
theorem FileItem.exists_eq (file : FileItem) {pFilename : Name}
    (two : 2 ≤ pFilename.length) (nonzero : ∀ c ∈ pFilename, c ≠ 0) (behind : Bytes) :
    file.exists pFilename behind = (file.longName.isNone && strcmpiEqual file.name pFilename) := by
  cases long : file.longName with
  | none => simp only [FileItem.exists, long, Option.isNone_none, Bool.true_and]
  | some name =>
    simp only [FileItem.exists, long, Option.isNone_some, Bool.false_and, decide_eq_false_iff_not]
    intro holds
    have second := (holds 0 (Nat.zero_le _)).2
    rw [Nat.mul_zero, Nat.zero_add, writeString, if_pos (by omega),
      List.getD_eq_getElem pFilename 0 (by omega)] at second
    exact nonzero _ (List.getElem_mem _) second

/-- What browsing finds in a directory. -/
theorem Directory.browses (directory : Directory image geometry stop 0 items)
    (device : geometry.readBlock512.Holds image) :
    ∃ contexts, Browses image geometry 4294967295 FileContext.blank contexts ∧
      List.Forall₂ (fun (place : Nat × FileItem) context => place.2.Describes place.1 context)
        (filesFrom 0 items) contexts ∧ contexts.length < indexFuel := by
  obtain ⟨contexts, index, context, scan, both, last⟩ := directory.scan device .nil rfl
  have browses := scan.browses (show Browses image geometry index context [] from last)
  rw [List.append_nil, List.nil_append] at browses
  have count := both.length_eq
  have entries := filesFrom_length 0 items
  have ends := directory.ends
  have range := directory.range
  refine ⟨contexts, browses, both, ?_⟩
  rw [indexFuel]
  omega

/-- The files of a directory are valid. -/
theorem filesFrom_valid (start : Nat) (items : List DirItem) (valid : ∀ item ∈ items, item.Valid) :
    ∀ place ∈ filesFrom start items, place.2.Valid := by
  induction items generalizing start with
  | nil => exact fun place inside => absurd inside List.not_mem_nil
  | cons item items ih =>
    have rest (start : Nat) := ih start fun other inside => valid other (List.mem_cons_of_mem _ inside)
    cases item with
    | free entry => exact rest _
    | file file =>
      intro place inside
      rcases List.mem_cons.mp inside with rfl | inside
      · exact valid (.file file) List.mem_cons_self
      · exact rest _ place inside

/-- What the test of `Fat_FileExist` answers, if it answers. -/
def existAnswer (pFilename : Name) (behind : Bytes) (context : FileContext) : Bool :=
  (existMatches context pFilename behind).toOption.getD false

/-- It answers on all that browsing finds, as it does for the files. -/
theorem existMatches_described {places : List (Nat × FileItem)}
    (both : List.Forall₂ (fun (place : Nat × FileItem) context => place.2.Describes place.1 context)
      places contexts) (valid : ∀ place ∈ places, place.2.Valid) (pFilename : Name) (behind : Bytes) :
    (∀ entry ∈ contexts,
        existMatches entry pFilename behind = .ok (existAnswer pFilename behind entry)) ∧
      contexts.any (existAnswer pFilename behind) =
        (places.map Prod.snd).any (·.exists pFilename behind) := by
  induction both with
  | nil => exact ⟨fun entry inside => absurd inside List.not_mem_nil, rfl⟩
  | @cons place entry places contexts described both ih =>
    have test := described.existMatches (valid place List.mem_cons_self) pFilename behind
    have answer : existAnswer pFilename behind entry = place.2.exists pFilename behind := by
      rw [existAnswer, test]
      rfl
    obtain ⟨each, any⟩ := ih fun place inside => valid place (List.mem_cons_of_mem _ inside)
    refine ⟨fun other inside => ?_, by rw [List.any_cons, List.map_cons, List.any_cons, answer, any]⟩
    rcases List.mem_cons.mp inside with rfl | inside
    · rw [test, answer]
    · exact each other inside

/-! ## Volumes -/

/-- A heap with a volume over a card, also when nothing has been read since the mount. -/
def Heap.Usable (image : Nat → Bytes) (geometry : VolumeInfo) (hFat : Nat) (heap : Heap) : Prop :=
  heap.Mounted image geometry hFat ∨ (Fresh image geometry ∧ heap.volumes hFat = some geometry)

/-- The next browse from the beginning is as in a heap whose cache holds a sector. -/
theorem Heap.Usable.cached (usable : heap.Usable image geometry hFat) (some : hFat ≠ 0) :
    geometry.readBlock512.Holds image ∧ (∃ vol, heap.volumes hFat = Option.some vol ∧
      vol.bMount = geometry.bMount) ∧
    ∃ heap₀, heap₀.Mounted image geometry hFat ∧ ∀ context,
      fatFileBrowseNext heap ⟨4294967295, hFat⟩ context =
        fatFileBrowseNext heap₀ ⟨4294967295, hFat⟩ context := by
  rcases usable with mounted | ⟨fresh, here⟩
  · obtain ⟨vol, here, card⟩ := id mounted
    exact ⟨card.device, ⟨vol, here, card.field (·.bMount) fun _ _ => rfl⟩, heap, mounted,
      fun _ => rfl⟩
  · exact ⟨fresh.device, ⟨geometry, here, rfl⟩, _,
      ⟨_, Function.update_self _ _ _, fresh.device, _, _, rfl⟩, fresh.browseNext some here⟩

/-- Browsing begins. -/
theorem Heap.Usable.begin (usable : heap.Usable image geometry hFat) (some : hFat ≠ 0)
    (mount : geometry.bMount = true) :
    fatFileBrowseBegin heap hFat = .ok (Option.some ⟨4294967295, hFat⟩) := by
  obtain ⟨-, ⟨vol, here, same⟩, -⟩ := usable.cached some
  simp only [fatFileBrowseBegin, if_neg some, here, same, mount, if_true]

/-- Browsing a directory to its end gives its files, in order and once each, with their names and
fields, and `Fat_FileCount` is their number. -/
theorem browse_directory (usable : heap.Usable image geometry hFat) (some : hFat ≠ 0)
    (mount : geometry.bMount = true) (directory : Directory image geometry stop 0 items) :
    ∃ handle contexts heap' heap'',
    fatFileBrowseBegin heap hFat = .ok (Option.some handle) ∧
    browseRest indexFuel heap handle FileContext.blank = .ok (contexts, heap') ∧
    List.Forall₂ (fun (place : Nat × FileItem) context => place.2.Describes place.1 context)
      (filesFrom 0 items) contexts ∧
    fatFileCount heap hFat = .ok ((filesOf items).length, heap'') := by
  obtain ⟨device, -, heap₀, mounted, same⟩ := usable.cached some
  obtain ⟨contexts, browses, both, few⟩ := directory.browses device
  obtain ⟨heap', -, run⟩ := browses.browseRest mounted some mount indexFuel few
  have given : browseRest indexFuel heap ⟨4294967295, hFat⟩ FileContext.blank =
      .ok (contexts, heap') := by
    obtain ⟨fuel, enough⟩ := indexFuel_succ
    rw [enough] at run ⊢
    rw [browseRest, same]
    exact run
  have begun := usable.begin some mount
  refine ⟨_, contexts, heap', heap', begun, given, both, ?_⟩
  have count : contexts.length = (filesOf items).length := by
    rw [filesOf, List.length_map, both.length_eq]
  rw [indexFuel, count] at few
  rw [fatFileCount, begun]
  simp only [countLoop_eq _ _ _ _ 0 (by decide), given, Except.map, Nat.zero_add,
    Nat.mod_eq_of_lt few, count]

/-- The volume of the card with two files. -/
theorem twoFiles_usable :
    (Heap.empty.allocVolume (cardVolume twoFilesCard)).2.Usable twoFilesCard (cardVolume twoFilesCard)
      1 :=
  .inr ⟨fat32Card_fresh twoFiles, rfl⟩

/-- There are two. -/
theorem browse_directory_twoFiles : ∃ handle contexts heap' heap'',
    fatFileBrowseBegin (Heap.empty.allocVolume (cardVolume twoFilesCard)).2 1 =
      .ok (Option.some handle) ∧
    browseRest indexFuel (Heap.empty.allocVolume (cardVolume twoFilesCard)).2 handle
      FileContext.blank = .ok (contexts, heap') ∧
    List.Forall₂ (fun (place : Nat × FileItem) context => place.2.Describes place.1 context)
      [(0, fileA), (4, fileB)] contexts ∧
    fatFileCount (Heap.empty.allocVolume (cardVolume twoFilesCard)).2 1 = .ok (2, heap'') :=
  browse_directory twoFiles_usable (by decide) rfl twoFiles_directory

/-- `Fat_FileExist` finds a file by its short name, or by the units of its long name in the memory of
the argument, so that no string of two characters or more finds a file with a long name. It frees the
volume, found or not: whatever is asked of the volume or of its open files from then on uses freed
memory. -/
theorem fatFileExist_directory (usable : heap.Usable image geometry hFat) (some : hFat ≠ 0)
    (mount : geometry.bMount = true) (directory : Directory image geometry stop 0 items)
    (pFilename : Name) (behind : Bytes) : ∃ heap',
    fatFileExist heap hFat pFilename behind =
      .ok ((filesOf items).any (·.exists pFilename behind), heap') ∧
    (2 ≤ pFilename.length → (∀ c ∈ pFilename, c ≠ 0) → ∀ file ∈ filesOf items,
      file.exists pFilename behind =
        (file.longName.isNone && strcmpiEqual file.name pFilename)) ∧
    (∀ name, fatFileOpen heap' hFat name = .error .danglingPointer) ∧
    ∀ hFile info pBuffer n, hFile ≠ 0 → heap'.files hFile = Option.some info → info.fat = hFat →
      fatFileRead heap' hFile pBuffer n = .error .danglingPointer := by
  obtain ⟨device, -, heap₀, mounted, same⟩ := usable.cached some
  obtain ⟨contexts, browses, both, few⟩ := directory.browses device
  have valid := filesFrom_valid 0 items directory.valid
  obtain ⟨matched, any⟩ := existMatches_described both valid pFilename behind
  obtain ⟨heap₁, reads, run⟩ := browses.existLoop mounted some mount pFilename behind _ matched
    indexFuel few
  have searched : existLoop pFilename behind indexFuel heap ⟨4294967295, hFat⟩ FileContext.blank =
      .ok ((filesOf items).any (·.exists pFilename behind), heap₁) := by
    rw [any] at run
    obtain ⟨fuel, enough⟩ := indexFuel_succ
    rw [enough] at run ⊢
    rw [existLoop, same]
    exact run
  have gone : (heap₁.freeVolume hFat).volumes hFat = none := Function.update_self _ _ _
  refine ⟨heap₁.freeVolume hFat, ?_, fun two nonzero file _ => ?_, fun name => ?_,
    fun hFile info pBuffer n file record fat => ?_⟩
  · rw [fatFileExist, usable.begin some mount]
    simp only [searched, Except.map]
  · exact file.exists_eq two nonzero behind
  · simp only [fatFileOpen, fatFileBrowseBegin, if_neg some, gone]
  · simp only [fatFileRead, if_neg file, record, fat, if_neg some, gone]

/-- It does not find the file with the long name, under the name by which it opens. -/
theorem fatFileExist_directory_twoFiles : ∃ heap',
    fatFileExist (Heap.empty.allocVolume (cardVolume twoFilesCard)).2 1 fileB.name (fun _ => 0) =
      .ok (false, heap') ∧ ∀ name, fatFileOpen heap' 1 name = .error .danglingPointer := by
  obtain ⟨heap', answer, -, gone, -⟩ := fatFileExist_directory twoFiles_usable (by decide) rfl
    twoFiles_directory fileB.name fun _ => 0
  exact ⟨heap', answer, gone⟩

end SoundBoard.Fat
