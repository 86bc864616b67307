import SoundBoard.Fat.Format
import SoundBoard.Player.PlayList
import SoundBoard.Player.Steps

/-!
# What gets into the play list

The listing over any sequence of directory entries, with opens and reads that succeed: the
names that the loop adds (`accepted`), and the tables that hold them (`ListsExactly`).
-/

namespace SoundBoard.Player

open SoundBoard.Lib SoundBoard.Fat SoundBoard.Wave

variable {σ : Type}

/-! ## Directories -/

/-- A directory entry with its name and with the beginning of the file that opens under it. -/
structure Entry where
  context : FileContext
  name : Name
  content : Bytes
  named : waveFilename context = .ok name

/-- A file opens under a name, and reads from its beginning succeed. -/
def OpensAs (api : FileApi σ) (valid : σ → Prop) (hFat : Nat) (name : Name) (content : Bytes) :
    Prop :=
  ∀ files, valid files → ∃ hFile files', hFile ≠ 0 ∧
    api.fatFileOpen files hFat name = .ok (hFile, files') ∧
    ∀ szBuf n, 0 < n → n ≤ waveBufSize → ∃ files'',
      api.fatFileRead files' hFile szBuf n = .ok (true, copyAt szBuf 0 content n, files'') ∧
        valid files'' ∧ valid (api.fatFileClose files'' hFile)

/-- Browsing yields a sequence of entries, and their files open and read. `ahead` says which
entries are still to come. -/
structure Yields (api : FileApi σ) (valid : σ → Prop)
    (ahead : BrowseHandle → FileContext → List Entry → Prop) (hFat : Nat) (entries : List Entry) :
    Prop where
  begins : ∀ files, valid files → ∃ handle,
    api.fatFileBrowseBegin files hFat = .ok (some handle) ∧ ahead handle FileContext.blank entries
  next : ∀ files handle context entry rest, valid files → ahead handle context (entry :: rest) →
    ∃ handle' files', api.fatFileBrowseNext files handle context =
      .ok (true, handle', entry.context, files') ∧ ahead handle' entry.context rest ∧ valid files'
  last : ∀ files handle context, valid files → ahead handle context [] →
    ∃ handle' context' files', api.fatFileBrowseNext files handle context =
      .ok (false, handle', context', files')
  opens : ∀ entry ∈ entries, OpensAs api valid hFat entry.name entry.content
  finite : entries.length < 4294967296

/-! ## The names that are listed -/

/-- The header check as it is run, on a header and the memory around it. -/
def passes (garbage : Garbage) (content : Bytes) : Bool :=
  match headerCheck (headerView content garbage) sizeofHeader with
  | some (_, accepted) => accepted
  | none => false

/-- The first 128 bytes of a file pass the checks. -/
def HeaderPasses (content : Bytes) : Prop := ∀ garbage, passes garbage content = true

/-- The names that the loop adds from some pass on, with the flag as it is then. -/
def accepted (garbage : Nat → Garbage) : Nat → Bool → List Entry → List Name
  | _, _, [] => []
  | pass, bFlag, entry :: rest =>
    let bFlag := bFlag || endsWithWav entry.name
    (if bFlag && passes (garbage pass) entry.content then [entry.name] else []) ++
      accepted garbage (pass + 1) bFlag rest

/-- The tables hold a list of names, which is also counted and returned. -/
structure ListsExactly (names : List Name) (count : Nat) (q : Globals σ) : Prop where
  returned : count = names.length
  nFileNum : q.nFileNum = count
  list : ∀ i name, names[i]? = some name → q.szFilename i = name
  table : ∀ i name, names[i]? = some name → (q.gWavePlay i).szFilename = name

variable {garbage : Nat → Garbage}

/-- The names added over two parts of a directory. -/
theorem accepted_append (first second : List Entry) : ∀ (pass : Nat) (bFlag : Bool),
    accepted garbage pass bFlag (first ++ second) = accepted garbage pass bFlag first ++
      accepted garbage (pass + first.length) (bFlag || first.any (endsWithWav ·.name)) second := by
  induction first with
  | nil => intro pass bFlag; simp [accepted]
  | cons entry rest ih =>
    intro pass bFlag
    simp only [List.cons_append, accepted, ih, List.append_assoc, List.length_cons, List.any_cons,
      Bool.or_assoc, Nat.add_assoc, Nat.add_comm 1]

/-! ## One pass -/

variable {api : FileApi σ} {valid : σ → Prop}
  {ahead : BrowseHandle → FileContext → List Entry → Prop} {hFat k : Nat} {name : Name}
  {content : Bytes} {p : Globals σ} {st st' : ListState σ}

/-- Memory as the header queries of a start see it: the tables, with the first block of the file
in the song's buffer. -/
def Globals.startView (p : Globals σ) (k : Nat) (content : Bytes) (garbage : Garbage) : View :=
  bufView (Function.update p.gWavePlay k { p.gWavePlay k with
    szBuf := copyAt (p.gWavePlay k).szBuf 0 content waveBufSize }) garbage k

/-- It holds the block. -/
theorem Globals.startView_same (p : Globals σ) (content : Bytes) (garbage : Garbage)
    (song : k ≤ maxSongs) :
    SameBlock (fun i => content i.toNat) (p.startView k content garbage) waveBufSize := by
  intro i low high
  rw [Globals.startView, bufView_inside _ _ song low high, Function.update_self]
  exact (copyAt_inside (p.gWavePlay k).szBuf 0 content waveBufSize i.toNat (Nat.zero_le _)
    (by simp only [waveBufSize] at high ⊢; omega)).symm

/-- A start of a file that opens: its block is in the buffer when the header is queried. -/
theorem OpensAs.start (opens : OpensAs api valid hFat name content) (files : valid p.files)
    (volume : p.hFat = hFat) (named : (p.gWavePlay k).szFilename = name) (song : k ≤ maxSongs)
    (garbage : Garbage) :
    ∃ first : Outcome σ, valid first.player.files ∧
      bufView first.player.gWavePlay garbage k = p.startView k content garbage ∧
      waveplayStart api garbage k p = waveplayPrepare garbage k first.events first.player := by
  obtain ⟨hFile, files', some, opened, reads⟩ := opens p.files files
  obtain ⟨files'', read, valid', _⟩ := reads (p.gWavePlay k).szBuf waveBufSize (by decide)
    (Nat.le_refl _)
  rw [← volume, ← named] at opened
  refine ⟨⟨true, [.load waveBufSize (copyAt (p.gWavePlay k).szBuf 0 content waveBufSize)],
    { p with files := files'' }.setSong k { p.gWavePlay k with
      hFile
      szBuf := copyAt (p.gWavePlay k).szBuf 0 content waveBufSize }⟩, valid', ?_, ?_⟩
  · rw [Globals.startView, ← bufView_hFile p.gWavePlay garbage k hFile]
    rfl
  · rw [waveplayStart, if_pos song, waveplayOpen_read api opened some read]
    rfl

/-- The header part of a start leaves the card alone. -/
theorem waveplayPrepare_files {garbage : Garbage} {events : List Event} {out : Outcome σ}
    (run : waveplayPrepare garbage k events p = .ok out) : out.player.files = p.files := by
  rcases waveplayPrepare_cases run with ⟨_, _, same⟩ | ⟨_, _, offset, size, prepared⟩
  · rw [same]
  · rw [prepared.player, Globals.setSong_files]

/-- A pass with the flag down. -/
theorem listEntry_unflagged {garbage : Garbage} (named : waveFilename st.fileContext = .ok name)
    (flag : (st.bFlag || endsWithWav name) = false) :
    listEntry api garbage st = .ok { st with bFlag := false } := by
  simp only [listEntry, named, flag, Bool.false_eq_true, ↓reduceIte]

/-- A pass with the flag up, over a file that opens: what happens depends on the header. -/
theorem OpensAs.listEntry (garbage : Garbage) (opens : OpensAs api valid hFat name content)
    (files : valid st.player.files) (volume : st.player.hFat = hFat)
    (named : waveFilename st.fileContext = .ok name)
    (flag : (st.bFlag || endsWithWav name) = true) :
    ∃ szHeader files', valid files' ∧ listEntry api garbage st =
      match headerCheck (headerView content garbage) sizeofHeader with
      | none => .error .neverReturns
      | some (_, true) => addSong api garbage name
          { st.setFiles files' with bFlag := true, szHeader }
      | some (_, false) => .ok { st.setFiles files' with bFlag := true, szHeader } := by
  obtain ⟨hFile, files', some, opened, reads⟩ := opens st.player.files files
  obtain ⟨files'', read, _, valid'⟩ := reads st.szHeader sizeofHeader (by decide) (by decide)
  rw [← volume] at opened
  have view : headerView (copyAt st.szHeader 0 content sizeofHeader) garbage =
      headerView content garbage := by
    funext i
    simp only [headerView]
    split
    · rename_i inside
      exact copyAt_inside _ _ _ _ _ (Nat.zero_le _) (by simp only [sizeofHeader]; omega)
    · rfl
  refine ⟨copyAt st.szHeader 0 content sizeofHeader, api.fatFileClose files'' hFile, valid', ?_⟩
  simp only [Player.listEntry, named, flag, ↓reduceIte, opened, some, read, view]
  rfl

/-- The tables hold the names so far. -/
structure HoldsNames (names : List Name) (st : ListState σ) : Prop where
  count : st.count = names.length
  list : ∀ i name, names[i]? = some name → st.player.szFilename i = name
  table : ∀ i name, names[i]? = some name → (st.player.gWavePlay i).szFilename = name

/-- The state of the loop before a pass: the entries still to come, and the names so far. -/
structure Walking (valid : σ → Prop) (ahead : BrowseHandle → FileContext → List Entry → Prop)
    (hFat : Nat) (rest : List Entry) (names : List Name) (st : ListState σ) : Prop where
  files : valid st.player.files
  volume : st.player.hFat = hFat
  ahead : ahead st.hFileBrowse st.fileContext rest
  holds : HoldsNames names st

variable {entries rest : List Entry} {names : List Name}

/-- Another state of the card, of the flag and of the header array. -/
theorem Walking.setFiles (walking : Walking valid ahead hFat rest names st) {files : σ}
    (still : valid files) (bFlag : Bool) (szHeader : Bytes) :
    Walking valid ahead hFat rest names { st.setFiles files with bFlag, szHeader } :=
  ⟨still, walking.volume, walking.ahead, walking.holds.count, walking.holds.list,
    walking.holds.table⟩

/-- A name is added. -/
theorem Walking.add (walking : Walking valid ahead hFat rest names st)
    (opens : OpensAs api valid hFat name content) {garbage : Garbage}
    (run : addSong api garbage name st = .ok st') :
    Walking valid ahead hFat rest (names ++ [name]) st' ∧ st'.bFlag = st.bFlag := by
  obtain ⟨files, volume, ahead_, ⟨count, list, table⟩⟩ := walking
  obtain ⟨_, song, started, called, rfl⟩ := addSong_cases run
  have only := waveplayStart_only called
  have named : ((st.named name).gWavePlay st.count).szFilename = name := by
    simp [ListState.named]
  obtain ⟨first, valid', _, same⟩ :=
    OpensAs.start (p := st.named name) opens files volume named song garbage
  have still : valid started.player.files := by
    rw [waveplayPrepare_files (same.symm.trans called)]
    exact valid'
  have ends {i : Nat} {other : Name} (at_ : (names ++ [name])[i]? = some other) :
      names[i]? = some other ∧ i ≠ st.count ∨ i = st.count ∧ name = other := by
    by_cases early : i < names.length
    · rw [List.getElem?_append_left early] at at_
      exact .inl ⟨at_, by omega⟩
    · rw [List.getElem?_append_right (Nat.not_lt.mp early), List.getElem?_singleton] at at_
      split at at_
      · exact .inr ⟨by omega, Option.some.inj at_⟩
      · contradiction
  refine ⟨⟨still, only.hFat.trans volume, ahead_, ?_, fun i other at_ => ?_,
    fun i other at_ => ?_⟩, rfl⟩
  · simp [ListState.added, count]
  · have names' : (st.added started).player.szFilename =
        Function.update st.player.szFilename st.count name := only.szFilename
    rw [names']
    rcases ends at_ with ⟨before, apart⟩ | ⟨rfl, rfl⟩
    · rw [Function.update_of_ne apart]
      exact list i other before
    · exact Function.update_self _ _ _
  · simp only [ListState.added]
    rcases ends at_ with ⟨before, apart⟩ | ⟨rfl, rfl⟩
    · rw [Globals.setSong_other _ _ _ _ apart, only.others i apart, ListState.named,
        Globals.setSong_other _ _ _ _ apart]
      exact table i other before
    · rw [Globals.setSong_self]
      exact only.name.trans named

/-- A pass adds the name of its entry, or nothing. -/
theorem Walking.entry {entry : Entry} (walking : Walking valid ahead hFat rest names st)
    (opens : OpensAs api valid hFat entry.name entry.content)
    (here : st.fileContext = entry.context) {garbage : Garbage}
    (run : listEntry api garbage st = .ok st') :
    Walking valid ahead hFat rest (names ++
        if (st.bFlag || endsWithWav entry.name) && passes garbage entry.content then [entry.name]
        else []) st' ∧
      st'.bFlag = (st.bFlag || endsWithWav entry.name) := by
  have named : waveFilename st.fileContext = .ok entry.name := by rw [here, entry.named]
  cases flag : st.bFlag || endsWithWav entry.name with
  | false =>
    rw [listEntry_unflagged named flag] at run
    obtain rfl := Except.ok.inj run
    simp only [Bool.false_and, Bool.false_eq_true, ↓reduceIte, List.append_nil, and_true]
    exact ⟨walking.files, walking.volume, walking.ahead, walking.holds.count, walking.holds.list,
      walking.holds.table⟩
  | true =>
    obtain ⟨szHeader, files', still, pass⟩ := opens.listEntry garbage walking.files walking.volume named
      flag
    have next := walking.setFiles still true szHeader
    rw [pass] at run
    simp only [passes, Bool.true_and]
    cases check : headerCheck (headerView entry.content garbage) sizeofHeader with
    | none =>
      rw [check] at run
      contradiction
    | some answer =>
      obtain ⟨sampleRate, accepts⟩ := answer
      rw [check] at run
      cases accepts with
      | true => exact next.add opens run
      | false =>
        obtain rfl := Except.ok.inj run
        simp only [Bool.false_eq_true, ↓reduceIte, List.append_nil]
        exact ⟨next, trivial⟩

/-- The header part of a start writes only inside the song. -/
theorem waveplayPrepare_bounds (garbage : Garbage) (k : Nat) (events : List Event)
    (p : Globals σ) : waveplayPrepare garbage k events p ≠ .error .outOfBounds := by
  simp only [waveplayPrepare]
  split
  · simp
  · simp
  · split <;> simp

/-- A name that there is room for is added inside the tables. -/
theorem Walking.add_bounds (walking : Walking valid ahead hFat rest names st)
    (opens : OpensAs api valid hFat name content) (garbage : Garbage)
    (below : names.length ≤ maxSongs) (fits : nameFits name) :
    addSong api garbage name st ≠ .error .outOfBounds := by
  rw [← walking.holds.count] at below
  obtain ⟨first, _, _, started⟩ := OpensAs.start (p := st.named name) opens walking.files
    walking.volume (by simp [ListState.named]) below garbage
  have inside := waveplayPrepare_bounds garbage st.count first.events first.player
  rw [addSong_eq api garbage fits below, started]
  cases prepared : waveplayPrepare garbage st.count first.events first.player with
  | error fault =>
    rw [prepared] at inside
    simpa [Except.map] using inside
  | ok out => simp [Except.map]

/-- A pass writes inside the tables when there is room for its name, and returns only then. -/
theorem Walking.entry_bounds {entry : Entry} (walking : Walking valid ahead hFat rest names st)
    (opens : OpensAs api valid hFat entry.name entry.content)
    (here : st.fileContext = entry.context) (garbage : Garbage) :
    let room := ((st.bFlag || endsWithWav entry.name) && passes garbage entry.content) = true →
      names.length ≤ maxSongs ∧ nameFits entry.name
    (room → listEntry api garbage st ≠ .error .outOfBounds) ∧
      ∀ st', listEntry api garbage st = .ok st' → room := by
  have named : waveFilename st.fileContext = .ok entry.name := by rw [here, entry.named]
  intro room
  cases flag : st.bFlag || endsWithWav entry.name with
  | false =>
    rw [listEntry_unflagged named flag]
    exact ⟨fun _ => by simp, fun _ _ added => by simp [flag] at added⟩
  | true =>
    obtain ⟨szHeader, files', still, pass⟩ := opens.listEntry garbage walking.files walking.volume
      named flag
    have next := walking.setFiles still true szHeader
    rw [pass]
    cases check : headerCheck (headerView entry.content garbage) sizeofHeader with
    | none => exact ⟨fun _ => by simp, fun _ run => by simp at run⟩
    | some answer =>
      obtain ⟨sampleRate, accepts⟩ := answer
      cases accepts with
      | false => exact ⟨fun _ => by simp, fun _ _ added => by simp [passes, check] at added⟩
      | true =>
        have added : ((st.bFlag || endsWithWav entry.name) && passes garbage entry.content) = true := by
          simp [flag, passes, check]
        refine ⟨fun space => ?_, fun st' run _ => ?_⟩
        · obtain ⟨below, fits⟩ := space added
          exact next.add_bounds opens garbage below fits
        · obtain ⟨fits, below, _⟩ := addSong_cases run
          rw [← next.holds.count]
          exact ⟨below, fits⟩

/-! ## The loop -/

/-- The next entry comes into the browse context. -/
theorem Walking.browse {entry : Entry} (laws : Yields api valid ahead hFat entries)
    (walking : Walking valid ahead hFat (entry :: rest) names st) :
    ∃ hFileBrowse files, api.fatFileBrowseNext st.player.files st.hFileBrowse st.fileContext =
        .ok (true, hFileBrowse, entry.context, files) ∧
      Walking valid ahead hFat rest names
        { st.setFiles files with hFileBrowse, fileContext := entry.context } := by
  obtain ⟨hFileBrowse, files, browsed, onward, still⟩ :=
    laws.next _ _ _ entry rest walking.files walking.ahead
  exact ⟨hFileBrowse, files, browsed, still, walking.volume, onward, walking.holds.count,
    walking.holds.list, walking.holds.table⟩

/-- The names of a whole listing. -/
theorem Walking.loop_names (laws : Yields api valid ahead hFat entries) (fuel pass : Nat)
    (opens : ∀ entry ∈ rest, OpensAs api valid hFat entry.name entry.content)
    (walking : Walking valid ahead hFat rest names st)
    (run : listLoop api garbage fuel pass st = .ok st') :
    HoldsNames (names ++ accepted garbage pass st.bFlag rest) st' := by
  induction fuel generalizing pass st rest names with
  | zero => contradiction
  | succ fuel ih =>
    simp only [listLoop] at run
    cases rest with
    | nil =>
      obtain ⟨_, _, _, browsed⟩ := laws.last _ _ _ walking.files walking.ahead
      simp only [browsed, Bool.false_eq_true, ↓reduceIte] at run
      obtain rfl := Except.ok.inj run
      simp only [accepted, List.append_nil]
      exact ⟨walking.holds.count, walking.holds.list, walking.holds.table⟩
    | cons entry rest =>
      obtain ⟨hFileBrowse, files, browsed, next⟩ := walking.browse laws
      simp only [browsed, ↓reduceIte] at run
      split at run
      · contradiction
      · rename_i after pass'
        obtain ⟨walking', flag⟩ := next.entry (opens entry List.mem_cons_self) rfl pass'
        have last := ih (pass + 1) (fun other member => opens other (List.mem_cons_of_mem _ member))
          walking' run
        rw [accepted, ← List.append_assoc]
        rwa [flag] at last

/-! ## The play list -/

/-- The loop begins with all entries still to come and no name. -/
theorem Yields.first (laws : Yields api valid ahead hFat entries) (garbage : Nat → Garbage)
    (files : valid p.files)
    (volume : p.hFat = hFat) :
    ∃ hFileBrowse, api.fatFileBrowseBegin p.files p.hFat = .ok (some hFileBrowse) ∧
      Walking valid ahead hFat entries [] (.first (garbage 0) hFileBrowse p) := by
  obtain ⟨hFileBrowse, begun, onward⟩ := laws.begins p.files files
  rw [volume]
  exact ⟨hFileBrowse, begun, files, volume, onward, rfl, fun i name at_ => by simp at at_,
    fun i name at_ => by simp at at_⟩

/-- Tables that hold a list exactly hold no other one. -/
theorem ListsExactly.unique {names other : List Name} {count : Nat} {q : Globals σ}
    (one : ListsExactly names count q) (two : ListsExactly other count q) : names = other := by
  have length := one.returned.symm.trans two.returned
  refine List.ext_getElem length fun i low high => ?_
  have left := one.list i names[i] (List.getElem?_eq_getElem low)
  have right := two.list i other[i] (List.getElem?_eq_getElem high)
  exact left.symm.trans right

/-- A listing that returns has put the names it accepts into the tables. -/
theorem Yields.tables (laws : Yields api valid ahead hFat entries) (files : valid p.files)
    (volume : p.hFat = hFat) (garbage : Nat → Garbage) {count : Nat} {q : Globals σ}
    (run : buildWavePlayList api garbage p = .ok (count, q)) :
    ListsExactly (accepted garbage 0 false entries) count q := by
  obtain ⟨hFileBrowse, begun, walking⟩ := laws.first garbage files volume
  rcases buildWavePlayList_cases run with ⟨none, _⟩ | ⟨handle, st, begun', loop, rfl, rfl⟩
  · rw [begun] at none
    simp at none
  · rw [begun] at begun'
    obtain rfl := Option.some.inj (Except.ok.inj begun')
    have holds := walking.loop_names laws _ _ laws.opens loop
    exact ⟨holds.count, rfl, holds.list, holds.table⟩

/-! ## A directory as a list -/

/-- The open files of a directory that is a list: for each handle the file's bytes and its seek
position. -/
abbrev OpenFiles := List (Bytes × Nat)

/-- Files of a directory that is a list. A file opens under the first entry of its name. -/
def directoryApi (entries : List Entry) : FileApi OpenFiles where
  fatFileBrowseBegin _ hFat := .ok (some ⟨0, hFat⟩)
  fatFileBrowseNext files handle context :=
    match entries[handle.directoryIndex]? with
    | some entry =>
      .ok (true, { handle with directoryIndex := handle.directoryIndex + 1 }, entry.context, files)
    | none => .ok (false, handle, context, files)
  fatFileOpen files _ name :=
    match entries.find? (·.name = name) with
    | some entry => .ok (files.length + 1, files ++ [(entry.content, 0)])
    | none => .ok (0, files)
  fatFileRead files hFile pBuffer nBufferSize :=
    match files[hFile - 1]? with
    | some (content, seekPos) =>
      .ok (true, copyAt pBuffer 0 (drop content seekPos) nBufferSize,
        files.set (hFile - 1) (content, seekPos + nBufferSize))
    | none => .error .danglingPointer
  fatFileClose files _ := files

/-- A directory that is a list yields its entries, when entries of one name have one content. -/
theorem directoryApi_yields {entries : List Entry} (finite : entries.length < 4294967296)
    (sameFile : ∀ one ∈ entries, ∀ other ∈ entries, one.name = other.name →
      one.content = other.content) (hFat : Nat) :
    Yields (directoryApi entries) (fun _ => True)
      (fun handle _ rest => entries.drop handle.directoryIndex = rest) hFat entries where
  begins files _ := ⟨⟨0, hFat⟩, rfl, rfl⟩
  next files handle context entry rest _ ahead := by
    have here : entries[handle.directoryIndex]? = some entry := by
      rw [← List.head?_drop, ahead, List.head?_cons]
    refine ⟨{ handle with directoryIndex := handle.directoryIndex + 1 }, files, ?_, ?_, trivial⟩
    · simp only [directoryApi, here]
    · rw [← List.drop_drop, ahead, List.drop_succ_cons, List.drop_zero]
  last files handle context _ ahead := by
    have none : entries[handle.directoryIndex]? = none := by
      rw [← List.head?_drop, ahead, List.head?_nil]
    exact ⟨handle, context, files, by simp only [directoryApi, none]⟩
  opens entry member files _ := by
    obtain ⟨first, found⟩ := Option.isSome_iff_exists.mp
      (List.find?_isSome (p := fun other : Entry => decide (other.name = entry.name)).mpr
        ⟨entry, member, decide_eq_true rfl⟩)
    have name : first.name = entry.name := by simpa using List.find?_some found
    have content := sameFile first (List.mem_of_find?_eq_some found) entry member name
    have whole : drop first.content 0 = entry.content := by
      rw [content]
      funext i
      rw [drop_apply, Nat.zero_add]
    refine ⟨files.length + 1, files ++ [(first.content, 0)], Nat.succ_ne_zero _, ?_,
      fun szBuf n _ _ => ?_⟩
    · simp only [directoryApi, found]
    · refine ⟨(files ++ [(first.content, 0)]).set files.length (first.content, 0 + n), ?_, trivial,
        trivial⟩
      simp only [directoryApi, Nat.add_sub_cancel, List.getElem?_concat_length, whole]
  finite := finite

/-- A file with a short name. -/
def shortEntry (name : Name) (content : Bytes)
    (named : waveFilename { FileContext.blank with szName := writeString (fun _ => 0) name } =
      .ok name) : Entry := ⟨_, name, content, named⟩

/-- The file `A.WAV`, with 980 bytes of samples. -/
def waveEntry : Entry :=
  shortEntry [0x41, 0x2E, 0x57, 0x41, 0x56]
    (blockOf [(0, stereoHeader [0xF8, 3, 0, 0] [0xD4, 3, 0, 0])]) (by decide)

/-- The globals before a listing of a directory that is a list. -/
def beforeListing : Globals OpenFiles := ⟨[], 1, fun _ => .cleared, 0, fun _ => []⟩

end SoundBoard.Player
