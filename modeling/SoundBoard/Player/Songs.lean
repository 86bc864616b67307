import SoundBoard.Player.HeaderScan
import SoundBoard.Player.Membership

/-!
# Which files are songs

The names that the list is to hold (`songs`) are compared with those that the listing adds. The
loop opens an entry by its name, under which another file may be found, and its header queries
may look at memory that nobody has written; the tables have room for a number of songs with
names of some length. `ListsOnlySongs` says when none of this shows.
-/

namespace SoundBoard.Player

open SoundBoard.Lib SoundBoard.Fat SoundBoard.Wave

variable {σ : Type}

/-! ## Songs -/

/-- An entry with some file is a song: its name ends in `.wav`, and the first 128 bytes of the
file pass the checks. -/
def IsSong (file : Bytes) (entry : Entry) : Prop :=
  endsWithWav entry.name = true ∧ HeaderPasses file

open Classical in
/-- The names of the songs from some place of the directory on, with the file of each place. -/
noncomputable def songs (own : Nat → Bytes) : Nat → List Entry → List Name
  | _, [] => []
  | place, entry :: rest =>
    (if IsSong (own place) entry then [entry.name] else []) ++ songs own (place + 1) rest

/-- The first 128 bytes of a file are refused, whatever lies around them. -/
def HeaderRefused (content : Bytes) : Prop :=
  ∀ garbage, ∃ sampleRate,
    headerCheck (headerView content garbage) sizeofHeader = some (sampleRate, false)

/-- The file that opens under the name of an entry is judged as the entry's own file. -/
def Judged (file : Bytes) (entry : Entry) : Prop :=
  (IsSong file entry → HeaderPasses entry.content) ∧
    (¬IsSong file entry → HeaderRefused entry.content)

/-- The flag of the loop at an entry, from the flag before the first one. -/
def flaggedAt (bFlag : Bool) (entries : List Entry) (i : Nat) : Bool :=
  bFlag || (entries.take (i + 1)).any (endsWithWav ·.name)

/-- Every entry that finds the flag set is judged as its own file. -/
def AllJudged (own : Nat → Bytes) (entries : List Entry) : Prop :=
  ∀ i entry, entries[i]? = some entry → flaggedAt false entries i = true → Judged (own i) entry

/-! ## Passes that return -/

/-- The searches of a start end: those for the format, and behind an accepted header those for
the samples. -/
def StartEnds (view : View) : Prop :=
  headerCheck view waveBufSize ≠ none ∧
    ∀ sampleRate, headerCheck view waveBufSize = some (sampleRate, true) →
      waveGetChunkOffset view waveBufSize chunkData ≠ none

/-- A pass over an entry returns: its header queries end, and when it adds the entry there is room
for it and the searches of the start end. -/
def PassReturns (garbage : Garbage) (entry : Entry) (st : ListState σ) : Prop :=
  (st.bFlag || endsWithWav entry.name) = true →
    headerCheck (headerView entry.content garbage) sizeofHeader ≠ none ∧
      (passes garbage entry.content = true → st.count ≤ maxSongs ∧ nameFits entry.name ∧
        StartEnds ((st.named entry.name).startView st.count entry.content garbage))

variable {api : FileApi σ} {valid : σ → Prop}
  {ahead : BrowseHandle → FileContext → List Entry → Prop} {hFat k : Nat} {p : Globals σ}
  {st st' : ListState σ} {entries rest : List Entry} {entry : Entry} {names : List Name}

/-- The header part of a start returns exactly when its searches end. -/
theorem waveplayPrepare_returns_iff (garbage : Garbage) (events : List Event) :
    (∃ out, waveplayPrepare garbage k events p = .ok out) ↔
      StartEnds (bufView p.gWavePlay garbage k) := by
  simp only [waveplayPrepare, StartEnds, waveGetWaveOffset, waveGetDataByteSize, chunkField]
  cases check : headerCheck (bufView p.gWavePlay garbage k) waveBufSize with
  | none => simp
  | some answer =>
    obtain ⟨sampleRate, accepts⟩ := answer
    cases accepts with
    | false => simp
    | true =>
      cases search : waveGetChunkOffset (bufView p.gWavePlay garbage k) waveBufSize chunkData with
      | none => simp
      | some offset => simp

/-- A song is added exactly when there is room for it and the searches of its start end. -/
theorem Walking.add_returns_iff (walking : Walking valid ahead hFat rest names st)
    (opens : OpensAs api valid hFat entry.name entry.content) (garbage : Garbage) :
    (∃ st', addSong api garbage entry.name st = .ok st') ↔
      st.count ≤ maxSongs ∧ nameFits entry.name ∧
        StartEnds ((st.named entry.name).startView st.count entry.content garbage) := by
  have start (below : st.count ≤ maxSongs) :
      (∃ out, waveplayStart api garbage st.count (st.named entry.name) = .ok out) ↔
        StartEnds ((st.named entry.name).startView st.count entry.content garbage) := by
    obtain ⟨first, _, view, started⟩ := OpensAs.start (p := st.named entry.name) opens
      walking.files walking.volume (by simp [ListState.named]) below garbage
    rw [started, waveplayPrepare_returns_iff, view]
  constructor
  · rintro ⟨st', run⟩
    obtain ⟨fits, below, out, called, _⟩ := addSong_cases run
    exact ⟨below, fits, (start below).mp ⟨out, called⟩⟩
  · rintro ⟨below, fits, ends⟩
    obtain ⟨out, called⟩ := (start below).mpr ends
    refine ⟨st.added out, ?_⟩
    rw [addSong_eq api garbage fits below, called]
    rfl

/-- A pass returns exactly when its parts do. -/
theorem Walking.entry_returns_iff (walking : Walking valid ahead hFat rest names st)
    (opens : OpensAs api valid hFat entry.name entry.content)
    (here : st.fileContext = entry.context) (garbage : Garbage) :
    (∃ st', listEntry api garbage st = .ok st') ↔ PassReturns garbage entry st := by
  have named : waveFilename st.fileContext = .ok entry.name := by rw [here, entry.named]
  cases flag : st.bFlag || endsWithWav entry.name with
  | false =>
    rw [listEntry_unflagged named flag, PassReturns, flag]
    simp
  | true =>
    obtain ⟨szHeader, files', still, pass⟩ := opens.listEntry garbage walking.files walking.volume
      named flag
    have added := (walking.setFiles still true szHeader).add_returns_iff opens garbage
    rw [pass, PassReturns, flag, passes]
    cases check : headerCheck (headerView entry.content garbage) sizeofHeader with
    | none => simp
    | some answer =>
      obtain ⟨sampleRate, accepts⟩ := answer
      cases accepts with
      | false => simp
      | true =>
        simp only [forall_const, ne_eq, reduceCtorEq, not_false_eq_true, true_and]
        exact added

/-! ## Listings that return -/

/-- The loop of the listing comes to a pass, in some state. -/
inductive ComesTo (api : FileApi σ) (garbage : Nat → Garbage) (p : Globals σ) :
    Nat → ListState σ → Prop where
  | first {hFileBrowse : BrowseHandle}
      (begun : api.fatFileBrowseBegin p.files p.hFat = .ok (some hFileBrowse)) :
      ComesTo api garbage p 0 (.first (garbage 0) hFileBrowse p)
  | next {pass : Nat} {st st' : ListState σ} {hFileBrowse : BrowseHandle}
      {fileContext : FileContext} {files : σ} (here : ComesTo api garbage p pass st)
      (browsed : api.fatFileBrowseNext st.player.files st.hFileBrowse st.fileContext =
        .ok (true, hFileBrowse, fileContext, files))
      (listed : listEntry api (garbage pass) { st.setFiles files with hFileBrowse, fileContext } =
        .ok st') :
      ComesTo api garbage p (pass + 1) st'

variable {garbage : Nat → Garbage} {pass : Nat}

/-- The state of the loop when it comes to a pass: the names so far and the flag are those of
the entries before. -/
structure AtPass (valid : σ → Prop) (ahead : BrowseHandle → FileContext → List Entry → Prop)
    (hFat : Nat) (garbage : Nat → Garbage) (entries : List Entry) (pass : Nat)
    (st : ListState σ) : Prop where
  inside : pass ≤ entries.length
  walking : Walking valid ahead hFat (entries.drop pass)
    (accepted garbage 0 false (entries.take pass)) st
  flag : st.bFlag = (entries.take pass).any (endsWithWav ·.name)

/-- What the loop makes of the next entry. -/
theorem AtPass.next (laws : Yields api valid ahead hFat entries)
    (at_ : AtPass valid ahead hFat garbage entries pass st) (more : entries[pass]? = some entry) :
    ∃ hFileBrowse files, api.fatFileBrowseNext st.player.files st.hFileBrowse st.fileContext =
        .ok (true, hFileBrowse, entry.context, files) ∧
      ((∃ st', listEntry api (garbage pass)
          { st.setFiles files with hFileBrowse, fileContext := entry.context } = .ok st') ↔
        PassReturns (garbage pass) entry st) ∧
      ∀ st', listEntry api (garbage pass)
          { st.setFiles files with hFileBrowse, fileContext := entry.context } = .ok st' →
        AtPass valid ahead hFat garbage entries (pass + 1) st' := by
  obtain ⟨low, here⟩ := List.getElem?_eq_some_iff.mp more
  have walking := at_.walking
  rw [List.drop_eq_getElem_cons low, here] at walking
  have opens := laws.opens entry (List.mem_of_getElem? more)
  obtain ⟨hFileBrowse, files, browsed, next⟩ := walking.browse laws
  refine ⟨hFileBrowse, files, browsed, next.entry_returns_iff opens rfl (garbage pass), ?_⟩
  intro st' run
  obtain ⟨after, flag⟩ := next.entry opens rfl run
  have taken : entries.take (pass + 1) = entries.take pass ++ [entry] := by
    rw [List.take_add_one, more, Option.toList_some]
  have before : (entries.take pass).length = pass := by
    rw [List.length_take]
    omega
  have flagged : (ListState.setFiles st files).bFlag =
      (entries.take pass).any (endsWithWav ·.name) := at_.flag
  refine ⟨low, ?_, ?_⟩
  · rw [taken, accepted_append, accepted, accepted, List.append_nil, before, Nat.zero_add,
      Bool.false_or, ← flagged]
    exact after
  · rw [taken, List.any_append, List.any_cons, List.any_nil, Bool.or_false, ← flagged]
    exact flag

/-- The flag at the next entry. -/
theorem AtPass.flaggedAt (at_ : AtPass valid ahead hFat garbage entries pass st)
    (here : entries[pass]? = some entry) :
    (st.bFlag || endsWithWav entry.name) = Player.flaggedAt false entries pass := by
  rw [at_.flag, Player.flaggedAt, List.take_add_one, here, Option.toList_some, List.any_append,
    List.any_cons, List.any_nil, Bool.or_false, Bool.false_or]

/-- So it is whenever the loop comes to a pass. -/
theorem ComesTo.atPass (laws : Yields api valid ahead hFat entries) (files : valid p.files)
    (volume : p.hFat = hFat) (comes : ComesTo api garbage p pass st) :
    AtPass valid ahead hFat garbage entries pass st := by
  induction comes with
  | first begun =>
    obtain ⟨handle, begun', walking⟩ := laws.first garbage files volume
    rw [begun] at begun'
    obtain rfl := Option.some.inj (Except.ok.inj begun')
    exact ⟨Nat.zero_le _, walking, rfl⟩
  | @next pass st st' hFileBrowse fileContext files here browsed listed ih =>
    cases more : entries[pass]? with
    | none =>
      have walking := ih.walking
      rw [List.drop_eq_nil_of_le (List.getElem?_eq_none_iff.mp more)] at walking
      obtain ⟨_, _, _, last⟩ := laws.last _ _ _ walking.files walking.ahead
      rw [browsed] at last
      simp at last
    | some entry =>
      obtain ⟨hFileBrowse', files', browsed', _, onward⟩ := ih.next laws more
      rw [browsed] at browsed'
      simp only [Except.ok.injEq, Prod.mk.injEq, true_and] at browsed'
      obtain ⟨rfl, rfl, rfl⟩ := browsed'
      exact onward st' listed

/-- Where every pass to which the loop comes returns, the loop returns. -/
theorem ComesTo.loop_returns (laws : Yields api valid ahead hFat entries) (files : valid p.files)
    (volume : p.hFat = hFat) {fuel : Nat} (enough : entries.length < pass + fuel)
    (comes : ComesTo api garbage p pass st)
    (returns : ∀ i entry st, ComesTo api garbage p i st → entries[i]? = some entry →
      PassReturns (garbage i) entry st) :
    ∃ last, listLoop api garbage fuel pass st = .ok last := by
  induction fuel generalizing pass st with
  | zero =>
    have at_ := comes.atPass laws files volume
    have inside := at_.inside
    omega
  | succ fuel ih =>
    have at_ := comes.atPass laws files volume
    cases more : entries[pass]? with
    | none =>
      have walking := at_.walking
      rw [List.drop_eq_nil_of_le (List.getElem?_eq_none_iff.mp more)] at walking
      obtain ⟨_, _, _, browsed⟩ := laws.last _ _ _ walking.files walking.ahead
      simp only [listLoop, browsed, Bool.false_eq_true, ↓reduceIte]
      exact ⟨_, rfl⟩
    | some entry =>
      obtain ⟨hFileBrowse, files', browsed, passReturns, _⟩ := at_.next laws more
      obtain ⟨after, listed⟩ := passReturns.mpr (returns pass entry st comes more)
      rw [listLoop_found fuel pass browsed, listed]
      exact ih (by omega) (comes.next browsed listed)

/-- A listing that returns comes to every pass, and each of them returns. -/
theorem ComesTo.loop_passes (laws : Yields api valid ahead hFat entries) (files : valid p.files)
    (volume : p.hFat = hFat) {fuel : Nat} {last : ListState σ}
    (comes : ComesTo api garbage p pass st)
    (run : listLoop api garbage fuel pass st = .ok last) (i : Nat) (later : pass ≤ i)
    (inside : i ≤ entries.length) :
    ∃ st, ComesTo api garbage p i st ∧
      ∀ entry, entries[i]? = some entry → PassReturns (garbage i) entry st := by
  induction fuel generalizing pass st with
  | zero => contradiction
  | succ fuel ih =>
    have at_ := comes.atPass laws files volume
    cases more : entries[pass]? with
    | none =>
      have ends := List.getElem?_eq_none_iff.mp more
      obtain rfl : i = pass := by omega
      refine ⟨st, comes, fun entry here => ?_⟩
      rw [more] at here
      contradiction
    | some entry =>
      obtain ⟨hFileBrowse, files', browsed, passReturns, _⟩ := at_.next laws more
      rw [listLoop_found fuel pass browsed] at run
      obtain ⟨after, listed, onward⟩ := bind_eq_ok run
      rcases Nat.eq_or_lt_of_le later with rfl | later
      · refine ⟨st, comes, fun other here => ?_⟩
        rw [more] at here
        obtain rfl := Option.some.inj here
        exact passReturns.mp ⟨after, listed⟩
      · exact ih (comes.next browsed listed) onward later

/-- The loop comes to a pass in one state. -/
theorem ComesTo.unique {other : ListState σ} (comes : ComesTo api garbage p pass st)
    (comes' : ComesTo api garbage p pass other) : st = other := by
  induction comes generalizing other with
  | first begun =>
    cases comes' with
    | first begun' =>
      rw [begun] at begun'
      obtain rfl := Option.some.inj (Except.ok.inj begun')
      rfl
  | next here browsed listed ih =>
    cases comes' with
    | next here' browsed' listed' =>
      obtain rfl := ih here'
      rw [browsed] at browsed'
      simp only [Except.ok.injEq, Prod.mk.injEq, true_and] at browsed'
      obtain ⟨rfl, rfl, rfl⟩ := browsed'
      rw [listed] at listed'
      exact Except.ok.inj listed'

/-- A listing returns exactly when every pass to which its loop comes returns. -/
theorem Yields.returns_iff (laws : Yields api valid ahead hFat entries) (files : valid p.files)
    (volume : p.hFat = hFat) (garbage : Nat → Garbage) :
    (∃ count q, buildWavePlayList api garbage p = .ok (count, q)) ↔
      ∀ i entry st, ComesTo api garbage p i st → entries[i]? = some entry →
        PassReturns (garbage i) entry st := by
  constructor
  · rintro ⟨count, q, run⟩ i entry st comes here
    rcases buildWavePlayList_cases run with ⟨none, _⟩ | ⟨handle, last, begun, loop, _⟩
    · obtain ⟨handle, begun, _⟩ := laws.first garbage files volume
      rw [none] at begun
      simp at begun
    · have low := (List.getElem?_eq_some_iff.mp here).1
      obtain ⟨other, comes', returns⟩ := (ComesTo.first begun).loop_passes laws files volume loop i
        (Nat.zero_le i) (Nat.le_of_lt low)
      rw [comes.unique comes']
      exact returns entry here
  · intro returns
    obtain ⟨handle, begun, _⟩ := laws.first garbage files volume
    have enough : entries.length < 0 + indexFuel := by
      rw [Nat.zero_add, indexFuel]
      exact laws.finite
    obtain ⟨last, loop⟩ := (ComesTo.first begun).loop_returns laws files volume enough returns
    refine ⟨last.count, { last.player with nFileNum := last.count }, ?_⟩
    simp only [buildWavePlayList, begun]
    exact congrArg (Except.map _) loop

/-- A listing that returns comes to every pass. -/
theorem Yields.comesTo (laws : Yields api valid ahead hFat entries) (files : valid p.files)
    (volume : p.hFat = hFat)
    (returns : ∃ count q, buildWavePlayList api garbage p = .ok (count, q)) {i : Nat}
    (inside : i ≤ entries.length) : ∃ st, ComesTo api garbage p i st := by
  obtain ⟨count, q, run⟩ := returns
  rcases buildWavePlayList_cases run with ⟨none, _⟩ | ⟨handle, last, begun, loop, _⟩
  · obtain ⟨handle, begun, _⟩ := laws.first garbage files volume
    rw [none] at begun
    simp at begun
  · obtain ⟨st, comes, _⟩ := (ComesTo.first begun).loop_passes laws files volume loop i
      (Nat.zero_le i) inside
    exact ⟨st, comes⟩

/-- A pass adds at most one song, for which there is room. -/
theorem listEntry_count {garbage : Garbage} (run : listEntry api garbage st = .ok st')
    (room : st.count ≤ maxSongs + 1) : st'.count ≤ maxSongs + 1 := by
  obtain ⟨_, _, pass⟩ := listEntry_cases run
  cases pass with
  | accepted set opens some reads check adds =>
    obtain ⟨_, below, _, _, rfl⟩ := addSong_cases adds
    exact Nat.succ_le_succ below
  | _ => exact room

/-- So there is room for all songs of a listing that returns. -/
theorem ComesTo.count (comes : ComesTo api garbage p pass st) : st.count ≤ maxSongs + 1 := by
  induction comes with
  | first begun => exact Nat.zero_le _
  | next here browsed listed ih => exact listEntry_count listed ih

/-! ## Names -/

variable {own : Nat → Bytes} {place i : Nat} {bFlag : Bool} {name : Name}

/-- The flag at the first entry. -/
theorem flaggedAt_zero : flaggedAt bFlag (entry :: rest) 0 = (bFlag || endsWithWav entry.name) := by
  simp [flaggedAt]

/-- The flag at a later entry. -/
theorem flaggedAt_succ :
    flaggedAt bFlag (entry :: rest) (i + 1) = flaggedAt (bFlag || endsWithWav entry.name) rest i := by
  simp [flaggedAt, Bool.or_assoc]

/-- An entry whose name ends in `.wav` finds the flag set. -/
theorem flaggedAt_wav (here : entries[i]? = some entry) (wav : endsWithWav entry.name = true) :
    flaggedAt bFlag entries i = true := by
  rw [flaggedAt, List.take_add_one, here, Option.toList_some, List.any_append, List.any_cons, wav]
  simp

/-- The entries behind it make no difference to the flag at an entry. -/
theorem flaggedAt_take {j : Nat} (early : j < i) :
    flaggedAt bFlag (entries.take i) j = flaggedAt bFlag entries j := by
  rw [flaggedAt, flaggedAt, List.take_take, Nat.min_eq_left early]

/-- The songs of two parts of a directory. -/
theorem songs_append (first second : List Entry) :
    songs own place (first ++ second) =
      songs own place first ++ songs own (place + first.length) second := by
  induction first generalizing place with
  | nil => rfl
  | cons entry rest ih =>
    rw [List.cons_append, songs, songs, ih, List.append_assoc, List.length_cons, Nat.add_assoc,
      Nat.add_comm 1]

/-- The songs up to an entry that is one. -/
theorem songs_split (here : entries[i]? = some entry) (song : IsSong (own i) entry) :
    ∃ after, songs own 0 entries = songs own 0 (entries.take i) ++ entry.name :: after := by
  obtain ⟨low, rfl⟩ := List.getElem?_eq_some_iff.mp here
  refine ⟨songs own (i + 1) (entries.drop (i + 1)), ?_⟩
  have length : (entries.take i).length = i := by
    rw [List.length_take]
    omega
  conv_lhs => rw [← List.take_append_drop i entries, List.drop_eq_getElem_cons low]
  rw [songs_append, length, Nat.zero_add, songs, if_pos song]
  rfl

/-- A name of a song is that of an entry that is one. -/
theorem exists_song (member : name ∈ songs own place entries) :
    ∃ i entry, entries[i]? = some entry ∧ IsSong (own (place + i)) entry ∧ entry.name = name := by
  induction entries generalizing place with
  | nil => simp [songs] at member
  | cons first rest ih =>
    rw [songs, List.mem_append] at member
    rcases member with here | later
    · by_cases song : IsSong (own place) first
      · rw [if_pos song, List.mem_singleton] at here
        exact ⟨0, first, rfl, song, here.symm⟩
      · rw [if_neg song] at here
        contradiction
    · obtain ⟨i, entry, at_, song, named⟩ := ih later
      rw [Nat.add_assoc, Nat.add_comm 1] at song
      exact ⟨i + 1, entry, at_, song, named⟩

/-- What is accepted are the songs, when each entry is judged as its own file. -/
theorem accepted_eq_songs (garbage : Nat → Garbage) (judged : ∀ i entry, entries[i]? = some entry →
      flaggedAt bFlag entries i = true → Judged (own (place + i)) entry) :
    accepted garbage place bFlag entries = songs own place entries := by
  induction entries generalizing place bFlag with
  | nil => rfl
  | cons entry rest ih =>
    have rest' : accepted garbage (place + 1) (bFlag || endsWithWav entry.name) rest =
        songs own (place + 1) rest := ih fun i other here flag => by
      rw [Nat.add_assoc, Nat.add_comm 1]
      exact judged (i + 1) other here (flaggedAt_succ.trans flag)
    rw [accepted, songs, rest']
    congr 1
    cases flag : bFlag || endsWithWav entry.name with
    | false =>
      have quiet : ¬IsSong (own place) entry := fun song => by simp [song.1] at flag
      rw [if_neg quiet]
      rfl
    | true =>
      obtain ⟨listed, refused⟩ := judged 0 entry rfl (flaggedAt_zero.trans flag)
      by_cases song : IsSong (own place) entry
      · rw [if_pos song, listed song (garbage place)]
        rfl
      · obtain ⟨sampleRate, check⟩ := refused song (garbage place)
        rw [if_neg song, passes, check]
        rfl

/-- An entry is accepted when it finds the flag set and its header passes. -/
theorem accepted_of_flaggedAt {garbage : Nat → Garbage} (here : entries[i]? = some entry)
    (flag : flaggedAt bFlag entries i = true)
    (passed : passes (garbage (place + i)) entry.content = true) :
    entry.name ∈ accepted garbage place bFlag entries := by
  induction entries generalizing place bFlag i with
  | nil => simp at here
  | cons first rest ih =>
    rw [accepted, List.mem_append]
    cases i with
    | zero =>
      obtain rfl := Option.some.inj here
      rw [flaggedAt_zero] at flag
      rw [Nat.add_zero] at passed
      simp [flag, passed]
    | succ i =>
      rw [flaggedAt_succ] at flag
      rw [← Nat.add_assoc, Nat.add_right_comm] at passed
      exact .inr (ih here flag passed)

/-- How often a name that ends in `.wav` is accepted, in one memory. -/
theorem accepted_count (garbage : Garbage) (wav : endsWithWav name = true) :
    (accepted (fun _ => garbage) place bFlag entries).count name =
      entries.countP fun entry => entry.name = name && passes garbage entry.content := by
  induction entries generalizing place bFlag with
  | nil => rfl
  | cons entry rest ih =>
    rw [accepted, List.count_append, ih, List.countP_cons, Nat.add_comm]
    congr 1
    by_cases same : entry.name = name
    · rw [same, wav, Bool.or_true]
      cases passes garbage entry.content <;> simp
    · cases (bFlag || endsWithWav entry.name) && passes garbage entry.content <;> simp [same]

/-- A name is that of a song at most as often as it occurs, and as often only when it is that of
songs alone. -/
theorem songs_count : (songs own place entries).count name ≤
      entries.countP (fun entry => entry.name = name) ∧
    ((songs own place entries).count name = entries.countP (fun entry => entry.name = name) →
      ∀ i entry, entries[i]? = some entry → entry.name = name → IsSong (own (place + i)) entry) := by
  classical
  induction entries generalizing place with
  | nil => simp [songs]
  | cons first rest ih =>
    obtain ⟨fewer, all⟩ := @ih (place + 1)
    rw [songs, List.count_append, List.countP_cons]
    by_cases same : first.name = name
    · by_cases song : IsSong (own place) first
      · rw [if_pos song, same, List.count_singleton_self]
        simp only [decide_true, ↓reduceIte]
        refine ⟨by omega, fun equal i entry here named => ?_⟩
        cases i with
        | zero =>
          obtain rfl := Option.some.inj here
          exact song
        | succ i =>
          rw [← Nat.add_assoc, Nat.add_right_comm]
          exact all (by omega) i entry here named
      · rw [if_neg song, List.count_nil, same]
        simp only [decide_true, ↓reduceIte]
        exact ⟨by omega, fun equal => by omega⟩
    · have none : List.count name (if IsSong (own place) first then [first.name] else []) = 0 := by
        split <;> simp [same]
      rw [none]
      simp only [same, decide_false, Bool.false_eq_true, ↓reduceIte]
      refine ⟨by omega, fun equal i entry here named => ?_⟩
      cases i with
      | zero =>
        obtain rfl := Option.some.inj here
        exact absurd named same
      | succ i =>
        rw [← Nat.add_assoc, Nat.add_right_comm]
        exact all (by omega) i entry here named

/-! ## The play list -/

/-- The listing returns, with exactly the songs in the tables, whatever it finds in memory that
nobody has written. -/
def ListsSongs (api : FileApi σ) (p : Globals σ) (own : Nat → Bytes) (entries : List Entry) :
    Prop :=
  ∀ garbage : Nat → Garbage, ∃ count q, buildWavePlayList api garbage p = .ok (count, q) ∧
    ListsExactly (songs own 0 entries) count q

/-- The condition on a directory for that. -/
structure ListsOnlySongs (api : FileApi σ) (p : Globals σ) (own : Nat → Bytes)
    (entries : List Entry) : Prop where
  /-- From the first name that ends in `.wav` on, what opens under a name is judged as the entry's
  own file, and by its first 128 bytes alone. -/
  judged : AllJudged own entries
  /-- The tables have room for the songs. -/
  room : (songs own 0 entries).length ≤ maxSongs + 1
  /-- The names have room for theirs. -/
  fit : ∀ name ∈ songs own 0 entries, nameFits name
  /-- The search for the samples of a song ends, in the tables as they are when it is started. -/
  ends : ∀ garbage i entry st, ComesTo api garbage p i st → entries[i]? = some entry →
    IsSong (own i) entry →
    waveGetChunkOffset ((st.named entry.name).startView st.count entry.content (garbage i))
      waveBufSize chunkData ≠ none

/-- A header that passes in every memory passes in the buffer of a song. -/
theorem HeaderPasses.start {content : Bytes} {view : View} (header : HeaderPasses content)
    (same : SameBlock (fun i => content i.toNat) view waveBufSize) :
    ∃ sampleRate, headerCheck view waveBufSize = some (sampleRate, true) := by
  have around : headerView content ⟨view, false⟩ = view := by
    funext i
    by_cases inside : 0 ≤ i ∧ i < 128
    · rw [headerView, if_pos inside]
      exact same i inside.1 (Int.lt_trans inside.2 (by decide))
    · rw [headerView, if_neg inside]
  have passed := header ⟨view, false⟩
  rw [passes, around] at passed
  cases check : headerCheck view sizeofHeader with
  | none =>
    rw [check] at passed
    contradiction
  | some answer =>
    obtain ⟨sampleRate, accepts⟩ := answer
    rw [check] at passed
    obtain rfl : accepts = true := passed
    cases search : waveGetChunkOffset view sizeofHeader chunkFormat with
    | none => simp [headerCheck, waveGetSampleRate, chunkField, search] at check
    | some nOffset =>
      have format := (headerCheck_iff search).mp ⟨sampleRate, check⟩
      have more : (sizeofHeader : Int) ≤ waveBufSize := by decide
      have longer := waveGetChunkOffset_longer more search format.1
      exact ⟨_, headerCheck_passes longer format⟩

/-- Two entries of one name open the same file. -/
theorem Yields.passes_same (laws : Yields api valid ahead hFat entries) (files : valid p.files)
    {other : Entry} (one : entry ∈ entries) (two : other ∈ entries) (named : entry.name = other.name)
    (garbage : Garbage) : passes garbage entry.content = passes garbage other.content := by
  obtain ⟨hFile, files₁, _, opened₁, reads₁⟩ := laws.opens entry one p.files files
  obtain ⟨hFile', files₂, _, opened₂, reads₂⟩ := laws.opens other two p.files files
  rw [named, opened₂] at opened₁
  obtain ⟨rfl, rfl⟩ := Prod.mk.inj (Except.ok.inj opened₁)
  obtain ⟨_, read₁, _⟩ := reads₁ (fun _ => 0) sizeofHeader (by decide) (by decide)
  obtain ⟨_, read₂, _⟩ := reads₂ (fun _ => 0) sizeofHeader (by decide) (by decide)
  rw [read₂, Except.ok.injEq, Prod.mk.injEq, Prod.mk.injEq] at read₁
  have block := read₁.2.1
  have view : headerView entry.content garbage = headerView other.content garbage := by
    funext i
    by_cases inside : 0 ≤ i ∧ i < 128
    · rw [headerView, headerView, if_pos inside, if_pos inside]
      have byte := congrFun block i.toNat
      rw [copyAt_inside _ _ _ _ _ (Nat.zero_le _) (by simp only [sizeofHeader]; omega),
        copyAt_inside _ _ _ _ _ (Nat.zero_le _) (by simp only [sizeofHeader]; omega)] at byte
      exact byte.symm
    · rw [headerView, headerView, if_neg inside, if_neg inside]
  rw [passes, passes, view]

/-- A listing that holds the songs has judged each entry as its own file: it is added in some
memory exactly when it is a song. -/
theorem Yields.passes_iff (laws : Yields api valid ahead hFat entries) (files : valid p.files)
    (volume : p.hFat = hFat) (lists : ListsSongs api p own entries)
    (here : entries[i]? = some entry) (flag : flaggedAt false entries i = true)
    (garbage : Garbage) : passes garbage entry.content = true ↔ IsSong (own i) entry := by
  obtain ⟨count, q, run, exact_⟩ := lists fun _ => garbage
  have same : accepted (fun _ => garbage) 0 false entries = songs own 0 entries :=
    (laws.tables files volume _ run).unique exact_
  have member := List.mem_of_getElem? here
  by_cases wav : endsWithWav entry.name = true
  · have counted : (accepted (fun _ => garbage) 0 false entries).count entry.name =
        entries.countP fun other => other.name = entry.name && passes garbage other.content :=
      accepted_count garbage wav
    rw [same] at counted
    cases passed : passes garbage entry.content with
    | true =>
      have all : (songs own 0 entries).count entry.name =
          entries.countP fun other => other.name = entry.name := by
        rw [counted]
        refine List.countP_congr fun other inside => ?_
        by_cases named : other.name = entry.name
        · simp [named, laws.passes_same files inside member named garbage, passed]
        · simp [named]
      have song := songs_count.2 all i entry here rfl
      rw [Nat.zero_add] at song
      exact iff_of_true rfl song
    | false =>
      refine iff_of_false (by simp) fun song => ?_
      obtain ⟨after, split⟩ := songs_split here song
      have none : (songs own 0 entries).count entry.name = 0 := by
        rw [counted, List.countP_eq_zero]
        intro other inside
        by_cases named : other.name = entry.name
        · simp [named, laws.passes_same files inside member named garbage, passed]
        · simp [named]
      rw [List.count_eq_zero, split] at none
      exact none (List.mem_append_right _ List.mem_cons_self)
  · refine iff_of_false (fun passed => wav ?_) fun song => wav song.1
    have listed : entry.name ∈ accepted (fun _ => garbage) 0 false entries :=
      accepted_of_flaggedAt here flag passed
    rw [same] at listed
    obtain ⟨_, _, _, song, named⟩ := exists_song listed
    exact named ▸ song.1

/-- So every entry that finds the flag set is judged as its own file. -/
theorem ListsSongs.judged (laws : Yields api valid ahead hFat entries) (files : valid p.files)
    (volume : p.hFat = hFat) (lists : ListsSongs api p own entries)
    (here : entries[i]? = some entry) (flag : flaggedAt false entries i = true) :
    Judged (own i) entry := by
  have passes_iff := laws.passes_iff files volume lists here flag
  refine ⟨fun song garbage => (passes_iff garbage).mpr song, fun other garbage => ?_⟩
  have returns : ∃ count q, buildWavePlayList api (fun _ => garbage) p = .ok (count, q) := by
    obtain ⟨count, q, run, _⟩ := lists fun _ => garbage
    exact ⟨count, q, run⟩
  obtain ⟨st, comes⟩ := laws.comesTo files volume returns
    (Nat.le_of_lt (List.getElem?_eq_some_iff.mp here).1)
  have set := (comes.atPass laws files volume).flaggedAt here
  have pass := (laws.returns_iff files volume _).mp returns i entry st comes here
  obtain ⟨⟨sampleRate, accepts⟩, check⟩ := Option.ne_none_iff_exists'.mp (pass (set.trans flag)).1
  have refused := mt (passes_iff garbage).mp other
  cases accepts with
  | false => exact ⟨sampleRate, check⟩
  | true =>
    rw [passes, check] at refused
    exact absurd rfl refused

/-- The songs are then accepted, up to every place. -/
theorem AllJudged.accepted_take (judged : AllJudged own entries) (garbage : Nat → Garbage)
    (i : Nat) : accepted garbage 0 false (entries.take i) = songs own 0 (entries.take i) := by
  apply accepted_eq_songs
  intro j entry here flag
  have early : j < i := by
    have low := (List.getElem?_eq_some_iff.mp here).1
    rw [List.length_take] at low
    omega
  rw [List.getElem?_take_of_lt early] at here
  rw [flaggedAt_take early] at flag
  rw [Nat.zero_add]
  exact judged j entry here flag

/-- Where there is room for all songs, there is room for each. -/
theorem AllJudged.below (judged : AllJudged own entries)
    (room : (songs own 0 entries).length ≤ maxSongs + 1)
    (at_ : AtPass valid ahead hFat garbage entries i st) (here : entries[i]? = some entry)
    (song : IsSong (own i) entry) : st.count ≤ maxSongs := by
  obtain ⟨after, split⟩ := songs_split here song
  rw [split, List.length_append, List.length_cons, ← judged.accepted_take garbage i,
    ← at_.walking.holds.count] at room
  omega

/-- Every pass over a directory that meets the condition returns. -/
theorem ListsOnlySongs.passReturns (laws : Yields api valid ahead hFat entries)
    (files : valid p.files) (volume : p.hFat = hFat) (only : ListsOnlySongs api p own entries)
    (comes : ComesTo api garbage p i st) (here : entries[i]? = some entry) :
    PassReturns (garbage i) entry st := by
  have at_ := comes.atPass laws files volume
  intro flag
  obtain ⟨listed, refused⟩ := only.judged i entry here ((at_.flaggedAt here).symm.trans flag)
  by_cases song : IsSong (own i) entry
  · have header := listed song
    obtain ⟨after, split⟩ := songs_split here song
    have judged : AllJudged own entries := only.judged
    have below := judged.below only.room at_ here song
    refine ⟨?_, fun _ => ⟨below, ?_, ?_⟩⟩
    · intro none
      have passed := header (garbage i)
      rw [passes, none] at passed
      contradiction
    · apply only.fit
      rw [split]
      exact List.mem_append_right _ List.mem_cons_self
    · obtain ⟨sampleRate, check⟩ := header.start
        ((st.named entry.name).startView_same entry.content (garbage i) below)
      exact ⟨by simp [check], fun _ _ => only.ends garbage i entry st comes here song⟩
  · obtain ⟨sampleRate, check⟩ := refused song (garbage i)
    rw [passes, check]
    simp

/-- The songs are listed, in every memory, exactly on the directories that meet the condition. -/
theorem listsSongs_iff (laws : Yields api valid ahead hFat entries) (files : valid p.files)
    (volume : p.hFat = hFat) (own : Nat → Bytes) :
    ListsSongs api p own entries ↔ ListsOnlySongs api p own entries := by
  constructor
  · intro lists
    have judged : AllJudged own entries :=
      fun i entry here flag => lists.judged laws files volume here flag
    have returns (garbage : Nat → Garbage) :
        ∃ count q, buildWavePlayList api garbage p = .ok (count, q) := by
      obtain ⟨count, q, run, _⟩ := lists garbage
      exact ⟨count, q, run⟩
    have song_returns (garbage : Nat → Garbage) (i : Nat) (entry : Entry) (st : ListState σ)
        (comes : ComesTo api garbage p i st) (here : entries[i]? = some entry)
        (song : IsSong (own i) entry) : st.count ≤ maxSongs ∧ nameFits entry.name ∧
          StartEnds ((st.named entry.name).startView st.count entry.content (garbage i)) := by
      have flag : flaggedAt false entries i = true := flaggedAt_wav here song.1
      have set := (comes.atPass laws files volume).flaggedAt here
      have pass := (laws.returns_iff files volume garbage).mp (returns garbage) i entry st comes here
      exact (pass (set.trans flag)).2 ((judged i entry here flag).1 song (garbage i))
    constructor
    · exact judged
    · obtain ⟨st, comes⟩ := laws.comesTo files volume (returns fun _ => .zero)
        (Nat.le_refl entries.length)
      have holds := (comes.atPass laws files volume).walking.holds.count
      rw [judged.accepted_take, List.take_length] at holds
      rw [← holds]
      exact comes.count
    · intro name member
      obtain ⟨i, entry, here, song, rfl⟩ := exists_song member
      rw [Nat.zero_add] at song
      obtain ⟨st, comes⟩ := laws.comesTo files volume (returns fun _ => .zero)
        (Nat.le_of_lt (List.getElem?_eq_some_iff.mp here).1)
      exact (song_returns _ i entry st comes here song).2.1
    · intro garbage i entry st comes here song
      obtain ⟨below, _, ends⟩ := song_returns garbage i entry st comes here song
      have header := (judged i entry here (flaggedAt_wav here song.1)).1 song
      obtain ⟨sampleRate, check⟩ := header.start
        ((st.named entry.name).startView_same entry.content (garbage i) below)
      exact ends.2 sampleRate check
  · intro only garbage
    obtain ⟨count, q, run⟩ := (laws.returns_iff files volume garbage).mpr
      fun i entry st comes here => only.passReturns laws files volume comes here
    have tables := laws.tables files volume garbage run
    have judged : AllJudged own entries := only.judged
    have same := judged.accepted_take garbage entries.length
    rw [List.take_length] at same
    exact ⟨count, q, run, same ▸ tables⟩

/-! ## A mixed directory -/

/-- The search for the samples ends when the chunks in the first 512 bytes lead to them. -/
theorem listsOnlySongs_of_dataInside (laws : Yields api valid ahead hFat entries)
    (files : valid p.files) (volume : p.hFat = hFat) (judged : AllJudged own entries)
    (room : (songs own 0 entries).length ≤ maxSongs + 1)
    (fit : ∀ name ∈ songs own 0 entries, nameFits name)
    (data : ∀ i entry, entries[i]? = some entry → IsSong (own i) entry → ∃ found,
      ChunkInside (blockView entry.content) waveBufSize chunkData 8 sizeofWaveHeader found) :
    ListsOnlySongs api p own entries := by
  refine ⟨judged, room, fit, ?_⟩
  intro garbage i entry st comes here song
  have below := judged.below room (comes.atPass laws files volume) here song
  obtain ⟨found, chain⟩ := data i entry here song
  have same := (st.named entry.name).startView_same entry.content (garbage i) below
  rw [(chain.same same (by decide)).waveGetChunkOffset (by decide)]
  exact Option.some_ne_none found

/-- Queries that stay inside the 128 bytes have the same answers in every memory. -/
theorem headerCheck_inside {content : Bytes}
    (stays : HeaderStays (headerView content .zero) sizeofHeader) (garbage : Garbage) :
    headerCheck (headerView content garbage) sizeofHeader =
      headerCheck (headerView content .zero) sizeofHeader := by
  have same : SameBlock (headerView content .zero) (headerView content garbage) sizeofHeader := by
    intro i low high
    have inside : 0 ≤ i ∧ i < 128 := ⟨low, high⟩
    simp only [headerView, inside, and_self, ↓reduceIte]
  exact (headerCheck_same same stays).symm

/-- The header of the wave file passes by its own bytes. -/
theorem waveEntry_passes : HeaderPasses waveEntry.content := by
  intro garbage
  have stays : HeaderStays (headerView waveEntry.content .zero) sizeofHeader := by
    refine ⟨by decide +kernel, fun _ _ _ _ => by decide +kernel, fun _ => by decide +kernel⟩
  rw [passes, headerCheck_inside stays]
  decide +kernel

/-- Its samples are found behind the format chunk. -/
theorem waveEntry_data : ChunkInside (blockView waveEntry.content) waveBufSize chunkData 8
    sizeofWaveHeader 36 := by
  have next : nextOffset (blockView waveEntry.content) 12 = 36 := by decide +kernel
  refine .next (by decide +kernel) (by decide) ?_
  rw [sizeofWaveHeader, next]
  exact .here (by decide +kernel) (by decide)

/-- The same header with one channel. -/
def monoFile : Bytes := blockOf [(0, (stereoHeader [0xF8, 3, 0, 0] [0xD4, 3, 0, 0]).set 22 1)]

/-- It is refused by its own bytes. -/
theorem monoFile_refused : HeaderRefused monoFile := by
  intro garbage
  have stays : HeaderStays (headerView monoFile .zero) sizeofHeader := by
    refine ⟨by decide +kernel, fun _ _ _ stereo => ?_, fun accepted => ?_⟩
    · have mono : waveGetChannelNum (headerView monoFile .zero) sizeofHeader = some 1 := by
        decide +kernel
      rw [mono] at stereo
      contradiction
    · have refused : headerCheck (headerView monoFile .zero) sizeofHeader = some (44100, false) := by
        decide +kernel
      obtain ⟨_, check⟩ := accepted
      rw [refused] at check
      simp at check
  refine ⟨44100, ?_⟩
  rw [headerCheck_inside stays]
  decide +kernel

/-- A file with a long name. -/
def longEntry (letters name : Name) (content : Bytes)
    (named : waveFilename { FileContext.blank with
      bLongFilename := true
      szName := writeString (fun _ => 0) (letters.flatMap fun letter => [letter, 0]) } = .ok name) :
    Entry := ⟨_, name, content, named⟩

/-- `README.TXT` with text, `My Song.wav`, `MONO.WAV` and `OLD.BIN` with one channel, and
`A.WAV`. -/
def mixedEntries : List Entry :=
  [shortEntry [0x52, 0x45, 0x41, 0x44, 0x4D, 0x45, 0x2E, 0x54, 0x58, 0x54] (fun _ => 0x20) (by decide),
    longEntry [0x4D, 0x79, 0x20, 0x53, 0x6F, 0x6E, 0x67, 0x2E, 0x77, 0x61, 0x76]
      [0x4D, 0x79, 0x53, 0x6F, 0x6E, 0x67, 0x2E, 0x77, 0x61, 0x76] waveEntry.content (by decide),
    shortEntry [0x4D, 0x4F, 0x4E, 0x4F, 0x2E, 0x57, 0x41, 0x56] monoFile (by decide),
    shortEntry [0x4F, 0x4C, 0x44, 0x2E, 0x42, 0x49, 0x4E] monoFile (by decide),
    waveEntry]

/-- Their files. -/
def mixedFiles (place : Nat) : Bytes := (mixedEntries.map (·.content)).getD place fun _ => 0

/-- A file that is refused makes no song. -/
theorem not_isSong_refused {file : Bytes} (refused : HeaderRefused file) (entry : Entry) :
    ¬IsSong file entry := by
  rintro ⟨_, header⟩
  obtain ⟨sampleRate, check⟩ := refused .zero
  have passed := header .zero
  rw [passes, check] at passed
  contradiction

/-- The two stereo files are the songs. -/
theorem mixed_songs : songs mixedFiles 0 mixedEntries =
    [[0x4D, 0x79, 0x53, 0x6F, 0x6E, 0x67, 0x2E, 0x77, 0x61, 0x76], waveEntry.name] := by
  have mono (entry : Entry) : ¬IsSong (mixedFiles 2) entry ∧ ¬IsSong (mixedFiles 3) entry :=
    ⟨not_isSong_refused monoFile_refused entry, not_isSong_refused monoFile_refused entry⟩
  rw [mixedEntries, songs, if_neg (fun song => absurd song.1 (by decide)), songs,
    if_pos ⟨by decide, waveEntry_passes⟩, songs, Nat.zero_add, if_neg (mono _).1, songs,
    if_neg (mono _).2, songs, if_pos ⟨by decide, waveEntry_passes⟩, songs]
  rfl

/-- Each entry is judged as its own file. -/
theorem mixed_judged : AllJudged mixedFiles mixedEntries := by
  have stereo (entry : Entry) (wav : endsWithWav entry.name = true)
      (content : entry.content = waveEntry.content) : Judged waveEntry.content entry := by
    refine ⟨fun _ => content ▸ waveEntry_passes, fun other => absurd ⟨wav, waveEntry_passes⟩ other⟩
  have mono (entry : Entry) (content : entry.content = monoFile) : Judged monoFile entry :=
    ⟨fun song => absurd song (not_isSong_refused monoFile_refused entry),
      fun _ => content ▸ monoFile_refused⟩
  intro i entry here flag
  rcases i with _ | _ | _ | _ | _ | i
  · exact absurd flag (by decide)
  · obtain rfl := Option.some.inj here
    exact stereo _ (by decide) rfl
  · obtain rfl := Option.some.inj here
    exact mono _ rfl
  · obtain rfl := Option.some.inj here
    exact mono _ rfl
  · obtain rfl := Option.some.inj here
    exact stereo _ (by decide) rfl
  · contradiction

/-- They are listed, in every memory. -/
theorem listsSongs_iff_mixed :
    ListsSongs (directoryApi mixedEntries) beforeListing mixedFiles mixedEntries ∧
      songs mixedFiles 0 mixedEntries =
        [[0x4D, 0x79, 0x53, 0x6F, 0x6E, 0x67, 0x2E, 0x77, 0x61, 0x76], waveEntry.name] := by
  have names : (mixedEntries.map (·.name)).Nodup := by decide
  have laws := directoryApi_yields (show mixedEntries.length < 4294967296 by decide)
    (fun one first other second named =>
      congrArg Entry.content (List.inj_on_of_nodup_map names first second named)) 1
  have both := listsSongs_iff laws (p := beforeListing) trivial rfl mixedFiles
  refine ⟨both.mpr ?_, mixed_songs⟩
  apply listsOnlySongs_of_dataInside laws trivial rfl mixed_judged
  · rw [mixed_songs]
    decide
  · rw [mixed_songs]
    decide
  · intro i entry here song
    refine ⟨36, ?_⟩
    rcases i with _ | _ | _ | _ | _ | i
    · obtain rfl := Option.some.inj here
      exact absurd song.1 (by decide)
    · obtain rfl := Option.some.inj here
      exact waveEntry_data
    · exact absurd song (not_isSong_refused monoFile_refused entry)
    · exact absurd song (not_isSong_refused monoFile_refused entry)
    · obtain rfl := Option.some.inj here
      exact waveEntry_data
    · contradiction

/-- The file `B.BIN`, with the bytes of `A.WAV`. -/
def binaryEntry : Entry :=
  shortEntry [0x42, 0x2E, 0x42, 0x49, 0x4E] waveEntry.content (by decide)

/-- Behind a wave file, a file with another name is listed. -/
theorem not_listsSongs_binary :
    Yields (directoryApi [waveEntry, binaryEntry]) (fun _ => True)
        (fun handle _ rest => [waveEntry, binaryEntry].drop handle.directoryIndex = rest) 1
        [waveEntry, binaryEntry] ∧
      ¬ListsSongs (directoryApi [waveEntry, binaryEntry]) beforeListing
        (fun _ => waveEntry.content) [waveEntry, binaryEntry] := by
  classical
  refine ⟨directoryApi_yields (by decide) (by simp [waveEntry, binaryEntry, shortEntry]) 1, ?_⟩
  intro lists
  obtain ⟨count, q, listed, exact_⟩ := lists fun _ => .zero
  have run : (buildWavePlayList (directoryApi [waveEntry, binaryEntry]) (fun _ => .zero)
      beforeListing).map Prod.fst = .ok 2 := by decide +kernel
  rw [listed] at run
  have two : count = 2 := Except.ok.inj run
  have other : ¬IsSong waveEntry.content binaryEntry := fun song => absurd song.1 (by decide)
  have one : (songs (fun _ => waveEntry.content) 0 [waveEntry, binaryEntry]).length ≤ 1 := by
    rw [songs, songs, if_neg other, songs]
    split <;> simp
  have length := exact_.returned
  omega

end SoundBoard.Player
