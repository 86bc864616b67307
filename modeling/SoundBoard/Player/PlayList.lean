import SoundBoard.Lib.Agree
import SoundBoard.Player.WavePlay

/-!
# Building the play list

`build_wave_play_list` of `audio_f.c`. The loop carries the `.wav` flag, the number of songs,
the header array and the browse context from one directory entry to the next.
-/

namespace SoundBoard.Player

open SoundBoard.Lib SoundBoard.Fat SoundBoard.Wave

variable {σ : Type}

/-- `sizeof(szHeader)`. -/
def sizeofHeader : Nat := 128

/-- The test for the last four letters of a name. -/
def endsWithWav (szWaveFilename : Name) : Bool :=
  let length := szWaveFilename.length
  let letter := fun fromEnd => szWaveFilename.getD (length - fromEnd) 0
  4 ≤ length &&
    (letter 1 = 0x56 || letter 1 = 0x76) && (letter 2 = 0x41 || letter 2 = 0x61) &&
    (letter 3 = 0x57 || letter 3 = 0x77) && letter 4 = 0x2E

/-- The variables of `build_wave_play_list` that survive a pass of its loop. -/
structure ListState (σ : Type) where
  count : Nat
  bFlag : Bool
  szHeader : Bytes
  hFileBrowse : BrowseHandle
  fileContext : FileContext
  player : Globals σ

/-- `strcpy` into a name of the tables: the name and its terminator fit, or the copy leaves
the array. -/
def nameFits (szWaveFilename : Name) : Prop := szWaveFilename.length + 1 ≤ filenameLen

instance (szWaveFilename : Name) : Decidable (nameFits szWaveFilename) :=
  inferInstanceAs (Decidable (szWaveFilename.length + 1 ≤ filenameLen))

/-- Put an accepted file into both tables and start it. -/
def addSong (api : FileApi σ) (garbage : Garbage) (szWaveFilename : Name) (st : ListState σ) :
    Exec (ListState σ) :=
  if st.count < maxFileNum ∧ nameFits szWaveFilename then
    let p := { st.player with
      szFilename := Function.update st.player.szFilename st.count szWaveFilename }
    if st.count ≤ maxSongs then
      let p := p.setSong st.count { p.gWavePlay st.count with szFilename := szWaveFilename }
      match waveplayStart api garbage st.count p with
      | .error fault => .error fault
      | .ok started =>
        let p := started.player
        .ok { st with
          count := st.count + 1
          player := p.setSong st.count { p.gWavePlay st.count with readOk := started.ok } }
    else .error .outOfBounds
  else .error .outOfBounds

/-- A pass of the loop over the entry in the browse context. -/
def listEntry (api : FileApi σ) (garbage : Garbage) (st : ListState σ) : Exec (ListState σ) :=
  match waveFilename st.fileContext with
  | .error fault => .error fault
  | .ok szWaveFilename =>
    -- the flag is set by a name that fits and never taken back
    let st := { st with bFlag := st.bFlag || endsWithWav szWaveFilename }
    if st.bFlag then
      match api.fatFileOpen st.player.files st.player.hFat szWaveFilename with
      | .error fault => .error fault
      | .ok (hFile, files) =>
        let st := { st with player := { st.player with files } }
        if hFile = 0 then .ok st
        else
          match api.fatFileRead files hFile st.szHeader sizeofHeader with
          | .error fault => .error fault
          | .ok (bSuccess, szHeader, files) =>
            let st := { st with szHeader, player := { st.player with files } }
            if bSuccess then
              let st := { st with
                player := { st.player with files := api.fatFileClose files hFile } }
              match headerCheck (headerView szHeader garbage) sizeofHeader with
              | none => .error .neverReturns
              | some (_, true) => addSong api garbage szWaveFilename st
              | some (_, false) => .ok st
            else .ok st
    else .ok st

/-- The loop of `build_wave_play_list`. The garbage of a pass is chosen by its number. -/
def listLoop (api : FileApi σ) (garbage : Nat → Garbage) :
    Nat → Nat → ListState σ → Exec (ListState σ)
  | 0, _, _ => .error .neverReturns
  | fuel + 1, pass, st =>
    match api.fatFileBrowseNext st.player.files st.hFileBrowse st.fileContext with
    | .error fault => .error fault
    | .ok (bFind, hFileBrowse, fileContext, files) =>
      let st := { st with hFileBrowse, fileContext, player := { st.player with files } }
      if bFind then
        match listEntry api (garbage pass) st with
        | .error fault => .error fault
        | .ok st => listLoop api garbage fuel (pass + 1) st
      else .ok st

/-- `build_wave_play_list`: the number of songs and the globals after. -/
def buildWavePlayList (api : FileApi σ) (garbage : Nat → Garbage) (p : Globals σ) :
    Exec (Nat × Globals σ) :=
  let p := { p with nFileNum := 0 }
  match api.fatFileBrowseBegin p.files p.hFat with
  | .error fault => .error fault
  | .ok none => .ok (0, p)
  | .ok (some hFileBrowse) =>
    let st : ListState σ :=
      ⟨0, false, fun i => (garbage 0).memory i, hFileBrowse, FileContext.blank, p⟩
    (listLoop api garbage indexFuel 0 st).map fun st =>
      (st.count, { st.player with nFileNum := st.count })

/-! ## Passes of the loop -/

/-- The state of the loop after another change of the card's state. -/
def ListState.setFiles (st : ListState σ) (files : σ) : ListState σ :=
  { st with player := { st.player with files } }

/-- The loop makes a pass over an entry that it finds, and goes on. -/
theorem listLoop_found {api : FileApi σ} {garbage : Nat → Garbage} {st : ListState σ}
    {hFileBrowse : BrowseHandle} {fileContext : FileContext} {files : σ} (fuel pass : Nat)
    (browsed : api.fatFileBrowseNext st.player.files st.hFileBrowse st.fileContext =
      .ok (true, hFileBrowse, fileContext, files)) :
    listLoop api garbage (fuel + 1) pass st =
      (listEntry api (garbage pass) { st.setFiles files with hFileBrowse, fileContext }).bind
        (listLoop api garbage fuel (pass + 1)) := by
  simp only [listLoop, browsed, ↓reduceIte, ListState.setFiles]
  cases listEntry api (garbage pass)
    { st with hFileBrowse, fileContext, player := { st.player with files } } <;> rfl

/-- The tables with the name of a new song in them. -/
def ListState.named (st : ListState σ) (szWaveFilename : Name) : Globals σ :=
  { st.player with
    szFilename := Function.update st.player.szFilename st.count szWaveFilename }.setSong st.count
      { st.player.gWavePlay st.count with szFilename := szWaveFilename }

/-- The state of the loop after the new song has been started. -/
def ListState.added (st : ListState σ) (started : Outcome σ) : ListState σ :=
  { st with
    count := st.count + 1
    player := started.player.setSong st.count
      { started.player.gWavePlay st.count with readOk := started.ok } }

/-- Adding a file is a start of the song with its name in the tables. -/
theorem addSong_eq (api : FileApi σ) (garbage : Garbage) {szWaveFilename : Name}
    {st : ListState σ} (fits : nameFits szWaveFilename) (room : st.count ≤ maxSongs) :
    addSong api garbage szWaveFilename st =
      (waveplayStart api garbage st.count (st.named szWaveFilename)).map st.added := by
  have below : st.count < maxFileNum := Nat.lt_of_le_of_lt room (by decide)
  rw [addSong, if_pos ⟨below, fits⟩, if_pos room]
  simp only [ListState.named]
  cases waveplayStart api garbage st.count ({ st.player with
    szFilename := Function.update st.player.szFilename st.count szWaveFilename }.setSong st.count
      { st.player.gWavePlay st.count with szFilename := szWaveFilename }) <;> rfl

/-- A file that is added has found room for itself and for its name. -/
theorem addSong_cases {api : FileApi σ} {garbage : Garbage} {szWaveFilename : Name}
    {st st' : ListState σ} (run : addSong api garbage szWaveFilename st = .ok st') :
    nameFits szWaveFilename ∧ st.count ≤ maxSongs ∧
      ∃ started, waveplayStart api garbage st.count (st.named szWaveFilename) = .ok started ∧
        st' = st.added started := by
  by_cases fits : nameFits szWaveFilename
  · by_cases room : st.count ≤ maxSongs
    · refine ⟨fits, room, ?_⟩
      rw [addSong_eq api garbage fits room] at run
      obtain ⟨started, called, rfl⟩ := map_eq_ok run
      exact ⟨started, called, rfl⟩
    · have out : addSong api garbage szWaveFilename st = .error .outOfBounds := by
        simp [addSong, room]
      rw [out] at run
      contradiction
  · have out : addSong api garbage szWaveFilename st = .error .outOfBounds := by
      simp [addSong, fits]
    rw [out] at run
    contradiction

/-- Everything that a pass of the loop can do with an entry of some name. `flagged` is the state
with the flag brought up to date. -/
inductive ListPass (api : FileApi σ) (garbage : Garbage) (szWaveFilename : Name)
    (flagged : ListState σ) : ListState σ → Prop where
  /-- No name has ended in `.wav` so far. -/
  | skipped (unset : flagged.bFlag = false) : ListPass api garbage szWaveFilename flagged flagged
  /-- The file does not open. -/
  | unopened {files : σ} (set : flagged.bFlag = true)
      (opens : api.fatFileOpen flagged.player.files flagged.player.hFat szWaveFilename =
        .ok (0, files)) :
      ListPass api garbage szWaveFilename flagged (flagged.setFiles files)
  /-- The header does not read, and the file stays open. -/
  | unread {hFile : Nat} {files files' : σ} {szHeader : Bytes} (set : flagged.bFlag = true)
      (opens : api.fatFileOpen flagged.player.files flagged.player.hFat szWaveFilename =
        .ok (hFile, files)) (some : hFile ≠ 0)
      (reads : api.fatFileRead files hFile flagged.szHeader sizeofHeader =
        .ok (false, szHeader, files')) :
      ListPass api garbage szWaveFilename flagged { flagged.setFiles files' with szHeader }
  /-- The header is read, and refused. -/
  | refused {hFile : Nat} {files files' : σ} {szHeader : Bytes} {sampleRate : Int}
      (set : flagged.bFlag = true)
      (opens : api.fatFileOpen flagged.player.files flagged.player.hFat szWaveFilename =
        .ok (hFile, files)) (some : hFile ≠ 0)
      (reads : api.fatFileRead files hFile flagged.szHeader sizeofHeader =
        .ok (true, szHeader, files'))
      (check : headerCheck (headerView szHeader garbage) sizeofHeader = Option.some (sampleRate, false)) :
      ListPass api garbage szWaveFilename flagged
        { flagged.setFiles (api.fatFileClose files' hFile) with szHeader }
  /-- The header is accepted, and the file is added. -/
  | accepted {hFile : Nat} {files files' : σ} {szHeader : Bytes} {sampleRate : Int}
      {st' : ListState σ} (set : flagged.bFlag = true)
      (opens : api.fatFileOpen flagged.player.files flagged.player.hFat szWaveFilename =
        .ok (hFile, files)) (some : hFile ≠ 0)
      (reads : api.fatFileRead files hFile flagged.szHeader sizeofHeader =
        .ok (true, szHeader, files'))
      (check : headerCheck (headerView szHeader garbage) sizeofHeader = Option.some (sampleRate, true))
      (adds : addSong api garbage szWaveFilename
        { flagged.setFiles (api.fatFileClose files' hFile) with szHeader } = .ok st') :
      ListPass api garbage szWaveFilename flagged st'

/-- A pass does one of these things. -/
theorem listEntry_cases {api : FileApi σ} {garbage : Garbage} {st st' : ListState σ}
    (run : listEntry api garbage st = .ok st') :
    ∃ szWaveFilename, waveFilename st.fileContext = .ok szWaveFilename ∧
      ListPass api garbage szWaveFilename
        { st with bFlag := st.bFlag || endsWithWav szWaveFilename } st' := by
  unfold listEntry at run
  cases named : waveFilename st.fileContext with
  | error fault =>
    rw [named] at run
    contradiction
  | ok szWaveFilename =>
    refine ⟨szWaveFilename, rfl, ?_⟩
    simp only [named] at run
    generalize flag : (st.bFlag || endsWithWav szWaveFilename) = bFlag at run ⊢
    cases bFlag with
    | false =>
      obtain rfl := Except.ok.inj run
      exact .skipped rfl
    | true =>
      simp only [↓reduceIte] at run
      split at run
      · contradiction
      · rename_i hFile files opens
        by_cases null : hFile = 0
        · subst null
          obtain rfl := Except.ok.inj run
          exact .unopened rfl opens
        · simp only [null, ↓reduceIte] at run
          split at run
          · contradiction
          · rename_i bSuccess szHeader files' reads
            cases bSuccess with
            | false =>
              obtain rfl := Except.ok.inj run
              exact .unread rfl opens null reads
            | true =>
              simp only [↓reduceIte] at run
              split at run
              · contradiction
              · rename_i check
                exact .accepted rfl opens null reads check run
              · rename_i check
                obtain rfl := Except.ok.inj run
                exact .refused rfl opens null reads check

/-- The state in which the loop begins. -/
def ListState.first (garbage : Garbage) (hFileBrowse : BrowseHandle) (p : Globals σ) :
    ListState σ :=
  ⟨0, false, fun i => garbage.memory i, hFileBrowse, FileContext.blank, { p with nFileNum := 0 }⟩

/-- The list is empty when browsing does not begin, and otherwise it is what the loop leaves. -/
theorem buildWavePlayList_cases {api : FileApi σ} {garbage : Nat → Garbage} {p q : Globals σ}
    {count : Nat} (run : buildWavePlayList api garbage p = .ok (count, q)) :
    (api.fatFileBrowseBegin p.files p.hFat = .ok none ∧ count = 0 ∧
        q = { p with nFileNum := 0 }) ∨
      ∃ hFileBrowse st, api.fatFileBrowseBegin p.files p.hFat = .ok (some hFileBrowse) ∧
        listLoop api garbage indexFuel 0 (.first (garbage 0) hFileBrowse p) = .ok st ∧
        count = st.count ∧ q = { st.player with nFileNum := st.count } := by
  simp only [buildWavePlayList] at run
  split at run
  · contradiction
  · rename_i begun
    obtain ⟨rfl, rfl⟩ := Prod.mk.inj (Except.ok.inj run)
    exact .inl ⟨begun, rfl, rfl⟩
  · rename_i hFileBrowse begun
    obtain ⟨st, loop, same⟩ := map_eq_ok run
    obtain ⟨rfl, rfl⟩ := Prod.mk.inj same
    exact .inr ⟨hFileBrowse, st, begun, loop, rfl, rfl⟩

end SoundBoard.Player
