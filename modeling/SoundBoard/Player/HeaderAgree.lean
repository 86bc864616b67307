import SoundBoard.Player.Errors
import SoundBoard.Player.HeaderScan
import SoundBoard.Player.Membership

/-!
# The two header checks agree

`build_wave_play_list` checks the first 128 bytes of a file and `waveplay_start` the first 512 of
the same file, each with other memory behind them. Where the first check looks at nothing outside
its 128 bytes, the second gives the same answer, so every song that is listed has been started.
-/

namespace SoundBoard.Player

open SoundBoard.Lib SoundBoard.Fat SoundBoard.Wave

variable {σ : Type} {api : FileApi σ} {garbage : Garbage} {k : Nat} {p : Globals σ}

/-- The first 128 bytes of a file pass the check of the listing, which looks at nothing behind
them. -/
structure PassesInside (garbage : Garbage) (content : Bytes) (sampleRate : Int) : Prop where
  check : headerCheck (headerView content garbage) sizeofHeader = some (sampleRate, true)
  safe : ListingSafe (headerView content garbage) sizeofHeader

/-- Such a file passes the check of a start as well, with the same sample rate. -/
theorem PassesInside.start {content : Bytes} {sampleRate : Int} {view : View}
    (passes : PassesInside garbage content sampleRate)
    (same : SameBlock (blockView content) view waveBufSize) :
    headerCheck view waveBufSize = some (sampleRate, true) := by
  obtain ⟨nOffset, inside⟩ := (headerView_safe content garbage).mp passes.safe
  have header := headerView_same content garbage
  have less : (sizeofHeader : Int) ≤ waveBufSize := by decide
  have first : SameBlock (headerView content garbage) view sizeofHeader := by
    intro i low high
    rw [← header i low high]
    exact same i low (Int.lt_of_lt_of_le high less)
  exact headerCheck_longer (by decide) less first (inside.same header) passes.check

/-! ## The play list -/

variable {valid : σ → Prop} {ahead : BrowseHandle → FileContext → List Entry → Prop} {hFat : Nat}
  {name : Name} {content : Bytes} {st st' : ListState σ} {entries rest : List Entry}
  {names : List Name}

/-- Every song so far has been read. -/
def AllRead (st : ListState σ) : Prop :=
  ∀ i, i < st.count → (st.player.gWavePlay i).readOk = true

/-- A song is added whose header passes inside its 128 bytes. -/
theorem Walking.add_read (walking : Walking valid ahead hFat rest names st)
    (opens : OpensAs api valid hFat name content) {sampleRate : Int}
    (passes : PassesInside garbage content sampleRate) (read : AllRead st)
    (run : addSong api garbage name st = .ok st') : AllRead st' := by
  obtain ⟨_, song, started, called, rfl⟩ := addSong_cases run
  have only := waveplayStart_only called
  have named : ((st.named name).gWavePlay st.count).szFilename = name := by
    simp [ListState.named]
  obtain ⟨first, _, view, prepares⟩ := OpensAs.start (p := st.named name) opens walking.files
    walking.volume named song garbage
  rw [prepares] at called
  have same := (st.named name).startView_same content garbage song
  rw [← view] at same
  have ok := waveplayPrepare_accepted (passes.start same) called
  intro i below
  simp only [ListState.added] at below ⊢
  by_cases new : i = st.count
  · rw [new, Globals.setSong_self]
    exact ok
  · rw [Globals.setSong_other _ _ _ _ new, only.others i new, ListState.named,
      Globals.setSong_other _ _ _ _ new]
    exact read i (by omega)

/-- In a pass over an entry. -/
theorem Walking.entry_read {entry : Entry} (walking : Walking valid ahead hFat rest names st)
    (opens : OpensAs api valid hFat entry.name entry.content)
    (here : st.fileContext = entry.context)
    (inside : passes garbage entry.content = true →
      ListingSafe (headerView entry.content garbage) sizeofHeader) (read : AllRead st)
    (run : listEntry api garbage st = .ok st') : AllRead st' := by
  have named : waveFilename st.fileContext = .ok entry.name := by rw [here, entry.named]
  cases flag : st.bFlag || endsWithWav entry.name with
  | false =>
    rw [listEntry_unflagged named flag] at run
    obtain rfl := Except.ok.inj run
    exact read
  | true =>
    obtain ⟨szHeader, files', still, pass⟩ := opens.listEntry garbage walking.files walking.volume
      named flag
    have next := walking.setFiles still true szHeader
    rw [pass] at run
    cases check : headerCheck (headerView entry.content garbage) sizeofHeader with
    | none =>
      rw [check] at run
      contradiction
    | some answer =>
      obtain ⟨sampleRate, accepts⟩ := answer
      rw [check] at run
      cases accepts with
      | true =>
        have safe := inside (by simp only [passes, check])
        exact next.add_read opens ⟨check, safe⟩ read run
      | false =>
        obtain rfl := Except.ok.inj run
        exact read

/-- In the loop. -/
theorem Walking.loop_read {garbage : Nat → Garbage} (laws : Yields api valid ahead hFat entries)
    (fuel pass : Nat)
    (opens : ∀ entry ∈ rest, OpensAs api valid hFat entry.name entry.content)
    (inside : ∀ i entry, rest[i]? = some entry → passes (garbage (pass + i)) entry.content = true →
      ListingSafe (headerView entry.content (garbage (pass + i))) sizeofHeader)
    (walking : Walking valid ahead hFat rest names st) (read : AllRead st)
    (run : listLoop api garbage fuel pass st = .ok st') : AllRead st' := by
  induction fuel generalizing pass st rest names with
  | zero => contradiction
  | succ fuel ih =>
    simp only [listLoop] at run
    cases rest with
    | nil =>
      obtain ⟨_, _, _, browsed⟩ := laws.last _ _ _ walking.files walking.ahead
      simp only [browsed, Bool.false_eq_true, ↓reduceIte] at run
      obtain rfl := Except.ok.inj run
      exact read
    | cons entry rest =>
      obtain ⟨hFileBrowse, files, browsed, next⟩ := walking.browse laws
      simp only [browsed, ↓reduceIte] at run
      split at run
      · contradiction
      · rename_i after pass'
        have own := opens entry List.mem_cons_self
        obtain ⟨walking', _⟩ := next.entry own rfl pass'
        have read' : AllRead after := next.entry_read own rfl (inside 0 entry rfl) read pass'
        refine ih (pass + 1) (fun other member => opens other (List.mem_cons_of_mem _ member))
          (fun i other at_ => ?_) walking' read' run
        have later := inside (i + 1) other at_
        rwa [show pass + (i + 1) = pass + 1 + i by omega] at later

/-- Every song of a listing has been read when no accepted header was looked at outside its 128
bytes. -/
theorem Yields.read (laws : Yields api valid ahead hFat entries) (files : valid p.files)
    (volume : p.hFat = hFat) {garbage : Nat → Garbage} {count : Nat} {q : Globals σ}
    (inside : ∀ i entry, entries[i]? = some entry → passes (garbage i) entry.content = true →
      ListingSafe (headerView entry.content (garbage i)) sizeofHeader)
    (run : buildWavePlayList api garbage p = .ok (count, q)) :
    ∀ i, i < count → (q.gWavePlay i).readOk = true := by
  obtain ⟨hFileBrowse, begun, walking⟩ := laws.first garbage files volume
  rcases buildWavePlayList_cases run with ⟨none, _⟩ | ⟨handle, st, begun', loop, rfl, rfl⟩
  · rw [begun] at none
    simp at none
  · rw [begun] at begun'
    obtain rfl := Option.some.inj (Except.ok.inj begun')
    have none : AllRead (ListState.first (garbage 0) hFileBrowse p) :=
      fun i below => absurd below (Nat.not_lt_zero i)
    refine walking.loop_read laws indexFuel 0 laws.opens (fun i entry at_ => ?_) none loop
    rw [Nat.zero_add]
    exact inside i entry at_

/-! ## Agreement -/

/-- A file that passes the first check inside its 128 bytes passes the second in the buffer of any
song, with the same answer. -/
theorem headerCheck_buffer {content : Bytes} {other : Garbage} {sampleRate : Int}
    {gWavePlay : Nat → PlaywaveContext} (song : k ≤ maxSongs)
    (passes : PassesInside garbage content sampleRate)
    (buffer : ∀ i, i < waveBufSize → (gWavePlay k).szBuf i = content i) :
    headerCheck (bufView gWavePlay other k) waveBufSize = some (sampleRate, true) := by
  apply passes.start
  intro i low high
  rw [bufView_inside gWavePlay other song low high, buffer i.toNat (by omega)]
  rfl

/-- The two checks agree: on every file that passes the first inside its 128 bytes, the second
gives the same answer, in the buffer of any song; every song of a listing of such files has been
read; and a search of a longer block finds the chunk that a search of a shorter one finds. -/
theorem headerChecks_agree :
    (∀ (content : Bytes) (garbage other : Garbage) (sampleRate : Int)
        (gWavePlay : Nat → PlaywaveContext) (k : Nat), k ≤ maxSongs →
      headerCheck (headerView content garbage) sizeofHeader = some (sampleRate, true) →
      ListingSafe (headerView content garbage) sizeofHeader →
      (∀ i, i < waveBufSize → (gWavePlay k).szBuf i = content i) →
      headerCheck (bufView gWavePlay other k) waveBufSize = some (sampleRate, true)) ∧
    (∀ (api : FileApi σ) (valid : σ → Prop) (ahead : BrowseHandle → FileContext → List Entry → Prop)
        (hFat : Nat) (entries : List Entry) (garbage : Nat → Garbage) (p q : Globals σ)
        (count : Nat), Yields api valid ahead hFat entries → valid p.files → p.hFat = hFat →
      (∀ i entry, entries[i]? = some entry → passes (garbage i) entry.content = true →
        ListingSafe (headerView entry.content (garbage i)) sizeofHeader) →
      buildWavePlayList api garbage p = .ok (count, q) →
      ∀ i, i < count → (q.gWavePlay i).readOk = true) ∧
    ∀ (szWave : View) (short long : Int) (chunkID : Nat) (found : Int), short ≤ long →
      waveGetChunkOffset szWave short chunkID = some found → found ≠ 0 →
      waveGetChunkOffset szWave long chunkID = some found := by
  refine ⟨?_, ?_, ?_⟩
  · intro content garbage other sampleRate gWavePlay k song check safe buffer
    exact headerCheck_buffer song ⟨check, safe⟩ buffer
  · intro api valid ahead hFat entries garbage p q count laws files volume inside run
    exact laws.read files volume inside run
  · intro szWave short long chunkID found more search behind
    exact waveGetChunkOffset_longer more search behind

/-- A directory with one wave file: its song is listed, and has been read. -/
theorem headerChecks_agree_wave : ∃ q,
    buildWavePlayList (directoryApi [waveEntry]) (fun _ => .zero) beforeListing = .ok (1, q) ∧
      (q.gWavePlay 0).readOk = true := by
  have laws := directoryApi_yields (show [waveEntry].length < 4294967296 by decide) (by simp) 1
  have run : (buildWavePlayList (directoryApi [waveEntry]) (fun _ => .zero)
      beforeListing).map Prod.fst = .ok 1 := by decide +kernel
  obtain ⟨⟨count, q⟩, listed, rfl⟩ := map_eq_ok run
  have format : FormatInside (blockView waveEntry.content) sizeofHeader 12 :=
    ⟨.here (by decide +kernel) (by decide), fun _ _ => by decide⟩
  have inside : ∀ (i : Nat) (entry : Entry), [waveEntry][i]? = some entry →
      passes .zero entry.content = true →
      ListingSafe (headerView entry.content .zero) sizeofHeader := by
    intro i entry at_ _
    obtain rfl := List.mem_singleton.mp (List.mem_of_getElem? at_)
    exact (headerView_safe _ _).mpr ⟨12, format⟩
  have read := headerChecks_agree.2.1 _ _ _ 1 _ _ _ q 1 laws trivial rfl inside listed
  exact ⟨q, listed, read 0 Nat.zero_lt_one⟩

end SoundBoard.Player
