import SoundBoard.Player.Fidelity
import SoundBoard.Player.Songs
import SoundBoard.Wave.Astray

/-!
# Which wave files the player takes

What the player makes of a well-formed wave file, over all files of one shape: whether the
listing adds it, and whether a start finds its samples. The code walks from chunk to chunk by
their sizes alone, so a zero byte after an odd chunk leads it astray.
-/

namespace SoundBoard.Player

open SoundBoard.Lib SoundBoard.Fat SoundBoard.Wave

/-- The player takes a file: under every name that ends in `.wav` and fits, the listing adds it,
a directory with it has it in its play list, and a start of it succeeds and finds the samples
between two offsets. -/
structure TakenByPlayer (file : Bytes) (start stop : Nat) : Prop where
  adds : ∀ {σ : Type} (api : FileApi σ) (valid : σ → Prop) (hFat : Nat) (name : Name),
    OpensAs api valid hFat name file → endsWithWav name = true → nameFits name →
    ∀ (garbage : Garbage) (st : ListState σ), valid st.player.files → st.player.hFat = hFat →
    waveFilename st.fileContext = .ok name → st.count ≤ maxSongs →
    ∃ st', listEntry api garbage st = .ok st' ∧ st'.count = st.count + 1 ∧
      st'.player.szFilename st.count = name ∧
      (st'.player.gWavePlay st.count).szFilename = name ∧
      (st'.player.gWavePlay st.count).readOk = true
  lists : ∀ {σ : Type} (api : FileApi σ) (valid : σ → Prop)
    (ahead : BrowseHandle → FileContext → List Entry → Prop) (hFat : Nat) (entries : List Entry),
    Yields api valid ahead hFat entries → ∀ (garbage : Nat → Garbage) (p q : Globals σ)
    (count : Nat), valid p.files → p.hFat = hFat →
    buildWavePlayList api garbage p = .ok (count, q) →
    ∀ entry ∈ entries, endsWithWav entry.name = true → entry.content = file →
    ∃ i, i < count ∧ q.szFilename i = entry.name ∧ (q.gWavePlay i).szFilename = entry.name
  starts : ∀ {σ : Type} (api : FileApi σ) (valid : σ → Prop) (hFat : Nat) (name : Name),
    OpensAs api valid hFat name file → ∀ (garbage : Garbage) (k : Nat) (p : Globals σ),
    valid p.files → p.hFat = hFat → (p.gWavePlay k).szFilename = name → k ≤ maxSongs →
    ∃ out, waveplayStart api garbage k p = .ok out ∧ out.ok = true ∧
      (out.player.gWavePlay k).uWavePlayPos = start ∧
      (out.player.gWavePlay k).uWaveMaxPlayPos = stop

variable {σ : Type} {file : Bytes} {length sampleRate size : Nat} {s : Shape}

/-! ## Even files -/

/-- A supported sample rate is one of five. -/
theorem supported_lt {sampleRate : Nat} (supported : isSupporrtedSampleRate sampleRate = true) :
    sampleRate < 2147483648 := by
  simp only [isSupporrtedSampleRate, Bool.or_eq_true, decide_eq_true_eq] at supported
  omega

/-- The format chunk of a wave file passes the header check. -/
theorem formatChunk_passes {start extension : Nat} (behind : start ≠ 0)
    (format : FormatChunk file start extension sampleRate) :
    FormatPasses (blockView file) start := by
  have fits := supported_lt format.supported
  refine ⟨by omega, ⟨?_, format.channels⟩, format.bits⟩
  rw [format.rate, toInt32_of_fits _ (by omega) (by omega)]
  exact format.supported

/-- In memory that holds enough of an even file, its header is accepted. -/
theorem waveFile_accepted {view : View} {nSize : Int}
    (wave : WaveFile file length s sampleRate size) (even : s.Even)
    (same : SameBlock (blockView file) view nSize) (inside : (s.formatOffset : Int) + 24 ≤ nSize)
    (small : nSize < 2147483648) : ∃ rate, headerCheck view nSize = some (rate, true) := by
  have chain := wave.formatChain even inside small
  have behind : 12 ≤ s.formatOffset := chunksEnd_le 12 s.before
  have format : FormatInside (blockView file) nSize s.formatOffset :=
    ⟨by have last := chain.last.2; exact chain.extend ⟨by omega, by omega⟩, fun _ _ => by omega⟩
  have offset := (chain.same same (by decide)).waveGetChunkOffset (by unfold sizeofWaveHeader; omega)
  rw [headerCheck_iff offset, ← FormatPasses.same same format]
  exact formatChunk_passes (by omega) wave.format

/-- A start of an even file succeeds and finds its samples. -/
theorem waveFile_starts (wave : WaveFile file length s sampleRate size) (even : s.Even)
    (inside : s.samples ≤ 512) {api : FileApi σ} {valid : σ → Prop} {hFat k : Nat} {name : Name}
    {p : Globals σ} (opens : OpensAs api valid hFat name file) (garbage : Garbage)
    (files : valid p.files) (volume : p.hFat = hFat)
    (named : (p.gWavePlay k).szFilename = name) (song : k ≤ maxSongs) :
    ∃ out, waveplayStart api garbage k p = .ok out ∧ out.ok = true ∧
      (out.player.gWavePlay k).uWavePlayPos = s.samples ∧
      (out.player.gWavePlay k).uWaveMaxPlayPos = s.samples + size := by
  obtain ⟨first, _, view, run⟩ := opens.start files volume named song garbage
  have same : SameBlock (blockView file) (bufView first.player.gWavePlay garbage k) waveBufSize :=
    view ▸ p.startView_same file garbage song
  have order := s.formatEnd_le
  unfold Shape.samples at *
  have block : (waveBufSize : Int) = 512 := rfl
  have chain : ChunkInside (blockView file) waveBufSize chunkData 8 sizeofWaveHeader s.dataOffset :=
    wave.dataChain even (by omega) (by omega)
  have data := chain.same same (by decide)
  have offset := data.waveGetChunkOffset (by decide)
  obtain ⟨rate, accepted⟩ := waveFile_accepted wave even same (by omega) (by omega)
  have announced : u32At (bufView first.player.gWavePlay garbage k) (s.dataOffset + 4) = size := by
    rw [← u32At_same same ⟨by omega, by omega⟩]
    exact wave.samples.announced
  have behind : (s.dataOffset : Int) ≠ 0 := by omega
  have fits : s.dataOffset + 8 + size < 4294967296 := by
    obtain ⟨sizes, _, stop⟩ := wave.after
    have ending := chunksEnd_le (chunkEnd s.dataOffset size) sizes
    have range := wave.range
    unfold chunkEnd at ending stop
    omega
  rw [run]
  simp only [waveplayPrepare, accepted, waveGetWaveOffset, waveGetDataByteSize, chunkField, offset,
    Option.map_some, behind, ne_eq, not_false_eq_true, ↓reduceIte, announced]
  refine ⟨_, rfl, rfl, ?_, ?_⟩
  · rw [Globals.setSong_self]
    simp only [PlaywaveContext.prepared, toU32_toInt32, sizeofChunk]
    rw [toU32_of_fits _ (by omega) (by omega)]
    omega
  · rw [Globals.setSong_self]
    simp only [PlaywaveContext.prepared, toU32_add, toU32_natCast, toU32_toInt32, sizeofChunk]
    rw [show toU32 8 = 8 by decide]
    omega

/-- The listing adds an even file, with a name that fits, while there is room. -/
theorem waveFile_added (wave : WaveFile file length s sampleRate size) (even : s.Even)
    (inside : s.samples ≤ 512) {api : FileApi σ} {valid : σ → Prop} {hFat : Nat} {name : Name}
    {st : ListState σ} (opens : OpensAs api valid hFat name file) (fits : nameFits name)
    (garbage : Garbage) (files : valid st.player.files) (volume : st.player.hFat = hFat)
    (room : st.count ≤ maxSongs) :
    ∃ st', addSong api garbage name st = .ok st' ∧ st'.count = st.count + 1 ∧
      st'.player.szFilename st.count = name ∧
      (st'.player.gWavePlay st.count).szFilename = name ∧
      (st'.player.gWavePlay st.count).readOk = true := by
  have named : ((st.named name).gWavePlay st.count).szFilename = name := by
    simp [ListState.named]
  obtain ⟨out, run, success, _, _⟩ := waveFile_starts (p := st.named name) wave even inside opens
    garbage files volume named room
  have only := waveplayStart_only run
  refine ⟨st.added out, ?_, rfl, ?_, ?_, ?_⟩
  · rw [addSong_eq api garbage fits room, run]
    rfl
  · change out.player.szFilename st.count = name
    rw [only.szFilename]
    exact Function.update_self ..
  · simp only [ListState.added, Globals.setSong_self]
    rw [only.name, named]
  · simp only [ListState.added, Globals.setSong_self]
    exact success

/-- A name that ends in `.wav` is listed when the header of its file passes in every memory. -/
theorem accepted_mem {garbage : Nat → Garbage} {entry : Entry} {entries : List Entry}
    (member : entry ∈ entries) (wav : endsWithWav entry.name = true)
    (header : HeaderPasses entry.content) (pass : Nat) (bFlag : Bool) :
    entry.name ∈ accepted garbage pass bFlag entries := by
  obtain ⟨i, here⟩ := List.mem_iff_getElem?.mp member
  exact accepted_of_flaggedAt here (flaggedAt_wav here wav) (header _)

/-- The player takes an even file whose format chunk lies within the first 128 bytes. -/
theorem waveFile_taken (wave : WaveFile file length s sampleRate size) (even : s.Even)
    (inside : s.samples ≤ 512) (near : s.formatOffset + 24 ≤ 128) :
    TakenByPlayer file s.samples (s.samples + size) := by
  have header (garbage : Garbage) :
      ∃ rate, headerCheck (headerView file garbage) sizeofHeader = some (rate, true) :=
    waveFile_accepted wave even (headerView_same file garbage)
      (by simp only [sizeofHeader]; omega) (by decide)
  constructor
  · intro σ api valid hFat name opens wav fits garbage st files volume named room
    obtain ⟨szHeader, files', still, pass⟩ := opens.listEntry garbage files volume named
      (by rw [wav, Bool.or_true])
    obtain ⟨rate, accepted⟩ := header garbage
    rw [pass, accepted]
    let flagged : ListState σ := { st.setFiles files' with bFlag := true, szHeader }
    have here : flagged.count ≤ maxSongs := room
    exact waveFile_added wave even inside opens fits garbage still volume here
  · intro σ api valid ahead hFat entries laws garbage p q count files volume run entry member wav same
    have tables := laws.tables files volume garbage run
    have passed : HeaderPasses entry.content := by
      intro garbage
      obtain ⟨rate, accepted⟩ := header garbage
      rw [passes, same, accepted]
    have listed : entry.name ∈ accepted garbage 0 false entries :=
      accepted_mem member wav passed 0 false
    obtain ⟨i, low, name⟩ := List.getElem_of_mem listed
    have at_ : (accepted garbage 0 false entries)[i]? = some entry.name := by
      rw [List.getElem?_eq_getElem low, name]
    exact ⟨i, by rw [tables.returned]; exact low, tables.list i _ at_, tables.table i _ at_⟩
  · intro σ api valid hFat name opens garbage k p files volume named song
    exact waveFile_starts wave even inside opens garbage files volume named song

/-! ## Files that the player does not take -/

/-- A file in memory opens and reads. -/
theorem memoryApi_opensAs (file : Bytes) (hFat : Nat) (name : Name) :
    OpensAs (memoryApi file) (fun _ => True) hFat name file := by
  intro files _
  refine ⟨1, 0, by decide, rfl, fun szBuf n _ _ => ⟨n, ?_, trivial, trivial⟩⟩
  have whole : drop file 0 = file := by
    funext i
    simp
  simp only [memoryApi, whole, Nat.zero_add]

/-- A context that holds nothing but a block. -/
def blockContext (hFile : Nat) (szBuf : Bytes) : PlaywaveContext := ⟨hFile, szBuf, 0, 0, 0, [], false⟩

/-- Its bytes. -/
theorem byte_blockContext (hFile : Nat) (szBuf : Bytes) (offset : Nat) :
    (blockContext hFile szBuf).byte 0 offset =
      if 4 ≤ offset ∧ offset < 516 then szBuf (offset - 4) else 0 := by
  have zero (i : Nat) : wordByte 0 i = 0 := by
    unfold wordByte
    rw [Nat.zero_div]
    rfl
  unfold PlaywaveContext.byte blockContext
  simp only [zero]
  by_cases low : offset < 4
  · rw [if_pos low, if_neg (by omega)]
  · by_cases high : offset < 516
    · rw [if_neg low, if_pos high, if_pos ⟨by omega, high⟩]
    · rw [if_neg (show ¬(4 ≤ offset ∧ offset < 516) by omega), if_neg low, if_neg high]
      -- every other field is zero
      split
      · rfl
      · split
        · rfl
        · split
          · rfl
          · split
            · rfl
            · split
              · split
                · rfl
                · split <;> rfl
              · split <;> rfl

/-- The table after the first block of the only song has been read. -/
def firstBlockTable (file : Bytes) : Nat → PlaywaveContext :=
  Function.update (fun _ => blockContext 0 fun _ => 0) 0
    (blockContext 1 (copyAt (fun _ => 0) 0 file waveBufSize))

/-- Every entry of the table holds nothing but a block, and all others hold zeros. -/
theorem firstBlockTable_entry (file : Bytes) (entry : Nat) :
    ∃ hFile szBuf, firstBlockTable file entry = blockContext hFile szBuf ∧
      (entry ≠ 0 → szBuf = fun _ => 0) := by
  by_cases first : entry = 0
  · refine ⟨1, copyAt (fun _ => 0) 0 file waveBufSize, ?_, fun other => absurd first other⟩
    rw [first, firstBlockTable, Function.update_self]
  · refine ⟨0, fun _ => 0, ?_, fun _ => rfl⟩
    rw [firstBlockTable, Function.update_of_ne first]

/-- Its buffer, with zeros around it, is the file cut after 512 bytes. -/
theorem firstBlockTable_cut (file : Bytes) :
    CutAt (bufView (firstBlockTable file) .zero 0) (blockView file) 512 := by
  intro i
  by_cases inside : i < 512
  · have buffer : (firstBlockTable file 0).szBuf = copyAt (fun _ => 0) 0 file waveBufSize := by
      rw [firstBlockTable, Function.update_self]
      rfl
    rw [bufView_inside _ _ (by decide) (by omega) (by omega), if_pos inside, buffer,
      copyAt_inside _ _ _ _ _ (Nat.zero_le _) (by simpa [waveBufSize] using inside)]
    rfl
  · rw [if_neg inside]
    simp only [bufView]
    split
    · obtain ⟨hFile, szBuf, same, other⟩ := firstBlockTable_entry file
        ((sizeofContext * (0 : Nat) + szBufOffset + (i : Int)) / sizeofContext).toNat
      rw [same]
      change PlaywaveContext.byte _ 0 _ = 0
      rw [byte_blockContext]
      by_cases first : ((sizeofContext * (0 : Nat) + szBufOffset + (i : Int)) / sizeofContext).toNat = 0
      · rw [if_neg]
        simp only [sizeofContext, szBufOffset] at first ⊢
        omega
      · rw [other first, ite_self]
    · rfl

/-- The start of the only song of a file in memory reads its first block. -/
theorem memoryApi_open (file : Bytes) (garbage : Garbage) :
    waveplayOpen (memoryApi file) garbage 0 beforeStart =
      .ok ⟨true, [.load waveBufSize (copyAt (fun _ => 0) 0 file waveBufSize)],
        { beforeStart with files := 512, gWavePlay := firstBlockTable file }⟩ := by
  have whole : drop file 0 = file := by
    funext i
    simp
  rw [waveplayOpen_read (memoryApi file) rfl (by decide) rfl, whole]
  rfl

/-- A file on which the search for the data chunk misses it does not start with its samples. -/
theorem not_taken_misses {start stop : Nat} (behind : start ≠ 0)
    (misses : ∀ view, CutAt view (blockView file) 512 → Misses view 512 chunkData sizeofWaveHeader) :
    ¬TakenByPlayer file start stop := by
  intro taken
  obtain ⟨out, run, success, position, _⟩ := taken.starts (memoryApi file) (fun _ => True) 0 []
    (memoryApi_opensAs file 0 []) .zero 0 beforeStart trivial rfl rfl (by decide)
  obtain ⟨_, first, opened, _, offset, size, prepared⟩ := waveplayStart_true run success
  rw [memoryApi_open] at opened
  obtain rfl := Except.ok.inj opened
  obtain ⟨found, run, field⟩ := Option.map_eq_some_iff.mp prepared.offsetRead
  have missing := (misses _ (firstBlockTable_cut file)).waveGetChunkOffset (by decide) run
  rw [missing] at field
  have none : offset = 0 := field.symm
  rw [prepared.player, Globals.setSong_self, none] at position
  exact behind position.symm

/-- A file whose header is not accepted in zero memory is not added by the listing. -/
theorem not_taken_refused {start stop : Nat}
    (refused : ¬∃ rate, headerCheck (headerView file .zero) sizeofHeader = some (rate, true)) :
    ¬TakenByPlayer file start stop := by
  intro taken
  have opens := memoryApi_opensAs file 0 waveEntry.name
  let st : ListState Nat := ⟨0, false, fun _ => 0, ⟨0, 0⟩, waveEntry.context, beforeStart⟩
  obtain ⟨st', run, count, _⟩ := taken.adds (memoryApi file) (fun _ => True) 0 waveEntry.name opens
    (by decide) (by decide) .zero st trivial rfl waveEntry.named (by decide)
  have flag : (st.bFlag || endsWithWav waveEntry.name) = true := by decide
  obtain ⟨szHeader, files', _, pass⟩ := opens.listEntry .zero trivial rfl waveEntry.named flag
  rw [pass] at run
  cases check : headerCheck (headerView file .zero) sizeofHeader with
  | none =>
    rw [check] at run
    contradiction
  | some answer =>
    obtain ⟨rate, accepts⟩ := answer
    cases accepts with
    | true => exact refused ⟨rate, check⟩
    | false =>
      rw [check] at run
      obtain rfl := Except.ok.inj run
      exact Nat.zero_ne_one count

/-- The file of a shape with an odd chunk before the samples is not taken. -/
theorem shapeFile_odd {s : Shape} (inside : s.samples ≤ 512) (odd : ¬s.Even) (stop : Nat) :
    ¬TakenByPlayer (shapeFile s) s.samples stop := by
  refine not_taken_misses (by unfold Shape.samples; omega) fun view cut => ?_
  have parts := shapeParts s (shapeFile_cut inside cut)
  have reads : Reads view 12 (chunkBytes s.chunks ++ dataChunk.bytes) := by
    simpa only [Shape.chunks, chunkBytes, List.flatMap_append, List.flatMap_cons,
      List.append_assoc] using parts.before
  exact misses_odd cut.zero (Shape.chunks_out inside)
    (fun start low reads => dataChunk_misses cut.zero low reads) (Shape.chunks_odd odd) reads

/-- The file of an even shape with a late format chunk is not taken. -/
theorem shapeFile_late {s : Shape} (inside : s.samples ≤ 512) (even : s.Even)
    (late : 128 < s.formatOffset + 24) (start stop : Nat) :
    ¬TakenByPlayer (shapeFile s) start stop := by
  refine not_taken_refused ?_
  have parts := shapeParts s (shapeFile_reads s)
  have order := s.formatEnd_le
  have samples : s.samples = s.dataOffset + 8 := rfl
  have whole : s.formatOffset % 2 = 0 := chunksEnd_even (by decide) s.before
  have cut : CutAt (headerView (shapeFile s) .zero) (blockView (shapeFile s)) 128 := by
    intro i
    by_cases first : i < 128
    · rw [if_pos first, headerView, if_pos ⟨by omega, by omega⟩]
      rfl
    · rw [if_neg first, headerView, if_neg (by omega)]
      rfl
  have others : ∀ c ∈ s.before.map otherChunk, c.content.length % 2 = 0 ∧
      c.content.length < 65536 ∧ c.identifier ≠ chunkFormat := by
    intro c member
    obtain ⟨size, here, rfl⟩ := List.mem_map.mp member
    have length : (otherChunk size).content.length = size := List.length_replicate
    have fits : 12 + 8 + size ≤ s.formatOffset := size_lt_chunksEnd here 12
    have even := even.1 size here
    exact ⟨by omega, by omega, (otherChunk_leadsOut size).2.1⟩
  rcases walk_late cut (by decide) others (formatChunk_leadsOut s.extension).2 parts.before with
    misses | walk
  · exact misses.not_accepted (by decide)
  · rw [chunkBytes_length] at walk
    exact walk_late_not_accepted cut walk (by unfold Shape.formatOffset at *; omega)

/-- The player takes every wave file of a shape exactly when no chunk before the samples is odd
and the format chunk lies within the first 128 bytes. -/
theorem waveFiles_taken_iff (s : Shape) (inside : s.samples ≤ 512) :
    (∀ file length sampleRate size, WaveFile file length s sampleRate size →
      TakenByPlayer file s.samples (s.samples + size)) ↔
    s.Even ∧ s.formatOffset + 24 ≤ 128 := by
  constructor
  · intro taken
    have shape := taken (shapeFile s) (s.samples + 4) 44100 4 (shapeFile_wave s inside)
    have even : s.Even := by
      refine Classical.byContradiction fun odd => ?_
      exact shapeFile_odd inside odd (s.samples + 4) shape
    refine ⟨even, Classical.byContradiction fun late => ?_⟩
    exact shapeFile_late inside even (Nat.not_le.mp late) _ _ shape
  · rintro ⟨even, near⟩ file length sampleRate size wave
    exact waveFile_taken wave even inside near

/-- A LIST chunk of five bytes between the format and the data chunk. -/
def listShape : Shape := ⟨[], 0, [5]⟩

/-- The file of that shape is a wave file, and the player does not take it. -/
theorem not_waveFiles_taken_list :
    WaveFile (shapeFile listShape) 62 listShape 44100 4 ∧
      ¬TakenByPlayer (shapeFile listShape) listShape.samples (listShape.samples + 4) :=
  ⟨shapeFile_wave listShape (by decide), shapeFile_odd (by decide) (by decide) _⟩

/-- The same with a LIST chunk of six bytes, behind a format chunk of 18. -/
def evenShape : Shape := ⟨[], 2, [6]⟩

/-- The exact condition, for the first shape, and for the second, which meets it: the player takes
the file of that shape. -/
theorem waveFiles_taken_iff_list :
    ((∀ file length sampleRate size, WaveFile file length listShape sampleRate size →
        TakenByPlayer file listShape.samples (listShape.samples + size)) ↔
      listShape.Even ∧ listShape.formatOffset + 24 ≤ 128) ∧
    WaveFile (shapeFile evenShape) 64 evenShape 44100 4 ∧
      TakenByPlayer (shapeFile evenShape) 60 64 := by
  have wave : WaveFile (shapeFile evenShape) 64 evenShape 44100 4 :=
    shapeFile_wave evenShape (by decide)
  exact ⟨waveFiles_taken_iff listShape (by decide), wave,
    (waveFiles_taken_iff evenShape (by decide)).mpr (by decide) _ _ _ _ wave⟩

end SoundBoard.Player
