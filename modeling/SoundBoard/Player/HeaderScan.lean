import SoundBoard.Player.PlayList
import SoundBoard.Wave.Scan

/-!
# The two header scans

The queries on the 128 bytes that `build_wave_play_list` reads and on the 512 bytes that
`waveplay_start` reads, each with the memory that lies around its block: the stack around
`szHeader`, and the table around `szBuf`.
-/

namespace SoundBoard.Player

open SoundBoard.Lib SoundBoard.Fat SoundBoard.Wave

/-- The array of `build_wave_play_list` holds its block. -/
theorem headerView_same (szHeader : Bytes) (garbage : Garbage) :
    SameBlock (blockView szHeader) (headerView szHeader garbage) sizeofHeader := by
  intro i low high
  exact (if_pos ⟨low, high⟩).symm

/-- The buffer of a song holds its block. -/
theorem bufView_same (gWavePlay : Nat → PlaywaveContext) (garbage : Garbage) {k : Nat}
    (song : k ≤ maxSongs) :
    SameBlock (blockView (gWavePlay k).szBuf) (bufView gWavePlay garbage k) waveBufSize := by
  intro i low high
  exact (bufView_inside gWavePlay garbage song low high).symm

/-- The queries of `build_wave_play_list` are safe exactly when the 128 bytes lead to the format
chunk, whatever lies around them. -/
theorem headerView_safe (szHeader : Bytes) (garbage : Garbage) :
    ListingSafe (headerView szHeader garbage) sizeofHeader ↔
      ∃ nOffset, FormatInside (blockView szHeader) sizeofHeader nOffset := by
  have same := headerView_same szHeader garbage
  rw [listingSafe_iff (by decide)]
  constructor
  · rintro ⟨nOffset, inside⟩
    exact ⟨nOffset, inside.same fun i low high => (same i low high).symm⟩
  · rintro ⟨nOffset, inside⟩
    exact ⟨nOffset, inside.same same⟩

/-- The queries of `waveplay_start` are safe exactly when the 512 bytes lead to the format
chunk and, where that passes, to the data chunk. -/
theorem bufView_safe (gWavePlay : Nat → PlaywaveContext) (garbage : Garbage) {k : Nat}
    (song : k ≤ maxSongs) :
    StartSafe (bufView gWavePlay garbage k) waveBufSize ↔
      ∃ nOffset, HeaderInside (blockView (gWavePlay k).szBuf) waveBufSize nOffset := by
  have same := bufView_same gWavePlay garbage song
  rw [startSafe_iff (by decide)]
  constructor
  · rintro ⟨nOffset, inside⟩
    exact ⟨nOffset, inside.same fun i low high => (same i low high).symm⟩
  · rintro ⟨nOffset, inside⟩
    exact ⟨nOffset, inside.same same⟩

/-- Both scans are safe exactly on the blocks whose chunks lead to what is searched. -/
theorem headerScans_safe_iff (szHeader : Bytes) (gWavePlay : Nat → PlaywaveContext)
    (garbage : Garbage) {k : Nat} (song : k ≤ maxSongs) :
    (ListingSafe (headerView szHeader garbage) sizeofHeader ↔
        ∃ nOffset, FormatInside (blockView szHeader) sizeofHeader nOffset) ∧
      (StartSafe (bufView gWavePlay garbage k) waveBufSize ↔
        ∃ nOffset, HeaderInside (blockView (gWavePlay k).szBuf) waveBufSize nOffset) :=
  ⟨headerView_safe szHeader garbage, bufView_safe gWavePlay garbage song⟩

/-- A block whose first chunk announces 2³² - 8 bytes. -/
def endlessBlock : Bytes := fun i =>
  ([0x52, 0x49, 0x46, 0x46, 0xF8, 1, 0, 0, 0x57, 0x41, 0x56, 0x45,
    0x4C, 0x49, 0x53, 0x54, 0xF8, 0xFF, 0xFF, 0xFF] : List UInt8).getD i 0

/-- The table with that block in its first entry. -/
def endlessTable : Nat → PlaywaveContext := fun _ => { PlaywaveContext.cleared with szBuf := endlessBlock }

/-- A search in that block stays at the first chunk for ever. -/
theorem endless_search {view : View} {nSize : Int}
    (same : SameBlock (blockView endlessBlock) view nSize) (large : 24 ≤ nSize) :
    waveGetChunkOffset view nSize chunkFormat = none := by
  have identifier : u32At view 12 = 0x5453494C := by
    rw [← u32At_same same (by omega)]
    decide
  have size : u32At view (12 + 4) = 0xFFFFFFF8 := by
    rw [← u32At_same same (by omega)]
    decide
  have stuck : nextOffset view 12 = 12 := by
    simp only [nextOffset, size]
    decide
  have moves : u32At view 12 ≠ chunkFormat ∧ (12 : Int) < nSize := by
    rw [identifier]
    exact ⟨by decide, by omega⟩
  rw [waveGetChunkOffset, if_pos (by unfold sizeofWaveHeader; omega)]
  exact congrArg (Option.map _) (chunkWalk_stuck moves stuck walkFuel)

/-- Neither scan is safe on it. -/
theorem not_headerScans_safe_endless :
    ¬ListingSafe (headerView endlessBlock .zero) sizeofHeader ∧
      ¬StartSafe (bufView endlessTable .zero 0) waveBufSize := by
  constructor
  · intro safe
    exact safe.sampleRate.ends (endless_search (headerView_same endlessBlock .zero) (by decide))
  · intro safe
    have same : SameBlock (blockView endlessBlock) (bufView endlessTable .zero 0) waveBufSize :=
      bufView_same endlessTable .zero (by decide)
    exact safe.sampleRate.ends (endless_search same (by decide))

/-- The first block of a file with 1024 bytes of samples, in the first entry of the table. -/
def stereoTable : Nat → PlaywaveContext := fun _ => { PlaywaveContext.cleared with szBuf := stereoFile }

/-- Its format chunk is the first, and its data chunk the second. -/
theorem headerInside_stereo {nSize : Int} (large : 44 ≤ nSize) :
    HeaderInside (blockView stereoFile) nSize 12 := by
  have format : u32At (blockView stereoFile) 12 = chunkFormat := by decide +kernel
  have apart : u32At (blockView stereoFile) 12 ≠ chunkData := by decide +kernel
  have next : nextOffset (blockView stereoFile) 12 = 36 := by decide +kernel
  have samples : u32At (blockView stereoFile) 36 = chunkData := by decide +kernel
  have data : ChunkInside (blockView stereoFile) nSize chunkData 8 12 36 := by
    apply ChunkInside.next apart (by omega)
    rw [next]
    exact .here samples (by omega)
  have first : Within nSize sizeofWaveHeader 16 := by
    unfold sizeofWaveHeader
    omega
  exact ⟨⟨.here format first, fun _ _ => by omega⟩, fun _ => ⟨36, data⟩⟩

/-- The exact conditions, on the block without an end, and on one that meets both. -/
theorem headerScans_safe_iff_endless :
    ((ListingSafe (headerView endlessBlock .zero) sizeofHeader ↔
        ∃ nOffset, FormatInside (blockView endlessBlock) sizeofHeader nOffset) ∧
      (StartSafe (bufView endlessTable .zero 0) waveBufSize ↔
        ∃ nOffset, HeaderInside (blockView (endlessTable 0).szBuf) waveBufSize nOffset)) ∧
    ListingSafe (headerView stereoFile .zero) sizeofHeader ∧
      StartSafe (bufView stereoTable .zero 0) waveBufSize := by
  have stereo := headerScans_safe_iff stereoFile stereoTable .zero (by decide : 0 ≤ maxSongs)
  refine ⟨headerScans_safe_iff endlessBlock endlessTable .zero (by decide), ?_, ?_⟩
  · exact stereo.1.mpr ⟨12, (headerInside_stereo (by decide)).toFormatInside⟩
  · exact stereo.2.mpr ⟨12, headerInside_stereo (by decide)⟩

end SoundBoard.Player
