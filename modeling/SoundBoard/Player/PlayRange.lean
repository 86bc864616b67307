import SoundBoard.Player.Fidelity
import SoundBoard.Player.HeaderScan
import SoundBoard.Wave.Riff

/-!
# Play ranges

What an accepted block says about the samples. `waveplay_start` looks at three fields of the
format chunk and takes the positions from a search of their own, so a block can be accepted that
is no wave header, has no data chunk, or announces more samples than 32 bits count.
`WAVE_IsWaveFile` would look at the tags and the format, but nothing calls it.
-/

namespace SoundBoard.Player

open SoundBoard.Lib SoundBoard.Fat SoundBoard.Wave

variable {σ : Type}

/-- A block that begins as a RIFF file of kind WAVE, with a format chunk of uncompressed
samples. -/
structure PcmHeader (szBuf : Bytes) : Prop where
  riff : u32At (blockView szBuf) 0 = tagRiff
  wave : u32At (blockView szBuf) 8 = tagWave
  pcm : ∃ nOffset, ChunkInside (blockView szBuf) waveBufSize chunkFormat 10 sizeofWaveHeader nOffset ∧
    u16At (blockView szBuf) (nOffset + 8) = 1

/-- A song that has been started on a sane header: its block is one, it has a data chunk, and the
play range is that chunk's. -/
structure SaneRange (context : PlaywaveContext) : Prop where
  header : PcmHeader context.szBuf
  data : ∃ nOffset,
    ChunkInside (blockView context.szBuf) waveBufSize chunkData 8 sizeofWaveHeader nOffset ∧
      20 ≤ context.uWavePlayPos ∧ context.uWavePlayPos ≤ context.uWaveMaxPlayPos ∧
      context.uWaveMaxPlayPos - context.uWavePlayPos =
        u32At (blockView context.szBuf) (nOffset + 4)

/-- A block with a data chunk behind the RIFF header, whose samples end below 2³². -/
structure SaneHeader (szBuf : Bytes) : Prop where
  header : PcmHeader szBuf
  data : ∃ nOffset, ChunkInside (blockView szBuf) waveBufSize chunkData 8 sizeofWaveHeader nOffset ∧
    12 ≤ nOffset ∧ nOffset + 8 + u32At (blockView szBuf) (nOffset + 4) < 4294967296

variable {api : FileApi σ} {garbage : Garbage} {k : Nat} {p q : Globals σ}

/-- The positions that a start takes from a data chunk in its block. -/
theorem Prepared.positions {offset size nOffset : Int} (prepared : Prepared garbage k p offset size q)
    (song : k ≤ maxSongs)
    (chain : ChunkInside (blockView (p.gWavePlay k).szBuf) waveBufSize chunkData 8
      sizeofWaveHeader nOffset) :
    ((q.gWavePlay k).uWavePlayPos : Int) = (if nOffset ≠ 0 then nOffset + 8 else 0) ∧
      ((q.gWavePlay k).uWaveMaxPlayPos : Int) =
        if nOffset ≠ 0 then
          (nOffset + 8 + u32At (blockView (p.gWavePlay k).szBuf) (nOffset + 4)) % 4294967296
        else 0 := by
  have same := bufView_same p.gWavePlay garbage song
  have search := (chain.same same (by decide)).waveGetChunkOffset (by decide)
  obtain ⟨low, high⟩ := chain.last.2
  have field : u32At (bufView p.gWavePlay garbage k) (nOffset + 4) =
      u32At (blockView (p.gWavePlay k).szBuf) (nOffset + 4) := (u32At_same same (by omega)).symm
  have offsetRead := prepared.offsetRead
  have sizeRead := prepared.sizeRead
  simp only [waveGetWaveOffset, waveGetDataByteSize, chunkField, search, Option.map_some,
    Option.some.injEq, field] at offsetRead sizeRead
  rw [prepared.player, Globals.setSong_self]
  simp only [PlaywaveContext.prepared, ← offsetRead, ← sizeRead]
  simp only [waveBufSize] at high
  by_cases none : nOffset = 0
  · simp [none, toU32]
  · have position : toU32 (toInt32 (nOffset + sizeofChunk)) = (nOffset + 8).toNat := by
      rw [toU32_toInt32]
      exact toU32_of_fits _ (by unfold sizeofChunk; omega) (by unfold sizeofChunk; omega)
    simp only [ne_eq, none, not_false_eq_true, ↓reduceIte, position, toU32_add, toU32_toInt32,
      toU32_natCast]
    omega

/-- A started song has a sane play range exactly when its block is a sane header. -/
theorem saneRange_iff {out : Outcome σ} (run : waveplayStart api garbage k p = .ok out)
    (success : out.ok = true) :
    SaneRange (out.player.gWavePlay k) ↔ SaneHeader (out.player.gWavePlay k).szBuf := by
  obtain ⟨song, first, _, _, offset, size, prepared⟩ := waveplayStart_true run success
  have block : (out.player.gWavePlay k).szBuf = (first.player.gWavePlay k).szBuf := by
    rw [prepared.player, Globals.setSong_self]
    rfl
  constructor
  · rintro ⟨header, nOffset, chain, low, order, range⟩
    refine ⟨header, nOffset, chain, ?_⟩
    rw [block] at chain range ⊢
    obtain ⟨playPos, maxPlayPos⟩ := prepared.positions song chain
    have inside := chain.last.2
    by_cases none : nOffset = 0
    · rw [if_neg (not_not.mpr none)] at playPos
      omega
    · rw [if_pos none] at playPos maxPlayPos
      omega
  · rintro ⟨header, nOffset, chain, behind, fits⟩
    refine ⟨header, nOffset, chain, ?_⟩
    rw [block] at chain fits ⊢
    obtain ⟨playPos, maxPlayPos⟩ := prepared.positions song chain
    have found : nOffset ≠ 0 := by omega
    rw [if_pos found] at playPos maxPlayPos
    omega

/-! ## A header for a stream -/

/-- A 44-byte header with the bytes of the size of its samples. -/
def headerFile (dataSize : List UInt8) : Bytes := fun i =>
  (stereoHeader [0xFF, 0xFF, 0xFF, 0xFF] dataSize).getD i 0

/-- A header that announces 1024 bytes of samples is sane, and so is its play range. -/
theorem saneRange_iff_kilobyte : ∃ out,
    waveplayStart (memoryApi (headerFile [0, 4, 0, 0])) .zero 0 beforeStart = .ok out ∧
      out.ok = true ∧ SaneRange (out.player.gWavePlay 0) := by
  have start : (waveplayStart (memoryApi (headerFile [0, 4, 0, 0])) .zero 0 beforeStart).map
      (fun out =>
        let block := blockView (out.player.gWavePlay 0).szBuf
        (out.ok, [u32At block 0, u32At block 8, u32At block 12, u16At block 20, u32At block 36,
          u32At block 40], nextOffset block 12)) =
      .ok (true, [tagRiff, tagWave, chunkFormat, 1, chunkData, 1024], 36) := by decide +kernel
  obtain ⟨out, run, fields⟩ := map_eq_ok start
  simp only [Prod.mk.injEq, List.cons.injEq, and_true] at fields
  obtain ⟨success, ⟨riff, wave, format, pcm, data, size⟩, next⟩ := fields
  have chain : ChunkInside (blockView (out.player.gWavePlay 0).szBuf) waveBufSize chunkData 8
      sizeofWaveHeader 36 := by
    refine .next (by rw [sizeofWaveHeader, format]; decide) (by decide) ?_
    rw [sizeofWaveHeader, next]
    exact .here data (by decide)
  have header : SaneHeader (out.player.gWavePlay 0).szBuf :=
    ⟨⟨riff, wave, 12, .here format (by decide), pcm⟩, 36, chain, by decide,
      by rw [show (36 : Int) + 4 = 40 from rfl, size]; decide⟩
  exact ⟨out, run, success, (saneRange_iff run success).mpr header⟩

/-- A header with the size that encoders write into a stream of unknown length: the end of the
samples wraps and lies before their beginning. -/
theorem not_saneRange_stream : ∃ out,
    waveplayStart (memoryApi (headerFile [0xFF, 0xFF, 0xFF, 0xFF])) .zero 0 beforeStart = .ok out ∧
      out.ok = true ∧ ¬SaneRange (out.player.gWavePlay 0) := by
  have start : (waveplayStart (memoryApi (headerFile [0xFF, 0xFF, 0xFF, 0xFF])) .zero 0
      beforeStart).map (fun out => (out.ok, (out.player.gWavePlay 0).uWavePlayPos,
        (out.player.gWavePlay 0).uWaveMaxPlayPos)) = .ok (true, 44, 43) := by decide +kernel
  obtain ⟨out, run, fields⟩ := map_eq_ok start
  simp only [Prod.mk.injEq] at fields
  obtain ⟨success, playPos, maxPlayPos⟩ := fields
  refine ⟨out, run, success, fun sane => ?_⟩
  obtain ⟨_, _, _, order, _⟩ := sane.data
  omega

end SoundBoard.Player
