import SoundBoard.Lib.Memory

/-!
# Wave headers

The chunk search of `WaveLib.c` and the header queries built on it. A query gets a pointer
to a block and the block's size, but the search follows chunk sizes taken from the block and
looks at a chunk before it compares the offset with the size, so it can leave the block. The
model therefore reads memory at any signed offset from the pointer, and says separately
which searches stay inside (`Stays`). A search that never ends has the value `none`.
-/

namespace SoundBoard.Wave

open SoundBoard.Lib

/-- Memory by signed offset from the `szWave` pointer of a query. -/
abbrev View := Int → UInt8

/-- The 16-bit field at an offset. -/
def u16At (szWave : View) (offset : Int) : Nat := word16 (szWave offset) (szWave (offset + 1))

/-- The 32-bit field at an offset. -/
def u32At (szWave : View) (offset : Int) : Nat :=
  word32 (szWave offset) (szWave (offset + 1)) (szWave (offset + 2)) (szWave (offset + 3))

/-- `CHUNK_FORMAT`, little-endian "fmt ". -/
def chunkFormat : Nat := 0x20746D66

/-- `CHUNK_DATA`, little-endian "data". -/
def chunkData : Nat := 0x61746164

/-- `sizeof(WAVE_HEADER)`. -/
def sizeofWaveHeader : Int := 12

/-- `sizeof(CHUNK)`. -/
def sizeofChunk : Int := 8

/-- `nSkip` and the addition to `nOffset`: the 32-bit chunk size is added without a check, so
the step can be zero or negative and the sum can wrap. -/
def nextOffset (szWave : View) (nOffset : Int) : Int :=
  toInt32 (nOffset + toInt32 (sizeofChunk + u32At szWave (nOffset + 4)))

/-- The loop of `waveGetChunkOffset`: the offset at which it stops. `nOffset` is a 32-bit
integer, so a search that has not stopped after 2³² tests has been at its offset before. -/
def chunkWalk (szWave : View) (nSize : Int) (chunkID : Nat) : Nat → Int → Option Int
  | 0, _ => none
  | fuel + 1, nOffset =>
    if u32At szWave nOffset ≠ chunkID ∧ nOffset < nSize then
      chunkWalk szWave nSize chunkID fuel (nextOffset szWave nOffset)
    else some nOffset

/-- Number of values of `nOffset`. -/
@[irreducible] def walkFuel : Nat := 4294967296

/-- `waveGetChunkOffset`: the offset of the chunk, or 0. -/
def waveGetChunkOffset (szWave : View) (nSize : Int) (chunkID : Nat) : Option Int :=
  if sizeofWaveHeader ≤ nSize then
    (chunkWalk szWave nSize chunkID walkFuel sizeofWaveHeader).map fun nOffset =>
      if u32At szWave nOffset = chunkID then nOffset else 0
  else some 0

/-- A query: find the chunk and read one of its fields, or 0 when it is not found. -/
def chunkField (szWave : View) (nSize : Int) (chunkID : Nat) (field : Int → Int) : Option Int :=
  (waveGetChunkOffset szWave nSize chunkID).map fun nOffset =>
    if nOffset ≠ 0 then field nOffset else 0

/-- `Wave_GetSampleRate`. -/
def waveGetSampleRate (szWave : View) (nSize : Int) : Option Int :=
  chunkField szWave nSize chunkFormat fun nOffset => toInt32 (u32At szWave (nOffset + 12))

/-- `Wave_GetChannelNum`. -/
def waveGetChannelNum (szWave : View) (nSize : Int) : Option Int :=
  chunkField szWave nSize chunkFormat fun nOffset => u16At szWave (nOffset + 10)

/-- `Wave_GetSampleBitNum`. -/
def waveGetSampleBitNum (szWave : View) (nSize : Int) : Option Int :=
  chunkField szWave nSize chunkFormat fun nOffset => u16At szWave (nOffset + 22)

/-- `Wave_GetDataByteSize`. -/
def waveGetDataByteSize (szWave : View) (nSize : Int) : Option Int :=
  chunkField szWave nSize chunkData fun nOffset => toInt32 (u32At szWave (nOffset + 4))

/-- `Wave_GetWaveOffset`. -/
def waveGetWaveOffset (szWave : View) (nSize : Int) : Option Int :=
  chunkField szWave nSize chunkData fun nOffset => toInt32 (nOffset + sizeofChunk)

/-- `is_supporrted_sample_rate`. -/
def isSupporrtedSampleRate (sampleRate : Int) : Bool :=
  sampleRate = 96000 || sampleRate = 48000 || sampleRate = 44100 || sampleRate = 32000 ||
    sampleRate = 8000

/-- The condition that `build_wave_play_list` and `waveplay_start` both put on a header, with
the sample rate they have read. A later query is made only when the earlier ones pass. -/
def headerCheck (szWave : View) (nSize : Int) : Option (Int × Bool) := do
  let sampleRate ← waveGetSampleRate szWave nSize
  if isSupporrtedSampleRate sampleRate then
    let channels ← waveGetChannelNum szWave nSize
    if channels = 2 then
      let bits ← waveGetSampleBitNum szWave nSize
      return (sampleRate, bits = 16)
    else return (sampleRate, false)
  else return (sampleRate, false)

/-- The 44-byte header of 16-bit stereo samples at 44100 Hz, with the bytes of its two sizes. -/
def stereoHeader (riffSize dataSize : List UInt8) : List UInt8 :=
  [0x52, 0x49, 0x46, 0x46] ++ riffSize ++ [0x57, 0x41, 0x56, 0x45,
    0x66, 0x6D, 0x74, 0x20, 16, 0, 0, 0, 1, 0, 2, 0, 0x44, 0xAC, 0, 0, 0x10, 0xB1, 2, 0, 4, 0, 16, 0,
    0x64, 0x61, 0x74, 0x61] ++ dataSize

/-- A file with a 44-byte header and 1024 bytes of samples. -/
def stereoFile : Bytes := fun i => (stereoHeader [0x24, 4, 0, 0] [0, 4, 0, 0]).getD i 0

/-! ## Searches that stay inside the block -/

/-- `count` bytes at an offset lie inside the block. -/
abbrev Within (nSize offset count : Int) : Prop := 0 ≤ offset ∧ offset + count ≤ nSize

/-- Every chunk header that the loop looks at lies inside the block: the identifier at each
offset it reaches, and the size at each offset it leaves. -/
def WalkStays (szWave : View) (nSize : Int) (chunkID : Nat) : Nat → Int → Prop
  | 0, _ => True
  | fuel + 1, nOffset =>
    Within nSize nOffset 4 ∧
      (u32At szWave nOffset ≠ chunkID ∧ nOffset < nSize →
        Within nSize nOffset 8 ∧
          WalkStays szWave nSize chunkID fuel (nextOffset szWave nOffset))

instance decideWalkStays (szWave : View) (nSize : Int) (chunkID : Nat) :
    ∀ (fuel : Nat) (nOffset : Int), Decidable (WalkStays szWave nSize chunkID fuel nOffset)
  | 0, _ => isTrue trivial
  | fuel + 1, nOffset =>
    have := decideWalkStays szWave nSize chunkID fuel (nextOffset szWave nOffset)
    inferInstanceAs (Decidable (Within nSize nOffset 4 ∧
      (u32At szWave nOffset ≠ chunkID ∧ nOffset < nSize → Within nSize nOffset 8 ∧
        WalkStays szWave nSize chunkID fuel (nextOffset szWave nOffset))))

/-- A query that stays inside the block: the search does, and so do the `extent` bytes from
the start of the chunk it finds. -/
def Stays (szWave : View) (nSize : Int) (chunkID : Nat) (extent : Int) : Prop :=
  WalkStays szWave nSize chunkID walkFuel sizeofWaveHeader ∧
    ∀ nOffset, waveGetChunkOffset szWave nSize chunkID = some nOffset → nOffset ≠ 0 →
      Within nSize nOffset extent

instance (szWave : View) (nSize : Int) (chunkID : Nat) (extent : Int) :
    Decidable (Stays szWave nSize chunkID extent) :=
  inferInstanceAs (Decidable (WalkStays szWave nSize chunkID walkFuel sizeofWaveHeader ∧
    ∀ nOffset ∈ waveGetChunkOffset szWave nSize chunkID, nOffset ≠ 0 →
      Within nSize nOffset extent))

/-- Every query that `waveplay_start` makes on a header stays inside the block. -/
structure HeaderStays (szWave : View) (nSize : Int) : Prop where
  /-- The format chunk is searched, and its sample rate read; the channels lie before it. -/
  rate : Stays szWave nSize chunkFormat 16
  /-- The bits of a sample are read once the rate and the channels have passed. -/
  bits : ∀ sampleRate, waveGetSampleRate szWave nSize = some sampleRate →
    isSupporrtedSampleRate sampleRate = true → waveGetChannelNum szWave nSize = some 2 →
    Stays szWave nSize chunkFormat 24
  /-- The data chunk is searched once the format is accepted. -/
  data : (∃ sampleRate, headerCheck szWave nSize = some (sampleRate, true)) →
    Stays szWave nSize chunkData 8

variable {left right : View} {nSize : Int}

/-- Two memories that hold the same block. -/
def SameBlock (left right : View) (nSize : Int) : Prop :=
  ∀ i, 0 ≤ i → i < nSize → left i = right i

/-- A 32-bit field inside the block is the same in both memories. -/
theorem u32At_same (same : SameBlock left right nSize) {offset : Int}
    (inside : Within nSize offset 4) : u32At left offset = u32At right offset := by
  simp only [u32At]
  rw [same _ (by omega) (by omega), same _ (by omega) (by omega), same _ (by omega) (by omega),
    same _ (by omega) (by omega)]

/-- A 16-bit field inside the block is the same in both memories. -/
theorem u16At_same (same : SameBlock left right nSize) {offset : Int}
    (inside : Within nSize offset 2) : u16At left offset = u16At right offset := by
  simp only [u16At]
  rw [same _ (by omega) (by omega), same _ (by omega) (by omega)]

/-- A loop that stays inside the block runs the same in every memory holding that block. -/
theorem chunkWalk_same (same : SameBlock left right nSize) (chunkID : Nat) :
    ∀ (fuel : Nat) (nOffset : Int), WalkStays left nSize chunkID fuel nOffset →
      chunkWalk left nSize chunkID fuel nOffset = chunkWalk right nSize chunkID fuel nOffset ∧
        ∀ stop, chunkWalk left nSize chunkID fuel nOffset = some stop → Within nSize stop 4
  | 0, _, _ => ⟨rfl, fun _ stopped => by simp [chunkWalk] at stopped⟩
  | fuel + 1, nOffset, stays => by
    obtain ⟨here, onward⟩ := stays
    have identifier := u32At_same same here
    simp only [chunkWalk, ← identifier]
    by_cases moves : u32At left nOffset ≠ chunkID ∧ nOffset < nSize
    · obtain ⟨whole, rest⟩ := onward moves
      have size : u32At left (nOffset + 4) = u32At right (nOffset + 4) :=
        u32At_same same (by omega)
      have next : nextOffset left nOffset = nextOffset right nOffset := by
        simp only [nextOffset, size]
      rw [if_pos moves, if_pos moves, ← next]
      exact chunkWalk_same same chunkID fuel _ rest
    · rw [if_neg moves, if_neg moves]
      refine ⟨rfl, fun stop stopped => ?_⟩
      obtain rfl := Option.some.inj stopped
      exact here

/-- A search that stays inside the block finds the same offset in every memory holding it. -/
theorem waveGetChunkOffset_same (same : SameBlock left right nSize) {chunkID : Nat}
    {extent : Int} (stays : Stays left nSize chunkID extent) :
    waveGetChunkOffset left nSize chunkID = waveGetChunkOffset right nSize chunkID := by
  obtain ⟨walk, stop⟩ := chunkWalk_same same chunkID walkFuel sizeofWaveHeader stays.1
  simp only [waveGetChunkOffset, ← walk]
  split
  · cases found : chunkWalk left nSize chunkID walkFuel sizeofWaveHeader with
    | none => rfl
    | some nOffset => simp only [Option.map_some, u32At_same same (stop nOffset found)]
  · rfl

/-- A query that stays inside the block has the same value in every memory holding it, when
the field it reads does. -/
theorem chunkField_same (same : SameBlock left right nSize) {chunkID : Nat} {extent : Int}
    (stays : Stays left nSize chunkID extent) {fieldLeft fieldRight : Int → Int}
    (field : ∀ nOffset, Within nSize nOffset extent → fieldLeft nOffset = fieldRight nOffset) :
    chunkField left nSize chunkID fieldLeft = chunkField right nSize chunkID fieldRight := by
  have offset := waveGetChunkOffset_same same stays
  simp only [chunkField, ← offset]
  cases found : waveGetChunkOffset left nSize chunkID with
  | none => rfl
  | some nOffset =>
    by_cases missing : nOffset = 0
    · simp [missing]
    · simp only [Option.map_some, ne_eq, missing, not_false_eq_true, ↓reduceIte,
        field nOffset (stays.2 nOffset found missing)]

/-- Header queries that stay inside the block decide the same in every memory holding it. -/
theorem headerCheck_same (same : SameBlock left right nSize) (stays : HeaderStays left nSize) :
    headerCheck left nSize = headerCheck right nSize := by
  have rate : waveGetSampleRate left nSize = waveGetSampleRate right nSize :=
    chunkField_same same stays.rate fun nOffset inside => by
      rw [u32At_same same (by omega)]
  have channels : waveGetChannelNum left nSize = waveGetChannelNum right nSize :=
    chunkField_same same stays.rate fun nOffset inside => by
      rw [u16At_same same (by omega)]
  have bits (sampleRate : Int) (read : waveGetSampleRate left nSize = some sampleRate)
      (supported : isSupporrtedSampleRate sampleRate = true)
      (stereo : waveGetChannelNum left nSize = some 2) :
      waveGetSampleBitNum left nSize = waveGetSampleBitNum right nSize :=
    chunkField_same same (stays.bits sampleRate read supported stereo) fun nOffset inside => by
      rw [u16At_same same (by omega)]
  simp only [headerCheck, ← rate, ← channels, bind, Option.bind]
  cases read : waveGetSampleRate left nSize with
  | none => rfl
  | some sampleRate =>
    by_cases supported : isSupporrtedSampleRate sampleRate = true
    · cases stereo : waveGetChannelNum left nSize with
      | none => rfl
      | some channels =>
        by_cases two : channels = 2
        · subst two
          simp only [supported, ↓reduceIte, bits sampleRate read supported stereo]
        · simp [two]
    · simp [supported]

/-- The position of the samples is the same in every memory holding the block. -/
theorem waveGetWaveOffset_same (same : SameBlock left right nSize)
    (stays : Stays left nSize chunkData 8) :
    waveGetWaveOffset left nSize = waveGetWaveOffset right nSize :=
  chunkField_same same stays fun _ _ => rfl

/-- The size of the samples is the same in every memory holding the block. -/
theorem waveGetDataByteSize_same (same : SameBlock left right nSize)
    (stays : Stays left nSize chunkData 8) :
    waveGetDataByteSize left nSize = waveGetDataByteSize right nSize :=
  chunkField_same same stays fun nOffset inside => by rw [u32At_same same (by omega)]

/-- A loop that stays inside the block does so in every memory holding the block. -/
theorem WalkStays.same (same : SameBlock left right nSize) (chunkID : Nat) :
    ∀ (fuel : Nat) (nOffset : Int), WalkStays left nSize chunkID fuel nOffset →
      WalkStays right nSize chunkID fuel nOffset
  | 0, _, _ => trivial
  | fuel + 1, nOffset, stays => by
    obtain ⟨here, onward⟩ := stays
    refine ⟨here, fun moves => ?_⟩
    rw [← u32At_same same here] at moves
    obtain ⟨whole, rest⟩ := onward moves
    have next : nextOffset left nOffset = nextOffset right nOffset := by
      simp only [nextOffset, u32At_same same (show Within nSize (nOffset + 4) 4 by omega)]
    exact ⟨whole, next ▸ WalkStays.same same chunkID fuel _ rest⟩

/-- So does a query. -/
theorem Stays.same (same : SameBlock left right nSize) {chunkID : Nat} {extent : Int}
    (stays : Stays left nSize chunkID extent) : Stays right nSize chunkID extent :=
  ⟨stays.1.same same chunkID, waveGetChunkOffset_same same stays ▸ stays.2⟩

/-- So do all queries of `waveplay_start`. -/
theorem HeaderStays.same (same : SameBlock left right nSize) (stays : HeaderStays left nSize) :
    HeaderStays right nSize := by
  have rate : waveGetSampleRate left nSize = waveGetSampleRate right nSize :=
    chunkField_same same stays.rate fun nOffset inside => by
      rw [u32At_same same (by omega)]
  have channels : waveGetChannelNum left nSize = waveGetChannelNum right nSize :=
    chunkField_same same stays.rate fun nOffset inside => by
      rw [u16At_same same (by omega)]
  refine ⟨stays.rate.same same, fun sampleRate read supported stereo => ?_, fun accepted => ?_⟩
  · rw [← rate] at read
    rw [← channels] at stereo
    exact (stays.bits sampleRate read supported stereo).same same
  · rw [← headerCheck_same same stays] at accepted
    exact (stays.data accepted).same same

/-- The samples of a header inside the block begin inside the block, or at its end. -/
theorem waveGetWaveOffset_range {offset : Int} (stays : Stays left nSize chunkData 8)
    (low : 0 ≤ nSize) (high : nSize < 2147483648)
    (read : waveGetWaveOffset left nSize = some offset) : 0 ≤ offset ∧ offset ≤ nSize := by
  obtain ⟨nOffset, found, rfl⟩ := Option.map_eq_some_iff.mp read
  by_cases missing : nOffset = 0
  · simp [missing, low]
  · have inside := stays.2 nOffset found missing
    simp only [ne_eq, missing, not_false_eq_true, ↓reduceIte, sizeofChunk]
    rw [toInt32_of_fits _ (by omega) (by omega)]
    omega

end SoundBoard.Wave
