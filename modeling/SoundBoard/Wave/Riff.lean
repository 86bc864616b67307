import SoundBoard.Wave.Scan

/-!
# Wave files

RIFF files with 16-bit stereo samples, as the format defines them: chunks follow one another,
each with an identifier, its size, its bytes and, after an odd number of them, a zero byte.
Nothing here is taken from the library, which does not know of the zero byte.
-/

namespace SoundBoard.Wave

open SoundBoard.Lib

/-- `TAG_RIFF`, little-endian "RIFF". -/
def tagRiff : Nat := 0x46464952

/-- `TAG_WAVE`, little-endian "WAVE". -/
def tagWave : Nat := 0x45564157

/-- Where a chunk that starts at `start` and has `size` bytes ends. -/
def chunkEnd (start size : Nat) : Nat := start + 8 + size + size % 2

/-- Where a row of chunks ends. -/
def chunksEnd (start : Nat) (sizes : List Nat) : Nat := sizes.foldl chunkEnd start

/-- The sizes of the chunks before the samples: those before the format chunk, the bytes that
it has behind its 16, and those after it. -/
structure Shape where
  before : List Nat
  extension : Nat
  between : List Nat

/-- Where the format chunk begins. -/
def Shape.formatOffset (s : Shape) : Nat := chunksEnd 12 s.before

/-- Where the chunks after the format chunk begin. -/
def Shape.formatEnd (s : Shape) : Nat := chunkEnd s.formatOffset (16 + s.extension)

/-- Where the data chunk begins. -/
def Shape.dataOffset (s : Shape) : Nat := chunksEnd s.formatEnd s.between

/-- Where the samples begin. -/
def Shape.samples (s : Shape) : Nat := s.dataOffset + 8

/-- A chunk of a file: its size, and the zero byte after an odd one. -/
structure ChunkAt (file : Bytes) (start size : Nat) : Prop where
  announced : u32At (blockView file) (start + 4) = size
  pad : size % 2 = 1 → file (start + 8 + size) = 0

/-- A row of chunks that are neither format nor data. -/
def OtherChunks (file : Bytes) : Nat → List Nat → Prop
  | _, [] => True
  | start, size :: rest =>
    ChunkAt file start size ∧ u32At (blockView file) start ≠ chunkFormat ∧
      u32At (blockView file) start ≠ chunkData ∧ OtherChunks file (chunkEnd start size) rest

/-- The format chunk of 16-bit stereo samples at a supported rate. -/
structure FormatChunk (file : Bytes) (start extension sampleRate : Nat) : Prop
    extends ChunkAt file start (16 + extension) where
  identifier : u32At (blockView file) start = chunkFormat
  pcm : u16At (blockView file) (start + 8) = 1
  channels : u16At (blockView file) (start + 10) = 2
  rate : u32At (blockView file) (start + 12) = sampleRate
  byteRate : u32At (blockView file) (start + 16) = 4 * sampleRate
  blockAlign : u16At (blockView file) (start + 20) = 4
  bits : u16At (blockView file) (start + 22) = 16
  supported : isSupporrtedSampleRate sampleRate = true

/-- A wave file of `length` bytes, with a shape, a sample rate and the number of bytes of its
samples. -/
structure WaveFile (file : Bytes) (length : Nat) (s : Shape) (sampleRate size : Nat) : Prop where
  riff : u32At (blockView file) 0 = tagRiff
  riffSize : u32At (blockView file) 4 + 8 = length
  wave : u32At (blockView file) 8 = tagWave
  before : OtherChunks file 12 s.before
  format : FormatChunk file s.formatOffset s.extension sampleRate
  between : OtherChunks file s.formatEnd s.between
  data : u32At (blockView file) s.dataOffset = chunkData
  samples : ChunkAt file s.dataOffset size
  frames : size % 4 = 0
  after : ∃ sizes, OtherChunks file (chunkEnd s.dataOffset size) sizes ∧
    chunksEnd (chunkEnd s.dataOffset size) sizes = length
  range : length < 4294967296

/-- No chunk before the samples needs a zero byte behind it. -/
def Shape.Even (s : Shape) : Prop :=
  (∀ size ∈ s.before, size % 2 = 0) ∧ s.extension % 2 = 0 ∧ ∀ size ∈ s.between, size % 2 = 0

instance (s : Shape) : Decidable s.Even :=
  inferInstanceAs (Decidable ((∀ size ∈ s.before, size % 2 = 0) ∧ s.extension % 2 = 0 ∧
    ∀ size ∈ s.between, size % 2 = 0))

/-! ## Where chunks end -/

/-- Chunks lie one behind the other. -/
theorem chunksEnd_le (start : Nat) (sizes : List Nat) : start ≤ chunksEnd start sizes := by
  induction sizes generalizing start with
  | nil => exact Nat.le_refl start
  | cons size rest ih =>
    have first : start ≤ chunkEnd start size := by
      unfold chunkEnd
      omega
    exact Nat.le_trans first (ih (chunkEnd start size))

/-- The format chunk lies before the data chunk. -/
theorem Shape.formatEnd_le (s : Shape) : s.formatOffset + 24 + s.extension ≤ s.dataOffset := by
  have order := chunksEnd_le s.formatEnd s.between
  unfold Shape.dataOffset
  unfold Shape.formatEnd chunkEnd at order ⊢
  omega

/-! ## The search in an even file -/

variable {file : Bytes} {nSize extent found : Int} {chunkID : Nat}

/-- The step of the search over a chunk: its size, but not the zero byte. -/
theorem nextOffset_chunk {start size : Nat} (chunk : ChunkAt file start size)
    (small : start + 8 + size < 2147483648) :
    nextOffset (blockView file) start = (start + 8 + size : Nat) := by
  unfold nextOffset sizeofChunk
  rw [chunk.announced, toInt32_of_fits (8 + (size : Int)) (by omega) (by omega),
    toInt32_of_fits _ (by omega) (by omega)]
  omega

/-- A chain over a row of even chunks. -/
theorem OtherChunks.chain {start : Nat} {sizes : List Nat} (row : OtherChunks file start sizes)
    (even : ∀ size ∈ sizes, size % 2 = 0) (wanted : chunkID = chunkFormat ∨ chunkID = chunkData)
    (inside : (chunksEnd start sizes : Int) ≤ nSize) (small : nSize < 2147483648)
    (rest : ChunkInside (blockView file) nSize chunkID extent (chunksEnd start sizes) found) :
    ChunkInside (blockView file) nSize chunkID extent start found := by
  induction sizes generalizing start with
  | nil => exact rest
  | cons size sizes ih =>
    obtain ⟨chunk, format, data, row⟩ := row
    have whole : size % 2 = 0 := even size (List.mem_cons_self ..)
    have order : chunkEnd start size ≤ chunksEnd start (size :: sizes) :=
      chunksEnd_le (chunkEnd start size) sizes
    have stop : chunkEnd start size = start + 8 + size := by
      unfold chunkEnd
      omega
    have next := nextOffset_chunk chunk (by omega)
    have onward := ih row (fun other member => even other (List.mem_cons_of_mem _ member)) inside
      rest
    refine .next ?_ ⟨by omega, by omega⟩ ?_
    · rcases wanted with rfl | rfl
      · exact format
      · exact data
    · rw [next, ← stop]
      exact onward

variable {length sampleRate size : Nat} {s : Shape}

/-- In an even file the search for the format chunk finds it. -/
theorem WaveFile.formatChain (wave : WaveFile file length s sampleRate size) (even : s.Even)
    (inside : (s.formatOffset : Int) + 24 ≤ nSize) (small : nSize < 2147483648) :
    ChunkInside (blockView file) nSize chunkFormat 24 sizeofWaveHeader s.formatOffset := by
  have last : ChunkInside (blockView file) nSize chunkFormat 24 s.formatOffset s.formatOffset :=
    .here wave.format.identifier ⟨by omega, by omega⟩
  unfold Shape.formatOffset at inside
  exact wave.before.chain even.1 (.inl rfl) (by omega) small last

/-- And the search for the data chunk finds that. -/
theorem WaveFile.dataChain (wave : WaveFile file length s sampleRate size) (even : s.Even)
    (inside : (s.dataOffset : Int) + 8 ≤ nSize) (small : nSize < 2147483648) :
    ChunkInside (blockView file) nSize chunkData 8 sizeofWaveHeader s.dataOffset := by
  have order := s.formatEnd_le
  have ending := chunksEnd_le s.formatEnd s.between
  have last : ChunkInside (blockView file) nSize chunkData 8 s.dataOffset s.dataOffset :=
    .here wave.data ⟨by omega, by omega⟩
  have between : ChunkInside (blockView file) nSize chunkData 8 s.formatEnd s.dataOffset :=
    wave.between.chain even.2.2 (.inr rfl) (by unfold Shape.dataOffset at inside; omega) small last
  have stop : s.formatEnd = s.formatOffset + 8 + (16 + s.extension) := by
    have whole := even.2.1
    unfold Shape.formatEnd chunkEnd
    omega
  have next := nextOffset_chunk wave.format.toChunkAt (by omega)
  have format : ChunkInside (blockView file) nSize chunkData 8 s.formatOffset s.dataOffset := by
    refine .next ?_ ⟨by omega, by omega⟩ ?_
    · rw [wave.format.identifier]
      decide
    · rw [next, ← stop]
      exact between
  unfold Shape.formatOffset at order
  exact wave.before.chain even.1 (.inr rfl) (by omega) small format

end SoundBoard.Wave
