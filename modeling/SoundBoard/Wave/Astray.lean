import SoundBoard.Wave.Riff

/-!
# Searches that go astray

Wave files on which the search of `waveGetChunkOffset` misses its chunk: it lands on the zero
byte behind an odd chunk, or leaves the block before it comes to the format chunk. For every
shape there is one file (`shapeFile`), whose identifiers are chosen so that no later chunk leads
the search back.
-/

namespace SoundBoard.Wave

open SoundBoard.Lib

/-! ## Searches that miss -/

/-- The loop of `waveGetChunkOffset` goes from one offset to another, where it stops. -/
inductive WalkTo (szWave : View) (nSize : Int) (chunkID : Nat) : Int → Int → Prop where
  | stop {nOffset : Int} : StopsAt szWave nSize chunkID nOffset →
      WalkTo szWave nSize chunkID nOffset nOffset
  | next {nOffset last : Int} : u32At szWave nOffset ≠ chunkID → nOffset < nSize →
      WalkTo szWave nSize chunkID (nextOffset szWave nOffset) last →
      WalkTo szWave nSize chunkID nOffset last

/-- From an offset, the loop comes to its end without a chunk of the identifier. -/
def Misses (szWave : View) (nSize : Int) (chunkID : Nat) (nOffset : Int) : Prop :=
  ∃ last, WalkTo szWave nSize chunkID nOffset last ∧ u32At szWave last ≠ chunkID

variable {szWave : View} {nSize nOffset last : Int} {chunkID : Nat}

/-- Where the loop stops. -/
theorem WalkTo.chunkWalk (walk : WalkTo szWave nSize chunkID nOffset last) {fuel : Nat} {stop : Int}
    (run : chunkWalk szWave nSize chunkID fuel nOffset = some stop) : stop = last := by
  induction walk generalizing fuel with
  | stop stops =>
    cases fuel with
    | zero => contradiction
    | succ fuel =>
      rw [Wave.chunkWalk, if_neg stops] at run
      exact (Option.some.inj run).symm
  | next apart below _ ih =>
    cases fuel with
    | zero => contradiction
    | succ fuel =>
      rw [Wave.chunkWalk, if_pos ⟨apart, below⟩] at run
      exact ih run

/-- A search that ends finds the chunk at which its loop stops, or none. -/
theorem WalkTo.waveGetChunkOffset (walk : WalkTo szWave nSize chunkID sizeofWaveHeader last)
    (header : sizeofWaveHeader ≤ nSize) {found : Int}
    (run : waveGetChunkOffset szWave nSize chunkID = some found) :
    found = if u32At szWave last = chunkID then last else 0 := by
  rw [Wave.waveGetChunkOffset, if_pos header] at run
  obtain ⟨stop, walked, rfl⟩ := Option.map_eq_some_iff.mp run
  rw [walk.chunkWalk walked]

/-- A search that misses its chunk finds none. -/
theorem Misses.waveGetChunkOffset (misses : Misses szWave nSize chunkID sizeofWaveHeader)
    (header : sizeofWaveHeader ≤ nSize) {found : Int}
    (run : waveGetChunkOffset szWave nSize chunkID = some found) : found = 0 := by
  obtain ⟨last, walk, apart⟩ := misses
  rw [walk.waveGetChunkOffset header run, if_neg apart]

/-- Behind the block the loop stops. -/
theorem misses_behind (behind : nSize ≤ nOffset) (apart : u32At szWave nOffset ≠ chunkID) :
    Misses szWave nSize chunkID nOffset :=
  ⟨nOffset, .stop fun moves => by omega, apart⟩

/-- A search goes on to miss its chunk. -/
theorem misses_next (apart : u32At szWave nOffset ≠ chunkID)
    (next : Misses szWave nSize chunkID (nextOffset szWave nOffset)) :
    Misses szWave nSize chunkID nOffset := by
  by_cases below : nOffset < nSize
  · obtain ⟨last, walk, missed⟩ := next
    exact ⟨last, .next apart below walk, missed⟩
  · exact misses_behind (Int.not_lt.mp below) apart

/-- A header with an endless search for the format chunk is not accepted. -/
theorem endless_not_accepted (endless : waveGetChunkOffset szWave nSize chunkFormat = none) :
    ¬∃ sampleRate, headerCheck szWave nSize = some (sampleRate, true) := by
  rintro ⟨sampleRate, accepted⟩
  have rate : waveGetSampleRate szWave nSize = none := by
    simp only [waveGetSampleRate, chunkField, endless, Option.map_none]
  simp only [headerCheck, rate, bind, Option.bind] at accepted
  contradiction

/-- A header whose format chunk is missed is not accepted. -/
theorem Misses.not_accepted (misses : Misses szWave nSize chunkFormat sizeofWaveHeader)
    (header : sizeofWaveHeader ≤ nSize) :
    ¬∃ sampleRate, headerCheck szWave nSize = some (sampleRate, true) := by
  cases run : Wave.waveGetChunkOffset szWave nSize chunkFormat with
  | none => exact endless_not_accepted run
  | some found =>
    have missing := misses.waveGetChunkOffset header run
    rw [headerCheck_iff run]
    intro passes
    exact passes.1 missing

/-! ## Bytes in memory -/

/-- From an offset on, memory holds some bytes, and then zeros. -/
def Reads (szWave : View) (start : Nat) (bytes : List UInt8) : Prop :=
  ∀ i : Nat, szWave ((start + i : Nat) : Int) = bytes.getD i 0

variable {start : Nat}

/-- The bytes behind the first ones. -/
theorem Reads.tail (first : List UInt8) {rest : List UInt8}
    (reads : Reads szWave start (first ++ rest)) :
    Reads szWave (start + first.length) rest := by
  intro i
  have byte := reads (first.length + i)
  rw [← Nat.add_assoc, List.getD_eq_getElem?_getD,
    List.getElem?_append_right (Nat.le_add_right _ _), Nat.add_sub_cancel_left,
    ← List.getD_eq_getElem?_getD] at byte
  exact byte

/-- A 16-bit field of the bytes. -/
theorem Reads.u16 {b0 b1 : UInt8} {rest : List UInt8}
    (reads : Reads szWave start (b0 :: b1 :: rest)) : u16At szWave start = word16 b0 b1 := by
  have low := reads 0
  have high := reads 1
  simp only [List.getD_cons_zero, List.getD_cons_succ, Nat.add_zero, Nat.cast_add,
    Nat.cast_one] at low high
  rw [u16At, low, high]

/-- A 32-bit field of the bytes. -/
theorem Reads.u32 {b0 b1 b2 b3 : UInt8} {rest : List UInt8}
    (reads : Reads szWave start (b0 :: b1 :: b2 :: b3 :: rest)) :
    u32At szWave start = word32 b0 b1 b2 b3 := by
  have byte0 := reads 0
  have byte1 := reads 1
  have byte2 := reads 2
  have byte3 := reads 3
  simp only [List.getD_cons_zero, List.getD_cons_succ, Nat.add_zero, Nat.cast_add, Nat.cast_one,
    Nat.cast_ofNat] at byte0 byte1 byte2 byte3
  rw [u32At, byte0, byte1, byte2, byte3]

/-- The bytes of a 32-bit field with a small number. -/
def sizeBytes (n : Nat) : List UInt8 := [UInt8.ofNat n, UInt8.ofNat (n / 256), 0, 0]

/-- That number. -/
theorem word32_sizeBytes {n : Nat} (small : n < 65536) :
    word32 (UInt8.ofNat n) (UInt8.ofNat (n / 256)) 0 0 = n := by
  simp only [word32, word16, UInt8.toNat_ofNat', UInt8.toNat_zero]
  omega

/-- A chunk with its identifier and its bytes. -/
structure Chunk where
  i0 : UInt8
  i1 : UInt8
  i2 : UInt8
  i3 : UInt8
  content : List UInt8

/-- The identifier as a word. -/
def Chunk.identifier (c : Chunk) : Nat := word32 c.i0 c.i1 c.i2 c.i3

/-- The bytes of a chunk in a file. -/
def Chunk.bytes (c : Chunk) : List UInt8 :=
  [c.i0, c.i1, c.i2, c.i3] ++ (sizeBytes c.content.length ++
    (c.content ++ List.replicate (c.content.length % 2) 0))

/-- The bytes of a row of chunks. -/
def chunkBytes (chunks : List Chunk) : List UInt8 := chunks.flatMap Chunk.bytes

variable {c : Chunk} {rest : List UInt8}

/-- A chunk in memory: its identifier, its size, and what follows its size. -/
theorem Reads.chunk (reads : Reads szWave start (c.bytes ++ rest)) (small : c.content.length < 65536) :
    u32At szWave start = c.identifier ∧ u32At szWave (start + 4 : Nat) = c.content.length ∧
      Reads szWave (start + 8)
        (c.content ++ (List.replicate (c.content.length % 2) 0 ++ rest)) := by
  have size : Reads szWave (start + 4) (sizeBytes c.content.length ++
      (c.content ++ (List.replicate (c.content.length % 2) 0 ++ rest))) := by
    have tail := Reads.tail [c.i0, c.i1, c.i2, c.i3] (by
      rw [Chunk.bytes, List.append_assoc] at reads
      exact reads)
    simpa [List.append_assoc] using tail
  refine ⟨reads.u32, ?_, size.tail _⟩
  rw [size.u32, word32_sizeBytes small]

/-! ## Behind an odd chunk -/

/-- Memory behind the block is zero. -/
def ZeroBehind (szWave : View) (nSize : Int) : Prop := ∀ i, nSize ≤ i → szWave i = 0

/-- A search that has left a block with zeros behind it misses its chunk. -/
theorem ZeroBehind.misses (zero : ZeroBehind szWave nSize) (behind : nSize ≤ nOffset)
    (wanted : chunkID ≠ 0) : Misses szWave nSize chunkID nOffset := by
  refine misses_behind behind ?_
  rw [u32At, zero _ (by omega), zero _ (by omega), zero _ (by omega), zero _ (by omega)]
  exact fun none => wanted none.symm

/-- The step of the search over a size that is not large. -/
theorem nextOffset_small {announced : Nat} (size : u32At szWave (start + 4 : Nat) = announced)
    (small : start + 8 + announced < 2147483648) :
    nextOffset szWave start = (start + 8 + announced : Nat) := by
  unfold nextOffset sizeofChunk
  rw [show (start : Int) + 4 = (start + 4 : Nat) by omega, size,
    toInt32_of_fits (8 + (announced : Int)) (by omega) (by omega),
    toInt32_of_fits _ (by omega) (by omega)]
  omega

/-- A chunk whose header, read one byte early, does not lead the search to a later chunk: its
size without its lowest byte is 0, or it leads out of the block. -/
def Chunk.LeadsOut (c : Chunk) : Prop :=
  (c.content.length = 0 ∧ c.i3 = 0) ∨ 504 ≤ c.i3.toNat + 256 * c.content.length

/-- A search for the data chunk that looks at a zero byte and the chunk behind it goes on to
the last byte of that chunk's size, which is zero too, or leaves the block. -/
theorem misses_shifted (zero : ZeroBehind szWave 512) {chunks : List Chunk} {more : List UInt8}
    (out : ∀ c ∈ chunks, c.LeadsOut ∧ c.content.length < 65536)
    (last : ∀ start, start < 512 → Reads szWave start (0 :: more) →
      Misses szWave 512 chunkData start)
    (reads : Reads szWave start (0 :: (chunkBytes chunks ++ more))) :
    Misses szWave 512 chunkData start := by
  by_cases behind : 512 ≤ start
  · exact zero.misses (by omega) (by decide)
  induction chunks generalizing start with
  | nil => exact last start (Nat.not_le.mp behind) reads
  | cons c chunks ih =>
    obtain ⟨leads, small⟩ := out c (List.mem_cons_self ..)
    have whole : Reads szWave start (0 :: c.i0 :: c.i1 :: c.i2 :: c.i3 ::
        UInt8.ofNat c.content.length :: UInt8.ofNat (c.content.length / 256) :: 0 :: 0 ::
        (c.content ++ (List.replicate (c.content.length % 2) 0 ++ (chunkBytes chunks ++ more)))) := by
      simpa [chunkBytes, Chunk.bytes, sizeBytes, List.append_assoc] using reads
    have size : Reads szWave (start + 4) (c.i3 ::
        UInt8.ofNat c.content.length :: UInt8.ofNat (c.content.length / 256) :: 0 :: 0 ::
        (c.content ++ (List.replicate (c.content.length % 2) 0 ++ (chunkBytes chunks ++ more)))) :=
      Reads.tail [0, c.i0, c.i1, c.i2] whole
    have after : Reads szWave (start + 8) (0 ::
        (c.content ++ (List.replicate (c.content.length % 2) 0 ++ (chunkBytes chunks ++ more)))) :=
      Reads.tail [c.i3, UInt8.ofNat c.content.length,
        UInt8.ofNat (c.content.length / 256), 0] size
    have announced : u32At szWave (start + 4 : Nat) = c.i3.toNat + 256 * c.content.length := by
      rw [size.u32]
      simp only [word32, word16, UInt8.toNat_ofNat', UInt8.toNat_zero]
      omega
    have byte := c.i3.toNat_lt
    have next := nextOffset_small announced (by omega)
    have apart : u32At szWave start ≠ chunkData := by
      rw [whole.u32]
      simp only [word32, word16, UInt8.toNat_zero, chunkData]
      omega
    refine misses_next apart ?_
    rw [next]
    rcases leads with ⟨none, low⟩ | large
    · have empty : c.content = [] := List.eq_nil_of_length_eq_zero none
      simp only [empty, List.length_nil, Nat.zero_mod, List.replicate_zero, List.nil_append] at after
      simp only [low, none, UInt8.toNat_zero, Nat.mul_zero, Nat.add_zero]
      by_cases beyond : 512 ≤ start + 8
      · exact zero.misses (by omega) (by decide)
      · exact ih (fun c member => out c (List.mem_cons_of_mem _ member)) after beyond
    · exact zero.misses (by omega) (by decide)

/-- A search for the data chunk that comes to an odd chunk before it misses it. -/
theorem misses_odd (zero : ZeroBehind szWave 512) {chunks : List Chunk} {more : List UInt8}
    (out : ∀ c ∈ chunks, c.LeadsOut ∧ c.content.length < 65536 ∧ c.identifier ≠ chunkData)
    (last : ∀ start, start < 512 → Reads szWave start (0 :: more) →
      Misses szWave 512 chunkData start)
    (odd : ∃ c ∈ chunks, c.content.length % 2 = 1)
    (reads : Reads szWave start (chunkBytes chunks ++ more)) :
    Misses szWave 512 chunkData start := by
  by_cases behind : 512 ≤ start
  · exact zero.misses (by omega) (by decide)
  induction chunks generalizing start with
  | nil =>
    obtain ⟨c, member, _⟩ := odd
    contradiction
  | cons c chunks ih =>
    obtain ⟨_, small, apart⟩ := out c (List.mem_cons_self ..)
    rw [chunkBytes, List.flatMap_cons, List.append_assoc] at reads
    obtain ⟨identifier, size, content⟩ := reads.chunk small
    have after := content.tail _
    refine misses_next (by rwa [identifier]) ?_
    rw [nextOffset_small size (by omega)]
    by_cases here : c.content.length % 2 = 1
    · rw [here] at after
      exact misses_shifted zero
        (fun c member => ⟨(out c (List.mem_cons_of_mem _ member)).1,
          (out c (List.mem_cons_of_mem _ member)).2.1⟩) last after
    · have even : c.content.length % 2 = 0 := by omega
      rw [even] at after
      by_cases beyond : 512 ≤ start + 8 + c.content.length
      · exact zero.misses (by omega) (by decide)
      · refine ih (fun c member => out c (List.mem_cons_of_mem _ member)) ?_ after beyond
        obtain ⟨other, member, odd⟩ := odd
        rcases List.mem_cons.mp member with rfl | later
        · exact absurd odd here
        · exact ⟨other, later, odd⟩

/-! ## Behind the first 128 bytes -/

/-- Memory with the beginning of other memory, and zeros behind it. -/
def CutAt (view szWave : View) (nSize : Nat) : Prop :=
  ∀ i : Nat, view i = if i < nSize then szWave i else 0

variable {view : View} {cut : Nat}

/-- Behind the cut there are zeros. -/
theorem CutAt.zero (cutAt : CutAt view szWave cut) : ZeroBehind view cut := by
  intro i behind
  have byte := cutAt i.toNat
  rw [Int.toNat_of_nonneg (by omega), if_neg (by omega)] at byte
  exact byte

/-- A field before the cut is the same. -/
theorem CutAt.u32 (cutAt : CutAt view szWave cut) (inside : start + 4 ≤ cut) :
    u32At view start = u32At szWave start := by
  have byte (i : Nat) (part : i < 4) : view ((start + i : Nat) : Int) = szWave ((start + i : Nat) : Int) := by
    rw [cutAt, if_pos (by omega)]
  have byte0 := byte 0 (by omega)
  have byte1 := byte 1 (by omega)
  have byte2 := byte 2 (by omega)
  have byte3 := byte 3 (by omega)
  simp only [Nat.add_zero, Nat.cast_add, Nat.cast_one, Nat.cast_ofNat] at byte0 byte1 byte2 byte3
  rw [u32At, u32At, byte0, byte1, byte2, byte3]

/-- A field whose upper half lies behind the cut is small. -/
theorem CutAt.u32_lt (cutAt : CutAt view szWave cut) (start : Nat) (part : cut ≤ start + 2) :
    u32At view start < 65536 := by
  have zero := cutAt.zero
  rw [u32At, zero (start + 2) (by omega), zero (start + 3) (by omega)]
  have low := word16_lt (view start) (view (start + 1))
  simp only [word32, word16, UInt8.toNat_zero] at low ⊢
  omega

/-- A search that comes to the last bytes of the block, and to no format chunk there, misses
it. -/
theorem misses_end (cutAt : CutAt view szWave 128) (even : start % 2 = 0) (near : 120 < start)
    (apart : start ≤ 124 → u32At szWave start ≠ chunkFormat) :
    Misses view 128 chunkFormat start := by
  have zero := cutAt.zero
  by_cases behind : 128 ≤ start
  · exact zero.misses (by omega) (by decide)
  refine misses_next ?_ ?_
  · by_cases inside : start ≤ 124
    · rw [cutAt.u32 (by omega)]
      exact apart inside
    · have small := cutAt.u32_lt start (by omega)
      unfold chunkFormat
      omega
  · have small := cutAt.u32_lt (start + 4) (by omega)
    rw [nextOffset_small rfl (by omega)]
    exact zero.misses (by omega) (by decide)

/-- A search for the format chunk over even chunks comes to it, or misses it. -/
theorem walk_late (cutAt : CutAt view szWave 128) {chunks : List Chunk} {format : Chunk}
    {rest : List UInt8} (even : start % 2 = 0)
    (others : ∀ c ∈ chunks, c.content.length % 2 = 0 ∧ c.content.length < 65536 ∧
      c.identifier ≠ chunkFormat)
    (wanted : format.identifier = chunkFormat)
    (reads : Reads szWave start (chunkBytes chunks ++ (format.bytes ++ rest))) :
    Misses view 128 chunkFormat start ∨
      WalkTo view 128 chunkFormat start (start + (chunkBytes chunks).length : Nat) := by
  have zero := cutAt.zero
  induction chunks generalizing start with
  | nil =>
    have identifier : u32At szWave start = chunkFormat := by
      have head : Reads szWave start (format.bytes ++ rest) := reads
      rw [← wanted]
      exact head.u32
    by_cases inside : start ≤ 124
    · refine .inr (.stop fun moves => moves.1 ?_)
      rw [cutAt.u32 (by omega)]
      exact identifier
    · exact .inl (misses_end cutAt even (by omega) fun low => absurd low inside)
  | cons c chunks ih =>
    obtain ⟨whole, small, apart⟩ := others c (List.mem_cons_self ..)
    rw [chunkBytes, List.flatMap_cons, List.append_assoc] at reads
    obtain ⟨identifier, size, content⟩ := reads.chunk small
    by_cases near : 120 < start
    · exact .inl (misses_end cutAt even near fun _ => by rwa [identifier])
    · have after := content.tail _
      rw [whole] at after
      have differs : u32At view start ≠ chunkFormat := by
        rwa [cutAt.u32 (by omega), identifier]
      have next : nextOffset view start = (start + 8 + c.content.length : Nat) :=
        nextOffset_small (by rw [cutAt.u32 (by omega), size]) (by omega)
      have length : (chunkBytes (c :: chunks)).length =
          8 + c.content.length + (chunkBytes chunks).length := by
        simp only [chunkBytes, List.flatMap_cons, Chunk.bytes, sizeBytes, whole, List.replicate_zero,
          List.length_append, List.length_cons, List.length_nil]
        omega
      have whole_ : (start + 8 + c.content.length) % 2 = 0 := by omega
      rcases ih whole_ (fun c member => others c (List.mem_cons_of_mem _ member)) after with
        misses | walk
      · exact .inl (misses_next differs (by rwa [next]))
      · refine .inr (.next differs (by omega) ?_)
        rw [next, length, show start + (8 + c.content.length + (chunkBytes chunks).length) =
          start + 8 + c.content.length + (chunkBytes chunks).length by omega]
        exact walk

/-- A header whose format chunk does not lie within the first 128 bytes is not accepted. -/
theorem walk_late_not_accepted (cutAt : CutAt view szWave 128) {found : Nat}
    (walk : WalkTo view 128 chunkFormat sizeofWaveHeader found) (late : 128 ≤ found + 22) :
    ¬∃ sampleRate, headerCheck view 128 = some (sampleRate, true) := by
  by_cases identifier : u32At view found = chunkFormat
  · cases run : waveGetChunkOffset view 128 chunkFormat with
    | none => exact endless_not_accepted run
    | some offset =>
      have same := walk.waveGetChunkOffset (by decide) run
      rw [if_pos identifier] at same
      rw [headerCheck_iff run, same]
      intro passes
      have bits := passes.2.2
      have zero := cutAt.zero
      rw [u16At, zero _ (by omega), zero _ (by omega)] at bits
      exact absurd bits (by decide)
  · exact Misses.not_accepted ⟨found, walk, identifier⟩ (by decide)

/-! ## A file for every shape -/

/-- A chunk of zeros. Its identifier is "LIST" when it has two bytes or more; the last byte of a
shorter chunk's identifier is chosen so that the chunk leads out (`Chunk.LeadsOut`). -/
def otherChunk (size : Nat) : Chunk :=
  ⟨0x4C, 0x49, 0x53, if size = 0 then 0 else if size = 1 then 0xFF else 0x54, List.replicate size 0⟩

/-- The format chunk of 16-bit stereo samples at 44100 Hz. -/
def formatChunk (extension : Nat) : Chunk :=
  ⟨0x66, 0x6D, 0x74, 0x20, [1, 0, 2, 0, 0x44, 0xAC, 0, 0, 0x10, 0xB1, 2, 0, 4, 0, 16, 0] ++
    List.replicate extension 0⟩

/-- A data chunk with one frame of silence. -/
def dataChunk : Chunk := ⟨0x64, 0x61, 0x74, 0x61, [0, 0, 0, 0]⟩

/-- The first twelve bytes of a file. -/
def riffBytes (length : Nat) : List UInt8 :=
  [0x52, 0x49, 0x46, 0x46] ++ (sizeBytes (length - 8) ++ [0x57, 0x41, 0x56, 0x45])

/-- The bytes of the file of a shape: its length is that of the chunks up to the samples, and of
one frame. -/
def shapeBytes (s : Shape) : List UInt8 :=
  riffBytes (s.samples + 4) ++ (chunkBytes (s.before.map otherChunk) ++
    ((formatChunk s.extension).bytes ++ (chunkBytes (s.between.map otherChunk) ++ dataChunk.bytes)))

/-- The file of a shape. -/
def shapeFile (s : Shape) : Bytes := fun i => (shapeBytes s).getD i 0

/-- The bytes of a chunk end where the chunk does. -/
theorem chunk_bytes_length (c : Chunk) (start : Nat) :
    start + c.bytes.length = chunkEnd start c.content.length := by
  simp only [Chunk.bytes, sizeBytes, chunkEnd, List.length_append, List.length_cons, List.length_nil,
    List.length_replicate]
  omega

/-- So do those of a row of chunks. -/
theorem chunkBytes_length (sizes : List Nat) (start : Nat) :
    start + (chunkBytes (sizes.map otherChunk)).length = chunksEnd start sizes := by
  induction sizes generalizing start with
  | nil => rfl
  | cons size rest ih =>
    have first := chunk_bytes_length (otherChunk size) start
    have size_ : (otherChunk size).content.length = size := List.length_replicate
    rw [size_] at first
    simp only [chunkBytes, List.map_cons, List.flatMap_cons, List.length_append] at ih ⊢
    rw [← Nat.add_assoc, first]
    exact ih (chunkEnd start size)

/-- Every chunk of a row is smaller than the row. -/
theorem size_lt_chunksEnd {sizes : List Nat} {size : Nat} (member : size ∈ sizes) (start : Nat) :
    start + 8 + size ≤ chunksEnd start sizes := by
  induction sizes generalizing start with
  | nil => contradiction
  | cons first rest ih =>
    have order : chunkEnd start first ≤ chunksEnd start (first :: rest) :=
      chunksEnd_le (chunkEnd start first) rest
    rcases List.mem_cons.mp member with rfl | later
    · unfold chunkEnd at order
      omega
    · have inner : chunkEnd start first + 8 + size ≤ chunksEnd start (first :: rest) :=
        ih later (chunkEnd start first)
      unfold chunkEnd at inner
      omega

/-- The chunks of a shape lead a shifted search out, and are neither format nor data. -/
theorem otherChunk_leadsOut (size : Nat) : (otherChunk size).LeadsOut ∧
    (otherChunk size).identifier ≠ chunkFormat ∧ (otherChunk size).identifier ≠ chunkData := by
  have length : (otherChunk size).content.length = size := List.length_replicate
  unfold Chunk.LeadsOut Chunk.identifier
  rw [length]
  unfold otherChunk
  by_cases none : size = 0
  · simp only [none, ↓reduceIte]
    decide
  · by_cases one : size = 1
    · simp only [one, ↓reduceIte]
      decide
    · simp only [none, one, ↓reduceIte]
      refine ⟨.inr ?_, by decide, by decide⟩
      omega

/-- The size of the format chunk. -/
theorem formatChunk_length (extension : Nat) :
    (formatChunk extension).content.length = 16 + extension := by
  simp only [formatChunk, List.length_append, List.length_cons, List.length_nil,
    List.length_replicate]

/-- So does the format chunk. -/
theorem formatChunk_leadsOut (extension : Nat) : (formatChunk extension).LeadsOut ∧
    (formatChunk extension).identifier = chunkFormat := by
  unfold Chunk.LeadsOut
  rw [formatChunk_length]
  refine ⟨.inr (by omega), ?_⟩
  change word32 0x66 0x6D 0x74 0x20 = chunkFormat
  decide

/-- A shifted search that comes to the data chunk leaves the block. -/
theorem dataChunk_misses (zero : ZeroBehind szWave 512) (low : start < 512)
    (reads : Reads szWave start (0 :: dataChunk.bytes)) : Misses szWave 512 chunkData start := by
  have whole : Reads szWave start ([0, 0x64, 0x61, 0x74] ++ [0x61, 4, 0, 0, 0, 0, 0, 0, 0]) := reads
  have size : Reads szWave (start + 4) [0x61, 4, 0, 0, 0, 0, 0, 0, 0] := whole.tail _
  have announced : u32At szWave (start + 4 : Nat) = 1121 := size.u32
  have apart : u32At szWave start ≠ chunkData := by
    have identifier := Reads.u32 (show Reads szWave start (0 :: 0x64 :: 0x61 :: 0x74 :: _) from whole)
    rw [identifier]
    decide
  refine misses_next apart ?_
  rw [nextOffset_small announced (by omega)]
  exact zero.misses (by omega) (by decide)

variable {file : Bytes}

/-- A chunk in a file. -/
theorem Reads.chunkAt (reads : Reads (blockView file) start (c.bytes ++ rest))
    (small : c.content.length < 65536) : ChunkAt file start c.content.length := by
  obtain ⟨_, size, content⟩ := reads.chunk small
  refine ⟨size, fun odd => ?_⟩
  have after := content.tail _
  rw [odd] at after
  exact after 0

/-- A row of chunks in a file. -/
theorem Reads.otherChunks {sizes : List Nat} (small : ∀ size ∈ sizes, size < 65536)
    (reads : Reads (blockView file) start (chunkBytes (sizes.map otherChunk) ++ rest)) :
    OtherChunks file start sizes := by
  induction sizes generalizing start with
  | nil => trivial
  | cons size sizes ih =>
    have length : (otherChunk size).content.length = size := List.length_replicate
    have bound := small size (List.mem_cons_self ..)
    rw [List.map_cons, chunkBytes, List.flatMap_cons, List.append_assoc] at reads
    have identifier := (reads.chunk (by rwa [length])).1
    have chunk := reads.chunkAt (by rwa [length])
    have after := reads.tail _
    obtain ⟨_, format, data⟩ := otherChunk_leadsOut size
    rw [chunk_bytes_length, length] at after
    rw [length] at chunk
    refine ⟨chunk, ?_, ?_, ih (fun size member => small size (List.mem_cons_of_mem _ member)) after⟩
    · rwa [identifier]
    · rwa [identifier]

/-- What the file of a shape holds, part by part. -/
structure ShapeParts (szWave : View) (s : Shape) : Prop where
  riff : Reads szWave 0 (shapeBytes s)
  before : Reads szWave 12 (chunkBytes (s.before.map otherChunk) ++
    ((formatChunk s.extension).bytes ++ (chunkBytes (s.between.map otherChunk) ++ dataChunk.bytes)))
  format : Reads szWave s.formatOffset
    ((formatChunk s.extension).bytes ++ (chunkBytes (s.between.map otherChunk) ++ dataChunk.bytes))
  between : Reads szWave s.formatEnd (chunkBytes (s.between.map otherChunk) ++ dataChunk.bytes)
  data : Reads szWave s.dataOffset dataChunk.bytes

/-- Where the parts of a file lie. -/
theorem shapeParts (s : Shape) (reads : Reads szWave 0 (shapeBytes s)) : ShapeParts szWave s := by
  have before := Reads.tail (riffBytes (s.samples + 4)) reads
  have format := before.tail _
  have between := format.tail _
  have data := between.tail _
  rw [show 0 + (riffBytes (s.samples + 4)).length = 12 from rfl] at before format between data
  rw [chunkBytes_length] at format between data
  rw [chunk_bytes_length, formatChunk_length] at between data
  rw [chunkBytes_length] at data
  exact ⟨reads, before, format, between, data⟩

/-- The file of a shape holds its bytes. -/
theorem shapeFile_reads (s : Shape) : Reads (blockView (shapeFile s)) 0 (shapeBytes s) := by
  intro i
  rw [Nat.zero_add]
  rfl

/-- The format chunk of the file of a shape. -/
theorem ShapeParts.formatChunk {s : Shape} (parts : ShapeParts (blockView file) s)
    (small : s.extension < 65000) : FormatChunk file s.formatOffset s.extension 44100 := by
  have bound : (Wave.formatChunk s.extension).content.length < 65536 := by
    rw [formatChunk_length]
    omega
  have chunk := parts.format.chunkAt bound
  obtain ⟨identifier, _, content⟩ := parts.format.chunk bound
  rw [formatChunk_length] at chunk
  have pcm : Reads (blockView file) (s.formatOffset + 8) ([1, 0] ++ ([2, 0] ++
      ([0x44, 0xAC, 0, 0] ++ ([0x10, 0xB1, 2, 0] ++ ([4, 0] ++ ([16, 0] ++ _)))))) := content
  have channels := pcm.tail _
  have rate := channels.tail _
  have byteRate := rate.tail _
  have blockAlign := byteRate.tail _
  have bits := blockAlign.tail _
  constructor
  · exact chunk
  · rw [identifier]
    exact (formatChunk_leadsOut s.extension).2
  · exact pcm.u16
  · exact channels.u16
  · exact rate.u32
  · exact byteRate.u32
  · exact blockAlign.u16
  · exact bits.u16
  · decide

/-- The file of a shape is a wave file of that shape. -/
theorem shapeFile_wave (s : Shape) (inside : s.samples ≤ 512) :
    WaveFile (shapeFile s) (s.samples + 4) s 44100 4 := by
  have parts := shapeParts s (shapeFile_reads s)
  have order := s.formatEnd_le
  have low : 12 ≤ s.formatOffset := chunksEnd_le 12 s.before
  have samples : s.samples = s.dataOffset + 8 := rfl
  have ending : chunkEnd s.dataOffset 4 = s.samples + 4 := rfl
  have riffSize : Reads (blockView (shapeFile s)) 4
      (sizeBytes (s.samples + 4 - 8) ++ ([0x57, 0x41, 0x56, 0x45] ++ _)) :=
    Reads.tail [0x52, 0x49, 0x46, 0x46] parts.riff
  have wave := riffSize.tail _
  constructor
  · exact parts.riff.u32
  · have announced := riffSize.u32
    rw [word32_sizeBytes (by omega)] at announced
    have size : u32At (blockView (shapeFile s)) 4 = s.samples + 4 - 8 := announced
    omega
  · exact wave.u32
  · refine parts.before.otherChunks fun size member => ?_
    have fits : 12 + 8 + size ≤ s.formatOffset := size_lt_chunksEnd member 12
    omega
  · exact parts.formatChunk (by omega)
  · refine parts.between.otherChunks fun size member => ?_
    have fits : s.formatEnd + 8 + size ≤ s.dataOffset := size_lt_chunksEnd member s.formatEnd
    omega
  · exact parts.data.u32
  · have data : Reads (blockView (shapeFile s)) s.dataOffset (dataChunk.bytes ++ []) := by
      rw [List.append_nil]
      exact parts.data
    exact data.chunkAt (by decide)
  · rfl
  · exact ⟨[], trivial, ending⟩
  · omega

/-- From its samples on, the file of a shape is zero. -/
theorem shapeFile_zero (s : Shape) {i : Nat} (behind : s.samples ≤ i) : shapeFile s i = 0 := by
  have data := (shapeParts s (shapeFile_reads s)).data (i - s.dataOffset)
  unfold Shape.samples at behind
  rw [Nat.add_sub_cancel' (by omega)] at data
  obtain ⟨n, rest⟩ : ∃ n, i - s.dataOffset = n + 8 := ⟨i - s.dataOffset - 8, by omega⟩
  have byte : dataChunk.bytes.getD (n + 8) 0 = 0 := by
    change ([0, 0, 0, 0] : List UInt8).getD n 0 = 0
    match n with
    | 0 | 1 | 2 | 3 => rfl
    | n + 4 => rfl
  rw [rest, byte] at data
  exact data

/-- Memory that ends with the first block of the file of a shape holds all of its bytes. -/
theorem shapeFile_cut {s : Shape} (inside : s.samples ≤ 512) {view : View}
    (cut : CutAt view (blockView (shapeFile s)) 512) : Reads view 0 (shapeBytes s) := by
  intro i
  rw [cut, Nat.zero_add]
  by_cases first : i < 512
  · rw [if_pos first]
    rfl
  · rw [if_neg first]
    exact (shapeFile_zero s (by omega)).symm

/-- The chunks of a shape before its data chunk. -/
def Shape.chunks (s : Shape) : List Chunk :=
  s.before.map otherChunk ++ (formatChunk s.extension :: s.between.map otherChunk)

/-- Their sizes are small, and none of them leads a shifted search back. -/
theorem Shape.chunks_out {s : Shape} (inside : s.samples ≤ 512) :
    ∀ c ∈ s.chunks, c.LeadsOut ∧ c.content.length < 65536 ∧ c.identifier ≠ chunkData := by
  have order := s.formatEnd_le
  have samples : s.samples = s.dataOffset + 8 := rfl
  have other (size : Nat) (small : size < 65536) : (otherChunk size).LeadsOut ∧
      (otherChunk size).content.length < 65536 ∧ (otherChunk size).identifier ≠ chunkData := by
    obtain ⟨out, _, data⟩ := otherChunk_leadsOut size
    have length : (otherChunk size).content.length = size := List.length_replicate
    exact ⟨out, by omega, data⟩
  intro c member
  rcases List.mem_append.mp member with before | rest
  · obtain ⟨size, here, rfl⟩ := List.mem_map.mp before
    have fits : 12 + 8 + size ≤ s.formatOffset := size_lt_chunksEnd here 12
    exact other size (by omega)
  · rcases List.mem_cons.mp rest with rfl | between
    · obtain ⟨out, format⟩ := formatChunk_leadsOut s.extension
      have length := formatChunk_length s.extension
      refine ⟨out, by omega, ?_⟩
      rw [format]
      decide
    · obtain ⟨size, here, rfl⟩ := List.mem_map.mp between
      have fits : s.formatEnd + 8 + size ≤ s.dataOffset := size_lt_chunksEnd here s.formatEnd
      exact other size (by omega)

/-- In a shape that is not even, one of them is odd. -/
theorem Shape.chunks_odd {s : Shape} (odd : ¬s.Even) :
    ∃ c ∈ s.chunks, c.content.length % 2 = 1 := by
  have other (size : Nat) : (otherChunk size).content.length = size := List.length_replicate
  refine Classical.byContradiction fun none => odd ⟨?_, ?_, ?_⟩
  · intro size member
    refine Classical.byContradiction fun part => none ⟨otherChunk size, ?_, ?_⟩
    · exact List.mem_append_left _ (List.mem_map_of_mem member)
    · rw [other]
      omega
  · refine Classical.byContradiction fun part => none ⟨formatChunk s.extension, ?_, ?_⟩
    · exact List.mem_append_right _ (List.mem_cons_self ..)
    · rw [formatChunk_length]
      omega
  · intro size member
    refine Classical.byContradiction fun part => none ⟨otherChunk size, ?_, ?_⟩
    · exact List.mem_append_right _ (List.mem_cons_of_mem _ (List.mem_map_of_mem member))
    · rw [other]
      omega

/-- A row of chunks that starts at an even offset ends at one. -/
theorem chunksEnd_even {start : Nat} (even : start % 2 = 0) (sizes : List Nat) :
    chunksEnd start sizes % 2 = 0 := by
  induction sizes generalizing start with
  | nil => exact even
  | cons size rest ih =>
    have next : chunkEnd start size % 2 = 0 := by
      unfold chunkEnd
      omega
    exact ih next

end SoundBoard.Wave
