import SoundBoard.Lib.Iterate
import SoundBoard.Wave.WaveLib

/-!
# Which header queries are safe

A query is safe when its search ends and looks at no byte outside the block. The loop of
`waveGetChunkOffset` looks at a chunk before it compares the offset with the size, so a search
that finds nothing has left the block: the safe searches are those that a chain of chunks inside
the block leads to the chunk (`ChunkInside`).
-/

namespace SoundBoard.Wave

open SoundBoard.Lib

/-! ## Safe queries -/

/-- A query ends, and looks at no byte outside the block: its search does not, and the field it
reads lies within the first `extent` bytes of the chunk. -/
structure QuerySafe (szWave : View) (nSize : Int) (chunkID : Nat) (extent : Int) : Prop where
  ends : waveGetChunkOffset szWave nSize chunkID ≠ none
  stays : Stays szWave nSize chunkID extent

/-- Every query that `build_wave_play_list` makes on a header is safe. A later query is made
only when the answers of the earlier ones pass. -/
structure ListingSafe (szWave : View) (nSize : Int) : Prop where
  sampleRate : QuerySafe szWave nSize chunkFormat 16
  channelNum : ∀ sampleRate, waveGetSampleRate szWave nSize = some sampleRate →
    isSupporrtedSampleRate sampleRate = true → QuerySafe szWave nSize chunkFormat 12
  sampleBitNum : ∀ sampleRate, waveGetSampleRate szWave nSize = some sampleRate →
    isSupporrtedSampleRate sampleRate = true → waveGetChannelNum szWave nSize = some 2 →
    QuerySafe szWave nSize chunkFormat 24

/-- Every query that `waveplay_start` makes on a header is safe. -/
structure StartSafe (szWave : View) (nSize : Int) : Prop extends ListingSafe szWave nSize where
  waveOffset : (∃ sampleRate, headerCheck szWave nSize = some (sampleRate, true)) →
    QuerySafe szWave nSize chunkData 4
  dataByteSize : (∃ sampleRate, headerCheck szWave nSize = some (sampleRate, true)) →
    QuerySafe szWave nSize chunkData 8

/-! ## Chains of chunks -/

/-- From an offset, chunk headers inside the block lead to a chunk with the identifier, whose
first `extent` bytes lie inside the block too. -/
inductive ChunkInside (szWave : View) (nSize : Int) (chunkID : Nat) (extent : Int) :
    Int → Int → Prop where
  | here {nOffset : Int} : u32At szWave nOffset = chunkID → Within nSize nOffset extent →
      ChunkInside szWave nSize chunkID extent nOffset nOffset
  | next {nOffset found : Int} : u32At szWave nOffset ≠ chunkID → Within nSize nOffset 8 →
      ChunkInside szWave nSize chunkID extent (nextOffset szWave nOffset) found →
      ChunkInside szWave nSize chunkID extent nOffset found

variable {szWave : View} {nSize extent nOffset found : Int} {chunkID : Nat}

/-- The chunk that a chain leads to. -/
theorem ChunkInside.last (chain : ChunkInside szWave nSize chunkID extent nOffset found) :
    u32At szWave found = chunkID ∧ Within nSize found extent := by
  induction chain with
  | here identifier inside => exact ⟨identifier, inside⟩
  | next _ _ _ ih => exact ih

/-- A chain leads to one chunk. -/
theorem ChunkInside.unique {other : Int} {extent' : Int}
    (chain : ChunkInside szWave nSize chunkID extent nOffset found)
    (chain' : ChunkInside szWave nSize chunkID extent' nOffset other) : found = other := by
  induction chain with
  | here identifier _ =>
    cases chain' with
    | here => rfl
    | next apart => exact absurd identifier apart
  | next apart _ _ ih =>
    cases chain' with
    | here identifier => exact absurd identifier apart
    | next _ _ rest => exact ih rest

/-- A search along a chain stays inside the block. -/
theorem ChunkInside.walkStays (chain : ChunkInside szWave nSize chunkID extent nOffset found)
    (identifier : 4 ≤ extent) (fuel : Nat) : WalkStays szWave nSize chunkID fuel nOffset := by
  induction chain generalizing fuel with
  | here same inside =>
    cases fuel with
    | zero => trivial
    | succ fuel => exact ⟨by omega, fun moves => absurd same moves.1⟩
  | next _ inside _ ih =>
    cases fuel with
    | zero => trivial
    | succ fuel => exact ⟨by omega, fun _ => ⟨inside, ih fuel⟩⟩

/-- It ends at the chunk, or has not ended yet. -/
theorem ChunkInside.chunkWalk (chain : ChunkInside szWave nSize chunkID extent nOffset found)
    {fuel : Nat} {stop : Int} (run : chunkWalk szWave nSize chunkID fuel nOffset = some stop) :
    stop = found := by
  induction chain generalizing fuel with
  | here same _ =>
    cases fuel with
    | zero => contradiction
    | succ fuel =>
      rw [Wave.chunkWalk, if_neg (fun moves => moves.1 same)] at run
      exact (Option.some.inj run).symm
  | next apart inside _ ih =>
    cases fuel with
    | zero => contradiction
    | succ fuel =>
      rw [Wave.chunkWalk, if_pos ⟨apart, by omega⟩] at run
      exact ih run

/-! ## Searches that end -/

/-- The loop of `waveGetChunkOffset` stops at an offset. -/
def StopsAt (szWave : View) (nSize : Int) (chunkID : Nat) (nOffset : Int) : Prop :=
  ¬(u32At szWave nOffset ≠ chunkID ∧ nOffset < nSize)

/-- A search that comes to an offset where it stops ends. -/
theorem chunkWalk_ends (szWave : View) (nSize : Int) (chunkID : Nat) {steps fuel : Nat}
    (enough : steps < fuel) (stops : StopsAt szWave nSize chunkID ((nextOffset szWave)^[steps] nOffset)) :
    chunkWalk szWave nSize chunkID fuel nOffset ≠ none := by
  induction fuel generalizing nOffset steps with
  | zero => omega
  | succ fuel ih =>
    rw [chunkWalk]
    by_cases moves : u32At szWave nOffset ≠ chunkID ∧ nOffset < nSize
    · rw [if_pos moves]
      cases steps with
      | zero => exact absurd moves stops
      | succ steps => exact ih (Nat.lt_of_succ_lt_succ enough) stops
    · rw [if_neg moves]
      exact Option.some_ne_none _

/-- The offsets of a search are 32-bit integers. -/
theorem nextOffset_range (szWave : View) (low : -2147483648 ≤ nOffset) (high : nOffset < 2147483648)
    (steps : Nat) : -2147483648 ≤ (nextOffset szWave)^[steps] nOffset ∧
      (nextOffset szWave)^[steps] nOffset < 2147483648 := by
  cases steps with
  | zero => exact ⟨low, high⟩
  | succ steps =>
    rw [Function.iterate_succ_apply']
    exact toInt32_range _

/-- A search that stops at all ends before it has made as many tests as there are offsets. -/
theorem chunkWalk_walkFuel {steps : Nat} (low : -2147483648 ≤ nOffset) (high : nOffset < 2147483648)
    (stops : StopsAt szWave nSize chunkID ((nextOffset szWave)^[steps] nOffset)) :
    chunkWalk szWave nSize chunkID walkFuel nOffset ≠ none := by
  have range := nextOffset_range szWave low high
  obtain ⟨early, enough, stops⟩ := iterate_stops (StopsAt szWave nSize chunkID)
    (fun offset => (offset + 2147483648).toNat) 4294967296
    (fun n => by have := range n; omega)
    (fun m n same => by have := range m; have := range n; omega) steps stops
  exact chunkWalk_ends szWave nSize chunkID (by rwa [walkFuel]) stops

/-- A chain leads to an offset where the search stops. -/
theorem ChunkInside.stops (chain : ChunkInside szWave nSize chunkID extent nOffset found) :
    ∃ steps, StopsAt szWave nSize chunkID ((nextOffset szWave)^[steps] nOffset) := by
  induction chain with
  | here same _ => exact ⟨0, fun moves => moves.1 same⟩
  | next _ _ _ ih =>
    obtain ⟨steps, stops⟩ := ih
    exact ⟨steps + 1, stops⟩

/-- A chain leads `waveGetChunkOffset` to its chunk. -/
theorem ChunkInside.waveGetChunkOffset
    (chain : ChunkInside szWave nSize chunkID extent sizeofWaveHeader found)
    (header : sizeofWaveHeader ≤ nSize) :
    waveGetChunkOffset szWave nSize chunkID = some found := by
  obtain ⟨steps, stops⟩ := chain.stops
  have ends := chunkWalk_walkFuel (by decide) (by decide) stops
  obtain ⟨stop, run⟩ := Option.ne_none_iff_exists'.mp ends
  have last := chain.chunkWalk run
  rw [Wave.waveGetChunkOffset, if_pos header, run, last, Option.map_some,
    if_pos chain.last.1]

/-- A query along a chain is safe. -/
theorem ChunkInside.safe (chain : ChunkInside szWave nSize chunkID extent sizeofWaveHeader found)
    (header : sizeofWaveHeader ≤ nSize) (identifier : 4 ≤ extent) {part : Int}
    (less : part ≤ extent) : QuerySafe szWave nSize chunkID part := by
  have offset := chain.waveGetChunkOffset header
  constructor
  · rw [offset]
    exact Option.some_ne_none _
  · refine ⟨chain.walkStays identifier walkFuel, fun nOffset run _ => ?_⟩
    rw [offset] at run
    obtain rfl := Option.some.inj run
    have inside := chain.last.2
    omega

/-- A search that ends inside the block at a chunk with the identifier has followed a chain.
An offset behind the block is no such end, since the loop has looked at a chunk there. -/
theorem ChunkInside.of_walk {fuel : Nat} (stays : WalkStays szWave nSize chunkID fuel nOffset)
    (run : Wave.chunkWalk szWave nSize chunkID fuel nOffset = some found)
    (last : u32At szWave found = chunkID → Within nSize found extent) :
    ChunkInside szWave nSize chunkID extent nOffset found := by
  induction fuel generalizing nOffset with
  | zero => contradiction
  | succ fuel ih =>
    obtain ⟨here, onward⟩ := stays
    rw [Wave.chunkWalk] at run
    by_cases moves : u32At szWave nOffset ≠ chunkID ∧ nOffset < nSize
    · rw [if_pos moves] at run
      obtain ⟨inside, rest⟩ := onward moves
      exact .next moves.1 inside (ih rest run)
    · rw [if_neg moves] at run
      obtain rfl := Option.some.inj run
      have same : u32At szWave nOffset = chunkID := by
        refine Classical.byContradiction fun apart => moves ⟨apart, ?_⟩
        omega
      exact .here same (last same)

/-- A safe query is one along a chain. -/
theorem QuerySafe.chain (safe : QuerySafe szWave nSize chunkID extent)
    (header : sizeofWaveHeader ≤ nSize) (fits : extent ≤ nSize) :
    ∃ found, ChunkInside szWave nSize chunkID extent sizeofWaveHeader found := by
  have ends := safe.ends
  obtain ⟨walk, field⟩ := safe.stays
  rw [Wave.waveGetChunkOffset, if_pos header] at ends
  cases run : Wave.chunkWalk szWave nSize chunkID walkFuel sizeofWaveHeader with
  | none =>
    rw [run] at ends
    contradiction
  | some stop =>
    refine ⟨stop, .of_walk walk run fun same => ?_⟩
    have offset : Wave.waveGetChunkOffset szWave nSize chunkID = some stop := by
      rw [Wave.waveGetChunkOffset, if_pos header, run, Option.map_some, if_pos same]
    by_cases start : stop = 0
    · omega
    · exact field stop offset start

/-! ## The header checks -/

/-- The sample rate of a format chunk is supported, and it has two channels. -/
def SupportedStereo (szWave : View) (nOffset : Int) : Prop :=
  isSupporrtedSampleRate (toInt32 (u32At szWave (nOffset + 12))) = true ∧
    u16At szWave (nOffset + 10) = 2

/-- A format chunk passes the header check. A chunk at offset 0 is taken for none. -/
def FormatPasses (szWave : View) (nOffset : Int) : Prop :=
  nOffset ≠ 0 ∧ SupportedStereo szWave nOffset ∧ u16At szWave (nOffset + 22) = 16

/-- The sample rate that a search for the format chunk leads to. -/
theorem waveGetSampleRate_eq (offset : waveGetChunkOffset szWave nSize chunkFormat = some nOffset)
    (behind : nOffset ≠ 0) :
    waveGetSampleRate szWave nSize = some (toInt32 (u32At szWave (nOffset + 12))) := by
  simp only [waveGetSampleRate, chunkField, offset, Option.map_some, behind, ne_eq,
    not_false_eq_true, ↓reduceIte]

/-- The number of channels. -/
theorem waveGetChannelNum_eq (offset : waveGetChunkOffset szWave nSize chunkFormat = some nOffset)
    (behind : nOffset ≠ 0) :
    waveGetChannelNum szWave nSize = some (u16At szWave (nOffset + 10) : Int) := by
  simp only [waveGetChannelNum, chunkField, offset, Option.map_some, behind, ne_eq,
    not_false_eq_true, ↓reduceIte]

/-- The bits of a sample. -/
theorem waveGetSampleBitNum_eq
    (offset : waveGetChunkOffset szWave nSize chunkFormat = some nOffset) (behind : nOffset ≠ 0) :
    waveGetSampleBitNum szWave nSize = some (u16At szWave (nOffset + 22) : Int) := by
  simp only [waveGetSampleBitNum, chunkField, offset, Option.map_some, behind, ne_eq,
    not_false_eq_true, ↓reduceIte]

/-- Without a format chunk the sample rate is 0, which is not supported. -/
theorem waveGetSampleRate_missing (offset : waveGetChunkOffset szWave nSize chunkFormat = some 0) :
    waveGetSampleRate szWave nSize = some 0 := by
  simp only [waveGetSampleRate, chunkField, offset, Option.map_some, ne_eq, not_true_eq_false,
    ↓reduceIte]

/-- What the header check makes of the answers of its queries. -/
theorem headerCheck_of {sampleRate channels bits : Int}
    (rate : waveGetSampleRate szWave nSize = some sampleRate)
    (stereo : waveGetChannelNum szWave nSize = some channels)
    (wide : waveGetSampleBitNum szWave nSize = some bits) :
    headerCheck szWave nSize = some (sampleRate,
      isSupporrtedSampleRate sampleRate && decide (channels = 2) && decide (bits = 16)) := by
  simp only [headerCheck, rate, stereo, wide, bind, Option.bind, pure]
  cases isSupporrtedSampleRate sampleRate with
  | false => rfl
  | true =>
    by_cases two : channels = 2
    · simp [two]
    · simp [two]

/-- Without a format chunk the header check fails. -/
theorem headerCheck_missing (offset : waveGetChunkOffset szWave nSize chunkFormat = some 0) :
    headerCheck szWave nSize = some (0, false) := by
  have unsupported : isSupporrtedSampleRate 0 = false := by decide
  simp only [headerCheck, waveGetSampleRate_missing offset, unsupported, bind, Option.bind, pure,
    Bool.false_eq_true, ↓reduceIte]

/-- The header check looks at the format chunk that the search finds. -/
theorem headerCheck_iff (offset : waveGetChunkOffset szWave nSize chunkFormat = some nOffset) :
    (∃ sampleRate, headerCheck szWave nSize = some (sampleRate, true)) ↔
      FormatPasses szWave nOffset := by
  unfold FormatPasses SupportedStereo
  by_cases start : nOffset = 0
  · have missing := headerCheck_missing (offset.trans (congrArg some start))
    constructor
    · rintro ⟨sampleRate, check⟩
      rw [missing] at check
      exact absurd (Prod.mk.inj (Option.some.inj check)).2 (by decide)
    · rintro ⟨behind, _⟩
      exact absurd start behind
  · have check := headerCheck_of (waveGetSampleRate_eq offset start)
      (waveGetChannelNum_eq offset start) (waveGetSampleBitNum_eq offset start)
    constructor
    · rintro ⟨sampleRate, accepted⟩
      rw [check] at accepted
      have passes := (Prod.mk.inj (Option.some.inj accepted)).2
      simp only [Bool.and_eq_true, decide_eq_true_eq] at passes
      exact ⟨start, ⟨passes.1.1, by omega⟩, by omega⟩
    · rintro ⟨_, ⟨supported, stereo⟩, wide⟩
      refine ⟨toInt32 (u32At szWave (nOffset + 12)), ?_⟩
      rw [check, supported, stereo, wide]
      rfl

/-- What `build_wave_play_list` needs of a header block: chunks inside it lead to the format
chunk, whose sample rate lies inside too, and so do the bits of a sample where they are asked
for. -/
structure FormatInside (szWave : View) (nSize nOffset : Int) : Prop where
  chain : ChunkInside szWave nSize chunkFormat 16 sizeofWaveHeader nOffset
  bits : nOffset ≠ 0 → SupportedStereo szWave nOffset → nOffset + 24 ≤ nSize

/-- What `waveplay_start` needs besides: when the format passes, chunks inside the block lead
to the data chunk, whose header lies inside. -/
structure HeaderInside (szWave : View) (nSize nOffset : Int) : Prop
    extends FormatInside szWave nSize nOffset where
  data : FormatPasses szWave nOffset →
    ∃ found, ChunkInside szWave nSize chunkData 8 sizeofWaveHeader found

/-- A chain whose chunk has more bytes inside the block. -/
theorem ChunkInside.extend {more : Int}
    (chain : ChunkInside szWave nSize chunkID extent nOffset found)
    (inside : Within nSize found more) : ChunkInside szWave nSize chunkID more nOffset found := by
  induction chain with
  | here same _ => exact .here same inside
  | next apart whole _ ih => exact .next apart whole (ih inside)

/-- The queries of `build_wave_play_list` are safe exactly when the format chunk is reached
inside the block. -/
theorem listingSafe_iff (large : 24 ≤ nSize) :
    ListingSafe szWave nSize ↔ ∃ nOffset, FormatInside szWave nSize nOffset := by
  have header : sizeofWaveHeader ≤ nSize := by
    unfold sizeofWaveHeader
    omega
  constructor
  · intro safe
    obtain ⟨nOffset, chain⟩ := safe.sampleRate.chain header (by omega)
    have offset := chain.waveGetChunkOffset header
    refine ⟨nOffset, chain, fun behind fields => ?_⟩
    have bits := safe.sampleBitNum _ (waveGetSampleRate_eq offset behind) fields.1 (by
      rw [waveGetChannelNum_eq offset behind, fields.2]
      rfl)
    exact (bits.stays.2 nOffset offset behind).2
  · rintro ⟨nOffset, inside⟩
    have chain := inside.chain
    have offset := chain.waveGetChunkOffset header
    constructor
    · exact chain.safe header (by omega) (by omega)
    · intro sampleRate read supported
      exact chain.safe header (by omega) (by omega)
    · intro sampleRate read supported stereo
      have behind : nOffset ≠ 0 := by
        rintro rfl
        rw [waveGetSampleRate_missing offset] at read
        obtain rfl := Option.some.inj read
        simp [isSupporrtedSampleRate] at supported
      rw [waveGetSampleRate_eq offset behind] at read
      rw [waveGetChannelNum_eq offset behind] at stereo
      obtain rfl := Option.some.inj read
      have two := Option.some.inj stereo
      have low := chain.last.2
      have high := inside.bits behind ⟨supported, by omega⟩
      have whole : ChunkInside szWave nSize chunkFormat 24 sizeofWaveHeader nOffset :=
        chain.extend ⟨low.1, high⟩
      exact whole.safe header (by omega) (by omega)

/-- So are those of `waveplay_start`, when the data chunk is reached too. -/
theorem startSafe_iff (large : 24 ≤ nSize) :
    StartSafe szWave nSize ↔ ∃ nOffset, HeaderInside szWave nSize nOffset := by
  have header : sizeofWaveHeader ≤ nSize := by
    unfold sizeofWaveHeader
    omega
  constructor
  · intro safe
    obtain ⟨nOffset, inside⟩ := (listingSafe_iff large).mp safe.toListingSafe
    refine ⟨nOffset, inside, fun passes => ?_⟩
    have accepted := (headerCheck_iff (inside.chain.waveGetChunkOffset header)).mpr passes
    exact (safe.dataByteSize accepted).chain header (by omega)
  · rintro ⟨nOffset, inside⟩
    have chain (accepted : ∃ sampleRate, headerCheck szWave nSize = some (sampleRate, true)) :
        ∃ found, ChunkInside szWave nSize chunkData 8 sizeofWaveHeader found :=
      inside.data ((headerCheck_iff (inside.chain.waveGetChunkOffset header)).mp accepted)
    constructor
    · exact (listingSafe_iff large).mpr ⟨nOffset, inside.toFormatInside⟩
    · intro accepted
      obtain ⟨found, data⟩ := chain accepted
      exact data.safe header (by omega) (by omega)
    · intro accepted
      obtain ⟨found, data⟩ := chain accepted
      exact data.safe header (by omega) (by omega)

/-! ## The bytes that decide -/

/-- A block with nothing around it. -/
def blockView (block : Bytes) : View := fun i => block i.toNat

variable {other : View}

/-- A chain inside the block is there in every memory that holds the block. -/
theorem ChunkInside.same (same : SameBlock szWave other nSize) (identifier : 4 ≤ extent)
    (chain : ChunkInside szWave nSize chunkID extent nOffset found) :
    ChunkInside other nSize chunkID extent nOffset found := by
  induction chain with
  | here id inside =>
    rw [u32At_same same (by omega)] at id
    exact .here id inside
  | @next nOffset found apart inside _ ih =>
    have next : nextOffset szWave nOffset = nextOffset other nOffset := by
      simp only [nextOffset, u32At_same same (show Within nSize (nOffset + 4) 4 by omega)]
    rw [u32At_same same (by omega)] at apart
    rw [next] at ih
    exact .next apart inside ih

/-- So are the parts of a format chunk that the queries ask for. -/
theorem FormatInside.same (same : SameBlock szWave other nSize)
    (inside : FormatInside szWave nSize nOffset) : FormatInside other nSize nOffset := by
  have low := inside.chain.last.2
  refine ⟨inside.chain.same same (by decide), fun behind fields => inside.bits behind ?_⟩
  unfold SupportedStereo at fields ⊢
  rwa [u32At_same same (by omega), u16At_same same (by omega)]

/-- So is the outcome of the header check. -/
theorem FormatPasses.same (same : SameBlock szWave other nSize)
    (inside : FormatInside szWave nSize nOffset) :
    FormatPasses szWave nOffset ↔ FormatPasses other nOffset := by
  have low := inside.chain.last.2
  have fields : SupportedStereo szWave nOffset ↔ SupportedStereo other nOffset := by
    unfold SupportedStereo
    rw [u32At_same same (by omega), u16At_same same (by omega)]
  unfold FormatPasses
  rw [← fields]
  refine and_congr_right fun behind => and_congr_right fun supported => ?_
  have high := inside.bits behind supported
  rw [u16At_same same (by omega)]

/-- So is a header inside the block. -/
theorem HeaderInside.same (same : SameBlock szWave other nSize)
    (inside : HeaderInside szWave nSize nOffset) : HeaderInside other nSize nOffset := by
  refine ⟨inside.toFormatInside.same same, fun passes => ?_⟩
  obtain ⟨found, data⟩ :=
    inside.data ((FormatPasses.same same inside.toFormatInside).mpr passes)
  exact ⟨found, data.same same (by decide)⟩

/-! ## Longer blocks -/

variable {short long : Int}

/-- A chain of chunks inside a block lies inside every longer one. -/
theorem ChunkInside.longer (more : short ≤ long)
    (chain : ChunkInside szWave short chunkID extent nOffset found) :
    ChunkInside szWave long chunkID extent nOffset found := by
  induction chain with
  | here same inside => exact .here same ⟨inside.1, Int.le_trans inside.2 more⟩
  | next apart whole _ ih => exact .next apart ⟨whole.1, Int.le_trans whole.2 more⟩ ih

/-- A search that has stopped at its chunk stops there in every longer block too. -/
theorem chunkWalk_longer (more : short ≤ long) {fuel : Nat}
    (run : chunkWalk szWave short chunkID fuel nOffset = some found)
    (last : u32At szWave found = chunkID) :
    chunkWalk szWave long chunkID fuel nOffset = some found := by
  induction fuel generalizing nOffset with
  | zero => contradiction
  | succ fuel ih =>
    rw [chunkWalk] at run ⊢
    by_cases moves : u32At szWave nOffset ≠ chunkID ∧ nOffset < short
    · rw [if_pos moves] at run
      rw [if_pos ⟨moves.1, Int.lt_of_lt_of_le moves.2 more⟩]
      exact ih run
    · rw [if_neg moves] at run
      obtain rfl := Option.some.inj run
      rw [if_neg fun onward => onward.1 last]

/-- A chunk that is found in a block is found in every longer one. -/
theorem waveGetChunkOffset_longer (more : short ≤ long)
    (search : waveGetChunkOffset szWave short chunkID = some found) (behind : found ≠ 0) :
    waveGetChunkOffset szWave long chunkID = some found := by
  unfold waveGetChunkOffset at search ⊢
  split at search
  · rename_i header
    obtain ⟨stop, run, same⟩ := Option.map_eq_some_iff.mp search
    split at same
    · rename_i last
      rw [if_pos (Int.le_trans header more), chunkWalk_longer more run last, Option.map_some,
        if_pos last, same]
    · exact absurd same.symm behind
  · exact absurd (Option.some.inj search).symm behind

/-- The answer of the header check to a format chunk that passes. -/
theorem headerCheck_passes
    (offset : waveGetChunkOffset szWave short chunkFormat = some nOffset)
    (passes : FormatPasses szWave nOffset) :
    headerCheck szWave short = some (toInt32 (u32At szWave (nOffset + 12)), true) := by
  obtain ⟨behind, ⟨supported, stereo⟩, wide⟩ := passes
  rw [headerCheck_of (waveGetSampleRate_eq offset behind) (waveGetChannelNum_eq offset behind)
    (waveGetSampleBitNum_eq offset behind), supported, stereo, wide]
  rfl

/-- A header that is accepted by its own bytes is accepted in every longer block that begins with
them, with the same sample rate. -/
theorem headerCheck_longer {sampleRate : Int} (large : 24 ≤ short)
    (more : short ≤ long) (same : SameBlock szWave other short)
    (inside : FormatInside szWave short nOffset)
    (check : headerCheck szWave short = some (sampleRate, true)) :
    headerCheck other long = some (sampleRate, true) := by
  have header : sizeofWaveHeader ≤ short := by
    unfold sizeofWaveHeader
    omega
  have offset := inside.chain.waveGetChunkOffset header
  have passes := (headerCheck_iff offset).mp ⟨sampleRate, check⟩
  have rate := headerCheck_passes offset passes
  rw [check] at rate
  have low := inside.chain.last.2
  have offset' := ((inside.same same).chain.longer more).waveGetChunkOffset
    (Int.le_trans header more)
  have passes' := (FormatPasses.same same inside).mp passes
  rw [headerCheck_passes offset' passes', ← u32At_same same (by omega), ← rate]

/-! ## Searches that do not end -/

/-- A search that stays at one offset never ends. -/
theorem chunkWalk_stuck (moves : u32At szWave nOffset ≠ chunkID ∧ nOffset < nSize)
    (stuck : nextOffset szWave nOffset = nOffset) (fuel : Nat) :
    chunkWalk szWave nSize chunkID fuel nOffset = none := by
  induction fuel with
  | zero => rfl
  | succ fuel ih => rw [chunkWalk, if_pos moves, stuck, ih]

end SoundBoard.Wave
