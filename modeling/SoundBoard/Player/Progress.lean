import SoundBoard.Player.Fidelity

/-!
# Whether a song comes to its end

One song on a library whose reads succeed. A call of `waveplay_execute` plays the whole frames
of the buffer and reads on only when nothing is left in it, so one to three bytes that are left
before the end stay there and every later call plays nothing. Which songs leave such a rest
depends on where their chunk starts and how long it is (`EveryCallPlays`).
-/

namespace SoundBoard.Player

open SoundBoard.Lib SoundBoard.Fat SoundBoard.Wave

variable {σ : Type}

/-- Reads of a valid handle succeed and leave it valid. -/
def Readable (api : FileApi σ) (Valid : σ → Nat → Prop) : Prop :=
  ∀ (files : σ) (hFile : Nat) (szBuf : Bytes) (size : Nat), Valid files hFile →
    ∃ szBuf' files', api.fatFileRead files hFile szBuf size = .ok (true, szBuf', files') ∧
      Valid files' hFile

/-- `waveplay_start` has succeeded: from `p` it has led to `q`, with the samples at `o` and
their size `d`. -/
structure StartedAt (api : FileApi σ) (garbage : Garbage) (k : Nat) (p q : Globals σ)
    (o d : Nat) : Prop where
  succeeds : ∃ out, waveplayStart api garbage k p = .ok out ∧ out.ok = true ∧ out.player = q
  header : ∃ first offset size, waveplayOpen api garbage k p = .ok first ∧
    Prepared garbage k first.player offset size q ∧ o = toU32 offset ∧ d = toU32 size

/-- `n` calls of `waveplay_execute` for one song, none of which begins it again. Between two of
them the other songs may move the library and the rest of the table, as long as this song and
its handle are left alone. -/
inductive Proceeds (api : FileApi σ) (Valid : σ → Nat → Prop) (k : Nat) (p : Globals σ) :
    Nat → Globals σ → Prop where
  | start : Proceeds api Valid k p 0 p
  | others {n : Nat} {q r : Globals σ} : Proceeds api Valid k p n q →
      r.gWavePlay k = q.gWavePlay k → Valid r.files (r.gWavePlay k).hFile →
      Proceeds api Valid k p n r
  | call {n : Nat} {q : Globals σ} {garbage : Garbage} {out : Outcome σ} :
      Proceeds api Valid k p n q → ¬atEnd (q.gWavePlay k) →
      waveplayExecute api garbage k q = .ok out → Proceeds api Valid k p (n + 1) out.player

/-- What a call pushes: at least one frame, and the play position moves by four bytes for each
of them. -/
def Pushes (k : Nat) (q : Globals σ) (out : Outcome σ) : Prop :=
  frames out.events ≠ [] ∧
    (out.player.gWavePlay k).uWavePlayPos =
      (q.gWavePlay k).uWavePlayPos + 4 * (frames out.events).length

/-- A song makes progress: every call before its end returns and pushes, and there are no more
than a fixed number of them. -/
structure Progresses (api : FileApi σ) (Valid : σ → Nat → Prop) (k : Nat) (p : Globals σ) :
    Prop where
  pushes : ∀ {n : Nat} {q : Globals σ}, Proceeds api Valid k p n q → ¬atEnd (q.gWavePlay k) →
    ∀ garbage, ∃ out, waveplayExecute api garbage k q = .ok out ∧ Pushes k q out
  ends : ∃ most, ∀ {n : Nat} {q : Globals σ}, Proceeds api Valid k p n q → n ≤ most

/-- The chunks `[o, o + d)` that leave no rest in the buffer: a chunk that has ended before it
starts, one whose frames lie on multiples of four, or one that ends with the whole frames of
the first block. -/
def EveryCallPlays (o d : Nat) : Prop :=
  (o + d) % 4294967296 ≤ o ∨ (o % 4 = 0 ∧ d % 4 = 0) ∨ (o < 512 ∧ d ≤ 4 * ((512 - o) / 4))

instance (o d : Nat) : Decidable (EveryCallPlays o d) := by
  unfold EveryCallPlays
  infer_instance

/-! ## Where a refill ends -/

/-- The read position after a refill. -/
def PlaywaveContext.readTo (context : PlaywaveContext) : Nat :=
  if context.uWavePlayPos < context.uWaveReadPos then context.uWaveReadPos
  else context.uWaveReadPos +
    ((context.uWavePlayPos - context.uWaveReadPos) / readSize context + 1) * readSize context

variable {context : PlaywaveContext} {api : FileApi σ} {Valid : σ → Nat → Prop}
  {garbage : Garbage} {k o d : Nat} {p q : Globals σ}

/-- Which bytes a refill reads does not matter for where it ends. -/
theorem refilled_readPos (context : PlaywaveContext) (file : Bytes) :
    (context.refilled file).uWaveReadPos = context.readTo := by
  unfold PlaywaveContext.refilled PlaywaveContext.readTo
  split <;> rfl

/-- Nor do the bytes in the buffer. -/
theorem readTo_read (szBuf : Bytes) (empty : context.uWaveReadPos ≤ context.uWavePlayPos)
    (some : 0 < readSize context) :
    ({ context with
        szBuf
        uWaveReadPos := context.uWaveReadPos + readSize context } : PlaywaveContext).readTo =
      context.readTo := by
  have same := congrArg PlaywaveContext.uWaveReadPos (refilled_read (fun _ => 0) empty some)
  rw [refilled_readPos, refilled_readPos] at same
  exact same

/-- A refill of a context with unplayed bytes ends where it is. -/
theorem readTo_ready (ready : context.uWavePlayPos < context.uWaveReadPos) :
    context.readTo = context.uWaveReadPos :=
  if_pos ready

/-- A refill of a context whose positions agree reads one block. -/
theorem readTo_empty (empty : context.uWaveReadPos = context.uWavePlayPos) :
    context.readTo = context.uWavePlayPos + readSize context := by
  simp only [PlaywaveContext.readTo, empty, Nat.lt_irrefl, ↓reduceIte, Nat.sub_self, Nat.zero_div,
    Nat.zero_add, Nat.one_mul]

/-- The refill of a call succeeds, and only the buffer and the read position of the song
change. -/
theorem refillLoop_readable (reads : Readable api Valid) (fuel : Nat) (events : List Event)
    (p : Globals σ) (valid : Valid p.files (p.gWavePlay k).hFile)
    (onward : (p.gWavePlay k).uWavePlayPos < (p.gWavePlay k).uWaveMaxPlayPos)
    (range : (p.gWavePlay k).uWaveMaxPlayPos < 4294967296)
    (enough : (p.gWavePlay k).uWavePlayPos + 1 - (p.gWavePlay k).uWaveReadPos < fuel) :
    ∃ out szBuf, refillLoop api k fuel events p = .ok out ∧ out.ok = true ∧
      frames out.events = frames events ∧
      out.player.gWavePlay k =
        { p.gWavePlay k with szBuf, uWaveReadPos := (p.gWavePlay k).readTo } ∧
      Valid out.player.files (p.gWavePlay k).hFile := by
  induction fuel generalizing events p with
  | zero => omega
  | succ fuel ih =>
    by_cases ready : (p.gWavePlay k).uWavePlayPos < (p.gWavePlay k).uWaveReadPos
    · refine ⟨_, (p.gWavePlay k).szBuf, refillLoop_ready fuel events ready, rfl, rfl, ?_, valid⟩
      rw [readTo_ready ready]
    · have empty := Nat.not_lt.mp ready
      obtain ⟨positive, _, _⟩ := readSize_bounds onward range
      obtain ⟨szBuf, files, read, next⟩ := reads p.files (p.gWavePlay k).hFile
        (p.gWavePlay k).szBuf (readSize (p.gWavePlay k)) valid
      rw [refillLoop_read fuel events empty read, toU32_readPos onward range empty]
      obtain ⟨out, szBuf', run, ok, silent, player, kept⟩ := ih
        (events ++ [.load (readSize (p.gWavePlay k)) szBuf])
        ({ p with files }.setSong k { p.gWavePlay k with
          szBuf
          uWaveReadPos := (p.gWavePlay k).uWaveReadPos + readSize (p.gWavePlay k) })
        (by simpa using next) (by simpa using onward) (by simpa using range)
        (by simp only [Globals.setSong_self]; omega)
      simp only [Globals.setSong_self] at player kept
      rw [readTo_read szBuf empty positive] at player
      refine ⟨out, szBuf', run, ok, ?_, player, kept⟩
      rw [silent, frames_append]
      exact List.append_nil _

/-- The positions between two calls: the read position is at most one buffer ahead, and all of
them are 32-bit words. -/
structure InStep (Valid : σ → Nat → Prop) (k : Nat) (p : Globals σ) : Prop where
  valid : Valid p.files (p.gWavePlay k).hFile
  near : (p.gWavePlay k).uWaveReadPos ≤ (p.gWavePlay k).uWavePlayPos + 512
  playRange : (p.gWavePlay k).uWavePlayPos < 4294967296
  readRange : (p.gWavePlay k).uWaveReadPos < 4294967296
  maxRange : (p.gWavePlay k).uWaveMaxPlayPos < 4294967296

/-- The number of whole frames that a call finds in the buffer. -/
def framesLeft (context : PlaywaveContext) : Nat := (context.readTo - context.uWavePlayPos) / 4

/-- What a call does: it plays the whole frames of the refilled buffer. -/
structure Played (k : Nat) (p : Globals σ) (out : Outcome σ) : Prop where
  count : (frames out.events).length = framesLeft (p.gWavePlay k)
  playPos : (out.player.gWavePlay k).uWavePlayPos =
    (p.gWavePlay k).uWavePlayPos + 4 * framesLeft (p.gWavePlay k)
  readPos : (out.player.gWavePlay k).uWaveReadPos = (p.gWavePlay k).readTo
  maxPlayPos : (out.player.gWavePlay k).uWaveMaxPlayPos = (p.gWavePlay k).uWaveMaxPlayPos

/-- Where the refill of a call ends. -/
theorem InStep.readTo (inStep : InStep Valid k p) (onward : ¬atEnd (p.gWavePlay k)) :
    (p.gWavePlay k).uWavePlayPos < (p.gWavePlay k).readTo ∧
      (p.gWavePlay k).readTo ≤ (p.gWavePlay k).uWavePlayPos + 512 ∧
      (p.gWavePlay k).readTo ≤
        max (p.gWavePlay k).uWaveReadPos (p.gWavePlay k).uWaveMaxPlayPos := by
  have position := refilled_position (fun _ => 0) (Nat.not_le.mp onward) inStep.maxRange inStep.near
  rwa [refilled_readPos] at position

/-- A call returns, plays the buffer and keeps the positions in step. -/
theorem waveplayExecute_played (reads : Readable api Valid) (song : k ≤ maxSongs)
    (garbage : Garbage) (inStep : InStep Valid k p) (onward : ¬atEnd (p.gWavePlay k)) :
    ∃ out, waveplayExecute api garbage k p = .ok out ∧ Played k p out ∧
      InStep Valid k out.player := by
  have position := inStep.readTo onward
  have readRange := inStep.readRange
  have maxRange := inStep.maxRange
  obtain ⟨refill, szBuf, run, ok, silent, player, valid⟩ := refillLoop_readable reads
    (refillFuel (p.gWavePlay k)) [] p inStep.valid (Nat.not_le.mp onward) maxRange
    (by simp only [refillFuel]; omega)
  have order : (refill.player.gWavePlay k).uWavePlayPos ≤
      (refill.player.gWavePlay k).uWaveReadPos := by
    rw [player]
    exact Nat.le_of_lt position.1
  have close : (refill.player.gWavePlay k).uWaveReadPos ≤
      (refill.player.gWavePlay k).uWavePlayPos + 512 := by
    rw [player]
    exact position.2.1
  have bounded : (refill.player.gWavePlay k).uWaveReadPos < 4294967296 := by
    rw [player]
    simp only
    omega
  rw [waveplayExecute_onward song onward, run]
  simp only [ok, ↓reduceIte]
  refine ⟨_, rfl, ⟨?_, ?_, ?_, ?_⟩, ⟨?_, ?_, ?_, ?_, ?_⟩⟩
  · rw [frames_append, silent, playBuffer_frames order close, player]
    simp only [frames, List.filterMap_nil, List.nil_append, List.length_map, List.length_range,
      framesLeft]
  · rw [playBuffer_player order close bounded, Globals.setSong_self, player]
    rfl
  · rw [playBuffer_player order close bounded, Globals.setSong_self, player]
  · rw [playBuffer_player order close bounded, Globals.setSong_self, player]
  · rw [playBuffer_player order close bounded, Globals.setSong_self, player]
    exact valid
  · rw [playBuffer_player order close bounded, Globals.setSong_self, player]
    simp only
    omega
  · rw [playBuffer_player order close bounded, Globals.setSong_self, player]
    simp only
    omega
  · rw [playBuffer_player order close bounded, Globals.setSong_self, player]
    simp only
    omega
  · rw [playBuffer_player order close bounded, Globals.setSong_self, player]
    exact maxRange

/-! ## Runs -/

/-- A property of the song, and of the number of calls, that every call keeps holds after
every run. -/
theorem Proceeds.invariant (holds : Nat → PlaywaveContext → Prop) (reads : Readable api Valid)
    (song : k ≤ maxSongs) (inStep : InStep Valid k p) (initial : holds 0 (p.gWavePlay k))
    (kept : ∀ n q out, InStep Valid k q → ¬atEnd (q.gWavePlay k) → Played k q out →
      holds n (q.gWavePlay k) → holds (n + 1) (out.player.gWavePlay k))
    {n : Nat} (run : Proceeds api Valid k p n q) :
    InStep Valid k q ∧ holds n (q.gWavePlay k) := by
  induction run with
  | start => exact ⟨inStep, initial⟩
  | others _ same valid ih =>
    obtain ⟨before, held⟩ := ih
    rw [same]
    constructor
    · constructor
      · exact valid
      · rw [same]
        exact before.near
      · rw [same]
        exact before.playRange
      · rw [same]
        exact before.readRange
      · rw [same]
        exact before.maxRange
    · exact held
  | @call n q garbage out _ onward call ih =>
    obtain ⟨before, held⟩ := ih
    obtain ⟨out', run, played, after⟩ := waveplayExecute_played reads song garbage before onward
    rw [call] at run
    obtain rfl := Except.ok.inj run
    exact ⟨after, kept n q out before onward played held⟩

/-- A song makes progress when some property that its calls keep leaves a whole frame in the
buffer before the end. Each call then moves the play position, which is a 32-bit word. -/
theorem progresses_of_invariant (holds : PlaywaveContext → Prop) (reads : Readable api Valid)
    (song : k ≤ maxSongs) (inStep : InStep Valid k p) (initial : holds (p.gWavePlay k))
    (plays : ∀ q, InStep Valid k q → ¬atEnd (q.gWavePlay k) → holds (q.gWavePlay k) →
      0 < framesLeft (q.gWavePlay k))
    (kept : ∀ q out, InStep Valid k q → ¬atEnd (q.gWavePlay k) → Played k q out →
      holds (q.gWavePlay k) → holds (out.player.gWavePlay k)) :
    Progresses api Valid k p := by
  have always {n : Nat} {q : Globals σ} (run : Proceeds api Valid k p n q) :
      InStep Valid k q ∧ holds (q.gWavePlay k) ∧ n ≤ (q.gWavePlay k).uWavePlayPos := by
    refine run.invariant (fun n context => holds context ∧ n ≤ context.uWavePlayPos) reads song
      inStep ⟨initial, Nat.zero_le _⟩ fun n q out before onward played held => ?_
    have moves := plays q before onward held.1
    have position := played.playPos
    exact ⟨kept q out before onward played held.1, by omega⟩
  constructor
  · intro n q run onward garbage
    obtain ⟨before, held, _⟩ := always run
    obtain ⟨out, call, played, _⟩ := waveplayExecute_played reads song garbage before onward
    have moves := plays q before onward held
    refine ⟨out, call, ?_, ?_⟩
    · apply List.ne_nil_of_length_pos
      rwa [played.count]
    · rw [played.count]
      exact played.playPos
  · refine ⟨4294967296, fun run => ?_⟩
    obtain ⟨before, _, count⟩ := always run
    have range := before.playRange
    omega

/-- A song makes no progress when some property keeps it from its end: the calls go on for
ever. -/
theorem not_progresses_of_invariant (holds : PlaywaveContext → Prop)
    (reads : Readable api Valid) (song : k ≤ maxSongs) (inStep : InStep Valid k p)
    (initial : holds (p.gWavePlay k))
    (onward : ∀ context, holds context → ¬atEnd context)
    (kept : ∀ q out, InStep Valid k q → ¬atEnd (q.gWavePlay k) → Played k q out →
      holds (q.gWavePlay k) → holds (out.player.gWavePlay k)) :
    ¬Progresses api Valid k p := by
  intro progresses
  obtain ⟨most, bound⟩ := progresses.ends
  have endless (n : Nat) :
      ∃ q, Proceeds api Valid k p n q ∧ InStep Valid k q ∧ holds (q.gWavePlay k) := by
    induction n with
    | zero => exact ⟨p, .start, inStep, initial⟩
    | succ n ih =>
      obtain ⟨q, run, before, held⟩ := ih
      have running := onward _ held
      obtain ⟨out, call, played, after⟩ := waveplayExecute_played reads song .zero before running
      exact ⟨out.player, .call run running call, after, kept q out before running played held⟩
  obtain ⟨q, run, _⟩ := endless (most + 1)
  have count := bound run
  omega

/-! ## Which chunks leave a rest -/

/-- All positions are multiples of four. -/
structure Aligned (context : PlaywaveContext) : Prop where
  playPos : context.uWavePlayPos % 4 = 0
  readPos : context.uWaveReadPos % 4 = 0
  maxPlayPos : context.uWaveMaxPlayPos % 4 = 0

/-- The refill of an aligned song ends on a multiple of four. -/
theorem Aligned.readTo (aligned : Aligned context)
    (onward : context.uWavePlayPos < context.uWaveMaxPlayPos)
    (range : context.uWaveMaxPlayPos < 4294967296) : context.readTo % 4 = 0 := by
  have playPos := aligned.playPos
  have readPos := aligned.readPos
  have maxPlayPos := aligned.maxPlayPos
  by_cases ready : context.uWavePlayPos < context.uWaveReadPos
  · rw [readTo_ready ready]
    exact readPos
  · have size := readSize_eq onward range
    have whole : readSize context % 4 = 0 := by omega
    unfold PlaywaveContext.readTo
    rw [if_neg ready, Nat.add_mod, Nat.mul_mod, readPos, whole]
    simp only [Nat.mul_zero, Nat.zero_mod, Nat.add_zero]

/-- A song whose frames lie on multiples of four makes progress. -/
theorem Aligned.progresses (aligned : Aligned (p.gWavePlay k)) (reads : Readable api Valid)
    (song : k ≤ maxSongs) (inStep : InStep Valid k p) : Progresses api Valid k p := by
  refine progresses_of_invariant Aligned reads song inStep aligned ?_ ?_
  · intro q before onward aligned
    have position := before.readTo onward
    have whole := aligned.readTo (Nat.not_le.mp onward) before.maxRange
    have playPos := aligned.playPos
    unfold framesLeft
    omega
  · intro q out before onward played aligned
    have position := before.readTo onward
    have whole := aligned.readTo (Nat.not_le.mp onward) before.maxRange
    have playPos := aligned.playPos
    constructor
    · rw [played.playPos]
      omega
    · rw [played.readPos]
      exact whole
    · rw [played.maxPlayPos]
      exact aligned.maxPlayPos

/-- A rest of one to three bytes that lies before the end, in the buffer or behind the blocks
that are still to be read. -/
structure LeavesRest (context : PlaywaveContext) : Prop where
  onward : ¬atEnd context
  rest : (context.readTo - context.uWavePlayPos) % 4 ≠ 0 ∧
      context.uWavePlayPos + 4 * framesLeft context < context.uWaveMaxPlayPos ∨
    (context.readTo - context.uWavePlayPos) % 4 = 0 ∧
      context.readTo < context.uWaveMaxPlayPos ∧
      (context.uWaveMaxPlayPos - context.readTo) % 4 ≠ 0

/-- A call leaves the rest where it is. -/
theorem LeavesRest.kept {out : Outcome σ} (leaves : LeavesRest (p.gWavePlay k))
    (inStep : InStep Valid k p) (played : Played k p out) :
    LeavesRest (out.player.gWavePlay k) := by
  have position := inStep.readTo leaves.onward
  have maxRange := inStep.maxRange
  have playPos := played.playPos
  have readPos := played.readPos
  have maxPlayPos := played.maxPlayPos
  have rest := leaves.rest
  unfold framesLeft at rest playPos
  rcases rest with ⟨part, before⟩ | ⟨whole, behind, part⟩
  · -- the rest is in the buffer, and the next refill finds it there
    have ready : (out.player.gWavePlay k).readTo = (out.player.gWavePlay k).uWaveReadPos :=
      readTo_ready (by omega)
    constructor
    · unfold atEnd
      omega
    · unfold framesLeft
      exact .inl ⟨by omega, by omega⟩
  · -- the buffer is empty, and one more block is read
    have next : (out.player.gWavePlay k).readTo =
        (out.player.gWavePlay k).uWavePlayPos + readSize (out.player.gWavePlay k) :=
      readTo_empty (by omega)
    have size : readSize (out.player.gWavePlay k) = min 512
        ((out.player.gWavePlay k).uWaveMaxPlayPos - (out.player.gWavePlay k).uWavePlayPos) :=
      readSize_eq (by omega) (by omega)
    constructor
    · unfold atEnd
      omega
    · unfold framesLeft
      by_cases last : (p.gWavePlay k).uWaveMaxPlayPos < (p.gWavePlay k).readTo + 512
      · exact .inl ⟨by omega, by omega⟩
      · exact .inr ⟨by omega, by omega, by omega⟩

/-- A song that leaves a rest before its end makes no progress. -/
theorem LeavesRest.not_progresses (leaves : LeavesRest (p.gWavePlay k))
    (reads : Readable api Valid) (song : k ≤ maxSongs) (inStep : InStep Valid k p) :
    ¬Progresses api Valid k p :=
  not_progresses_of_invariant LeavesRest reads song inStep leaves
    (fun _ leaves => leaves.onward) fun _ _ before _ played leaves => leaves.kept before played

/-! ## After a start -/

/-- The positions that a start leaves behind. -/
structure StartPositions (o d : Nat) (context : PlaywaveContext) : Prop where
  playPos : context.uWavePlayPos = o
  readPos : context.uWaveReadPos = 512
  maxPlayPos : context.uWaveMaxPlayPos = (o + d) % 4294967296
  range : o < 4294967296
  size : d < 4294967296

/-- Every successful start has found samples somewhere, of some size. -/
theorem startedAt_of_ok {out : Outcome σ} (run : waveplayStart api garbage k p = .ok out)
    (success : out.ok = true) : ∃ o d, StartedAt api garbage k p out.player o d := by
  obtain ⟨_, first, opened, _, offset, size, prepared⟩ := waveplayStart_true run success
  exact ⟨_, _, ⟨out, run, success, rfl⟩, first, offset, size, opened, prepared, rfl, rfl⟩

/-- The positions after a successful start. -/
theorem StartedAt.positions (started : StartedAt api garbage k p q o d) :
    k ≤ maxSongs ∧ StartPositions o d (q.gWavePlay k) := by
  obtain ⟨out, run, success, _⟩ := started.succeeds
  obtain ⟨first, offset, size, _, prepared, rfl, rfl⟩ := started.header
  refine ⟨(waveplayStart_true run success).1, ?_⟩
  rw [prepared.player, Globals.setSong_self]
  constructor
  · rfl
  · rfl
  · have word := toU32_lt offset
    simp only [PlaywaveContext.prepared, toU32_add, toU32_natCast]
    omega
  · exact toU32_lt _
  · exact toU32_lt _

/-- The positions after a start are in step. -/
theorem StartPositions.inStep (start : StartPositions o d (p.gWavePlay k))
    (valid : Valid p.files (p.gWavePlay k).hFile) : InStep Valid k p := by
  have playPos := start.playPos
  have readPos := start.readPos
  have maxPlayPos := start.maxPlayPos
  have range := start.range
  exact ⟨valid, by omega, by omega, by omega, by omega⟩

/-- A chunk without a rest makes progress. -/
theorem StartPositions.progresses (start : StartPositions o d (p.gWavePlay k))
    (reads : Readable api Valid) (song : k ≤ maxSongs)
    (valid : Valid p.files (p.gWavePlay k).hFile) (plays : EveryCallPlays o d) :
    Progresses api Valid k p := by
  have inStep := start.inStep valid
  have playPos := start.playPos
  have readPos := start.readPos
  have maxPlayPos := start.maxPlayPos
  rcases plays with ended | ⟨offset, size⟩ | ⟨first, short⟩
  · refine progresses_of_invariant atEnd reads song inStep ?_ ?_ ?_
    · unfold atEnd
      omega
    · intro q _ onward ended
      exact absurd ended onward
    · intro q out _ onward _ ended
      exact absurd ended onward
  · have aligned : Aligned (p.gWavePlay k) := ⟨by omega, by omega, by omega⟩
    exact aligned.progresses reads song inStep
  · -- one call plays the first block, and the song has ended
    refine progresses_of_invariant (fun context => StartPositions o d context ∨ atEnd context)
      reads song inStep (.inl start) ?_ ?_
    · rintro q before onward (start | ended)
      · have playPos := start.playPos
        have readPos := start.readPos
        have maxPlayPos := start.maxPlayPos
        have ready : (q.gWavePlay k).readTo = (q.gWavePlay k).uWaveReadPos :=
          readTo_ready (by omega)
        unfold atEnd at onward
        unfold framesLeft
        omega
      · exact absurd ended onward
    · rintro q out before onward played (start | ended)
      · have playPos := start.playPos
        have readPos := start.readPos
        have maxPlayPos := start.maxPlayPos
        have ready : (q.gWavePlay k).readTo = (q.gWavePlay k).uWaveReadPos :=
          readTo_ready (by omega)
        have played_ := played.playPos
        have same := played.maxPlayPos
        unfold framesLeft at played_
        unfold atEnd at *
        exact .inr (by omega)
      · exact absurd ended onward

/-- A rest is left when the first refill leaves frames that do not come to the end, and a part of
a frame if the size is a multiple of four. -/
theorem leavesRest_of_left {left : Nat} (playPos : context.uWavePlayPos = o)
    (maxPlayPos : context.uWaveMaxPlayPos = o + d) (reach : context.readTo = o + left)
    (short : 4 * (left / 4) < d) (part : d % 4 = 0 → left % 4 ≠ 0) : LeavesRest context := by
  have bytes : context.readTo - context.uWavePlayPos = left := by omega
  constructor
  · unfold atEnd
    omega
  · unfold framesLeft
    rw [bytes, reach, playPos, maxPlayPos]
    by_cases whole : left % 4 = 0
    · have rest : d % 4 ≠ 0 := fun four => part four whole
      exact .inr ⟨whole, by omega, by omega⟩
    · exact .inl ⟨whole, by omega⟩

/-- Every other chunk leaves a rest. Behind the first block, the first refill ends at a multiple
of the read size. -/
theorem StartPositions.leavesRest (start : StartPositions o d context)
    (rest : ¬EveryCallPlays o d) : LeavesRest context := by
  have playPos := start.playPos
  have readPos := start.readPos
  have range := start.range
  have size := start.size
  simp only [EveryCallPlays, not_or] at rest
  obtain ⟨onward, part, short⟩ := rest
  have maxPlayPos : context.uWaveMaxPlayPos = o + d := by
    rw [start.maxPlayPos]
    omega
  by_cases first : o < 512
  · have reach : context.readTo = o + (512 - o) := by
      rw [readTo_ready (by omega), readPos]
      omega
    exact leavesRest_of_left playPos maxPlayPos reach (by omega) (by omega)
  · have some : 0 < min 512 d := by omega
    have read : readSize context = min 512 d := by
      rw [readSize_eq (by omega) (by omega), playPos, maxPlayPos, Nat.add_sub_cancel_left]
    have bound := Nat.mod_lt (o - 512) some
    have reach : context.readTo = o + (min 512 d - (o - 512) % min 512 d) := by
      have whole := Nat.div_add_mod' (o - 512) (min 512 d)
      unfold PlaywaveContext.readTo
      rw [if_neg (by omega), read, readPos, playPos, Nat.add_mul, Nat.one_mul]
      omega
    -- the read size is a multiple of four with the size, and the rest is that of the offset
    have odd (four : d % 4 = 0) : (min 512 d - (o - 512) % min 512 d) % 4 ≠ 0 := by
      have sizeFour : min 512 d % 4 = 0 := by omega
      have offset := Nat.mod_mod_of_dvd (o - 512) (Nat.dvd_of_mod_eq_zero sizeFour)
      omega
    have least : min 512 d ≤ d := Nat.min_le_right 512 d
    refine leavesRest_of_left playPos maxPlayPos reach ?_ odd
    by_cases four : d % 4 = 0
    · have part := odd four
      omega
    · omega

/-- A started song whose reads succeed makes progress exactly when its chunk leaves no rest. -/
theorem progresses_iff (reads : Readable api Valid) (started : StartedAt api garbage k p q o d)
    (valid : Valid q.files (q.gWavePlay k).hFile) :
    Progresses api Valid k q ↔ EveryCallPlays o d := by
  obtain ⟨song, start⟩ := started.positions
  constructor
  · intro progresses
    refine Classical.byContradiction fun rest => ?_
    exact (start.leavesRest rest).not_progresses reads song (start.inStep valid) progresses
  · intro plays
    exact start.progresses reads song valid plays

/-! ## A format chunk of 18 bytes -/

/-- The first block of a 16-bit stereo file at 44100 Hz with a format chunk of 18 bytes, which
puts its 468 bytes of samples, 117 whole frames, at offset 46. -/
def wideBlock : Bytes := fun i =>
  ([0x52, 0x49, 0x46, 0x46, 0xFA, 1, 0, 0, 0x57, 0x41, 0x56, 0x45,
    0x66, 0x6D, 0x74, 0x20, 18, 0, 0, 0, 1, 0, 2, 0, 0x44, 0xAC, 0, 0, 0x10, 0xB1, 2, 0, 4, 0, 16, 0, 0, 0,
    0x64, 0x61, 0x74, 0x61, 0xD4, 1, 0, 0] : List UInt8).getD i 0

/-- A file in memory can be read from every position. -/
theorem memoryApi_readable (file : Bytes) : Readable (memoryApi file) (fun _ _ => True) :=
  fun _ _ _ _ _ => ⟨_, _, rfl, trivial⟩

/-- The header with the wide format chunk is accepted. -/
theorem accepts_wide : Accepts (fun _ => .cleared) .zero 0 wideBlock 46 468 where
  format := ⟨44100, by decide +kernel⟩
  offset := by decide +kernel
  size := by decide +kernel

/-- A song in memory with an accepted header starts. -/
theorem startedAt_memory {file : Bytes} {o d : Nat}
    (accepts : Accepts (fun _ => .cleared) .zero 0 file o d) :
    ∃ q, StartedAt (memoryApi file) .zero 0 beforeStart q o d := by
  have opens : Opens (memoryApi file) (fun files _ pos => files = pos) 0 beforeStart :=
    ⟨1, 0, by decide, rfl, rfl⟩
  obtain ⟨out, run, success, atStart, _⟩ := waveplayStart_spec (memoryApi_delivers file) opens
    (by decide) accepts fun _ _ => rfl
  obtain ⟨o', d', started⟩ := startedAt_of_ok run success
  obtain ⟨_, start⟩ := started.positions
  have offset : o' = o := start.playPos.symm.trans atStart.playPos
  have ending := start.maxPlayPos.symm.trans atStart.maxPlayPos
  have size := start.size
  have range := accepts.range
  have same : d' = d := by omega
  rw [offset, same] at started
  exact ⟨_, started⟩

/-- Its first call plays 116 frames, and two bytes are left for ever. -/
theorem not_progresses_wide :
    ∃ q, StartedAt (memoryApi wideBlock) .zero 0 beforeStart q 46 468 ∧
      Readable (memoryApi wideBlock) (fun _ _ => True) ∧
      ¬Progresses (memoryApi wideBlock) (fun _ _ => True) 0 q := by
  obtain ⟨q, started⟩ := startedAt_memory accepts_wide
  obtain ⟨song, start⟩ := started.positions
  refine ⟨q, started, memoryApi_readable wideBlock, ?_⟩
  exact (start.leavesRest (by decide)).not_progresses (memoryApi_readable wideBlock) song
    (start.inStep trivial)

/-- The exact condition, at that song, and at one with 1024 bytes of samples, which meets it. -/
theorem progresses_iff_wide :
    (∃ q, StartedAt (memoryApi wideBlock) .zero 0 beforeStart q 46 468 ∧
      (Progresses (memoryApi wideBlock) (fun _ _ => True) 0 q ↔ EveryCallPlays 46 468)) ∧
    ∃ q, StartedAt (memoryApi stereoFile) .zero 0 beforeStart q 44 1024 ∧
      Progresses (memoryApi stereoFile) (fun _ _ => True) 0 q := by
  obtain ⟨wide, started⟩ := startedAt_memory accepts_wide
  obtain ⟨stereo, starts⟩ := startedAt_memory accepts_stereo
  exact ⟨⟨wide, started, progresses_iff (memoryApi_readable wideBlock) started trivial⟩,
    stereo, starts, (progresses_iff (memoryApi_readable stereoFile) starts trivial).mpr (by decide)⟩

end SoundBoard.Player
