import SoundBoard.Player.Steps

/-!
# What a song sounds like

One song on a library that delivers its file byte by byte. The frames that the calls between
two starts hand to the DAC are compared with the data chunk `[o, o + d)` of the file. Three
positions have to stay in step: the play position, the read position, and the index into the
block buffer, which is the play position modulo the buffer's size. The comparison comes down
to where the chunk starts relative to the first block and how long it is (`PlaysExactly`).
-/

namespace SoundBoard.Player

open SoundBoard.Lib SoundBoard.Fat SoundBoard.Wave

variable {σ : Type}

/-! ## The frames of a file -/

/-- The frame at an offset of a file. -/
def fileFrame (file : Bytes) (offset : Nat) : Frame :=
  ⟨word16 (file offset) (file (offset + 1)), word16 (file (offset + 2)) (file (offset + 3))⟩

/-- Consecutive frames of a file. -/
def fileFrames (file : Bytes) (start count : Nat) : List Frame :=
  (List.range count).map fun i => fileFrame file (start + 4 * i)

@[simp] theorem fileFrames_length (file : Bytes) (start count : Nat) :
    (fileFrames file start count).length = count := by
  simp [fileFrames]

/-- Frames continue where the ones before them end. -/
theorem fileFrames_append (file : Bytes) (start first second : Nat) :
    fileFrames file start first ++ fileFrames file (start + 4 * first) second =
      fileFrames file start (first + second) := by
  simp only [fileFrames, List.range_add, List.map_append, List.map_map]
  congr 1
  refine List.map_congr_left fun i _ => ?_
  simp only [Function.comp_apply, Nat.mul_add, Nat.add_assoc]

/-- Fewer frames are a prefix of more. -/
theorem fileFrames_initial (file : Bytes) (start : Nat) {first second : Nat}
    (order : first ≤ second) : fileFrames file start first <+: fileFrames file start second := by
  obtain ⟨rest, rfl⟩ := Nat.exists_eq_add_of_le order
  exact ⟨_, fileFrames_append file start first rest⟩

/-! ## A library that delivers a file -/

/-- Every read of an open handle copies the next bytes of the file. `At` says which position
a handle has reached in a state of the library. -/
structure Delivers (api : FileApi σ) (file : Bytes) (At : σ → Nat → Nat → Prop) : Prop where
  read : ∀ {files : σ} {hFile pos : Nat} (szBuf : Bytes) (size : Nat), At files hFile pos →
    size ≤ waveBufSize → ∃ files',
      api.fatFileRead files hFile szBuf size = .ok (true, copyAt szBuf 0 (drop file pos) size, files') ∧
        At files' hFile (pos + size)

/-- Opening the name of a song gives a handle at the start of the file. -/
def Opens (api : FileApi σ) (At : σ → Nat → Nat → Prop) (k : Nat) (p : Globals σ) : Prop :=
  ∃ hFile files, hFile ≠ 0 ∧ At files hFile 0 ∧
    api.fatFileOpen p.files p.hFat (p.gWavePlay k).szFilename = .ok (hFile, files)

/-- A context after a refill: the read position has moved by whole reads to the first one
behind the play position, and the last read is in the buffer. -/
def PlaywaveContext.refilled (context : PlaywaveContext) (file : Bytes) : PlaywaveContext :=
  if context.uWavePlayPos < context.uWaveReadPos then context
  else
    let size := readSize context
    let readPos := context.uWaveReadPos +
      ((context.uWavePlayPos - context.uWaveReadPos) / size + 1) * size
    { context with
      szBuf := copyAt context.szBuf 0 (drop file (readPos - size)) size
      uWaveReadPos := readPos }

/-- A context after a call: refilled, and played up to the last whole frame. -/
def PlaywaveContext.advanced (context : PlaywaveContext) (file : Bytes) : PlaywaveContext :=
  { context.refilled file with
    uWavePlayPos := context.uWavePlayPos +
      4 * (((context.refilled file).uWaveReadPos - context.uWavePlayPos) / 4) }

variable {context : PlaywaveContext} {file : Bytes}

/-- A refill of a context with unplayed bytes is no change. -/
theorem refilled_ready (ready : context.uWavePlayPos < context.uWaveReadPos) :
    context.refilled file = context := by
  simp only [PlaywaveContext.refilled, ready, ↓reduceIte]

/-- One read does not change where a refill ends. -/
theorem refilled_read (file : Bytes)
    (empty : context.uWaveReadPos ≤ context.uWavePlayPos)
    (some : 0 < readSize context) :
    ({ context with
        szBuf := copyAt context.szBuf 0 (drop file context.uWaveReadPos) (readSize context)
        uWaveReadPos := context.uWaveReadPos + readSize context } :
      PlaywaveContext).refilled file = context.refilled file := by
  obtain ⟨gap, word⟩ := Nat.exists_eq_add_of_le empty
  by_cases last : gap < readSize context
  · have none : gap / readSize context = 0 := Nat.div_eq_of_lt last
    rw [refilled_ready (by simp only [word]; omega)]
    simp only [PlaywaveContext.refilled, word, Nat.not_lt.mpr (Nat.le_add_right _ _), ↓reduceIte,
      Nat.add_sub_cancel_left, none, Nat.zero_add, Nat.one_mul, Nat.add_sub_cancel]
  · obtain ⟨rest, whole⟩ := Nat.exists_eq_add_of_le (Nat.not_lt.mp last)
    have steps : gap / readSize context = rest / readSize context + 1 := by
      rw [whole, Nat.add_comm, Nat.add_div_right _ some]
    have size : readSize { context with
        szBuf := copyAt context.szBuf 0 (drop file context.uWaveReadPos) (readSize context)
        uWaveReadPos := context.uWaveReadPos + readSize context } = readSize context := rfl
    simp only [PlaywaveContext.refilled, size]
    rw [if_neg (by omega), if_neg (by omega)]
    have left : context.uWavePlayPos - (context.uWaveReadPos + readSize context) = rest := by
      omega
    have right : context.uWavePlayPos - context.uWaveReadPos = gap := by omega
    have reach : context.uWaveReadPos + readSize context +
        (rest / readSize context + 1) * readSize context =
        context.uWaveReadPos + (gap / readSize context + 1) * readSize context := by
      rw [steps]
      ring
    simp only [left, right, reach, copyAt_over]

@[simp] theorem refilled_playPos : (context.refilled file).uWavePlayPos = context.uWavePlayPos := by
  simp only [PlaywaveContext.refilled]
  split <;> rfl

@[simp] theorem refilled_maxPlayPos :
    (context.refilled file).uWaveMaxPlayPos = context.uWaveMaxPlayPos := by
  simp only [PlaywaveContext.refilled]
  split <;> rfl

@[simp] theorem refilled_hFile : (context.refilled file).hFile = context.hFile := by
  simp only [PlaywaveContext.refilled]
  split <;> rfl

/-- The read position after a refill lies behind the play position, by no more than one buffer,
and behind the end of the song only if it was there before. -/
theorem refilled_position (file : Bytes)
    (onward : context.uWavePlayPos < context.uWaveMaxPlayPos)
    (range : context.uWaveMaxPlayPos < 4294967296)
    (near : context.uWaveReadPos ≤ context.uWavePlayPos + 512) :
    context.uWavePlayPos < (context.refilled file).uWaveReadPos ∧
      (context.refilled file).uWaveReadPos ≤ context.uWavePlayPos + 512 ∧
      (context.refilled file).uWaveReadPos ≤
        max context.uWaveReadPos context.uWaveMaxPlayPos := by
  by_cases ready : context.uWavePlayPos < context.uWaveReadPos
  · rw [refilled_ready ready]
    exact ⟨ready, near, Nat.le_max_left _ _⟩
  · obtain ⟨positive, small, inside⟩ := readSize_bounds onward range
    have rest := Nat.div_add_mod' (context.uWavePlayPos - context.uWaveReadPos) (readSize context)
    have bound := Nat.mod_lt (context.uWavePlayPos - context.uWaveReadPos) positive
    simp only [PlaywaveContext.refilled, ready, ↓reduceIte, Nat.add_mul, Nat.one_mul]
    omega

variable {api : FileApi σ} {At : σ → Nat → Nat → Prop} {garbage : Garbage} {k : Nat}

/-- The refill of a call ends, and leaves the context that `refilled` describes. The induction
is on the passes; every pass but the last moves the read position. -/
theorem refillLoop_spec (delivers : Delivers api file At) (fuel : Nat) (events : List Event)
    (p : Globals σ)
    (reached : At p.files (p.gWavePlay k).hFile (p.gWavePlay k).uWaveReadPos)
    (onward : (p.gWavePlay k).uWavePlayPos < (p.gWavePlay k).uWaveMaxPlayPos)
    (range : (p.gWavePlay k).uWaveMaxPlayPos < 4294967296)
    (enough : (p.gWavePlay k).uWavePlayPos + 1 - (p.gWavePlay k).uWaveReadPos < fuel) :
    ∃ out, refillLoop api k fuel events p = .ok out ∧ out.ok = true ∧
      frames out.events = frames events ∧
      out.player.gWavePlay k = (p.gWavePlay k).refilled file ∧
      At out.player.files (p.gWavePlay k).hFile
        ((p.gWavePlay k).refilled file).uWaveReadPos := by
  induction fuel generalizing events p with
  | zero => omega
  | succ fuel ih =>
    by_cases ready : (p.gWavePlay k).uWavePlayPos < (p.gWavePlay k).uWaveReadPos
    · refine ⟨_, refillLoop_ready fuel events ready, rfl, rfl, ?_⟩
      rw [refilled_ready ready]
      exact ⟨rfl, reached⟩
    · have empty := Nat.not_lt.mp ready
      obtain ⟨positive, small, _⟩ := readSize_bounds onward range
      obtain ⟨files, read, next⟩ := delivers.read (p.gWavePlay k).szBuf
        (readSize (p.gWavePlay k)) reached small
      rw [refillLoop_read fuel events empty read, toU32_readPos onward range empty]
      obtain ⟨out, run, ok, played, player, at_⟩ := ih
        (events ++ [.load (readSize (p.gWavePlay k))
          (copyAt (p.gWavePlay k).szBuf 0 (drop file (p.gWavePlay k).uWaveReadPos)
            (readSize (p.gWavePlay k)))])
        ({ p with files }.setSong k { p.gWavePlay k with
          szBuf := copyAt (p.gWavePlay k).szBuf 0 (drop file (p.gWavePlay k).uWaveReadPos)
            (readSize (p.gWavePlay k))
          uWaveReadPos := (p.gWavePlay k).uWaveReadPos + readSize (p.gWavePlay k) })
        (by simpa using next) (by simpa using onward) (by simpa using range)
        (by simp only [Globals.setSong_self]; omega)
      have same := refilled_read file empty positive
      simp only [Globals.setSong_self] at player at_
      rw [same] at player at_
      refine ⟨out, run, ok, ?_, player, at_⟩
      rw [played, frames_append]
      exact List.append_nil _

/-- A call that does not begin the song again succeeds: it refills the buffer, plays it, and
leaves the context that `advanced` describes. -/
theorem waveplayExecute_spec (delivers : Delivers api file At) (song : k ≤ maxSongs)
    (garbage : Garbage) (p : Globals σ) (reached : At p.files (p.gWavePlay k).hFile (p.gWavePlay k).uWaveReadPos)
    (onward : (p.gWavePlay k).uWavePlayPos < (p.gWavePlay k).uWaveMaxPlayPos)
    (range : max (p.gWavePlay k).uWaveReadPos (p.gWavePlay k).uWaveMaxPlayPos < 4294967296)
    (near : (p.gWavePlay k).uWaveReadPos ≤ (p.gWavePlay k).uWavePlayPos + 512) :
    ∃ out view, waveplayExecute api garbage k p = .ok out ∧
      (∀ i : Nat, i < 512 → view (i : Int) = ((p.gWavePlay k).refilled file).szBuf i) ∧
      frames out.events =
        (List.range ((((p.gWavePlay k).refilled file).uWaveReadPos -
          (p.gWavePlay k).uWavePlayPos) / 4)).map
          (fun i => frameAt view (((p.gWavePlay k).uWavePlayPos % waveBufSize + 4 * i : Nat) : Int)) ∧
      out.player.gWavePlay k = (p.gWavePlay k).advanced file ∧
      At out.player.files (p.gWavePlay k).hFile
        ((p.gWavePlay k).refilled file).uWaveReadPos := by
  obtain ⟨refill, run, ok, silent, player, at_⟩ := refillLoop_spec delivers
    (refillFuel (p.gWavePlay k)) [] p reached onward (by omega)
    (by simp only [refillFuel]; omega)
  have position := refilled_position file onward (by omega) near
  have order : (refill.player.gWavePlay k).uWavePlayPos ≤
      (refill.player.gWavePlay k).uWaveReadPos := by
    rw [player, refilled_playPos]
    omega
  have close : (refill.player.gWavePlay k).uWaveReadPos ≤
      (refill.player.gWavePlay k).uWavePlayPos + 512 := by
    rw [player, refilled_playPos]
    exact position.2.1
  have bounded : (refill.player.gWavePlay k).uWaveReadPos < 4294967296 := by
    rw [player]
    omega
  rw [waveplayExecute_onward song (Nat.not_le.mpr onward), run]
  simp only [ok, ↓reduceIte]
  refine ⟨_, bufView refill.player.gWavePlay garbage k, rfl, fun i inside => ?_, ?_, ?_, ?_⟩
  · rw [bufView_inside _ _ song (by omega) (by omega), player, Int.toNat_natCast]
  · rw [frames_append, silent, playBuffer_frames order close, player, refilled_playPos]
    rfl
  · rw [playBuffer_player order close bounded, Globals.setSong_self, player, refilled_playPos]
    rfl
  · rw [playBuffer_player order close bounded]
    exact at_

/-! ## The invariant of playing -/

/-- A refilled context plays right: either no whole frame is left in it, now and for ever, or
the bytes between its two positions lie in the buffer at the index where playing looks for
them, do not pass the end of the song, and leave positions from which the next refill is
right. -/
def PlaysRight (file : Bytes) (context : PlaywaveContext) : Prop :=
  context.uWaveReadPos - context.uWavePlayPos < 4 ∨
    (context.uWavePlayPos % 512 + (context.uWaveReadPos - context.uWavePlayPos) ≤ 512 ∧
      context.uWavePlayPos + 4 * ((context.uWaveReadPos - context.uWavePlayPos) / 4) ≤
        context.uWaveMaxPlayPos ∧
      (∀ x, context.uWavePlayPos ≤ x → x < context.uWaveReadPos →
        context.szBuf (x % 512) = file x) ∧
      ((context.uWaveReadPos - context.uWavePlayPos) % 4 ≠ 0 ∨ context.uWaveReadPos % 512 = 0 ∨
        context.uWaveMaxPlayPos ≤ context.uWaveReadPos + 3))

/-- A refill of a context whose two positions agree reads one block. -/
theorem refilled_empty (file : Bytes)
    (empty : context.uWaveReadPos = context.uWavePlayPos) :
    context.refilled file = { context with
      szBuf := copyAt context.szBuf 0 (drop file context.uWavePlayPos) (readSize context)
      uWaveReadPos := context.uWavePlayPos + readSize context } := by
  simp only [PlaywaveContext.refilled, empty, Nat.lt_irrefl, ↓reduceIte, Nat.sub_self,
    Nat.zero_div, Nat.zero_add, Nat.one_mul, Nat.add_sub_cancel]

/-- Playing right goes on: after a call the song has ended, or the next refill plays right. -/
theorem advanced_playsRight (onward : context.uWavePlayPos < context.uWaveMaxPlayPos)
    (range : context.uWaveMaxPlayPos < 4294967296)
    (near : context.uWaveReadPos ≤ context.uWavePlayPos + 512)
    (right : PlaysRight file (context.refilled file)) :
    (context.advanced file).uWaveMaxPlayPos ≤ (context.advanced file).uWavePlayPos ∨
      PlaysRight file ((context.advanced file).refilled file) := by
  have position := refilled_position file onward range near
  have maxPlayPos : (context.advanced file).uWaveMaxPlayPos = context.uWaveMaxPlayPos :=
    refilled_maxPlayPos
  obtain ⟨readPos, reads⟩ : ∃ readPos, (context.refilled file).uWaveReadPos = readPos := ⟨_, rfl⟩
  have readPos' : (context.advanced file).uWaveReadPos = readPos := reads
  have playPos : (context.advanced file).uWavePlayPos =
      context.uWavePlayPos + 4 * ((readPos - context.uWavePlayPos) / 4) := by
    simp only [PlaywaveContext.advanced, reads]
  rw [reads] at position
  by_cases whole : (readPos - context.uWavePlayPos) % 4 = 0
  · -- everything is played, so the positions agree
    have agree : (context.advanced file).uWaveReadPos = (context.advanced file).uWavePlayPos := by
      omega
    rcases right with short | ⟨_, _, _, next⟩
    · rw [reads, refilled_playPos] at short
      omega
    · simp only [reads, refilled_playPos, refilled_maxPlayPos, whole, ne_eq, not_true_eq_false,
        false_or] at next
      by_cases ended :
          (context.advanced file).uWaveMaxPlayPos ≤ (context.advanced file).uWavePlayPos
      · exact .inl ended
      · have size := readSize_eq (Nat.not_le.mp ended) (by omega)
        rw [refilled_empty file agree]
        refine .inr ?_
        simp only [PlaysRight, Nat.add_sub_cancel_left]
        by_cases tail : readSize (context.advanced file) < 4
        · exact .inl tail
        · refine .inr ⟨by omega, by omega, fun x low high => ?_, by omega⟩
          rw [copyAt_inside _ _ _ _ _ (by omega) (by omega), drop_apply]
          congr 1
          omega
  · rw [refilled_ready (by omega)]
    exact .inr (.inl (by omega))

/-- When the bytes between the two positions lie in the buffer where playing looks for them, it
hands over the frames of the file at the play position. -/
theorem window_frames {view : View}
    (inside : context.uWavePlayPos % 512 + (context.uWaveReadPos - context.uWavePlayPos) ≤ 512)
    (content : ∀ x, context.uWavePlayPos ≤ x → x < context.uWaveReadPos →
      context.szBuf (x % 512) = file x)
    (sees : ∀ i : Nat, i < 512 → view (i : Int) = context.szBuf i) :
    (List.range ((context.uWaveReadPos - context.uWavePlayPos) / 4)).map
        (fun i => frameAt view ((context.uWavePlayPos % waveBufSize + 4 * i : Nat) : Int)) =
      fileFrames file context.uWavePlayPos
        ((context.uWaveReadPos - context.uWavePlayPos) / 4) := by
  refine List.map_congr_left fun i bound => ?_
  have bound := List.mem_range.mp bound
  have byte (j : Nat) (part : j < 4) :
      view ((context.uWavePlayPos % 512 + 4 * i + j : Nat) : Int) =
        file (context.uWavePlayPos + 4 * i + j) := by
    rw [sees _ (by omega), ← content _ (by omega) (by omega)]
    congr 1
    omega
  simp only [frameAt, u16At, fileFrame, waveBufSize]
  congr 2
  · exact byte 0 (by omega)
  · exact byte 1 (by omega)
  · exact byte 2 (by omega)
  · rw [show ((context.uWavePlayPos % 512 + 4 * i : Nat) : Int) + 2 + 1 =
      ((context.uWavePlayPos % 512 + 4 * i + 3 : Nat) : Int) by omega]
    exact byte 3 (by omega)

/-- Playing right hands over the frames of the file at the play position. -/
theorem PlaysRight.frames {view : View} (right : PlaysRight file context)
    (sees : ∀ i : Nat, i < 512 → view (i : Int) = context.szBuf i) :
    (List.range ((context.uWaveReadPos - context.uWavePlayPos) / 4)).map
        (fun i => frameAt view ((context.uWavePlayPos % waveBufSize + 4 * i : Nat) : Int)) =
      fileFrames file context.uWavePlayPos
        ((context.uWaveReadPos - context.uWavePlayPos) / 4) := by
  rcases right with short | ⟨inside, _, content, _⟩
  · rw [Nat.div_eq_of_lt short]
    rfl
  · exact window_frames inside content sees

/-- What holds between two calls that play the chunk `[o, o + d)` of a file: the frames so far
are its first `count` ones. -/
structure Tracks (file : Bytes) (At : σ → Nat → Nat → Prop) (k o d : Nat)
    (events : List Event) (q : Globals σ) (count : Nat) : Prop where
  reached : At q.files (q.gWavePlay k).hFile (q.gWavePlay k).uWaveReadPos
  maxPlayPos : (q.gWavePlay k).uWaveMaxPlayPos = (o + d) % 4294967296
  playPos : (q.gWavePlay k).uWavePlayPos = o + 4 * count
  near : (q.gWavePlay k).uWaveReadPos ≤ (q.gWavePlay k).uWavePlayPos + 512
  range : (q.gWavePlay k).uWaveReadPos < 4294967296
  inside : 4 * count ≤ d
  heard : frames events = fileFrames file o count
  ended : atEnd (q.gWavePlay k) → d < 4 * count + 4
  right : ¬atEnd (q.gWavePlay k) → PlaysRight file ((q.gWavePlay k).refilled file)

/-- A call keeps track of the chunk. -/
theorem Tracks.step {o d count : Nat} {events : List Event} {q : Globals σ}
    (delivers : Delivers api file At) (song : k ≤ maxSongs) (size : d < 4294967296)
    (tracks : Tracks file At k o d events q count) (onward : ¬atEnd (q.gWavePlay k)) :
    ∃ out count', waveplayExecute api garbage k q = .ok out ∧
      Tracks file At k o d (events ++ out.events) out.player count' := by
  have before : (q.gWavePlay k).uWavePlayPos < (q.gWavePlay k).uWaveMaxPlayPos :=
    Nat.not_le.mp onward
  have maxPlayPos := tracks.maxPlayPos
  have playPos := tracks.playPos
  have inside := tracks.inside
  have readRange := tracks.range
  have range : (q.gWavePlay k).uWaveMaxPlayPos < 4294967296 := by omega
  have right := tracks.right onward
  obtain ⟨out, view, run, sees, played, player, reached⟩ := waveplayExecute_spec
    delivers song garbage q tracks.reached before (by omega) tracks.near
  have position := refilled_position file before range tracks.near
  have next := advanced_playsRight before range tracks.near right
  have heard := right.frames sees
  rw [refilled_playPos] at heard
  have fits : (q.gWavePlay k).uWavePlayPos +
      4 * ((((q.gWavePlay k).refilled file).uWaveReadPos - (q.gWavePlay k).uWavePlayPos) / 4) ≤
      (q.gWavePlay k).uWaveMaxPlayPos := by
    rcases right with short | ⟨_, fits, _, _⟩
    · rw [refilled_playPos] at short
      omega
    · rwa [refilled_playPos, refilled_maxPlayPos] at fits
  have handle : ((q.gWavePlay k).advanced file).hFile = (q.gWavePlay k).hFile := refilled_hFile
  have maxPlayPos' : ((q.gWavePlay k).advanced file).uWaveMaxPlayPos =
      (q.gWavePlay k).uWaveMaxPlayPos := refilled_maxPlayPos
  have readPos' : ((q.gWavePlay k).advanced file).uWaveReadPos =
      ((q.gWavePlay k).refilled file).uWaveReadPos := rfl
  have playPos' : ((q.gWavePlay k).advanced file).uWavePlayPos = (q.gWavePlay k).uWavePlayPos +
      4 * ((((q.gWavePlay k).refilled file).uWaveReadPos -
        (q.gWavePlay k).uWavePlayPos) / 4) := rfl
  refine ⟨out, count + (((q.gWavePlay k).refilled file).uWaveReadPos -
    (q.gWavePlay k).uWavePlayPos) / 4, run, ?_, ?_, ?_, ?_, ?_, ?_, ?_, ?_, ?_⟩
  · rw [player, handle, readPos']
    exact reached
  · rw [player, maxPlayPos', maxPlayPos]
  · rw [player, playPos', playPos]
    omega
  · rw [player, readPos', playPos']
    omega
  · rw [player, readPos']
    omega
  · omega
  · rw [frames_append, tracks.heard, played, heard, playPos, fileFrames_append]
  · intro ended
    simp only [player, atEnd, maxPlayPos', playPos'] at ended
    omega
  · intro running
    simp only [player, atEnd] at running
    rw [player]
    exact next.resolve_left running

/-! ## Which chunks play right -/

/-- A short chunk that begins `e` bytes behind the first block. Its bytes are read in blocks of
its own size `d`, and the first block that reaches the play position has it at offset
`e % d`. -/
def EarlyBlock (e d : Nat) : Prop :=
  d - e % d < 4 ∨
    (e % 512 = e % d ∧ ((d - e % d) % 4 ≠ 0 ∨ e % d < 4 ∨ (e / d + 1) * d % 512 = 0))

/-- The chunks `[o, o + d)` that play right. The end is a 32-bit word; a chunk that starts in
the first block must not end before the last whole frame of that block. -/
def PlaysExactly (o d : Nat) : Prop :=
  if (o + d) % 4294967296 ≤ o then d < 4
  else if o < 512 then (512 - o) / 4 ≤ d / 4
  else 512 ≤ d ∨ EarlyBlock (o - 512) d

instance (e d : Nat) : Decidable (EarlyBlock e d) := by
  unfold EarlyBlock
  infer_instance

instance (o d : Nat) : Decidable (PlaysExactly o d) := by
  unfold PlaysExactly
  infer_instance

/-- A context as a successful start leaves it. -/
structure AtStart (file : Bytes) (o d : Nat) (context : PlaywaveContext) : Prop where
  playPos : context.uWavePlayPos = o
  readPos : context.uWaveReadPos = 512
  maxPlayPos : context.uWaveMaxPlayPos = (o + d) % 4294967296
  szBuf : ∀ i, i < 512 → context.szBuf i = file i

variable {o d : Nat}

/-- The first refill of a chunk that begins behind the first block. -/
theorem AtStart.refilled (start : AtStart file o d context) (behind : 512 ≤ o)
    (onward : ¬(o + d) % 4294967296 ≤ o) (range : o < 4294967296) (size : d < 4294967296) :
    context.refilled file = { context with
      szBuf := copyAt context.szBuf 0
        (drop file (512 + (o - 512) / min 512 d * min 512 d)) (min 512 d)
      uWaveReadPos := 512 + ((o - 512) / min 512 d + 1) * min 512 d } := by
  have read : readSize context = min 512 d := by
    rw [readSize_eq (by rw [start.playPos, start.maxPlayPos]; omega)
      (by rw [start.maxPlayPos]; omega), start.playPos, start.maxPlayPos]
    omega
  simp only [PlaywaveContext.refilled, start.playPos, start.readPos, Nat.not_lt.mpr behind,
    ↓reduceIte, read, Nat.add_mul, Nat.one_mul, ← Nat.add_assoc, Nat.add_sub_cancel]

/-- A chunk that plays exactly starts right. -/
theorem AtStart.playsRight (start : AtStart file o d context) (exact_ : PlaysExactly o d)
    (onward : ¬(o + d) % 4294967296 ≤ o) (range : o < 4294967296) (size : d < 4294967296) :
    PlaysRight file (context.refilled file) := by
  have playPos := start.playPos
  have readPos := start.readPos
  have maxPlayPos := start.maxPlayPos
  simp only [PlaysExactly, onward, ↓reduceIte] at exact_
  by_cases first : o < 512
  · rw [if_pos first] at exact_
    rw [refilled_ready (by omega)]
    refine .inr ⟨by omega, by omega, fun x low high => ?_, by omega⟩
    rw [Nat.mod_eq_of_lt (by omega), start.szBuf x (by omega)]
  · rw [if_neg first] at exact_
    have rest := Nat.div_add_mod' (o - 512) (min 512 d)
    have bound := Nat.mod_lt (o - 512) (show 0 < min 512 d by omega)
    rw [start.refilled (by omega) onward range size]
    simp only [PlaysRight, playPos, maxPlayPos, Nat.add_mul, Nat.one_mul]
    have block (offset : (o - 512) % 512 = (o - 512) % min 512 d) :
        ∀ x, o ≤ x → x < 512 + ((o - 512) / min 512 d * min 512 d + min 512 d) →
          copyAt context.szBuf 0 (drop file (512 + (o - 512) / min 512 d * min 512 d))
            (min 512 d) (x % 512) = file x := by
      intro x low high
      have index : x % 512 = x - (512 + (o - 512) / min 512 d * min 512 d) := by omega
      rw [index, copyAt_inside _ _ _ _ _ (by omega) (by omega), drop_apply]
      exact congrArg file (by omega)
    by_cases long : 512 ≤ d
    · have whole : min 512 d = 512 := by omega
      rw [whole] at rest bound block ⊢
      refine .inr ⟨?_, ?_, block rfl, .inr (.inl ?_)⟩ <;> omega
    · have short : min 512 d = d := by omega
      rw [short] at rest bound block ⊢
      simp only [EarlyBlock, Nat.add_mul, Nat.one_mul] at exact_
      rcases exact_ with long' | tiny | ⟨offset, next⟩
      · exact absurd long' long
      · exact .inl (by omega)
      · refine .inr ⟨by omega, by omega, block offset, ?_⟩
        rcases next with odd | tail | aligned
        · exact .inl (by omega)
        · exact .inr (.inr (by omega))
        · exact .inr (.inl (by omega))

/-- What the calls after a start owe to a chunk of the file: each of them returns, the frames
so far are an initial part of the chunk's, and all of them have been heard when the song
begins again. -/
structure Faithful (api : FileApi σ) (k : Nat) (file : Bytes) (o d : Nat) (q : Globals σ) :
    Prop where
  returns : ∀ {garbage : Nat → Garbage} {n : Nat} {events : List Event} {q' : Globals σ},
    Plays api garbage k q n events q' → ¬atEnd (q'.gWavePlay k) →
      ∃ out, waveplayExecute api (garbage n) k q' = .ok out
  heard : ∀ {garbage : Nat → Garbage} {n : Nat} {events : List Event} {q' : Globals σ},
    Plays api garbage k q n events q' → frames events <+: fileFrames file o (d / 4)
  complete : ∀ {garbage : Nat → Garbage} {n : Nat} {events : List Event} {q' : Globals σ},
    Plays api garbage k q n events q' → atEnd (q'.gWavePlay k) →
      frames events = fileFrames file o (d / 4)

/-- Every run after a start keeps track of a chunk that plays exactly. -/
theorem AtStart.tracks {q : Globals σ} (delivers : Delivers api file At) (song : k ≤ maxSongs)
    (start : AtStart file o d (q.gWavePlay k)) (reached : At q.files (q.gWavePlay k).hFile 512)
    (range : o < 4294967296) (size : d < 4294967296) (exact_ : PlaysExactly o d)
    {garbage : Nat → Garbage} {n : Nat} {events : List Event} {q' : Globals σ}
    (run : Plays api garbage k q n events q') :
    ∃ count, Tracks file At k o d events q' count := by
  refine run.invariant (fun events q => ∃ count, Tracks file At k o d events q count)
    ⟨0, ?_⟩ ?_
  · have playPos := start.playPos
    have readPos := start.readPos
    have maxPlayPos := start.maxPlayPos
    refine ⟨by rwa [readPos], maxPlayPos, by omega, by omega, by omega, by omega, rfl, ?_, ?_⟩
    · intro ended
      simp only [atEnd, playPos, maxPlayPos] at ended
      simpa [PlaysExactly, ended] using exact_
    · intro running
      simp only [atEnd, playPos, maxPlayPos] at running
      exact start.playsRight exact_ running range size
  · rintro n events q out ⟨count, tracks⟩ onward call
    obtain ⟨out', count', run, next⟩ := tracks.step delivers song size onward
    rw [call] at run
    obtain rfl := Except.ok.inj run
    exact ⟨count', next⟩

/-- A chunk that plays exactly is heard faithfully. -/
theorem AtStart.faithful {q : Globals σ} (delivers : Delivers api file At) (song : k ≤ maxSongs)
    (start : AtStart file o d (q.gWavePlay k)) (reached : At q.files (q.gWavePlay k).hFile 512)
    (range : o < 4294967296) (size : d < 4294967296) (exact_ : PlaysExactly o d) :
    Faithful api k file o d q where
  returns run onward := by
    obtain ⟨count, tracks⟩ := start.tracks delivers song reached range size exact_ run
    obtain ⟨out, _, call, _⟩ := tracks.step delivers song size onward
    exact ⟨out, call⟩
  heard run := by
    obtain ⟨count, tracks⟩ := start.tracks delivers song reached range size exact_ run
    have inside := tracks.inside
    rw [tracks.heard]
    exact fileFrames_initial file o (by omega)
  complete run ended := by
    obtain ⟨count, tracks⟩ := start.tracks delivers song reached range size exact_ run
    have inside := tracks.inside
    have whole := tracks.ended ended
    rw [tracks.heard, show count = d / 4 by omega]

/-! ## A start on an accepted header -/

/-- The table with the first block of a file in a song's buffer. -/
def loadedTable (gWavePlay : Nat → PlaywaveContext) (k : Nat) (block : Bytes) :
    Nat → PlaywaveContext :=
  Function.update gWavePlay k
    { gWavePlay k with szBuf := copyAt (gWavePlay k).szBuf 0 block waveBufSize }

/-- `waveplay_start` accepts the first block of a file, and finds the samples at `o` and their
size `d`. The header queries may look outside the block, so this is a fact about the whole
table. -/
structure Accepts (gWavePlay : Nat → PlaywaveContext) (garbage : Garbage) (k : Nat)
    (block : Bytes) (o d : Nat) : Prop where
  format : ∃ sampleRate, headerCheck (bufView (loadedTable gWavePlay k block) garbage k)
    waveBufSize = some (sampleRate, true)
  offset : (waveGetWaveOffset (bufView (loadedTable gWavePlay k block) garbage k)
    waveBufSize).map toU32 = some o
  size : (waveGetDataByteSize (bufView (loadedTable gWavePlay k block) garbage k)
    waveBufSize).map toU32 = some d

/-- Offsets and sizes that the code has read are 32-bit words. -/
theorem Accepts.range {gWavePlay : Nat → PlaywaveContext} {block : Bytes}
    (accepted : Accepts gWavePlay garbage k block o d) : o < 4294967296 ∧ d < 4294967296 := by
  obtain ⟨offset, _, rfl⟩ := Option.map_eq_some_iff.mp accepted.offset
  obtain ⟨size, _, rfl⟩ := Option.map_eq_some_iff.mp accepted.size
  exact ⟨toU32_lt _, toU32_lt _⟩

/-- A start on an accepted header succeeds. -/
theorem waveplayStart_spec {block : Bytes} {p : Globals σ} (delivers : Delivers api file At)
    (opens : Opens api At k p) (song : k ≤ maxSongs)
    (accepted : Accepts p.gWavePlay garbage k block o d)
    (first : ∀ i, i < 512 → file i = block i) :
    ∃ out, waveplayStart api garbage k p = .ok out ∧ out.ok = true ∧
      AtStart file o d (out.player.gWavePlay k) ∧
      At out.player.files (out.player.gWavePlay k).hFile 512 := by
  obtain ⟨hFile, files, valid, atStart, opened⟩ := opens
  obtain ⟨files', read, reached⟩ := delivers.read (p.gWavePlay k).szBuf waveBufSize atStart
    (Nat.le_refl _)
  obtain ⟨sampleRate, format⟩ := accepted.format
  obtain ⟨offset, offsetRead, rfl⟩ := Option.map_eq_some_iff.mp accepted.offset
  obtain ⟨size, sizeRead, rfl⟩ := Option.map_eq_some_iff.mp accepted.size
  have whole : drop file 0 = file := by
    funext i
    simp
  have block' : copyAt (p.gWavePlay k).szBuf 0 file waveBufSize =
      copyAt (p.gWavePlay k).szBuf 0 block waveBufSize :=
    copyAt_congr _ _ _ _ _ first
  let context : PlaywaveContext :=
    { p.gWavePlay k with hFile, szBuf := copyAt (p.gWavePlay k).szBuf 0 file waveBufSize }
  have view : bufView (Function.update p.gWavePlay k context) garbage k =
      bufView (loadedTable p.gWavePlay k block) garbage k := by
    have buffer : context = { p.gWavePlay k with
        hFile, szBuf := copyAt (p.gWavePlay k).szBuf 0 block waveBufSize } := by
      rw [← block']
    rw [buffer]
    exact bufView_hFile p.gWavePlay garbage k hFile
      { p.gWavePlay k with szBuf := copyAt (p.gWavePlay k).szBuf 0 block waveBufSize }
  have prepare : waveplayOpen api garbage k p = .ok ⟨true, [.load waveBufSize context.szBuf],
      { p with files := files', gWavePlay := Function.update p.gWavePlay k context }⟩ := by
    simp only [waveplayOpen, opened, valid, ↓reduceIte, Globals.setSong_self, read, whole]
    simp only [Globals.setSong, Function.update_idem, context]
  rw [waveplayStart, if_pos song, prepare]
  simp only [↓reduceIte, waveplayPrepare, view, format, offsetRead, sizeRead]
  refine ⟨_, rfl, rfl, ?_, ?_⟩
  · simp only [Globals.setSong_self, Function.update_self]
    refine ⟨rfl, rfl, ?_, fun i inside => ?_⟩
    · have word := toU32_lt offset
      simp only [PlaywaveContext.prepared, toU32_add, toU32_natCast]
      omega
    · exact copyAt_inside _ _ _ _ _ (Nat.zero_le i) (by simpa [waveBufSize] using inside)
  · simpa [PlaywaveContext.prepared, context, waveBufSize] using reached

/-- A start on an accepted header is faithful to the file: whatever library delivers a file
with this first block, the calls after the start owe and keep the data chunk. -/
def PlayedFaithfully (gWavePlay : Nat → PlaywaveContext) (garbage : Garbage) (k : Nat)
    (block : Bytes) (o d : Nat) : Prop :=
  ∀ {σ : Type} (api : FileApi σ) (file : Bytes) (At : σ → Nat → Nat → Prop) (p : Globals σ)
    (out : Outcome σ), Delivers api file At → Opens api At k p → p.gWavePlay = gWavePlay →
    (∀ i, i < 512 → file i = block i) → waveplayStart api garbage k p = .ok out →
    out.ok = true → Faithful api k file o d out.player

/-! ## Chunks that do not play right -/

/-- A library that holds one file in memory; its state is the position of the only handle. -/
def memoryApi (file : Bytes) : FileApi Nat where
  fatFileBrowseBegin _ _ := .ok none
  fatFileBrowseNext pos handle context := .ok (false, handle, context, pos)
  fatFileOpen _ _ _ := .ok (1, 0)
  fatFileRead pos _ szBuf size := .ok (true, copyAt szBuf 0 (drop file pos) size, pos + size)
  fatFileClose pos _ := pos

/-- A file in memory is delivered. -/
theorem memoryApi_delivers (file : Bytes) :
    Delivers (memoryApi file) file (fun files _ pos => files = pos) where
  read szBuf size reached _ := ⟨_, by simp only [memoryApi, reached], rfl⟩

/-- The player before its only song is started. -/
def beforeStart : Globals Nat := ⟨0, 0, fun _ => .cleared, 0, fun _ => []⟩

/-- A file with a given first block that is zero behind it, but for one byte. That byte differs
from the zeros and from the byte of the first block at its offset modulo the buffer's size. -/
def markedFile (block : Bytes) (target : Nat) : Bytes := fun x =>
  if x < 512 then block x
  else if x = target then (if block (target % 512) = 1 then 2 else 1) else 0

/-- The marked byte is found nowhere else behind the first block. -/
theorem markedFile_zero (block : Bytes) {target x : Nat} (behind : 512 ≤ target)
    (late : 512 ≤ x) (apart : x ≠ target) :
    markedFile block target x ≠ markedFile block target target := by
  simp only [markedFile, Nat.not_lt.mpr behind, Nat.not_lt.mpr late, apart, ↓reduceIte]
  split <;> decide

/-- The marked byte is not the byte of the first block at its offset. -/
theorem markedFile_block (block : Bytes) {target : Nat} (behind : 512 ≤ target) :
    markedFile block target (target % 512) ≠ markedFile block target target := by
  have inside : target % 512 < 512 := Nat.mod_lt _ (by decide)
  simp only [markedFile, Nat.not_lt.mpr behind, inside, ↓reduceIte]
  by_cases one : block (target % 512) = 1
  · simp only [one, ↓reduceIte]
    decide
  · simp only [one, ↓reduceIte, ne_eq, not_false_eq_true]

/-- The first frame of a call that owes one starts with the byte of the file at the play
position, so that byte lies in the buffer at the play position modulo its size. -/
theorem Faithful.byte {q q' : Globals σ} {n : Nat} {events : List Event}
    {garbage : Nat → Garbage} (count : Nat) (faithful : Faithful api k file o d q)
    (delivers : Delivers api file At) (song : k ≤ maxSongs)
    (run : Plays api garbage k q n events q') (length : (frames events).length = count)
    (playPos : (q'.gWavePlay k).uWavePlayPos = o + 4 * count)
    (reached : At q'.files (q'.gWavePlay k).hFile (q'.gWavePlay k).uWaveReadPos)
    (onward : (q'.gWavePlay k).uWavePlayPos < (q'.gWavePlay k).uWaveMaxPlayPos)
    (range : max (q'.gWavePlay k).uWaveReadPos (q'.gWavePlay k).uWaveMaxPlayPos < 4294967296)
    (near : (q'.gWavePlay k).uWaveReadPos ≤ (q'.gWavePlay k).uWavePlayPos + 512)
    (some : (q'.gWavePlay k).uWavePlayPos + 4 ≤
      ((q'.gWavePlay k).refilled file).uWaveReadPos) :
    ((q'.gWavePlay k).refilled file).szBuf ((q'.gWavePlay k).uWavePlayPos % 512) =
      file (q'.gWavePlay k).uWavePlayPos := by
  obtain ⟨out, view, call, sees, played, _, _⟩ := waveplayExecute_spec delivers song (garbage n)
    q' reached onward range near
  have heard := faithful.heard (run.snoc (Nat.not_le.mpr onward) call)
  have inside := heard.length_le
  rw [frames_append, played] at heard inside
  simp only [List.length_append, length, List.length_map, List.length_range,
    fileFrames_length] at inside
  have frame := heard.getElem (i := count) (by
    simp only [List.length_append, length, List.length_map, List.length_range]
    omega)
  rw [List.getElem_append_right (by omega)] at frame
  simp only [length, Nat.sub_self, List.getElem_map, List.getElem_range, fileFrames, frameAt,
    fileFrame, Frame.mk.injEq, Nat.mul_zero, Nat.add_zero, waveBufSize] at frame
  have low := (word16_inj frame.1).1
  rw [← playPos] at low
  rw [← sees _ (Nat.mod_lt _ (by decide))]
  exact low

/-- The bytes that a chunk behind the first block has in the buffer after its first call, when
it is shorter than the buffer. -/
theorem AtStart.refilled_short (start : AtStart file o d context) (behind : 512 ≤ o)
    (onward : ¬(o + d) % 4294967296 ≤ o) (range : o < 4294967296) (short : d < 512) :
    (context.refilled file).uWaveReadPos = o + (d - (o - 512) % d) ∧
      (∀ i, i < d → (context.refilled file).szBuf i = file (o - (o - 512) % d + i)) ∧
      ∀ i, d ≤ i → i < 512 → (context.refilled file).szBuf i = file i := by
  have rest := Nat.div_add_mod' (o - 512) d
  have bound := Nat.mod_lt (o - 512) (show 0 < d by omega)
  have whole : min 512 d = d := by omega
  rw [start.refilled behind onward range (by omega), whole]
  simp only [Nat.add_mul, Nat.one_mul]
  refine ⟨by omega, fun i inside => ?_, fun i outside inside => ?_⟩
  · rw [copyAt_inside _ _ _ _ _ (Nat.zero_le i) (by omega), drop_apply]
    exact congrArg file (by omega)
  · rw [copyAt_outside _ _ _ _ _ (by omega), start.szBuf i inside]

/-- Where that call plays whole frames only, both positions end behind them, and the next read is
of the rest of the chunk. -/
theorem AtStart.advanced_short (start : AtStart file o d context) (behind : 512 ≤ o)
    (onward : ¬(o + d) % 4294967296 ≤ o) (range : o < 4294967296) (short : d < 512)
    (whole : (d - (o - 512) % d) % 4 = 0) (some : 4 ≤ (o - 512) % d) :
    (context.advanced file).uWavePlayPos = o + (d - (o - 512) % d) ∧
      (context.advanced file).uWaveReadPos = o + (d - (o - 512) % d) ∧
      (context.advanced file).uWaveMaxPlayPos = o + d ∧
      readSize (context.advanced file) = (o - 512) % d := by
  obtain ⟨reads, _⟩ := start.refilled_short behind onward range short
  have bound := Nat.mod_lt (o - 512) (show 0 < d by omega)
  have playPos : (context.advanced file).uWavePlayPos = o + (d - (o - 512) % d) := by
    simp only [PlaywaveContext.advanced, reads, start.playPos, Nat.add_sub_cancel_left]
    rw [Nat.mul_div_cancel' (Nat.dvd_of_mod_eq_zero whole)]
  have maxPlayPos : (context.advanced file).uWaveMaxPlayPos = o + d := by
    have ending : (o + d) % 4294967296 = o + d := by omega
    simp only [PlaywaveContext.advanced, refilled_maxPlayPos, start.maxPlayPos, ending]
  refine ⟨playPos, reads, maxPlayPos, ?_⟩
  rw [readSize_eq (by omega) (by omega), playPos, maxPlayPos]
  omega

/-- Where a chunk behind the first block is short and its first block of `d` bytes does not
lie at its own offset in the buffer, some file has a wrong first frame. -/
theorem not_faithful_shifted {q : Globals Nat} {block : Bytes} (song : k ≤ maxSongs)
    (start : AtStart (markedFile block o) o d (q.gWavePlay k)) (reached : q.files = 512)
    (behind : 512 ≤ o) (onward : ¬(o + d) % 4294967296 ≤ o) (range : o < 4294967296)
    (short : d < 512) (some : 4 ≤ d - (o - 512) % d) (shifted : (o - 512) % 512 ≠ (o - 512) % d) :
    ¬Faithful (memoryApi (markedFile block o)) k (markedFile block o) o d q := by
  intro faithful
  have playPos := start.playPos
  have readPos := start.readPos
  have maxPlayPos := start.maxPlayPos
  have bound := Nat.mod_le (o - 512) d
  obtain ⟨reads, fresh, old⟩ := start.refilled_short behind onward range short
  have none : Plays (memoryApi (markedFile block o)) (fun _ => .zero) k q 0 [] q :=
    .nil
  have byte := faithful.byte 0 (memoryApi_delivers _) song none rfl playPos
    (by rw [reached, readPos]) (by omega) (by omega) (by omega) (by omega)
  rw [playPos] at byte
  by_cases inside : o % 512 < d
  · rw [fresh _ inside] at byte
    exact markedFile_zero block behind (by omega) (by omega) byte
  · rw [old _ (by omega) (by omega)] at byte
    exact markedFile_block block behind byte

/-- Where such a chunk plays its first block right and then reads its last one to a play
position inside the buffer, some file has a wrong frame in the second call. -/
theorem not_faithful_tail {q : Globals Nat} {block : Bytes} (song : k ≤ maxSongs)
    (start : AtStart (markedFile block (o + (d - (o - 512) % d))) o d (q.gWavePlay k))
    (reached : q.files = 512) (behind : 512 ≤ o) (onward : ¬(o + d) % 4294967296 ≤ o)
    (range : o < 4294967296) (short : d < 512) (whole : (d - (o - 512) % d) % 4 = 0)
    (some : 4 ≤ (o - 512) % d) (inside : (o + (d - (o - 512) % d)) % 512 ≠ 0) :
    ¬Faithful (memoryApi (markedFile block (o + (d - (o - 512) % d)))) k
      (markedFile block (o + (d - (o - 512) % d))) o d q := by
  intro faithful
  have bound := Nat.mod_lt (o - 512) (show 0 < d by omega)
  have low := Nat.mod_le (o - 512) d
  obtain ⟨reads, fresh, old⟩ := start.refilled_short behind onward range short
  obtain ⟨playPos', readPos', maxPlayPos', size⟩ :=
    start.advanced_short behind onward range short whole some
  have playPos := start.playPos
  have readPos := start.readPos
  have maxPlayPos : (q.gWavePlay k).uWaveMaxPlayPos = o + d := by
    rw [start.maxPlayPos]
    omega
  have ending : o + d < 4294967296 := by omega
  clear onward start
  obtain ⟨target, target_eq⟩ : ∃ target, target = o + (d - (o - 512) % d) := ⟨_, rfl⟩
  rw [← target_eq] at inside faithful reads fresh old playPos' readPos' maxPlayPos' size
  obtain ⟨out, _, call, _, played, player, at_⟩ := waveplayExecute_spec
    (memoryApi_delivers (markedFile block target)) song Garbage.zero q
    (by rw [reached, readPos]) (by omega) (by omega) (by omega)
  have run : Plays (memoryApi (markedFile block target)) (fun _ => .zero) k q 1
      ([] ++ out.events) out.player := .snoc .nil (Nat.not_le.mpr (by omega)) call
  have length : (frames ([] ++ out.events)).length = (target - o) / 4 := by
    rw [List.nil_append, played, List.length_map, List.length_range, reads, playPos]
  have empty := refilled_empty (markedFile block target) (readPos'.trans playPos'.symm)
  have byte := faithful.byte _ (memoryApi_delivers _) song run length
    (by rw [player, playPos']; omega)
    (by rw [player, at_, readPos', reads])
    (by rw [player, playPos', maxPlayPos']; omega)
    (by rw [player, readPos', maxPlayPos']; omega)
    (by rw [player, playPos', readPos']; omega)
    (by rw [player, empty, playPos', size]; exact Nat.add_le_add_left some target)
  rw [player, empty, playPos', size] at byte
  simp only at byte
  have behind' : 512 ≤ target := by omega
  by_cases new : target % 512 < (o - 512) % d
  · rw [copyAt_inside _ _ _ _ _ (Nat.zero_le _) (by omega), drop_apply] at byte
    exact markedFile_zero block behind' (by omega) (by omega) byte
  · rw [copyAt_outside _ _ _ _ _ (by omega)] at byte
    have kept : ((q.gWavePlay k).advanced (markedFile block target)).szBuf =
        ((q.gWavePlay k).refilled (markedFile block target)).szBuf := rfl
    rw [kept] at byte
    by_cases inside' : target % 512 < d
    · rw [fresh _ inside'] at byte
      exact markedFile_zero block behind' (by omega) (by omega) byte
    · rw [old _ (Nat.not_lt.mp inside') (Nat.mod_lt _ (by decide))] at byte
      exact markedFile_block block behind' byte

/-- A chunk that plays faithfully plays exactly. -/
theorem PlayedFaithfully.playsExactly {gWavePlay : Nat → PlaywaveContext} {block : Bytes}
    (song : k ≤ maxSongs) (accepted : Accepts gWavePlay garbage k block o d)
    (faithful : PlayedFaithfully gWavePlay garbage k block o d) : PlaysExactly o d := by
  obtain ⟨range, size⟩ := accepted.range
  have started (target : Nat) (behind : 512 ≤ target) :
      ∃ q : Globals Nat, AtStart (markedFile block target) o d (q.gWavePlay k) ∧
        q.files = 512 ∧
        Faithful (memoryApi (markedFile block target)) k (markedFile block target) o d q := by
    have first : ∀ i, i < 512 → markedFile block target i = block i := fun i inside => by
      simp only [markedFile, inside, ↓reduceIte]
    have opens : Opens (memoryApi (markedFile block target)) (fun files _ pos => files = pos) k
        ⟨0, 0, gWavePlay, 0, fun _ => []⟩ := ⟨1, 0, by decide, rfl, rfl⟩
    obtain ⟨out, run, ok, start, reached⟩ := waveplayStart_spec
      (memoryApi_delivers (markedFile block target)) opens song accepted first
    exact ⟨out.player, start, reached,
      faithful _ _ _ _ out (memoryApi_delivers _) opens rfl first run ok⟩
  have none (target : Nat) (q : Globals Nat) : Plays (memoryApi (markedFile block target))
      (fun _ => .zero) k q 0 [] q := .nil
  by_cases onward : (o + d) % 4294967296 ≤ o
  · obtain ⟨q, start, _, faithful⟩ := started 512 (Nat.le_refl _)
    have heard := faithful.complete (none 512 q) (by
      rw [atEnd, start.maxPlayPos, start.playPos]
      exact onward)
    have count := congrArg List.length heard
    simp only [frames, List.filterMap_nil, List.length_nil, fileFrames_length] at count
    simp only [PlaysExactly, onward, ↓reduceIte]
    omega
  · simp only [PlaysExactly, onward, ↓reduceIte]
    by_cases first : o < 512
    · rw [if_pos first]
      obtain ⟨q, start, reached, faithful⟩ := started 512 (Nat.le_refl _)
      have playPos := start.playPos
      have readPos := start.readPos
      have maxPlayPos := start.maxPlayPos
      obtain ⟨out, _, call, _, played, _, _⟩ := waveplayExecute_spec
        (memoryApi_delivers (markedFile block 512)) song Garbage.zero q
        (by rw [reached, readPos]) (by omega) (by omega) (by omega)
      have heard := (faithful.heard ((none 512 q).snoc (Nat.not_le.mpr (by omega)) call)).length_le
      rw [List.nil_append, played, refilled_ready (by omega), playPos, readPos] at heard
      simpa using heard
    · rw [if_neg first]
      refine Classical.byContradiction fun wrong => ?_
      have low := Nat.mod_le (o - 512) d
      have rest := Nat.div_add_mod' (o - 512) d
      simp only [EarlyBlock, not_or, not_and_or, Nat.not_le, Nat.not_lt, not_not,
        Nat.add_mul, Nat.one_mul] at wrong
      obtain ⟨short, some, shifted | ⟨whole, tail, inside⟩⟩ := wrong
      · obtain ⟨q, start, reached, faithful⟩ := started o (by omega)
        exact not_faithful_shifted song start reached (by omega) onward range short some shifted
          faithful
      · obtain ⟨q, start, reached, faithful⟩ := started (o + (d - (o - 512) % d)) (by omega)
        exact not_faithful_tail song start reached (by omega) onward range short whole tail
          (by omega) faithful

/-- A start on an accepted header plays faithfully exactly when its chunk plays exactly. -/
theorem playedFaithfully_iff {gWavePlay : Nat → PlaywaveContext} {block : Bytes}
    (song : k ≤ maxSongs) (accepted : Accepts gWavePlay garbage k block o d) :
    PlayedFaithfully gWavePlay garbage k block o d ↔ PlaysExactly o d := by
  refine ⟨fun faithful => faithful.playsExactly song accepted, fun exact_ => ?_⟩
  intro σ api file At p out delivers opens table first run ok
  obtain ⟨range, size⟩ := accepted.range
  rw [← table] at accepted
  obtain ⟨out', run', _, start, reached⟩ := waveplayStart_spec delivers opens song accepted first
  rw [run] at run'
  obtain rfl := Except.ok.inj run'
  exact start.faithful delivers song reached range size exact_

/-- The first block of a 16-bit stereo file at 44100 Hz with `size` bytes of samples, as a
44-byte header and silence. -/
def stereoBlock (size : UInt8) : Bytes := fun i =>
  (stereoHeader [36 + size, 0, 0, 0] [size, 0, 0, 0]).getD i 0

/-- The header of a file with one frame is accepted. -/
theorem accepts_oneFrame :
    Accepts (fun _ => .cleared) .zero 0 (stereoBlock 4) 44 4 where
  format := ⟨44100, by decide +kernel⟩
  offset := by decide +kernel
  size := by decide +kernel

/-- A file with one frame plays 117 of them. -/
theorem not_playedFaithfully_oneFrame :
    Accepts (fun _ => .cleared) .zero 0 (stereoBlock 4) 44 4 ∧
      ¬PlayedFaithfully (fun _ => .cleared) .zero 0 (stereoBlock 4) 44 4 :=
  ⟨accepts_oneFrame, fun faithful =>
    absurd (faithful.playsExactly (by decide) accepts_oneFrame) (by decide)⟩

/-- The header of a file with 1024 bytes of samples is accepted. -/
theorem accepts_stereo : Accepts (fun _ => .cleared) .zero 0 stereoFile 44 1024 where
  format := ⟨44100, by decide +kernel⟩
  offset := by decide +kernel
  size := by decide +kernel

/-- The exact condition, at the file with one frame, and at one that meets it: files that begin with
this block are played as they should be. -/
theorem playedFaithfully_iff_stereo :
    (PlayedFaithfully (fun _ => .cleared) .zero 0 (stereoBlock 4) 44 4 ↔ PlaysExactly 44 4) ∧
      PlayedFaithfully (fun _ => .cleared) .zero 0 stereoFile 44 1024 :=
  ⟨playedFaithfully_iff (by decide) accepts_oneFrame,
    (playedFaithfully_iff (by decide) accepts_stereo).mpr (by decide)⟩

end SoundBoard.Player
