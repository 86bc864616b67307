import SoundBoard.Player.CardImage
import SoundBoard.Player.Fidelity

/-!
# Whose bytes are played

Where playing a song ends, compared with the size in the directory entry of its file. The end
of the samples is announced by the header alone, a block that has been loaded is played to its
end, and nothing keeps a read from passing the end of the file. `playEnd` is where the last
frame of a run ends.
-/

namespace SoundBoard.Player

open SoundBoard.Lib SoundBoard.Fat SoundBoard.Wave

/-- A frame of four bytes of a file of a given size. -/
def OwnFrame (content : Bytes) (size : Nat) (frame : Frame) : Prop :=
  ∃ x, x + 4 ≤ size ∧ frame = fileFrame content x

/-- Calls after a start of a song, up to its next start, among calls on other songs. The frames
are those of the song. -/
inductive PlaysAmong (k : Nat) (p : Globals Heap) : List Frame → Globals Heap → Prop where
  | nil : PlaysAmong k p [] p
  | own {played : List Frame} {q : Globals Heap} {garbage : Garbage} {out : Outcome Heap} :
      PlaysAmong k p played q → ¬atEnd (q.gWavePlay k) →
      waveplayExecute fatApi garbage k q = .ok out →
      PlaysAmong k p (played ++ frames out.events) out.player
  | other {played : List Frame} {q : Globals Heap} {call : Call} {out : Outcome Heap} :
      PlaysAmong k p played q → k ≠ call.songnummer → call.run q = .ok out →
      PlaysAmong k p played out.player

/-- Between two starts of a song, all its frames are frames of its file. -/
def PlaysOwnBytes (content : Bytes) (size k : Nat) (p : Globals Heap) : Prop :=
  ∀ garbage out, waveplayStart fatApi garbage k p = .ok out → out.ok = true →
    ∀ played q, PlaysAmong k out.player played q → ∀ frame ∈ played, OwnFrame content size frame

/-- The end of the block in which playing begins, at the earliest of the first block. -/
def blockEnd (o : Nat) : Nat := max 512 (512 * ((o + 511) / 512))

/-- Where the last frame of a run from `o` to `last` ends. The first block is played to its
end; frames that do not divide it stop the song there. -/
def playEnd (o last : Nat) : Nat :=
  if o % 4 = 0 ∧ blockEnd o < last then last - last % 4 else o + 4 * ((blockEnd o - o) / 4)

/-- The end of the block is the next one at or behind the position. -/
theorem blockEnd_bounds (o : Nat) : blockEnd o % 512 = 0 ∧ o ≤ blockEnd o ∧ 512 ≤ blockEnd o ∧
    (blockEnd o = 512 ∨ blockEnd o < o + 512) := by
  unfold blockEnd
  rcases Nat.le_total 512 (512 * ((o + 511) / 512)) with more | first
  · rw [Nat.max_eq_right more]
    omega
  · rw [Nat.max_eq_left first]
    omega

/-- The two cases of the end. -/
theorem playEnd_cases (o last : Nat) :
    (o % 4 = 0 ∧ blockEnd o < last ∧ playEnd o last = last - last % 4) ∨
      ((o % 4 ≠ 0 ∨ last ≤ blockEnd o) ∧ playEnd o last = o + 4 * ((blockEnd o - o) / 4)) := by
  unfold playEnd
  by_cases onward : o % 4 = 0 ∧ blockEnd o < last
  · rw [if_pos onward]
    exact .inl ⟨onward.1, onward.2, rfl⟩
  · rw [if_neg onward]
    refine .inr ⟨?_, rfl⟩
    omega

/-- The condition under which a song plays nothing but its file: for every offset and size that
its header announces, nothing is played, or the last frame ends within the size of the file in
the directory, the library follows the chain so far, and the samples are read in whole blocks. -/
structure PlaysInside (image : Nat → Bytes) (geometry : VolumeInfo) (k : Nat) (p : Globals Heap)
    (entry : Bytes) : Prop where
  content : 0 < fileSize entry
  lowHalf : le16 entry 20 = 0
  ends : ∀ garbage offset size,
    waveGetWaveOffset (startView k p (image ((layoutOf image).blockSecter image
      (firstCluster entry) 0)) garbage) waveBufSize = some offset →
    waveGetDataByteSize (startView k p (image ((layoutOf image).blockSecter image
      (firstCluster entry) 0)) garbage) waveBufSize = some size →
    toU32 (toU32 offset + size) ≤ toU32 offset ∨ WholeBlocks offset size ∧
      (playEnd (toU32 offset) (toU32 (toU32 offset + size)) ≤ toU32 offset ∨
        playEnd (toU32 offset) (toU32 (toU32 offset + size)) ≤ fileSize entry ∧
          Followed image geometry (layoutOf image) (firstCluster entry)
            (playEnd (toU32 offset) (toU32 (toU32 offset + size))))

variable {image : Nat → Bytes} {geometry : VolumeInfo} {l : Layout} {first k e : Nat}
  {p q : Globals Heap} {out : Outcome Heap}

/-! ## No frame left -/

/-- No whole frame is left, now and for ever. -/
def Spent (context : PlaywaveContext) : Prop :=
  context.uWaveMaxPlayPos ≤ context.uWavePlayPos ∨
    (context.uWavePlayPos < context.uWaveReadPos ∧
      context.uWaveReadPos < context.uWavePlayPos + 4 ∧ context.uWaveReadPos < 4294967296) ∨
    (context.uWaveReadPos = context.uWavePlayPos ∧
      context.uWaveMaxPlayPos < context.uWavePlayPos + 4 ∧
      context.uWaveMaxPlayPos < 4294967296) ∨
    (context.uWaveReadPos ≤ context.uWavePlayPos ∧ context.uWaveReadPos % 512 = 0 ∧
      context.uWavePlayPos + 512 ≤ context.uWaveMaxPlayPos ∧
      512 < context.uWavePlayPos % 512 + 4 ∧ context.uWaveMaxPlayPos < 4294967296)

/-- A read leaves no frame where there was none. -/
theorem Spent.read {context : PlaywaveContext} (spent : Spent context) (szBuf : Bytes)
    (onward : ¬atEnd context) (empty : context.uWaveReadPos ≤ context.uWavePlayPos) :
    Spent { context with
      szBuf, uWaveReadPos := toU32 (context.uWaveReadPos + readSize context) } := by
  have running : context.uWavePlayPos < context.uWaveMaxPlayPos := Nat.not_le.mp onward
  rcases spent with ended | ⟨ready, _, _⟩ | ⟨agree, short, range⟩ | ⟨_, block, long, late, range⟩
  · exact absurd ended onward
  · exact absurd ready (Nat.not_lt.mpr empty)
  · have size := readSize_eq running range
    rw [toU32_readPos running range empty]
    refine .inr (.inl ⟨?_, ?_, ?_⟩) <;> simp only <;> omega
  · have size := readSize_eq running range
    rw [toU32_readPos running range empty]
    by_cases reached : context.uWavePlayPos < context.uWaveReadPos + 512
    · refine .inr (.inl ⟨?_, ?_, ?_⟩) <;> simp only <;> omega
    · refine .inr (.inr (.inr ⟨?_, ?_, ?_, ?_, ?_⟩)) <;> simp only <;> omega

/-- A refill leaves no frame where there was none, and plays none. -/
theorem Spent.refill (fuel : Nat) {events : List Event} (spent : Spent (q.gWavePlay k))
    (onward : ¬atEnd (q.gWavePlay k)) (run : refillLoop fatApi k fuel events q = .ok out) :
    Spent (out.player.gWavePlay k) ∧ frames out.events = frames events ∧
      (out.player.gWavePlay k).uWavePlayPos = (q.gWavePlay k).uWavePlayPos ∧
      ¬atEnd (out.player.gWavePlay k) ∧
      (out.ok = true →
        (out.player.gWavePlay k).uWavePlayPos < (out.player.gWavePlay k).uWaveReadPos) := by
  induction fuel generalizing events q with
  | zero => contradiction
  | succ fuel ih =>
    simp only [refillLoop] at run
    split at run
    · rename_i ready
      obtain rfl := Except.ok.inj run
      exact ⟨spent, rfl, rfl, onward, fun _ => ready⟩
    · rename_i empty
      split at run
      · contradiction
      · rename_i szBuf files _
        have next := spent.read szBuf onward (Nat.not_lt.mp empty)
        have kept := ih (by rwa [Globals.setSong_self])
          (by rw [Globals.setSong_self]; exact onward) run
        rw [Globals.setSong_self, frames_append] at kept
        simpa [frames] using kept
      · obtain rfl := Except.ok.inj run
        refine ⟨?_, rfl, ?_, ?_, fun ok => Bool.noConfusion ok⟩ <;> rw [Globals.setSong_self]
        · exact spent
        · exact onward

/-- A call plays no frame where none is left. -/
theorem Spent.execute {garbage : Garbage} (spent : Spent (q.gWavePlay k))
    (onward : ¬atEnd (q.gWavePlay k)) (run : waveplayExecute fatApi garbage k q = .ok out) :
    Spent (out.player.gWavePlay k) ∧ frames out.events = [] ∧
      (out.player.gWavePlay k).uWavePlayPos = (q.gWavePlay k).uWavePlayPos := by
  by_cases song : k ≤ maxSongs
  · rw [waveplayExecute_onward song onward] at run
    split at run
    · contradiction
    · rename_i refill filled
      obtain ⟨kept, silent, playPos, still, ready⟩ := spent.refill _ onward filled
      split at run
      · rename_i success
        obtain rfl := Except.ok.inj run
        have before := ready success
        have short : (refill.player.gWavePlay k).uWaveReadPos <
            (refill.player.gWavePlay k).uWavePlayPos + 4 ∧
            (refill.player.gWavePlay k).uWaveReadPos < 4294967296 := by
          rcases kept with ended | ⟨_, short, range⟩ | ⟨agree, _⟩ | ⟨empty, _⟩
          · exact absurd ended still
          · exact ⟨short, range⟩
          · omega
          · omega
        have none : ((refill.player.gWavePlay k).uWaveReadPos -
            (refill.player.gWavePlay k).uWavePlayPos) / 4 = 0 := by omega
        refine ⟨?_, ?_, ?_⟩
        · rw [playBuffer_player (by omega) (by omega) (by omega), Globals.setSong_self, none]
          exact kept
        · rw [frames_append, silent, playBuffer_frames (by omega) (by omega), none]
          rfl
        · rw [playBuffer_player (by omega) (by omega) (by omega), Globals.setSong_self, none]
          exact playPos
      · obtain rfl := Except.ok.inj run
        exact ⟨kept, silent, playPos⟩
  · simp [waveplayExecute, song] at run

/-! ## Frames that are left -/

/-- Unplayed bytes of the file are in the buffer, and lie before the end `e` of the frames. -/
structure Buffered (image : Nat → Bytes) (geometry : VolumeInfo) (l : Layout) (first k e : Nat)
    (q : Globals Heap) : Prop where
  order : (q.gWavePlay k).uWavePlayPos + 4 ≤ (q.gWavePlay k).uWaveReadPos
  window : (q.gWavePlay k).uWavePlayPos % 512 +
    ((q.gWavePlay k).uWaveReadPos - (q.gWavePlay k).uWavePlayPos) ≤ 512
  bytes : ∀ x, (q.gWavePlay k).uWavePlayPos ≤ x → x < (q.gWavePlay k).uWaveReadPos →
    (q.gWavePlay k).szBuf (x % 512) = l.fileByte image first x
  range : (q.gWavePlay k).uWaveReadPos < 4294967296 ∧
    (q.gWavePlay k).uWaveMaxPlayPos < 4294967296
  inside : (q.gWavePlay k).uWavePlayPos +
    4 * (((q.gWavePlay k).uWaveReadPos - (q.gWavePlay k).uWavePlayPos) / 4) ≤ e
  next : ((q.gWavePlay k).uWaveReadPos - (q.gWavePlay k).uWavePlayPos) % 4 ≠ 0 ∨
    (q.gWavePlay k).uWaveMaxPlayPos < (q.gWavePlay k).uWaveReadPos + 4 ∨
    ((∃ i, BeforeBlock image geometry l first e k i q) ∧
      e = (q.gWavePlay k).uWaveMaxPlayPos - (q.gWavePlay k).uWaveMaxPlayPos % 4)

/-- The next frame is read from the file first, and so are all up to the end `e`. -/
structure Waiting (image : Nat → Bytes) (geometry : VolumeInfo) (l : Layout) (first k e : Nat)
    (q : Globals Heap) : Prop where
  block : ∃ i, BeforeBlock image geometry l first e k i q
  empty : (q.gWavePlay k).uWaveReadPos ≤ (q.gWavePlay k).uWavePlayPos
  some : (q.gWavePlay k).uWavePlayPos + 4 ≤ (q.gWavePlay k).uWaveMaxPlayPos
  inside : (q.gWavePlay k).uWavePlayPos + 4 ≤ e
  last : ((q.gWavePlay k).uWavePlayPos % 4 = 0 ∧
      e = (q.gWavePlay k).uWaveMaxPlayPos - (q.gWavePlay k).uWaveMaxPlayPos % 4) ∨
    ((q.gWavePlay k).uWavePlayPos % 4 ≠ 0 ∧
      (q.gWavePlay k).uWavePlayPos + 512 ≤ (q.gWavePlay k).uWaveMaxPlayPos ∧
      e = (q.gWavePlay k).uWavePlayPos + 4 * ((512 - (q.gWavePlay k).uWavePlayPos % 512) / 4))

/-- A read towards the next frame succeeds, and brings it into the buffer or comes before it. -/
theorem Waiting.read (file : l.WellFormed image first e) (matched : Matches geometry l)
    (followed : Followed image geometry l first e)
    (waiting : Waiting image geometry l first k e q) :
    ∃ szBuf files, fatFileRead q.files (q.gWavePlay k).hFile (q.gWavePlay k).szBuf
        (readSize (q.gWavePlay k)) = .ok (true, szBuf, files) ∧
      ((q.refilled k szBuf files).gWavePlay k).uWavePlayPos = (q.gWavePlay k).uWavePlayPos ∧
      ((q.refilled k szBuf files).gWavePlay k).uWaveMaxPlayPos =
        (q.gWavePlay k).uWaveMaxPlayPos ∧
      (Buffered image geometry l first k e (q.refilled k szBuf files) ∨
        Waiting image geometry l first k e (q.refilled k szBuf files)) := by
  obtain ⟨⟨i, before⟩, empty, some, inside, last⟩ := waiting
  have readPos := before.readPos
  have whole := before.whole
  have range := before.range
  have running : (q.gWavePlay k).uWavePlayPos < (q.gWavePlay k).uWaveMaxPlayPos := by omega
  have size := readSize_eq running range
  obtain ⟨files, read, next⟩ := before.read file matched followed (by omega)
    (Nat.not_le.mpr running) empty
  obtain ⟨szBuf, buffer⟩ : ∃ szBuf, szBuf = copyAt (q.gWavePlay k).szBuf 0
    (image (l.blockSecter image first i)) (readSize (q.gWavePlay k)) := ⟨_, rfl⟩
  rw [← buffer] at read
  have more := next szBuf
  have playPos : ((q.refilled k szBuf files).gWavePlay k).uWavePlayPos =
      (q.gWavePlay k).uWavePlayPos := by
    simp only [Globals.refilled, Globals.setSong_self]
  have maxPlayPos : ((q.refilled k szBuf files).gWavePlay k).uWaveMaxPlayPos =
      (q.gWavePlay k).uWaveMaxPlayPos := by
    simp only [Globals.refilled, Globals.setSong_self]
  have position : ((q.refilled k szBuf files).gWavePlay k).uWaveReadPos =
      (q.gWavePlay k).uWaveReadPos + readSize (q.gWavePlay k) := by
    simp only [Globals.refilled, Globals.setSong_self]
    exact toU32_readPos running range empty
  have held : ((q.refilled k szBuf files).gWavePlay k).szBuf = szBuf := by
    simp only [Globals.refilled, Globals.setSong_self]
  refine ⟨szBuf, files, read, playPos, maxPlayPos, ?_⟩
  by_cases short : (q.gWavePlay k).uWaveReadPos + readSize (q.gWavePlay k) ≤
      (q.gWavePlay k).uWavePlayPos
  · -- a block before the one with the next frame
    rcases more with behind | here | done
    · omega
    · exact .inr ⟨⟨_, here⟩, by omega, by omega, by omega, by omega⟩
    · have bound := done.last
      omega
  · refine .inl ⟨by omega, by omega, fun x low high => ?_, by omega, by omega, ?_⟩
    · rw [held, buffer, copyAt_inside _ _ _ _ _ (by omega) (by omega), Layout.fileByte]
      congr 2
      omega
    · rw [playPos, maxPlayPos, position]
      rcases last with ⟨aligned, end_⟩ | ⟨odd, _, _⟩
      · by_cases past : (q.gWavePlay k).uWaveMaxPlayPos <
            (q.gWavePlay k).uWaveReadPos + readSize (q.gWavePlay k) + 4
        · exact .inr (.inl past)
        · rcases more with behind | here | done
          · omega
          · exact .inr (.inr ⟨⟨_, here⟩, end_⟩)
          · have bound := done.last
            omega
      · exact .inl (by omega)

/-- A refill brings the next frame into the buffer. -/
theorem Waiting.refill (file : l.WellFormed image first e) (matched : Matches geometry l)
    (followed : Followed image geometry l first e) (fuel : Nat) {events : List Event}
    (left : Buffered image geometry l first k e q ∨ Waiting image geometry l first k e q)
    (run : refillLoop fatApi k fuel events q = .ok out) :
    out.ok = true ∧ frames out.events = frames events ∧
      (out.player.gWavePlay k).uWavePlayPos = (q.gWavePlay k).uWavePlayPos ∧
      Buffered image geometry l first k e out.player := by
  induction fuel generalizing events q with
  | zero => contradiction
  | succ fuel ih =>
    rcases left with buffered | waiting
    · have order := buffered.order
      rw [refillLoop_ready fuel events (by omega)] at run
      obtain rfl := Except.ok.inj run
      exact ⟨rfl, rfl, rfl, buffered⟩
    · obtain ⟨szBuf, files, read, playPos, _, next⟩ := waiting.read file matched followed
      rw [refillLoop_read fuel events waiting.empty read] at run
      obtain ⟨ok, silent, same, buffered⟩ := ih next run
      refine ⟨ok, ?_, same.trans playPos, buffered⟩
      rw [silent, frames_append]
      exact List.append_nil _

/-- A song from which frames are still to be heard, or none any more. -/
def OnFile (image : Nat → Bytes) (geometry : VolumeInfo) (l : Layout) (first k e : Nat)
    (q : Globals Heap) : Prop :=
  Spent (q.gWavePlay k) ∨ Buffered image geometry l first k e q ∨
    Waiting image geometry l first k e q

/-- Playing the buffer hands over frames of the file, up to the end `e` at most. -/
theorem Buffered.play (song : k ≤ maxSongs) (garbage : Garbage)
    (buffered : Buffered image geometry l first k e q) :
    ∃ count, frames (playBuffer garbage k q).1 =
        fileFrames (l.fileByte image first) (q.gWavePlay k).uWavePlayPos count ∧
      ((playBuffer garbage k q).2.gWavePlay k).uWavePlayPos =
        (q.gWavePlay k).uWavePlayPos + 4 * count ∧
      (q.gWavePlay k).uWavePlayPos + 4 * count ≤ e ∧
      OnFile image geometry l first k e (playBuffer garbage k q).2 := by
  obtain ⟨order, window, bytes, ⟨range, limit⟩, inside, next⟩ := buffered
  have ready : (q.gWavePlay k).uWavePlayPos < (q.gWavePlay k).uWaveReadPos := by omega
  have player : (playBuffer garbage k q).2.gWavePlay k = { q.gWavePlay k with
      uWavePlayPos := (q.gWavePlay k).uWavePlayPos +
        4 * (((q.gWavePlay k).uWaveReadPos - (q.gWavePlay k).uWavePlayPos) / 4) } := by
    rw [playBuffer_player (Nat.le_of_lt ready) (by omega) range, Globals.setSong_self]
  refine ⟨((q.gWavePlay k).uWaveReadPos - (q.gWavePlay k).uWavePlayPos) / 4, ?_, ?_, inside, ?_⟩
  · rw [playBuffer_frames (Nat.le_of_lt ready) (by omega)]
    refine window_frames window bytes fun i low => ?_
    rw [bufView_inside _ _ song (by omega) (by omega), Int.toNat_natCast]
  · rw [player]
  · by_cases whole : ((q.gWavePlay k).uWaveReadPos - (q.gWavePlay k).uWavePlayPos) % 4 = 0
    · rcases next with odd | past | ⟨⟨i, before⟩, end_⟩
      · exact absurd whole odd
      · refine .inl ?_
        rw [player, Spent]
        simp only
        omega
      · by_cases past : (q.gWavePlay k).uWaveMaxPlayPos < (q.gWavePlay k).uWaveReadPos + 4
        · refine .inl ?_
          rw [player, Spent]
          simp only
          omega
        · have readPos := before.readPos
          refine .inr (.inr ⟨⟨i, before.play garbage ready range⟩, ?_, ?_, ?_, .inl ?_⟩) <;>
            rw [player] <;> simp only <;> omega
    · refine .inl ?_
      rw [player, Spent]
      simp only
      omega

/-- A call hands over frames of the file, up to the end `e` at most. -/
theorem OnFile.execute (file : 0 < e → l.WellFormed image first e) (matched : Matches geometry l)
    (followed : Followed image geometry l first e) {garbage : Garbage}
    (onFile : OnFile image geometry l first k e q) (onward : ¬atEnd (q.gWavePlay k))
    (run : waveplayExecute fatApi garbage k q = .ok out) :
    ∃ count, frames out.events =
        fileFrames (l.fileByte image first) (q.gWavePlay k).uWavePlayPos count ∧
      (out.player.gWavePlay k).uWavePlayPos = (q.gWavePlay k).uWavePlayPos + 4 * count ∧
      (count = 0 ∨ (q.gWavePlay k).uWavePlayPos + 4 * count ≤ e) ∧
      OnFile image geometry l first k e out.player := by
  rcases onFile with spent | left
  · obtain ⟨kept, silent, playPos⟩ := spent.execute onward run
    exact ⟨0, silent, playPos, .inl rfl, .inl kept⟩
  · by_cases song : k ≤ maxSongs
    · rw [waveplayExecute_onward song onward] at run
      have some : 0 < e := by
        rcases left with buffered | waiting
        · have order := buffered.order
          have inside := buffered.inside
          omega
        · have inside := waiting.inside
          omega
      split at run
      · contradiction
      · rename_i refill filled
        obtain ⟨ok, silent, playPos, buffered⟩ := Waiting.refill (file some) matched followed _
          left filled
        simp only [ok, ↓reduceIte] at run
        obtain rfl := Except.ok.inj run
        obtain ⟨count, played, moved, inside, next⟩ := buffered.play song garbage
        rw [playPos] at played moved inside
        refine ⟨count, ?_, moved, .inr inside, next⟩
        rw [frames_append, silent, played]
        rfl
    · simp [waveplayExecute, song] at run

/-! ## Calls on other songs -/

/-- A step that leaves the song alone leaves its file at its block. -/
theorem BeforeBlock.keeps {i : Nat} (before : BeforeBlock image geometry l first e k i p)
    (ready : Ready image geometry q) (keeps : KeepsSong k p q) :
    BeforeBlock image geometry l first e k i q := by
  obtain ⟨_, volume, some, ⟨info, found, fat, at_⟩, readPos, near, whole, range⟩ := before
  obtain ⟨hFat, context, file⟩ := keeps
  refine ⟨ready.mounted, ?_, ?_, ⟨info, ?_, ?_, at_⟩, ?_, ?_, ?_, ?_⟩ <;>
    simp only [context, hFat]
  · exact volume
  · exact some
  · exact (file some).trans found
  · exact fat
  · exact readPos
  · exact near
  · exact whole
  · exact range

/-- A step that leaves the song alone leaves its frames. -/
theorem OnFile.keeps (onFile : OnFile image geometry l first k e p)
    (ready : Ready image geometry q) (keeps : KeepsSong k p q) :
    OnFile image geometry l first k e q := by
  have context := keeps.context
  rcases onFile with spent | ⟨order, window, bytes, range, inside, next⟩ |
    ⟨⟨i, before⟩, empty, some, inside, last⟩
  · refine .inl ?_
    rwa [context]
  · refine .inr (.inl ⟨?_, ?_, ?_, ?_, ?_, ?_⟩) <;> rw [context]
    · exact order
    · exact window
    · exact bytes
    · exact range
    · exact inside
    · rcases next with odd | past | ⟨⟨i, before⟩, end_⟩
      · exact .inl odd
      · exact .inr (.inl past)
      · exact .inr (.inr ⟨⟨i, before.keeps ready keeps⟩, end_⟩)
  · refine .inr (.inr ⟨⟨i, before.keeps ready keeps⟩, ?_, ?_, ?_, ?_⟩) <;> rw [context]
    · exact empty
    · exact some
    · exact inside
    · exact last

/-- What every call keeps: the frames since the start are the file's from `o` on, and none ends
behind `e`. -/
structure Sounds (image : Nat → Bytes) (geometry : VolumeInfo) (l : Layout) (first k o e : Nat)
    (played : List Frame) (q : Globals Heap) : Prop where
  ready : Ready image geometry q
  heard : ∃ count, played = fileFrames (l.fileByte image first) o count ∧
    (q.gWavePlay k).uWavePlayPos = o + 4 * count ∧ (count = 0 ∨ o + 4 * count ≤ e)
  onFile : OnFile image geometry l first k e q

/-- A run keeps to the file. -/
theorem Sounds.plays {o : Nat} (file : 0 < e → l.WellFormed image first e)
    (matched : Matches geometry l) (followed : Followed image geometry l first e)
    (sounds : Sounds image geometry l first k o e [] p) {played : List Frame}
    (run : PlaysAmong k p played q) : Sounds image geometry l first k o e played q := by
  induction run with
  | nil => exact sounds
  | own _ onward call ih =>
    obtain ⟨ready, ⟨count, heard, playPos, inside⟩, onFile⟩ := ih
    obtain ⟨more, played, moved, inside', next⟩ := onFile.execute file matched followed onward call
    refine ⟨(ready.waveplayExecute call).1, ⟨count + more, ?_, by omega, by omega⟩, next⟩
    rw [heard, played, playPos, fileFrames_append]
  | other _ apart call ih =>
    obtain ⟨ready, heard, onFile⟩ := ih
    obtain ⟨ready', keeps⟩ := ready.call call
    have kept := keeps k apart
    refine ⟨ready', ?_, onFile.keeps ready' kept⟩
    rwa [kept.context]

/-- The frames that are heard are frames of the file's own bytes, when none ends behind it. -/
theorem Sounds.own {o size : Nat} {played : List Frame}
    (sounds : Sounds image geometry l first k o e played q) (fits : e ≤ size ∨ e ≤ o) :
    ∀ frame ∈ played, OwnFrame (l.fileByte image first) size frame := by
  intro frame member
  obtain ⟨count, rfl, _, inside⟩ := sounds.heard
  obtain ⟨i, low, rfl⟩ := List.mem_map.mp member
  have before := List.mem_range.mp low
  exact ⟨o + 4 * i, by omega, rfl⟩

/-! ## From the start of a song -/

/-- A run that ends where it begins plays nothing. -/
theorem spent_prepared {context : PlaywaveContext} {offset size : Int}
    (none : toU32 (toU32 offset + size) ≤ toU32 offset ∨ WholeBlocks offset size ∧
      playEnd (toU32 offset) (toU32 (toU32 offset + size)) ≤ toU32 offset) :
    Spent (context.prepared offset size) := by
  have range := toU32_lt (toU32 offset + size)
  simp only [Spent, PlaywaveContext.prepared, waveBufSize, Nat.mod_self, true_and]
  rcases none with ended | ⟨whole, short⟩
  · exact .inl ended
  · simp only [WholeBlocks] at whole
    generalize toU32 (toU32 offset + size) = last at *
    generalize toU32 offset = o at *
    have ends := playEnd_cases o last
    have block := blockEnd_bounds o
    omega

/-- A song that has just been started has frames left when it plays any. -/
theorem FirstLoaded.onFile {offset size : Int}
    (loaded : FirstLoaded image geometry l first e k p out) (whole : WholeBlocks offset size)
    (end_ : e = playEnd (toU32 offset) (toU32 (toU32 offset + size))) (some : toU32 offset < e)
    (running : toU32 offset < toU32 (toU32 offset + size)) :
    OnFile image geometry l first k e
      (out.player.setSong k ((out.player.gWavePlay k).prepared offset size)) := by
  obtain ⟨_, ⟨hFile, szBuf, buffer, table, _⟩, mounted, volume, handle, file⟩ := loaded
  have held : (out.player.gWavePlay k).szBuf = szBuf := by
    rw [table, Function.update_self]
  have range := toU32_lt (toU32 offset + size)
  simp only [WholeBlocks] at whole
  have block (more : 512 < e) : BeforeBlock image geometry l first e k 1
      (out.player.setSong k ((out.player.gWavePlay k).prepared offset size)) := by
    refine ⟨mounted, volume, ?_, ?_, ?_, ?_, ?_, ?_⟩ <;>
      simp only [Globals.setSong_self, PlaywaveContext.prepared, waveBufSize]
    · exact handle
    · exact file more
    · omega
    · omega
    · exact range
  have ends := playEnd_cases (toU32 offset) (toU32 (toU32 offset + size))
  have bounds := blockEnd_bounds (toU32 offset)
  rw [← end_] at ends
  clear file
  by_cases first_ : toU32 offset < 512
  · refine .inr (.inl ⟨?_, ?_, ?_, ?_, ?_, ?_⟩) <;>
      simp only [Globals.setSong_self, PlaywaveContext.prepared, waveBufSize]
    · omega
    · omega
    · intro x low high
      rw [held, buffer, copyAt_inside _ _ _ _ _ (by omega) (by simp only [waveBufSize]; omega),
        Layout.fileByte, Nat.div_eq_of_lt (show x < 512 by omega), Nat.sub_zero]
    · omega
    · omega
    · by_cases aligned : toU32 offset % 4 = 0
      · by_cases past : toU32 (toU32 offset + size) < 512 + 4
        · exact .inr (.inl past)
        · have far : e = toU32 (toU32 offset + size) - toU32 (toU32 offset + size) % 4 := by
            omega
          exact .inr (.inr ⟨⟨1, block (by omega)⟩, far⟩)
      · exact .inl (by omega)
  · refine .inr (.inr ⟨⟨1, block (by omega)⟩, ?_, ?_, ?_, ?_⟩) <;>
      simp only [Globals.setSong_self, PlaywaveContext.prepared, waveBufSize]
    · omega
    · omega
    · omega
    · omega

/-- A block needs no link. -/
theorem followed_block (positive : 0 < l.perCluster) {size : Nat} (small : size ≤ 512) :
    Followed image geometry l first size := by
  intro j needed
  have block : 1 * 512 ≤ (j + 1) * l.clusterBytes :=
    Nat.mul_le_mul (Nat.le_add_left 1 j) (Nat.le_mul_of_pos_right 512 positive)
  omega

/-- Where the condition holds, a song plays nothing but the bytes of its file. -/
theorem ownBytes_of_inside {entry : Bytes} (card : SongOnCard image geometry k p entry)
    (inside : PlaysInside image geometry k p entry) :
    PlaysOwnBytes ((layoutOf image).fileByte image (firstCluster entry)) (fileSize entry) k p := by
  obtain ⟨⟨device, holds, mount⟩, reached, opens, file⟩ := card
  obtain ⟨hFile, files, context, opened, handle, found, rfl⟩ := opens
  obtain ⟨content, lowHalf, ends⟩ := inside
  have matched := fatMount_matches holds mount
  have mounted := reached.ready.mounted
  intro garbage out run ok played q plays
  have cluster : context.firstLogicalCluster =
      firstCluster (dirEntry image geometry context.dirEntryIndex) := by
    obtain ⟨context', found', fields⟩ := fatFileOpen_entry mounted opened handle
    have same := congrArg (·.directory) (Option.some.inj (found'.symm.trans found))
    change context' = context at same
    subst same
    exact fields.cluster lowHalf
  generalize dirEntry image geometry context.dirEntryIndex = entry at *
  -- what the opening part loads, for any beginning of the file that the library follows
  have loaded {e : Nat} (some : 0 < e) (fits : e ≤ fileSize entry)
      (followed : Followed image geometry (layoutOf image) (firstCluster entry) e) :
      ∃ firstOut, waveplayOpen fatApi garbage k p = .ok firstOut ∧
        FirstLoaded image geometry (layoutOf image) (firstCluster entry) e k p firstOut :=
    waveplayOpen_firstLoaded garbage (file.shrink fits) matched followed mounted opened handle
      found cluster some
  have ready := (reached.ready.waveplayStart run).1
  obtain ⟨song, firstOut, firstRun, _, offset, size, prepared⟩ := waveplayStart_true run ok
  obtain ⟨_, offsetRead, sizeRead, player⟩ := prepared
  obtain ⟨firstOut', firstRun', block⟩ := loaded Nat.zero_lt_one content
    (followed_block file.positive (by decide))
  obtain rfl := Except.ok.inj (firstRun.symm.trans firstRun')
  obtain ⟨_, szBuf, buffer, table, _⟩ := block.block
  rw [bufView_start _ garbage buffer table] at offsetRead sizeRead
  have playPos : (out.player.gWavePlay k).uWavePlayPos = toU32 offset := by
    rw [player, Globals.setSong_self, PlaywaveContext.prepared]
  have silent (none : Spent ((firstOut.player.gWavePlay k).prepared offset size)) :
      ∀ frame ∈ played, OwnFrame ((layoutOf image).fileByte image (firstCluster entry))
        (fileSize entry) frame := by
    have sounds : Sounds image geometry (layoutOf image) (firstCluster entry) k (toU32 offset) 0 []
        out.player := by
      refine ⟨ready, ⟨0, rfl, playPos, .inl rfl⟩, .inl ?_⟩
      rwa [player, Globals.setSong_self]
    have all := sounds.plays (fun some => absurd some (Nat.lt_irrefl 0)) matched
      (followed_block file.positive (Nat.zero_le _)) plays
    exact all.own (.inl (Nat.zero_le _))
  rcases ends garbage offset size offsetRead sizeRead with ended | ⟨whole, short | ⟨fits, followed⟩⟩
  · exact silent (spent_prepared (.inl ended))
  · exact silent (spent_prepared (.inr ⟨whole, short⟩))
  · by_cases none : toU32 (toU32 offset + size) ≤ toU32 offset ∨
        playEnd (toU32 offset) (toU32 (toU32 offset + size)) ≤ toU32 offset
    · exact silent (spent_prepared (none.imp_right fun short => ⟨whole, short⟩))
    · obtain ⟨running, some⟩ := not_or.mp none
      obtain ⟨firstOut', firstRun', block⟩ := loaded (by omega) fits followed
      obtain rfl := Except.ok.inj (firstRun.symm.trans firstRun')
      have sounds : Sounds image geometry (layoutOf image) (firstCluster entry) k (toU32 offset)
          (playEnd (toU32 offset) (toU32 (toU32 offset + size))) [] out.player := by
        refine ⟨ready, ⟨0, rfl, playPos, .inl rfl⟩, ?_⟩
        rw [player]
        exact block.onFile whole rfl (Nat.not_le.mp some) (Nat.not_le.mp running)
      exact (sounds.plays (fun _ => file.shrink fits) matched followed plays).own (.inl fits)

/-- The file of two clusters satisfies the condition. -/
theorem ownBytes_of_inside_twoChains : ∃ p,
    SongOnCard (twoChainsCard 0) (cardVolume (twoChainsCard 0)) 0 p (twoChainsEntry 0) ∧
      PlaysOwnBytes ((layoutOf (twoChainsCard 0)).fileByte (twoChainsCard 0)
        (firstCluster (twoChainsEntry 0))) (fileSize (twoChainsEntry 0)) 0 p := by
  obtain ⟨count, p, listed, song⟩ := twoChains_song (.inl rfl)
  have bytes : fileSize (twoChainsEntry 0) = 1024 := by decide +kernel
  refine ⟨p, song, ownBytes_of_inside song ⟨by decide +kernel, by decide +kernel,
    fun garbage offset size offsetRead sizeRead => ?_⟩⟩
  obtain ⟨offset', size'⟩ := twoChains_header p garbage
  obtain rfl := Option.some.inj (offset'.symm.trans offsetRead)
  obtain rfl := Option.some.inj (size'.symm.trans sizeRead)
  have end_ : playEnd (toU32 44) (toU32 (toU32 44 + 980)) = 1024 := by decide
  rw [end_, bytes]
  exact .inr ⟨.inl (by decide), .inr ⟨Nat.le_refl _, twoChains_followed⟩⟩

/-! ## A recording that was cut off -/

/-- The sectors of a card with one file, `A.WAV`, of 48 bytes in one cluster. Its header
announces 980 bytes of samples, and the rest of its cluster is not zero. -/
def cutOff : List (Nat × Bytes) :=
  [(2, blockOf [(12, [0xFF, 0xFF, 0xFF, 0x0F])]),
    (515, blockOf [(0, fileEntry [0x41, 0x20, 0x20, 0x20, 0x20, 0x20, 0x20, 0x20, 0x57, 0x41, 0x56]
      3 [48, 0, 0, 0])]),
    (516, blockOf [(0, stereoHeader [0xF8, 3, 0, 0] [0xD4, 3, 0, 0]),
      (100, [0xFF, 0xFF, 0xFF, 0xFF])])]

/-- The card. -/
abbrev cutOffCard : Nat → Bytes := fat32Card cutOff

/-- The entry of its file. -/
abbrev cutOffEntry : Bytes := dirEntry cutOffCard (cardVolume cutOffCard) 0

/-- The file is well formed. -/
theorem cutOff_wellFormed : (layoutOf cutOffCard).WellFormed cutOffCard
    (firstCluster cutOffEntry) (fileSize cutOffEntry) := by
  have size : fileSize cutOffEntry = 48 := by decide +kernel
  have bytes : (layoutOf cutOffCard).clusterBytes = 512 := by decide +kernel
  have one {j : Nat} (needed : j * (layoutOf cutOffCard).clusterBytes < 48) : j = 0 := by
    rw [bytes] at needed
    omega
  rw [size]
  refine ⟨by decide, by decide +kernel, fun j needed => ?_, fun i j needed needed' _ => ?_,
    fun j needed => ?_⟩
  · rw [one needed]
    decide +kernel
  · rw [one needed, one needed']
  · rw [one needed]
    decide +kernel

/-- Bytes behind the end of the file are played. -/
theorem not_playsOwnBytes_cutOff : ∃ p,
    SongOnCard cutOffCard (cardVolume cutOffCard) 0 p cutOffEntry ∧
      ¬PlaysOwnBytes ((layoutOf cutOffCard).fileByte cutOffCard (firstCluster cutOffEntry))
        (fileSize cutOffEntry) 0 p := by
  have listing : (listCard cutOff).bind (fun listed =>
      (fatFileOpen listed.2.files listed.2.hFat (listed.2.gWavePlay 0).szFilename).map
        fun opened => (opened.1, (opened.2.files opened.1).map (·.directory.dirEntryIndex))) =
        .ok (4, some 0) := by
    decide +kernel
  have playing : (listCard cutOff).bind (fun listed =>
      (waveplayStart fatApi .zero 0 listed.2).bind fun started =>
        (waveplayExecute fatApi .zero 0 started.player).map fun out =>
          ((started.ok, decide (atEnd (started.player.gWavePlay 0))), (frames out.events)[14]?)) =
        .ok ((true, false), some ⟨0xFFFF, 0xFFFF⟩) := by
    decide +kernel
  obtain ⟨⟨count, p⟩, listed, opened⟩ := bind_eq_ok listing
  have reached := Reached.listed (listCard_listed listed)
  refine ⟨p, ⟨⟨imageDevice _, imageDevice_holds _, fat32Card_mount _⟩, reached,
    opensEntry_of reached.ready.mounted opened (by decide), cutOff_wellFormed⟩, fun own => ?_⟩
  obtain ⟨listed', listed'', playing⟩ := bind_eq_ok playing
  obtain rfl := Except.ok.inj (listed.symm.trans listed'')
  obtain ⟨started, start, playing⟩ := bind_eq_ok playing
  obtain ⟨out, call, played⟩ := map_eq_ok playing
  obtain ⟨state, frame⟩ := Prod.mk.inj played
  obtain ⟨ok, onward⟩ := Prod.mk.inj state
  have run := PlaysAmong.own .nil (of_decide_eq_false onward) call
  have heard := own .zero started start ok _ _ run ⟨0xFFFF, 0xFFFF⟩
    (List.mem_of_getElem? (by rwa [List.nil_append]))
  obtain ⟨x, inside, same⟩ := heard
  have size : fileSize cutOffEntry = 48 := by decide +kernel
  have none : ∀ x < 45, fileFrame ((layoutOf cutOffCard).fileByte cutOffCard
      (firstCluster cutOffEntry)) x ≠ ⟨0xFFFF, 0xFFFF⟩ := by
    decide +kernel
  exact none x (by omega) same.symm

end SoundBoard.Player
