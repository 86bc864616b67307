import SoundBoard.Lib.Agree
import SoundBoard.Player.WavePlay

/-!
# What one call does

Each function of the player has one lemma here that lists everything a call can do, so the
proofs about runs never unfold it. A run of calls between one start of a song and the next is
a `Plays`.
-/

namespace SoundBoard.Player

open SoundBoard.Lib SoundBoard.Fat SoundBoard.Wave

variable {σ : Type} {api : FileApi σ} {garbage : Garbage} {k : Nat} {p : Globals σ}

/-- What `waveplay_start` makes of an accepted header. -/
structure Prepared (garbage : Garbage) (k : Nat) (p : Globals σ) (offset size : Int)
    (q : Globals σ) : Prop where
  /-- The format fields pass. -/
  accepted : ∃ sampleRate,
    headerCheck (bufView p.gWavePlay garbage k) waveBufSize = some (sampleRate, true)
  /-- Where the samples begin. -/
  offsetRead : waveGetWaveOffset (bufView p.gWavePlay garbage k) waveBufSize = some offset
  /-- How many bytes of them the header announces. -/
  sizeRead : waveGetDataByteSize (bufView p.gWavePlay garbage k) waveBufSize = some size
  /-- The positions are set, and nothing else changes. -/
  player : q = p.setSong k ((p.gWavePlay k).prepared offset size)

/-- The header part of a start either leaves the globals as they are or prepares the song. -/
theorem waveplayPrepare_cases {events : List Event} {out : Outcome σ}
    (run : waveplayPrepare garbage k events p = .ok out) :
    (out.ok = false ∧ out.events = events ∧ out.player = p) ∨
      (out.ok = true ∧ (∃ sampleRate, out.events = events ++ rateEvents sampleRate) ∧
        ∃ offset size, Prepared garbage k p offset size out.player) := by
  rw [waveplayPrepare] at run
  cases checked : headerCheck (bufView p.gWavePlay garbage k) waveBufSize with
  | none =>
    simp only [checked] at run
    contradiction
  | some answer =>
    obtain ⟨sampleRate, accepted⟩ := answer
    cases accepted with
    | false =>
      simp only [checked] at run
      obtain rfl := Except.ok.inj run
      exact .inl ⟨rfl, rfl, rfl⟩
    | true =>
      simp only [checked] at run
      cases offsetRead : waveGetWaveOffset (bufView p.gWavePlay garbage k) waveBufSize with
      | none =>
        simp only [offsetRead] at run
        contradiction
      | some offset =>
        cases sizeRead : waveGetDataByteSize (bufView p.gWavePlay garbage k) waveBufSize with
        | none =>
          simp only [offsetRead, sizeRead] at run
          contradiction
        | some size =>
          simp only [offsetRead, sizeRead] at run
          obtain rfl := Except.ok.inj run
          exact .inr ⟨rfl, ⟨sampleRate, rfl⟩, offset, size, ⟨sampleRate, checked⟩, offsetRead,
            sizeRead, rfl⟩

/-- A start that accepts its header succeeds when it returns. -/
theorem waveplayPrepare_accepted {events : List Event} {out : Outcome σ} {sampleRate : Int}
    (check : headerCheck (bufView p.gWavePlay garbage k) waveBufSize = some (sampleRate, true))
    (run : waveplayPrepare garbage k events p = .ok out) : out.ok = true := by
  simp only [waveplayPrepare, check] at run
  split at run
  · obtain rfl := Except.ok.inj run
    rfl
  · contradiction

/-- The loads of a start come from its first part alone. -/
theorem loads_rateEvents (sampleRate : Int) : loads (rateEvents sampleRate) = [] := rfl

@[simp] theorem frames_append (first second : List Event) :
    frames (first ++ second) = frames first ++ frames second := by
  simp [frames, List.filterMap_append]

@[simp] theorem loads_append (first second : List Event) :
    loads (first ++ second) = loads first ++ loads second := by
  simp [loads, List.filterMap_append]

@[simp] theorem frames_map_dac (played : List Frame) : frames (played.map .dac) = played := by
  simp [frames, List.filterMap_map]

@[simp] theorem loads_map_dac (played : List Frame) : loads (played.map .dac) = [] := by
  simp [loads, List.filterMap_map]

/-- The read with which a start fills the buffer of an open song. -/
def firstBlock (api : FileApi σ) (k : Nat) (p : Globals σ) : Exec (Outcome σ) :=
  (api.fatFileRead p.files (p.gWavePlay k).hFile (p.gWavePlay k).szBuf waveBufSize).map
    fun (ok, szBuf, files) =>
      ⟨ok, if ok then [.load waveBufSize szBuf] else [],
        { p with files }.setSong k { p.gWavePlay k with szBuf }⟩

/-- A start whose file opens. -/
theorem waveplayOpen_some (api : FileApi σ) {hFile : Nat} {files : σ}
    (opens : api.fatFileOpen p.files p.hFat (p.gWavePlay k).szFilename = .ok (hFile, files))
    (some : hFile ≠ 0) : waveplayOpen api garbage k p =
      firstBlock api k ({ p with files }.setSong k { p.gWavePlay k with hFile }) := by
  simp only [waveplayOpen, opens, some, ↓reduceIte, firstBlock, Globals.setSong_self,
    Globals.setSong_files]
  cases api.fatFileRead files hFile (p.gWavePlay k).szBuf waveBufSize <;> rfl

/-- A start whose file opens and whose first block is read. -/
theorem waveplayOpen_read (api : FileApi σ) {hFile : Nat} {files files' : σ} {szBuf : Bytes}
    (opens : api.fatFileOpen p.files p.hFat (p.gWavePlay k).szFilename = .ok (hFile, files))
    (some : hFile ≠ 0)
    (read : api.fatFileRead files hFile (p.gWavePlay k).szBuf waveBufSize =
      .ok (true, szBuf, files')) :
    waveplayOpen api garbage k p = .ok ⟨true, [.load waveBufSize szBuf],
      { p with files := files' }.setSong k { p.gWavePlay k with hFile, szBuf }⟩ := by
  rw [waveplayOpen_some api opens some]
  simp only [firstBlock, Globals.setSong_self, Globals.setSong_files, read]
  simp only [Except.map, ↓reduceIte, Globals.setSong, Function.update_idem]

/-- A successful start has opened the song's file, or found a true value in `bSuccess`, and
has prepared the song. -/
theorem waveplayStart_true {out : Outcome σ} (run : waveplayStart api garbage k p = .ok out)
    (success : out.ok = true) :
    k ≤ maxSongs ∧ ∃ first, waveplayOpen api garbage k p = .ok first ∧ first.ok = true ∧
      ∃ offset size, Prepared garbage k first.player offset size out.player := by
  unfold waveplayStart at run
  split at run
  · rename_i song
    refine ⟨song, ?_⟩
    split at run
    · contradiction
    · rename_i first opened
      split at run
      · rename_i read
        refine ⟨first, opened, read, ?_⟩
        rcases waveplayPrepare_cases run with ⟨failed, _⟩ | ⟨_, _, prepared⟩
        · rw [failed] at success
          contradiction
        · exact prepared
      · rename_i unread
        obtain rfl := Except.ok.inj run
        contradiction
  · contradiction

/-- What a call on a song leaves alone. -/
structure OnlySong (k : Nat) (p q : Globals σ) : Prop where
  hFat : q.hFat = p.hFat
  nFileNum : q.nFileNum = p.nFileNum
  szFilename : q.szFilename = p.szFilename
  name : (q.gWavePlay k).szFilename = (p.gWavePlay k).szFilename
  others : ∀ j, j ≠ k → q.gWavePlay j = p.gWavePlay j

/-- One step after another. -/
theorem OnlySong.trans {q r : Globals σ} (first : OnlySong k p q) (second : OnlySong k q r) :
    OnlySong k p r where
  hFat := second.hFat.trans first.hFat
  nFileNum := second.nFileNum.trans first.nFileNum
  szFilename := second.szFilename.trans first.szFilename
  name := second.name.trans first.name
  others j other := (second.others j other).trans (first.others j other)

/-- The song and the card change. -/
theorem OnlySong.set (files : σ) {context : PlaywaveContext}
    (name : context.szFilename = (p.gWavePlay k).szFilename) :
    OnlySong k p ({ p with files }.setSong k context) where
  hFat := rfl
  nFileNum := rfl
  szFilename := rfl
  name := by simpa using name
  others j other := Globals.setSong_other _ _ _ _ other

/-- Opening a song leaves the others alone. -/
theorem waveplayOpen_only {out : Outcome σ} (run : waveplayOpen api garbage k p = .ok out) :
    OnlySong k p out.player := by
  simp only [waveplayOpen] at run
  split at run
  · contradiction
  · rename_i hFile files opens
    have opened : OnlySong k p ({ p with files }.setSong k { p.gWavePlay k with hFile }) :=
      .set files rfl
    split at run
    · obtain rfl := Except.ok.inj run
      exact opened
    · split at run
      · contradiction
      · obtain rfl := Except.ok.inj run
        exact opened.trans (.set _ rfl)

/-- Starting a song leaves the others alone. -/
theorem waveplayStart_only {out : Outcome σ} (run : waveplayStart api garbage k p = .ok out) :
    OnlySong k p out.player := by
  unfold waveplayStart at run
  split at run
  · split at run
    · contradiction
    · rename_i first opened
      have only := waveplayOpen_only opened
      split at run
      · rcases waveplayPrepare_cases run with ⟨_, _, same⟩ | ⟨_, _, offset, size, prepared⟩
        · rw [same]
          exact only
        · rw [prepared.player]
          exact only.trans (.set _ rfl)
      · obtain rfl := Except.ok.inj run
        exact only
  · contradiction

/-- Refilling the buffer of a song leaves the others alone. -/
theorem refillLoop_only (fuel : Nat) {events : List Event} {out : Outcome σ}
    (run : refillLoop api k fuel events p = .ok out) : OnlySong k p out.player := by
  induction fuel generalizing events p with
  | zero => contradiction
  | succ fuel ih =>
    simp only [refillLoop] at run
    split at run
    · obtain rfl := Except.ok.inj run
      exact ⟨rfl, rfl, rfl, rfl, fun _ _ => rfl⟩
    · split at run
      · contradiction
      · rename_i szBuf files _
        have set : OnlySong k p ({ p with files }.setSong k { p.gWavePlay k with
            szBuf, uWaveReadPos := toU32 ((p.gWavePlay k).uWaveReadPos + readSize (p.gWavePlay k)) }) :=
          .set files rfl
        exact set.trans (ih run)
      · obtain rfl := Except.ok.inj run
        exact .set _ rfl

/-- A call of `waveplay_execute` leaves the other songs alone. -/
theorem waveplayExecute_only {out : Outcome σ} (run : waveplayExecute api garbage k p = .ok out) :
    OnlySong k p out.player := by
  unfold waveplayExecute at run
  split at run
  · split at run
    · cases started : waveplayStart api garbage k p with
      | error fault =>
        rw [started] at run
        contradiction
      | ok restart =>
        have only := waveplayStart_only started
        rw [started] at run
        obtain rfl := Except.ok.inj run
        exact only
    · split at run
      · contradiction
      · rename_i refill filled
        have only := refillLoop_only _ filled
        split at run
        · obtain rfl := Except.ok.inj run
          exact only.trans (.set refill.player.files rfl)
        · obtain rfl := Except.ok.inj run
          exact only
  · contradiction

/-- A call that does not begin the song again refills the buffer and plays it. -/
theorem waveplayExecute_onward (song : k ≤ maxSongs) (onward : ¬atEnd (p.gWavePlay k)) :
    waveplayExecute api garbage k p =
      match refillLoop api k (refillFuel (p.gWavePlay k)) [] p with
      | .error fault => .error fault
      | .ok refill =>
        if refill.ok then
          .ok ⟨true, refill.events ++ (playBuffer garbage k refill.player).1,
            (playBuffer garbage k refill.player).2⟩
        else .ok refill := by
  exact (if_pos song).trans (if_neg onward)

/-- A refill with unplayed bytes in the buffer does nothing. -/
theorem refillLoop_ready (fuel : Nat) (events : List Event)
    (ready : (p.gWavePlay k).uWavePlayPos < (p.gWavePlay k).uWaveReadPos) :
    refillLoop api k (fuel + 1) events p = .ok ⟨true, events, p⟩ := by
  simp only [refillLoop, ready, ↓reduceIte]

/-- A successful read in a refill moves the read position and goes on. -/
theorem refillLoop_read (fuel : Nat) (events : List Event) {szBuf : Bytes} {files : σ}
    (empty : (p.gWavePlay k).uWaveReadPos ≤ (p.gWavePlay k).uWavePlayPos)
    (read : api.fatFileRead p.files (p.gWavePlay k).hFile (p.gWavePlay k).szBuf
      (readSize (p.gWavePlay k)) = .ok (true, szBuf, files)) :
    refillLoop api k (fuel + 1) events p =
      refillLoop api k fuel (events ++ [.load (readSize (p.gWavePlay k)) szBuf])
        ({ p with files }.setSong k { p.gWavePlay k with
          szBuf
          uWaveReadPos :=
            toU32 ((p.gWavePlay k).uWaveReadPos + readSize (p.gWavePlay k)) }) := by
  simp only [refillLoop, Nat.not_lt.mpr empty, ↓reduceIte, read]

/-- The size of a read while the song has not ended. -/
theorem readSize_eq {context : PlaywaveContext}
    (onward : context.uWavePlayPos < context.uWaveMaxPlayPos)
    (range : context.uWaveMaxPlayPos < 4294967296) :
    readSize context = min 512 (context.uWaveMaxPlayPos - context.uWavePlayPos) := by
  simp only [readSize, waveBufSize]
  rw [toU32_of_fits _ (by omega) (by omega)]
  omega

/-- A read is of one block at most, and from the play position on it would not pass the end. -/
theorem readSize_bounds {context : PlaywaveContext}
    (onward : context.uWavePlayPos < context.uWaveMaxPlayPos)
    (range : context.uWaveMaxPlayPos < 4294967296) :
    0 < readSize context ∧ readSize context ≤ 512 ∧
      context.uWavePlayPos + readSize context ≤ context.uWaveMaxPlayPos := by
  have size := readSize_eq onward range
  omega

/-- So the read position of an empty buffer moves without wrapping. -/
theorem toU32_readPos {context : PlaywaveContext}
    (onward : context.uWavePlayPos < context.uWaveMaxPlayPos)
    (range : context.uWaveMaxPlayPos < 4294967296)
    (empty : context.uWaveReadPos ≤ context.uWavePlayPos) :
    toU32 (context.uWaveReadPos + readSize context) =
      context.uWaveReadPos + readSize context := by
  obtain ⟨_, _, inside⟩ := readSize_bounds onward range
  rw [← Int.natCast_add, toU32_natCast, Nat.mod_eq_of_lt (by omega)]

/-- With play and read position in order, the played size is their distance in whole
frames. -/
theorem playSize_eq {context : PlaywaveContext}
    (order : context.uWavePlayPos ≤ context.uWaveReadPos)
    (near : context.uWaveReadPos - context.uWavePlayPos < 2147483648) :
    playSize context = (4 * ((context.uWaveReadPos - context.uWavePlayPos) / 4) : Nat) := by
  obtain ⟨gap, rest⟩ := Nat.exists_eq_add_of_le order
  simp only [playSize]
  rw [toInt32_of_fits _ (by omega) (by omega), Int.tdiv_eq_ediv_of_nonneg (by omega)]
  omega

/-- Playing moves the play position behind the whole frames of the buffer. -/
theorem playBuffer_player (order : (p.gWavePlay k).uWavePlayPos ≤ (p.gWavePlay k).uWaveReadPos)
    (near : (p.gWavePlay k).uWaveReadPos ≤ (p.gWavePlay k).uWavePlayPos + 512)
    (range : (p.gWavePlay k).uWaveReadPos < 4294967296) :
    (playBuffer garbage k p).2 = p.setSong k { p.gWavePlay k with
      uWavePlayPos := (p.gWavePlay k).uWavePlayPos +
        4 * (((p.gWavePlay k).uWaveReadPos - (p.gWavePlay k).uWavePlayPos) / 4) } := by
  simp only [playBuffer, playSize_eq order (by omega)]
  congr 2
  rw [toU32_of_fits _ (by omega) (by omega), ← Int.natCast_add, Int.toNat_natCast]

/-- Playing hands over one frame for every four bytes between the two positions, read from the
buffer at the play position modulo its size. -/
theorem playBuffer_frames (order : (p.gWavePlay k).uWavePlayPos ≤ (p.gWavePlay k).uWaveReadPos)
    (near : (p.gWavePlay k).uWaveReadPos ≤ (p.gWavePlay k).uWavePlayPos + 512) :
    frames (playBuffer garbage k p).1 =
      (List.range (((p.gWavePlay k).uWaveReadPos - (p.gWavePlay k).uWavePlayPos) / 4)).map
        fun i => frameAt (bufView p.gWavePlay garbage k)
          (((p.gWavePlay k).uWavePlayPos % waveBufSize + 4 * i : Nat) : Int) := by
  have count : ((((4 * (((p.gWavePlay k).uWaveReadPos - (p.gWavePlay k).uWavePlayPos) / 4) :
      Nat) : Int)) / 4).toNat =
      ((p.gWavePlay k).uWaveReadPos - (p.gWavePlay k).uWavePlayPos) / 4 := by omega
  simp only [playBuffer, frames_map_dac, playedFrames, playSize_eq order (by omega), count]

/-- A start plays nothing. -/
theorem waveplayStart_frames {out : Outcome σ}
    (run : waveplayStart api garbage k p = .ok out) : frames out.events = [] := by
  have block : ∀ {ok : Bool} {szBuf : Bytes},
      frames (if ok = true then [.load waveBufSize szBuf] else []) = [] := by
    intro ok szBuf
    cases ok <;> rfl
  unfold waveplayStart at run
  split at run
  · split at run
    · contradiction
    · rename_i first opened
      have quiet : frames first.events = [] := by
        simp only [waveplayOpen] at opened
        split at opened
        · contradiction
        · split at opened
          · obtain rfl := Except.ok.inj opened
            rfl
          · split at opened
            · contradiction
            · obtain rfl := Except.ok.inj opened
              exact block
      split at run
      · rcases waveplayPrepare_cases run with ⟨_, same, _⟩ | ⟨_, ⟨sampleRate, set⟩, _⟩
        · rw [same]
          exact quiet
        · rw [set, frames_append, quiet]
          rfl
      · obtain rfl := Except.ok.inj run
        exact quiet
  · contradiction

/-- At its end a song is started again, and plays nothing. -/
theorem waveplayExecute_ended {out : Outcome σ} (ended : atEnd (p.gWavePlay k))
    (run : waveplayExecute api garbage k p = .ok out) :
    frames out.events = [] ∧ ∃ restart, waveplayStart api garbage k p = .ok restart ∧
      out.player = restart.player := by
  unfold waveplayExecute at run
  split at run
  · obtain ⟨restart, started, rfl⟩ := map_eq_ok run
    have quiet := waveplayStart_frames started
    exact ⟨quiet, restart, started, rfl⟩
  · contradiction

/-- A call that does not begin the song again refills the buffer, and plays it if that works. -/
theorem waveplayExecute_refill {out : Outcome σ} (onward : ¬atEnd (p.gWavePlay k))
    (run : waveplayExecute api garbage k p = .ok out) :
    ∃ refill, refillLoop api k (refillFuel (p.gWavePlay k)) [] p = .ok refill ∧
      ((refill.ok = true ∧ out.player = (playBuffer garbage k refill.player).2 ∧
          out.events = refill.events ++ (playBuffer garbage k refill.player).1) ∨
        (refill.ok = false ∧ out = refill)) := by
  unfold waveplayExecute at run
  split at run
  · split at run
    · contradiction
    · rename_i refill filled
      refine ⟨refill, filled, ?_⟩
      split at run
      · rename_i ok
        obtain rfl := Except.ok.inj run
        exact .inl ⟨ok, rfl, rfl⟩
      · rename_i failed
        obtain rfl := Except.ok.inj run
        exact .inr ⟨by simpa using failed, rfl⟩
  · contradiction

/-- Less than a frame of the buffer is unplayed. -/
def Leftover (context : PlaywaveContext) : Prop :=
  context.uWavePlayPos < context.uWaveReadPos ∧ context.uWaveReadPos < context.uWavePlayPos + 4

/-- The positions are 32-bit numbers, and at most one block is unplayed. -/
structure PlaywaveContext.InRange (context : PlaywaveContext) : Prop where
  play : context.uWavePlayPos < 4294967296
  read : context.uWaveReadPos < 4294967296
  last : context.uWaveMaxPlayPos < 4294967296
  block : context.uWaveReadPos ≤ context.uWavePlayPos + 512

/-- With less than a frame in the buffer a call does nothing. -/
theorem waveplayExecute_leftover {out : Outcome σ} (range : (p.gWavePlay k).InRange)
    (onward : ¬atEnd (p.gWavePlay k)) (few : Leftover (p.gWavePlay k))
    (run : waveplayExecute api garbage k p = .ok out) :
    frames out.events = [] ∧ out.player = p := by
  obtain ⟨ready, short⟩ := few
  obtain ⟨refill, filled, played⟩ := waveplayExecute_refill onward run
  rw [refillFuel, refillLoop_ready _ _ ready] at filled
  obtain rfl := Except.ok.inj filled
  have none_ : ((p.gWavePlay k).uWaveReadPos - (p.gWavePlay k).uWavePlayPos) / 4 = 0 := by omega
  rcases played with ⟨_, player, events⟩ | ⟨failed, _⟩
  · rw [player, events]
    constructor
    · rw [frames_append, playBuffer_frames (Nat.le_of_lt ready) range.block, none_]
      rfl
    · rw [playBuffer_player (Nat.le_of_lt ready) range.block range.read, none_]
      exact congrArg (fun gWavePlay => { p with gWavePlay }) (Function.update_eq_self k p.gWavePlay)
  · contradiction

/-- `n` calls of `waveplay_execute` in a row, none of which begins the song again, with the
events they produce. -/
inductive Plays (api : FileApi σ) (garbage : Nat → Garbage) (k : Nat) (p : Globals σ) :
    Nat → List Event → Globals σ → Prop where
  | nil : Plays api garbage k p 0 [] p
  | snoc {n : Nat} {events : List Event} {q : Globals σ} {out : Outcome σ} :
      Plays api garbage k p n events q → ¬atEnd (q.gWavePlay k) →
      waveplayExecute api (garbage n) k q = .ok out →
      Plays api garbage k p (n + 1) (events ++ out.events) out.player

/-- A property of the run so far that every onward call keeps holds after every run. -/
theorem Plays.invariant {garbage : Nat → Garbage} (holds : List Event → Globals σ → Prop)
    (initial : holds [] p)
    (kept : ∀ n events q out, holds events q → ¬atEnd (q.gWavePlay k) →
      waveplayExecute api (garbage n) k q = .ok out → holds (events ++ out.events) out.player)
    {n : Nat} {events : List Event} {q : Globals σ}
    (run : Plays api garbage k p n events q) : holds events q := by
  induction run with
  | nil => exact initial
  | snoc _ onward call ih => exact kept _ _ _ _ ih onward call

end SoundBoard.Player
