import SoundBoard.Fat.Chain
import SoundBoard.Player.SongFiles

/-!
# Songs on one card

Calls on different songs, interleaved. The songs share the volume's cache, and the header
queries may look past a song's block into the entries of other songs. A run is compared with
the run of the calls on one song alone; the two agree when that song's headers lie inside its
block (`HeaderInBlock`).
-/

namespace SoundBoard.Player

open SoundBoard.Lib SoundBoard.Fat SoundBoard.Wave

/-! ## Runs of calls -/

/-- A call on a song, with the uninitialised memory that it finds. -/
structure Call where
  songnummer : Nat
  /-- `waveplay_execute`, or else `waveplay_start`. -/
  execute : Bool
  garbage : Garbage

/-- Make a call. -/
def Call.run (call : Call) (p : Globals Heap) : Exec (Outcome Heap) :=
  if call.execute then waveplayExecute fatApi call.garbage call.songnummer p
  else waveplayStart fatApi call.garbage call.songnummer p

/-- Make calls one after the other; of the frames, keep those of one song. -/
def playCalls (song : Nat) : List Call → Globals Heap → Exec (List Frame × Globals Heap)
  | [], p => .ok ([], p)
  | call :: calls, p =>
    match call.run p with
    | .error fault => .error fault
    | .ok out =>
      (playCalls song calls out.player).map fun rest =>
        ((if call.songnummer = song then frames out.events else []) ++ rest.1, rest.2)

/-- A song is in the same state in two runs. The address of its file record is where the two
may differ. -/
structure SameSong (song : Nat) (p q : Globals Heap) : Prop where
  context : q.gWavePlay song = { p.gWavePlay song with hFile := (q.gWavePlay song).hFile }
  opened : (p.gWavePlay song).hFile = 0 ↔ (q.gWavePlay song).hFile = 0
  file : (p.gWavePlay song).hFile ≠ 0 →
    p.files.files (p.gWavePlay song).hFile = q.files.files (q.gWavePlay song).hFile

/-- The calls on a song play the same frames, and leave the song in the same state, as when
they are made alone. -/
def Isolated (song : Nat) (calls : List Call) (p : Globals Heap) : Prop :=
  ∀ played q, playCalls song calls p = .ok (played, q) →
    ∃ q', playCalls song (calls.filter fun call => call.songnummer = song) p = .ok (played, q') ∧
      SameSong song q q'

/-! ## The condition -/

/-- A heap that holds nothing but the volume of a card. -/
def cardHeap (image : Nat → Bytes) (geometry : VolumeInfo) (hFat : Nat) : Heap where
  next := hFat + 1
  volumes := Function.update (fun _ => none) hFat (some (geometry.cache image 0 0))
  files := fun _ => none

/-- On a card, the file of a name opens, and its chunk headers lie inside its first block. -/
def HeaderInBlock (image : Nat → Bytes) (geometry : VolumeInfo) (hFat : Nat) (name : Name) : Prop :=
  ∃ hFile heap, fatFileOpen (cardHeap image geometry hFat) hFat name = .ok (hFile, heap) ∧
    hFile ≠ 0 ∧ ∀ szBuf block last,
      fatFileRead heap hFile szBuf waveBufSize = .ok (true, block, last) →
        HeaderStays (fun i => block i.toNat) waveBufSize

/-! ## Positions -/

variable {image : Nat → Bytes} {geometry : VolumeInfo} {p q : Globals Heap} {song : Nat}
  {garbage : Garbage} {out : Outcome Heap}

/-- The unplayed bytes of a song lie in one block of its file, and the read position is at the
end of a block or behind the song. -/
structure Steady (playPos readPos maxPlayPos : Nat) : Prop where
  order : playPos ≤ readPos
  block : readPos ≤ (playPos / 512 + 1) * 512
  whole : readPos % 512 = 0 ∨ maxPlayPos ≤ readPos
  range : readPos < 4294967296 ∧ maxPlayPos < 4294967296

/-- A context with steady positions. -/
def PlaywaveContext.Steady (context : PlaywaveContext) : Prop :=
  Player.Steady context.uWavePlayPos context.uWaveReadPos context.uWaveMaxPlayPos

/-- A cleared context is steady. -/
theorem PlaywaveContext.steady_cleared : PlaywaveContext.cleared.Steady :=
  ⟨Nat.le_refl 0, Nat.zero_le 512, .inl rfl, by decide⟩

/-- A song whose samples begin in the first block is steady when it is started. -/
theorem PlaywaveContext.steady_prepared (context : PlaywaveContext) {offset : Int} (size : Int)
    (low : 0 ≤ offset) (high : offset ≤ 512) : (context.prepared offset size).Steady := by
  have position : toU32 offset = offset.toNat := toU32_of_fits _ low (by omega)
  have last := toU32_lt (toU32 offset + size)
  change Player.Steady (toU32 offset) 512 (toU32 (toU32 offset + size))
  refine ⟨?_, ?_, ?_, ?_⟩ <;> omega

/-- A refill keeps a song steady and gives it unplayed bytes. -/
theorem PlaywaveContext.Steady.refill {context : PlaywaveContext} (steady : context.Steady)
    (onward : ¬atEnd context) (empty : context.uWaveReadPos ≤ context.uWavePlayPos) :
    Player.Steady context.uWavePlayPos (toU32 (context.uWaveReadPos + readSize context))
      context.uWaveMaxPlayPos ∧
    context.uWavePlayPos < toU32 (context.uWaveReadPos + readSize context) := by
  obtain ⟨order, block, whole, range⟩ := steady
  simp only [atEnd, Nat.not_le] at onward
  have size := readSize_eq onward range.2
  rw [toU32_readPos onward range.2 empty]
  refine ⟨⟨?_, ?_, ?_, ?_, range.2⟩, ?_⟩ <;> omega

/-- Playing keeps a song steady. -/
theorem PlaywaveContext.Steady.play {context : PlaywaveContext} (steady : context.Steady) :
    Player.Steady (context.uWavePlayPos +
        4 * ((context.uWaveReadPos - context.uWavePlayPos) / 4))
      context.uWaveReadPos context.uWaveMaxPlayPos := by
  obtain ⟨order, block, whole, range⟩ := steady
  have played := Nat.mul_div_le (context.uWaveReadPos - context.uWavePlayPos) 4
  generalize 4 * ((context.uWaveReadPos - context.uWavePlayPos) / 4) = size at played ⊢
  have onward : context.uWavePlayPos / 512 ≤ (context.uWavePlayPos + size) / 512 :=
    Nat.div_le_div_right (Nat.le_add_right _ _)
  refine ⟨by omega, ?_, whole, range⟩
  exact Nat.le_trans block (Nat.mul_le_mul_right 512 (Nat.succ_le_succ onward))

/-! ## Calls on the song itself -/

/-- Two runs in which a song is in the same state. -/
structure Paired (image : Nat → Bytes) (geometry : VolumeInfo) (song : Nat) (p q : Globals Heap) :
    Prop where
  left : Ready image geometry p
  right : Ready image geometry q
  volume : q.hFat = p.hFat
  same : SameSong song p q
  steady : (p.gWavePlay song).Steady
  header : HeaderInBlock image geometry p.hFat (p.gWavePlay song).szFilename

/-- Two calls with the same result, which leave the song in the same state. -/
structure SameOutcome (image : Nat → Bytes) (geometry : VolumeInfo) (song : Nat)
    (a b : Outcome Heap) : Prop where
  ok : b.ok = a.ok
  events : b.events = a.events
  paired : Paired image geometry song a.player b.player

/-- The same change of the song in both runs, other than of its file and its name. -/
theorem Paired.change (paired : Paired image geometry song p q)
    (change : PlaywaveContext → PlaywaveContext)
    (blind : ∀ context hFile, change { context with hFile } = { change context with hFile })
    (name : ∀ context, (change context).szFilename = context.szFilename)
    (steady : (change (p.gWavePlay song)).Steady) :
    Paired image geometry song (p.setSong song (change (p.gWavePlay song)))
      (q.setSong song (change (q.gWavePlay song))) := by
  obtain ⟨left, right, volume, ⟨context, opened, file⟩, _, header⟩ := paired
  have keeps : ∀ context, (change context).hFile = context.hFile := fun context => by
    have same := congrArg PlaywaveContext.hFile (blind context context.hFile)
    exact same
  refine ⟨left.setSong (keeps _), right.setSong (keeps _), volume, ⟨?_, ?_, ?_⟩, ?_, ?_⟩
  · simp only [Globals.setSong_self, keeps]
    rw [context, blind]
  · simpa only [Globals.setSong_self, keeps] using opened
  · simpa only [Globals.setSong_self, Globals.setSong_files, keeps] using file
  · simpa only [Globals.setSong_self] using steady
  · simpa only [Globals.setSong_self, Globals.setSong_hFat, name] using header

/-- Both runs read the song's file. -/
theorem Paired.read (paired : Paired image geometry song p q) (szBuf : Bytes) (n : Nat) :
    Agree (fun a b => b.1 = a.1 ∧ b.2.1 = a.2.1 ∧
        Paired image geometry song { p with files := a.2.2 } { q with files := b.2.2 })
      (fatFileRead p.files (p.gWavePlay song).hFile szBuf n)
      (fatFileRead q.files (q.gWavePlay song).hFile szBuf n) := by
  obtain ⟨left, right, volume, ⟨context, opened, file⟩, steady, header⟩ := id paired
  by_cases none : (p.gWavePlay song).hFile = 0
  · have none' := opened.mp none
    simp only [fatFileRead, none, none', ↓reduceIte]
    exact .ok ⟨rfl, rfl, paired⟩
  have none' := mt opened.mpr none
  obtain ⟨record, found, fat⟩ := left.opened song none
  have found' := (file none).symm.trans found
  have mounted' := right.mounted
  rw [volume] at mounted'
  have agree := fatFileRead_agree left.mounted mounted' ⟨none, found⟩ ⟨none', found'⟩ fat szBuf n
  generalize run : fatFileRead p.files (p.gWavePlay song).hFile szBuf n = a at agree
  generalize run' : fatFileRead q.files (q.gWavePlay song).hFile szBuf n = b at agree
  cases agree with
  | error fault => exact .error fault
  | @ok a b both =>
    obtain ⟨success, buffer, after, identity, reads, reads'⟩ := both
    refine .ok ⟨success.symm, buffer.symm, (left.read none run).1, (right.read none' run').1,
      volume, ⟨context, opened, fun _ => ?_⟩, steady, header⟩
    obtain ⟨_, _, same⟩ := reads
    obtain ⟨_, _, same'⟩ := reads'
    simp only [same, same', Heap.setVolume, Heap.setFile, Function.update_self]

/-- Inside the block both runs see the same memory. -/
theorem Paired.sameBlock (paired : Paired image geometry song p q) (garbage garbage' : Garbage)
    (inside : song ≤ maxSongs) : SameBlock (bufView p.gWavePlay garbage song)
      (bufView q.gWavePlay garbage' song) waveBufSize := by
  intro i low high
  rw [bufView_inside _ _ inside low high, bufView_inside _ _ inside low high, paired.same.context]

/-- Both runs prepare the song from the same header. -/
theorem Paired.prepare (paired : Paired image geometry song p q) (inside : song ≤ maxSongs)
    (garbage' : Garbage) (stays : HeaderStays (bufView p.gWavePlay garbage song) waveBufSize) (events : List Event) :
    Agree (SameOutcome image geometry song) (waveplayPrepare garbage song events p)
      (waveplayPrepare garbage' song events q) := by
  have block := paired.sameBlock garbage garbage' inside
  have check := headerCheck_same block stays
  simp only [waveplayPrepare, ← check]
  cases checked : headerCheck (bufView p.gWavePlay garbage song) waveBufSize with
  | none => exact .error _
  | some answer =>
    obtain ⟨sampleRate, accepted⟩ := answer
    cases accepted with
    | false => exact .ok ⟨rfl, rfl, paired⟩
    | true =>
      have data := stays.data ⟨sampleRate, checked⟩
      simp only [← waveGetWaveOffset_same block data, ← waveGetDataByteSize_same block data]
      cases offsetRead : waveGetWaveOffset (bufView p.gWavePlay garbage song) waveBufSize with
      | none => exact .error _
      | some offset =>
        cases sizeRead : waveGetDataByteSize (bufView p.gWavePlay garbage song) waveBufSize with
        | none => exact .error _
        | some size =>
          obtain ⟨low, high⟩ := waveGetWaveOffset_range data (by decide) (by decide) offsetRead
          exact .ok ⟨rfl, rfl, paired.change (·.prepared offset size) (fun _ _ => rfl)
            (fun _ => rfl)
            (PlaywaveContext.steady_prepared _ _ low high)⟩

/-- The card's own heap has its volume mounted. -/
theorem cardHeap_mounted (device : geometry.readBlock512.Holds image) (hFat : Nat) :
    (cardHeap image geometry hFat).Mounted image geometry hFat :=
  ⟨geometry.cache image 0 0, by simp [cardHeap], device, 0, 0, rfl⟩

/-- A file whose header lies in its first block is found in every heap over the card, and the
block that is read from it first has such a header. -/
theorem HeaderInBlock.found {hFat : Nat} {name : Name} {heap : Heap}
    (header : HeaderInBlock image geometry hFat name) (mounted : heap.Mounted image geometry hFat)
    (positive : 0 < heap.next) :
    ∃ hFile opened, fatFileOpen heap hFat name = .ok (hFile, opened) ∧ hFile ≠ 0 ∧
      ∀ szBuf block last, fatFileRead opened hFile szBuf waveBufSize = .ok (true, block, last) →
        HeaderStays (fun i => block i.toNat) waveBufSize := by
  obtain ⟨hFile, opened, opens, some, stays⟩ := header
  have device : geometry.readBlock512.Holds image := by
    obtain ⟨_, _, card⟩ := mounted
    exact card.device
  have agree := fatFileOpen_agree (cardHeap_mounted device hFat) mounted name
  rw [opens] at agree
  obtain ⟨answer, same, both⟩ := agree.of_ok
  cases both with
  | none one two => exact absurd rfl some
  | @found card after context one two =>
    have next : after.next ≠ 0 := by
      obtain ⟨_, _, rfl⟩ := two
      exact Nat.ne_of_gt positive
    refine ⟨_, _, same, next, fun szBuf block last read => ?_⟩
    have left : (after.allocFile (openedFile hFat context)).2.Mounted image geometry hFat :=
      two.mounted
    have right : (card.allocFile (openedFile hFat context)).2.Mounted image geometry hFat :=
      one.mounted
    obtain ⟨⟨success, block', last'⟩, read', ⟨rfl, rfl, _⟩⟩ :=
      (read ▸ fatFileRead_agree left right ⟨next, after.allocFile_files _⟩
        ⟨some, card.allocFile_files _⟩ rfl szBuf waveBufSize).of_ok
    exact stays szBuf block last' read'

/-- The song gets a new file for the same entry in both runs. -/
theorem Paired.alloc {heap heap' : Heap} (paired : Paired image geometry song p q)
    (reads : p.files.Reads image geometry p.hFat heap)
    (reads' : q.files.Reads image geometry p.hFat heap') (context : FileContext) :
    Paired image geometry song
      ({ p with files := (heap.allocFile (openedFile p.hFat context)).2 }.setSong song
        { p.gWavePlay song with hFile := heap.next })
      ({ q with files := (heap'.allocFile (openedFile p.hFat context)).2 }.setSong song
        { q.gWavePlay song with hFile := heap'.next }) := by
  obtain ⟨left, right, volume, same, steady, header⟩ := paired
  rw [← volume] at reads'
  have before := left.reads reads
  have before' := right.reads reads'
  have some := Nat.ne_of_gt before.positive
  have some' := Nat.ne_of_gt before'.positive
  refine ⟨before.alloc song _ rfl, before'.alloc song _ volume.symm, volume, ⟨?_, ?_, fun _ => ?_⟩,
    ?_, ?_⟩
  · simp only [Globals.setSong_self]
    rw [same.context]
  · simp only [Globals.setSong_self]
    exact iff_of_false some some'
  · simp [Heap.allocFile]
  · rw [Globals.setSong_self]
    exact steady
  · simpa only [Globals.setSong_self, Globals.setSong_hFat] using header

/-- Both runs read the first block of the song. -/
theorem Paired.firstBlock (paired : Paired image geometry song p q) (inside : song ≤ maxSongs)
    (stays : ∀ szBuf block last, fatFileRead p.files (p.gWavePlay song).hFile szBuf waveBufSize =
      .ok (true, block, last) → HeaderStays (fun i => block i.toNat) waveBufSize) :
    Agree (fun a b => SameOutcome image geometry song a b ∧ (a.ok = true →
        HeaderStays (bufView a.player.gWavePlay garbage song) waveBufSize))
      (firstBlock fatApi song p) (firstBlock fatApi song q) := by
  have read := paired.read (p.gWavePlay song).szBuf waveBufSize
  have buffer : (q.gWavePlay song).szBuf = (p.gWavePlay song).szBuf := by
    rw [paired.same.context]
  simp only [Player.firstBlock, fatApi, buffer]
  generalize run : fatFileRead p.files (p.gWavePlay song).hFile (p.gWavePlay song).szBuf
    waveBufSize = a at read ⊢
  generalize fatFileRead q.files (q.gWavePlay song).hFile (p.gWavePlay song).szBuf
    waveBufSize = b at read ⊢
  cases read with
  | error fault => exact .error fault
  | @ok a b both =>
    obtain ⟨ok, block, files⟩ := a
    obtain ⟨ok', block', files'⟩ := b
    obtain ⟨rfl, rfl, after⟩ := both
    refine .ok ⟨⟨rfl, rfl, after.change (fun context => { context with szBuf := block' })
      (fun _ _ => rfl) (fun _ => rfl) after.steady⟩, fun success => ?_⟩
    obtain rfl : ok' = true := success
    refine HeaderStays.same (fun i low high => ?_) (stays _ _ _ run)
    rw [bufView_inside _ _ inside low high]
    simp

/-- Both runs open the song's file and read its first block. -/
theorem Paired.open (paired : Paired image geometry song p q) (inside : song ≤ maxSongs)
    (garbage garbage' : Garbage) :
    Agree (fun a b => SameOutcome image geometry song a b ∧ (a.ok = true →
        HeaderStays (bufView a.player.gWavePlay garbage song) waveBufSize))
      (waveplayOpen fatApi garbage song p) (waveplayOpen fatApi garbage' song q) := by
  obtain ⟨left, right, volume, same, steady, header⟩ := id paired
  obtain ⟨hFile, opened, opens, some, stays⟩ := header.found left.mounted left.positive
  have mounted' := right.mounted
  rw [volume] at mounted'
  have agree := fatFileOpen_agree left.mounted mounted' (p.gWavePlay song).szFilename
  rw [opens] at agree
  obtain ⟨⟨hFile', opened'⟩, opens', both⟩ := agree.of_ok
  have name : (q.gWavePlay song).szFilename = (p.gWavePlay song).szFilename := by
    rw [same.context]
  rw [← volume, ← name] at opens'
  cases both with
  | none one two => exact absurd rfl some
  | @found heap heap' context one two =>
    have some' : heap'.next ≠ 0 := by
      obtain ⟨_, _, rfl⟩ := two
      exact Nat.ne_of_gt right.positive
    rw [waveplayOpen_some fatApi opens some, waveplayOpen_some fatApi opens' some']
    refine (paired.alloc one two context).firstBlock inside fun szBuf block last read => ?_
    rw [Globals.setSong_self] at read
    exact stays szBuf block last read

/-- Both runs start the song. -/
theorem Paired.start (paired : Paired image geometry song p q) (garbage garbage' : Garbage) :
    Agree (SameOutcome image geometry song) (waveplayStart fatApi garbage song p)
      (waveplayStart fatApi garbage' song q) := by
  simp only [Player.waveplayStart]
  by_cases inside : song ≤ maxSongs
  · simp only [inside, ↓reduceIte]
    have opens := paired.open inside garbage garbage'
    generalize Player.waveplayOpen fatApi garbage song p = a at opens ⊢
    generalize Player.waveplayOpen fatApi garbage' song q = b at opens ⊢
    cases opens with
    | error fault => exact .error fault
    | @ok a b both =>
      obtain ⟨⟨ok, events, after⟩, stays⟩ := both
      simp only [ok, events]
      cases success : a.ok with
      | false => exact .ok ⟨ok, events, after⟩
      | true => exact after.prepare inside garbage' (stays success) _
  · simp only [inside, ↓reduceIte]
    exact .error _

/-- Both runs refill the song's buffer. -/
theorem Paired.refillLoop (fuel : Nat) (events : List Event)
    (paired : Paired image geometry song p q) (onward : ¬atEnd (p.gWavePlay song)) :
    Agree (SameOutcome image geometry song) (refillLoop fatApi song fuel events p)
      (refillLoop fatApi song fuel events q) := by
  induction fuel generalizing p q events with
  | zero => exact .error _
  | succ fuel ih =>
    have context := paired.same.context
    have buffer : (q.gWavePlay song).szBuf = (p.gWavePlay song).szBuf := by rw [context]
    have readPos : (q.gWavePlay song).uWaveReadPos = (p.gWavePlay song).uWaveReadPos := by
      rw [context]
    have playPos : (q.gWavePlay song).uWavePlayPos = (p.gWavePlay song).uWavePlayPos := by
      rw [context]
    have size : readSize (q.gWavePlay song) = readSize (p.gWavePlay song) := by
      rw [context]
      rfl
    simp only [Player.refillLoop, buffer, size]
    by_cases ready : (p.gWavePlay song).uWavePlayPos < (p.gWavePlay song).uWaveReadPos
    · rw [if_pos ready, if_pos (by omega)]
      exact .ok ⟨rfl, rfl, paired⟩
    · rw [if_neg ready, if_neg (by omega)]
      have read := paired.read (p.gWavePlay song).szBuf (readSize (p.gWavePlay song))
      simp only [fatApi]
      generalize fatFileRead p.files (p.gWavePlay song).hFile _ _ = a at read ⊢
      generalize fatFileRead q.files (q.gWavePlay song).hFile _ _ = b at read ⊢
      cases read with
      | error fault => exact .error fault
      | @ok a b both =>
        obtain ⟨ok, block, files⟩ := a
        obtain ⟨ok', block', files'⟩ := b
        obtain ⟨rfl, rfl, after⟩ := both
        cases ok' with
        | false =>
          exact .ok ⟨rfl, rfl, after.change (fun context => { context with szBuf := block' })
            (fun _ _ => rfl) (fun _ => rfl) after.steady⟩
        | true =>
          obtain ⟨steady, _⟩ := paired.steady.refill onward (Nat.not_lt.mp ready)
          rw [readPos]
          have step := after.change (fun context => { context with
              szBuf := block'
              uWaveReadPos := toU32 (context.uWaveReadPos + readSize context) })
            (fun _ _ => rfl) (fun _ => rfl) steady
          simp only [readPos, size] at step
          refine ih _ step ?_
          simpa [atEnd] using onward

/-- Both runs play the same frames. -/
theorem Paired.playedFrames (paired : Paired image geometry song p q) (inside : song ≤ maxSongs)
    (garbage garbage' : Garbage) : playedFrames garbage' song q = playedFrames garbage song p := by
  obtain ⟨order, block, _, range⟩ := paired.steady
  have same := paired.sameBlock garbage garbage' inside
  have size : playSize (q.gWavePlay song) = playSize (p.gWavePlay song) := by
    rw [paired.same.context]
    rfl
  have playPos : (q.gWavePlay song).uWavePlayPos = (p.gWavePlay song).uWavePlayPos := by
    rw [paired.same.context]
  simp only [Player.playedFrames, size, playPos]
  refine List.map_congr_left fun i member => ?_
  have last := List.mem_range.mp member
  rw [playSize_eq order (by omega)] at last
  have within : (p.gWavePlay song).uWavePlayPos % 512 + 4 * i + 4 ≤ 512 := by omega
  simp only [frameAt, waveBufSize]
  rw [u16At_same same (by simp only [waveBufSize]; omega),
    u16At_same same (by simp only [waveBufSize]; omega)]

/-- Both runs execute the song. -/
theorem Paired.execute (paired : Paired image geometry song p q) (garbage garbage' : Garbage) :
    Agree (SameOutcome image geometry song) (waveplayExecute fatApi garbage song p)
      (waveplayExecute fatApi garbage' song q) := by
  simp only [Player.waveplayExecute]
  by_cases inside : song ≤ maxSongs
  · simp only [inside, ↓reduceIte]
    have ends : atEnd (q.gWavePlay song) ↔ atEnd (p.gWavePlay song) := by
      rw [paired.same.context]
      rfl
    have fuel : refillFuel (q.gWavePlay song) = refillFuel (p.gWavePlay song) := by
      rw [paired.same.context]
      rfl
    by_cases ended : atEnd (p.gWavePlay song)
    · rw [if_pos ended, if_pos (ends.mpr ended)]
      exact (paired.start garbage garbage').map fun a b same => ⟨rfl, same.events, same.paired⟩
    · rw [if_neg ended, if_neg (mt ends.mp ended), fuel]
      have refill := paired.refillLoop (refillFuel (p.gWavePlay song)) [] ended
      generalize Player.refillLoop fatApi song _ [] p = a at refill ⊢
      generalize Player.refillLoop fatApi song _ [] q = b at refill ⊢
      cases refill with
      | error fault => exact .error fault
      | @ok a b both =>
        obtain ⟨ok, events, after⟩ := both
        simp only [ok, events]
        cases success : a.ok with
        | false => exact .ok ⟨ok, events, after⟩
        | true =>
          refine .ok ⟨rfl, ?_, ?_⟩
          · simp only [playBuffer, after.playedFrames inside garbage garbage']
          · obtain ⟨order, block, _, range⟩ := id after.steady
            refine after.change (fun context => { context with
                uWavePlayPos := toU32 (context.uWavePlayPos + playSize context) })
              (fun _ _ => rfl) (fun _ => rfl) ?_
            have position := Nat.mul_div_le
              ((a.player.gWavePlay song).uWaveReadPos - (a.player.gWavePlay song).uWavePlayPos) 4
            have step := after.steady.play
            rw [PlaywaveContext.Steady, playSize_eq order (by omega), ← Int.natCast_add,
              toU32_natCast, Nat.mod_eq_of_lt (by omega)]
            exact step
  · simp only [inside, ↓reduceIte]
    exact .error _

/-! ## Runs -/

/-- Both runs make a call on the song. -/
theorem Paired.call (paired : Paired image geometry song p q) (call : Call)
    (own : call.songnummer = song) :
    Agree (SameOutcome image geometry song) (call.run p) (call.run q) := by
  subst own
  unfold Call.run
  split
  · exact paired.execute call.garbage call.garbage
  · exact paired.start call.garbage call.garbage

/-- A call on any song. -/
theorem Ready.call (ready : Ready image geometry p) {call : Call} (run : call.run p = .ok out) :
    Ready image geometry out.player ∧
      ∀ song, song ≠ call.songnummer → KeepsSong song p out.player := by
  unfold Call.run at run
  split at run
  · exact ready.waveplayExecute run
  · exact ready.waveplayStart run

/-- A step of the first run that leaves the song alone. -/
theorem Paired.skip {r : Globals Heap} (paired : Paired image geometry song p q)
    (ready : Ready image geometry r) (keeps : KeepsSong song p r) :
    Paired image geometry song r q := by
  obtain ⟨_, right, volume, ⟨context, opened, file⟩, steady, header⟩ := paired
  obtain ⟨hFat, context', file'⟩ := keeps
  refine ⟨ready, right, volume.trans hFat.symm, ⟨?_, ?_, ?_⟩, ?_, ?_⟩
  · rw [context']
    exact context
  · rw [context']
    exact opened
  · rw [context']
    exact fun some => (file' some).trans (file some)
  · rw [context']
    exact steady
  · rw [context', hFat]
    exact header

/-- From two states in which a song is the same, the run with all calls and the run with the
song's own calls play the same frames of it. -/
theorem Paired.run (calls : List Call) (paired : Paired image geometry song p q)
    {played : List Frame} {p' : Globals Heap} (run : playCalls song calls p = .ok (played, p')) :
    ∃ q', playCalls song (calls.filter fun call => call.songnummer = song) q =
      .ok (played, q') ∧ SameSong song p' q' := by
  induction calls generalizing p q played with
  | nil =>
    obtain ⟨rfl, rfl⟩ := Prod.mk.inj (Except.ok.inj run)
    exact ⟨q, rfl, paired.same⟩
  | cons call calls ih =>
    simp only [playCalls] at run
    split at run
    · contradiction
    · rename_i out called
      cases rest : playCalls song calls out.player with
      | error fault =>
        rw [rest] at run
        contradiction
      | ok both =>
        obtain ⟨onward, last⟩ := both
        rw [rest] at run
        obtain ⟨rfl, rfl⟩ := Prod.mk.inj (Except.ok.inj run)
        by_cases own : call.songnummer = song
        · have agree := paired.call call own
          rw [called] at agree
          obtain ⟨out', called', ok, events, after⟩ := agree.of_ok
          obtain ⟨q', run', same⟩ := ih after rest
          refine ⟨q', ?_, same⟩
          simp only [List.filter_cons, own, decide_true, ↓reduceIte, playCalls, called', run',
            events]
          rfl
        · obtain ⟨ready, keeps⟩ := paired.left.call called
          obtain ⟨q', run', same⟩ := ih (paired.skip ready (keeps song (Ne.symm own))) rest
          refine ⟨q', ?_, same⟩
          simpa only [List.filter_cons, own, decide_false, ↓reduceIte, Bool.false_eq_true,
            List.nil_append] using run'

/-! ## Listed songs -/

/-- The globals after the card has been mounted and listed, with every context cleared before. -/
def Listed (image : Nat → Bytes) (geometry : VolumeInfo) (p : Globals Heap) : Prop :=
  ∃ (before : Globals Heap) (garbage : Nat → Garbage) (count : Nat),
    Fresh image geometry ∧ before.hFat ≠ 0 ∧
      before.files.volumes before.hFat = some geometry ∧ 0 < before.files.next ∧
      (∀ hFile, before.files.files hFile = none) ∧ (∀ k, before.gWavePlay k = .cleared) ∧
      buildWavePlayList fatApi garbage before = .ok (count, p)

/-- What every pass of the listing keeps for a song. -/
structure Listing (image : Nat → Bytes) (geometry : VolumeInfo) (song : Nat)
    (st : ListState Heap) : Prop where
  ready : Ready image geometry st.player
  handle : st.hFileBrowse.hFat = st.player.hFat
  cleared : ∀ k, st.count ≤ k → st.player.gWavePlay k = .cleared
  steady : HeaderInBlock image geometry st.player.hFat (st.player.gWavePlay song).szFilename →
    (st.player.gWavePlay song).Steady

variable {st st' : ListState Heap}

/-- Another state of the card. -/
theorem Listing.setFiles {files : Heap} (listing : Listing image geometry song st)
    (ready : Ready image geometry { st.player with files }) :
    Listing image geometry song (st.setFiles files) :=
  ⟨ready, listing.handle, listing.cleared, listing.steady⟩

/-- A song is in the same state as itself. -/
theorem Paired.self (ready : Ready image geometry p) (steady : (p.gWavePlay song).Steady)
    (header : HeaderInBlock image geometry p.hFat (p.gWavePlay song).szFilename) :
    Paired image geometry song p p :=
  ⟨ready, ready, rfl, ⟨rfl, Iff.rfl, fun _ => rfl⟩, steady, header⟩

/-- A file is added to the list. -/
theorem Listing.add {szWaveFilename : Name} (listing : Listing image geometry song st)
    (run : addSong fatApi garbage szWaveFilename st = .ok st') :
    Listing image geometry song st' := by
  obtain ⟨⟨mounted, positive, fresh, opened, apart⟩, handle, cleared, steady⟩ := listing
  obtain ⟨_, _, started, called, rfl⟩ := addSong_cases run
  have listed : Ready image geometry { st.player with
      szFilename := Function.update st.player.szFilename st.count szWaveFilename } :=
    ⟨mounted, positive, fresh, opened, apart⟩
  have named : Ready image geometry (st.named szWaveFilename) := listed.setSong rfl
  obtain ⟨ready, _⟩ := named.waveplayStart called
  have only := waveplayStart_only called
  have other (k : Nat) (apart : k ≠ st.count) :
      (st.added started).player.gWavePlay k = st.player.gWavePlay k := by
    simp only [ListState.added, Globals.setSong_other _ _ _ _ apart, only.others k apart,
      ListState.named]
  refine ⟨ready.setSong rfl, handle.trans only.hFat.symm, fun k late => ?_, fun header => ?_⟩
  · have apart : k ≠ st.count := Nat.ne_of_gt late
    rw [other k apart]
    exact cleared k (Nat.le_of_lt late)
  · have volume : (st.added started).player.hFat = st.player.hFat := only.hFat
    rw [volume] at header
    by_cases own : song = st.count
    · subst own
      have before : ((st.named szWaveFilename).gWavePlay st.count).Steady := by
        simp only [ListState.named, Globals.setSong_self]
        rw [cleared st.count (Nat.le_refl _)]
        exact PlaywaveContext.steady_cleared
      have own : ((st.added started).player.gWavePlay st.count).szFilename =
          ((st.named szWaveFilename).gWavePlay st.count).szFilename := by
        rw [← only.name]
        simp [ListState.added]
      rw [own] at header
      have agree := (Paired.self named before header).start garbage garbage
      rw [called] at agree
      obtain ⟨_, same, both⟩ := agree.of_ok
      have after := both.paired.steady
      simpa only [ListState.added, Globals.setSong_self, PlaywaveContext.Steady] using after
    · rw [other song own] at header ⊢
      exact steady header

/-- A pass of the listing. -/
theorem Listing.entry (listing : Listing image geometry song st)
    (run : listEntry fatApi garbage st = .ok st') : Listing image geometry song st' := by
  obtain ⟨szWaveFilename, _, pass⟩ := listEntry_cases run
  have flagged : Listing image geometry song
      { st with bFlag := st.bFlag || endsWithWav szWaveFilename } :=
    ⟨listing.ready, listing.handle, listing.cleared, listing.steady⟩
  have header {st : ListState Heap} (szHeader : Bytes) (listing : Listing image geometry song st) :
      Listing image geometry song { st with szHeader } :=
    ⟨listing.ready, listing.handle, listing.cleared, listing.steady⟩
  cases pass with
  | skipped unset => exact flagged
  | unopened set opens => exact flagged.setFiles (flagged.ready.peek opens).1
  | unread set opens some reads =>
    exact header _ (flagged.setFiles ((flagged.ready.peek opens).2 some _ _ _ _ _ reads).1)
  | refused set opens some reads check =>
    exact header _ (flagged.setFiles ((flagged.ready.peek opens).2 some _ _ _ _ _ reads).2)
  | accepted set opens some reads check adds =>
    exact (header _ (flagged.setFiles
      ((flagged.ready.peek opens).2 some _ _ _ _ _ reads).2)).add adds

/-- The loop of the listing. -/
theorem Listing.loop {garbage : Nat → Garbage} (fuel pass : Nat)
    (listing : Listing image geometry song st)
    (run : listLoop fatApi garbage fuel pass st = .ok st') : Listing image geometry song st' := by
  induction fuel generalizing pass st with
  | zero => contradiction
  | succ fuel ih =>
    simp only [listLoop] at run
    split at run
    · contradiction
    · rename_i bFind hFileBrowse fileContext files browsed
      have agree := fatFileBrowseNext_agree listing.ready.mounted listing.ready.mounted
        st.hFileBrowse listing.handle st.fileContext
      change fatFileBrowseNext _ _ _ = _ at browsed
      obtain ⟨_, _, same⟩ := (browsed ▸ agree).of_ok
      have next : Listing image geometry song { st.setFiles files with
          hFileBrowse, fileContext } :=
        ⟨listing.ready.reads same.left, same.volume, listing.cleared, listing.steady⟩
      split at run
      · split at run
        · contradiction
        · rename_i after entry
          exact ih (pass + 1) (next.entry entry) run
      · obtain rfl := Except.ok.inj run
        exact next

/-- A listing does the same on a volume with an empty cache as on one over the card. -/
theorem buildWavePlayList_fresh {before : Globals Heap} (fresh : Fresh image geometry)
    (some : before.hFat ≠ 0) (here : before.files.volumes before.hFat = Option.some geometry)
    (garbage : Nat → Garbage) :
    buildWavePlayList fatApi garbage before =
      buildWavePlayList fatApi garbage { before with
        files := before.files.setVolume before.hFat
          (geometry.cache image geometry.calls noSecter) } := by
  have volume : (before.files.setVolume before.hFat
      (geometry.cache image geometry.calls noSecter)).volumes before.hFat =
      Option.some (geometry.cache image geometry.calls noSecter) := Function.update_self _ _ _
  have mounted' : (geometry.cache image geometry.calls noSecter).bMount = true := fresh.mounted
  have begun := fun heap (hFat : Nat) (vol : VolumeInfo) (here : heap.volumes hFat = Option.some vol)
      (mounted : vol.bMount = true) (some : hFat ≠ 0) =>
    show fatFileBrowseBegin heap hFat = .ok (Option.some ⟨4294967295, hFat⟩) by
      simp only [fatFileBrowseBegin, some, here, mounted, ↓reduceIte]
  obtain ⟨fuel, enough⟩ := indexFuel_succ
  have first := fresh.browseNext some here FileContext.blank
  simp only [buildWavePlayList, fatApi, begun _ _ _ here fresh.mounted some,
    begun _ _ _ volume mounted' some, enough, listLoop, first]

/-- A listed card is ready, and a song whose headers lie inside its block has steady
positions. -/
theorem Listed.ready (listed : Listed image geometry p) (song : Nat) :
    Ready image geometry p ∧
      (HeaderInBlock image geometry p.hFat (p.gWavePlay song).szFilename →
        (p.gWavePlay song).Steady) := by
  obtain ⟨before, garbage, count, fresh, some, here, positive, none, cleared, run⟩ := listed
  rw [buildWavePlayList_fresh fresh some here] at run
  generalize volumes : before.files.setVolume before.hFat
    (geometry.cache image geometry.calls noSecter) = files at run
  have mounted : files.Mounted image geometry before.hFat := by
    rw [← volumes]
    exact ⟨_, Function.update_self _ _ _, fresh.device, _, _, rfl⟩
  have start (nFileNum : Nat) : Ready image geometry { before with files, nFileNum } := by
    refine ⟨mounted, ?_, fun hFile live => ?_, fun k some => ?_, fun k _ _ some => ?_⟩
    · rw [← volumes]
      exact positive
    · rw [← volumes] at live
      exact absurd (none hFile) live
    · exact absurd (by rw [cleared]; rfl) some
    · exact absurd (by rw [cleared]; rfl) some
  have steady : (before.gWavePlay song).Steady := by
    rw [cleared]
    exact PlaywaveContext.steady_cleared
  rcases buildWavePlayList_cases run with ⟨_, _, rfl⟩ | ⟨hFileBrowse, st, begun, loop, _, rfl⟩
  · exact ⟨start 0, fun _ => steady⟩
  · have handle : hFileBrowse.hFat = before.hFat := fatFileBrowseBegin_handle begun
    obtain ⟨⟨mounted, positive, fresh, opened, apart⟩, _, _, steady⟩ :=
      Listing.loop indexFuel 0 ⟨start 0, handle, fun k _ => cleared k, fun _ => steady⟩ loop
    exact ⟨⟨mounted, positive, fresh, opened, apart⟩, steady⟩

/-- On a listed card, no call on another song disturbs a song whose headers lie inside its
block. -/
theorem isolated_of_headerInBlock (listed : Listed image geometry p)
    (header : HeaderInBlock image geometry p.hFat (p.gWavePlay song).szFilename)
    (calls : List Call) : Isolated song calls p := by
  obtain ⟨ready, steady⟩ := listed.ready song
  intro played q run
  exact (Paired.self ready (steady header) header).run calls run

/-- The states that calls lead to on a listed card. -/
inductive Reached (image : Nat → Bytes) (geometry : VolumeInfo) : Globals Heap → Prop where
  | listed {p : Globals Heap} : Listed image geometry p → Reached image geometry p
  | call {p : Globals Heap} {call : Call} {out : Outcome Heap} : Reached image geometry p →
      call.run p = .ok out → Reached image geometry out.player

/-- They are ready for the next call. -/
theorem Reached.ready (reached : Reached image geometry p) : Ready image geometry p := by
  induction reached with
  | listed listed => exact (listed.ready 0).1
  | call _ run ih => exact (ih.call run).1

/-! ## Small cards -/

/-- The globals with a small card mounted. -/
def mountedCard (sectors : List (Nat × Bytes)) : Globals Heap where
  files := (Heap.empty.allocVolume (cardVolume (fat32Card sectors))).2
  hFat := 1
  gWavePlay := fun _ => .cleared
  nFileNum := 0
  szFilename := fun _ => []

/-- The listing of a small card. -/
def listCard (sectors : List (Nat × Bytes)) : Exec (Nat × Globals Heap) :=
  buildWavePlayList fatApi (fun _ => .zero) (mountedCard sectors)

/-- After its listing a small card is listed. -/
theorem listCard_listed {sectors : List (Nat × Bytes)} {count : Nat}
    (run : listCard sectors = .ok (count, p)) :
    Listed (fat32Card sectors) (cardVolume (fat32Card sectors)) p :=
  ⟨mountedCard sectors, fun _ => .zero, count, fat32Card_fresh sectors, Nat.one_ne_zero,
    by simp [mountedCard, Heap.allocVolume, Heap.empty], Nat.zero_lt_succ _, fun _ => rfl,
    fun _ => rfl, run⟩

/-! ## Two songs -/

/-- The sectors of a card with two files of two clusters each. `A.WAV` has another chunk before
its samples, so that their chunk begins in its second block; `B.WAV` has a 44-byte header. -/
def twoSongs : List (Nat × Bytes) :=
  let format := (stereoHeader [0xF8, 3, 0, 0] []).take 36
  [(2, blockOf [(12, [6, 0, 0, 0, 5, 0, 0, 0, 0xFF, 0xFF, 0xFF, 0x0F, 0xFF, 0xFF, 0xFF, 0x0F])]),
    (515, blockOf [
      (0, [0x41, 0x20, 0x20, 0x20, 0x20, 0x20, 0x20, 0x20, 0x57, 0x41, 0x56, 0x20]),
      (26, [3, 0, 0, 4, 0, 0]),
      (32, [0x42, 0x20, 0x20, 0x20, 0x20, 0x20, 0x20, 0x20, 0x57, 0x41, 0x56, 0x20]),
      (58, [4, 0, 0, 4, 0, 0])]),
    (516, blockOf [(0, format ++ [0x6A, 0x75, 0x6E, 0x6B, 0x30, 2, 0, 0])]),
    (519, blockOf [(92, [0x64, 0x61, 0x74, 0x61, 0x9C, 1, 0, 0])]),
    (517, blockOf [(0, stereoHeader [0xF8, 3, 0, 0] [0xD4, 3, 0, 0])])]

/-- The card. -/
abbrev twoSongsCard : Nat → Bytes := fat32Card twoSongs

/-- The entry of a file on the card. -/
abbrev twoSongsEntry (index : Nat) : Bytes :=
  dirEntry twoSongsCard (cardVolume twoSongsCard) index

/-- Both files are well formed. -/
theorem twoSongs_wellFormed (index : Nat) (file : index < 2) :
    (layoutOf twoSongsCard).WellFormed twoSongsCard (firstCluster (twoSongsEntry index))
      (fileSize (twoSongsEntry index)) := by
  have each : index = 0 ∨ index = 1 := by omega
  have size : fileSize (twoSongsEntry index) = 1024 := by
    rcases each with rfl | rfl <;> decide +kernel
  rw [size]
  rcases each with rfl | rfl <;>
    exact Layout.wellFormed_of_two (by decide +kernel) (by decide +kernel) (by decide +kernel)

/-- Two calls of `waveplay_execute` on `B.WAV`, then a start and an execution of `A.WAV`. -/
def twoSongsCalls : List Call :=
  [⟨1, true, .zero⟩, ⟨1, true, .zero⟩, ⟨0, false, .zero⟩, ⟨0, true, .zero⟩]

/-- The header queries of `A.WAV` end in the buffer of `B.WAV`, so that `A.WAV` plays silence
or samples of its own, as the other song goes. -/
theorem not_isolated_twoSongs :
    (∀ index, index < 2 → (layoutOf twoSongsCard).WellFormed twoSongsCard
      (firstCluster (twoSongsEntry index)) (fileSize (twoSongsEntry index))) ∧
    ∃ p, Listed twoSongsCard (cardVolume twoSongsCard) p ∧ ¬Isolated 0 twoSongsCalls p := by
  have mixed : (listCard twoSongs).bind (fun listed =>
      (playCalls 0 twoSongsCalls listed.2).map fun played => played.1.length) = .ok 0 := by
    decide +kernel
  have alone : (listCard twoSongs).bind (fun listed =>
      (playCalls 0 (twoSongsCalls.filter fun call => call.songnummer = 0) listed.2).map
        fun played => played.1.length) = .ok 103 := by decide +kernel
  obtain ⟨⟨count, p⟩, listed, mixed⟩ := bind_eq_ok mixed
  rw [listed] at alone
  refine ⟨twoSongs_wellFormed, p, listCard_listed listed, fun isolated => ?_⟩
  obtain ⟨⟨played, q⟩, run, short⟩ := map_eq_ok mixed
  obtain ⟨⟨played', q'⟩, run', long⟩ := map_eq_ok alone
  obtain ⟨_, same, _⟩ := isolated played q run
  obtain ⟨rfl, _⟩ := Prod.mk.inj (Except.ok.inj (run'.symm.trans same))
  exact absurd (short.symm.trans long) (by decide)

/-- A well-formed file has its headers inside its block when the sector of its first block
does. -/
theorem headerInBlock_of {l : Layout} {first size hFat hFile : Nat} {heap : Heap} {name : Name}
    {context : FileContext} (file : l.WellFormed image first size) (matched : Matches geometry l)
    (followed : Followed image geometry l first size) (device : geometry.readBlock512.Holds image)
    (opens : fatFileOpen (cardHeap image geometry hFat) hFat name = .ok (hFile, heap))
    (some : hFile ≠ 0) (found : heap.files hFile = Option.some (openedFile hFat context))
    (cluster : context.firstLogicalCluster = first) (content : 0 < size)
    (stays : HeaderStays (fun i => image (l.blockSecter image first 0) i.toNat) waveBufSize) :
    HeaderInBlock image geometry hFat name := by
  refine ⟨hFile, heap, opens, some, fun szBuf block last read => ?_⟩
  have mounted := fatFileOpen_mounted (cardHeap_mounted device hFat) opens
  obtain ⟨_, _, read', _⟩ := fatFileRead_block file matched followed mounted
    (fatFileOpen_volume opens some) some found rfl (file.opened matched hFat cluster content)
    content (show 0 < waveBufSize by decide) (Nat.le_refl 512) szBuf
  have same := Except.ok.inj (read'.symm.trans read)
  obtain rfl := (Prod.mk.inj (Prod.mk.inj same).2).1
  refine stays.same fun i low high => ?_
  exact (copyAt_inside szBuf 0 _ waveBufSize i.toNat (Nat.zero_le _)
    (by simp only [waveBufSize] at high ⊢; omega)).symm

/-- The headers of `B.WAV` lie inside its block. -/
theorem twoSongs_headerInBlock :
    HeaderInBlock twoSongsCard (cardVolume twoSongsCard) 1 [0x42, 0x2E, 0x57, 0x41, 0x56] := by
  have device : (cardVolume twoSongsCard).readBlock512.Holds twoSongsCard := imageDevice_holds _
  have matched := fatMount_matches (imageDevice_holds _) (fat32Card_mount twoSongs)
  have file := twoSongs_wellFormed 1 (by decide)
  have run : (fatFileOpen (cardHeap twoSongsCard (cardVolume twoSongsCard) 1) 1
      [0x42, 0x2E, 0x57, 0x41, 0x56]).map (fun opened =>
        (opened.1, (opened.2.files opened.1).map (·.directory.dirEntryIndex))) =
      .ok (2, some 1) := by decide +kernel
  obtain ⟨⟨hFile, heap⟩, opens, same⟩ := map_eq_ok run
  obtain ⟨rfl, place⟩ := Prod.mk.inj same
  obtain ⟨context, found, fields⟩ :=
    fatFileOpen_entry (cardHeap_mounted device 1) opens (by decide)
  simp only [found, Option.map_some, Option.some.injEq] at place
  have index : context.dirEntryIndex = 1 := place
  have cluster := fields.cluster (by rw [index]; decide +kernel)
  rw [index] at cluster
  refine headerInBlock_of file matched (file.followed matched fun j needed => ?_) device opens
    (by decide) found cluster (by decide +kernel) ⟨by decide +kernel, fun _ _ _ _ => by
      decide +kernel, fun _ => by decide +kernel⟩
  have bytes : (layoutOf twoSongsCard).clusterBytes = 512 := by decide +kernel
  have size : fileSize (twoSongsEntry 1) = 1024 := by decide +kernel
  obtain rfl : j = 0 := by
    rw [bytes, size] at needed
    omega
  decide +kernel

/-- `B.WAV` is not disturbed. -/
theorem isolated_of_headerInBlock_twoSongs :
    ∃ p, Listed twoSongsCard (cardVolume twoSongsCard) p ∧ Isolated 1 twoSongsCalls p := by
  have run : (listCard twoSongs).map (fun listed =>
      (listed.2.hFat, (listed.2.gWavePlay 1).szFilename)) =
      .ok (1, [0x42, 0x2E, 0x57, 0x41, 0x56]) := by decide +kernel
  obtain ⟨⟨count, p⟩, listed, same⟩ := map_eq_ok run
  obtain ⟨volume, name⟩ := Prod.mk.inj same
  refine ⟨p, listCard_listed listed, isolated_of_headerInBlock (listCard_listed listed) ?_ _⟩
  rw [volume, name]
  exact twoSongs_headerInBlock

end SoundBoard.Player
