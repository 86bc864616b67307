import SoundBoard.Player.BufferBounds
import SoundBoard.Player.Errors
import SoundBoard.Wave.Scan

/-!
# How far a song has got

A song whose header lies inside its first block goes round: a start, the calls that play it to
its end, and the call that starts it again. Its age is the number of calls since the start. Two
songs of one age over one file are in the same state (`Aged.paired`), and the age at which a song
is at its end can be told from the header (`Aged.atEnd_iff`).
-/

namespace SoundBoard.Player

open SoundBoard.Lib SoundBoard.Fat SoundBoard.Wave

/-! ## What calls keep of an entry -/

section Entries

variable {σ : Type} {p q r : Globals σ} {k : Nat}

/-- What a call leaves of a song's entry: its flag, and the bytes behind the buffer. -/
structure KeepsEntry (k : Nat) (p q : Globals σ) : Prop where
  readOk : (q.gWavePlay k).readOk = (p.gWavePlay k).readOk
  behind : ∀ i, 512 ≤ i → (q.gWavePlay k).szBuf i = (p.gWavePlay k).szBuf i

/-- One call after another. -/
theorem KeepsEntry.trans (first : KeepsEntry k p q) (second : KeepsEntry k q r) :
    KeepsEntry k p r where
  readOk := second.readOk.trans first.readOk
  behind i late := (second.behind i late).trans (first.behind i late)

/-- A change of the song's entry. -/
theorem KeepsEntry.set {context : PlaywaveContext} (readOk : context.readOk = (p.gWavePlay k).readOk)
    (behind : ∀ i, 512 ≤ i → context.szBuf i = (p.gWavePlay k).szBuf i) :
    KeepsEntry k p (q.setSong k context) := by
  constructor
  · rw [Globals.setSong_self]
    exact readOk
  · rw [Globals.setSong_self]
    exact behind

end Entries

variable {image : Nat → Bytes} {geometry : VolumeInfo} {k hFat : Nat} {name : Name} {block : Bytes}
  {p q : Globals Heap} {garbage : Garbage} {out : Outcome Heap}

/-- A start. -/
theorem waveplayStart_entry (run : waveplayStart fatApi garbage k p = .ok out) :
    KeepsEntry k p out.player := by
  unfold waveplayStart at run
  split at run
  · split at run
    · contradiction
    · rename_i first opened
      have opens : KeepsEntry k p first.player := by
        simp only [waveplayOpen] at opened
        split at opened
        · contradiction
        · rename_i hFile files _
          have handle : KeepsEntry k p
              ({ p with files }.setSong k { p.gWavePlay k with hFile }) :=
            .set rfl fun _ _ => rfl
          split at opened
          · obtain rfl := Except.ok.inj opened
            exact handle
          · split at opened
            · contradiction
            · rename_i read
              obtain rfl := Except.ok.inj opened
              refine handle.trans (.set ?_ fun i late => ?_)
              · rw [Globals.setSong_self]
              · exact fatFileRead_outside read late
      split at run
      · rcases waveplayPrepare_cases run with ⟨_, _, same⟩ | ⟨_, _, offset, size, prepared⟩
        · rw [same]
          exact opens
        · rw [prepared.player]
          exact opens.trans (.set rfl fun _ _ => rfl)
      · obtain rfl := Except.ok.inj run
        exact opens
  · contradiction

/-- A refill. -/
theorem refillLoop_entry (fuel : Nat) {events : List Event}
    (run : refillLoop fatApi k fuel events p = .ok out) : KeepsEntry k p out.player := by
  induction fuel generalizing events p with
  | zero => contradiction
  | succ fuel ih =>
    have small : readSize (p.gWavePlay k) ≤ 512 := Nat.min_le_left _ _
    simp only [refillLoop] at run
    split at run
    · obtain rfl := Except.ok.inj run
      exact ⟨rfl, fun _ _ => rfl⟩
    · split at run
      · contradiction
      · rename_i szBuf files read
        apply KeepsEntry.trans ?_ (ih run)
        exact .set rfl fun i late => fatFileRead_outside read (Nat.le_trans small late)
      · rename_i szBuf files read
        obtain rfl := Except.ok.inj run
        exact .set rfl fun i late => fatFileRead_outside read (Nat.le_trans small late)

/-- A call of `waveplay_execute`. -/
theorem waveplayExecute_entry (run : waveplayExecute fatApi garbage k p = .ok out) :
    KeepsEntry k p out.player := by
  by_cases ended : atEnd (p.gWavePlay k)
  · obtain ⟨_, restart, started, same⟩ := waveplayExecute_ended ended run
    rw [same]
    exact waveplayStart_entry started
  · obtain ⟨refill, filled, ⟨_, player, _⟩ | ⟨_, rfl⟩⟩ := waveplayExecute_refill ended run
    · rw [player]
      exact (refillLoop_entry _ filled).trans (.set rfl fun _ _ => rfl)
    · exact refillLoop_entry _ filled

/-! ## The first block of a file -/

/-- On a card, the file of a name opens, and a block is read from it first. -/
def BeginsWith (image : Nat → Bytes) (geometry : VolumeInfo) (hFat : Nat) (name : Name)
    (block : Bytes) : Prop :=
  ∃ hFile heap last, fatFileOpen (cardHeap image geometry hFat) hFat name = .ok (hFile, heap) ∧
    hFile ≠ 0 ∧ ∀ szBuf, fatFileRead heap hFile szBuf waveBufSize =
      .ok (true, copyAt szBuf 0 block waveBufSize, last)

/-- A buffer into which the block has been read holds the block. -/
theorem blockView_same (block szBuf : Bytes) (garbage : Garbage) (song : k ≤ maxSongs)
    (read : (p.gWavePlay k).szBuf = copyAt szBuf 0 block waveBufSize) :
    SameBlock (blockView block) (bufView p.gWavePlay garbage k) waveBufSize := by
  intro i low high
  simp only [waveBufSize] at high
  rw [bufView_inside _ _ song low high, read,
    copyAt_inside _ _ _ _ _ (Nat.zero_le _) (by simp only [waveBufSize]; omega)]
  rfl

/-- A file whose links the library follows begins with its first block. -/
theorem beginsWith_of {l : Layout} {first size hFile : Nat} {heap : Heap}
    {context : FileContext} (file : l.WellFormed image first size) (matched : Matches geometry l)
    (followed : Followed image geometry l first size) (device : geometry.readBlock512.Holds image)
    (opens : fatFileOpen (cardHeap image geometry hFat) hFat name = .ok (hFile, heap))
    (some : hFile ≠ 0) (found : heap.files hFile = Option.some (openedFile hFat context))
    (cluster : context.firstLogicalCluster = first) (content : 0 < size) :
    BeginsWith image geometry hFat name (image (l.blockSecter image first 0)) := by
  have mounted := fatFileOpen_mounted (cardHeap_mounted device hFat) opens
  have reads := fatFileRead_block file matched followed mounted (fatFileOpen_volume opens some)
    some found rfl (file.opened matched hFat cluster content) content
    (show 0 < waveBufSize by decide) (Nat.le_refl 512)
  obtain ⟨last, _, blank, _⟩ := reads fun _ => 0
  refine ⟨hFile, heap, last, opens, some, fun szBuf => ?_⟩
  obtain ⟨last', _, read, _⟩ := reads szBuf
  obtain ⟨_, again⟩ := fatFileRead_onto blank szBuf
  have same := Except.ok.inj (again.symm.trans read)
  rw [read, ← (Prod.mk.inj (Prod.mk.inj same).2).2]

/-- A header that lies inside the first block does so in the terms of the card. -/
theorem BeginsWith.inBlock (begins : BeginsWith image geometry hFat name block)
    (stays : HeaderStays (blockView block) waveBufSize) :
    HeaderInBlock image geometry hFat name := by
  obtain ⟨hFile, heap, last, opens, some, reads⟩ := begins
  refine ⟨hFile, heap, opens, some, fun szBuf block' last' read => ?_⟩
  have same := Except.ok.inj ((reads szBuf).symm.trans read)
  obtain rfl := (Prod.mk.inj (Prod.mk.inj same).2).1
  refine stays.same fun i low high => ?_
  simp only [waveBufSize] at high
  exact (copyAt_inside szBuf 0 block waveBufSize i.toNat (Nat.zero_le _)
    (by simp only [waveBufSize]; omega)).symm

/-- Wherever the card is mounted, opening the file reads the block, and leaves the same record of
it. -/
theorem BeginsWith.opens (begins : BeginsWith image geometry hFat name block) :
    ∃ record : FatFileInfo, ∀ (p : Globals Heap) (k : Nat) (garbage : Garbage),
      Ready image geometry p → p.hFat = hFat → (p.gWavePlay k).szFilename = name →
      ∃ hFile files, hFile ≠ 0 ∧ files.files hFile = some record ∧
        waveplayOpen fatApi garbage k p = .ok
          ⟨true, [.load waveBufSize (copyAt (p.gWavePlay k).szBuf 0 block waveBufSize)],
            { p with files }.setSong k { p.gWavePlay k with
              hFile, szBuf := copyAt (p.gWavePlay k).szBuf 0 block waveBufSize }⟩ := by
  obtain ⟨hFile, heap, last, opens, some, reads⟩ := begins
  refine ⟨(last.files hFile).getD (openedFile hFat .blank), fun p k garbage ready volume named => ?_⟩
  subst volume named
  have device : geometry.readBlock512.Holds image := by
    obtain ⟨_, _, card⟩ := ready.mounted
    exact card.device
  have agree := fatFileOpen_agree (cardHeap_mounted device p.hFat) ready.mounted
    (p.gWavePlay k).szFilename
  rw [opens] at agree
  obtain ⟨answer, same, both⟩ := agree.of_ok
  cases both with
  | none one two => exact absurd rfl some
  | @found card after context one two =>
    have next : after.next ≠ 0 := by
      obtain ⟨_, _, rfl⟩ := two
      exact Nat.ne_of_gt ready.positive
    have left : (after.allocFile (openedFile p.hFat context)).2.Mounted image geometry p.hFat :=
      two.mounted
    have right : (card.allocFile (openedFile p.hFat context)).2.Mounted image geometry p.hFat :=
      one.mounted
    have read := fatFileRead_agree right left ⟨some, card.allocFile_files _⟩
      ⟨next, after.allocFile_files _⟩ rfl (p.gWavePlay k).szBuf waveBufSize
    have first : fatFileRead (card.allocFile (openedFile p.hFat context)).2 card.next
        (p.gWavePlay k).szBuf waveBufSize =
        .ok (true, copyAt (p.gWavePlay k).szBuf 0 block waveBufSize, last) := reads _
    rw [first] at read
    obtain ⟨⟨ok, szBuf, files⟩, read', rfl, rfl, record, _, ⟨_, _, record₁⟩, _, _, record₂⟩ :=
      read.of_ok
    refine ⟨_, files, next, ?_, waveplayOpen_read fatApi same next read'⟩
    change last = _ at record₁
    change files = _ at record₂
    rw [record₂, record₁]
    simp [Heap.setVolume, Heap.setFile]

/-- What a start of a song leaves behind: a new file, the block in the buffer, and the positions of
the header when that is accepted. -/
structure BeginsWith.Started (block : Bytes) (record : FatFileInfo) (k : Nat) (p : Globals Heap)
    (out : Outcome Heap) : Prop where
  silent : frames out.events = []
  accepted : out.ok = true ↔ HeaderAccepted (blockView block)
  opened : (out.player.gWavePlay k).hFile ≠ 0 ∧
    out.player.files.files (out.player.gWavePlay k).hFile = some record
  refused : out.ok = false → out.player.gWavePlay k = { p.gWavePlay k with
    hFile := (out.player.gWavePlay k).hFile
    szBuf := copyAt (p.gWavePlay k).szBuf 0 block waveBufSize }
  prepared : out.ok = true → ∃ offset size,
    waveGetWaveOffset (blockView block) waveBufSize = some offset ∧
    waveGetDataByteSize (blockView block) waveBufSize = some size ∧
    out.player.gWavePlay k = { p.gWavePlay k with
      hFile := (out.player.gWavePlay k).hFile
      szBuf := copyAt (p.gWavePlay k).szBuf 0 block waveBufSize }.prepared offset size

/-- Every start of the file leaves the same behind. -/
theorem BeginsWith.starts (begins : BeginsWith image geometry hFat name block)
    (stays : HeaderStays (blockView block) waveBufSize) :
    ∃ record : FatFileInfo, ∀ (p : Globals Heap) (k : Nat) (garbage : Garbage) (out : Outcome Heap),
      Ready image geometry p → p.hFat = hFat → (p.gWavePlay k).szFilename = name →
      waveplayStart fatApi garbage k p = .ok out → Started block record k p out := by
  obtain ⟨record, opens⟩ := begins.opens
  refine ⟨record, fun p k garbage out ready volume named run => ?_⟩
  obtain ⟨hFile, files, some, found, opened⟩ := opens p k garbage ready volume named
  have silent := waveplayStart_frames run
  unfold waveplayStart at run
  split at run
  · rename_i song
    simp only [opened, ↓reduceIte] at run
    generalize same : Globals.setSong { p with files } k { p.gWavePlay k with
      hFile, szBuf := copyAt (p.gWavePlay k).szBuf 0 block waveBufSize } = loaded at run
    have context : loaded.gWavePlay k = { p.gWavePlay k with
        hFile, szBuf := copyAt (p.gWavePlay k).szBuf 0 block waveBufSize } := by
      rw [← same, Globals.setSong_self]
    have files' : loaded.files = files := by rw [← same]; rfl
    have view := blockView_same block (p.gWavePlay k).szBuf garbage song
      (congrArg PlaywaveContext.szBuf context)
    have check := headerCheck_same view stays
    rcases waveplayPrepare_cases run with ⟨failed, _, player⟩ | ⟨ok, _, offset, size, prepared⟩
    · have refused : ¬HeaderAccepted (blockView block) := by
        rintro ⟨sampleRate, accepted⟩
        rw [check] at accepted
        have done := waveplayPrepare_accepted accepted run
        rw [failed] at done
        contradiction
      refine ⟨silent, ⟨fun ok => ?_, fun accepted => absurd accepted refused⟩, ?_, fun _ => ?_,
        fun ok => ?_⟩
      · rw [failed] at ok
        contradiction
      · rw [player, context, files']
        exact ⟨some, found⟩
      · rw [player, context]
      · rw [failed] at ok
        contradiction
    · obtain ⟨⟨sampleRate, accepted⟩, offsetRead, sizeRead, player⟩ := prepared
      rw [← check] at accepted
      have data := stays.data ⟨sampleRate, accepted⟩
      rw [← waveGetWaveOffset_same view data] at offsetRead
      rw [← waveGetDataByteSize_same view data] at sizeRead
      rw [context] at player
      have entry : out.player.gWavePlay k = PlaywaveContext.prepared { p.gWavePlay k with
          hFile, szBuf := copyAt (p.gWavePlay k).szBuf 0 block waveBufSize } offset size := by
        rw [player, Globals.setSong_self]
      refine ⟨silent, ⟨fun _ => ⟨sampleRate, accepted⟩, fun _ => ok⟩, ?_, fun failed => ?_,
        fun _ => ⟨offset, size, offsetRead, sizeRead, ?_⟩⟩
      · rw [entry, player, Globals.setSong_files, files']
        exact ⟨some, found⟩
      · rw [ok] at failed
        contradiction
      · rw [entry]
        rfl
  · contradiction

/-! ## Ages -/

/-- A song of the list, whose file begins with a block that its header does not leave. -/
structure Song (image : Nat → Bytes) (geometry : VolumeInfo) where
  number : Nat
  hFat : Nat
  name : Name
  readOk : Bool
  block : Bytes
  begins : BeginsWith image geometry hFat name block
  stays : HeaderStays (blockView block) waveBufSize

/-- The song in the player: behind its buffer nothing has been written. -/
structure Song.In (song : Song image geometry) (p : Globals Heap) : Prop where
  ready : Ready image geometry p
  volume : p.hFat = song.hFat
  named : (p.gWavePlay song.number).szFilename = song.name
  clean : ∀ i, 512 ≤ i → (p.gWavePlay song.number).szBuf i = 0

/-- The song is so many calls of `waveplay_execute` old, each of which has succeeded and has found
the song under way. Calls on other songs do not count. -/
def Song.Aged (song : Song image geometry) : Nat → Globals Heap → Prop
  | 0, q => ∃ (p : Globals Heap) (garbage : Garbage) (out : Outcome Heap), song.In p ∧
      waveplayStart fatApi garbage song.number p = .ok out ∧ out.ok = true ∧
      Ready image geometry q ∧
      KeepsSong song.number (out.player.setSong song.number
        { out.player.gWavePlay song.number with readOk := song.readOk }) q
  | a + 1, q => ∃ (p : Globals Heap) (garbage : Garbage) (out : Outcome Heap), song.Aged a p ∧
      ¬atEnd (p.gWavePlay song.number) ∧
      waveplayExecute fatApi garbage song.number p = .ok out ∧ out.ok = true ∧
      Ready image geometry q ∧ KeepsSong song.number out.player q

variable {song : Song image geometry} {a : Nat}

/-- Two runs in which a song is in the same state, seen from the other one. -/
theorem Paired.symm {song : Nat} (paired : Paired image geometry song p q) :
    Paired image geometry song q p := by
  obtain ⟨left, right, volume, ⟨context, opened, file⟩, steady, header⟩ := paired
  refine ⟨right, left, volume.symm, ⟨?_, opened.symm, fun some => ?_⟩, ?_, ?_⟩
  · rw [context]
  · exact (file (mt opened.mp some)).symm
  · rw [context]
    exact steady
  · rw [context, volume]
    exact header

/-- A song of the list has its header inside its block. -/
theorem Song.In.header (here : song.In p) :
    HeaderInBlock image geometry p.hFat (p.gWavePlay song.number).szFilename := by
  rw [here.volume, here.named]
  exact song.begins.inBlock song.stays

/-- Two started songs are in the same state. -/
theorem Song.In.started {p' : Globals Heap} {garbage garbage' : Garbage} {out out' : Outcome Heap}
    (here : song.In p) (here' : song.In p')
    (run : waveplayStart fatApi garbage song.number p = .ok out)
    (run' : waveplayStart fatApi garbage' song.number p' = .ok out')
    (ok : out.ok = true) (ok' : out'.ok = true) :
    Paired image geometry song.number
      (out.player.setSong song.number
        { out.player.gWavePlay song.number with readOk := song.readOk })
      (out'.player.setSong song.number
        { out'.player.gWavePlay song.number with readOk := song.readOk }) := by
  obtain ⟨record, starts⟩ := song.begins.starts song.stays
  have first := starts p _ _ _ here.ready here.volume here.named run
  have second := starts p' _ _ _ here'.ready here'.volume here'.named run'
  have only := waveplayStart_only run
  have only' := waveplayStart_only run'
  have ready := (here.ready.waveplayStart run).1
  have ready' := (here'.ready.waveplayStart run').1
  obtain ⟨offset, size, offsetRead, sizeRead, context⟩ := first.prepared ok
  obtain ⟨offset', size', offsetRead', sizeRead', context'⟩ := second.prepared ok'
  obtain rfl := Option.some.inj (offsetRead.symm.trans offsetRead')
  obtain rfl := Option.some.inj (sizeRead.symm.trans sizeRead')
  have data := song.stays.data (first.accepted.mp ok)
  obtain ⟨low, high⟩ := waveGetWaveOffset_range data (by decide) (by decide) offsetRead
  have buffers : copyAt (p'.gWavePlay song.number).szBuf 0 song.block waveBufSize =
      copyAt (p.gWavePlay song.number).szBuf 0 song.block waveBufSize := by
    funext i
    by_cases inside : i < 512
    · rw [copyAt_inside _ _ _ _ _ (Nat.zero_le _) (by simp only [waveBufSize]; omega),
        copyAt_inside _ _ _ _ _ (Nat.zero_le _) (by simp only [waveBufSize]; omega)]
    · rw [copyAt_outside _ _ _ _ _ (by simp only [waveBufSize]; omega),
        copyAt_outside _ _ _ _ _ (by simp only [waveBufSize]; omega),
        here.clean i (by omega), here'.clean i (by omega)]
  refine ⟨ready.setSong rfl, ready'.setSong rfl, ?_, ⟨?_, ?_, fun _ => ?_⟩, ?_, ?_⟩
  · exact (only'.hFat.trans here'.volume).trans (only.hFat.trans here.volume).symm
  · simp only [Globals.setSong_self]
    rw [context, context', buffers]
    simp only [PlaywaveContext.prepared, here.named, here'.named]
  · simp only [Globals.setSong_self]
    exact iff_of_false first.opened.1 second.opened.1
  · simp only [Globals.setSong_self, Globals.setSong_files]
    rw [first.opened.2, second.opened.2]
  · rw [Globals.setSong_self, context]
    have steady := PlaywaveContext.steady_prepared (p.gWavePlay song.number) size low high
    exact steady
  · rw [Globals.setSong_self, Globals.setSong_hFat]
    change HeaderInBlock image geometry _ (out.player.gWavePlay song.number).szFilename
    rw [only.hFat, only.name]
    exact here.header

/-- Two songs of one age are in the same state, whatever memory their calls have found. -/
theorem Song.Aged.paired (first : song.Aged a p) (second : song.Aged a q) :
    Paired image geometry song.number p q := by
  induction a generalizing p q with
  | zero =>
    obtain ⟨p', _, out, here, run, ok, ready, keeps⟩ := first
    obtain ⟨q', _, out', here', run', ok', ready', keeps'⟩ := second
    have started := here.started here' run run' ok ok'
    exact ((started.skip ready keeps).symm.skip ready' keeps').symm
  | succ a ih =>
    obtain ⟨p', garbage, out, before, onward, run, ok, ready, keeps⟩ := first
    obtain ⟨q', garbage', out', before', _, run', _, ready', keeps'⟩ := second
    have agree := (ih before before').execute garbage garbage'
    rw [run, run'] at agree
    obtain ⟨_, same, both⟩ := agree.of_ok
    obtain rfl := Except.ok.inj same
    exact ((both.paired.skip ready keeps).symm.skip ready' keeps').symm

/-- A song that a call on another one leaves alone. -/
theorem Song.In.keep (here : song.In p) (ready : Ready image geometry q)
    (keeps : KeepsSong song.number p q) : song.In q where
  ready := ready
  volume := keeps.hFat.trans here.volume
  named := by
    rw [keeps.context]
    exact here.named
  clean := by
    rw [keeps.context]
    exact here.clean

/-- A call on the song. -/
theorem Song.In.change (here : song.In p) (ready : Ready image geometry q)
    (only : OnlySong song.number p q) (entry : KeepsEntry song.number p q) : song.In q where
  ready := ready
  volume := only.hFat.trans here.volume
  named := only.name.trans here.named
  clean i late := (entry.behind i late).trans (here.clean i late)

/-- Calls on other songs do not make a song older. -/
theorem Song.Aged.keep (aged : song.Aged a p) (ready : Ready image geometry q)
    (keeps : KeepsSong song.number p q) : song.Aged a q := by
  cases a with
  | zero =>
    obtain ⟨p', garbage, out, here, run, ok, _, before⟩ := aged
    exact ⟨p', garbage, out, here, run, ok, ready, before.trans keeps⟩
  | succ a =>
    obtain ⟨p', garbage, out, younger, onward, run, ok, _, before⟩ := aged
    exact ⟨p', garbage, out, younger, onward, run, ok, ready, before.trans keeps⟩

/-! ## Positions -/

/-- A successful call on a steady song under way plays what is left of the block in the buffer, or
the next block. -/
theorem waveplayExecute_positions {σ : Type} {api : FileApi σ} {p : Globals σ} {out : Outcome σ}
    (steady : (p.gWavePlay k).Steady) (onward : ¬atEnd (p.gWavePlay k))
    (run : waveplayExecute api garbage k p = .ok out) (ok : out.ok = true) :
    let readPos := if (p.gWavePlay k).uWavePlayPos < (p.gWavePlay k).uWaveReadPos
      then (p.gWavePlay k).uWaveReadPos
      else (p.gWavePlay k).uWaveReadPos +
        min 512 ((p.gWavePlay k).uWaveMaxPlayPos - (p.gWavePlay k).uWavePlayPos)
    (out.player.gWavePlay k).uWaveMaxPlayPos = (p.gWavePlay k).uWaveMaxPlayPos ∧
      (out.player.gWavePlay k).uWaveReadPos = readPos ∧
      (out.player.gWavePlay k).uWavePlayPos = (p.gWavePlay k).uWavePlayPos +
        4 * ((readPos - (p.gWavePlay k).uWavePlayPos) / 4) := by
  obtain ⟨refill, filled, ⟨success, player, _⟩ | ⟨failed, rfl⟩⟩ := waveplayExecute_refill onward run
  · obtain ⟨after, _⟩ := refillLoop_steady _ filled steady onward
    obtain ⟨order, near, _, range⟩ := id after
    rw [player, playBuffer_player order (by omega) range.1]
    simp only [Globals.setSong_self]
    by_cases ready : (p.gWavePlay k).uWavePlayPos < (p.gWavePlay k).uWaveReadPos
    · rw [refillFuel, refillLoop_ready _ _ ready] at filled
      obtain rfl := Except.ok.inj filled
      simp only [ready, ↓reduceIte, and_self]
    · have empty := Nat.not_lt.mp ready
      simp only [ready, ↓reduceIte]
      have bounds := steady.range.2
      rw [atEnd, Nat.not_le] at onward
      rw [refillFuel, refillLoop] at filled
      simp only [ready, ↓reduceIte] at filled
      split at filled
      · contradiction
      · rename_i szBuf files read
        rw [toU32_readPos onward bounds empty, readSize_eq onward bounds] at filled
        rw [refillLoop_ready _ _ (by
          rw [Globals.setSong_self]
          have order := steady.order
          simp only []
          omega)] at filled
        obtain rfl := Except.ok.inj filled
        simp only [Globals.setSong_self, and_self]
      · obtain rfl := Except.ok.inj filled
        contradiction
  · rw [failed] at ok
    contradiction

/-! ## The round of a song -/

/-- What the header of a song says, unless it is refused: where the samples begin, and the position
at which they end. -/
def Song.Spans (song : Song image geometry) (o last : Nat) : Prop :=
  ∀ offset size, waveGetWaveOffset (blockView song.block) waveBufSize = some offset →
    waveGetDataByteSize (blockView song.block) waveBufSize = some size →
    toU32 offset = o ∧ toU32 (toU32 offset + size) = last

/-- The number of calls that play samples from `o` to `last`. The first one plays what is left of
the first block. -/
def roundCalls (o last : Nat) : Nat :=
  if last ≤ o then 0 else if o % 4 = 0 then (last + 511) / 512 - o / 512 else 1

/-- The calls get to the end of the samples. Otherwise they stop where less than a frame is
left. -/
def GetsThrough (o last : Nat) : Prop :=
  o < last → if o % 4 = 0 then last ≤ 512 ∨ last % 4 = 0 else last ≤ 508 + o % 4

/-- Where a song of some age stands: at its start, behind a whole number of blocks, or at its end
after one call. -/
structure Place (o last a : Nat) (context : PlaywaveContext) : Prop where
  first : o ≤ 512
  maxPlayPos : context.uWaveMaxPlayPos = last
  position : (a = 0 ∧ context.uWavePlayPos = o ∧ context.uWaveReadPos = 512) ∨
    (0 < a ∧ o < last ∧ o % 4 = 0 ∧ 512 < last ∧ last % 4 = 0 ∧
      context.uWaveReadPos = context.uWavePlayPos ∧
      context.uWavePlayPos = min ((o / 512 + a) * 512) last ∧ (o / 512 + a - 1) * 512 < last) ∨
    (a = 1 ∧ o < last ∧ last ≤ context.uWavePlayPos ∧ (o % 4 ≠ 0 ∨ last ≤ 512))

/-- The age of a song tells where it stands. -/
theorem Song.Aged.place {o last : Nat} (aged : song.Aged a p) (spans : song.Spans o last)
    (through : GetsThrough o last) : Place o last a (p.gWavePlay song.number) := by
  induction a generalizing p with
  | zero =>
    obtain ⟨p', garbage, out, here, run, ok, ready, keeps⟩ := aged
    obtain ⟨record, starts⟩ := song.begins.starts song.stays
    have started := starts p' _ _ _ here.ready here.volume here.named run
    obtain ⟨offset, size, offsetRead, sizeRead, context⟩ := started.prepared ok
    obtain ⟨rfl, rfl⟩ := spans offset size offsetRead sizeRead
    have data := song.stays.data (started.accepted.mp ok)
    obtain ⟨low, high⟩ := waveGetWaveOffset_range data (by decide) (by decide) offsetRead
    rw [keeps.context, Globals.setSong_self, context]
    refine ⟨?_, rfl, .inl ⟨rfl, rfl, rfl⟩⟩
    simp only [waveBufSize] at high
    rw [toU32_of_fits _ low (by omega)]
    omega
  | succ a ih =>
    obtain ⟨p', garbage, out, before, onward, run, ok, ready, keeps⟩ := aged
    have steady := (before.paired before).steady
    obtain ⟨first, maxPlayPos, position⟩ := ih before
    obtain ⟨maxPlayPos', readPos, playPos⟩ := waveplayExecute_positions steady onward run ok
    rw [atEnd, Nat.not_le, maxPlayPos] at onward
    rw [maxPlayPos] at maxPlayPos' readPos playPos
    rw [keeps.context]
    refine ⟨first, maxPlayPos', ?_⟩
    rcases position with ⟨rfl, playPos₀, readPos₀⟩ | ⟨_, some, whole, long, quarter, agree, at_, _⟩ |
      ⟨_, _, ended, _⟩
    · -- the first call
      rw [playPos₀] at onward
      have finish := through onward
      rw [playPos₀, readPos₀] at readPos playPos
      by_cases block : o < 512
      · simp only [block, ↓reduceIte] at readPos playPos
        by_cases whole : o % 4 = 0
        · simp only [whole, ↓reduceIte] at finish
          by_cases short : last ≤ 512
          · exact .inr (.inr (by omega))
          · exact .inr (.inl (by omega))
        · simp only [whole, ↓reduceIte] at finish
          exact .inr (.inr (by omega))
      · simp only [block, ↓reduceIte] at readPos playPos
        obtain rfl : o = 512 := by omega
        simp only [Nat.reduceMod, ↓reduceIte] at finish
        exact .inr (.inl (by omega))
    · -- a whole block
      rw [agree] at readPos playPos
      simp only [Nat.lt_irrefl, ↓reduceIte] at readPos playPos
      exact .inr (.inl (by omega))
    · omega

/-- The age at which a song is at its end is the number of calls of its round. -/
theorem Song.Aged.atEnd_iff {o last : Nat} (aged : song.Aged a p) (spans : song.Spans o last)
    (through : GetsThrough o last) :
    a ≤ roundCalls o last ∧ (atEnd (p.gWavePlay song.number) ↔ a = roundCalls o last) := by
  obtain ⟨first, maxPlayPos, position⟩ := aged.place spans through
  rw [atEnd, maxPlayPos, roundCalls]
  rcases position with ⟨rfl, playPos, _⟩ | ⟨_, some, whole, long, quarter, _, at_, before⟩ |
    ⟨rfl, some, ended, short⟩
  · rw [playPos]
    split
    · omega
    · split
      · omega
      · omega
  · rw [if_neg (by omega), if_pos whole]
    omega
  · rw [if_neg (by omega)]
    split
    · omega
    · omega

/-! ## Where a song stands -/

/-- A song whose calls have succeeded since its last start, or that is at its end. -/
structure Song.Stands (song : Song image geometry) (p : Globals Heap) : Prop where
  here : song.In p
  flag : (p.gWavePlay song.number).readOk = song.readOk
  since : atEnd (p.gWavePlay song.number) ∨ ∃ a, song.Aged a p

/-- A start that succeeds gives the song the age 0. -/
theorem Song.In.aged (here : song.In p) (flag : (p.gWavePlay song.number).readOk = song.readOk)
    (run : waveplayStart fatApi garbage song.number p = .ok out) (ok : out.ok = true) :
    song.Aged 0 out.player := by
  have entry := waveplayStart_entry run
  have same : out.player.setSong song.number
      { out.player.gWavePlay song.number with readOk := song.readOk } = out.player := by
    rw [← flag, ← entry.readOk]
    simp only [Globals.setSong, Function.update_eq_self]
  refine ⟨p, garbage, out, here, run, ok, (here.ready.waveplayStart run).1, ?_⟩
  rw [same]
  exact KeepsSong.refl _ _

/-- A song has an age only if its header is accepted. -/
theorem Song.Aged.accepted (aged : song.Aged a p) : HeaderAccepted (blockView song.block) := by
  induction a generalizing p with
  | zero =>
    obtain ⟨p', garbage, out, here, run, ok, ready, keeps⟩ := aged
    obtain ⟨record, starts⟩ := song.begins.starts song.stays
    exact (starts p' _ _ _ here.ready here.volume here.named run).accepted.mp ok
  | succ a ih =>
    obtain ⟨p', garbage, out, before, _⟩ := aged
    exact ih before

/-- Calls on other songs do not change where a song stands. -/
theorem Song.Stands.keep (stands : song.Stands p) (ready : Ready image geometry q)
    (keeps : KeepsSong song.number p q) : song.Stands q := by
  obtain ⟨here, flag, since⟩ := stands
  refine ⟨here.keep ready keeps, by rw [keeps.context, flag], ?_⟩
  rw [keeps.context]
  rcases since with ended | ⟨a, aged⟩
  · exact .inl ended
  · exact .inr ⟨a, aged.keep ready keeps⟩

/-- A start plays nothing. It gives the song the age 0 when its header is accepted, and otherwise
leaves it at its end. -/
theorem Song.Stands.start (stands : song.Stands p)
    (run : waveplayStart fatApi garbage song.number p = .ok out) :
    song.Stands out.player ∧
      ((HeaderAccepted (blockView song.block) ∧ song.Aged 0 out.player) ∨
        (¬HeaderAccepted (blockView song.block) ∧ atEnd (out.player.gWavePlay song.number))) := by
  obtain ⟨here, flag, since⟩ := stands
  obtain ⟨record, starts⟩ := song.begins.starts song.stays
  have started := starts p _ _ _ here.ready here.volume here.named run
  have entry := waveplayStart_entry run
  have after := here.change (here.ready.waveplayStart run).1 (waveplayStart_only run) entry
  cases ok : out.ok with
  | true =>
    have aged := here.aged flag run ok
    exact ⟨⟨after, entry.readOk.trans flag, .inr ⟨0, aged⟩⟩,
      .inl ⟨started.accepted.mp ok, aged⟩⟩
  | false =>
    have refused : ¬HeaderAccepted (blockView song.block) := by
      intro accepted
      rw [started.accepted.mpr accepted] at ok
      contradiction
    have ended : atEnd (out.player.gWavePlay song.number) := by
      rcases since with ended | ⟨a, aged⟩
      · rw [started.refused ok]
        exact ended
      · exact absurd aged.accepted refused
    exact ⟨⟨after, entry.readOk.trans flag, .inl ended⟩, .inr ⟨refused, ended⟩⟩

/-- A call that succeeds makes the song older by one, or starts it again. -/
theorem Song.Stands.execute (stands : song.Stands p)
    (run : waveplayExecute fatApi garbage song.number p = .ok out) (ok : out.ok = true) :
    song.Stands out.player := by
  by_cases ended : atEnd (p.gWavePlay song.number)
  · obtain ⟨_, restart, started, same⟩ := waveplayExecute_ended ended run
    rw [same]
    exact (stands.start started).1
  · obtain ⟨here, flag, since⟩ := stands
    obtain ⟨a, aged⟩ := since.resolve_left ended
    have entry := waveplayExecute_entry run
    have ready := (here.ready.waveplayExecute run).1
    exact ⟨here.change ready (waveplayExecute_only run) entry, entry.readOk.trans flag,
      .inr ⟨a + 1, p, garbage, out, aged, ended, run, ok, ready, KeepsSong.refl _ _⟩⟩

/-! ## Two runs -/

/-- A song that plays the same from here in two runs: it is at its end in both, or in the same
state. -/
structure Song.Alike (song : Song image geometry) (p q : Globals Heap) : Prop where
  left : song.Stands p
  right : song.Stands q
  same : (atEnd (p.gWavePlay song.number) ∧ atEnd (q.gWavePlay song.number)) ∨
    Paired image geometry song.number p q

/-- Calls on other songs do not tell the runs apart. -/
theorem Song.Alike.keep {p' q' : Globals Heap} (alike : song.Alike p q)
    (ready : Ready image geometry p') (keeps : KeepsSong song.number p p')
    (ready' : Ready image geometry q') (keeps' : KeepsSong song.number q q') :
    song.Alike p' q' := by
  obtain ⟨left, right, same⟩ := alike
  refine ⟨left.keep ready keeps, right.keep ready' keeps', ?_⟩
  rcases same with ended | paired
  · rw [keeps.context, keeps'.context]
    exact .inl ended
  · exact .inr ((paired.skip ready keeps).symm.skip ready' keeps').symm

/-- Both runs start the song. -/
theorem Song.Stands.starts {garbage' : Garbage} {out' : Outcome Heap} (left : song.Stands p)
    (right : song.Stands q) (run : waveplayStart fatApi garbage song.number p = .ok out)
    (run' : waveplayStart fatApi garbage' song.number q = .ok out') :
    song.Alike out.player out'.player := by
  obtain ⟨after, cases₁⟩ := left.start run
  obtain ⟨after', cases₂⟩ := right.start run'
  refine ⟨after, after', ?_⟩
  rcases cases₁ with ⟨accepted, aged⟩ | ⟨refused, ended⟩
  · rcases cases₂ with ⟨_, aged'⟩ | ⟨refused, _⟩
    · exact .inr (aged.paired aged')
    · contradiction
  · rcases cases₂ with ⟨accepted, _⟩ | ⟨_, ended'⟩
    · contradiction
    · exact .inl ⟨ended, ended'⟩

/-- Both runs make a call on the song: they play the same. -/
theorem Song.Alike.execute {garbage' : Garbage} {out' : Outcome Heap} (alike : song.Alike p q)
    (run : waveplayExecute fatApi garbage song.number p = .ok out)
    (run' : waveplayExecute fatApi garbage' song.number q = .ok out')
    (ok : out.ok = true) (ok' : out'.ok = true) :
    frames out'.events = frames out.events ∧ song.Alike out.player out'.player := by
  obtain ⟨left, right, ⟨ended, ended'⟩ | paired⟩ := alike
  · obtain ⟨silent, restart, started, same⟩ := waveplayExecute_ended ended run
    obtain ⟨silent', restart', started', same'⟩ := waveplayExecute_ended ended' run'
    rw [silent, silent', same, same']
    exact ⟨rfl, left.starts right started started'⟩
  · have agree := paired.execute garbage garbage'
    rw [run, run'] at agree
    obtain ⟨_, same, both⟩ := agree.of_ok
    obtain rfl := Except.ok.inj same
    exact ⟨by rw [both.events], left.execute run ok, right.execute run' ok', .inr both.paired⟩

/-! ## Phases -/

section Phases

variable {o last φ : Nat}

/-- How far a song is in its round: at its end, or of an age before that. -/
def Song.Phase (song : Song image geometry) (o last φ : Nat) (p : Globals Heap) : Prop :=
  (φ = roundCalls o last ∧ atEnd (p.gWavePlay song.number)) ∨
    (φ < roundCalls o last ∧ song.Aged φ p)

/-- A song of some age is in the phase of its age. -/
theorem Song.Aged.phase (aged : song.Aged a p) (spans : song.Spans o last)
    (through : GetsThrough o last) : song.Phase o last a p := by
  obtain ⟨inside, ended⟩ := aged.atEnd_iff spans through
  by_cases finished : a = roundCalls o last
  · exact .inl ⟨finished, ended.mpr finished⟩
  · exact .inr ⟨by omega, aged⟩

/-- A song that stands somewhere is in some phase. -/
theorem Song.Stands.phase (stands : song.Stands p) (spans : song.Spans o last)
    (through : GetsThrough o last) : ∃ φ, φ ≤ roundCalls o last ∧ song.Phase o last φ p := by
  rcases stands.since with ended | ⟨a, aged⟩
  · exact ⟨_, Nat.le_refl _, .inl ⟨rfl, ended⟩⟩
  · exact ⟨a, (aged.atEnd_iff spans through).1, aged.phase spans through⟩

/-- Calls on other songs keep the phase. -/
theorem Song.Phase.keep (phase : song.Phase o last φ p) (ready : Ready image geometry q)
    (keeps : KeepsSong song.number p q) : song.Phase o last φ q := by
  rcases phase with ⟨same, ended⟩ | ⟨early, aged⟩
  · refine .inl ⟨same, ?_⟩
    rw [keeps.context]
    exact ended
  · exact .inr ⟨early, aged.keep ready keeps⟩

/-- A call that succeeds takes an accepted song to its next phase. -/
theorem Song.Phase.execute (phase : song.Phase o last φ p) (stands : song.Stands p)
    (accepted : HeaderAccepted (blockView song.block)) (spans : song.Spans o last)
    (through : GetsThrough o last)
    (run : waveplayExecute fatApi garbage song.number p = .ok out) (ok : out.ok = true) :
    song.Phase o last ((φ + 1) % (roundCalls o last + 1)) out.player := by
  rcases phase with ⟨rfl, ended⟩ | ⟨early, aged⟩
  · obtain ⟨_, restart, started, same⟩ := waveplayExecute_ended ended run
    rw [Nat.mod_self, same]
    rcases (stands.start started).2 with ⟨_, aged⟩ | ⟨refused, _⟩
    · exact aged.phase spans through
    · contradiction
  · have onward : ¬atEnd (p.gWavePlay song.number) := by
      rw [(aged.atEnd_iff spans through).2]
      omega
    have older : song.Aged (φ + 1) out.player :=
      ⟨p, garbage, out, aged, onward, run, ok, (stands.here.ready.waveplayExecute run).1,
        KeepsSong.refl _ _⟩
    rw [Nat.mod_eq_of_lt (by omega)]
    exact older.phase spans through

/-- Two songs in the same phase play the same from there. -/
theorem Song.Phase.alike (phase : song.Phase o last φ p) (phase' : song.Phase o last φ q)
    (left : song.Stands p) (right : song.Stands q) : song.Alike p q := by
  refine ⟨left, right, ?_⟩
  rcases phase with ⟨same, ended⟩ | ⟨early, aged⟩
  · rcases phase' with ⟨_, ended'⟩ | ⟨early, _⟩
    · exact .inl ⟨ended, ended'⟩
    · omega
  · rcases phase' with ⟨same, _⟩ | ⟨_, aged'⟩
    · omega
    · exact .inr (aged.paired aged')

end Phases

end SoundBoard.Player
