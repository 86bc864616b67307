import SoundBoard.Player.BufferBounds

/-!
# Updates of a started song

A start replaces the file record and the buffer of its song before it knows whether it will set
the positions, and it can fail in between. Runs of calls on one song, over any library with any
answers: between the calls, either the record, the buffer and the positions belong together, or
the next call plays nothing, as long as a start of a song under way does not fail.
-/

namespace SoundBoard.Player

open SoundBoard.Lib SoundBoard.Fat SoundBoard.Wave

variable {σ : Type}

/-! ## What a file record has shown -/

/-- A file record since it was opened: its seek position, which only successful reads move, and
the bytes of its file that they have delivered. -/
structure Reading where
  seekPos : Nat
  delivered : Bytes

/-- A record as it is opened. -/
def Reading.opened : Reading := ⟨0, fun _ => 0⟩

/-- A record after a successful read. -/
def Reading.read (reading : Reading) (size : Nat) (szBuf : Bytes) : Reading where
  seekPos := toU32 (reading.seekPos + size)
  delivered := fun x =>
    if reading.seekPos ≤ x ∧ x < reading.seekPos + size then szBuf (x - reading.seekPos)
    else reading.delivered x

/-- The open records. -/
abbrev Readings : Type := Nat → Option Reading

/-- The library with a note of what its records have shown. -/
def FileApi.withReadings (api : FileApi σ) : FileApi (Readings × σ) where
  fatFileBrowseBegin files hFat := api.fatFileBrowseBegin files.2 hFat
  fatFileBrowseNext files handle context :=
    (api.fatFileBrowseNext files.2 handle context).map
      fun (bFind, handle, context, next) => (bFind, handle, context, files.1, next)
  fatFileOpen files hFat name :=
    (api.fatFileOpen files.2 hFat name).map fun (hFile, next) =>
      (hFile, if hFile = 0 then files.1 else Function.update files.1 hFile (some .opened), next)
  fatFileRead files hFile szBuf size :=
    (api.fatFileRead files.2 hFile szBuf size).map fun (bSuccess, szBuf', next) =>
      (bSuccess, szBuf', if bSuccess then Function.update files.1 hFile
        ((files.1 hFile).map fun reading => reading.read size szBuf') else files.1, next)
  fatFileClose files hFile :=
    (Function.update files.1 hFile none, api.fatFileClose files.2 hFile)

/-! ## The property -/

/-- The song's record is open and stands at the read position, and the unplayed bytes of the
buffer are those of its file. -/
def InPlace (k : Nat) (p : Globals (Readings × σ)) : Prop :=
  ∃ reading, p.files.1 (p.gWavePlay k).hFile = some reading ∧
    reading.seekPos = (p.gWavePlay k).uWaveReadPos ∧
    ∀ x, (p.gWavePlay k).uWavePlayPos ≤ x → x < (p.gWavePlay k).uWaveReadPos →
      (p.gWavePlay k).szBuf (x % waveBufSize) = reading.delivered x

/-- The next call of `waveplay_execute` hands over no frame. -/
def Silent (api : FileApi σ) (k : Nat) (p : Globals σ) : Prop :=
  ∀ garbage out, waveplayExecute api garbage k p = .ok out → frames out.events = []

/-- A song that is not left half-updated. -/
def Whole (api : FileApi σ) (k : Nat) (p : Globals (Readings × σ)) : Prop :=
  InPlace k p ∨ Silent api.withReadings k p

/-! ## The condition -/

/-- A start of a song under way that leaves it whole. -/
inductive HarmlessStart (api : FileApi σ) (garbage : Garbage) (k : Nat) (p : Globals σ) : Prop where
  /-- It reads its first block and accepts it. -/
  | accepted {loaded : Globals σ} : Loads api k p true loaded →
      HeaderAccepted (bufView loaded.gWavePlay garbage k) → HarmlessStart api garbage k p
  /-- It reads its first block, and the read position is still the one behind that block. -/
  | again {loaded : Globals σ} : Loads api k p true loaded →
      (p.gWavePlay k).uWaveReadPos = waveBufSize → HarmlessStart api garbage k p
  /-- It does not find its file, and nothing of the buffer is unplayed. -/
  | gone : Missing api k p → (p.gWavePlay k).uWaveReadPos ≤ (p.gWavePlay k).uWavePlayPos →
      HarmlessStart api garbage k p
  /-- What is unplayed is less than a frame. -/
  | leftover : Leftover (p.gWavePlay k) → HarmlessStart api garbage k p

/-- Such a start, told by what it loads. -/
theorem harmlessStart_iff {api : FileApi σ} {garbage : Garbage} {k : Nat} {p : Globals σ} :
    HarmlessStart api garbage k p ↔
      ((loadedBy api k p).any fun (bSuccess, loaded) => bSuccess &&
        (decide (HeaderAccepted (bufView loaded.gWavePlay garbage k)) ||
          (p.gWavePlay k).uWaveReadPos == waveBufSize)) = true ∨
      (Missing api k p ∧ (p.gWavePlay k).uWaveReadPos ≤ (p.gWavePlay k).uWavePlayPos) ∨
      Leftover (p.gWavePlay k) := by
  simp only [Option.any_eq_true, Bool.and_eq_true, Bool.or_eq_true, decide_eq_true_eq, beq_iff_eq]
  constructor
  · rintro (⟨loads, header⟩ | ⟨loads, again⟩ | ⟨missing, empty⟩ | few)
    · exact .inl ⟨_, loads_iff.mp loads, rfl, .inl header⟩
    · exact .inl ⟨_, loads_iff.mp loads, rfl, .inr again⟩
    · exact .inr (.inl ⟨missing, empty⟩)
    · exact .inr (.inr few)
  · rintro (⟨⟨_, loaded⟩, loads, rfl, header | again⟩ | ⟨missing, empty⟩ | few)
    · exact .accepted (loads_iff.mpr loads) header
    · exact .again (loads_iff.mpr loads) again
    · exact .gone missing empty
    · exact .leftover few

instance (context : PlaywaveContext) : Decidable (Leftover context) :=
  inferInstanceAs (Decidable (_ ∧ _))

instance (api : FileApi σ) (garbage : Garbage) (k : Nat) (p : Globals σ) :
    Decidable (HarmlessStart api garbage k p) := decidable_of_iff _ harmlessStart_iff.symm

/-- A call on the song that does not leave it half-updated. -/
structure KeepsWhole (api : FileApi σ) (k : Nat) (p : Globals σ) (call : Call) : Prop where
  song : call.songnummer = k
  /-- A start that does not find its file finds a false flag, or a block that is rejected. -/
  missing : call.Starts p → Missing api k p → call.garbage.bSuccess = true →
    ¬HeaderAccepted (bufView p.gWavePlay call.garbage k)
  underWay : call.Starts p → ¬atEnd (p.gWavePlay k) → HarmlessStart api call.garbage k p

instance (api : FileApi σ) (k : Nat) (p : Globals σ) (call : Call) :
    Decidable (KeepsWhole api k p call) :=
  decidable_of_iff (call.songnummer = k ∧
      (call.Starts p → Missing api k p → call.garbage.bSuccess = true →
        ¬HeaderAccepted (bufView p.gWavePlay call.garbage k)) ∧
      (call.Starts p → ¬atEnd (p.gWavePlay k) → HarmlessStart api call.garbage k p))
    ⟨fun ⟨song, missing, underWay⟩ => ⟨song, missing, underWay⟩,
      fun ⟨song, missing, underWay⟩ => ⟨song, missing, underWay⟩⟩

/-- Reads through a null pointer fail. -/
def NullFails (api : FileApi σ) : Prop :=
  ∀ files szBuf size bSuccess szBuf' files',
    api.fatFileRead files 0 szBuf size = .ok (bSuccess, szBuf', files') → bSuccess = false

/-! ## Where a song can stand -/

/-- The states that calls keep a song in. -/
inductive Standing (k : Nat) (p : Globals (Readings × σ)) : Prop where
  | ended : atEnd (p.gWavePlay k) → Standing k p
  | inPlace : InPlace k p → Standing k p
  | leftover : Leftover (p.gWavePlay k) → Standing k p
  | lost : (p.gWavePlay k).hFile = 0 →
      (p.gWavePlay k).uWaveReadPos ≤ (p.gWavePlay k).uWavePlayPos → Standing k p

section Calls

variable {api : FileApi σ} {garbage : Garbage} {k : Nat} {p : Globals (Readings × σ)}
  {out : Outcome (Readings × σ)}

/-! ## A start -/

/-- A start that does not find its file, and is not taken for a success, changes the record
alone. -/
theorem waveplayStart_gone (missing : Missing api.withReadings k p)
    (refused : garbage.bSuccess = true → ¬HeaderAccepted (bufView p.gWavePlay garbage k))
    (run : waveplayStart api.withReadings garbage k p = .ok out) :
    out.player.gWavePlay k = { p.gWavePlay k with hFile := 0 } := by
  obtain ⟨files, opens⟩ := missing
  have view := bufView_hFile p.gWavePlay garbage k 0 (p.gWavePlay k)
  rw [Function.update_eq_self] at view
  unfold waveplayStart at run
  split at run
  · simp only [waveplayOpen, opens, ↓reduceIte] at run
    split at run
    · rename_i flag
      rcases waveplayPrepare_cases run with ⟨_, _, same⟩ | ⟨_, _, _, _, prepared⟩
      · rw [same, Globals.setSong_self]
      · have accepted := prepared.accepted
        simp only [Globals.setSong, view] at accepted
        exact absurd accepted (refused flag)
    · obtain rfl := Except.ok.inj run
      rw [Globals.setSong_self]
  · contradiction

/-- A start that does not read its first block changes the record and the buffer. -/
theorem waveplayStart_short {loaded : Globals (Readings × σ)}
    (loads : Loads api.withReadings k p false loaded)
    (run : waveplayStart api.withReadings garbage k p = .ok out) : out.player = loaded := by
  obtain ⟨hFile, files, szBuf, files', opens, some, read, rfl⟩ := loads
  unfold waveplayStart at run
  split at run
  · rw [waveplayOpen_some _ opens some] at run
    simp only [firstBlock, Globals.setSong_self, Globals.setSong_files, read, Except.map,
      Bool.false_eq_true, ↓reduceIte] at run
    obtain rfl := Except.ok.inj run
    simp only [Globals.loaded, Globals.setSong, Function.update_idem]
  · contradiction

/-- A start that reads its first block has opened a record that stands behind it. -/
theorem Loads.reading {loaded : Globals (Readings × σ)}
    (loads : Loads api.withReadings k p true loaded) :
    ∃ reading, loaded.files.1 (loaded.gWavePlay k).hFile = some reading ∧
      reading.seekPos = waveBufSize ∧
      ∀ x, x < waveBufSize → (loaded.gWavePlay k).szBuf x = reading.delivered x := by
  obtain ⟨hFile, files, szBuf, files', opens, some_, read, rfl⟩ := loads
  obtain ⟨opened, _, fresh⟩ := map_eq_ok opens
  obtain ⟨answer, _, after⟩ := map_eq_ok read
  simp only [Prod.mk.injEq] at fresh after
  obtain ⟨same, rfl⟩ := fresh
  obtain ⟨ok, rfl, rfl⟩ := after
  simp only [Globals.loaded, Globals.setSong_self, Globals.setSong_files, ok, ↓reduceIte, same,
    if_neg some_, Function.update_self, Option.map_some]
  refine ⟨_, rfl, rfl, ?_⟩
  intro x inside
  simp [Reading.read, Reading.opened, inside]

/-- A start that opens its file keeps the positions until the header is accepted. -/
theorem Loads.context {bSuccess : Bool} {loaded : Globals (Readings × σ)}
    (loads : Loads api.withReadings k p bSuccess loaded) :
    ∃ hFile szBuf, loaded.gWavePlay k = { p.gWavePlay k with hFile, szBuf } := by
  obtain ⟨hFile, _, szBuf, _, _, _, _, rfl⟩ := loads
  exact ⟨hFile, szBuf, Globals.setSong_self _ _ _⟩

/-- Records and buffers do not matter at the end of a song, nor while it plays nothing. -/
theorem Standing.replaced {q : Globals (Readings × σ)} {hFile : Nat} {szBuf : Bytes}
    (same : q.gWavePlay k = { p.gWavePlay k with hFile, szBuf })
    (idle : atEnd (p.gWavePlay k) ∨ Leftover (p.gWavePlay k)) : Standing k q := by
  rcases idle with ended | few
  · apply Standing.ended
    rw [same]
    exact ended
  · apply Standing.leftover
    rw [same]
    exact few

/-- A start that is rejected leaves the song in one of its states. -/
theorem Standing.rejected {loaded : Globals (Readings × σ)}
    (loads : Loads api.withReadings k p true loaded)
    (underWay : ¬atEnd (p.gWavePlay k) → HarmlessStart api.withReadings garbage k p)
    (refused : ¬HeaderAccepted (bufView loaded.gWavePlay garbage k)) : Standing k loaded := by
  obtain ⟨hFile, szBuf, same⟩ := loads.context
  by_cases ended : atEnd (p.gWavePlay k)
  · exact .replaced same (.inl ended)
  · cases underWay ended with
    | accepted other accepted =>
      obtain rfl := (loads.unique other).2
      exact absurd accepted refused
    | again _ behind =>
      obtain ⟨reading, open_, seekPos, delivered⟩ := loads.reading
      have position : (loaded.gWavePlay k).uWaveReadPos = waveBufSize := by
        rw [same]
        exact behind
      apply Standing.inPlace
      refine ⟨reading, open_, seekPos.trans position.symm, ?_⟩
      intro x _ inside
      rw [position] at inside
      rw [Nat.mod_eq_of_lt inside]
      exact delivered x inside
    | gone lost _ => exact absurd lost loads.not_missing
    | leftover few => exact .replaced same (.inr few)

/-- A start that prepares the song puts everything in place. -/
theorem Loads.prepared {loaded : Globals (Readings × σ)} {offset size : Int}
    (loads : Loads api.withReadings k p true loaded)
    (prepared : Prepared garbage k loaded offset size out.player) :
    (out.player.gWavePlay k).InRange ∧ InPlace k out.player := by
  obtain ⟨reading, open_, seekPos, delivered⟩ := loads.reading
  rw [prepared.player, Globals.setSong_self]
  constructor
  · refine ⟨toU32_lt _, show waveBufSize < 4294967296 by decide, toU32_lt _, ?_⟩
    simp only [PlaywaveContext.prepared, waveBufSize]
    omega
  · refine ⟨reading, ?_, ?_, ?_⟩
    · simpa [PlaywaveContext.prepared] using open_
    · simpa [PlaywaveContext.prepared] using seekPos
    · intro x _ inside
      simp only [Globals.setSong_self, PlaywaveContext.prepared] at inside ⊢
      rw [Nat.mod_eq_of_lt inside]
      exact delivered x inside

/-- A start leaves the song in one of its states, wherever it stood. -/
theorem waveplayStart_standing (range : (p.gWavePlay k).InRange)
    (missing : Missing api.withReadings k p → garbage.bSuccess = true →
      ¬HeaderAccepted (bufView p.gWavePlay garbage k))
    (underWay : ¬atEnd (p.gWavePlay k) → HarmlessStart api.withReadings garbage k p)
    (run : waveplayStart api.withReadings garbage k p = .ok out) :
    (out.player.gWavePlay k).InRange ∧ Standing k out.player := by
  have kept : ∀ {q : Globals (Readings × σ)} {hFile : Nat} {szBuf : Bytes},
      q.gWavePlay k = { p.gWavePlay k with hFile, szBuf } → (q.gWavePlay k).InRange := by
    intro q hFile szBuf same
    rw [same]
    exact ⟨range.play, range.read, range.last, range.block⟩
  rcases waveplayStart_answers run with lost | ⟨bSuccess, loaded, loads⟩
  · have same := waveplayStart_gone lost (missing lost) run
    refine ⟨kept same, ?_⟩
    by_cases ended : atEnd (p.gWavePlay k)
    · exact .replaced same (.inl ended)
    · cases underWay ended with
      | accepted loads _ => exact absurd lost loads.not_missing
      | again loads _ => exact absurd lost loads.not_missing
      | gone _ empty =>
        apply Standing.lost
        · rw [same]
        · rw [same]
          exact empty
      | leftover few => exact .replaced same (.inr few)
  · obtain ⟨hFile, szBuf, same⟩ := loads.context
    cases bSuccess with
    | false =>
      obtain rfl := waveplayStart_short loads run
      refine ⟨kept same, ?_⟩
      by_cases ended : atEnd (p.gWavePlay k)
      · exact .replaced same (.inl ended)
      · cases underWay ended with
        | accepted other _ => exact absurd (loads.unique other).1 (by decide)
        | again other _ => exact absurd (loads.unique other).1 (by decide)
        | gone lost _ => exact absurd lost loads.not_missing
        | leftover few => exact .replaced same (.inr few)
    | true =>
      have song : k ≤ maxSongs := by
        unfold waveplayStart at run
        split at run
        · assumption
        · contradiction
      obtain ⟨events, prepare⟩ := waveplayStart_loaded garbage song loads
      rw [prepare] at run
      rcases waveplayPrepare_cases run with ⟨refused, _, unchanged⟩ | ⟨_, _, offset, size, ready⟩
      · rw [unchanged]
        refine ⟨kept same, .rejected loads underWay ?_⟩
        rintro ⟨sampleRate, check⟩
        have ok := waveplayPrepare_accepted check run
        rw [refused] at ok
        contradiction
      · obtain ⟨inRange, inPlace⟩ := loads.prepared ready
        exact ⟨inRange, .inPlace inPlace⟩

/-! ## A call of waveplay_execute -/

/-- The song's record is open and stands at the read position. -/
def Seeks (k : Nat) (p : Globals (Readings × σ)) : Prop :=
  ∃ reading, p.files.1 (p.gWavePlay k).hFile = some reading ∧
    reading.seekPos = (p.gWavePlay k).uWaveReadPos

/-- With nothing unplayed in the buffer, a record at the read position is all that counts. -/
theorem Seeks.inPlace (seeks : Seeks k p)
    (empty : (p.gWavePlay k).uWaveReadPos ≤ (p.gWavePlay k).uWavePlayPos) : InPlace k p := by
  obtain ⟨reading, open_, seekPos⟩ := seeks
  refine ⟨reading, open_, seekPos, ?_⟩
  intro x low high
  omega

/-- A successful read moves the record with the read position. -/
theorem Seeks.read {size : Nat} {szBuf szBuf' : Bytes} {files : Readings × σ} (seeks : Seeks k p)
    (read : api.withReadings.fatFileRead p.files (p.gWavePlay k).hFile szBuf size =
      .ok (true, szBuf', files)) :
    Seeks k ({ p with files }.setSong k { p.gWavePlay k with
      szBuf := szBuf', uWaveReadPos := toU32 ((p.gWavePlay k).uWaveReadPos + size) }) := by
  obtain ⟨reading, open_, seekPos⟩ := seeks
  obtain ⟨answer, _, after⟩ := map_eq_ok read
  simp only [Prod.mk.injEq] at after
  obtain ⟨ok, rfl, rfl⟩ := after
  refine ⟨reading.read size answer.2.1, ?_, ?_⟩
  · simp [ok, open_]
  · simp [Reading.read, seekPos]

/-- A read that fails leaves the record where it stands. -/
theorem Seeks.failed {size : Nat} {szBuf szBuf' : Bytes} {files : Readings × σ}
    (seeks : Seeks k p)
    (read : api.withReadings.fatFileRead p.files (p.gWavePlay k).hFile szBuf size =
      .ok (false, szBuf', files)) :
    Seeks k ({ p with files }.setSong k { p.gWavePlay k with szBuf := szBuf' }) := by
  obtain ⟨reading, open_, seekPos⟩ := seeks
  obtain ⟨answer, _, after⟩ := map_eq_ok read
  simp only [Prod.mk.injEq] at after
  obtain ⟨failed, rfl, rfl⟩ := after
  refine ⟨reading, ?_, ?_⟩
  · simp [failed, open_]
  · simp [seekPos]

/-- A refill keeps the record at the read position. Either it leaves unplayed bytes, or it fails
and leaves none. -/
theorem refillLoop_seeks (fuel : Nat) {events : List Event}
    (run : refillLoop api.withReadings k fuel events p = .ok out)
    (range : (p.gWavePlay k).InRange) (onward : ¬atEnd (p.gWavePlay k)) (seeks : Seeks k p) :
    (out.player.gWavePlay k).InRange ∧ Seeks k out.player ∧
      (out.ok = true →
        (out.player.gWavePlay k).uWavePlayPos < (out.player.gWavePlay k).uWaveReadPos) ∧
      (out.ok = false →
        (out.player.gWavePlay k).uWaveReadPos ≤ (out.player.gWavePlay k).uWavePlayPos) := by
  induction fuel generalizing events p with
  | zero => contradiction
  | succ fuel ih =>
    simp only [refillLoop] at run
    split at run
    · rename_i ready
      obtain rfl := Except.ok.inj run
      exact ⟨range, seeks, fun _ => ready, fun failed => by contradiction⟩
    · rename_i empty
      have position := toU32_readPos (Nat.lt_of_not_le onward) range.last (Nat.not_lt.mp empty)
      have small := (readSize_bounds (Nat.lt_of_not_le onward) range.last).2.1
      split at run
      · contradiction
      · rename_i szBuf files read
        refine ih run ?_ ?_ (seeks.read read)
        · have below := toU32_lt ((p.gWavePlay k).uWaveReadPos + readSize (p.gWavePlay k))
          rw [Globals.setSong_self]
          refine ⟨range.play, below, range.last, ?_⟩
          simp only [position]
          omega
        · rw [Globals.setSong_self]
          exact onward
      · rename_i szBuf files read
        obtain rfl := Except.ok.inj run
        refine ⟨?_, seeks.failed read, fun ok => by contradiction, fun _ => ?_⟩
        · rw [Globals.setSong_self]
          exact ⟨range.play, range.read, range.last, range.block⟩
        · rw [Globals.setSong_self]
          exact Nat.not_lt.mp empty

/-- Playing leaves less than a frame, or nothing. -/
theorem playBuffer_standing (garbage : Garbage) (range : (p.gWavePlay k).InRange)
    (ready : (p.gWavePlay k).uWavePlayPos < (p.gWavePlay k).uWaveReadPos) (seeks : Seeks k p) :
    ((playBuffer garbage k p).2.gWavePlay k).InRange ∧ Standing k (playBuffer garbage k p).2 := by
  obtain ⟨reading, open_, seekPos⟩ := seeks
  have high := range.read
  rw [playBuffer_player (Nat.le_of_lt ready) range.block range.read]
  generalize gap : (p.gWavePlay k).uWaveReadPos - (p.gWavePlay k).uWavePlayPos = unplayed
  have near := range.block
  constructor
  · rw [Globals.setSong_self]
    refine ⟨?_, range.read, range.last, ?_⟩
    · simp only []
      omega
    · simp only []
      omega
  · by_cases whole : unplayed % 4 = 0
    · apply Standing.inPlace
      apply Seeks.inPlace
      · exact ⟨reading, by simpa using open_, by simpa using seekPos⟩
      · rw [Globals.setSong_self]
        simp only []
        omega
    · apply Standing.leftover
      rw [Globals.setSong_self]
      simp only [Leftover]
      omega

/-- Without a record a call reads nothing and plays nothing. -/
theorem waveplayExecute_lost (nullFails : NullFails api) (onward : ¬atEnd (p.gWavePlay k))
    (null : (p.gWavePlay k).hFile = 0)
    (empty : (p.gWavePlay k).uWaveReadPos ≤ (p.gWavePlay k).uWavePlayPos)
    (run : waveplayExecute api.withReadings garbage k p = .ok out) :
    frames out.events = [] ∧
      ∃ szBuf, out.player.gWavePlay k = { p.gWavePlay k with szBuf } := by
  obtain ⟨refill, filled, played⟩ := waveplayExecute_refill onward run
  simp only [refillFuel, refillLoop, if_neg (Nat.not_lt.mpr empty)] at filled
  split at filled
  · contradiction
  · rename_i szBuf files read
    obtain ⟨⟨bSuccess, next⟩, answer, after⟩ := map_eq_ok read
    have fails := nullFails _ _ _ _ _ _ (null ▸ answer)
    simp only [Prod.mk.injEq] at after
    rw [fails] at after
    exact absurd after.1 (by decide)
  · rename_i szBuf files read
    obtain rfl := Except.ok.inj filled
    rcases played with ⟨ok, _⟩ | ⟨_, rfl⟩
    · contradiction
    · exact ⟨rfl, szBuf, Globals.setSong_self _ _ _⟩

/-- A call of `waveplay_execute` leaves the song in one of its states. -/
theorem waveplayExecute_standing (nullFails : NullFails api) (range : (p.gWavePlay k).InRange)
    (standing : Standing k p)
    (missing : atEnd (p.gWavePlay k) → Missing api.withReadings k p → garbage.bSuccess = true →
      ¬HeaderAccepted (bufView p.gWavePlay garbage k))
    (run : waveplayExecute api.withReadings garbage k p = .ok out) :
    (out.player.gWavePlay k).InRange ∧ Standing k out.player := by
  by_cases ended : atEnd (p.gWavePlay k)
  · obtain ⟨_, restart, started, same⟩ := waveplayExecute_ended ended run
    rw [same]
    exact waveplayStart_standing range (missing ended) (fun onward => absurd ended onward) started
  · cases standing with
    | ended here => exact absurd here ended
    | inPlace place =>
      obtain ⟨reading, open_, seekPos, _⟩ := place
      obtain ⟨refill, filled, played⟩ := waveplayExecute_refill ended run
      obtain ⟨inRange, seeks, ready, empty⟩ := refillLoop_seeks _ filled range ended
        ⟨reading, open_, seekPos⟩
      rcases played with ⟨ok, player, _⟩ | ⟨failed, rfl⟩
      · rw [player]
        exact playBuffer_standing garbage inRange (ready ok) seeks
      · exact ⟨inRange, .inPlace (seeks.inPlace (empty failed))⟩
    | leftover few =>
      obtain ⟨_, same⟩ := waveplayExecute_leftover range ended few run
      constructor
      · rw [same]
        exact range
      · apply Standing.leftover
        rw [same]
        exact few
    | lost null empty =>
      obtain ⟨_, szBuf, same⟩ := waveplayExecute_lost nullFails ended null empty run
      constructor
      · rw [same]
        exact ⟨range.play, range.read, range.last, range.block⟩
      · apply Standing.lost
        · rw [same]
          exact null
        · rw [same]
          exact empty

/-- A song in one of its states is not half-updated. -/
theorem Standing.whole (nullFails : NullFails api) (range : (p.gWavePlay k).InRange)
    (standing : Standing k p) : Whole api k p := by
  by_cases ended : atEnd (p.gWavePlay k)
  · right
    intro garbage out run
    exact (waveplayExecute_ended ended run).1
  · cases standing with
    | ended here => exact absurd here ended
    | inPlace place => exact .inl place
    | leftover few =>
      right
      intro garbage out run
      exact (waveplayExecute_leftover range ended few run).1
    | lost null empty =>
      right
      intro garbage out run
      exact (waveplayExecute_lost nullFails ended null empty run).1

end Calls

/-! ## Runs -/

/-- In every run of calls on a song, from a context that has been cleared and named and over any
library, the song is not half-updated in any state reached, as long as no start of it fails while
it is under way. -/
theorem whole_keepsWhole {api : FileApi σ} {k : Nat} {p q : Globals (Readings × σ)}
    {trace : List Event} {szFilename : Name} (nullFails : NullFails api)
    (named : p.gWavePlay k = { PlaywaveContext.cleared with szFilename })
    (run : (player api.withReadings).Run (KeepsWhole api.withReadings k) p trace q) :
    Whole api k q := by
  have kept : (q.gWavePlay k).InRange ∧ Standing k q := by
    refine run.stateInvariant (fun q => (q.gWavePlay k).InRange ∧ Standing k q) ?_ ?_
    · rw [named]
      constructor
      · have zero : 0 < 4294967296 := by decide
        exact ⟨zero, zero, zero, Nat.zero_le _⟩
      · apply Standing.ended
        rw [named]
        exact Nat.le_refl 0
    · rintro q call r events ⟨range, standing⟩ keeps step
      simp only [player] at step
      split at step
      · contradiction
      · rename_i out called
        obtain ⟨rfl, rfl⟩ := Prod.mk.inj (Option.some.inj step)
        obtain ⟨song, missing, underWay⟩ := keeps
        unfold Call.runOn at called
        unfold Call.Starts at missing underWay
        rw [song] at called missing underWay
        split at called
        · exact waveplayExecute_standing nullFails range standing
            (fun ended => missing fun _ => ended) called
        · rename_i start
          have starts : call.execute = true → atEnd (q.gWavePlay k) :=
            fun execute => absurd execute start
          exact waveplayStart_standing range (missing starts) (underWay starts) called
  exact kept.2.whole nullFails kept.1

/-! ## The records of the FAT library -/

section Library

/-- What a library keeps under openings and reads, calls keep. -/
structure KeptBy (api : FileApi σ) (holds : σ → Prop) : Prop where
  opens : ∀ {files hFat name hFile files'}, holds files →
    api.fatFileOpen files hFat name = .ok (hFile, files') → holds files'
  reads : ∀ {files hFile szBuf size bSuccess szBuf' files'}, holds files →
    api.fatFileRead files hFile szBuf size = .ok (bSuccess, szBuf', files') → holds files'

variable {api : FileApi σ} {holds : σ → Prop} {garbage : Garbage} {k : Nat} {p : Globals σ}
  {out : Outcome σ}

theorem KeptBy.start (kept : KeptBy api holds) (before : holds p.files)
    (run : waveplayStart api garbage k p = .ok out) : holds out.player.files := by
  unfold waveplayStart at run
  split at run
  · split at run
    · contradiction
    · rename_i first opened
      have after : holds first.player.files := by
        simp only [waveplayOpen] at opened
        split at opened
        · contradiction
        · rename_i opens
          have open_ := kept.opens before opens
          split at opened
          · obtain rfl := Except.ok.inj opened
            exact open_
          · split at opened
            · contradiction
            · rename_i read
              obtain rfl := Except.ok.inj opened
              exact kept.reads open_ read
      split at run
      · rcases waveplayPrepare_cases run with ⟨_, _, same⟩ | ⟨_, _, _, _, prepared⟩
        · rw [same]
          exact after
        · rw [prepared.player]
          exact after
      · obtain rfl := Except.ok.inj run
        exact after
  · contradiction

theorem KeptBy.refill (kept : KeptBy api holds) (fuel : Nat) {events : List Event}
    (before : holds p.files) (run : refillLoop api k fuel events p = .ok out) :
    holds out.player.files := by
  induction fuel generalizing events p with
  | zero => contradiction
  | succ fuel ih =>
    simp only [refillLoop] at run
    split at run
    · obtain rfl := Except.ok.inj run
      exact before
    · split at run
      · contradiction
      · rename_i read
        exact ih (kept.reads before read) run
      · rename_i read
        obtain rfl := Except.ok.inj run
        exact kept.reads before read

theorem KeptBy.call (kept : KeptBy api holds) {call : Call} (before : holds p.files)
    (run : call.runOn api p = .ok out) : holds out.player.files := by
  unfold Call.runOn at run
  split at run
  · unfold waveplayExecute at run
    split at run
    · split at run
      · obtain ⟨restart, started, rfl⟩ := map_eq_ok run
        have after := kept.start before started
        exact after
      · split at run
        · contradiction
        · rename_i refill filled
          have after := kept.refill _ before filled
          split at run
          · obtain rfl := Except.ok.inj run
            exact after
          · obtain rfl := Except.ok.inj run
            exact after
    · contradiction
  · exact kept.start before run

end Library

/-- A record that is open stands at the seek position that has been noted. -/
structure Shows (readings : Readings) (heap : Heap) : Prop where
  null : readings 0 = none
  records : ∀ hFile reading, readings hFile = some reading → ∃ file : FatFileInfo,
    heap.files hFile = some file ∧ file.isOpened = true ∧ file.seekPos = reading.seekPos

/-- Browsing changes no record. -/
theorem fatFileBrowseNext_files {heap heap' : Heap} {handle handle' : BrowseHandle}
    {context context' : FileContext} {bFind : Bool}
    (run : Fat.fatFileBrowseNext heap handle context = .ok (bFind, handle', context', heap')) :
    heap'.files = heap.files := by
  unfold Fat.fatFileBrowseNext at run
  split at run
  · obtain ⟨_, _, _, rfl⟩ := by simpa using run
    rfl
  · split at run
    · contradiction
    · split at run
      · obtain ⟨⟨_, _, _, vol⟩, _, same⟩ := map_eq_ok run
        simp only [Prod.mk.injEq] at same
        rw [← same.2.2.2]
        rfl
      · obtain ⟨_, _, _, rfl⟩ := by simpa using run
        rfl

/-- Nor does the search for a name. -/
theorem openLoop_files (pFilename : Name) (fuel : Nat) {heap heap' : Heap} {handle : BrowseHandle}
    {context : FileContext} {found : Option FileContext}
    (run : openLoop pFilename fuel heap handle context = .ok (found, heap')) :
    heap'.files = heap.files := by
  induction fuel generalizing heap handle context with
  | zero => contradiction
  | succ fuel ih =>
    simp only [openLoop] at run
    split at run
    · contradiction
    · rename_i browsed
      obtain ⟨_, rfl⟩ := Prod.mk.inj (Except.ok.inj run)
      exact fatFileBrowseNext_files browsed
    · rename_i browsed
      have same := fatFileBrowseNext_files browsed
      split at run
      · contradiction
      · obtain ⟨_, rfl⟩ := Prod.mk.inj (Except.ok.inj run)
        exact same
      · exact (ih run).trans same

/-- A write to one record, noted. -/
theorem Shows.write {readings readings' : Readings} {heap heap' : Heap} {hFile : Nat}
    {file : FatFileInfo} (shows_ : Shows readings heap) (null : readings' 0 = none)
    (elsewhere : ∀ other, other ≠ hFile → readings' other = readings other)
    (written : heap'.files = Function.update heap.files hFile (some file))
    (here : ∀ reading, readings' hFile = some reading →
      file.isOpened = true ∧ file.seekPos = reading.seekPos) : Shows readings' heap' := by
  refine ⟨null, ?_⟩
  intro other reading noted
  by_cases same : other = hFile
  · rw [same] at noted
    rw [same, written, Function.update_self]
    exact ⟨file, rfl, here reading noted⟩
  · rw [elsewhere other same] at noted
    rw [written, Function.update_of_ne same]
    exact shows_.records other reading noted

/-- Without a write nothing has to be noted. -/
theorem Shows.keep {readings : Readings} {heap heap' : Heap} (shows_ : Shows readings heap)
    (kept : heap'.files = heap.files) : Shows readings heap' := by
  refine ⟨shows_.null, ?_⟩
  rw [kept]
  exact shows_.records

/-- An opening notes its new record. -/
theorem Shows.open {readings : Readings} {heap heap' : Heap} {hFat hFile : Nat} {name : Name}
    (shows_ : Shows readings heap) (run : fatFileOpen heap hFat name = .ok (hFile, heap')) :
    Shows (if hFile = 0 then readings else Function.update readings hFile (some .opened)) heap' := by
  unfold fatFileOpen at run
  split at run
  · contradiction
  · obtain ⟨rfl, rfl⟩ := Prod.mk.inj (Except.ok.inj run)
    exact shows_
  · split at run
    · contradiction
    · rename_i searched
      obtain ⟨rfl, rfl⟩ := Prod.mk.inj (Except.ok.inj run)
      exact shows_.keep (openLoop_files _ _ searched)
    · rename_i context found searched
      obtain ⟨rfl, rfl⟩ := Prod.mk.inj (Except.ok.inj run)
      have searching := shows_.keep (openLoop_files _ _ searched)
      by_cases null : found.next = 0
      · rw [if_pos null]
        refine searching.write searching.null (fun _ _ => rfl) rfl ?_
        intro reading noted
        rw [null, searching.null] at noted
        contradiction
      · rw [if_neg null]
        refine searching.write ?_ (fun other apart => Function.update_of_ne apart _ _) rfl ?_
        · rw [Function.update_of_ne (Ne.symm null)]
          exact searching.null
        · intro reading noted
          rw [Function.update_self] at noted
          obtain rfl := Option.some.inj noted
          exact ⟨rfl, rfl⟩

/-- A read notes where its record has got to. -/
theorem Shows.read {readings : Readings} {heap heap' : Heap} {hFile size : Nat}
    {szBuf szBuf' : Bytes} {bSuccess : Bool} (shows_ : Shows readings heap)
    (run : fatFileRead heap hFile szBuf size = .ok (bSuccess, szBuf', heap')) :
    Shows (if bSuccess then Function.update readings hFile
      ((readings hFile).map fun reading => reading.read size szBuf') else readings) heap' := by
  have unnoted : (∀ reading, readings hFile ≠ some reading) → ∀ szBuf',
      Function.update readings hFile
        ((readings hFile).map fun reading => reading.read size szBuf') = readings := by
    intro fresh szBuf'
    have none_ : readings hFile = none := Option.eq_none_iff_forall_ne_some.mpr fresh
    rw [none_, Option.map_none, ← none_, Function.update_eq_self]
  unfold fatFileRead at run
  split at run
  · simp only [Except.ok.injEq, Prod.mk.injEq] at run
    obtain ⟨rfl, _, rfl⟩ := run
    exact shows_
  · rename_i pointer
    split at run
    · contradiction
    · rename_i file at_
      split at run
      · simp only [Except.ok.injEq, Prod.mk.injEq] at run
        obtain ⟨rfl, _, rfl⟩ := run
        exact shows_
      · split at run
        · contradiction
        · rename_i vol _
          split at run
          · rename_i closed
            simp only [Except.ok.injEq, Prod.mk.injEq] at run
            obtain ⟨rfl, _, rfl⟩ := run
            rw [if_pos rfl, unnoted]
            · exact shows_
            · intro reading noted
              obtain ⟨other, same, opened, _⟩ := shows_.records hFile reading noted
              obtain rfl := Option.some.inj (at_.symm.trans same)
              exact closed opened
          · split at run
            · contradiction
            · simp only [Except.ok.injEq, Prod.mk.injEq] at run
              obtain ⟨rfl, rfl, rfl⟩ := run
              refine shows_.write ?_ ?_ (show _ = Function.update heap.files hFile
                (some (readFile vol file szBuf size).file) from rfl) ?_
              · cases ok : (readFile vol file szBuf size).bSuccess
                · exact shows_.null
                · simp only [↓reduceIte]
                  rw [Function.update_of_ne (Ne.symm pointer)]
                  exact shows_.null
              · intro other apart
                split
                · exact Function.update_of_ne apart _ _
                · rfl
              · intro reading noted
                have seekPos := readFile_seekPos vol file szBuf size
                have opened := congrArg Prod.fst (readFile_identity vol file szBuf size)
                cases ok : (readFile vol file szBuf size).bSuccess with
                | false =>
                  rw [ok] at noted seekPos
                  obtain ⟨other, same, isOpened, position⟩ := shows_.records hFile reading noted
                  obtain rfl := Option.some.inj (at_.symm.trans same)
                  exact ⟨opened.trans isOpened, seekPos.trans position⟩
                | true =>
                  rw [ok] at noted seekPos
                  simp only [↓reduceIte, Function.update_self] at noted
                  obtain ⟨before, old, rfl⟩ := Option.map_eq_some_iff.mp noted
                  obtain ⟨other, same, isOpened, position⟩ := shows_.records hFile before old
                  obtain rfl := Option.some.inj (at_.symm.trans same)
                  refine ⟨opened.trans isOpened, seekPos.trans ?_⟩
                  simp only [Reading.read, ↓reduceIte]
                  rw [← Int.natCast_add, toU32_natCast, position]

/-- The notes follow the records of the FAT library through the calls of the player. -/
theorem shows_keptBy : KeptBy fatApi.withReadings fun files => Shows files.1 files.2 where
  opens := by
    intro files hFat name hFile files' shows_ run
    obtain ⟨⟨opened, heap⟩, answer, same⟩ := map_eq_ok run
    obtain ⟨rfl, rfl⟩ := Prod.mk.inj same
    exact shows_.open answer
  reads := by
    intro files hFile szBuf size bSuccess szBuf' files' shows_ run
    obtain ⟨⟨ok, buffer, heap⟩, answer, same⟩ := map_eq_ok run
    simp only [Prod.mk.injEq] at same
    obtain ⟨rfl, rfl, rfl⟩ := same
    exact shows_.read answer

theorem fatApi_nullFails : NullFails fatApi := by
  intro heap szBuf size bSuccess szBuf' heap' read
  simp only [fatApi, fatFileRead, ↓reduceIte, Except.ok.injEq, Prod.mk.injEq] at read
  exact read.1.symm

/-- So over the FAT library, a song in place has an open record at the read position. -/
theorem InPlace.record {k : Nat} {p q : Globals (Readings × Heap)} {trace : List Event}
    {guard : Globals (Readings × Heap) → Call → Prop} (start : Shows p.files.1 p.files.2)
    (run : (player fatApi.withReadings).Run guard p trace q) (place : InPlace k q) :
    ∃ file : FatFileInfo, q.files.2.files (q.gWavePlay k).hFile = some file ∧
      file.isOpened = true ∧ file.seekPos = (q.gWavePlay k).uWaveReadPos := by
  have shows_ : Shows q.files.1 q.files.2 := by
    refine run.stateInvariant (fun q => Shows q.files.1 q.files.2) start ?_
    intro q call r events before _ step
    simp only [player] at step
    split at step
    · contradiction
    · rename_i out called
      obtain ⟨rfl, rfl⟩ := Prod.mk.inj (Option.some.inj step)
      exact shows_keptBy.call before called
  obtain ⟨reading, open_, seekPos, _⟩ := place
  obtain ⟨file, at_, isOpened, position⟩ := shows_.records _ _ open_
  exact ⟨file, at_, isOpened, position.trans seekPos⟩

/-! ## A card that is exchanged -/

/-- A library for one file, of which every opening finds the next of some contents, and none when
they are used up. Its state is those, and the content and position of the last record. -/
def exchangedApi : FileApi (List Bytes × Bytes × Nat) where
  fatFileBrowseBegin _ _ := .ok none
  fatFileBrowseNext files handle context := .ok (false, handle, context, files)
  fatFileOpen files _ _ :=
    match files.1 with
    | [] => .ok (0, files)
    | content :: later => .ok (1, later, content, 0)
  fatFileRead files hFile szBuf size :=
    if hFile = 0 then .ok (false, szBuf, files)
    else .ok (true, copyAt szBuf 0 (drop files.2.1 files.2.2) size,
      files.1, files.2.1, files.2.2 + size)
  fatFileClose files _ := files

theorem exchangedApi_nullFails : NullFails exchangedApi := by
  intro files szBuf size bSuccess szBuf' files' read
  simp only [exchangedApi, ↓reduceIte, Except.ok.injEq, Prod.mk.injEq] at read
  exact read.1.symm

/-- A player that has been cleared, with a card whose song is exchanged for a file of zeros. -/
def beforeExchange : Globals (Readings × List Bytes × Bytes × Nat) where
  files := (fun _ => none, [stereoFile, fun _ => 0], fun _ => 0, 0)
  hFat := 1
  gWavePlay := fun _ => .cleared
  nFileNum := 1
  szFilename := fun _ => []

/-- A start of the song, two blocks of it, and a start that rejects the other file. -/
def exchangeCalls : List Call :=
  [⟨0, false, .zero⟩, ⟨0, true, .zero⟩, ⟨0, true, .zero⟩, ⟨0, false, .zero⟩]

/-- The song then goes on with the bytes of the other file: its record stands at 512, and the read
position at 1024. -/
theorem not_whole_exchanged : ¬ ∀ (k : Nat) (p q : Globals (Readings × List Bytes × Bytes × Nat))
    (trace : List Event) (szFilename : Name), NullFails exchangedApi →
    p.gWavePlay k = { PlaywaveContext.cleared with szFilename } →
    (player exchangedApi.withReadings).Run (fun _ call => call.songnummer = k) p trace q →
    Whole exchangedApi k q := by
  intro whole
  have after : ((player exchangedApi.withReadings).execWithin (fun _ call => call.songnummer = 0)
      exchangeCalls [] beforeExchange).map (fun run =>
        [some (run.2.gWavePlay 0).uWaveReadPos,
          (run.2.files.1 (run.2.gWavePlay 0).hFile).map Reading.seekPos,
          (waveplayExecute exchangedApi.withReadings .zero 0 run.2).toOption.map
            fun out => (frames out.events).length]) = some [some 1024, some 512, some 11] := by
    decide +kernel
  obtain ⟨⟨trace, q⟩, steps, facts⟩ := Option.map_eq_some_iff.mp after
  have readPos := Option.some.inj (List.cons.inj facts).1
  have seekPos := (List.cons.inj (List.cons.inj facts).2).1
  have played := (List.cons.inj (List.cons.inj (List.cons.inj facts).2).2).1
  rcases whole 0 beforeExchange q trace [] exchangedApi_nullFails rfl
    (Machine.Run.nil.execWithin steps) with ⟨reading, open_, inStep, _⟩ | silent
  · rw [open_] at seekPos
    have stands := Option.some.inj seekPos
    rw [inStep, readPos] at stands
    exact absurd stands (by decide)
  · cases call : waveplayExecute exchangedApi.withReadings .zero 0 q with
    | error fault =>
      rw [call] at played
      exact absurd played (by simp [Except.toOption])
    | ok out =>
      rw [call] at played
      have none_ := silent .zero out call
      simp [Except.toOption, none_] at played

/-- A library of one file fails for a null pointer. -/
theorem answeringApi_nullFails (file : Bytes) : NullFails (answeringApi file) := by
  intro files szBuf size bSuccess szBuf' files' read
  simp only [answeringApi, true_or, ↓reduceIte, Except.ok.injEq, Prod.mk.injEq] at read
  exact read.1.symm

/-- The player before the calls on a song of three blocks, with no record open. -/
def beforeRecords : Globals (Readings × List Bool × Nat) where
  files := (fun _ => none, beforeStereo.files)
  hFat := beforeStereo.hFat
  gWavePlay := beforeStereo.gWavePlay
  nFileNum := beforeStereo.nFileNum
  szFilename := beforeStereo.szFilename

/-- Calls with a read that fails, a start of the song while it is under way, and another behind its
end keep to the rule, and leave it whole. -/
theorem whole_keepsWhole_stereo : ∃ trace q,
    (player (answeringApi stereoFile).withReadings).Run
      (KeepsWhole (answeringApi stereoFile).withReadings 0) beforeRecords trace q ∧
    (frames trace).length = 501 ∧ (q.gWavePlay 0).uWavePlayPos = 44 ∧
    Whole (answeringApi stereoFile) 0 q := by
  have steps : ((player (answeringApi stereoFile).withReadings).execWithin
      (KeepsWhole (answeringApi stereoFile).withReadings 0) stereoCalls [] beforeRecords).map
        (fun run => ((frames run.1).length, (run.2.gWavePlay 0).uWavePlayPos)) =
          some (501, 44) := by
    decide +kernel
  obtain ⟨⟨trace, q⟩, steps, same⟩ := Option.map_eq_some_iff.mp steps
  obtain ⟨played, position⟩ := Prod.mk.inj same
  have run := Machine.Run.nil.execWithin steps
  exact ⟨trace, q, run, played, position,
    whole_keepsWhole (answeringApi_nullFails stereoFile) rfl run⟩

end SoundBoard.Player
