import SoundBoard.Lib.Machine
import SoundBoard.Player.Errors
import SoundBoard.Player.Fidelity
import SoundBoard.Player.Isolation

/-!
# Bounds of the sample buffer

Runs of calls on any songs, over any library, with any answers. For a song whose data chunk is
found inside its first block, every read of a refill asks for one to 512 bytes, the play position
never passes the read position, and the samples that are fetched lie in the buffer.
-/

namespace SoundBoard.Player

open SoundBoard.Lib SoundBoard.Fat SoundBoard.Wave

variable {σ : Type}

/-! ## Runs of calls -/

/-- Make a call on some library. -/
def Call.runOn (api : FileApi σ) (call : Call) (p : Globals σ) : Exec (Outcome σ) :=
  if call.execute then waveplayExecute api call.garbage call.songnummer p
  else waveplayStart api call.garbage call.songnummer p

/-- The player, with calls on its songs in any order. -/
def player (api : FileApi σ) : Machine (Globals σ) Call Event where
  step call p :=
    match call.runOn api p with
    | .error _ => none
    | .ok out => some (out.player, out.events)

/-- A call starts its song, at once or because the song has ended. -/
def Call.Starts (call : Call) (p : Globals σ) : Prop :=
  call.execute = true → atEnd (p.gWavePlay call.songnummer)

/-- Where a start accepts the header that it finds, the data chunk's header is found inside the
first block. -/
def FindsData (api : FileApi σ) (garbage : Garbage) (k : Nat) (p : Globals σ) : Prop :=
  ∀ first, waveplayOpen api garbage k p = .ok first → first.ok = true →
    HeaderAccepted (bufView first.player.gWavePlay garbage k) →
    ∀ nOffset, waveGetChunkOffset (bufView first.player.gWavePlay garbage k) waveBufSize
      chunkData = some nOffset → Within waveBufSize nOffset 8

/-- The starts of a song find its data chunk inside the first block. -/
def DataInside (api : FileApi σ) (k : Nat) (p : Globals σ) (call : Call) : Prop :=
  call.songnummer = k → call.Starts p → FindsData api call.garbage k p

/-- What holds of the result of a call, if it returns, can be decided. -/
instance decidableResult {α : Type} (result : Exec α) (holds : α → Prop) [DecidablePred holds] :
    Decidable (∀ out, result = .ok out → holds out) :=
  match result with
  | .error _ => isTrue nofun
  | .ok out => decidable_of_iff (holds out)
      ⟨fun here _ same => Except.ok.inj same ▸ here, fun all => all out rfl⟩

/-- The same for what a search finds. -/
instance decidableFound (found : Option Int) (holds : Int → Prop) [DecidablePred holds] :
    Decidable (∀ out, found = some out → holds out) :=
  match found with
  | none => isTrue nofun
  | some out => decidable_of_iff (holds out)
      ⟨fun here _ same => Option.some.inj same ▸ here, fun all => all out rfl⟩

instance (call : Call) (p : Globals σ) : Decidable (call.Starts p) :=
  inferInstanceAs (Decidable (call.execute = true → atEnd (p.gWavePlay call.songnummer)))

instance (api : FileApi σ) (k : Nat) (p : Globals σ) (call : Call) :
    Decidable (DataInside api k p call) :=
  inferInstanceAs (Decidable (call.songnummer = k → call.Starts p → ∀ first,
    waveplayOpen api call.garbage k p = .ok first → first.ok = true →
    HeaderAccepted (bufView first.player.gWavePlay call.garbage k) → ∀ nOffset,
    waveGetChunkOffset (bufView first.player.gWavePlay call.garbage k) waveBufSize
      chunkData = some nOffset → Within waveBufSize nOffset 8))

/-! ## The property -/

/-- The library with a log of the sizes that are asked for. A read that does not return counts as
one that fails. -/
def FileApi.logged (api : FileApi σ) : FileApi (List Nat × σ) where
  fatFileBrowseBegin files hFat := api.fatFileBrowseBegin files.2 hFat
  fatFileBrowseNext files handle context :=
    (api.fatFileBrowseNext files.2 handle context).map
      fun (bFind, handle, context, next) => (bFind, handle, context, files.1, next)
  fatFileOpen files hFat name :=
    (api.fatFileOpen files.2 hFat name).map fun (hFile, next) => (hFile, files.1, next)
  fatFileRead files hFile szBuf size :=
    match api.fatFileRead files.2 hFile szBuf size with
    | .error _ => .ok (false, szBuf, files.1 ++ [size], files.2)
    | .ok (bSuccess, szBuf, next) => .ok (bSuccess, szBuf, files.1 ++ [size], next)
  fatFileClose files hFile := (files.1, api.fatFileClose files.2 hFile)

/-- The player over the logging library, with an empty log. -/
def Globals.logged (p : Globals σ) : Globals (List Nat × σ) where
  files := ([], p.files)
  hFat := p.hFat
  gWavePlay := p.gWavePlay
  nFileNum := p.nFileNum
  szFilename := p.szFilename

/-- A call of `waveplay_execute` keeps to the buffer: its refill asks for one to 512 bytes at a
time, and what it then plays lies in the buffer. -/
structure InBuffer (api : FileApi σ) (k : Nat) (p : Globals σ) : Prop where
  order : (p.gWavePlay k).uWavePlayPos ≤ (p.gWavePlay k).uWaveReadPos
  requests : ¬atEnd (p.gWavePlay k) → ∀ refill,
    refillLoop api.logged k (refillFuel (p.gWavePlay k)) [] p.logged = .ok refill →
      ∀ size ∈ refill.player.files.1, 1 ≤ size ∧ size ≤ waveBufSize
  samples : ¬atEnd (p.gWavePlay k) → ∀ refill,
    refillLoop api k (refillFuel (p.gWavePlay k)) [] p = .ok refill → refill.ok = true →
      0 ≤ playSize (refill.player.gWavePlay k) ∧
        ((refill.player.gWavePlay k).uWavePlayPos % waveBufSize : Int) +
          playSize (refill.player.gWavePlay k) ≤ waveBufSize

/-! ## Calls keep a song steady -/

variable {api : FileApi σ} {garbage : Garbage} {k : Nat} {p : Globals σ} {out : Outcome σ}

/-- Opening a song changes none of its positions. -/
theorem waveplayOpen_steady (run : waveplayOpen api garbage k p = .ok out)
    (steady : (p.gWavePlay k).Steady) : (out.player.gWavePlay k).Steady := by
  simp only [waveplayOpen] at run
  split at run
  · contradiction
  · split at run
    · obtain rfl := Except.ok.inj run
      simpa [PlaywaveContext.Steady] using steady
    · split at run
      · contradiction
      · obtain rfl := Except.ok.inj run
        simpa [PlaywaveContext.Steady] using steady

/-- A start whose data chunk is found inside the block leaves the song steady. -/
theorem waveplayStart_steady (run : waveplayStart api garbage k p = .ok out)
    (steady : (p.gWavePlay k).Steady) (inside : FindsData api garbage k p) :
    (out.player.gWavePlay k).Steady := by
  unfold waveplayStart at run
  split at run
  · split at run
    · contradiction
    · rename_i first opened
      have before := waveplayOpen_steady opened steady
      split at run
      · rename_i read
        rcases waveplayPrepare_cases run with ⟨_, _, same⟩ | ⟨_, _, offset, size, prepared⟩
        · rw [same]
          exact before
        · obtain ⟨nOffset, found, rfl⟩ := Option.map_eq_some_iff.mp prepared.offsetRead
          obtain ⟨low, high⟩ := inside first opened read prepared.accepted nOffset found
          simp only [waveBufSize] at high
          have position : toInt32 (nOffset + sizeofChunk) = nOffset + 8 :=
            toInt32_of_fits _ (by unfold sizeofChunk; omega) (by unfold sizeofChunk; omega)
          rw [prepared.player, Globals.setSong_self]
          simp only [position]
          apply PlaywaveContext.steady_prepared <;> split <;> omega
      · obtain rfl := Except.ok.inj run
        exact before
  · contradiction

/-- A refill keeps a song steady, and gives it unplayed bytes or fails. -/
theorem refillLoop_steady (fuel : Nat) {events : List Event}
    (run : refillLoop api k fuel events p = .ok out) (steady : (p.gWavePlay k).Steady)
    (onward : ¬atEnd (p.gWavePlay k)) :
    (out.player.gWavePlay k).Steady ∧ (out.ok = true →
      (out.player.gWavePlay k).uWavePlayPos < (out.player.gWavePlay k).uWaveReadPos) := by
  induction fuel generalizing events p with
  | zero => contradiction
  | succ fuel ih =>
    simp only [refillLoop] at run
    split at run
    · rename_i ready
      obtain rfl := Except.ok.inj run
      exact ⟨steady, fun _ => ready⟩
    · rename_i empty
      split at run
      · contradiction
      · obtain ⟨after, _⟩ := steady.refill onward (Nat.not_lt.mp empty)
        refine ih run ?_ ?_
        · rw [Globals.setSong_self]
          exact after
        · rw [Globals.setSong_self]
          exact onward
      · obtain rfl := Except.ok.inj run
        refine ⟨?_, fun ok => by contradiction⟩
        rw [Globals.setSong_self]
        exact steady

/-- What a steady song with unplayed bytes plays lies in its buffer. -/
theorem PlaywaveContext.Steady.samples {context : PlaywaveContext} (steady : context.Steady) :
    0 ≤ playSize context ∧
      (context.uWavePlayPos % waveBufSize : Int) + playSize context ≤ waveBufSize := by
  obtain ⟨order, block, whole, range⟩ := steady
  rw [playSize_eq order (by omega)]
  simp only [waveBufSize]
  omega

/-- A call of `waveplay_execute` keeps a song steady. -/
theorem waveplayExecute_steady (run : waveplayExecute api garbage k p = .ok out)
    (steady : (p.gWavePlay k).Steady)
    (inside : atEnd (p.gWavePlay k) → FindsData api garbage k p) :
    (out.player.gWavePlay k).Steady := by
  unfold waveplayExecute at run
  split at run
  · split at run
    · rename_i ended
      obtain ⟨restart, started, rfl⟩ := map_eq_ok run
      have after := waveplayStart_steady started steady (inside ended)
      exact after
    · rename_i onward
      split at run
      · contradiction
      · rename_i refill filled
        obtain ⟨after, _⟩ := refillLoop_steady _ filled steady onward
        split at run
        · obtain rfl := Except.ok.inj run
          obtain ⟨order, block, whole, range⟩ := id after
          rw [playBuffer_player order (by omega) range.1, Globals.setSong_self]
          exact after.play
        · obtain rfl := Except.ok.inj run
          exact after
  · contradiction

/-! ## Sizes of the reads -/

/-- A read is logged with its size. -/
theorem logged_read {files after : List Nat × σ} {hFile size : Nat} {szBuf szBuf' : Bytes}
    {ok : Bool} (read : api.logged.fatFileRead files hFile szBuf size = .ok (ok, szBuf', after)) :
    after.1 = files.1 ++ [size] := by
  simp only [FileApi.logged] at read
  split at read <;> simp only [Except.ok.injEq, Prod.mk.injEq] at read <;>
    rw [← read.2.2]

/-- A refill of a steady song asks for one to 512 bytes at a time. -/
theorem refillLoop_requests (fuel : Nat) {events : List Event} {p : Globals (List Nat × σ)}
    {out : Outcome (List Nat × σ)} (run : refillLoop api.logged k fuel events p = .ok out)
    (steady : (p.gWavePlay k).Steady) (onward : ¬atEnd (p.gWavePlay k))
    (before : ∀ size ∈ p.files.1, 1 ≤ size ∧ size ≤ waveBufSize) :
    ∀ size ∈ out.player.files.1, 1 ≤ size ∧ size ≤ waveBufSize := by
  induction fuel generalizing events p with
  | zero => contradiction
  | succ fuel ih =>
    simp only [refillLoop] at run
    split at run
    · obtain rfl := Except.ok.inj run
      exact before
    · rename_i empty
      obtain ⟨some, small, _⟩ := readSize_bounds (Nat.lt_of_not_le onward) steady.range.2
      have next : ∀ size ∈ p.files.1 ++ [readSize (p.gWavePlay k)],
          1 ≤ size ∧ size ≤ waveBufSize := by
        intro size member
        rcases List.mem_append.mp member with old | new
        · exact before size old
        · obtain rfl := List.mem_singleton.mp new
          exact ⟨some, small⟩
      obtain ⟨after, _⟩ := steady.refill onward (Nat.not_lt.mp empty)
      split at run
      · contradiction
      · rename_i read
        refine ih run ?_ ?_ ?_
        · rw [Globals.setSong_self]
          exact after
        · rw [Globals.setSong_self]
          exact onward
        · rw [Globals.setSong_files, logged_read read]
          exact next
      · rename_i read
        obtain rfl := Except.ok.inj run
        rw [Globals.setSong_files, logged_read read]
        exact next

/-- A steady song keeps to its buffer. -/
theorem PlaywaveContext.Steady.inBuffer (steady : (p.gWavePlay k).Steady) : InBuffer api k p where
  order := steady.order
  requests onward _ run :=
    refillLoop_requests _ run steady onward fun _ none => absurd none List.not_mem_nil
  samples onward _ run _ := (refillLoop_steady _ run steady onward).1.samples

/-! ## Runs -/

/-- A call on any song keeps a song steady. -/
theorem Call.steady {call : Call} (run : call.runOn api p = .ok out)
    (steady : (p.gWavePlay k).Steady) (inside : DataInside api k p call) :
    (out.player.gWavePlay k).Steady := by
  by_cases own : call.songnummer = k
  · have finds := inside own
    unfold Call.runOn at run
    unfold Call.Starts at finds
    rw [own] at run finds
    split at run
    · exact waveplayExecute_steady run steady fun ended => finds fun _ => ended
    · rename_i start
      exact waveplayStart_steady run steady (finds fun execute => absurd execute start)
  · have only : OnlySong call.songnummer p out.player := by
      unfold Call.runOn at run
      split at run
      · exact waveplayExecute_only run
      · exact waveplayStart_only run
    rw [only.others k (Ne.symm own)]
    exact steady

/-- In every run from a context that has been cleared and named, a song whose data chunk is found
inside its first block keeps to its buffer. -/
theorem inBuffer_dataInside {q : Globals σ} {trace : List Event} {szFilename : Name}
    (named : p.gWavePlay k = { PlaywaveContext.cleared with szFilename })
    (run : (player api).Run (DataInside api k) p trace q) :
    InBuffer api k q := by
  have steady : (q.gWavePlay k).Steady := by
    refine run.stateInvariant (fun q => (q.gWavePlay k).Steady) ?_ ?_
    · rw [named]
      exact PlaywaveContext.steady_cleared
    · intro q call r events before inside step
      simp only [player] at step
      split at step
      · contradiction
      · rename_i out called
        obtain ⟨rfl, rfl⟩ := Prod.mk.inj (Option.some.inj step)
        exact Call.steady called before inside
  exact steady.inBuffer

/-- A library for one file in memory, whose reads are answered as a list says, and with success
behind it. Its state is what is left of the list, and the position of the only handle. -/
def answeringApi (file : Bytes) : FileApi (List Bool × Nat) where
  fatFileBrowseBegin _ _ := .ok none
  fatFileBrowseNext files handle context := .ok (false, handle, context, files)
  fatFileOpen files _ _ := .ok (1, files.1, 0)
  fatFileRead files hFile szBuf size :=
    if hFile = 0 ∨ files.1.head? = some false then .ok (false, szBuf, files.1.tail, files.2)
    else .ok (true, copyAt szBuf 0 (drop file files.2) size, files.1.tail, files.2 + size)
  fatFileClose files _ := files

/-- A start, a block that is played, a read that fails, and the next block; then a start while the
song is under way, three calls to its end, and one that starts it again. -/
def stereoCalls : List Call :=
  [⟨0, false, .zero⟩, ⟨0, true, .zero⟩, ⟨0, true, .zero⟩, ⟨0, true, .zero⟩, ⟨0, false, .zero⟩,
    ⟨0, true, .zero⟩, ⟨0, true, .zero⟩, ⟨0, true, .zero⟩, ⟨0, true, .zero⟩]

/-- The player before them: the second read will fail. -/
def beforeStereo : Globals (List Bool × Nat) :=
  ⟨([true, false], 0), 0, fun _ => .cleared, 0, fun _ => []⟩

/-- They keep to the rule, and play the song once and two of its three blocks before. -/
theorem inBuffer_dataInside_stereo : ∃ trace q,
    (player (answeringApi stereoFile)).Run (DataInside (answeringApi stereoFile) 0) beforeStereo
      trace q ∧
    (frames trace).length = 501 ∧ (q.gWavePlay 0).uWavePlayPos = 44 ∧
    InBuffer (answeringApi stereoFile) 0 q := by
  have steps : ((player (answeringApi stereoFile)).execWithin
      (DataInside (answeringApi stereoFile) 0) stereoCalls [] beforeStereo).map (fun run =>
        ((frames run.1).length, (run.2.gWavePlay 0).uWavePlayPos)) = some (501, 44) := by
    decide +kernel
  obtain ⟨⟨trace, q⟩, steps, same⟩ := Option.map_eq_some_iff.mp steps
  obtain ⟨played, position⟩ := Prod.mk.inj same
  have run := Machine.Run.nil.execWithin steps
  exact ⟨trace, q, run, played, position, inBuffer_dataInside rfl run⟩

end SoundBoard.Player
