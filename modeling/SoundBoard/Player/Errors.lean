import SoundBoard.Fat.Format
import SoundBoard.Lib.Agree
import SoundBoard.Player.Steps

/-!
# Results of the player's calls

What `waveplay_start` and `waveplay_execute` return, compared with the operations that they
perform: opening the file, reading a block of it, and checking its header. Every answer of the
FAT library is possible, so a card may be removed between any two operations.
-/

namespace SoundBoard.Player

open SoundBoard.Lib SoundBoard.Fat SoundBoard.Wave

variable {σ : Type}

/-! ## The operations of a call -/

/-- The header check passes. -/
def HeaderAccepted (szWave : View) : Prop :=
  ∃ sampleRate, headerCheck szWave waveBufSize = some (sampleRate, true)

/-- The search for the samples comes to an end. -/
def SearchEnds (szWave : View) : Prop := waveGetChunkOffset szWave waveBufSize chunkData ≠ none

/-- The globals of a start that has opened its file and read its first block. -/
def Globals.loaded (p : Globals σ) (k hFile : Nat) (szBuf : Bytes) (files : σ) : Globals σ :=
  { p with files }.setSong k { p.gWavePlay k with hFile, szBuf }

/-- A start opens its file and reads the first block of it. -/
structure Loads (api : FileApi σ) (k : Nat) (p : Globals σ) (bSuccess : Bool) (loaded : Globals σ) :
    Prop where
  reads : ∃ hFile files szBuf files',
    api.fatFileOpen p.files p.hFat (p.gWavePlay k).szFilename = .ok (hFile, files) ∧ hFile ≠ 0 ∧
      api.fatFileRead files hFile (p.gWavePlay k).szBuf waveBufSize = .ok (bSuccess, szBuf, files') ∧
      loaded = p.loaded k hFile szBuf files'

/-- A start does not find its file. -/
def Missing (api : FileApi σ) (k : Nat) (p : Globals σ) : Prop :=
  ∃ files, api.fatFileOpen p.files p.hFat (p.gWavePlay k).szFilename = .ok (0, files)

/-- What a start loads, when its file opens and the read returns. -/
def loadedBy (api : FileApi σ) (k : Nat) (p : Globals σ) : Option (Bool × Globals σ) :=
  match api.fatFileOpen p.files p.hFat (p.gWavePlay k).szFilename with
  | .error _ => none
  | .ok (hFile, files) =>
    if hFile = 0 then none
    else
      match api.fatFileRead files hFile (p.gWavePlay k).szBuf waveBufSize with
      | .error _ => none
      | .ok (bSuccess, szBuf, files') => some (bSuccess, p.loaded k hFile szBuf files')

/-- Every operation of a start succeeds. -/
def StartSucceeds (api : FileApi σ) (garbage : Garbage) (k : Nat) (p : Globals σ) : Prop :=
  ∃ loaded, Loads api k p true loaded ∧ HeaderAccepted (bufView loaded.gWavePlay garbage k)

/-- An operation of a start fails. -/
inductive StartFails (api : FileApi σ) (garbage : Garbage) (k : Nat) (p : Globals σ) : Prop where
  | opening : Missing api k p → StartFails api garbage k p
  | reading {loaded : Globals σ} : Loads api k p false loaded → StartFails api garbage k p
  | checking {loaded : Globals σ} {sampleRate : Int} : Loads api k p true loaded →
      headerCheck (bufView loaded.gWavePlay garbage k) waveBufSize = some (sampleRate, false) →
      StartFails api garbage k p

/-- A read of the refill loop fails. -/
def RefillFails (api : FileApi σ) (k : Nat) : Nat → Globals σ → Prop
  | 0, _ => False
  | fuel + 1, p =>
    let context := p.gWavePlay k
    context.uWaveReadPos ≤ context.uWavePlayPos ∧
      ∃ bSuccess szBuf files,
        api.fatFileRead p.files context.hFile context.szBuf (readSize context) =
          .ok (bSuccess, szBuf, files) ∧
        (bSuccess = true → RefillFails api k fuel ({ p with files }.setSong k { context with
          szBuf, uWaveReadPos := toU32 (context.uWaveReadPos + readSize context) }))

/-- An operation of a call of `waveplay_execute` fails: one of its restart, or a read of its
refill. -/
def ExecuteFails (api : FileApi σ) (garbage : Garbage) (k : Nat) (p : Globals σ) : Prop :=
  if atEnd (p.gWavePlay k) then StartFails api garbage k p
  else RefillFails api k (refillFuel (p.gWavePlay k)) p

/-- Both calls report errors: a start returns true exactly when all of its operations succeed,
and `waveplay_execute` returns false whenever an operation of it fails. -/
structure ErrorsReported (api : FileApi σ) (garbage : Garbage) (k : Nat) (p : Globals σ) : Prop where
  start : (∃ out, waveplayStart api garbage k p = .ok out ∧ out.ok = true) ↔
    StartSucceeds api garbage k p
  execute : ExecuteFails api garbage k p →
    ∃ out, waveplayExecute api garbage k p = .ok out ∧ out.ok = false

/-- The condition on the answers of the card, on the song before the call and on its
uninitialised flag. -/
structure ReportsErrors (api : FileApi σ) (garbage : Garbage) (k : Nat) (p : Globals σ) : Prop where
  /-- A file that does not open leaves a false flag, or a buffer without an accepted header. -/
  missing : Missing api k p → garbage.bSuccess = true →
    ¬(HeaderAccepted (bufView p.gWavePlay garbage k) ∧ SearchEnds (bufView p.gWavePlay garbage k))
  /-- Behind an accepted header the search for the samples ends. -/
  search : ∀ loaded, Loads api k p true loaded → HeaderAccepted (bufView loaded.gWavePlay garbage k) →
    SearchEnds (bufView loaded.gWavePlay garbage k)
  /-- No operation of a restart fails. -/
  restart : atEnd (p.gWavePlay k) → ¬StartFails api garbage k p

variable {api : FileApi σ} {garbage : Garbage} {k : Nat} {p : Globals σ}

/-! ## waveplay_start -/

/-- The header part of a start returns true when the header is accepted and its samples are
found, or missed, by a search that ends. -/
theorem waveplayPrepare_true (events : List Event) :
    (∃ out, waveplayPrepare garbage k events p = .ok out ∧ out.ok = true) ↔
      HeaderAccepted (bufView p.gWavePlay garbage k) ∧ SearchEnds (bufView p.gWavePlay garbage k) := by
  unfold HeaderAccepted SearchEnds
  constructor
  · rintro ⟨out, run, ok⟩
    rcases waveplayPrepare_cases run with ⟨refused, _⟩ | ⟨_, _, offset, size, prepared⟩
    · rw [refused] at ok
      contradiction
    · refine ⟨prepared.accepted, fun endless => ?_⟩
      have read := prepared.offsetRead
      simp only [waveGetWaveOffset, chunkField, endless] at read
      contradiction
  · rintro ⟨⟨sampleRate, accepted⟩, ends⟩
    obtain ⟨nOffset, found⟩ := Option.ne_none_iff_exists'.mp ends
    simp only [waveplayPrepare, accepted, waveGetWaveOffset, waveGetDataByteSize, chunkField, found,
      Option.map_some]
    exact ⟨_, rfl, rfl⟩

/-- A start that does not find its file returns true by its uninitialised flag alone. -/
theorem waveplayStart_missing (song : k ≤ maxSongs) (missing : Missing api k p) :
    (∃ out, waveplayStart api garbage k p = .ok out ∧ out.ok = true) ↔
      garbage.bSuccess = true ∧ HeaderAccepted (bufView p.gWavePlay garbage k) ∧
        SearchEnds (bufView p.gWavePlay garbage k) := by
  obtain ⟨files, opens⟩ := missing
  have view := bufView_hFile p.gWavePlay garbage k 0 (p.gWavePlay k)
  rw [Function.update_eq_self] at view
  let opened : Globals σ := { p with files }.setSong k { p.gWavePlay k with hFile := 0 }
  have prepare : (∃ out, waveplayPrepare garbage k [] opened = .ok out ∧ out.ok = true) ↔
      HeaderAccepted (bufView opened.gWavePlay garbage k) ∧
        SearchEnds (bufView opened.gWavePlay garbage k) := waveplayPrepare_true []
  simp only [opened, Globals.setSong, view] at prepare
  rw [waveplayStart, if_pos song]
  simp only [waveplayOpen, opens, ↓reduceIte]
  cases flag : garbage.bSuccess with
  | false =>
    refine iff_of_false ?_ (fun both => absurd both.1 (by decide))
    rintro ⟨out, run, ok⟩
    obtain rfl := Except.ok.inj run
    contradiction
  | true =>
    simp only [↓reduceIte, true_and]
    exact prepare

variable (garbage) in
/-- A start whose first block does not read returns false. -/
theorem waveplayStart_unread {loaded : Globals σ} (song : k ≤ maxSongs)
    (loads : Loads api k p false loaded) :
    ∃ out, waveplayStart api garbage k p = .ok out ∧ out.ok = false := by
  obtain ⟨hFile, files, szBuf, files', opens, some, read, _⟩ := loads
  rw [waveplayStart, if_pos song, waveplayOpen_some api opens some]
  simp only [firstBlock, Globals.setSong_self, Globals.setSong_files, read, Except.map]
  exact ⟨_, rfl, rfl⟩

variable (garbage) in
/-- A start whose first block reads returns what the header part returns. -/
theorem waveplayStart_loaded {loaded : Globals σ} (song : k ≤ maxSongs)
    (loads : Loads api k p true loaded) :
    ∃ events, waveplayStart api garbage k p = waveplayPrepare garbage k events loaded := by
  obtain ⟨hFile, files, szBuf, files', opens, some, read, rfl⟩ := loads
  rw [waveplayStart, if_pos song, waveplayOpen_read api opens some read]
  exact ⟨_, rfl⟩

/-- A start that returns has not found its file, or has failed to read it, or has read it. -/
theorem waveplayStart_answers {out : Outcome σ} (run : waveplayStart api garbage k p = .ok out) :
    Missing api k p ∨ ∃ bSuccess loaded, Loads api k p bSuccess loaded := by
  unfold waveplayStart at run
  split at run
  · cases opens : api.fatFileOpen p.files p.hFat (p.gWavePlay k).szFilename with
    | error fault =>
      simp only [waveplayOpen, opens] at run
      contradiction
    | ok answer =>
      obtain ⟨hFile, files⟩ := answer
      by_cases none : hFile = 0
      · subst none
        exact .inl ⟨files, opens⟩
      · right
        rw [waveplayOpen_some api opens none] at run
        simp only [firstBlock, Globals.setSong_self, Globals.setSong_files] at run
        cases read : api.fatFileRead files hFile (p.gWavePlay k).szBuf waveBufSize with
        | error fault =>
          simp only [read, Except.map] at run
          contradiction
        | ok answer =>
          obtain ⟨bSuccess, szBuf, files'⟩ := answer
          exact ⟨bSuccess, _, hFile, files, szBuf, files', opens, none, read, rfl⟩
  · contradiction

/-- It is what a start loads. -/
theorem loads_iff {bSuccess : Bool} {loaded : Globals σ} :
    Loads api k p bSuccess loaded ↔ loadedBy api k p = some (bSuccess, loaded) := by
  constructor
  · rintro ⟨hFile, files, szBuf, files', opens, some_, read, rfl⟩
    simp only [loadedBy, opens, if_neg some_, read]
  · intro answer
    unfold loadedBy at answer
    split at answer
    · contradiction
    · rename_i hFile files opens
      split at answer
      · contradiction
      · rename_i some_
        split at answer
        · contradiction
        · rename_i read
          obtain ⟨rfl, rfl⟩ := Prod.mk.inj (Option.some.inj answer)
          exact ⟨hFile, files, _, _, opens, some_, read, rfl⟩

instance (szWave : View) : Decidable (HeaderAccepted szWave) :=
  decidable_of_iff ((headerCheck szWave waveBufSize).any (·.2) = true) <| by
    rw [Option.any_eq_true]
    constructor
    · rintro ⟨⟨sampleRate, _⟩, check, rfl⟩
      exact ⟨sampleRate, check⟩
    · rintro ⟨sampleRate, check⟩
      exact ⟨_, check, rfl⟩

instance : Decidable (Missing api k p) :=
  decidable_of_iff ((api.fatFileOpen p.files p.hFat (p.gWavePlay k).szFilename).toOption.any
      (·.1 == 0) = true) <| by
    rw [Option.any_eq_true, Missing]
    cases api.fatFileOpen p.files p.hFat (p.gWavePlay k).szFilename with
    | error fault => simp [Except.toOption]
    | ok answer => simp [Except.toOption, Prod.ext_iff]

/-- A card answers one way. -/
theorem Loads.unique {bSuccess bSuccess' : Bool} {loaded loaded' : Globals σ}
    (one : Loads api k p bSuccess loaded) (two : Loads api k p bSuccess' loaded') :
    bSuccess = bSuccess' ∧ loaded = loaded' := by
  obtain ⟨hFile, files, szBuf, files', opens, _, read, rfl⟩ := one
  obtain ⟨_, _, _, _, opens', _, read', rfl⟩ := two
  obtain ⟨rfl, rfl⟩ := Prod.mk.inj (Except.ok.inj (opens.symm.trans opens'))
  obtain ⟨rfl, rest⟩ := Prod.mk.inj (Except.ok.inj (read.symm.trans read'))
  obtain ⟨rfl, rfl⟩ := Prod.mk.inj rest
  exact ⟨rfl, rfl⟩

/-- A file that opens is not missing. -/
theorem Loads.not_missing {bSuccess : Bool} {loaded : Globals σ}
    (loads : Loads api k p bSuccess loaded) : ¬Missing api k p := by
  obtain ⟨hFile, files, szBuf, files', opens, some, _⟩ := loads
  rintro ⟨files'', missing⟩
  obtain ⟨rfl, _⟩ := Prod.mk.inj (Except.ok.inj (opens.symm.trans missing))
  exact some rfl

variable (api garbage p) in
/-- When a start reports its errors. -/
theorem waveplayStart_reports (song : k ≤ maxSongs) :
    ((∃ out, waveplayStart api garbage k p = .ok out ∧ out.ok = true) ↔
      StartSucceeds api garbage k p) ↔
    (Missing api k p → garbage.bSuccess = true →
      ¬(HeaderAccepted (bufView p.gWavePlay garbage k) ∧
        SearchEnds (bufView p.gWavePlay garbage k))) ∧
    ∀ loaded, Loads api k p true loaded → HeaderAccepted (bufView loaded.gWavePlay garbage k) →
      SearchEnds (bufView loaded.gWavePlay garbage k) := by
  constructor
  · intro reports
    constructor
    · intro missing flag stale
      have returned := (waveplayStart_missing song missing).mpr ⟨flag, stale⟩
      obtain ⟨loaded, loads, _⟩ := reports.mp returned
      exact loads.not_missing missing
    · intro loaded loads accepted
      obtain ⟨events, same⟩ := waveplayStart_loaded garbage song loads
      have returned := reports.mpr ⟨loaded, loads, accepted⟩
      rw [same] at returned
      exact ((waveplayPrepare_true events).mp returned).2
  · rintro ⟨missing, search⟩
    constructor
    · rintro ⟨out, run, ok⟩
      rcases waveplayStart_answers run with lost | ⟨bSuccess, loaded, loads⟩
      · have returned := (waveplayStart_missing song lost).mp ⟨out, run, ok⟩
        exact absurd returned.2 (missing lost returned.1)
      · cases bSuccess with
        | false =>
          obtain ⟨out', run', failed⟩ := waveplayStart_unread garbage song loads
          obtain rfl := Except.ok.inj (run.symm.trans run')
          rw [failed] at ok
          contradiction
        | true =>
          obtain ⟨events, same⟩ := waveplayStart_loaded garbage song loads
          rw [same] at run
          exact ⟨loaded, loads, ((waveplayPrepare_true events).mp ⟨out, run, ok⟩).1⟩
    · rintro ⟨loaded, loads, accepted⟩
      obtain ⟨events, same⟩ := waveplayStart_loaded garbage song loads
      rw [same]
      exact (waveplayPrepare_true events).mpr ⟨accepted, search loaded loads accepted⟩

/-! ## waveplay_execute -/

/-- A read that fails ends the refill loop with false. -/
theorem refillLoop_fails (fuel : Nat) (events : List Event) (fails : RefillFails api k fuel p) :
    ∃ out, refillLoop api k fuel events p = .ok out ∧ out.ok = false := by
  induction fuel generalizing events p with
  | zero => exact absurd fails id
  | succ fuel ih =>
    obtain ⟨empty, bSuccess, szBuf, files, read, onward⟩ := fails
    cases bSuccess with
    | false =>
      simp only [refillLoop, Nat.not_lt.mpr empty, ↓reduceIte, read]
      exact ⟨_, rfl, rfl⟩
    | true =>
      rw [refillLoop_read fuel events empty read]
      exact ih _ (onward rfl)

variable (api garbage p) in
/-- When `waveplay_execute` reports its errors. -/
theorem waveplayExecute_reports (song : k ≤ maxSongs) :
    (ExecuteFails api garbage k p →
      ∃ out, waveplayExecute api garbage k p = .ok out ∧ out.ok = false) ↔
    (atEnd (p.gWavePlay k) → ¬StartFails api garbage k p) := by
  by_cases ended : atEnd (p.gWavePlay k)
  · have restarts : waveplayExecute api garbage k p =
        (waveplayStart api garbage k p).map fun restart => { restart with ok := true } :=
      (if_pos song).trans (if_pos ended)
    simp only [ExecuteFails, ended, ↓reduceIte, true_imp_iff]
    apply imp_congr_right
    intro fails
    refine iff_of_false ?_ id
    rintro ⟨out, run, failed⟩
    rw [restarts] at run
    obtain ⟨restart, _, rfl⟩ := map_eq_ok run
    contradiction
  · simp only [ExecuteFails, ended, ↓reduceIte, false_imp_iff, iff_true]
    intro fails
    obtain ⟨out, refill, failed⟩ := refillLoop_fails _ [] fails
    rw [waveplayExecute_onward song ended, refill]
    refine ⟨out, ?_, failed⟩
    simp only [failed, Bool.false_eq_true, ↓reduceIte]

/-- Errors are reported exactly under the condition, whatever the card answers. -/
theorem errorsReported_iff (song : k ≤ maxSongs) :
    ErrorsReported api garbage k p ↔ ReportsErrors api garbage k p := by
  have start := waveplayStart_reports api garbage p song
  have execute := waveplayExecute_reports api garbage p song
  constructor
  · rintro ⟨started, executed⟩
    obtain ⟨missing, search⟩ := start.mp started
    exact ⟨missing, search, execute.mp executed⟩
  · rintro ⟨missing, search, restart⟩
    exact ⟨start.mpr ⟨missing, search⟩, execute.mpr restart⟩

/-! ## A card that is gone -/

/-- A card that has been removed: no file opens, and no read succeeds. -/
def removedCard : FileApi Unit where
  fatFileBrowseBegin := fun _ _ => .ok none
  fatFileBrowseNext := fun _ handle context => .ok (false, handle, context, ())
  fatFileOpen := fun _ _ _ => .ok (0, ())
  fatFileRead := fun _ _ szBuf _ => .ok (false, szBuf, ())
  fatFileClose := fun _ _ => ()

/-- A song of one frame that has been played up to some position. -/
def oneFrameSong (uWavePlayPos : Nat) : Globals Unit where
  files := ()
  hFat := 1
  gWavePlay := fun _ => { PlaywaveContext.cleared with
    hFile := 2
    szBuf := blockOf [(0, stereoHeader [40, 0, 0, 0] [4, 0, 0, 0] ++ [1, 0, 2, 0])]
    uWaveReadPos := 512
    uWavePlayPos
    uWaveMaxPlayPos := 48 }
  nFileNum := 1
  szFilename := fun _ => []

/-- When the card is gone at the end of a song, `waveplay_execute` returns true. -/
theorem not_errorsReported_removed : ¬ErrorsReported removedCard .zero 0 (oneFrameSong 48) := by
  rintro ⟨_, execute⟩
  have fails : ExecuteFails removedCard .zero 0 (oneFrameSong 48) := by
    have ended : atEnd ((oneFrameSong 48).gWavePlay 0) := by decide
    simp only [ExecuteFails, ended, ↓reduceIte]
    exact .opening ⟨(), rfl⟩
  obtain ⟨out, run, failed⟩ := execute fails
  obtain rfl := Except.ok.inj run
  exact absurd failed (by decide)

/-- When the card is gone in the middle of a song, both calls return false. -/
theorem errorsReported_iff_removed : ErrorsReported removedCard .zero 0 (oneFrameSong 44) := by
  refine (errorsReported_iff (by decide)).mpr ⟨fun _ flag => absurd flag (by decide), ?_, fun ended => ?_⟩
  · rintro loaded loads
    exact absurd ⟨(), rfl⟩ loads.not_missing
  · exact absurd ended (by decide)

end SoundBoard.Player
