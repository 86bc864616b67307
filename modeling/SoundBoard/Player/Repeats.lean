import SoundBoard.Player.Ages
import SoundBoard.Player.CardImage
import SoundBoard.Tasks.Replay

/-!
# Repeating a replay

`TaskPlayRecording` calls `waveplay_execute` on whatever the songs were left at, so what a replay
sounds like depends on how far each song is in its round. A replay is compared with the next one
(`Repeatable`), and with the recording that it follows (`ReplaysSession`).
-/

namespace SoundBoard.Player

open SoundBoard.Lib SoundBoard.Fat SoundBoard.Wave
open SoundBoard.Tasks (Recording replayCalls replayed)

variable {image : Nat → Bytes} {geometry : VolumeInfo} {p q r : Globals Heap}

/-! ## Replays and recordings -/

/-- Make calls one after the other, as long as every `waveplay_execute` succeeds: the frames, and
the globals after. -/
def playAll : List Call → Globals Heap → Option (List Frame × Globals Heap)
  | [], p => some ([], p)
  | call :: calls, p =>
    match call.run p with
    | .error _ => none
    | .ok out =>
      if call.execute = true → out.ok = true then
        (playAll calls out.player).map fun rest => (frames out.events ++ rest.1, rest.2)
      else none

/-- The calls of `TaskPlayRecording` from its creation to its end, while the stop button is not
touched. -/
structure IsReplay (recordingPlaylist : Nat → Recording) (calls : List Call) : Prop where
  execute : ∀ call ∈ calls, call.execute = true
  run : ∃ start s trace, start.playRecording = .ready .begin ∧
    start.shared.recordingPlaylist = recordingPlaylist ∧
    Tasks.system.Run Tasks.OneReplay start trace s ∧ s.playRecording = .absent ∧
    Tasks.playCalls trace = calls.map fun call => (call.songnummer : Int)

/-- Two replays of a recording in a row play the same. -/
def Repeatable (recordingPlaylist : Nat → Recording) (p : Globals Heap) : Prop :=
  ∀ {first second : List Call} {played again : List Frame} {q r : Globals Heap},
    IsReplay recordingPlaylist first → IsReplay recordingPlaylist second →
    playAll first p = some (played, q) → playAll second q = some (again, r) → again = played

/-- A press of a button while recording: the song with which it begins, and the song under the
finger at every tick. -/
structure Press where
  songNummer : Nat
  played : List Nat

/-- The calls of a press: `waveplay_start`, then `waveplay_execute` at every tick. -/
def Press.steps (press : Press) : List (Nat × Bool) :=
  (press.songNummer, false) :: press.played.map fun song => (song, true)

/-- What `TaskKeyHandler` keeps of a press: the last song, and the number of ticks. -/
def Press.recording (press : Press) : Recording :=
  ⟨press.played.getLast?.getD press.songNummer, press.played.length⟩

/-- The recording of a session, whose other entries were cleared. -/
def recordingOf (presses : List Press) (i : Nat) : Recording :=
  (presses[i]?.map Press.recording).getD ⟨0, 0⟩

/-- The calls of a recording session. -/
def IsSession (presses : List Press) (calls : List Call) : Prop :=
  calls.map (fun call => (call.songnummer, call.execute)) = presses.flatMap Press.steps

/-- A replay directly after a session plays what was played in the session. -/
def ReplaysSession (presses : List Press) (p : Globals Heap) : Prop :=
  ∀ {session replay : List Call} {played again : List Frame} {q r : Globals Heap},
    IsSession presses session → IsReplay (recordingOf presses) replay →
    playAll session p = some (played, q) → playAll replay q = some (again, r) → again = played

/-! ## The condition -/

/-- The song of a number, with the name and the flag of the list. -/
structure Song.Of (song : Song image geometry) (k : Nat) (p : Globals Heap) : Prop where
  number : song.number = k
  hFat : song.hFat = p.hFat
  name : song.name = (p.gWavePlay k).szFilename
  readOk : song.readOk = (p.gWavePlay k).readOk

/-- A song that so many calls of a replay leave as they found it. Its header lies inside its first
block, and no call on it has failed since its last start. Either less than a frame is left in its
buffer for ever, or the calls make whole rounds. -/
def ComesBack (image : Nat → Bytes) (geometry : VolumeInfo) (p : Globals Heap) (k calls : Nat) :
    Prop :=
  ∃ (song : Song image geometry) (o last : Nat), song.Of k p ∧ song.Spans o last ∧
    (atEnd (p.gWavePlay k) ∨ ∃ a, song.Aged a p) ∧
    ((¬atEnd (p.gWavePlay k) ∧ Leftover (p.gWavePlay k)) ∨
      (GetsThrough o last ∧ (roundCalls o last + 1) ∣ calls))

/-- A press that stays on its button, and ends when its song does. -/
def EndsWithSong (image : Nat → Bytes) (geometry : VolumeInfo) (p : Globals Heap) (press : Press) :
    Prop :=
  (∀ song ∈ press.played, song = press.songNummer) ∧
    ∃ (song : Song image geometry) (o last : Nat), song.Of press.songNummer p ∧
      song.Spans o last ∧ (atEnd (p.gWavePlay press.songNummer) ∨ ∃ a, song.Aged a p) ∧
      GetsThrough o last ∧ (roundCalls o last + 1) ∣ (press.played.length + 1)

/-- The entries behind the recorded ones, which a replay plays as song 0 for a tick each, are not
heard: less than a frame is left in the song for ever, or it is at its end and is started once, or
it has no samples. -/
def Unheard (image : Nat → Bytes) (geometry : VolumeInfo) (p : Globals Heap)
    (presses : List Press) : Prop :=
  ∃ (song : Song image geometry) (o last : Nat), song.Of 0 p ∧ song.Spans o last ∧
    (atEnd (p.gWavePlay 0) ∨ ∃ a, song.Aged a p) ∧
    ((¬atEnd (p.gWavePlay 0) ∧ Leftover (p.gWavePlay 0) ∧
        ∀ press ∈ presses, press.songNummer ≠ 0) ∨
      ((atEnd (p.gWavePlay 0) ∨ ∃ press ∈ presses, press.songNummer = 0) ∧
        (presses.length = 9 ∨ last ≤ o)))

/-- A session whose presses end with their songs, and which fills the entries that a replay
plays. -/
structure EndsOnTime (image : Nat → Bytes) (geometry : VolumeInfo) (p : Globals Heap)
    (presses : List Press) : Prop where
  each : ∀ press ∈ presses, EndsWithSong image geometry p press
  rest : presses.length = replayed ∨
    (presses.length < replayed ∧ Unheard image geometry p presses)

/-! ## Reachable states -/

/-- Behind the buffers of the table nothing has been written. -/
def Clean (p : Globals Heap) : Prop := ∀ k i, 512 ≤ i → (p.gWavePlay k).szBuf i = 0

/-- A call on one song keeps the table clean. -/
theorem Clean.call {k : Nat} (clean : Clean p) (only : OnlySong k p q) (entry : KeepsEntry k p q) :
    Clean q := by
  intro j i late
  by_cases own : j = k
  · rw [own, entry.behind i late]
    exact clean k i late
  · rw [only.others j own]
    exact clean j i late

/-- A change of one song other than of its buffer. -/
theorem Clean.set {k : Nat} {context : PlaywaveContext} (clean : Clean p)
    (same : context.szBuf = (p.gWavePlay k).szBuf) : Clean (p.setSong k context) := by
  intro j i late
  by_cases own : j = k
  · rw [own, Globals.setSong_self, same]
    exact clean k i late
  · rw [Globals.setSong_other _ _ _ _ own]
    exact clean j i late

/-- A file is added to the list. -/
theorem Clean.add {garbage : Garbage} {szWaveFilename : Name} {st st' : ListState Heap}
    (clean : Clean st.player) (run : addSong fatApi garbage szWaveFilename st = .ok st') :
    Clean st'.player := by
  obtain ⟨_, _, started, called, rfl⟩ := addSong_cases run
  have named : Clean (st.named szWaveFilename) := by
    apply Clean.set
    · exact clean
    · rfl
  exact (named.call (waveplayStart_only called) (waveplayStart_entry called)).set rfl

/-- A pass of the listing keeps the table clean. -/
theorem Clean.entry {garbage : Garbage} {st st' : ListState Heap} (clean : Clean st.player)
    (run : listEntry fatApi garbage st = .ok st') : Clean st'.player := by
  obtain ⟨szWaveFilename, _, pass⟩ := listEntry_cases run
  cases pass with
  | skipped | unopened | unread | refused => exact clean
  | accepted set opens some reads check adds =>
    refine Clean.add ?_ adds
    exact clean

/-- So does the listing. -/
theorem Clean.loop {garbage : Nat → Garbage} {st st' : ListState Heap} (fuel pass : Nat)
    (clean : Clean st.player) (run : listLoop fatApi garbage fuel pass st = .ok st') :
    Clean st'.player := by
  induction fuel generalizing pass st with
  | zero => contradiction
  | succ fuel ih =>
    simp only [listLoop] at run
    split at run
    · contradiction
    · rename_i bFind hFileBrowse fileContext files browsed
      split at run
      · split at run
        · contradiction
        · rename_i after entry
          have next : Clean ({ st.setFiles files with hFileBrowse, fileContext } :
            ListState Heap).player := clean
          exact ih (pass + 1) (next.entry entry) run
      · obtain rfl := Except.ok.inj run
        exact clean

/-- The table is clean in every state that calls lead to. -/
theorem Reached.clean (reached : Reached image geometry p) : Clean p := by
  induction reached with
  | listed listed =>
    obtain ⟨before, garbage, count, _, _, _, _, _, cleared, run⟩ := listed
    have start : Clean before := by
      intro k i late
      rw [cleared]
      rfl
    rcases buildWavePlayList_cases run with ⟨_, _, rfl⟩ | ⟨hFileBrowse, st, _, loop, _, rfl⟩
    · exact start
    · exact Clean.loop indexFuel 0 start loop
  | @call p call out _ run ih =>
    unfold Call.run at run
    split at run
    · exact ih.call (waveplayExecute_only run) (waveplayExecute_entry run)
    · exact ih.call (waveplayStart_only run) (waveplayStart_entry run)

/-- A song of the list stands where its last calls have left it. -/
theorem Song.Of.stands {song : Song image geometry} {k : Nat} (of : song.Of k p)
    (reached : Reached image geometry p)
    (since : atEnd (p.gWavePlay k) ∨ ∃ a, song.Aged a p) : song.Stands p := by
  obtain ⟨rfl, hFat, name, readOk⟩ := of
  exact ⟨⟨reached.ready, hFat.symm, name.symm, reached.clean song.number⟩, readOk.symm, since⟩

/-! ## Runs -/

variable {song : Song image geometry} {call : Call} {calls : List Call} {played : List Frame}

/-- The first of the calls, and the rest. -/
theorem playAll_cons (run : playAll (call :: calls) p = some (played, q)) :
    ∃ out rest, call.run p = .ok out ∧ (call.execute = true → out.ok = true) ∧
      playAll calls out.player = some (rest, q) ∧ played = frames out.events ++ rest := by
  rw [playAll] at run
  split at run
  · contradiction
  · rename_i out called
    split at run
    · rename_i ok
      obtain ⟨⟨rest, q'⟩, onward, same⟩ := Option.map_eq_some_iff.mp run
      obtain ⟨rfl, rfl⟩ := Prod.mk.inj same
      exact ⟨out, rest, called, ok, onward, rfl⟩
    · contradiction

/-- Some of the calls, and the rest. -/
theorem playAll_append {second : List Call} (run : playAll (calls ++ second) p = some (played, r)) :
    ∃ q before after, playAll calls p = some (before, q) ∧ playAll second q = some (after, r) ∧
      played = before ++ after := by
  induction calls generalizing p played with
  | nil => exact ⟨p, [], played, rfl, run, rfl⟩
  | cons call calls ih =>
    obtain ⟨out, rest, called, ok, onward, rfl⟩ := playAll_cons run
    obtain ⟨q, before, after, first, last, rfl⟩ := ih onward
    refine ⟨q, frames out.events ++ before, after, ?_, last, (List.append_assoc _ _ _).symm⟩
    rw [playAll, called]
    simp only [first, Option.map_some]
    rw [if_pos ok]

/-- A call of `waveplay_execute`. -/
theorem Call.run_execute {out : Outcome Heap} (execute : call.execute = true)
    (run : call.run p = .ok out) :
    waveplayExecute fatApi call.garbage call.songnummer p = .ok out := by
  rw [Call.run, if_pos execute] at run
  exact run

/-- A call on any song leaves a song standing. -/
theorem Song.Stands.anyCall {out : Outcome Heap} (stands : song.Stands p)
    (run : call.run p = .ok out) (ok : call.execute = true → out.ok = true) :
    song.Stands out.player := by
  by_cases own : call.songnummer = song.number
  · unfold Call.run at run
    rw [own] at run
    split at run
    · rename_i execute
      exact stands.execute run (ok execute)
    · exact (stands.start run).1
  · obtain ⟨ready, keeps⟩ := stands.here.ready.call run
    exact stands.keep ready (keeps _ (Ne.symm own))

/-- So do runs of calls. -/
theorem Song.Stands.playAll (stands : song.Stands p)
    (run : Player.playAll calls p = some (played, q)) : song.Stands q := by
  induction calls generalizing p played with
  | nil =>
    obtain ⟨_, rfl⟩ := Prod.mk.inj (Option.some.inj run)
    exact stands
  | cons call calls ih =>
    obtain ⟨out, rest, called, ok, onward, _⟩ := playAll_cons run
    exact ih (stands.anyCall called ok) onward

/-- Calls on other songs leave a song alone. -/
theorem Ready.playAll {k : Nat} (ready : Ready image geometry p)
    (others : ∀ call ∈ calls, call.songnummer ≠ k)
    (run : Player.playAll calls p = some (played, q)) :
    Ready image geometry q ∧ KeepsSong k p q := by
  induction calls generalizing p played with
  | nil =>
    obtain ⟨_, rfl⟩ := Prod.mk.inj (Option.some.inj run)
    exact ⟨ready, KeepsSong.refl _ _⟩
  | cons call calls ih =>
    obtain ⟨out, rest, called, _, onward, _⟩ := playAll_cons run
    obtain ⟨after, keeps⟩ := ready.call called
    obtain ⟨last, keeps'⟩ := ih after (fun call inside =>
      others call (List.mem_cons_of_mem _ inside)) onward
    have other := others call List.mem_cons_self
    exact ⟨last, (keeps k (Ne.symm other)).trans keeps'⟩

/-- Both runs make a call on some song. -/
theorem Song.Alike.anyCall {call' : Call} {out out' : Outcome Heap} (alike : song.Alike p q)
    (same : call'.songnummer = call.songnummer) (execute : call.execute = true)
    (execute' : call'.execute = true) (run : call.run p = .ok out) (run' : call'.run q = .ok out')
    (ok : out.ok = true) (ok' : out'.ok = true) : song.Alike out.player out'.player := by
  by_cases own : call.songnummer = song.number
  · have first := Call.run_execute execute run
    have second := Call.run_execute execute' run'
    rw [own] at first
    rw [same, own] at second
    exact (alike.execute first second ok ok').2
  · obtain ⟨ready, keeps⟩ := alike.left.here.ready.call run
    obtain ⟨ready', keeps'⟩ := alike.right.here.ready.call run'
    rw [same] at keeps'
    exact alike.keep ready (keeps _ (Ne.symm own)) ready' (keeps' _ (Ne.symm own))

/-- Two runs of `waveplay_execute` on the same songs, each of which plays the same from here in
both. -/
theorem playAll_alike {calls' : List Call} {again : List Frame} {p' q' : Globals Heap}
    (songs : calls'.map Call.songnummer = calls.map Call.songnummer)
    (execute : ∀ call ∈ calls, call.execute = true)
    (execute' : ∀ call ∈ calls', call.execute = true)
    (alike : ∀ call ∈ calls, ∃ song : Song image geometry,
      song.number = call.songnummer ∧ song.Alike p q)
    (run : playAll calls p = some (played, p')) (run' : playAll calls' q = some (again, q')) :
    again = played ∧ ∀ song : Song image geometry, song.Alike p q → song.Alike p' q' := by
  induction calls generalizing p q calls' played again with
  | nil =>
    obtain rfl := List.map_eq_nil_iff.mp songs
    obtain ⟨rfl, rfl⟩ := Prod.mk.inj (Option.some.inj run)
    obtain ⟨rfl, rfl⟩ := Prod.mk.inj (Option.some.inj run')
    exact ⟨rfl, fun _ same => same⟩
  | cons call calls ih =>
    obtain ⟨call', calls', rfl, same, songs⟩ := List.map_eq_cons_iff.mp songs
    obtain ⟨out, rest, called, ok, onward, rfl⟩ := playAll_cons run
    obtain ⟨out', rest', called', ok', onward', rfl⟩ := playAll_cons run'
    have executes := execute call List.mem_cons_self
    have executes' := execute' call' List.mem_cons_self
    have step (song : Song image geometry) (before : song.Alike p q) :
        song.Alike out.player out'.player :=
      before.anyCall same executes executes' called called' (ok executes) (ok' executes')
    obtain ⟨song, number, before⟩ := alike call List.mem_cons_self
    have first := Call.run_execute executes called
    have second := Call.run_execute executes' called'
    rw [← number] at first
    rw [same, ← number] at second
    obtain ⟨heard, _⟩ := before.execute first second (ok executes) (ok' executes')
    obtain ⟨rfl, last⟩ := ih songs
      (fun call inside => execute call (List.mem_cons_of_mem _ inside))
      (fun call inside => execute' call (List.mem_cons_of_mem _ inside))
      (fun call inside => by
        obtain ⟨song, number, before⟩ := alike call (List.mem_cons_of_mem _ inside)
        exact ⟨song, number, step song before⟩) onward onward'
    exact ⟨by rw [heard], fun song before => last song (step song before)⟩

/-! ## One song in a replay -/

section OneSong

variable {o last φ : Nat}

/-- A phase is no later than the end. -/
theorem Song.Phase.le (phase : song.Phase o last φ p) : φ ≤ roundCalls o last := by
  rcases phase with ⟨same, _⟩ | ⟨early, _⟩
  · exact Nat.le_of_eq same
  · exact Nat.le_of_lt early

/-- The phase of an accepted song after a replay: every call on it is one phase further. -/
theorem Song.Phase.playAll (phase : song.Phase o last φ p) (stands : song.Stands p)
    (accepted : HeaderAccepted (blockView song.block)) (spans : song.Spans o last)
    (through : GetsThrough o last) (execute : ∀ call ∈ calls, call.execute = true)
    (run : Player.playAll calls p = some (played, q)) :
    song.Phase o last
      ((φ + calls.countP fun call => call.songnummer = song.number) % (roundCalls o last + 1))
      q := by
  induction calls generalizing p φ played with
  | nil =>
    obtain ⟨_, rfl⟩ := Prod.mk.inj (Option.some.inj run)
    rw [List.countP_nil, Nat.add_zero, Nat.mod_eq_of_lt (Nat.lt_succ_of_le phase.le)]
    exact phase
  | cons call calls ih =>
    obtain ⟨out, rest, called, ok, onward, _⟩ := playAll_cons run
    have executes := execute call List.mem_cons_self
    have after := stands.anyCall called ok
    have others := fun later inside => execute later (List.mem_cons_of_mem call inside)
    by_cases own : call.songnummer = song.number
    · have first := Call.run_execute executes called
      rw [own] at first
      have next := phase.execute stands accepted spans through first (ok executes)
      have finish := ih next after others onward
      rw [Nat.mod_add_mod] at finish
      rw [List.countP_cons_of_pos (by simpa using own), Nat.add_comm _ 1, ← Nat.add_assoc]
      exact finish
    · obtain ⟨ready, keeps⟩ := stands.here.ready.call called
      have next := phase.keep ready (keeps _ (Ne.symm own))
      rw [List.countP_cons_of_neg (by simpa using own)]
      exact ih next after others onward

/-- A song whose header is refused stays at its end. -/
theorem Song.Stands.refused (stands : song.Stands p)
    (refused : ¬HeaderAccepted (blockView song.block)) : atEnd (p.gWavePlay song.number) := by
  rcases stands.since with ended | ⟨a, aged⟩
  · exact ended
  · exact absurd aged.accepted refused

/-- With less than a frame left, a call does nothing. -/
theorem Song.Stands.leftover {garbage : Garbage} {out : Outcome Heap} (stands : song.Stands p)
    (onward : ¬atEnd (p.gWavePlay song.number)) (few : Leftover (p.gWavePlay song.number))
    (run : waveplayExecute fatApi garbage song.number p = .ok out) :
    frames out.events = [] ∧ out.player = p := by
  obtain ⟨a, aged⟩ := stands.since.resolve_left onward
  obtain ⟨order, near, _, range⟩ := (aged.paired aged).steady
  refine waveplayExecute_leftover ⟨?_, ?_, ?_, ?_⟩ onward few run
  · omega
  · exact range.1
  · exact range.2
  · omega

/-- So a replay leaves the song alone. -/
theorem Song.Stands.keepLeftover (stands : song.Stands p)
    (onward : ¬atEnd (p.gWavePlay song.number)) (few : Leftover (p.gWavePlay song.number))
    (execute : ∀ call ∈ calls, call.execute = true)
    (run : Player.playAll calls p = some (played, q)) : KeepsSong song.number p q := by
  induction calls generalizing p played with
  | nil =>
    obtain ⟨_, rfl⟩ := Prod.mk.inj (Option.some.inj run)
    exact KeepsSong.refl _ _
  | cons call calls ih =>
    obtain ⟨out, rest, called, ok, after, _⟩ := playAll_cons run
    have executes := execute call List.mem_cons_self
    have keeps : KeepsSong song.number p out.player := by
      by_cases own : call.songnummer = song.number
      · have first := Call.run_execute executes called
        rw [own] at first
        obtain ⟨_, same⟩ := stands.leftover onward few first
        rw [same]
        exact KeepsSong.refl _ _
      · exact (stands.here.ready.call called).2 _ (Ne.symm own)
    have next := keeps.trans (ih (stands.anyCall called ok) (by rwa [keeps.context])
      (by rwa [keeps.context]) (fun later inside => execute later (List.mem_cons_of_mem _ inside))
      after)
    exact next

/-- A song that comes back plays the same in the next replay. -/
theorem ComesBack.alike {k : Nat} (reached : Reached image geometry p)
    (back : ComesBack image geometry p k (calls.countP fun call => call.songnummer = k))
    (execute : ∀ call ∈ calls, call.execute = true)
    (run : playAll calls p = some (played, q)) :
    ∃ song : Song image geometry, song.number = k ∧ song.Alike p q := by
  obtain ⟨song, o, last, of, spans, since, both⟩ := back
  have stands := of.stands reached since
  have after := stands.playAll run
  obtain rfl := of.number
  refine ⟨song, rfl, ?_⟩
  rcases both with ⟨onward, few⟩ | ⟨through, whole⟩
  · have keeps := stands.keepLeftover onward few execute run
    obtain ⟨a, aged⟩ := stands.since.resolve_left onward
    exact ⟨stands, after, .inr (aged.paired (aged.keep after.here.ready keeps))⟩
  · by_cases accepted : HeaderAccepted (blockView song.block)
    · obtain ⟨φ, bound, phase⟩ := stands.phase spans through
      have finish := phase.playAll stands accepted spans through execute run
      rw [Nat.add_mod, Nat.mod_eq_zero_of_dvd whole, Nat.add_zero, Nat.mod_mod,
        Nat.mod_eq_of_lt (Nat.lt_succ_of_le bound)] at finish
      exact phase.alike finish stands after
    · exact ⟨stands, after, .inl ⟨stands.refused accepted, after.refused accepted⟩⟩

end OneSong

/-! ## A replay after a replay -/

/-- The songs of a replay are those of its recording, with one tick more for every entry. -/
theorem IsReplay.songs {recordingPlaylist : Nat → Recording}
    (replay : IsReplay recordingPlaylist calls) :
    calls.map (fun call => (call.songnummer : Int)) = replayCalls recordingPlaylist replayed := by
  obtain ⟨_, start, s, trace, begins, rfl, run, ended, same⟩ := replay
  have heard := (Tasks.replay_run begins run).2
  rw [ended, same] at heard
  exact heard

/-- Calls with these songs are those of a replay. -/
theorem isReplay_of {recordingPlaylist : Nat → Recording}
    (execute : ∀ call ∈ calls, call.execute = true)
    (songs : calls.map (fun call => (call.songnummer : Int)) =
      replayCalls recordingPlaylist replayed) : IsReplay recordingPlaylist calls := by
  obtain ⟨trace, s, run, ended⟩ := Tasks.exists_replay recordingPlaylist
  have heard := (Tasks.replay_run rfl run).2
  rw [ended] at heard
  exact ⟨execute, _, s, trace, rfl, rfl, run, ended, heard.trans songs.symm⟩

/-- The calls on a song are as many as the song has in the replay. -/
theorem countP_songnummer {songs : List Int} (k : Nat)
    (same : calls.map (fun call => (call.songnummer : Int)) = songs) :
    (calls.countP fun call => call.songnummer = k) = songs.count (k : Int) := by
  rw [← same, List.count, List.countP_map]
  congr 1
  funext call
  rw [Bool.eq_iff_iff]
  simp

/-- Where every song of a replay comes back, the next replay plays the same. -/
theorem repeatable_of_comesBack {recordingPlaylist : Nat → Recording}
    (reached : Reached image geometry p)
    (back : ∀ k : Nat, (k : Int) ∈ replayCalls recordingPlaylist replayed →
      ComesBack image geometry p k ((replayCalls recordingPlaylist replayed).count (k : Int))) :
    Repeatable recordingPlaylist p := by
  intro first second played again q r replay replay' run run'
  have songs := replay.songs
  have songs' : second.map Call.songnummer = first.map Call.songnummer := by
    have same : (second.map Call.songnummer).map (Nat.cast : Nat → Int) =
        (first.map Call.songnummer).map Nat.cast := by
      rw [List.map_map, List.map_map]
      exact replay'.songs.trans songs.symm
    exact List.map_injective_iff.mpr (fun _ _ => Int.ofNat.inj) same
  have alike : ∀ call ∈ first, ∃ song : Song image geometry,
      song.number = call.songnummer ∧ song.Alike p q := by
    intro call inside
    have member : (call.songnummer : Int) ∈ replayCalls recordingPlaylist replayed := by
      rw [← songs]
      exact List.mem_map.mpr ⟨call, inside, rfl⟩
    have comes := back call.songnummer member
    rw [← countP_songnummer call.songnummer songs] at comes
    exact comes.alike reached replay.execute run
  exact (playAll_alike songs' replay.execute replay'.execute alike run run').1

/-! ## A replay after a session -/

section Sessions

variable {o last n : Nat} {press : Press} {presses : List Press}

/-- Calls of `waveplay_execute` on one song. -/
def Ticks (k n : Nat) (calls : List Call) : Prop :=
  calls.map (fun call => (call.songnummer, call.execute)) = List.replicate n (k, true)

/-- They are calls of `waveplay_execute` on that song. -/
theorem Ticks.each {k : Nat} (ticks : Ticks k n calls) :
    calls.length = n ∧ ∀ call ∈ calls, call.songnummer = k ∧ call.execute = true := by
  obtain ⟨length, values⟩ := List.eq_replicate_iff.mp ticks
  refine ⟨by simpa using length, fun call inside => ?_⟩
  have same := values _ (List.mem_map.mpr ⟨call, inside, rfl⟩)
  exact Prod.mk.inj same

/-- The phase of a song after its ticks. -/
theorem Song.Phase.ticks {φ : Nat} (phase : song.Phase o last φ p) (stands : song.Stands p)
    (accepted : HeaderAccepted (blockView song.block)) (spans : song.Spans o last)
    (through : GetsThrough o last) (ticks : Ticks song.number n calls)
    (run : Player.playAll calls p = some (played, q)) :
    song.Phase o last ((φ + n) % (roundCalls o last + 1)) q := by
  obtain ⟨length, each⟩ := ticks.each
  have after := phase.playAll stands accepted spans through (fun call inside => (each call inside).2)
    run
  have all : (calls.countP fun call => call.songnummer = song.number) = n := by
    rw [List.countP_eq_length.mpr fun call inside => by simpa using (each call inside).1, length]
  rwa [all] at after

/-- A song at its end is there again after whole rounds. -/
theorem Song.Stands.round (stands : song.Stands p) (ended : atEnd (p.gWavePlay song.number))
    (spans : song.Spans o last) (through : GetsThrough o last) (whole : (roundCalls o last + 1) ∣ n)
    (ticks : Ticks song.number n calls) (run : Player.playAll calls p = some (played, q)) :
    atEnd (q.gWavePlay song.number) := by
  have after := stands.playAll run
  by_cases accepted : HeaderAccepted (blockView song.block)
  · have phase : song.Phase o last (roundCalls o last) p := .inl ⟨rfl, ended⟩
    have finish := phase.ticks stands accepted spans through ticks run
    rw [Nat.add_mod, Nat.mod_eq_zero_of_dvd whole, Nat.add_zero, Nat.mod_mod,
      Nat.mod_eq_of_lt (Nat.lt_succ_self _)] at finish
    rcases finish with ⟨_, ended⟩ | ⟨early, _⟩
    · exact ended
    · omega
  · exact after.refused accepted

/-- The calls of a press that stays on its button. -/
theorem Press.steps_ticks {session : List Call}
    (same : ∀ song ∈ press.played, song = press.songNummer)
    (steps : session.map (fun call => (call.songnummer, call.execute)) = press.steps) :
    ∃ call rest, session = call :: rest ∧ call.songnummer = press.songNummer ∧
      call.execute = false ∧ Ticks press.songNummer press.played.length rest := by
  obtain ⟨call, rest, rfl, first, later⟩ := List.map_eq_cons_iff.mp steps
  obtain ⟨number, execute⟩ := Prod.mk.inj first
  refine ⟨call, rest, rfl, number, execute, ?_⟩
  rw [Ticks, later, List.eq_replicate_iff]
  refine ⟨List.length_map _, fun step inside => ?_⟩
  obtain ⟨song, member, rfl⟩ := List.mem_map.mp inside
  rw [same song member]

/-- A press that ends with its song leaves it at its end. -/
theorem Song.Stands.pressEnds {session : List Call} (stands : song.Stands p)
    (number : press.songNummer = song.number)
    (same : ∀ song ∈ press.played, song = press.songNummer) (spans : song.Spans o last)
    (through : GetsThrough o last) (whole : (roundCalls o last + 1) ∣ (press.played.length + 1))
    (steps : session.map (fun call => (call.songnummer, call.execute)) = press.steps)
    (run : Player.playAll session p = some (played, q)) : atEnd (q.gWavePlay song.number) := by
  obtain ⟨call, rest, rfl, own, start, ticks⟩ := Press.steps_ticks same steps
  obtain ⟨out, later, called, _, onward, _⟩ := playAll_cons run
  rw [Call.run, start, own, number] at called
  obtain ⟨after, ⟨accepted, aged⟩ | ⟨refused, _⟩⟩ := stands.start called
  · rw [number] at ticks
    have phase := aged.phase spans through
    have finish := phase.ticks after accepted spans through ticks onward
    obtain ⟨rounds, product⟩ := whole
    have position : (0 + press.played.length) % (roundCalls o last + 1) = roundCalls o last := by
      cases rounds with
      | zero =>
        rw [Nat.mul_zero] at product
        omega
      | succ rounds =>
        rw [Nat.mul_succ] at product
        rw [show 0 + press.played.length = (roundCalls o last + 1) * rounds + roundCalls o last by
          omega, Nat.mul_add_mod, Nat.mod_eq_of_lt (Nat.lt_succ_self _)]
    rw [position] at finish
    rcases finish with ⟨_, ended⟩ | ⟨early, _⟩
    · exact ended
    · omega
  · exact (after.playAll onward).refused refused

/-- A press plays what its replay plays on a song at its end: the tick more starts the song. -/
theorem Song.Stands.pressed {session replay : List Call} {again : List Frame}
    {p' q' : Globals Heap} (left : song.Stands p) (right : song.Stands q)
    (ended : atEnd (q.gWavePlay song.number)) (number : press.songNummer = song.number)
    (same : ∀ song ∈ press.played, song = press.songNummer)
    (steps : session.map (fun call => (call.songnummer, call.execute)) = press.steps)
    (ticks : Ticks song.number (press.played.length + 1) replay)
    (run : Player.playAll session p = some (played, p'))
    (run' : Player.playAll replay q = some (again, q')) : again = played := by
  obtain ⟨call, rest, rfl, own, start, later⟩ := Press.steps_ticks same steps
  obtain ⟨out, heard, called, _, onward, rfl⟩ := playAll_cons run
  rw [Ticks, List.replicate_succ] at ticks
  obtain ⟨call', rest', rfl, first, ticks⟩ := List.map_eq_cons_iff.mp ticks
  obtain ⟨own', execute'⟩ := Prod.mk.inj first
  obtain ⟨out', heard', called', ok', onward', rfl⟩ := playAll_cons run'
  have executed := Call.run_execute execute' called'
  rw [own'] at executed
  rw [Call.run, start, own, number] at called
  obtain ⟨silent, restart, started, after⟩ := waveplayExecute_ended ended executed
  have quiet := waveplayStart_frames called
  rw [silent, quiet]
  have alike : song.Alike out.player out'.player := by
    rw [after]
    exact left.starts right called started
  rw [number] at later
  obtain ⟨length, each⟩ := later.each
  obtain ⟨length', each'⟩ := Ticks.each ticks
  have songs : rest'.map Call.songnummer = rest.map Call.songnummer := by
    rw [List.map_congr_left fun call inside => (each call inside).1,
      List.map_congr_left fun call inside => (each' call inside).1, List.map_const', List.map_const',
      length, length']
  exact (playAll_alike songs (fun call inside => (each call inside).2)
    (fun call inside => (each' call inside).2)
    (fun call inside => ⟨song, (each call inside).1.symm, alike⟩) onward onward').1

/-- A press that stays on its button and ends with its song. -/
def OnTime (press : Press) (holds : Song image geometry → Prop) : Prop :=
  (∀ song ∈ press.played, song = press.songNummer) ∧
    ∃ (song : Song image geometry) (o last : Nat), song.number = press.songNummer ∧
      song.Spans o last ∧ GetsThrough o last ∧
      (roundCalls o last + 1) ∣ (press.played.length + 1) ∧ holds song

/-- Another thing that holds of the song. -/
theorem OnTime.mono {holds holds' : Song image geometry → Prop} (onTime : OnTime press holds)
    (implies : ∀ song, song.number = press.songNummer → holds song → holds' song) :
    OnTime press holds' := by
  obtain ⟨same, song, o, last, number, spans, through, whole, before⟩ := onTime
  exact ⟨same, song, o, last, number, spans, through, whole, implies song number before⟩

/-- The calls of a session are on the songs of its presses. -/
theorem IsSession.member {session : List Call} (steps : IsSession presses session)
    (same : ∀ press ∈ presses, ∀ song ∈ press.played, song = press.songNummer) :
    ∀ call ∈ session, ∃ press ∈ presses, call.songnummer = press.songNummer := by
  intro call inside
  have step : (call.songnummer, call.execute) ∈ presses.flatMap Press.steps := by
    rw [← steps]
    exact List.mem_map.mpr ⟨call, inside, rfl⟩
  obtain ⟨press, member, here⟩ := List.mem_flatMap.mp step
  refine ⟨press, member, ?_⟩
  rcases List.mem_cons.mp here with first | later
  · exact (Prod.mk.inj first).1
  · obtain ⟨song, tick, again⟩ := List.mem_map.mp later
    exact (Prod.mk.inj again).1.symm.trans (same press member song tick)

/-- A song at its end is there after calls on the songs of presses, when those are. -/
theorem ended_after {k : Nat} (ready : Ready image geometry p) (ended : atEnd (p.gWavePlay k))
    (member : ∀ call ∈ calls, ∃ press ∈ presses, call.songnummer = press.songNummer)
    (later : ∀ press ∈ presses, atEnd (q.gWavePlay press.songNummer))
    (run : playAll calls p = some (played, q)) : atEnd (q.gWavePlay k) := by
  by_cases again : ∃ press ∈ presses, press.songNummer = k
  · obtain ⟨press, inside, rfl⟩ := again
    exact later press inside
  · have others : ∀ call ∈ calls, call.songnummer ≠ k := by
      intro call inside same
      obtain ⟨press, inside', own⟩ := member call inside
      exact again ⟨press, inside', own.symm.trans same⟩
    rw [(ready.playAll others run).2.context]
    exact ended

/-- After a session whose presses end with their songs, those are at their ends. -/
theorem session_ends {session : List Call}
    (onTime : ∀ press ∈ presses, OnTime press fun song : Song image geometry =>
      song.Stands p)
    (steps : IsSession presses session) (run : playAll session p = some (played, q)) :
    ∀ press ∈ presses, atEnd (q.gWavePlay press.songNummer) := by
  induction presses generalizing p session played with
  | nil => exact fun _ inside => absurd inside List.not_mem_nil
  | cons press presses ih =>
    obtain ⟨first, rest, rfl, own, steps⟩ := List.map_eq_append_iff.mp steps
    obtain ⟨p₁, _, _, run₁, run₂, rfl⟩ := playAll_append run
    obtain ⟨same, song, o, last, number, spans, through, whole, stands⟩ :=
      onTime press List.mem_cons_self
    have ended := stands.pressEnds number.symm same spans through whole own run₁
    have others := fun later inside => onTime later (List.mem_cons_of_mem press inside)
    have tail := ih (fun later inside => (others later inside).mono
      fun song _ before => before.playAll run₁) steps run₂
    have last := ended_after (stands.playAll run₁).here.ready ended
      (IsSession.member steps fun later inside => (others later inside).1) tail run₂
    rw [number] at last
    exact List.forall_mem_cons.mpr ⟨last, tail⟩

/-- The songs of a replay of presses that stay on their buttons. -/
def entries (presses : List Press) : List Int :=
  presses.flatMap fun press => List.replicate (press.played.length + 1) (press.songNummer : Int)

/-- Calls of `waveplay_execute` on one song. -/
theorem ticks_of {k : Nat} (execute : ∀ call ∈ calls, call.execute = true)
    (songs : calls.map (fun call => (call.songnummer : Int)) = List.replicate n (k : Int)) :
    Ticks k n calls := by
  obtain ⟨length, values⟩ := List.eq_replicate_iff.mp songs
  refine List.eq_replicate_iff.mpr ⟨by simpa using length, fun step inside => ?_⟩
  obtain ⟨call, member, rfl⟩ := List.mem_map.mp inside
  have number := values _ (List.mem_map.mpr ⟨call, member, rfl⟩)
  rw [execute call member, Int.ofNat.inj number]

/-- The calls of a replay are on the songs of the presses. -/
theorem entries_member
    (songs : calls.map (fun call => (call.songnummer : Int)) = entries presses) :
    ∀ call ∈ calls, ∃ press ∈ presses, call.songnummer = press.songNummer := by
  intro call inside
  have entry : (call.songnummer : Int) ∈ entries presses := by
    rw [← songs]
    exact List.mem_map.mpr ⟨call, inside, rfl⟩
  obtain ⟨press, member, here⟩ := List.mem_flatMap.mp entry
  exact ⟨press, member, Int.ofNat.inj (List.eq_of_mem_replicate here)⟩

/-- With every song at its end, a replay of such presses plays what the session played, and leaves
the songs at their ends. -/
theorem session_replayed {session replay : List Call} {again : List Frame} {p' q' : Globals Heap}
    (onTime : ∀ press ∈ presses, OnTime press fun song : Song image geometry =>
      song.Stands p ∧ song.Stands q ∧ atEnd (q.gWavePlay song.number))
    (steps : IsSession presses session) (execute : ∀ call ∈ replay, call.execute = true)
    (songs : replay.map (fun call => (call.songnummer : Int)) = entries presses)
    (run : playAll session p = some (played, p')) (run' : playAll replay q = some (again, q')) :
    again = played ∧ ∀ press ∈ presses, atEnd (q'.gWavePlay press.songNummer) := by
  induction presses generalizing p q session replay played again with
  | nil =>
    obtain rfl := List.map_eq_nil_iff.mp steps
    obtain rfl := List.map_eq_nil_iff.mp songs
    obtain ⟨rfl, rfl⟩ := Prod.mk.inj (Option.some.inj run)
    obtain ⟨rfl, rfl⟩ := Prod.mk.inj (Option.some.inj run')
    exact ⟨rfl, fun _ inside => absurd inside List.not_mem_nil⟩
  | cons press presses ih =>
    obtain ⟨first, rest, rfl, own, steps⟩ := List.map_eq_append_iff.mp steps
    obtain ⟨first', rest', rfl, own', songs⟩ := List.map_eq_append_iff.mp songs
    obtain ⟨p₁, _, _, run₁, run₂, rfl⟩ := playAll_append run
    obtain ⟨q₁, _, _, run₁', run₂', rfl⟩ := playAll_append run'
    obtain ⟨same, song, o, last, number, spans, through, whole, left, right, ended⟩ :=
      onTime press List.mem_cons_self
    have ticks := ticks_of (fun call inside => execute call (List.mem_append_left _ inside)) own'
    have numbers := fun call inside => (ticks.each.2 call inside).1
    rw [← number] at ticks
    obtain rfl := left.pressed right ended number.symm same own ticks run₁ run₁'
    have round := right.round ended spans through whole ticks run₁'
    have others := fun later inside => onTime later (List.mem_cons_of_mem press inside)
    obtain ⟨rfl, tail⟩ := ih (fun later inside => (others later inside).mono
      fun song' own ⟨left', right', ended'⟩ => by
        refine ⟨left'.playAll run₁, right'.playAll run₁', ?_⟩
        by_cases again : song'.number = song.number
        · rw [again]
          exact round
        · have keeps := (right'.here.ready.playAll (k := song'.number) (fun call inside => by
            rw [numbers call inside, ← number]
            exact Ne.symm again) run₁').2
          rw [keeps.context]
          exact ended') steps
      (fun call inside => execute call (List.mem_append_right _ inside)) songs run₂ run₂'
    have last := ended_after (right.playAll run₁').here.ready round
      (entries_member songs) tail run₂'
    rw [number] at last
    exact ⟨rfl, List.forall_mem_cons.mpr ⟨last, tail⟩⟩

/-- A replay goes through the entries of the presses, and plays song 0 for a tick for each of the
others. -/
theorem replayCalls_presses
    (same : ∀ press ∈ presses, ∀ song ∈ press.played, song = press.songNummer) (m : Nat) :
    replayCalls (recordingOf presses) m =
      entries (presses.take m) ++ List.replicate (m - presses.length) 0 := by
  induction m with
  | zero =>
    rw [List.take_zero, Nat.zero_sub]
    rfl
  | succ m ih =>
    have step : replayCalls (recordingOf presses) (m + 1) = replayCalls (recordingOf presses) m ++
        List.replicate ((recordingOf presses m).playticks + 1)
          (recordingOf presses m).songnummer := rfl
    rw [step, ih, List.take_add_one]
    cases found : presses[m]? with
    | none =>
      have late := List.getElem?_eq_none_iff.mp found
      have entry : recordingOf presses m = ⟨0, 0⟩ := by
        rw [recordingOf, found]
        rfl
      have more : m + 1 - presses.length = m - presses.length + 1 := by omega
      rw [entry, Option.toList_none, List.append_nil, List.append_assoc, more]
      show _ ++ (List.replicate (m - presses.length) 0 ++ [0]) = _
      rw [← List.replicate_succ']
    | some press =>
      obtain ⟨early, _⟩ := List.getElem?_eq_some_iff.mp found
      have member : press ∈ presses := List.mem_of_getElem? found
      have entry : recordingOf presses m = press.recording := by
        rw [recordingOf, found]
        rfl
      have number : press.played.getLast?.getD press.songNummer = press.songNummer := by
        cases last : press.played.getLast? with
        | none => rfl
        | some song => exact same press member song (List.mem_of_getLast? last)
      rw [entry, Press.recording, number, Option.toList_some, entries, entries,
        List.flatMap_append, List.flatMap_singleton,
        show m + 1 - presses.length = 0 by omega, show m - presses.length = 0 by omega,
        List.replicate_zero, List.append_nil, List.append_nil]

/-- Calls on a song with less than a frame left play nothing. -/
theorem Song.Stands.silentLeftover (stands : song.Stands p)
    (onward : ¬atEnd (p.gWavePlay song.number)) (few : Leftover (p.gWavePlay song.number))
    (ticks : Ticks song.number n calls) (run : Player.playAll calls p = some (played, q)) :
    played = [] := by
  induction calls generalizing p n played with
  | nil =>
    obtain ⟨rfl, _⟩ := Prod.mk.inj (Option.some.inj run)
    rfl
  | cons call calls ih =>
    obtain ⟨_, each⟩ := ticks.each
    obtain ⟨out, rest, called, _, later, rfl⟩ := playAll_cons run
    obtain ⟨own, executes⟩ := each call List.mem_cons_self
    have first := Call.run_execute executes called
    rw [own] at first
    obtain ⟨silent, same⟩ := stands.leftover onward few first
    rw [same] at later
    cases n with
    | zero => exact absurd ticks (List.cons_ne_nil _ _)
    | succ n =>
      rw [silent, ih stands onward few (List.cons.inj ticks).2 later]
      rfl

/-- Calls on a song at its end play nothing, when there is one of them at most, or the song has no
samples. -/
theorem Song.Stands.silentEnd (stands : song.Stands p) (ended : atEnd (p.gWavePlay song.number))
    (spans : song.Spans o last) (short : n ≤ 1 ∨ last ≤ o) (ticks : Ticks song.number n calls)
    (run : Player.playAll calls p = some (played, q)) : played = [] := by
  induction calls generalizing p n played with
  | nil =>
    obtain ⟨rfl, _⟩ := Prod.mk.inj (Option.some.inj run)
    rfl
  | cons call calls ih =>
    obtain ⟨_, each⟩ := ticks.each
    obtain ⟨out, rest, called, ok, later, rfl⟩ := playAll_cons run
    obtain ⟨own, executes⟩ := each call List.mem_cons_self
    have first := Call.run_execute executes called
    rw [own] at first
    obtain ⟨silent, restart, started, same⟩ := waveplayExecute_ended ended first
    rw [silent]
    cases n with
    | zero => exact absurd ticks (List.cons_ne_nil _ _)
    | succ n =>
      have ticks' : Ticks song.number n calls := (List.cons.inj ticks).2
      rcases short with one | none
      · obtain rfl : n = 0 := by omega
        obtain rfl := List.map_eq_nil_iff.mp ticks'
        obtain ⟨rfl, _⟩ := Prod.mk.inj (Option.some.inj later)
        rfl
      · have still : atEnd (out.player.gWavePlay song.number) := by
          rw [same]
          rcases (stands.start started).2 with ⟨_, aged⟩ | ⟨_, ended⟩
          · have through : GetsThrough o last := fun some => absurd some (Nat.not_lt.mpr none)
            rw [(aged.atEnd_iff spans through).2, roundCalls, if_pos none]
          · exact ended
        rw [ih (stands.anyCall called ok) still (.inr none) ticks' later]
        rfl

end Sessions

/-- A press that ends with its song, in a state that calls lead to. -/
theorem EndsWithSong.onTime {press : Press} (reached : Reached image geometry p)
    (ends : EndsWithSong image geometry p press) :
    OnTime press fun song : Song image geometry => song.Stands p := by
  obtain ⟨same, song, o, last, of, spans, since, through, whole⟩ := ends
  exact ⟨same, song, o, last, of.number, spans, through, whole, of.stands reached since⟩

/-- The calls on song 0 behind the recorded entries are not heard. -/
theorem Unheard.silent {presses : List Press} {session replay rest : List Call}
    {played again : List Frame} {heard : List Frame} {p' q' : Globals Heap} {n : Nat}
    (unheard : Unheard image geometry p presses) (reached : Reached image geometry p)
    (member : ∀ call ∈ session ++ replay, ∃ press ∈ presses, call.songnummer = press.songNummer)
    (ended : ∀ press ∈ presses, atEnd (q.gWavePlay press.songNummer))
    (run : playAll session p = some (played, p')) (run' : playAll replay p' = some (again, q))
    (count : presses.length + n = replayed) (ticks : Ticks 0 n rest)
    (last : playAll rest q = some (heard, q')) : heard = [] := by
  obtain ⟨song, o, last', of, spans, since, both⟩ := unheard
  have stands := of.stands reached since
  have after := (stands.playAll run).playAll run'
  rw [← of.number] at ticks both
  have apart : (∀ press ∈ presses, press.songNummer ≠ song.number) → KeepsSong song.number p q := by
    intro others
    have other : ∀ call ∈ session ++ replay, call.songnummer ≠ song.number := by
      intro call inside
      obtain ⟨press, here, own⟩ := member call inside
      rw [own]
      exact others press here
    obtain ⟨ready, keeps⟩ := reached.ready.playAll
      (fun call inside => other call (List.mem_append_left _ inside)) run
    exact keeps.trans (ready.playAll
      (fun call inside => other call (List.mem_append_right _ inside)) run').2
  rcases both with ⟨onward, few, others⟩ | ⟨finished, short⟩
  · have keeps := apart others
    exact after.silentLeftover (by rwa [keeps.context]) (by rwa [keeps.context]) ticks last
  · have here : atEnd (q.gWavePlay song.number) := by
      by_cases pressed : ∃ press ∈ presses, press.songNummer = song.number
      · obtain ⟨press, inside, own⟩ := pressed
        rw [← own]
        exact ended press inside
      · have others : ∀ press ∈ presses, press.songNummer ≠ song.number :=
          fun press inside own => pressed ⟨press, inside, own⟩
        rw [(apart others).context]
        exact finished.resolve_right pressed
    refine after.silentEnd here spans ?_ ticks last
    rcases short with nine | none
    · left
      simp only [replayed] at count
      omega
    · exact .inr none

/-- A session whose presses end with their songs is replayed as it was heard. -/
theorem replaysSession_of_endsOnTime {presses : List Press} (reached : Reached image geometry p)
    (ends : EndsOnTime image geometry p presses) : ReplaysSession presses p := by
  intro session calls played again q r steps replay run run'
  have onTime := fun press inside => (ends.each press inside).onTime reached
  have same := fun press inside => (ends.each press inside).1
  have ended := session_ends onTime steps run
  have few : presses.length ≤ replayed := by
    rcases ends.rest with full | ⟨less, _⟩
    · exact Nat.le_of_eq full
    · exact Nat.le_of_lt less
  have songs := replay.songs
  rw [replayCalls_presses same, List.take_of_length_le few] at songs
  obtain ⟨first, rest, rfl, songs, zeros⟩ := List.map_eq_append_iff.mp songs
  obtain ⟨q', before, after, run₁, run₂, rfl⟩ := playAll_append run'
  have executes := fun call inside => replay.execute call (List.mem_append_left rest inside)
  obtain ⟨rfl, ended'⟩ := session_replayed
    (fun press inside => (onTime press inside).mono fun song number stands =>
      ⟨stands, stands.playAll run, by rw [number]; exact ended press inside⟩)
    steps executes songs run run₁
  have ticks : Ticks 0 (replayed - presses.length) rest :=
    ticks_of (fun call inside => replay.execute call (List.mem_append_right _ inside)) zeros
  rcases ends.rest with full | ⟨less, unheard⟩
  · rw [full, Nat.sub_self] at ticks
    obtain rfl := List.map_eq_nil_iff.mp ticks
    obtain ⟨rfl, _⟩ := Prod.mk.inj (Option.some.inj run₂)
    exact List.append_nil _
  · have member : ∀ call ∈ session ++ first,
        ∃ press ∈ presses, call.songnummer = press.songNummer := by
      intro call inside
      rcases List.mem_append.mp inside with here | here
      · exact IsSession.member steps same call here
      · exact entries_member songs call here
    have silent := unheard.silent reached member ended' run run₁ (by omega) ticks run₂
    rw [silent, List.append_nil]

/-! ## A card with one song -/

/-- `A.WAV` begins with its first block. -/
theorem twoChains_begins :
    BeginsWith (twoChainsCard 0) (cardVolume (twoChainsCard 0)) 1 [0x41, 0x2E, 0x57, 0x41, 0x56]
      (twoChainsCard 0 516) := by
  have device : (cardVolume (twoChainsCard 0)).readBlock512.Holds (twoChainsCard 0) :=
    imageDevice_holds _
  have matched := fatMount_matches (imageDevice_holds _) (fat32Card_mount (twoChains 0))
  have size : fileSize (twoChainsEntry 0) = 1024 := by decide +kernel
  have file := twoChains_wellFormed (.inl (rfl : (0 : UInt8) = 0))
  rw [size] at file
  have run : (fatFileOpen (cardHeap (twoChainsCard 0) (cardVolume (twoChainsCard 0)) 1) 1
      [0x41, 0x2E, 0x57, 0x41, 0x56]).map (fun opened =>
        (opened.1, (opened.2.files opened.1).map (·.directory.dirEntryIndex))) =
      .ok (2, some 0) := by decide +kernel
  obtain ⟨⟨hFile, heap⟩, opens, same⟩ := map_eq_ok run
  obtain ⟨rfl, place⟩ := Prod.mk.inj same
  obtain ⟨context, found, fields⟩ :=
    fatFileOpen_entry (cardHeap_mounted device 1) opens (by decide)
  simp only [found, Option.map_some, Option.some.injEq, openedFile] at place
  have cluster := fields.cluster (by rw [place]; decide +kernel)
  rw [place] at cluster
  have block : (layoutOf (twoChainsCard 0)).blockSecter (twoChainsCard 0)
      (firstCluster (twoChainsEntry 0)) 0 = 516 := by decide +kernel
  rw [← block]
  exact beginsWith_of file matched twoChains_followed device opens (by decide) found cluster
    (by decide)

/-- The song that `A.WAV` is. -/
def twoChainsSong : Song (twoChainsCard 0) (cardVolume (twoChainsCard 0)) where
  number := 0
  hFat := 1
  name := [0x41, 0x2E, 0x57, 0x41, 0x56]
  readOk := true
  block := twoChainsCard 0 516
  begins := twoChains_begins
  stays := ⟨by decide +kernel, fun _ _ _ _ => by decide +kernel, fun _ => by decide +kernel⟩

/-- Its samples are the bytes 44 to 1023, so that it goes round in three calls. -/
theorem twoChainsSong_spans : twoChainsSong.Spans 44 1024 := by
  have offsetRead : waveGetWaveOffset (blockView (twoChainsCard 0 516)) waveBufSize = some 44 := by
    decide +kernel
  have sizeRead : waveGetDataByteSize (blockView (twoChainsCard 0 516)) waveBufSize =
      some 980 := by decide +kernel
  intro offset size offset' size'
  obtain rfl := Option.some.inj (offsetRead.symm.trans offset')
  obtain rfl := Option.some.inj (sizeRead.symm.trans size')
  decide

/-- The card after its listing and two calls on its song, which is at its end then. -/
theorem twoChains_ended : ∃ p, Reached (twoChainsCard 0) (cardVolume (twoChainsCard 0)) p ∧
    twoChainsSong.Of 0 p ∧ atEnd (p.gWavePlay 0) := by
  have run : (listCard (twoChains 0)).bind (fun listed =>
      (waveplayExecute fatApi .zero 0 listed.2).bind fun first =>
        (waveplayExecute fatApi .zero 0 first.player).map fun second =>
          (second.player.hFat, (second.player.gWavePlay 0).szFilename,
            (second.player.gWavePlay 0).readOk, decide (atEnd (second.player.gWavePlay 0)))) =
      .ok (1, [0x41, 0x2E, 0x57, 0x41, 0x56], true, true) := by decide +kernel
  obtain ⟨⟨count, p⟩, listed, run⟩ := bind_eq_ok run
  obtain ⟨first, played, run⟩ := bind_eq_ok run
  obtain ⟨second, again, fields⟩ := map_eq_ok run
  have start := Reached.listed (listCard_listed listed)
  have once : Reached (twoChainsCard 0) (cardVolume (twoChainsCard 0)) first.player :=
    @Reached.call _ _ _ ⟨0, true, .zero⟩ _ start played
  have reached : Reached (twoChainsCard 0) (cardVolume (twoChainsCard 0)) second.player :=
    @Reached.call _ _ _ ⟨0, true, .zero⟩ _ once again
  simp only [Prod.mk.injEq, decide_eq_true_eq] at fields
  obtain ⟨volume, name, readOk, ended⟩ := fields
  exact ⟨second.player, reached, ⟨rfl, volume.symm, name.symm, readOk.symm⟩, ended⟩

/-- In every reachable state a replay is repeatable where its songs come back, and it is the
recording again where the presses end with their songs. -/
theorem replay_repeats (reached : Reached image geometry p) :
    (∀ recordingPlaylist : Nat → Recording,
      (∀ k : Nat, (k : Int) ∈ replayCalls recordingPlaylist replayed →
        ComesBack image geometry p k ((replayCalls recordingPlaylist replayed).count (k : Int))) →
      Repeatable recordingPlaylist p) ∧
    ∀ presses : List Press, EndsOnTime image geometry p presses → ReplaysSession presses p :=
  ⟨fun _ back => repeatable_of_comesBack reached back,
    fun _ ends => replaysSession_of_endsOnTime reached ends⟩

/-- Two replays of an empty recording are ten calls each on a song that goes round in three, and a
recording of one short press is replayed with its nine empty entries. -/
theorem replay_differs : ∃ p, Reached (twoChainsCard 0) (cardVolume (twoChainsCard 0)) p ∧
    ¬Repeatable (fun _ => ⟨0, 0⟩) p ∧ ¬ReplaysSession [⟨0, [0]⟩] p := by
  have twice : (listCard (twoChains 0)).toOption.bind (fun listed =>
      (playAll (List.replicate 10 ⟨0, true, .zero⟩) listed.2).bind fun first =>
        (playAll (List.replicate 10 ⟨0, true, .zero⟩) first.2).map fun second =>
          [first.1.length, second.1.length]) = some [852, 863] := by decide +kernel
  have press : (listCard (twoChains 0)).toOption.bind (fun listed =>
      (playAll [⟨0, false, .zero⟩, ⟨0, true, .zero⟩] listed.2).bind fun first =>
        (playAll (List.replicate 11 ⟨0, true, .zero⟩) first.2).map fun second =>
          [first.1.length, second.1.length]) = some [117, 863] := by decide +kernel
  obtain ⟨count, p, listed, song⟩ := twoChains_song (.inl (rfl : (0 : UInt8) = 0))
  rw [listed] at twice press
  change (playAll _ p).bind _ = _ at twice press
  refine ⟨p, song.reached, fun repeatable => ?_, fun replays => ?_⟩
  · obtain ⟨⟨played, q⟩, first, twice⟩ := Option.bind_eq_some_iff.mp twice
    obtain ⟨⟨again, r⟩, second, lengths⟩ := Option.map_eq_some_iff.mp twice
    have replay : IsReplay (fun _ => ⟨0, 0⟩) (List.replicate 10 ⟨0, true, .zero⟩) :=
      isReplay_of (fun call inside => by rw [List.eq_of_mem_replicate inside]) rfl
    obtain rfl := repeatable replay replay first second
    obtain ⟨one, two⟩ := List.cons.inj lengths
    exact absurd ((List.cons.inj two).1.symm.trans one) (by decide)
  · obtain ⟨⟨played, q⟩, first, press⟩ := Option.bind_eq_some_iff.mp press
    obtain ⟨⟨again, r⟩, second, lengths⟩ := Option.map_eq_some_iff.mp press
    have replay : IsReplay (recordingOf [⟨0, [0]⟩]) (List.replicate 11 ⟨0, true, .zero⟩) :=
      isReplay_of (fun call inside => by rw [List.eq_of_mem_replicate inside]) rfl
    have session : IsSession [⟨0, [0]⟩] [⟨0, false, .zero⟩, ⟨0, true, .zero⟩] := rfl
    obtain rfl := replays session replay first second
    obtain ⟨one, two⟩ := List.cons.inj lengths
    exact absurd ((List.cons.inj two).1.symm.trans one) (by decide)

/-- On that card a recording of twelve calls is repeatable, and ten presses of the whole song are
replayed. -/
theorem replay_repeats_twoChains : ∃ p,
    Reached (twoChainsCard 0) (cardVolume (twoChainsCard 0)) p ∧
      Repeatable (fun i => ⟨0, if i < 2 then 1 else 0⟩) p ∧
      ReplaysSession (List.replicate 10 ⟨0, [0, 0]⟩) p := by
  obtain ⟨p, reached, of, ended⟩ := twoChains_ended
  have through : GetsThrough 44 1024 := fun _ => .inr (by decide)
  obtain ⟨repeats, replays⟩ := replay_repeats reached
  refine ⟨p, reached, repeats _ fun k inside => ?_, replays _ ⟨?_, .inl rfl⟩⟩
  · have zero : (k : Int) = 0 := by
      have all : ∀ song ∈ replayCalls (fun i => ⟨0, if i < 2 then 1 else 0⟩) replayed,
          song = 0 := by decide
      exact all _ inside
    obtain rfl := Int.ofNat_eq_zero.mp zero
    exact ⟨twoChainsSong, 44, 1024, of, twoChainsSong_spans, .inl ended,
      .inr ⟨through, by decide⟩⟩
  · intro press inside
    obtain rfl := List.eq_of_mem_replicate inside
    exact ⟨by decide, twoChainsSong, 44, 1024, of, twoChainsSong_spans, .inl ended, through,
      by decide⟩

end SoundBoard.Player
