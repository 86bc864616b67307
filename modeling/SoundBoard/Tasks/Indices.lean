import SoundBoard.Player.Context
import SoundBoard.Tasks.Steps

/-!
# Song numbers and recording indices

Which song numbers `TaskKeyHandler` and `TaskPlayRecording` pass to the player, and where the
recording is written. A song number is tested once, before the play loop computes it anew from
every touch; the recording is written and replayed without a test. The rule `KeepsTables` says
which steps keep every number inside the tables.
-/

namespace SoundBoard.Tasks

open SoundBoard.Lib SoundBoard.Player

/-- A call of the player by the two tasks names a song of the play list and of `gWavePlay`, and
a write of the recording lies inside it. -/
def InTables (shared : Shared) : Event → Prop
  | .start .readSD _ => True
  | .start _ songnummer => 0 ≤ songnummer ∧ songnummer < shared.nFileNum ∧ songnummer < maxSongs + 1
  | .execute _ songnummer =>
    0 ≤ songnummer ∧ songnummer < shared.nFileNum ∧ songnummer < maxSongs + 1
  | .record index _ => index < maxRecording
  | _ => True

/-- Every event of every run under a guard is in the tables of the state in which it happens. -/
def IndexSafe (guard : Sys → Act → Prop) : Prop :=
  ∀ {x1 y1 : Nat} {trace events : List Event} {s s' : Sys} {act : Act},
    system.Run guard (.boot x1 y1) trace s → guard s act →
    system.step act s = some (s', events) → ∀ event ∈ events, InTables s.shared event

/-! ## Program points -/

/-- The number of songs accepted so far, in the loop of `build_wave_play_list`, and the number
with the song that is being started. -/
def ReadPc.songs : ReadPc → Option (Nat × Nat)
  | .listNext count => some (count, count)
  | .listStart count _ => some (count, count + 1)
  | .listEnd count => some (count, count)
  | _ => none

/-! ## The rule -/

/-- The part of the rule about `TaskReadSD`: a listing begins outside presses and replays, the
card has at most `MAX_SONGS + 1` songs, and every recorded song is on the new list. -/
def ReadPc.KeepsTables (s : Sys) (answer : Answer) : ReadPc → Prop
  | .listBegin => s.keyHandler.All (fun pc => pc.inPress = false) ∧
      s.playRecording.All fun pc => pc.inReplay s.shared.playingRecording = false
  | .listNext count => answer.entry = .accepted → count < maxSongs + 1
  | .listEnd count => 0 < count →
      ∀ i, i < maxRecording → (s.shared.recordingPlaylist i).songnummer < count
  | _ => True

/-- The part of the rule about `TaskKeyHandler`: during a press the finger stays on buttons with
a song, a recording has at most `MAX_RECORDING` presses, and a replay begins with songs in the
list. -/
def HandlerPc.KeepsTables (s : Sys) : HandlerPc → Prop
  | .loopY x => getButtonId x s.shared.mtc2.y1 < s.shared.nFileNum
  | .afterLoop => s.shared.busyRecording = true → s.locals.count < maxRecording
  | .createPlay => 0 < s.shared.nFileNum
  | _ => True

/-- A step that keeps song numbers and indices inside the tables. -/
def KeepsTables (s : Sys) : Act → Prop
  | .run .readSD answer => s.readSD.All fun pc => pc.KeepsTables s answer
  | .run .keyHandler _ => s.keyHandler.All fun pc => pc.KeepsTables s
  | _ => True

instance (s : Sys) (answer : Answer) : DecidablePred (ReadPc.KeepsTables s answer)
  | .listBegin => inferInstanceAs (Decidable (s.keyHandler.All (fun pc => pc.inPress = false) ∧
      s.playRecording.All fun pc => pc.inReplay s.shared.playingRecording = false))
  | .listNext count => inferInstanceAs (Decidable (answer.entry = .accepted → count < maxSongs + 1))
  | .listEnd count => inferInstanceAs (Decidable (0 < count →
      ∀ i, i < maxRecording → (s.shared.recordingPlaylist i).songnummer < count))
  | .begin | .insert _ | .insertInit _ | .drawBlank | .mount _ | .mountInit _ | .mountRead
  | .mountFail | .listStart _ _ | .cardReady | .noFiles | .finish => .isTrue trivial

instance (s : Sys) : DecidablePred (HandlerPc.KeepsTables s)
  | .loopY x => inferInstanceAs (Decidable (getButtonId x s.shared.mtc2.y1 < s.shared.nFileNum))
  | .afterLoop =>
    inferInstanceAs (Decidable (s.shared.busyRecording = true → s.locals.count < maxRecording))
  | .createPlay => inferInstanceAs (Decidable (0 < s.shared.nFileNum))
  | .head | .createRead | .touch | .touchX | .touchY _ | .songCheck | .startCall | .start _
  | .loopTest | .loopReady | .loopX | .executeCall | .execute _ | .stopPlaying | .loopKey _
  | .endPress | .recordX | .recordY _ | .recordTouch | .toggle | .playX | .playY _ | .playTouch
  | .playFlag | .key _ | .delay => .isTrue trivial

instance (s : Sys) : DecidablePred (KeepsTables s)
  | .run .readSD answer =>
    inferInstanceAs (Decidable (s.readSD.All fun pc => pc.KeepsTables s answer))
  | .run .keyHandler _ => inferInstanceAs (Decidable (s.keyHandler.All fun pc => pc.KeepsTables s))
  | .run .playRecording _ | .report _ | .keys _ | .tick _ => .isTrue trivial

/-! ## The invariant -/

/-- The states of runs that keep to the rule. -/
structure Indices (s : Sys) : Prop where
  fits : s.shared.nFileNum ≤ maxSongs + 1
  listing : s.readSD.All fun pc => ∀ count, pc.songs = some count →
    count.2 ≤ maxSongs + 1 ∧ s.shared.nFileNum = 0
  nonneg : 0 ≤ s.locals.songNummer
  press : s.keyHandler.All fun pc =>
    pc.inPress = true → s.locals.songNummer < s.shared.nFileNum
  replay : s.playRecording.All fun pc =>
    pc.inReplay s.shared.playingRecording = true → 0 < s.shared.nFileNum
  entry : s.playRecording.All fun pc => ∀ i, pc.entry = some i → i < 10
  recorded : ∀ i, i < maxRecording → 0 ≤ (s.shared.recordingPlaylist i).songnummer ∧
    (0 < s.shared.nFileNum → (s.shared.recordingPlaylist i).songnummer < s.shared.nFileNum)

/-- After start-up the tables are empty. -/
theorem Indices.boot (x1 y1 : Nat) : Indices (.boot x1 y1) := by
  refine ⟨?_, ?_, ?_, ?_, ?_, ?_, ?_⟩ <;> simp [Sys.boot, Shared.boot, HandlerPc.inPress]

/-- A step of `TaskReadSD` enters the loop of the listing with no song, goes on in it with no
more songs than before, or accepts one. -/
theorem taskReadSD_songs (answer : Answer) (shared : Shared) (pc : ReadPc) :
    (taskReadSD answer shared pc).task.All fun pc' => ∀ count', pc'.songs = some count' →
      pc = .listBegin ∧ count' = (0, 0) ∨
      (∀ count, pc ≠ .listEnd count) ∧ pc ≠ .listBegin ∧ ∃ count, pc.songs = some count ∧
        (count'.2 ≤ count.2 ∨ pc = .listNext count.1 ∧ answer.entry = .accepted ∧
          count'.2 = count.1 + 1) := by
  cases pc with
  | listStart count pc =>
    simp only [taskReadSD]
    refine Sub.all_task _ ?_ ?_ <;> simp [ReadPc.songs]
  | insertInit first =>
    simp only [taskReadSD]
    split
    · simp [ReadPc.songs]
    · split <;> simp [ReadPc.songs]
  | mountInit nTry =>
    simp only [taskReadSD]
    split
    · simp [ReadPc.songs]
    · split
      · simp [ReadPc.songs]
      · split <;> simp [ReadPc.songs]
  | mountRead =>
    simp only [taskReadSD]
    split <;> simp [ReadPc.songs]
  | listNext count =>
    simp only [taskReadSD]
    split <;> simp_all [ReadPc.songs]
  | listEnd count =>
    simp only [taskReadSD]
    split <;> simp [ReadPc.songs]
  | _ => simp [taskReadSD, ReadPc.songs]

/-- A step of `TaskReadSD` that keeps to the rule. -/
theorem Indices.readSD {s : Sys} {pc : ReadPc} (before : Indices s) (answer : Answer)
    (ready : s.readSD = .ready pc) (rule : pc.KeepsTables s answer) :
    Indices (s.readSDNext (taskReadSD answer s.shared pc)) := by
  obtain ⟨fits, listing, nonneg, press, replay, entry, recorded⟩ := before
  obtain ⟨_, _, _, _, same⟩ := taskReadSD_shared answer s.shared pc
  have songs := taskReadSD_songs answer s.shared pc
  rw [ready, Task.all_ready] at listing
  by_cases begins : pc = .listBegin
  · subst begins
    simp only [Sys.readSDNext, same, ReadPc.nFileNum]
    refine ⟨Nat.zero_le _, ?_, nonneg, ?_, ?_, entry, fun i inside => ?_⟩
    · intro pc' here count' at'
      rcases songs pc' here count' at' with ⟨_, rfl⟩ | ⟨_, other, _⟩
      · exact ⟨Nat.zero_le _, rfl⟩
      · exact absurd rfl other
    · exact rule.1.mono fun pc' outside inside => by simp [outside] at inside
    · exact rule.2.mono fun pc' outside inside => by simp [outside] at inside
    · exact ⟨(recorded i inside).1, fun some => absurd some (Nat.lt_irrefl 0)⟩
  · by_cases ends : ∃ count, pc = .listEnd count
    · obtain ⟨count, rfl⟩ := ends
      obtain ⟨most, empty⟩ := listing (count, count) rfl
      simp only [Sys.readSDNext, same, ReadPc.nFileNum]
      refine ⟨most, ?_, nonneg, ?_, ?_, entry, fun i inside => ?_⟩
      · intro pc' here count' at'
        rcases songs pc' here count' at' with ⟨other, _⟩ | ⟨other, _⟩
        · contradiction
        · exact absurd rfl (other count)
      · exact press.mono fun pc' old inside => by
          have := old inside
          omega
      · exact replay.mono fun pc' old inside => by
          have := old inside
          omega
      · exact ⟨(recorded i inside).1, fun some => by exact_mod_cast rule some i inside⟩
    · have number : pc.nFileNum s.shared.nFileNum = s.shared.nFileNum := by
        cases pc with
        | listBegin => exact absurd rfl begins
        | listEnd count => exact absurd ⟨count, rfl⟩ ends
        | _ => rfl
      simp only [Sys.readSDNext, same, number]
      refine ⟨fits, ?_, nonneg, press, replay, entry, recorded⟩
      intro pc' here count' at'
      rcases songs pc' here count' at' with ⟨other, _⟩ | ⟨_, _, count, at_, more⟩
      · exact absurd other begins
      · obtain ⟨most, empty⟩ := listing count at_
        refine ⟨?_, empty⟩
        rcases more with fewer | ⟨rfl, accepted, one⟩
        · omega
        · have room := rule accepted
          omega

/-- A step of `TaskPlayRecording`. -/
theorem Indices.playRecording {s : Sys} {pc : PlayPc} (before : Indices s) (answer : Answer)
    (ready : s.playRecording = .ready pc) :
    Indices (s.playRecordingNext (taskPlayRecording answer s.shared pc)) := by
  obtain ⟨fits, listing, nonneg, press, replay, entry, recorded⟩ := before
  have points := taskPlayRecording_points answer s.shared pc
  obtain ⟨_, _, _, _, _, _, _, _, same⟩ := taskPlayRecording_shared answer s.shared pc
  simp only [Sys.playRecordingNext]
  rw [same] at points ⊢
  rw [ready, Task.all_ready] at replay entry
  refine ⟨fits, listing, nonneg, press, ?_, ?_, recorded⟩
  · exact points.mono fun pc' point inside => replay (point.2 inside)
  · exact points.mono fun pc' point i here => (point.1 i here).elim id (entry i)

/-- A step of `TaskKeyHandler` that keeps to the rule. -/
theorem Indices.keyHandler {s : Sys} {pc : HandlerPc} (before : Indices s) (answer : Answer)
    (ready : s.keyHandler = .ready pc) (rule : pc.KeepsTables s) :
    Indices (s.keyHandlerNext (taskKeyHandler answer s.locals s.shared pc)) := by
  obtain ⟨fits, listing, nonneg, press, replay, entry, recorded⟩ := before
  have points := taskKeyHandler_points answer s.shared s.locals pc
  have song := taskKeyHandler_songNummer answer s.shared s.locals pc
  have creates := taskKeyHandler_create answer s.shared s.locals pc
  obtain ⟨_, _, _, _, _, _, _, _, same⟩ := taskKeyHandler_shared answer s.shared s.locals pc
  rw [ready, Task.all_ready] at press
  simp only [Sys.keyHandlerNext]
  refine ⟨?_, ?_, ?_, ?_, ?_, ?_, fun i inside => ?_⟩
  · rw [same]
    exact fits
  · rw [same]
    exact listing.createRead fun _ => by simp [ReadPc.songs]
  · rw [song]
    exact pc.songNummer_nonneg _ nonneg
  · simp only [song, same]
    refine points.mono fun pc' enters inside => ?_
    rcases enters inside with stays | ⟨rfl, playable⟩
    · cases pc with
      | loopY x => exact rule
      | touchY | endPress => contradiction
      | _ => exact press stays
    · exact playable.1
  · rw [same]
    refine replay.createPlay fun created _ => ?_
    rw [creates] at created
    cases pc with
    | createPlay => exact rule
    | _ => contradiction
  · exact entry.createPlay fun _ => by simp [PlayPc.entry]
  · rw [same]
    cases pc with
    | afterLoop =>
      simp only [HandlerPc.recordingPlaylist]
      split
      · by_cases here : i = s.locals.count
        · subst here
          rw [Function.update_self]
          exact ⟨nonneg, fun _ => press rfl⟩
        · rw [Function.update_of_ne here]
          exact recorded i inside
      · exact recorded i inside
    | toggle =>
      simp only [HandlerPc.recordingPlaylist, Shared.toggleRecording]
      split
      · exact recorded i inside
      · simp [inside]
    | _ => exact recorded i inside

/-- Every state of a run that keeps to the rule has its numbers in the tables. -/
theorem Indices.run {x1 y1 : Nat} {trace : List Event} {s : Sys}
    (run : system.Run KeepsTables (.boot x1 y1) trace s) : Indices s := by
  refine run.stateInvariant Indices (.boot x1 y1) ?_
  intro s act s' events before rule step
  cases Sys.step_cases step with
  | report touch | keys button => exact { before with }
  | wakeReadSD asleep =>
    have listing := before.listing
    rw [asleep, Task.all_asleep] at listing
    exact { before with listing := (Task.all_ready _ _).mpr listing }
  | wakePlayRecording asleep =>
    have replay := before.replay
    have entry := before.entry
    rw [asleep, Task.all_asleep] at replay entry
    exact { before with
      replay := (Task.all_ready _ _).mpr replay, entry := (Task.all_ready _ _).mpr entry }
  | wakeKeyHandler asleep =>
    have press := before.press
    rw [asleep, Task.all_asleep] at press
    exact { before with press := (Task.all_ready _ _).mpr press }
  | readSD answer ready =>
    simp only [KeepsTables, ready, Task.all_ready] at rule
    exact before.readSD answer ready rule
  | playRecording answer ready first => exact before.playRecording answer ready
  | keyHandler answer ready first second =>
    simp only [KeepsTables, ready, Task.all_ready] at rule
    exact before.keyHandler answer ready rule

/-- In every run that keeps to the rule, every song number and every index is in the tables. -/
theorem indexSafe_keepsTables {x1 y1 : Nat} {trace events : List Event} {s s' : Sys} {act : Act}
    (run : system.Run KeepsTables (.boot x1 y1) trace s) (rule : KeepsTables s act)
    (step : system.step act s = some (s', events)) :
    ∀ event ∈ events, InTables s.shared event := by
  intro event emitted
  obtain ⟨fits, listing, nonneg, press, replay, entry, recorded⟩ := Indices.run run
  cases Sys.step_cases step with
  | report | keys | wakeReadSD | wakePlayRecording | wakeKeyHandler =>
    exact absurd emitted List.not_mem_nil
  | readSD answer ready =>
    obtain ⟨count, rfl⟩ := taskReadSD_events answer s.shared _ event emitted
    trivial
  | @playRecording pc answer ready first =>
    rw [ready, Task.all_ready] at replay entry
    cases pc with
    | forJ i j =>
      simp only [taskPlayRecording] at emitted
      split at emitted
      · obtain rfl := List.mem_singleton.mp emitted
        have some := replay rfl
        have inside := entry i rfl
        obtain ⟨low, high⟩ := recorded i (by simp only [maxRecording]; omega)
        have high := high some
        exact ⟨low, high, by omega⟩
      · exact absurd emitted List.not_mem_nil
    | _ => exact absurd emitted List.not_mem_nil
  | @keyHandler pc answer ready first second =>
    rw [ready, Task.all_ready] at press
    cases pc with
    | startCall | executeCall =>
      obtain rfl := List.mem_singleton.mp emitted
      have high := press rfl
      exact ⟨nonneg, high, by omega⟩
    | afterLoop =>
      simp only [KeepsTables, ready, Task.all_ready] at rule
      simp only [taskKeyHandler] at emitted
      split at emitted
      · rename_i busy
        obtain rfl := List.mem_singleton.mp emitted
        exact rule busy
      · exact absurd emitted List.not_mem_nil
    | head | touchY | toggle =>
      obtain rfl := List.mem_singleton.mp emitted
      trivial
    | loopKey pc =>
      simp only [taskKeyHandler] at emitted
      split at emitted <;> exact absurd emitted List.not_mem_nil
    | _ => exact absurd emitted List.not_mem_nil

/-- On a card with one song, the finger presses its button and stays on it. -/
def stayOn : List Act :=
  insertCard 1 ++ firstIteration ++ pressButton ⟨1, 50, 50⟩ ++ runs .keyHandler 4

/-- The press plays the song of the button. -/
theorem indexSafe_keepsTables_stayOn : ∃ trace s s' events,
    system.Run KeepsTables (.boot 0 0) trace s ∧
      system.step (.run .keyHandler .yes) s = some (s', events) ∧
      events = [.execute .keyHandler 0] ∧ ∀ event ∈ events, InTables s.shared event := by
  have steps : (system.execWithin KeepsTables stayOn [] (.boot 0 0)).bind (fun next =>
      if KeepsTables next.2 (.run .keyHandler .yes) then
        (system.step (.run .keyHandler .yes) next.2).map fun last => last.2 else none) =
      some [.execute .keyHandler 0] := by decide +kernel
  obtain ⟨⟨trace, s⟩, steps, last⟩ := Option.bind_eq_some_iff.mp steps
  have run := Machine.Run.nil.execWithin steps
  split at last
  · rename_i rule
    obtain ⟨⟨s', events⟩, step, same⟩ := Option.map_eq_some_iff.mp last
    exact ⟨trace, s, s', events, run, step, same, indexSafe_keepsTables run rule step⟩
  · contradiction

/-! ## A finger that leaves the buttons -/

/-- Every event in the trace of a safe run was in the tables when it happened. -/
theorem IndexSafe.trace {guard : Sys → Act → Prop} {x1 y1 : Nat} {trace : List Event} {s : Sys}
    (safe : IndexSafe guard) (run : system.Run guard (.boot x1 y1) trace s) :
    ∀ event ∈ trace, ∃ shared, InTables shared event := by
  induction run with
  | nil => simp
  | @snoc trace events s s' act run meets step ih =>
    intro event emitted
    rcases List.mem_append.mp emitted with before | now
    · exact ih event before
    · exact ⟨s.shared, safe run meets step event now⟩

/-- On a card with one song, the finger presses its button and slides into the gap below. -/
def slideOff : List Act :=
  insertCard 1 ++ firstIteration ++ pressButton ⟨1, 50, 50⟩ ++ runs .keyHandler 2 ++
    [.report ⟨1, 50, 140⟩] ++ runs .keyHandler 3

/-- The slide plays song 111. -/
theorem slideOff_trace : (system.exec slideOff [] (.boot 0 0)).map Prod.fst =
    some [.iteration, .start .readSD 0, .iteration, .touched 0, .start .keyHandler 0,
      .execute .keyHandler 111] := by decide +kernel

/-- Without the rule, a touch can play a song outside the tables. -/
theorem not_indexSafe_free : ¬IndexSafe Machine.Free := by
  intro safe
  obtain ⟨⟨trace, s⟩, steps, same⟩ := Option.map_eq_some_iff.mp slideOff_trace
  simp only at same
  subst same
  obtain ⟨shared, _, _, high⟩ := safe.trace (Machine.Run.nil.exec steps)
    (.execute .keyHandler 111) (by decide)
  simp only [maxSongs] at high
  omega

end SoundBoard.Tasks
