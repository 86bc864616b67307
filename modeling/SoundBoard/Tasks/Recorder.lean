import SoundBoard.Lib.Timeline
import SoundBoard.Tasks.Steps

/-!
# The recorder

What `TaskKeyHandler` keeps of a recording session. A press is stored as one song number and
one number of ticks, so the recording is a timeline; it is compared with the song numbers that
the task has passed to `waveplay_execute` since the record button was touched.
-/

namespace SoundBoard.Tasks

open SoundBoard.Lib

/-- The first entries of a recording, expanded to one song number for each tick. -/
def recorded (recordingPlaylist : Nat → Recording) (count : Nat) : List Int :=
  timeline (fun i => (recordingPlaylist i).songnummer) (fun i => (recordingPlaylist i).playticks)
    count

/-! ## What a trace says about a session -/

/-- A recording session as it is heard: whether it goes on, and the song numbers so far. -/
structure Session where
  active : Bool
  heard : List Int
  deriving DecidableEq, Repr

/-- The session after an event: it begins and ends with a touch of the record button, and hears
what `TaskKeyHandler` plays. -/
def Session.next (session : Session) : Event → Session
  | .toggle true => ⟨true, []⟩
  | .toggle false => { session with active := false }
  | .execute .keyHandler songnummer =>
    if session.active then { session with heard := session.heard ++ [songnummer] } else session
  | _ => session

/-- The session at the end of a trace. -/
def session (trace : List Event) : Session := trace.foldl .next ⟨false, []⟩

/-- Whether the current iteration of `TaskKeyHandler` has taken a song number from a touch. -/
def pressedNext (pressed : Bool) : Event → Bool
  | .iteration => false
  | .touched _ => true
  | _ => pressed

/-- Whether the iteration at the end of a trace has taken one. -/
def pressed (trace : List Event) : Bool := trace.foldl pressedNext false

/-- An event of another task than `TaskKeyHandler`. -/
def Event.Other (event : Event) : Prop :=
  (∃ songnummer, event = .start .readSD songnummer) ∨
    ∃ songnummer, event = .execute .playRecording songnummer

/-- Other tasks do not take part in a session. -/
theorem session_other {events : List Event} (other : ∀ event ∈ events, event.Other)
    (trace : List Event) :
    session (trace ++ events) = session trace ∧ pressed (trace ++ events) = pressed trace := by
  simp only [session, pressed, List.foldl_append]
  induction events generalizing trace with
  | nil => exact ⟨rfl, rfl⟩
  | cons event events ih =>
    have rest := ih (fun later inside => other later (List.mem_cons_of_mem _ inside)) trace
    rcases other event List.mem_cons_self with ⟨songnummer, rfl⟩ | ⟨songnummer, rfl⟩ <;>
      exact rest

/-! ## What is recorded -/

/-- In a state of a run under a guard: outside presses the recording is what was heard, its
unused entries are zero, and no entry is written in an iteration without a touched button. -/
structure RecordingKept (guard : Sys → Act → Prop) (trace : List Event) (s : Sys) : Prop where
  describes : ∀ pc, s.keyHandler.pc? = some pc → pc.inPress = false →
    recorded s.shared.recordingPlaylist s.locals.count = (session trace).heard
  unused : ∀ i, s.locals.count ≤ i → i < maxRecording → s.shared.recordingPlaylist i = ⟨0, 0⟩
  pressed : ∀ act s' events, guard s act → system.step act s = some (s', events) →
    ∀ index entry, .record index entry ∈ events → pressed trace = true

/-- The recording is kept in every state of the runs under a guard. -/
def RecordsHeard (guard : Sys → Act → Prop) : Prop :=
  ∀ {x1 y1 : Nat} {trace : List Event} {s : Sys}, system.Run guard (.boot x1 y1) trace s →
    RecordingKept guard trace s

/-! ## The rule -/

/-- A press stays on one button, a session has at most `MAX_RECORDING` presses, and a listing
does not give a song to the button of a number left over from an earlier iteration. -/
def OneButton (s : Sys) : Act → Prop
  | .run .readSD _ => s.readSD.All fun pc => ∀ count, pc = .listEnd count →
      s.keyHandler.All fun pc => pc.inPress = false → ¬playable s.locals.songNummer count
  | .run .keyHandler _ => s.keyHandler.All fun pc =>
      (∀ x : Nat, pc = .loopY x → 0 < s.locals.ticks →
        getButtonId x s.shared.mtc2.y1 = s.locals.songNummer) ∧
      (pc = .afterLoop → s.shared.busyRecording = true → s.locals.count < maxRecording)
  | _ => True

/-- The number of songs at the end of a listing. -/
def ReadPc.listed : ReadPc → Option Nat
  | .listEnd count => some count
  | _ => none

/-- The first coordinate of a sample in the play loop. -/
def HandlerPc.sampled : HandlerPc → Option Nat
  | .loopY x => some x
  | _ => none

/-- Only the end of a listing gives a number. -/
theorem ReadPc.listed_eq_some (pc : ReadPc) (count : Nat) :
    pc.listed = some count ↔ pc = .listEnd count := by
  cases pc <;> simp [ReadPc.listed]

/-- Only a sample gives a coordinate. -/
theorem HandlerPc.sampled_eq_some (pc : HandlerPc) (x : Nat) :
    pc.sampled = some x ↔ pc = .loopY x := by
  cases pc <;> simp [HandlerPc.sampled]

instance (holds : Nat → Prop) [DecidablePred holds] (pc : ReadPc) :
    Decidable (∀ count, pc = .listEnd count → holds count) :=
  decidable_of_iff (∀ count ∈ pc.listed, holds count) (by simp [ReadPc.listed_eq_some])

instance (holds : Nat → Prop) [DecidablePred holds] (pc : HandlerPc) :
    Decidable (∀ x, pc = .loopY x → holds x) :=
  decidable_of_iff (∀ x ∈ pc.sampled, holds x) (by simp [HandlerPc.sampled_eq_some])

instance (s : Sys) : DecidablePred (OneButton s)
  | .run .readSD _ => inferInstanceAs (Decidable (s.readSD.All fun pc => ∀ count,
      pc = .listEnd count →
        s.keyHandler.All fun pc => pc.inPress = false → ¬playable s.locals.songNummer count))
  | .run .keyHandler _ => inferInstanceAs (Decidable (s.keyHandler.All fun pc =>
      (∀ x : Nat, pc = .loopY x → 0 < s.locals.ticks →
        getButtonId x s.shared.mtc2.y1 = s.locals.songNummer) ∧
      (pc = .afterLoop → s.shared.busyRecording = true → s.locals.count < maxRecording)))
  | .run .playRecording _ | .report _ | .keys _ | .tick _ => .isTrue trivial

/-! ## The invariant -/

/-- The ticks of a press that the recorder hears and has not written yet. -/
def HandlerPc.pending (busyRecording : Bool) (ticks : Nat) : HandlerPc → Nat
  | .execute _ | .stopPlaying | .loopKey _ => bif busyRecording then ticks + 1 else 0
  | .start _ | .loopTest | .loopReady | .loopX | .loopY _ | .executeCall | .afterLoop =>
    bif busyRecording then ticks else 0
  | _ => 0

/-- The recording with the press that is being played. -/
def Sys.soFar (s : Sys) (pc : HandlerPc) : List Int :=
  recorded s.shared.recordingPlaylist s.locals.count ++
    List.replicate (pc.pending s.shared.busyRecording s.locals.ticks) s.locals.songNummer

/-- A press follows a touch in its iteration, and a song number left over from an earlier
iteration does not start a song. -/
def HandlerPc.Fresh (pressed : Bool) (songNummer : Int) (nFileNum : Nat) : HandlerPc → Prop
  | .songCheck => pressed = true ∨ ¬playable songNummer nFileNum
  | .endPress => True
  | pc => if pc.inPress then pressed = true else ¬playable songNummer nFileNum

/-- What holds in every run that keeps to the rule. -/
structure Records (trace : List Event) (s : Sys) : Prop where
  active : (session trace).active = s.shared.busyRecording
  heard : s.keyHandler.All fun pc => s.soFar pc = (session trace).heard
  unused : ∀ i, s.locals.count ≤ i → i < maxRecording → s.shared.recordingPlaylist i = ⟨0, 0⟩
  nonneg : 0 ≤ s.locals.songNummer
  fresh : s.keyHandler.All fun pc =>
    pc.Fresh (pressed trace) s.locals.songNummer s.shared.nFileNum

/-! ## Steps of the recorder -/

/-- An entry written behind the used ones lengthens the recording by its ticks. -/
theorem recorded_update (recordingPlaylist : Nat → Recording) (count : Nat) (entry : Recording) :
    recorded (Function.update recordingPlaylist count entry) (count + 1) =
      recorded recordingPlaylist count ++ List.replicate entry.playticks entry.songnummer := by
  have before : recorded (Function.update recordingPlaylist count entry) count =
      recorded recordingPlaylist count :=
    timeline_congr (fun i inside => by rw [Function.update_of_ne (by omega)])
      fun i inside => by rw [Function.update_of_ne (by omega)]
  simp only [recorded, timeline, Function.update_self]
  rw [← recorded, before, recorded]

/-- A step of `TaskKeyHandler` that stays on its button keeps the recording, with the press that
is being played, equal to what is heard. -/
theorem taskKeyHandler_soFar {s : Sys} {pc : HandlerPc} {session : Session} (answer : Answer)
    (active : session.active = s.shared.busyRecording) (heard : s.soFar pc = session.heard)
    (button : ∀ x : Nat, pc = .loopY x → 0 < s.locals.ticks →
      getButtonId x s.shared.mtc2.y1 = s.locals.songNummer) :
    (taskKeyHandler answer s.locals s.shared pc).task.All fun pc' =>
      (s.keyHandlerNext (taskKeyHandler answer s.locals s.shared pc)).soFar pc' =
        ((taskKeyHandler answer s.locals s.shared pc).events.foldl .next session).heard := by
  simp only [Sys.soFar, Sys.keyHandlerNext] at heard ⊢
  cases pc with
  | start pc =>
    obtain ⟨_, _, same⟩ := waveplayStart_shared answer s.shared pc
    refine Sub.all_task _ (fun _ => ?_) (fun _ => ?_) <;>
      simpa [taskKeyHandler, same, HandlerPc.pending] using heard
  | execute pc =>
    obtain ⟨_, _, same⟩ := waveplayExecute_shared answer s.shared pc
    refine Sub.all_task _ (fun _ => ?_) (fun ok => ?_)
    · simpa [taskKeyHandler, same, HandlerPc.pending] using heard
    · cases ok <;> simpa [taskKeyHandler, same, HandlerPc.pending] using heard
  | key pc =>
    obtain ⟨_, _, _, _, same⟩ := handleKey_shared answer s.shared pc
    refine Sub.all_task _ (fun _ => ?_) (fun _ => ?_) <;>
      simpa [taskKeyHandler, same, HandlerPc.pending] using heard
  | loopKey pc =>
    obtain ⟨_, _, _, _, same⟩ := handleKey_shared answer s.shared pc
    cases call : handleKey answer s.shared pc with
    | mk sub shared =>
      rw [call] at same
      simp only at same
      subst same
      cases sub <;> simpa [taskKeyHandler, call, Sub.task, HandlerPc.pending] using heard
  | loopY x =>
    by_cases first : s.locals.ticks = 0
    · simpa [taskKeyHandler, HandlerPc.pending, first] using heard
    · simpa [taskKeyHandler, HandlerPc.pending, button x rfl (Nat.pos_of_ne_zero first)]
        using heard
  | executeCall =>
    cases busy : s.shared.busyRecording with
    | false => simpa [taskKeyHandler, HandlerPc.pending, Session.next, active, busy] using heard
    | true =>
      rw [busy] at heard active
      simp only [HandlerPc.pending, cond_true] at heard
      simp [taskKeyHandler, HandlerPc.pending, Session.next, active, busy, ← heard,
        List.replicate_succ']
  | afterLoop =>
    cases busy : s.shared.busyRecording with
    | false => simpa [taskKeyHandler, HandlerPc.pending, busy] using heard
    | true =>
      rw [busy] at heard
      simp only [HandlerPc.pending, cond_true] at heard
      simp [taskKeyHandler, HandlerPc.pending, busy, ← heard, recorded_update, Session.next]
  | toggle =>
    cases busy : s.shared.busyRecording with
    | false =>
      simp [taskKeyHandler, HandlerPc.pending, busy, Session.next, recorded, timeline]
    | true =>
      simpa [taskKeyHandler, HandlerPc.pending, busy, Session.next, Shared.toggleRecording]
        using heard
  | head | touch | recordY | recordTouch | playY | playTouch | playFlag | songCheck | loopTest
  | loopReady =>
    simp only [taskKeyHandler]
    split <;> simpa [HandlerPc.pending, Session.next] using heard
  | _ => simpa [taskKeyHandler, HandlerPc.pending, Session.next] using heard

/-- A step of `TaskKeyHandler` starts no song with a number left over from an earlier
iteration. -/
theorem taskKeyHandler_fresh {pc : HandlerPc} {locals : Locals} {shared : Shared}
    {pressed : Bool} (answer : Answer)
    (fresh : pc.Fresh pressed locals.songNummer shared.nFileNum) :
    (taskKeyHandler answer locals shared pc).task.All fun pc' =>
      pc'.Fresh ((taskKeyHandler answer locals shared pc).events.foldl pressedNext pressed)
        (taskKeyHandler answer locals shared pc).locals.songNummer shared.nFileNum := by
  rw [taskKeyHandler_songNummer]
  cases pc with
  | start pc =>
    refine Sub.all_task _ (fun _ => ?_) (fun _ => ?_) <;>
      simpa [taskKeyHandler, HandlerPc.Fresh, HandlerPc.inPress, HandlerPc.songNummer] using fresh
  | execute pc =>
    refine Sub.all_task _ (fun _ => ?_) (fun ok => ?_)
    · simpa [taskKeyHandler, HandlerPc.Fresh, HandlerPc.inPress, HandlerPc.songNummer] using fresh
    · cases ok <;> simpa [taskKeyHandler, HandlerPc.Fresh, HandlerPc.inPress, HandlerPc.songNummer] using fresh
  | key pc =>
    refine Sub.all_task _ (fun _ => ?_) (fun _ => ?_) <;>
      simpa [taskKeyHandler, HandlerPc.Fresh, HandlerPc.inPress, HandlerPc.songNummer] using fresh
  | loopKey pc =>
    cases call : handleKey answer shared pc with
    | mk sub shared =>
      cases sub <;>
        simpa [taskKeyHandler, call, Sub.task, HandlerPc.Fresh, HandlerPc.inPress, HandlerPc.songNummer] using fresh
  | songCheck =>
    by_cases song : playable locals.songNummer shared.nFileNum
    · have touched : pressed = true := fresh.resolve_right (not_not_intro song)
      simp [taskKeyHandler, song, HandlerPc.Fresh, HandlerPc.inPress, HandlerPc.songNummer, touched]
    · simp [taskKeyHandler, song, HandlerPc.Fresh, HandlerPc.inPress, HandlerPc.songNummer]
  | touchY x => simp [taskKeyHandler, HandlerPc.Fresh, pressedNext]
  | touch =>
    simp only [taskKeyHandler]
    split
    · simpa [HandlerPc.Fresh, HandlerPc.inPress, HandlerPc.songNummer] using fresh
    · exact (Task.all_ready _ _).mpr (.inr fresh)
  | createRead => exact (Task.all_ready _ _).mpr (.inr fresh)
  | afterLoop =>
    simp only [taskKeyHandler]
    split <;> exact (Task.all_ready _ _).mpr trivial
  | endPress => simp [taskKeyHandler, HandlerPc.Fresh, HandlerPc.inPress, HandlerPc.songNummer, playable]
  | head | recordY | recordTouch | playY | playTouch | playFlag | loopTest | loopReady =>
    simp only [taskKeyHandler]
    split <;> simpa [HandlerPc.Fresh, HandlerPc.inPress, HandlerPc.songNummer] using fresh
  | _ => simpa [taskKeyHandler, HandlerPc.Fresh, HandlerPc.inPress, HandlerPc.songNummer, pressedNext] using fresh

/-- Whether a session goes on is the recorder's flag. -/
theorem taskKeyHandler_active {pc : HandlerPc} {locals : Locals} {shared : Shared}
    {session : Session} (answer : Answer) (active : session.active = shared.busyRecording) :
    ((taskKeyHandler answer locals shared pc).events.foldl .next session).active =
      pc.busyRecording shared := by
  cases pc with
  | toggle =>
    cases busy : shared.busyRecording <;>
      simp [taskKeyHandler, HandlerPc.busyRecording, Session.next, busy]
  | executeCall =>
    cases on : session.active <;>
      simp [taskKeyHandler, HandlerPc.busyRecording, Session.next, on, ← active]
  | loopKey | afterLoop =>
    simp only [taskKeyHandler]
    split <;> exact active
  | _ => exact active

/-- A step of `TaskKeyHandler` that keeps to the rule. -/
theorem Records.keyHandler {trace : List Event} {s : Sys} {pc : HandlerPc}
    (before : Records trace s) (answer : Answer) (ready : s.keyHandler = .ready pc)
    (rule : OneButton s (.run .keyHandler answer)) :
    Records (trace ++ (taskKeyHandler answer s.locals s.shared pc).events)
      (s.keyHandlerNext (taskKeyHandler answer s.locals s.shared pc)) := by
  obtain ⟨active, heard, unused, nonneg, fresh⟩ := before
  simp only [OneButton, ready, Task.all_ready] at rule heard fresh
  have song := taskKeyHandler_songNummer answer s.shared s.locals pc
  have count := taskKeyHandler_count answer s.shared s.locals pc
  have soFar := taskKeyHandler_soFar answer active heard rule.1
  have fresh := taskKeyHandler_fresh answer fresh
  have active : ((taskKeyHandler answer s.locals s.shared pc).events.foldl .next
      (session trace)).active = pc.busyRecording s.shared := taskKeyHandler_active answer active
  obtain ⟨_, _, _, _, _, _, _, _, same⟩ := taskKeyHandler_shared answer s.shared s.locals pc
  refine ⟨?_, ?_, fun i behind inside => ?_, ?_, ?_⟩
  · rw [session, List.foldl_append, ← session, active]
    simp only [Sys.keyHandlerNext, same]
  · rw [session, List.foldl_append, ← session]
    exact soFar
  · simp only [Sys.keyHandlerNext, count, same] at behind ⊢
    cases pc with
    | afterLoop =>
      cases busy : s.shared.busyRecording with
      | false =>
        simp only [HandlerPc.count, busy, cond_false] at behind
        simpa [HandlerPc.recordingPlaylist, busy] using unused i behind inside
      | true =>
        simp only [HandlerPc.count, busy, cond_true] at behind
        have apart : i ≠ s.locals.count := by omega
        simpa [HandlerPc.recordingPlaylist, busy, Function.update_of_ne apart] using
          unused i (by omega) inside
    | toggle =>
      cases busy : s.shared.busyRecording with
      | false => simp [HandlerPc.recordingPlaylist, Shared.toggleRecording, busy, inside]
      | true =>
        simp only [HandlerPc.count, busy, cond_true] at behind
        simpa [HandlerPc.recordingPlaylist, Shared.toggleRecording, busy] using
          unused i behind inside
    | _ => exact unused i behind inside
  · simp only [Sys.keyHandlerNext, song]
    exact pc.songNummer_nonneg _ nonneg
  · rw [pressed, List.foldl_append, ← pressed]
    simp only [Sys.keyHandlerNext, same]
    exact fresh

/-- A new number of songs keeps song numbers fresh when it makes no number playable outside a
press. -/
theorem HandlerPc.Fresh.renumber {pc : HandlerPc} {pressed : Bool} {songNummer : Int}
    {nFileNum nFileNum' : Nat} (fresh : pc.Fresh pressed songNummer nFileNum)
    (outside : pc.inPress = false → ¬playable songNummer nFileNum') :
    pc.Fresh pressed songNummer nFileNum' := by
  cases pc with
  | songCheck => exact .inr (outside rfl)
  | endPress => trivial
  | _ => simp_all [HandlerPc.Fresh, HandlerPc.inPress]

/-- A step of `TaskReadSD` that keeps to the rule. -/
theorem Records.readSD {trace : List Event} {s : Sys} {pc : ReadPc} (before : Records trace s)
    (answer : Answer) (ready : s.readSD = .ready pc)
    (rule : OneButton s (.run .readSD answer)) :
    Records (trace ++ (taskReadSD answer s.shared pc).events)
      (s.readSDNext (taskReadSD answer s.shared pc)) := by
  obtain ⟨active, heard, unused, nonneg, fresh⟩ := before
  simp only [OneButton, ready, Task.all_ready] at rule
  have starts : ∀ event ∈ (taskReadSD answer s.shared pc).events, event.Other := by
    intro event emitted
    obtain ⟨count, same⟩ := taskReadSD_events answer s.shared pc event emitted
    exact .inl ⟨count, same⟩
  obtain ⟨sameSession, samePressed⟩ := session_other starts trace
  obtain ⟨_, _, _, _, same⟩ := taskReadSD_shared answer s.shared pc
  refine ⟨?_, ?_, ?_, nonneg, ?_⟩
  · rw [sameSession, active]
    simp only [Sys.readSDNext, same]
  · rw [sameSession]
    simpa only [Sys.soFar, Sys.readSDNext, same] using heard
  · simpa only [Sys.readSDNext, same] using unused
  · rw [samePressed]
    simp only [Sys.readSDNext, same]
    intro pc' here
    cases pc with
    | listBegin =>
      exact (fresh pc' here).renumber fun _ song => absurd song.1 (Int.not_lt.mpr nonneg)
    | listEnd count => exact (fresh pc' here).renumber (rule count rfl pc' here)
    | _ => exact fresh pc' here

/-- A step of `TaskPlayRecording`. -/
theorem Records.playRecording {trace : List Event} {s : Sys} {pc : PlayPc}
    (before : Records trace s) (answer : Answer) :
    Records (trace ++ (taskPlayRecording answer s.shared pc).events)
      (s.playRecordingNext (taskPlayRecording answer s.shared pc)) := by
  obtain ⟨active, heard, unused, nonneg, fresh⟩ := before
  have executes : ∀ event ∈ (taskPlayRecording answer s.shared pc).events, event.Other := by
    intro event emitted
    obtain ⟨i, j, _, same⟩ := taskPlayRecording_events answer s.shared pc event emitted
    exact .inr ⟨_, same⟩
  obtain ⟨sameSession, samePressed⟩ := session_other executes trace
  obtain ⟨_, _, _, _, _, _, _, _, same⟩ := taskPlayRecording_shared answer s.shared pc
  refine ⟨?_, ?_, ?_, nonneg, ?_⟩
  · rw [sameSession, active]
    simp only [Sys.playRecordingNext, same]
  · rw [sameSession]
    simpa only [Sys.soFar, Sys.playRecordingNext, same] using heard
  · simpa only [Sys.playRecordingNext, same] using unused
  · rw [samePressed]
    simpa only [Sys.playRecordingNext, same] using fresh

/-- Every state of a run that keeps to the rule has its recording in order. -/
theorem Records.run {x1 y1 : Nat} {trace : List Event} {s : Sys}
    (run : system.Run OneButton (.boot x1 y1) trace s) : Records trace s := by
  refine run.invariant Records ?_ ?_
  · refine ⟨rfl, ?_, fun _ _ _ => rfl, Int.natCast_nonneg 111, ?_⟩
    · exact (Task.all_ready _ _).mpr rfl
    · exact (Task.all_ready _ _).mpr fun song => song.2 rfl
  · intro trace s act s' events before rule step
    cases Sys.step_cases step with
    | report touch | keys button =>
      rw [List.append_nil]
      exact { before with }
    | wakeReadSD asleep | wakePlayRecording asleep =>
      rw [List.append_nil]
      exact { before with }
    | wakeKeyHandler asleep =>
      rw [List.append_nil]
      have heard := before.heard
      have fresh := before.fresh
      rw [asleep, Task.all_asleep] at heard fresh
      exact { before with
        heard := (Task.all_ready _ _).mpr heard, fresh := (Task.all_ready _ _).mpr fresh }
    | readSD answer ready => exact before.readSD answer ready rule
    | playRecording answer ready first => exact before.playRecording answer
    | keyHandler answer ready first second => exact before.keyHandler answer ready rule

/-- Outside a press nothing is pending. -/
theorem HandlerPc.pending_outside {pc : HandlerPc} (outside : pc.inPress = false)
    (busyRecording : Bool) (ticks : Nat) : pc.pending busyRecording ticks = 0 := by
  cases pc <;> first | rfl | contradiction

/-- In every run that keeps to the rule, the recording is what was heard. -/
theorem recordsHeard_oneButton {x1 y1 : Nat} {trace : List Event} {s : Sys}
    (run : system.Run OneButton (.boot x1 y1) trace s) : RecordingKept OneButton trace s where
  describes pc here outside := by
    have soFar := (Records.run run).heard pc here
    simpa [Sys.soFar, HandlerPc.pending_outside outside] using soFar
  unused := (Records.run run).unused
  pressed act s' events rule step index entry emitted := by
    have fresh := (Records.run run).fresh
    cases Sys.step_cases step with
    | report | keys | wakeReadSD | wakePlayRecording | wakeKeyHandler =>
      exact absurd emitted List.not_mem_nil
    | readSD answer ready =>
      obtain ⟨_, other⟩ := taskReadSD_events answer s.shared _ _ emitted
      contradiction
    | playRecording answer ready first =>
      obtain ⟨_, _, _, other⟩ := taskPlayRecording_events answer s.shared _ _ emitted
      contradiction
    | @keyHandler pc answer ready first second =>
      rw [ready, Task.all_ready] at fresh
      cases pc with
      | afterLoop => exact fresh
      | head | touchY | startCall | executeCall | toggle => simp [taskKeyHandler] at emitted
      | loopKey pc =>
        simp only [taskKeyHandler] at emitted
        split at emitted <;> exact absurd emitted List.not_mem_nil
      | _ => exact absurd emitted List.not_mem_nil

/-- On a card with two songs, in a recording session, the finger presses the first button for
two ticks and is lifted. -/
def holdButton : List Act :=
  insertCard 2 ++ firstIteration ++ touchRecord ++ pressButton ⟨1, 50, 50⟩ ++ playPass ++
    playPass ++ [.report ⟨0, 50, 50⟩] ++ runs .keyHandler 3

/-- The press is recorded as two ticks of the first song. -/
theorem recordsHeard_oneButton_hold : ∃ trace s, system.Run OneButton (.boot 0 0) trace s ∧
    recorded s.shared.recordingPlaylist s.locals.count = [0, 0] ∧
      RecordingKept OneButton trace s := by
  have steps : (system.execWithin OneButton holdButton [] (.boot 0 0)).map
      (fun run => recorded run.2.shared.recordingPlaylist run.2.locals.count) = some [0, 0] := by
    decide +kernel
  obtain ⟨⟨trace, s⟩, steps, written⟩ := Option.map_eq_some_iff.mp steps
  have run := Machine.Run.nil.execWithin steps
  exact ⟨trace, s, run, written, recordsHeard_oneButton run⟩

/-! ## A finger that slides from one button to another -/

/-- On a card with two songs, in a recording session, the finger presses the first button for
one tick, slides to the second for one tick, and is lifted. -/
def slideOver : List Act :=
  insertCard 2 ++ firstIteration ++ touchRecord ++ pressButton ⟨1, 50, 50⟩ ++ playPass ++
    [.report ⟨1, 180, 50⟩] ++ playPass ++ [.report ⟨0, 180, 50⟩] ++ runs .keyHandler 3

/-- The slide is recorded as two ticks of the second song. -/
theorem slideOver_recorded : (system.exec slideOver [] (.boot 0 0)).map
    (fun run => (run.2.keyHandler.pc?, recorded run.2.shared.recordingPlaylist run.2.locals.count,
      (session run.1).heard)) = some (some .recordX, [1, 1], [0, 1]) := by decide +kernel

/-- Without the rule, a recording can differ from what was heard. -/
theorem not_recordsHeard_free : ¬RecordsHeard Machine.Free := by
  intro records
  obtain ⟨⟨trace, s⟩, steps, same⟩ := Option.map_eq_some_iff.mp slideOver_recorded
  simp only [Prod.mk.injEq] at same
  obtain ⟨here, written, heard⟩ := same
  have describes := (records (Machine.Run.nil.exec steps)).describes _ here rfl
  rw [written, heard] at describes
  contradiction

end SoundBoard.Tasks
