import SoundBoard.Tasks.Exclusive

/-!
# The control buttons

What is drawn over the record and the play button, and what a touch of them does. The labels
are drawn by all three tasks; the reactions of `TaskKeyHandler` depend on `songRecording`,
`playingRecording` and its own hit boxes. The rule `TouchesShown` says for which touches, and
for which removals of the card, the two agree.
-/

namespace SoundBoard.Tasks

open SoundBoard.Lib

/-! ## The property -/

/-- Strictly inside the box that `drawRecord` and `drawRecording` draw. -/
def inRecordBox (x y : Nat) : Bool := 130 < x ∧ x < 400 ∧ 420 < y ∧ y < 460

/-- Strictly inside the box that `drawPlay` and `drawStop` draw. -/
def inPlayBox (x y : Nat) : Bool := 430 < x ∧ x < 560 ∧ 420 < y ∧ y < 460

/-- What a poll of the control buttons owes to the screen. A touch inside the record box goes on
to toggle the recording exactly when the box is shown; one inside the play box goes on to start
a replay exactly when PLAY is shown. -/
def HandlerPc.Responds (s s' : Sys) : HandlerPc → Prop
  | .recordY x => inRecordBox x s.shared.mtc2.y1 = true → s.shared.mtc2.touchNum ≠ 0 →
      (s'.keyHandler = .ready .recordTouch ↔ s.shared.recordBox ≠ .blank)
  | .recordTouch => s.shared.mtc2.touchNum ≠ 0 →
      (s'.keyHandler = .asleep .toggle ↔ s.shared.recordBox ≠ .blank)
  | .toggle => s'.shared.busyRecording = !s.shared.busyRecording
  | .playY x => inPlayBox x s.shared.mtc2.y1 = true → s'.keyHandler = .ready .playTouch
  | .playTouch => s.shared.mtc2.touchNum ≠ 0 → s.shared.playBox = .play →
      s'.keyHandler = .ready .playFlag
  | .playFlag => s'.keyHandler = .asleep .createPlay ↔ s.shared.playBox = .play
  | .createPlay => s'.playRecording = .ready .begin
  | _ => True

/-- In the runs under a guard, the control buttons respond exactly when they are shown. -/
def ControlsRespond (guard : Sys → Act → Prop) : Prop :=
  ∀ {x1 y1 : Nat} {trace events : List Event} {s s' : Sys} {answer : Answer} {pc : HandlerPc},
    system.Run guard (.boot x1 y1) trace s → guard s (.run .keyHandler answer) →
    system.step (.run .keyHandler answer) s = some (s', events) → s.keyHandler = .ready pc →
    pc.Responds s s'

/-! ## The rule -/

/-- A card is looked for only when none is ready and there is no recording; the record button is
touched only while a card is ready, left of its hit box's edge and outside replays; and a touch
of the stop button is not polled again when the replay has taken it. -/
def HandlerPc.TouchesShown (s : Sys) : HandlerPc → Prop
  | .createRead => s.readSD = .absent →
      s.shared.bSdacrdReady = false ∧ s.shared.songRecording = false
  | .recordY x => inRecordBox x s.shared.mtc2.y1 = true → s.shared.mtc2.touchNum ≠ 0 →
      x < 360 ∧ s.shared.bSdacrdReady = true
  | .recordTouch => s.shared.mtc2.touchNum ≠ 0 →
      s.shared.bSdacrdReady = true ∧ s.playRecording = .absent
  | .playFlag => s.playRecording = .absent ∨ s.shared.playingRecording = true
  | _ => True

/-- A step after which the control buttons still show what they do. -/
def TouchesShown (s : Sys) : Act → Prop
  | .run .keyHandler _ => s.keyHandler.All fun pc => pc.TouchesShown s
  | _ => True

instance (s : Sys) : DecidablePred (HandlerPc.TouchesShown s)
  | .createRead => inferInstanceAs (Decidable (s.readSD = .absent →
      s.shared.bSdacrdReady = false ∧ s.shared.songRecording = false))
  | .recordY x => inferInstanceAs (Decidable (inRecordBox x s.shared.mtc2.y1 = true →
      s.shared.mtc2.touchNum ≠ 0 → x < 360 ∧ s.shared.bSdacrdReady = true))
  | .recordTouch => inferInstanceAs (Decidable (s.shared.mtc2.touchNum ≠ 0 →
      s.shared.bSdacrdReady = true ∧ s.playRecording = .absent))
  | .playFlag => inferInstanceAs (Decidable
    (s.playRecording = .absent ∨ s.shared.playingRecording = true))
  | .head | .touch | .touchX | .touchY _ | .songCheck | .startCall | .start _ | .loopTest
  | .loopReady | .loopX | .loopY _ | .executeCall | .execute _ | .stopPlaying | .loopKey _
  | .afterLoop | .endPress | .recordX | .toggle | .playX | .playY _ | .playTouch | .createPlay
  | .key _ | .delay => .isTrue trivial

instance (s : Sys) : DecidablePred (TouchesShown s)
  | .run .keyHandler _ =>
    inferInstanceAs (Decidable (s.keyHandler.All fun pc => pc.TouchesShown s))
  | .run .readSD _ | .run .playRecording _ | .report _ | .keys _ | .tick _ => .isTrue trivial

/-! ## What the other tasks draw -/

/-- `TaskReadSD` has not come to its end. -/
def ReadPc.working : ReadPc → Bool
  | .finish => false
  | _ => true

variable (answer : Answer) (shared : Shared)

/-- `TaskReadSD` may paint over the play button, and shows the record button when the card is
ready. -/
theorem taskReadSD_shows (pc : ReadPc) :
    ((taskReadSD answer shared pc).shared.playBox = shared.playBox ∨
      (taskReadSD answer shared pc).shared.playBox = .blank) ∧
    (pc = .cardReady → (taskReadSD answer shared pc).shared.recordBox = .record) := by
  cases pc with
  | listStart count pc =>
    obtain ⟨_, _, same⟩ := waveplayStart_shared answer shared pc
    exact ⟨.inl ((congrArg Shared.playBox same).trans rfl), ReadPc.noConfusion⟩
  | insertInit first =>
    refine ⟨?_, ReadPc.noConfusion⟩
    simp only [taskReadSD]
    split
    · exact .inl rfl
    · split
      · exact .inr rfl
      · cases first
        · exact .inl rfl
        · exact .inr rfl
  | mountInit nTry =>
    refine ⟨.inl ?_, ReadPc.noConfusion⟩
    simp only [taskReadSD]
    split
    · rfl
    · split
      · rfl
      · split <;> rfl
  | mountRead =>
    refine ⟨.inl ?_, ReadPc.noConfusion⟩
    simp only [taskReadSD]
    split <;> rfl
  | listNext count =>
    refine ⟨.inl ?_, ReadPc.noConfusion⟩
    simp only [taskReadSD]
    split <;> rfl
  | cardReady => exact ⟨.inl rfl, fun _ => rfl⟩
  | drawBlank | mountFail | noFiles => exact ⟨.inr rfl, ReadPc.noConfusion⟩
  | _ => exact ⟨.inl rfl, ReadPc.noConfusion⟩

/-- `TaskReadSD` ends at its end. -/
theorem taskReadSD_working (pc : ReadPc) :
    (taskReadSD answer shared pc).task.All fun pc' => pc'.working = true →
      pc.working = true ∧ pc ≠ .cardReady := by
  cases pc with
  | cardReady | noFiles | finish => simp [taskReadSD, ReadPc.working]
  | _ => exact fun _ _ _ => ⟨rfl, ReadPc.noConfusion⟩

/-- The play button after a step of `TaskPlayRecording`. -/
def PlayPc.playBox (before : PlayBox) : PlayPc → PlayBox
  | .begin => .stop
  | .finish => .play
  | _ => before

/-- `TaskPlayRecording` shows STOP when it begins and PLAY when it ends. -/
theorem taskPlayRecording_shows (pc : PlayPc) :
    (taskPlayRecording answer shared pc).shared.playBox = pc.playBox shared.playBox := by
  cases pc with
  | execute i j pc =>
    obtain ⟨_, _, same⟩ := waveplayExecute_shared answer shared pc
    exact (congrArg Shared.playBox same).trans rfl
  | key i j pc =>
    obtain ⟨_, _, _, _, same⟩ := handleKey_shared answer shared pc
    exact (congrArg Shared.playBox same).trans rfl
  | forJ i j =>
    simp only [taskPlayRecording]
    split <;> rfl
  | pollY i j x | pollEntryY i x =>
    obtain ⟨_, same⟩ := pollStop_shared shared x
    simp only [taskPlayRecording, same, PlayPc.playBox]
  | _ => rfl

/-- `TaskPlayRecording` does not come to its beginning again, and leaves its loop with the
playing flag cleared. -/
theorem taskPlayRecording_ends (pc : PlayPc) :
    ((taskPlayRecording answer shared pc).task.All fun pc' => pc' ≠ .begin ∧
      (pc' = .finish → (taskPlayRecording answer shared pc).shared.playingRecording = false)) ∧
    ((taskPlayRecording answer shared pc).task = .absent → pc = .finish) := by
  cases pc with
  | execute i j pc =>
    simp only [taskPlayRecording]
    refine ⟨?_, ?_⟩
    · apply Sub.all_task <;> simp
    · cases (waveplayExecute answer shared pc).1 <;> simp [Sub.task]
  | key i j pc =>
    simp only [taskPlayRecording]
    refine ⟨?_, ?_⟩
    · apply Sub.all_task <;> simp
    · cases (handleKey answer shared pc).1 <;> simp [Sub.task]
  | whileTest =>
    cases playing : shared.playingRecording <;> simp [taskPlayRecording, playing]
  | forI i =>
    simp only [taskPlayRecording]
    split <;> simp
  | forJ i j =>
    simp only [taskPlayRecording]
    split <;> simp
  | _ => simp [taskPlayRecording]

/-! ## The invariant -/

/-- The states of runs that keep to the rule: a ready card comes with a record button, a recording
with PLAY outside replays and with STOP inside them. -/
structure Shown (s : Sys) : Prop where
  ready : s.shared.bSdacrdReady = true → s.shared.recordBox ≠ .blank
  reading : s.readSD.All fun pc => pc.working = true →
    s.shared.bSdacrdReady = false ∧ s.shared.songRecording = false ∧
      s.keyHandler.All fun pc => pc ≠ .toggle
  absent : s.playRecording = .absent → s.shared.playingRecording = false ∧
    (s.shared.playBox = .play ↔ s.shared.songRecording = true)
  present : s.playRecording.All fun pc => s.shared.songRecording = true ∧
    (s.keyHandler.All fun pc => pc ≠ .toggle) ∧ (pc ≠ .begin → s.shared.playBox = .stop) ∧
      (pc = .finish → s.shared.playingRecording = false)
  awake : s.playRecording ≠ .asleep .begin
  accepted : s.keyHandler.All fun pc => pc.accepted = true → s.shared.songRecording = true
  create : s.keyHandler.All fun pc => pc = .createPlay → s.playRecording = .absent

/-- After start-up nothing is shown, and there is nothing to do. -/
theorem Shown.boot (x1 y1 : Nat) : Shown (.boot x1 y1) := by
  constructor <;> simp [Sys.boot, Shared.boot, HandlerPc.accepted]

/-- A step of `TaskReadSD`. -/
theorem Shown.readSD {s : Sys} {pc : ReadPc} (before : Shown s) (answer : Answer)
    (ready : s.readSD = .ready pc) :
    Shown (s.readSDNext (taskReadSD answer s.shared pc)) := by
  have reading := before.reading
  rw [ready, Task.all_ready] at reading
  by_cases ends : pc = .finish
  · subst ends
    exact { before with reading := Task.all_absent _ }
  have works : pc.working = true := by
    cases pc with
    | finish => exact absurd rfl ends
    | _ => rfl
  obtain ⟨notReady, none, outside⟩ := reading works
  obtain ⟨box, listed⟩ := taskReadSD_shows answer s.shared pc
  have working := taskReadSD_working answer s.shared pc
  obtain ⟨_, _, _, _, same⟩ := taskReadSD_shared answer s.shared pc
  have ready' : (taskReadSD answer s.shared pc).shared.bSdacrdReady =
      pc.bSdacrdReady s.shared.bSdacrdReady := by rw [same]
  have recorded : (taskReadSD answer s.shared pc).shared.songRecording =
      s.shared.songRecording := by rw [same]
  have playing : (taskReadSD answer s.shared pc).shared.playingRecording =
      s.shared.playingRecording := by rw [same]
  have later (other : pc ≠ .cardReady) : pc.bSdacrdReady s.shared.bSdacrdReady = false := by
    cases pc with
    | cardReady => exact absurd rfl other
    | _ => exact notReady
  -- no replay can be running: there would be a recording
  have alone (play : PlayPc) (here : s.playRecording.pc? = some play) : False := by
    have exists_ := (before.present play here).1
    rw [none] at exists_
    contradiction
  constructor <;> simp only [Sys.readSDNext, ready', recorded, playing]
  · intro now
    by_cases lists : pc = .cardReady
    · rw [listed lists]
      decide
    · rw [later lists] at now
      contradiction
  · intro pc' here inside
    have other := (working pc' here inside).2
    exact ⟨later other, none, outside⟩
  · intro absent
    obtain ⟨rests, shows⟩ := before.absent absent
    apply And.intro rests
    rcases box with kept | blank
    · rw [kept]
      exact shows
    · rw [blank, none]
      decide
  · exact fun play here => (alone play here).elim
  · exact before.awake
  · exact before.accepted
  · exact before.create

/-- A step of `TaskPlayRecording`. -/
theorem Shown.playRecording {s : Sys} {pc : PlayPc} (before : Shown s) (answer : Answer)
    (ready : s.playRecording = .ready pc) :
    Shown (s.playRecordingNext (taskPlayRecording answer s.shared pc)) := by
  have present := before.present
  rw [ready, Task.all_ready] at present
  obtain ⟨exists_, outside, stops, finished⟩ := present
  have box := taskPlayRecording_shows answer s.shared pc
  obtain ⟨stays, ends⟩ := taskPlayRecording_ends answer s.shared pc
  obtain ⟨_, _, _, _, _, _, _, _, same⟩ := taskPlayRecording_shared answer s.shared pc
  have ready' : (taskPlayRecording answer s.shared pc).shared.bSdacrdReady =
      s.shared.bSdacrdReady := by rw [same]
  have record : (taskPlayRecording answer s.shared pc).shared.recordBox =
      s.shared.recordBox := by rw [same]
  have recorded : (taskPlayRecording answer s.shared pc).shared.songRecording =
      s.shared.songRecording := by rw [same]
  constructor <;> simp only [Sys.playRecordingNext, ready', record, recorded, box]
  · exact before.ready
  · exact before.reading
  · intro absent
    have at_ := ends absent
    subst at_
    apply And.intro (finished rfl)
    simp [PlayPc.playBox, exists_]
  · intro pc' here
    obtain ⟨begun, flag⟩ := stays pc' here
    refine ⟨exists_, outside, fun _ => ?_, flag⟩
    cases pc with
    | begin => rfl
    | finish => simp [taskPlayRecording, Task.pc?] at here
    | _ => exact stops PlayPc.noConfusion
  · intro asleep
    exact (stays .begin (by rw [asleep]; rfl)).1 rfl
  · exact before.accepted
  · intro handle here creates
    have absent := before.create handle here creates
    rw [ready] at absent
    contradiction

/-- A step of `TaskKeyHandler` leaves the control buttons as they are, but where it toggles. -/
theorem HandlerPc.controls_kept {shared : Shared} {pc : HandlerPc} (other : pc ≠ .toggle) :
    pc.controls shared = shared.controls := by
  cases pc with
  | toggle => exact absurd rfl other
  | _ => rfl

/-- What a touch of the record button shows. -/
theorem toggleRecording_shows (shared : Shared) :
    shared.toggleRecording.recordBox ≠ .blank ∧
      (shared.toggleRecording.playBox = .play ↔ shared.toggleRecording.songRecording = true) := by
  cases busy : shared.busyRecording <;> simp [Shared.toggleRecording, busy]

/-- A step of `TaskKeyHandler` that keeps to the rule. -/
theorem Shown.keyHandler {s : Sys} {pc : HandlerPc} (before : Shown s) (answer : Answer)
    (ready : s.keyHandler = .ready pc) (rule : pc.TouchesShown s) :
    Shown (s.keyHandlerNext (taskKeyHandler answer s.locals s.shared pc)) := by
  obtain ⟨shown, reading, absent, present, awake, accepted, create⟩ := before
  simp only [ready, Task.all_ready] at reading present accepted create
  have points := taskKeyHandler_controls answer s.shared s.locals pc
  have shows := taskKeyHandler_shows answer s.shared s.locals pc
  have creates := taskKeyHandler_create answer s.shared s.locals pc
  have readCases := Create.readSDTask_cases
    (taskKeyHandler answer s.locals s.shared pc).create s.readSD
  have playCases := Create.playRecordingTask_cases
    (taskKeyHandler answer s.locals s.shared pc).create s.playRecording
  obtain ⟨_, _, _, _, _, _, _, _, same⟩ := taskKeyHandler_shared answer s.shared s.locals pc
  have ready' : (taskKeyHandler answer s.locals s.shared pc).shared.bSdacrdReady =
      pc.bSdacrdReady s.shared.bSdacrdReady := by rw [same]
  have playing : (taskKeyHandler answer s.locals s.shared pc).shared.playingRecording =
      s.shared.playingRecording := by rw [same]
  have never (notReady : s.shared.bSdacrdReady = false) :
      pc.bSdacrdReady s.shared.bSdacrdReady = false := by
    cases pc with
    | stopPlaying => rfl
    | _ => exact notReady
  -- outside a touch of the record button the three components of the controls are kept
  have kept (other : pc ≠ .toggle) := shows.trans (HandlerPc.controls_kept other)
  simp only [Shared.controls, Prod.mk.injEq] at kept
  constructor <;> simp only [Sys.keyHandlerNext, ready', playing]
  · intro now
    by_cases toggles : pc = .toggle
    · subst toggles
      exact (toggleRecording_shows s.shared).1
    · rw [(kept toggles).2.1]
      apply shown
      cases known : s.shared.bSdacrdReady with
      | true => rfl
      | false =>
        rw [never known] at now
        contradiction
  · intro read here works
    rcases readCases with old | ⟨created, gone, _⟩
    · rw [old] at here
      obtain ⟨notReady, none, other⟩ := reading read here works
      rw [(kept other).1]
      refine ⟨never notReady, none, fun pc' next toggles => ?_⟩
      obtain ⟨rfl, touched⟩ := (points pc' next).2.1 toggles
      have now := (rule touched).1
      rw [notReady] at now
      contradiction
    · rw [created] at creates
      cases pc with
      | createRead =>
        obtain ⟨notReady, none⟩ := rule gone
        refine ⟨notReady, none, fun pc' next toggles => ?_⟩
        have from_ := ((points pc' next).2.1 toggles).1
        contradiction
      | _ => contradiction
  · intro gone
    rcases playCases with old | ⟨_, _, begun⟩
    · rw [old] at gone
      obtain ⟨rests, box⟩ := absent gone
      apply And.intro rests
      by_cases toggles : pc = .toggle
      · subst toggles
        exact (toggleRecording_shows s.shared).2
      · obtain ⟨recorded, _, same⟩ := kept toggles
        rw [recorded, same]
        exact box
    · rw [begun] at gone
      contradiction
  · intro play here
    rcases playCases with old | ⟨created, _, begun⟩
    · rw [old] at here
      obtain ⟨exists_, other, stops, finished⟩ := present play here
      obtain ⟨recorded, _, box⟩ := kept other
      rw [recorded, box]
      refine ⟨exists_, fun pc' next toggles => ?_, stops, finished⟩
      obtain ⟨rfl, touched⟩ := (points pc' next).2.1 toggles
      have gone := (rule touched).2
      rw [gone] at here
      contradiction
    · rw [begun] at here
      obtain rfl : PlayPc.begin = play := Option.some.inj here
      rw [created] at creates
      cases pc with
      | createPlay =>
        refine ⟨?_, fun pc' next toggles => ?_, fun other => absurd rfl other, PlayPc.noConfusion⟩
        · exact accepted rfl
        · have from_ := ((points pc' next).2.1 toggles).1
          contradiction
      | _ => contradiction
  · rcases playCases with old | ⟨_, _, begun⟩
    · rw [old]
      exact awake
    · rw [begun]
      simp
  · intro pc' next takes
    rcases (points pc' next).1 takes with already | ⟨rfl, recorded⟩
    · have other : pc ≠ .toggle := by
        rintro rfl
        contradiction
      rw [(kept other).1]
      exact accepted already
    · rw [(kept HandlerPc.noConfusion).1]
      exact recorded
  · intro pc' next begins
    obtain ⟨rfl, rests⟩ := (points pc' next).2.2 begins
    apply rule.resolve_right
    rw [rests]
    decide

/-- In every state of a run that keeps to the rule the control buttons show what they do. -/
theorem Shown.run {x1 y1 : Nat} {trace : List Event} {s : Sys}
    (run : system.Run TouchesShown (.boot x1 y1) trace s) : Shown s := by
  apply run.stateInvariant Shown (.boot x1 y1)
  intro s act s' events before rule step
  cases Sys.step_cases step with
  | report touch | keys button => exact { before with }
  | wakeReadSD asleep =>
    have reading := before.reading
    rw [asleep, Task.all_asleep] at reading
    exact { before with reading := (Task.all_ready _ _).mpr reading }
  | wakePlayRecording asleep =>
    obtain ⟨shown, reading, absent, present, awake, accepted, create⟩ := before
    simp only [asleep, Task.all_asleep] at present create
    refine ⟨shown, reading, by simp, (Task.all_ready _ _).mpr present, by simp, accepted, ?_⟩
    intro pc here creates
    have gone := create pc here creates
    contradiction
  | wakeKeyHandler asleep =>
    obtain ⟨shown, reading, absent, present, awake, accepted, create⟩ := before
    simp only [asleep, Task.all_asleep] at reading present accepted create
    refine ⟨shown, ?_, absent, ?_, awake, (Task.all_ready _ _).mpr accepted,
      (Task.all_ready _ _).mpr create⟩
    · simpa only [Task.all_ready] using reading
    · simpa only [Task.all_ready] using present
  | readSD answer ready => exact before.readSD answer ready
  | playRecording answer ready first => exact before.playRecording answer ready
  | keyHandler answer ready first second =>
    simp only [TouchesShown, ready, Task.all_ready] at rule
    exact before.keyHandler answer ready rule

/-! ## The runs that keep to the rule -/

/-- The hit box of the record button is the drawn box up to x = 360. -/
theorem recordTouched_of_inRecordBox {x y : Nat} (inside : inRecordBox x y = true)
    (left : x < 360) : recordTouched x y = true := by
  simp only [inRecordBox, recordTouched, decide_eq_true_eq] at inside ⊢
  omega

/-- The hit box of the play button is the drawn box. -/
theorem playTouched_of_inPlayBox {x y : Nat} (inside : inPlayBox x y = true) :
    playTouched x y = true := by
  simp only [inPlayBox, playTouched, decide_eq_true_eq] at inside ⊢
  omega

/-- A task that is not ready when `TaskKeyHandler` runs is absent or asleep. -/
theorem Task.rest_cases {pc : Type} {task : Task pc} (rests : task.readyPc = none) :
    task = .absent ∨ ∃ here, task = .asleep here := by
  cases task with
  | absent => exact .inl rfl
  | ready here => contradiction
  | asleep here => exact .inr ⟨here, rfl⟩

/-- Where a touch of the play button has been taken, a replay is begun exactly when PLAY is
shown. -/
theorem Shown.playFlag {s : Sys} (shown : Shown s) (ready : s.keyHandler = .ready .playFlag)
    (rests : s.playRecording.readyPc = none)
    (rule : s.playRecording = .absent ∨ s.shared.playingRecording = true) :
    s.shared.playingRecording = false ↔ s.shared.playBox = .play := by
  have accepted := shown.accepted
  rw [ready, Task.all_ready] at accepted
  rcases Task.rest_cases rests with gone | ⟨pc, asleep⟩
  · obtain ⟨stopped, box⟩ := shown.absent gone
    exact iff_of_true stopped (box.mpr (accepted rfl))
  · have playing := rule.resolve_left (by simp [asleep])
    have present := shown.present
    rw [asleep, Task.all_asleep] at present
    have begun : pc ≠ .begin := by
      rintro rfl
      exact shown.awake asleep
    rw [playing, present.2.2.1 begun]
    decide

/-- PLAY is shown when there is a recording. -/
theorem Shown.recorded {s : Sys} (shown : Shown s) (play : s.shared.playBox = .play) :
    s.shared.songRecording = true := by
  cases task : s.playRecording with
  | absent => exact (shown.absent task).2.mp play
  | ready pc | asleep pc => exact (shown.present pc (by rw [task]; rfl)).1

/-- In the runs that keep to the rule, a touch of a control button does what is shown. -/
theorem controls_respond {x1 y1 : Nat} {trace events : List Event} {s s' : Sys}
    {answer : Answer} {pc : HandlerPc} (run : system.Run TouchesShown (.boot x1 y1) trace s)
    (rule : TouchesShown s (.run .keyHandler answer))
    (step : system.step (.run .keyHandler answer) s = some (s', events))
    (ready : s.keyHandler = .ready pc) : pc.Responds s s' := by
  have shown := Shown.run run
  simp only [TouchesShown, ready, Task.all_ready] at rule
  cases Sys.step_cases step with
  | @keyHandler here _ at_ first second =>
    obtain rfl : pc = here := Task.ready.inj (ready.symm.trans at_)
    cases pc with
    | recordY x =>
      intro inside touched
      obtain ⟨left, card⟩ := rule inside touched
      have hit := recordTouched_of_inRecordBox inside left
      apply iff_of_true
      · simp [Sys.keyHandlerNext, taskKeyHandler, hit]
      · exact shown.ready card
    | recordTouch =>
      intro touched
      have card := (rule touched).1
      apply iff_of_true
      · simp [Sys.keyHandlerNext, taskKeyHandler, touched]
      · exact shown.ready card
    | toggle =>
      obtain ⟨_, _, _, _, _, _, _, _, same⟩ :=
        taskKeyHandler_shared answer s.shared s.locals .toggle
      show (taskKeyHandler answer s.locals s.shared .toggle).shared.busyRecording = _
      rw [same]
      rfl
    | playY x =>
      intro inside
      have hit := playTouched_of_inPlayBox inside
      simp [Sys.keyHandlerNext, taskKeyHandler, hit]
    | playTouch =>
      intro touched play
      have recorded := shown.recorded play
      simp [Sys.keyHandlerNext, taskKeyHandler, touched, recorded]
    | playFlag =>
      have begins := shown.playFlag ready second rule
      show _ ↔ s.shared.playBox = .play
      rw [← begins]
      cases playing : s.shared.playingRecording <;>
        simp [Sys.keyHandlerNext, taskKeyHandler, playing]
    | createPlay =>
      have create := shown.create
      rw [ready, Task.all_ready] at create
      have absent := create rfl
      show s.playRecording.create .begin = _
      rw [absent]
      rfl
    | _ => trivial

/-- A card with one song, a recording of one press, and a touch of the play button up to the test
of the playing flag. -/
def pressPlay : List Act :=
  insertCard 1 ++ firstIteration ++ recordPress ++ [.report ⟨1, 500, 440⟩, .tick .keyHandler] ++
    runs .keyHandler 10

/-- There PLAY is shown, and the next step begins a replay. -/
theorem controls_respond_play : ∃ trace s s' events,
    system.Run TouchesShown (.boot 0 0) trace s ∧
      system.step (.run .keyHandler .yes) s = some (s', events) ∧ s.shared.playBox = .play ∧
      s'.keyHandler = .asleep .createPlay := by
  have steps : (system.execWithin TouchesShown pressPlay [] (.boot 0 0)).bind (fun run =>
      (system.step (.run .keyHandler .yes) run.2).map fun _ =>
        (run.2.keyHandler.readyPc, run.2.shared.playBox,
          decide (TouchesShown run.2 (.run .keyHandler .yes)))) =
      some (some .playFlag, .play, true) := by decide +kernel
  obtain ⟨⟨trace, s⟩, steps, last⟩ := Option.bind_eq_some_iff.mp steps
  obtain ⟨⟨s', events⟩, step, same⟩ := Option.map_eq_some_iff.mp last
  simp only [Prod.mk.injEq] at same
  obtain ⟨here, play, meets⟩ := same
  have run := Machine.Run.nil.execWithin steps
  have begins := controls_respond run (of_decide_eq_true meets) step (Task.readyPc_cases here)
  exact ⟨trace, s, s', events, run, step, play, begins.mpr play⟩

/-! ## A touch without a card -/

/-- `TaskReadSD` waits for a card when the place of the record button is touched. -/
def touchBlank : List Act :=
  runs .keyHandler 2 ++ runs .readSD 2 ++ [.report ⟨1, 200, 440⟩] ++ runs .keyHandler 2

/-- Nothing is shown there, and the touch goes on to toggle. -/
theorem touchBlank_points : (system.exec touchBlank [] (.boot 0 0)).bind (fun run =>
      (system.step (.run .keyHandler .yes) run.2).map fun next =>
        (run.2.keyHandler.readyPc, run.2.shared.mtc2, run.2.shared.recordBox,
          next.1.keyHandler.readyPc)) =
    some (some (.recordY 200), ⟨1, 200, 440⟩, .blank, some .recordTouch) := by decide +kernel

/-- Without the rule, the record button responds when it is not shown. -/
theorem not_controlsRespond_free : ¬ControlsRespond Machine.Free := by
  intro respond
  obtain ⟨⟨trace, s⟩, steps, last⟩ := Option.bind_eq_some_iff.mp touchBlank_points
  obtain ⟨⟨s', events⟩, step, same⟩ := Option.map_eq_some_iff.mp last
  simp only [Prod.mk.injEq] at same
  obtain ⟨here, touch, blank, next⟩ := same
  have ready := Task.readyPc_cases here
  have responds := respond (Machine.Run.nil.exec steps) trivial step ready
  simp only [HandlerPc.Responds, touch] at responds
  have shown := (responds (by decide) (by decide)).mp (Task.readyPc_cases next)
  exact shown blank

end SoundBoard.Tasks
