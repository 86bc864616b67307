import SoundBoard.Audio.Settings
import SoundBoard.Tasks.Rates

/-!
# The codec of the task system, on the wires

The tasks write one register of the codec at a time, and any of them may run between two writes.
What their steps ask for, in the order of a run, is what the model of the tasks keeps as its codec.
A driver that does the same leaves a codec with these settings behind its bus.
-/

namespace SoundBoard.Audio

open SoundBoard.Lib SoundBoard.Lib.TwoWire SoundBoard.Tasks

variable {κ : Type} {slave : Slave κ} {driver : Driver κ} {frames : List (List Item)}

/-! ## Single registers -/

/-- A call that writes one register, or one side of `AUDIO_SetLineOutVol`. -/
inductive RegCall where
  | interfaceActive (bActive : Bool)
  | setSampleRate (sampleRate : AudioSampleRate)
  | lineOut (right : Bool) (vol : UInt16)
  deriving DecidableEq, Repr

/-- The register of a call. -/
def RegCall.regIndex : RegCall → UInt8
  | .interfaceActive _ => 9
  | .setSampleRate _ => 8
  | .lineOut right _ => if right then 3 else 2

/-- Its bits, from what `reg_file` has for it. -/
def RegCall.bits (control : UInt16) : RegCall → UInt16
  | .interfaceActive bActive => if bActive then 0x0001 else 0x0000
  | .setSampleRate sampleRate => (sampleRate.code <<< 2) ||| 0x02
  | .lineOut _ vol => volControl control vol

/-- Write it. -/
def RegCall.run (slave : Slave κ) (call : RegCall) (driver : Driver κ) : Bool × Driver κ :=
  aduioRegWrite slave call.regIndex (call.bits (driver.regFile call.regIndex.toNat)) driver

/-- `AUDIO_SetLineOutVol` writes one side and then the other. -/
theorem audioSetLineOutVol_eq (lVol rVol : UInt16) :
    audioSetLineOutVol slave lVol rVol driver =
      let left := (RegCall.lineOut false lVol).run slave driver
      if left.1 then (RegCall.lineOut true rVol).run slave left.2 else (false, left.2) := rfl

/-- Calls one after the other; whether all of them succeed. -/
def runRegs (slave : Slave κ) : List RegCall → Driver κ → Bool × Driver κ
  | [], driver => (true, driver)
  | call :: calls, driver =>
    let result := call.run slave driver
    let rest := runRegs slave calls result.2
    (result.1 && rest.1, rest.2)

/-- What a call asks for. -/
def tell (settings : Settings) : RegCall → Settings
  | .interfaceActive bActive => { settings with active := bActive }
  | .setSampleRate sampleRate => { settings with sampleRate := some sampleRate }
  | .lineOut right vol =>
    if right then { settings with rightVol := vol.toNat % 128 }
    else { settings with leftVol := vol.toNat % 128 }

/-- `reg_file` has the registers of all calls. -/
theorem RegCall.regIndex_le (call : RegCall) : call.regIndex ≤ 10 := by
  cases call with
  | interfaceActive bActive => exact show (9 : UInt8) ≤ 10 by decide
  | setSampleRate sampleRate => exact show (8 : UInt8) ≤ 10 by decide
  | lineOut right vol =>
    cases right with
    | false => exact show (2 : UInt8) ≤ 10 by decide
    | true => exact show (3 : UInt8) ≤ 10 by decide

/-- `reg_file` holds what the calls ask for, also where they fail. -/
theorem RegCall.run_settings (call : RegCall) :
    (call.run slave driver).2.settings = tell driver.settings call := by
  have file := aduioRegWrite_regFile slave driver call.regIndex_le
    (call.bits (driver.regFile call.regIndex.toNat))
  simp only [Driver.settings, settingsOf, RegCall.run, file]
  cases call with
  | interfaceActive bActive => cases bActive <;> simp [RegCall.regIndex, RegCall.bits, tell]
  | setSampleRate sampleRate =>
    have rate := rateOf_code sampleRate
    have register : (8 : UInt8).toNat = 8 := rfl
    simp only [RegCall.regIndex, RegCall.bits, tell, register, Nat.reduceEqDiff, if_true, if_false,
      rate]
  | lineOut right vol =>
    cases right <;> simp [RegCall.regIndex, RegCall.bits, tell, volControl_mod]

/-- Calls one after the other. -/
theorem runRegs_settings (calls : List RegCall) :
    (runRegs slave calls driver).2.settings = calls.foldl tell driver.settings := by
  induction calls generalizing driver with
  | nil => rfl
  | cons call calls ih =>
    have first : (call.run slave driver).2.settings = tell driver.settings call :=
      call.run_settings
    rw [List.foldl_cons, ← first]
    exact ih

/-- While they succeed, every register is trusted. -/
theorem Tracks.regs {trusted : Nat → Bool} (tracks : Tracks slave driver frames trusted)
    (all : ∀ k, isSet k = true → trusted k = true) {calls : List RegCall}
    (ok : (runRegs slave calls driver).1 = true) :
    ∃ more, Tracks slave (runRegs slave calls driver).2 (frames ++ more) isSet := by
  induction calls generalizing driver frames trusted with
  | nil =>
    refine ⟨[], ?_⟩
    rw [List.append_nil]
    exact tracks.weaken all
  | cons call calls ih =>
    simp only [runRegs, Bool.and_eq_true] at ok
    obtain ⟨frame, written⟩ := tracks.write call.regIndex
      (call.bits (driver.regFile call.regIndex.toNat)) call.regIndex_le
    have still (k : Nat) (inside : isSet k = true) : Function.update trusted call.regIndex.toNat
        (call.run slave driver).1 k = true := by
      by_cases same : k = call.regIndex.toNat
      · rw [same, Function.update_self]
        exact ok.1
      · rw [Function.update_of_ne same]
        exact all k inside
    obtain ⟨more, rest⟩ := ih written still ok.2
    refine ⟨frame :: more, ?_⟩
    rw [List.append_cons]
    exact rest

/-! ## The tasks -/

/-- The rate that `waveplay_start` asks for. -/
def rateFor (sampleRate : Int) : Option AudioSampleRate :=
  if sampleRate = 96000 then some .adc96kDac96k
  else if sampleRate = 48000 then some .adc48kDac48k
  else if sampleRate = 44100 then some .adc44k1Dac44k1
  else if sampleRate = 32000 then some .adc32kDac32k
  else if sampleRate = 8000 then some .adc8kDac8k
  else none

/-- The rate at which the codec plays. -/
def AudioSampleRate.hertz : AudioSampleRate → Int
  | .adc48kDac48k | .adc8kDac48k => 48000
  | .adc48kDac8k | .adc8kDac8k => 8000
  | .adc32kDac32k => 32000
  | .adc96kDac96k => 96000
  | .adc44k1Dac44k1 => 44100

/-- The codec of the tasks shows these settings. -/
structure Shows (codec : Codec) (settings : Settings) : Prop where
  left : codec.leftVol = settings.leftVol
  right : codec.rightVol = settings.rightVol
  small : settings.leftVol < 128 ∧ settings.rightVol < 128
  active : codec.active = settings.active
  rate : codec.rate = settings.sampleRate.map AudioSampleRate.hertz

/-- A supported rate is configured as asked. -/
theorem rateFor_hertz {sampleRate : Int}
    (supported : Wave.isSupporrtedSampleRate sampleRate = true) :
    ∃ code, rateFor sampleRate = some code ∧ code.hertz = sampleRate := by
  simp only [Wave.isSupporrtedSampleRate, Bool.or_eq_true, decide_eq_true_eq] at supported
  rcases supported with (((rate | rate) | rate) | rate) | rate <;> rw [rate] <;> exact ⟨_, rfl, rfl⟩

/-- What a step of `waveplay_start` writes. -/
def startCall : StartPc → Option RegCall
  | .inactive _ => some (.interfaceActive false)
  | .setRate sampleRate => (rateFor sampleRate).map .setSampleRate
  | .activate => some (.interfaceActive true)
  | _ => none

/-- What a step of `waveplay_execute` writes. -/
def executeCall : ExecutePc → Option RegCall
  | .restart pc => startCall pc
  | _ => none

/-- What a step of `handle_key` writes. -/
def keyCall : KeyPc → Option RegCall
  | .left lVol _ => some (.lineOut false (UInt16.ofNat lVol))
  | .right rVol => some (.lineOut true (UInt16.ofNat rVol))
  | _ => none

/-- What a step of `TaskReadSD` writes. -/
def readCall : ReadPc → Option RegCall
  | .listStart _ pc => startCall pc
  | _ => none

/-- What a step of `TaskPlayRecording` writes. -/
def playCall : PlayPc → Option RegCall
  | .execute _ _ pc => executeCall pc
  | .key _ _ pc => keyCall pc
  | _ => none

/-- What a step of `TaskKeyHandler` writes. -/
def handlerCall : HandlerPc → Option RegCall
  | .start pc => startCall pc
  | .execute pc => executeCall pc
  | .loopKey pc | .key pc => keyCall pc
  | _ => none

/-- The note of a step: the codec register that it writes. -/
def codecCalls (s : Sys) : Act → List RegCall
  | .run .readSD _ => (s.readSD.pc?.bind readCall).toList
  | .run .playRecording _ => (s.playRecording.pc?.bind playCall).toList
  | .run .keyHandler _ => (s.keyHandler.pc?.bind handlerCall).toList
  | .report _ | .keys _ | .tick _ => []

/-! ## What the calls leave behind -/

/-- The headers that a step reads say supported rates. -/
def HeadersSupported : Sys → Act → Prop
  | _, .run _ answer =>
    ∀ sampleRate ∈ answer.header, Wave.isSupporrtedSampleRate sampleRate = true
  | _, _ => True

instance (s : Sys) : DecidablePred (HeadersSupported s)
  | .run _ answer => inferInstanceAs (Decidable
    (∀ sampleRate ∈ answer.header, Wave.isSupporrtedSampleRate sampleRate = true))
  | .report _ | .keys _ | .tick _ => .isTrue trivial

/-- A `waveplay_start` of a supported rate. -/
def StartOk : StartPc → Prop
  | .inactive sampleRate | .setRate sampleRate => Wave.isSupporrtedSampleRate sampleRate = true
  | _ => True

/-- A `waveplay_execute` of one. -/
def ExecuteOk : ExecutePc → Prop
  | .restart pc => StartOk pc
  | _ => True

/-- A `TaskReadSD` of one. -/
def ReadOk : ReadPc → Prop
  | .listStart _ pc => StartOk pc
  | _ => True

/-- A `TaskPlayRecording` of one. -/
def PlayOk : PlayPc → Prop
  | .execute _ _ pc => ExecuteOk pc
  | _ => True

/-- A `TaskKeyHandler` of one. -/
def HandlerOk : HandlerPc → Prop
  | .start pc => StartOk pc
  | .execute pc => ExecuteOk pc
  | _ => True

/-- The settings after a step that may write a register. -/
def tellNext (settings : Settings) (call : Option RegCall) : Settings :=
  call.toList.foldl tell settings

variable {answer : Answer} {shared : Shared} {settings : Settings}

/-- A step of `waveplay_start` writes what it is noted to write. -/
theorem waveplayStart_shows {pc : StartPc} (ok : StartOk pc)
    (headers : ∀ sampleRate ∈ answer.header, Wave.isSupporrtedSampleRate sampleRate = true)
    (shows : Shows shared.codec settings) :
    Shows (waveplayStart answer shared pc).2.codec (tellNext settings (startCall pc)) ∧
      (waveplayStart answer shared pc).1.All StartOk := by
  cases pc with
  | body songnummer =>
    simp only [waveplayStart]
    split
    · rename_i sampleRate header
      exact ⟨shows, headers sampleRate header⟩
    · exact ⟨shows, trivial⟩
  | inactive sampleRate => exact ⟨{ shows with active := rfl }, ok⟩
  | setRate sampleRate =>
    obtain ⟨code, chosen, hertz⟩ := rateFor_hertz ok
    refine ⟨?_, trivial⟩
    simp only [startCall, chosen]
    exact { shows with rate := congrArg some hertz.symm }
  | activate => exact ⟨{ shows with active := rfl }, trivial⟩
  | ret => exact ⟨shows, trivial⟩

/-- A step of `waveplay_execute`. -/
theorem waveplayExecute_shows {pc : ExecutePc} (ok : ExecuteOk pc)
    (headers : ∀ sampleRate ∈ answer.header, Wave.isSupporrtedSampleRate sampleRate = true)
    (shows : Shows shared.codec settings) :
    Shows (waveplayExecute answer shared pc).2.codec (tellNext settings (executeCall pc)) ∧
      (waveplayExecute answer shared pc).1.All ExecuteOk := by
  cases pc with
  | body songnummer =>
    simp only [waveplayExecute]
    split <;> exact ⟨shows, trivial⟩
  | restart pc =>
    have started := waveplayStart_shows ok headers shows
    simp only [waveplayExecute]
    split <;> rename_i taken <;> rw [taken] at started <;> exact started
  | ret bSuccess => exact ⟨shows, trivial⟩

/-- A step of `handle_key`. -/
theorem handleKey_shows (answer : Answer) (pc : KeyPc) (shows : Shows shared.codec settings) :
    Shows (handleKey answer shared pc).2.codec (tellNext settings (keyCall pc)) := by
  have volume (before vol : Nat) (small : before < 128) :
      setVolBits before vol = (UInt16.ofNat vol).toNat % 128 := by
    simp only [setVolBits, UInt16.toNat_ofNat']
    omega
  cases pc with
  | decide button =>
    simp only [handleKey]
    split <;> exact shows
  | left lVol rVol =>
    have small := shows.left ▸ shows.small.1
    exact { shows with
      left := volume _ _ small
      small := ⟨Nat.mod_lt _ (by decide), shows.small.2⟩ }
  | right rVol =>
    have small := shows.right ▸ shows.small.2
    exact { shows with
      right := volume _ _ small
      small := ⟨shows.small.1, Nat.mod_lt _ (by decide)⟩ }
  | capture | clear | store | loadLeft | loadRight | ret => exact shows

/-- A step of `TaskReadSD`. -/
theorem taskReadSD_shows {pc : ReadPc} (ok : ReadOk pc)
    (headers : ∀ sampleRate ∈ answer.header, Wave.isSupporrtedSampleRate sampleRate = true)
    (shows : Shows shared.codec settings) :
    Shows (taskReadSD answer shared pc).shared.codec (tellNext settings (readCall pc)) ∧
      (taskReadSD answer shared pc).task.All ReadOk := by
  cases pc with
  | listStart count pc =>
    obtain ⟨after, inside⟩ := waveplayStart_shows ok headers shows
    exact ⟨after, inside.task (fun _ here => here) fun _ => trivial⟩
  | insertInit first =>
    simp only [taskReadSD]
    split
    · exact ⟨shows, (Task.all_asleep _ _).mpr trivial⟩
    · split
      · exact ⟨shows, (Task.all_ready _ _).mpr trivial⟩
      · refine ⟨?_, (Task.all_asleep _ _).mpr trivial⟩
        split <;> exact shows
  | mountInit nTry =>
    simp only [taskReadSD]
    split
    · exact ⟨shows, (Task.all_asleep _ _).mpr trivial⟩
    · split
      · exact ⟨shows, (Task.all_ready _ _).mpr trivial⟩
      · split <;> exact ⟨shows, (Task.all_asleep _ _).mpr trivial⟩
  | mountRead =>
    simp only [taskReadSD]
    split <;> exact ⟨shows, (Task.all_ready _ _).mpr trivial⟩
  | listNext count =>
    simp only [taskReadSD]
    split <;> exact ⟨shows, (Task.all_ready _ _).mpr trivial⟩
  | listEnd count =>
    refine ⟨shows, (Task.all_ready _ _).mpr ?_⟩
    split <;> trivial
  | insert | mount => exact ⟨shows, (Task.all_asleep _ _).mpr trivial⟩
  | begin | drawBlank | mountFail | listBegin | cardReady | noFiles =>
    exact ⟨shows, (Task.all_ready _ _).mpr trivial⟩
  | finish => exact ⟨shows, Task.all_absent _⟩

/-- A step of `TaskPlayRecording`. -/
theorem taskPlayRecording_shows {pc : PlayPc} (ok : PlayOk pc)
    (headers : ∀ sampleRate ∈ answer.header, Wave.isSupporrtedSampleRate sampleRate = true)
    (shows : Shows shared.codec settings) :
    Shows (taskPlayRecording answer shared pc).shared.codec
        (tellNext settings (playCall pc)) ∧
      (taskPlayRecording answer shared pc).task.All PlayOk := by
  cases pc with
  | execute i j pc =>
    obtain ⟨after, inside⟩ := waveplayExecute_shows ok headers shows
    exact ⟨after, inside.task (fun _ here => here) fun _ => trivial⟩
  | key i j pc =>
    exact ⟨handleKey_shows answer pc shows, Sub.all_task _ (fun _ => trivial) fun _ => trivial⟩
  | whileTest | forI =>
    refine ⟨shows, (Task.all_ready _ _).mpr ?_⟩
    split <;> trivial
  | forJ i j =>
    simp only [taskPlayRecording]
    split <;> exact ⟨shows, (Task.all_ready _ _).mpr trivial⟩
  | pollY i j x | pollEntryY i x =>
    obtain ⟨_, same⟩ := pollStop_shared shared x
    simp only [taskPlayRecording, same]
    exact ⟨shows, (Task.all_ready _ _).mpr trivial⟩
  | delay => exact ⟨shows, (Task.all_asleep _ _).mpr trivial⟩
  | begin | clearX | clearY | pollX | pollEntryX | clearFlag =>
    exact ⟨shows, (Task.all_ready _ _).mpr trivial⟩
  | finish => exact ⟨shows, Task.all_absent _⟩

/-- A step of `TaskKeyHandler`. -/
theorem taskKeyHandler_shows {pc : HandlerPc} (locals : Locals) (ok : HandlerOk pc)
    (headers : ∀ sampleRate ∈ answer.header, Wave.isSupporrtedSampleRate sampleRate = true)
    (shows : Shows shared.codec settings) :
    Shows (taskKeyHandler answer locals shared pc).shared.codec
        (tellNext settings (handlerCall pc)) ∧
      (taskKeyHandler answer locals shared pc).task.All HandlerOk := by
  cases pc with
  | start pc =>
    obtain ⟨after, inside⟩ := waveplayStart_shows ok headers shows
    exact ⟨after, inside.task (fun _ here => here) fun _ => trivial⟩
  | execute pc =>
    obtain ⟨after, inside⟩ := waveplayExecute_shows ok headers shows
    refine ⟨after, inside.task (fun _ here => here) fun success => ?_⟩
    split <;> trivial
  | loopKey pc =>
    have after := handleKey_shows answer pc shows
    simp only [taskKeyHandler]
    split
    · rename_i taken
      rw [taken] at after
      exact ⟨after, (Task.all_ready _ _).mpr trivial⟩
    · rename_i taken
      rw [taken] at after
      exact ⟨after, Sub.all_task _ (fun _ => trivial) fun _ => trivial⟩
  | key pc =>
    exact ⟨handleKey_shows answer pc shows, Sub.all_task _ (fun _ => trivial) fun _ => trivial⟩
  | afterLoop =>
    simp only [taskKeyHandler]
    split <;> exact ⟨shows, (Task.all_ready _ _).mpr trivial⟩
  | toggle =>
    simp only [taskKeyHandler, Shared.toggleRecording]
    refine ⟨?_, (Task.all_ready _ _).mpr trivial⟩
    split <;> exact shows
  | head | touch | songCheck | loopTest | loopReady | recordY | playY | playTouch =>
    refine ⟨shows, (Task.all_ready _ _).mpr ?_⟩
    split <;> trivial
  | recordTouch | playFlag =>
    refine ⟨shows, ?_⟩
    simp only [taskKeyHandler]
    split <;> simp [HandlerOk]
  | delay => exact ⟨shows, (Task.all_asleep _ _).mpr trivial⟩
  | createRead | touchX | touchY | startCall | loopX | loopY | executeCall | stopPlaying | endPress
  | recordX | playX | createPlay => exact ⟨shows, (Task.all_ready _ _).mpr trivial⟩

/-! ## Runs -/

/-- After some register writes, the codec of the tasks shows what they ask for, and the tasks have
supported rates. -/
structure Shown (calls : List RegCall) (s : Sys) : Prop where
  shows : Shows s.shared.codec (calls.foldl tell Settings.initial)
  readSD : s.readSD.All ReadOk
  playRecording : s.playRecording.All PlayOk
  keyHandler : s.keyHandler.All HandlerOk

/-- So it is when the system starts. -/
theorem Shown.boot (x1 y1 : Nat) : Shown [] (.boot x1 y1) where
  shows := ⟨rfl, rfl, by decide, rfl, rfl⟩
  readSD := Task.all_absent _
  playRecording := Task.all_absent _
  keyHandler := (Task.all_ready _ _).mpr trivial

/-- A step keeps it so. -/
theorem Shown.step {calls : List RegCall} {s s' : Sys} {act : Act} {events : List Event}
    (shown : Shown calls s) (supported : HeadersSupported s act)
    (step : system.step act s = some (s', events)) :
    Shown (calls ++ codecCalls s act) s' := by
  cases Sys.step_cases step with
  | report touch | keys button =>
    rw [codecCalls, List.append_nil]
    exact { shown with }
  | wakeReadSD asleep =>
    have ok := shown.readSD
    rw [asleep, Task.all_asleep] at ok
    rw [codecCalls, List.append_nil]
    exact { shown with readSD := (Task.all_ready _ _).mpr ok }
  | wakePlayRecording asleep =>
    have ok := shown.playRecording
    rw [asleep, Task.all_asleep] at ok
    rw [codecCalls, List.append_nil]
    exact { shown with playRecording := (Task.all_ready _ _).mpr ok }
  | wakeKeyHandler asleep =>
    have ok := shown.keyHandler
    rw [asleep, Task.all_asleep] at ok
    rw [codecCalls, List.append_nil]
    exact { shown with keyHandler := (Task.all_ready _ _).mpr ok }
  | readSD answer ready =>
    have ok := shown.readSD
    rw [ready, Task.all_ready] at ok
    obtain ⟨shows, task⟩ := taskReadSD_shows ok supported shown.shows
    rw [codecCalls, ready]
    refine { shown with shows := ?_, readSD := task }
    rw [List.foldl_append]
    exact shows
  | playRecording answer ready first =>
    have ok := shown.playRecording
    rw [ready, Task.all_ready] at ok
    obtain ⟨shows, task⟩ := taskPlayRecording_shows ok supported shown.shows
    rw [codecCalls, ready]
    refine { shown with shows := ?_, playRecording := task }
    rw [List.foldl_append]
    exact shows
  | keyHandler answer ready first second =>
    have ok := shown.keyHandler
    rw [ready, Task.all_ready] at ok
    obtain ⟨shows, task⟩ := taskKeyHandler_shows s.locals ok supported shown.shows
    rw [codecCalls, ready]
    constructor
    · rw [List.foldl_append]
      exact shows
    · exact shown.readSD.createRead fun _ => trivial
    · exact shown.playRecording.createPlay fun _ => trivial
    · exact task

/-- In every run, the codec of the tasks shows what their register writes have asked for. -/
theorem Shown.run {x1 y1 : Nat} {calls : List RegCall} {s : Sys}
    (run : (system.watch codecCalls).Run HeadersSupported (.boot x1 y1) calls s) :
    Shown calls s := by
  apply run.invariant Shown (.boot x1 y1)
  intro calls s act s' notes shown supported step
  obtain ⟨rfl, events, taken⟩ := Machine.watch_step.mp step
  exact shown.step supported taken

/-- Any run of the tasks, any interleaving: if a driver makes the register writes of the run in
its order behind a successful `AUDIO_Init`, on a bus on which all of them are acknowledged, then
what the transfers have written into the registers is the codec of the tasks. -/
theorem codec_wired {x1 y1 : Nat} {calls : List RegCall} {s : Sys}
    (run : (system.watch codecCalls).Run HeadersSupported (.boot x1 y1) calls s)
    (idle : Idle slave driver.bus frames) (init : (audioInit slave driver).1 = true)
    (acknowledged : (runRegs slave calls (audioInit slave driver).2).1 = true) :
    ∃ more,
      Idle slave (runRegs slave calls (audioInit slave driver).2).2.bus (frames ++ more) ∧
      Shows s.shared.codec (settingsOf fun k => (registersOf (frames ++ more) k).getD 0) := by
  obtain ⟨first, ready⟩ := audioInit_tracks idle init
  obtain ⟨rest, after⟩ := ready.regs (fun k inside => inside) acknowledged
  rw [List.append_assoc] at after
  refine ⟨first ++ rest, after.idle, ?_⟩
  rw [after.settings fun k inside => inside, runRegs_settings, audioInit_settings init]
  exact (Shown.run run).shows

/-- The register writes of a card with one song, the first volume and a press on its button. -/
def pressCalls : List RegCall :=
  [.interfaceActive false, .setSampleRate .adc44k1Dac44k1, .interfaceActive true,
    .lineOut false 120, .lineOut true 120,
    .interfaceActive false, .setSampleRate .adc44k1Dac44k1, .interfaceActive true]

/-- They reach a slave that acknowledges every byte. -/
theorem codec_wired_press : ∃ s more,
    (system.watch codecCalls).Run HeadersSupported (.boot 0 0) pressCalls s ∧
      s.shared.codec = ⟨120, 120, true, some 44100⟩ ∧
      Idle counter (runRegs counter pressCalls (audioInit counter sampleDriver).2).2.bus
        ([] ++ more) ∧
      Shows s.shared.codec (settingsOf fun k => (registersOf ([] ++ more) k).getD 0) := by
  have steps : ((system.watch codecCalls).execWithin HeadersSupported
      (insertCard 1 ++ firstIteration ++ pressButton ⟨1, 50, 50⟩) [] (.boot 0 0)).map
        (fun run => (run.1, run.2.shared.codec)) =
      some (pressCalls, ⟨120, 120, true, some 44100⟩) := by decide +kernel
  obtain ⟨⟨calls, s⟩, steps, same⟩ := Option.map_eq_some_iff.mp steps
  obtain ⟨rfl, codec⟩ := Prod.mk.inj same
  have run := Machine.Run.nil.execWithin steps
  obtain ⟨more, idle, shows⟩ := codec_wired run powerUp_idle (by decide +kernel)
    (show (runRegs counter pressCalls (audioInit counter sampleDriver).2).1 = true by
      decide +kernel)
  exact ⟨s, more, run, codec, idle, shows⟩

end SoundBoard.Audio
