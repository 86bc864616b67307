import SoundBoard.Tasks.Exclusive
import SoundBoard.Wave.WaveLib

/-!
# The sample rate of what is played

The codec has one sample rate, and only `waveplay_start` configures it. `waveplay_execute` is
reached for another song without a start: by a finger that slides to another button, and by
every entry of a recording. The rule `KeepsRate` says for each of the places that configure a
rate, or turn to another song, when the configured rate remains the one of the songs in use.
-/

namespace SoundBoard.Tasks

open SoundBoard.Lib SoundBoard.Wave

/-! ## The property -/

/-- The song whose header the next step of a listing reads. -/
def ReadPc.opens : ReadPc → Option Int
  | .listStart _ pc => pc.opens
  | _ => none

/-- The song whose header a task reads next. -/
def Sys.opens (s : Sys) : TaskId → Option Int
  | .readSD => s.readSD.pc?.bind ReadPc.opens
  | .playRecording => s.playRecording.pc?.bind PlayPc.opens
  | .keyHandler => s.keyHandler.pc?.bind HandlerPc.opens

/-- Every header that is accepted has the rate of its song. -/
def HeadersSay (rates : Int → Int) (s : Sys) : Act → Prop
  | .run task answer =>
    ∀ songnummer ∈ s.opens task, ∀ sampleRate ∈ answer.header, sampleRate = rates songnummer
  | _ => True

/-- A step of `waveplay_execute` that hands frames of a song to the DAC. -/
def Sys.Pushes (s : Sys) (songnummer : Int) : Act → Prop
  | .run .playRecording answer => answer.restart = false ∧ answer.ok = true ∧
      ∃ i j, s.playRecording = .ready (.execute i j (.body songnummer))
  | .run .keyHandler answer => answer.restart = false ∧ answer.ok = true ∧
      s.keyHandler = .ready (.execute (.body songnummer))
  | _ => False

/-- In the runs under a guard, frames are handed over at the rate of their song. -/
def RightRate (rates : Int → Int) (guard : Sys → Act → Prop) : Prop :=
  ∀ {x1 y1 : Nat} {trace events : List Event} {s s' : Sys} {act : Act} {songnummer : Int},
    system.Run guard (.boot x1 y1) trace s → guard s act →
    system.step act s = some (s', events) → s.Pushes songnummer act →
    s.shared.codec.rate = some (rates songnummer)

/-! ## The rule -/

/-- `TaskKeyHandler` plays its song at the rate that is configured, or is about to. -/
def HandlerPc.playing : HandlerPc → Bool
  | .start .activate | .start .ret | .loopTest | .loopReady | .loopX | .loopY _ | .executeCall
  | .execute _ | .stopPlaying | .loopKey _ | .afterLoop => true
  | _ => false

/-- The listing configures another rate only when nothing is being played. -/
def ReadPc.KeepsRate (s : Sys) : ReadPc → Prop
  | .listStart _ (.setRate sampleRate) => s.shared.codec.rate = some sampleRate ∨
      s.NotReplaying ∧ s.keyHandler.All fun pc => pc.playing = false
  | _ => True

/-- A press starts its song, and configures another rate only outside replays; the finger
slides to songs of the same rate; a recording that begins inside a replay leaves it with a song
of the same rate; and a replay begins with entries of the configured rate. -/
def HandlerPc.KeepsRate (rates : Int → Int) (s : Sys) (answer : Answer) : HandlerPc → Prop
  | .start (.body songnummer) =>
    answer.header ≠ none ∨ s.shared.codec.rate = some (rates songnummer)
  | .start (.setRate sampleRate) => s.shared.codec.rate = some sampleRate ∨ s.NotReplaying
  | .loopY x => rates (getButtonId x s.shared.mtc2.y1) = rates s.locals.songNummer
  | .toggle => s.shared.busyRecording = true ∨ s.NotReplaying ∨
      s.shared.codec.rate = some (rates 0)
  | .createPlay => s.playRecording = .absent → ∀ i < 10,
      s.shared.codec.rate = some (rates (s.shared.recordingPlaylist i).songnummer)
  | _ => True

/-- A step after which the songs in use still have the configured rate. -/
def KeepsRate (rates : Int → Int) (s : Sys) : Act → Prop
  | .run .readSD _ => s.readSD.All fun pc => pc.KeepsRate s
  | .run .keyHandler answer => s.keyHandler.All fun pc => pc.KeepsRate rates s answer
  | _ => True

/-- The runs of a play list that keep to the rule. -/
def KeepsRates (rates : Int → Int) (s : Sys) (act : Act) : Prop :=
  HeadersSay rates s act ∧ KeepsRate rates s act

instance (rates : Int → Int) (s : Sys) : DecidablePred (HeadersSay rates s)
  | .run task answer => inferInstanceAs (Decidable
    (∀ songnummer ∈ s.opens task, ∀ sampleRate ∈ answer.header, sampleRate = rates songnummer))
  | .report _ | .keys _ | .tick _ => .isTrue trivial

instance (s : Sys) : DecidablePred (ReadPc.KeepsRate s)
  | .listStart _ (.setRate sampleRate) => inferInstanceAs (Decidable
    (s.shared.codec.rate = some sampleRate ∨
      s.NotReplaying ∧ s.keyHandler.All fun pc => pc.playing = false))
  | .listStart _ (.body _) | .listStart _ (.inactive _) | .listStart _ .activate
  | .listStart _ .ret | .begin | .insert _ | .insertInit _ | .drawBlank | .mount _ | .mountInit _
  | .mountRead | .mountFail | .listBegin | .listNext _ | .listEnd _ | .cardReady | .noFiles
  | .finish => .isTrue trivial

instance (rates : Int → Int) (s : Sys) (answer : Answer) :
    DecidablePred (HandlerPc.KeepsRate rates s answer)
  | .start (.body songnummer) => inferInstanceAs (Decidable
    (answer.header ≠ none ∨ s.shared.codec.rate = some (rates songnummer)))
  | .start (.setRate sampleRate) => inferInstanceAs (Decidable
    (s.shared.codec.rate = some sampleRate ∨ s.NotReplaying))
  | .loopY x => inferInstanceAs (Decidable
    (rates (getButtonId x s.shared.mtc2.y1) = rates s.locals.songNummer))
  | .toggle => inferInstanceAs (Decidable (s.shared.busyRecording = true ∨ s.NotReplaying ∨
      s.shared.codec.rate = some (rates 0)))
  | .createPlay => inferInstanceAs (Decidable (s.playRecording = .absent → ∀ i < 10,
      s.shared.codec.rate = some (rates (s.shared.recordingPlaylist i).songnummer)))
  | .start (.inactive _) | .start .activate | .start .ret | .head | .createRead | .touch | .touchX
  | .touchY _ | .songCheck | .startCall | .loopTest | .loopReady | .loopX | .executeCall
  | .execute _ | .stopPlaying | .loopKey _ | .afterLoop | .endPress | .recordX | .recordY _
  | .recordTouch | .playX | .playY _ | .playTouch | .playFlag | .key _ | .delay => .isTrue trivial

instance (rates : Int → Int) (s : Sys) : DecidablePred (KeepsRate rates s)
  | .run .readSD _ => inferInstanceAs (Decidable (s.readSD.All fun pc => pc.KeepsRate s))
  | .run .keyHandler answer =>
    inferInstanceAs (Decidable (s.keyHandler.All fun pc => pc.KeepsRate rates s answer))
  | .run .playRecording _ | .report _ | .keys _ | .tick _ => .isTrue trivial

instance (rates : Int → Int) (s : Sys) : DecidablePred (KeepsRates rates s) := fun act =>
  inferInstanceAs (Decidable (HeadersSay rates s act ∧ KeepsRate rates s act))

/-! ## What a call does to the rate -/

variable (answer : Answer) (shared : Shared)

/-- The configured rate after a step of `waveplay_start`. -/
def StartPc.rate (before : Option Int) : StartPc → Option Int
  | .setRate sampleRate => some sampleRate
  | _ => before

/-- `waveplay_start` configures the rate at one point. -/
theorem waveplayStart_rate (pc : StartPc) :
    (waveplayStart answer shared pc).2.codec.rate = pc.rate shared.codec.rate := by
  cases pc with
  | body songnummer =>
    simp only [waveplayStart]
    split <;> rfl
  | _ => rfl

/-- The configured rate after a step of `waveplay_execute`. -/
def ExecutePc.rate (before : Option Int) : ExecutePc → Option Int
  | .restart pc => pc.rate before
  | _ => before

/-- `waveplay_execute` configures the rate when it begins a song again. -/
theorem waveplayExecute_rate (pc : ExecutePc) :
    (waveplayExecute answer shared pc).2.codec.rate = pc.rate shared.codec.rate := by
  cases pc with
  | body songnummer =>
    simp only [waveplayExecute]
    split <;> rfl
  | restart pc =>
    have same := waveplayStart_rate answer shared pc
    simp only [waveplayExecute]
    split <;> simp_all [ExecutePc.rate]
  | ret bSuccess => rfl

/-- `handle_key` does not configure it. -/
theorem handleKey_rate (pc : KeyPc) :
    (handleKey answer shared pc).2.codec.rate = shared.codec.rate := by
  cases pc with
  | decide button =>
    simp only [handleKey]
    split <;> rfl
  | _ => rfl

/-- The configured rate after a step of `TaskReadSD`. -/
def ReadPc.rate (before : Option Int) : ReadPc → Option Int
  | .listStart _ pc => pc.rate before
  | _ => before

/-- `TaskReadSD` configures it in the listing. -/
theorem taskReadSD_rate (pc : ReadPc) :
    (taskReadSD answer shared pc).shared.codec.rate = pc.rate shared.codec.rate := by
  cases pc with
  | listStart count pc => exact waveplayStart_rate answer shared pc
  | insertInit first =>
    simp only [taskReadSD]
    split
    · rfl
    · split
      · rfl
      · split <;> rfl
  | mountInit nTry =>
    simp only [taskReadSD]
    split
    · rfl
    · split
      · rfl
      · split <;> rfl
  | mountRead =>
    simp only [taskReadSD]
    split <;> rfl
  | listNext count =>
    simp only [taskReadSD]
    split <;> rfl
  | _ => rfl

/-- The configured rate after a step of `TaskPlayRecording`. -/
def PlayPc.rate (before : Option Int) : PlayPc → Option Int
  | .execute _ _ pc => pc.rate before
  | _ => before

/-- `TaskPlayRecording` configures it when it begins a song again. -/
theorem taskPlayRecording_rate (pc : PlayPc) :
    (taskPlayRecording answer shared pc).shared.codec.rate = pc.rate shared.codec.rate := by
  cases pc with
  | execute i j pc => exact waveplayExecute_rate answer shared pc
  | key i j pc => exact handleKey_rate answer shared pc
  | forJ i j =>
    simp only [taskPlayRecording]
    split <;> rfl
  | pollY i j x | pollEntryY i x =>
    obtain ⟨_, same⟩ := pollStop_shared shared x
    simp only [taskPlayRecording, same, PlayPc.rate]
  | _ => rfl

/-- The configured rate after a step of `TaskKeyHandler`. -/
def HandlerPc.rate (before : Option Int) : HandlerPc → Option Int
  | .start pc => pc.rate before
  | .execute pc => pc.rate before
  | _ => before

/-- `TaskKeyHandler` configures it in a press. -/
theorem taskKeyHandler_rate (locals : Locals) (pc : HandlerPc) :
    (taskKeyHandler answer locals shared pc).shared.codec.rate = pc.rate shared.codec.rate := by
  cases pc with
  | start pc => exact waveplayStart_rate answer shared pc
  | execute pc => exact waveplayExecute_rate answer shared pc
  | loopKey pc =>
    have same := handleKey_rate answer shared pc
    simp only [taskKeyHandler]
    split <;> simp_all [HandlerPc.rate]
  | key pc => exact handleKey_rate answer shared pc
  | afterLoop =>
    simp only [taskKeyHandler]
    split <;> rfl
  | toggle =>
    simp only [taskKeyHandler, Shared.toggleRecording, HandlerPc.rate]
    split <;> rfl
  | _ => rfl

/-! ## Calls for a song -/

/-- A `waveplay_start` of a song: its number, and the rate of its header. -/
def StartPc.OfSong (rates : Int → Int) (songnummer : Int) : StartPc → Prop
  | .body k => k = songnummer
  | .inactive sampleRate | .setRate sampleRate => sampleRate = rates songnummer
  | _ => True

/-- A `waveplay_execute` of a song. -/
def ExecutePc.OfSong (rates : Int → Int) (songnummer : Int) : ExecutePc → Prop
  | .body k => k = songnummer
  | .restart pc => pc.OfSong rates songnummer
  | .ret _ => True

/-- The calls of a press. -/
def HandlerPc.OfSong (rates : Int → Int) (songnummer : Int) : HandlerPc → Prop
  | .start pc => pc.OfSong rates songnummer
  | .execute pc => pc.OfSong rates songnummer
  | _ => True

/-- The call of a replay, for a song with the configured rate. -/
def PlayPc.OfRate (rates : Int → Int) (rate : Option Int) : PlayPc → Prop
  | .execute _ _ pc => ∃ songnummer, rate = some (rates songnummer) ∧ pc.OfSong rates songnummer
  | _ => True

/-- A property of every program point inside a call. -/
def Sub.All {inner result : Type} (holds : inner → Prop) : Sub inner result → Prop
  | .at pc => holds pc
  | .sleep pc => holds pc
  | .done _ => True

/-- A property of a task inside a call and behind it. -/
theorem Sub.All.task {inner result outer : Type} {inside : inner → Prop} {holds : outer → Prop}
    {wrap : inner → outer} {behind : result → outer} {sub : Sub inner result}
    (all : sub.All inside) (lift : ∀ pc, inside pc → holds (wrap pc))
    (after : ∀ result, holds (behind result)) : (sub.task wrap behind).All holds :=
  match sub, all with
  | .at pc, here => (Task.all_ready _ _).mpr (lift pc here)
  | .sleep pc, here => (Task.all_asleep _ _).mpr (lift pc here)
  | .done result, _ => (Task.all_ready _ _).mpr (after result)

variable {rates : Int → Int} {songnummer : Int}

/-- A `waveplay_start` stays one of its song. -/
theorem waveplayStart_ofSong {pc : StartPc} (own : pc.OfSong rates songnummer)
    (honest : ∀ k ∈ pc.opens, ∀ sampleRate ∈ answer.header, sampleRate = rates k) :
    (waveplayStart answer shared pc).1.All (StartPc.OfSong rates songnummer) := by
  cases pc with
  | body k =>
    simp only [StartPc.OfSong] at own
    subst own
    simp only [waveplayStart]
    split
    · rename_i sampleRate header
      exact honest k rfl sampleRate header
    · trivial
  | inactive sampleRate => exact own
  | _ => trivial

/-- So does a `waveplay_execute`. -/
theorem waveplayExecute_ofSong {pc : ExecutePc} (own : pc.OfSong rates songnummer)
    (honest : ∀ k ∈ pc.opens, ∀ sampleRate ∈ answer.header, sampleRate = rates k) :
    (waveplayExecute answer shared pc).1.All (ExecutePc.OfSong rates songnummer) := by
  cases pc with
  | body k =>
    simp only [waveplayExecute]
    split
    · exact own
    · trivial
  | restart pc =>
    have all := waveplayStart_ofSong answer shared (show pc.OfSong rates songnummer from own) honest
    simp only [waveplayExecute]
    split <;> rename_i step <;> rw [step] at all
    · exact all
    · exact all
    · trivial
  | ret bSuccess => trivial

/-- To begin a song again configures its rate. -/
theorem ExecutePc.OfSong.rate {pc : ExecutePc} (own : pc.OfSong rates songnummer)
    {before : Option Int} (configured : before = some (rates songnummer)) :
    pc.rate before = before := by
  cases pc with
  | restart pc =>
    cases pc with
    | setRate sampleRate =>
      simp only [ExecutePc.OfSong, StartPc.OfSong] at own
      rw [configured, own]
      rfl
    | _ => rfl
  | _ => rfl

/-! ## The invariant -/

/-- The states of runs that keep to the rule: the song of a press and every entry of a replay
have the configured rate. -/
structure Rated (rates : Int → Int) (s : Sys) : Prop where
  press : s.keyHandler.All fun pc =>
    (pc.playing = true → s.shared.codec.rate = some (rates s.locals.songNummer)) ∧
      pc.OfSong rates s.locals.songNummer
  entry : s.playRecording.All fun pc => ∀ i, pc.entry = some i → i < 10
  replay : s.playRecording.All fun pc => pc.inReplay s.shared.playingRecording = true →
    ∀ i < 10, s.shared.codec.rate = some (rates (s.shared.recordingPlaylist i).songnummer)
  call : s.playRecording.All fun pc => pc.OfRate rates s.shared.codec.rate

/-- After start-up nothing is played. -/
theorem Rated.boot (rates : Int → Int) (x1 y1 : Nat) : Rated rates (.boot x1 y1) := by
  refine ⟨?_, ?_, ?_, ?_⟩ <;> simp [Sys.boot, HandlerPc.playing, HandlerPc.OfSong]

/-- A replay outside its loops is inside none of its calls. -/
theorem PlayPc.ofRate_outside {pc : PlayPc} {playingRecording : Bool} {rate : Option Int}
    (outside : pc.inReplay playingRecording = false) : pc.OfRate rates rate := by
  cases pc with
  | execute => contradiction
  | _ => trivial

/-- A step of `TaskReadSD`. -/
theorem Rated.readSD {s : Sys} {pc : ReadPc} (before : Rated rates s)
    (rule : pc.KeepsRate s) :
    Rated rates (s.readSDNext (taskReadSD answer s.shared pc)) := by
  obtain ⟨press, entry, replay, call⟩ := before
  obtain ⟨_, _, _, _, same⟩ := taskReadSD_shared answer s.shared pc
  have rate := taskReadSD_rate answer s.shared pc
  have playing : (taskReadSD answer s.shared pc).shared.playingRecording =
      s.shared.playingRecording := by rw [same]
  have recording : (taskReadSD answer s.shared pc).shared.recordingPlaylist =
      s.shared.recordingPlaylist := by rw [same]
  have kept : pc.rate s.shared.codec.rate = s.shared.codec.rate ∨
      s.NotReplaying ∧ s.keyHandler.All fun pc => pc.playing = false := by
    cases pc with
    | listStart count pc =>
      cases pc with
      | setRate sampleRate => exact rule.imp_left Eq.symm
      | _ => exact .inl rfl
    | _ => exact .inl rfl
  rcases kept with kept | ⟨rests, silent⟩
  · rw [kept] at rate
    refine ⟨?_, entry, ?_, ?_⟩ <;> simp only [Sys.readSDNext, rate, playing, recording]
    · exact press
    · exact replay
    · exact call
  · refine ⟨fun pc' here => ⟨fun plays => ?_, (press pc' here).2⟩, entry,
      fun pc' here inside => ?_, fun pc' here => PlayPc.ofRate_outside (rests pc' here)⟩
    · rw [silent pc' here] at plays
      contradiction
    · have outside := rests pc' here
      simp only [Sys.readSDNext, playing] at inside
      rw [outside] at inside
      contradiction

/-- A replay keeps the configured rate. -/
theorem PlayPc.OfRate.rate {pc : PlayPc} {before : Option Int} (own : pc.OfRate rates before) :
    pc.rate before = before := by
  cases pc with
  | execute i j pc =>
    obtain ⟨songnummer, configured, inside⟩ := own
    exact inside.rate configured
  | _ => rfl

/-- A replay calls songs of the configured rate when its entries have it. -/
theorem taskPlayRecording_ofRate {pc : PlayPc} {rate : Option Int} (own : pc.OfRate rates rate)
    (honest : ∀ k ∈ pc.opens, ∀ sampleRate ∈ answer.header, sampleRate = rates k)
    (entries : ∀ i, pc.entry = some i →
      rate = some (rates (shared.recordingPlaylist i).songnummer)) :
    (taskPlayRecording answer shared pc).task.All fun pc' => pc'.OfRate rates rate := by
  cases pc with
  | execute i j pc =>
    obtain ⟨songnummer, configured, inside⟩ := own
    have all := waveplayExecute_ofSong answer shared inside honest
    exact all.task (fun pc' inside' => ⟨songnummer, configured, inside'⟩) fun _ => trivial
  | key i j pc =>
    simp only [taskPlayRecording]
    refine Sub.all_task _ ?_ ?_ <;> exact fun _ => trivial
  | forJ i j =>
    simp only [taskPlayRecording]
    split
    · exact (Task.all_ready _ _).mpr ⟨_, entries i rfl, rfl⟩
    · exact (Task.all_ready _ _).mpr trivial
  | forI i =>
    by_cases more : i < maxRecording - 30 <;> simp [taskPlayRecording, more, PlayPc.OfRate]
  | whileTest =>
    cases playing : shared.playingRecording <;>
      simp [taskPlayRecording, playing, PlayPc.OfRate]
  | _ => simp [taskPlayRecording, PlayPc.OfRate]

/-- A step of `TaskPlayRecording`. -/
theorem Rated.playRecording {s : Sys} {pc : PlayPc} (before : Rated rates s)
    (ready : s.playRecording = .ready pc)
    (honest : ∀ k ∈ pc.opens, ∀ sampleRate ∈ answer.header, sampleRate = rates k) :
    Rated rates (s.playRecordingNext (taskPlayRecording answer s.shared pc)) := by
  obtain ⟨press, entry, replay, call⟩ := before
  rw [ready, Task.all_ready] at entry replay call
  obtain ⟨_, _, _, _, _, _, _, _, same⟩ := taskPlayRecording_shared answer s.shared pc
  have points := taskPlayRecording_points answer s.shared pc
  have rate := (taskPlayRecording_rate answer s.shared pc).trans call.rate
  have recording : (taskPlayRecording answer s.shared pc).shared.recordingPlaylist =
      s.shared.recordingPlaylist := by rw [same]
  have entries (i : Nat) (here : pc.entry = some i) :
      s.shared.codec.rate = some (rates (s.shared.recordingPlaylist i).songnummer) := by
    have inside : pc.inReplay s.shared.playingRecording = true := by
      cases pc <;> first | rfl | contradiction
    exact replay inside i (entry i here)
  refine ⟨?_, ?_, ?_, ?_⟩ <;> simp only [Sys.playRecordingNext, rate, recording]
  · exact press
  · refine points.mono fun pc' point i here => ?_
    rcases point.1 i here with inside | stays
    · exact inside
    · exact entry i stays
  · exact points.mono fun pc' point inside => replay (point.2 inside)
  · exact taskPlayRecording_ofRate answer s.shared call honest entries

/-- A press plays its song at its rate. -/
theorem taskKeyHandler_press {s : Sys} {pc : HandlerPc}
    (press : (pc.playing = true → s.shared.codec.rate = some (rates s.locals.songNummer)) ∧
      pc.OfSong rates s.locals.songNummer)
    (honest : ∀ k ∈ pc.opens, ∀ sampleRate ∈ answer.header, sampleRate = rates k)
    (rule : pc.KeepsRate rates s answer) :
    (taskKeyHandler answer s.locals s.shared pc).task.All fun pc' =>
      (pc'.playing = true → pc.rate s.shared.codec.rate =
        some (rates (pc.songNummer s.locals s.shared))) ∧
        pc'.OfSong rates (pc.songNummer s.locals s.shared) := by
  obtain ⟨playing, own⟩ := press
  cases pc with
  | start pc =>
    cases pc with
    | body k =>
      simp only [HandlerPc.OfSong, StartPc.OfSong] at own
      subst own
      simp only [taskKeyHandler, waveplayStart]
      split
      · rename_i sampleRate header
        refine (Task.all_ready _ _).mpr ⟨fun plays => ?_, honest _ rfl sampleRate header⟩
        contradiction
      · rename_i none
        exact (Task.all_ready _ _).mpr
          ⟨fun _ => rule.resolve_left fun some => some none, trivial⟩
    | inactive sampleRate =>
      refine (Task.all_asleep _ _).mpr ⟨fun plays => ?_, own⟩
      contradiction
    | setRate sampleRate =>
      exact (Task.all_asleep _ _).mpr ⟨fun _ => congrArg some own, trivial⟩
    | activate => exact (Task.all_asleep _ _).mpr ⟨fun _ => playing rfl, trivial⟩
    | ret => exact (Task.all_ready _ _).mpr ⟨fun _ => playing rfl, trivial⟩
  | execute pc =>
    have configured := playing rfl
    have inside : pc.OfSong rates s.locals.songNummer := own
    have all := waveplayExecute_ofSong answer s.shared inside honest
    have rate := inside.rate configured
    refine all.task (fun pc' inside' => ⟨fun _ => rate.trans configured, inside'⟩) fun ok => ?_
    cases ok <;> exact ⟨fun _ => rate.trans configured, trivial⟩
  | loopKey pc =>
    have configured := playing rfl
    simp only [taskKeyHandler]
    split
    · exact (Task.all_ready _ _).mpr ⟨fun _ => configured, trivial⟩
    · refine Sub.all_task _ (fun pc' => ⟨fun _ => configured, trivial⟩) fun _ =>
        ⟨fun _ => configured, trivial⟩
  | key pc =>
    simp only [taskKeyHandler]
    refine Sub.all_task _ ?_ ?_ <;> simp [HandlerPc.playing, HandlerPc.OfSong]
  | loopTest | loopReady =>
    have configured := playing rfl
    simp only [taskKeyHandler]
    split <;> exact (Task.all_ready _ _).mpr ⟨fun _ => configured, trivial⟩
  | loopX | stopPlaying =>
    have configured := playing rfl
    exact (Task.all_ready _ _).mpr ⟨fun _ => configured, trivial⟩
  | loopY x =>
    have configured := playing rfl
    refine (Task.all_ready _ _).mpr ⟨fun _ => ?_, trivial⟩
    have slides : rates (getButtonId x s.shared.mtc2.y1) = rates s.locals.songNummer := rule
    rw [HandlerPc.songNummer, slides]
    exact configured
  | executeCall =>
    have configured := playing rfl
    exact (Task.all_ready _ _).mpr ⟨fun _ => configured, rfl⟩
  | startCall =>
    refine (Task.all_ready _ _).mpr ⟨fun plays => ?_, rfl⟩
    contradiction
  | afterLoop | songCheck | head | touch | recordY | recordTouch | playY | playTouch | playFlag =>
    simp only [taskKeyHandler]
    split <;> simp [HandlerPc.playing, HandlerPc.OfSong]
  | _ => simp [taskKeyHandler, HandlerPc.playing, HandlerPc.OfSong]

/-- An entry that a press or a touch of the record button writes inside a replay has a song of
the configured rate. -/
theorem HandlerPc.recordingPlaylist_rate {s : Sys} {pc : HandlerPc} {rate : Option Int}
    (entries : ∀ i < 10, rate = some (rates (s.shared.recordingPlaylist i).songnummer))
    (press : pc = .afterLoop → rate = some (rates s.locals.songNummer))
    (clears : pc = .toggle → s.shared.busyRecording = true ∨ rate = some (rates 0)) :
    ∀ i < 10, rate = some (rates (pc.recordingPlaylist s.locals s.shared i).songnummer) := by
  intro i low
  cases pc with
  | afterLoop =>
    simp only [HandlerPc.recordingPlaylist]
    split
    · by_cases here : i = s.locals.count
      · rw [here, Function.update_self]
        exact press rfl
      · rw [Function.update_of_ne here]
        exact entries i low
    · exact entries i low
  | toggle =>
    simp only [HandlerPc.recordingPlaylist, Shared.toggleRecording]
    split
    · exact entries i low
    · rename_i idle
      have inside : i < maxRecording := Nat.lt_trans low (by decide)
      simp only [inside, ↓reduceIte]
      exact (clears rfl).resolve_left idle
  | _ => exact entries i low

/-- A step of `TaskKeyHandler`. -/
theorem Rated.keyHandler {s : Sys} {pc : HandlerPc} (before : Rated rates s)
    (ready : s.keyHandler = .ready pc)
    (honest : ∀ k ∈ pc.opens, ∀ sampleRate ∈ answer.header, sampleRate = rates k)
    (rule : pc.KeepsRate rates s answer) :
    Rated rates (s.keyHandlerNext (taskKeyHandler answer s.locals s.shared pc)) := by
  obtain ⟨press, entry, replay, call⟩ := before
  rw [ready, Task.all_ready] at press
  obtain ⟨_, _, _, _, _, _, _, _, same⟩ := taskKeyHandler_shared answer s.shared s.locals pc
  have song := taskKeyHandler_songNummer answer s.shared s.locals pc
  have rate := taskKeyHandler_rate answer s.shared s.locals pc
  have creates := taskKeyHandler_create answer s.shared s.locals pc
  have playing : (taskKeyHandler answer s.locals s.shared pc).shared.playingRecording =
      s.shared.playingRecording := by rw [same]
  have recording : (taskKeyHandler answer s.locals s.shared pc).shared.recordingPlaylist =
      pc.recordingPlaylist s.locals s.shared := by rw [same]
  have kept : pc.rate s.shared.codec.rate = s.shared.codec.rate ∨ s.NotReplaying := by
    cases pc with
    | start pc =>
      cases pc with
      | setRate sampleRate => exact rule.imp_left Eq.symm
      | _ => exact .inl rfl
    | execute pc => exact .inl (ExecutePc.OfSong.rate press.2 (press.1 rfl))
    | _ => exact .inl rfl
  have replays := Create.playRecordingTask_cases
    (taskKeyHandler answer s.locals s.shared pc).create s.playRecording
  refine ⟨?_, ?_, ?_, ?_⟩ <;> simp only [Sys.keyHandlerNext, song, rate, playing, recording]
  · exact taskKeyHandler_press answer press honest rule
  · refine entry.createPlay fun _ i here => ?_
    contradiction
  · rcases replays with old | ⟨created, absent, begin_⟩
    · rw [old]
      intro play here inside
      have busy : ¬s.NotReplaying := fun rests => by simp [rests play here] at inside
      have still := kept.resolve_right busy
      rw [still]
      refine HandlerPc.recordingPlaylist_rate (replay play here inside) (fun at_ => ?_)
        fun at_ => ?_
      · subst at_
        exact press.1 rfl
      · subst at_
        exact rule.imp_right fun rest => rest.resolve_left busy
    · rw [begin_, Task.all_ready]
      rw [created] at creates
      cases pc with
      | createPlay => exact fun _ => rule absent
      | _ => contradiction
  · refine Task.All.createPlay (fun play here => ?_) fun _ => trivial
    rcases kept with still | rests
    · rw [still]
      exact call play here
    · exact PlayPc.ofRate_outside (rests play here)

/-- In every state of a run that keeps to the rule the songs in use have the configured rate. -/
theorem Rated.run {x1 y1 : Nat} {trace : List Event} {s : Sys}
    (run : system.Run (KeepsRates rates) (.boot x1 y1) trace s) : Rated rates s := by
  refine run.stateInvariant (Rated rates) (.boot rates x1 y1) ?_
  rintro s act s' events before ⟨honest, rule⟩ step
  cases Sys.step_cases step with
  | report touch | keys button => exact { before with }
  | wakeReadSD asleep => exact { before with }
  | wakePlayRecording asleep =>
    obtain ⟨press, entry, replay, call⟩ := before
    rw [asleep, Task.all_asleep] at entry replay call
    exact ⟨press, (Task.all_ready _ _).mpr entry, (Task.all_ready _ _).mpr replay,
      (Task.all_ready _ _).mpr call⟩
  | wakeKeyHandler asleep =>
    have press := before.press
    rw [asleep, Task.all_asleep] at press
    exact { before with press := (Task.all_ready _ _).mpr press }
  | readSD answer ready =>
    simp only [KeepsRate, ready, Task.all_ready] at rule
    exact before.readSD answer rule
  | playRecording answer ready first =>
    simp only [HeadersSay, Sys.opens, ready, Task.pc?, Option.bind_some] at honest
    exact before.playRecording answer ready honest
  | keyHandler answer ready first second =>
    simp only [HeadersSay, Sys.opens, ready, Task.pc?, Option.bind_some] at honest
    simp only [KeepsRate, ready, Task.all_ready] at rule
    exact before.keyHandler answer ready honest rule

/-- In the runs that keep to the rule, frames are handed over at the rate of their song. -/
theorem rightRate_keepsRates {x1 y1 : Nat} {trace : List Event} {s : Sys} {act : Act}
    (run : system.Run (KeepsRates rates) (.boot x1 y1) trace s)
    (pushes : s.Pushes songnummer act) : s.shared.codec.rate = some (rates songnummer) := by
  obtain ⟨press, _, _, call⟩ := Rated.run run
  cases act with
  | report | keys | tick => exact absurd pushes id
  | run task answer =>
    cases task with
    | readSD => exact absurd pushes id
    | playRecording =>
      obtain ⟨_, _, i, j, here⟩ := pushes
      rw [here, Task.all_ready] at call
      obtain ⟨k, configured, own⟩ := call
      simp only [ExecutePc.OfSong] at own
      rw [own]
      exact configured
    | keyHandler =>
      obtain ⟨_, _, here⟩ := pushes
      rw [here, Task.all_ready] at press
      obtain ⟨configured, own⟩ := press
      simp only [HandlerPc.OfSong, ExecutePc.OfSong] at own
      rw [own]
      exact configured rfl

/-! ## Two songs of different rates -/

/-- The rates of a play list whose second song has another rate than the others. -/
def twoRates (songnummer : Int) : Int := if songnummer = 1 then 48000 else 44100

/-- A card with one song, and the finger on its button, up to a pass of the play loop. -/
def holdSong : List Act :=
  insertCard 1 ++ firstIteration ++ pressButton ⟨1, 50, 50⟩ ++ runs .keyHandler 5

/-- The song is played at its rate. -/
theorem rightRate_keepsRates_hold : ∃ trace s,
    system.Run (KeepsRates twoRates) (.boot 0 0) trace s ∧
      s.Pushes 0 (.run .keyHandler .yes) ∧ s.shared.codec.rate = some (twoRates 0) := by
  have steps : (system.execWithin (KeepsRates twoRates) holdSong [] (.boot 0 0)).map
      (fun run => run.2.keyHandler) = some (.ready (.execute (.body 0))) := by decide +kernel
  obtain ⟨⟨trace, s⟩, steps, here⟩ := Option.map_eq_some_iff.mp steps
  have run := Machine.Run.nil.execWithin steps
  have pushes : s.Pushes 0 (.run .keyHandler .yes) := ⟨rfl, rfl, here⟩
  exact ⟨trace, s, run, pushes, rightRate_keepsRates run pushes⟩

/-- A card with songs of some rates is found, mounted and listed. -/
def insertRates (sampleRates : List Int) : List Act :=
  runs .keyHandler 2 ++ runs .readSD 2 ++ [.tick .readSD] ++ runs .readSD 3 ++ [.tick .readSD] ++
    runs .readSD 3 ++
    sampleRates.flatMap (fun sampleRate =>
      [.run .readSD { Answer.yes with entry := .accepted },
        .run .readSD { Answer.yes with header := some sampleRate }] ++ (startRuns .readSD).tail) ++
    runs .readSD 4

/-- On a card with two songs of different rates, the finger presses the first button and slides
to the second. -/
def slideToRate : List Act :=
  insertRates [44100, 48000] ++ firstIteration ++ pressButton ⟨1, 50, 50⟩ ++ playPass ++
    [.report ⟨1, 180, 50⟩] ++ runs .keyHandler 5

/-- The second song is played at the rate of the first. -/
theorem slideToRate_points : (system.execWithin (HeadersSay twoRates) slideToRate []
    (.boot 0 0)).map (fun run =>
      ((run.2.keyHandler, run.2.shared.codec.rate),
        decide (HeadersSay twoRates run.2 (.run .keyHandler .yes)),
        (system.step (.run .keyHandler .yes) run.2).isSome)) =
    some ((.ready (.execute (.body 1)), some 44100), true, true) := by decide +kernel

/-- Without the rule, frames are handed over at the rate of another song. -/
theorem not_rightRate_slide : ∃ rates : Int → Int,
    (∀ songnummer, isSupporrtedSampleRate (rates songnummer) = true) ∧
      ¬RightRate rates (HeadersSay rates) := by
  refine ⟨twoRates, fun songnummer => ?_, fun right => ?_⟩
  · simp only [twoRates]
    split <;> decide
  · obtain ⟨⟨trace, s⟩, steps, same⟩ := Option.map_eq_some_iff.mp slideToRate_points
    obtain ⟨state, last⟩ := Prod.mk.inj same
    obtain ⟨here, rate⟩ := Prod.mk.inj state
    obtain ⟨honest, enabled⟩ := Prod.mk.inj last
    obtain ⟨⟨s', events⟩, step⟩ := Option.isSome_iff_exists.mp enabled
    have configured := right (Machine.Run.nil.execWithin steps) (of_decide_eq_true honest) step
      ⟨rfl, rfl, here⟩
    exact absurd (rate.symm.trans configured) (by decide)

end SoundBoard.Tasks
