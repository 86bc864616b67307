import SoundBoard.Tasks.Steps

/-!
# The volume keys

Two tasks call `handle_key`, which reads the edge capture register of the keys, clears it and
then decides on what it has read. A run notes the keys that are captured and those on which the
calls decide; `Taken` says that no key is lost between the two.
-/

namespace SoundBoard.Tasks

/-! ## Calls of handle_key -/

/-- The program point of `TaskPlayRecording` inside `handle_key`. -/
def PlayPc.keyPc : PlayPc → Option KeyPc
  | .key _ _ pc => some pc
  | _ => none

/-- The program point of `TaskKeyHandler` inside `handle_key`. -/
def HandlerPc.keyPc : HandlerPc → Option KeyPc
  | .loopKey pc | .key pc => some pc
  | _ => none

/-- The call of `handle_key` that `TaskPlayRecording` is in. -/
def Sys.playCall (s : Sys) : Option KeyPc := s.playRecording.pc?.bind PlayPc.keyPc

/-- The call of `handle_key` that `TaskKeyHandler` is in. -/
def Sys.handlerCall (s : Sys) : Option KeyPc := s.keyHandler.pc?.bind HandlerPc.keyPc

/-- The call after a step of it. -/
def Sub.call : Sub KeyPc Unit → Option KeyPc
  | .at pc | .sleep pc => some pc
  | .done _ => none

/-! ## Notes -/

/-- The keys for down and up. -/
def volumeKeys : List Nat := [1, 2]

/-- What a run notes about the keys. -/
inductive KeyNote where
  /-- A key is captured. -/
  | capture (key : Nat)
  /-- A call decides on the keys that it has read. -/
  | decide (button : Nat)
  deriving DecidableEq, Repr

/-- The volume keys of a button word that the register does not hold. -/
def newKeys (button edgeCap : Nat) : List KeyNote :=
  (volumeKeys.filter fun key => button.testBit key && !edgeCap.testBit key).map .capture

/-- The notes of a step of a call. -/
def KeyPc.notes (edgeCap : Nat) : KeyPc → List KeyNote
  -- keys that the other call has read too, and cleared: they count once for each call
  | .clear button => newKeys button edgeCap
  | .decide button => [.decide button]
  | _ => []

/-- The notes of a step. -/
def keyNotes (s : Sys) : Act → List KeyNote
  | .keys button => newKeys button s.shared.edgeCap
  | .run .playRecording _ => (s.playCall.map (KeyPc.notes s.shared.edgeCap)).getD []
  | .run .keyHandler _ => (s.handlerCall.map (KeyPc.notes s.shared.edgeCap)).getD []
  | _ => []

/-- The keys of a decision. -/
def KeyNote.decision : KeyNote → Option Nat
  | .capture _ => none
  | .decide button => some button

/-- The keys on which the calls have decided, in the order in which they read `volume`. -/
def decisions (notes : List KeyNote) : List Nat := notes.filterMap KeyNote.decision

/-- Decisions of two stretches. -/
@[simp] theorem decisions_append (notes more : List KeyNote) :
    decisions (notes ++ more) = decisions notes ++ decisions more := List.filterMap_append

/-- No notes. -/
@[simp] theorem decisions_nil : decisions [] = [] := rfl

/-- A decision. -/
@[simp] theorem decisions_decide (button : Nat) : decisions [.decide button] = [button] := rfl

/-- Keys that are captured are not decided on yet. -/
@[simp] theorem decisions_newKeys (button edgeCap : Nat) :
    decisions (newKeys button edgeCap) = [] := by
  simp [decisions, newKeys, List.filterMap_map, Function.comp_def, KeyNote.decision]

/-- A decision captures no key. -/
@[simp] theorem count_decide (key button : Nat) :
    List.count (KeyNote.capture key) [.decide button] = 0 := by
  simp

/-- A key is captured once where it is new. -/
theorem count_newKeys {key : Nat} (volumeKey : key ∈ volumeKeys) (button edgeCap : Nat) :
    (newKeys button edgeCap).count (.capture key) =
      (button.testBit key && !edgeCap.testBit key).toNat := by
  rcases List.mem_pair.mp volumeKey with rfl | rfl <;>
    cases one : button.testBit 1 && !edgeCap.testBit 1 <;>
      cases two : button.testBit 2 && !edgeCap.testBit 2 <;>
        simp [newKeys, volumeKeys, one, two]

/-! ## No key is lost -/

/-- A call has read a key, has cleared it and has not decided on it. -/
def KeyPc.holds (key : Nat) : KeyPc → Bool
  | .decide button => button.testBit key
  | _ => false

/-- Each captured volume key has been decided on, is held by one of two calls, or is still in the
register. -/
def Taken (edgeCap : Nat) (own other : Option KeyPc) (notes : List KeyNote) : Prop :=
  ∀ key ∈ volumeKeys, notes.count (.capture key) =
    (decisions notes).countP (fun button => button.testBit key) +
      (own.any (KeyPc.holds key)).toNat + (other.any (KeyPc.holds key)).toNat +
      (edgeCap.testBit key).toNat

/-- A call that has read the one clears no volume key of the other that it has not read. -/
def Covers (button edgeCap : Nat) : Prop :=
  ∀ key ∈ volumeKeys, edgeCap.testBit key = true → button.testBit key = true

instance (button edgeCap : Nat) : Decidable (Covers button edgeCap) :=
  inferInstanceAs (Decidable (∀ key ∈ volumeKeys, _))

variable {edgeCap : Nat} {own other : Option KeyPc} {notes : List KeyNote}

/-- The two calls are alike. -/
theorem Taken.symm (taken : Taken edgeCap own other notes) : Taken edgeCap other own notes := by
  intro key volumeKey
  rw [taken key volumeKey]
  omega

/-- Keys are pressed. -/
theorem Taken.keys (taken : Taken edgeCap own other notes) (button : Nat) :
    Taken (edgeCap ||| button) own other (notes ++ newKeys button edgeCap) := by
  intro key volumeKey
  have before := taken key volumeKey
  rw [List.count_append, count_newKeys volumeKey, before, decisions_append, decisions_newKeys,
    List.append_nil, Nat.testBit_or]
  cases edgeCap.testBit key <;> cases button.testBit key <;> simp

/-- Calls that hold no key make no difference. -/
theorem Taken.idle (taken : Taken edgeCap own other notes) {own' : Option KeyPc}
    (before : ∀ key, own.any (KeyPc.holds key) = false)
    (after : ∀ key, own'.any (KeyPc.holds key) = false) : Taken edgeCap own' other notes := by
  intro key volumeKey
  rw [after, ← before key]
  exact taken key volumeKey

/-- A step of a call that clears only what it has read. -/
theorem Taken.handleKey {shared : Shared} {pc : KeyPc} {answer : Answer}
    (taken : Taken shared.edgeCap (some pc) other notes)
    (reads : ∀ button, pc = .clear button → Covers button shared.edgeCap) :
    Taken (handleKey answer shared pc).2.edgeCap (handleKey answer shared pc).1.call other
      (notes ++ pc.notes shared.edgeCap) := by
  cases pc with
  | clear button =>
    intro key volumeKey
    have before := taken key volumeKey
    have read := reads button rfl key volumeKey
    rw [KeyPc.notes, List.count_append, count_newKeys volumeKey, before, decisions_append,
      decisions_newKeys, List.append_nil]
    simp only [SoundBoard.Tasks.handleKey, Sub.call, Option.any_some, KeyPc.holds]
    cases held : shared.edgeCap.testBit key with
    | true =>
      rw [read held]
      simp
      omega
    | false =>
      simp
      omega
  | decide button =>
    have decided : Taken shared.edgeCap none other (notes ++ [KeyNote.decide button]) := by
      intro key volumeKey
      rw [List.count_append, count_decide, taken key volumeKey, decisions_append,
        decisions_decide, List.countP_append]
      simp only [Option.any_some, Option.any_none, KeyPc.holds, List.countP_singleton]
      cases button.testBit key <;> simp
    simp only [SoundBoard.Tasks.handleKey, KeyPc.notes]
    split <;> exact decided.idle (fun _ => rfl) fun _ => rfl
  | left lVol rVol =>
    simp only [KeyPc.notes, List.append_nil]
    apply taken.idle (fun _ => rfl)
    simp only [SoundBoard.Tasks.handleKey, Sub.call]
    cases answer.ok <;> exact fun _ => rfl
  | _ =>
    simp only [KeyPc.notes, List.append_nil]
    exact taken.idle (fun _ => rfl) fun _ => rfl

/-! ## Steps outside the calls -/

/-- The volume and what goes with it. -/
def Shared.output (shared : Shared) : Nat × Bool × Nat × Nat :=
  (shared.volume, shared.bFirsTime2SetupVol, shared.codec.leftVol, shared.codec.rightVol)

/-- What `handle_key` reads and writes. -/
def Shared.keyState (shared : Shared) : Nat × Nat × Bool × Nat × Nat :=
  (shared.edgeCap, shared.output)

/-- There is no call, or it has not taken a step. -/
def atBegin (call : Option KeyPc) : Bool := call.all fun pc => pc == .capture

/-- Such a call holds no key. -/
theorem holds_of_atBegin {call : Option KeyPc} (begins : atBegin call = true) (key : Nat) :
    call.any (KeyPc.holds key) = false := by
  rcases call with _ | pc
  · rfl
  · obtain rfl : pc = .capture := by simpa [atBegin] using begins
    rfl

variable (answer : Answer) (shared : Shared)

/-- `waveplay_start` leaves the keys and the volume alone. -/
theorem waveplayStart_keyState (pc : StartPc) :
    (waveplayStart answer shared pc).2.keyState = shared.keyState := by
  cases pc with
  | body songnummer =>
    simp only [waveplayStart]
    split <;> rfl
  | _ => rfl

/-- So does `waveplay_execute`. -/
theorem waveplayExecute_keyState (pc : ExecutePc) :
    (waveplayExecute answer shared pc).2.keyState = shared.keyState := by
  cases pc with
  | body songnummer =>
    simp only [waveplayExecute]
    split <;> rfl
  | restart pc =>
    have same := waveplayStart_keyState answer shared pc
    simp only [waveplayExecute]
    split <;> simp_all
  | ret bSuccess => rfl

/-- `TaskReadSD` leaves the keys and the volume alone. -/
theorem taskReadSD_keyState (pc : ReadPc) :
    (taskReadSD answer shared pc).shared.keyState = shared.keyState := by
  cases pc with
  | listStart count pc => exact waveplayStart_keyState answer shared pc
  | insertInit first =>
    simp only [taskReadSD]
    split
    · rfl
    · split
      · rfl
      · split <;> rfl
  | mountInit nTry =>
    simp only [taskReadSD]
    split
    · rfl
    · split
      · rfl
      · split <;> rfl
  | mountRead =>
    simp only [taskReadSD]
    split <;> rfl
  | listNext count =>
    simp only [taskReadSD]
    split <;> rfl
  | _ => rfl

/-- Outside its calls `TaskPlayRecording` leaves the keys and the volume alone, and at most
begins one. -/
theorem taskPlayRecording_outside {pc : PlayPc} (outside : pc.keyPc = none) :
    (taskPlayRecording answer shared pc).shared.keyState = shared.keyState ∧
      atBegin ((taskPlayRecording answer shared pc).task.pc?.bind PlayPc.keyPc) = true := by
  cases pc with
  | key i j pc => contradiction
  | execute i j pc =>
    refine ⟨waveplayExecute_keyState answer shared pc, ?_⟩
    simp only [taskPlayRecording]
    cases (waveplayExecute answer shared pc).1 <;> rfl
  | forJ i j =>
    simp only [taskPlayRecording]
    split <;> exact ⟨rfl, rfl⟩
  | forI | whileTest =>
    simp only [taskPlayRecording]
    split <;> exact ⟨trivial, rfl⟩
  | pollY i j x | pollEntryY i x =>
    obtain ⟨_, same⟩ := pollStop_shared shared x
    simp only [taskPlayRecording, same]
    exact ⟨rfl, rfl⟩
  | _ => exact ⟨rfl, rfl⟩

/-- Inside, its step is one of `handle_key`. -/
theorem taskPlayRecording_inside {pc : PlayPc} {key : KeyPc} (inside : pc.keyPc = some key) :
    (taskPlayRecording answer shared pc).shared = (handleKey answer shared key).2 ∧
      (taskPlayRecording answer shared pc).task.pc?.bind PlayPc.keyPc =
        (handleKey answer shared key).1.call := by
  cases pc with
  | key i j pc =>
    obtain rfl : pc = key := Option.some.inj inside
    refine ⟨rfl, ?_⟩
    simp only [taskPlayRecording]
    cases (handleKey answer shared pc).1 <;> rfl
  | _ => contradiction

/-- Outside its calls `TaskKeyHandler` leaves the keys and the volume alone, and at most begins
one. -/
theorem taskKeyHandler_outside (locals : Locals) {pc : HandlerPc} (outside : pc.keyPc = none) :
    (taskKeyHandler answer locals shared pc).shared.keyState = shared.keyState ∧
      atBegin ((taskKeyHandler answer locals shared pc).task.pc?.bind HandlerPc.keyPc) = true := by
  cases pc with
  | loopKey pc | key pc => contradiction
  | start pc =>
    refine ⟨waveplayStart_keyState answer shared pc, ?_⟩
    simp only [taskKeyHandler]
    cases (waveplayStart answer shared pc).1 <;> rfl
  | execute pc =>
    refine ⟨waveplayExecute_keyState answer shared pc, ?_⟩
    simp only [taskKeyHandler]
    cases (waveplayExecute answer shared pc).1 with
    | done ok => cases ok <;> rfl
    | _ => rfl
  | toggle | afterLoop =>
    simp only [taskKeyHandler, Shared.toggleRecording]
    split <;> exact ⟨rfl, rfl⟩
  | head | touch | songCheck | loopTest | loopReady | recordY | recordTouch | playY | playTouch
  | playFlag =>
    simp only [taskKeyHandler]
    split <;> exact ⟨trivial, rfl⟩
  | _ => exact ⟨rfl, rfl⟩

/-- Inside, its step is one of `handle_key`. -/
theorem taskKeyHandler_inside (locals : Locals) {pc : HandlerPc} {key : KeyPc}
    (inside : pc.keyPc = some key) :
    (taskKeyHandler answer locals shared pc).shared = (handleKey answer shared key).2 ∧
      (taskKeyHandler answer locals shared pc).task.pc?.bind HandlerPc.keyPc =
        (handleKey answer shared key).1.call := by
  cases pc with
  | key pc =>
    obtain rfl : pc = key := Option.some.inj inside
    refine ⟨rfl, ?_⟩
    simp only [taskKeyHandler]
    cases (handleKey answer shared pc).1 <;> rfl
  | loopKey pc =>
    obtain rfl : pc = key := Option.some.inj inside
    simp only [taskKeyHandler]
    rcases handleKey answer shared pc with ⟨sub, next⟩
    cases sub <;> exact ⟨rfl, rfl⟩
  | _ => contradiction

end SoundBoard.Tasks
