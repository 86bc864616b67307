import SoundBoard.Tasks.Keys

/-!
# The volume

`handle_key` reads `volume`, writes it, and writes both output registers of the codec, and two
tasks call it without a lock. The calls' keys, in the order in which the calls read `volume`, say
what it ought to be; the rule `KeepsVolume` says which overlaps of two calls keep to that.
-/

namespace SoundBoard.Tasks

open SoundBoard.Lib

/-! ## The property -/

/-- A step up for the one key and a step down for the other, within the limits. -/
def keyStep (volume button : Nat) : Nat :=
  let volume := if button.testBit 2 then min (volume + 1) hwMaxVol else volume
  if button.testBit 1 then max (volume - 1) hwMinVol else volume

/-- The volume that the keys of some calls ask for. -/
def keyVolume (decided : List Nat) : Nat := decided.foldl keyStep hwDefaultVol

/-- The volume that a call is about to write. -/
def KeyPc.stores : KeyPc → Option Nat
  | .store nHwVol => some nHwVol
  | _ => none

/-- No key is lost, the volume is what the keys ask for unless a call is about to write it, and
after a call both output registers have it. -/
structure InTrack (s : Sys) (notes : List KeyNote) : Prop where
  range : hwMinVol ≤ s.shared.volume ∧ s.shared.volume ≤ hwMaxVol
  taken : Taken s.shared.edgeCap s.handlerCall s.playCall notes
  steps : s.playCall.bind KeyPc.stores = none → s.handlerCall.bind KeyPc.stores = none →
    s.shared.volume = keyVolume (decisions notes)
  registers : s.playCall = none → s.handlerCall = none → decisions notes ≠ [] →
    s.shared.codec.leftVol % 128 = s.shared.volume ∧
      s.shared.codec.rightVol % 128 = s.shared.volume

/-- In every state of the runs under a guard, the volume is in track. -/
def KeepsTrack (guard : Sys → Act → Prop) : Prop :=
  ∀ {x1 y1 : Nat} {notes : List KeyNote} {s : Sys},
    (system.watch keyNotes).Run guard (.boot x1 y1) notes s → InTrack s notes

/-- The write of a codec register is acknowledged. -/
def KeyPc.Acknowledged (answer : Answer) : KeyPc → Prop
  | .left _ _ => answer.ok = true
  | _ => True

/-- A step whose codec writes succeed. -/
def Acknowledged (s : Sys) : Act → Prop
  | .run .playRecording answer => ∀ pc ∈ s.playCall, pc.Acknowledged answer
  | .run .keyHandler answer => ∀ pc ∈ s.handlerCall, pc.Acknowledged answer
  | _ => True

/-! ## The rule -/

/-- A call that has still to write the left register, with the volume as it is. -/
def KeyPc.renewsLeft (volume : Nat) : KeyPc → Bool
  | .store _ | .loadLeft => true
  | .loadRight lVol | .left lVol _ => lVol = volume
  | _ => false

/-- A call that has still to write the right register, with the volume as it is. -/
def KeyPc.renewsRight (volume : Nat) : KeyPc → Bool
  | .store _ | .loadLeft | .loadRight _ => true
  | .left _ rVol | .right rVol => rVol = volume
  | _ => false

/-- The rule for a call beside another: it clears no key that it has not read; it acts on one
key, and on none when it is the first; it does not read `volume` while the other is about to write
it; and it does not write an old volume to a register behind the other's write. -/
def KeyPc.Keeps (shared : Shared) (other : Option KeyPc) : KeyPc → Prop
  | .clear button => Covers button shared.edgeCap
  | .decide button =>
    (button.testBit 2 = true → button.testBit 1 = false) ∧
      (shared.bFirsTime2SetupVol = true → button.testBit 2 = false ∧ button.testBit 1 = false) ∧
      (newVolume shared.bFirsTime2SetupVol button shared.volume ≠ none →
        other.bind KeyPc.stores = none)
  | .left lVol _ => lVol = shared.volume ∨ other.any (KeyPc.renewsLeft shared.volume) = true
  | .right rVol => rVol = shared.volume ∨ other.any (KeyPc.renewsRight shared.volume) = true
  | _ => True

/-- A step that keeps the volume in track. -/
def KeepsVolume (s : Sys) (act : Act) : Prop :=
  Acknowledged s act ∧
    match act with
    | .run .playRecording _ => ∀ pc ∈ s.playCall, pc.Keeps s.shared s.handlerCall
    | .run .keyHandler _ => ∀ pc ∈ s.handlerCall, pc.Keeps s.shared s.playCall
    | _ => True

instance (answer : Answer) : DecidablePred (KeyPc.Acknowledged answer)
  | .left _ _ => inferInstanceAs (Decidable (answer.ok = true))
  | .capture | .clear _ | .decide _ | .store _ | .loadLeft | .loadRight _ | .right _ | .ret =>
    .isTrue trivial

instance (shared : Shared) (other : Option KeyPc) : DecidablePred (KeyPc.Keeps shared other)
  | .clear button => inferInstanceAs (Decidable (Covers button shared.edgeCap))
  | .decide button => inferInstanceAs (Decidable
    ((button.testBit 2 = true → button.testBit 1 = false) ∧
      (shared.bFirsTime2SetupVol = true → button.testBit 2 = false ∧ button.testBit 1 = false) ∧
      (newVolume shared.bFirsTime2SetupVol button shared.volume ≠ none →
        other.bind KeyPc.stores = none)))
  | .left lVol _ => inferInstanceAs
    (Decidable (lVol = shared.volume ∨ other.any (KeyPc.renewsLeft shared.volume) = true))
  | .right rVol => inferInstanceAs
    (Decidable (rVol = shared.volume ∨ other.any (KeyPc.renewsRight shared.volume) = true))
  | .capture | .store _ | .loadLeft | .loadRight _ | .ret => .isTrue trivial

instance (s : Sys) : DecidablePred (Acknowledged s)
  | .run .playRecording answer =>
    inferInstanceAs (Decidable (∀ pc ∈ s.playCall, pc.Acknowledged answer))
  | .run .keyHandler answer =>
    inferInstanceAs (Decidable (∀ pc ∈ s.handlerCall, pc.Acknowledged answer))
  | .run .readSD _ | .report _ | .keys _ | .tick _ => .isTrue trivial

instance (s : Sys) : DecidablePred (KeepsVolume s)
  | .run .playRecording answer => inferInstanceAs (Decidable
    (Acknowledged s (.run .playRecording answer) ∧
      ∀ pc ∈ s.playCall, pc.Keeps s.shared s.handlerCall))
  | .run .keyHandler answer => inferInstanceAs (Decidable
    (Acknowledged s (.run .keyHandler answer) ∧
      ∀ pc ∈ s.handlerCall, pc.Keeps s.shared s.playCall))
  | .run .readSD _ | .report _ | .keys _ | .tick _ => .isTrue ⟨trivial, trivial⟩

/-! ## Volumes -/

/-- The volumes that keys ask for are within the limits. -/
theorem keyVolume_range (decided : List Nat) :
    hwMinVol ≤ keyVolume decided ∧ keyVolume decided ≤ hwMaxVol := by
  have kept : ∀ volume button, hwMinVol ≤ volume ∧ volume ≤ hwMaxVol →
      hwMinVol ≤ keyStep volume button ∧ keyStep volume button ≤ hwMaxVol := by
    intro volume button range
    simp only [hwMinVol, hwMaxVol, keyStep] at *
    split <;> split <;> omega
  induction decided using List.reverseRecOn with
  | nil => decide
  | append_singleton decided button ih =>
    rw [keyVolume, List.foldl_append]
    exact kept _ _ ih

/-- A call after the others asks for one step more. -/
theorem keyVolume_snoc (decided : List Nat) (button : Nat) :
    keyVolume (decided ++ [button]) = keyStep (keyVolume decided) button :=
  List.foldl_append

/-- A call that acts on at most one key, and on none when it is the first, makes that step. -/
theorem newVolume_keyStep {first : Bool} {button volume : Nat}
    (range : hwMinVol ≤ volume ∧ volume ≤ hwMaxVol)
    (one : button.testBit 2 = true → button.testBit 1 = false)
    (quiet : first = true → button.testBit 2 = false ∧ button.testBit 1 = false) :
    (newVolume first button volume).getD volume = keyStep volume button := by
  cases first with
  | true =>
    obtain ⟨up, down⟩ := quiet rfl
    simp [newVolume, keyStep, up, down]
  | false =>
    cases up : button.testBit 2 with
    | true =>
      have down := one up
      have rises : (if volume < hwMaxVol then volume + 1 else volume) =
          min (volume + 1) hwMaxVol := by
        split <;> omega
      simp [newVolume, keyStep, up, down, rises]
    | false =>
      cases down : button.testBit 1 with
      | true =>
        have falls : (if hwMinVol < volume then volume - 1 else volume) =
            max (volume - 1) hwMinVol := by
          split <;> omega
        simp [newVolume, keyStep, up, down, falls]
      | false => simp [newVolume, keyStep, up, down]

/-- A call that writes no volume is not the first, and its keys ask for no step. -/
theorem keyStep_of_none {first : Bool} {button volume : Nat}
    (none : newVolume first button volume = none) :
    first = false ∧ ∀ before, keyStep before button = before := by
  cases first with
  | true => contradiction
  | false =>
    refine ⟨rfl, fun before => ?_⟩
    cases up : button.testBit 2 <;> cases down : button.testBit 1 <;>
      simp_all [newVolume, keyStep]

/-- The new bits of a volume register. -/
theorem setVolBits_mod (control : Nat) {vol : Nat} (bound : vol ≤ hwMaxVol) :
    setVolBits control vol % 128 = vol := by
  simp only [setVolBits, hwMaxVol] at *
  omega

/-! ## Two calls -/

/-- Volume, registers and two calls that may be under way fit the keys on which calls have
chosen. -/
structure Balanced (shared : Shared) (own other : Option KeyPc) (decided : List Nat) : Prop where
  range : hwMinVol ≤ shared.volume ∧ shared.volume ≤ hwMaxVol
  first : shared.bFirsTime2SetupVol = true → decided = []
  ownStores : ∀ n, own.bind KeyPc.stores = some n →
    n = keyVolume decided ∧ other.bind KeyPc.stores = none
  otherStores : ∀ n, other.bind KeyPc.stores = some n →
    n = keyVolume decided ∧ own.bind KeyPc.stores = none
  stored : own.bind KeyPc.stores = none → other.bind KeyPc.stores = none →
    shared.volume = keyVolume decided
  left : shared.bFirsTime2SetupVol = false → shared.codec.leftVol % 128 = shared.volume ∨
    own.any (KeyPc.renewsLeft shared.volume) = true ∨
      other.any (KeyPc.renewsLeft shared.volume) = true
  right : shared.bFirsTime2SetupVol = false → shared.codec.rightVol % 128 = shared.volume ∨
    own.any (KeyPc.renewsRight shared.volume) = true ∨
      other.any (KeyPc.renewsRight shared.volume) = true

/-- The two calls are alike. -/
theorem Balanced.symm {shared : Shared} {own other : Option KeyPc} {decided : List Nat}
    (balanced : Balanced shared own other decided) : Balanced shared other own decided where
  range := balanced.range
  first := balanced.first
  ownStores := balanced.otherStores
  otherStores := balanced.ownStores
  stored first second := balanced.stored second first
  left set := (balanced.left set).imp_right Or.symm
  right set := (balanced.right set).imp_right Or.symm

/-- A call that has nothing to write. -/
def KeyPc.quiet : KeyPc → Bool
  | .capture | .clear _ | .decide _ | .ret => true
  | _ => false

/-- Calls that have nothing to write make no difference. -/
theorem Balanced.quiet {shared : Shared} {own other own' : Option KeyPc} {decided : List Nat}
    (balanced : Balanced shared own other decided) (before : own.all KeyPc.quiet = true)
    (after : own'.all KeyPc.quiet = true) : Balanced shared own' other decided := by
  have idle (call : Option KeyPc) (quiet : call.all KeyPc.quiet = true) :
      call.bind KeyPc.stores = none ∧ call.any (KeyPc.renewsLeft shared.volume) = false ∧
        call.any (KeyPc.renewsRight shared.volume) = false := by
    rcases call with _ | pc
    · exact ⟨rfl, rfl, rfl⟩
    · cases pc with
      | store | loadLeft | loadRight | left | right => contradiction
      | _ => exact ⟨rfl, rfl, rfl⟩
  obtain ⟨stores, left, right⟩ := idle own before
  obtain ⟨stores', left', right'⟩ := idle own' after
  constructor
  · exact balanced.range
  · exact balanced.first
  · intro n owed
    rw [stores'] at owed
    contradiction
  · intro n owed
    exact ⟨(balanced.otherStores n owed).1, stores'⟩
  · intro _ none
    exact balanced.stored stores none
  · intro set
    rw [left', ← left]
    exact balanced.left set
  · intro set
    rw [right', ← right]
    exact balanced.right set

/-- A call that loads the volume still writes it to the registers. -/
theorem Balanced.loads {shared : Shared} {pc pc' : KeyPc} {other : Option KeyPc}
    {decided : List Nat} (balanced : Balanced shared (some pc) other decided)
    (before : pc.stores = none) (after : pc'.stores = none)
    (left : pc.renewsLeft shared.volume = true → pc'.renewsLeft shared.volume = true)
    (right : pc.renewsRight shared.volume = true → pc'.renewsRight shared.volume = true) :
    Balanced shared (some pc') other decided where
  range := balanced.range
  first := balanced.first
  ownStores n owed := by
    rw [Option.bind_some, after] at owed
    contradiction
  otherStores n owed := ⟨(balanced.otherStores n owed).1, after⟩
  stored _ idle := balanced.stored before idle
  left set := (balanced.left set).imp_right (Or.imp_left left)
  right set := (balanced.right set).imp_right (Or.imp_left right)

/-- A step of a call that keeps to the rule. -/
theorem Balanced.handleKey {shared : Shared} {pc : KeyPc} {other : Option KeyPc}
    {decided : List Nat} {answer : Answer}
    (balanced : Balanced shared (some pc) other decided) (acknowledged : pc.Acknowledged answer)
    (keeps : pc.Keeps shared other) :
    Balanced (handleKey answer shared pc).2 (handleKey answer shared pc).1.call other
      (decided ++ decisions (pc.notes shared.edgeCap)) := by
  cases pc with
  | decide button =>
    obtain ⟨one, quiet, alone⟩ := keeps
    cases chosen : newVolume shared.bFirsTime2SetupVol button shared.volume with
    | none =>
      obtain ⟨set, still⟩ := keyStep_of_none chosen
      have kept : keyVolume (decided ++ [button]) = keyVolume decided := by
        rw [keyVolume_snoc, still]
      have next : Balanced shared Option.none other decided := balanced.quiet rfl rfl
      simp only [SoundBoard.Tasks.handleKey, chosen, Sub.call, KeyPc.notes, decisions_decide]
      constructor
      · exact next.range
      · intro unset
        rw [set] at unset
        contradiction
      · rw [kept]
        exact next.ownStores
      · rw [kept]
        exact next.otherStores
      · rw [kept]
        exact next.stored
      · exact next.left
      · exact next.right
    | some nHwVol =>
      have made := newVolume_keyStep balanced.range one quiet
      rw [chosen, Option.getD_some] at made
      have idle := alone (by simp [chosen])
      have due : nHwVol = keyVolume (decided ++ [button]) := by
        rw [keyVolume_snoc, ← balanced.stored rfl idle, made]
      simp only [SoundBoard.Tasks.handleKey, chosen, Sub.call, KeyPc.notes, decisions_decide]
      constructor
      · exact balanced.range
      · intro set
        contradiction
      · intro n owed
        obtain rfl : nHwVol = n := Option.some.inj owed
        exact ⟨due, idle⟩
      · intro n owed
        rw [idle] at owed
        contradiction
      · intro none _
        contradiction
      · exact fun _ => .inr (.inl rfl)
      · exact fun _ => .inr (.inl rfl)
  | store nHwVol =>
    obtain ⟨due, idle⟩ := balanced.ownStores nHwVol rfl
    have range := keyVolume_range decided
    rw [← due] at range
    simp only [SoundBoard.Tasks.handleKey, Sub.call, KeyPc.notes, decisions_nil, List.append_nil]
    constructor
    · exact range
    · exact balanced.first
    · intro n owed
      contradiction
    · intro n owed
      rw [idle] at owed
      contradiction
    · exact fun _ _ => due
    · exact fun _ => .inr (.inl rfl)
    · exact fun _ => .inr (.inl rfl)
  | loadLeft =>
    simp only [SoundBoard.Tasks.handleKey, Sub.call, KeyPc.notes, decisions_nil, List.append_nil]
    exact balanced.loads rfl rfl (fun _ => decide_eq_true rfl) fun _ => rfl
  | loadRight lVol =>
    simp only [SoundBoard.Tasks.handleKey, Sub.call, KeyPc.notes, decisions_nil, List.append_nil]
    exact balanced.loads rfl rfl (fun kept => kept) fun _ => decide_eq_true rfl
  | left lVol rVol =>
    have acknowledged : answer.ok = true := acknowledged
    simp only [SoundBoard.Tasks.handleKey, Sub.call, KeyPc.notes, decisions_nil, List.append_nil,
      acknowledged, if_true]
    constructor
    · exact balanced.range
    · exact balanced.first
    · intro n owed
      contradiction
    · intro n owed
      exact ⟨(balanced.otherStores n owed).1, rfl⟩
    · exact fun _ idle => balanced.stored rfl idle
    · intro _
      rcases keeps with rfl | renews
      · exact .inl (setVolBits_mod _ balanced.range.2)
      · exact .inr (.inr renews)
    · exact balanced.right
  | right rVol =>
    simp only [SoundBoard.Tasks.handleKey, Sub.call, KeyPc.notes, decisions_nil, List.append_nil]
    constructor
    · exact balanced.range
    · exact balanced.first
    · intro n owed
      contradiction
    · intro n owed
      exact ⟨(balanced.otherStores n owed).1, rfl⟩
    · exact fun _ idle => balanced.stored rfl idle
    · exact balanced.left
    · intro _
      rcases keeps with rfl | renews
      · exact .inl (setVolBits_mod _ balanced.range.2)
      · exact .inr (.inr renews)
  | capture =>
    simp only [KeyPc.notes, decisions_nil, List.append_nil]
    exact balanced.quiet rfl rfl
  | clear button =>
    simp only [KeyPc.notes, decisions_newKeys, List.append_nil]
    have next : Balanced shared (some (.decide button)) other decided := balanced.quiet rfl rfl
    exact { next with }
  | ret =>
    simp only [KeyPc.notes, decisions_nil, List.append_nil]
    exact balanced.quiet rfl rfl

/-! ## Steps outside the calls -/

/-- Nothing else matters. -/
theorem Balanced.congr {shared shared' : Shared} {own other : Option KeyPc} {decided : List Nat}
    (balanced : Balanced shared own other decided) (same : shared'.output = shared.output) :
    Balanced shared' own other decided := by
  simp only [Shared.output, Prod.mk.injEq] at same
  obtain ⟨volume, first, left, right⟩ := same
  constructor
  · rw [volume]
    exact balanced.range
  · rw [first]
    exact balanced.first
  · exact balanced.ownStores
  · exact balanced.otherStores
  · rw [volume]
    exact balanced.stored
  · rw [volume, first, left]
    exact balanced.left
  · rw [volume, first, right]
    exact balanced.right

/-! ## Runs -/

/-- Keys, volume and registers fit two calls that may be under way. -/
structure Fits (shared : Shared) (own other : Option KeyPc) (notes : List KeyNote) : Prop where
  taken : Taken shared.edgeCap own other notes
  balanced : Balanced shared own other (decisions notes)

/-- The two calls are alike. -/
theorem Fits.symm {shared : Shared} {own other : Option KeyPc} {notes : List KeyNote}
    (fits : Fits shared own other notes) : Fits shared other own notes :=
  ⟨fits.taken.symm, fits.balanced.symm⟩

/-- A step outside the calls, which may begin one. -/
theorem Fits.outside {shared shared' : Shared} {own' other : Option KeyPc} {notes : List KeyNote}
    (fits : Fits shared none other notes) (same : shared'.keyState = shared.keyState)
    (begins : atBegin own' = true) : Fits shared' own' other notes := by
  obtain ⟨edgeCap, output⟩ := Prod.mk.inj same
  have quiet : own'.all KeyPc.quiet = true := by
    rcases own' with _ | pc
    · rfl
    · obtain rfl : pc = .capture := by simpa [atBegin] using begins
      rfl
  constructor
  · rw [edgeCap]
    exact fits.taken.idle (fun _ => rfl) (holds_of_atBegin begins)
  · exact (fits.balanced.quiet rfl quiet).congr output

/-- A step of a call that keeps to the rule. -/
theorem Fits.handleKey {shared : Shared} {pc : KeyPc} {other : Option KeyPc}
    {notes : List KeyNote} {answer : Answer} (fits : Fits shared (some pc) other notes)
    (acknowledged : pc.Acknowledged answer) (keeps : pc.Keeps shared other) :
    Fits (handleKey answer shared pc).2 (handleKey answer shared pc).1.call other
      (notes ++ pc.notes shared.edgeCap) := by
  constructor
  · apply fits.taken.handleKey
    rintro button rfl
    exact keeps
  · rw [decisions_append]
    exact fits.balanced.handleKey acknowledged keeps

/-- The keys and the volume fit the two calls of a state. -/
def Sys.InBalance (s : Sys) (notes : List KeyNote) : Prop :=
  Fits s.shared s.handlerCall s.playCall notes

/-- The system starts so. -/
theorem Sys.InBalance.boot (x1 y1 : Nat) : (Sys.boot x1 y1).InBalance [] := by
  have limits : hwMinVol ≤ hwDefaultVol ∧ hwDefaultVol ≤ hwMaxVol := by decide
  constructor
  · intro key volumeKey
    simp [Sys.boot, Shared.boot, Sys.handlerCall, Sys.playCall, Task.pc?, HandlerPc.keyPc]
  · refine ⟨limits, fun _ => rfl, ?_, ?_, fun _ _ => rfl, ?_, ?_⟩
    · intro n owed
      contradiction
    · intro n owed
      contradiction
    · intro set
      contradiction
    · intro set
      contradiction

/-- A step of `TaskPlayRecording`. -/
theorem Sys.InBalance.playRecording {s : Sys} {notes : List KeyNote} {pc : PlayPc}
    {answer : Answer} (balanced : s.InBalance notes) (ready : s.playRecording = .ready pc)
    (keeps : KeepsVolume s (.run .playRecording answer)) :
    (s.playRecordingNext (taskPlayRecording answer s.shared pc)).InBalance
      (notes ++ keyNotes s (.run .playRecording answer)) := by
  have call : s.playCall = pc.keyPc := by
    rw [Sys.playCall, ready]
    rfl
  have before := Fits.symm balanced
  rw [call] at before
  apply Fits.symm
  show Fits (taskPlayRecording answer s.shared pc).shared
    ((taskPlayRecording answer s.shared pc).task.pc?.bind PlayPc.keyPc) s.handlerCall _
  simp only [keyNotes, call]
  cases inside : pc.keyPc with
  | none =>
    obtain ⟨same, begins⟩ := taskPlayRecording_outside answer s.shared inside
    rw [inside] at before
    rw [Option.map_none, Option.getD_none, List.append_nil]
    exact before.outside same begins
  | some key =>
    obtain ⟨shared, after⟩ := taskPlayRecording_inside answer s.shared inside
    obtain ⟨acknowledged, rule⟩ := keeps
    rw [inside] at before
    rw [shared, after]
    exact before.handleKey (acknowledged key (call.trans inside)) (rule key (call.trans inside))

/-- A step of `TaskKeyHandler`. -/
theorem Sys.InBalance.keyHandler {s : Sys} {notes : List KeyNote} {pc : HandlerPc}
    {answer : Answer} (balanced : s.InBalance notes) (ready : s.keyHandler = .ready pc)
    (keeps : KeepsVolume s (.run .keyHandler answer)) :
    (s.keyHandlerNext (taskKeyHandler answer s.locals s.shared pc)).InBalance
      (notes ++ keyNotes s (.run .keyHandler answer)) := by
  have call : s.handlerCall = pc.keyPc := by
    rw [Sys.handlerCall, ready]
    rfl
  have before : Fits s.shared pc.keyPc s.playCall notes := call ▸ balanced
  have other : (s.keyHandlerNext (taskKeyHandler answer s.locals s.shared pc)).playCall =
      s.playCall := by
    simp only [Sys.playCall, Sys.keyHandlerNext]
    rcases Create.playRecordingTask_cases (taskKeyHandler answer s.locals s.shared pc).create
      s.playRecording with old | ⟨_, absent, created⟩
    · rw [old]
    · rw [created, absent]
      rfl
  show Fits (taskKeyHandler answer s.locals s.shared pc).shared
    ((taskKeyHandler answer s.locals s.shared pc).task.pc?.bind HandlerPc.keyPc) _ _
  rw [other]
  simp only [keyNotes, call]
  cases inside : pc.keyPc with
  | none =>
    obtain ⟨same, begins⟩ := taskKeyHandler_outside answer s.shared s.locals inside
    rw [inside] at before
    rw [Option.map_none, Option.getD_none, List.append_nil]
    exact before.outside same begins
  | some key =>
    obtain ⟨shared, after⟩ := taskKeyHandler_inside answer s.shared s.locals inside
    obtain ⟨acknowledged, rule⟩ := keeps
    rw [inside] at before
    rw [shared, after]
    exact before.handleKey (acknowledged key (call.trans inside)) (rule key (call.trans inside))

/-- The keys and the volume fit the calls in every state of a run that keeps to the rule. -/
theorem Sys.InBalance.run {x1 y1 : Nat} {notes : List KeyNote} {s : Sys}
    (run : (system.watch keyNotes).Run KeepsVolume (.boot x1 y1) notes s) :
    s.InBalance notes := by
  refine run.invariant (fun notes s => s.InBalance notes) (Sys.InBalance.boot x1 y1) ?_
  intro notes s act s' noted balanced keeps step
  obtain ⟨rfl, events, step⟩ := Machine.watch_step.mp step
  cases Sys.step_cases step with
  | report touch =>
    simp only [keyNotes, List.append_nil]
    exact ⟨balanced.taken, balanced.balanced.congr rfl⟩
  | keys button =>
    constructor
    · exact balanced.taken.keys button
    · rw [decisions_append, keyNotes, decisions_newKeys, List.append_nil]
      exact balanced.balanced.congr rfl
  | wakeReadSD asleep =>
    simp only [keyNotes, List.append_nil]
    exact balanced
  | wakePlayRecording asleep | wakeKeyHandler asleep =>
    simp only [keyNotes, List.append_nil]
    rw [Sys.InBalance, Sys.handlerCall, Sys.playCall, asleep] at balanced
    exact balanced
  | readSD answer ready =>
    simp only [keyNotes, List.append_nil]
    obtain ⟨edgeCap, output⟩ := Prod.mk.inj (taskReadSD_keyState answer s.shared _)
    exact ⟨edgeCap ▸ balanced.taken, balanced.balanced.congr output⟩
  | playRecording answer ready first => exact balanced.playRecording ready keeps
  | keyHandler answer ready first second => exact balanced.keyHandler ready keeps

/-- In the runs that keep to the rule, the volume is in track. -/
theorem inTrack_keepsVolume {x1 y1 : Nat} {notes : List KeyNote} {s : Sys}
    (run : (system.watch keyNotes).Run KeepsVolume (.boot x1 y1) notes s) : InTrack s notes := by
  obtain ⟨taken, balanced⟩ := Sys.InBalance.run run
  constructor
  · exact balanced.range
  · exact taken
  · intro play handler
    exact balanced.stored handler play
  · intro play handler called
    rw [play, handler] at balanced
    have set : s.shared.bFirsTime2SetupVol = false := by
      cases first : s.shared.bFirsTime2SetupVol with
      | false => rfl
      | true => exact absurd (balanced.first first) called
    constructor
    · simpa using balanced.left set
    · simpa using balanced.right set

/-- `TaskKeyHandler` makes a step up and sleeps between its two registers; the replay makes
another, and writes the right register behind the old volume. -/
def stepUpTwice : List Act :=
  insertCard 1 ++ firstIteration ++ recordPress ++ touchPlay ++ restartSong ++ [.keys 4] ++
    runs .keyHandler 7 ++ [.keys 4, .tick .playRecording] ++ runs .playRecording 1 ++
    [.tick .playRecording] ++ runs .playRecording 1 ++ [.tick .playRecording] ++
    runs .playRecording 9 ++ [.tick .keyHandler] ++ runs .keyHandler 1 ++ [.tick .keyHandler] ++
    runs .keyHandler 1 ++ [.tick .playRecording] ++ runs .playRecording 1 ++
    [.tick .playRecording] ++ runs .playRecording 1

/-- Both steps are made. -/
theorem inTrack_keepsVolume_twice : ∃ notes s,
    (system.watch keyNotes).Run KeepsVolume (.boot 0 0) notes s ∧
      notes.count (.capture 2) = 2 ∧ keyVolume (decisions notes) = 122 ∧
      s.playCall = none ∧ s.handlerCall = none ∧ InTrack s notes := by
  have steps : ((system.watch keyNotes).execWithin KeepsVolume stepUpTwice [] (.boot 0 0)).map
      (fun run => (run.1.count (.capture 2), keyVolume (decisions run.1), run.2.playCall,
        run.2.handlerCall)) = some (2, 122, none, none) := by decide +kernel
  obtain ⟨⟨notes, s⟩, steps, same⟩ := Option.map_eq_some_iff.mp steps
  simp only [Prod.mk.injEq] at same
  obtain ⟨pressed, asked, play, handler⟩ := same
  have run := Machine.Run.nil.execWithin steps
  exact ⟨notes, s, run, pressed, asked, play, handler, inTrack_keepsVolume run⟩

/-! ## A step that is lost -/

/-- While a replay sleeps in its first call, `TaskKeyHandler` decides on a step up. The replay
wakes before that is written, and makes a step up of its own. -/
def stepTwice : List Act :=
  insertCard 1 ++ firstIteration ++ recordPress ++ touchPlay ++ restartSong ++ [.keys 4] ++
    runs .keyHandler 3 ++ [.keys 4, .tick .playRecording] ++ runs .playRecording 1 ++
    [.tick .playRecording] ++ runs .playRecording 1 ++ [.tick .playRecording] ++
    runs .playRecording 9 ++ runs .keyHandler 1

/-- Both have read the same volume. -/
theorem stepTwice_volume :
    ((system.watch keyNotes).execWithin Acknowledged stepTwice [] (.boot 0 0)).map (fun run =>
      (run.2.shared.volume, keyVolume (decisions run.1), run.2.playCall, run.2.handlerCall)) =
    some (121, 122, some (.right 121), some .loadLeft) := by decide +kernel

/-- Without the rule, a step is lost. -/
theorem not_keepsTrack_acknowledged : ¬KeepsTrack Acknowledged := by
  intro keeps
  obtain ⟨⟨notes, s⟩, steps, same⟩ := Option.map_eq_some_iff.mp stepTwice_volume
  simp only [Prod.mk.injEq] at same
  obtain ⟨volume, asked, play, handler⟩ := same
  have track := keeps (Machine.Run.nil.execWithin steps)
  have made := track.steps (by rw [play]; rfl) (by rw [handler]; rfl)
  rw [volume, asked] at made
  omega

end SoundBoard.Tasks
