import SoundBoard.Audio.Codec
import SoundBoard.Audio.Transfers

/-!
# The settings of the codec

What the codec has in its registers is what the transfers on its bus have put there. `reg_file` says
the same of every register whose last write succeeded, so the settings are those the calls asked
for, whoever the slave is.
-/

namespace SoundBoard.Audio

open SoundBoard.Lib SoundBoard.Lib.TwoWire

variable {κ : Type} {slave : Slave κ} {driver : Driver κ} {frames : List (List Item)}

/-! ## Register writes -/

/-- The register write that a transfer carries: the register, and its nine bits. -/
def registerWrite : List Item → Option (Nat × Nat)
  | [(device, true), (control, true), (data, true)] =>
    if device = i2cAudioAddr then
      some ((control >>> 1).toNat, (control &&& 1).toNat * 256 + data.toNat)
    else none
  | _ => none

/-- The registers of a codec that have been written since it was reset. -/
abbrev Registers := Nat → Option Nat

/-- A register write; register 15 is the reset. -/
def Registers.write (registers : Registers) (write : Nat × Nat) : Registers :=
  if write.1 = 15 then fun _ => none else Function.update registers write.1 (some write.2)

/-- The registers after some transfers. -/
def registersOf (frames : List (List Item)) : Registers :=
  (frames.filterMap registerWrite).foldl Registers.write fun _ => none

/-- One transfer more. -/
theorem registersOf_snoc (frames : List (List Item)) (frame : List Item) :
    registersOf (frames ++ [frame]) =
      ((registerWrite frame).map (registersOf frames).write).getD (registersOf frames) := by
  simp only [registersOf, List.filterMap_append, List.foldl_append, List.filterMap_cons,
    List.filterMap_nil]
  cases registerWrite frame with
  | none => rfl
  | some write => rfl

/-- The ninth bit of a register. -/
theorem highBit_eq (data16 : UInt16) :
    ((data16 >>> 8) &&& 0x01).toUInt8 = if data16.toNat / 256 % 2 = 1 then 1 else 0 := by
  have value : ((data16 >>> 8) &&& 0x01).toUInt8.toNat = data16.toNat / 256 % 2 := by
    simp [Nat.and_one_is_mod, Nat.shiftRight_eq_div_pow]
  apply UInt8.toNat_inj.mp
  rw [value]
  split
  · rename_i high
    rw [high]
    rfl
  · rename_i low
    have zero : data16.toNat / 256 % 2 = 0 := by omega
    rw [zero]
    rfl

/-- The control byte, taken apart again. -/
theorem control_parts (regIndex : UInt8) (high : Bool) :
    let control := ((regIndex <<< 1) &&& 0xFE) ||| if high then 1 else 0
    (control >>> 1).toNat = regIndex.toNat % 128 ∧ (control &&& 1).toNat = high.toNat := by
  have bytes : ∀ (i : Fin 256) (high : Bool),
      let control := ((UInt8.ofNat i <<< 1) &&& 0xFE) ||| if high then 1 else 0
      (control >>> 1).toNat = (UInt8.ofNat i).toNat % 128 ∧ (control &&& 1).toNat = high.toNat := by
    decide +kernel
  have value := bytes ⟨regIndex.toNat, regIndex.toNat_lt⟩ high
  rwa [UInt8.ofNat_toNat] at value

/-- The two bytes of `aduio_RegWrite` are the register and nine bits. -/
theorem regControl_parts (regIndex : UInt8) (data16 : UInt16) :
    (regControl regIndex data16 >>> 1).toNat = regIndex.toNat % 128 ∧
      (regControl regIndex data16 &&& 1).toNat * 256 + (data16 &&& 0xFF).toUInt8.toNat =
        data16.toNat % 512 := by
  obtain ⟨index, bit⟩ := control_parts regIndex (decide (data16.toNat / 256 % 2 = 1))
  have low : (data16 &&& 0xFF).toUInt8.toNat = data16.toNat % 256 := by
    have mask : data16.toNat % 256 &&& 255 = data16.toNat % 256 % 256 :=
      Nat.and_two_pow_sub_one_eq_mod _ 8
    simp [mask]
  simp only [decide_eq_true_eq] at index bit
  simp only [regControl, highBit_eq]
  constructor
  · exact index
  · rw [bit, low]
    by_cases high : data16.toNat / 256 % 2 = 1
    · simp only [high, decide_true, Bool.toNat_true]
      omega
    · simp only [high, decide_false, Bool.toNat_false]
      omega

/-- A transfer of `aduio_RegWrite` writes the register if all of it is acknowledged. -/
theorem registerWrite_carries {regIndex : UInt8} {data16 : UInt16} {frame : List Item}
    {whole : Bool} (carries : Carries
      [i2cAudioAddr, regControl regIndex data16, (data16 &&& 0xFF).toUInt8] frame whole) :
    registerWrite frame =
      if whole then some (regIndex.toNat % 128, data16.toNat % 512) else none := by
  cases whole with
  | true =>
    obtain ⟨index, bits⟩ := regControl_parts regIndex data16
    rw [carries.frame_eq, ← index, ← bits]
    rfl
  | false =>
    cases carries with
    | refused => rfl
    | acked _ rest =>
      cases rest with
      | refused => rfl
      | acked _ rest =>
        cases rest with
        | refused => rfl
        | acked _ rest => cases rest

/-- `aduio_RegWrite` puts one transfer on the wires, which writes the register if the call reports
success. -/
theorem aduioRegWrite_frame (idle : Idle slave driver.bus frames) (regIndex : UInt8)
    (data16 : UInt16) :
    ∃ frame, Idle slave (aduioRegWrite slave regIndex data16 driver).2.bus (frames ++ [frame]) ∧
      registerWrite frame = if (aduioRegWrite slave regIndex data16 driver).1 then
        some (regIndex.toNat % 128, data16.toNat % 512) else none := by
  obtain ⟨frame, carries, after⟩ := i2c_Write_carries idle i2cAudioAddr
    (regControl regIndex data16) (data16 &&& 0xFF).toUInt8
  exact ⟨frame, after, registerWrite_carries carries⟩

/-! ## What `reg_file` says -/

/-- The codec has what `reg_file` says in the registers that are trusted. -/
structure Tracks (slave : Slave κ) (driver : Driver κ) (frames : List (List Item))
    (trusted : Nat → Bool) : Prop where
  idle : Idle slave driver.bus frames
  same : ∀ k, k ≤ 10 → trusted k = true →
    registersOf frames k = some ((driver.regFile k).toNat % 512)

/-- Fewer registers may be trusted. -/
theorem Tracks.weaken {trusted fewer : Nat → Bool} (tracks : Tracks slave driver frames trusted)
    (still : ∀ k, fewer k = true → trusted k = true) : Tracks slave driver frames fewer where
  idle := tracks.idle
  same k small trust := tracks.same k small (still k trust)

/-- A register that is written is trusted if the call reports success. -/
theorem Tracks.write {trusted : Nat → Bool} (tracks : Tracks slave driver frames trusted)
    (regIndex : UInt8) (data16 : UInt16) (small : regIndex ≤ 10) :
    ∃ frame, Tracks slave (aduioRegWrite slave regIndex data16 driver).2 (frames ++ [frame])
      (Function.update trusted regIndex.toNat (aduioRegWrite slave regIndex data16 driver).1) := by
  obtain ⟨frame, idle, write⟩ := aduioRegWrite_frame tracks.idle regIndex data16
  have index : regIndex.toNat ≤ 10 := small
  have file : (aduioRegWrite slave regIndex data16 driver).2.regFile =
      Function.update driver.regFile regIndex.toNat data16 := if_pos small
  refine ⟨frame, idle, ?_⟩
  intro k inside trust
  rw [registersOf_snoc, write, file]
  by_cases same : k = regIndex.toNat
  · rw [same, Function.update_self] at trust ⊢
    rw [trust, if_pos rfl, Option.map_some, Option.getD_some, Registers.write,
      Nat.mod_eq_of_lt (by omega), if_neg (by simp only; omega), Function.update_self]
  · rw [Function.update_of_ne same] at trust ⊢
    have kept := tracks.same k inside trust
    cases (aduioRegWrite slave regIndex data16 driver).1 with
    | false => exact kept
    | true =>
      rw [if_pos rfl, Option.map_some, Option.getD_some, Registers.write,
        Nat.mod_eq_of_lt (by omega), if_neg (by simp only; omega), Function.update_of_ne same, kept]

/-- Writes that all succeed, the first of them and the others. -/
theorem regWrites_ok {write : UInt8 × UInt16} {writes : List (UInt8 × UInt16)}
    (ok : (regWrites slave (write :: writes) driver).1 = true) :
    (aduioRegWrite slave write.1 write.2 driver).1 = true ∧
      regWrites slave (write :: writes) driver =
        regWrites slave writes (aduioRegWrite slave write.1 write.2 driver).2 := by
  simp only [regWrites] at ok ⊢
  split at ok
  · rename_i success
    exact ⟨success, if_pos success⟩
  · contradiction

/-- Registers that are all written are all trusted. -/
theorem Tracks.writes {trusted : Nat → Bool} (tracks : Tracks slave driver frames trusted)
    (writes : List (UInt8 × UInt16)) (small : ∀ write ∈ writes, write.1 ≤ 10)
    (ok : (regWrites slave writes driver).1 = true) :
    ∃ more, Tracks slave (regWrites slave writes driver).2 (frames ++ more)
      (fun k => trusted k || writes.any fun write => write.1.toNat == k) := by
  induction writes generalizing driver frames trusted with
  | nil =>
    refine ⟨[], ?_⟩
    rw [List.append_nil]
    exact tracks.weaken fun k trust => by simpa using trust
  | cons write writes ih =>
    obtain ⟨frame, written⟩ := tracks.write write.1 write.2 (small _ (List.mem_cons_self ..))
    obtain ⟨success, onward⟩ := regWrites_ok ok
    rw [onward] at ok ⊢
    rw [success] at written
    obtain ⟨more, rest⟩ := ih written (fun w inside => small w (List.mem_cons_of_mem _ inside)) ok
    refine ⟨frame :: more, ?_⟩
    rw [List.append_cons]
    apply rest.weaken
    intro k trust
    by_cases same : k = write.1.toNat
    · simp [same]
    · have apart : (write.1.toNat == k) = false := beq_false_of_ne fun equal => same equal.symm
      rw [List.any_cons, apart, Bool.false_or] at trust
      rwa [Function.update_of_ne same]

/-- The registers that the calls may write. -/
def isSet (k : Nat) : Bool := 2 ≤ k && k ≤ 9

/-- `AUDIO_Init` resets the codec and sets its registers. -/
theorem audioInit_tracks (idle : Idle slave driver.bus frames)
    (ok : (audioInit slave driver).1 = true) :
    ∃ more, Tracks slave (audioInit slave driver).2 (frames ++ more) isSet := by
  obtain ⟨frame, reset, _⟩ := aduioRegWrite_frame idle 15 0x0000
  have first : Tracks slave (aduioRegWrite slave 15 0x0000 driver).2 (frames ++ [frame])
      fun _ => false := ⟨reset, nofun⟩
  have onward : audioInit slave driver =
      regWrites slave initValues.tail (aduioRegWrite slave 15 0x0000 driver).2 :=
    (regWrites_ok ok).2
  rw [onward] at ok ⊢
  obtain ⟨more, rest⟩ := first.writes initValues.tail (by simp [initValues]) ok
  refine ⟨frame :: more, ?_⟩
  rw [List.append_cons]
  apply rest.weaken
  intro k trust
  simp only [isSet, Bool.and_eq_true, decide_eq_true_eq] at trust
  have cases : k = 2 ∨ k = 3 ∨ k = 4 ∨ k = 5 ∨ k = 6 ∨ k = 7 ∨ k = 8 ∨ k = 9 := by omega
  rcases cases with rfl | rfl | rfl | rfl | rfl | rfl | rfl | rfl <;> rfl

/-! ## Calls -/

/-- The registers that a call writes. -/
def Call.registers : Call → List Nat
  | .interfaceActive _ => [9]
  | .setSampleRate _ => [8]
  | .setLineOutVol _ _ => [2, 3]
  | .enableByPass _ | .enableSiteTone _ => [4]

/-- The registers that are trusted after a call. -/
def trustAfter (trusted : Nat → Bool) (result : Call × Bool) (k : Nat) : Bool :=
  if k ∈ result.1.registers then result.2 else trusted k

/-- A call, whether or not it succeeds. -/
theorem Tracks.call {trusted : Nat → Bool} (tracks : Tracks slave driver frames trusted)
    (call : Call) :
    ∃ more, Tracks slave (call.run slave driver).2 (frames ++ more)
      (trustAfter trusted (call, (call.run slave driver).1)) := by
  -- every call but one writes a single register
  have single : ∀ (regIndex : UInt8) (data16 : UInt16), regIndex ≤ 10 →
      call.registers = [regIndex.toNat] →
      call.run slave driver = aduioRegWrite slave regIndex data16 driver →
      ∃ more, Tracks slave (call.run slave driver).2 (frames ++ more)
        (trustAfter trusted (call, (call.run slave driver).1)) := by
    intro regIndex data16 small registers run
    obtain ⟨frame, written⟩ := tracks.write regIndex data16 small
    refine ⟨[frame], ?_⟩
    rw [run]
    apply written.weaken
    intro k trust
    simp only [trustAfter, registers, List.mem_singleton] at trust
    by_cases same : k = regIndex.toNat
    · rw [if_pos same] at trust
      rwa [same, Function.update_self]
    · rw [if_neg same] at trust
      rwa [Function.update_of_ne same]
  cases call with
  | interfaceActive bActive => exact single 9 _ (by decide) rfl rfl
  | setSampleRate sampleRate => exact single 8 _ (by decide) rfl rfl
  | enableByPass bEnable => exact single 4 _ (by decide) rfl rfl
  | enableSiteTone bEnable => exact single 4 _ (by decide) rfl rfl
  | setLineOutVol lVol rVol =>
    obtain ⟨first, left⟩ := tracks.write 2 (volControl (driver.regFile 2) lVol) (by decide)
    simp only [Call.run, audioSetLineOutVol]
    generalize aduioRegWrite slave 2 _ driver = leftResult at left ⊢
    cases success : leftResult.1 with
    | false =>
      refine ⟨[first], left.weaken fun k trust => ?_⟩
      simp only [trustAfter, Call.registers, List.mem_cons, List.not_mem_nil, or_false] at trust
      by_cases either : k = 2 ∨ k = 3
      · rw [if_pos either] at trust
        contradiction
      · rw [if_neg either] at trust
        rwa [Function.update_of_ne (show k ≠ (2 : UInt8).toNat from fun two => either (.inl two))]
    | true =>
      rw [success] at left
      obtain ⟨second, right⟩ := left.write 3 (volControl (leftResult.2.regFile 3) rVol) (by decide)
      refine ⟨[first, second], ?_⟩
      rw [List.append_cons]
      apply right.weaken
      intro k trust
      simp only [trustAfter, Call.registers, List.mem_cons, List.not_mem_nil, or_false] at trust
      by_cases same : k = 3
      · rw [if_pos (.inr same)] at trust
        rw [same]
        exact (Function.update_self ..).trans trust
      · rw [Function.update_of_ne (show k ≠ (3 : UInt8).toNat from same)]
        by_cases two : k = 2
        · rw [two]
          exact Function.update_self ..
        · rw [if_neg (by omega)] at trust
          rwa [Function.update_of_ne (show k ≠ (2 : UInt8).toNat from two)]

/-- Calls one after the other. -/
theorem Tracks.calls {trusted : Nat → Bool} (tracks : Tracks slave driver frames trusted)
    (calls : List Call) :
    ∃ more, Tracks slave (runCalls slave calls driver).2 (frames ++ more)
      ((runCalls slave calls driver).1.foldl trustAfter trusted) := by
  induction calls generalizing driver frames trusted with
  | nil =>
    refine ⟨[], ?_⟩
    rw [List.append_nil]
    exact tracks
  | cons call calls ih =>
    obtain ⟨first, after⟩ := tracks.call call
    obtain ⟨rest, last⟩ := ih after
    refine ⟨first ++ rest, ?_⟩
    rw [← List.append_assoc]
    exact last

/-- After `AUDIO_Init`, whatever calls follow and whichever of them fail, the codec has what
`reg_file` says in every register whose last call reported success. -/
theorem runCalls_tracks (idle : Idle slave driver.bus frames)
    (ok : (audioInit slave driver).1 = true) (calls : List Call) :
    ∃ more, Tracks slave (runCalls slave calls (audioInit slave driver).2).2 (frames ++ more)
      ((runCalls slave calls (audioInit slave driver).2).1.foldl trustAfter isSet) := by
  obtain ⟨first, ready⟩ := audioInit_tracks idle ok
  obtain ⟨rest, after⟩ := ready.calls calls
  refine ⟨first ++ rest, ?_⟩
  rw [← List.append_assoc]
  exact after

/-- A driver after a reset. -/
def sampleDriver : Driver Counter := ⟨fun _ => 0, powerUp⟩

/-- The same for a slave that counts its transfers. -/
def countingDriver : Driver (Counter × Nat) :=
  ⟨fun _ => 0, ⟨(⟨false, true, 0⟩, 0), false, false, false, [⟨false, true⟩]⟩⟩

/-- A volume of which only the left half is acknowledged, and a call behind it: the registers of the
volume are no longer trusted, and the other one is. -/
theorem runCalls_tracks_refused :
    let calls : List Call := [.setLineOutVol 100 90, .interfaceActive false]
    let run := runCalls (refuser 11) calls (audioInit (refuser 11) countingDriver).2
    run.1 = [(.setLineOutVol 100 90, false), (.interfaceActive false, true)] ∧
      ∃ more, Tracks (refuser 11) run.2 ([] ++ more) (run.1.foldl trustAfter isSet) ∧
        registersOf ([] ++ more) 9 = some 0 := by
  intro calls run
  have results : run.1 = [(.setLineOutVol 100 90, false), (.interfaceActive false, true)] := by
    decide +kernel
  have idle : Idle (refuser 11) countingDriver.bus [] := ⟨nofun, rfl⟩
  obtain ⟨more, tracks⟩ := runCalls_tracks idle (by decide +kernel) calls
  have trusted : run.1.foldl trustAfter isSet 9 = true := by
    rw [results]
    decide
  have held : (run.2.regFile 9).toNat % 512 = 0 := by decide +kernel
  refine ⟨results, more, tracks, ?_⟩
  rw [tracks.same 9 (by decide) trusted]
  exact congrArg some held

/-! ## Settings -/

/-- What the registers mean. -/
structure Settings where
  leftVol : Nat
  rightVol : Nat
  active : Bool
  sampleRate : Option AudioSampleRate
  byPass : Bool
  siteTone : Bool
  deriving DecidableEq, Repr

/-- The sample rate with a number. -/
def rateOf (code : Nat) : Option AudioSampleRate :=
  [.adc48kDac48k, .adc48kDac8k, .adc8kDac48k, .adc8kDac8k, .adc32kDac32k, .adc96kDac96k,
    .adc44k1Dac44k1].find? fun sampleRate => sampleRate.code.toNat == code

/-- The settings that nine-bit registers hold. -/
def settingsOf (value : Nat → Nat) : Settings where
  leftVol := value 2 % 128
  rightVol := value 3 % 128
  active := (value 9).testBit 0
  sampleRate := rateOf (value 8 / 4 % 16)
  byPass := (value 4).testBit 3
  siteTone := (value 4).testBit 5

/-- The settings after `AUDIO_Init`. -/
def Settings.initial : Settings := ⟨0x5B, 0x5B, true, some .adc48kDac48k, true, true⟩

/-- What a call asks for. -/
def Settings.told (settings : Settings) : Call → Settings
  | .interfaceActive bActive => { settings with active := bActive }
  | .setSampleRate sampleRate => { settings with sampleRate := some sampleRate }
  | .setLineOutVol lVol rVol =>
    { settings with leftVol := lVol.toNat % 128, rightVol := rVol.toNat % 128 }
  | .enableByPass bEnable => { settings with byPass := bEnable }
  | .enableSiteTone bEnable => { settings with siteTone := bEnable }

/-- The settings that `reg_file` holds. -/
def Driver.settings (driver : Driver κ) : Settings :=
  settingsOf fun k => (driver.regFile k).toNat

/-- Only nine bits of a register count. -/
theorem settingsOf_nine (value : Nat → Nat) :
    (settingsOf fun k => value k % 512) = settingsOf value := by
  have bit (i n : Nat) (small : i < 9) : (n % 512).testBit i = n.testBit i := by
    rw [show 512 = 2 ^ 9 from rfl, Nat.testBit_mod_two_pow]
    simp [small]
  have rate : value 8 % 512 / 4 % 16 = value 8 / 4 % 16 := by omega
  simp only [settingsOf, bit 0 _ (by decide), bit 3 _ (by decide), bit 5 _ (by decide), rate,
    Nat.mod_mod_of_dvd _ (show 128 ∣ 512 by decide)]

/-- A volume in a register. -/
theorem volControl_mod (control vol : UInt16) :
    (volControl control vol).toNat % 128 = vol.toNat % 128 := by
  have high : (control.toNat &&& 65408) % 128 = 0 := by
    rw [show 128 = 2 ^ 7 from rfl, Nat.and_mod_two_pow, show 65408 % 2 ^ 7 = 0 from rfl,
      Nat.and_zero]
  have low : vol.toNat &&& 127 = vol.toNat % 128 := Nat.and_two_pow_sub_one_eq_mod _ 7
  simp only [volControl, UInt16.toNat_add, UInt16.toNat_and, UInt16.reduceToNat, low]
  omega

/-- The number of a sample rate, in its register. -/
theorem rateOf_code (sampleRate : AudioSampleRate) :
    rateOf (((sampleRate.code <<< 2) ||| 0x02).toNat / 4 % 16) = some sampleRate := by
  cases sampleRate <;> rfl

/-- A bit of the analogue path, set or cleared: the others stay. -/
theorem enabled_testBit (control : UInt16) (bEnable : Bool) (i : Nat) (small : i < 9)
    (mask : UInt16) (place : Nat) (single : ∀ i < 9, mask.toNat.testBit i = decide (i = place))
    (others : ∀ i < 9, (~~~mask).toNat.testBit i = !decide (i = place)) :
    (if bEnable then control ||| mask else control &&& ~~~mask).toNat.testBit i =
      if i = place then bEnable else control.toNat.testBit i := by
  cases bEnable with
  | true =>
    rw [if_pos rfl, UInt16.toNat_or, Nat.testBit_or, single i small]
    by_cases here : i = place <;> simp [here]
  | false =>
    rw [if_neg Bool.false_ne_true, UInt16.toNat_and, Nat.testBit_and, others i small]
    by_cases here : i = place <;> simp [here]

/-- What `aduio_RegWrite` does to `reg_file`. -/
theorem aduioRegWrite_regFile (slave : Slave κ) (driver : Driver κ) {regIndex : UInt8}
    (small : regIndex ≤ 10) (data16 : UInt16) (k : Nat) :
    (aduioRegWrite slave regIndex data16 driver).2.regFile k =
      if k = regIndex.toNat then data16 else driver.regFile k := by
  have file : (aduioRegWrite slave regIndex data16 driver).2.regFile =
      Function.update driver.regFile regIndex.toNat data16 := if_pos small
  rw [file, Function.update_apply]

/-- The two volumes, when both registers are written. -/
theorem audioSetLineOutVol_regFile (lVol rVol : UInt16)
    (ok : (audioSetLineOutVol slave lVol rVol driver).1 = true) (k : Nat) :
    (audioSetLineOutVol slave lVol rVol driver).2.regFile k =
      if k = 3 then volControl (driver.regFile 3) rVol
      else if k = 2 then volControl (driver.regFile 2) lVol else driver.regFile k := by
  have left := aduioRegWrite_regFile slave driver (show (2 : UInt8) ≤ 10 by decide)
    (volControl (driver.regFile 2) lVol)
  simp only [audioSetLineOutVol] at ok ⊢
  generalize aduioRegWrite slave 2 _ driver = result at left ok ⊢
  cases success : result.1 with
  | false =>
    rw [success] at ok
    contradiction
  | true =>
    rw [if_pos rfl, aduioRegWrite_regFile slave result.2 (by decide), left 3, left k]
    rfl

/-- A call that reports success does what it asks for. -/
theorem Call.run_settings (call : Call) (ok : (call.run slave driver).1 = true) :
    (call.run slave driver).2.settings = driver.settings.told call := by
  cases call with
  | interfaceActive bActive =>
    have file := aduioRegWrite_regFile slave driver (show (9 : UInt8) ≤ 10 by decide)
      (if bActive then 0x0001 else 0x0000)
    simp only [Driver.settings, settingsOf, Call.run, audioInterfaceActive, file, Settings.told]
    cases bActive <;> simp
  | setSampleRate sampleRate =>
    have file := aduioRegWrite_regFile slave driver (show (8 : UInt8) ≤ 10 by decide)
      ((sampleRate.code <<< 2) ||| 0x02)
    have rate := rateOf_code sampleRate
    simp only [Driver.settings, settingsOf, Call.run, audioSetSampleRate, file, Settings.told]
    rw [if_pos (show 8 = (8 : UInt8).toNat from rfl), rate]
    simp
  | setLineOutVol lVol rVol =>
    have file := audioSetLineOutVol_regFile lVol rVol ok
    simp only [Driver.settings, settingsOf, Call.run, file, Settings.told]
    simp [volControl_mod]
  | enableByPass bEnable =>
    have file := aduioRegWrite_regFile slave driver (show (4 : UInt8) ≤ 10 by decide)
    have bit := fun i small => enabled_testBit (driver.regFile 4) bEnable i small
      ((0x01 : UInt16) <<< 3) 3 (by decide) (by decide)
    simp only [Driver.settings, settingsOf, Call.run, audioEnableByPass, enablePath, file,
      Settings.told]
    simp [bit]
  | enableSiteTone bEnable =>
    have file := aduioRegWrite_regFile slave driver (show (4 : UInt8) ≤ 10 by decide)
    have bit := fun i small => enabled_testBit (driver.regFile 4) bEnable i small
      ((0x01 : UInt16) <<< 5) 5 (by decide) (by decide)
    simp only [Driver.settings, settingsOf, Call.run, audioEnableSiteTone, enablePath, file,
      Settings.told]
    simp [bit]

/-- Calls that all report success. -/
theorem runCalls_told {calls : List Call}
    (ok : (runCalls slave calls driver).1.all (·.2) = true) :
    (runCalls slave calls driver).2.settings = calls.foldl Settings.told driver.settings := by
  induction calls generalizing driver with
  | nil => rfl
  | cons call calls ih =>
    simp only [runCalls, List.all_cons, Bool.and_eq_true] at ok
    rw [List.foldl_cons, ← call.run_settings ok.1]
    exact ih ok.2

/-- Registers written one after the other, in `reg_file`. -/
theorem regWrites_regFile {writes : List (UInt8 × UInt16)}
    (ok : (regWrites slave writes driver).1 = true) :
    (regWrites slave writes driver).2.regFile = writes.foldl (fun regFile write =>
      if write.1 ≤ 10 then Function.update regFile write.1.toNat write.2 else regFile)
      driver.regFile := by
  induction writes generalizing driver with
  | nil => rfl
  | cons write writes ih =>
    have onward := (regWrites_ok ok).2
    rw [onward] at ok ⊢
    rw [ih ok, List.foldl_cons]
    rfl

/-- The settings after `AUDIO_Init`. -/
theorem audioInit_settings (ok : (audioInit slave driver).1 = true) :
    (audioInit slave driver).2.settings = Settings.initial := by
  have file := regWrites_regFile ok
  have path : Nat.testBit 61 3 = true ∧ Nat.testBit 61 5 = true := by decide
  rw [Driver.settings, audioInit, file]
  simp [initValues, settingsOf, Settings.initial, rateOf, AudioSampleRate.code, path]

/-- While all the registers are trusted and the calls succeed, they stay so. -/
theorem trustAfter_isSet {results : List (Call × Bool)} (ok : results.all (·.2) = true)
    {trusted : Nat → Bool} (all : ∀ k, isSet k = true → trusted k = true) :
    ∀ k, isSet k = true → results.foldl trustAfter trusted k = true := by
  induction results generalizing trusted with
  | nil => exact all
  | cons result results ih =>
    rw [List.all_cons, Bool.and_eq_true] at ok
    refine ih ok.2 fun k inside => ?_
    rw [trustAfter]
    split
    · exact ok.1
    · exact all k inside

/-- When all the registers are trusted, the codec has the settings that `reg_file` holds. -/
theorem Tracks.settings {trusted : Nat → Bool} (tracks : Tracks slave driver frames trusted)
    (all : ∀ k, isSet k = true → trusted k = true) :
    (settingsOf fun k => (registersOf frames k).getD 0) = driver.settings := by
  have value (k : Nat) (inside : isSet k = true) :
      registersOf frames k = some ((driver.regFile k).toNat % 512) := by
    apply tracks.same
    · simp only [isSet, Bool.and_eq_true, decide_eq_true_eq] at inside
      omega
    · exact all k inside
  refine Eq.trans ?_ (settingsOf_nine _)
  simp only [settingsOf, value 2 rfl, value 3 rfl, value 4 rfl, value 8 rfl, value 9 rfl,
    Option.getD_some]

/-- After `AUDIO_Init` and calls that all report success, the registers that the transfers on the
wires have written hold the settings that the calls asked for, for every slave. -/
theorem runCalls_settings (idle : Idle slave driver.bus frames)
    (ok : (audioInit slave driver).1 = true) (calls : List Call)
    (successes : (runCalls slave calls (audioInit slave driver).2).1.all (·.2) = true) :
    ∃ more,
      Idle slave (runCalls slave calls (audioInit slave driver).2).2.bus (frames ++ more) ∧
      (settingsOf fun k => (registersOf (frames ++ more) k).getD 0) =
        calls.foldl Settings.told Settings.initial := by
  obtain ⟨first, ready⟩ := audioInit_tracks idle ok
  obtain ⟨rest, after⟩ := ready.calls calls
  rw [List.append_assoc] at after
  refine ⟨first ++ rest, after.idle, ?_⟩
  rw [after.settings (trustAfter_isSet successes fun k inside => inside), runCalls_told successes,
    audioInit_settings ok]

/-- The calls of a song that is started, and a volume. -/
def sampleCalls : List Call :=
  [.interfaceActive false, .setSampleRate .adc44k1Dac44k1, .interfaceActive true,
    .setLineOutVol 100 90, .enableByPass false]

/-- They all reach a slave that acknowledges every byte. -/
theorem runCalls_settings_counter :
    ∃ more, Idle counter
        (runCalls counter sampleCalls (audioInit counter sampleDriver).2).2.bus ([] ++ more) ∧
      (settingsOf fun k => (registersOf ([] ++ more) k).getD 0) =
        ⟨100, 90, true, some .adc44k1Dac44k1, false, true⟩ :=
  runCalls_settings powerUp_idle (by decide +kernel) sampleCalls (by decide +kernel)

end SoundBoard.Audio
