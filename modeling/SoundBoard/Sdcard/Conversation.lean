import SoundBoard.Sdcard.BlockDevice

/-!
# The conversation of an initialisation

What a receiver of commands takes from the command line of `SDLIB_Init`: an initial part of one
conversation, whatever the card does. But for the number of its passes, two things in it depend on
the card, the second `CMD0` and the address of the later commands, and both follow from what the
card has answered. Whatever the card answers, the conversation ends.
-/

namespace SoundBoard.Sdcard

open SoundBoard.Lib

variable {κ : Type}

/-! ## Framing -/

/-- The commands in a stream of bits, and the bits of one that is not complete. -/
def hearAll : List Bool → List Bool → List Bool × List (List Bool)
  | rx, [] => (rx, [])
  | rx, bit :: bits =>
    let heard := hear rx bit
    let rest := hearAll heard.1 bits
    (rest.1, heard.2.toList ++ rest.2)

/-- A receiver goes on where it stopped. -/
theorem hearAll_append (rx first second : List Bool) :
    hearAll rx (first ++ second) = ((hearAll (hearAll rx first).1 second).1,
      (hearAll rx first).2 ++ (hearAll (hearAll rx first).1 second).2) := by
  induction first generalizing rx with
  | nil => rfl
  | cons bit first ih =>
    rw [List.cons_append, hearAll, ih]
    simp only [hearAll, List.append_assoc]

/-- Idle levels are not heard. -/
theorem hearAll_idle (n : Nat) : hearAll [] (List.replicate n true) = ([], []) := by
  induction n with
  | zero => rfl
  | succ n ih =>
    have idle : hear [] true = ([], none) := rfl
    rw [List.replicate_succ, hearAll, idle, ih]
    rfl

/-- Bits that do not complete a frame are collected. -/
theorem hearAll_inside (rx bits : List Bool) (begun : rx ≠ [])
    (room : rx.length + bits.length < 48) : hearAll rx bits = (rx ++ bits, []) := by
  induction bits generalizing rx with
  | nil => rw [List.append_nil]; rfl
  | cons bit bits ih =>
    rw [List.length_cons] at room
    have notIdle : ¬(rx = [] ∧ bit = true) := fun idle => begun idle.1
    have notFull : ¬(rx ++ [bit]).length = 48 := by
      rw [List.length_append, List.length_singleton]
      omega
    have heard : hear rx bit = (rx ++ [bit], none) := by
      simp only [hear, if_neg notIdle, if_neg notFull]
    have rest := ih (rx ++ [bit]) (by simp) (by
      rw [List.length_append, List.length_singleton]
      omega)
    rw [hearAll, heard, rest, List.append_assoc]
    rfl

/-- A frame of 48 bits is heard whole. -/
theorem hearAll_frame (middle : List Bool) (last : Bool) (length : middle.length = 46) :
    hearAll [] (false :: middle ++ [last]) = ([], [false :: middle ++ [last]]) := by
  have start : hear [] false = ([false], none) := rfl
  have inside := hearAll_inside [false] middle (by simp) (by
    rw [length]
    decide)
  have notIdle : ¬([false] ++ middle = [] ∧ last = true) := fun idle => by simp at idle
  have whole : ([false] ++ middle ++ [last]).length = 48 := by simp [length]
  have heard : hear ([false] ++ middle) last = ([], some ([false] ++ middle ++ [last])) := by
    simp only [hear, if_neg notIdle, if_pos whole]
  rw [List.cons_append, hearAll, start, hearAll_append, inside]
  simp only [hearAll, heard]
  rfl

/-- A command that a receiver can take from the line. -/
structure Framed (command : Command) (meaning : UInt8 × UInt32) : Prop where
  frame : ∃ middle, middle.length = 46 ∧ bitsOf command.szCmd = false :: middle ++ [true]
  decoded : decodeFrame (bitsOf command.szCmd) = some meaning

/-- A packet can be taken from the line. -/
theorem framed_packet {cmd : UInt8} (small : cmd < 64) (a1 a2 a3 a4 : UInt8) (idle : Nat) :
    Framed ⟨packet cmd a1 a2 a3 a4, idle⟩ (cmd, wordOf a1 a2 a3 a4) :=
  ⟨bitsOf_packet small a1 a2 a3 a4, decodeFrame_packet small a1 a2 a3 a4⟩

/-- So can a command with a card's address. -/
theorem framed_rca {cmd : UInt8} (small : cmd < 64) (rca16 : UInt16) :
    Framed (.of (rcaPacket cmd rca16)) (cmd, rcaArgument rca16) := by
  rw [← wordOf_rca]
  exact framed_packet small _ _ _ _ 0

/-- The receiver takes commands from the line one after the other. -/
theorem hearAll_commands {sent : List Command} {meanings : List (UInt8 × UInt32)}
    (framed : List.Forall₂ Framed sent meanings) :
    ∃ frames, hearAll [] (sent.flatMap Command.bits) = ([], frames) ∧
      frames.filterMap decodeFrame = meanings := by
  induction framed with
  | nil => exact ⟨[], rfl, rfl⟩
  | @cons command meaning sent meanings one rest ih =>
    obtain ⟨frames, heard, decoded⟩ := ih
    obtain ⟨⟨middle, length, bits⟩, taken⟩ := one
    refine ⟨bitsOf command.szCmd :: frames, ?_, ?_⟩
    · rw [List.flatMap_cons, Command.bits, bits, List.append_assoc, hearAll_append,
        hearAll_frame middle true length, hearAll_append, hearAll_idle, heard]
      rfl
    · rw [List.filterMap_cons, taken, decoded]

/-! ## The conversation -/

/-- The commands of a session, as index and argument. -/
def conversation (version1 : Bool) (passes : Nat) (rca16 : UInt16) : List (UInt8 × UInt32) :=
  [(0, 0), (8, 0x1AA)] ++ (if version1 then [(0, 0)] else []) ++
    (List.replicate passes [(55, 0), (41, hostOCR32Of version1)]).flatten ++
    [(2, 0), (3, 0), (9, rcaArgument rca16), (10, rcaArgument rca16), (7, rcaArgument rca16),
      (16, 512), (55, rcaArgument rca16), (6, 2), (55, rcaArgument rca16), (42, 1)]

/-- Every command of a session can be taken from the line. -/
theorem session_framed (version1 : Bool) (passes : Nat) (rca16 : UInt16) :
    List.Forall₂ Framed (session version1 passes rca16) (conversation version1 passes rca16) := by
  have reset : Framed .reset (0, 0) := framed_packet (by decide) 0 0 0 0 8
  have first : List.Forall₂ Framed (opening version1)
      ([(0, 0), (8, 0x1AA)] ++ if version1 then [(0, 0)] else []) := by
    have version : Framed (.of (packet 8 0 0 0x01 0xAA)) (8, 0x1AA) :=
      framed_packet (by decide) 0 0 0x01 0xAA 0
    cases version1 with
    | true => exact .cons reset (.cons version (.cons reset .nil))
    | false => exact .cons reset (.cons version .nil)
  have passed : List.Forall₂ Framed (polling version1 passes)
      (List.replicate passes [(55, 0), (41, hostOCR32Of version1)]).flatten := by
    have app : Framed (.of (rcaPacket 55 0)) (55, 0) := framed_rca (by decide) 0
    have poll : Framed (.of (packetAcmd41 (hostOCR32Of version1))) (41, hostOCR32Of version1) := by
      have meaning := framed_packet (show (41 : UInt8) < 64 by decide)
        (argByte (hostOCR32Of version1) 3 &&& 0x40) (argByte (hostOCR32Of version1) 2)
        (argByte (hostOCR32Of version1) 1) (argByte (hostOCR32Of version1) 0) 0
      rw [wordOf_hostOCR32] at meaning
      exact meaning
    induction passes with
    | zero => exact .nil
    | succ passes ih =>
      rw [polling_succ, List.replicate_succ, List.flatten_cons]
      exact .cons app (.cons poll ih)
  have last : List.Forall₂ Framed (closing rca16)
      [(2, 0), (3, 0), (9, rcaArgument rca16), (10, rcaArgument rca16), (7, rcaArgument rca16),
        (16, 512), (55, rcaArgument rca16), (6, 2), (55, rcaArgument rca16), (42, 1)] := by
    have length : Framed (.of (argPacket 16 512)) (16, 512) := framed_packet (by decide) _ _ _ _ 0
    exact .cons (framed_packet (by decide) 0 0 0 0 0) <| .cons (framed_packet (by decide) 0 0 0 0 0) <|
      .cons (framed_rca (by decide) _) <| .cons (framed_rca (by decide) _) <|
      .cons (framed_rca (by decide) _) <| .cons length <| .cons (framed_rca (by decide) _) <|
      .cons (framed_packet (by decide) 0 0 0 2 0) <| .cons (framed_rca (by decide) _) <|
      .cons (framed_packet (by decide) 0 0 0 1 0) .nil
  exact List.rel_append (List.rel_append first passed) last

/-- Initial parts correspond. -/
theorem forall₂_initial {α β : Type} {related : α → β → Prop} {first rest : List α}
    {others : List β} (all : List.Forall₂ related (first ++ rest) others) :
    ∃ part, part <+: others ∧ List.Forall₂ related first part ∧ (rest = [] → part = others) := by
  induction first generalizing others with
  | nil =>
    refine ⟨[], List.nil_prefix, .nil, fun nothing => ?_⟩
    rw [nothing] at all
    cases all
    rfl
  | cons one first ih =>
    cases all with
    | cons here more =>
      obtain ⟨part, initial, related, whole⟩ := ih more
      refine ⟨_ :: part, ?_, .cons here related, fun nothing => by rw [whole nothing]⟩
      exact List.prefix_cons_inj _ |>.mpr initial

/-- A low lead-in hides the first `CMD0`. -/
theorem hearAll_lost (rest : List Bool) :
    hearAll [] ([false] ++ Command.reset.bits ++ rest) =
      ((hearAll [] rest).1, (false :: (bitsOf (packet 0 0 0 0 0)).take 47) :: (hearAll [] rest).2) := by
  have bits : [false] ++ Command.reset.bits = (false :: ((bitsOf (packet 0 0 0 0 0)).take 46) ++ [false]) ++
      List.replicate 9 true := by decide +kernel
  have frame : false :: ((bitsOf (packet 0 0 0 0 0)).take 46) ++ [false] =
      false :: (bitsOf (packet 0 0 0 0 0)).take 47 := by decide +kernel
  have length : ((bitsOf (packet 0 0 0 0 0)).take 46).length = 46 := by decide +kernel
  rw [bits, List.append_assoc, hearAll_append, hearAll_frame _ false length, hearAll_append,
    hearAll_idle, frame]
  rfl

/-- Whatever the card does, a receiver on the command line takes an initial part of one
conversation from an initialisation, with every argument, and is left between frames. The second
`CMD0` is in it exactly when `CMD8` had no answer that passes its checks, and its addresses are the
one in the card's response to `CMD3`. Of the first command the receiver takes nothing if the line
was low at an edge before. A successful initialisation is a complete conversation. -/
theorem sdlibInit_heard (card : Card κ) (env : Surroundings) {fuel : Nat}
    {bus : Bus (κ × List Bool)} {result : Bool × Driver (κ × List Bool)} (silent : bus.wire = [])
    (run : sdlibInit card.watched env fuel bus = some result) :
    ∃ passes heard frames, heard <+: conversation (!card.watched.answersCmd8 bus) passes
        ((card.watched.published env fuel bus).getD 0) ∧
      hearAll [] result.2.bus.wire = ([], frames) ∧
      frames.filterMap decodeFrame = (if bus.leadIn = [false] then heard.tail else heard) ∧
      (result.1 = true → heard = conversation (!card.watched.answersCmd8 bus) passes
          ((card.watched.published env fuel bus).getD 0) ∧ 0 < passes ∧
        card.watched.published env fuel bus = some result.2.gSdInfo.rca16) := by
  obtain ⟨passes, sent, opened, ⟨rest, parts⟩, wire, success⟩ := sdlibInit_session card env run
  have framed := session_framed (!card.watched.answersCmd8 bus) passes
    ((card.watched.published env fuel bus).getD 0)
  rw [← parts] at framed
  obtain ⟨heard, initial, related, whole⟩ := forall₂_initial framed
  have complete : result.1 = true → heard = conversation (!card.watched.answersCmd8 bus) passes
      ((card.watched.published env fuel bus).getD 0) ∧ 0 < passes ∧
      card.watched.published env fuel bus = some result.2.gSdInfo.rca16 := by
    intro done
    obtain ⟨all, some, address⟩ := success done
    refine ⟨whole ?_, some, address⟩
    rw [all] at parts
    exact List.append_right_eq_self.mp parts
  rw [silent, List.nil_append] at wire
  by_cases low : bus.leadIn = [false]
  · obtain ⟨more, first⟩ := opened
    have begins : ∃ later, sent = .reset :: later := ⟨_, first.symm⟩
    obtain ⟨later, rfl⟩ := begins
    cases related with
    | @cons _ meaning _ meanings one others =>
      obtain ⟨frames, taken, decoded⟩ := hearAll_commands others
      refine ⟨passes, meaning :: meanings,
        (false :: (bitsOf (packet 0 0 0 0 0)).take 47) :: frames, initial, ?_, ?_, complete⟩
      · rw [wire, low, List.flatMap_cons, ← List.append_assoc, hearAll_lost, taken]
      · rw [if_pos low, List.filterMap_cons, decodeFrame_leadIn, decoded]
        rfl
  · obtain ⟨frames, taken, decoded⟩ := hearAll_commands related
    have idle : hearAll [] bus.leadIn = ([], []) := by
      cases high : bus.clk with
      | true => simp [Bus.leadIn, high, hearAll]
      | false =>
        cases level : bus.cmd with
        | true => simp [Bus.leadIn, high, level, hearAll, hear]
        | false => exact absurd (by simp [Bus.leadIn, high, level]) low
    refine ⟨passes, heard, frames, initial, ?_, ?_, complete⟩
    · rw [wire, hearAll_append, idle, taken]
      rfl
    · rw [if_neg low, decoded]

/-- The pins and the card after power-up, with a recorder. -/
def watchedUp : Bus (CardState × List Bool) :=
  ⟨(powerUp.card, []), powerUp.clk, powerUp.cmdOut, powerUp.cmd, powerUp.datOut, powerUp.dat⟩

/-- A card of version 2 that is busy for two passes and publishes the address B368, from power-up,
where the command line is low at the first edge: the receiver misses the first `CMD0`. -/
theorem sdlibInit_heard_powerUp :
    let card := (sampleProfile fun _ _ => 0).card.watched
    card.answersCmd8 watchedUp = true ∧
      card.published ⟨fun _ => 7, 100, 0, 0, []⟩ 3 watchedUp = some 0xB368 ∧
      ∃ d passes frames, sdlibInit card ⟨fun _ => 7, 100, 0, 0, []⟩ 3 watchedUp = some (true, d) ∧
        hearAll [] d.bus.wire = ([], frames) ∧
        frames.filterMap decodeFrame = (conversation false passes 0xB368).tail ∧ 0 < passes := by
  intro card
  have answers : card.answersCmd8 watchedUp = true := by decide +kernel
  have publishes : card.published ⟨fun _ => 7, 100, 0, 0, []⟩ 3 watchedUp = some 0xB368 := by
    decide +kernel
  have succeeds : (sdlibInit card ⟨fun _ => 7, 100, 0, 0, []⟩ 3 watchedUp).any (·.1) = true := by
    decide +kernel
  obtain ⟨⟨_, d⟩, run, rfl⟩ := (Option.any_eq_true _ _).mp succeeds
  obtain ⟨passes, heard, frames, -, taken, decoded, complete⟩ :=
    sdlibInit_heard (sampleProfile fun _ _ => 0).card _ rfl run
  obtain ⟨whole, some, -⟩ := complete rfl
  have low : watchedUp.leadIn = [false] := rfl
  refine ⟨answers, publishes, d, passes, frames, run, taken, ?_, some⟩
  rw [decoded, if_pos low, whole, answers, publishes]
  rfl

/-! ## The end of the loop -/

/-- The loop ends at a reading behind the limit, at the latest. -/
theorem acmd41Loop_returns (card : Card κ) (env : Surroundings) (timeStart : UInt32)
    (fuel reading : Nat) {n : Nat} (late : env.nticks n - timeStart > env.ticksPerSecond)
    (first : reading ≤ n) (enough : n < reading + fuel) (d : Driver κ) :
    (acmd41Loop card env timeStart fuel reading d).isSome = true := by
  induction fuel generalizing reading d with
  | zero => omega
  | succ fuel ih =>
    simp only [acmd41Loop]
    split
    · split
      · rfl
      · split
        · rfl
        · rename_i inTime
          have later : reading ≠ n := by
            rintro rfl
            exact inTime late
          exact ih (reading + 1) (by omega) (by omega) _
    · rfl

/-- The first reading behind the limit is seen as such, also when the counter has wrapped. -/
theorem first_late {nticks : Nat → UInt32} {time : Nat → Nat} {limit : UInt32}
    (ticks : ∀ n, nticks n = UInt32.ofNat (time n))
    (steps : ∀ n, time n ≤ time (n + 1) ∧ time (n + 1) + limit.toNat < time n + 4294967296) {n : Nat}
    (late : time 0 + limit.toNat < time n) :
    ∃ m, 1 ≤ m ∧ m ≤ n ∧ nticks m - nticks 0 > limit := by
  have exists_late : ∃ m, time 0 + limit.toNat < time m := ⟨n, late⟩
  have found := Nat.find_spec exists_late
  have least : Nat.find exists_late ≤ n := Nat.find_min' exists_late late
  have before := fun k => @Nat.find_min _ _ exists_late k
  generalize Nat.find exists_late = m at found least before
  cases m with
  | zero => omega
  | succ m =>
    have inTime : ¬time 0 + limit.toNat < time m := before m (Nat.lt_succ_self m)
    have step := steps m
    have elapsed : (UInt32.ofNat (time (m + 1)) - UInt32.ofNat (time 0)).toNat =
        time (m + 1) - time 0 := by
      rw [UInt32.toNat_sub, UInt32.toNat_ofNat', UInt32.toNat_ofNat']
      show (4294967296 - time 0 % 4294967296 + time (m + 1) % 4294967296) % 4294967296 = _
      omega
    refine ⟨m + 1, by omega, least, ?_⟩
    rw [ticks, ticks, gt_iff_lt, UInt32.lt_iff_toNat_lt, elapsed]
    omega

/-- `SDLIB_Init` returns, whatever the card does, if the clock goes on and is read often enough:
one pass for each reading up to the first behind the limit is enough fuel. -/
theorem sdlibInit_returns (card : Card κ) (env : Surroundings) (bus : Bus κ) (time : Nat → Nat)
    (ticks : ∀ n, env.nticks n = UInt32.ofNat (time n))
    (steps : ∀ n, time n ≤ time (n + 1) ∧
      time (n + 1) + env.ticksPerSecond.toNat < time n + 4294967296) {n : Nat}
    (late : time 0 + env.ticksPerSecond.toNat < time n) :
    (sdlibInit card env n bus).isSome = true := by
  obtain ⟨m, some, before, behind⟩ := first_late ticks steps late
  rw [sdlibInit, Option.isSome_map]
  exact acmd41Loop_returns card env _ n 1 behind some (by omega) _

/-- A card that stays busy, and a clock that starts just before its counter wraps: the call gives
up in the third pass, at the first reading behind the limit. -/
theorem sdlibInit_returns_wrapping :
    let card := ({ sampleProfile (fun _ _ => 0) with busy := 1000 }).card
    let env : Surroundings := ⟨fun n => UInt32.ofNat (4294967290 + 35 * n), 100, 0, 0, []⟩
    (sdlibInit card env 3 powerUp).isSome = true ∧ (sdlibInit card env 2 powerUp).isSome = false := by
  intro card env
  constructor
  · apply sdlibInit_returns card env powerUp (fun n => 4294967290 + 35 * n) (fun _ => rfl)
    · intro n
      show 4294967290 + 35 * n ≤ 4294967290 + 35 * (n + 1) ∧
        4294967290 + 35 * (n + 1) + 100 < _
      omega
    · show 4294967290 + 35 * 0 + 100 < 4294967290 + 35 * 3
      decide
  · decide +kernel

end SoundBoard.Sdcard
