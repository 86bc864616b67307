import SoundBoard.Player.PlayList
import SoundBoard.Tasks.Steps

/-!
# Live handles

Which file handles and volumes are live in the runs of the tasks, and whether a variable still
refers to them. Nothing but the listing closes a file, and nothing unmounts a volume, so a
handle is lost wherever the only reference to it is overwritten. The rule `OpensOnce` says
which steps overwrite none.
-/

namespace SoundBoard.Tasks

open SoundBoard.Lib SoundBoard.Player

/-! ## Live handles -/

/-- Every live file is the `hFile` of exactly one entry of `gWavePlay`, and the only live
volume is the one of `hFat`. -/
structure Handles.AllKept (handles : Handles) (songs : Nat) : Prop where
  file : ∀ hFile ∈ handles.files,
    ∃! k : Int, (0 ≤ k ∧ k < maxSongs + 1) ∧ handles.hFile k = hFile
  volume : ∀ volume ∈ handles.volumes, volume = handles.hFat
  bounded : handles.files.card + handles.volumes.card ≤ songs + 1

/-- `TaskReadSD` is in `build_wave_play_list`. -/
def ReadPc.listing : ReadPc → Bool
  | .listBegin | .listNext _ | .listStart _ _ | .listEnd _ => true
  | _ => false

/-- An ended song is being started again. -/
def ExecutePc.starting : ExecutePc → Bool
  | .restart _ => true
  | _ => false

/-- `TaskPlayRecording` is in `waveplay_start`. -/
def PlayPc.starting : PlayPc → Bool
  | .execute _ _ pc => pc.starting
  | _ => false

/-- `TaskKeyHandler` is in `waveplay_start`. -/
def HandlerPc.starting : HandlerPc → Bool
  | .start _ => true
  | .execute pc => pc.starting
  | _ => false

/-- No listing and no start is in progress. -/
structure Sys.Settled (s : Sys) : Prop where
  readSD : s.readSD.All fun pc => pc.listing = false
  playRecording : s.playRecording.All fun pc => pc.starting = false
  keyHandler : s.keyHandler.All fun pc => pc.starting = false

/-- In the settled states of the runs under a guard no handle is lost. -/
def NoHandleLost (guard : Sys → Act → Prop) : Prop :=
  ∀ {x1 y1 : Nat} {trace : List Event} {s : Sys}, system.Run guard (.boot x1 y1) trace s →
    s.Settled → s.shared.handles.AllKept s.shared.nFileNum

/-! ## The rule -/

/-- A song of the list whose entry has no open file. -/
def Shared.Unopened (shared : Shared) (songnummer : Int) : Prop :=
  0 ≤ songnummer ∧ songnummer < shared.nFileNum ∧ songnummer < maxSongs + 1 ∧
    shared.handles.hFile songnummer = 0

/-- The part of the rule about `TaskReadSD`: a volume is mounted while there is none, no header
read fails after its file was opened, and a listed song has an entry without an open file. -/
def ReadPc.OpensOnce (shared : Shared) (answer : Answer) : ReadPc → Prop
  | .mountRead | .mountFail => shared.handles.hFat = 0
  | .listNext _ => answer.entry ≠ .readFailed
  | .listStart _ (.body songnummer) =>
    songnummer < maxSongs + 1 ∧ shared.handles.hFile songnummer = 0
  | _ => True

/-- A step that overwrites no reference to a live file or volume. -/
def OpensOnce (s : Sys) : Act → Prop
  | .run .readSD answer => s.readSD.All fun pc => pc.OpensOnce s.shared answer
  | .run .playRecording _ => s.playRecording.All fun pc =>
      ∀ songnummer, pc.opens = some songnummer → s.shared.Unopened songnummer
  | .run .keyHandler _ => s.keyHandler.All fun pc =>
      ∀ songnummer, pc.opens = some songnummer → s.shared.Unopened songnummer
  | _ => True

instance (shared : Shared) (songnummer : Int) : Decidable (shared.Unopened songnummer) :=
  inferInstanceAs (Decidable (_ ∧ _ ∧ _ ∧ _))

instance (shared : Shared) (answer : Answer) : DecidablePred (ReadPc.OpensOnce shared answer)
  | .mountRead | .mountFail => inferInstanceAs (Decidable (shared.handles.hFat = 0))
  | .listNext _ => inferInstanceAs (Decidable (answer.entry ≠ .readFailed))
  | .listStart _ (.body songnummer) => inferInstanceAs
    (Decidable (songnummer < maxSongs + 1 ∧ shared.handles.hFile songnummer = 0))
  | .listStart _ (.inactive _) | .listStart _ (.setRate _) | .listStart _ .activate
  | .listStart _ .ret | .begin | .insert _ | .insertInit _ | .drawBlank | .mount _ | .mountInit _
  | .listBegin | .listEnd _ | .cardReady | .noFiles | .finish => .isTrue trivial

instance (s : Sys) (act : Act) : Decidable (OpensOnce s act) :=
  match act with
  | .run .readSD answer =>
    inferInstanceAs (Decidable (s.readSD.All fun pc => pc.OpensOnce s.shared answer))
  | .run .playRecording _ => inferInstanceAs (Decidable (s.playRecording.All fun pc =>
      ∀ songnummer ∈ pc.opens, s.shared.Unopened songnummer))
  | .run .keyHandler _ => inferInstanceAs (Decidable (s.keyHandler.All fun pc =>
      ∀ songnummer ∈ pc.opens, s.shared.Unopened songnummer))
  | .report _ | .keys _ | .tick _ => .isTrue trivial

/-! ## Handles that are all referred to -/

/-- Handles of which none is lost, with at most a given number of songs open. -/
structure Handles.Owned (handles : Handles) (songs : Nat) : Prop where
  positive : 0 < handles.next
  fresh : ∀ handle, handle ∈ handles.files ∨ handle ∈ handles.volumes →
    0 < handle ∧ handle < handles.next
  live : ∀ k, handles.hFile k ≠ 0 → handles.hFile k ∈ handles.files
  file : ∀ hFile ∈ handles.files, ∃ k, handles.hFile k = hFile
  once : ∀ k l, handles.hFile k ≠ 0 → handles.hFile k = handles.hFile l → k = l
  table : ∀ k, handles.hFile k ≠ 0 → 0 ≤ k ∧ k < songs ∧ k < maxSongs + 1
  volume : ∀ volume ∈ handles.volumes, volume = handles.hFat

variable {handles : Handles} {songs : Nat}

/-- More songs may be open. -/
theorem Handles.Owned.mono {more : Nat} (owned : handles.Owned songs) (order : songs ≤ more) :
    handles.Owned more := by
  refine { owned with table := fun k some => ?_ }
  have := owned.table k some
  omega

/-- An allocation that is freed again. -/
theorem Handles.Owned.pass (owned : handles.Owned songs) : handles.pass.Owned songs :=
  { owned with
    positive := Nat.succ_pos _
    fresh := fun handle inside => by
      have := owned.fresh handle inside
      simp only [Handles.pass]
      omega }

/-- A volume that mounts while there is none. -/
theorem Handles.Owned.mount (owned : handles.Owned songs) (none : handles.hFat = 0) :
    handles.mount.Owned songs := by
  have positive := owned.positive
  refine { owned with positive := Nat.succ_pos _, fresh := ?_, volume := ?_ }
  · intro handle inside
    simp only [Handles.mount, Finset.mem_insert] at inside ⊢
    rcases inside with file | rfl | volume
    · have := owned.fresh handle (.inl file)
      omega
    · omega
    · have := owned.fresh handle (.inr volume)
      omega
  · intro volume inside
    rcases Finset.mem_insert.mp inside with rfl | old
    · rfl
    · have zero := owned.volume volume old
      have := (owned.fresh volume (.inr old)).1
      omega

/-- The file of an entry without an open file is opened. -/
theorem Handles.Owned.open {k : Int} (owned : handles.Owned songs) (opened : Bool)
    (low : 0 ≤ k) (high : k < songs) (inside : k < maxSongs + 1) (closed : handles.hFile k = 0) :
    (handles.open k opened).Owned songs := by
  have positive := owned.positive
  cases opened with
  | false =>
    have same : handles.open k false = handles := by
      have : Function.update handles.hFile k 0 = handles.hFile := by
        rw [← closed, Function.update_eq_self]
      simp [Handles.open, this]
    rw [same]
    exact owned
  | true =>
    simp only [Handles.open, ↓reduceIte]
    have old : ∀ l, l ≠ k → Function.update handles.hFile k handles.next l = handles.hFile l :=
      fun l other => Function.update_of_ne other _ _
    have below : ∀ l, handles.hFile l < handles.next := fun l => by
      by_cases zero : handles.hFile l = 0
      · omega
      · exact (owned.fresh _ (.inl (owned.live l zero))).2
    refine ⟨Nat.succ_pos _, ?_, ?_, ?_, ?_, ?_, owned.volume⟩
    · intro handle inside
      dsimp only
      rcases inside.imp_left Finset.mem_insert.mp with (rfl | file) | volume
      · omega
      · have := owned.fresh handle (.inl file)
        omega
      · have := owned.fresh handle (.inr volume)
        omega
    · intro l some
      by_cases here : l = k
      · simp [here]
      · simp only [old l here] at some ⊢
        exact Finset.mem_insert_of_mem (owned.live l some)
    · intro hFile inside
      rcases Finset.mem_insert.mp inside with rfl | before
      · exact ⟨k, Function.update_self _ _ _⟩
      · obtain ⟨l, same⟩ := owned.file hFile before
        have other : l ≠ k := by
          rintro rfl
          have := (owned.fresh hFile (.inl before)).1
          omega
        exact ⟨l, (old l other).trans same⟩
    · intro l m some same
      by_cases left : l = k <;> by_cases right : m = k
      · rw [left, right]
      · simp only [left, Function.update_self, old m right] at same
        have := below m
        omega
      · simp only [right, Function.update_self, old l left] at same
        have := below l
        omega
      · dsimp only at some same
        rw [old l left] at some same
        rw [old m right] at same
        exact owned.once l m some same
    · intro l some
      by_cases here : l = k
      · exact here ▸ ⟨low, high, inside⟩
      · dsimp only at some
        rw [old l here] at some
        exact owned.table l some

/-- No handle is lost, and there are at most as many files as songs. -/
theorem Handles.Owned.allKept (owned : handles.Owned songs) : handles.AllKept songs := by
  have nonzero : ∀ hFile ∈ handles.files, hFile ≠ 0 := fun hFile inside =>
    (owned.fresh hFile (.inl inside)).1.ne'
  refine ⟨fun hFile inside => ?_, owned.volume, ?_⟩
  · obtain ⟨k, rfl⟩ := owned.file hFile inside
    obtain ⟨low, _, high⟩ := owned.table k (nonzero _ inside)
    exact ⟨k, ⟨⟨low, high⟩, rfl⟩, fun l same =>
      (owned.once k l (nonzero _ inside) same.2.symm).symm⟩
  · have files : handles.files ⊆ (Finset.range songs).image fun k : Nat => handles.hFile k := by
      intro hFile inside
      obtain ⟨k, rfl⟩ := owned.file hFile inside
      obtain ⟨low, high, _⟩ := owned.table k (nonzero _ inside)
      refine Finset.mem_image.mpr ⟨k.toNat, Finset.mem_range.mpr (by omega), ?_⟩
      rw [Int.toNat_of_nonneg low]
    have few := (Finset.card_le_card files).trans Finset.card_image_le
    rw [Finset.card_range] at few
    have one : handles.volumes.card ≤ 1 := Finset.card_le_one.mpr fun v first w second =>
      (owned.volume v first).trans (owned.volume w second).symm
    omega

/-! ## Steps -/

variable (answer : Answer) (shared : Shared)

/-- The handles after a step that may open the file of a song. -/
def Handles.openAt (handles : Handles) (opens : Option Int) (opened : Bool) : Handles :=
  match opens with
  | some songnummer => handles.open songnummer opened
  | none => handles

/-- `waveplay_start` opens one file, in its first step. -/
theorem waveplayStart_handles (pc : StartPc) :
    (waveplayStart answer shared pc).2.handles =
      shared.handles.openAt pc.opens answer.opened := by
  cases pc with
  | body songnummer =>
    simp only [waveplayStart]
    split <;> rfl
  | _ => rfl

/-- `waveplay_execute` opens a file when it restarts a song. -/
theorem waveplayExecute_handles (pc : ExecutePc) :
    (waveplayExecute answer shared pc).2.handles =
      shared.handles.openAt pc.opens answer.opened := by
  cases pc with
  | body songnummer =>
    simp only [waveplayExecute]
    split <;> rfl
  | restart pc =>
    rw [show (ExecutePc.restart pc).opens = pc.opens from rfl, ← waveplayStart_handles]
    simp only [waveplayExecute]
    split <;> simp_all
  | ret => rfl

/-- `handle_key` opens no file. -/
theorem handleKey_handles (pc : KeyPc) :
    (handleKey answer shared pc).2.handles = shared.handles := by
  obtain ⟨_, _, _, _, same⟩ := handleKey_shared answer shared pc
  rw [same]

/-- `TaskPlayRecording` opens the files of songs that it restarts. -/
theorem taskPlayRecording_handles (pc : PlayPc) :
    (taskPlayRecording answer shared pc).shared.handles =
      shared.handles.openAt pc.opens answer.opened := by
  cases pc with
  | execute i j pc => exact waveplayExecute_handles answer shared pc
  | key i j pc => exact handleKey_handles answer shared pc
  | forJ i j =>
    simp only [taskPlayRecording]
    split <;> rfl
  | pollY i j x | pollEntryY i x =>
    obtain ⟨_, same⟩ := pollStop_shared shared x
    simp only [taskPlayRecording, same]
    rfl
  | _ => rfl

/-- `TaskKeyHandler` opens the files of songs that it starts or restarts. -/
theorem taskKeyHandler_handles (locals : Locals) (pc : HandlerPc) :
    (taskKeyHandler answer locals shared pc).shared.handles =
      shared.handles.openAt pc.opens answer.opened := by
  cases pc with
  | start pc => exact waveplayStart_handles answer shared pc
  | execute pc => exact waveplayExecute_handles answer shared pc
  | key pc => exact handleKey_handles answer shared pc
  | loopKey pc =>
    have same := handleKey_handles answer shared pc
    simp only [taskKeyHandler]
    split <;> simp_all [Handles.openAt, HandlerPc.opens]
  | afterLoop =>
    simp only [taskKeyHandler]
    split <;> rfl
  | toggle =>
    simp only [taskKeyHandler, Shared.toggleRecording]
    split <;> rfl
  | _ => rfl

/-- Opening a file leaves the volumes alone. -/
theorem Handles.openAt_hFat (handles : Handles) (opens : Option Int) (opened : Bool) :
    (handles.openAt opens opened).hFat = handles.hFat := by
  cases opens with
  | none => rfl
  | some songnummer =>
    simp only [Handles.openAt, Handles.open]
    split <;> rfl

/-! ## The invariant -/

/-- The number of songs that the listing has put into the table. -/
def ReadPc.started : ReadPc → Option Nat
  | .listNext count | .listStart count (.body _) | .listEnd count => some count
  | .listStart count _ => some (count + 1)
  | _ => none

/-- The number of songs in the table: those of the list, or those listed so far. -/
def Sys.tableSongs (s : Sys) : Nat := (s.readSD.pc?.bind ReadPc.started).getD s.shared.nFileNum

/-- What holds in every run that keeps to the rule. -/
structure Kept (s : Sys) : Prop where
  owned : s.shared.handles.Owned s.tableSongs
  listing : s.readSD.All fun pc => pc.listing = true →
    s.shared.nFileNum = 0 ∧ s.shared.handles.hFat ≠ 0
  next : s.readSD.All fun pc => ∀ (count : Nat) (songnummer : Int), pc = .listStart count (.body songnummer) →
    songnummer = count
  unmounted : s.shared.handles.hFat = 0 → s.shared.nFileNum = 0

/-- After start-up no handle is live. -/
theorem Kept.boot (x1 y1 : Nat) : Kept (.boot x1 y1) := by
  refine ⟨?_, ?_, ?_, ?_⟩ <;> simp only [Sys.boot, Shared.boot, Task.all_absent, implies_true]
  constructor <;> simp

/-- Outside a listing the table has the songs of the list. -/
theorem Sys.tableSongs_eq {s : Sys} (outside : s.readSD.All fun pc => pc.listing = false) :
    s.tableSongs = s.shared.nFileNum := by
  have none : s.readSD.pc?.bind ReadPc.started = none := by
    cases here : s.readSD.pc? with
    | none => rfl
    | some pc =>
      have := outside pc here
      cases pc <;> first | rfl | contradiction
  rw [Sys.tableSongs, none, Option.getD_none]

/-- Where `TaskReadSD` neither lists nor mounts it changes no handle and no number, and it does
not enter a listing. -/
theorem taskReadSD_quiet {pc : ReadPc} (outside : pc.listing = false) (mount : pc ≠ .mountRead)
    (fail : pc ≠ .mountFail) :
    (taskReadSD answer shared pc).task.All (fun pc' => pc'.listing = false) ∧
      (taskReadSD answer shared pc).shared.handles = shared.handles ∧
      (taskReadSD answer shared pc).shared.nFileNum = shared.nFileNum := by
  cases pc with
  | listBegin | listNext | listStart | listEnd => contradiction
  | mountRead => exact absurd rfl mount
  | mountFail => exact absurd rfl fail
  | insertInit first =>
    simp only [taskReadSD]
    split
    · simp [ReadPc.listing]
    · split
      · simp [ReadPc.listing, Shared.drawOver]
      · cases first <;> simp [ReadPc.listing, Shared.drawOver]
  | mountInit nTry =>
    simp only [taskReadSD]
    split
    · simp [ReadPc.listing]
    · split
      · simp [ReadPc.listing]
      · split <;> simp [ReadPc.listing]
  | _ => simp [taskReadSD, ReadPc.listing, Shared.drawOver]

/-- A step of `waveplay_start` in the listing. -/
theorem Kept.listStart {s : Sys} {count : Nat} {pc : StartPc} (answer : Answer)
    (owned : s.shared.handles.Owned ((ReadPc.listStart count pc).started.getD s.shared.nFileNum))
    (empty : s.shared.nFileNum = 0) (mounted : s.shared.handles.hFat ≠ 0)
    (next : ∀ (count' : Nat) (songnummer : Int),
      ReadPc.listStart count pc = .listStart count' (.body songnummer) → songnummer = count')
    (rule : (ReadPc.listStart count pc).OpensOnce s.shared answer) :
    Kept (s.readSDNext (taskReadSD answer s.shared (.listStart count pc))) := by
  have number : (waveplayStart answer s.shared pc).2.nFileNum = 0 := by
    obtain ⟨_, _, same⟩ := waveplayStart_shared answer s.shared pc
    rw [same, empty]
  have handles := waveplayStart_handles answer s.shared pc
  have table : (waveplayStart answer s.shared pc).2.handles.Owned (count + 1) := by
    rw [handles]
    cases pc with
    | body songnummer =>
      obtain rfl := next count songnummer rfl
      exact (owned.mono (Nat.le_succ count)).open answer.opened (by omega) (by omega) rule.1 rule.2
    | _ => exact owned
  have still : (waveplayStart answer s.shared pc).2.handles.hFat ≠ 0 := by
    rwa [handles, Handles.openAt_hFat]
  obtain ⟨pc', here, started, behind⟩ : ∃ pc',
      ((waveplayStart answer s.shared pc).1.task (ReadPc.listStart count)
        fun _ => .listNext (count + 1)).pc? = some pc' ∧ pc'.started = some (count + 1) ∧
        ∀ count' songnummer, pc' ≠ .listStart count' (.body songnummer) := by
    cases pc with
    | body songnummer =>
      simp only [waveplayStart]
      split <;> exact ⟨_, rfl, rfl, by simp⟩
    | _ => exact ⟨_, rfl, rfl, by simp⟩
  refine ⟨?_, fun _ _ _ => ⟨number, still⟩, ?_, fun zero => absurd zero still⟩
  · simpa only [Sys.tableSongs, Sys.readSDNext, taskReadSD, here, Option.bind_some, started,
      Option.getD_some] using table
  · intro pc'' same count' songnummer at_
    obtain rfl := Option.some.inj (here.symm.trans same)
    exact absurd at_ (behind count' songnummer)

/-- A step of `TaskReadSD` that keeps to the rule. -/
theorem Kept.readSD {s : Sys} {pc : ReadPc} (before : Kept s) (answer : Answer)
    (ready : s.readSD = .ready pc) (rule : pc.OpensOnce s.shared answer) :
    Kept (s.readSDNext (taskReadSD answer s.shared pc)) := by
  obtain ⟨owned, listing, next, unmounted⟩ := before
  rw [ready, Task.all_ready] at listing next
  have songs : s.tableSongs = pc.started.getD s.shared.nFileNum := by
    simp [Sys.tableSongs, ready, Task.pc?]
  rw [songs] at owned
  by_cases quiet : pc.listing = false ∧ pc ≠ .mountRead ∧ pc ≠ .mountFail
  · obtain ⟨outside, handles, number⟩ := taskReadSD_quiet answer s.shared quiet.1 quiet.2.1 quiet.2.2
    have old : pc.started = none := by
      cases pc <;> first | rfl | simp [ReadPc.listing] at quiet
    rw [old, Option.getD_none] at owned
    refine ⟨?_, ?_, ?_, ?_⟩
    · rw [Sys.tableSongs_eq outside]
      simpa only [Sys.readSDNext, handles, number] using owned
    · exact outside.mono fun pc' outside inside => by simp [outside] at inside
    · exact outside.mono fun pc' outside count songnummer here => by
        simp [here, ReadPc.listing] at outside
    · simpa only [Sys.readSDNext, handles, number] using unmounted
  cases pc with
  | mountRead =>
    have empty := unmounted rule
    have positive := owned.positive
    simp only [ReadPc.started, Option.getD_none] at owned
    simp only [Sys.readSDNext, taskReadSD]
    split
    · refine ⟨owned.mount rule, ?_, ?_, fun zero => ?_⟩
      · simpa [ReadPc.listing, Handles.mount] using ⟨empty, positive.ne'⟩
      · simp
      · exact absurd zero positive.ne'
    · refine ⟨owned.pass, ?_, ?_, unmounted⟩ <;> simp [ReadPc.listing]
  | mountFail =>
    have same : { s.shared.handles with hFat := 0 } = s.shared.handles := by rw [← rule]
    simp only [Sys.readSDNext, taskReadSD, Shared.drawOver, same]
    refine ⟨owned, ?_, ?_, unmounted⟩ <;> simp [ReadPc.listing]
  | listBegin =>
    obtain ⟨empty, mounted⟩ := listing rfl
    simp only [ReadPc.started, Option.getD_none, empty] at owned
    refine ⟨owned, ?_, ?_, ?_⟩ <;> simp [Sys.readSDNext, taskReadSD, mounted]
  | listNext count =>
    obtain ⟨empty, mounted⟩ := listing rfl
    simp only [Sys.readSDNext, taskReadSD]
    cases entry : answer.entry with
    | readFailed => exact absurd entry rule
    | last | passed =>
      refine ⟨owned, ?_, ?_, unmounted⟩ <;> simp [empty, mounted]
    | rejected =>
      refine ⟨owned.pass, ?_, ?_, unmounted⟩ <;> simp [Handles.pass, empty, mounted]
    | accepted =>
      refine ⟨owned.pass, ?_, ?_, unmounted⟩
      · simp [Handles.pass, empty, mounted]
      · rintro _ ⟨⟩ _ _ ⟨⟩
        rfl
  | listStart count pc =>
    obtain ⟨empty, mounted⟩ := listing rfl
    exact Kept.listStart answer owned empty mounted next rule
  | listEnd count =>
    obtain ⟨empty, mounted⟩ := listing rfl
    simp only [Sys.readSDNext, taskReadSD]
    refine ⟨?_, ?_, ?_, fun zero => absurd zero mounted⟩
    · cases count <;> exact owned
    · cases count <;> simp [ReadPc.listing]
    · cases count <;> simp
  | _ => simp [ReadPc.listing] at quiet

/-- A song of the list is opened outside listings. -/
theorem Kept.ownedTable {s : Sys} {opens : Option Int} (before : Kept s) (opened : Bool)
    (rule : ∀ songnummer, opens = some songnummer → s.shared.Unopened songnummer) :
    (s.shared.handles.openAt opens opened).Owned s.tableSongs := by
  cases opens with
  | none => exact before.owned
  | some songnummer =>
    obtain ⟨low, high, inside, closed⟩ := rule songnummer rfl
    have outside : s.readSD.All fun pc => pc.listing = false :=
      before.listing.mono fun pc busy => Bool.eq_false_iff.mpr fun listing => by
        have := (busy listing).1
        omega
    rw [← Sys.tableSongs_eq outside] at high
    exact before.owned.open opened low high inside closed

/-- A step of `TaskPlayRecording` that keeps to the rule. -/
theorem Kept.playRecording {s : Sys} {pc : PlayPc} (before : Kept s) (answer : Answer)
    (rule : ∀ songnummer, pc.opens = some songnummer → s.shared.Unopened songnummer) :
    Kept (s.playRecordingNext (taskPlayRecording answer s.shared pc)) := by
  have table := before.ownedTable answer.opened rule
  have handles := taskPlayRecording_handles answer s.shared pc
  have mounted := s.shared.handles.openAt_hFat pc.opens answer.opened
  obtain ⟨_, _, _, _, _, _, _, _, same⟩ := taskPlayRecording_shared answer s.shared pc
  rw [← handles] at table mounted
  have number : (taskPlayRecording answer s.shared pc).shared.nFileNum = s.shared.nFileNum := by
    rw [same]
  refine ⟨?_, ?_, before.next, ?_⟩
  · simpa only [Sys.tableSongs, Sys.playRecordingNext, number] using table
  · simpa only [Sys.playRecordingNext, number, mounted] using before.listing
  · simpa only [Sys.playRecordingNext, number, mounted] using before.unmounted

/-- A step of `TaskKeyHandler` that keeps to the rule. -/
theorem Kept.keyHandler {s : Sys} {pc : HandlerPc} (before : Kept s) (answer : Answer)
    (rule : ∀ songnummer, pc.opens = some songnummer → s.shared.Unopened songnummer) :
    Kept (s.keyHandlerNext (taskKeyHandler answer s.locals s.shared pc)) := by
  have table := before.ownedTable answer.opened rule
  have handles := taskKeyHandler_handles answer s.shared s.locals pc
  have mounted := s.shared.handles.openAt_hFat pc.opens answer.opened
  obtain ⟨_, _, _, _, _, _, _, _, same⟩ := taskKeyHandler_shared answer s.shared s.locals pc
  rw [← handles] at table mounted
  have number : (taskKeyHandler answer s.locals s.shared pc).shared.nFileNum = s.shared.nFileNum := by
    rw [same]
  have reads := Create.readSDTask_cases
    (taskKeyHandler answer s.locals s.shared pc).create s.readSD
  refine ⟨?_, ?_, ?_, ?_⟩
  · have songs : (s.keyHandlerNext (taskKeyHandler answer s.locals s.shared pc)).tableSongs =
        s.tableSongs := by
      simp only [Sys.tableSongs, Sys.keyHandlerNext, number]
      rcases reads with old | ⟨_, absent, created⟩
      · rw [old]
      · rw [created, absent]
        rfl
    rw [songs]
    exact table
  · simp only [Sys.keyHandlerNext, number, mounted]
    exact before.listing.createRead fun _ listing => absurd listing (by decide)
  · exact before.next.createRead fun _ => by simp
  · simpa only [Sys.keyHandlerNext, number, mounted] using before.unmounted

/-- In every state of a run that keeps to the rule all handles are kept. -/
theorem Kept.run {x1 y1 : Nat} {trace : List Event} {s : Sys}
    (run : system.Run OpensOnce (.boot x1 y1) trace s) : Kept s := by
  refine run.stateInvariant Kept (.boot x1 y1) ?_
  intro s act s' events before rule step
  cases Sys.step_cases step with
  | report touch | keys button | wakePlayRecording asleep | wakeKeyHandler asleep =>
    exact { before with }
  | wakeReadSD asleep =>
    obtain ⟨owned, listing, next, unmounted⟩ := before
    simp only [Sys.tableSongs, asleep, Task.all_asleep] at owned listing next
    exact ⟨owned, (Task.all_ready _ _).mpr listing, (Task.all_ready _ _).mpr next, unmounted⟩
  | readSD answer ready =>
    simp only [OpensOnce, ready, Task.all_ready] at rule
    exact before.readSD answer ready rule
  | playRecording answer ready first =>
    simp only [OpensOnce, ready, Task.all_ready] at rule
    exact before.playRecording answer rule
  | keyHandler answer ready first second =>
    simp only [OpensOnce, ready, Task.all_ready] at rule
    exact before.keyHandler answer rule

/-- In the runs that keep to the rule no handle is lost. -/
theorem noHandleLost_opensOnce {x1 y1 : Nat} {trace : List Event} {s : Sys}
    (run : system.Run OpensOnce (.boot x1 y1) trace s) (settled : s.Settled) :
    s.shared.handles.AllKept s.shared.nFileNum := by
  have owned := (Kept.run run).owned
  rw [Sys.tableSongs_eq settled.readSD] at owned
  exact owned.allKept

/-- A card with one song is listed with one open file and one volume. -/
theorem noHandleLost_opensOnce_insert : ∃ trace s, system.Run OpensOnce (.boot 0 0) trace s ∧
    s.shared.handles.files = {3} ∧ s.shared.handles.volumes = {1} ∧
      s.shared.handles.AllKept s.shared.nFileNum := by
  have steps : (system.execWithin OpensOnce (insertCard 1) [] (.boot 0 0)).map (fun next =>
      ((next.2.readSD.pc?, next.2.playRecording.pc?, next.2.keyHandler.pc?),
        next.2.shared.handles.files, next.2.shared.handles.volumes)) =
      some ((none, none, some .songCheck), {3}, {1}) := by decide +kernel
  obtain ⟨⟨trace, s⟩, steps, same⟩ := Option.map_eq_some_iff.mp steps
  simp only [Prod.mk.injEq] at same
  obtain ⟨⟨read, play, handle⟩, files, volumes⟩ := same
  have settled : s.Settled := by
    refine ⟨fun pc here => ?_, fun pc here => ?_, fun pc here => ?_⟩
    · simp [read] at here
    · simp [play] at here
    · obtain rfl := Option.some.inj (handle.symm.trans here)
      rfl
  have run := Machine.Run.nil.execWithin steps
  exact ⟨trace, s, run, files, volumes, noHandleLost_opensOnce run settled⟩

/-! ## A press -/

/-- On a card with one song, a press of its button. -/
def pressOnce : List Act := insertCard 1 ++ firstIteration ++ pressButton ⟨1, 50, 50⟩

/-- The press opens the file of the song a second time. -/
theorem pressOnce_handles :
    (system.exec pressOnce [] (.boot 0 0)).map (fun next =>
      ((next.2.readSD.pc?, next.2.playRecording.pc?, next.2.keyHandler.pc?),
        next.2.shared.nFileNum, next.2.shared.handles.files, next.2.shared.handles.volumes)) =
    some ((none, none, some .loopTest), 1, {3, 4}, {1}) := by decide +kernel

/-- Without the rule, a press loses a handle. -/
theorem not_noHandleLost_free : ¬NoHandleLost Machine.Free := by
  intro kept
  obtain ⟨⟨trace, s⟩, steps, same⟩ := Option.map_eq_some_iff.mp pressOnce_handles
  simp only [Prod.mk.injEq] at same
  obtain ⟨⟨read, play, handle⟩, number, files, volumes⟩ := same
  have settled : s.Settled := by
    refine ⟨fun pc here => ?_, fun pc here => ?_, fun pc here => ?_⟩
    · simp [read] at here
    · simp [play] at here
    · obtain rfl := Option.some.inj (handle.symm.trans here)
      rfl
  have few := (kept (Machine.Run.nil.exec steps) settled).bounded
  rw [files, volumes, number] at few
  exact absurd few (by decide)

end SoundBoard.Tasks
