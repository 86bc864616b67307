import SoundBoard.Fat.FatFileSystem
import SoundBoard.Wave.WaveLib

/-!
# The player's tables

`gWavePlay` and `gWavePlayList` of `audio_f.h`, with the memory layout of the first: the
header queries get a pointer into it and may read past the block, so what lies around a
song's buffer is the rest of the table. The player reaches the card through a record of the
FAT library's functions (`FileApi`); the library itself is one such record (`fatApi`).
-/

namespace SoundBoard.Player

open SoundBoard.Lib SoundBoard.Fat SoundBoard.Wave

/-- The functions of the FAT library that the player calls, over the library's state. -/
structure FileApi (σ : Type) where
  fatFileBrowseBegin : σ → Nat → Exec (Option BrowseHandle)
  fatFileBrowseNext : σ → BrowseHandle → FileContext → Exec (Bool × BrowseHandle × FileContext × σ)
  fatFileOpen : σ → Nat → Name → Exec (Nat × σ)
  fatFileRead : σ → Nat → Bytes → Nat → Exec (Bool × Bytes × σ)
  fatFileClose : σ → Nat → σ

/-- The FAT library. -/
def fatApi : FileApi Heap where
  fatFileBrowseBegin := Fat.fatFileBrowseBegin
  fatFileBrowseNext := Fat.fatFileBrowseNext
  fatFileOpen := Fat.fatFileOpen
  fatFileRead := Fat.fatFileRead
  fatFileClose := Fat.fatFileClose

/-- `WAVE_BUF_SIZE`. -/
def waveBufSize : Nat := 512

/-- `MAX_SONGS`. -/
def maxSongs : Nat := 28

/-- `MAX_FILE_NUM`. -/
def maxFileNum : Nat := 128

/-- `FILENAME_LEN`. -/
def filenameLen : Nat := 32

/-- `PLAYWAVE_CONTEXT`. `uWavePlayIndex` is written by nothing, so it stays 0. A file name is
kept without its terminator. -/
structure PlaywaveContext where
  hFile : Nat
  szBuf : Bytes
  uWaveReadPos : Nat
  uWavePlayPos : Nat
  uWaveMaxPlayPos : Nat
  szFilename : Name
  readOk : Bool

/-- A context as `main` clears it. -/
def PlaywaveContext.cleared : PlaywaveContext := ⟨0, fun _ => 0, 0, 0, 0, [], false⟩

/-- What the C program reads without having written it, chosen anew for each call. -/
structure Garbage where
  /-- Memory around an array, by offset from the pointer that is followed out of it. -/
  memory : Int → UInt8
  /-- The local `bSuccess` of `waveplay_start`. -/
  bSuccess : Bool

/-- Memory that is zero wherever it has not been written. -/
def Garbage.zero : Garbage := ⟨fun _ => 0, false⟩

/-- The globals of the player. `gWavePlay` has `MAX_SONGS + 1` entries, and the list of names
`MAX_FILE_NUM`. -/
structure Globals (σ : Type) where
  files : σ
  hFat : Nat
  gWavePlay : Nat → PlaywaveContext
  nFileNum : Nat
  szFilename : Nat → Name

variable {σ : Type}

/-- Replace one entry of `gWavePlay`. -/
def Globals.setSong (p : Globals σ) (songnummer : Nat) (context : PlaywaveContext) : Globals σ :=
  { p with gWavePlay := Function.update p.gWavePlay songnummer context }

@[simp] theorem Globals.setSong_self (p : Globals σ) (k : Nat) (context : PlaywaveContext) :
    (p.setSong k context).gWavePlay k = context := by simp [Globals.setSong]

@[simp] theorem Globals.setSong_other (p : Globals σ) (k j : Nat) (context : PlaywaveContext)
    (apart : j ≠ k) : (p.setSong k context).gWavePlay j = p.gWavePlay j := by
  simp [Globals.setSong, apart]

@[simp] theorem Globals.setSong_files (p : Globals σ) (k : Nat) (context : PlaywaveContext) :
    (p.setSong k context).files = p.files := rfl

@[simp] theorem Globals.setSong_hFat (p : Globals σ) (k : Nat) (context : PlaywaveContext) :
    (p.setSong k context).hFat = p.hFat := rfl

/-! ## The bytes of the table -/

/-- `sizeof(PLAYWAVE_CONTEXT)`. -/
def sizeofContext : Int := 568

/-- Offset of `szBuf` in a context. -/
def szBufOffset : Int := 4

/-- Byte `i` of a 32-bit word in memory. -/
def wordByte (word i : Nat) : UInt8 := UInt8.ofNat (word / 256 ^ i)

/-- Byte of a context at an offset. The pointer `hFile` and the bytes after a name's
terminator are not determined by the model. -/
def PlaywaveContext.byte (context : PlaywaveContext) (unknown : UInt8) (offset : Nat) : UInt8 :=
  if offset < 4 then unknown
  else if offset < 516 then context.szBuf (offset - 4)
  else if offset < 520 then 0
  else if offset < 524 then wordByte context.uWaveReadPos (offset - 520)
  else if offset < 528 then wordByte context.uWavePlayPos (offset - 524)
  else if offset < 532 then wordByte context.uWaveMaxPlayPos (offset - 528)
  else if offset < 564 then
    if offset - 532 < context.szFilename.length then context.szFilename.getD (offset - 532) 0
    else if offset - 532 = context.szFilename.length then 0 else unknown
  else if offset = 564 then (if context.readOk then 1 else 0)
  else 0

/-- Memory as seen from `gWavePlay[k].szBuf`: the table, and unknown memory around it. -/
def bufView (gWavePlay : Nat → PlaywaveContext) (garbage : Garbage) (k : Nat) : View := fun i =>
  let address := sizeofContext * k + szBufOffset + i
  let entry := (address / sizeofContext).toNat
  if 0 ≤ address ∧ entry ≤ maxSongs then
    (gWavePlay entry).byte (garbage.memory i) (address % sizeofContext).toNat
  else garbage.memory i

/-- The view depends on the bytes of the table alone, and the file record is none of them. -/
theorem bufView_hFile (gWavePlay : Nat → PlaywaveContext) (garbage : Garbage) (k hFile : Nat)
    (context : PlaywaveContext) :
    bufView (Function.update gWavePlay k { context with hFile }) garbage k =
      bufView (Function.update gWavePlay k context) garbage k := by
  have same (entry : Nat) (unknown : UInt8) (offset : Nat) :
      (Function.update gWavePlay k { context with hFile } entry).byte unknown offset =
        (Function.update gWavePlay k context entry).byte unknown offset := by
    by_cases own : entry = k
    · rw [own, Function.update_self, Function.update_self]
      rfl
    · rw [Function.update_of_ne own, Function.update_of_ne own]
  funext i
  simp only [bufView, same]

/-- Inside the block, the view is the song's buffer. -/
theorem bufView_inside (gWavePlay : Nat → PlaywaveContext) (garbage : Garbage) {k : Nat}
    (song : k ≤ maxSongs) {i : Int} (low : 0 ≤ i) (high : i < 512) :
    bufView gWavePlay garbage k i = (gWavePlay k).szBuf i.toNat := by
  have address : 0 ≤ sizeofContext * k + szBufOffset + i := by
    simp only [sizeofContext, szBufOffset]
    omega
  have entry : ((sizeofContext * k + szBufOffset + i) / sizeofContext).toNat = k := by
    simp only [sizeofContext, szBufOffset]
    omega
  have offset : ((sizeofContext * k + szBufOffset + i) % sizeofContext).toNat = 4 + i.toNat := by
    simp only [sizeofContext, szBufOffset]
    omega
  simp only [bufView, address, entry, song, and_self, ↓reduceIte, offset, PlaywaveContext.byte]
  rw [if_neg (by omega), if_pos (by omega)]
  congr 1
  omega

/-- Memory as seen from the local array `szHeader[128]` of `build_wave_play_list`. -/
def headerView (szHeader : Bytes) (garbage : Garbage) : View := fun i =>
  if 0 ≤ i ∧ i < 128 then szHeader i.toNat else garbage.memory i

end SoundBoard.Player
