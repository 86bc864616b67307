import Mathlib.Data.List.GetD
import Mathlib.Tactic.IntervalCases
import SoundBoard.Fat.Directory

/-!
# Listing a directory

A root directory as the format describes it: free entries, and files with a short name and
perhaps a long one, whose pieces stand before the entry of the file with the last piece first.
Browsing such a directory finds its files, in order and once each, with their names and fields;
spaces are left out of the names.
-/

namespace SoundBoard.Fat

open SoundBoard.Lib

/-! ## Entries -/

/-- The bytes of a 16-bit number, low byte first. -/
def bytes16 (n : Nat) : List UInt8 := [UInt8.ofNat n, UInt8.ofNat (n / 256)]

/-- An entry from its bytes. -/
def entryOf (bytes : List UInt8) : Bytes := fun o => bytes.getD o 0

/-- A file of a directory. -/
structure FileItem where
  /-- The characters of the long name. -/
  longName : Option Name
  /-- The eleven characters of the short name. -/
  short : List UInt8
  attributes : UInt8
  /-- The eight bytes from the attributes to the high half of the cluster. -/
  created : List UInt8
  /-- The four bytes between the halves of the cluster. -/
  written : List UInt8
  cluster : Nat
  size : Nat
  deriving DecidableEq

namespace FileItem

/-- The entry of a file. -/
def entry (file : FileItem) : List UInt8 :=
  file.short ++ file.attributes :: file.created ++ bytes16 (file.cluster / 65536) ++ file.written ++
    bytes16 file.cluster ++ bytes16 file.size ++ bytes16 (file.size / 65536)

/-- How many pieces a long name has. -/
def pieces (file : FileItem) : Nat := file.longName.elim 0 fun name => (name.length + 12) / 13

/-- The entries of a file: the pieces of its long name, and its own. -/
def entries (file : FileItem) : List (List UInt8) :=
  (file.longName.elim [] fun name => (List.range file.pieces).map fun i =>
    longNameEntry name (shortChecksum file.short) (file.pieces - i) (i = 0)) ++ [file.entry]

/-- The name under which the library knows a file. -/
def name (file : FileItem) : Name :=
  match file.longName with
  | some name => name.filter isNameChar
  | none => (file.short.take 8).takeWhile isNameChar ++
      if file.attributes &&& 0x30 ≠ 0 then 0x2E :: (file.short.drop 8).takeWhile isNameChar else []

/-- A file that the format allows, with a long name that fits the buffer of the library. A file
with a long name is marked as archived, or as a directory. -/
structure Valid (file : FileItem) : Prop where
  short : file.short.length = 11
  created : file.created.length = 8
  written : file.written.length = 4
  first : file.short.headI ∉ invalidDirChars
  single : file.attributes &&& 0x0F ≠ 0x0F
  cluster : file.cluster < 4294967296
  size : file.size < 4294967296
  long : ∀ name, file.longName = some name → 0 < name.length ∧ name.length ≤ 117 ∧
    (∀ c ∈ name, c ≠ 0) ∧ file.attributes &&& 0x30 ≠ 0

end FileItem

/-- A buffer with the 16-bit units of a long name, and a zero unit behind them. -/
def HoldsUnits (buffer : Bytes) (name : Name) : Prop :=
  ∀ u ≤ name.length, buffer (2 * u) = name.getD u 0 ∧ buffer (2 * u + 1) = 0

namespace FileItem

/-- What browsing finds for a file with its entry at an index. -/
structure Describes (file : FileItem) (index : Nat) (context : FileContext) : Prop where
  name : waveFilename context = .ok file.name
  units : ∀ name, file.longName = some name → HoldsUnits context.szName name
  bLongFilename : context.bLongFilename = file.longName.isSome
  bFile : context.bFile = decide (file.attributes &&& 0x20 ≠ 0)
  bDirectory : context.bDirectory = decide (file.attributes &&& 0x10 ≠ 0)
  bVolume : context.bVolume = decide (file.attributes &&& 0x08 ≠ 0)
  dirEntryIndex : context.dirEntryIndex = index
  attributes : context.attributes = file.attributes
  cluster : context.firstLogicalClusterHi * 65536 + context.firstLogicalCluster = file.cluster
  lowHalf : context.firstLogicalCluster < 65536
  fileSize : context.fileSize = file.size

end FileItem

/-- What stands in a directory. -/
inductive DirItem where
  | free (entry : List UInt8)
  | file (item : FileItem)

/-- The entries of an item. -/
def DirItem.entries : DirItem → List (List UInt8)
  | .free entry => [entry]
  | .file item => item.entries

/-- A valid item. -/
def DirItem.Valid : DirItem → Prop
  | .free entry => Skipped (entryOf entry)
  | .file item => item.Valid

/-- The files of a directory that begins at an index, with the indices of their entries. -/
def filesFrom : Nat → List DirItem → List (Nat × FileItem)
  | _, [] => []
  | start, .free _ :: items => filesFrom (start + 1) items
  | start, .file item :: items =>
    (start + item.pieces, item) :: filesFrom (start + item.pieces + 1) items

/-! ## What browsing looks at -/

/-- Two entries whose 32 bytes are the same. -/
def SameEntryBytes (dir dir' : Bytes) : Prop := ∀ o < 32, dir o = dir' o

variable {dir dir' : Bytes}

/-- The characters of a short name are among the bytes of its entry. -/
theorem SameEntryBytes.shortName (same : SameEntryBytes dir dir') : shortName dir = shortName dir' := by
  have field (start count : Nat) (inside : start + count ≤ 32) :
      (List.range count).map (drop dir start) = (List.range count).map (drop dir' start) := by
    refine List.map_congr_left fun i low => ?_
    have := List.mem_range.mp low
    exact same (start + i) (by omega)
  simp only [Fat.shortName, field 0 8 (by decide), field 8 3 (by decide), same 11 (by decide)]

/-- A pass over an entry depends on its 32 bytes only. -/
theorem SameEntryBytes.browseEntry (same : SameEntryBytes dir dir') (index : Nat)
    (context : FileContext) (orderValue : Int) (bLongFilename : Bool) :
    browseEntry dir index context orderValue bLongFilename =
      browseEntry dir' index context orderValue bLongFilename := by
  have piece (szName : Bytes) (start : Nat) :
      copyAt szName start (longNamePiece dir) 26 = copyAt szName start (longNamePiece dir') 26 := by
    refine copyAt_congr _ _ _ _ _ fun i low => ?_
    simp only [longNamePiece]
    split
    · exact same (1 + i) (by omega)
    · split
      · exact same (14 + (i - 10)) (by omega)
      · exact same (28 + (i - 22)) (by omega)
  have long : browseLongEntry dir context orderValue bLongFilename =
      browseLongEntry dir' context orderValue bLongFilename := by
    simp only [browseLongEntry, same 0 (by decide), piece]
  have composed (szName : Bytes) : fatComposeShortFilename dir szName =
      fatComposeShortFilename dir' szName := congrArg (writeString szName) same.shortName
  have short : browseShortEntry dir index context bLongFilename =
      browseShortEntry dir' index context bLongFilename := by
    simp only [browseShortEntry, composed, same 11 (by decide), same 20 (by decide),
      same 21 (by decide), same 26 (by decide), same 27 (by decide), same 28 (by decide),
      same 29 (by decide), same 30 (by decide), same 31 (by decide)]
  have valid : fatIsValidDir dir = fatIsValidDir dir' := by
    rw [fatIsValidDir, fatIsValidDir, same 0 (by decide)]
  have unused : fatIsUnusedDir dir = fatIsUnusedDir dir' := by
    rw [fatIsUnusedDir, fatIsUnusedDir, same 0 (by decide)]
  have last : fatIsLastDir dir = fatIsLastDir dir' := by
    rw [fatIsLastDir, fatIsLastDir, same 0 (by decide)]
  simp only [Fat.browseEntry, valid, unused, last, long, short, same 11 (by decide)]

/-! ## Long names -/

/-- A byte of a unit of a long name: its characters, a zero unit, and units of ones. -/
def unitByte (name : Name) (unit half : Nat) : UInt8 :=
  if unit < name.length then (if half = 0 then name.getD unit 0 else 0)
  else if unit = name.length then 0 else 0xFF

/-- The buffer of a long name when the pieces from one on have been collected. -/
def collected (name : Name) (pieces left : Nat) : Bytes := fun i =>
  if 26 * left ≤ i ∧ i < 26 * pieces then unitByte name (i / 2) (i % 2) else 0

/-- The bytes of an entry with a piece of a long name. -/
theorem longNameEntry_eq (name : Name) (checksum : UInt8) (order : Nat) (last : Bool) :
    longNameEntry name checksum order last =
      let u := fun i half => unitByte name (13 * (order - 1) + i) half
      [UInt8.ofNat order + (if last then 0x40 else 0), u 0 0, u 0 1, u 1 0, u 1 1, u 2 0, u 2 1,
        u 3 0, u 3 1, u 4 0, u 4 1, 0x0F, 0, checksum, u 5 0, u 5 1, u 6 0, u 6 1, u 7 0, u 7 1,
        u 8 0, u 8 1, u 9 0, u 9 1, u 10 0, u 10 1, 0, 0, u 11 0, u 11 1, u 12 0, u 12 1] := by
  have unit (i : Nat) : (if i < name.length then [name.getD i 0, 0]
      else if i = name.length then [0, 0] else [0xFF, 0xFF]) = [unitByte name i 0, unitByte name i 1] := by
    simp only [unitByte]
    split
    · rfl
    · split <;> rfl
  have two : List.range 2 = [0, 1] := rfl
  have five : List.range 5 = [0, 1, 2, 3, 4] := rfl
  have six : List.range 6 = [0, 1, 2, 3, 4, 5] := rfl
  simp only [longNameEntry, unit, two, five, six, List.flatMap_cons, List.flatMap_nil,
    List.cons_append, List.nil_append, Nat.add_assoc, Nat.reduceAdd, Nat.add_zero]

/-- The 26 bytes of a piece. -/
theorem longNamePiece_entryOf (name : Name) (checksum : UInt8) (order : Nat) (last : Bool) {i : Nat}
    (inside : i < 26) :
    longNamePiece (entryOf (longNameEntry name checksum order last)) i =
      unitByte name (13 * (order - 1) + i / 2) (i % 2) := by
  rw [longNameEntry_eq]
  interval_cases i <;> rfl

/-- A piece of a long name is taken for one, with its order number. -/
theorem longNameEntry_isLongPiece (name : Name) (checksum : UInt8) {order : Nat} (last : Bool)
    (low : 0 < order) (high : order ≤ 9) :
    IsLongPiece (entryOf (longNameEntry name checksum order last)) ∧
      pieceOrder (entryOf (longNameEntry name checksum order last)) = order := by
  have first : entryOf (longNameEntry name checksum order last) 0 =
      UInt8.ofNat order + (if last then 0x40 else 0) := by
    rw [longNameEntry_eq]
    rfl
  have attributes : entryOf (longNameEntry name checksum order last) 11 = 0x0F := by
    rw [longNameEntry_eq]
    rfl
  simp only [IsLongPiece, fatIsValidDir, fatIsUnusedDir, pieceOrder, first, attributes]
  interval_cases order <;> cases last <;> decide

/-- Collecting one piece more. -/
theorem copyAt_collected (name : Name) (checksum : UInt8) {pieces left : Nat} (last : Bool)
    (low : 0 < left) (high : left ≤ pieces) :
    copyAt (collected name pieces left) ((left - 1) * 26)
        (longNamePiece (entryOf (longNameEntry name checksum left last))) 26 =
      collected name pieces (left - 1) := by
  funext i
  by_cases before : i < (left - 1) * 26
  · rw [copyAt_outside _ _ _ _ _ (by omega), collected, collected, if_neg (by omega),
      if_neg (by omega)]
  · by_cases inside : i < (left - 1) * 26 + 26
    · have unit : 13 * (left - 1) + (i - (left - 1) * 26) / 2 = i / 2 := by omega
      have half : (i - (left - 1) * 26) % 2 = i % 2 := by omega
      rw [copyAt_inside _ _ _ _ _ (by omega) inside, longNamePiece_entryOf _ _ _ _ (by omega), unit,
        half, collected, if_pos (by omega)]
    · have same : (26 * left ≤ i ∧ i < 26 * pieces) = (26 * (left - 1) ≤ i ∧ i < 26 * pieces) :=
        propext (by omega)
      rw [copyAt_outside _ _ _ _ _ (by omega), collected, collected]
      simp only [same]

/-- A complete long name stands in its buffer. -/
theorem collected_holdsUnits (name : Name) {pieces : Nat} (room : name.length ≤ 13 * pieces) :
    HoldsUnits (collected name pieces 0) name := by
  intro u inside
  have low : 2 * u / 2 = u ∧ 2 * u % 2 = 0 := by omega
  have high : (2 * u + 1) / 2 = u ∧ (2 * u + 1) % 2 = 1 := by omega
  by_cases more : u < name.length
  · rw [collected, if_pos (by omega), low.1, low.2, unitByte, if_pos more, if_pos rfl, collected,
      if_pos (by omega), high.1, high.2, unitByte, if_pos more]
    exact ⟨rfl, rfl⟩
  · have ended : u = name.length := Nat.le_antisymm inside (Nat.le_of_not_lt more)
    have zero (half : Nat) : unitByte name u half = 0 := by
      rw [unitByte, if_neg more, if_pos ended]
    rw [List.getD_eq_default _ _ (Nat.le_of_not_lt more), collected, low.1, zero, ite_self, collected,
      high.1, zero, ite_self]
    exact ⟨rfl, rfl⟩

/-- A long name is read without its spaces. -/
theorem HoldsUnits.squeeze {buffer : Bytes} {name : Name} (holds : HoldsUnits buffer name)
    (nonzero : ∀ c ∈ name, c ≠ 0) (limit : Nat) {u : Nat} (inside : u ≤ name.length)
    (enough : name.length - u < limit) :
    squeezeLongName buffer limit (2 * u) = .ok ((name.drop u).filter isNameChar) := by
  induction limit generalizing u with
  | zero => omega
  | succ limit ih =>
    obtain ⟨low, high⟩ := holds u inside
    by_cases more : u < name.length
    · rw [List.getD_eq_getElem name 0 more] at low
      have some : name[u] ≠ 0 := nonzero _ (List.getElem_mem more)
      have rest := @ih (u + 1) more (by omega)
      rw [Nat.mul_add] at rest
      have zero : isNameChar 0 = false := rfl
      rw [squeezeLongName, low, high, if_neg fun both => some both.1, rest,
        List.drop_eq_getElem_cons more]
      simp only [Except.map, List.filter_cons, zero, List.filter_nil]
      split <;> rfl
    · obtain rfl : u = name.length := Nat.le_antisymm inside (Nat.le_of_not_lt more)
      rw [List.getD_eq_default _ _ (Nat.le_refl _)] at low
      rw [squeezeLongName, if_pos ⟨low, high⟩, List.drop_length, List.filter_nil]

/-! ## Browsing -/

/-- The entries of a directory from an index on. -/
def Written (image : Nat → Bytes) (geometry : VolumeInfo) (start : Nat)
    (entries : List (List UInt8)) : Prop :=
  ∀ i entry, entries[i]? = some entry → SameEntryBytes (dirEntry image geometry (start + i)) (entryOf entry)

variable {image : Nat → Bytes} {geometry vol : VolumeInfo} {start index fuel : Nat}
  {context : FileContext}

/-- The first entry. -/
theorem Written.head {entry : List UInt8} {entries : List (List UInt8)}
    (written : Written image geometry start (entry :: entries)) :
    SameEntryBytes (dirEntry image geometry start) (entryOf entry) :=
  written 0 entry rfl

/-- Entries behind others. -/
theorem Written.append {before after : List (List UInt8)}
    (written : Written image geometry start (before ++ after)) :
    Written image geometry start before ∧ Written image geometry (start + before.length) after := by
  refine ⟨fun i entry found => written i entry ?_, fun i entry found => ?_⟩
  · have inside : i < before.length := by
      by_contra beyond
      rw [List.getElem?_eq_none (Nat.le_of_not_lt beyond)] at found
      contradiction
    rw [List.getElem?_append_left inside, found]
  · rw [Nat.add_assoc]
    refine written _ entry ?_
    rw [List.getElem?_append_right (Nat.le_add_right _ _), Nat.add_sub_cancel_left, found]

section Passes

variable {entry : List UInt8} {orderValue orderValue' : Int} {bLongFilename bLongFilename' bFind : Bool}
  {context' : FileContext} (card : OnCard image geometry vol)
  (here : (index + 1) % 4294967296 = start)
  (same : SameEntryBytes (dirEntry image geometry start) (entryOf entry))

include card here same

/-- A pass that ends the browse loop. -/
theorem browseLoop_done (fuel : Nat)
    (pass : browseEntry (entryOf entry) start context orderValue bLongFilename =
      .ok (.done bFind context')) :
    ∃ vol', OnCard image geometry vol' ∧
      browseLoop (fuel + 1) vol index context orderValue bLongFilename =
        .ok (bFind, start, context', vol') := by
  obtain ⟨vol', found, card'⟩ := card.findDirectory ((index + 1) % 4294967296)
  rw [here] at found
  refine ⟨vol', card', ?_⟩
  simp only [browseLoop, here, found, same.browseEntry, pass]

/-- A pass behind which the browse loop goes on. -/
theorem browseLoop_more (fuel : Nat)
    (pass : browseEntry (entryOf entry) start context orderValue bLongFilename =
      .ok (.more context' orderValue' bLongFilename')) :
    ∃ vol', OnCard image geometry vol' ∧
      browseLoop (fuel + 1) vol index context orderValue bLongFilename =
        browseLoop fuel vol' start context' orderValue' bLongFilename' := by
  obtain ⟨vol', found, card'⟩ := card.findDirectory ((index + 1) % 4294967296)
  rw [here] at found
  refine ⟨vol', card', ?_⟩
  simp only [browseLoop, here, found, same.browseEntry, pass]

end Passes

/-- A pass over a piece of a long name. -/
theorem browseEntry_piece {dir : Bytes} (piece : IsLongPiece dir) (orderValue : Int)
    (bLongFilename : Bool) :
    browseEntry dir index context orderValue bLongFilename =
      browseLongEntry dir context orderValue bLongFilename := by
  rw [browseEntry, if_pos piece.1, if_pos piece.2]

/-- Nothing has been collected yet. -/
theorem collected_none (name : Name) (pieces : Nat) : collected name pieces pieces = fun _ => 0 := by
  funext i
  rw [collected, if_neg (by omega)]

/-- The loop collects the pieces of a long name that are left. -/
theorem browseLoop_pieces {name : Name} (checksum : UInt8) {pieces left : Nat} (fuel : Nat)
    (card : OnCard image geometry vol) (here : (index + 1) % 4294967296 = start)
    (few : left ≤ 9) (inside : left ≤ pieces) (range : start + left < 4294967296)
    (szName : context.szName = collected name pieces left)
    (written : ∀ j < left, ∃ last, SameEntryBytes (dirEntry image geometry (start + j))
      (entryOf (longNameEntry name checksum (left - j) last))) :
    ∃ vol' index' context', OnCard image geometry vol' ∧
      (index' + 1) % 4294967296 = start + left ∧ context'.szName = collected name pieces 0 ∧
      browseLoop (left + fuel) vol index context left true =
        browseLoop fuel vol' index' context' 0 true := by
  induction left generalizing vol index start context with
  | zero =>
    refine ⟨vol, index, context, card, here, szName, ?_⟩
    rw [Nat.zero_add]
    rfl
  | succ left ih =>
    obtain ⟨last, same⟩ := written 0 (Nat.succ_pos left)
    obtain ⟨piece, order⟩ := longNameEntry_isLongPiece name checksum last (Nat.succ_pos left) few
    obtain ⟨next, nextEq⟩ : ∃ next : FileContext, next =
        { context with szName := collected name pieces left } := ⟨_, rfl⟩
    have pass : browseEntry (entryOf (longNameEntry name checksum (left + 1) last)) start context
        ((left + 1 : Nat) : Int) true = .ok (.more next left true) := by
      rw [browseEntry_piece piece, browseLongEntry_next _ _ (Nat.succ_pos left) few, if_pos order,
        szName, copyAt_collected name checksum last (Nat.succ_pos left) inside, nextEq]
      rfl
    obtain ⟨vol₁, card₁, first⟩ := browseLoop_more card here same (left + fuel) pass
    have onward : (start + 1) % 4294967296 = start + 1 := Nat.mod_eq_of_lt (by omega)
    obtain ⟨vol', index', context', card', here', name', rest⟩ := @ih vol₁ (start + 1) start next card₁
      onward (by omega) (by omega) (by omega) (by rw [nextEq]) (fun j low => by
        obtain ⟨last', same'⟩ := written (j + 1) (Nat.succ_lt_succ low)
        have place : start + (j + 1) = start + 1 + j := by omega
        have turn : left + 1 - (j + 1) = left - j := by omega
        rw [place, turn] at same'
        exact ⟨last', same'⟩)
    refine ⟨vol', index', context', card', by omega, name', ?_⟩
    rw [Nat.add_right_comm, first, rest]

/-- The bytes of the entry of a file. -/
theorem FileItem.Valid.entryOf {file : FileItem} (valid : file.Valid) :
    (∀ i < 11, Fat.entryOf file.entry i = file.short.getD i 0) ∧
      Fat.entryOf file.entry 11 = file.attributes ∧
      le16 (Fat.entryOf file.entry) 20 = file.cluster / 65536 ∧
      le16 (Fat.entryOf file.entry) 26 = file.cluster % 65536 ∧
      fileSize (Fat.entryOf file.entry) = file.size := by
  have word (n : Nat) : word16 (UInt8.ofNat n) (UInt8.ofNat (n / 256)) = n % 65536 := by
    rw [word16, UInt8.toNat_ofNat', UInt8.toNat_ofNat']
    omega
  obtain ⟨short, created, written, -, -, cluster, size, -⟩ := valid
  refine ⟨fun i low => ?_, ?_, ?_, ?_, ?_⟩
  · simp [Fat.entryOf, FileItem.entry, List.getElem?_append, short, low]
  · simp [Fat.entryOf, FileItem.entry, short]
  · have bytes : le16 (Fat.entryOf file.entry) 20 =
        word16 (UInt8.ofNat (file.cluster / 65536)) (UInt8.ofNat (file.cluster / 65536 / 256)) := by
      simp [le16, Fat.entryOf, FileItem.entry, bytes16, List.getElem?_append, short, created]
    rw [bytes, word]
    omega
  · have bytes : le16 (Fat.entryOf file.entry) 26 =
        word16 (UInt8.ofNat file.cluster) (UInt8.ofNat (file.cluster / 256)) := by
      simp [le16, Fat.entryOf, FileItem.entry, bytes16, short, created, written]
    rw [bytes, word]
  · have bytes : fileSize (Fat.entryOf file.entry) =
        word16 (UInt8.ofNat file.size) (UInt8.ofNat (file.size / 256)) +
          65536 * word16 (UInt8.ofNat (file.size / 65536)) (UInt8.ofNat (file.size / 65536 / 256)) := by
      simp [fileSize, le32, word32, Fat.entryOf, FileItem.entry, bytes16, short, created, written]
    rw [bytes, word, word]
    omega

/-- The short name of a file, from its entry. -/
theorem FileItem.Valid.shortName {file : FileItem} (valid : file.Valid) :
    shortName (Fat.entryOf file.entry) = (file.short.take 8).takeWhile isNameChar ++
      if file.attributes &&& 0x30 ≠ 0 then 0x2E :: (file.short.drop 8).takeWhile isNameChar
      else [] := by
  obtain ⟨bytes, attributes, -⟩ := valid.entryOf
  have base : (List.range 8).map (drop (Fat.entryOf file.entry) 0) = file.short.take 8 := by
    refine List.ext_getElem (by simp [valid.short]) fun i low high => ?_
    have inside : i < 8 := by simpa using low
    rw [List.getElem_map, List.getElem_range, drop_apply, Nat.zero_add, bytes i (by omega),
      List.getElem_take, List.getD_eq_getElem]
  have extension : (List.range 3).map (drop (Fat.entryOf file.entry) 8) = file.short.drop 8 := by
    refine List.ext_getElem (by simp [valid.short]) fun i low high => ?_
    have inside : i < 3 := by simpa using low
    rw [List.getElem_map, List.getElem_range, drop_apply, bytes (8 + i) (by omega),
      List.getElem_drop, List.getD_eq_getElem]
  simp only [Fat.shortName, base, extension, attributes]

/-- The entry of a file is used, and no piece of a long name. -/
theorem FileItem.Valid.browseEntry {file : FileItem} (valid : file.Valid) (orderValue : Int)
    (bLongFilename : Bool) :
    browseEntry (Fat.entryOf file.entry) index context orderValue bLongFilename =
      .ok (browseShortEntry (Fat.entryOf file.entry) index context bLongFilename) := by
  obtain ⟨bytes, attributes, -⟩ := valid.entryOf
  have first : Fat.entryOf file.entry 0 = file.short.headI := by
    rw [bytes 0 (by decide)]
    cases file.short <;> rfl
  have char := valid.first
  have used : fatIsValidDir (Fat.entryOf file.entry) ∧ ¬fatIsUnusedDir (Fat.entryOf file.entry) := by
    rw [fatIsValidDir, fatIsUnusedDir, first]
    refine ⟨by simpa using char, fun unused => char ?_⟩
    rw [of_decide_eq_true unused]
    decide
  rw [Fat.browseEntry, if_pos used, attributes, if_neg valid.single]

/-- The context that a pass over the entry of a file leaves. -/
theorem FileItem.describes {file : FileItem} {dir szName : Bytes} (index : Nat)
    (attributes : dir 11 = file.attributes) (high : le16 dir 20 = file.cluster / 65536)
    (low : le16 dir 26 = file.cluster % 65536) (size : Fat.fileSize dir = file.size)
    (named : ∀ context : FileContext, context.szName = szName →
      context.bLongFilename = file.longName.isSome → waveFilename context = .ok file.name)
    (units : ∀ name, file.longName = some name → HoldsUnits szName name) :
    file.Describes index
      { szName
        bLongFilename := file.longName.isSome
        bFile := dir 11 &&& 0x20 ≠ 0
        bDirectory := dir 11 &&& 0x10 ≠ 0
        bVolume := dir 11 &&& 0x08 ≠ 0
        dirEntryIndex := index
        attributes := dir 11
        firstLogicalClusterHi := word16 (dir 20) (dir 21)
        firstLogicalCluster := word16 (dir 26) (dir 27)
        fileSize := word32 (dir 28) (dir 29) (dir 30) (dir 31) } := by
  have cluster : file.cluster / 65536 * 65536 + file.cluster % 65536 = file.cluster :=
    Nat.div_add_mod' _ _
  refine ⟨named _ rfl rfl, units, rfl, ?_, ?_, ?_, rfl, attributes, ?_, ?_, size⟩
  · rw [attributes]
  · rw [attributes]
  · rw [attributes]
  · exact (congrArg₂ (· * 65536 + ·) high low).trans cluster
  · exact low.trans_lt (Nat.mod_lt _ (by decide))

/-- The pass over the entry of a file finds it. -/
theorem FileItem.Valid.done {file : FileItem} (valid : file.Valid) (index : Nat)
    (context : FileContext) (orderValue : Int)
    (szName : ∀ name, file.longName = some name → HoldsUnits context.szName name) :
    ∃ context', Fat.browseEntry (Fat.entryOf file.entry) index context orderValue
        file.longName.isSome = .ok (.done true context') ∧ file.Describes index context' := by
  obtain ⟨-, attributes, high, low, size⟩ := valid.entryOf
  have short := valid.shortName
  rw [valid.browseEntry]
  generalize Fat.entryOf file.entry = dir at attributes high low size short
  cases name : file.longName with
  | none =>
    obtain ⟨bound, nonzero⟩ := shortName_spec dir
    have own : file.name = Fat.shortName dir := by
      rw [short, FileItem.name, name]
    have named (found : FileContext) (same : found.szName = writeString context.szName (Fat.shortName dir))
        (long : found.bLongFilename = file.longName.isSome) : waveFilename found = .ok file.name := by
      rw [waveFilename, long, name, same, own]
      exact readString_writeString _ _ (Nat.lt_of_le_of_lt bound (by decide)) nonzero
    have described := FileItem.describes index attributes high low size named fun _ some => by
      rw [name] at some
      contradiction
    rw [name] at described
    exact ⟨_, rfl, described⟩
  | some long =>
    obtain ⟨-, fits, nonzero, marked⟩ := valid.long long name
    have units := szName long name
    have kept : ¬(dir 11 &&& 0x30 = 0) := by
      rw [attributes]
      exact marked
    have named (found : FileContext) (same : found.szName = context.szName)
        (flag : found.bLongFilename = file.longName.isSome) : waveFilename found = .ok file.name := by
      have squeezed := units.squeeze nonzero (maxFilenameLength / 2) (Nat.zero_le _)
        (show long.length - 0 < 256 / 2 by omega)
      rw [waveFilename, flag, name, Option.isSome_some, if_pos rfl, same, FileItem.name, name]
      exact squeezed
    have described := FileItem.describes index attributes high low size named szName
    rw [name] at described
    simp only [browseShortEntry, Option.isSome_some, if_true, if_neg kept]
    exact ⟨_, rfl, described⟩

/-- The loop finds a file at its entries. -/
theorem browseLoop_file {file : FileItem} (valid : file.Valid) (card : OnCard image geometry vol)
    (here : (index + 1) % 4294967296 = start) (range : start + file.pieces + 1 < 4294967296)
    (written : Written image geometry start file.entries) (context : FileContext) :
    ∃ vol' context', OnCard image geometry vol' ∧ file.Describes (start + file.pieces) context' ∧
      browseLoop (file.pieces + 1 + fuel) vol index context 0 false =
        .ok (true, start + file.pieces, context', vol') := by
  cases name : file.longName with
  | none =>
    have pieces : file.pieces = 0 := by rw [FileItem.pieces, name]; rfl
    have own : Written image geometry start [file.entry] := by
      rw [FileItem.entries, name] at written
      exact written
    obtain ⟨context', pass, described⟩ := valid.done start context 0
      fun _ some => by rw [name] at some; contradiction
    rw [name] at pass
    obtain ⟨vol', card', done⟩ := browseLoop_done card here own.head fuel pass
    rw [pieces]
    exact ⟨vol', context', card', described, by rw [Nat.zero_add, Nat.add_comm]; exact done⟩
  | some long =>
    obtain ⟨content, fits, -⟩ := valid.long long name
    have pieces : file.pieces = (long.length + 12) / 13 := by rw [FileItem.pieces, name]; rfl
    obtain ⟨left, leftEq⟩ : ∃ left, file.pieces = left + 1 := ⟨file.pieces - 1, by omega⟩
    rw [FileItem.entries, name] at written
    obtain ⟨before, own⟩ := written.append
    rw [show List.length _ = file.pieces by simp] at own
    have each (j : Nat) (low : j < file.pieces) : ∃ last, SameEntryBytes
        (dirEntry image geometry (start + j))
        (entryOf (longNameEntry long (shortChecksum file.short) (file.pieces - j) last)) :=
      ⟨j = 0, before j _ (by
        rw [Option.elim_some, List.getElem?_map, List.getElem?_range low]
        rfl)⟩
    obtain ⟨last, same⟩ := each 0 (by omega)
    obtain ⟨piece, order⟩ := longNameEntry_isLongPiece long (shortChecksum file.short) last
      (show 0 < file.pieces by omega) (by omega)
    obtain ⟨next, nextEq⟩ : ∃ next : FileContext, next =
        { context with szName := collected long file.pieces left } := ⟨_, rfl⟩
    have pass : browseEntry (entryOf (longNameEntry long (shortChecksum file.short) file.pieces last))
        start context 0 false = .ok (.more next left true) := by
      have turn : left = file.pieces - 1 := by omega
      have fresh : (fun _ => 0 : Bytes) = collected long file.pieces file.pieces :=
        (collected_none _ _).symm
      have value : ((file.pieces : Int) - 1) = (left : Int) := by omega
      rw [browseEntry_piece piece, browseLongEntry_first, order, if_pos (by omega), fresh,
        copyAt_collected _ _ _ (by omega) (Nat.le_refl _), nextEq, turn, ← turn, value]
    obtain ⟨vol₁, card₁, first⟩ := browseLoop_more card here same (left + (1 + fuel)) pass
    have begun : next.szName = collected long file.pieces left := by rw [nextEq]
    have onward : (start + 1) % 4294967296 = start + 1 := Nat.mod_eq_of_lt (by omega)
    obtain ⟨vol₂, index₂, context₂, card₂, here₂, szName, rest⟩ :=
      browseLoop_pieces (shortChecksum file.short) (1 + fuel) card₁ onward
        (show left ≤ 9 by omega) (show left ≤ file.pieces by omega) (by omega) begun
        (fun j low => by
          obtain ⟨last', same'⟩ := each (j + 1) (by omega)
          have place : start + (j + 1) = start + 1 + j := by omega
          have turn : file.pieces - (j + 1) = left - j := by omega
          rw [place, turn] at same'
          exact ⟨last', same'⟩)
    obtain ⟨context', found, described⟩ := valid.done (start + file.pieces) context₂ 0
      fun own some => by
        obtain rfl : long = own := Option.some.inj (name.symm.trans some)
        rw [szName]
        exact collected_holdsUnits long (by omega)
    rw [name, Option.isSome_some] at found
    have there : (index₂ + 1) % 4294967296 = start + file.pieces := by omega
    obtain ⟨vol', card', done⟩ := browseLoop_done card₂ there own.head fuel found
    refine ⟨vol', context', card', described, ?_⟩
    rw [leftEq, show left + 1 + 1 + fuel = left + (1 + fuel) + 1 by omega, ← leftEq, first, rest,
      Nat.add_comm 1 fuel, done]

/-! ## Directories -/

/-- A directory on a card, from an index to the index of its end mark. -/
structure Directory (image : Nat → Bytes) (geometry : VolumeInfo) (stop start : Nat)
    (items : List DirItem) : Prop where
  valid : ∀ item ∈ items, item.Valid
  written : Written image geometry start (items.flatMap DirItem.entries)
  ends : start + (items.flatMap DirItem.entries).length = stop
  mark : fatIsLastDir (dirEntry image geometry stop)
  range : stop < 4294967296

/-- How many entries a file has. -/
theorem FileItem.entries_length (file : FileItem) : file.entries.length = file.pieces + 1 := by
  rw [FileItem.entries, List.length_append, List.length_singleton, FileItem.pieces]
  cases file.longName with
  | none => rfl
  | some name => rw [Option.elim_some, List.length_map, List.length_range]

variable {stop : Nat} {item : DirItem} {items : List DirItem}

/-- A directory behind its first item. -/
theorem Directory.behind (directory : Directory image geometry stop start (item :: items)) :
    Directory image geometry stop (start + item.entries.length) items where
  valid other inside := directory.valid other (List.mem_cons_of_mem _ inside)
  written := by
    have written := directory.written
    rw [List.flatMap_cons] at written
    exact written.append.2
  ends := by
    have ends := directory.ends
    rw [List.flatMap_cons, List.length_append] at ends
    omega
  mark := directory.mark
  range := directory.range

/-- What the next browse finds in a directory: its first file, or its end. -/
inductive NextFile (image : Nat → Bytes) (geometry : VolumeInfo) (stop start : Nat)
    (items : List DirItem) : Bool × Nat × FileContext × VolumeInfo → Prop where
  | found {place : Nat} {file : FileItem} {rest : List DirItem} {context : FileContext}
      {vol : VolumeInfo} (files : filesFrom start items = (place, file) :: filesFrom (place + 1) rest)
      (directory : Directory image geometry stop (place + 1) rest)
      (described : file.Describes place context) :
      NextFile image geometry stop start items (true, place, context, vol)
  | none {index : Nat} {context : FileContext} {vol : VolumeInfo} (files : filesFrom start items = []) :
      NextFile image geometry stop start items (false, index, context, vol)

/-- The browse loop finds the next file of a directory, by induction on its items. -/
theorem browseLoop_next (directory : Directory image geometry stop start items)
    (card : OnCard image geometry vol) (here : (index + 1) % 4294967296 = start)
    (context : FileContext) (fuel : Nat) (enough : stop < start + fuel) :
    ∃ result, browseLoop fuel vol index context 0 false = .ok result ∧
      NextFile image geometry stop start items result := by
  induction items generalizing vol index start fuel with
  | nil =>
    obtain ⟨-, -, last, mark, -⟩ := directory
    obtain rfl : start = stop := last
    obtain ⟨fuel, rfl⟩ : ∃ more, fuel = more + 1 := ⟨fuel - 1, by omega⟩
    obtain ⟨vol', found, -⟩ := card.findDirectory ((index + 1) % 4294967296)
    rw [here] at found
    have ended : browseLoop (fuel + 1) vol index context 0 false =
        .ok (false, start, context, vol') := by
      simp only [browseLoop, here, found, browseEntry_last mark]
    exact ⟨_, ended, .none rfl⟩
  | cons item items ih =>
    have behind := directory.behind
    have further := behind.ends
    have range := directory.range
    cases item with
    | free entry =>
      have one : (DirItem.free entry).entries.length = 1 := rfl
      rw [one] at behind further
      obtain ⟨fuel, rfl⟩ : ∃ more, fuel = more + 1 := ⟨fuel - 1, by omega⟩
      obtain ⟨unused, notLast⟩ : Skipped (entryOf entry) := directory.valid _ List.mem_cons_self
      have pass : browseEntry (entryOf entry) start context 0 false = .ok (.more context 0 false) := by
        rw [browseEntry, if_neg unused, if_neg notLast]
      obtain ⟨vol', card', more⟩ := browseLoop_more card here directory.written.head fuel pass
      have onward : (start + 1) % 4294967296 = start + 1 := Nat.mod_eq_of_lt (by omega)
      obtain ⟨result, rest, next⟩ := ih behind card' onward fuel (by omega)
      refine ⟨result, more.trans rest, ?_⟩
      cases next with
      | found files directory described => exact .found files directory described
      | none files => exact .none files
    | file file =>
      have count : (DirItem.file file).entries.length = file.pieces + 1 := file.entries_length
      rw [count] at behind further
      have written := directory.written
      rw [List.flatMap_cons] at written
      obtain ⟨fuel, rfl⟩ : ∃ more, fuel = file.pieces + 1 + more :=
        ⟨fuel - (file.pieces + 1), by omega⟩
      obtain ⟨vol', context', -, described, found⟩ := browseLoop_file
        (directory.valid _ List.mem_cons_self) card here (by omega) written.append.1 context
      exact ⟨_, found, .found rfl behind described⟩

/-- Browsing a directory from the beginning finds its files, in order and once each, and then its
end. -/
theorem Directory.scan (device : geometry.readBlock512.Holds image)
    (directory : Directory image geometry stop start items) {before : List FileContext}
    (scan : Scan image geometry before index context) (here : (index + 1) % 4294967296 = start) :
    ∃ contexts index' context', Scan image geometry (before ++ contexts) index' context' ∧
      List.Forall₂ (fun (place : Nat × FileItem) context => place.2.Describes place.1 context)
        (filesFrom start items) contexts ∧
      ∃ last over', browseCard image geometry index' context' = .ok (false, last, over') := by
  obtain ⟨files, filesEq⟩ : ∃ files, files = filesFrom start items := ⟨_, rfl⟩
  have enough : stop < start + indexFuel := by
    have := directory.range
    rw [indexFuel]
    omega
  have card : OnCard image geometry (geometry.cache image 0 0) := ⟨device, 0, 0, rfl⟩
  induction files generalizing start items before index context with
  | nil =>
    obtain ⟨result, run, next⟩ := browseLoop_next directory card here context indexFuel enough
    cases next with
    | found files => rw [← filesEq] at files; contradiction
    | @none last over' vol files =>
      have ended : browseCard image geometry index context = .ok (false, last, over') := by
        rw [browseCard, run]
        rfl
      exact ⟨[], index, context, by rwa [List.append_nil], by rw [files]; exact .nil, _, _, ended⟩
  | cons first files ih =>
    obtain ⟨result, run, next⟩ := browseLoop_next directory card here context indexFuel enough
    cases next with
    | none files => rw [← filesEq] at files; contradiction
    | @found place file rest context₁ vol files behind described =>
      have bound := behind.ends
      have range := behind.range
      have onward : (place + 1) % 4294967296 = place + 1 := Nat.mod_eq_of_lt (by omega)
      have found : browseCard image geometry index context = .ok (true, place, context₁) := by
        rw [browseCard, run]
        rfl
      obtain ⟨-, tail⟩ := List.cons.inj (filesEq.trans files)
      obtain ⟨contexts, index', context', scan', both, last⟩ := ih behind (scan.snoc found) onward tail
        (by rw [indexFuel]; omega)
      refine ⟨context₁ :: contexts, index', context', ?_, ?_, last⟩
      · rwa [List.append_assoc] at scan'
      · rw [files]
        exact .cons described both

end SoundBoard.Fat
