import SoundBoard.Fat.Chain

/-!
# The root directory of a card

What browsing finds, entry after entry, on a card that does not change: every browse from the
beginning finds the same contexts (`Scan`), each with a terminated name, and `Fat_FileOpen`
opens the first of them that matches. Long names have a buffer of 256 bytes, and the order
number of a piece says where it goes; `LongNameFits` is the condition under which no piece
leaves the buffer.
-/

namespace SoundBoard.Fat

open SoundBoard.Lib

/-! ## Names -/

/-- A long name whose last 22 bytes are not used. -/
def EndsEarly (szName : Bytes) : Prop := ∀ i, 234 ≤ i → i < 256 → szName i = 0

/-- Reading a string back from the buffer it was written to. -/
theorem readString_drop (buffer : Bytes) :
    ∀ (text : Name) (limit start : Nat), text.length < limit → (∀ c ∈ text, c ≠ 0) →
      (∀ i, i < text.length → buffer (start + i) = text.getD i 0) →
      buffer (start + text.length) = 0 → readString buffer limit start = .ok text
  | [], limit + 1, start, _, _, _, ended => by
    simp only [List.length_nil, Nat.add_zero] at ended
    simp only [readString, ended, ↓reduceIte]
  | c :: text, limit + 1, start, short, nonzero, written, ended => by
    have first : buffer start = c := written 0 (Nat.zero_lt_succ _)
    have rest : readString buffer limit (start + 1) = .ok text := by
      refine readString_drop buffer text limit (start + 1) (Nat.lt_of_succ_lt_succ short)
        (fun other inside => nonzero other (List.mem_cons_of_mem _ inside)) (fun i inside => ?_) ?_
      · rw [Nat.add_assoc, Nat.add_comm 1 i]
        exact written (i + 1) (Nat.succ_lt_succ inside)
      · rw [Nat.add_assoc, Nat.add_comm 1]
        exact ended
    have more : c ≠ 0 := nonzero c List.mem_cons_self
    simp only [readString, first, more, ↓reduceIte, rest, Except.map]

/-- A string without zeros is read back whole. -/
theorem readString_writeString (buffer : Bytes) (text : Name) {limit : Nat}
    (short : text.length < limit) (nonzero : ∀ c ∈ text, c ≠ 0) :
    readString (writeString buffer text) limit 0 = .ok text := by
  refine readString_drop _ text limit 0 short nonzero (fun i inside => ?_) ?_
  · simp only [writeString, Nat.zero_add, inside, ↓reduceIte]
  · simp only [writeString, Nat.zero_add, Nat.lt_irrefl, ↓reduceIte]

/-- A long name is read up to the first zero unit. -/
theorem squeezeLongName_ok (szName : Bytes) :
    ∀ (limit i : Nat), (∃ j, j < limit ∧ szName (i + 2 * j) = 0 ∧ szName (i + 2 * j + 1) = 0) →
      ∃ name, squeezeLongName szName limit i = .ok name
  | 0, _, ⟨_, inside, _⟩ => absurd inside (Nat.not_lt_zero _)
  | limit + 1, i, ⟨j, inside, low, high⟩ => by
    simp only [squeezeLongName]
    by_cases ended : szName i = 0 ∧ szName (i + 1) = 0
    · exact ⟨[], if_pos ended⟩
    · rw [if_neg ended]
      obtain ⟨j, rfl⟩ : ∃ before, j = before + 1 := by
        refine ⟨j - 1, ?_⟩
        by_contra first
        obtain rfl : j = 0 := by omega
        exact ended ⟨low, high⟩
      obtain ⟨name, rest⟩ := squeezeLongName_ok szName limit (i + 2)
        ⟨j, Nat.lt_of_succ_lt_succ inside, by rwa [show i + 2 + 2 * j = i + 2 * (j + 1) by omega],
          by rwa [show i + 2 + 2 * j + 1 = i + 2 * (j + 1) + 1 by omega]⟩
      exact ⟨_, by rw [rest]; rfl⟩

/-- An unused end terminates a long name. -/
theorem EndsEarly.squeeze {szName : Bytes} (ends : EndsEarly szName) :
    ∃ name, squeezeLongName szName (maxFilenameLength / 2) 0 = .ok name :=
  squeezeLongName_ok szName _ 0 ⟨117, by decide, ends _ (by decide) (by decide),
    ends _ (by decide) (by decide)⟩

/-- The characters of a short name. -/
def shortName (dir : Bytes) : Name :=
  let field := fun start count => ((List.range count).map (drop dir start)).takeWhile isNameChar
  field 0 8 ++ if dir 11 &&& 0x30 ≠ 0 then 0x2E :: field 8 3 else []

/-- A short name has at most twelve characters, none of them zero. -/
theorem shortName_spec (dir : Bytes) :
    (shortName dir).length ≤ 12 ∧ ∀ c ∈ shortName dir, c ≠ 0 := by
  have field (start count : Nat) :
      (((List.range count).map (drop dir start)).takeWhile isNameChar).length ≤ count ∧
        ∀ c ∈ ((List.range count).map (drop dir start)).takeWhile isNameChar, c ≠ 0 := by
    constructor
    · have whole := (List.takeWhile_prefix (l := (List.range count).map (drop dir start))
        isNameChar).length_le
      rwa [List.length_map, List.length_range] at whole
    · intro c inside zero
      have char : isNameChar c = true := List.all_eq_true.mp List.all_takeWhile c inside
      rw [zero] at char
      contradiction
  obtain ⟨base, baseChars⟩ := field 0 8
  obtain ⟨extension, extensionChars⟩ := field 8 3
  simp only [shortName]
  split
  · rw [List.length_append, List.length_cons]
    refine ⟨by omega, fun c inside => ?_⟩
    rcases List.mem_append.mp inside with inside | inside
    · exact baseChars c inside
    · rcases List.mem_cons.mp inside with rfl | inside
      · decide
      · exact extensionChars c inside
  · rw [List.append_nil]
    exact ⟨by omega, baseChars⟩

/-! ## Entries -/

/-- The search for the next entry passes over an entry: it is free, or begins with none of the
characters of a name. -/
def Skipped (dir : Bytes) : Prop := ¬(fatIsValidDir dir ∧ ¬fatIsUnusedDir dir) ∧ ¬fatIsLastDir dir

/-- An entry that holds a piece of a long name. -/
def IsLongPiece (dir : Bytes) : Prop :=
  (fatIsValidDir dir ∧ ¬fatIsUnusedDir dir) ∧ dir 11 &&& 0x0F = 0x0F

/-- The order number of a piece. -/
def pieceOrder (dir : Bytes) : Nat := (dir 0 &&& 0x3F).toNat

/-- The first used entry behind an index is no piece of a long name, or one whose place is
inside the buffer. It is the last piece, and the others go before it. -/
def LongNameFits (image : Nat → Bytes) (geometry : VolumeInfo) : Nat → Nat → Prop
  | 0, _ => True
  | fuel + 1, index =>
    let dir := dirEntry image geometry ((index + 1) % 4294967296)
    (IsLongPiece dir → 1 ≤ pieceOrder dir ∧ pieceOrder dir ≤ 9) ∧
      (Skipped dir → LongNameFits image geometry fuel ((index + 1) % 4294967296))

variable {image : Nat → Bytes} {geometry vol : VolumeInfo}

/-- A first piece of a long name. -/
theorem browseLongEntry_first (dir : Bytes) (context : FileContext) :
    browseLongEntry dir context 0 false =
      if 1 ≤ pieceOrder dir ∧ pieceOrder dir ≤ 9 then
        .ok (.more { context with
          szName := copyAt (fun _ => 0) ((pieceOrder dir - 1) * 26) (longNamePiece dir) 26 }
          ((pieceOrder dir : Int) - 1) true)
      else .error .outOfBounds := by
  have order : (dir 0 &&& 0x3F).toNat = pieceOrder dir := rfl
  simp only [browseLongEntry, ↓reduceIte, Bool.false_eq_true, order, maxFilenameLength]
  generalize pieceOrder dir = order
  by_cases fits : 1 ≤ order ∧ order ≤ 9
  · rw [if_pos fits, if_pos (by omega), show (((order : Int) - 1) * 26).toNat = (order - 1) * 26 by
      omega]
  · rw [if_neg fits, if_neg (by omega)]

/-- A later piece of a long name, in its turn. -/
theorem browseLongEntry_next (dir : Bytes) (context : FileContext) {left : Nat} (some : 0 < left)
    (early : left ≤ 9) :
    browseLongEntry dir context left true =
      if pieceOrder dir = left then
        .ok (.more { context with
          szName := copyAt context.szName ((left - 1) * 26) (longNamePiece dir) 26 }
          ((left - 1 : Nat) : Int) true)
      else .ok (.done false context) := by
  have begun : ¬((left : Int) = 0) := by omega
  have order : (dir 0 &&& 0x3F).toNat = pieceOrder dir := rfl
  simp only [browseLongEntry, begun, ↓reduceIte, order, maxFilenameLength, decide_eq_true_eq]
  generalize pieceOrder dir = order
  by_cases same : order = left
  · rw [if_pos same, if_neg (by omega), if_pos (by omega),
      show (((left : Int) - 1) * 26).toNat = (left - 1) * 26 by omega,
      show (left : Int) - 1 = ((left - 1 : Nat) : Int) by omega]
  · rw [if_neg same, if_pos (by omega)]

/-- A piece behind a complete long name. -/
theorem browseLongEntry_behind (dir : Bytes) (context : FileContext) :
    browseLongEntry dir context 0 true = .ok (.done false { context with szName := fun _ => 0 }) := by
  simp only [browseLongEntry, ↓reduceIte]

/-- The entry behind the pieces of a long name keeps the name, if it is accepted. -/
theorem browseShortEntry_long (dir : Bytes) (index : Nat) (context : FileContext) :
    (∃ context', browseShortEntry dir index context true = .done false context') ∨
      ∃ context', browseShortEntry dir index context true = .done true context' ∧
        context'.szName = context.szName ∧ context'.bLongFilename = true := by
  by_cases file : dir 11 &&& 0x30 = 0
  · exact .inl ⟨_, if_pos file⟩
  · exact .inr ⟨_, if_neg file, rfl, rfl⟩

/-- A piece leaves the end of the buffer unused. -/
theorem EndsEarly.copyAt {szName : Bytes} (ends : EndsEarly szName) {left : Nat} (early : left ≤ 9)
    (piece : Bytes) : EndsEarly (copyAt szName ((left - 1) * 26) piece 26) := by
  intro i low high
  rw [copyAt_outside _ _ _ _ _ (by omega)]
  exact ends i low high

/-! ## The browse loop -/

/-- What the variables of the browse loop say about its context: nothing yet, or that a long
name with an unused end has been begun and some pieces are left. -/
def Collecting (context : FileContext) (orderValue : Int) : Bool → Prop
  | false => orderValue = 0
  | true => ∃ left : Nat, orderValue = left ∧ left ≤ 8 ∧ EndsEarly context.szName

/-- A pass that goes on collecting, or ends with a context that has a name. -/
def BrowsePass.Collects (bLongFilename : Bool) : BrowsePass → Prop
  | .done bFind context => bFind = true → ∃ name, waveFilename context = .ok name
  | .more context orderValue bLongFilename' =>
    Collecting context orderValue bLongFilename' ∧
      (bLongFilename = true → bLongFilename' = true)

/-- Every pass of the browse loop does one or the other. -/
theorem Collecting.pass {dir : Bytes} {index : Nat} {context : FileContext} {orderValue : Int}
    {bLongFilename : Bool} (collecting : Collecting context orderValue bLongFilename)
    {pass : BrowsePass} (run : browseEntry dir index context orderValue bLongFilename = .ok pass) :
    pass.Collects bLongFilename := by
  unfold browseEntry at run
  split at run
  · split at run
    · cases bLongFilename with
      | false =>
        obtain rfl : orderValue = 0 := collecting
        rw [browseLongEntry_first] at run
        split at run
        · rename_i fits
          obtain rfl := Except.ok.inj run
          have zeros : EndsEarly fun _ => 0 := fun _ _ _ => rfl
          exact ⟨⟨pieceOrder dir - 1, by omega, by omega, zeros.copyAt fits.2 _⟩, fun _ => rfl⟩
        · contradiction
      | true =>
        obtain ⟨left, rfl, early, ends⟩ := collecting
        by_cases none : left = 0
        · subst none
          rw [Int.natCast_zero, browseLongEntry_behind] at run
          obtain rfl := Except.ok.inj run
          exact fun found => absurd found (by decide)
        · rw [browseLongEntry_next dir context (Nat.pos_of_ne_zero none) (by omega)] at run
          split at run
          · obtain rfl := Except.ok.inj run
            exact ⟨⟨left - 1, rfl, by omega, ends.copyAt (by omega) _⟩, fun _ => rfl⟩
          · obtain rfl := Except.ok.inj run
            exact fun found => absurd found (by decide)
    · obtain rfl := Except.ok.inj run
      cases bLongFilename with
      | false =>
        obtain ⟨short, nonzero⟩ := shortName_spec dir
        exact fun _ => ⟨shortName dir, readString_writeString _ _
          (Nat.lt_of_le_of_lt short (by decide)) nonzero⟩
      | true =>
        obtain ⟨left, rfl, early, ends⟩ := collecting
        rcases browseShortEntry_long dir index context with ⟨context', ended⟩ |
          ⟨context', ended, same, long⟩
        · rw [ended]
          exact fun found => absurd found (by decide)
        · rw [ended]
          rw [← same] at ends
          refine fun _ => ends.squeeze.imp fun name squeezed => ?_
          rw [waveFilename, long]
          exact squeezed
  · split at run
    · obtain rfl := Except.ok.inj run
      exact fun found => absurd found (by decide)
    · obtain rfl := Except.ok.inj run
      exact ⟨collecting, id⟩

/-- The browse loop ends with a context that has a name. -/
theorem browseLoop_named :
    ∀ (fuel : Nat) {vol vol' : VolumeInfo} {index index' : Nat} {context context' : FileContext}
      {orderValue : Int} {bLongFilename : Bool}, Collecting context orderValue bLongFilename →
      browseLoop fuel vol index context orderValue bLongFilename =
        .ok (true, index', context', vol') → ∃ name, waveFilename context' = .ok name
  | 0, _, _, _, _, _, _, _, _, _, run => by contradiction
  | fuel + 1, vol, _, index, _, context, _, orderValue, bLongFilename, collecting, run => by
    simp only [browseLoop] at run
    split at run
    · simp at run
    · split at run
      · contradiction
      · rename_i bFind context' pass
        have named := collecting.pass pass
        simp only [Except.ok.injEq, Prod.mk.injEq] at run
        obtain ⟨found, _, rfl, _⟩ := run
        exact named found
      · rename_i context' orderValue' bLongFilename' pass
        exact browseLoop_named fuel (collecting.pass pass).1 run

/-- Behind the last piece of a long name no piece leaves the buffer. -/
theorem browseLoop_collecting :
    ∀ (fuel : Nat) {vol : VolumeInfo} {index : Nat} {context : FileContext} {orderValue : Int},
      Collecting context orderValue true →
      browseLoop fuel vol index context orderValue true ≠ .error .outOfBounds
  | 0, _, _, _, _, _ => by simp [browseLoop]
  | fuel + 1, vol, index, context, orderValue, collecting => by
    have inside (dir : Bytes) (index : Nat) :
        browseEntry dir index context orderValue true ≠ .error .outOfBounds := by
      obtain ⟨left, rfl, early, _⟩ := collecting
      unfold browseEntry
      split
      · split
        · by_cases none : left = 0
          · subst none
            rw [Int.natCast_zero, browseLongEntry_behind]
            simp
          · rw [browseLongEntry_next dir context (Nat.pos_of_ne_zero none) (by omega)]
            split <;> simp
        · simp
      · split <;> simp
    simp only [browseLoop]
    split
    · simp
    · rename_i dir _
      split
      · rename_i fault failed
        intro out
        obtain rfl := Except.error.inj out
        exact inside dir _ failed
      · simp
      · rename_i context' orderValue' bLongFilename' pass
        obtain ⟨next, long⟩ := collecting.pass pass
        obtain rfl := long rfl
        exact browseLoop_collecting fuel next

/-- Browsing writes outside the buffer exactly when the first piece that it meets does. -/
theorem browseLoop_outOfBounds :
    ∀ (fuel : Nat) {vol : VolumeInfo} {index : Nat} {context : FileContext},
      OnCard image geometry vol →
      (browseLoop fuel vol index context 0 false = .error .outOfBounds ↔
        ¬LongNameFits image geometry fuel index)
  | 0, _, _, _, _ => by simp [browseLoop, LongNameFits]
  | fuel + 1, vol, index, context, card => by
    obtain ⟨vol', found, card'⟩ := card.findDirectory ((index + 1) % 4294967296)
    simp only [browseLoop, found, LongNameFits]
    generalize dirEntry image geometry ((index + 1) % 4294967296) = dir
    by_cases used : fatIsValidDir dir = true ∧ ¬fatIsUnusedDir dir = true
    · have kept : ¬Skipped dir := fun skipped => skipped.1 used
      by_cases long : dir 11 &&& 0x0F = 0x0F
      · have piece : IsLongPiece dir := ⟨used, long⟩
        rw [browseEntry, if_pos used, if_pos long, browseLongEntry_first]
        by_cases fits : 1 ≤ pieceOrder dir ∧ pieceOrder dir ≤ 9
        · rw [if_pos fits]
          have zeros : EndsEarly fun _ => 0 := fun _ _ _ => rfl
          refine iff_of_false (browseLoop_collecting fuel
            ⟨pieceOrder dir - 1, by omega, by omega, zeros.copyAt fits.2 _⟩) ?_
          rw [not_not]
          exact ⟨fun _ => fits, fun skipped => absurd skipped kept⟩
        · rw [if_neg fits]
          exact iff_of_true rfl fun both => fits (both.1 piece)
      · have other : ¬IsLongPiece dir := fun piece => long piece.2
        rw [browseEntry, if_pos used, if_neg long]
        refine iff_of_false ?_ ?_
        · simp [browseShortEntry]
        · rw [not_not]
          exact ⟨fun piece => absurd piece other, fun skipped => absurd skipped kept⟩
    · have other : ¬IsLongPiece dir := fun piece => used piece.1
      rw [browseEntry, if_neg used]
      by_cases last : fatIsLastDir dir = true
      · have kept : ¬Skipped dir := fun skipped => skipped.2 last
        rw [if_pos last]
        refine iff_of_false (by simp) ?_
        rw [not_not]
        exact ⟨fun piece => absurd piece other, fun skipped => absurd skipped kept⟩
      · have skipped : Skipped dir := ⟨used, last⟩
        rw [if_neg last]
        refine (browseLoop_outOfBounds fuel card').trans (not_congr ?_)
        exact ⟨fun rest => ⟨fun piece => absurd piece other, fun _ => rest⟩,
          fun both => both.2 skipped⟩

/-! ## Browsing the card -/

/-- What browsing finds behind an index: whether there is an entry, the index reached, and the
context. -/
def browseCard (image : Nat → Bytes) (geometry : VolumeInfo) (index : Nat) (context : FileContext) :
    Exec (Bool × Nat × FileContext) :=
  (browseLoop indexFuel (geometry.cache image 0 0) index context 0 false).map fun found =>
    (found.1, found.2.1, found.2.2.1)

variable {hFat index index' : Nat} {heap : Heap} {context context' : FileContext}

/-- A browse in a heap, and what there is on the card. -/
structure BrowseFound (image : Nat → Bytes) (geometry : VolumeInfo) (hFat : Nat) (heap : Heap)
    (a : Bool × BrowseHandle × FileContext × Heap) (b : Bool × Nat × FileContext) : Prop where
  found : a.1 = b.1
  handle : a.2.1 = ⟨b.2.1, hFat⟩
  context : a.2.2.1 = b.2.2
  reads : heap.Reads image geometry hFat a.2.2.2

/-- `Fat_FileBrowseNext` finds what there is on the card. -/
theorem fatFileBrowseNext_card (mounted : heap.Mounted image geometry hFat) (some : hFat ≠ 0)
    (mount : geometry.bMount = true) (index : Nat) (context : FileContext) :
    Agree (BrowseFound image geometry hFat heap) (fatFileBrowseNext heap ⟨index, hFat⟩ context)
      (browseCard image geometry index context) := by
  obtain ⟨vol, here, card⟩ := mounted
  have mount' : vol.bMount = true := (card.field (·.bMount) fun _ _ => rfl).trans mount
  simp only [fatFileBrowseNext, some, here, mount', ↓reduceIte, browseCard]
  refine (browseLoop_agree indexFuel index context 0 false card (card.fill 0 0)).map ?_
  rintro ⟨_, _, _, vol⟩ ⟨_, _, _, other⟩ ⟨rfl, rfl, rfl, card, _⟩
  exact ⟨rfl, rfl, rfl, vol, card, rfl⟩

/-- An entry on the card is found in every heap. -/
theorem fatFileBrowseNext_found (mounted : heap.Mounted image geometry hFat) (some : hFat ≠ 0)
    (mount : geometry.bMount = true) {bFind : Bool}
    (next : browseCard image geometry index context = .ok (bFind, index', context')) :
    ∃ heap', heap.Reads image geometry hFat heap' ∧
      fatFileBrowseNext heap ⟨index, hFat⟩ context = .ok (bFind, ⟨index', hFat⟩, context', heap') := by
  have agree := fatFileBrowseNext_card mounted some mount index context
  rw [next] at agree
  obtain ⟨⟨_, _, _, heap'⟩, browsed, found, handle, entry, reads⟩ := agree.symm.of_ok
  simp only at found handle entry reads
  exact ⟨heap', reads, by rw [browsed, found, handle, entry]⟩

/-- The entries that browsing from the beginning has found, with the index and the context that
it has reached. -/
inductive Scan (image : Nat → Bytes) (geometry : VolumeInfo) :
    List FileContext → Nat → FileContext → Prop where
  | nil : Scan image geometry [] 4294967295 FileContext.blank
  | snoc {contexts : List FileContext} {index index' : Nat} {context context' : FileContext}
      (scan : Scan image geometry contexts index context)
      (next : browseCard image geometry index context = .ok (true, index', context')) :
      Scan image geometry (contexts ++ [context']) index' context'

variable {contexts : List FileContext}

/-- The entries found before an entry, and the browse that finds it. -/
theorem Scan.split (scan : Scan image geometry contexts index context) {before after : List FileContext}
    {entry : FileContext} (at_ : contexts = before ++ entry :: after) :
    ∃ index₀ context₀ index₁, Scan image geometry before index₀ context₀ ∧
      browseCard image geometry index₀ context₀ = .ok (true, index₁, entry) := by
  induction scan generalizing after with
  | nil => simp at at_
  | @snoc contexts index index' context context' scan next ih =>
    rcases List.eq_nil_or_concat after with rfl | ⟨rest, last, rfl⟩
    · obtain ⟨rfl, same⟩ := List.append_inj' at_ rfl
      obtain rfl := (List.cons.inj same).1
      exact ⟨index, context, index', scan, next⟩
    · rw [List.concat_eq_append, ← List.cons_append, ← List.append_assoc] at at_
      exact ih (List.append_inj' at_ rfl).1

/-- A piece of a long name is no entry of its own. -/
theorem browseLongEntry_more (dir : Bytes) (context context' : FileContext) (orderValue : Int)
    (bLongFilename : Bool) :
    browseLongEntry dir context orderValue bLongFilename ≠ .ok (.done true context') := by
  unfold browseLongEntry
  dsimp only
  generalize (if orderValue = 0 then { context with szName := fun _ => 0 } else context) = cleared
  generalize (if orderValue = 0 then ((dir 0 &&& 0x3F).toNat : Int) else orderValue) - 1 = left
  split
  · split
    · simp
    · split <;> simp
  · split
    · simp
    · split <;> simp

/-- A pass that finds an entry has read a used one, and keeps its index. -/
theorem browseEntry_found {dir : Bytes} {orderValue : Int} {bLongFilename : Bool}
    (run : browseEntry dir index context orderValue bLongFilename = .ok (.done true context')) :
    fatIsLastDir dir = false ∧ context'.dirEntryIndex = index := by
  unfold browseEntry at run
  split at run
  · rename_i used
    have notLast : fatIsLastDir dir = false := by
      by_contra last
      have zero : dir 0 = 0 := by simpa [fatIsLastDir] using last
      simp [fatIsValidDir, invalidDirChars, zero] at used
    refine ⟨notLast, ?_⟩
    split at run
    · exact absurd run (browseLongEntry_more dir context context' orderValue bLongFilename)
    · simp only [browseShortEntry] at run
      split at run
      · split at run
        · simp at run
        · obtain rfl := (BrowsePass.done.inj (Except.ok.inj run)).2
          rfl
      · obtain rfl := (BrowsePass.done.inj (Except.ok.inj run)).2
        rfl
  · split at run <;> simp at run

/-- A pass over the end mark of a directory ends the loop. -/
theorem browseEntry_last {dir : Bytes} (last : fatIsLastDir dir = true) (index : Nat)
    (context : FileContext) (orderValue : Int) (bLongFilename : Bool) :
    browseEntry dir index context orderValue bLongFilename = .ok (.done false context) := by
  have zero : dir 0 = 0 := by simpa [fatIsLastDir] using last
  have unused : ¬(fatIsValidDir dir = true ∧ ¬fatIsUnusedDir dir = true) := by
    simp [fatIsValidDir, invalidDirChars, zero]
  rw [browseEntry, if_neg unused, if_pos last]

/-- Up to the end mark of a directory, an entry that is found lies behind the index and before
the mark. -/
theorem browseLoop_before {last : Nat} (small : last < 4294967296)
    (mark : fatIsLastDir (dirEntry image geometry last) = true) :
    ∀ (fuel : Nat) {vol vol' : VolumeInfo} {index index' : Nat} {context context' : FileContext}
      {orderValue : Int} {bLongFilename : Bool}, OnCard image geometry vol →
      (index + 1) % 4294967296 ≤ last →
      browseLoop fuel vol index context orderValue bLongFilename =
        .ok (true, index', context', vol') →
      (index + 1) % 4294967296 ≤ index' ∧ index' < last ∧ context'.dirEntryIndex = index'
  | 0, _, _, _, _, _, _, _, _, _, _, run => by contradiction
  | fuel + 1, vol, _, index, _, context, _, orderValue, bLongFilename, card, low, run => by
    obtain ⟨vol', found, card'⟩ := card.findDirectory ((index + 1) % 4294967296)
    simp only [browseLoop, found] at run
    generalize (index + 1) % 4294967296 = here at low run
    have early : here = last → browseEntry (dirEntry image geometry here) here context orderValue
        bLongFilename = .ok (.done false context) := by
      rintro rfl
      exact browseEntry_last mark _ _ _ _
    split at run
    · contradiction
    · rename_i bFind context' pass
      simp only [Except.ok.injEq, Prod.mk.injEq] at run
      obtain ⟨rfl, rfl, rfl, _⟩ := run
      have before : here ≠ last := by
        intro at_
        have stopped := (early at_).symm.trans pass
        simp at stopped
      exact ⟨Nat.le_refl _, by omega, (browseEntry_found pass).2⟩
    · rename_i context' orderValue' bLongFilename' pass
      have before : here ≠ last := by
        intro at_
        have stopped := (early at_).symm.trans pass
        simp at stopped
      have next : (here + 1) % 4294967296 = here + 1 := Nat.mod_eq_of_lt (by omega)
      obtain ⟨low', high, place⟩ := browseLoop_before small mark fuel card'
        (by rw [next]; omega) run
      exact ⟨by omega, high, place⟩

/-- The entries before the end mark of a directory are found once, in the order of their
indices. -/
theorem Scan.ascending {last : Nat} (small : last < 4294967296)
    (mark : fatIsLastDir (dirEntry image geometry last) = true)
    (device : geometry.readBlock512.Holds image) (scan : Scan image geometry contexts index context) :
    (contexts.Pairwise fun one other => one.dirEntryIndex < other.dirEntryIndex) ∧
      (∀ entry ∈ contexts, entry.dirEntryIndex < (index + 1) % 4294967296) ∧
      (index + 1) % 4294967296 ≤ last := by
  induction scan with
  | nil => exact ⟨.nil, by simp, Nat.zero_le _⟩
  | @snoc contexts index index' context context' scan next ih =>
    obtain ⟨sorted, below, low⟩ := ih
    obtain ⟨⟨bFind, found, entry, vol⟩, loop, same⟩ := map_eq_ok next
    simp only [Prod.mk.injEq] at same
    obtain ⟨rfl, rfl, rfl⟩ := same
    obtain ⟨behind, before, place⟩ := browseLoop_before small mark indexFuel
      ⟨device, 0, 0, rfl⟩ low loop
    have onward : (found + 1) % 4294967296 = found + 1 := Nat.mod_eq_of_lt (by omega)
    rw [onward]
    refine ⟨List.pairwise_append.mpr ⟨sorted, List.pairwise_singleton _ _, ?_⟩, ?_, by omega⟩
    · intro one inside other last
      obtain rfl := List.mem_singleton.mp last
      have := below one inside
      omega
    · intro one inside
      rcases List.mem_append.mp inside with inside | inside
      · have := below one inside
        omega
      · obtain rfl := List.mem_singleton.mp inside
        omega

/-- Every entry that is found has a name. -/
theorem browseCard_named (next : browseCard image geometry index context = .ok (true, index', context')) :
    ∃ name, waveFilename context' = .ok name := by
  obtain ⟨⟨bFind, _, entry, vol⟩, loop, same⟩ := map_eq_ok next
  simp only [Prod.mk.injEq] at same
  obtain ⟨rfl, _, rfl⟩ := same
  exact browseLoop_named indexFuel (show Collecting context 0 false from rfl) loop

/-- `Fat_FileOpen` takes an entry for a name. -/
def FileContext.answers (name : Name) (context : FileContext) : Bool :=
  nameMatches context name = .ok true

/-- An entry answers to its own name. -/
theorem FileContext.answers_self {name : Name} (named : waveFilename context = .ok name) :
    context.answers name = true := by
  simp only [FileContext.answers, nameMatches, named, Except.map, decide_eq_true_eq]
  split <;> simp [strcmpiEqual]

/-- An entry with a name that does not answer is passed over. -/
theorem nameMatches_of_not_answers {name own : Name} (named : waveFilename context = .ok own)
    (other : context.answers name = false) : nameMatches context name = .ok false := by
  simp only [FileContext.answers, nameMatches, named, Except.map, decide_eq_false_iff_not,
    Except.ok.injEq] at other ⊢
  split at other
  · rename_i long
    simpa only [long, ↓reduceIte, decide_eq_false_iff_not, decide_eq_true_eq] using other
  · rename_i short
    simpa only [short, Bool.false_eq_true, ↓reduceIte, Bool.not_eq_true] using other

variable (pFilename : Name)

/-- The search of `Fat_FileOpen` passes over the entries that do not answer. -/
theorem Scan.openLoop (scan : Scan image geometry contexts index context)
    (mounted : heap.Mounted image geometry hFat) (some : hFat ≠ 0)
    (mount : geometry.bMount = true)
    (none : ∀ entry ∈ contexts, entry.answers pFilename = false) (fuel : Nat) :
    ∃ heap', heap.Reads image geometry hFat heap' ∧
      openLoop pFilename (contexts.length + fuel) heap ⟨4294967295, hFat⟩ FileContext.blank =
        openLoop pFilename fuel heap' ⟨index, hFat⟩ context := by
  induction scan generalizing fuel with
  | nil => exact ⟨heap, mounted.reads, by rw [List.length_nil, Nat.zero_add]⟩
  | @snoc contexts index index' context context' scan next ih =>
    obtain ⟨heap', reads, same⟩ := ih
      (fun entry inside => none entry (List.mem_append_left _ inside)) (fuel + 1)
    obtain ⟨last, reads', browsed⟩ := fatFileBrowseNext_found reads.mounted some mount next
    obtain ⟨own, named⟩ := browseCard_named next
    have other := nameMatches_of_not_answers named
      (none context' (List.mem_append_right _ (List.mem_singleton.mpr rfl)))
    refine ⟨last, reads.trans reads', ?_⟩
    rw [List.length_append, List.length_singleton, Nat.add_assoc, Nat.add_comm 1 fuel, same]
    simp only [Fat.openLoop, browsed, other]

/-- `Fat_FileOpen` opens the first entry that answers. -/
theorem Scan.fatFileOpen (scan : Scan image geometry contexts index context)
    (mounted : heap.Mounted image geometry hFat) (some : hFat ≠ 0)
    (mount : geometry.bMount = true) (few : contexts.length ≤ indexFuel) {first : FileContext}
    (found : contexts.find? (·.answers pFilename) = Option.some first) :
    ∃ heap', heap.Reads image geometry hFat heap' ∧
      fatFileOpen heap hFat pFilename = .ok (heap'.allocFile (openedFile hFat first)) := by
  obtain ⟨answers, before, after, at_, none⟩ := List.find?_eq_some_iff_append.mp found
  obtain ⟨index₀, context₀, index₁, scan₀, next⟩ := scan.split at_
  obtain ⟨fuel, enough⟩ : ∃ fuel, indexFuel = before.length + (fuel + 1) := by
    rw [at_, List.length_append, List.length_cons] at few
    exact ⟨indexFuel - before.length - 1, by omega⟩
  obtain ⟨heap', reads, same⟩ := scan₀.openLoop pFilename mounted some mount
    (fun entry inside => by simpa using none entry inside) (fuel + 1)
  obtain ⟨last, reads', browsed⟩ := fatFileBrowseNext_found reads.mounted some mount next
  have own : nameMatches first pFilename = .ok true := of_decide_eq_true answers
  obtain ⟨vol, here, card⟩ := mounted
  have mount' : vol.bMount = true := (card.field (·.bMount) fun _ _ => rfl).trans mount
  refine ⟨last, reads.trans reads', ?_⟩
  simp only [Fat.fatFileOpen, fatFileBrowseBegin, some, here, mount', ↓reduceIte]
  rw [enough, same]
  simp only [Fat.openLoop, browsed, own]

/-! ## The first block -/

/-- The first block of the file of an entry, as the library addresses it. -/
def firstBytes (image : Nat → Bytes) (geometry : VolumeInfo) (context : FileContext) : Bytes :=
  image (clusterSecter geometry context.firstLogicalCluster)

/-- The first read of a file takes its bytes from its first block. -/
theorem readFile_first {n : Nat} (card : OnCard image geometry vol)
    (bytes : geometry.bpbBytsPerSec = 512) (secters : 0 < geometry.bpbSecPerCluster)
    (low : 0 < n) (high : n ≤ 512) (pBuffer : Bytes) :
    ∃ vol', OnCard image geometry vol' ∧ readFile vol (openedFile hFat context) pBuffer n =
      ⟨vol', { openedFile hFat context with seekPos := n }, 0, n,
        copyAt pBuffer 0 (firstBytes image geometry context) n, true⟩ := by
  let start : ReadState := ⟨vol, openedFile hFat context, 0, 0, pBuffer, true⟩
  have begins : seekStart vol (openedFile hFat context) pBuffer = start := by
    simp [seekStart, openedFile, start, toU32]
  have onCard : OnCard image geometry start.vol := card
  have pos : start.pos = 512 * 0 := rfl
  obtain ⟨vol', card', read⟩ := readLoop_block onCard bytes secters pos rfl rfl low high
  have address : (clusterSecter geometry context.firstLogicalCluster + 0) % 4294967296 =
      clusterSecter geometry context.firstLogicalCluster := by
    rw [Nat.add_zero]
    exact Nat.mod_mod _ _
  have seekPos : (0 + n) % 4294967296 = n := by omega
  have cluster : start.file.cluster = context.firstLogicalCluster := rfl
  rw [cluster, address] at read
  refine ⟨vol', card', ?_⟩
  rw [readFile_eq, begins, read]
  simp only [start, openedFile, ↓reduceIte, firstBytes]
  rw [seekPos]

/-- The first read of a file that is open. -/
theorem fatFileRead_first {hFile n : Nat} (mounted : heap.Mounted image geometry hFat)
    (volume : hFat ≠ 0) (some : hFile ≠ 0)
    (found : heap.files hFile = Option.some (openedFile hFat context))
    (bytes : geometry.bpbBytsPerSec = 512) (secters : 0 < geometry.bpbSecPerCluster)
    (cluster : geometry.nBytesPerCluster ≠ 0) (low : 0 < n) (high : n ≤ 512) (pBuffer : Bytes) :
    ∃ heap', fatFileRead heap hFile pBuffer n =
        .ok (true, copyAt pBuffer 0 (firstBytes image geometry context) n, heap') ∧
      heap'.Mounted image geometry hFat ∧ heap'.next = heap.next := by
  obtain ⟨vol, here, card⟩ := mounted
  obtain ⟨vol', card', read⟩ := readFile_first card bytes secters low high pBuffer
  have cluster' : vol.nBytesPerCluster ≠ 0 := by
    rwa [card.field (·.nBytesPerCluster) fun _ _ => rfl]
  refine ⟨(heap.setFile hFile { openedFile hFat context with seekPos := n }).setVolume hFat vol', ?_,
    ⟨vol', Function.update_self _ _ _, card'⟩, rfl⟩
  rw [fatFileRead, if_neg some, found]
  dsimp only
  rw [show (openedFile hFat context).fat = hFat from rfl, if_neg volume, here]
  dsimp only
  rw [if_neg (not_not.mpr (show (openedFile hFat context).isOpened = true from rfl)),
    if_neg cluster', read]
  rfl

/-- On a volume whose clusters have no sectors a read divides by zero. -/
theorem fatFileRead_noSecters {hFile n : Nat} (mounted : heap.Mounted image geometry hFat)
    (volume : hFat ≠ 0) (some : hFile ≠ 0)
    (found : heap.files hFile = Option.some (openedFile hFat context))
    (cluster : geometry.nBytesPerCluster = 0) (pBuffer : Bytes) :
    fatFileRead heap hFile pBuffer n = .error .divideByZero := by
  obtain ⟨vol, here, card⟩ := mounted
  have cluster' : vol.nBytesPerCluster = 0 := by
    rwa [card.field (·.nBytesPerCluster) fun _ _ => rfl]
  rw [fatFileRead, if_neg some, found]
  dsimp only
  rw [show (openedFile hFat context).fat = hFat from rfl, if_neg volume, here]
  dsimp only
  rw [if_neg (not_not.mpr (show (openedFile hFat context).isOpened = true from rfl)), if_pos cluster']

end SoundBoard.Fat
