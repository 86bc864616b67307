import SoundBoard.Fat.Card
import SoundBoard.Player.PlayList
import SoundBoard.Player.Steps

/-!
# Songs and their files

On a mounted card every song has a file of its own or none (`Ready`). A call on one song keeps
this and leaves the other songs and their files alone (`KeepsSong`); the listing establishes
it.
-/

namespace SoundBoard.Player

open SoundBoard.Lib SoundBoard.Fat SoundBoard.Wave

/-! ## Handles -/

variable {image : Nat → Bytes} {geometry : VolumeInfo}

/-- A mounted card whose songs have files of their own. -/
structure Ready (image : Nat → Bytes) (geometry : VolumeInfo) (p : Globals Heap) : Prop where
  mounted : p.files.Mounted image geometry p.hFat
  positive : 0 < p.files.next
  fresh : ∀ hFile, p.files.files hFile ≠ none → hFile < p.files.next
  opened : ∀ k, (p.gWavePlay k).hFile ≠ 0 → ∃ file : FatFileInfo,
    p.files.files (p.gWavePlay k).hFile = some file ∧ file.fat = p.hFat
  apart : ∀ k l, (p.gWavePlay k).hFile = (p.gWavePlay l).hFile →
    (p.gWavePlay k).hFile ≠ 0 → k = l

/-- A step on one song leaves another song and its file alone. -/
structure KeepsSong (song : Nat) (p q : Globals Heap) : Prop where
  hFat : q.hFat = p.hFat
  context : q.gWavePlay song = p.gWavePlay song
  file : (p.gWavePlay song).hFile ≠ 0 →
    q.files.files (p.gWavePlay song).hFile = p.files.files (p.gWavePlay song).hFile

/-- No step at all. -/
theorem KeepsSong.refl (song : Nat) (p : Globals Heap) : KeepsSong song p p :=
  ⟨rfl, rfl, fun _ => rfl⟩

/-- One step after another. -/
theorem KeepsSong.trans {song : Nat} {p q r : Globals Heap} (first : KeepsSong song p q)
    (second : KeepsSong song q r) : KeepsSong song p r := by
  refine ⟨second.hFat.trans first.hFat, second.context.trans first.context, fun some => ?_⟩
  have here := second.file (by rwa [first.context])
  rw [first.context] at here
  exact here.trans (first.file some)

variable {p : Globals Heap} {k song : Nat}

/-- A handle below the next address is not the next address. -/
theorem Ready.below (ready : Ready image geometry p) (l : Nat) :
    (p.gWavePlay l).hFile < p.files.next := by
  by_cases none : (p.gWavePlay l).hFile = 0
  · rw [none]
    exact ready.positive
  · obtain ⟨file, found, _⟩ := ready.opened l none
    exact ready.fresh _ (by simp [found])

/-- A change of a context other than of its file. -/
theorem Ready.setSong (ready : Ready image geometry p) {context : PlaywaveContext}
    (same : context.hFile = (p.gWavePlay k).hFile) : Ready image geometry (p.setSong k context) := by
  have handle : ∀ l, ((p.setSong k context).gWavePlay l).hFile = (p.gWavePlay l).hFile := by
    intro l
    by_cases here : l = k
    · subst here
      simp [same]
    · simp [here]
  obtain ⟨mounted, positive, fresh, opened, apart⟩ := ready
  refine ⟨mounted, positive, fresh, fun l => ?_, fun l m => ?_⟩
  · rw [handle]
    exact opened l
  · rw [handle, handle]
    exact apart l m

/-- Only the changed context differs. -/
theorem KeepsSong.setSong (p : Globals Heap) (context : PlaywaveContext) (other : song ≠ k) :
    KeepsSong song p (p.setSong k context) :=
  ⟨rfl, Globals.setSong_other _ _ _ _ other, fun _ => rfl⟩

/-- Reads of the card fill the cache only. -/
theorem Ready.reads {heap : Heap} (ready : Ready image geometry p)
    (reads : p.files.Reads image geometry p.hFat heap) :
    Ready image geometry { p with files := heap } := by
  have mounted := reads.mounted
  obtain ⟨vol, card, rfl⟩ := reads
  exact { ready with mounted }

/-- They leave every song alone. -/
theorem KeepsSong.reads {heap : Heap} (reads : p.files.Reads image geometry p.hFat heap) :
    KeepsSong song p { p with files := heap } := by
  obtain ⟨vol, card, rfl⟩ := reads
  exact ⟨rfl, rfl, fun _ => rfl⟩

/-- A song loses its file. -/
theorem Ready.closed (ready : Ready image geometry p) (k : Nat) :
    Ready image geometry (p.setSong k { p.gWavePlay k with hFile := 0 }) := by
  obtain ⟨mounted, positive, fresh, opened, apart⟩ := ready
  have other : ∀ l, ((p.setSong k { p.gWavePlay k with hFile := 0 }).gWavePlay l).hFile ≠ 0 →
      ((p.setSong k { p.gWavePlay k with hFile := 0 }).gWavePlay l).hFile =
        (p.gWavePlay l).hFile := by
    intro l some
    by_cases here : l = k
    · subst here
      simp at some
    · simp [here]
  refine ⟨mounted, positive, fresh, fun l some => ?_, fun l m same some => ?_⟩
  · have old := other l some
    rw [old] at some ⊢
    exact opened l some
  · have old := other l some
    have old' := other m (same ▸ some)
    rw [old, old'] at same
    rw [old] at some
    exact apart l m same some

/-- A song gets a new file. -/
theorem Ready.alloc (ready : Ready image geometry p) (k : Nat) (file : FatFileInfo)
    (volume : file.fat = p.hFat) :
    Ready image geometry ({ p with files := (p.files.allocFile file).2 }.setSong k
      { p.gWavePlay k with hFile := p.files.next }) := by
  have below := ready.below
  obtain ⟨mounted, positive, fresh, opened, apart⟩ := ready
  have handle : ∀ l, l ≠ k → (({ p with files := (p.files.allocFile file).2 }.setSong k
      { p.gWavePlay k with hFile := p.files.next }).gWavePlay l).hFile =
        (p.gWavePlay l).hFile := fun l other => by simp [other]
  refine ⟨mounted, Nat.succ_pos _, fun hFile live => ?_, fun l some => ?_, fun l m same some => ?_⟩
  · by_cases here : hFile = p.files.next
    · rw [here]
      exact Nat.lt_succ_self _
    · have old : p.files.files hFile ≠ none := by
        simpa [Heap.allocFile, Function.update_of_ne here] using live
      exact Nat.lt_succ_of_lt (fresh hFile old)
  · by_cases here : l = k
    · subst here
      exact ⟨file, by simp [Heap.allocFile], volume⟩
    · rw [handle l here] at some ⊢
      obtain ⟨old, found, volume'⟩ := opened l some
      have := below l
      refine ⟨old, ?_, volume'⟩
      simpa [Heap.allocFile, Function.update_of_ne (Nat.ne_of_lt this)] using found
  · by_cases left : l = k <;> by_cases right : m = k
    · rw [left, right]
    · rw [handle m right, left] at same
      have := below m
      simp only [Globals.setSong_self] at same
      omega
    · rw [handle l left, right] at same
      have := below l
      simp only [Globals.setSong_self] at same
      omega
    · rw [handle l left] at same some
      rw [handle m right] at same
      exact apart l m same some

/-- The new file is not the file of another song. -/
theorem KeepsSong.alloc (ready : Ready image geometry p) (other : song ≠ k) (file : FatFileInfo) :
    KeepsSong song p ({ p with files := (p.files.allocFile file).2 }.setSong k
      { p.gWavePlay k with hFile := p.files.next }) := by
  refine ⟨rfl, Globals.setSong_other _ _ _ _ other, fun _ => ?_⟩
  exact Function.update_of_ne (Nat.ne_of_lt (ready.below song)) _ _

/-- The file of a song is read. -/
theorem Ready.setFile (ready : Ready image geometry p) {hFile : Nat} {old file : FatFileInfo}
    (found : p.files.files hFile = some old) (volume : file.fat = old.fat) :
    Ready image geometry { p with files := p.files.setFile hFile file } := by
  obtain ⟨mounted, positive, fresh, opened, apart⟩ := ready
  refine ⟨mounted, positive, fun n live => ?_, fun l some => ?_, apart⟩
  · by_cases here : n = hFile
    · exact fresh n (by simp [here, found])
    · exact fresh n (by simpa [Heap.setFile, Function.update_of_ne here] using live)
  · obtain ⟨before, found', volume'⟩ := opened l some
    by_cases here : (p.gWavePlay l).hFile = hFile
    · refine ⟨file, by simp [Heap.setFile, here], ?_⟩
      rw [here, found] at found'
      obtain rfl := Option.some.inj found'
      exact volume.trans volume'
    · exact ⟨before, by simpa [Heap.setFile, Function.update_of_ne here] using found', volume'⟩

/-- Reading the file of one song leaves the file of another alone. -/
theorem KeepsSong.setFile (ready : Ready image geometry p) (other : song ≠ k) (file : FatFileInfo) :
    KeepsSong song p { p with files := p.files.setFile (p.gWavePlay k).hFile file } := by
  refine ⟨rfl, rfl, fun some => Function.update_of_ne (fun same => other ?_) _ _⟩
  exact ready.apart song k same some

/-! ## Calls on other songs -/

/-- A song's file is read: what is left of the song's table entry and heap. -/
theorem Ready.read (ready : Ready image geometry p) {szBuf : Bytes} {n : Nat}
    {ok : Bool} {szBuf' : Bytes} {heap : Heap} (some : (p.gWavePlay k).hFile ≠ 0)
    (run : fatFileRead p.files (p.gWavePlay k).hFile szBuf n = .ok (ok, szBuf', heap)) :
    Ready image geometry { p with files := heap } ∧
      ∀ song, song ≠ k → KeepsSong song p { p with files := heap } := by
  obtain ⟨file, found, volume⟩ := ready.opened k some
  have agree := fatFileRead_agree ready.mounted ready.mounted ⟨some, found⟩ ⟨some, found⟩ volume
    szBuf n
  rw [run] at agree
  obtain ⟨_, _, ⟨_, _, after, identity, reads, _⟩⟩ := agree.of_ok
  have set := ready.setFile found (congrArg (·.2.2) identity)
  exact ⟨set.reads reads, fun song other => (KeepsSong.setFile ready other after).trans
    (KeepsSong.reads reads)⟩

variable {garbage : Garbage} {out : Outcome Heap}

/-- The opening part of a start. -/
theorem Ready.waveplayOpen (ready : Ready image geometry p)
    (run : waveplayOpen fatApi garbage k p = .ok out) :
    Ready image geometry out.player ∧ ∀ song, song ≠ k → KeepsSong song p out.player := by
  have agree := fatFileOpen_agree ready.mounted ready.mounted (p.gWavePlay k).szFilename
  simp only [Player.waveplayOpen, fatApi] at run
  cases opens : fatFileOpen p.files p.hFat (p.gWavePlay k).szFilename with
  | error fault =>
    rw [opens] at run
    contradiction
  | ok answer =>
    rw [opens] at agree run
    obtain ⟨answer', _, both⟩ := agree.of_ok
    cases both with
    | none one two =>
      simp only [↓reduceIte] at run
      obtain rfl := Except.ok.inj run
      exact ⟨(ready.reads one).closed k, fun song other =>
        (KeepsSong.reads one).trans (KeepsSong.setSong _ _ other)⟩
    | found context one two =>
      have before := ready.reads one
      have opened := before.alloc k (openedFile p.hFat context) rfl
      have some := Nat.ne_of_gt before.positive
      simp only [Heap.allocFile, some, ↓reduceIte] at run
      split at run
      · contradiction
      · rename_i ok szBuf files read
        obtain rfl := Except.ok.inj run
        obtain ⟨after, keeps⟩ := opened.read (k := k) (by simpa using some)
          (by simpa [Heap.allocFile] using read)
        refine ⟨after.setSong (by simp), fun song other => ?_⟩
        exact ((KeepsSong.reads one).trans (KeepsSong.alloc before other _)).trans
          ((keeps song other).trans (KeepsSong.setSong _ _ other))

/-- The header part of a start. -/
theorem Ready.waveplayPrepare (ready : Ready image geometry p) {events : List Event}
    (run : waveplayPrepare garbage k events p = .ok out) :
    Ready image geometry out.player ∧ ∀ song, song ≠ k → KeepsSong song p out.player := by
  rcases waveplayPrepare_cases run with ⟨_, _, same⟩ | ⟨_, _, offset, size, prepared⟩
  · rw [same]
    exact ⟨ready, fun song _ => .refl song p⟩
  · rw [prepared.player]
    exact ⟨ready.setSong rfl, fun song other => .setSong p _ other⟩

/-- A start. -/
theorem Ready.waveplayStart (ready : Ready image geometry p)
    (run : waveplayStart fatApi garbage k p = .ok out) :
    Ready image geometry out.player ∧ ∀ song, song ≠ k → KeepsSong song p out.player := by
  unfold Player.waveplayStart at run
  split at run
  · split at run
    · contradiction
    · rename_i first opened
      obtain ⟨ready', keeps⟩ := ready.waveplayOpen opened
      split at run
      · obtain ⟨last, keeps'⟩ := ready'.waveplayPrepare run
        exact ⟨last, fun song other => (keeps song other).trans (keeps' song other)⟩
      · obtain rfl := Except.ok.inj run
        exact ⟨ready', keeps⟩
  · contradiction

/-- The refill loop. -/
theorem Ready.refillLoop (fuel : Nat) {events : List Event} (ready : Ready image geometry p)
    (run : refillLoop fatApi k fuel events p = .ok out) :
    Ready image geometry out.player ∧ ∀ song, song ≠ k → KeepsSong song p out.player := by
  induction fuel generalizing p events with
  | zero => contradiction
  | succ fuel ih =>
    simp only [Player.refillLoop] at run
    split at run
    · obtain rfl := Except.ok.inj run
      exact ⟨ready, fun song _ => .refl song p⟩
    · by_cases none : (p.gWavePlay k).hFile = 0
      · have idle : fatApi.fatFileRead p.files (p.gWavePlay k).hFile (p.gWavePlay k).szBuf
            (readSize (p.gWavePlay k)) = .ok (false, (p.gWavePlay k).szBuf, p.files) := if_pos none
        rw [idle] at run
        obtain rfl := Except.ok.inj run
        exact ⟨ready.setSong rfl, fun song other => .setSong p _ other⟩
      · split at run
        · contradiction
        · rename_i szBuf files read
          obtain ⟨after, keeps⟩ := ready.read none read
          obtain ⟨last, keeps'⟩ := ih (after.setSong (by simp)) run
          exact ⟨last, fun song other => (keeps song other).trans
            ((KeepsSong.setSong _ _ other).trans (keeps' song other))⟩
        · rename_i szBuf files read
          obtain rfl := Except.ok.inj run
          obtain ⟨after, keeps⟩ := ready.read none read
          exact ⟨after.setSong (by simp), fun song other =>
            (keeps song other).trans (KeepsSong.setSong _ _ other)⟩

/-- A call of `waveplay_execute`. -/
theorem Ready.waveplayExecute (ready : Ready image geometry p)
    (run : waveplayExecute fatApi garbage k p = .ok out) :
    Ready image geometry out.player ∧ ∀ song, song ≠ k → KeepsSong song p out.player := by
  unfold Player.waveplayExecute at run
  split at run
  · split at run
    · cases started : Player.waveplayStart fatApi garbage k p with
      | error fault =>
        rw [started] at run
        contradiction
      | ok restart =>
        rw [started] at run
        obtain ⟨ready', keeps⟩ := ready.waveplayStart started
        obtain rfl := Except.ok.inj run
        exact ⟨ready', keeps⟩
    · split at run
      · contradiction
      · rename_i refill filled
        obtain ⟨after, keeps⟩ := ready.refillLoop _ filled
        split at run
        · obtain rfl := Except.ok.inj run
          exact ⟨after.setSong rfl, fun song other => (keeps song other).trans (.setSong _ _ other)⟩
        · obtain rfl := Except.ok.inj run
          exact ⟨after, keeps⟩
  · contradiction

/-! ## Listing -/

/-- A heap with more files than before. -/
structure More (image : Nat → Bytes) (geometry : VolumeInfo) (hFat : Nat) (before after : Heap) :
    Prop where
  mounted : after.Mounted image geometry hFat
  next : before.next ≤ after.next
  fresh : ∀ hFile, before.next ≤ hFile → after.files hFile ≠ none → hFile < after.next
  same : ∀ hFile, hFile < before.next → after.files hFile = before.files hFile

variable {before after : Heap} {hFat hFile : Nat}

/-- Another new file. -/
theorem More.alloc (more : More image geometry hFat before after) (file : FatFileInfo) :
    More image geometry hFat before (after.allocFile file).2 := by
  obtain ⟨mounted, next, fresh, same⟩ := more
  refine ⟨mounted, Nat.le_succ_of_le next, fun hFile late live => ?_, fun hFile early => ?_⟩
  · by_cases here : hFile = after.next
    · rw [here]
      exact Nat.lt_succ_self _
    · refine Nat.lt_succ_of_lt (fresh hFile late ?_)
      simpa [Heap.allocFile, Function.update_of_ne here] using live
  · rw [← same hFile early]
    exact Function.update_of_ne (by omega) _ _

/-- A new file is read or closed. -/
theorem More.update (more : More image geometry hFat before after) (late : before.next ≤ hFile)
    (live : hFile < after.next) (file : Option FatFileInfo) :
    More image geometry hFat before
      { after with files := Function.update after.files hFile file } := by
  obtain ⟨mounted, next, fresh, same⟩ := more
  refine ⟨mounted, next, fun h late' live' => ?_, fun h early => ?_⟩
  · by_cases here : h = hFile
    · rw [here]
      exact live
    · exact fresh h late' (by simpa [Function.update_of_ne here] using live')
  · rw [← same h early]
    exact Function.update_of_ne (by omega) _ _

/-- The card is read. -/
theorem More.reads {last : Heap} (more : More image geometry hFat before after)
    (reads : after.Reads image geometry hFat last) : More image geometry hFat before last := by
  have mounted := reads.mounted
  obtain ⟨vol, card, rfl⟩ := reads
  exact { more with mounted }

/-- More files leave those of the songs alone. -/
theorem Ready.more {heap : Heap} (ready : Ready image geometry p)
    (more : More image geometry p.hFat p.files heap) :
    Ready image geometry { p with files := heap } := by
  have below := ready.below
  obtain ⟨_, positive, _, opened, apart⟩ := ready
  obtain ⟨mounted, next, fresh, same⟩ := more
  refine ⟨mounted, Nat.lt_of_lt_of_le positive next, fun hFile live => ?_, fun l some => ?_, apart⟩
  · by_cases old : hFile < p.files.next
    · exact Nat.lt_of_lt_of_le old next
    · exact fresh hFile (Nat.not_lt.mp old) live
  · obtain ⟨file, found, volume⟩ := opened l some
    exact ⟨file, (same _ (below l)).trans found, volume⟩

/-- A file that is opened for no song may be read and closed. -/
theorem Ready.peek (ready : Ready image geometry p) {name : Name} {files : Heap}
    (opens : fatFileOpen p.files p.hFat name = .ok (hFile, files)) :
    Ready image geometry { p with files } ∧
      (hFile ≠ 0 → ∀ szBuf n ok szBuf' files',
        fatFileRead files hFile szBuf n = .ok (ok, szBuf', files') →
        Ready image geometry { p with files := files' } ∧
          Ready image geometry { p with files := fatFileClose files' hFile }) := by
  have start : More image geometry p.hFat p.files p.files :=
    ⟨ready.mounted, Nat.le_refl _, fun hFile _ => ready.fresh hFile, fun _ _ => rfl⟩
  have agree := fatFileOpen_agree ready.mounted ready.mounted name
  rw [opens] at agree
  obtain ⟨_, _, both⟩ := agree.of_ok
  cases both with
  | none one two => exact ⟨ready.reads one, fun some => absurd rfl some⟩
  | @found heap _ context one two =>
    have late : p.files.next ≤ heap.next := (start.reads one).next
    have opened := (start.reads one).alloc (openedFile p.hFat context)
    refine ⟨ready.more opened, fun some szBuf n ok szBuf' files' read => ?_⟩
    have found := heap.allocFile_files (openedFile p.hFat context)
    have agree := fatFileRead_agree opened.mounted opened.mounted ⟨some, found⟩ ⟨some, found⟩ rfl
      szBuf n
    obtain ⟨_, _, ⟨_, _, after, _, reads, _⟩⟩ := (read ▸ agree).of_ok
    have live : heap.next < (heap.allocFile (openedFile p.hFat context)).2.next :=
      Nat.lt_succ_self _
    have last := (opened.update late live (Option.some after)).reads reads
    refine ⟨ready.more last, ready.more ?_⟩
    obtain ⟨vol, card, rfl⟩ := reads
    have closed := last.update late live none
    simpa only [fatFileClose, some, ↓reduceIte, Heap.freeFile] using closed

end SoundBoard.Player
