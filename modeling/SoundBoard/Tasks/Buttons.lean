import SoundBoard.Tasks.System

/-!
# The song buttons

`drawButtonsRandom` paints eighteen boxes, and `getButtonId` turns a touch into a number. The
boxes are squares of 105 pixels in three rows of six columns, 25 pixels apart. The two are
compared point by point: a touch ought to start the song of the coloured box around it.
-/

namespace SoundBoard.Tasks

/-! ## Drawing -/

/-- The colours of `drawButtonsRandom`. -/
inductive Color where
  | red
  | darkOrange
  | yellow
  | darkGreen
  | darkBlue
  | darkViolet
  | gray
  deriving DecidableEq, Repr

/-- A filled box on the screen. -/
structure Box where
  horizStart : Int
  vertStart : Int
  horizEnd : Int
  vertEnd : Int
  color : Color
  deriving DecidableEq, Repr

/-- The `array` of `drawButtonsRandom`. -/
def palette : Nat → Color
  | 0 => .red
  | 1 => .darkOrange
  | 2 => .yellow
  | 3 => .darkGreen
  | 4 => .darkBlue
  | _ => .darkViolet

/-- The box of a button, as the drawing loops compute it. -/
def buttonBox (id : Nat) (color : Color) : Box :=
  let id : Int := id
  if id < 6 then ⟨25 + 130 * id, 25 + 130 * 0, 130 + 130 * id, 130 + 130 * 0, color⟩
  else if id < 12 then
    ⟨25 + 130 * (id - 6), 25 + 130 * 1, 130 + 130 * (id - 6), 130 + 130 * 1, color⟩
  else ⟨25 + 130 * (id - 12), 25 + 130 * 2, 130 + 130 * (id - 12), 130 + 130 * 2, color⟩

/-- The variables of `drawButtonsRandom`, and the boxes it has drawn. -/
structure Drawing where
  songAmount : Nat
  color : Nat
  boxes : List Box

/-- A pass of the loop of `drawButtonsRandom`. -/
def Drawing.button (drawing : Drawing) (id : Nat) : Drawing where
  boxes := drawing.boxes ++
    [buttonBox id (if drawing.songAmount ≠ 0 then palette drawing.color else .gray)]
  songAmount := if drawing.songAmount ≠ 0 then drawing.songAmount - 1 else drawing.songAmount
  color := if 6 ≤ drawing.color + 1 then 0 else drawing.color + 1

/-- `drawButtonsRandom`: the boxes in the order in which they are drawn. -/
def drawButtonsRandom (songs : Nat) : List Box :=
  ((List.range 18).foldl Drawing.button ⟨songs, 0, []⟩).boxes

/-- A point strictly inside a box. -/
def Box.Inside (box : Box) (x y : Int) : Prop :=
  box.horizStart < x ∧ x < box.horizEnd ∧ box.vertStart < y ∧ y < box.vertEnd

instance (box : Box) (x y : Int) : Decidable (box.Inside x y) :=
  inferInstanceAs (Decidable (_ ∧ _ ∧ _ ∧ _))

/-! ## The song of a touch -/

/-- The song that `TaskKeyHandler` starts for a touch at a point, if any. -/
def startedSong (nFileNum : Nat) (x y : Int) : Option Int :=
  if playable (getButtonId x y) nFileNum then some (getButtonId x y) else none

/-- From the poll of a touch on, the task comes to `waveplay_start`, with a song. -/
def TouchStarts (answer : Answer) (locals : Locals) (shared : Shared) (k : Int) : Prop :=
  let touched := (taskKeyHandler answer locals shared (.touchY shared.mtc2.x1)).locals
  (taskKeyHandler answer touched shared .songCheck).task = .ready .startCall ∧
    (taskKeyHandler answer touched shared .startCall).events = [.start .keyHandler k]

/-- With `n` songs a touch at a point starts a song exactly when the point lies strictly inside
the box of its button, and that box is coloured. -/
def PlaysColoured (n : Nat) (x y : Int) : Prop :=
  ∀ k, startedSong n x y = some k ↔
    ∃ (id : Nat) (box : Box), (id : Int) = k ∧ (drawButtonsRandom n)[id]? = some box ∧
      box.Inside x y ∧ box.color ≠ .gray

/-- A height strictly between the upper and the lower side of a row of boxes. -/
def InRow (row : Nat) (y : Int) : Prop := 25 + 130 * (row : Int) < y ∧ y < 130 + 130 * (row : Int)

/-- A place strictly between the left and the right side of a column of boxes. -/
def InColumn (column : Nat) (x : Int) : Prop :=
  25 + 130 * (column : Int) < x ∧ x < 130 + 130 * (column : Int)

/-- The number of whole widths of 130 pixels from the left side of the first column to a place,
rounded toward that side. -/
def strip (x : Int) : Int := (x - 25).tdiv 130

/-- The condition on the number of songs and the point: a place beside the boxes of its row is on
the strip of a button without a song. -/
def BesideFree (n : Nat) (x y : Int) : Prop :=
  ∀ row, row < 3 → InRow row y →
    (∃ column, column < 6 ∧ InColumn column x) ∨ ¬playable (strip x + 6 * row) n

/-! ## Boxes -/

/-- What the loop of `drawButtonsRandom` has drawn after some passes. -/
theorem drawButtons_loop (songs passes : Nat) :
    let drawing := (List.range passes).foldl Drawing.button ⟨songs, 0, []⟩
    drawing.songAmount = songs - passes ∧ drawing.color = passes % 6 ∧
      drawing.boxes = (List.range passes).map fun id =>
        buttonBox id (if id < songs then palette (id % 6) else .gray) := by
  induction passes with
  | zero => exact ⟨rfl, rfl, rfl⟩
  | succ passes ih =>
    obtain ⟨amount, color, boxes⟩ := ih
    simp only [List.range_succ, List.foldl_append, List.foldl_cons, List.foldl_nil, List.map_append,
      List.map_cons, List.map_nil, Drawing.button]
    rw [amount, color, boxes]
    refine ⟨?_, ?_, ?_⟩
    · split <;> omega
    · split <;> omega
    · have left : songs - passes ≠ 0 ↔ passes < songs := by omega
      simp only [left]

/-- The box of a button is coloured when the button has a song. -/
theorem drawButtonsRandom_get (songs id : Nat) (button : id < 18) :
    (drawButtonsRandom songs)[id]? =
      some (buttonBox id (if id < songs then palette (id % 6) else .gray)) := by
  have drawn := (drawButtons_loop songs 18).2.2
  rw [drawButtonsRandom, drawn, List.getElem?_map, List.getElem?_range button]
  rfl

/-- There are eighteen boxes. -/
theorem drawButtonsRandom_length (songs : Nat) : (drawButtonsRandom songs).length = 18 := by
  have drawn := (drawButtons_loop songs 18).2.2
  rw [drawButtonsRandom, drawn, List.length_map, List.length_range]

/-- The colours of buttons with a song are not grey. -/
theorem palette_ne_gray (color : Nat) : palette color ≠ .gray := by
  unfold palette
  split <;> simp

/-- The box of a button stands in the row and the column of its number. -/
theorem buttonBox_inside {id : Nat} (button : id < 18) (color : Color) (x y : Int) :
    (buttonBox id color).Inside x y ↔ InColumn (id % 6) x ∧ InRow (id / 6) y := by
  have row : id / 6 = 0 ∨ id / 6 = 1 ∨ id / 6 = 2 := by omega
  have place : (id : Int) = 6 * (id / 6 : Nat) + (id % 6 : Nat) := by omega
  unfold buttonBox Box.Inside InColumn InRow
  rcases row with first | second | third
  · have early : (id : Int) < 6 := by omega
    simp only [early, ↓reduceIte]
    omega
  · have late : ¬(id : Int) < 6 := by omega
    have early : (id : Int) < 12 := by omega
    simp only [late, early, ↓reduceIte]
    omega
  · have late : ¬(id : Int) < 6 := by omega
    have last : ¬(id : Int) < 12 := by omega
    simp only [late, last, ↓reduceIte]
    omega

/-! ## The hit test -/

/-- In a row the hit test counts strips. -/
theorem getButtonId_inRow {row : Nat} {y : Int} (small : row < 3) (inRow : InRow row y) (x : Int) :
    getButtonId x y = strip x + 6 * row := by
  unfold InRow at inRow
  unfold getButtonId strip
  have which : row = 0 ∨ row = 1 ∨ row = 2 := by omega
  rcases which with rfl | rfl | rfl
  · rw [if_pos (by omega)]
    omega
  · rw [if_neg (by omega), if_pos (by omega)]
    omega
  · rw [if_neg (by omega), if_neg (by omega), if_pos (by omega)]
    omega

/-- Outside the rows it finds no button. -/
theorem getButtonId_outside {y : Int} (outside : ∀ row, row < 3 → ¬InRow row y) (x : Int) :
    getButtonId x y = 111 := by
  have first := outside 0 (by decide)
  have second := outside 1 (by decide)
  have third := outside 2 (by decide)
  unfold InRow at first second third
  unfold getButtonId
  rw [if_neg (by omega), if_neg (by omega), if_neg (by omega)]

/-- A place in a column is on the strip of the column. -/
theorem strip_inColumn {column : Nat} {x : Int} (inColumn : InColumn column x) :
    strip x = column := by
  unfold InColumn at inColumn
  unfold strip
  rw [Int.tdiv_eq_ediv_of_nonneg (by omega)]
  omega

/-- A coloured box around a point is the box of its row and column, when that has a song. -/
theorem coloured_iff {n : Nat} {x y k : Int} :
    (∃ (id : Nat) (box : Box), (id : Int) = k ∧ (drawButtonsRandom n)[id]? = some box ∧
      box.Inside x y ∧ box.color ≠ .gray) ↔
    ∃ row column, row < 3 ∧ column < 6 ∧ InRow row y ∧ InColumn column x ∧
      k = column + 6 * row ∧ k < n := by
  constructor
  · rintro ⟨id, box, rfl, drawn, inside, coloured⟩
    have button : id < 18 := by
      have bound := (List.getElem?_eq_some_iff.mp drawn).1
      rwa [drawButtonsRandom_length] at bound
    rw [drawButtonsRandom_get n id button] at drawn
    have same := Option.some.inj drawn
    subst same
    obtain ⟨inColumn, inRow⟩ := (buttonBox_inside button _ x y).mp inside
    have song : id < n := by
      by_contra none
      rw [if_neg none] at coloured
      refine coloured ?_
      unfold buttonBox
      dsimp only
      split
      · rfl
      · split <;> rfl
    exact ⟨id / 6, id % 6, by omega, by omega, inRow, inColumn, by omega, by omega⟩
  · rintro ⟨row, column, small, narrow, inRow, inColumn, rfl, song⟩
    have button : column + 6 * row < 18 := by omega
    have quotient : (column + 6 * row) / 6 = row := by omega
    have rest : (column + 6 * row) % 6 = column := by omega
    have filled : column + 6 * row < n := by omega
    refine ⟨column + 6 * row, _, by omega, drawButtonsRandom_get n _ button, ?_, ?_⟩
    · apply (buttonBox_inside button _ x y).mpr
      rw [quotient, rest]
      exact ⟨inColumn, inRow⟩
    · rw [if_pos filled]
      have color := palette_ne_gray ((column + 6 * row) % 6)
      unfold buttonBox
      dsimp only
      split
      · exact color
      · split <;> exact color

/-! ## Touches -/

/-- The song started for a touch is the touched button's. -/
theorem startedSong_eq_some {n : Nat} {x y k : Int} :
    startedSong n x y = some k ↔ playable (getButtonId x y) n ∧ getButtonId x y = k := by
  unfold startedSong
  split
  · rename_i song
    simp only [Option.some.injEq, song, true_and]
  · rename_i none
    simp only [reduceCtorEq, none, false_and]

/-- It is the song that the steps of the task start. -/
theorem touchStarts_iff {answer : Answer} {locals : Locals} {shared : Shared} {k : Int} :
    TouchStarts answer locals shared k ↔
      startedSong shared.nFileNum shared.mtc2.x1 shared.mtc2.y1 = some k := by
  rw [startedSong_eq_some]
  unfold TouchStarts
  simp only [taskKeyHandler]
  by_cases song : playable (getButtonId shared.mtc2.x1 shared.mtc2.y1) shared.nFileNum
  · simp [song]
  · simp [song]

/-- What is coloured is what starts, when a place beside the boxes is on the strip of a button
without a song, and not otherwise. -/
theorem playsColoured_besideFree (n : Nat) (x y : Int) :
    PlaysColoured n x y ↔ BesideFree n x y := by
  constructor
  · intro plays row small inRow
    by_cases song : playable (strip x + 6 * row) n
    · have hit := getButtonId_inRow small inRow x
      have started : startedSong n x y = some (strip x + 6 * row) := by
        rw [startedSong_eq_some, hit]
        exact ⟨song, rfl⟩
      obtain ⟨_, column, _, narrow, _, inColumn, _⟩ := coloured_iff.mp ((plays _).mp started)
      exact .inl ⟨column, narrow, inColumn⟩
    · exact .inr song
  · intro free k
    rw [coloured_iff, startedSong_eq_some]
    constructor
    · rintro ⟨song, rfl⟩
      by_cases rows : ∃ row, row < 3 ∧ InRow row y
      · obtain ⟨row, small, inRow⟩ := rows
        have hit := getButtonId_inRow small inRow x
        rw [hit] at song ⊢
        rcases free row small inRow with ⟨column, narrow, inColumn⟩ | none
        · rw [strip_inColumn inColumn] at song ⊢
          exact ⟨row, column, small, narrow, inRow, inColumn, rfl, song.1⟩
        · exact absurd song none
      · have missed : getButtonId x y = 111 :=
          getButtonId_outside (fun row small inRow => rows ⟨row, small, inRow⟩) x
        exact absurd missed song.2
    · rintro ⟨row, column, small, narrow, inRow, inColumn, rfl, song⟩
      rw [getButtonId_inRow small inRow, strip_inColumn inColumn]
      exact ⟨⟨song, by omega⟩, rfl⟩

/-- For every number of songs and every point, the touch starts what is coloured there exactly
when a place beside the boxes is on the strip of a button without a song. The touches of
`TaskKeyHandler` are such points, and what they start is what its steps start. -/
theorem playsColoured_iff (n : Nat) (x y : Int) (answer : Answer) (locals : Locals)
    (shared : Shared) :
    (PlaysColoured n x y ↔ BesideFree n x y) ∧
      ∀ k, TouchStarts answer locals shared k ↔
        startedSong shared.nFileNum shared.mtc2.x1 shared.mtc2.y1 = some k :=
  ⟨playsColoured_besideFree n x y, fun _ => touchStarts_iff⟩

/-- With eighteen songs a touch in the gap between the first two boxes starts song 0. -/
theorem not_playsColoured_gap : ¬PlaysColoured 18 140 70 := by
  intro plays
  have started : startedSong 18 140 70 = some 0 := by decide
  obtain ⟨row, column, _, _, _, inColumn, same, _⟩ := coloured_iff.mp ((plays 0).mp started)
  unfold InColumn at inColumn
  omega

end SoundBoard.Tasks
