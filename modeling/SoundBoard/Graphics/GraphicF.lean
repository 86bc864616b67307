import SoundBoard.Graphics.SimpleText
import SoundBoard.Tasks.Buttons

/-!
# The drawings

The drawings of `graphic_f.c` and the frame buffer they are made for. The buttons and controls
keep inside it. The box that clears the message line ends at the height of the frame, and the
bottom of its corners is drawn on that row, one below the last. Where the text of a message ends
is decided by its lines alone.
-/

namespace SoundBoard.Graphics

open SoundBoard.Tasks (Color Box buttonBox)

/-! ## The frame -/

/-- `FRAME_WIDTH`. -/
def frameWidth : Int := 800

/-- `FRAME_HEIGHT`. -/
def frameHeight : Int := 480

/-- A pixel of the frame. -/
def Write.InFrame (w : Write) : Prop :=
  0 ≤ w.horiz ∧ w.horiz < frameWidth ∧ 0 ≤ w.vert ∧ w.vert < frameHeight

/-- No pixel is written outside the frame. -/
def InFrame (writes : List Write) : Prop := ∀ w ∈ writes, w.InFrame

theorem inFrame_append {front back : List Write} :
    InFrame (front ++ back) ↔ InFrame front ∧ InFrame back := by
  simp only [InFrame, List.mem_append]
  constructor
  · intro all
    exact ⟨fun w mem => all w (.inl mem), fun w mem => all w (.inr mem)⟩
  · rintro ⟨first, second⟩ w (mem | mem)
    · exact first w mem
    · exact second w mem

theorem inFrame_flatMap {α : Type} {items : List α} {draw : α → List Write} :
    InFrame (items.flatMap draw) ↔ ∀ item ∈ items, InFrame (draw item) := by
  simp only [InFrame, List.mem_flatMap]
  constructor
  · intro all item listed w mem
    exact all w ⟨item, listed, mem⟩
  · rintro all w ⟨item, listed, mem⟩
    exact all item listed w mem

theorem inFrame_vidSetPixel {horiz vert : Int} {color : Nat} :
    InFrame (vidSetPixel horiz vert color) ↔ Write.InFrame ⟨horiz, vert, color⟩ := by
  simp only [InFrame, mem_vidSetPixel, forall_eq]

/-! ## The drawings -/

/-- `BLACK_24`. -/
def black : Nat := 0x000000

/-- `WHITE_24`. -/
def white : Nat := 0xFFFFFF

/-- The colours of the buttons and controls. -/
def colorValue : Color → Nat
  | .red => 0xFF0000
  | .darkOrange => 0xFF8C00
  | .yellow => 0xFFFF00
  | .darkGreen => 0x006400
  | .darkBlue => 0x00008B
  | .darkViolet => 0x9400D3
  | .gray => 0x808080

/-- A button as a filled box with round corners. -/
def drawBox (box : Box) : List Write :=
  vidDrawRoundCornerBox box.horizStart box.vertStart box.horizEnd box.vertEnd 5
    (colorValue box.color) true

/-- `drawButtonsGrey`. -/
def drawButtonsGrey : List Write :=
  (List.range 18).flatMap fun id => drawBox (buttonBox id .gray)

/-- `drawButtonsRandom`. -/
def drawButtonsRandom (songs : Nat) : List Write :=
  (Tasks.drawButtonsRandom songs).flatMap drawBox

section Controls

variable (alphaMap : Nat → Nat → Nat)

/-- A label in the green of the controls. -/
def drawLabel (horizOffset : Int) (string : List Char) : List Write :=
  vidPrintStringAlpha horizOffset 425 black (colorValue .darkGreen) (tahomabold20 alphaMap) string

/-- `drawRecord`. -/
def drawRecord : List Write :=
  vidDrawRoundCornerBox 130 420 400 460 5 (colorValue .darkGreen) true ++
  vidDrawCircle 160 440 10 (colorValue .red) true ++
  drawLabel alphaMap 190 ['R', 'E', 'C', 'O', 'R', 'D']

/-- `drawRecording`. -/
def drawRecording : List Write :=
  vidDrawRoundCornerBox 130 420 400 460 5 (colorValue .darkGreen) true ++
  vidDrawCircle 160 440 10 (colorValue .red) true ++
  drawLabel alphaMap 190 ['S', 'T', 'O', 'P', ' ', 'R', 'E', 'C', 'O', 'R', 'D', 'I', 'N', 'G']

/-- `drawPlay`. -/
def drawPlay : List Write :=
  vidDrawRoundCornerBox 430 420 560 460 5 (colorValue .darkGreen) true ++
  drawLabel alphaMap 490 ['P', 'L', 'A', 'Y']

/-- `drawStop`. -/
def drawStop : List Write :=
  vidDrawRoundCornerBox 430 420 560 460 5 (colorValue .darkGreen) true ++
  drawLabel alphaMap 490 ['S', 'T', 'O', 'P']

/-- `drawBlank`. -/
def drawBlank : List Write := vidDrawRoundCornerBox 430 420 560 460 5 black true

/-- The text of a message. -/
def messageText (message : List Char) : List Write :=
  vidPrintStringAlpha 130 420 white black (tahomabold20 alphaMap) message

/-- `drawMessage`. -/
def drawMessage (message : List Char) : List Write :=
  vidDrawRoundCornerBox 130 420 600 480 5 black true ++ messageText alphaMap message

/-- `drawSdcardBlank`. -/
def drawSdcardBlank : List Write := vidDrawRoundCornerBox 130 420 600 480 5 black true

end Controls

/-- A message of drawable characters. -/
structure Message where
  text : List Char
  drawable : ∀ c ∈ text, Drawable c

/-- A call of one of the drawing functions. -/
inductive Drawing where
  | message (message : Message)
  | sdcardBlank
  | buttonsGrey
  | buttonsRandom (songs : Nat)
  | record
  | recording
  | play
  | stop
  | blank

/-- The pixels that a call writes. -/
def Drawing.writes (alphaMap : Nat → Nat → Nat) : Drawing → List Write
  | .message shown => drawMessage alphaMap shown.text
  | .sdcardBlank => drawSdcardBlank
  | .buttonsGrey => drawButtonsGrey
  | .buttonsRandom songs => drawButtonsRandom songs
  | .record => drawRecord alphaMap
  | .recording => drawRecording alphaMap
  | .play => drawPlay alphaMap
  | .stop => drawStop alphaMap
  | .blank => drawBlank

/-- The calls that clear the message line. -/
def Drawing.ClearsMessage : Drawing → Prop
  | .message _ => True
  | .sdcardBlank => True
  | _ => False

/-! ## Text in the frame -/

section Text

variable (alphaMap : Nat → Nat → Nat)

/-- No bitmap of the font is empty. -/
theorem glyph_wide {c : Char} (low : 33 ≤ c.toNat) (high : c.toNat ≤ 126) :
    0 < (glyph (tahomabold20 alphaMap) c).boundsWidth := by
  have all : ∀ index, index < 94 → 0 < tahomabold20Widths.getD index 0 := by decide
  exact all (c.toNat - 33) (by omega)

/-- A character is inside the frame when its block is. -/
theorem printChar_inFrame (color background : Nat) {horiz vert : Int} {c : Char}
    (left : 0 ≤ horiz) (top : 0 ≤ vert) (low : 33 ≤ c.toNat) (high : c.toNat ≤ 126) :
    InFrame (vidPrintCharAlpha horiz vert color c background (tahomabold20 alphaMap)) ↔
      horiz + (glyph (tahomabold20 alphaMap) c).boundsWidth ≤ frameWidth ∧
        vert + 26 ≤ frameHeight := by
  have wide := glyph_wide alphaMap low high
  have tall : (glyph (tahomabold20 alphaMap) c).boundsHeight = 26 := rfl
  rw [vidPrintCharAlpha, inFrame_flatMap]
  simp only [inFrame_flatMap, tall, List.mem_range, inFrame_vidSetPixel, Write.InFrame]
  generalize (glyph (tahomabold20 alphaMap) c).boundsWidth = width at wide ⊢
  constructor
  · intro all
    -- the pixel in the lower right corner of the block
    have corner := all 25 (by decide) (width - 1) (by omega)
    omega
  · rintro ⟨right, bottom⟩ i row j column
    omega

/-- The part of a text that stands on one line is inside the frame when its width and the height
of the font are. -/
theorem printLoop_cons (color background : Nat) {c : Char} {rest : List Char}
    {original horiz vert : Int} (drawable : Drawable c) (inLine : c ≠ '\n') (left : 0 ≤ horiz)
    (top : 0 ≤ vert) :
    ∃ here, printLoop color background (tahomabold20 alphaMap) original (c :: rest) horiz vert =
        here ++ printLoop color background (tahomabold20 alphaMap) original rest
          (horiz + charWidth (tahomabold20 alphaMap) c) vert ∧
      (InFrame here ↔ horiz + charWidth (tahomabold20 alphaMap) c ≤ frameWidth ∧
        vert + 26 ≤ frameHeight) := by
  have dash : (33 : Nat) ≤ '-'.toNat ∧ '-'.toNat ≤ 126 := by decide
  rcases drawable with printable | rfl | rfl | rfl
  · have notSpace : c ≠ ' ' := by rintro rfl; exact absurd printable.1 (by decide)
    have notTab : c ≠ '\t' := by rintro rfl; exact absurd printable.1 (by decide)
    rw [printLoop, if_neg inLine, if_neg notSpace, if_neg notTab, charWidth, if_neg notSpace,
      if_neg notTab]
    exact ⟨_, rfl, printChar_inFrame alphaMap _ background left top printable.1 printable.2⟩
  · rw [printLoop, if_neg inLine, if_pos rfl, charWidth, if_pos rfl]
    exact ⟨_, rfl, printChar_inFrame alphaMap _ background left top dash.1 dash.2⟩
  · rw [printLoop, if_neg inLine, if_neg (by decide), if_pos rfl, charWidth, if_neg (by decide),
      if_pos rfl]
    have first := printChar_inFrame alphaMap background background left top dash.1 dash.2
    have wide : 0 ≤ horiz + ((glyph (tahomabold20 alphaMap) '-').boundsWidth : Int) := by omega
    have second := printChar_inFrame alphaMap background background wide top dash.1 dash.2
    refine ⟨_, by rw [Int.natCast_mul], ?_⟩
    simp only [tabSpacing, printTab, inFrame_append, first, second]
    simp only [InFrame, List.not_mem_nil, false_implies, implies_true, and_true]
    omega
  · exact absurd rfl inLine

/-- The lines of a text and where they begin: each one that is not empty has room. -/
def RoomFor (original horiz vert : Int) (lines : List (List Char)) : Prop :=
  ∀ (i : Nat) (line : List Char), lines[i]? = some line → line ≠ [] →
    (if i = 0 then horiz else original) + lineWidth (tahomabold20 alphaMap) line ≤ frameWidth ∧
      vert + 26 * (i + 1) ≤ frameHeight

theorem roomFor_cons {original horiz vert : Int} {line : List Char} {lines : List (List Char)} :
    RoomFor alphaMap original horiz vert (line :: lines) ↔
      (line ≠ [] → horiz + lineWidth (tahomabold20 alphaMap) line ≤ frameWidth ∧
        vert + 26 ≤ frameHeight) ∧
      RoomFor alphaMap original original (vert + 26) lines := by
  constructor
  · intro room
    constructor
    · intro filled
      have here := room 0 line rfl filled
      simpa using here
    · intro i later at_ filled
      have here := room (i + 1) later at_ filled
      simp only [Nat.add_one_ne_zero, if_false] at here
      rw [ite_self]
      omega
  · rintro ⟨first, others⟩ i later at_ filled
    cases i with
    | zero =>
      obtain rfl : line = later := Option.some.inj at_
      simpa using first filled
    | succ i =>
      have here := others i later at_ filled
      rw [ite_self] at here
      simp only [Nat.add_one_ne_zero, if_false]
      omega

/-- A text is inside the frame when its lines have room. The induction is on the characters
that are left to print. -/
theorem printLoop_inFrame (color background : Nat) {original : Int} (margin : 0 ≤ original)
    (text : List Char) (drawable : ∀ c ∈ text, Drawable c) :
    ∀ horiz vert, 0 ≤ horiz → 0 ≤ vert →
      (InFrame (printLoop color background (tahomabold20 alphaMap) original text horiz vert) ↔
        RoomFor alphaMap original horiz vert (text.splitOn '\n')) := by
  induction text with
  | nil =>
    intro horiz vert left top
    rw [List.splitOn_nil, roomFor_cons]
    simp [printLoop, InFrame, RoomFor]
  | cons c rest ih =>
    intro horiz vert left top
    have others : ∀ c ∈ rest, Drawable c := fun c mem => drawable c (List.mem_cons_of_mem _ mem)
    rw [List.splitOn_cons_eq_if_modifyHead]
    by_cases newline : c = '\n'
    · have below : printLoop color background (tahomabold20 alphaMap) original (c :: rest) horiz
          vert = printLoop color background (tahomabold20 alphaMap) original rest original
            (vert + 26) := by
        rw [printLoop, if_pos newline]
        rfl
      rw [below, ih others original (vert + 26) margin (by omega),
        if_pos (beq_iff_eq.mpr newline), roomFor_cons]
      simp
    · obtain ⟨here, print, block⟩ := printLoop_cons alphaMap color background
        (drawable c List.mem_cons_self) newline left top
      rw [print, inFrame_append, block, ih others _ vert (by omega) top,
        if_neg (by simpa using newline)]
      obtain ⟨line, lines, split⟩ := List.exists_cons_of_ne_nil (List.splitOn_ne_nil '\n' rest)
      rw [split, List.modifyHead_cons, roomFor_cons, roomFor_cons]
      have width : lineWidth (tahomabold20 alphaMap) (c :: line) =
          charWidth (tahomabold20 alphaMap) c + lineWidth (tahomabold20 alphaMap) line := rfl
      have empty : line = [] → lineWidth (tahomabold20 alphaMap) line = 0 := by
        rintro rfl
        rfl
      rw [width]
      constructor
      · rintro ⟨⟨right, bottom⟩, first, below⟩
        refine ⟨fun _ => ?_, below⟩
        by_cases last : line = []
        · have none_ := empty last
          omega
        · have room := first last
          omega
      · rintro ⟨first, below⟩
        have room := first (List.cons_ne_nil _ _)
        exact ⟨⟨by omega, by omega⟩, fun _ => ⟨by omega, by omega⟩, below⟩

/-- A text in one line is inside the frame when its width is. -/
theorem printString_inFrame (color background : Nat) {horiz vert : Int} {text : List Char}
    (left : 0 ≤ horiz) (top : 0 ≤ vert) (bottom : vert + 26 ≤ frameHeight)
    (drawable : ∀ c ∈ text, Drawable c) (oneLine : '\n' ∉ text)
    (right : horiz + lineWidth (tahomabold20 alphaMap) text ≤ frameWidth) :
    InFrame (vidPrintStringAlpha horiz vert color background (tahomabold20 alphaMap) text) := by
  rw [vidPrintStringAlpha, printLoop_inFrame alphaMap color background left text drawable horiz
    vert left top, List.splitOn_eq_singleton oneLine, roomFor_cons]
  refine ⟨fun _ => ⟨right, bottom⟩, ?_⟩
  intro i line at_
  simp at at_

end Text

/-! ## The drawings in the frame -/

/-- What lies between sides in the frame is inside the frame. -/
theorem inFrame_within {writes : List Write} {left top right bottom : Int}
    (within : ∀ w ∈ writes, w.Within left top right bottom) (leftLow : 0 ≤ left)
    (topLow : 0 ≤ top) (rightHigh : right < frameWidth) (bottomHigh : bottom < frameHeight) :
    InFrame writes := by
  intro w mem
  have here := within w mem
  simp only [Write.Within] at here
  simp only [Write.InFrame]
  omega

/-- A box is inside the frame when both its end points are. -/
theorem inFrame_box (radius color : Nat) {horizStart vertStart horizEnd vertEnd : Int}
    (leftLow : 0 ≤ horizStart) (topLow : 0 ≤ vertStart) (wide : horizStart ≤ horizEnd)
    (tall : vertStart ≤ vertEnd) (rightHigh : horizEnd < frameWidth)
    (bottomHigh : vertEnd < frameHeight) :
    InFrame (vidDrawRoundCornerBox horizStart vertStart horizEnd vertEnd radius color true) := by
  simp only [frameWidth, frameHeight] at rightHigh bottomHigh
  apply inFrame_within _ leftLow topLow rightHigh bottomHigh
  exact vidDrawRoundCornerBox_within leftLow topLow wide tall (by omega) (by omega)

theorem inFrame_button {id : Nat} (button : id < 18) (color : Color) :
    InFrame (drawBox (buttonBox id color)) := by
  have rows : ∀ column row : Int, 0 ≤ column → column < 6 → 0 ≤ row → row < 3 →
      InFrame (drawBox ⟨25 + 130 * column, 25 + 130 * row, 130 + 130 * column,
        130 + 130 * row, color⟩) := by
    intro column row columnLow columnHigh rowLow rowHigh
    have right : 130 + 130 * column < frameWidth := by
      simp only [frameWidth]
      omega
    have bottom : 130 + 130 * row < frameHeight := by
      simp only [frameHeight]
      omega
    exact inFrame_box 5 _ (show 0 ≤ 25 + 130 * column by omega) (show 0 ≤ 25 + 130 * row by omega)
      (show 25 + 130 * column ≤ 130 + 130 * column by omega)
      (show 25 + 130 * row ≤ 130 + 130 * row by omega) right bottom
  rw [buttonBox]
  split
  · exact rows id 0 (by omega) (by omega) (by decide) (by decide)
  · split
    · exact rows (id - 6) 1 (by omega) (by omega) (by decide) (by decide)
    · exact rows (id - 12) 2 (by omega) (by omega) (by decide) (by decide)

theorem inFrame_buttonsRandom (songs : Nat) : InFrame (drawButtonsRandom songs) := by
  rw [drawButtonsRandom, inFrame_flatMap]
  intro box listed
  have at_ := List.mem_iff_getElem?.mp listed
  obtain ⟨id, at_⟩ := at_
  have button : id < 18 := by
    have bound := (List.getElem?_eq_some_iff.mp at_).1
    rwa [Tasks.drawButtonsRandom_length] at bound
  rw [Tasks.drawButtonsRandom_get songs id button] at at_
  obtain rfl := Option.some.inj at_
  exact inFrame_button button _

/-- A label is inside the frame when it is narrow enough. -/
theorem inFrame_label (alphaMap : Nat → Nat → Nat) (horizOffset : Int) (width : Nat)
    (string : List Char) (left : 0 ≤ horizOffset)
    (drawable : string.all (decide <| Drawable ·) = true) (oneLine : '\n' ∉ string)
    (wide : lineWidth (tahomabold20 alphaMap) string = width)
    (right : horizOffset + width ≤ frameWidth) :
    InFrame (drawLabel alphaMap horizOffset string) := by
  rw [← wide] at right
  exact printString_inFrame alphaMap _ _ left (by decide) (by decide) (drawable_of_all drawable)
    oneLine right

theorem inFrame_recordButton : InFrame
    (vidDrawRoundCornerBox 130 420 400 460 5 (colorValue .darkGreen) true ++
      vidDrawCircle 160 440 10 (colorValue .red) true) := by
  have circle := vidDrawCircle_within 160 440 10 (colorValue .red) (by decide) (by decide)
    (by decide) (by decide)
  have box := inFrame_box 5 (colorValue .darkGreen) (show (0 : Int) ≤ 130 by decide)
    (show (0 : Int) ≤ 420 by decide) (show (130 : Int) ≤ 400 by decide)
    (show (420 : Int) ≤ 460 by decide) (by decide) (by decide)
  exact inFrame_append.mpr ⟨box, inFrame_within circle (by decide) (by decide) (by decide)
    (by decide)⟩

theorem inFrame_playBox (color : Nat) :
    InFrame (vidDrawRoundCornerBox 430 420 560 460 5 color true) :=
  inFrame_box 5 color (by decide) (by decide) (by decide) (by decide) (by decide) (by decide)

/-- The box that clears the message line writes a pixel below the frame. -/
theorem clearMessage_below :
    (⟨135, 480, black⟩ : Write) ∈ vidDrawRoundCornerBox 130 420 600 480 5 black true :=
  vidDrawRoundCornerBox_bottom (by decide) (by decide) true

/-- For every call and every bitmap of the font: a drawing keeps inside the frame exactly when it
does not clear the message line, and the text of a message does exactly when each of its lines
has room. -/
theorem drawing_inFrame_iff (alphaMap : Nat → Nat → Nat) (drawing : Drawing) :
    (InFrame (drawing.writes alphaMap) ↔ ¬ drawing.ClearsMessage) ∧
    ∀ message : Message, InFrame (messageText alphaMap message.text) ↔
      ∀ (i : Nat) (line : List Char), (message.text.splitOn '\n')[i]? = some line → line ≠ [] →
        130 + lineWidth (tahomabold20 alphaMap) line ≤ frameWidth ∧
          420 + 26 * (i + 1) ≤ frameHeight := by
  have below : ¬ InFrame (vidDrawRoundCornerBox 130 420 600 480 5 black true) := by
    intro inside
    exact absurd (inside _ clearMessage_below).2.2.2 (by decide)
  constructor
  · cases drawing with
    | message shown =>
      refine iff_of_false ?_ (fun other => other trivial)
      intro inside
      exact below (inFrame_append.mp inside).1
    | sdcardBlank => exact iff_of_false below (fun other => other trivial)
    | buttonsGrey =>
      refine iff_of_true ?_ id
      apply inFrame_flatMap.mpr
      intro id listed
      exact inFrame_button (List.mem_range.mp listed) .gray
    | buttonsRandom songs => exact iff_of_true (inFrame_buttonsRandom songs) id
    | record =>
      have label := inFrame_label alphaMap 190 85 ['R', 'E', 'C', 'O', 'R', 'D'] (by decide)
        (by decide) (by decide) rfl (by decide)
      exact iff_of_true (inFrame_append.mpr ⟨inFrame_recordButton, label⟩) id
    | recording =>
      have wide : lineWidth (tahomabold20 alphaMap)
          ['S', 'T', 'O', 'P', ' ', 'R', 'E', 'C', 'O', 'R', 'D', 'I', 'N', 'G'] = 187 := by
        rw [lineWidth]
        rfl
      have label := inFrame_label alphaMap 190 187 _ (by decide) (by decide) (by decide) wide
        (by decide)
      exact iff_of_true (inFrame_append.mpr ⟨inFrame_recordButton, label⟩) id
    | play =>
      have label := inFrame_label alphaMap 490 52 ['P', 'L', 'A', 'Y'] (by decide) (by decide)
        (by decide) rfl (by decide)
      exact iff_of_true (inFrame_append.mpr ⟨inFrame_playBox _, label⟩) id
    | stop =>
      have label := inFrame_label alphaMap 490 53 ['S', 'T', 'O', 'P'] (by decide) (by decide)
        (by decide) rfl (by decide)
      exact iff_of_true (inFrame_append.mpr ⟨inFrame_playBox _, label⟩) id
    | blank => exact iff_of_true (inFrame_playBox black) id
  · intro message
    have lines := printLoop_inFrame alphaMap white black (show (0 : Int) ≤ 130 by decide)
      message.text message.drawable 130 420 (by decide) (by decide)
    rw [messageText, vidPrintStringAlpha, lines]
    simp only [RoomFor, ite_self]

/-- The message of `graphic_init`. -/
def insertMessage : Message where
  text := ['P', 'l', 'e', 'a', 's', 'e', ' ', 'i', 'n', 's', 'e', 'r', 't', ' ', 's', 'd', ' ',
    'c', 'a', 'r', 'd', '.']
  drawable := drawable_of_all (by decide)

/-- Already the message of the start writes below the frame. -/
theorem not_drawing_inFrame : ¬ ∀ (alphaMap : Nat → Nat → Nat) (drawing : Drawing),
    InFrame (drawing.writes alphaMap) := by
  intro all
  have inside := all (fun _ _ => 0) (.message insertMessage)
  have box := (inFrame_append.mp inside).1
  exact absurd (box _ clearMessage_below).2.2.2 (by decide)

end SoundBoard.Graphics
