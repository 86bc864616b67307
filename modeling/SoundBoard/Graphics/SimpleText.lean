import SoundBoard.Graphics.SimpleGraphics

/-!
# Text

`simple_text.c` with the font `tahomabold_20`. A character is a block of blended pixels as large
as its bitmap, put behind the one before; a space is a dash in the colour of the background, a
tab two of them, and a newline starts the next line below. Text is not wrapped at the right edge.
-/

namespace SoundBoard.Graphics

/-! ## The font -/

/-- `struct abc_font_struct`, as far as the printing functions read it. -/
structure AbcFont where
  boundsWidth : Nat
  boundsHeight : Nat
  charAlphaMap : Nat → Nat

/-- The widths of `tahomabold_20`, from `!` to `~`. -/
def tahomabold20Widths : List Nat :=
  [7, 10, 16, 13, 24, 17, 6, 9, 9, 13, 16, 6, 9, 6, 12, 13, 13, 13, 13, 13, 13, 13, 13, 13, 13, 7,
    7, 16, 16, 16, 11, 18, 14, 14, 13, 15, 12, 12, 15, 15, 10, 10, 14, 11, 18, 15, 15, 13, 15, 15,
    13, 12, 15, 14, 21, 14, 14, 12, 9, 12, 9, 16, 13, 11, 12, 13, 11, 13, 12, 8, 13, 13, 6, 9, 12,
    6, 19, 13, 12, 13, 13, 9, 10, 8, 13, 12, 18, 12, 12, 11, 12, 13, 12, 16]

/-- `tahomabold_20`: every bitmap is 26 pixels high. The bitmaps themselves are a parameter. -/
def tahomabold20 (alphaMap : Nat → Nat → Nat) (index : Nat) : AbcFont where
  boundsWidth := tahomabold20Widths.getD index 0
  boundsHeight := 26
  charAlphaMap := alphaMap index

/-- The element of the font that a character selects. -/
def glyph (font : Nat → AbcFont) (character : Char) : AbcFont := font (character.toNat - 33)

/-! ## Blending -/

/-- The three channels of a colour. -/
structure Channels where
  red : Nat
  green : Nat
  blue : Nat

/-- `seperate_color_channels` at a colour depth of 32. -/
def seperateColorChannels (color : Nat) : Channels where
  red := color / 65536 % 256
  green := color / 256 % 256
  blue := color % 256

/-- `merge_color_channels` at a colour depth of 32; the fourth byte stays as it was. -/
def mergeColorChannels (channels : Channels) : Nat :=
  channels.red * 65536 + channels.green * 256 + channels.blue

/-- A channel in `alpha_blending`, clipped to a byte. -/
def blendChannel (alpha channel background : Nat) : Nat :=
  let blended := (channel * alpha + background * (255 - alpha)) / 255
  if 255 < blended then 255 else blended

/-- `alpha_blending` over a background that is not `CLEAR_BACKGROUND`. -/
def alphaBlending (backgroundColor alpha : Nat) (channels : Channels) : Channels :=
  let background := seperateColorChannels backgroundColor
  { red := blendChannel alpha channels.red background.red
    green := blendChannel alpha channels.green background.green
    blue := blendChannel alpha channels.blue background.blue }

/-! ## Printing -/

/-- `vid_print_char_alpha`. -/
def vidPrintCharAlpha (horizOffset vertOffset : Int) (color : Nat) (character : Char)
    (backgroundColor : Nat) (font : Nat → AbcFont) : List Write :=
  let bounds := glyph font character
  let original := seperateColorChannels color
  (List.range bounds.boundsHeight).flatMap fun (i : Nat) =>
    (List.range bounds.boundsWidth).flatMap fun (j : Nat) =>
      let alpha := bounds.charAlphaMap (i * bounds.boundsWidth + j)
      vidSetPixel (horizOffset + j) (vertOffset + i)
        (mergeColorChannels (alphaBlending backgroundColor alpha original))

/-- `TAB_SPACING`. -/
def tabSpacing : Nat := 2

/-- The loop of `vid_print_string_alpha` over a tab. -/
def printTab (vertOffset : Int) (backgroundColor : Nat) (font : Nat → AbcFont) :
    Nat → Int → List Write
  | 0, _ => []
  | left + 1, horizOffset =>
    vidPrintCharAlpha horizOffset vertOffset backgroundColor '-' backgroundColor font ++
      printTab vertOffset backgroundColor font left
        (horizOffset + (glyph font '-').boundsWidth)

/-- The loop of `vid_print_string_alpha`, with the horizontal offset it started from. -/
def printLoop (color backgroundColor : Nat) (font : Nat → AbcFont) (original : Int) :
    List Char → Int → Int → List Write
  | [], _, _ => []
  | c :: rest, horizOffset, vertOffset =>
    if c = '\n' then
      printLoop color backgroundColor font original rest original
        (vertOffset + (glyph font '|').boundsHeight)
    else if c = ' ' then
      vidPrintCharAlpha horizOffset vertOffset backgroundColor '-' backgroundColor font ++
        printLoop color backgroundColor font original rest
          (horizOffset + (glyph font '-').boundsWidth) vertOffset
    else if c = '\t' then
      printTab vertOffset backgroundColor font tabSpacing horizOffset ++
        printLoop color backgroundColor font original rest
          (horizOffset + tabSpacing * (glyph font '-').boundsWidth) vertOffset
    else
      vidPrintCharAlpha horizOffset vertOffset color c backgroundColor font ++
        printLoop color backgroundColor font original rest
          (horizOffset + (glyph font c).boundsWidth) vertOffset

/-- `vid_print_string_alpha` with a background to fill in. -/
def vidPrintStringAlpha (horizOffset vertOffset : Int) (color backgroundColor : Nat)
    (font : Nat → AbcFont) (string : List Char) : List Write :=
  printLoop color backgroundColor font horizOffset string horizOffset vertOffset

/-! ## The room a text takes -/

/-- The characters that a text may hold: those of the font, space, tab and newline. -/
def Drawable (c : Char) : Prop :=
  33 ≤ c.toNat ∧ c.toNat ≤ 126 ∨ c = ' ' ∨ c = '\t' ∨ c = '\n'

instance : DecidablePred Drawable := fun c =>
  inferInstanceAs (Decidable (33 ≤ c.toNat ∧ c.toNat ≤ 126 ∨ c = ' ' ∨ c = '\t' ∨ c = '\n'))

/-- A text is checked character by character. -/
theorem drawable_of_all {text : List Char} (all : text.all (decide <| Drawable ·) = true) :
    ∀ c ∈ text, Drawable c := by
  intro c mem
  exact of_decide_eq_true (List.all_eq_true.mp all c mem)

/-- The width of a character on its line. -/
def charWidth (font : Nat → AbcFont) (c : Char) : Nat :=
  if c = ' ' then (glyph font '-').boundsWidth
  else if c = '\t' then tabSpacing * (glyph font '-').boundsWidth
  else (glyph font c).boundsWidth

/-- The width of a line. -/
def lineWidth (font : Nat → AbcFont) (line : List Char) : Nat :=
  line.foldr (charWidth font · + ·) 0

end SoundBoard.Graphics
