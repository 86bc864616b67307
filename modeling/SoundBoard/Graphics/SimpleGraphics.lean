/-!
# Filled shapes

The shapes of `simple_graphics.c` that the screens are made of, as the pixels they write, in
order. Nothing in the library clips. A box with round corners is drawn inclusive of its end
point at the top and bottom of its corners, and exclusive of it everywhere else.
-/

namespace SoundBoard.Graphics

/-! ## Pixels and lines -/

/-- A pixel that is written; of its colour the three bytes that the display shows. -/
structure Write where
  horiz : Int
  vert : Int
  color : Nat
  deriving DecidableEq, Repr

/-- Conversion to `unsigned short`. -/
def toUnsignedShort (value : Int) : Int := value % 65536

/-- Conversion to `short`. -/
def toShort (value : Int) : Int := Int.bmod value 65536

/-- `vid_set_pixel` at a colour depth of 32. -/
def vidSetPixel (horiz vert : Int) (color : Nat) : List Write := [⟨horiz, vert, color⟩]

/-- `vid_draw_horiz_line`: the two ends in order, the greater excluded. -/
def vidDrawHorizLine (hstart hend v : Int) (color : Nat) : List Write :=
  let left := if hend < hstart then hend else hstart
  let right := if hend < hstart then hstart else hend
  (List.range (right - left).toNat).map fun (i : Nat) => ⟨left + i, v, color⟩

/-- The loops of `vid_draw_sloped_line`: one axis is stepped always, the other when `P` is
positive. Its coordinates are of type `unsigned short`. -/
def slopedLoop (horizAlways vertAlways horizIncr vertIncr dPr dPru : Int) (color : Nat) :
    Nat → Int → Int → Int → List Write
  | 0, _, _, _ => []
  | left + 1, horiz, vert, p =>
    vidSetPixel horiz vert color ++
      if 0 < p then
        slopedLoop horizAlways vertAlways horizIncr vertIncr dPr dPru color left
          (toUnsignedShort (horiz + horizIncr)) (toUnsignedShort (vert + vertIncr)) (p + dPru)
      else
        slopedLoop horizAlways vertAlways horizIncr vertIncr dPr dPru color left
          (toUnsignedShort (horiz + horizAlways)) (toUnsignedShort (vert + vertAlways)) (p + dPr)

/-- `vid_draw_sloped_line`. -/
def vidDrawSlopedLine (horizStart vertStart horizEnd vertEnd : Int) (color : Nat) : List Write :=
  let horizDelta := (horizEnd - horizStart).natAbs
  let vertDelta := (vertEnd - vertStart).natAbs
  let horizIncr : Int := if horizEnd < horizStart then -1 else 1
  let vertIncr : Int := if vertEnd < vertStart then -1 else 1
  if vertDelta ≤ horizDelta then
    let dPr : Int := vertDelta * 2
    slopedLoop horizIncr 0 horizIncr vertIncr dPr (dPr - horizDelta * 2) color (horizDelta + 1)
      horizStart vertStart (dPr - horizDelta)
  else
    let dPr : Int := horizDelta * 2
    slopedLoop 0 vertIncr horizIncr vertIncr dPr (dPr - vertDelta * 2) color (vertDelta + 1)
      horizStart vertStart (dPr - vertDelta)

/-- `vid_draw_line`; its `width` is not used. -/
def vidDrawLine (horizStart vertStart horizEnd vertEnd : Int) (color : Nat) : List Write :=
  if vertStart = vertEnd then
    vidDrawHorizLine (toShort (toUnsignedShort horizStart)) (toShort (toUnsignedShort horizEnd))
      (toUnsignedShort vertStart) color
  else
    vidDrawSlopedLine (toUnsignedShort horizStart) (toUnsignedShort vertStart)
      (toUnsignedShort horizEnd) (toUnsignedShort vertEnd) color

/-- `vid_paint_block`, called with its ends in order: both ends are excluded. -/
def vidPaintBlock (hstart vstart hend vend : Int) (color : Nat) : List Write :=
  (List.range (vend - vstart).toNat).flatMap fun (i : Nat) =>
    (List.range (hend - hstart).toNat).map fun (j : Nat) => ⟨hstart + j, vstart + i, color⟩

/-! ## Round shapes -/

/-- `vid_round_corner_points`: the points of an octant in all four corners. -/
def vidRoundCornerPoints (cx cy x y straightWidth straightHeight : Int) (color : Nat)
    (fill : Bool) : List Write :=
  if x = 0 then
    vidSetPixel cx (cy + y + straightHeight) color ++
    vidSetPixel (cx + straightWidth) (cy + y + straightHeight) color ++
    vidSetPixel cx (cy - y) color ++
    vidSetPixel (cx + straightWidth) (cy - y) color ++
    if fill then
      vidDrawLine (cx - y) cy (cx + y + straightWidth) cy color ++
      vidDrawLine (cx - y) (cy + straightHeight) (cx + y + straightWidth) (cy + straightHeight)
        color
    else
      vidSetPixel (cx + y + straightWidth) cy color ++
      vidSetPixel (cx + y + straightWidth) (cy + straightHeight) color ++
      vidSetPixel (cx - y) cy color ++
      vidSetPixel (cx - y) (cy + straightHeight) color
  else if x = y then
    if fill then
      vidDrawLine (cx - x) (cy + y + straightHeight) (cx + x + straightWidth)
        (cy + y + straightHeight) color ++
      vidDrawLine (cx - x) (cy - y) (cx + x + straightWidth) (cy - y) color
    else
      vidSetPixel (cx + x + straightWidth) (cy + y + straightHeight) color ++
      vidSetPixel (cx - x) (cy + y + straightHeight) color ++
      vidSetPixel (cx + x + straightWidth) (cy - y) color ++
      vidSetPixel (cx - x) (cy - y) color
  else if x < y then
    if fill then
      vidDrawLine (cx - x) (cy + y + straightHeight) (cx + x + straightWidth)
        (cy + y + straightHeight) color ++
      vidDrawLine (cx - y) (cy + x + straightHeight) (cx + y + straightWidth)
        (cy + x + straightHeight) color ++
      vidDrawLine (cx - y) (cy - x) (cx + y + straightWidth) (cy - x) color ++
      vidDrawLine (cx - x) (cy - y) (cx + x + straightWidth) (cy - y) color
    else
      vidSetPixel (cx + x + straightWidth) (cy + y + straightHeight) color ++
      vidSetPixel (cx - x) (cy + y + straightHeight) color ++
      vidSetPixel (cx + x + straightWidth) (cy - y) color ++
      vidSetPixel (cx - x) (cy - y) color ++
      vidSetPixel (cx + y + straightWidth) (cy + x + straightHeight) color ++
      vidSetPixel (cx - y) (cy + x + straightHeight) color ++
      vidSetPixel (cx + y + straightWidth) (cy - x) color ++
      vidSetPixel (cx - y) (cy - x) color
  else []

/-- The loop of `vid_draw_circle` and `vid_draw_round_corner_box`, from the top of an octant
until its two ends meet. -/
def cornerLoop (points : Nat → Nat → List Write) (x y : Nat) (p : Int) : List Write :=
  if x < y then
    if p < 0 then points (x + 1) y ++ cornerLoop points (x + 1) y (p + (2 * (x + 1) + 1))
    else
      points (x + 1) (y - 1) ++
        cornerLoop points (x + 1) (y - 1) (p + (2 * ((x + 1) - (y - 1)) + 1))
  else []
termination_by y - x

/-- The points of a quarter circle: those of the first octant's top, and those of the loop. -/
def corners (points : Nat → Nat → List Write) (radius : Nat) : List Write :=
  points 0 radius ++ cornerLoop points 0 radius ((5 - (radius : Int) * 4).tdiv 4)

/-- `vid_draw_circle`. -/
def vidDrawCircle (hcenter vcenter : Int) (radius : Nat) (color : Nat) (fill : Bool) :
    List Write :=
  corners (fun x y => vidRoundCornerPoints hcenter vcenter x y 0 0 color fill) radius

/-- `vid_draw_round_corner_box`. -/
def vidDrawRoundCornerBox (horizStart vertStart horizEnd vertEnd : Int) (radius : Nat)
    (color : Nat) (fill : Bool) : List Write :=
  let left := if horizEnd < horizStart then horizEnd else horizStart
  let right := if horizEnd < horizStart then horizStart else horizEnd
  let top := if vertEnd < vertStart then vertEnd else vertStart
  let bottom := if vertEnd < vertStart then vertStart else vertEnd
  let width := (right - left).toNat
  let height := (bottom - top).toNat
  let radius := if width / 2 < radius then width / 2 else radius
  let radius := if height / 2 < radius then height / 2 else radius
  corners (fun x y => vidRoundCornerPoints (left + radius) (top + radius) x y
    (width - radius * 2 : Nat) (height - radius * 2 : Nat) color fill) radius ++
  if fill then vidPaintBlock left (top + radius) right (bottom - radius) color
  else
    vidDrawLine left (top + radius) left (bottom - radius) color ++
    vidDrawLine right (top + radius) right (bottom - radius) color ++
    vidDrawLine (left + radius) top (right - radius) top color ++
    vidDrawLine (left + radius) bottom (right - radius) bottom color

/-! ## Where the shapes lie -/

/-- A pixel of the rectangle with the given sides, all of them included. -/
def Write.Within (left top right bottom : Int) (w : Write) : Prop :=
  left ≤ w.horiz ∧ w.horiz ≤ right ∧ top ≤ w.vert ∧ w.vert ≤ bottom

theorem mem_vidSetPixel {horiz vert : Int} {color : Nat} {w : Write} :
    w ∈ vidSetPixel horiz vert color ↔ w = ⟨horiz, vert, color⟩ := List.mem_singleton

theorem toShort_self {value : Int} (low : 0 ≤ value) (high : value < 32768) :
    toShort (toUnsignedShort value) = value := by
  have small : toUnsignedShort value = value := Int.emod_eq_of_lt low (by omega)
  rw [small]
  apply Int.bmod_eq_of_le
  · omega
  · omega

/-- A horizontal line on the screen writes the pixels from its left end up to its right end. -/
theorem mem_vidDrawLine {left right v : Int} {color : Nat} {w : Write} (low : 0 ≤ left)
    (ends : left ≤ right) (high : right < 32768) (top : 0 ≤ v) (bottom : v < 32768)
    (mem : w ∈ vidDrawLine left v right v color) : w.Within left v (right - 1) v := by
  have leftEnd : toShort (toUnsignedShort left) = left := toShort_self low (by omega)
  have rightEnd : toShort (toUnsignedShort right) = right := toShort_self (by omega) high
  have row : toUnsignedShort v = v := Int.emod_eq_of_lt top (by omega)
  rw [vidDrawLine, if_pos rfl, leftEnd, rightEnd, row, vidDrawHorizLine] at mem
  simp only [if_neg (Int.not_lt.mpr ends), List.mem_map, List.mem_range] at mem
  obtain ⟨i, inside, rfl⟩ := mem
  simp only [Write.Within]
  omega

theorem mem_vidPaintBlock {left top right bottom : Int} {color : Nat} {w : Write}
    (mem : w ∈ vidPaintBlock left top right bottom color) :
    w.Within left top (right - 1) (bottom - 1) := by
  simp only [vidPaintBlock, List.mem_flatMap, List.mem_map, List.mem_range] at mem
  obtain ⟨i, row, j, column, rfl⟩ := mem
  simp only [Write.Within]
  omega

/-- What holds of the pixels of every point of the octant holds of all pixels of the loop: a
point stays in the square of the radius. -/
theorem cornerLoop_forall {holds : Write → Prop} {points : Nat → Nat → List Write} {radius : Nat}
    (each : ∀ x y, x ≤ radius → y ≤ radius → ∀ w ∈ points x y, holds w) (x y : Nat) (p : Int)
    (high : y ≤ radius) : ∀ w ∈ cornerLoop points x y p, holds w := by
  induction x, y, p using cornerLoop.induct with
  | case1 x y p before inner ih =>
    intro w mem
    rw [cornerLoop, if_pos before, if_pos inner, List.mem_append] at mem
    cases mem with
    | inl here => exact each (x + 1) y (by omega) high w here
    | inr later => exact ih high w later
  | case2 x y p before outer ih =>
    intro w mem
    rw [cornerLoop, if_pos before, if_neg outer, List.mem_append] at mem
    have lower : y - 1 ≤ radius := by omega
    cases mem with
    | inl here => exact each (x + 1) (y - 1) (by omega) lower w here
    | inr later => exact ih lower w later
  | case3 x y p met =>
    intro w mem
    rw [cornerLoop, if_neg met] at mem
    exact absurd mem List.not_mem_nil

theorem corners_forall {holds : Write → Prop} {points : Nat → Nat → List Write} {radius : Nat}
    (each : ∀ x y, x ≤ radius → y ≤ radius → ∀ w ∈ points x y, holds w) :
    ∀ w ∈ corners points radius, holds w := by
  intro w mem
  rw [corners, List.mem_append] at mem
  cases mem with
  | inl top => exact each 0 radius (Nat.zero_le _) (Nat.le_refl _) w top
  | inr later => exact cornerLoop_forall each 0 radius _ (Nat.le_refl _) w later

theorem Write.Within.mono {left top right bottom left' top' right' bottom' : Int} {w : Write}
    (within : w.Within left top right bottom) (toLeft : left' ≤ left) (toTop : top' ≤ top)
    (toRight : right ≤ right') (toBottom : bottom ≤ bottom') :
    w.Within left' top' right' bottom' := by
  obtain ⟨l, r, u, d⟩ := within
  exact ⟨Int.le_trans toLeft l, Int.le_trans r toRight, Int.le_trans toTop u,
    Int.le_trans d toBottom⟩

section Corners

variable {left top straightWidth straightHeight : Int} {radius x y : Nat} {color : Nat}

/-- A filled octant point stays between the sides: those of the square around the radius, apart
by the straight parts. -/
theorem roundCornerPoints_within (leftLow : 0 ≤ left) (topLow : 0 ≤ top)
    (wide : 0 ≤ straightWidth) (tall : 0 ≤ straightHeight)
    (rightHigh : left + 2 * radius + straightWidth < 32768)
    (bottomHigh : top + 2 * radius + straightHeight < 32768)
    (xHigh : x ≤ radius) (yHigh : y ≤ radius) :
    ∀ w ∈ vidRoundCornerPoints (left + radius) (top + radius) x y straightWidth straightHeight
      color true,
      w.Within left top (left + 2 * radius + straightWidth)
        (top + 2 * radius + straightHeight) := by
  have line : ∀ {from_ to_ v : Int} {w : Write}, w ∈ vidDrawLine from_ v to_ v color →
      left ≤ from_ → from_ ≤ to_ → to_ ≤ left + 2 * radius + straightWidth → top ≤ v →
      v ≤ top + 2 * radius + straightHeight →
      w.Within left top (left + 2 * radius + straightWidth)
        (top + 2 * radius + straightHeight) := by
    intro from_ to_ v w mem fromLow ends toHigh vLow vHigh
    have here := mem_vidDrawLine (by omega) ends (by omega) (by omega) (by omega) mem
    exact here.mono fromLow vLow (by omega) vHigh
  intro w mem
  rw [vidRoundCornerPoints] at mem
  split at mem
  · simp only [if_true, List.mem_append, mem_vidSetPixel] at mem
    rcases mem with (((rfl | rfl) | rfl) | rfl) | (mem | mem)
    · simp only [Write.Within]; omega
    · simp only [Write.Within]; omega
    · simp only [Write.Within]; omega
    · simp only [Write.Within]; omega
    · exact line mem (by omega) (by omega) (by omega) (by omega) (by omega)
    · exact line mem (by omega) (by omega) (by omega) (by omega) (by omega)
  · split at mem
    · simp only [if_true, List.mem_append] at mem
      rcases mem with mem | mem
      · exact line mem (by omega) (by omega) (by omega) (by omega) (by omega)
      · exact line mem (by omega) (by omega) (by omega) (by omega) (by omega)
    · split at mem
      · simp only [if_true, List.mem_append] at mem
        rcases mem with ((mem | mem) | mem) | mem
        · exact line mem (by omega) (by omega) (by omega) (by omega) (by omega)
        · exact line mem (by omega) (by omega) (by omega) (by omega) (by omega)
        · exact line mem (by omega) (by omega) (by omega) (by omega) (by omega)
        · exact line mem (by omega) (by omega) (by omega) (by omega) (by omega)
      · exact absurd mem List.not_mem_nil

end Corners

/-- A filled circle stays in the square around it. -/
theorem vidDrawCircle_within (hcenter vcenter : Int) (radius color : Nat)
    (leftLow : radius ≤ hcenter) (topLow : radius ≤ vcenter)
    (rightHigh : hcenter + radius < 32768) (bottomHigh : vcenter + radius < 32768) :
    ∀ w ∈ vidDrawCircle hcenter vcenter radius color true,
      w.Within (hcenter - radius) (vcenter - radius) (hcenter + radius) (vcenter + radius) := by
  apply corners_forall
  intro x y xHigh yHigh w mem
  have left : hcenter - radius + radius = hcenter := by omega
  have top : vcenter - radius + radius = vcenter := by omega
  rw [← left, ← top] at mem
  have here := roundCornerPoints_within (by omega) (by omega) (Int.le_refl 0) (Int.le_refl 0)
    (by omega) (by omega) xHigh yHigh w mem
  exact here.mono (Int.le_refl _) (Int.le_refl _) (by omega) (by omega)

section RoundBox

variable {horizStart vertStart horizEnd vertEnd : Int} {radius color : Nat}

/-- A filled box with round corners stays between its end points, both included. -/
theorem vidDrawRoundCornerBox_within (leftLow : 0 ≤ horizStart) (topLow : 0 ≤ vertStart)
    (wide : horizStart ≤ horizEnd) (tall : vertStart ≤ vertEnd) (rightHigh : horizEnd < 32768)
    (bottomHigh : vertEnd < 32768) :
    ∀ w ∈ vidDrawRoundCornerBox horizStart vertStart horizEnd vertEnd radius color true,
      w.Within horizStart vertStart horizEnd vertEnd := by
  intro w mem
  rw [vidDrawRoundCornerBox] at mem
  simp only [if_neg (Int.not_lt.mpr wide), if_neg (Int.not_lt.mpr tall)] at mem
  generalize shrunk : (if (horizEnd - horizStart).toNat / 2 < radius then
    (horizEnd - horizStart).toNat / 2 else radius) = narrow at mem
  generalize shrunkTwice : (if (vertEnd - vertStart).toNat / 2 < narrow then
    (vertEnd - vertStart).toNat / 2 else narrow) = r at mem
  have fits : r * 2 ≤ (horizEnd - horizStart).toNat ∧ r * 2 ≤ (vertEnd - vertStart).toNat := by
    grind
  rw [List.mem_append] at mem
  rcases mem with mem | mem
  · revert w
    apply corners_forall
    intro x y xHigh yHigh w mem
    have here := roundCornerPoints_within leftLow topLow (Int.natCast_nonneg _)
      (Int.natCast_nonneg _) (by omega) (by omega) xHigh yHigh w mem
    exact here.mono (Int.le_refl _) (Int.le_refl _) (by omega) (by omega)
  · have here := mem_vidPaintBlock (by simpa using mem)
    exact here.mono (Int.le_refl _) (by omega) (by omega) (by omega)

/-- The corners start on the row of the end point, which the filled block leaves out. -/
theorem vidDrawRoundCornerBox_bottom (wide : horizStart + 2 * radius ≤ horizEnd)
    (tall : vertStart + 2 * radius ≤ vertEnd) (fill : Bool) :
    ⟨horizStart + radius, vertEnd, color⟩ ∈
      vidDrawRoundCornerBox horizStart vertStart horizEnd vertEnd radius color fill := by
  have ordered : ¬ horizEnd < horizStart := by omega
  have upright : ¬ vertEnd < vertStart := by omega
  have narrow : ¬ (horizEnd - horizStart).toNat / 2 < radius := by omega
  have low : ¬ (vertEnd - vertStart).toNat / 2 < radius := by omega
  have bottom : vertStart + radius + radius + ((vertEnd - vertStart).toNat - radius * 2 : Nat) =
      vertEnd := by omega
  rw [vidDrawRoundCornerBox]
  simp only [if_neg ordered, if_neg upright, if_neg narrow, if_neg low]
  apply List.mem_append_left
  rw [corners]
  apply List.mem_append_left
  rw [vidRoundCornerPoints, if_pos Int.natCast_zero, bottom]
  simp only [List.append_assoc]
  apply List.mem_append_left
  exact mem_vidSetPixel.mpr rfl

end RoundBox

end SoundBoard.Graphics
