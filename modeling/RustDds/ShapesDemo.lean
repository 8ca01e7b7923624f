import RustDds.Structure

/-!
# The writer of the shapes demo

`examples/async_shapes_demo` publishes a shape that moves over a drawing area of
`DA_WIDTH × DA_HEIGHT` pixels. Its write loop keeps the last sample and two velocities, and on
each tick `move_shape` moves the shape by its velocities and bounces it off the edges; the
shape it returns is written to the topic. The arithmetic is on `i32`s, which a release build
wraps and a debug build checks.

* `bounce_inside` — one axis of `move_shape`: from a position whose sum with the velocity is an
  `i32`, the new position lies between `half_size` and the far edge less `half_size`, and the
  velocity keeps its magnitude;
* `Moving.tick` — a tick keeps the loop `Moving`: the shape inside the area, with its
  colour and size, and each velocity the initial one or its opposite;
* `published_shapes_stay_inside` — from any start whose position and velocities are at most
  `2^30` in size, with a shape no larger than the area, every shape the loop publishes lies
  inside the area, no addition or negation leaves the `i32` range (so a debug build never
  panics), and the velocities never change magnitude, so a moving shape never stops.

The demo starts at the corner `(0, 0)`, outside the area, with size 21 and velocities drawn
from `1..5` or `-5..-1`; its first tick puts the shape inside.
-/

namespace RustDds

namespace ShapesDemo

/-- `Shape`: the sample of the demo's topic, keyed by its colour. -/
structure Shape where
  color : String
  x : Int
  y : Int
  shapesize : Int
  deriving DecidableEq, Repr

/-- `DA_WIDTH`. -/
def daWidth : Int := 240

/-- `DA_HEIGHT`. -/
def daHeight : Int := 270

/-- `shape.shapesize / 2 + 1` of `move_shape`: `i32` division rounds toward zero. -/
def Shape.halfSize (shape : Shape) : Int := wrapI32 (shape.shapesize.tdiv 2 + 1)

/-- One axis of `move_shape`, the same code for `x` against `DA_WIDTH` and `y` against
`DA_HEIGHT`: the position moved by the velocity, pulled back to `half_size` or to
`limit - half_size` past an edge, and the velocity, reversed when the position was pulled
back. -/
def bounce (pos v halfSize limit : Int) : Int × Int :=
  let p := wrapI32 (pos + v)
  let (p, vNew) := if p < halfSize then (halfSize, wrapI32 (-v)) else (p, v)
  if p > wrapI32 (limit - halfSize) then (wrapI32 (limit - halfSize), wrapI32 (-v)) else (p, vNew)

/-- `move_shape`: the moved shape and the new velocities. -/
def moveShape (shape : Shape) (xv yv : Int) : Shape × Int × Int :=
  let (x, xvNew) := bounce shape.x xv shape.halfSize daWidth
  let (y, yvNew) := bounce shape.y yv shape.halfSize daHeight
  ({ shape with x := x, y := y }, xvNew, yvNew)

/-- The state of the write loop: the last sample and the velocities. -/
structure WriteLoop where
  shapeSample : Shape
  xVel : Int
  yVel : Int

/-- One tick of the write loop: `move_shape`, whose shape is then written. -/
def WriteLoop.tick (s : WriteLoop) : WriteLoop :=
  let r := moveShape s.shapeSample s.xVel s.yVel
  ⟨r.1, r.2.1, r.2.2⟩

/-- The half size of a shape of size `0 ≤ shapesize`, as the source computes it. -/
theorem halfSize_eq {shape : Shape} (h₀ : 0 ≤ shape.shapesize) (h₁ : shape.shapesize ≤ 238) :
    shape.halfSize = shape.shapesize / 2 + 1 := by
  rw [Shape.halfSize, Int.tdiv_eq_ediv h₀ (by decide)]
  exact wrapI32_of_lt (by omega) (by omega)

/-- **One axis bounces inside.** If `pos + v` is an `i32` and `v` is not `i32::MIN`, for a half
size `1 ≤ h` with `2h ≤ limit ≤ 2^30`, the new position lies in `[h, limit - h]` and the new
velocity is `v` or `-v`. -/
theorem bounce_inside (pos v h limit : Int)
    (hsum : -2147483648 ≤ pos + v ∧ pos + v < 2147483648)
    (hv : -2147483648 < v ∧ v < 2147483648) (hh : 1 ≤ h) (hlim : 2 * h ≤ limit)
    (hlim' : limit ≤ 1073741824) :
    h ≤ (bounce pos v h limit).1 ∧ (bounce pos v h limit).1 ≤ limit - h ∧
      ((bounce pos v h limit).2 = v ∨ (bounce pos v h limit).2 = -v) := by
  have hp : wrapI32 (pos + v) = pos + v := wrapI32_of_lt hsum.1 hsum.2
  have hneg : wrapI32 (-v) = -v := wrapI32_of_lt (by omega) (by omega)
  have hedge : wrapI32 (limit - h) = limit - h := wrapI32_of_lt (by omega) (by omega)
  simp only [bounce, hp, hneg, hedge]
  split_ifs <;> omega

/-- The loop is moving: the shape keeps the start's colour and size and lies inside the area,
and each velocity is the start's or its opposite. -/
structure Moving (s₀ s : WriteLoop) : Prop where
  color_eq : s.shapeSample.color = s₀.shapeSample.color
  shapesize_eq : s.shapeSample.shapesize = s₀.shapeSample.shapesize
  x_mem : s.shapeSample.halfSize ≤ s.shapeSample.x ∧
    s.shapeSample.x ≤ daWidth - s.shapeSample.halfSize
  y_mem : s.shapeSample.halfSize ≤ s.shapeSample.y ∧
    s.shapeSample.y ≤ daHeight - s.shapeSample.halfSize
  xVel_eq : s.xVel = s₀.xVel ∨ s.xVel = -s₀.xVel
  yVel_eq : s.yVel = s₀.yVel ∨ s.yVel = -s₀.yVel

/-- A start the theorem covers: a shape that fits the area, and a position and velocities
below `2^30` in size. -/
structure Start (s₀ : WriteLoop) : Prop where
  shapesize_mem : 0 ≤ s₀.shapeSample.shapesize ∧ s₀.shapeSample.shapesize ≤ 238
  x_mem : -1073741824 < s₀.shapeSample.x ∧ s₀.shapeSample.x < 1073741824
  y_mem : -1073741824 < s₀.shapeSample.y ∧ s₀.shapeSample.y < 1073741824
  xVel_mem : -1073741824 < s₀.xVel ∧ s₀.xVel < 1073741824
  yVel_mem : -1073741824 < s₀.yVel ∧ s₀.yVel < 1073741824

/-- The `i32` operations of a tick from `s` that can leave the range stay in it: the two sums
and the two negations. -/
def TickFits (s : WriteLoop) : Prop :=
  (-2147483648 ≤ s.shapeSample.x + s.xVel ∧ s.shapeSample.x + s.xVel < 2147483648) ∧
  (-2147483648 ≤ s.shapeSample.y + s.yVel ∧ s.shapeSample.y + s.yVel < 2147483648) ∧
  -2147483648 < s.xVel ∧ -2147483648 < s.yVel

variable {s₀ s : WriteLoop}

/-- **One tick.** A state of the start's colour and size, with a position below `2^30` in size
and the start's velocities up to sign, ticks within the `i32` range into a moving state. -/
theorem WriteLoop.tick_moving_of_lt (hs₀ : Start s₀)
    (hc : s.shapeSample.color = s₀.shapeSample.color)
    (hsz : s.shapeSample.shapesize = s₀.shapeSample.shapesize)
    (hx : -1073741824 < s.shapeSample.x ∧ s.shapeSample.x < 1073741824)
    (hy : -1073741824 < s.shapeSample.y ∧ s.shapeSample.y < 1073741824)
    (hxv : s.xVel = s₀.xVel ∨ s.xVel = -s₀.xVel) (hyv : s.yVel = s₀.yVel ∨ s.yVel = -s₀.yVel) :
    TickFits s ∧ Moving s₀ s.tick := by
  have hsize := hs₀.shapesize_mem
  have hhalf := halfSize_eq (hsz ▸ hsize.1) (hsz ▸ hsize.2)
  have hxv' : -1073741824 < s.xVel ∧ s.xVel < 1073741824 := by have := hs₀.xVel_mem; omega
  have hyv' : -1073741824 < s.yVel ∧ s.yVel < 1073741824 := by have := hs₀.yVel_mem; omega
  obtain ⟨hx₁, hx₂, hxb⟩ := bounce_inside s.shapeSample.x s.xVel s.shapeSample.halfSize daWidth
    (by omega) (by omega) (by omega) (by unfold daWidth; omega) (by unfold daWidth; omega)
  obtain ⟨hy₁, hy₂, hyb⟩ := bounce_inside s.shapeSample.y s.yVel s.shapeSample.halfSize daHeight
    (by omega) (by omega) (by omega) (by unfold daHeight; omega) (by unfold daHeight; omega)
  refine ⟨⟨by omega, by omega, by omega, by omega⟩, hc, hsz, ⟨hx₁, hx₂⟩, ⟨hy₁, hy₂⟩, ?_, ?_⟩
  · show (bounce s.shapeSample.x s.xVel s.shapeSample.halfSize daWidth).2 = s₀.xVel ∨
      (bounce s.shapeSample.x s.xVel s.shapeSample.halfSize daWidth).2 = -s₀.xVel
    omega
  · show (bounce s.shapeSample.y s.yVel s.shapeSample.halfSize daHeight).2 = s₀.yVel ∨
      (bounce s.shapeSample.y s.yVel s.shapeSample.halfSize daHeight).2 = -s₀.yVel
    omega

/-- A moving state ticks within the `i32` range into a moving state. -/
theorem Moving.tick (hs₀ : Start s₀) (h : Moving s₀ s) : TickFits s ∧ Moving s₀ s.tick := by
  have hsize := h.shapesize_eq ▸ hs₀.shapesize_mem
  have hhalf := halfSize_eq hsize.1 hsize.2
  have hx := h.x_mem
  have hy := h.y_mem
  unfold daWidth at hx; unfold daHeight at hy
  exact WriteLoop.tick_moving_of_lt hs₀ h.color_eq h.shapesize_eq (by omega) (by omega)
    h.xVel_eq h.yVel_eq

/-- **The shapes the demo publishes stay inside the area.** From a start with a shape that fits
the area and a position and velocities below `2^30` in size, every tick of the write loop stays
within the `i32` range, and every shape it publishes keeps its colour and size, lies inside the
area, and moves with the start's velocities up to sign. -/
theorem published_shapes_stay_inside (hs₀ : Start s₀) (n : Nat) :
    TickFits (WriteLoop.tick^[n] s₀) ∧ Moving s₀ (WriteLoop.tick^[n + 1] s₀) := by
  induction n with
  | zero =>
    exact WriteLoop.tick_moving_of_lt hs₀ rfl rfl hs₀.x_mem hs₀.y_mem (.inl rfl) (.inl rfl)
  | succ n ih =>
    rw [Function.iterate_succ_apply' _ (n + 1)]
    exact ih.2.tick hs₀

/-- The demo's own start: a blue shape of size 21 at the corner, moving by 3 and -2. -/
theorem example_published_shapes_stay_inside :
    Start ⟨⟨"BLUE", 0, 0, 21⟩, 3, -2⟩ ∧ ∀ n,
      TickFits (WriteLoop.tick^[n] ⟨⟨"BLUE", 0, 0, 21⟩, 3, -2⟩) ∧
        Moving ⟨⟨"BLUE", 0, 0, 21⟩, 3, -2⟩ (WriteLoop.tick^[n + 1] ⟨⟨"BLUE", 0, 0, 21⟩, 3, -2⟩) :=
  have hs₀ : Start ⟨⟨"BLUE", 0, 0, 21⟩, 3, -2⟩ :=
    ⟨by decide, by decide, by decide, by decide, by decide⟩
  ⟨hs₀, published_shapes_stay_inside hs₀⟩

end ShapesDemo

end RustDds
