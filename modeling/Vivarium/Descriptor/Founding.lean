import Vivarium.Descriptor.Bounds

/-!
# Descriptors of founders

A founder's descriptor is drawn field by field: the architecture, the layers,
the width, and then the heads or the kernel. Widths are powers of two and
kernels odd wherever the range has such a count. The result is clamped, which
moves nothing for bounds that are in order. The arithmetic on the way is that of
words of 32 bits, and a number that does not fit one is a fault.
-/

namespace Vivarium

namespace Random.Draw

/-- The powers of two in a range. -/
def powersIn (span : Span) : Except Fault (List UInt32) := do
  let powers ← (List.range 32).mapM fun e => fit (Nat.pow 2 e)
  return powers.filter span.holds

/-- A width: a power of two, if the range has one. -/
def width (span : Span) : Draw UInt32 := do
  match ← choose (← powersIn span) with
  | some power => return power
  | none => between span.low span.high

/-- The least odd count not below `n`. -/
def leastOdd (n : UInt32) : UInt32 :=
  n ||| 1

/-- A kernel size: odd, if the range has an odd count. -/
def kernel (span : Span) : Draw UInt32 := do
  let first := leastOdd span.low
  if span.high < first then between span.low span.high
  else
    -- From an odd count on, every second one is odd; the last step ends at `high` or one below.
    let room ← fit (span.high.toNat - first.toNat)
    let steps ← between 0 (room / 2)
    let twice ← fit (2 * steps.toNat)
    fit (first.toNat + twice.toNat)

/-- A descriptor of a drawn architecture within bounds. -/
def descriptor (bounds : Bounds) : Draw Descriptor := do
  -- Accepted bounds list a kind and a head count, so neither fallback is ever taken.
  let kind := (← choose bounds.kinds).getD .recurrent
  let layers ← between bounds.layers.low bounds.layers.high
  let width ← width bounds.width
  let drawn ← match kind with
    | .attention => pure (.attention layers width ((← choose bounds.heads).getD 1))
    | .recurrent => pure (.recurrent layers width)
    | .convolutional => pure (.convolutional layers width (← kernel bounds.kernel))
  bounds.clamp drawn

end Random.Draw

end Vivarium
