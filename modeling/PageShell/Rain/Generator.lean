/-!
# Random numbers

A small generator of 64-bit numbers: a counter with a fixed stride, scrambled
by one wide product.

* `Generator.next` — the next number;
* `Generator.below` — a number below a bound, every one equally likely;
* `Generator.chance` — whether an event of a given probability happens.
-/

namespace PageShell

/-- **A generator of random numbers**: its counter. -/
structure Generator where
  /-- the counter -/
  state : UInt64
  deriving DecidableEq, Repr

namespace Generator

/-- The number of different states. Within so many steps the counter takes each value once. -/
def period : Nat := Nat.pow 2 64

/-- The next number, below `period`. The two halves of the product of the counter and its mask are
folded into one. -/
def next (g : Generator) : Nat × Generator :=
  let state := g.state + 0x2d358dccaa6c78a5
  let product := state.toNat * (state ^^^ 0x8bb84b93962eacc9).toNat
  ((product % period) ^^^ (product / period), ⟨state⟩)

/-- Draws numbers until one passes the test, at most `tries` times after the first. -/
def redraw (accept : Nat → Bool) : Nat → Generator → Nat × Generator
  | 0, g => g.next
  | tries + 1, g =>
    let (r, g') := g.next
    if accept r then (r, g') else redraw accept tries g'

/-- **A number below `bound`.** A draw is scaled down to the bound; the few draws that would make
some results likelier than others are thrown away. -/
def below (bound : Nat) (g : Generator) : Nat × Generator :=
  let surplus := (period - bound) % bound
  let (r, g') := redraw (fun r => surplus ≤ r * bound % period) period g
  (r * bound / period, g')

/-- A number in 53 significant bits, the nearest one; of two equally near the even one. -/
def roundToDouble (n : Nat) : Nat :=
  if n < Nat.pow 2 53 then n
  else
    let unit := Nat.pow 2 (n.log2 - 52)
    let quotient := n / unit
    let remainder := n % unit
    if unit < 2 * remainder ∨ (unit = 2 * remainder ∧ quotient % 2 = 1) then (quotient + 1) * unit
    else quotient * unit

/-- The number of parts that a unit interval is divided into to draw a fraction. -/
def fractionParts : Nat := Nat.pow 2 63

/-- The number of parts, rounded, that a draw makes a fraction of. -/
def fraction (r : Nat) : Nat :=
  roundToDouble (r / 2)

/-- **Whether an event happens** that happens for fractions below `parts / fractionParts`. A
fraction that rounds to one is drawn again. -/
def chance (parts : Nat) (g : Generator) : Bool × Generator :=
  let (r, g') := redraw (fun r => fraction r != fractionParts) period g
  (fraction r < parts, g')

end Generator

end PageShell
