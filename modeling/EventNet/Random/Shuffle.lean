import EventNet.Random.Source

/-!
# Random numbers and random orders

A number below a bound is the upper half of the product of a word and the bound; if the
lower half is so large that a second word could change the upper half, that word is
drawn as well.

A list is shuffled from front to back: every element is swapped with one of those up to
itself. One random number serves several swaps. It is drawn below the product of as
many successive sizes as fit into 32 bits, and is then divided by them one by one.
-/

set_option autoImplicit false

namespace EventNet.Random

variable {σ α : Type}

/-- The number of different words. -/
def wordCount : Nat := Nat.pow 2 32

/-- A random number below a bound. -/
def below [WordSource σ] (bound : Nat) (source : σ) : Nat × σ :=
  let (word, source) := WordSource.next source
  let product := word.toNat * bound
  let upper := product / wordCount
  let lower := product % wordCount
  if wordCount - bound < lower then
    let (more, source) := WordSource.next source
    let carried := lower + more.toNat * bound / wordCount
    (if wordCount ≤ carried then upper + 1 else upper, source)
  else (upper, source)

/-- A random number that is used up by dividing it. -/
structure Chunk where
  value : Nat := 0
  /-- How many divisions it still serves. -/
  left : Nat := 1

/-- Multiplies `product` by the sizes from `size` on while the product stays below the
number of words, and gives the first size left out. -/
def widen (product size : Nat) : Nat → Nat × Nat
  | 0 => (product, size)
  | fuel + 1 =>
    if product * size < wordCount then widen (product * size) (size + 1) fuel
    else (product, size)

/-- The chunk for a size: the one in use, or a new one if that is used up. The number of
words bounds how often a product can be widened, as it at least doubles each time. -/
def refill [WordSource σ] (size : Nat) (chunk : Chunk) (source : σ) : Chunk × σ :=
  if chunk.left = 0 then
    let (bound, last) := widen size (size + 1) 32
    let (value, source) := below bound source
    ({ value, left := last - size }, source)
  else (chunk, source)

/-- A random position below a size, taken from the chunk. -/
def Chunk.take (chunk : Chunk) (size : Nat) : Nat × Chunk :=
  if chunk.left ≤ 1 then (chunk.value, { value := chunk.value, left := 0 })
  else
    (chunk.value % size, { value := chunk.value / size, left := chunk.left - 1 })

/-- Swaps the elements from position `done` on, so many as are still to do. -/
def shuffleFrom [WordSource σ] (items : Array α) (done : Nat) (chunk : Chunk) (source : σ) :
    Nat → Array α × σ
  | 0 => (items, source)
  | toDo + 1 =>
    let (chunk, source) := refill (done + 1) chunk source
    let (position, chunk) := chunk.take (done + 1)
    shuffleFrom (items.swapIfInBounds done position) (done + 1) chunk source toDo

/-- The list in a random order. -/
def shuffle [WordSource σ] (items : List α) (source : σ) : List α × σ :=
  let (shuffled, source) := shuffleFrom items.toArray 0 {} source items.length
  (shuffled.toList, source)

end EventNet.Random
