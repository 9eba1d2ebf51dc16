import EventNet.Random.Source

/-!
# The seeded source

The words of a seeded source are the key stream of the ChaCha cipher with twelve
rounds, for a key that a linear congruence makes from the seed.

The cipher works on four rows of four words. A round mixes the four words of every
column; a double round does so twice, the second time along the diagonals.
-/

set_option autoImplicit false

namespace EventNet.Random

/-- A word turned left by a number of bits. -/
def turnLeft (word : UInt32) (bits : UInt32) : UInt32 :=
  (word <<< bits) ||| (word >>> (32 - bits))

/-- A row of four words. -/
structure Row where
  first : UInt32
  second : UInt32
  third : UInt32
  fourth : UInt32

namespace Row

/-- The words in order. -/
def toList (row : Row) : List UInt32 := [row.first, row.second, row.third, row.fourth]

/-- The row turned left by one word. -/
def turn (row : Row) : Row :=
  { first := row.second, second := row.third, third := row.fourth, fourth := row.first }

/-- The word-wise sum of two rows. -/
def add (left right : Row) : Row :=
  { first := left.first + right.first
    second := left.second + right.second
    third := left.third + right.third
    fourth := left.fourth + right.fourth }

/-- The word-wise difference, bit by bit, of two rows, turned left by a number of bits. -/
def mix (bits : UInt32) (left right : Row) : Row :=
  { first := turnLeft (left.first ^^^ right.first) bits
    second := turnLeft (left.second ^^^ right.second) bits
    third := turnLeft (left.third ^^^ right.third) bits
    fourth := turnLeft (left.fourth ^^^ right.fourth) bits }

end Row

/-- Four rows of four words. -/
structure Square where
  top : Row
  upper : Row
  lower : Row
  bottom : Row

namespace Square

/-- The words in order. -/
def toList (square : Square) : List UInt32 :=
  square.top.toList ++ square.upper.toList ++ square.lower.toList ++ square.bottom.toList

/-- The word-wise sum of two squares. -/
def add (left right : Square) : Square :=
  { top := left.top.add right.top
    upper := left.upper.add right.upper
    lower := left.lower.add right.lower
    bottom := left.bottom.add right.bottom }

/-- Mixes the four words of every column. -/
def mixColumns (square : Square) : Square :=
  let top := square.top.add square.upper
  let bottom := square.bottom.mix 16 top
  let lower := square.lower.add bottom
  let upper := square.upper.mix 12 lower
  let top := top.add upper
  let bottom := bottom.mix 8 top
  let lower := lower.add bottom
  let upper := upper.mix 7 lower
  { top, upper, lower, bottom }

/-- Turns the rows so that the diagonals become columns. -/
def alignDiagonals (square : Square) : Square :=
  { square with
    upper := square.upper.turn
    lower := square.lower.turn.turn
    bottom := square.bottom.turn.turn.turn }

/-- Turns the rows back. -/
def alignColumns (square : Square) : Square :=
  { square with
    upper := square.upper.turn.turn.turn
    lower := square.lower.turn.turn
    bottom := square.bottom.turn }

/-- Mixes the columns and then the diagonals. -/
def doubleRound (square : Square) : Square :=
  square.mixColumns.alignDiagonals.mixColumns.alignColumns

/-- So many double rounds. -/
def doubleRounds (square : Square) : Nat → Square
  | 0 => square
  | rounds + 1 => square.doubleRound.doubleRounds rounds

/-- A block of the key stream: the square after all rounds, added to the square before. -/
def block (square : Square) : List UInt32 := ((square.doubleRounds 6).add square).toList

end Square

/-- The first row of every square. -/
def constants : Row :=
  { first := 0x61707865, second := 0x3320646e, third := 0x79622d32, fourth := 0x6b206574 }

/-- A key of eight words. -/
structure ChaChaKey where
  upper : Row
  lower : Row

/-- The square for a block of the key stream. -/
def ChaChaKey.square (key : ChaChaKey) (count : UInt64) : Square :=
  { top := constants
    upper := key.upper
    lower := key.lower
    bottom :=
      { first := count.toUInt32, second := (count >>> 32).toUInt32, third := 0, fourth := 0 } }

/-! ## Keys from seeds -/

/-- The next state of the congruence that expands a seed. -/
def expandState (state : UInt64) : UInt64 :=
  state * 6364136223846793005 + 11634580027462260723

/-- The word that a state of the congruence gives. -/
def expandWord (state : UInt64) : UInt32 :=
  let word := (((state >>> 18) ^^^ state) >>> 27).toUInt32
  let turn := (state >>> 59).toUInt32
  (word >>> turn) ||| (word <<< ((32 - turn) &&& 31))

/-- Four words of an expanded seed, and the state behind them. -/
def expandRow (state : UInt64) : Row × UInt64 :=
  let first := expandState state
  let second := expandState first
  let third := expandState second
  let fourth := expandState third
  ({ first := expandWord first, second := expandWord second
     third := expandWord third, fourth := expandWord fourth }, fourth)

/-- The key that a seed stands for. -/
def ChaChaKey.ofSeed (seed : UInt64) : ChaChaKey :=
  let (upper, state) := expandRow seed
  let (lower, _) := expandRow state
  { upper, lower }

/-! ## The key stream as a source -/

/-- A key stream: the words of the present block that are left, and the next block. -/
structure ChaCha where
  key : ChaChaKey
  count : UInt64 := 0
  remaining : List UInt32 := []

namespace ChaCha

/-- The source for a seed. -/
def ofSeed (seed : UInt64) : ChaCha := { key := .ofSeed seed }

/-- Draws a word. -/
def next (stream : ChaCha) : UInt32 × ChaCha :=
  match stream.remaining with
  | word :: remaining => (word, { stream with remaining })
  | [] =>
    let block := (stream.key.square stream.count).block
    (block.headD 0, { stream with count := stream.count + 1, remaining := block.tail })

instance : WordSource ChaCha := ⟨next⟩

end ChaCha

end EventNet.Random
