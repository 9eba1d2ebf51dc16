/-!
# Sources of random words

Whatever is random in a run comes from a source of 32-bit words. A source is a state,
and drawing a word gives a new state; so the same source always gives the same run.

A cyclic source repeats a given list of words. A counted source also says how many
words have been drawn from it.
-/

set_option autoImplicit false

namespace EventNet.Random

/-- States from which words can be drawn. -/
class WordSource (σ : Type) where
  /-- Draws a word. -/
  next : σ → UInt32 × σ

/-- A list of words that starts again when it is used up. -/
structure Cycle where
  words : List UInt32
  remaining : List UInt32

namespace Cycle

/-- The cycle through a list of words. -/
def ofWords (words : List UInt32) : Cycle := { words, remaining := words }

/-- Draws a word. A cycle through no words gives zeros. -/
def next (cycle : Cycle) : UInt32 × Cycle :=
  match cycle.remaining with
  | word :: remaining => (word, { cycle with remaining })
  | [] =>
    match cycle.words with
    | word :: remaining => (word, { cycle with remaining })
    | [] => (0, cycle)

instance : WordSource Cycle := ⟨next⟩

end Cycle

/-- A source and the number of words drawn from it. -/
structure Counted (σ : Type) where
  source : σ
  drawn : Nat := 0

instance {σ : Type} [WordSource σ] : WordSource (Counted σ) where
  next counted :=
    let (word, source) := WordSource.next counted.source
    (word, { source, drawn := counted.drawn + 1 })

/-- One of two sources. -/
instance {σ τ : Type} [WordSource σ] [WordSource τ] : WordSource (σ ⊕ τ) where
  next
    | .inl source =>
      let (word, source) := WordSource.next source
      (word, .inl source)
    | .inr source =>
      let (word, source) := WordSource.next source
      (word, .inr source)

end EventNet.Random
