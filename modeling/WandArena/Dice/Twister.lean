import WandArena.Number.Scalar

/-! The generator behind every roll: a Mersenne twister of 624 words.

A seed fixes all rolls, so a seeded run replays exactly. Each fraction takes two words
and has fifty-three bits: it is a multiple of `2 ^ -53` from zero up to, not including,
one (`fraction_lt`). -/
namespace WandArena

structure Twister where
  words : Vector UInt32 624
  /-- How many of the words have been handed out. -/
  used : Nat

namespace Twister

private def word (words : Vector UInt32 624) (i : Nat) : UInt32 :=
  words.get ⟨i % 624, Nat.mod_lt _ (by decide)⟩

private def setWord (words : Vector UInt32 624) (i : Nat) (w : UInt32) : Vector UInt32 624 :=
  words.set (i % 624) w (Nat.mod_lt _ (by decide))

/-- Applies a step for `0`, `1`, … below a bound. -/
private def iterate {β : Type} (n : Nat) (step : Nat → β → β) (b : β) : β :=
  (List.range n).foldl (fun b i => step i b) b

/-- The words that follow from one number. -/
def spread (start : UInt32) : Vector UInt32 624 :=
  iterate 623 (fun i words =>
    let before := word words i
    let mixed := (1812433253 : UInt32) * (before ^^^ (before >>> 30))
    setWord words (i + 1) (mixed + UInt32.ofNat (i + 1)))
    (setWord (Vector.replicate 624 0) 0 start)

/-- The 32-bit words of a number, lowest first; at least one. -/
def keyWords (n : Nat) : List UInt32 :=
  if n < 0x100000000 then [UInt32.ofNat n] else UInt32.ofNat n :: keyWords (n / 0x100000000)
termination_by n
decreasing_by omega

/-- The place after `i` in a round that leaves out the first word. The last word is copied
into the first one when the round starts over. -/
private def advance (words : Vector UInt32 624) (i : Nat) : Vector UInt32 624 × Nat :=
  if i + 1 < 624 then (words, i + 1) else (setWord words 0 (word words 623), 1)

/-- Mixes a word with the one before it. -/
private def mixed (words : Vector UInt32 624) (i : Nat) (factor : UInt32) : UInt32 :=
  let before := word words (i - 1)
  word words i ^^^ ((before ^^^ (before >>> 30)) * factor)

/-- The generator of a seed. The sign of the seed does not count. -/
def ofSeed (seed : Int) : Twister :=
  let key := (keyWords seed.natAbs).toArray
  let keyed := iterate (max 624 key.size) (fun k (words, i) =>
    let j := k % key.size
    advance (setWord words i (mixed words i 1664525 + key[j]?.getD 0 + UInt32.ofNat j)) i)
    (spread 19650218, 1)
  let (words, _) := iterate 623 (fun _ (words, i) =>
    advance (setWord words i (mixed words i 1566083941 - UInt32.ofNat i)) i) keyed
  ⟨setWord words 0 0x80000000, 624⟩

/-- A fresh set of words. -/
private def renew (words : Vector UInt32 624) : Vector UInt32 624 :=
  iterate 624 (fun i words =>
    let joined := (word words i &&& 0x80000000) ||| (word words (i + 1) &&& 0x7fffffff)
    let twist : UInt32 := if joined &&& 1 = 0 then 0 else 0x9908b0df
    setWord words i (word words (i + 397) ^^^ (joined >>> 1) ^^^ twist)) words

private def temper (w : UInt32) : UInt32 :=
  let w := w ^^^ (w >>> 11)
  let w := w ^^^ ((w <<< 7) &&& 0x9d2c5680)
  let w := w ^^^ ((w <<< 15) &&& 0xefc60000)
  w ^^^ (w >>> 18)

/-- The next word. -/
def next (t : Twister) : UInt32 × Twister :=
  if t.used < 624 then (temper (word t.words t.used), { t with used := t.used + 1 })
  else
    let words := renew t.words
    (temper (word words 0), ⟨words, 1⟩)

/-- The number of fractions that can come up: two to the fifty-third. -/
def fractions : Nat := 0x20000000000000

/-- The next fraction, as a count of the `fractions` parts of one: twenty-seven bits of one
word, then twenty-six of another. -/
def fraction (t : Twister) : Nat × Twister :=
  let (high, t) := t.next
  let (low, t) := t.next
  ((high >>> 5).toNat <<< 26 + (low >>> 6).toNat, t)

theorem fraction_lt (t : Twister) : t.fraction.1 < fractions := by
  have hhigh : ∀ w : UInt32, (w >>> 5).toNat < 0x8000000 := by
    intro w
    have := w.toNat_lt
    rw [UInt32.toNat_shiftRight, Nat.shiftRight_eq_div_pow]
    change w.toNat / 2 ^ 5 < 0x8000000
    omega
  have hlow : ∀ w : UInt32, (w >>> 6).toNat < 0x4000000 := by
    intro w
    have := w.toNat_lt
    rw [UInt32.toNat_shiftRight, Nat.shiftRight_eq_div_pow]
    change w.toNat / 2 ^ 6 < 0x4000000
    omega
  have h₁ := hhigh t.next.1
  have h₂ := hlow t.next.2.next.1
  simp only [fraction, fractions, Nat.shiftLeft_eq]
  omega

variable {α : Type} [Scalar α]

/-- The next roll, from zero up to, not including, one. -/
def roll (t : Twister) : α × Twister :=
  let (count, t) := t.fraction
  (Quantity.whole count / Quantity.whole fractions, t)

end Twister

/-- The quantity that a roll picks between two bounds. -/
def between {α : Type} [Scalar α] (low high roll : α) : α := low + (high - low) * roll

end WandArena
