/-!
# Random draws

A stream of words is fixed by its key, and draws take the words one after another.
-/

namespace IrChart.Random

/-! ## Streams

The ChaCha stream cipher with twelve rounds, used as a source of 32-bit words. The eight words of a
key are spelled by 32 bytes, or a seed is spread over them by a permuted congruential generator.
Word `n` of the stream is word `n % 16` of block `n / 16`. So the stream is a function of key and
position, and nothing else.
-/

/-- The key of a stream. -/
abbrev Key := Vector UInt32 8

/-- The sixteen words that a block is computed from, or the block itself. -/
abbrev Block := Vector UInt32 16

/-- `x` turned left by `n` bits, for `0 < n < 32`. -/
def rotateLeft (x n : UInt32) : UInt32 := (x <<< n) ||| (x >>> (32 - n))

/-- `x` turned right by `n` bits, for `n < 32`. -/
def rotateRight (x n : UInt32) : UInt32 :=
  if n = 0 then x else (x >>> n) ||| (x <<< (32 - n))

/-- One step of the congruential generator behind the key. -/
def seedStep (state : UInt64) : UInt64 := state * 6364136223846793005 + 11634580027462260723

/-- The word of the key that a state of the congruential generator gives: its high bits, turned
right by its five highest bits. -/
def seedWord (state : UInt64) : UInt32 :=
  let mixed := ((((state >>> 18) ^^^ state) >>> 27).toUInt32)
  rotateRight mixed (state >>> 59).toUInt32

/-- The key that a seed stands for. -/
def Key.ofSeed (seed : UInt64) : Key :=
  Vector.ofFn fun i => seedWord (Nat.repeat seedStep (i.val + 1) seed)

/-- The key that 32 bytes spell, four to a word with the low byte first. -/
def Key.ofBytes (bytes : List UInt8) : Key :=
  Vector.ofFn fun i =>
    ((bytes.drop (4 * i)).take 4).foldr (fun byte high => byte.toUInt32 + 256 * high) 0

/-- The four bytes of a word, the low one first. -/
def wordBytes (w : UInt32) : List UInt8 :=
  [w.toUInt8, (w / 256).toUInt8, (w / 65536).toUInt8, (w / 16777216).toUInt8]

theorem foldr_wordBytes (w : UInt32) :
    (wordBytes w).foldr (fun byte high => byte.toUInt32 + 256 * high) 0 = w := by
  apply UInt32.toNat_inj.1
  have bound := w.toNat_lt
  simp [wordBytes]
  omega

theorem drop_flatMap_wordBytes (ws : List UInt32) (i : Nat) :
    (ws.flatMap wordBytes).drop (4 * i) = (ws.drop i).flatMap wordBytes := by
  induction i generalizing ws with
  | zero => rfl
  | succ i ih =>
    cases ws with
    | nil => simp
    | cons w ws =>
      calc ((w :: ws).flatMap wordBytes).drop (4 * (i + 1))
          = (wordBytes w ++ ws.flatMap wordBytes).drop ((wordBytes w).length + 4 * i) := by
            rw [List.flatMap_cons, Nat.mul_succ, Nat.add_comm]; rfl
        _ = (ws.flatMap wordBytes).drop (4 * i) := List.drop_length_add_append ..
        _ = ((w :: ws).drop (i + 1)).flatMap wordBytes := ih ws

/-- Every key is spelled by 32 bytes, so bytes of the system may lead to any stream. -/
theorem Key.exists_ofBytes (key : Key) :
    ∃ bytes : List UInt8, bytes.length = 32 ∧ ofBytes bytes = key := by
  refine ⟨key.toList.flatMap wordBytes, ?_, ?_⟩
  · simp [List.length_flatMap, wordBytes, List.map_const']
  · ext i inside
    have chunk : ((key.toList.flatMap wordBytes).drop (4 * i)).take 4 = wordBytes key[i] := by
      rw [drop_flatMap_wordBytes, List.drop_eq_getElem_cons (by simpa using inside)]
      rfl
    simp [ofBytes, chunk, foldr_wordBytes]

/-- Mixes four words of a block. -/
def quarterRound (a b c d : Fin 16) (s : Block) : Block :=
  let xa := s[a] + s[b]
  let xd := rotateLeft (s[d] ^^^ xa) 16
  let xc := s[c] + xd
  let xb := rotateLeft (s[b] ^^^ xc) 12
  let xa := xa + xb
  let xd := rotateLeft (xd ^^^ xa) 8
  let xc := xc + xd
  let xb := rotateLeft (xb ^^^ xc) 7
  (((s.set a xa).set b xb).set c xc).set d xd

/-- Mixes the columns, then the diagonals, of a block read as a square. -/
def doubleRound (s : Block) : Block :=
  let s := quarterRound 0 4 8 12 s
  let s := quarterRound 1 5 9 13 s
  let s := quarterRound 2 6 10 14 s
  let s := quarterRound 3 7 11 15 s
  let s := quarterRound 0 5 10 15 s
  let s := quarterRound 1 6 11 12 s
  let s := quarterRound 2 7 8 13 s
  quarterRound 3 4 9 14 s

/-- The words that block `n` is computed from: four constants, the key, the number of the block
with its low word first, and two zeros. -/
def blockInput (key : Key) (n : Nat) : Block :=
  #v[0x61707865, 0x3320646e, 0x79622d32, 0x6b206574,
    key[0], key[1], key[2], key[3], key[4], key[5], key[6], key[7],
    UInt32.ofNat n, UInt32.ofNat (n / Nat.pow 2 32), 0, 0]

/-- Block `n` of the stream. -/
def block (key : Key) (n : Nat) : Block :=
  let input := blockInput key n
  Vector.zipWith (· + ·) (Nat.repeat doubleRound 6 input) input

/-- Word `n` of the stream. -/
def word (key : Key) (n : Nat) : UInt32 :=
  (block key (n / 16)).get ⟨n % 16, Nat.mod_lt n (by decide)⟩

/-! ## Generators and draws

A generator is a stream and a position in it. A draw takes words from that position on and moves
the generator past them; how many it takes can be read off the position.
-/

/-- A place in a stream of words. -/
structure Generator where
  key : Key
  position : Nat
  deriving DecidableEq

namespace Generator

/-- The generator at the beginning of the stream of a key. -/
def ofKey (key : Key) : Generator := ⟨key, 0⟩

/-- The generator at the beginning of the stream of a seed. -/
def ofSeed (seed : UInt64) : Generator := ofKey (.ofSeed seed)

/-- The generator `n` words further on. -/
def advance (g : Generator) (n : Nat) : Generator := { g with position := g.position + n }

@[simp] theorem advance_zero (g : Generator) : g.advance 0 = g := rfl

@[simp] theorem advance_advance (g : Generator) (m n : Nat) :
    (g.advance m).advance n = g.advance (m + n) := by
  simp [advance, Nat.add_assoc]

end Generator

/-- A value that depends on random words. -/
abbrev Draw (α : Type) := StateM Generator α

/-- The next word. -/
def nextWord : Draw UInt32 := fun g => (word g.key g.position, g.advance 1)

/-- A byte: the low eight bits of the next word. -/
def byte : Draw UInt8 := do return (← nextWord).toUInt8

/-- The number in `[0, 1)` whose 23 bits after the point are the high bits of `w`. -/
def unitOf (w : UInt32) : Float32 := Float32.ofBits ((w >>> 9) ||| 0x3f800000) - 1

/-- A number from `low` to `high`. -/
def range (low high : Float32) : Draw Float32 := do
  return unitOf (← nextWord) * (high - low) + low

end IrChart.Random
