/-!
# SHA-2

SHA-256, SHA-384 and SHA-512 are one construction over 32-bit or 64-bit
words. `Family` holds what differs: the word operations, the number of
rounds and the constants. The constants are the leading fractional bits
of the cube roots, and the initial states those of the square roots, of
the first primes, so they are computed here and not listed.
-/

namespace SignOn

namespace Sha2

/-! ## Constants -/

/-- The first `n` numbers from `k` on that no smaller prime divides. -/
def primesFrom : (fuel n k : Nat) → (found : List Nat) → List Nat
  | 0, _, _, found => found.reverse
  | _ + 1, 0, _, found => found.reverse
  | fuel + 1, n + 1, k, found =>
    if found.any fun p => k % p = 0 then primesFrom fuel (n + 1) (k + 1) found
    else primesFrom fuel n (k + 1) (k :: found)

/-- The first eighty primes; the last of them is 409. -/
def primes : List Nat :=
  primesFrom 410 80 2 []

/-- The largest `r` below `lo + 2 ^ bits`, and not below `lo`, whose
`k`-th power is at most `n`. -/
def rootFrom (k n : Nat) : (bits lo : Nat) → Nat
  | 0, lo => lo
  | bits + 1, lo =>
    let mid := lo + 1 <<< bits
    if mid.pow k ≤ n then rootFrom k n bits mid else rootFrom k n bits lo

/-- The first 64 fractional bits of the `k`-th root of a prime. -/
def rootBits (k p : Nat) : Nat :=
  rootFrom k (p <<< (64 * k)) 72 0 % 0x10000000000000000

/-! ## One construction, two word sizes -/

/-- The chaining state: eight words. -/
structure State (W : Type) where
  a : W
  b : W
  c : W
  d : W
  e : W
  f : W
  g : W
  h : W

/-- The words of a state, in order. -/
def State.toList {W : Type} (s : State W) : List W :=
  [s.a, s.b, s.c, s.d, s.e, s.f, s.g, s.h]

/-- What a word size decides. -/
structure Family (W : Type) where
  /-- Bytes in a word. -/
  wordBytes : Nat
  ofNat : Nat → W
  toNat : W → Nat
  bigSigma₀ : W → W
  bigSigma₁ : W → W
  smallSigma₀ : W → W
  smallSigma₁ : W → W
  /-- One constant a round. -/
  constants : List W

section

variable {W : Type} [Add W] [AndOp W] [XorOp W] [Complement W]

/-- One round with the sum of its message word and constant. -/
@[specialize]
def State.round (F : Family W) (s : State W) (kw : W) : State W :=
  let choice := (s.e &&& s.f) ^^^ (~~~s.e &&& s.g)
  let t₁ := s.h + F.bigSigma₁ s.e + choice + kw
  let majority := (s.a &&& s.b) ^^^ (s.a &&& s.c) ^^^ (s.b &&& s.c)
  let t₂ := F.bigSigma₀ s.a + majority
  ⟨t₁ + t₂, s.a, s.b, s.c, s.d + t₁, s.e, s.f, s.g⟩

/-- The wordwise sum of two states. -/
def State.add (s t : State W) : State W :=
  ⟨s.a + t.a, s.b + t.b, s.c + t.c, s.d + t.d, s.e + t.e, s.f + t.f, s.g + t.g, s.h + t.h⟩

/-- Extends the sixteen words of a block by `n` further ones. -/
@[specialize]
def schedule (F : Family W) : Nat → Array W → Array W
  | 0, w => w
  | n + 1, w =>
    let word (back : Nat) : W := w.getD (w.size - back) (F.ofNat 0)
    schedule F n
      (w.push (F.smallSigma₁ (word 2) + word 7 + F.smallSigma₀ (word 15) + word 16))

/-- The number that a list of bytes writes, most significant byte first. -/
def bigEndian (bytes : List UInt8) : Nat :=
  bytes.foldl (fun n b => n * 256 + b.toNat) 0

/-- A number as that many bytes, most significant byte first. -/
def toBigEndian : (count n : Nat) → List UInt8
  | 0, _ => []
  | count + 1, n => UInt8.ofNat (n >>> (8 * count)) :: toBigEndian count n

/-- Cuts a list into `n` pieces of `size`. -/
def pieces {α : Type} (size : Nat) : Nat → List α → List (List α)
  | 0, _ => []
  | n + 1, xs => xs.take size :: pieces size n (xs.drop size)

/-- Absorbs one block. -/
@[specialize]
def absorb (F : Family W) (s : State W) (block : List UInt8) : State W :=
  let words := ((pieces F.wordBytes 16 block).map fun bs => F.ofNat (bigEndian bs)).toArray
  let w := schedule F (F.constants.length - 16) words
  s.add ((F.constants.zip w.toList).foldl (fun s kw => s.round F (kw.1 + kw.2)) s)

/-- The message, a one bit, zeroes, and the bit length in two words, to a
whole number of blocks. -/
def padded (wordBytes : Nat) (message : List UInt8) : List UInt8 :=
  let block := 16 * wordBytes
  let used := (message.length + 1 + 2 * wordBytes) % block
  let zeroes := (block - used) % block
  message ++ 0x80 :: List.replicate zeroes 0 ++
    toBigEndian (2 * wordBytes) (8 * message.length)

/-- The bytes of the final state. -/
@[specialize]
def digest (F : Family W) (initial : State W) (message : List UInt8) : List UInt8 :=
  let text := padded F.wordBytes message
  let blocks := pieces (16 * F.wordBytes) (text.length / (16 * F.wordBytes)) text
  let final := blocks.foldl (absorb F) initial
  final.toList.flatMap fun w => toBigEndian F.wordBytes (F.toNat w)

end

/-! ## The three hash functions -/

/-- Rotates a 32-bit word right by less than 32. -/
def rotate₃₂ (x : UInt32) (n : UInt32) : UInt32 :=
  (x >>> n) ||| (x <<< (32 - n))

/-- Rotates a 64-bit word right by less than 64. -/
def rotate₆₄ (x : UInt64) (n : UInt64) : UInt64 :=
  (x >>> n) ||| (x <<< (64 - n))

/-- SHA-2 over 32-bit words, in 64 rounds. -/
def family₃₂ : Family UInt32 where
  wordBytes := 4
  ofNat := UInt32.ofNat
  toNat := UInt32.toNat
  bigSigma₀ x := rotate₃₂ x 2 ^^^ rotate₃₂ x 13 ^^^ rotate₃₂ x 22
  bigSigma₁ x := rotate₃₂ x 6 ^^^ rotate₃₂ x 11 ^^^ rotate₃₂ x 25
  smallSigma₀ x := rotate₃₂ x 7 ^^^ rotate₃₂ x 18 ^^^ (x >>> 3)
  smallSigma₁ x := rotate₃₂ x 17 ^^^ rotate₃₂ x 19 ^^^ (x >>> 10)
  constants := (primes.take 64).map fun p => UInt32.ofNat (rootBits 3 p >>> 32)

/-- SHA-2 over 64-bit words, in 80 rounds. -/
def family₆₄ : Family UInt64 where
  wordBytes := 8
  ofNat := UInt64.ofNat
  toNat := UInt64.toNat
  bigSigma₀ x := rotate₆₄ x 28 ^^^ rotate₆₄ x 34 ^^^ rotate₆₄ x 39
  bigSigma₁ x := rotate₆₄ x 14 ^^^ rotate₆₄ x 18 ^^^ rotate₆₄ x 41
  smallSigma₀ x := rotate₆₄ x 1 ^^^ rotate₆₄ x 8 ^^^ (x >>> 7)
  smallSigma₁ x := rotate₆₄ x 19 ^^^ rotate₆₄ x 61 ^^^ (x >>> 6)
  constants := primes.map fun p => UInt64.ofNat (rootBits 3 p)

/-- The state whose words are given by a rule, for the eight primes from
the `k`-th on. -/
def State.ofRoots {W : Type} (k : Nat) (word : Nat → W) : State W :=
  let root (i : Nat) : W := word (rootBits 2 (primes.getD (k + i) 2))
  ⟨root 0, root 1, root 2, root 3, root 4, root 5, root 6, root 7⟩

/-- Where SHA-256 starts. -/
def initial₂₅₆ : State UInt32 := .ofRoots 0 fun n => UInt32.ofNat (n >>> 32)

/-- Where SHA-384 starts. -/
def initial₃₈₄ : State UInt64 := .ofRoots 8 UInt64.ofNat

/-- Where SHA-512 starts. -/
def initial₅₁₂ : State UInt64 := .ofRoots 0 UInt64.ofNat

/-- SHA-256: 32 bytes. -/
def sha256 (message : List UInt8) : List UInt8 :=
  digest family₃₂ initial₂₅₆ message

/-- SHA-384: the first 48 bytes of a 64-byte state. -/
def sha384 (message : List UInt8) : List UInt8 :=
  (digest family₆₄ initial₃₈₄ message).take 48

/-- SHA-512: 64 bytes. -/
def sha512 (message : List UInt8) : List UInt8 :=
  digest family₆₄ initial₅₁₂ message

end Sha2

end SignOn
