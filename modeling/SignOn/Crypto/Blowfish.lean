/-!
# Blowfish with an expensive key schedule

The block cipher under the password hash. Its subkeys start as the
fractional bits of π, computed here, and are then mixed with a key and a
salt as often as the cost asks.
-/

namespace SignOn

namespace Blowfish

/-! ## The bits of π -/

/-- `scale · arctan (1 / x)` by its series: `power` is `scale / x ^ k`
for the odd `k` at hand. Each step divides the power by `x ^ 2`, so as
many steps as the scale has bits are enough. -/
def arctan (x : Nat) : (fuel power k : Nat) → (sum : Int) → (positive : Bool) → Int
  | 0, _, _, sum, _ => sum
  | fuel + 1, power, k, sum, positive =>
    if power = 0 then sum
    else
      let term : Int := power / k
      arctan x fuel (power / (x * x)) (k + 2) (if positive then sum + term else sum - term)
        (!positive)

/-- The first `32 * n` fractional bits of π, as a number, from
`π = 16 arctan (1/5) - 4 arctan (1/239)` with 64 bits to spare. -/
def piBits (n : Nat) : Nat :=
  let bits := 32 * n + 64
  let scale := 1 <<< bits
  let pi := 16 * arctan 5 bits (scale / 5) 1 0 true - 4 * arctan 239 bits (scale / 239) 1 0 true
  pi.toNat >>> 64 % 1 <<< (32 * n)

/-- The lowest `n` words of a number, put in front of `tail`, most
significant word first. -/
def words : (n bits : Nat) → (tail : List UInt32) → List UInt32
  | 0, _, tail => tail
  | n + 1, bits, tail => words n (bits >>> 32) (UInt32.ofNat bits :: tail)

/-! ## The cipher -/

/-- The subkeys: eighteen round keys, and four tables of 256 words one
after another. -/
structure Subkeys where
  rounds : Array UInt32
  boxes : Array UInt32

/-- The subkeys before any key is mixed in. -/
def Subkeys.initial : Subkeys :=
  let all := words 1042 (piBits 1042) []
  ⟨(all.take 18).toArray, (all.drop 18).toArray⟩

/-- The word of a table. -/
@[inline]
def Subkeys.box (k : Subkeys) (table : Nat) (x : UInt32) : UInt32 :=
  k.boxes.getD (256 * table + (x &&& 0xff).toNat) 0

/-- The round function. -/
@[inline]
def Subkeys.mix (k : Subkeys) (x : UInt32) : UInt32 :=
  ((k.box 0 (x >>> 24) + k.box 1 (x >>> 16)) ^^^ k.box 2 (x >>> 8)) + k.box 3 x

/-- The rounds from the `i`-th on; the halves change places after each. -/
def Subkeys.runRounds (k : Subkeys) : (count i : Nat) → UInt32 → UInt32 → UInt32 × UInt32
  | 0, _, l, r => (r ^^^ k.rounds.getD 17 0, l ^^^ k.rounds.getD 16 0)
  | count + 1, i, l, r =>
    let l := l ^^^ k.rounds.getD i 0
    let r := r ^^^ k.mix l
    k.runRounds count (i + 1) r l

/-- Encrypts one block, given as two words. -/
def Subkeys.encrypt (k : Subkeys) (l r : UInt32) : UInt32 × UInt32 :=
  k.runRounds 16 0 l r

/-! ## The key schedule -/

/-- The `i`-th word of a text that is read round and round. -/
def cyclicWord (text : Array UInt8) (i : Nat) : UInt32 :=
  let byte (j : Nat) : UInt32 := (text.getD ((4 * i + j) % text.size) 0).toUInt32
  (byte 0 <<< 24) ||| (byte 1 <<< 16) ||| (byte 2 <<< 8) ||| byte 3

/-- The first `n` words of a text that is read round and round. -/
def cyclicWords (text : Array UInt8) (n : Nat) : Array UInt32 :=
  Array.ofFn fun i : Fin n => cyclicWord text i

/-- Overwrites the round keys from the `i`-th on, two at a time, with a
chain of encryptions into which the salt is mixed. -/
def expandRounds (salt : Array UInt32) :
    (count i : Nat) → UInt32 → UInt32 → Subkeys → UInt32 × UInt32 × Subkeys
  | 0, _, l, r, k => (l, r, k)
  | count + 1, i, l, r, k =>
    let (l, r) := k.encrypt (l ^^^ salt.getD (2 * i % 4) 0) (r ^^^ salt.getD ((2 * i + 1) % 4) 0)
    -- taken apart, so that the arrays are changed in place
    let ⟨rounds, boxes⟩ := k
    expandRounds salt count (i + 1) l r
      ⟨(rounds.setIfInBounds (2 * i) l).setIfInBounds (2 * i + 1) r, boxes⟩

/-- The same for the tables; the salt goes on where the round keys left
off. -/
def expandBoxes (salt : Array UInt32) :
    (count i : Nat) → UInt32 → UInt32 → Subkeys → Subkeys
  | 0, _, _, _, k => k
  | count + 1, i, l, r, k =>
    let (l, r) := k.encrypt (l ^^^ salt.getD ((2 * i + 2) % 4) 0)
      (r ^^^ salt.getD ((2 * i + 3) % 4) 0)
    let ⟨rounds, boxes⟩ := k
    expandBoxes salt count (i + 1) l r
      ⟨rounds, (boxes.setIfInBounds (2 * i) l).setIfInBounds (2 * i + 1) r⟩

/-- Mixes a key, as eighteen words, and a salt, as four, into the
subkeys. -/
def Subkeys.expand (salt key : Array UInt32) (k : Subkeys) : Subkeys :=
  let ⟨rounds, boxes⟩ := k
  let k : Subkeys := ⟨rounds.zipWith (· ^^^ ·) key, boxes⟩
  let (l, r, k) := expandRounds salt 9 0 0 0 k
  expandBoxes salt 512 0 l r k

/-- Mixes first the key and then the salt in, `n` times over. -/
def Subkeys.expandTimes (zero key salt : Array UInt32) : Nat → Subkeys → Subkeys
  | 0, k => k
  | n + 1, k => expandTimes zero key salt n ((k.expand zero key).expand zero salt)

/-- **The expensive key schedule.** The subkeys for a key and a salt of
sixteen bytes, after `2 ^ cost` turns. -/
def Subkeys.setup (cost : Nat) (salt key : List UInt8) : Subkeys :=
  let zero : Array UInt32 := Array.replicate 4 0
  let keyWords := cyclicWords key.toArray 18
  let saltWords := cyclicWords salt.toArray 4
  let saltKey := cyclicWords salt.toArray 18
  (Subkeys.initial.expand saltWords keyWords).expandTimes zero keyWords saltKey (1 <<< cost)

/-- Encrypts a block `n` times. -/
def Subkeys.encryptTimes (k : Subkeys) : Nat → UInt32 × UInt32 → UInt32 × UInt32
  | 0, block => block
  | n + 1, (l, r) => k.encryptTimes n (k.encrypt l r)

end Blowfish

end SignOn
