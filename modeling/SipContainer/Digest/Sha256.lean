/-!
The digest SHA-256 of a sequence of octets. A message is filled up to whole blocks of 64 octets;
each block is stirred into a state of eight words in 64 rounds, the message words of the rounds
being kept in a sliding window of sixteen.
-/

namespace SipContainer.Digest.Sha256

/-- The first 32 bits behind the point of the cube roots of the first 64 primes. -/
def roundConstants : List UInt32 :=
  [0x428a2f98, 0x71374491, 0xb5c0fbcf, 0xe9b5dba5, 0x3956c25b, 0x59f111f1, 0x923f82a4, 0xab1c5ed5,
   0xd807aa98, 0x12835b01, 0x243185be, 0x550c7dc3, 0x72be5d74, 0x80deb1fe, 0x9bdc06a7, 0xc19bf174,
   0xe49b69c1, 0xefbe4786, 0x0fc19dc6, 0x240ca1cc, 0x2de92c6f, 0x4a7484aa, 0x5cb0a9dc, 0x76f988da,
   0x983e5152, 0xa831c66d, 0xb00327c8, 0xbf597fc7, 0xc6e00bf3, 0xd5a79147, 0x06ca6351, 0x14292967,
   0x27b70a85, 0x2e1b2138, 0x4d2c6dfc, 0x53380d13, 0x650a7354, 0x766a0abb, 0x81c2c92e, 0x92722c85,
   0xa2bfe8a1, 0xa81a664b, 0xc24b8b70, 0xc76c51a3, 0xd192e819, 0xd6990624, 0xf40e3585, 0x106aa070,
   0x19a4c116, 0x1e376c08, 0x2748774c, 0x34b0bcb5, 0x391c0cb3, 0x4ed8aa4a, 0x5b9cca4f, 0x682e6ff3,
   0x748f82ee, 0x78a5636f, 0x84c87814, 0x8cc70208, 0x90befffa, 0xa4506ceb, 0xbef9a3f7, 0xc67178f2]

structure State where
  a : UInt32
  b : UInt32
  c : UInt32
  d : UInt32
  e : UInt32
  f : UInt32
  g : UInt32
  h : UInt32
deriving DecidableEq

/-- The first 32 bits behind the point of the square roots of the first eight primes. -/
def State.initial : State where
  a := 0x6a09e667
  b := 0xbb67ae85
  c := 0x3c6ef372
  d := 0xa54ff53a
  e := 0x510e527f
  f := 0x9b05688c
  g := 0x1f83d9ab
  h := 0x5be0cd19

def State.words (state : State) : List UInt32 :=
  [state.a, state.b, state.c, state.d, state.e, state.f, state.g, state.h]

def State.add (left right : State) : State where
  a := left.a + right.a
  b := left.b + right.b
  c := left.c + right.c
  d := left.d + right.d
  e := left.e + right.e
  f := left.f + right.f
  g := left.g + right.g
  h := left.h + right.h

def turn (word amount : UInt32) : UInt32 :=
  (word >>> amount) ||| (word <<< (32 - amount))

def State.round (state : State) (input : UInt32) : State :=
  let sum1 := turn state.e 6 ^^^ turn state.e 11 ^^^ turn state.e 25
  let choice := (state.e &&& state.f) ^^^ ((~~~ state.e) &&& state.g)
  let first := state.h + sum1 + choice + input
  let sum0 := turn state.a 2 ^^^ turn state.a 13 ^^^ turn state.a 22
  let majority := (state.a &&& state.b) ^^^ (state.a &&& state.c) ^^^ (state.b &&& state.c)
  { a := first + (sum0 + majority), b := state.a, c := state.b, d := state.c
    e := state.d + first, f := state.e, g := state.f, h := state.g }

def slide (window : List UInt32) : List UInt32 :=
  let word := fun index => window.getD index 0
  let early := turn (word 1) 7 ^^^ turn (word 1) 18 ^^^ (word 1 >>> 3)
  let late := turn (word 14) 17 ^^^ turn (word 14) 19 ^^^ (word 14 >>> 10)
  window.drop 1 ++ [word 0 + early + word 9 + late]

def rounds : List UInt32 → List UInt32 → State → State
  | [], _, state => state
  | constant :: rest, window, state =>
    rounds rest (slide window) (state.round (constant + window.headD 0))

def wordsOf : List UInt8 → List UInt32
  | o1 :: o2 :: o3 :: o4 :: rest =>
    ((o1.toUInt32 <<< 24) ||| (o2.toUInt32 <<< 16) ||| (o3.toUInt32 <<< 8) ||| o4.toUInt32) ::
      wordsOf rest
  | _ => []

def absorb (state : State) (block : List UInt8) : State :=
  state.add (rounds roundConstants (wordsOf block) state)

def blocks (message : List UInt8) : List (List UInt8) :=
  if message.isEmpty then [] else message.take 64 :: blocks (message.drop 64)
termination_by message.length
decreasing_by
  cases message with
  | nil => simp_all
  | cons _ _ => simp only [List.length_drop, List.length_cons]; omega

def lengthOctets (value : Nat) : List UInt8 :=
  [56, 48, 40, 32, 24, 16, 8, 0].map (fun shift => (value >>> shift).toUInt8)

/-- A message filled up to whole blocks: an octet `80`, zeros, and its length in bits. -/
def pad (message : List UInt8) : List UInt8 :=
  message ++ 0x80 :: List.replicate ((119 - message.length % 64) % 64) 0 ++
    lengthOctets (8 * message.length)

def wordOctets (word : UInt32) : List UInt8 :=
  [(word >>> 24).toUInt8, (word >>> 16).toUInt8, (word >>> 8).toUInt8, word.toUInt8]

def digest (message : List UInt8) : List UInt8 :=
  ((blocks (pad message)).foldl absorb State.initial).words.flatMap wordOctets

end SipContainer.Digest.Sha256
