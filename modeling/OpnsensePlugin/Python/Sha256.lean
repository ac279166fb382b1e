import OpnsensePlugin.Python.Text

/-!
# SHA-256

`hashlib.sha256(text.encode('utf-8')).hexdigest()`, and with it the interpreter
for ASCII text, on which examples are run.
-/

namespace Python

namespace Sha256

/-- `text.encode('utf-8')` -/
def utf8 (text : Str) : List Nat :=
  text.flatMap fun c =>
    if c < 0x80 then [c]
    else if c < 0x800 then [0xc0 + c / 64, 0x80 + c % 64]
    else if c < 0x10000 then [0xe0 + c / 4096, 0x80 + c / 64 % 64, 0x80 + c % 64]
    else [0xf0 + c / 262144, 0x80 + c / 4096 % 64, 0x80 + c / 64 % 64, 0x80 + c % 64]

def constants : List Nat :=
  [0x428a2f98, 0x71374491, 0xb5c0fbcf, 0xe9b5dba5, 0x3956c25b, 0x59f111f1, 0x923f82a4,
    0xab1c5ed5, 0xd807aa98, 0x12835b01, 0x243185be, 0x550c7dc3, 0x72be5d74, 0x80deb1fe,
    0x9bdc06a7, 0xc19bf174, 0xe49b69c1, 0xefbe4786, 0x0fc19dc6, 0x240ca1cc, 0x2de92c6f,
    0x4a7484aa, 0x5cb0a9dc, 0x76f988da, 0x983e5152, 0xa831c66d, 0xb00327c8, 0xbf597fc7,
    0xc6e00bf3, 0xd5a79147, 0x06ca6351, 0x14292967, 0x27b70a85, 0x2e1b2138, 0x4d2c6dfc,
    0x53380d13, 0x650a7354, 0x766a0abb, 0x81c2c92e, 0x92722c85, 0xa2bfe8a1, 0xa81a664b,
    0xc24b8b70, 0xc76c51a3, 0xd192e819, 0xd6990624, 0xf40e3585, 0x106aa070, 0x19a4c116,
    0x1e376c08, 0x2748774c, 0x34b0bcb5, 0x391c0cb3, 0x4ed8aa4a, 0x5b9cca4f, 0x682e6ff3,
    0x748f82ee, 0x78a5636f, 0x84c87814, 0x8cc70208, 0x90befffa, 0xa4506ceb, 0xbef9a3f7,
    0xc67178f2]

/-- The eight words of the chaining value -/
structure Words where
  a : Nat
  b : Nat
  c : Nat
  d : Nat
  e : Nat
  f : Nat
  g : Nat
  h : Nat

def initial : Words :=
  ⟨0x6a09e667, 0xbb67ae85, 0x3c6ef372, 0xa54ff53a, 0x510e527f, 0x9b05688c, 0x1f83d9ab,
    0x5be0cd19⟩

def modulus : Nat := 0x100000000

def rotate (x count : Nat) : Nat := x / 2 ^ count + x * 2 ^ (32 - count) % modulus

def scheduleLow (x : Nat) : Nat := rotate x 7 ^^^ rotate x 18 ^^^ x / 2 ^ 3

def scheduleHigh (x : Nat) : Nat := rotate x 17 ^^^ rotate x 19 ^^^ x / 2 ^ 10

/-- One round: the next words, given the constant and the schedule word of the round -/
def round (words : Words) (constant word : Nat) : Words :=
  let choice := (words.e &&& words.f) ^^^ ((modulus - 1 - words.e) &&& words.g)
  let mixed := rotate words.e 6 ^^^ rotate words.e 11 ^^^ rotate words.e 25
  let first := words.h + mixed + choice + constant + word
  let majority := (words.a &&& words.b) ^^^ (words.a &&& words.c) ^^^ (words.b &&& words.c)
  let second := (rotate words.a 2 ^^^ rotate words.a 13 ^^^ rotate words.a 22) + majority
  { a := (first + second) % modulus, b := words.a, c := words.b, d := words.c,
    e := (words.d + first) % modulus, f := words.e, g := words.f, h := words.g }

/-- The rounds of a block; `window` has the next sixteen words of the schedule. -/
def rounds : List Nat → List Nat → Words → Words
  | [], _, words => words
  | constant :: later, window, words =>
      let next := (window.getD 0 0 + scheduleLow (window.getD 1 0) + window.getD 9 0 +
        scheduleHigh (window.getD 14 0)) % modulus
      rounds later (window.tail ++ [next]) (round words constant (window.getD 0 0))

def add (left right : Words) : Words :=
  ⟨(left.a + right.a) % modulus, (left.b + right.b) % modulus, (left.c + right.c) % modulus,
    (left.d + right.d) % modulus, (left.e + right.e) % modulus, (left.f + right.f) % modulus,
    (left.g + right.g) % modulus, (left.h + right.h) % modulus⟩

/-- The big-endian words of a list of bytes -/
def wordsOf : List Nat → List Nat
  | a :: b :: c :: d :: rest => (a * 16777216 + b * 65536 + c * 256 + d) :: wordsOf rest
  | _ => []

def padded (bytes : List Nat) : List Nat :=
  let zeros := (119 - bytes.length % 64) % 64
  let bits := 8 * bytes.length
  wordsOf (bytes ++ 0x80 :: List.replicate zeros 0) ++ [bits / modulus, bits % modulus]

/-- Fold a number of sixteen-word blocks into the chaining value. -/
def blocks : Nat → List Nat → Words → Words
  | 0, _, words => words
  | count + 1, message, words =>
      blocks count (message.drop 16) (add words (rounds constants (message.take 16) words))

/-- `hashlib.sha256(bytes).hexdigest()` -/
def digest (bytes : List Nat) : Str :=
  let message := padded bytes
  let words := blocks (message.length / 16) message initial
  [words.a, words.b, words.c, words.d, words.e, words.f, words.g, words.h].flatMap (hexDigits 8)

def hexDigest (text : Str) : Str := digest (utf8 text)

end Sha256

/-- The interpreter for ASCII text -/
@[reducible]
def Runtime.ascii : Runtime where
  lower text := text.map fun c => if code 'A' ≤ c ∧ c ≤ code 'Z' then c + 32 else c
  upper text := text.map fun c => if code 'a' ≤ c ∧ c ≤ code 'z' then c - 32 else c
  reprStr text := [code '\''] ++ text ++ [code '\'']
  reprFloat _ mantissa _ := (toString mantissa : String)
  nfkc text := text
  sha256 := Sha256.hexDigest

end Python
