import Mathlib.Algebra.Group.Int.Defs
import Mathlib.Algebra.Group.Nat.Defs
import Mathlib.Algebra.GroupWithZero.Nat
import Mathlib.Data.List.Sort
import Mathlib.Data.Int.Basic

/-!
# Python text

A `str` is a sequence of code points and may hold unpaired surrogates, so it is
not a Lean `String`. The functions below are the methods of `str`, `int` and
`uuid.UUID` that the plugin calls. What depends on the interpreter's Unicode
tables or on `hashlib` is gathered in the class `Runtime`: no result of this
development needs more of them than what is stated with the result.
-/

namespace Python

/-- A Unicode code point, surrogates included. -/
abbrev CodePoint := Nat

/-- A Python `str`. -/
abbrev Str := List CodePoint

def code (character : Char) : CodePoint := character.toNat

def Str.ofString (text : String) : Str := text.toList.map code

instance : Coe String Str := ⟨Str.ofString⟩

instance str_lawful : LawfulBEq Str := List.instLawfulBEq

theorem ofString_inj {left right : String} :
    Str.ofString left = Str.ofString right ↔ left = right := by
  have injective : Function.Injective code := by
    intro first second same
    exact Char.ext (UInt32.toNat_inj.mp same)
  constructor
  · intro same
    exact String.toList_inj.mp (List.map_injective_iff.mpr injective same)
  · rintro rfl
    rfl

/-- The tables and library routines of the interpreter that the plugin relies on. -/
class Runtime where
  /-- `str.lower` -/
  lower : Str → Str
  /-- `str.upper` -/
  upper : Str → Str
  /-- `repr` of a `str` -/
  reprStr : Str → Str
  /-- `repr` of a finite `float` with the given sign, mantissa and binary exponent -/
  reprFloat : Bool → Nat → Int → Str
  /-- `unicodedata.normalize('NFKC', ·)` -/
  nfkc : Str → Str
  /-- `hashlib.sha256(·.encode('utf-8')).hexdigest()` -/
  sha256 : Str → Str

/-! ## Characters -/

/-- Whether `str.strip` removes the code point. -/
def isSpace (c : CodePoint) : Bool :=
  (9 ≤ c && c ≤ 13) || (28 ≤ c && c ≤ 32) || c == 0x85 || c == 0xa0 || c == 0x1680 ||
    (0x2000 ≤ c && c ≤ 0x200a) || c == 0x2028 || c == 0x2029 || c == 0x202f || c == 0x205f ||
    c == 0x3000

/-- The zeros of the runs of ten decimal digits (general category `Nd`, Unicode 14). -/
def decimalZeros : List CodePoint :=
  [0x30, 0x660, 0x6f0, 0x7c0, 0x966, 0x9e6, 0xa66, 0xae6, 0xb66, 0xbe6, 0xc66, 0xce6, 0xd66,
    0xde6, 0xe50, 0xed0, 0xf20, 0x1040, 0x1090, 0x17e0, 0x1810, 0x1946, 0x19d0, 0x1a80, 0x1a90,
    0x1b50, 0x1bb0, 0x1c40, 0x1c50, 0xa620, 0xa8d0, 0xa900, 0xa9d0, 0xa9f0, 0xaa50, 0xabf0,
    0xff10, 0x104a0, 0x10d30, 0x11066, 0x110f0, 0x11136, 0x111d0, 0x112f0, 0x11450, 0x114d0,
    0x11650, 0x116c0, 0x11730, 0x118e0, 0x11950, 0x11c50, 0x11d50, 0x11da0, 0x16a60, 0x16ac0,
    0x16b50, 0x1d7ce, 0x1d7d8, 0x1d7e2, 0x1d7ec, 0x1d7f6, 0x1e140, 0x1e2f0, 0x1e950, 0x1fbf0]

/-- The value of a decimal digit of any script: what `\d` matches and `int` reads. -/
def decimalValue (c : CodePoint) : Option Nat :=
  (decimalZeros.find? fun first => first ≤ c && c < first + 10).map (c - ·)

/-- Ranges of the digits that are not decimal digits (superscripts, circled digits and so on). -/
def otherDigitRanges : List (CodePoint × CodePoint) :=
  [(0xb2, 0xb3), (0xb9, 0xb9), (0x1369, 0x1371), (0x19da, 0x19da), (0x2070, 0x2070),
    (0x2074, 0x2079), (0x2080, 0x2089), (0x2460, 0x2468), (0x2474, 0x247c), (0x2488, 0x2490),
    (0x24ea, 0x24ea), (0x24f5, 0x24fd), (0x24ff, 0x24ff), (0x2776, 0x277e), (0x2780, 0x2788),
    (0x278a, 0x2792), (0x10a40, 0x10a43), (0x10e60, 0x10e68), (0x11052, 0x1105a),
    (0x1f100, 0x1f10a)]

def isDigitChar (c : CodePoint) : Bool :=
  (decimalValue c).isSome || otherDigitRanges.any fun (low, high) => low ≤ c && c ≤ high

def isAsciiDigit (c : CodePoint) : Bool := code '0' ≤ c && c ≤ code '9'

def isAsciiAlpha (c : CodePoint) : Bool :=
  (code 'a' ≤ c && c ≤ code 'z') || (code 'A' ≤ c && c ≤ code 'Z')

def isAsciiAlnum (c : CodePoint) : Bool := isAsciiAlpha c || isAsciiDigit c

/-- Whether UTF-8 can encode the code point: surrogates are refused. -/
def isEncodable (c : CodePoint) : Bool := c < 0xd800 || 0xdfff < c

/-! ## Strings -/

/-- `str.isdigit` -/
def isDigit (s : Str) : Bool := !s.isEmpty && s.all isDigitChar

/-- `re.fullmatch(r"\d+", s)` -/
def isDecimal (s : Str) : Bool := !s.isEmpty && s.all fun c => (decimalValue c).isSome

def isAscii (s : Str) : Bool := s.all (· < 128)

/-- `str.strip` with a set of characters -/
def stripWith (drop : CodePoint → Bool) (s : Str) : Str :=
  ((s.dropWhile drop).reverse.dropWhile drop).reverse

/-- `str.strip` -/
def strip (s : Str) : Str := stripWith isSpace s

/-- `str.split` with a one-character separator -/
def splitOn (separator : CodePoint) : Str → List Str
  | [] => [[]]
  | c :: rest =>
      if c = separator then [] :: splitOn separator rest
      else match splitOn separator rest with
        | [] => [[c]]
        | head :: tail => (c :: head) :: tail

/-- `str.join` -/
def join (separator : Str) : List Str → Str
  | [] => []
  | [last] => last
  | head :: tail => head ++ separator ++ join separator tail

/-- `str.partition` with a one-character separator; `none` stands for a missing separator. -/
def partition (separator : CodePoint) : Str → Str × Option Str
  | [] => ([], none)
  | c :: rest =>
      if c = separator then ([], some rest)
      else let (head, tail) := partition separator rest
        (c :: head, tail)

/-- `str.rpartition` with a one-character separator: what precedes its last occurrence, if any. -/
def rpartition (separator : CodePoint) (s : Str) : Option Str × Str :=
  match partition separator s.reverse with
  | (last, none) => (none, last.reverse)
  | (last, some front) => (some front.reverse, last.reverse)

/-- `needle in s` -/
def contains (needle s : Str) : Bool :=
  s.tails.any needle.isPrefixOf

/-- `str.replace(needle, "")`, where `skip` characters of an occurrence are still to go. -/
def removeAll (needle : Str) : Nat → Str → Str
  | _, [] => []
  | skip + 1, _ :: rest => removeAll needle skip rest
  | 0, c :: rest =>
      if needle.isPrefixOf (c :: rest) then removeAll needle (needle.length - 1) rest
      else c :: removeAll needle 0 rest

/-- The order of strings by code points. -/
def strLe : Str → Str → Bool
  | [], _ => true
  | _ :: _, [] => false
  | a :: s, b :: t => a < b || (a == b && strLe s t)

/-- `sorted(set(…))` of strings -/
def sortedSet (items : List Str) : List Str :=
  items.dedup.insertionSort fun a b => strLe a b = true

/-! ## Integers and text -/

/-- `str` of a natural number -/
def natText (n : Nat) : Str := (Nat.toDigits 10 n).map code

/-- `str` of an integer -/
def intText : Int → Str
  | .ofNat n => natText n
  | .negSucc n => code '-' :: natText (n + 1)

/-- The value of a digit in a base up to sixteen; decimal digits of any script count. -/
def digitValue (base : Nat) (c : CodePoint) : Option Nat :=
  let value :=
    if code 'a' ≤ c && c ≤ code 'f' then some (c - code 'a' + 10)
    else if code 'A' ≤ c && c ≤ code 'F' then some (c - code 'A' + 10)
    else decimalValue c
  value.filter (· < base)

/-- Digits with single underscores between them. -/
def readDigits (base : Nat) : Str → Option (List Nat)
  | [] => none
  | [c] => (digitValue base c).map ([·])
  | c :: next :: rest => do
      let first ← digitValue base c
      let others ← if next = code '_' then readDigits base rest else readDigits base (next :: rest)
      return first :: others

/-- `sys.get_int_max_str_digits()`: longer decimal texts are refused. -/
def maxStrDigits : Nat := 4300

/-- Digits of a literal, after the `0x` that base sixteen permits. -/
def readLiteral (base : Nat) (s : Str) : Option (List Nat) :=
  if base = 16 then
    match s with
    | lead :: x :: rest =>
        if lead = code '0' && (x = code 'x' || x = code 'X') then
          match rest with
          | first :: more => if first = code '_' then readDigits base more
              else readDigits base (first :: more)
          | [] => none
        else readDigits base s
    | _ => readDigits base s
  else readDigits base s

/-- The text without the white space that `int` passes over, which is that of C in an ASCII text -/
def trimmed (s : Str) : Str :=
  if isAscii s then stripWith (fun c => c = 32 || (9 ≤ c && c ≤ 13)) s else strip s

/-- `int(s, base)`; `none` stands for `ValueError`. -/
def parseInt (base : Nat) (s : Str) : Option Int :=
  let text := trimmed s
  let (negative, magnitude) :=
    match text with
    | sign :: rest =>
        if sign = code '-' then (true, rest) else if sign = code '+' then (false, rest)
        else (false, text)
    | [] => (false, text)
  match readLiteral base magnitude with
  | none => none
  | some digits =>
      if base = 10 && maxStrDigits < digits.length then none
      else
        let value := digits.foldl (fun acc d => acc * base + d) 0
        some (if negative then -(value : Int) else value)

/-! ## UUIDs -/

/-- The hexadecimal digits of a number, most significant first. -/
def hexDigits : Nat → Nat → Str
  | 0, _ => []
  | width + 1, n => hexDigits width (n / 16) ++
      [if n % 16 < 10 then code '0' + n % 16 else code 'a' + (n % 16 - 10)]

/-- `str(UUID)` of a 128-bit value -/
def uuidText (value : Nat) : Str :=
  let hex := hexDigits 32 value
  join [code '-'] [hex.take 8, (hex.drop 8).take 4, (hex.drop 12).take 4, (hex.drop 16).take 4,
    hex.drop 20]

/-- The value of `UUID(text)`; `none` stands for `ValueError`. -/
def parseUuid (text : Str) : Option Nat :=
  let stripped := stripWith (fun c => c = code '{' || c = code '}')
    (removeAll "uuid:" 0 (removeAll "urn:" 0 text))
  let hex := stripped.filter (· ≠ code '-')
  if hex.length ≠ 32 then none
  else match parseInt 16 hex with
    | some (.ofNat value) => if value < 2 ^ 128 then some value else none
    | _ => none

example : parseUuid "06ef0c66-91fb-490a-9345-2fd20b1bad8e" =
    some 0x06ef0c6691fb490a93452fd20b1bad8e := by decide +kernel

example : uuidText 0x06ef0c6691fb490a93452fd20b1bad8e =
    ("06ef0c66-91fb-490a-9345-2fd20b1bad8e" : Str) := by decide +kernel

end Python
