import OpnsensePlugin.Python.Json

/-!
# `json.loads`

The decoder of the standard library. `readFloat` is `float` of a decimal
literal, and `depth` is the number of nested containers that the interpreter
still accepts. Every call consumes a character before it calls on, so a fuel of
the length of the text is never used up.
-/

namespace Python

inductive DecodeError
  | malformed
  | digits
  | recursion
deriving DecidableEq

/-- `WHITESPACE` -/
def isJsonSpace (c : CodePoint) : Bool := c = 32 || c = 9 || c = 10 || c = 13

def skipSpace (s : Str) : Str := s.dropWhile isJsonSpace

/-- What follows a character that has to come next -/
def expect (c : CodePoint) : Str → Except DecodeError Str
  | [] => .error .malformed
  | d :: rest => if d = c then .ok rest else .error .malformed

/-! ## Strings -/

def hexDigitValue (c : CodePoint) : Option Nat :=
  if isAsciiDigit c then some (c - code '0')
  else if code 'a' ≤ c && c ≤ code 'f' then some (c - code 'a' + 10)
  else if code 'A' ≤ c && c ≤ code 'F' then some (c - code 'A' + 10)
  else none

/-- `_decode_uXXXX` -/
def hexUnit (a b c d : CodePoint) : Option Nat := do
  let a ← hexDigitValue a
  let b ← hexDigitValue b
  let c ← hexDigitValue c
  let d ← hexDigitValue d
  return ((a * 16 + b) * 16 + c) * 16 + d

/-- `BACKSLASH` -/
def unescaped (c : CodePoint) : Option CodePoint :=
  if c = code '"' || c = code '\\' || c = code '/' then some c
  else if c = code 'b' then some 8
  else if c = code 'f' then some 12
  else if c = code 'n' then some 10
  else if c = code 'r' then some 13
  else if c = code 't' then some 9
  else none

def isHighSurrogate (unit : Nat) : Bool := 0xd800 ≤ unit && unit ≤ 0xdbff

def isLowSurrogate (unit : Nat) : Bool := 0xdc00 ≤ unit && unit ≤ 0xdfff

def joinSurrogates (high low : Nat) : CodePoint := 0x10000 + ((high - 0xd800) * 1024 + (low - 0xdc00))

def prepend (c : CodePoint) (scanned : Str × Str) : Str × Str := (c :: scanned.1, scanned.2)

/-- `scanstring`, after the opening quote: the text and what follows the closing quote. A pair of
escaped surrogates is one character. -/
def scanString : Str → Option (Str × Str)
  | [] => none
  | c :: rest =>
      if c = code '"' then some ([], rest)
      else if c = code '\\' then
        match rest with
        | [] => none
        | e :: after =>
            if e = code 'u' then
              match after with
              | p :: q :: r :: s :: tail =>
                  match hexUnit p q r s with
                  | none => none
                  | some unit =>
                      match tail with
                      | slash :: u :: w :: x :: y :: z :: last =>
                          match hexUnit w x y z with
                          | some low =>
                              if isHighSurrogate unit && slash = code '\\' && u = code 'u' &&
                                  isLowSurrogate low then
                                (scanString last).map (prepend (joinSurrogates unit low))
                              else (scanString (slash :: u :: w :: x :: y :: z :: last)).map
                                (prepend unit)
                          | none => (scanString (slash :: u :: w :: x :: y :: z :: last)).map
                              (prepend unit)
                      | tail => (scanString tail).map (prepend unit)
              | _ => none
            else match unescaped e with
              | none => none
              | some plain => (scanString after).map (prepend plain)
      else if c < 32 then none
      else (scanString rest).map (prepend c)

/-! ## Numbers -/

def digitsOf (s : Str) : Str × Str := (s.takeWhile isAsciiDigit, s.dropWhile isAsciiDigit)

/-- The digits of a fraction with the dot before them -/
def scanFraction : Str → Str × Str
  | dot :: d :: rest =>
      if dot = code '.' && isAsciiDigit d then
        let (digits, rest) := digitsOf (d :: rest)
        (dot :: digits, rest)
      else ([], dot :: d :: rest)
  | s => ([], s)

/-- An exponent -/
def scanExponent : Str → Str × Str
  | e :: next :: rest =>
      if e = code 'e' || e = code 'E' then
        if isAsciiDigit next then
          let (digits, rest) := digitsOf (next :: rest)
          (e :: digits, rest)
        else if (next = code '+' || next = code '-') && (rest.head?.any isAsciiDigit) then
          let (digits, rest) := digitsOf rest
          (e :: next :: digits, rest)
        else ([], e :: next :: rest)
      else ([], e :: next :: rest)
  | s => ([], s)

/-- `int` of ASCII digits -/
def digitsValue (digits : Str) : Nat := digits.foldl (fun value c => 10 * value + (c - code '0')) 0

def signed (negative : Bool) (magnitude : Nat) : Int := if negative then -magnitude else magnitude

/-- The digits before a fraction: a leading zero stands alone. -/
def scanWhole : Str → Str × Str
  | [] => ([], [])
  | d :: rest => if d = code '0' then ([d], rest) else digitsOf (d :: rest)

/-- `_match_number`, after the sign -/
def scanMagnitude (readFloat : Str → PyFloat) (negative : Bool) (s : Str) :
    Except DecodeError (Json × Str) :=
  let (whole, rest) := scanWhole s
  if whole.isEmpty then .error .malformed
  else
    let (fraction, rest) := scanFraction rest
    let (exponent, rest) := scanExponent rest
    if fraction.isEmpty && exponent.isEmpty then
      if maxStrDigits < whole.length then .error .digits
      else .ok (.int (signed negative (digitsValue whole)), rest)
    else
      let sign : Str := if negative then "-" else ""
      .ok (.float (readFloat (sign ++ whole ++ fraction ++ exponent)), rest)

def scanNumber (readFloat : Str → PyFloat) : Str → Except DecodeError (Json × Str)
  | [] => .error .malformed
  | c :: rest =>
      if c = code '-' then scanMagnitude readFloat true rest
      else scanMagnitude readFloat false (c :: rest)

/-! ## Values -/

/-- The words that stand for values -/
def keywords : List (Str × Json) :=
  [("null", .null), ("true", .bool true), ("false", .bool false), ("NaN", .float .nan),
    ("Infinity", .float (.infinity false)), ("-Infinity", .float (.infinity true))]

def scanKeyword (s : Str) : Option (Json × Str) :=
  (keywords.find? fun (word, _) => word.isPrefixOf s).map fun (word, value) =>
    (value, s.drop word.length)

mutual

/-- `scan_once` -/
def scanValue (readFloat : Str → PyFloat) : Nat → Nat → Str → Except DecodeError (Json × Str)
  | 0, _, _ => .error .malformed
  | _, _, [] => .error .malformed
  | fuel + 1, depth, c :: rest =>
      if c = code '"' then
        match scanString rest with
        | none => .error .malformed
        | some (text, after) => .ok (.str text, after)
      else if c = code '\x7b' then
        match depth, skipSpace rest with
        | 0, _ => .error .recursion
        | _, [] => .error .malformed
        | depth + 1, d :: more =>
            if d = code '\x7d' then .ok (.obj [], more)
            else if d = code '"' then scanMembers readFloat fuel depth [] more
            else .error .malformed
      else if c = code '[' then
        match depth, skipSpace rest with
        | 0, _ => .error .recursion
        | _, [] => .error .malformed
        | depth + 1, d :: more =>
            if d = code ']' then .ok (.arr [], more)
            else scanItems readFloat fuel depth [] (d :: more)
      else match scanKeyword (c :: rest) with
        | some found => .ok found
        | none => scanNumber readFloat (c :: rest)

/-- `JSONObject`, after the opening quote of a key -/
def scanMembers (readFloat : Str → PyFloat) :
    Nat → Nat → List (Str × Json) → Str → Except DecodeError (Json × Str)
  | 0, _, _, _ => .error .malformed
  | fuel + 1, depth, fields, s =>
      match scanString s with
      | none => .error .malformed
      | some (key, after) => do
          let afterColon ← expect (code ':') (skipSpace after)
          let (value, rest) ← scanValue readFloat fuel depth (skipSpace afterColon)
          match skipSpace rest with
          | [] => .error .malformed
          | c :: more =>
              if c = code '\x7d' then .ok (.obj (setField key value fields), more)
              else if c = code ',' then do
                let next ← expect (code '"') (skipSpace more)
                scanMembers readFloat fuel depth (setField key value fields) next
              else .error .malformed

/-- `JSONArray`, before an item -/
def scanItems (readFloat : Str → PyFloat) :
    Nat → Nat → List Json → Str → Except DecodeError (Json × Str)
  | 0, _, _, _ => .error .malformed
  | fuel + 1, depth, items, s => do
      let (value, rest) ← scanValue readFloat fuel depth s
      match skipSpace rest with
      | [] => .error .malformed
      | c :: more =>
          if c = code ']' then .ok (.arr (items ++ [value]), more)
          else if c = code ',' then
            scanItems readFloat fuel depth (items ++ [value]) (skipSpace more)
          else .error .malformed

end

/-- `json.loads` -/
def loads (readFloat : Str → PyFloat) (depth : Nat) (s : Str) : Except DecodeError Json := do
  if s.head? = some 0xfeff then .error .malformed
  else
    let (value, rest) ← scanValue readFloat (s.length + 1) depth (skipSpace s)
    if (skipSpace rest).isEmpty then .ok value else .error .malformed

end Python
