import OpnsensePlugin.Python.Text

/-!
# Base64

`base64.b64encode` and `base64.b64decode(·, validate=True)`: three bytes are four
digits, and `=` fills up the last four.
-/

namespace Python

abbrev Byte := Fin 256

instance byte_neZero : NeZero 256 := ⟨nofun⟩

/-- A Python `bytes`. -/
abbrev Bytes := List Byte

namespace Base64

/-- The digits are `A`–`Z`, `a`–`z`, `0`–`9`, `+` and `/`. -/
def digit (value : Nat) : CodePoint :=
  if value < 26 then code 'A' + value
  else if value < 52 then code 'a' + (value - 26)
  else if value < 62 then code '0' + (value - 52)
  else if value = 62 then code '+'
  else code '/'

def digitValue (c : CodePoint) : Option Nat :=
  if code 'A' ≤ c ∧ c ≤ code 'Z' then some (c - code 'A')
  else if code 'a' ≤ c ∧ c ≤ code 'z' then some (c - code 'a' + 26)
  else if code '0' ≤ c ∧ c ≤ code '9' then some (c - code '0' + 52)
  else if c = code '+' then some 62
  else if c = code '/' then some 63
  else none

def byte (value : Nat) : Byte := Fin.ofNat 256 value

/-- `base64.b64encode(·).decode('ascii')` -/
def encode : Bytes → Str
  | [] => []
  | [a] => [digit (a.val / 4), digit (a.val % 4 * 16), code '=', code '=']
  | [a, b] =>
      [digit (a.val / 4), digit (a.val % 4 * 16 + b.val / 16), digit (b.val % 16 * 4), code '=']
  | a :: b :: c :: rest =>
      digit (a.val / 4) :: digit (a.val % 4 * 16 + b.val / 16) ::
        digit (b.val % 16 * 4 + c.val / 64) :: digit (c.val % 64) :: encode rest

/-- `base64.b64decode(·, validate=True)`; `none` stands for `ValueError`. -/
def decode : Str → Option Bytes
  | [] => some []
  | p :: q :: r :: s :: rest =>
      if rest = [] ∧ s = code '=' then
        if r = code '=' then do
          let x ← digitValue p
          let y ← digitValue q
          some [byte (x * 4 + y / 16)]
        else do
          let x ← digitValue p
          let y ← digitValue q
          let z ← digitValue r
          some [byte (x * 4 + y / 16), byte (y % 16 * 16 + z / 4)]
      else do
        let x ← digitValue p
        let y ← digitValue q
        let z ← digitValue r
        let w ← digitValue s
        let more ← decode rest
        some (byte (x * 4 + y / 16) :: byte (y % 16 * 16 + z / 4) :: byte (z % 4 * 64 + w) :: more)
  | _ => none

theorem digitValue_digit {value : Nat} (small : value < 64) : digitValue (digit value) = some value := by
  have all : ∀ value < 64, digitValue (digit value) = some value := by decide
  exact all value small

theorem digit_ne_fill {value : Nat} (small : value < 64) : digit value ≠ code '=' := by
  have all : ∀ value < 64, digit value ≠ code '=' := by decide
  exact all value small

theorem byte_eq {value : Nat} {b : Byte} (same : value = b.val) : byte value = b := by
  rw [same]
  exact Fin.ofNat_val_eq_self b

/-- What was encoded is decoded. -/
theorem decode_encode : ∀ bytes : Bytes, decode (encode bytes) = some bytes
  | [] => rfl
  | [a] => by
      have small := a.isLt
      have first := @digitValue_digit (a.val / 4) (by omega)
      have second := @digitValue_digit (a.val % 4 * 16) (by omega)
      have whole : byte (a.val / 4 * 4 + a.val % 4 * 16 / 16) = a := byte_eq (by omega)
      simp only [encode, decode, true_and, if_true, first, second, Option.bind_eq_bind,
        Option.bind_some, whole]
  | [a, b] => by
      have small := a.isLt
      have below := b.isLt
      have first := @digitValue_digit (a.val / 4) (by omega)
      have second := @digitValue_digit (a.val % 4 * 16 + b.val / 16) (by omega)
      have third := @digitValue_digit (b.val % 16 * 4) (by omega)
      have unfilled := @digit_ne_fill (b.val % 16 * 4) (by omega)
      have whole : byte (a.val / 4 * 4 + (a.val % 4 * 16 + b.val / 16) / 16) = a := byte_eq (by omega)
      have next : byte ((a.val % 4 * 16 + b.val / 16) % 16 * 16 + b.val % 16 * 4 / 4) = b :=
        byte_eq (by omega)
      simp only [encode, decode, true_and, if_true, if_neg unfilled, first, second, third,
        Option.bind_eq_bind, Option.bind_some, whole, next]
  | a :: b :: c :: rest => by
      have small := a.isLt
      have below := b.isLt
      have under := c.isLt
      have first := @digitValue_digit (a.val / 4) (by omega)
      have second := @digitValue_digit (a.val % 4 * 16 + b.val / 16) (by omega)
      have third := @digitValue_digit (b.val % 16 * 4 + c.val / 64) (by omega)
      have fourth := @digitValue_digit (c.val % 64) (by omega)
      have unfilled := @digit_ne_fill (c.val % 64) (by omega)
      have whole : byte (a.val / 4 * 4 + (a.val % 4 * 16 + b.val / 16) / 16) = a := byte_eq (by omega)
      have next : byte ((a.val % 4 * 16 + b.val / 16) % 16 * 16 + (b.val % 16 * 4 + c.val / 64) / 4) = b :=
        byte_eq (by omega)
      have last : byte ((b.val % 16 * 4 + c.val / 64) % 4 * 64 + c.val % 64) = c := byte_eq (by omega)
      simp only [encode, decode, unfilled, and_false, if_false, first, second, third, fourth,
        decode_encode rest, Option.bind_eq_bind, Option.bind_some, whole, next, last]

theorem length_encode : ∀ bytes : Bytes, (encode bytes).length = (bytes.length + 2) / 3 * 4
  | [] => rfl
  | [_] => by simp [encode]
  | [_, _] => by simp [encode]
  | _ :: _ :: _ :: rest => by
      simp only [encode, List.length_cons, length_encode rest]
      omega

/-- A printable ASCII character that JSON does not escape -/
def IsPlain (c : CodePoint) : Prop := 32 ≤ c ∧ c < 128 ∧ c ≠ code '"' ∧ c ≠ code '\\'

instance (c : CodePoint) : Decidable (IsPlain c) := by
  unfold IsPlain
  infer_instance

theorem digit_plain {value : Nat} (small : value < 64) : IsPlain (digit value) := by
  have all : ∀ value < 64, IsPlain (digit value) := by decide
  exact all value small

theorem encode_plain : ∀ bytes : Bytes, ∀ c ∈ encode bytes, IsPlain c
  | [] => fun c mem => absurd mem List.not_mem_nil
  | [a] => by
      have small := a.isLt
      have fill : IsPlain (code '=') := by decide
      have first := @digit_plain (a.val / 4) (by omega)
      have second := @digit_plain (a.val % 4 * 16) (by omega)
      simp only [encode, List.forall_mem_cons]
      exact ⟨first, second, fill, fill, nofun⟩
  | [a, b] => by
      have small := a.isLt
      have below := b.isLt
      have fill : IsPlain (code '=') := by decide
      have first := @digit_plain (a.val / 4) (by omega)
      have second := @digit_plain (a.val % 4 * 16 + b.val / 16) (by omega)
      have third := @digit_plain (b.val % 16 * 4) (by omega)
      simp only [encode, List.forall_mem_cons]
      exact ⟨first, second, third, fill, nofun⟩
  | a :: b :: c :: rest => by
      have small := a.isLt
      have below := b.isLt
      have under := c.isLt
      have first := @digit_plain (a.val / 4) (by omega)
      have second := @digit_plain (a.val % 4 * 16 + b.val / 16) (by omega)
      have third := @digit_plain (b.val % 16 * 4 + c.val / 64) (by omega)
      have fourth := @digit_plain (c.val % 64) (by omega)
      simp only [encode, List.forall_mem_cons]
      exact ⟨first, second, third, fourth, encode_plain rest⟩

example : encode [77, 97] = "TWE=" := by decide

end Base64

end Python
