import OpnsensePlugin.Python.Sha256

/-!
# JSON values as Python sees them

`Json` is what `json.loads` can return, `Infinity` and `NaN` included. Objects
keep their insertion order. Operations that Python performs dynamically raise
the exception the interpreter would raise when the value has another type.
-/

namespace Python

/-- A `float`: a finite one is `± mantissa * 2 ^ exponent`. -/
inductive PyFloat
  | nan
  | infinity (negative : Bool)
  | finite (negative : Bool) (mantissa : Nat) (exponent : Int)
deriving DecidableEq

inductive Json
  | null
  | bool (value : Bool)
  | int (value : Int)
  | float (value : PyFloat)
  | str (value : Str)
  | arr (items : List Json)
  | obj (fields : List (Str × Json))

inductive Builtin
  | attributeError
  | keyError
  | osError
  | overflowError
  | typeError
  | unicodeEncodeError
  | valueError
deriving DecidableEq

/-- A raised exception: a builtin one, or one of the classes an application defines. -/
inductive Raised (Custom : Type)
  | builtin (kind : Builtin) (detail : Str)
  | custom (error : Custom)

namespace Raised

variable {Custom : Type}

/-- `except (ValueError, TypeError)`; encoding errors are value errors. -/
def isValueOrType : Raised Custom → Bool
  | .builtin .valueError _ | .builtin .typeError _ | .builtin .unicodeEncodeError _ => true
  | _ => false

/-- `except OSError` -/
def isOsError : Raised Custom → Bool
  | .builtin .osError _ => true
  | _ => false

end Raised

/-- Raise `error` if the condition holds. -/
def raiseIf {ε : Type} (condition : Bool) (error : ε) : Except ε Unit :=
  if condition then .error error else .ok ()

@[simp]
theorem raiseIf_eq_ok {ε : Type} {condition : Bool} {error : ε} {value : Unit} :
    raiseIf condition error = .ok value ↔ condition = false := by
  cases condition <;> simp [raiseIf]

@[simp]
theorem raiseIf_eq_error {ε : Type} {condition : Bool} {error raised : ε} :
    raiseIf condition error = .error raised ↔ condition = true ∧ raised = error := by
  cases condition <;> simp [raiseIf, eq_comm]

@[simp]
theorem bind_eq_ok {ε α β : Type} {outcome : Except ε α} {next : α → Except ε β} {result : β} :
    (outcome >>= next) = .ok result ↔ ∃ value, outcome = .ok value ∧ next value = .ok result := by
  cases outcome <;> simp [bind, Except.bind]

theorem bind_eq_error {ε α β : Type} {outcome : Except ε α} {next : α → Except ε β} {error : ε} :
    (outcome >>= next) = .error error ↔
      outcome = .error error ∨ ∃ value, outcome = .ok value ∧ next value = .error error := by
  cases outcome <;> simp [bind, Except.bind]

@[simp]
theorem pure_eq_ok {ε α : Type} {value result : α} :
    (pure value : Except ε α) = .ok result ↔ result = value := by
  simp [pure, Except.pure, eq_comm]

@[simp]
theorem pure_ne_error {ε α : Type} {value : α} {error : ε} :
    (pure value : Except ε α) ≠ .error error := by
  simp [pure, Except.pure]

theorem mapM_eq_ok_iff {ε α β : Type} {items : List α} {step : α → Except ε β}
    {results : List β} :
    items.mapM step = .ok results ↔
      List.Forall₂ (fun item result => step item = .ok result) items results := by
  induction items generalizing results with
  | nil => simp [pure_eq_ok]
  | cons item items ih =>
      simp only [List.mapM_cons, bind_eq_ok, pure_eq_ok, ih]
      constructor
      · rintro ⟨first, found, others, rest, rfl⟩
        exact .cons found rest
      · intro done
        cases done with
        | cons found rest => exact ⟨_, found, _, rest, rfl⟩

/-- Every result comes from an item. -/
theorem exists_of_mem_mapM {ε α β : Type} {items : List α} {step : α → Except ε β}
    {results : List β} {result : β} (done : items.mapM step = .ok results)
    (member : result ∈ results) : ∃ item ∈ items, step item = .ok result := by
  rw [mapM_eq_ok_iff] at done
  induction done with
  | nil => cases member
  | cons found rest ih =>
      rcases List.mem_cons.mp member with rfl | member
      · exact ⟨_, List.mem_cons_self, found⟩
      · rcases ih member with ⟨item, listed, same⟩
        exact ⟨item, List.mem_cons_of_mem _ listed, same⟩

/-- Every item has a result. -/
theorem exists_of_mapM_mem {ε α β : Type} {items : List α} {step : α → Except ε β}
    {results : List β} {item : α} (done : items.mapM step = .ok results)
    (member : item ∈ items) : ∃ result ∈ results, step item = .ok result := by
  rw [mapM_eq_ok_iff] at done
  induction done with
  | nil => cases member
  | cons found rest ih =>
      rcases List.mem_cons.mp member with rfl | member
      · exact ⟨_, List.mem_cons_self, found⟩
      · rcases ih member with ⟨result, listed, same⟩
        exact ⟨result, List.mem_cons_of_mem _ listed, same⟩

/-! ## Texts of values -/

section Texts

variable [Runtime]

def PyFloat.text : PyFloat → Str
  | .nan => "nan"
  | .infinity negative => if negative then "-inf" else "inf"
  | .finite negative mantissa exponent => Runtime.reprFloat negative mantissa exponent

mutual

/-- `repr` -/
def Json.repr : Json → Str
  | .null => "None"
  | .bool value => if value then "True" else "False"
  | .int value => intText value
  | .float value => value.text
  | .str value => Runtime.reprStr value
  | .arr items => "[" ++ join ", " (reprItems items) ++ "]"
  | .obj fields => "\x7b" ++ join ", " (reprFields fields) ++ "\x7d"

def reprItems : List Json → List Str
  | [] => []
  | item :: rest => item.repr :: reprItems rest

def reprFields : List (Str × Json) → List Str
  | [] => []
  | (key, value) :: rest => (Runtime.reprStr key ++ ": " ++ value.repr) :: reprFields rest

end

/-- `str` -/
def Json.text : Json → Str
  | .str value => value
  | value => value.repr

/-- `\u` escape of `json.dumps` for a control character -/
def unicodeEscape (c : CodePoint) : Str := "\\u" ++ hexDigits 4 c

def escapeChar (c : CodePoint) : Str :=
  if c = code '"' then "\\\""
  else if c = code '\\' then "\\\\"
  else if c = 8 then "\\b"
  else if c = 9 then "\\t"
  else if c = 10 then "\\n"
  else if c = 12 then "\\f"
  else if c = 13 then "\\r"
  else if c < 32 then unicodeEscape c
  else [c]

def quoted (s : Str) : Str := "\"" ++ s.flatMap escapeChar ++ "\""

mutual

/-- `json.dumps(value, sort_keys=True, separators=(",", ":"), ensure_ascii=False)` -/
def Json.dumps : Json → Str
  | .null => "null"
  | .bool value => if value then "true" else "false"
  | .int value => intText value
  | .float .nan => "NaN"
  | .float (.infinity negative) => if negative then "-Infinity" else "Infinity"
  | .float (.finite negative mantissa exponent) => Runtime.reprFloat negative mantissa exponent
  | .str value => quoted value
  | .arr items => "[" ++ join "," (dumpsItems items) ++ "]"
  | .obj fields =>
      let sorted := (dumpsFields fields).insertionSort fun a b => strLe a.1 b.1 = true
      "\x7b" ++ join "," (sorted.map fun (key, value) => quoted key ++ ":" ++ value) ++ "\x7d"

def dumpsItems : List Json → List Str
  | [] => []
  | item :: rest => item.dumps :: dumpsItems rest

def dumpsFields : List (Str × Json) → List (Str × Str)
  | [] => []
  | (key, value) :: rest => (key, value.dumps) :: dumpsFields rest

end

end Texts

/-! ## Dynamic operations -/

/-- The value of a key of a `dict`, if present -/
def field {α : Type} (fields : List (Str × α)) (key : Str) : Option α := fields.lookup key

/-- `fields[key] = value` -/
def setField {α : Type} (key : Str) (value : α) : List (Str × α) → List (Str × α)
  | [] => [(key, value)]
  | (name, old) :: rest =>
      if name = key then (name, value) :: rest else (name, old) :: setField key value rest

/-- `fields.get(key, default)` -/
def fieldD (fields : List (Str × Json)) (key : Str) (default : Json) : Json :=
  (field fields key).getD default

section Lookups

variable {α : Type} {entries : List (Str × α)} {name : Str} {value : α}

theorem field_of_not_mem (absent : name ∉ entries.map (·.1)) : field entries name = none := by
  rw [field, List.lookup_eq_none_iff]
  intro entry member
  rw [bne_iff_ne]
  rintro rfl
  exact absent (List.mem_map.mpr ⟨entry, member, rfl⟩)

theorem field_of_mem (distinct : (entries.map (·.1)).Nodup) (member : (name, value) ∈ entries) :
    field entries name = some value := by
  induction entries with
  | nil => cases member
  | cons entry rest ih =>
      rcases entry with ⟨key, first⟩
      rw [List.map_cons, List.nodup_cons] at distinct
      rcases List.mem_cons.mp member with same | member
      · rw [Prod.mk.injEq] at same
        rw [field, same.1, same.2, List.lookup_cons_self]
      · have listed : name ∈ rest.map (·.1) := List.mem_map.mpr ⟨(name, value), member, rfl⟩
        have other : (name == key) = false := by
          rw [beq_eq_false_iff_ne]
          rintro rfl
          exact distinct.1 listed
        rw [field, List.lookup_cons, other]
        exact ih distinct.2 member

theorem mem_of_field (found : field entries name = some value) : (name, value) ∈ entries := by
  induction entries with
  | nil => cases found
  | cons entry rest ih =>
      rcases entry with ⟨key, first⟩
      rw [field, List.lookup_cons] at found
      split at found
      · rename_i same
        rw [beq_iff_eq] at same
        cases found
        rw [same]
        exact List.mem_cons_self
      · exact List.mem_cons_of_mem _ (ih found)

end Lookups

namespace Json

variable {Custom : Type}

/-- `bool(value)` -/
def truthy : Json → Bool
  | .null => false
  | .bool value => value
  | .int value => value ≠ 0
  | .float (.finite _ mantissa _) => mantissa ≠ 0
  | .float _ => true
  | .str value => !value.isEmpty
  | .arr items => !items.isEmpty
  | .obj fields => !fields.isEmpty

def isObj : Json → Bool
  | .obj _ => true
  | _ => false

def isStr : Json → Bool
  | .str _ => true
  | _ => false

/-- `value == text` -/
def isText (text : Str) : Json → Bool
  | .str value => value = text
  | _ => false

/-- `value.get(key, default)` -/
def getD (value : Json) (key : Str) (default : Json) : Except (Raised Custom) Json :=
  match value with
  | .obj fields => .ok (fieldD fields key default)
  | _ => .error (.builtin .attributeError "get")

/-- `value.get(key)` -/
def get (value : Json) (key : Str) : Except (Raised Custom) Json := value.getD key .null

/-- `int(value)` of a finite float: rounded towards zero -/
def truncate (negative : Bool) (mantissa : Nat) : Int → Int
  | .ofNat exponent =>
      let magnitude : Int := mantissa * 2 ^ exponent
      if negative then -magnitude else magnitude
  | .negSucc exponent =>
      let magnitude : Int := (mantissa / 2 ^ (exponent + 1) : Nat)
      if negative then -magnitude else magnitude

/-- `int(value)` -/
def toInt : Json → Except (Raised Custom) Int
  | .bool value => .ok (if value then 1 else 0)
  | .int value => .ok value
  | .float .nan => .error (.builtin .valueError "cannot convert float NaN to integer")
  | .float (.infinity _) =>
      .error (.builtin .overflowError "cannot convert float infinity to integer")
  | .float (.finite negative mantissa exponent) => .ok (truncate negative mantissa exponent)
  | .str value =>
      match parseInt 10 value with
      | some number => .ok number
      | none => .error (.builtin .valueError "invalid literal for int()")
  | _ => .error (.builtin .typeError "int() argument")

@[simp]
theorem getD_eq_ok {value default result : Json} {key : Str} :
    (value.getD key default : Except (Raised Custom) Json) = .ok result ↔
      ∃ fields, value = .obj fields ∧ result = fieldD fields key default := by
  cases value <;> simp [getD, eq_comm]

@[simp]
theorem get_eq_ok {value result : Json} {key : Str} :
    (value.get key : Except (Raised Custom) Json) = .ok result ↔
      ∃ fields, value = .obj fields ∧ result = fieldD fields key .null := by
  simp [get]

end Json

end Python
