import OpnsensePlugin.Management.Crl

/-!
# Path segments

The identifiers of the API in a path: canonical UUIDs, references of a CA, and
quoted identifiers. Each is one segment, which neither leaves the path that it
is put behind nor starts a query or a fragment. A path is confined to fixed
paths if it is one of them or one of them and one segment.
-/

namespace OpnsensePlugin

open Effects Python

/-- A text that is one segment of a path and no dot segment -/
structure IsSegment (text : Str) : Prop where
  slash : code '/' ∉ text
  query : code '?' ∉ text
  fragment : code '#' ∉ text
  notHere : text ≠ "."
  notParent : text ≠ ".."

/-- Characters that end a segment -/
def endsSegment : Str := "/?#"

theorem IsSegment.of_long {text : Str} (safe : ∀ c ∈ text, c ∉ endsSegment)
    (long : 2 < text.length) : IsSegment text := by
  refine ⟨fun slash => ?_, fun query => ?_, fun fragment => ?_, ?_, ?_⟩
  · exact safe _ slash (by decide)
  · exact safe _ query (by decide)
  · exact safe _ fragment (by decide)
  · rintro rfl
    exact absurd long (by decide)
  · rintro rfl
    exact absurd long (by decide)

/-! ## UUIDs and references -/

/-- `str(UUID(int=value))` of some value -/
def IsCanonicalUuid (text : Str) : Prop := ∃ value < 2 ^ 128, text = uuidText value

/-- A digit, or a letter of a hexadecimal number in lower case -/
def IsHexDigit (c : CodePoint) : Prop :=
  (code '0' ≤ c ∧ c ≤ code '9') ∨ (code 'a' ≤ c ∧ c ≤ code 'f')

theorem IsHexDigit.safe {c : Nat} (digit : IsHexDigit c) : c ∉ endsSegment := by
  have bounds : (48 ≤ c ∧ c ≤ 57) ∨ (97 ≤ c ∧ c ≤ 102) := digit
  have shape : endsSegment = ([47, 63, 35] : List Nat) := by decide
  rw [shape]
  simp only [List.mem_cons, List.not_mem_nil, or_false]
  omega

instance : DecidablePred IsHexDigit := fun _ => inferInstanceAs (Decidable (_ ∨ _))

theorem isHexDigit_digit : ∀ digit < 16,
    IsHexDigit (if digit < 10 then code '0' + digit else code 'a' + (digit - 10)) := by
  decide

theorem length_hexDigits {width value : Nat} : (hexDigits width value).length = width := by
  induction width generalizing value with
  | zero => rfl
  | succ width ih => simp [hexDigits, ih]

theorem isHexDigit_hexDigits {width value : Nat} :
    ∀ c ∈ hexDigits width value, IsHexDigit c := by
  induction width generalizing value with
  | zero => simp [hexDigits]
  | succ width ih =>
      intro c member
      rcases List.mem_append.mp member with member | member
      · exact ih c member
      · rw [List.mem_singleton.mp member]
        exact isHexDigit_digit _ (Nat.mod_lt _ (by decide))

theorem uuidText_eq {value : Nat} :
    uuidText value = (hexDigits 32 value).take 8 ++ code '-' ::
      (((hexDigits 32 value).drop 8).take 4 ++ code '-' ::
        (((hexDigits 32 value).drop 12).take 4 ++ code '-' ::
          (((hexDigits 32 value).drop 16).take 4 ++ code '-' :: (hexDigits 32 value).drop 20))) := by
  simp [uuidText, join]

theorem length_uuidText {value : Nat} : (uuidText value).length = 36 := by
  rw [uuidText_eq]
  simp [length_hexDigits]

theorem uuidText_safe {value : Nat} : ∀ c ∈ uuidText value, c ∉ endsSegment := by
  intro c member
  have digits : ∀ c ∈ hexDigits 32 value, c ∉ endsSegment := fun c found =>
    (isHexDigit_hexDigits c found).safe
  have dash : code '-' ∉ endsSegment := by decide
  rw [uuidText_eq] at member
  simp only [List.mem_append, List.mem_cons] at member
  rcases member with found | rfl | found | rfl | found | rfl | found | rfl | found
  · exact digits c (List.mem_of_mem_take found)
  · exact dash
  · exact digits c (List.mem_of_mem_drop (List.mem_of_mem_take found))
  · exact dash
  · exact digits c (List.mem_of_mem_drop (List.mem_of_mem_take found))
  · exact dash
  · exact digits c (List.mem_of_mem_drop (List.mem_of_mem_take found))
  · exact dash
  · exact digits c (List.mem_of_mem_drop found)

theorem IsCanonicalUuid.isSegment {text : Str} (canonical : IsCanonicalUuid text) :
    IsSegment text := by
  rcases canonical with ⟨value, bound, same⟩
  rw [same]
  have long : 2 < (uuidText value).length := by
    rw [length_uuidText]
    decide
  exact .of_long uuidText_safe long

theorem IsCanonicalUuid.ne_nil {text : Str} (canonical : IsCanonicalUuid text) : text ≠ [] := by
  rintro rfl
  rcases canonical with ⟨value, bound, same⟩
  have length := congrArg List.length same
  rw [length_uuidText] at length
  exact absurd length (by decide)

theorem isSegment_of_isRefid {text : Str} (refid : CrlService.isRefid text = true) :
    IsSegment text := by
  simp only [CrlService.isRefid, Bool.and_eq_true, decide_eq_true_eq, List.all_eq_true] at refid
  rcases refid with ⟨length, digits⟩
  refine .of_long (fun c member => ?_) (by rw [length]; decide)
  have digit := digits c member
  simp only [isAsciiDigit, Bool.or_eq_true, Bool.and_eq_true, decide_eq_true_eq] at digit
  exact IsHexDigit.safe digit

theorem parseUuid_lt {text : Str} {value : Nat} (parsed : parseUuid text = some value) :
    value < 2 ^ 128 := by
  unfold parseUuid at parsed
  dsimp only at parsed
  split at parsed
  · cases parsed
  · split at parsed
    · split at parsed
      · rename_i bound
        cases parsed
        exact bound
      · cases parsed
    · cases parsed

/-! ## Quoted identifiers -/

section Quoted

open Management

variable {text segment : Str}

/-- What `quote` makes of one byte -/
def quotedByte (byte : Nat) : Str :=
  if isAsciiAlnum byte || byte ∈ ("_.-~" : Str) then [byte]
  else code '%' :: (hexDigits 2 byte).map fun c => if code 'a' ≤ c then c - 32 else c

theorem quote_eq_ok (quoted : quote text = .ok segment) :
    segment = (Sha256.utf8 text).flatMap quotedByte := by
  unfold quote at quoted
  split at quoted
  · cases quoted
    rfl
  · cases quoted

theorem upperHex_safe {c : Nat} (digit : IsHexDigit c) :
    (if code 'a' ≤ c then c - 32 else c) ∉ endsSegment := by
  have bounds : (48 ≤ c ∧ c ≤ 57) ∨ (97 ≤ c ∧ c ≤ 102) := digit
  have table : ∀ c < 103, IsHexDigit c →
      (if code 'a' ≤ c then c - 32 else c) ∉ endsSegment := by decide
  have small : c < (103 : Nat) := by omega
  exact table c small digit

theorem quotedByte_safe {byte : Nat} : ∀ c ∈ quotedByte byte, c ∉ endsSegment := by
  intro c member
  unfold quotedByte at member
  split at member
  · rename_i kept
    rw [List.mem_singleton.mp member]
    intro ends
    have listed : ∀ c ∈ endsSegment, (isAsciiAlnum c || c ∈ ("_.-~" : Str)) = false := by decide
    rw [listed byte ends] at kept
    cases kept
  · rcases List.mem_cons.mp member with rfl | member
    · decide
    · rcases List.mem_map.mp member with ⟨digit, found, rfl⟩
      exact upperHex_safe (isHexDigit_hexDigits digit found)

theorem length_le_flatMap {α β : Type} {make : α → List β} {items : List α}
    (nonempty : ∀ item, 1 ≤ (make item).length) :
    items.length ≤ (items.flatMap make).length := by
  induction items with
  | nil => simp
  | cons item rest ih =>
      have first := nonempty item
      rw [List.flatMap_cons, List.length_append, List.length_cons]
      omega

theorem length_le_quoted (quoted : quote text = .ok segment) : text.length ≤ segment.length := by
  have bytes : text.length ≤ (Sha256.utf8 text).length := by
    apply length_le_flatMap
    intro c
    split_ifs <;> simp
  have characters : (Sha256.utf8 text).length ≤ segment.length := by
    rw [quote_eq_ok quoted]
    apply length_le_flatMap
    intro byte
    unfold quotedByte
    split <;> simp
  exact bytes.trans characters

theorem quoted_safe (quoted : quote text = .ok segment) : ∀ c ∈ segment, c ∉ endsSegment := by
  intro c member
  rw [quote_eq_ok quoted] at member
  rcases List.mem_flatMap.mp member with ⟨byte, _, found⟩
  exact quotedByte_safe c found

/-- An ASCII letter or digit at the front of a text is not quoted. -/
theorem head_quoted {c : CodePoint} {rest : Str} (quoted : quote (c :: rest) = .ok segment)
    (plain : isAsciiAlnum c = true) : ∃ more, segment = c :: more := by
  have small : c < 0x80 := by
    simp only [isAsciiAlnum, isAsciiAlpha, isAsciiDigit, Bool.or_eq_true, Bool.and_eq_true,
      decide_eq_true_eq] at plain
    have letters : code 'z' < 0x80 ∧ code 'Z' < 0x80 ∧ code '9' < 0x80 := by decide
    rcases plain with (⟨_, bound⟩ | ⟨_, bound⟩) | ⟨_, bound⟩
    · exact lt_of_le_of_lt bound (by decide)
    · exact lt_of_le_of_lt bound (by decide)
    · exact lt_of_le_of_lt bound (by decide)
  rw [quote_eq_ok quoted, Sha256.utf8, List.flatMap_cons, if_pos small, List.singleton_append,
    List.flatMap_cons, quotedByte, plain, Bool.true_or, if_pos rfl, List.singleton_append]
  exact ⟨_, rfl⟩

/-- An identifier of a session, as it is quoted in a path -/
def IsSessionSegment (segment : Str) : Prop :=
  ∃ text, isIdentifier text = true ∧ quote text = .ok segment

theorem IsSessionSegment.isSegment (session : IsSessionSegment segment) : IsSegment segment := by
  rcases session with ⟨text, identifier, quoted⟩
  have safe := quoted_safe quoted
  simp only [isIdentifier, Bool.and_eq_true] at identifier
  rcases identifier with ⟨⟨front, _⟩, _⟩
  cases text with
  | nil => cases front
  | cons c rest =>
      have plain : isAsciiAlnum c = true := by simpa using front
      rcases head_quoted quoted plain with ⟨more, rfl⟩
      have letter : ∀ c ∈ ("." : Str), isAsciiAlnum c = false := by decide
      refine ⟨fun found => safe _ found (by decide), fun found => safe _ found (by decide),
        fun found => safe _ found (by decide), fun dot => ?_, fun dots => ?_⟩
      · rw [(List.cons.inj dot).1] at plain
        exact absurd plain (by decide)
      · rw [(List.cons.inj dots).1] at plain
        exact absurd plain (by decide)

variable [Runtime]

/-- The identifier of a job: a UUID but for the case of its letters -/
def IsJobId (text : Str) : Prop :=
  (parseUuid text).isSome ∧ IsCanonicalUuid (Runtime.lower text)

/-- An identifier of a job, as it is quoted in a path -/
def IsJobSegment (segment : Str) : Prop := ∃ text, IsJobId text ∧ quote text = .ok segment

omit [Runtime] in
theorem length_removeAll_le {needle : Str} {skip : Nat} {text : Str} :
    (removeAll needle skip text).length ≤ text.length := by
  induction text generalizing skip with
  | nil => cases skip <;> simp [removeAll]
  | cons c rest ih =>
      cases skip with
      | zero =>
          rw [removeAll]
          split
          · exact Nat.le_succ_of_le ih
          · exact Nat.succ_le_succ ih
      | succ skip => exact Nat.le_succ_of_le ih

omit [Runtime] in
theorem length_stripWith_le {drop : CodePoint → Bool} {text : Str} :
    (stripWith drop text).length ≤ text.length := by
  have front : (text.dropWhile drop).length ≤ text.length :=
    (List.dropWhile_suffix drop).length_le
  have back : ((text.dropWhile drop).reverse.dropWhile drop).length ≤
      (text.dropWhile drop).reverse.length := (List.dropWhile_suffix drop).length_le
  rw [List.length_reverse] at back
  rw [stripWith, List.length_reverse]
  exact back.trans front

omit [Runtime] in
theorem length_of_parseUuid (parsed : (parseUuid text).isSome = true) : 32 ≤ text.length := by
  unfold parseUuid at parsed
  dsimp only at parsed
  split at parsed
  · cases parsed
  · rename_i length
    rw [not_not] at length
    rw [← length]
    refine (List.length_filter_le _ _).trans (length_stripWith_le.trans ?_)
    exact length_removeAll_le.trans length_removeAll_le

theorem IsJobSegment.isSegment (job : IsJobSegment segment) : IsSegment segment := by
  rcases job with ⟨text, ⟨parsed, _⟩, quoted⟩
  have long := (length_of_parseUuid parsed).trans (length_le_quoted quoted)
  exact .of_long (quoted_safe quoted) (by omega)

end Quoted

/-! ## Confined paths -/

/-- One of the fixed paths, or one of them and a segment -/
def Confined (fixed : List Str) (segment : Str → Prop) (path : Str) : Prop :=
  path ∈ fixed ∨ ∃ base ∈ fixed, ∃ item, segment item ∧ path = base ++ "/" ++ item

/-- Every path that a request passes to a client is confined. -/
def StaysWithin {Node : Type} (fixed : List Str) (segment : Str → Prop) : Request Node → Prop
  | .get _ path _ | .post _ path _ => Confined fixed segment path
  | _ => True

/-- A request to no client -/
def IsInternal {Node : Type} : Request Node → Prop
  | .get _ _ _ | .post _ _ _ => False
  | _ => True

theorem IsInternal.staysWithin {Node : Type} {fixed : List Str} {segment : Str → Prop}
    {request : Request Node} (internal : IsInternal request) :
    StaysWithin fixed segment request := by
  cases request with
  | get | post => exact internal.elim
  | _ => exact trivial

end OpnsensePlugin
