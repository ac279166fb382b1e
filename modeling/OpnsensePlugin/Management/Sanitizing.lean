import Mathlib.Data.List.Infix
import Mathlib.Data.List.TakeWhile
import OpnsensePlugin.Management.Operations
import OpnsensePlugin.Python.Fields
import OpnsensePlugin.Python.Split

/-!
# What sanitizing leaves

`_sanitize` drops the entries whose keys name secrets and redacts texts with a
private key or a URL with credentials. What it leaves depends on nothing that
stands under a dropped key, and sanitizing it again changes nothing. Keys that
are kept are not redacted.
-/

namespace OpnsensePlugin

open Python

namespace Management

/-! ## The patterns -/

section Patterns

variable {needle text word front back : Str} {c : CodePoint}

theorem contains_iff : contains needle text = true ↔ needle <:+: text := by
  simp only [contains, List.any_eq_true, List.mem_tails, List.isPrefixOf_iff_prefix]
  constructor
  · rintro ⟨tail, suffix, starts⟩
    exact starts.isInfix.trans suffix.isInfix
  · rintro ⟨front, back, rfl⟩
    exact ⟨needle ++ back, ⟨front, by simp⟩, List.prefix_append _ _⟩

theorem mem_afterEach_iff : back ∈ afterEach needle text ↔ ∃ front, text = front ++ needle ++ back := by
  simp only [afterEach, List.mem_map, List.mem_filter, List.mem_tails, List.isPrefixOf_iff_prefix]
  constructor
  · rintro ⟨tail, ⟨⟨front, rfl⟩, ⟨rest, rfl⟩⟩, rfl⟩
    exact ⟨front, by simp⟩
  · rintro ⟨front, rfl⟩
    exact ⟨needle ++ back, ⟨⟨front, by simp⟩, List.prefix_append _ _⟩, by simp⟩

theorem infix_join {parts : List Str} (member : word ∈ parts) : word <:+: join [c] parts := by
  induction parts with
  | nil => cases member
  | cons head rest ih =>
      cases rest with
      | nil =>
          rw [List.mem_singleton.mp member]
          exact List.infix_refl _
      | cons next more =>
          rw [join]
          rcases List.mem_cons.mp member with rfl | member
          · exact ⟨[], [c] ++ join [c] (next :: more), by simp⟩
          · exact List.IsInfix.trans (ih member) (List.suffix_append _ _).isInfix
          · simp

theorem infix_of_mem_splitOn (member : word ∈ splitOn c text) : word <:+: text := by
  have inside : word <:+: join [c] (splitOn c text) := infix_join member
  rwa [join_splitOn] at inside

theorem prefix_part (clean : c ∉ word) (starts : word <+: text) :
    ∃ head tail, splitOn c text = head :: tail ∧ word <+: head := by
  induction text generalizing word with
  | nil =>
      rw [List.prefix_nil.mp starts]
      exact ⟨[], [], rfl, List.prefix_refl _⟩
  | cons d rest ih =>
      cases word with
      | nil =>
          rcases List.exists_cons_of_ne_nil (@splitOn_ne_nil c (d :: rest)) with ⟨head, tail, split⟩
          exact ⟨head, tail, split, List.nil_prefix⟩
      | cons e word =>
          rw [List.cons_prefix_cons] at starts
          rcases starts with ⟨rfl, starts⟩
          have other : e ≠ c := by
            rintro rfl
            exact clean (by simp)
          rcases ih (fun inside => clean (List.mem_cons_of_mem _ inside)) starts with
            ⟨head, tail, split, begins⟩
          refine ⟨e :: head, tail, ?_, ?_⟩
          · rw [splitOn, if_neg other, split]
          · rw [List.cons_prefix_cons]
            exact ⟨rfl, begins⟩

/-- A word without the separator stands in one of the parts. -/
theorem exists_part_of_infix (clean : c ∉ word) (inside : word <:+: text) :
    ∃ part ∈ splitOn c text, word <:+: part := by
  induction text with
  | nil => exact ⟨[], by simp [splitOn], inside⟩
  | cons d rest ih =>
      rcases List.infix_cons_iff.mp inside with starts | later
      · rcases prefix_part clean starts with ⟨head, tail, split, begins⟩
        exact ⟨head, by simp [split], begins.isInfix⟩
      · rcases ih later with ⟨part, member, found⟩
        by_cases same : d = c
        · exact ⟨part, by simp [splitOn, same, member], found⟩
        · rcases List.exists_cons_of_ne_nil (@splitOn_ne_nil c rest) with ⟨head, tail, split⟩
          rw [split] at member
          rcases List.mem_cons.mp member with rfl | member
          · exact ⟨d :: part, by simp [splitOn, same, split], List.infix_cons found⟩
          · exact ⟨part, by simp [splitOn, same, split, member], found⟩

end Patterns

/-- The header of a private key in the PEM format, in any case -/
def HasPrivateKey (text : Str) : Prop :=
  ∃ front middle back, text.map foldCase =
    front ++ ("-----begin " ++ middle ++ "private key-----") ++ back ∧ 10 ∉ middle

/-- A URL with a user and a password -/
def HasCredentials (text : Str) : Prop :=
  ∃ scheme ∈ (["http://", "https://"] : List Str), ∃ front user password back,
    text.map foldCase = front ++ scheme ++ (user ++ code ':' :: (password ++ code '@' :: back)) ∧
      user ≠ [] ∧ password ≠ [] ∧
      ∀ c ∈ user ++ password, isSpace c = false ∧ c ≠ code '/'

def Exposes (text : Str) : Prop := HasPrivateKey text ∨ HasCredentials text

section Exposing

variable {text : Str}

theorem hasPrivateKey_iff : hasPrivateKey (text.map foldCase) = true ↔ HasPrivateKey text := by
  simp only [hasPrivateKey, List.any_eq_true, contains_iff, mem_afterEach_iff]
  constructor
  · rintro ⟨line, member, rest, ⟨front, rfl⟩, middle, back, rfl⟩
    have clean := not_mem_of_mem_splitOn member
    rcases infix_of_mem_splitOn member with ⟨before, after, whole⟩
    refine ⟨before ++ front, middle, back ++ after, ?_, ?_⟩
    · rw [← whole]
      simp
    · intro inside
      exact clean (by simp [inside])
  · rintro ⟨front, middle, back, whole, clean⟩
    have word : 10 ∉ ("-----begin " ++ middle ++ "private key-----" : Str) := by
      have fixed : 10 ∉ ("-----begin " : Str) ∧ 10 ∉ ("private key-----" : Str) := by decide
      simp [clean, fixed]
    rcases exists_part_of_infix word ⟨front, back, whole.symm⟩ with ⟨line, member, before, after, rfl⟩
    refine ⟨_, member, middle ++ "private key-----" ++ after, ⟨before, by simp⟩, ?_⟩
    exact ⟨middle, after, by simp⟩

theorem startsWithCredentials_iff : startsWithCredentials text = true ↔
    ∃ user password back, text = user ++ code ':' :: (password ++ code '@' :: back) ∧
      user ≠ [] ∧ password ≠ [] ∧
      ∀ c ∈ user ++ password, isSpace c = false ∧ c ≠ code '/' := by
  constructor
  · intro starts
    rw [startsWithCredentials] at starts
    generalize same : (text.takeWhile fun c => !isSpace c && c ≠ code '/') = run at starts
    have inside : ∀ c ∈ run, isSpace c = false ∧ c ≠ code '/' := by
      intro c member
      rw [← same] at member
      simpa using List.mem_takeWhile_imp member
    have whole : text = run ++ text.dropWhile fun c => !isSpace c && c ≠ code '/' := by
      rw [← same]
      exact List.takeWhile_append_dropWhile.symm
    generalize (text.dropWhile fun c => !isSpace c && c ≠ code '/') = rest at whole
    cases run with
    | nil => simp at starts
    | cons first run =>
        have halves : run = (run.takeWhile (· ≠ code ':')) ++ run.dropWhile (· ≠ code ':') :=
          List.takeWhile_append_dropWhile.symm
        cases behind : run.dropWhile (· ≠ code ':') with
        | nil =>
            simp only [List.drop_one, List.tail_cons] at starts
            rw [behind] at starts
            cases starts
        | cons colon after =>
            have isColon : colon = code ':' := by
              have head := List.head?_dropWhile_not (· ≠ code ':') run
              rw [behind] at head
              simpa using head
            subst isColon
            simp only [List.drop_one, List.tail_cons] at starts
            rw [behind] at starts
            simp only [decide_eq_true_eq] at starts
            rcases List.append_of_mem starts with ⟨middle, back, found⟩
            cases after with
            | nil => simp at found
            | cons start after =>
                rw [List.tail_cons] at found
                subst found
                rw [behind] at halves
                refine ⟨first :: run.takeWhile (· ≠ code ':'), start :: middle, back ++ rest, ?_,
                  by simp, by simp, ?_⟩
                · rw [whole]
                  conv_lhs => rw [halves]
                  simp
                · intro c member
                  apply inside
                  rw [halves]
                  simp only [List.cons_append, List.mem_cons, List.mem_append] at member ⊢
                  grind
  · rintro ⟨user, password, back, rfl, named, some, proper⟩
    rcases List.exists_cons_of_ne_nil named with ⟨first, user, rfl⟩
    rcases List.exists_cons_of_ne_nil some with ⟨start, password, rfl⟩
    have inside : ∀ c ∈ first :: user ++ code ':' :: (start :: password) ++ [code '@'],
        (!isSpace c && decide (c ≠ code '/')) = true := by
      have marks : ∀ c ∈ [code ':', code '@'], isSpace c = false ∧ c ≠ code '/' := by decide
      intro c member
      have visible : isSpace c = false ∧ c ≠ code '/' := by
        simp only [List.cons_append, List.mem_cons, List.mem_append, List.not_mem_nil,
          or_false] at member proper marks
        grind
      simpa using visible
    have split : first :: user ++ code ':' :: (start :: password ++ code '@' :: back) =
        (first :: user ++ code ':' :: (start :: password) ++ [code '@']) ++ back := by
      simp
    rw [startsWithCredentials, split, List.takeWhile_append_of_pos inside]
    generalize (back.takeWhile fun c => !isSpace c && decide (c ≠ code '/')) = more
    have tail : (first :: user ++ code ':' :: (start :: password) ++ [code '@'] ++ more).drop 1 =
        user ++ code ':' :: (start :: (password ++ code '@' :: more)) := by
      simp
    rw [tail, List.dropWhile_append]
    cases early : user.dropWhile (· ≠ code ':') with
    | nil => simp
    | cons colon after => cases after <;> simp

theorem hasCredentials_iff : hasCredentials (text.map foldCase) = true ↔ HasCredentials text := by
  simp only [hasCredentials, List.any_eq_true, mem_afterEach_iff, startsWithCredentials_iff]
  constructor
  · rintro ⟨scheme, listed, rest, ⟨front, whole⟩, user, password, back, rfl, proper⟩
    exact ⟨scheme, listed, front, user, password, back, whole, proper⟩
  · rintro ⟨scheme, listed, front, user, password, back, whole, proper⟩
    exact ⟨scheme, listed, _, ⟨front, whole⟩, user, password, back, rfl, proper⟩

instance : Decidable (Exposes text) :=
  decidable_of_iff (hasPrivateKey (text.map foldCase) = true ∨ hasCredentials (text.map foldCase) = true)
    (or_congr hasPrivateKey_iff hasCredentials_iff)

/-- A text that exposes something is replaced, and other texts stay. -/
theorem redacted_cases : (Exposes text ∧ redacted text = "[redacted]") ∨
    ¬ Exposes text ∧ redacted text = text := by
  have found : (hasPrivateKey (text.map foldCase) || hasCredentials (text.map foldCase)) = true ↔
      Exposes text := by
    rw [Bool.or_eq_true, hasPrivateKey_iff, hasCredentials_iff]
    rfl
  cases hidden : hasPrivateKey (text.map foldCase) || hasCredentials (text.map foldCase) with
  | true => exact .inl ⟨found.mp hidden, by simp [redacted, hidden]⟩
  | false =>
      refine .inr ⟨fun exposes => ?_, by simp [redacted, hidden]⟩
      rw [found.mpr exposes] at hidden
      cases hidden

theorem not_exposes_mark : ¬ Exposes ("[redacted]" : Str) := by decide

theorem not_exposes_redacted : ¬ Exposes (redacted text) := by
  rcases @redacted_cases text with ⟨_, same⟩ | ⟨clean, same⟩
  · rw [same]
    exact not_exposes_mark
  · rw [same]
    exact clean

theorem redacted_redacted : redacted (redacted text) = redacted text := by
  rcases @redacted_cases (redacted text) with ⟨exposes, _⟩ | ⟨_, same⟩
  · exact absurd exposes not_exposes_redacted
  · exact same

end Exposing

/-! ## Keys and texts -/

mutual

/-- The keys of all dictionaries in a value -/
def allKeys : Json → List Str
  | .obj fields => allKeysFields fields
  | .arr items => allKeysItems items
  | _ => []

def allKeysFields : List (Str × Json) → List Str
  | [] => []
  | (key, value) :: rest => key :: (allKeys value ++ allKeysFields rest)

def allKeysItems : List Json → List Str
  | [] => []
  | value :: rest => allKeys value ++ allKeysItems rest

end

mutual

/-- The keys that name no secret and stand under no such key -/
def openKeys : Json → List Str
  | .obj fields => openKeysFields fields
  | .arr items => openKeysItems items
  | _ => []

def openKeysFields : List (Str × Json) → List Str
  | [] => []
  | (key, value) :: rest =>
      if isSecretKey key then openKeysFields rest
      else key :: (openKeys value ++ openKeysFields rest)

def openKeysItems : List Json → List Str
  | [] => []
  | value :: rest => openKeys value ++ openKeysItems rest

end

mutual

/-- The texts in a value, its keys apart -/
def allTexts : Json → List Str
  | .str text => [text]
  | .obj fields => allTextsFields fields
  | .arr items => allTextsItems items
  | _ => []

def allTextsFields : List (Str × Json) → List Str
  | [] => []
  | (_, value) :: rest => allTexts value ++ allTextsFields rest

def allTextsItems : List Json → List Str
  | [] => []
  | value :: rest => allTexts value ++ allTextsItems rest

end

/-! ## Sanitized values -/

section Sanitized

variable {depth : Nat}

theorem sanitize_obj {fields : List (Str × Json)} {kept : Json} :
    sanitize depth (.obj fields) = .ok kept ↔
      depth ≤ 16 ∧ ∃ left, sanitizeFields (depth + 1) fields = .ok left ∧ kept = .obj left := by
  simp only [sanitize, bind_eq_ok, raiseIf_eq_ok, pure_eq_ok, exists_and_left, exists_const,
    decide_eq_false_iff_not, Nat.not_lt]

theorem sanitize_arr {items : List Json} {kept : Json} :
    sanitize depth (.arr items) = .ok kept ↔
      depth ≤ 16 ∧ ∃ left, sanitizeItems (depth + 1) items = .ok left ∧ kept = .arr left := by
  simp only [sanitize, bind_eq_ok, raiseIf_eq_ok, pure_eq_ok, exists_and_left, exists_const,
    decide_eq_false_iff_not, Nat.not_lt]

theorem sanitizeFields_cons {key : Str} {value : Json} {rest kept : List (Str × Json)} :
    sanitizeFields depth ((key, value) :: rest) = .ok kept ↔
      if isSecretKey key then sanitizeFields depth rest = .ok kept
      else ∃ first left, sanitize depth value = .ok first ∧ sanitizeFields depth rest = .ok left ∧
        kept = (key, first) :: left := by
  rw [sanitizeFields]
  split
  · rfl
  · simp only [bind_eq_ok, pure_eq_ok, exists_and_left]

theorem sanitizeItems_cons {value : Json} {rest kept : List Json} :
    sanitizeItems depth (value :: rest) = .ok kept ↔
      ∃ first left, sanitize depth value = .ok first ∧ sanitizeItems depth rest = .ok left ∧
        kept = first :: left := by
  simp only [sanitizeItems, bind_eq_ok, pure_eq_ok, exists_and_left]

mutual

/-- The keys of a sanitized value are the open keys of the value. -/
theorem allKeys_sanitize {depth : Nat} : ∀ {value kept : Json}, sanitize depth value = .ok kept →
    allKeys kept = openKeys value
  | .obj fields, kept => by
      intro sanitized
      rcases sanitize_obj.mp sanitized with ⟨_, left, inside, rfl⟩
      exact allKeys_sanitizeFields inside
  | .arr items, kept => by
      intro sanitized
      rcases sanitize_arr.mp sanitized with ⟨_, left, inside, rfl⟩
      exact allKeys_sanitizeItems inside
  | .null, kept | .bool _, kept | .int _, kept | .float _, kept | .str _, kept => by
      intro sanitized
      simp only [sanitize, bind_eq_ok, pure_eq_ok] at sanitized
      rcases sanitized with ⟨_, _, rfl⟩
      rfl

theorem allKeys_sanitizeFields {depth : Nat} : ∀ {fields kept : List (Str × Json)},
    sanitizeFields depth fields = .ok kept → allKeysFields kept = openKeysFields fields
  | [], kept => by
      intro sanitized
      cases sanitized
      rfl
  | (key, value) :: rest, kept => by
      intro sanitized
      rw [sanitizeFields_cons] at sanitized
      rw [openKeysFields]
      split at sanitized
      · rename_i secret
        rw [if_pos secret]
        exact allKeys_sanitizeFields sanitized
      · rename_i known
        rcases sanitized with ⟨first, left, head, tail, rfl⟩
        rw [if_neg known, allKeysFields, allKeys_sanitize head, allKeys_sanitizeFields tail]

theorem allKeys_sanitizeItems {depth : Nat} : ∀ {items kept : List Json},
    sanitizeItems depth items = .ok kept → allKeysItems kept = openKeysItems items
  | [], kept => by
      intro sanitized
      cases sanitized
      rfl
  | value :: rest, kept => by
      intro sanitized
      rcases sanitizeItems_cons.mp sanitized with ⟨first, left, head, tail, rfl⟩
      rw [allKeysItems, openKeysItems, allKeys_sanitize head, allKeys_sanitizeItems tail]

end

mutual

theorem open_of_mem_openKeys {key : Str} : ∀ {value : Json}, key ∈ openKeys value →
    isSecretKey key = false
  | .obj _ => open_of_mem_openKeysFields
  | .arr _ => open_of_mem_openKeysItems
  | .null | .bool _ | .int _ | .float _ | .str _ => fun member => by cases member

theorem open_of_mem_openKeysFields {key : Str} : ∀ {fields : List (Str × Json)},
    key ∈ openKeysFields fields → isSecretKey key = false
  | [] => fun member => by cases member
  | (name, value) :: rest => by
      intro member
      rw [openKeysFields] at member
      split at member
      · exact open_of_mem_openKeysFields member
      · rename_i known
        rcases List.mem_cons.mp member with rfl | member
        · simpa using known
        · rcases List.mem_append.mp member with member | member
          · exact open_of_mem_openKeys member
          · exact open_of_mem_openKeysFields member

theorem open_of_mem_openKeysItems {key : Str} : ∀ {items : List Json},
    key ∈ openKeysItems items → isSecretKey key = false
  | [] => fun member => by cases member
  | value :: rest => by
      intro member
      rcases List.mem_append.mp member with member | member
      · exact open_of_mem_openKeys member
      · exact open_of_mem_openKeysItems member

end

mutual

/-- No text of a sanitized value exposes a secret. -/
theorem clean_of_sanitize {depth : Nat} : ∀ {value kept : Json}, sanitize depth value = .ok kept →
    ∀ text ∈ allTexts kept, ¬ Exposes text
  | .obj fields, kept => by
      intro sanitized
      rcases sanitize_obj.mp sanitized with ⟨_, left, inside, rfl⟩
      exact clean_of_sanitizeFields inside
  | .arr items, kept => by
      intro sanitized
      rcases sanitize_arr.mp sanitized with ⟨_, left, inside, rfl⟩
      exact clean_of_sanitizeItems inside
  | .str text, kept => by
      intro sanitized
      simp only [sanitize, bind_eq_ok, pure_eq_ok] at sanitized
      rcases sanitized with ⟨_, _, rfl⟩
      simpa [allTexts] using @not_exposes_redacted text
  | .null, kept | .bool _, kept | .int _, kept | .float _, kept => by
      intro sanitized
      simp only [sanitize, bind_eq_ok, pure_eq_ok] at sanitized
      rcases sanitized with ⟨_, _, rfl⟩
      simp [allTexts]

theorem clean_of_sanitizeFields {depth : Nat} : ∀ {fields kept : List (Str × Json)},
    sanitizeFields depth fields = .ok kept → ∀ text ∈ allTextsFields kept, ¬ Exposes text
  | [], kept => by
      intro sanitized
      cases sanitized
      simp [allTextsFields]
  | (key, value) :: rest, kept => by
      intro sanitized
      rw [sanitizeFields_cons] at sanitized
      split at sanitized
      · exact clean_of_sanitizeFields sanitized
      · rcases sanitized with ⟨first, left, head, tail, rfl⟩
        intro text member
        rcases List.mem_append.mp member with member | member
        · exact clean_of_sanitize head text member
        · exact clean_of_sanitizeFields tail text member

theorem clean_of_sanitizeItems {depth : Nat} : ∀ {items kept : List Json},
    sanitizeItems depth items = .ok kept → ∀ text ∈ allTextsItems kept, ¬ Exposes text
  | [], kept => by
      intro sanitized
      cases sanitized
      simp [allTextsItems]
  | value :: rest, kept => by
      intro sanitized
      rcases sanitizeItems_cons.mp sanitized with ⟨first, left, head, tail, rfl⟩
      intro text member
      rcases List.mem_append.mp member with member | member
      · exact clean_of_sanitize head text member
      · exact clean_of_sanitizeItems tail text member

end

mutual

/-- Sanitizing again changes nothing. -/
theorem sanitize_sanitize {depth : Nat} : ∀ {value kept : Json}, sanitize depth value = .ok kept →
    sanitize depth kept = .ok kept
  | .obj fields, kept => by
      intro sanitized
      rcases sanitize_obj.mp sanitized with ⟨shallow, left, inside, rfl⟩
      exact sanitize_obj.mpr ⟨shallow, left, sanitizeFields_sanitizeFields inside, rfl⟩
  | .arr items, kept => by
      intro sanitized
      rcases sanitize_arr.mp sanitized with ⟨shallow, left, inside, rfl⟩
      exact sanitize_arr.mpr ⟨shallow, left, sanitizeItems_sanitizeItems inside, rfl⟩
  | .str text, kept => by
      intro sanitized
      simp only [sanitize, bind_eq_ok, pure_eq_ok] at sanitized
      rcases sanitized with ⟨_, shallow, rfl⟩
      simp only [sanitize, bind_eq_ok, pure_eq_ok, redacted_redacted]
      exact ⟨(), shallow, trivial⟩
  | .null, kept | .bool _, kept | .int _, kept | .float _, kept => by
      intro sanitized
      simp only [sanitize, bind_eq_ok, pure_eq_ok] at sanitized
      rcases sanitized with ⟨_, shallow, rfl⟩
      simp only [sanitize, bind_eq_ok, pure_eq_ok]
      exact ⟨(), shallow, trivial⟩

theorem sanitizeFields_sanitizeFields {depth : Nat} : ∀ {fields kept : List (Str × Json)},
    sanitizeFields depth fields = .ok kept → sanitizeFields depth kept = .ok kept
  | [], kept => by
      intro sanitized
      cases sanitized
      rfl
  | (key, value) :: rest, kept => by
      intro sanitized
      rw [sanitizeFields_cons] at sanitized
      split at sanitized
      · exact sanitizeFields_sanitizeFields sanitized
      · rename_i known
        rcases sanitized with ⟨first, left, head, tail, rfl⟩
        rw [sanitizeFields_cons, if_neg known]
        exact ⟨first, left, sanitize_sanitize head, sanitizeFields_sanitizeFields tail, rfl⟩

theorem sanitizeItems_sanitizeItems {depth : Nat} : ∀ {items kept : List Json},
    sanitizeItems depth items = .ok kept → sanitizeItems depth kept = .ok kept
  | [], kept => by
      intro sanitized
      cases sanitized
      rfl
  | value :: rest, kept => by
      intro sanitized
      rcases sanitizeItems_cons.mp sanitized with ⟨first, left, head, tail, rfl⟩
      exact sanitizeItems_cons.mpr
        ⟨first, left, sanitize_sanitize head, sanitizeItems_sanitizeItems tail, rfl⟩

end

end Sanitized

/-! ## Values that differ in secrets only -/

mutual

/-- A value without what stands under the names of secrets -/
def maskSecrets : Json → Json
  | .obj fields => .obj (maskSecretFields fields)
  | .arr items => .arr (maskSecretItems items)
  | value => value

def maskSecretFields : List (Str × Json) → List (Str × Json)
  | [] => []
  | (key, value) :: rest =>
      (key, if isSecretKey key then .null else maskSecrets value) :: maskSecretFields rest

def maskSecretItems : List Json → List Json
  | [] => []
  | value :: rest => maskSecrets value :: maskSecretItems rest

end

/-- The values differ only in what stands under the names of secrets. -/
def SameButSecrets (first second : Json) : Prop := maskSecrets first = maskSecrets second

mutual

theorem sanitize_maskSecrets {depth : Nat} : ∀ {value : Json},
    sanitize depth (maskSecrets value) = sanitize depth value
  | .obj fields => by
      simp only [maskSecrets, sanitize]
      rw [sanitizeFields_maskSecretFields]
  | .arr items => by
      simp only [maskSecrets, sanitize]
      rw [sanitizeItems_maskSecretItems]
  | .null | .bool _ | .int _ | .float _ | .str _ => rfl

theorem sanitizeFields_maskSecretFields {depth : Nat} : ∀ {fields : List (Str × Json)},
    sanitizeFields depth (maskSecretFields fields) = sanitizeFields depth fields
  | [] => rfl
  | (key, value) :: rest => by
      cases secret : isSecretKey key with
      | true =>
          simp only [maskSecretFields, sanitizeFields, secret, if_true]
          exact sanitizeFields_maskSecretFields
      | false =>
          simp only [maskSecretFields, sanitizeFields, secret, Bool.false_eq_true, if_false]
          rw [sanitize_maskSecrets, sanitizeFields_maskSecretFields]

theorem sanitizeItems_maskSecretItems {depth : Nat} : ∀ {items : List Json},
    sanitizeItems depth (maskSecretItems items) = sanitizeItems depth items
  | [] => rfl
  | value :: rest => by
      simp only [maskSecretItems, sanitizeItems]
      rw [sanitize_maskSecrets, sanitizeItems_maskSecretItems]

end

/-! ## Checks of a masked answer -/

section Checks

variable [Runtime] {fields : List (Str × Json)} {value : Json} {key : Str}

omit [Runtime] in
theorem field_maskSecretFields (known : isSecretKey key = false) :
    field (maskSecretFields fields) key = (field fields key).map maskSecrets := by
  induction fields with
  | nil => rfl
  | cons entry rest ih =>
      rcases entry with ⟨name, value⟩
      rw [maskSecretFields, field_cons, field_cons, ih]
      by_cases same : key = name
      · subst same
        simp [known]
      · simp [same]

omit [Runtime] in
theorem truthy_maskSecrets : (maskSecrets value).truthy = value.truthy := by
  cases value with
  | obj fields => cases fields <;> rfl
  | arr items => cases items <;> rfl
  | _ => rfl

omit [Runtime] in
theorem isText_maskSecrets {text : Str} : (maskSecrets value).isText text = value.isText text := by
  cases value <;> rfl

omit [Runtime] in
theorem fieldD_truthy_mask (known : isSecretKey key = false) :
    (fieldD (maskSecretFields fields) key .null).truthy = (fieldD fields key .null).truthy := by
  rw [fieldD, fieldD, field_maskSecretFields known]
  cases field fields key with
  | none => rfl
  | some value => exact truthy_maskSecrets

omit [Runtime] in
theorem fieldD_isText_mask (known : isSecretKey key = false) {text : Str} :
    (fieldD (maskSecretFields fields) key .null).isText text =
      (fieldD fields key .null).isText text := by
  rw [fieldD, fieldD, field_maskSecretFields known]
  cases field fields key with
  | none => rfl
  | some value => exact isText_maskSecrets

def isBracket (c : CodePoint) : Bool := c = code '[' || c = code '{'

/-- `str.lower` leaves a bracket at the start of a text alone. -/
def LowersBrackets : Prop :=
  ∀ c rest, isBracket c = true → ∃ more, Runtime.lower (c :: rest) = c :: more

/-- Words that no list or dictionary is written as -/
def PlainWords (words : List Str) : Prop :=
  ∀ word ∈ words, ∀ c rest, word = c :: rest → isBracket c = false

theorem lower_text_mask (brackets : LowersBrackets) {words : List Str} (plain : PlainWords words) :
    Runtime.lower (maskSecrets value).text ∈ words ↔ Runtime.lower value.text ∈ words := by
  have container : ∀ {c rest}, isBracket c = true → Runtime.lower (c :: rest) ∉ words := by
    intro c rest bracket member
    rcases brackets c rest bracket with ⟨more, same⟩
    rw [same] at member
    rw [plain _ member c more rfl] at bracket
    cases bracket
  cases value with
  | obj fields =>
      have written : ∀ fields : List (Str × Json), ∃ rest, (Json.obj fields).text = code '{' :: rest :=
        fun fields => ⟨_, rfl⟩
      rcases written fields with ⟨rest, same⟩
      rcases written (maskSecretFields fields) with ⟨more, masked⟩
      rw [maskSecrets, same, masked]
      exact iff_of_false (container (by decide)) (container (by decide))
  | arr items =>
      have written : ∀ items : List Json, ∃ rest, (Json.arr items).text = code '[' :: rest :=
        fun items => ⟨_, rfl⟩
      rcases written items with ⟨rest, same⟩
      rcases written (maskSecretItems items) with ⟨more, masked⟩
      rw [maskSecrets, same, masked]
      exact iff_of_false (container (by decide)) (container (by decide))
  | _ => rfl

theorem markerText_mask (brackets : LowersBrackets) {words : List Str} (plain : PlainWords words)
    (known : isSecretKey key = false) :
    markerText (maskSecretFields fields) key ∈ words ↔ markerText fields key ∈ words := by
  rw [markerText, markerText, fieldD, fieldD, field_maskSecretFields known]
  cases field fields key with
  | none => rfl
  | some value => exact lower_text_mask brackets plain

theorem checkRejection_mask (brackets : LowersBrackets) :
    checkRejection (maskSecretFields fields) = checkRejection fields := by
  have words : PlainWords ["failed", "failure", "error"] := by
    intro word member c rest same
    simp only [List.mem_cons, List.not_mem_nil, or_false] at member
    rcases member with rfl | rfl | rfl
    all_goals
      cases same
      rfl
  have status := @markerText_mask _ fields "status" brackets _ words (by decide)
  have result := @markerText_mask _ fields "result" brackets _ words (by decide)
  simp only [checkRejection, List.any_cons, List.any_nil, status, result]
  rw [fieldD_truthy_mask (by decide), fieldD_truthy_mask (by decide),
    fieldD_truthy_mask (by decide)]

/-- The acknowledgement is not read under the name of a secret, and is no list or dictionary. -/
def PlainAck (spec : OperationSpec) : Prop :=
  ∀ ack ∈ spec.ack, isSecretKey ack.key = false ∧ PlainWords ack.values

theorem checkAck_mask (brackets : LowersBrackets) {spec : OperationSpec} (plain : PlainAck spec) :
    checkAck spec (maskSecrets value) = checkAck spec value := by
  cases acknowledged : spec.ack with
  | none => simp [checkAck, acknowledged]
  | some ack =>
      rcases plain ack acknowledged with ⟨known, words⟩
      cases value with
      | obj fields =>
          have marker := @markerText_mask _ fields ack.key brackets _ words known
          simp only [maskSecrets, checkAck, acknowledged, marker]
          rw [fieldD_isText_mask (by decide), fieldD_isText_mask (by decide)]
      | _ => simp [maskSecrets, checkAck, acknowledged]

theorem checkResponse_mask (brackets : LowersBrackets) {spec : OperationSpec}
    (plain : PlainAck spec) :
    checkResponse spec (maskSecrets value) = checkResponse spec value := by
  have shape : checkShape (maskSecrets value) = checkShape value := by
    cases value with
    | obj fields => exact checkRejection_mask brackets
    | _ => rfl
  rw [checkResponse, checkResponse, shape, checkAck_mask brackets plain]

omit [Runtime] in
theorem confirmedState_mask {check : StatusCheck} :
    confirmedState check (maskSecrets value) = confirmedState check value := by
  cases value with
  | obj fields =>
      have known : isSecretKey "status" = false := by decide
      have texts : ∀ text : Str, (fieldD (maskSecretFields fields) "status" .null).isText text =
          (fieldD fields "status" .null).isText text := fun text => fieldD_isText_mask known
      simp only [maskSecrets, confirmedState, texts]
      cases found : check.expected.any fun text => (fieldD fields "status" .null).isText text with
      | false => rfl
      | true =>
          -- a status that is confirmed is a text
          have same : fieldD (maskSecretFields fields) "status" .null = fieldD fields "status" .null := by
            rcases List.any_eq_true.mp found with ⟨text, _, isText⟩
            rw [fieldD, fieldD, field_maskSecretFields known]
            cases status : field fields "status" with
            | none => rfl
            | some value =>
                simp only [fieldD, status, Option.getD_some] at isText
                cases value with
                | str => rfl
                | _ => cases isText
          rw [same]
  | _ => rfl

end Checks

theorem operations_plain : ∀ spec ∈ operations, PlainAck spec := by
  have listed : ∀ spec ∈ operations, ∀ ack ∈ spec.ack,
      isSecretKey ack.key = false ∧ ack.values = ["ok"] := by
    decide +kernel
  intro spec member ack acknowledged
  rcases listed spec member ack acknowledged with ⟨known, same⟩
  refine ⟨known, ?_⟩
  rw [same]
  intro word ok c rest shape
  rw [List.mem_singleton.mp ok] at shape
  cases shape
  rfl

/-- Sanitizing does not depend on secrets. -/
theorem sanitize_same {depth : Nat} {first second : Json} (same : SameButSecrets first second) :
    sanitize depth first = sanitize depth second := by
  rw [← sanitize_maskSecrets, same, sanitize_maskSecrets]

end Management

end OpnsensePlugin
