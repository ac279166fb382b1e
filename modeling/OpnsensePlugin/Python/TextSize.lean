import OpnsensePlugin.Python.Base64
import OpnsensePlugin.Python.NestedObject
import OpnsensePlugin.Python.Sha256

/-!
# The size of a text

The number of bytes of the UTF-8 encoding of what `json.dumps` writes.
-/

namespace Python

/-- `len(text.encode('utf-8'))` -/
def byteLength (text : Str) : Nat := (Sha256.utf8 text).length

variable {text front back key : Str} {c : CodePoint}

theorem byteLength_append : byteLength (front ++ back) = byteLength front + byteLength back := by
  simp [byteLength, Sha256.utf8]

theorem byteLength_cons : byteLength (c :: text) = byteLength [c] + byteLength text :=
  @byteLength_append [c] text

theorem byteLength_singleton_le : byteLength [c] ≤ 4 := by
  simp only [byteLength, Sha256.utf8, List.flatMap_cons, List.flatMap_nil, List.append_nil]
  split
  · exact Nat.le_add_left 1 3
  · split
    · exact Nat.le_add_left 2 2
    · split
      · exact Nat.le_add_left 3 1
      · exact Nat.le_refl 4

theorem byteLength_le : byteLength text ≤ 4 * text.length := by
  induction text with
  | nil => exact Nat.le_refl 0
  | cons c rest ih =>
      have one := @byteLength_singleton_le c
      rw [byteLength_cons, List.length_cons]
      omega

theorem byteLength_ascii (ascii : ∀ c ∈ text, c < 128) : byteLength text = text.length := by
  induction text with
  | nil => rfl
  | cons c rest ih =>
      have low : c < 128 := ascii c List.mem_cons_self
      have one : byteLength [c] = 1 := by simp [byteLength, Sha256.utf8, low]
      have tail := ih fun other mem => ascii other (List.mem_cons_of_mem c mem)
      rw [byteLength_cons, List.length_cons]
      omega

theorem length_escapeChar : (escapeChar c).length ≤ 6 := by
  rcases escapeChar_cases c with ⟨same, _⟩ | ⟨e, same, _⟩ | ⟨p, q, r, s, same, _⟩
  · simp [same]
  · simp [same]
  · simp [same]

theorem length_quoted_le : (quoted text).length ≤ 6 * text.length + 2 := by
  have inside : (escaped text).length ≤ 6 * text.length := by
    induction text with
    | nil => exact Nat.le_refl 0
    | cons c rest ih =>
        have one := @length_escapeChar c
        rw [escaped_cons, List.length_append, List.length_cons]
        omega
  rw [quoted_eq, List.length_cons, List.length_append, List.length_singleton]
  omega

theorem escapeChar_plain (plain : Base64.IsPlain c) : escapeChar c = [c] := by
  rcases plain with ⟨printable, _, quote, slash⟩
  have others : ∀ {d : CodePoint}, d < 32 → c ≠ d := by
    rintro d control rfl
    exact absurd printable (Nat.not_le.mpr control)
  have visible : ¬ c < 32 := Nat.not_lt.mpr printable
  simp only [escapeChar, if_neg quote, if_neg slash, if_neg (others (by decide : 8 < 32)),
    if_neg (others (by decide : 9 < 32)), if_neg (others (by decide : 10 < 32)),
    if_neg (others (by decide : 12 < 32)), if_neg (others (by decide : 13 < 32)), if_neg visible]

/-- A text without escapes is as long as its characters and the quotes. -/
theorem byteLength_quoted_plain (plain : ∀ c ∈ text, Base64.IsPlain c) :
    byteLength (quoted text) = text.length + 2 := by
  have inside : escaped text = text := by
    induction text with
    | nil => rfl
    | cons c rest ih =>
        rw [escaped_cons, escapeChar_plain (plain c List.mem_cons_self),
          ih fun other mem => plain other (List.mem_cons_of_mem c mem)]
        rfl
  have ascii : ∀ c ∈ code '"' :: (text ++ [code '"']), c < 128 := by
    intro c mem
    rcases List.mem_cons.mp mem with rfl | mem
    · decide
    · rcases List.mem_append.mp mem with mem | mem
      · exact (plain c mem).2.1
      · rw [List.mem_singleton.mp mem]
        decide
  rw [quoted_eq, inside, byteLength_ascii ascii]
  simp

theorem byteLength_laterMembers {entries : List (Str × Str)} : byteLength (laterMembers entries) =
    (entries.map fun entry => byteLength (quoted entry.1) + byteLength entry.2 + 2).sum + 1 := by
  induction entries with
  | nil => decide
  | cons entry rest ih =>
      have comma : byteLength "," = 1 := by decide
      have colon : byteLength ":" = 1 := by decide
      rcases entry with ⟨key, value⟩
      simp only [laterMembers, byteLength_append, ih, List.map_cons, List.sum_cons, comma, colon]
      omega

theorem byteLength_quoted_le : byteLength (quoted text) ≤ 24 * text.length + 8 := by
  have characters := @length_quoted_le text
  have bytes := @byteLength_le (quoted text)
  omega

/-- Every member takes its name, its value, a colon, and a comma or the closing brace. -/
theorem byteLength_dumps_obj [Runtime] {first : Str × Json} {more : List (Str × Json)}
    (sorted : ((first :: more).map Prod.fst).Pairwise fun a b => strLe a b = true) :
    byteLength (Json.obj (first :: more)).dumps =
      ((first :: more).map fun member =>
        byteLength (quoted member.1) + byteLength member.2.dumps + 2).sum + 1 := by
  have opening : byteLength [code '\x7b'] = 1 := by decide
  have comma : byteLength "," = 1 := by decide
  let written := ((first :: more).map Entry.ofField).map Entry.written
  have later : laterMembers written = "," ++ membersText written := rfl
  have whole := @byteLength_laterMembers written
  have same : written.map (fun entry => byteLength (quoted entry.1) + byteLength entry.2 + 2) =
      (first :: more).map fun member =>
        byteLength (quoted member.1) + byteLength member.2.dumps + 2 := by
    simp only [written, List.map_map]
    rfl
  rw [later, byteLength_append, same, comma] at whole
  rw [dumps_obj_sorted sorted, byteLength_cons, opening]
  exact whole

end Python
