import OpnsensePlugin.Python.Text

/-!
# Splitting and joining

`str.split`, `str.join` and `str.partition` with a separator of one character.
Splitting and joining are Lean's own functions on lists, so a text is its parts
joined again, and parts that do not hold the separator are found again.
-/

namespace Python

variable {separator c : CodePoint} {text front back last part : Str} {parts : List Str}

theorem splitOn_eq : splitOn separator text = text.splitOn separator := by
  induction text with
  | nil => rfl
  | cons c rest ih =>
      rw [splitOn, List.splitOn_cons_eq_if_modifyHead, ih]
      by_cases same : c = separator
      · simp [same]
      · cases split : rest.splitOn separator with
        | nil => exact absurd split (List.splitOn_ne_nil separator rest)
        | cons head tail => simp [same]

theorem join_eq {glue : Str} : join glue parts = glue.intercalate parts := by
  induction parts with
  | nil => rfl
  | cons head rest ih =>
      cases rest with
      | nil => simp [join]
      | cons next more =>
          rw [join, ih, List.intercalate_cons_cons]
          simp

theorem splitOn_ne_nil : splitOn separator text ≠ [] := by
  rw [splitOn_eq]
  exact List.splitOn_ne_nil separator text

theorem splitOn_of_not_mem (clean : separator ∉ text) : splitOn separator text = [text] := by
  rw [splitOn_eq]
  exact List.splitOn_eq_singleton clean

theorem splitOn_append_cons :
    splitOn separator (front ++ separator :: back) =
      splitOn separator front ++ splitOn separator back := by
  simp only [splitOn_eq]
  exact List.splitOn_append_cons_self front back

theorem join_splitOn : join [separator] (splitOn separator text) = text := by
  rw [join_eq, splitOn_eq]
  exact List.intercalate_splitOn separator

theorem splitOn_join (clean : ∀ part ∈ parts, separator ∉ part) (some : parts ≠ []) :
    splitOn separator (join [separator] parts) = parts := by
  rw [join_eq, splitOn_eq]
  exact List.splitOn_intercalate separator clean some

theorem not_mem_of_mem_splitOn (member : part ∈ splitOn separator text) : separator ∉ part := by
  induction text generalizing part with
  | nil => simp_all [splitOn]
  | cons c rest ih =>
      unfold splitOn at member
      split at member
      · rcases List.mem_cons.mp member with rfl | member
        · simp
        · exact ih member
      · rename_i different
        split at member
        · rw [List.mem_singleton.mp member]
          simpa using Ne.symm different
        · rename_i head tail split
          rcases List.mem_cons.mp member with rfl | member
          · have clean : separator ∉ head := ih (by simp [split])
            simpa [Ne.symm different] using clean
          · exact ih (by simp [split, member])

theorem mem_join_of_mem (member : part ∈ parts) (inside : c ∈ part) :
    c ∈ join [separator] parts := by
  induction parts with
  | nil => cases member
  | cons head rest ih =>
      cases rest with
      | nil => rwa [List.mem_singleton.mp member] at inside
      | cons next more =>
          rcases List.mem_cons.mp member with rfl | member
          · simp [join, inside]
          · simp [join, ih member]

theorem mem_of_mem_splitOn (member : part ∈ splitOn separator text) (inside : c ∈ part) :
    c ∈ text := by
  have joined : c ∈ join [separator] (splitOn separator text) := mem_join_of_mem member inside
  rwa [join_splitOn] at joined

theorem mem_join (inside : c ∈ join [separator] parts) :
    c = separator ∨ ∃ part ∈ parts, c ∈ part := by
  induction parts with
  | nil => cases inside
  | cons head rest ih =>
      cases rest with
      | nil => exact .inr ⟨head, by simp, inside⟩
      | cons next more =>
          simp only [join, List.mem_append, List.mem_singleton] at inside
          rcases inside with (inside | same) | inside
          · exact .inr ⟨head, by simp, inside⟩
          · exact .inl same
          · rcases ih inside with same | ⟨part, member, inside⟩
            · exact .inl same
            · exact .inr ⟨part, List.mem_cons_of_mem _ member, inside⟩

/-- Joining with one more part at the end -/
theorem join_concat (some : parts ≠ []) :
    join [separator] (parts ++ [last]) = join [separator] parts ++ separator :: last := by
  induction parts with
  | nil => exact absurd rfl some
  | cons head rest ih =>
      cases rest with
      | nil => simp [join]
      | cons next more =>
          have later := ih (by simp)
          simp only [List.cons_append, join] at later ⊢
          simp [later]

/-! ## Partitions -/

theorem partition_of_not_mem (clean : separator ∉ text) : partition separator text = (text, none) := by
  induction text with
  | nil => rfl
  | cons c rest ih =>
      rw [List.mem_cons, not_or] at clean
      simp [partition, Ne.symm clean.1, ih clean.2]

theorem partition_append (clean : separator ∉ front) :
    partition separator (front ++ back) =
      (front ++ (partition separator back).1, (partition separator back).2) := by
  induction front with
  | nil => rfl
  | cons c rest ih =>
      rw [List.mem_cons, not_or] at clean
      simp [partition, Ne.symm clean.1, ih clean.2]

theorem partition_append_cons (clean : separator ∉ front) :
    partition separator (front ++ separator :: back) = (front, some back) := by
  rw [partition_append clean]
  simp [partition]

theorem not_mem_partition : separator ∉ (partition separator text).1 := by
  induction text with
  | nil => simp [partition]
  | cons c rest ih =>
      by_cases same : c = separator
      · simp [partition, same]
      · simpa [partition, same] using ⟨Ne.symm same, ih⟩

theorem mem_of_mem_partition (inside : c ∈ (partition separator text).1) : c ∈ text := by
  induction text with
  | nil => exact inside
  | cons d rest ih =>
      by_cases same : d = separator
      · simp [partition, same] at inside
      · simp only [partition, if_neg same, List.mem_cons] at inside ⊢
        exact inside.imp_right ih

/-- A text with the separator is what precedes its first occurrence and what follows it. -/
theorem exists_of_mem (inside : separator ∈ text) :
    ∃ front back, text = front ++ separator :: back ∧ separator ∉ front := by
  rcases List.eq_append_cons_of_mem inside with ⟨front, back, same, clean⟩
  exact ⟨front, back, same, clean⟩

theorem rpartition_of_not_mem (clean : separator ∉ text) :
    rpartition separator text = (none, text) := by
  rw [rpartition, partition_of_not_mem (by simpa using clean)]
  simp

theorem rpartition_append_cons (clean : separator ∉ last) :
    rpartition separator (front ++ separator :: last) = (some front, last) := by
  have reversed : (front ++ separator :: last).reverse =
      last.reverse ++ separator :: front.reverse := by
    simp
  rw [rpartition, reversed, partition_append_cons (by simpa using clean)]
  simp

/-- A text with the separator is what precedes its last occurrence and what follows it. -/
theorem exists_last_of_mem (inside : separator ∈ text) :
    ∃ front last, text = front ++ separator :: last ∧ separator ∉ last := by
  have reversed : separator ∈ text.reverse := by simpa using inside
  rcases exists_of_mem reversed with ⟨front, back, same, clean⟩
  refine ⟨back.reverse, front.reverse, ?_, by simpa using clean⟩
  rw [← List.reverse_reverse text, same]
  simp

end Python
