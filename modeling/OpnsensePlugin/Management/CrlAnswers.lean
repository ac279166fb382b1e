import OpnsensePlugin.Management.CrlRuns
import OpnsensePlugin.Python.Fields
import OpnsensePlugin.Python.Split

/-!
# What an answer says about a list of revoked certificates

A list is stated here by the JSON of an answer alone: its texts, its method, and for
each reason the certificates whose option is flagged as selected. What `_raw` makes of
an accepted answer says the same.
-/

namespace OpnsensePlugin

open Effects Python

namespace CrlService

open Management

/-! ## References of a text -/

/-- The references that a text with commas holds -/
def certificates (text : Str) : List Str :=
  (splitOn (code ',') text).filter fun ref => !ref.isEmpty

theorem isRefid_clean {ref : Str} (valid : isRefid ref = true) : code ',' ∉ ref ∧ ref ≠ [] := by
  simp only [isRefid, Bool.and_eq_true, decide_eq_true_eq, List.all_eq_true] at valid
  constructor
  · intro member
    exact absurd (valid.2 _ member) (by decide)
  · rintro rfl
    exact absurd valid.1 (by decide)

theorem certificates_join {refs : List Str} (valid : ∀ ref ∈ refs, isRefid ref = true) :
    certificates (join "," refs) = refs := by
  by_cases none : refs = []
  · subst none
    rfl
  · rw [certificates]
    change List.filter _ (splitOn (code ',') (join [code ','] refs)) = _
    rw [splitOn_join (fun ref member => (isRefid_clean (valid ref member)).1) none,
      List.filter_eq_self]
    intro ref member
    have some := (isRefid_clean (valid ref member)).2
    simpa using some

/-- The certificates that a list has under a reason -/
def CrlState.revoked (state : CrlState) (number : Nat) : List Str :=
  certificates (state.text (reasonName number))

/-! ## The list of an answer -/

/-- The answer has a list with these fields. -/
def Answers (response : Json) (fields : List (Str × Json)) : Prop :=
  ∃ answer, response = .obj answer ∧ field answer "crl" = some (.obj fields)

/-- A flag that is set: `'1'`, or a number or a truth value that equals one -/
inductive IsSet : Json → Prop
  | text : IsSet (.str "1")
  | int : IsSet (.int 1)
  | bool : IsSet (.bool true)
  | float {mantissa exponent : Nat} (one : mantissa * 2 ^ exponent = 1) :
      IsSet (.float (.finite false mantissa (.ofNat exponent)))
  | fraction {mantissa exponent : Nat} (one : mantissa = 2 ^ (exponent + 1)) :
      IsSet (.float (.finite false mantissa (.negSucc exponent)))

/-- The option of the key is flagged as selected. -/
def Selects (options : List (Str × Json)) (key : Str) : Prop :=
  ∃ entry flag, (key, Json.obj entry) ∈ options ∧ field entry "selected" = some flag ∧ IsSet flag

/-- The certificate is flagged as revoked for the reason. -/
def IsRevoked (fields : List (Str × Json)) (number : Nat) (ref : Str) : Prop :=
  ∃ options, field fields (reasonName number) = some (.obj options) ∧ Selects options ref

/-- A text of the list; one that is left out counts as empty. -/
def TextIn (fields : List (Str × Json)) (name text : Str) : Prop :=
  fieldD fields name (.str []) = .str text

/-- The method of the list, a text or the one selected option -/
def MethodIn (fields : List (Str × Json)) (method : Str) : Prop :=
  field fields "crlmethod" = some (.str method) ∨ ∃ options,
    field fields "crlmethod" = some (.obj options) ∧ ∀ key, Selects options key ↔ key = method

/-! ## What is read from it -/

section

variable {fields options : List (Str × Json)} {name ref text : Str}

theorem isOne_iff {flag : Json} : isOne flag = true ↔ IsSet flag := by
  constructor
  · intro one
    cases flag with
    | str text =>
        have same : text = "1" := by simpa [isOne] using one
        subst same
        exact .text
    | int value =>
        have same : value = 1 := by simpa [isOne] using one
        subst same
        exact .int
    | bool value =>
        have same : value = true := by simpa [isOne] using one
        subst same
        exact .bool
    | float number =>
        cases number with
        | finite negative mantissa exponent =>
            cases negative with
            | true => cases one
            | false =>
                cases exponent with
                | ofNat exponent => exact .float (by simpa [isOne] using one)
                | negSucc exponent => exact .fraction (by simpa [isOne] using one)
        | _ => cases one
    | _ => cases one
  · intro set
    cases set with
    | text | int | bool => rfl
    | float one => simpa [isOne] using one
    | fraction one => simpa [isOne] using one

theorem isChosen_iff {option : Json} : isChosen option = true ↔
    ∃ entry flag, option = .obj entry ∧ field entry "selected" = some flag ∧ IsSet flag := by
  cases option with
  | obj entry =>
      rw [isChosen, isOne_iff, fieldD]
      cases found : field entry "selected" with
      | none =>
          constructor
          · intro set
            cases set
          · rintro ⟨_, flag, same, selected, _⟩
            cases same
            rw [found] at selected
            cases selected
      | some flag =>
          constructor
          · exact fun set => ⟨entry, flag, rfl, found, set⟩
          · rintro ⟨_, other, same, selected, set⟩
            cases same
            rw [found] at selected
            cases selected
            exact set
  | _ =>
      constructor
      · intro impossible
        cases impossible
      · rintro ⟨_, _, impossible, _⟩
        cases impossible

/-- The keys of the options that are chosen -/
theorem mem_chosen :
    ref ∈ (options.filter fun (_, option) => isChosen option).map (·.1) ↔ Selects options ref := by
  simp only [List.mem_map, List.mem_filter, isChosen_iff]
  constructor
  · rintro ⟨⟨key, option⟩, ⟨member, entry, flag, same, found, set⟩, rfl⟩
    cases same
    exact ⟨entry, flag, member, found, set⟩
  · rintro ⟨entry, flag, member, found, set⟩
    exact ⟨(ref, .obj entry), ⟨member, entry, flag, rfl, found, set⟩, rfl⟩

theorem detailText_ok (read : detailText fields name = .ok text) : TextIn fields name text := by
  unfold detailText at read
  dsimp only at read
  split at read
  · rename_i found
    cases read
    rw [TextIn, fieldD]
    rw [fieldD] at found
    cases stored : field fields name with
    | some value =>
        rw [stored] at found
        exact found
    | none =>
        rw [stored, Option.getD_none] at found
        split at found
        · exact found
        · cases found
  · cases read

/-- A text without commas that joins keys is the only one of them. -/
theorem eq_singleton_of_join {keys : List Str} (joined : join "," keys = text)
    (clean : code ',' ∉ text) (filled : text ≠ []) : keys = [text] := by
  have some : keys ≠ [] := by
    rintro rfl
    exact filled joined.symm
  have parts : ∀ key ∈ keys, code ',' ∉ key := by
    intro key member inside
    have within : code ',' ∈ join [code ','] keys := mem_join_of_mem member inside
    exact clean (joined ▸ within)
  have split : splitOn (code ',') (join [code ','] keys) = keys := splitOn_join parts some
  have same : join [code ','] keys = text := joined
  rw [same, splitOn_of_not_mem clean] at split
  exact split.symm

theorem chosen_method {method : Str} (read : chosen (fieldD fields "crlmethod" .null) = .ok method)
    (known : method ∈ (["internal", "existing"] : List Str)) : MethodIn fields method := by
  have proper : code ',' ∉ method ∧ method ≠ [] := by
    rcases List.mem_cons.mp known with rfl | known
    · decide
    · rw [List.mem_singleton.mp known]
      decide
  rw [fieldD] at read
  cases found : field fields "crlmethod" with
  | none =>
      rw [found] at read
      cases read
  | some value =>
      rw [found, Option.getD_some] at read
      cases value with
      | str text =>
          cases read
          exact .inl found
      | obj options =>
          have keys := eq_singleton_of_join (Except.ok.inj read) proper.1 proper.2
          refine .inr ⟨options, found, fun key => ?_⟩
          rw [← mem_chosen, keys, List.mem_singleton]
      | arr items =>
          cases items with
          | nil =>
              cases read
              exact absurd rfl proper.2
          | cons => cases read
      | _ => cases read

theorem reasonChoice_ok {option : Json} {choice : Str × Str}
    (read : reasonChoice ref option = .ok choice) : isRefid ref = true := by
  rcases bind_eq_ok.mp read with ⟨_, valid, _⟩
  simpa using valid

theorem reasonOf_obj {reason : Str × List (Str × Str)}
    (stored : field fields name = some (.obj options)) (read : reasonOf fields name = .ok reason) :
    ref ∈ certificates reason.1 ↔ Selects options ref := by
  rw [reasonOf, fieldD, stored] at read
  rcases bind_eq_ok.mp read with ⟨choices, valid, read⟩
  rcases bind_eq_ok.mp read with ⟨revoked, selected, read⟩
  cases read
  have refs : ∀ ref ∈ (options.filter fun (_, option) => isChosen option).map (·.1),
      isRefid ref = true := by
    intro ref member
    rcases List.mem_map.mp member with ⟨entry, kept, rfl⟩
    rcases exists_of_mapM_mem valid (List.mem_of_mem_filter kept) with ⟨choice, _, made⟩
    exact reasonChoice_ok made
  have joined : revoked =
      join "," ((options.filter fun (_, option) => isChosen option).map (·.1)) :=
    (Except.ok.inj selected).symm
  rw [joined, certificates_join refs, mem_chosen]

/-- The certificates that are read for a reason are those that the answer flags. -/
theorem reasonOf_ok {number : Nat} {reason : Str × List (Str × Str)}
    (read : reasonOf fields (reasonName number) = .ok reason) :
    ref ∈ certificates reason.1 ↔ IsRevoked fields number ref := by
  have unread : ∀ value, field fields (reasonName number) = some value →
      (∀ options, value ≠ .obj options) → ¬ IsRevoked fields number ref := by
    rintro value stored other ⟨options, same, _⟩
    rw [stored] at same
    exact other options (Option.some.inj same)
  cases stored : field fields (reasonName number) with
  | none =>
      rw [reasonOf, fieldD, stored] at read
      cases read
  | some value =>
      cases value with
      | obj options =>
          rw [reasonOf_obj stored read]
          constructor
          · exact fun selects => ⟨options, stored, selects⟩
          · rintro ⟨other, same, selects⟩
            rw [stored] at same
            cases same
            exact selects
      | arr items =>
          rw [reasonOf, fieldD, stored] at read
          cases items with
          | nil =>
              cases read
              exact iff_of_false (by simp [certificates, join, splitOn]) (unread _ stored (by simp))
          | cons => cases read
      | _ =>
          rw [reasonOf, fieldD, stored] at read
          cases read

/-- The place of a key in a dictionary of computed values -/
theorem field_zip {α : Type} {step : Str → α → Prop} {names : List Str} {results : List α}
    {view : α → Str} (made : List.Forall₂ step names results) (member : name ∈ names) :
    ∃ result, step name result ∧ field (names.zip (results.map view)) name = some (view result) := by
  induction made with
  | nil => cases member
  | @cons head result rest results first later ih =>
      rw [List.map_cons, List.zip_cons_cons, field_cons]
      by_cases same : name = head
      · subst same
        exact ⟨result, first, if_pos rfl⟩
      · rcases ih ((List.mem_cons.mp member).resolve_left same) with ⟨found, made, place⟩
        exact ⟨found, made, by rw [if_neg same, place]⟩

end

/-- What an answer says is what is read from it. -/
structure Shows (fields : List (Str × Json)) (state : CrlState) : Prop where
  texts : ∀ name ∈ (["descr", "serial", "lifetime", "text"] : List Str),
    TextIn fields name (state.text name)
  crlmethod : MethodIn fields (state.text "crlmethod")
  revoked : ∀ number < 7, ∀ ref, ref ∈ state.revoked number ↔ IsRevoked fields number ref
  complete : state.choices.length = reasonNames.length

theorem reasonName_mem {number : Nat} (below : number < 7) : reasonName number ∈ reasonNames :=
  List.mem_map_of_mem (List.mem_range.mpr below)

theorem reasonName_not_mem : ∀ number < 7, reasonName number ∉
    (["caref", "descr", "serial", "lifetime", "text", "crlmethod"] : List Str) := by
  decide

theorem stateOf_shows {caref : Str} {response : Json} {state : CrlState}
    (read : stateOf caref response = .ok state) :
    ∃ fields, Answers response fields ∧ Shows fields state := by
  cases response with
  | obj answer =>
      simp only [stateOf] at read
      split at read
      · rename_i fields found
        rcases bind_eq_ok.mp read with ⟨_, _, read⟩
        rcases bind_eq_ok.mp read with ⟨descr, described, read⟩
        rcases bind_eq_ok.mp read with ⟨serial, numbered, read⟩
        rcases bind_eq_ok.mp read with ⟨lifetime, limited, read⟩
        rcases bind_eq_ok.mp read with ⟨text, printed, read⟩
        rcases bind_eq_ok.mp read with ⟨_, _, read⟩
        rcases bind_eq_ok.mp read with ⟨_, _, read⟩
        rcases bind_eq_ok.mp read with ⟨method, selected, read⟩
        rcases bind_eq_ok.mp read with ⟨_, known, read⟩
        rcases bind_eq_ok.mp read with ⟨reasons, made, read⟩
        cases read
        rw [mapM_eq_ok_iff] at made
        have present : field answer "crl" = some (.obj fields) := by
          rw [fieldD] at found
          cases stored : field answer "crl" with
          | none =>
              rw [stored] at found
              cases found
          | some value =>
              rw [stored] at found
              exact congrArg some found
        refine ⟨fields, ⟨answer, rfl, present⟩, ?_, ?_, ?_, ?_⟩
        · intro name member
          simp only [List.mem_cons, List.not_mem_nil, or_false] at member
          rcases member with rfl | rfl | rfl | rfl
          · exact detailText_ok described
          · exact detailText_ok numbered
          · exact detailText_ok limited
          · exact detailText_ok printed
        · have listed : method ∈ (["internal", "existing"] : List Str) := by
            by_contra other
            simp [other] at known
          exact chosen_method selected listed
        · intro number below ref
          rcases @field_zip _ _ _ _ _ Prod.fst made (reasonName_mem below) with
            ⟨reason, one, place⟩
          rw [CrlState.revoked, CrlState.text, field_append,
            field_of_not_mem (reasonName_not_mem number below), Option.none_or, place,
            Option.getD_some]
          exact reasonOf_ok one
        · rw [List.length_map, made.length_eq]
      · cases read
  | _ => cases read

end CrlService

end OpnsensePlugin
