import OpnsensePlugin.Effects.Escapes
import OpnsensePlugin.Management.MutationRuns

/-!
# Answers that the engine cannot decode

The decoders of the engine raise its own errors, which the handler of a mutation
reports. The exceptions are pages whose total is infinite or whose rows have
collapsed to texts, objects that have, and texts that UTF-8 cannot encode.
-/

namespace OpnsensePlugin

open Effects Python

namespace Management

variable [Runtime]

/-! ## Computations of the engine that raise its own errors only -/

section Computations

variable {reply : Reply} {spec : Spec} {value : Json} {name : Str}

omit [Runtime] in
theorem called_contained : Action.Contained isManagement (called reply) := by
  rcases reply with failure | value
  · exact Action.contained_error rfl
  · exact Action.contained_ok

omit [Runtime] in
theorem path_contained {operation : Option Str} {uuid : Str} :
    Action.Contained isManagement (path spec operation uuid) := by
  unfold path
  split
  · exact Action.contained_error rfl
  · exact Action.contained_error rfl
  · exact Action.contained_ok

omit [Runtime] in
theorem raiseIf_contained {condition : Bool} {error : ManagementError} :
    Action.Contained isManagement (raiseIf condition (raised error)) := by
  intro failure failed
  rw [raiseIf_eq_error] at failed
  rw [failed.2]
  rfl

omit [Runtime] in
theorem get_obj_contained {fields : List (Str × Json)} {default : Json} :
    Action.Contained isManagement (get (.obj fields) name default) := by
  intro error failed
  cases failed

omit [Runtime] in
theorem rawOf_contained : Action.Contained isManagement (rawOf spec value) := by
  cases value with
  | obj fields =>
      refine Action.contained_bind get_obj_contained ?_
      intro object
      split
      · exact Action.contained_ok
      · exact Action.contained_error rfl
  | _ => exact Action.contained_error rfl

theorem ack_contained {apply : Bool} : Action.Contained isManagement (ack spec apply value) := by
  cases value with
  | obj fields =>
      refine Action.contained_bind raiseIf_contained ?_
      intro _
      dsimp only
      split
      · exact raiseIf_contained
      · exact raiseIf_contained
  | _ => exact Action.contained_error rfl

end Computations

/-! ## Pages of a list -/

section Pages

variable {spec : Spec} {uuid : Str} {out : List (Str × Json)} {rows : List Json}

/-- A page of a list after which the engine raises an error that is not its own -/
inductive MalformedPage (spec : Spec) (uuid : Str) : Json → Prop
  | endless {out : List (Str × Json)} {rows : List Json} {negative : Bool}
      (rowsEq : field out "rows" = some (.arr rows)) (objects : rows.all Json.isObj = true)
      (total : field out "total" = some (.float (.infinity negative))) :
      MalformedPage spec uuid (.obj out)
  | collapsed {out row : List (Str × Json)} {rows : List Json} {total : Int}
      (rowsEq : field out "rows" = some (.arr rows)) (objects : rows.all Json.isObj = true)
      (totalEq : totalOf out rows.length = .ok total) (member : Json.obj row ∈ rows)
      (options : row.all (fun (_, child) => isOption child) = true) :
      MalformedPage spec uuid (.obj out)
  | unnamed {out : List (Str × Json)} {listing : Listing}
      (listed : listingOf spec (.obj out) = .ok listing)
      (unnamed : Action.Escapes isManagement (hasUuid uuid listing.rows)) :
      MalformedPage spec uuid (.obj out)

omit [Runtime] in
theorem foldlM_total {α β : Type} {step : β → α → Except Exn β}
    (total : ∀ current item, ∃ next, step current item = .ok next) (items : List α) (start : β) :
    ∃ last, items.foldlM step start = .ok last := by
  induction items generalizing start with
  | nil => exact ⟨start, rfl⟩
  | cons item rest ih =>
      rcases total start item with ⟨next, stepped⟩
      rw [List.foldlM_cons, stepped]
      exact ih next

omit [Runtime] in
theorem publicRow_obj {fields : List (Str × Json)} :
    ∃ shown, publicRow spec (.obj fields) = .ok shown := by
  refine foldlM_total (fun row item => ?_) _ _
  split
  · exact ⟨row, rfl⟩
  · rcases @get_obj fields item.name with ⟨value, found, _⟩
    rw [found]
    exact ⟨_, rfl⟩

theorem publicRow_row {row : List (Str × Json)} :
    (row.all (fun (_, child) => isOption child) = true ∧
        Action.Escapes isManagement (publicRow spec (selectedForm (.obj row)))) ∨
      (row.all (fun (_, child) => isOption child) = false ∧
        ∃ shown, publicRow spec (selectedForm (.obj row)) = .ok shown) := by
  rw [selectedForm]
  cases options : row.all fun (_, child) => isOption child with
  | true =>
      refine .inl ⟨rfl, ?_⟩
      split
      · exact ⟨_, rfl, rfl⟩
      · exact ⟨_, rfl, rfl⟩
  | false =>
      refine .inr ⟨rfl, ?_⟩
      rw [if_neg, if_neg (by simp)]
      · exact publicRow_obj
      · intro empty
        rw [List.isEmpty_iff.mp empty] at options
        cases options

/-- The rows of a page are shown unless one of them has collapsed. -/
theorem publicRows_escape (objects : rows.all Json.isObj = true) :
    (Action.Escapes isManagement (rows.mapM fun row => publicRow spec (selectedForm row)) ∧
        ∃ row, Json.obj row ∈ rows ∧ row.all (fun (_, child) => isOption child) = true) ∨
      ((∃ shown, rows.mapM (fun row => publicRow spec (selectedForm row)) = .ok shown) ∧
        ∀ row, Json.obj row ∈ rows → row.all (fun (_, child) => isOption child) = false) := by
  induction rows with
  | nil => exact .inr ⟨⟨[], rfl⟩, by simp⟩
  | cons head rest ih =>
      rw [List.all_cons, Bool.and_eq_true] at objects
      cases head with
      | obj row =>
          rw [List.mapM_cons]
          rcases @publicRow_row _ spec row with ⟨options, error, failed, uncaught⟩ | ⟨options, shown, first⟩
          · refine .inl ⟨⟨error, ?_, uncaught⟩, row, List.mem_cons_self, options⟩
            rw [failed]
            rfl
          · rcases ih objects.2 with ⟨⟨error, failed, uncaught⟩, other, member, collapsed⟩ |
              ⟨⟨others, later⟩, none⟩
            · refine .inl ⟨⟨error, ?_, uncaught⟩, other, List.mem_cons_of_mem _ member, collapsed⟩
              rw [first, failed]
              rfl
            · refine .inr ⟨⟨shown :: others, ?_⟩, ?_⟩
              · rw [first, later]
                rfl
              · intro other member
                rcases List.mem_cons.mp member with same | member
                · cases same
                  exact options
                · exact none other member
      | _ => cases objects.1

omit [Runtime] in
theorem totalOf_escapes {count : Nat} : Action.Escapes isManagement (totalOf out count) ↔
    ∃ negative, field out "total" = some (.float (.infinity negative)) := by
  constructor
  · rintro ⟨error, failed, uncaught⟩
    unfold totalOf at failed
    split at failed
    · cases failed
      cases uncaught
    · rename_i value total
      split at failed
      · rename_i raised overflow
        cases value with
        | float value =>
            cases value with
            | infinity negative => exact ⟨negative, total⟩
            | nan =>
                cases overflow
                cases failed
                cases uncaught
            | finite => cases overflow
        | bool | int => cases overflow
        | str text =>
            simp only [Json.toInt] at overflow
            split at overflow
            · cases overflow
            · cases overflow
              cases failed
              cases uncaught
        | _ =>
            cases overflow
            cases failed
            cases uncaught
      · split at failed
        · cases failed
          cases uncaught
        · cases failed
  · rintro ⟨negative, total⟩
    refine ⟨.builtin .overflowError "cannot convert float infinity to integer", ?_, rfl⟩
    rw [totalOf, total]
    rfl

/-- A page that was not decoded, or whose rows were not compared, is malformed. -/
theorem page_escapes_iff {answer : Json} : MalformedPage spec uuid answer ↔
    Action.Escapes isManagement (listingOf spec answer) ∨ ∃ listing,
      listingOf spec answer = .ok listing ∧
        Action.Escapes isManagement (hasUuid uuid listing.rows) := by
  constructor
  · intro malformed
    cases malformed with
    | @endless out rows negative rowsEq objects total =>
        refine .inl ?_
        rcases (@totalOf_escapes out rows.length).mpr ⟨negative, total⟩ with
          ⟨error, failed, uncaught⟩
        refine ⟨error, ?_, uncaught⟩
        have fine : (rows.any fun row => !row.isObj) = false := by simpa using objects
        simp only [listingOf, rowsEq, fine, failed]
        rfl
    | @collapsed out row rows total rowsEq objects totalEq member options =>
        refine .inl ?_
        have fine : (rows.any fun row => !row.isObj) = false := by simpa using objects
        rcases @publicRows_escape _ spec rows objects with ⟨⟨error, failed, uncaught⟩, _⟩ | ⟨_, none⟩
        · refine ⟨error, ?_, uncaught⟩
          simp only [listingOf, rowsEq, fine, totalEq, failed]
          rfl
        · rw [none row member] at options
          cases options
    | unnamed listed unnamed => exact .inr ⟨_, listed, unnamed⟩
  · rintro (⟨error, failed, uncaught⟩ | ⟨listing, listed, unnamed⟩)
    · unfold listingOf at failed
      split at failed
      · rename_i out
        split at failed
        · rename_i rows rowsEq
          simp only [bind_eq_error, raiseIf_eq_error, raiseIf_eq_ok] at failed
          rcases failed with ⟨_, rfl⟩ | ⟨_, fine, failed⟩
          · cases uncaught
          have objects : rows.all Json.isObj = true := by simpa using fine
          rcases failed with failed | ⟨total, totalEq, failed⟩
          · rcases totalOf_escapes.mp ⟨error, failed, uncaught⟩ with ⟨negative, total⟩
            exact .endless rowsEq objects total
          rcases failed with failed | ⟨_, _, impossible⟩
          · rcases @publicRows_escape _ spec rows objects with ⟨_, row, member, options⟩ |
              ⟨⟨shown, listed⟩, _⟩
            · exact .collapsed rowsEq objects totalEq member options
            · rw [listed] at failed
              cases failed
          · cases impossible
        · cases failed
          cases uncaught
      · cases failed
        cases uncaught
    · cases answer with
      | obj out => exact .unnamed listed unnamed
      | _ => cases listed

end Pages

/-! ## Objects that are read back -/

section Objects

variable {spec : Spec} {supplied : List (Str × Json)} {actual expected : Json} {item : FieldSpec}

/-- A text that UTF-8 cannot encode -/
def Unhashable (value : Json) : Prop := value.dumps.all isEncodable = false

theorem hashPayload_escapes {value : Json} (present : value ≠ .null) :
    Action.Escapes isManagement (hashPayload value) ↔ Unhashable value := by
  rw [hashPayload, Unhashable]
  · split
    · rename_i encodable
      simp [Action.not_escapes_ok, encodable]
    · rename_i unencodable
      rw [Action.escapes_error]
      simpa [isManagement, unicodeEncodeError] using unencodable
  · exact present

/-- The form of an object is an object or a text. -/
theorem selectedForm_obj {fields : List (Str × Json)} :
    (∃ kept, selectedForm (.obj fields) = .obj kept) ∨
      ∃ text, selectedForm (.obj fields) = .str text := by
  rw [selectedForm]
  split
  · exact .inr ⟨_, rfl⟩
  · split
    · exact .inr ⟨_, rfl⟩
    · exact .inl ⟨_, rfl⟩

omit [Runtime] in
theorem rawOf_obj {answer object : Json} (decoded : rawOf spec answer = .ok object) :
    ∃ fields, object = .obj fields := by
  cases answer with
  | obj out =>
      rcases bind_eq_ok.mp decoded with ⟨value, _, same⟩
      split at same
      · cases same
        exact ⟨_, rfl⟩
      · cases same
  | _ => cases decoded

theorem readback_ne_null {answer object : Json} (decoded : rawOf spec answer = .ok object) :
    selectedForm object ≠ .null := by
  rcases rawOf_obj decoded with ⟨fields, rfl⟩
  rcases @selectedForm_obj _ fields with ⟨kept, same⟩ | ⟨text, same⟩
  · simp [same]
  · simp [same]

/-- An object that cannot be compared with the intended one: it has collapsed to a text in which
the name of a compared field occurs, the intended object is none, or the hook of the
specification raises an error that is not the engine's. -/
inductive Incomparable (spec : Spec) (request : MutateRequest) (expected object : Json) : Prop
  | collapsed {before after : List FieldSpec} {item : FieldSpec} {desired : Json} {text : Str}
      (fields : spec.fields = before ++ item :: after)
      (agree : ∀ earlier ∈ before, checkField (ManagementService.supplied request)
        (selectedForm object) expected earlier = .ok ())
      (compared : isCompared (ManagementService.supplied request) item = true)
      (desiredEq : get expected item.name = .ok desired) (present : desired ≠ .null)
      (shown : selectedForm object = .str text) (occurs : contains item.name text = true)
  | unintended {before after : List FieldSpec} {item : FieldSpec}
      (fields : spec.fields = before ++ item :: after)
      (agree : ∀ earlier ∈ before, checkField (ManagementService.supplied request)
        (selectedForm object) expected earlier = .ok ())
      (compared : isCompared (ManagementService.supplied request) item = true)
      (unintended : Action.Escapes isManagement (get expected item.name))
  | hook (agree : ∀ item ∈ spec.fields, checkField (ManagementService.supplied request)
        (selectedForm object) expected item = .ok ())
      (raises : Action.Escapes isManagement
        (ManagementService.runVerify spec (selectedForm object) expected request.action))

theorem compare_escapes {fields : List (Str × Json)} {name : Str} {differs : Json → Bool} :
    Action.Escapes isManagement (do
        let observed ← get (selectedForm (.obj fields)) name (.str [])
        raiseIf (differs observed) readbackMismatch) ↔
      ∃ text, selectedForm (.obj fields) = .str text ∧ contains name text = true := by
  rcases @selectedForm_obj _ fields with ⟨kept, same⟩ | ⟨text, same⟩
  · have contained : Action.Contained isManagement (do
        let observed ← get (.obj kept) name (.str [])
        raiseIf (differs observed) readbackMismatch) :=
      Action.contained_bind get_obj_contained fun _ => raiseIf_contained
    rw [same]
    refine ⟨fun escapes => absurd escapes (Action.not_escapes_iff.mpr contained), ?_⟩
    rintro ⟨text, impossible, _⟩
    cases impossible
  · rw [same]
    cases occurs : contains name text with
    | true =>
        refine ⟨fun _ => ⟨text, rfl, occurs⟩, fun _ => ⟨typeError "indices must be integers", ?_, rfl⟩⟩
        simp [get, Management.occurs, occurs, bind, Except.bind]
    | false =>
        have contained : Action.Contained isManagement (do
            let observed ← get (.str text) name (.str [])
            raiseIf (differs observed) readbackMismatch) := by
          refine Action.contained_bind ?_ fun _ => raiseIf_contained
          simp only [get, Management.occurs, occurs, bind, Except.bind]
          exact Action.contained_ok
        refine ⟨fun escapes => absurd escapes (Action.not_escapes_iff.mpr contained), ?_⟩
        rintro ⟨other, shown, found⟩
        cases shown
        rw [occurs] at found
        cases found

theorem checkField_escapes {fields : List (Str × Json)} :
    Action.Escapes isManagement (checkField supplied (selectedForm (.obj fields)) expected item) ↔
      isCompared supplied item = true ∧
        (Action.Escapes isManagement (get expected item.name) ∨
          ∃ desired text, get expected item.name = .ok desired ∧ desired ≠ .null ∧
            selectedForm (.obj fields) = .str text ∧ contains item.name text = true) := by
  unfold checkField
  cases compared : isCompared supplied item with
  | false => simp [Action.not_escapes_ok, pure, Except.pure]
  | true =>
      simp only [Bool.not_true, Bool.false_eq_true, if_false, true_and]
      cases wanted : get expected item.name with
      | error error =>
          simp only [bind, Except.bind, Action.escapes_error]
          simp
      | ok desired =>
          cases desired with
          | null => simp [bind, Except.bind, pure, Except.pure, Action.not_escapes_ok]
          | _ =>
              refine Iff.trans compare_escapes ?_
              simp [Action.not_escapes_ok]

omit [Runtime] in
theorem forM_ok {α : Type} {items : List α} {check : α → Except Exn Unit} :
    items.forM check = .ok () ↔ ∀ item ∈ items, check item = .ok () := by
  refine ⟨ManagementService.forM_eq_ok, ?_⟩
  intro all
  induction items with
  | nil => rfl
  | cons head rest ih =>
      rw [List.forall_mem_cons] at all
      change (check head >>= fun _ => rest.forM check) = .ok ()
      rw [all.1]
      exact ih all.2

/-- A readback whose comparison ends with an error of another class is incomparable. -/
theorem comparison_escapes {request : MutateRequest} {fields : List (Str × Json)} :
    Action.Escapes isManagement (do
        spec.fields.forM fun item => checkField (ManagementService.supplied request)
          (selectedForm (.obj fields)) expected item
        ManagementService.runVerify spec (selectedForm (.obj fields)) expected request.action) ↔
      Incomparable spec request expected (.obj fields) := by
  rw [Action.escapes_bind, Action.escapes_forM]
  constructor
  · rintro (⟨before, item, after, fields, agree, escapes⟩ | ⟨_, agree, escapes⟩)
    · rcases checkField_escapes.mp escapes with
        ⟨compared, unintended | ⟨desired, text, desiredEq, present, shown, occurs⟩⟩
      · exact .unintended fields agree compared unintended
      · exact .collapsed fields agree compared desiredEq present shown occurs
    · exact .hook (forM_ok.mp agree) escapes
  · intro incomparable
    cases incomparable with
    | collapsed fields agree compared desiredEq present shown occurs =>
        refine .inl ⟨_, _, _, fields, agree, ?_⟩
        exact checkField_escapes.mpr ⟨compared, .inr ⟨_, _, desiredEq, present, shown, occurs⟩⟩
    | unintended fields agree compared unintended =>
        refine .inl ⟨_, _, _, fields, agree, ?_⟩
        exact checkField_escapes.mpr ⟨compared, .inl unintended⟩
    | hook agree raises => exact .inr ⟨(), forM_ok.mpr agree, raises⟩

end Objects

end Management

end OpnsensePlugin
