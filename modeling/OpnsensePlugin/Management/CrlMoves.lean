import OpnsensePlugin.Management.CrlAnswers

/-!
# What a change does to a list of revoked certificates

A list is posted as seven texts of references with commas. The references of the
texts are those of the values, each of them once, and a revocation changes the
place of its certificate only. A change that is reported as verified was read
back with the same texts and the next serial number; the references are compared
for a list that the appliance generates, the text for one that is imported.
-/

namespace OpnsensePlugin

open Effects Python

namespace CrlService

open Management

/-! ## References of a text -/

theorem sameItems_certificates {left right : Str} (same : sameItems left right = true) {ref : Str} :
    ref ∈ certificates left ↔ ref ∈ certificates right := by
  simp only [sameItems, Bool.and_eq_true, List.all_eq_true, decide_eq_true_eq] at same
  simp only [certificates, List.mem_filter]
  constructor
  · rintro ⟨member, some⟩
    exact ⟨same.1 ref member, some⟩
  · rintro ⟨member, some⟩
    exact ⟨same.2 ref member, some⟩

/-- The references that a value holds, given as a list or as a text -/
def refTexts (value : Json) : List Str :=
  match reasonRefs value with
  | .ok refs => refs.filterMap fun ref =>
      match ref with
      | .str text => some text
      | _ => none
  | .error _ => []

theorem refTexts_eq {value : Json} {refs : List Str}
    (given : reasonRefs value = .ok (refs.map .str)) : refTexts value = refs := by
  rw [refTexts, given]
  simp

/-! ## Checking the values -/

theorem checkRefs_ok {allowed seen all : List Str} {refs : List Json}
    (checked : checkRefs allowed seen refs = .ok all) :
    ∃ texts : List Str, refs = texts.map .str ∧ all = seen ++ texts ∧
      (∀ ref ∈ texts, isRefid ref = true) ∧ (seen.Nodup → all.Nodup) := by
  induction refs generalizing seen with
  | nil =>
      cases checked
      exact ⟨[], rfl, (List.append_nil _).symm, by simp, id⟩
  | cons ref rest ih =>
      rw [checkRefs, List.foldlM_cons] at checked
      rcases bind_eq_ok.mp checked with ⟨_, found, later⟩
      rcases bind_eq_ok.mp found with ⟨text, valid, found⟩
      rcases bind_eq_ok.mp found with ⟨_, fresh, added⟩
      cases added
      simp only [raiseIf_eq_ok, Bool.or_eq_false_iff, decide_eq_false_iff_not] at fresh
      have shape : ref = .str text ∧ isRefid text = true := by
        cases ref with
        | str value =>
            rw [refid] at valid
            split at valid
            · cases valid
              exact ⟨rfl, by assumption⟩
            · cases valid
        | _ => cases valid
      rcases ih later with ⟨texts, rfl, rfl, valids, distinct⟩
      refine ⟨text :: texts, by rw [shape.1, List.map_cons], by simp, ?_, ?_⟩
      · intro ref member
        rcases List.mem_cons.mp member with rfl | member
        · exact shape.2
        · exact valids ref member
      · intro different
        apply distinct
        rw [List.nodup_append]
        refine ⟨different, List.nodup_singleton text, ?_⟩
        intro other member last single same
        rw [List.mem_singleton] at single
        rw [same, single] at member
        exact fresh.2 member

variable [Runtime]

/-- One pass over the reasons -/
def checkReason (value : Str → Json) (kept : List Str × List (Str × Json))
    (reason : Str × List (Str × Str)) : Except Exn (List Str × List (Str × Json)) := do
  let refs ← reasonRefs (value reason.1)
  let seen ← checkRefs (reason.2.map (·.1)) kept.1 refs
  return (seen, setField reason.1 (.str (join "," (refs.map Json.text))) kept.2)

theorem checkReasons_ok {value : Str → Json} {reasons : List (Str × List (Str × Str))}
    {seen all : List Str} {start payload : List (Str × Json)}
    (distinct : (reasons.map (·.1)).Nodup)
    (checked : reasons.foldlM (checkReason value) (seen, start) = .ok (all, payload)) :
    all = seen ++ (reasons.map (·.1)).flatMap (fun name => refTexts (value name)) ∧
      (seen.Nodup → all.Nodup) ∧
      (∀ name ∈ reasons.map (·.1), reasonRefs (value name) = .ok ((refTexts (value name)).map .str) ∧
        field payload name = some (.str (join "," (refTexts (value name)))) ∧
        ∀ ref ∈ refTexts (value name), isRefid ref = true) ∧
      ∀ name ∉ reasons.map (·.1), field payload name = field start name := by
  induction reasons generalizing seen start with
  | nil =>
      cases checked
      simp
  | cons reason rest ih =>
      rw [List.foldlM_cons] at checked
      rcases bind_eq_ok.mp checked with ⟨_, first, later⟩
      rcases bind_eq_ok.mp first with ⟨refs, given, first⟩
      rcases bind_eq_ok.mp first with ⟨next, valid, stored⟩
      cases stored
      rcases checkRefs_ok valid with ⟨texts, rfl, rfl, valids, separate⟩
      have same := refTexts_eq given
      rw [List.map_cons, List.nodup_cons] at distinct
      rcases ih distinct.2 later with ⟨rfl, separates, listed, others⟩
      refine ⟨?_, fun different => separates (separate different), ?_, ?_⟩
      · rw [List.map_cons, List.flatMap_cons, same, List.append_assoc]
      · intro name member
        rw [List.map_cons, List.mem_cons] at member
        rcases member with rfl | member
        · rw [others reason.1 distinct.1, field_setField_self, same, List.map_map]
          refine ⟨given, ?_, valids⟩
          have texts_eq : texts.map (Json.text ∘ Json.str) = texts := List.map_id texts
          rw [texts_eq]
        · exact listed name member
      · intro name member
        rw [List.map_cons, List.mem_cons, not_or] at member
        rw [others name member.2, field_setField_ne member.1]

/-- The values of a change over those of the list -/
def merged (values : List (Str × Json)) (current : CrlState) : List (Str × Json) :=
  values.foldl (fun merged entry => setField entry.1 entry.2 merged)
    (current.item.map fun entry => (entry.1, .str entry.2))

/-- What the accepted values and the list together ask for -/
structure Validated (wanted payload : List (Str × Json)) : Prop where
  descr : ∃ text, field wanted "descr" = some (.str text) ∧ field payload "descr" = some (.str text)
  crlmethod : ∃ method, field wanted "crlmethod" = some (.str method) ∧
    field payload "crlmethod" = some (.str method)
  lifetime : ∃ days, lifetimeText (fieldD wanted "lifetime" .null) = .ok days ∧
    field payload "lifetime" = some (.str days)
  reasons : ∀ name ∈ reasonNames,
    reasonRefs (fieldD wanted name .null) = .ok ((refTexts (fieldD wanted name .null)).map .str) ∧
      field payload name = some (.str (join "," (refTexts (fieldD wanted name .null)))) ∧
      ∀ ref ∈ refTexts (fieldD wanted name .null), isRefid ref = true
  distinct : (reasonNames.flatMap fun name => refTexts (fieldD wanted name .null)).Nodup
  imported : field payload "crlmethod" = some (.str "existing") →
    ∃ text, field payload "text" = some (.str text)

omit [Runtime] in
theorem field_of_fieldD {fields : List (Str × Json)} {name text : Str}
    (found : fieldD fields name .null = .str text) : field fields name = some (.str text) := by
  unfold fieldD at found
  cases same : field fields name with
  | none =>
      rw [same] at found
      cases found
  | some value =>
      rw [same] at found
      rw [← found]
      rfl

omit [Runtime] in
theorem checkPem_ok {service : CrlService} {value : Json} {valid : Unit}
    (checked : service.checkPem value = .ok valid) : ∃ text, value = .str text := by
  cases value with
  | str text => exact ⟨text, rfl⟩
  | _ => cases checked

theorem validate_ok {service : CrlService} {values payload : List (Str × Json)}
    {current : CrlState} (complete : current.choices.length = reasonNames.length)
    (valid : service.validate (.obj values) current = .ok payload) :
    Validated (merged values current) payload := by
  rcases bind_eq_ok.mp valid with ⟨_, _, valid⟩
  rcases bind_eq_ok.mp valid with ⟨_, described, valid⟩
  rcases bind_eq_ok.mp valid with ⟨_, known, valid⟩
  rcases bind_eq_ok.mp valid with ⟨days, daily, valid⟩
  rcases bind_eq_ok.mp valid with ⟨⟨all, stored⟩, listed, valid⟩
  rw [raiseIf_eq_ok] at described known
  have described : (match fieldD (merged values current) "descr" .null with
      | .str text => !(1 ≤ text.length && text.length ≤ 255) || text.any (· < 32)
      | _ => true) = false := described
  have known : (!((fieldD (merged values current) "crlmethod" .null).isText "internal" ||
      (fieldD (merged values current) "crlmethod" .null).isText "existing")) = false := known
  have folded : (reasonNames.zip current.choices).foldlM
      (checkReason fun name => fieldD (merged values current) name .null)
      (([] : List Str), setField "lifetime" (.str days) (merged values current)) =
        .ok (all, stored) := listed
  have names : (reasonNames.zip current.choices).map (·.1) = reasonNames := by
    rw [← List.unzip_fst, List.unzip_zip complete.symm]
  rcases checkReasons_ok (by rw [names]; decide) folded with ⟨rfl, distinct, reasons, others⟩
  rw [names] at reasons others distinct
  -- The last step only drops the text of a list that is not imported.
  have kept : ∀ name : Str, name ≠ "text" → field payload name = field stored name := by
    intro name different
    have last : payload = stored ∨ payload = stored.filter fun entry =>
        entry.1 ≠ ("text" : Str) := by
      dsimp only at valid
      split at valid
      · rcases bind_eq_ok.mp valid with ⟨_, _, returned⟩
        cases returned
        exact .inl rfl
      · cases valid
        exact .inr rfl
    rcases last with rfl | rfl
    · rfl
    · exact field_filter_ne different
  have unchanged : ∀ name : Str, name ∉ reasonNames → name ≠ "text" → name ≠ "lifetime" →
      field payload name = field (merged values current) name := by
    intro name apart different other
    rw [kept name different, others name apart, field_setField_ne other]
  have imported : (fieldD (merged values current) "crlmethod" .null).isText "existing" = true →
      ∃ text, field payload "text" = some (.str text) := by
    intro existing
    dsimp only at valid
    split at valid
    rotate_left
    · exact absurd existing (by assumption)
    rcases bind_eq_ok.mp valid with ⟨_, checked, returned⟩
    cases returned
    rcases checkPem_ok checked with ⟨text, found⟩
    refine ⟨text, ?_⟩
    rw [others "text" (by decide), field_setField_ne (by decide)]
    exact field_of_fieldD found
  refine ⟨?_, ?_, ⟨days, daily, ?_⟩, ?_, distinct List.nodup_nil, ?_⟩
  · cases found : fieldD (merged values current) "descr" .null with
    | str text =>
        have stored := field_of_fieldD found
        exact ⟨text, stored, (unchanged "descr" (by decide) (by decide) (by decide)).trans stored⟩
    | _ =>
        rw [found] at described
        cases described
  · cases found : fieldD (merged values current) "crlmethod" .null with
    | str method =>
        have stored := field_of_fieldD found
        exact ⟨method, stored,
          (unchanged "crlmethod" (by decide) (by decide) (by decide)).trans stored⟩
    | _ =>
        rw [found] at known
        cases known
  · rw [kept "lifetime" (by decide), others "lifetime" (by decide), field_setField_self]
  · intro name member
    have different : name ≠ "text" := by
      rintro rfl
      exact absurd member (by decide)
    rw [kept name different]
    exact reasons name member
  · intro existing
    rw [unchanged "crlmethod" (by decide) (by decide) (by decide)] at existing
    exact imported (by rw [fieldD, existing]; rfl)

/-! ## A revocation -/

/-- The certificates that a posted list has under a reason -/
def listedUnder (payload : List (Str × Json)) (number : Nat) : List Str :=
  certificates (fieldD payload (reasonName number) (.str [])).text

/-- The certificate and the reason of a request -/
structure Revokes (values : Json) (cert : Str) (reason : Nat) : Prop where
  certificate : ∃ fields, values = .obj fields ∧ field fields "certificate" = some (.str cert)
  known : reason < 7
  stated : ∃ fields given, values = .obj fields ∧ field fields "reason" = some given ∧
    given.text = natText reason

/-- Only the place of one certificate changes. -/
structure IsMove (cert : Str) (reason : Nat) (fields payload : List (Str × Json)) : Prop where
  listed : ∀ number < 7, cert ∈ listedUnder payload number ↔ number = reason
  others : ∀ ref, ref ≠ cert → ∀ number < 7,
    ref ∈ listedUnder payload number ↔ IsRevoked fields number ref
  kept : ∀ name ∈ (["descr", "lifetime"] : List Str),
    ∃ text, TextIn fields name text ∧ field payload name = some (.str text)
  crlmethod : MethodIn fields "internal" ∧ field payload "crlmethod" = some (.str "internal")

/-- The certificates of a reason after a revocation -/
def moved (cert : Str) (reason : Nat) (current : CrlState) (name : Str) : List Str :=
  ((splitOn (code ',') (current.text name)).filter fun ref => !ref.isEmpty && ref ≠ cert) ++
    if name = reasonName reason then [cert] else []

theorem revocation_ok {values given : Json} {current : CrlState}
    (made : revocation values current = .ok given) :
    ∃ cert reason, Revokes values cert reason ∧ current.text "crlmethod" = "internal" ∧
      given = .obj (reasonNames.map fun name =>
        (name, .arr ((moved cert reason current name).map .str))) := by
  cases values with
  | obj fields =>
      rcases bind_eq_ok.mp made with ⟨_, named, made⟩
      rcases bind_eq_ok.mp made with ⟨cert, valid, made⟩
      rcases bind_eq_ok.mp made with ⟨_, known, made⟩
      cases made
      simp only [raiseIf_eq_ok, Bool.or_eq_false_iff, Option.isNone_eq_false_iff,
        Option.isSome_iff_exists, decide_eq_false_iff_not, not_not] at named known
      rcases named with ⟨⟨_, certificate, foundCert⟩, given, foundReason⟩
      rcases List.mem_map.mp known.1 with ⟨reason, below, same⟩
      rw [fieldD, foundCert, Option.getD_some] at valid
      rw [fieldD, foundReason, Option.getD_some] at same
      have shape : certificate = .str cert := by
        cases certificate with
        | str value =>
            rw [refid] at valid
            split at valid
            · cases valid
              rfl
            · cases valid
        | _ => cases valid
      rw [shape] at foundCert
      refine ⟨cert, reason, ⟨⟨fields, rfl, foundCert⟩, List.mem_range.mp below,
        ⟨fields, given, rfl, foundReason, same.symm⟩⟩, known.2, ?_⟩
      simp only [moved, reasonName, same, fieldD, foundReason, Option.getD_some]
  | _ => cases made

omit [Runtime] in
theorem certificates_moved {cert ref name : Str} {reason : Nat} {current : CrlState} :
    ref ∈ moved cert reason current name ↔
      (ref ∈ certificates (current.text name) ∧ ref ≠ cert) ∨
        (name = reasonName reason ∧ ref = cert) := by
  rw [moved, List.mem_append, List.mem_filter, certificates, List.mem_filter]
  split <;> simp_all [and_assoc]

omit [Runtime] in
theorem reasonName_inj : ∀ number < 7, ∀ other < 7,
    reasonName number = reasonName other → number = other := by
  decide

omit [Runtime] in
theorem reasonRefs_arr {items refs : List Json} (given : reasonRefs (.arr items) = .ok refs) :
    refs = items := by
  rcases bind_eq_ok.mp given with ⟨_, same, given⟩
  cases same
  rcases bind_eq_ok.mp given with ⟨_, _, given⟩
  cases given
  rfl

theorem lifetimeText_str {text days : Str} (valid : lifetimeText (.str text) = .ok days) :
    days = text := by
  rcases bind_eq_ok.mp valid with ⟨_, _, valid⟩
  rcases bind_eq_ok.mp valid with ⟨_, _, valid⟩
  rcases bind_eq_ok.mp valid with ⟨_, _, valid⟩
  cases valid
  rfl

omit [Runtime] in
/-- What a text of the list and no value asks for -/
theorem text_of_item {current : CrlState} {name text : Str}
    (found : (field current.item name).map Json.str = some (.str text)) :
    current.text name = text := by
  rcases Option.map_eq_some_iff.mp found with ⟨stored, same, equal⟩
  cases equal
  rw [CrlState.text, same]
  rfl

theorem Validated.listed {wanted payload : List (Str × Json)} (validated : Validated wanted payload)
    {number : Nat} (below : number < 7) :
    listedUnder payload number = refTexts (fieldD wanted (reasonName number) .null) := by
  rcases validated.reasons _ (reasonName_mem below) with ⟨_, stored, valid⟩
  rw [listedUnder, fieldD, stored, Option.getD_some]
  exact certificates_join valid

/-- No certificate is listed twice, in one reason or in two. -/
theorem Validated.nodup {wanted payload : List (Str × Json)}
    (validated : Validated wanted payload) :
    ((List.range 7).flatMap (listedUnder payload)).Nodup := by
  have same : (List.range 7).flatMap (listedUnder payload) =
      reasonNames.flatMap fun name => refTexts (fieldD wanted name .null) := by
    rw [reasonNames, List.flatMap_map]
    exact List.flatMap_congr fun number member => validated.listed (List.mem_range.mp member)
  rw [same]
  exact validated.distinct

theorem revoke_moves {service : CrlService} {values given : Json} {current : CrlState}
    {fields payload : List (Str × Json)} (shown : Shows fields current)
    (made : revocation values current = .ok given)
    (valid : service.validate given current = .ok payload) :
    ∃ cert reason, Revokes values cert reason ∧ IsMove cert reason fields payload := by
  rcases revocation_ok made with ⟨cert, reason, revokes, internal, rfl⟩
  have validated := validate_ok shown.complete valid
  have wanted : ∀ name, field (merged (reasonNames.map fun name =>
      (name, .arr ((moved cert reason current name).map .str))) current) name =
        if name ∈ reasonNames then some (.arr ((moved cert reason current name).map .str))
        else (field current.item name).map .str := by
    intro name
    rw [merged, field_foldl_setField, ← List.map_reverse, field_map_names,
      @field_map _ name current.item _ fun _ => Json.str]
    simp only [List.mem_reverse]
    split <;> rfl
  have listed : ∀ number < 7,
      listedUnder payload number = moved cert reason current (reasonName number) := by
    intro number below
    have member := reasonName_mem below
    rcases validated.reasons _ member with ⟨given, _, _⟩
    have value : fieldD (merged (reasonNames.map fun name =>
        (name, .arr ((moved cert reason current name).map .str))) current)
          (reasonName number) .null =
            .arr ((moved cert reason current (reasonName number)).map .str) := by
      rw [fieldD, wanted, if_pos member]
      rfl
    rw [validated.listed below, value]
    rw [value] at given
    exact List.map_injective_iff.mpr (fun _ _ => Json.str.inj) (reasonRefs_arr given)
  refine ⟨cert, reason, revokes, ?_, ?_, ?_, internal ▸ shown.crlmethod, ?_⟩
  · intro number below
    rw [listed number below, certificates_moved]
    constructor
    · rintro (⟨_, different⟩ | ⟨same, _⟩)
      · exact absurd rfl different
      · exact reasonName_inj number below reason revokes.known same
    · rintro rfl
      exact .inr ⟨rfl, rfl⟩
  · intro ref different number below
    rw [listed number below, certificates_moved, ← shown.revoked number below ref]
    simp [different, CrlState.revoked]
  · intro name member
    simp only [List.mem_cons, List.not_mem_nil, or_false] at member
    rcases member with rfl | rfl
    · refine ⟨_, shown.texts _ (by simp), ?_⟩
      rcases validated.descr with ⟨text, found, stored⟩
      rw [wanted, if_neg (by decide)] at found
      rw [stored, text_of_item found]
    · refine ⟨_, shown.texts _ (by simp), ?_⟩
      rcases validated.lifetime with ⟨days, valid, stored⟩
      rw [fieldD, wanted, if_neg (by decide)] at valid
      cases found : field current.item "lifetime" with
      | none =>
          rw [found] at valid
          cases valid
      | some text =>
          rw [found] at valid
          rw [stored, lifetimeText_str valid, CrlState.text, found]
          rfl
  · rcases validated.crlmethod with ⟨text, found, stored⟩
    rw [wanted, if_neg (by decide)] at found
    rw [stored, ← text_of_item found, internal]

/-! ## The readback -/

/-- What was read back is what was posted, with the next serial number. -/
structure Confirmed (payload before after : List (Str × Json)) : Prop where
  texts : ∀ name ∈ (["descr", "lifetime"] : List Str),
    ∃ text, field payload name = some (.str text) ∧ TextIn after name text
  crlmethod : ∃ method, field payload "crlmethod" = some (.str method) ∧ MethodIn after method
  reasons : field payload "crlmethod" = some (.str "internal") →
    ∀ number < 7, ∀ ref, IsRevoked after number ref ↔ ref ∈ listedUnder payload number
  imported : field payload "crlmethod" = some (.str "existing") → ∃ given text,
    field payload "text" = some (.str given) ∧ TextIn after "text" text ∧ strip text = strip given
  serial : ∃ old new previous, TextIn before "serial" old ∧ TextIn after "serial" new ∧
    (Json.str old).toInt = (.ok previous : Except Exn Int) ∧
      (Json.str new).toInt = (.ok (previous + 1) : Except Exn Int)

variable {change : CrlChange}

omit [Runtime] in
theorem nextSerial_true {current after : CrlState} (next : nextSerial current after = .ok true) :
    ∃ previous : Int,
      (Json.str (current.text "serial")).toInt = (.ok previous : Except Exn Int) ∧
        (Json.str (after.text "serial")).toInt = (.ok (previous + 1) : Except Exn Int) := by
  rcases bind_eq_ok.mp next with ⟨serial, read, next⟩
  rcases bind_eq_ok.mp next with ⟨previous, known, next⟩
  refine ⟨previous, known, ?_⟩
  rw [read]
  have same : serial = previous + 1 := by simpa [pure, Except.pure] using next
  rw [same]

theorem matchesChange_confirmed {wanted before after : List (Str × Json)} {state : CrlState}
    (validated : Validated wanted change.payload) (stays : change.request.action ≠ .delete)
    (same : matchesChange change state = .ok true) (known : Shows before change.current)
    (read : Shows after state) : Confirmed change.payload before after := by
  rw [matchesChange, if_neg stays] at same
  split at same
  · rename_i texts
    simp only [sameTexts, Bool.and_eq_true, List.all_eq_true, decide_eq_true_eq] at texts
    rcases validated.crlmethod with ⟨method, _, posted⟩
    have given : (fieldD change.payload "crlmethod" (.str [])).text = method := by
      rw [fieldD, posted]
      rfl
    refine ⟨?_, ⟨method, posted, ?_⟩, ?_, ?_, ?_⟩
    · intro name member
      have equal := texts.1 name (by simp at member ⊢; tauto)
      simp only [List.mem_cons, List.not_mem_nil, or_false] at member
      rcases member with rfl | rfl
      · rcases validated.descr with ⟨text, _, found⟩
        rw [fieldD, found] at equal
        exact ⟨text, found, (show _ = text from equal) ▸ read.texts _ (by simp)⟩
      · rcases validated.lifetime with ⟨text, _, found⟩
        rw [fieldD, found] at equal
        exact ⟨text, found, (show _ = text from equal) ▸ read.texts _ (by simp)⟩
    · have equal := texts.1 "crlmethod" (by simp)
      rw [given] at equal
      exact equal ▸ read.crlmethod
    · intro internal number below ref
      have sets := texts.2
      rw [posted] at internal
      cases internal
      rw [if_pos given, List.all_eq_true] at sets
      rw [← read.revoked number below ref]
      exact sameItems_certificates (sets _ (reasonName_mem below))
    · intro existing
      have equal := texts.2
      rw [posted] at existing
      cases existing
      rw [if_neg (by rw [given]; decide), decide_eq_true_eq] at equal
      rcases validated.imported posted with ⟨text, found⟩
      rw [fieldD, found] at equal
      exact ⟨text, _, found, read.texts _ (by simp), equal⟩
    · rcases nextSerial_true same with ⟨previous, old, new⟩
      exact ⟨_, _, previous, known.texts _ (by simp), read.texts _ (by simp), old, new⟩
  · cases same

/-! ## Runs -/

/-- The list was read, with these fields. -/
def Reads (trace : Trace Role) (caref : Str) (fields : List (Str × Json)) : Prop :=
  ∃ response, (⟨.get .client (base ++ "get/" ++ caref) [], .ok response⟩ : Exchange Role) ∈ trace ∧
    Answers response fields

/-- The list was read in this state. -/
def ReadAs (trace : Trace Role) (caref : Str) (state : CrlState) : Prop :=
  ∃ fields, Reads trace caref fields ∧ Shows fields state

/-- The POST of a change that is no deletion -/
structure SoundPost (request : CrlRequest) (fields : List (Str × Json)) (post : Post Role)
    (back : Trace Role) (outcome : Except Exn Str) (payload : List (Str × Json)) : Prop where
  path : post.path = base ++ "set/" ++ request.caref
  body : post.body = .obj [("crl", .obj payload)]
  nodup : ((List.range 7).flatMap (listedUnder payload)).Nodup
  move : request.action = .revoke →
    ∃ cert reason, Revokes request.values cert reason ∧ IsMove cert reason fields payload
  confirmed : ∀ caref, outcome = .ok caref →
    ∃ after, Reads back request.caref after ∧ Confirmed payload fields after

variable {service : CrlService} {request : CrlRequest} {trace : Trace Role}

theorem payloadOf_ok {current : CrlState} {fields payload : List (Str × Json)}
    (shown : Shows fields current) (stays : request.action ≠ .delete)
    (made : service.payloadOf request.action request.values current = .ok payload) :
    (∃ wanted, Validated wanted payload) ∧ (request.action = .revoke →
      ∃ cert reason, Revokes request.values cert reason ∧ IsMove cert reason fields payload) := by
  have validates : ∀ values, service.validate values current = .ok payload →
      ∃ wanted, Validated wanted payload := by
    intro values valid
    cases values with
    | obj fields => exact ⟨_, validate_ok shown.complete valid⟩
    | _ => cases valid
  cases action : request.action with
  | delete => exact absurd action stays
  | revoke =>
      rw [action] at made
      rcases bind_eq_ok.mp made with ⟨given, moved, valid⟩
      exact ⟨validates given valid, fun _ => revoke_moves shown moved valid⟩
  | create =>
      rw [action] at made
      exact ⟨validates _ made, fun same => nomatch same⟩
  | update =>
      rw [action] at made
      exact ⟨validates _ made, fun same => nomatch same⟩

omit [Runtime] in
theorem raw_ok {State : Type} {caref : Str} {before after : State} {state : CrlState}
    (run : (raw caref : Py Role State CrlState).Run before trace (.ok state) after) :
    ReadAs trace caref state := by
  rw [raw, callGet, Action.run_bind_decoded] at run
  rcases run with ⟨reply, tail, rfl, ⟨response, answered, run⟩ | ⟨error, _, _, same, _⟩⟩
  · rw [Action.run_ofExcept] at run
    rcases run with ⟨rfl, same, _⟩
    rw [called_ok answered]
    rcases stateOf_shows same.symm with ⟨fields, answers, read⟩
    exact ⟨fields, ⟨response, List.mem_cons_self, answers⟩, read⟩
  · cases same

omit [Runtime] in
theorem ReadAs.append {front back : Trace Role} {caref : Str} {state : CrlState}
    (read : ReadAs front caref state) : ReadAs (front ++ back) caref state := by
  rcases read with ⟨fields, ⟨response, member, same⟩, shown⟩
  exact ⟨fields, ⟨response, List.mem_append_left _ member, same⟩, shown⟩

theorem prepareChange_read {started : Clock} {before after : Bool}
    (run : (service.prepareChange request started).Run before trace (.ok change) after) :
    ReadAs trace request.caref change.current ∧ change.request = request ∧
      service.payloadOf request.action request.values change.current = .ok change.payload := by
  rw [prepareChange, Action.run_bind_ok] at run
  rcases run with ⟨front, state, _, back, rfl, reading, run⟩
  have read := raw_ok reading
  rw [Action.run_bind_ofExcept] at run
  rcases run with ⟨_, _, run⟩ | ⟨_, _, _, same, _⟩
  · rw [Action.run_bind_ofExcept] at run
    rcases run with ⟨payload, made, run⟩ | ⟨_, _, _, same, _⟩
    · rw [Action.run_bind_ofExcept] at run
      rcases run with ⟨digest, _, run⟩ | ⟨_, _, _, same, _⟩
      · rw [Action.run_pure] at run
        rcases run with ⟨rfl, same, _⟩
        cases same
        exact ⟨read.append, rfl, made⟩
      · cases same
    · cases same
  · cases same

theorem confirm_ok {before after : Bool} (run : (confirm change).Run before trace (.ok ()) after) :
    ∃ state, ReadAs trace change.request.caref state ∧ matchesChange change state = .ok true := by
  rw [confirm, Action.run_bind_ok] at run
  rcases run with ⟨front, state, _, back, rfl, reading, run⟩
  rw [Action.run_bind_ofExcept] at run
  rcases run with ⟨same, found, run⟩ | ⟨_, _, _, same, _⟩
  · rw [Action.run_bind_raiseIf] at run
    rcases run with ⟨equal, _⟩ | ⟨_, _, same, _⟩
    · have true : same = true := by simpa using equal
      rw [true] at found
      exact ⟨state, (raw_ok reading).append, found⟩
    · cases same
  · cases same

/-- The body of the POST, and what a return says about the readback -/
theorem attemptChange_sent {before after : Bool} {outcome : Except Exn Str}
    (run : (attemptChange change).Run before trace outcome after) :
    ∃ (post : Post Role) (back : Trace Role), trace = post.exchange :: back ∧ posts back = [] ∧
      (change.request.action ≠ .delete →
        post.path = base ++ "set/" ++ change.request.caref ∧
          post.body = .obj [("crl", .obj change.payload)]) ∧
      ∀ caref, outcome = .ok caref →
        ∃ state, ReadAs back change.request.caref state ∧ matchesChange change state = .ok true := by
  rw [attemptChange, Action.run_bind_modifyState] at run
  dsimp only at run
  rw [callPost, Action.run_bind_decoded] at run
  rcases run with ⟨reply, back, rfl, rest⟩
  refine ⟨⟨.client, _, sentBody (if decide (change.request.action = .delete) then .obj []
    else .obj [("crl", .obj change.payload)]), reply⟩, back, rfl, ?_, ?_, ?_⟩
  · rcases rest with ⟨response, _, run⟩ | ⟨_, _, rfl, _⟩
    · rw [Action.run_bind_ofExcept] at run
      rcases run with ⟨_, _, run⟩ | ⟨_, _, rfl, _⟩
      · rw [Action.run_bind] at run
        rcases run with ⟨front, _, _, late, rfl, confirming, run⟩ | ⟨_, _, confirming⟩
        · rw [Action.run_pure] at run
          rcases run with ⟨rfl, _⟩
          rw [List.append_nil]
          exact (confirm_run confirming).2.1
        · exact (confirm_run confirming).2.1
      · rfl
    · rfl
  · intro stays
    simp [stays, sentBody, Json.truthy]
  · rintro caref rfl
    rcases rest with ⟨response, _, run⟩ | ⟨_, _, _, same, _⟩
    · rw [Action.run_bind_ofExcept] at run
      rcases run with ⟨_, _, run⟩ | ⟨_, _, _, same, _⟩
      · rw [Action.run_bind_ok] at run
        rcases run with ⟨front, _, _, late, rfl, confirming, _⟩
        rcases confirm_ok confirming with ⟨state, read, same⟩
        exact ⟨state, read.append, same⟩
      · cases same
    · cases same

omit [Runtime] in
/-- What raises returns nothing. -/
theorem unreturned {error : Exn} (caref : Str) : (.error error : Except Exn Str) ≠ .ok caref := by
  intro same
  cases same

theorem handleChange_sent {before after : Bool} {outcome : Except Exn Str}
    (run : ((attemptChange change).handle (recoverChange change)).Run before trace outcome after) :
    ∃ (post : Post Role) (back : Trace Role), trace = post.exchange :: back ∧ posts back = [] ∧
      (change.request.action ≠ .delete →
        post.path = base ++ "set/" ++ change.request.caref ∧
          post.body = .obj [("crl", .obj change.payload)]) ∧
      ∀ caref, outcome = .ok caref →
        ∃ state, ReadAs back change.request.caref state ∧ matchesChange change state = .ok true := by
  rw [Action.run_handle] at run
  rcases run with ⟨result, rfl, attempt⟩ | ⟨front, error, middle, late, rfl, attempt, handling⟩
  · exact attemptChange_sent attempt
  · rcases attemptChange_sent attempt with ⟨post, back, rfl, quiet, posted, _⟩
    have silent : posts late = [] ∧ ∀ caref, outcome ≠ .ok caref := by
      cases caught : caughtError error with
      | none =>
          rw [recoverChange, caught, Action.run_raise] at handling
          rcases handling with ⟨rfl, rfl, _⟩
          exact ⟨rfl, unreturned⟩
      | some cause =>
          rcases recoverChange_run caught handling with ⟨quiet, final, rfl, _⟩
          exact ⟨posts_eq_nil fun event member => (quiet event member).1, unreturned⟩
    refine ⟨post, back ++ late, rfl, ?_, posted, fun caref same => absurd same (silent.2 caref)⟩
    rw [posts_append, quiet, silent.1]
    rfl

/-- What a run posts, and what it reports about it -/
def Moves (service : CrlService) (body : Json) (trace : Trace Role) (outcome : Except Exn Str) :
    Prop :=
  (posts trace = [] ∧ ∀ caref, outcome ≠ .ok caref) ∨
    ∃ request fields front post back, service.accept body = .ok request ∧
      trace = front ++ post.exchange :: back ∧ posts front = [] ∧ posts back = [] ∧
      Reads front request.caref fields ∧
      (request.action ≠ .delete → ∃ payload,
        SoundPost request fields post back outcome payload)

theorem runChange_moves {body : Json} {before after : Bool} {outcome : Except Exn Str}
    (accepted : service.accept body = .ok request)
    (run : (service.runChange request).Run before trace outcome after) :
    Moves service body trace outcome := by
  rw [runChange, readClock, Action.run_bind_ask] at run
  rcases run with ⟨started, rest, rfl, run⟩
  rw [Action.run_bind] at run
  rcases run with ⟨early, change, _, rest, rfl, preparing, run⟩ | ⟨error, rfl, preparing⟩
  all_goals
    have quiet := (prepareChange_run preparing).1
  rotate_left
  · exact .inl ⟨quiet, unreturned⟩
  rcases prepareChange_read preparing with ⟨read, rfl, made⟩
  rw [Action.run_bind] at run
  rcases run with ⟨recording, _, _, rest, rfl, recorded, run⟩ | ⟨error, rfl, recorded⟩
  all_goals
    have still := posts_eq_nil fun event member => ((record_run recorded).2.1 event member).1
  rotate_left
  · refine .inl ⟨?_, unreturned⟩
    rw [posts_clock, posts_append, quiet, still]
    rfl
  rcases handleChange_sent run with ⟨post, back, rfl, silent, posted, confirmed⟩
  rcases read with ⟨fields, ⟨response, member, answers⟩, known⟩
  refine .inr ⟨change.request, fields, ⟨.clock, started⟩ :: (early ++ recording), post,
    back, accepted, by simp, ?_, silent, ?_, ?_⟩
  · rw [posts_clock, posts_append, quiet, still]
    rfl
  · exact ⟨response, List.mem_cons_of_mem _ (List.mem_append_left _ member), answers⟩
  · intro stays
    rcases payloadOf_ok known stays made with ⟨⟨wanted, validated⟩, move⟩
    refine ⟨change.payload, (posted stays).1, (posted stays).2, validated.nodup, move, ?_⟩
    intro caref returned
    rcases confirmed caref returned with ⟨state, ⟨after, read, shown⟩, matching⟩
    exact ⟨after, read, matchesChange_confirmed validated stays matching known shown⟩

/-- A revocation moves one certificate, no list has a certificate twice, and what is reported as
verified was read back. -/
theorem mutate_moves {body : Json} {outcome : Except Exn Str}
    (run : (service.mutate body).Run () trace outcome ()) :
    Moves service body trace outcome := by
  rw [mutate, Action.run_bind_ofExcept] at run
  rcases run with ⟨request, accepted, run⟩ | ⟨error, _, rfl, rfl, _⟩
  rotate_left
  · exact .inl ⟨rfl, unreturned⟩
  rw [Action.run_bind] at run
  rcases run with ⟨front, ⟨result, last⟩, _, back, rfl, running, run⟩ | ⟨error, rfl, running⟩
  all_goals
    rw [Action.run_withState] at running
    rcases running with ⟨changed, final, running, _, same⟩
    rcases changed with raised | value
    all_goals cases same
  · rw [Action.run_pure] at run
    rcases run with ⟨rfl, rfl, _⟩
    rw [List.append_nil]
    exact runChange_moves accepted running
  · exact runChange_moves accepted running

/-! ### A revocation and an imported list -/

def labFirst : Str := "0123456789abc"

def labSecond : Str := "abcdef0123456"

/-- The text of a list without revoked certificates -/
def labPem : Str := join [code '\n'] [
  "-----BEGIN X509 CRL-----",
  "MIGSMEYCAQEwBQYDK2VwMAwxCjAIBgNVBAMMAVQXDTI2MTExOTIzNTAyM1oXDTM2",
  "MTExNjIzNTAyM1qgDjAMMAoGA1UdFAQDAgEBMAUGAytlcANBAI3iPUxyD+RiofMn",
  "XHIZjThAAqQCi2sNPG3Kk8Ow/nuPr5p93WHyTxPERuDHiGMrTuQH21jglzVZ4vbI",
  "I8fhjA4=",
  "-----END X509 CRL-----", []]

/-- A service that knows the text above -/
def importing : CrlService where
  client := labService.client
  peer := none
  actor := labService.actor
  loadPem text := if text = labPem then .ok () else .error (.builtin .valueError "CRL")

/-- One certificate of a reason, with its flag -/
def labOption (flag : Str) : Json := .obj [("value", .str "Client"), ("selected", .str flag)]

/-- A list that offers one certificate as compromised and one as superseded -/
def offering (crlmethod text serial first second : Str) : List (Str × Json) :=
  ([("caref", .str labCaref), ("descr", .str "Current"), ("serial", .str serial),
    ("lifetime", .str "9999"), ("text", .str text), ("crlmethod", .str crlmethod)] :
      List (Str × Json)) ++ reasonNames.map fun name => (name,
        if name = reasonName 1 then .obj [(labFirst, labOption first)]
        else if name = reasonName 4 then .obj [(labSecond, labOption second)] else .arr [])

/-- A node that saves what it is sent and then shows that list -/
def savesAs (current after : List (Str × Json)) (history : Trace Role) :
    (request : Request Role) → Answer request
  | .get _ _ _ =>
      .ok (.obj [("crl", .obj (if (posts history).isEmpty then current else after))])
  | .post _ _ _ => .ok (.obj [("status", .str "saved")])
  | .append _ => .ok ()
  | .clock => ⟨[], 0⟩
  | .lockFor _ _ => 0
  | .acquireGuard _ | .releaseGuard _ | .acquire _ | .release _ => ()

/-- The second certificate is superseded; the first one is compromised already. -/
def labRevoke : Json := .obj [("action", .str "revoke"), ("uuid", .str labCaref),
  ("revision", .str "c3f0ed51b7503913fa44b8eccd1fdf1c3a8c046b006892a6de49f5854dc9b24d"),
  ("values", .obj [("certificate", .str labSecond), ("reason", .str "4")])]

/-- A reason is stated for a certificate of an imported list. -/
def labImport : Json := .obj [("action", .str "update"), ("uuid", .str labCaref),
  ("revision", .str "a0cea1df884690d99a3d62756eb0b8a2ee79d377aa75568517a4b6461654e02c"),
  ("values", .obj [("revoked_reason_1", .arr [.str labFirst])])]

/-- The node after the revocation -/
def revokes : Trace Role → (request : Request Role) → Answer request :=
  savesAs (offering "internal" [] "1" "1" "0") (offering "internal" [] "2" "1" "1")

/-- The node keeps the text of an imported list, and no reasons. -/
def imports : Trace Role → (request : Request Role) → Answer request :=
  savesAs (offering "existing" labPem "1" "0" "0") (offering "existing" labPem "2" "0" "0")

/-- The certificates that a POST lists under the seven reasons -/
def listedReasons (post : Post Role) : List (List Str) :=
  match post.body with
  | .obj fields =>
      match field fields "crl" with
      | some (.obj payload) => (List.range 7).map (listedUnder payload)
      | _ => []
  | _ => []

omit [Runtime] in
/-- What the two changes report and post -/
theorem lab_changes :
    (((@mutate Runtime.ascii labService labRevoke ()).replay revokes []).2.1.toOption =
        some labCaref ∧
      (posts ((@mutate Runtime.ascii labService labRevoke ()).replay revokes []).1).map
        (@listedReasons Runtime.ascii) = [[[], [labFirst], [], [], [labSecond], [], []]]) ∧
    ((@mutate Runtime.ascii importing labImport ()).replay imports []).2.1.toOption =
        some labCaref ∧
      (posts ((@mutate Runtime.ascii importing labImport ()).replay imports []).1).map
        (@listedReasons Runtime.ascii) = [[[], [labFirst], [], [], [], [], []]] := by
  decide +kernel

omit [Runtime] in
theorem mutate_moves_lab : ∃ trace post,
    (@mutate Runtime.ascii labService labRevoke).Run () trace (.ok labCaref) () ∧
      posts trace = [post] ∧ @listedReasons Runtime.ascii post = [[], [labFirst], [], [], [labSecond], [], []] ∧
      @Moves Runtime.ascii labService labRevoke trace (.ok labCaref) := by
  rcases Program.replay_yields revokes (@mutate Runtime.ascii labService labRevoke ()) []
    with ⟨trace, recorded, run⟩
  rcases lab_changes.1 with ⟨reported, listed⟩
  rw [recorded, List.nil_append] at listed
  generalize ((@mutate Runtime.ascii labService labRevoke ()).replay revokes []).2 = last
    at run reported
  rcases last with ⟨error | caref, _⟩
  · cases reported
  · cases Option.some.inj reported
    rcases List.map_eq_singleton_iff.mp listed with ⟨post, only, certificates⟩
    exact ⟨trace, post, run, only, certificates,
      @mutate_moves Runtime.ascii labService trace _ _ run⟩

omit [Runtime] in
/-- A change of an imported list is reported as verified although nothing that is read after its
POST has the certificate under the posted reason. -/
theorem mutate_unlisted : ∃ trace post,
    (@mutate Runtime.ascii importing labImport).Run () trace (.ok labCaref) () ∧
      posts trace = [post] ∧ @listedReasons Runtime.ascii post = [[], [labFirst], [], [], [], [], []] ∧
      ∀ front back fields, trace = front ++ post.exchange :: back →
        Reads back labCaref fields → ¬ IsRevoked fields 1 labFirst := by
  rcases Program.replay_yields imports (@mutate Runtime.ascii importing labImport ()) []
    with ⟨trace, recorded, run⟩
  rcases lab_changes.2 with ⟨reported, listed⟩
  rw [recorded, List.nil_append] at listed
  generalize ((@mutate Runtime.ascii importing labImport ()).replay imports []).2 = last
    at run reported
  rcases last with ⟨error | caref, _⟩
  · cases reported
  cases Option.some.inj reported
  rcases List.map_eq_singleton_iff.mp listed with ⟨post, only, certificates⟩
  refine ⟨trace, post, run, only, certificates, ?_⟩
  rintro front back fields split ⟨response, member, answers⟩ ⟨options, found, selects⟩
  rcases List.append_of_mem member with ⟨between, rest, rfl⟩
  have whole : trace = (front ++ post.exchange :: between) ++
      ⟨.get .client (base ++ "get/" ++ labCaref) [], .ok response⟩ :: rest := by
    rw [split]
    simp
  have shown := Program.replay_answers recorded whole
  have sent : (posts ([] ++ (front ++ post.exchange :: between))).isEmpty = false := by
    simp [posts_append, Post.exchange]
  simp only [imports, savesAs, sent, Bool.false_eq_true, if_false] at shown
  cases shown
  rcases answers with ⟨answer, same, crl⟩
  cases same
  cases crl
  cases found
  rcases selects with ⟨entry, flag, offered, flagged, set⟩
  cases List.mem_singleton.mp offered
  cases flagged
  cases set

end CrlService

end OpnsensePlugin
