import OpnsensePlugin.Routes.Rendering

/-!
# Saving an object unchanged

An object that was written through a form is read back, shown in a form and
written again. `KeepsConfiguration` says that the second payload is the first
one; `edit_keeps_iff` says for which objects it is.
-/

namespace OpnsensePlugin

open Python

namespace FirewallForm

variable [Runtime]

/-! ## Saving again -/

/-- The object of a payload -/
def storedFields : Json → List (Str × Json)
  | .obj [(_, .obj fields)] => fields
  | _ => []

/-- The entries of a content, where a field is one -/
def entriesOf : Option Json → Option (List Str)
  | some (.str content) => some (contentLines content)
  | _ => none

/-- The payloads agree on all fields, on the content of an alias as a list of entries. -/
def SameConfiguration (left right : Json) : Prop :=
  ∀ name, if name = "content" then
      entriesOf (field (storedFields left) name) = entriesOf (field (storedFields right) name)
    else field (storedFields left) name = field (storedFields right) name

/-- The form of the returned object is accepted, and its payload is the stored one. -/
def KeepsConfiguration (resource : Resource) (payload : Json) (row : List (Str × Json)) : Prop :=
  ∃ form again, normalize resource (.obj row) = .ok form ∧
    parsePayload resource (.obj form) = .ok again ∧ SameConfiguration payload again

omit [Runtime] in
theorem sameConfiguration_refl {payload : Json} : SameConfiguration payload payload := by
  intro name
  split <;> rfl

/-! ### Rules -/

section SavedRules

variable {rule : RuleForm}

/-- `payload["rule"]` -/
def RuleForm.fields (rule : RuleForm) : List (Str × Json) :=
  [("enabled", flagText rule.input.enabled),
    ("sequence", .str (intText rule.input.sequence)),
    ("action", .str rule.input.action),
    ("direction", .str rule.input.direction),
    ("ipprotocol", .str rule.input.ipprotocol),
    ("protocol", .str (nativeProtocol rule.input.protocol)),
    ("source_net", .str rule.input.sourceNet),
    ("source_port", .str rule.input.sourcePort),
    ("destination_net", .str rule.input.destinationNet),
    ("destination_port", .str rule.input.destinationPort),
    ("interface", .str rule.input.interface),
    ("description", .str rule.input.description),
    ("log", flagText rule.log),
    ("quick", flagText rule.quick)]

omit [Runtime] in
theorem storedFields_rule : storedFields rule.payload = rule.fields := by
  unfold RuleForm.payload
  by_cases both : rule.input.protocol = "tcp/udp"
  · rw [if_pos both, RuleForm.fields, nativeProtocol, if_pos both]
    rfl
  · rw [if_neg both, RuleForm.fields, nativeProtocol, if_neg both]
    rfl

theorem rule_hasOptions (valid : IsRule rule) (rendering : Rendering .rules rule.fields) :
    rendering.HasOptions := by
  apply rendering.hasOptions_of_texts
  intro name select
  simp only [selectNames, List.mem_cons, List.not_mem_nil, or_false] at select
  rcases select with rfl | rfl | rfl | rfl | rfl | rfl | rfl
  · refine ⟨rule.input.action, mem_leaves (by simp [RuleForm.fields]), ?_⟩
    exact ne_nil_of_mem valid.action.2 (by decide)
  · refine ⟨rule.input.direction, mem_leaves (by simp [RuleForm.fields]), ?_⟩
    exact ne_nil_of_mem valid.direction.2 (by decide)
  · refine ⟨rule.input.ipprotocol, mem_leaves (by simp [RuleForm.fields]), ?_⟩
    exact ne_nil_of_mem valid.common.ipprotocol.2 (by decide)
  · refine ⟨nativeProtocol rule.input.protocol, mem_leaves ?_, ?_⟩
    · simp [RuleForm.fields, nativeProtocol]
    · exact nativeProtocol_ne_nil valid.common.protocol
  · exact ⟨rule.input.sourceNet, mem_leaves (by simp [RuleForm.fields]),
      valid.common.sourceNet.2⟩
  · exact ⟨rule.input.destinationNet, mem_leaves (by simp [RuleForm.fields]),
      valid.common.destinationNet.2⟩
  · exact ⟨rule.input.interface, mem_leaves (by simp [RuleForm.fields]),
      valid.common.interface.2⟩

theorem rule_selectedRow (valid : IsRule rule) (rendering : Rendering .rules rule.fields) :
    rendering.selectedRow = rule.fields := by
  have hasOptions : rendering.HasOptions := rule_hasOptions valid rendering
  apply rendering.selectedRow_eq
  intro entry member
  have kept : ∀ name text, (name, Json.str text) ∈ rule.fields → name ≠ "content" →
      selected (shownField rendering.options name (.str text)) = .str text := by
    intro name text listed other
    exact rendering.selected_shown hasOptions (mem_leaves listed) other
  have texts : ∀ entry ∈ rule.fields, ∃ text, entry.2 = .str text ∧ entry.1 ≠ "content" := by
    simp [RuleForm.fields, flagText, ofString_inj]
  rcases entry with ⟨name, value⟩
  rcases texts _ member with ⟨text, rfl, other⟩
  exact kept name text member other

theorem flag_of_flagText {flag : Bool} {row : List (Str × Json)} {key default : Str}
    (found : field row key = some (flagText flag)) : isFlagged row key default = flag := by
  cases flag <;> simp [isFlagged, fieldD, found, flagText, Json.text, ofString_inj]

theorem rule_shows (ascii : LowersAscii) (valid : IsRule rule) :
    ShowsRule (normalizeRow .rules rule.fields) rule := by
  have enabled : field (normalizeRow .rules rule.fields) "enabled" =
      some (.bool (isFlagged rule.fields "enabled" "1")) := rfl
  have log : field (normalizeRow .rules rule.fields) "log" =
      some (.bool (isFlagged rule.fields "log" "0")) := rfl
  have quick : field (normalizeRow .rules rule.fields) "quick" =
      some (.bool (isFlagged rule.fields "quick" "1")) := rfl
  have protocol : field (normalizeRow .rules rule.fields) "protocol" =
      some (.str (Runtime.lower (nativeProtocol rule.input.protocol))) := rfl
  rw [@flag_of_flagText _ rule.input.enabled _ _ _ rfl] at enabled
  rw [@flag_of_flagText _ rule.log _ _ _ rfl] at log
  rw [@flag_of_flagText _ rule.quick _ _ _ rfl] at quick
  have lowered : Runtime.lower (nativeProtocol rule.input.protocol) = rule.input.protocol :=
    lower_nativeProtocol ascii valid.common.protocol
  rw [lowered] at protocol
  exact {
    common := {
      sequence := rfl
      interface := rfl
      ipprotocol := rfl
      protocol
      sourceNet := rfl
      sourcePort := rfl
      destinationNet := rfl
      destinationPort := rfl
      description := rfl
      enabled }
    action := rfl
    direction := rfl
    log
    quick }

theorem rule_keeps (ascii : LowersAscii) (valid : IsRule rule)
    (rendering : Rendering .rules rule.fields) :
    KeepsConfiguration .rules rule.payload rendering.row := by
  have described : (("description" : Str), Json.str rule.input.description) ∈ rule.fields := by
    simp [RuleForm.fields]
  have row : selected (.obj rendering.row) = .obj rendering.selectedRow :=
    rendering.selected_row described (by decide)
  rw [rule_selectedRow valid rendering] at row
  have parsed := parseRule_of_shows ascii valid (rule_shows ascii valid)
  refine ⟨normalizeRow .rules rule.fields, rule.payload, ?_, ?_, sameConfiguration_refl⟩
  · simp [normalize, row, pure, Except.pure]
  · simp [parsePayload, parsed, bind, Except.bind, pure, Except.pure]

end SavedRules

/-! ### Port forwards -/

section SavedPortForwards

variable {input : PortForwardInput}

/-- `source` or `destination` of a port forward -/
def endpointFields (network port : Str) : List (Str × Json) :=
  [("network", .str network), ("port", .str port)]

/-- `payload["rule"]` -/
def portForwardFields (input : PortForwardInput) : List (Str × Json) :=
  [("interface", .str input.interface),
    ("target", .str input.target),
    ("source", .obj (endpointFields input.sourceNet input.sourcePort)),
    ("destination", .obj (endpointFields input.destinationNet input.destinationPort)),
    ("local-port", .str input.targetPort),
    ("descr", .str input.description),
    ("disabled", flagText (!input.enabled)),
    ("log", flagText input.log),
    ("ipprotocol", .str input.ipprotocol),
    ("protocol", .str (nativeProtocol input.protocol)),
    ("sequence", .str (intText input.sequence)),
    ("pass", .str input.filterAssociation),
    ("natreflection", .str input.natreflection)]

theorem storedFields_portForward (ascii : LowersAscii) (valid : IsPortForward input) :
    storedFields (portForwardPayload input) = portForwardFields input := by
  have lower : Runtime.lower input.protocol = input.protocol :=
    lower_of_mem_protocols ascii valid.common.protocol
  unfold portForwardPayload portForwardFields nativeProtocol
  rw [lower]
  rfl

/-- `source.network` -/
def networkName (group : Str) : Str := group ++ "." ++ "network"

omit [Runtime] in
theorem network_leaf {group network port : Str}
    (listed : (group, Json.obj (endpointFields network port)) ∈ portForwardFields input) :
    (networkName group, network) ∈ leaves (portForwardFields input) :=
  mem_leaves_nested listed (by simp [endpointFields])

omit [Runtime] in
theorem source_mem : (("source" : Str),
    Json.obj (endpointFields input.sourceNet input.sourcePort)) ∈ portForwardFields input := by
  simp [portForwardFields]

omit [Runtime] in
theorem destination_mem : (("destination" : Str),
    Json.obj (endpointFields input.destinationNet input.destinationPort)) ∈
      portForwardFields input := by
  simp [portForwardFields]

variable {rendering : Rendering .portForward (portForwardFields input)}

/-- Only the two fields that may be blank can be shown without options. -/
theorem portForward_hasOptions (valid : IsPortForward input)
    (pass : rendering.options "pass" ≠ some [])
    (reflection : rendering.options "natreflection" ≠ some []) : rendering.HasOptions := by
  intro name none
  have select := rendering.selects name [] none
  have blank : ∀ text, (name, text) ∈ leaves (portForwardFields input) → text = [] :=
    fun text leaf => rendering.text_of_no_options leaf none
  simp only [selectNames, List.mem_cons, List.not_mem_nil, or_false] at select
  rcases select with rfl | rfl | rfl | rfl | rfl | rfl | rfl | rfl
  · exact valid.common.interface.2 (blank _ (mem_leaves (by simp [portForwardFields, commonOf])))
  · exact valid.target.2 (blank _ (mem_leaves (by simp [portForwardFields])))
  · have name : networkName "source" = "source.network" := by decide
    exact valid.common.sourceNet.2 (blank _ (name ▸ network_leaf source_mem))
  · have name : networkName "destination" = "destination.network" := by decide
    exact valid.common.destinationNet.2 (blank _ (name ▸ network_leaf destination_mem))
  · refine ne_nil_of_mem valid.common.ipprotocol.2 (by decide) (blank _ (mem_leaves ?_))
    simp [portForwardFields, commonOf]
  · refine nativeProtocol_ne_nil valid.common.protocol (blank _ (mem_leaves ?_))
    simp [portForwardFields, commonOf]
  · exact pass none
  · exact reflection none

/-- A group whose port is no select field is returned as it is stored. -/
theorem selected_endpoint {group network port : Str}
    (kept : selected (shown rendering.options (networkName group) (.str network)) =
      .str network)
    (plain : group ++ "." ++ "port" ∉ selectNames .portForward) :
    selected (shownField rendering.options group (.obj (endpointFields network port))) =
      .obj (endpointFields network port) := by
  have portPlain := rendering.plain_of_not_select plain
  have part : shown rendering.options (group ++ "." ++ "port") (.str port) = .str port := by
    simp only [shown, portPlain]
  have split : shownField rendering.options group (.obj (endpointFields network port)) =
      .obj [("network", shown rendering.options (networkName group) (.str network)),
        ("port", .str port)] := by
    rw [← part]
    rfl
  rw [split, selected]
  simp [isOption, selectedFields, kept, selected, endpointFields]

theorem portForward_selectedRow (hasOptions : rendering.HasOptions) :
    rendering.selectedRow = portForwardFields input := by
  apply rendering.selectedRow_eq
  intro entry member
  have shapes : ∀ entry ∈ portForwardFields input,
      (∃ text, entry.2 = .str text ∧ entry.1 ≠ "content") ∨
      entry = (("source" : Str), Json.obj (endpointFields input.sourceNet input.sourcePort)) ∨
      entry = (("destination" : Str),
        Json.obj (endpointFields input.destinationNet input.destinationPort)) := by
    simp [portForwardFields, flagText, ofString_inj]
  rcases entry with ⟨name, value⟩
  have groups : ∀ group, networkName group ≠ "content" → group ++ "." ++ "port" ∉
      selectNames .portForward → ∀ network port,
      (group, Json.obj (endpointFields network port)) ∈ portForwardFields input →
      selected (shownField rendering.options group (.obj (endpointFields network port))) =
        .obj (endpointFields network port) :=
    fun group other plain network port listed => selected_endpoint
      (rendering.selected_shown hasOptions (network_leaf listed) other) plain
  rcases shapes _ member with ⟨text, same, other⟩ | same | same
  · change value = .str text at same
    subst same
    exact rendering.selected_shown hasOptions (mem_leaves member) other
  · cases same
    exact groups "source" (by decide) (by decide) _ _ source_mem
  · cases same
    exact groups "destination" (by decide) (by decide) _ _ destination_mem

theorem portForward_shows (ascii : LowersAscii) (valid : IsPortForward input) :
    ShowsPortForward (normalizeRow .portForward (portForwardFields input)) input := by
  have lookup : ∀ name, field (normalizeRow .portForward (portForwardFields input)) name =
      (field (portForwardEntries (portForwardFields input) ++
        ruleEntries (portForwardFields input)).reverse name).or
        (if name ∈ copiedNames .portForward then field (portForwardFields input) name
          else none) := by
    intro name
    rw [normalizeRow, field_updateFields, field_copied]
  have enabled : isFlagged (portForwardFields input) "disabled" "0" = !input.enabled :=
    flag_of_flagText rfl
  have log : isFlagged (portForwardFields input) "log" "0" = input.log := flag_of_flagText rfl
  have lowered : Runtime.lower (nativeProtocol input.protocol) = input.protocol :=
    lower_nativeProtocol ascii valid.common.protocol
  have shownEnabled : field (normalizeRow .portForward (portForwardFields input)) "enabled" =
      some (.bool (!isFlagged (portForwardFields input) "disabled" "0")) := (lookup _).trans rfl
  have shownLog : field (normalizeRow .portForward (portForwardFields input)) "log" =
      some (.bool (isFlagged (portForwardFields input) "log" "0")) := (lookup _).trans rfl
  have shownProtocol : field (normalizeRow .portForward (portForwardFields input)) "protocol" =
      some (.str (Runtime.lower (nativeProtocol input.protocol))) := (lookup _).trans rfl
  rw [enabled, Bool.not_not] at shownEnabled
  rw [log] at shownLog
  rw [lowered] at shownProtocol
  exact {
    common := {
      sequence := (lookup _).trans rfl
      interface := (lookup _).trans rfl
      ipprotocol := (lookup _).trans rfl
      protocol := shownProtocol
      sourceNet := (lookup _).trans rfl
      sourcePort := (lookup _).trans rfl
      destinationNet := (lookup _).trans rfl
      destinationPort := (lookup _).trans rfl
      description := (lookup _).trans rfl
      enabled := shownEnabled }
    target := (lookup _).trans rfl
    targetPort := (lookup _).trans rfl
    log := shownLog
    filterAssociation := (lookup _).trans rfl
    natreflection := (lookup _).trans rfl }

theorem portForward_row :
    selected (.obj rendering.row) = .obj rendering.selectedRow := by
  have described : (("descr" : Str), Json.str input.description) ∈ portForwardFields input := by
    simp [portForwardFields]
  exact rendering.selected_row described (by decide)

theorem portForward_keeps (ascii : LowersAscii) (valid : IsPortForward input)
    (hasOptions : rendering.HasOptions) :
    KeepsConfiguration .portForward (portForwardPayload input) rendering.row := by
  have row := @portForward_row _ _ rendering
  rw [portForward_selectedRow hasOptions] at row
  have parsed := parsePortForward_of_shows ascii valid (portForward_shows ascii valid)
  refine ⟨normalizeRow .portForward (portForwardFields input), portForwardPayload input, ?_, ?_,
    sameConfiguration_refl⟩
  · simp [normalize, row, pure, Except.pure]
  · simp [parsePayload, parsed, bind, Except.bind, pure, Except.pure]

omit [Runtime] in
/-- A form whose field is an empty object is refused. -/
theorem formText_of_object {data : List (Str × Json)} {key default : Str} {required : Bool}
    {value : Str} (found : field data key = some (.obj []))
    (parsed : formText data key default required = .ok value) : False := by
  rcases formText_eq_ok.mp parsed with ⟨written, same, _⟩
  rw [fieldD, found] at same
  cases same

theorem portForward_keeps_only (valid : IsPortForward input)
    (keeps : KeepsConfiguration .portForward (portForwardPayload input) rendering.row) :
    rendering.HasOptions := by
  rcases keeps with ⟨form, again, normalized, parsed, _⟩
  have row := @portForward_row _ _ rendering
  have same : form = normalizeRow .portForward rendering.selectedRow := by
    simpa [normalize, row] using normalized
  simp only [parsePayload, parsePortForward, bind_eq_ok, formChoice] at parsed
  rcases parsed with ⟨_, ⟨common, _, _, _, target, _, targetPort, targetPortOk, log, _, association,
    ⟨_, associationOk, _⟩, reflection, ⟨_, reflectionOk, _⟩, _⟩, _⟩
  have present : ∃ port, field form "target_port" = some port := by
    rw [same]
    simp [normalizeRow, updateFields, portForwardEntries, ruleEntries, field_setField, ofString_inj]
  rcases present with ⟨port, present⟩
  rw [withTargetPort_of_field present] at associationOk reflectionOk
  apply portForward_hasOptions valid
  · intro none
    have shownPass : field rendering.selectedRow "pass" = some (.obj []) := by
      rw [rendering.field_selectedRow]
      have stored : field (portForwardFields input) "pass" = some (.str input.filterAssociation) :=
        rfl
      simp [stored, shownField, shown, none, Rendering.selected_optionsJson]
    refine formText_of_object ?_ associationOk
    rw [same]
    simp [normalizeRow, updateFields, portForwardEntries, ruleEntries, field_setField, ofString_inj,
      fieldD, shownPass]
  · intro none
    have shownReflection : field rendering.selectedRow "natreflection" = some (.obj []) := by
      rw [rendering.field_selectedRow]
      have stored : field (portForwardFields input) "natreflection" =
        some (.str input.natreflection) := rfl
      simp [stored, shownField, shown, none, Rendering.selected_optionsJson]
    refine formText_of_object ?_ reflectionOk
    rw [same]
    simp [normalizeRow, updateFields, portForwardEntries, ruleEntries, field_setField, ofString_inj,
      field_copied, copiedNames, shownReflection]

end SavedPortForwards

/-! ### Contents -/

section Contents

variable {content other : Str} {parts : List Str}

omit [Runtime] in
theorem commasToLines_of_not_mem (clean : code ',' ∉ content) : commasToLines content = content := by
  have same : ∀ c ∈ content, (if c = code ',' then code '\n' else c) = c := by
    intro c inside
    apply if_neg
    rintro rfl
    exact clean inside
  exact (List.map_congr_left same).trans (List.map_id' content)

omit [Runtime] in
theorem not_mem_commasToLines : code ',' ∉ commasToLines content := by
  intro inside
  rcases List.mem_map.mp inside with ⟨c, _, same⟩
  by_cases comma : c = code ','
  · rw [if_pos comma] at same
    exact absurd same (by decide)
  · rw [if_neg comma] at same
    exact comma same

omit [Runtime] in
theorem commasToLines_join (clean : ∀ part ∈ parts, code ',' ∉ part) :
    commasToLines (join "," parts) = join [code '\n'] parts := by
  induction parts with
  | nil => rfl
  | cons first rest ih =>
      have head := commasToLines_of_not_mem (clean first (by simp))
      have tail := ih fun part member => clean part (List.mem_cons_of_mem first member)
      cases rest with
      | nil => exact head
      | cons second rest =>
          have spread : commasToLines (join "," (first :: second :: rest)) =
              commasToLines first ++ [code '\n'] ++ commasToLines (join "," (second :: rest)) := by
            have comma : ("," : Str) = [code ','] := rfl
            simp [join, commasToLines, comma]
          rw [spread, head, tail]
          rfl

omit [Runtime] in
theorem join_contentLines : join [code '\n'] (contentLines content) = content := by
  unfold contentLines
  by_cases blank : content.isEmpty = true
  · rw [if_pos blank, List.isEmpty_iff.mp blank]
    rfl
  · rw [if_neg blank, join_splitOn]

omit [Runtime] in
theorem contentLines_inj (same : contentLines content = contentLines other) : content = other := by
  have joined := congrArg (join [code '\n']) same
  rwa [join_contentLines, join_contentLines] at joined

omit [Runtime] in
theorem not_mem_of_mem_contentLines {c : CodePoint} {line : Str} (clean : c ∉ content)
    (member : line ∈ contentLines content) : c ∉ line := by
  unfold contentLines at member
  by_cases blank : content.isEmpty = true
  · rw [if_pos blank] at member
    cases member
  · rw [if_neg blank] at member
    exact fun inside => clean (mem_of_mem_splitOn member inside)

end Contents

/-! ### Aliases -/

section SavedAliases

variable {input : AliasInput}

/-- `payload["alias"]` -/
def aliasFields (input : AliasInput) : List (Str × Json) :=
  [("name", .str input.name),
    ("type", .str input.type),
    ("content", .str input.content),
    ("description", .str input.description),
    ("enabled", flagText input.enabled),
    ("proto", .str input.proto)]

omit [Runtime] in
theorem storedFields_alias : storedFields input.toPayload = aliasFields input := rfl

variable {rendering : Rendering .aliases (aliasFields input)}

theorem alias_row : selected (.obj rendering.row) = .obj rendering.selectedRow := by
  have named : (("name" : Str), Json.str input.name) ∈ aliasFields input := by
    simp [aliasFields]
  exact rendering.selected_row named (by decide)

/-- The content as `selected` returns it -/
theorem alias_content (hasOptions : rendering.HasOptions) :
    ∃ text, field rendering.selectedRow "content" = some (.str text) ∧
      (text = input.content ∨ text = join "," (contentLines input.content)) := by
  have stored : field (aliasFields input) "content" = some (.str input.content) := rfl
  have leaf : (("content" : Str), input.content) ∈ leaves (aliasFields input) :=
    mem_leaves (by simp [aliasFields])
  rw [rendering.field_selectedRow, stored]
  cases options : rendering.options "content" with
  | none =>
      refine ⟨input.content, ?_, .inl rfl⟩
      simp only [Option.map_some, shownField, Rendering.selected_shown_plain options]
  | some choices =>
      have faithful := rendering.faithful "content" input.content choices leaf options
      rw [ShowsText, if_pos rfl] at faithful
      have visible : choices ≠ [] := by
        rintro rfl
        exact hasOptions "content" options
      refine ⟨join "," (contentLines input.content), ?_, .inr rfl⟩
      simp [shownField, shown, options, Rendering.selected_optionsJson, visible, faithful]

theorem alias_selected (hasOptions : rendering.HasOptions) {name text : Str}
    (stored : field (aliasFields input) name = some (.str text))
    (leaf : (name, text) ∈ leaves (aliasFields input)) (other : name ≠ "content") :
    field rendering.selectedRow name = some (.str text) := by
  rw [rendering.field_selectedRow, stored]
  simp only [Option.map_some, shownField, rendering.selected_shown hasOptions leaf other]

/-- What the form shows of a row -/
theorem field_aliasForm {row : List (Str × Json)} {name : Str} :
    field (normalizeRow .aliases row) name =
      (field (enabledEntries row ++ contentEntries row).reverse name).or
        (if name ∈ copiedNames .aliases then field row name else none) := by
  rw [normalizeRow, field_updateFields, field_copied]

theorem field_aliasForm_copied {row : List (Str × Json)} {name : Str}
    (copy : name ∈ copiedNames .aliases) (content : name ≠ "content") (enabled : name ≠ "enabled") :
    field (normalizeRow .aliases row) name = field row name := by
  rw [field_aliasForm, if_pos copy]
  have untouched : field (enabledEntries row ++ contentEntries row).reverse name = none := by
    unfold contentEntries
    split
    · simp [enabledEntries, field_cons, field_nil, content, enabled]
    · simp [enabledEntries, field_cons, field_nil, enabled]
  rw [untouched, Option.none_or]

theorem field_aliasForm_content {row : List (Str × Json)} {text : Str}
    (shownText : field row "content" = some (.str text)) :
    field (normalizeRow .aliases row) "content" = some (.str (commasToLines text)) := by
  rw [field_aliasForm, contentEntries, shownText]
  simp [enabledEntries, field_cons]

omit [Runtime] in
theorem alias_hasOptions (valid : IsAlias input) (proto : rendering.options "proto" ≠ some [])
    (content : rendering.options "content" ≠ some []) : rendering.HasOptions := by
  intro name none
  have select := rendering.selects name [] none
  simp only [selectNames, List.mem_cons, List.not_mem_nil, or_false] at select
  rcases select with rfl | rfl | rfl
  · have blank : input.type = [] :=
      rendering.text_of_no_options (mem_leaves (by simp [aliasFields])) none
    exact ne_nil_of_mem valid.type.2 (by decide) blank
  · exact content none
  · exact proto none

theorem alias_shows (hasOptions : rendering.HasOptions) (clean : code ',' ∉ input.content) :
    ShowsAlias (normalizeRow .aliases rendering.selectedRow) input := by
  have lines : ∀ line ∈ contentLines input.content, code ',' ∉ line :=
    fun line => not_mem_of_mem_contentLines clean
  have content : field (normalizeRow .aliases rendering.selectedRow) "content" =
      some (.str input.content) := by
    rcases alias_content hasOptions with ⟨text, shownText, rfl | rfl⟩
    · rw [field_aliasForm_content shownText, commasToLines_of_not_mem clean]
    · rw [field_aliasForm_content shownText, commasToLines_join lines, join_contentLines]
  have enabled : field (normalizeRow .aliases rendering.selectedRow) "enabled" =
      some (.bool input.enabled) := by
    have stored : field rendering.selectedRow "enabled" = some (flagText input.enabled) := by
      have plain := @Rendering.plain_of_not_select _ _ rendering "enabled" (by decide)
      have found : field (aliasFields input) "enabled" = some (flagText input.enabled) := rfl
      rw [rendering.field_selectedRow, found]
      simp [flagText, shownField, shown, plain, selected]
    rw [field_aliasForm]
    have flagged := @flag_of_flagText _ input.enabled _ _ "1" stored
    unfold contentEntries
    split <;> simp [enabledEntries, field_cons, flagged, ofString_inj]
  exact {
    name := (field_aliasForm_copied (by decide) (by decide) (by decide)).trans
      (alias_selected hasOptions rfl (mem_leaves (by simp [aliasFields])) (by decide))
    type := (field_aliasForm_copied (by decide) (by decide) (by decide)).trans
      (alias_selected hasOptions rfl (mem_leaves (by simp [aliasFields])) (by decide))
    content
    description := (field_aliasForm_copied (by decide) (by decide) (by decide)).trans
      (alias_selected hasOptions rfl (mem_leaves (by simp [aliasFields])) (by decide))
    enabled
    proto := (field_aliasForm_copied (by decide) (by decide) (by decide)).trans
      (alias_selected hasOptions rfl (mem_leaves (by simp [aliasFields])) (by decide)) }

theorem alias_keeps (valid : IsAlias input) (hasOptions : rendering.HasOptions)
    (clean : code ',' ∉ input.content) :
    KeepsConfiguration .aliases input.toPayload rendering.row := by
  have parsed := parseAlias_of_shows valid (alias_shows hasOptions clean)
  refine ⟨normalizeRow .aliases rendering.selectedRow, input.toPayload, ?_, ?_,
    sameConfiguration_refl⟩
  · simp [normalize, alias_row, pure, Except.pure]
  · simp [parsePayload, parsed, bind, Except.bind, pure, Except.pure]

theorem alias_keeps_only (valid : IsAlias input)
    (keeps : KeepsConfiguration .aliases input.toPayload rendering.row) :
    rendering.HasOptions ∧ code ',' ∉ input.content := by
  rcases keeps with ⟨form, again, normalized, parsed, same⟩
  have shape : form = normalizeRow .aliases rendering.selectedRow := by
    simpa [normalize, alias_row] using normalized
  simp only [parsePayload, bind_eq_ok, pure_eq_ok] at parsed
  rcases parsed with ⟨saved, parsed, rfl⟩
  simp only [parseAlias, bind_eq_ok, pure_eq_ok] at parsed
  rcases parsed with ⟨name, _, _, _, type, _, content, contentOk, description, _, enabled, _, proto,
    protoOk, rfl⟩
  rw [shape] at contentOk protoOk
  have hasOptions : rendering.HasOptions := by
    apply alias_hasOptions valid
    · intro none
      refine formText_of_object ?_ protoOk
      have stored : field (aliasFields input) "proto" = some (.str input.proto) := rfl
      rw [field_aliasForm_copied (by decide) (by decide) (by decide), rendering.field_selectedRow,
        stored]
      simp [shownField, shown, none, Rendering.selected_optionsJson]
    · intro none
      refine formText_of_object ?_ contentOk
      have stored : field (aliasFields input) "content" = some (.str input.content) := rfl
      have blank : field rendering.selectedRow "content" = some (.obj []) := by
        rw [rendering.field_selectedRow, stored]
        simp [shownField, shown, none, Rendering.selected_optionsJson]
      rw [field_aliasForm, contentEntries, blank]
      simp [enabledEntries, field_cons, field_nil, ofString_inj, copiedNames]
  refine ⟨hasOptions, ?_⟩
  rcases alias_content hasOptions with ⟨text, shownText, _⟩
  rcases formText_eq_ok.mp contentOk with ⟨written, found, _, _, _, rfl⟩
  rw [fieldD, field_aliasForm_content shownText] at found
  cases found
  have stored := same "content"
  rw [if_pos rfl] at stored
  have entries : contentLines input.content = contentLines (strip (commasToLines text)) :=
    Option.some.inj stored
  rw [contentLines_inj entries]
  exact fun comma => not_mem_commasToLines (strip_within.subset comma)

end SavedAliases

/-! ### All resources -/

/-- Saving an unchanged object keeps its configuration exactly if the firewall returns no select
field without options, and, for an alias, no entry of its content has a comma. -/
theorem edit_keeps_iff (ascii : LowersAscii) {resource : Resource} {data payload : Json}
    (accepted : parsePayload resource data = .ok payload)
    (rendering : Rendering resource (storedFields payload)) :
    KeepsConfiguration resource payload rendering.row ↔
      rendering.HasOptions ∧ (resource = .aliases → ∀ content,
        field (storedFields payload) "content" = some (.str content) → code ',' ∉ content) := by
  cases data with
  | obj data =>
      cases resource with
      | portForward =>
          simp only [parsePayload, bind_eq_ok, pure_eq_ok] at accepted
          rcases accepted with ⟨input, parsed, rfl⟩
          have valid := isPortForward_of_parsePortForward parsed
          revert rendering
          rw [storedFields_portForward ascii valid]
          intro rendering
          constructor
          · intro keeps
            exact ⟨portForward_keeps_only valid keeps, by simp⟩
          · rintro ⟨hasOptions, _⟩
            exact portForward_keeps ascii valid hasOptions
      | rules =>
          simp only [parsePayload, bind_eq_ok, pure_eq_ok] at accepted
          rcases accepted with ⟨rule, parsed, rfl⟩
          have valid := isRule_of_parseRule parsed
          revert rendering
          rw [storedFields_rule]
          intro rendering
          constructor
          · intro _
            exact ⟨rule_hasOptions valid rendering, by simp⟩
          · intro _
            exact rule_keeps ascii valid rendering
      | aliases =>
          simp only [parsePayload, bind_eq_ok, pure_eq_ok] at accepted
          rcases accepted with ⟨input, parsed, rfl⟩
          have valid := isAlias_of_parseAlias parsed
          revert rendering
          rw [storedFields_alias]
          intro rendering
          constructor
          · intro keeps
            rcases alias_keeps_only valid keeps with ⟨hasOptions, clean⟩
            refine ⟨hasOptions, ?_⟩
            rintro _ content stored
            cases stored
            exact clean
          · rintro ⟨hasOptions, clean⟩
            exact alias_keeps valid hasOptions (clean rfl input.content rfl)
  | _ => cases accepted

end FirewallForm

/-! ## A rule that is kept and an alias that is not -/

namespace EditDemo

open FirewallForm

def ruleData : Json := .obj [("interface", .str "wan"), ("destination_port", .str "443")]

def ruleForm : RuleForm where
  input := { interface := "wan", action := "pass", direction := "in", ipprotocol := "inet",
             protocol := "any", sourceNet := "any", sourcePort := [], destinationNet := "any",
             destinationPort := "443", description := [], enabled := false, sequence := 1 }
  log := false
  quick := true

theorem rule_accepted : @parsePayload Runtime.ascii .rules ruleData = .ok ruleForm.payload := by
  rfl

def aliasInput : AliasInput where
  name := "Lists"
  type := "urltable"
  content := "https://example.com/list?ids=1,2"
  description := []
  enabled := true
  proto := []

def aliasForm : List (Str × Json) :=
  [("name", .str "Lists"), ("type", .str "urltable"),
    ("content", .str "https://example.com/list?ids=1,2")]

def aliasData : Json := .obj aliasForm

theorem alias_accepted :
    @parsePayload Runtime.ascii .aliases aliasData = .ok aliasInput.toPayload := by
  rfl

/-- The interface of the rule among the interfaces of the firewall -/
def interfaceChoices : List Choice := [⟨"lan", "LAN", false, false⟩, ⟨"wan", "WAN", true, false⟩]

def ruleRendering : Rendering .rules (storedFields ruleForm.payload) where
  options name := if name = "interface" then some interfaceChoices else none
  selects := by
    intro name choices found
    by_cases interface : name = "interface"
    · rw [interface]
      decide
    · simp [interface] at found
  faithful := by
    intro name text choices leaf found
    by_cases interface : name = "interface"
    · subst interface
      cases found
      have stored : ∀ leaf ∈ leaves (storedFields ruleForm.payload),
          leaf.1 = "interface" → leaf.2 = "wan" := by
        decide +kernel
      have wan : text = "wan" := stored _ leaf rfl
      rw [wan, ShowsText, if_neg (by decide)]
      decide
    · simp [interface] at found

theorem rule_kept : @KeepsConfiguration Runtime.ascii .rules ruleForm.payload ruleRendering.row := by
  refine (@edit_keeps_iff Runtime.ascii lowersAscii .rules ruleData _ rule_accepted
    ruleRendering).mpr ⟨?_, by simp⟩
  intro name none
  by_cases interface : name = "interface"
  · simp [ruleRendering, interface, interfaceChoices] at none
  · simp [ruleRendering, interface] at none

/-- Every field of the alias as a text -/
def aliasRendering : Rendering .aliases (storedFields aliasInput.toPayload) where
  options _ := none
  selects := by simp
  faithful := by simp

theorem alias_changed : @parsePayload Runtime.ascii .aliases aliasData = .ok aliasInput.toPayload ∧
    aliasRendering.row = storedFields aliasInput.toPayload ∧
    ¬ @KeepsConfiguration Runtime.ascii .aliases aliasInput.toPayload aliasRendering.row := by
  refine ⟨alias_accepted, rfl, ?_⟩
  intro keeps
  have parsed : parseAlias aliasForm = .ok aliasInput := rfl
  have valid : IsAlias aliasInput := isAlias_of_parseAlias parsed
  have clean := (@alias_keeps_only Runtime.ascii aliasInput aliasRendering valid keeps).2
  exact absurd clean (by decide +kernel)

end EditDemo

end OpnsensePlugin
